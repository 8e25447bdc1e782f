import Scaffold.Text.Naming

set_option autoImplicit false

/-!
# Letters that names are made of

Lower-case letters and digits of ASCII, hyphens, underscores and blanks are their own lower case
wherever they stand; the title case of a lower-case letter is the capital, whose lower case it is.
-/
namespace Scaffold.Text

variable {c : Char} {cs : List Char}

/-! ### Classes of few characters -/

def Ranges.codes (r : Ranges) : List Nat := r.flatMap fun p => List.range' p.1 (p.2 + 1 - p.1)

theorem Ranges.forall_of_codes {P : Char → Prop} {r : Ranges} (h : ∀ n ∈ r.codes, P (Char.ofNat n))
    (hc : r.has c = true) : P c := by
  obtain ⟨p, hp, hfirst, hlast⟩ := (r.has_iff c).1 hc
  have hcode : c.toNat ∈ r.codes :=
    List.mem_flatMap.2 ⟨p, hp, List.mem_range'_1.2 ⟨hfirst, by omega⟩⟩
  simpa using h c.toNat hcode

theorem isLowerAscii_iff : isLowerAscii c = Ranges.has [(97, 122)] c := by
  simp [isLowerAscii, Ranges.has, Char.le_def, UInt32.le_iff_toNat_le]

theorem isUpperAscii_iff : isUpperAscii c = Ranges.has [(65, 90)] c := by
  simp [isUpperAscii, Ranges.has, Char.le_def, UInt32.le_iff_toNat_le]

theorem isPackageChar_iff : isPackageChar c = Ranges.has [(97, 122), (48, 57)] c := by
  simp [isPackageChar, isLowerAscii, isDigitAscii, Ranges.has, Char.le_def,
    UInt32.le_iff_toNat_le]

theorem forall_isPackageChar {P : Char → Prop}
    (h : ∀ n ∈ Ranges.codes [(97, 122), (48, 57)], P (Char.ofNat n)) (hc : isPackageChar c = true) :
    P c :=
  Ranges.forall_of_codes h (isPackageChar_iff ▸ hc)

/-! ### Lower case -/

/-- The character is its own lower case, whatever stands around it. -/
def Stays (c : Char) : Prop := c ≠ 'Σ' ∧ lowerLetter c = [c]

instance (c : Char) : Decidable (Stays c) := inferInstanceAs (Decidable (_ ∧ _))

theorem stays_of_isBlank (h : isBlank c = true) : Stays c :=
  Ranges.forall_of_codes (r := blankRanges) (by decide +kernel) h

theorem stays_of_isPackageChar (h : isPackageChar c = true) : Stays c :=
  forall_isPackageChar (by decide +kernel) h

theorem lowerAfter_of_no_sigma (before : List Char) (h : ∀ c ∈ cs, c ≠ 'Σ') :
    lowerAfter before cs = cs.flatMap lowerLetter := by
  induction cs generalizing before with
  | nil => rfl
  | cons c cs ih =>
    obtain ⟨hc, hcs⟩ := List.forall_mem_cons.1 h
    rw [lowerAfter, if_neg hc, ih _ hcs]
    rfl

theorem flatMap_of_stays (h : ∀ c ∈ cs, Stays c) : cs.flatMap lowerLetter = cs := by
  induction cs with
  | nil => rfl
  | cons c cs ih =>
    obtain ⟨hc, hcs⟩ := List.forall_mem_cons.1 h
    rw [List.flatMap_cons, hc.2, ih hcs]
    rfl

theorem lowerAfter_of_stays (before : List Char) (h : ∀ c ∈ cs, Stays c) :
    lowerAfter before cs = cs := by
  rw [lowerAfter_of_no_sigma before fun c hc => (h c hc).1, flatMap_of_stays h]

theorem lower_of_stays (h : ∀ c ∈ cs, Stays c) : lower cs = cs := lowerAfter_of_stays [] h

/-! ### Capitals -/

/-- The capital of a lower-case letter leads back to it. -/
structure Raised (c C : Char) : Prop where
  capital : isUpperAscii C = true
  title : titleLetter c = [C]
  lower : lowerLetter C = [c]
  sigma : C ≠ 'Σ'

instance (c C : Char) : Decidable (Raised c C) :=
  decidable_of_iff (isUpperAscii C = true ∧ titleLetter c = [C] ∧ lowerLetter C = [c] ∧ C ≠ 'Σ')
    ⟨fun h => ⟨h.1, h.2.1, h.2.2.1, h.2.2.2⟩, fun h => ⟨h.capital, h.title, h.lower, h.sigma⟩⟩

theorem raised_toUpper (h : isLowerAscii c = true) : Raised c c.toUpper :=
  Ranges.forall_of_codes (P := fun c => Raised c c.toUpper) (by decide +kernel)
    (isLowerAscii_iff ▸ h)

end Scaffold.Text
