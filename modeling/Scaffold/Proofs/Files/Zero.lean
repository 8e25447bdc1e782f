import Scaffold.Proofs.Files.Make

set_option autoImplicit false

/-!
# Paths with a zero character

A path with a zero character in it is refused as no path at all, and nothing else is refused so.
-/
namespace Scaffold.Files

variable {fs fs' : Files} {p source target : Path} {f : Fault}

/-- The path is none that files can have. -/
def Broken (p : Path) : Prop := '\x00' ∈ p.text.toList

instance (p : Path) : Decidable (Broken p) := inferInstanceAs (Decidable ('\x00' ∈ p.text.toList))

theorem advance_ne_zero (fs : Files) (follow : Bool) {onLink : Place → String → List String → Located}
    (h : ∀ at_ target rest, onLink at_ target rest ≠ .fault .zeroCharacter) (at_ : Place)
    (names : List String) : fs.advance follow onLink at_ names ≠ .fault .zeroCharacter := by
  induction names generalizing at_ with
  | nil => simp [advance]
  | cons n rest ih =>
    rw [advance]
    split
    · exact ih _
    · split
      · simp
      · dsimp only
        split
        · split <;> simp
        · exact ih _
        · split <;> simp
        · split
          · simp
          · exact h _ _ _

theorem walkNames_ne_zero (fs : Files) (follow : Bool) (links : Nat) (at_ : Place)
    (names : List String) : fs.walkNames follow links at_ names ≠ .fault .zeroCharacter := by
  induction links generalizing at_ names with
  | zero => exact advance_ne_zero fs follow (fun _ _ _ => by simp) at_ names
  | succ links ih =>
    refine advance_ne_zero fs follow (fun at_ target rest => ?_) at_ names
    dsimp only
    split
    · simp
    · exact ih _ _

theorem locate_broken_iff (fs : Files) (follow : Bool) (p : Path) :
    fs.locate follow p = .fault .zeroCharacter ↔ Broken p := by
  constructor
  · intro h
    by_contra hbroken
    unfold locate at h
    rw [if_neg (by simpa [Broken] using hbroken)] at h
    split at h
    · cases h
    · exact walkNames_ne_zero _ _ _ _ _ h
  · intro h
    unfold locate
    rw [if_pos (by simpa [Broken] using h)]

theorem stat_broken_iff (fs : Files) : fs.stat p = .error .zeroCharacter ↔ Broken p := by
  rw [← locate_broken_iff fs true, stat]
  cases fs.locate true p <;> simp

theorem not_broken_of_stat {found : Place × Entry} (h : fs.stat p = .ok found) : ¬ Broken p := by
  rw [← stat_broken_iff fs, h]
  simp

theorem not_broken_of_exists (h : fs.exists? p = .ok true) : ¬ Broken p := by
  cases hs : fs.stat p with
  | ok found => exact not_broken_of_stat hs
  | error f =>
    rw [← stat_broken_iff fs, hs]
    rintro ⟨⟩
    rw [exists?, hs] at h
    cases h

theorem asks_ne_zero {q : Entry → Bool} (r : Except Fault (Place × Entry)) :
    asks q r ≠ .error .zeroCharacter := by
  unfold asks
  split
  · simp
  · split
    · simp
    · rename_i f hf
      intro h
      cases h
      exact hf rfl

theorem read_broken_iff : fs.read p = .error .zeroCharacter ↔ Broken p := by
  rw [← stat_broken_iff fs, read]
  split <;> rename_i h <;> simp [h]

theorem write_broken_iff (content : ByteArray) :
    (write p content fs).1 = .error .zeroCharacter ↔ Broken p := by
  rw [← locate_broken_iff fs true, write]
  split <;> rename_i h <;> simp [h]

theorem makeDirectory_broken_iff (fs : Files) :
    (makeDirectory p fs).1 = .error .zeroCharacter ↔ Broken p := by
  rw [← locate_broken_iff fs false, makeDirectory]
  split <;> rename_i h <;> simp [h]

theorem settle_zero {existOk : Bool} (h : settle p existOk f fs = .error .zeroCharacter) :
    f = .zeroCharacter := by
  unfold settle at h
  split at h
  · split at h
    · cases h
    · cases h
      rfl
    · rename_i g hg
      cases h
      exact absurd hg (asks_ne_zero _)
  · cases h
    rfl

theorem broken_of_settle {existOk : Bool} (hmake : makeDirectory p fs = (.error f, fs'))
    (h : settle p existOk f fs' = .error .zeroCharacter) : Broken p := by
  rw [← makeDirectory_broken_iff fs, hmake, settle_zero h]

theorem Broken.below {anchor : Anchor} {above : List String} (h : Broken ⟨anchor, above⟩)
    (n : String) : Broken ⟨anchor, above ++ [n]⟩ := by
  rcases Path.of_mem_text h with hc | hc | ⟨m, hm, hc⟩
  · cases hc
  · cases hc
  · exact Path.mem_text (List.mem_append_left _ hm) hc

theorem not_broken_child {n : String} (hp : ¬ Broken p) (hn : '\x00' ∉ n.toList) :
    ¬ Broken (p.child n) := by
  intro h
  rcases Path.of_mem_text h with hc | hc | ⟨m, hm, hc⟩
  · cases hc
  · cases hc
  · rcases List.mem_append.1 hm with hm | hm
    · exact hp (Path.mem_text hm hc)
    · exact hn (List.mem_singleton.1 hm ▸ hc)

theorem makeNames_broken {anchor : Anchor} {names : List String} {existOk : Bool}
    (h : (makeNames anchor existOk names fs).1 = .error .zeroCharacter) : Broken ⟨anchor, names⟩ := by
  induction names using List.reverseRecOn generalizing existOk fs with
  | nil =>
    rw [makeNames] at h
    split at h
    · cases h
    · cases h
    · rename_i hmake
      exact broken_of_settle hmake h
  | append_singleton above n ih =>
    rw [makeNames] at h
    split at h
    · cases h
    · rw [dif_neg (by simp), List.dropLast_concat] at h
      split at h
      · rename_i hup
        cases h
        exact (ih (by rw [hup])).below n
      · split at h <;> rename_i hagain
        · cases h
        · cases h
        · exact broken_of_settle hagain h
    · rename_i hmake
      exact broken_of_settle hmake h

theorem ensureDirectory_broken_iff (fs : Files) :
    (ensureDirectory p fs).1 = .error .zeroCharacter ↔ Broken p := by
  constructor
  · exact makeNames_broken
  · intro h
    have hmake := (makeDirectory_broken_iff fs).2 h
    rw [ensureDirectory, makeNames]
    have heta : (⟨p.anchor, p.names⟩ : Path) = p := rfl
    rw [heta]
    rcases hdone : makeDirectory p fs with ⟨_ | _, fs'⟩ <;> rw [hdone] at hmake <;> cases hmake
    simp [settle]

theorem copy_broken_iff (hsource : ¬ Broken source) :
    (copy source target fs).1 = .error .zeroCharacter ↔
      Broken target ∧ ∃ content, fs.read source = .ok content := by
  generalize hr : copy source target fs = r
  unfold copy at hr
  rcases ite_eq_iff.1 hr with ⟨hsame, rfl⟩ | ⟨-, hr⟩
  · refine iff_of_false (by simp) fun h => ?_
    rw [(stat_broken_iff fs).2 h.1] at hsame
    cases hs : fs.stat source <;> rw [hs] at hsame <;> cases hsame
  · cases hread : fs.read source with
    | error f =>
      rw [hread] at hr
      subst hr
      refine iff_of_false (fun h => hsource ?_) (by simp)
      cases h
      exact read_broken_iff.1 hread
    | ok content =>
      rw [hread] at hr
      subst hr
      simpa using write_broken_iff content

end Scaffold.Files
