import Scaffold.Proofs.Files.Below
import Scaffold.Proofs.Files.Make

set_option autoImplicit false

/-!
# One name below a directory

Where a path leads to a directory, what an operation does at the path of one more name depends on
two things: whether such a path is refused for what it is written like, and what stands at the name
in the directory. Each operation is given here as a function of the two.
-/
namespace Scaffold.Files

variable {fs fs' : Files} {p source : Path} {P : Place} {n : String} {e : Entry}

/-- Why a path of one more name is refused, whatever stands there. -/
def refusal (p : Path) (n : String) : Option Fault :=
  if '\x00' ∈ (p.child n).text.toList then some .zeroCharacter
  else if pathLimit < (p.child n).text.utf8ByteSize ∨ nameLimit < n.utf8ByteSize then
    some .nameTooLong
  else none

theorem refusal_eq_none : refusal p n = none ↔ TakesChild p n := by
  unfold refusal TakesChild Takes
  split
  · rename_i hzero
    exact iff_of_false (by simp) fun h => h.1.1 hzero
  · rename_i hzero
    split
    · rename_i hlong
      refine iff_of_false (by simp) fun h => ?_
      have := h.1.2
      have := h.2
      omega
    · rename_i hshort
      exact iff_of_true rfl ⟨⟨hzero, by omega⟩, by omega⟩

section
variable (h : fs.stat p = .ok (P, .directory)) (hup : n ≠ "..")
  (hlink : ∀ target, fs.get? (P ++ [n]) ≠ some (.link target))
include h hup hlink

theorem locate_child_eq (follow : Bool) :
    fs.locate follow (p.child n) = (refusal p n).elim (fs.landing (P ++ [n])) .fault := by
  cases hrefusal : refusal p n with
  | none => exact locate_child h hup hlink (refusal_eq_none.1 hrefusal) follow
  | some f =>
    unfold refusal at hrefusal
    by_cases hzero : '\x00' ∈ (p.child n).text.toList
    · rw [if_pos hzero] at hrefusal
      cases hrefusal
      unfold locate
      rw [if_pos (by simpa using hzero)]
      rfl
    · rw [if_neg hzero] at hrefusal
      split at hrefusal
      · cases hrefusal
        have htakes : ¬ TakesChild p n := fun ht => by
          have := ht.1.2
          have := ht.2
          omega
        obtain ⟨f, hkind, hl⟩ := locate_child_of_not_takes h hup hlink htakes
        rcases hkind with ⟨-, hmem⟩ | rfl
        · exact absurd hmem hzero
        · exact hl follow
      · cases hrefusal

theorem stat_child_eq :
    fs.stat (p.child n) = (refusal p n).elim
      (match fs.get? (P ++ [n]) with
        | none => .error .notFound
        | some e => .ok (P ++ [n], e)) .error := by
  rw [stat, locate_child_eq h hup hlink, landing]
  cases refusal p n with
  | some f => rfl
  | none => cases fs.get? (P ++ [n]) <;> rfl

theorem isDirectory?_child_eq :
    fs.isDirectory? (p.child n) = (refusal p n).elim
      (.ok (decide (fs.get? (P ++ [n]) = some .directory)))
      fun f => if f.isAbsence then .ok false else .error f := by
  rw [isDirectory?, stat_child_eq h hup hlink]
  cases refusal p n with
  | some f => rfl
  | none =>
    cases fs.get? (P ++ [n]) with
    | none => rfl
    | some e => cases e <;> simp [asks]

theorem makeDirectory_child_eq :
    makeDirectory (p.child n) fs = (refusal p n).elim
      (match fs.get? (P ++ [n]) with
        | none => (.ok (), fs.set (P ++ [n]) .directory)
        | some _ => (.error .exists, fs)) fun f => (.error f, fs) := by
  rw [makeDirectory, locate_child_eq h hup hlink, landing]
  cases refusal p n with
  | some f => rfl
  | none => cases fs.get? (P ++ [n]) <;> rfl

theorem ensureDirectory_child_eq :
    ensureDirectory (p.child n) fs = (refusal p n).elim
      (match fs.get? (P ++ [n]) with
        | none => (.ok (), fs.set (P ++ [n]) .directory)
        | some .directory => (.ok (), fs)
        | some _ => (.error .exists, fs)) fun f => (.error f, fs) := by
  have heta : (⟨(p.child n).anchor, (p.child n).names⟩ : Path) = p.child n := rfl
  have hmake := makeDirectory_child_eq h hup hlink
  have hkind := isDirectory?_child_eq h hup hlink
  rw [ensureDirectory, makeNames, heta, hmake]
  cases hrefusal : refusal p n with
  | some f =>
    rw [hrefusal] at hkind
    unfold refusal at hrefusal
    split at hrefusal
    · cases hrefusal
      simp [settle]
    · split at hrefusal
      · cases hrefusal
        simp [settle, hkind, Fault.isAbsence]
      · cases hrefusal
  | none =>
    rw [hrefusal] at hkind
    cases he : fs.get? (P ++ [n]) with
    | none => rfl
    | some e => cases e <;> simp [settle, hkind, he]

theorem write_child_eq (content : ByteArray) :
    write (p.child n) content fs = (refusal p n).elim
      (if fs.get? (P ++ [n]) = some .directory then (.error .isDirectory, fs)
        else (.ok (), fs.set (P ++ [n]) (.file content))) fun f => (.error f, fs) := by
  rw [write, locate_child_eq h hup hlink, landing]
  cases refusal p n with
  | some f => rfl
  | none =>
    cases fs.get? (P ++ [n]) with
    | none => rfl
    | some e => cases e <;> simp

theorem refusal_of_write {content : ByteArray}
    (hwrite : write (p.child n) content fs = (.ok (), fs')) : refusal p n = none := by
  rw [write_child_eq h hup hlink] at hwrite
  cases hrefusal : refusal p n with
  | none => rfl
  | some f =>
    rw [hrefusal] at hwrite
    cases hwrite

end

/-! ### Names and copies -/

theorem names_congr {P' : Place} (hfs : fs.WellFormed) (hfs' : fs'.WellFormed)
    (h : ∀ n, (∃ e, fs'.get? (P' ++ [n]) = some e) ↔ ∃ e, fs.get? (P ++ [n]) = some e) :
    fs'.names P' = fs.names P :=
  eq_of_rising (names_rising hfs' P') (names_rising hfs P) fun n => by
    rw [mem_names, mem_names, h]

/-- What is copied is written, unless source and target are one file. -/
theorem copy_of_read {content : ByteArray} (hread : fs.read source = .ok content)
    (hapart : ∀ a b e e', fs.stat source = .ok (a, e) → fs.stat p = .ok (b, e') → a ≠ b) :
    copy source p fs = write p content fs := by
  unfold copy
  cases hs : fs.stat source with
  | error f =>
    unfold read at hread
    rw [hs] at hread
    cases hread
  | ok found =>
    cases ht : fs.stat p with
    | error f => simp [hread]
    | ok there => simp [hread, hapart _ _ _ _ hs ht]

end Scaffold.Files
