import Scaffold.Proofs.Walk.Overlay

set_option autoImplicit false

/-!
# Where a walk stops

A walk that fails at an entry leaves the files as the visits before it left them: the entry itself
leaves no trace, and nothing after it is done. The one exception is a directory that is made and
then cannot be listed.
-/
namespace Scaffold.Walk
open Files

variable {fs fs₁ fs' : Files} {source dest : Path} {S D : Place} {w : Walk} {r : Report}
  {f : Failure}

theorem entries_error {α : Type} {step : α → Report → Step Report} {xs : List α}
    (h : entries step xs r fs = (.error f, fs')) :
    ∃ front x back r₂ fs₂, xs = front ++ x :: back ∧ entries step front r fs = (.ok r₂, fs₂) ∧
      step x r₂ fs₂ = (.error f, fs') := by
  induction xs generalizing r fs with
  | nil => cases h
  | cons x xs ih =>
    rw [entries] at h
    rcases hx : step x r fs with ⟨f' | r₂, fs₂⟩ <;> rw [hx] at h
    · cases h
      exact ⟨[], x, xs, r, fs, rfl, rfl, hx⟩
    · obtain ⟨front, y, back, r₃, fs₃, rfl, hfront, hy⟩ := ih h
      refine ⟨x :: front, y, back, r₃, fs₃, rfl, ?_, hy⟩
      rw [entries, hx]
      exact hfront

theorem visit_missing {v : List String × Bool} {r' : Report}
    (h : w.visit source dest v r fs = (.ok r', fs')) : r'.missing = r.missing := by
  simp only [visit, entry] at h
  split at h
  · split at h
    · split at h
      · cases h
      · rename_i fs₂ hmake
        unfold peek at h
        cases hlist : listEntries fs₂ ((source.under v.1.dropLast).child (v.1.getLast?.getD "")) with
        | error g =>
          rw [hlist] at h
          cases h
        | ok es =>
          rw [hlist] at h
          cases h
          rfl
    · cases h
      rfl
  · split at h
    · split at h
      · cases h
      · cases h
        unfold Report.addFile
        split <;> rfl
    · cases h
      rfl

theorem entries_missing {vs : List (List String × Bool)} {r' : Report}
    (h : entries (w.visit source dest) vs r fs = (.ok r', fs')) : r'.missing = r.missing := by
  induction vs generalizing r fs with
  | nil =>
    cases h
    rfl
  | cons v vs ih =>
    rw [entries] at h
    rcases hv : w.visit source dest v r fs with ⟨g | r₂, fs₂⟩ <;> rw [hv] at h
    · cases h
    · exact (ih h).trans (visit_missing hv)

/-- What a file came out as at some moment of the walk. -/
def Yielded (w : Walk) (source : Path) (D : Place) (fs₁ : Files) (rel : List String)
    (c : ByteArray) : Prop :=
  ∃ fs, Grown D fs₁ fs ∧ w.Yields fs (source.under rel) c

/-- The files are as the visits before an entry left them, and at the entry the walk fails. -/
structure StoppedAt (w : Walk) (source dest : Path) (D : Place) (fs₁ fs' : Files) (f : Failure)
    (front : List (List String × Bool)) (e : List String × Bool) : Prop where
  before : ∃ r, entries (w.visit source dest) front {} fs₁ = (.ok r, fs') ∧
    w.visit source dest e r fs' = (.error f, fs')
  overlay : Overlay w (w.Yielded source D fs₁) dest D fs₁ front fs'

/-- The files are as the visits up to an entry left them, which is a directory that then cannot be
listed. -/
structure UnlistedAt (w : Walk) (source dest : Path) (D : Place) (fs₁ fs' : Files) (f : Failure)
    (front : List (List String × Bool)) (e : List String × Bool) : Prop where
  before : ∃ r fs₂, entries (w.visit source dest) front {} fs₁ = (.ok r, fs₂) ∧
    w.visit source dest e r fs₂ = (.error f, fs')
  unlisted : listEntries fs' (source.under e.1) = .error f
  overlay : Overlay w (w.Yielded source D fs₁) dest D fs₁ (front ++ [e]) fs'

theorem stopped_of_walked (hw : w.RenamesPlainly) (h : Ready fs₁ source dest S D)
    (hrun : entries (w.visit source dest) (w.visits fs₁ S) {} fs₁ = (.error f, fs')) :
    ∃ front e back, w.visits fs₁ S = front ++ e :: back ∧
      (w.StoppedAt source dest D fs₁ fs' f front e ∨
        w.UnlistedAt source dest D fs₁ fs' f front e) := by
  obtain ⟨front, e, back, r, fs₂, hvisits, hfront, he⟩ := entries_error hrun
  have hyielded : ∀ v : List String × Bool, ∀ fs c, Grown D fs₁ fs →
      w.Yields fs (source.under v.1) c → w.Yielded source D fs₁ v.1 c :=
    fun v fs c hg hyields => ⟨fs, hg, hyields⟩
  have hbefore : Overlay w (w.Yielded source D fs₁) dest D fs₁ front fs₂ :=
    Overlay.entries hw h.toStands source (.nil h.wellFormed) hvisits (fun v _ => hyielded v) hfront
  refine ⟨front, e, back, hvisits, ?_⟩
  rcases hbefore.visit hw h.toStands source hvisits (hyielded e) r with
    ⟨g, hvisit⟩ | ⟨g, fs₃, hvisit, hlist, hafter⟩ | ⟨r', fs₃, hvisit, -⟩
  · have hsame := hvisit
    rw [he] at hsame
    cases hsame
    exact .inl ⟨⟨r, hfront, hvisit⟩, hbefore⟩
  · have hsame := hvisit
    rw [he] at hsame
    cases hsame
    exact .inr ⟨⟨r, fs₂, hfront, hvisit⟩, hlist, hafter⟩
  · rw [he] at hvisit
    cases hvisit

/-- How a walk can fail: its destination cannot be made, its source cannot be listed, or it stops at
an entry of the source. -/
def Stops (w : Walk) (source dest : Path) (S : Place) (fs fs' : Files) (f : Failure) : Prop :=
  (∃ g, ensureDirectory dest fs = (.error g, fs')) ∨
  ∃ fs₁ D, ensureDirectory dest fs = (.ok (), fs₁) ∧ fs₁.stat dest = .ok (D, .directory) ∧
    (listEntries fs₁ source = .error f ∧ fs' = fs₁ ∨
    ∃ front e back, w.visits fs S = front ++ e :: back ∧
      (w.StoppedAt source dest D fs₁ fs' f front e ∨ w.UnlistedAt source dest D fs₁ fs' f front e))

def blockedFiles : Files where
  entries := sampleFiles.entries ++ [(["d", "src"], .directory), (["d", "src", "b.txt"], .directory)]

theorem blockedFiles_wellFormed : blockedFiles.WellFormed := by
  refine wellFormed_of_sound (by decide) ?_ (by decide)
  unfold Sound
  simp [blockedFiles, sampleFiles]
  decide

theorem blockedFiles_linkFree (place : Place) : blockedFiles.LinkFree place :=
  linkFree_of_entries (by simp [blockedFiles, sampleFiles]) place

def blockedSession : Session := ⟨blockedFiles, { width := 80 }⟩

end Scaffold.Walk
