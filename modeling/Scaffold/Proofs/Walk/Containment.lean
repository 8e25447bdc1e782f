import Scaffold.Proofs.Walk.Step

set_option autoImplicit false

/-!
# A walk stays below its destination

Every change is one that some path below the destination leads to, and a walk that does not fail
reports all of them. Links in the destination and on the way to it are allowed: what is said then
is said of the paths. Source and destination need not be apart.
-/
namespace Scaffold

def Report.made (r : Report) : List Path := r.directories ++ r.written

namespace Files

variable {fs fs' : Files} {p q : Path} {P : Place} {n : String}

/-- The files changed where a path leads, if at all. -/
structure Touches (q : Path) (fs fs' : Files) : Prop where
  wellFormed : fs'.WellFormed
  later : fs.Extends fs'
  links : ∀ {place : Place} {target : String},
    fs'.get? place = some (.link target) → fs.get? place = some (.link target)
  change : ∀ place, fs'.get? place = fs.get? place ∨ ∃ e, fs'.stat q = .ok (place, e)

theorem Puts.touches {c : ByteArray} (h : Puts P n (.file c) fs fs')
    (hq : fs'.stat q = .ok (P ++ [n], .file c)) : Touches q fs fs' := by
  refine ⟨h.wellFormed, h.later, fun {place target} hlink => ?_, fun place => ?_⟩
  · rw [h.get?] at hlink
    split at hlink
    · cases hlink
    · exact hlink
  · by_cases hplace : place = P ++ [n]
    · exact .inr ⟨.file c, hplace ▸ hq⟩
    · exact .inl (by rw [h.get?, if_neg hplace])

theorem Made.touches (h : Made (p.child n) fs fs') (hfs : fs.WellFormed)
    (hp : fs.stat p = .ok (P, .directory)) : Touches (p.child n) fs fs' := by
  refine ⟨h.wellFormed, h.later, fun {place target} hlink => ?_, fun place => ?_⟩
  · rcases h.change place with hsame | ⟨-, hdir, -⟩
    · rwa [← hsame]
    · rw [hlink] at hdir
      cases hdir
  · rcases h.change place with hsame | ⟨hnone, -, names, hup, hstat⟩
    · exact .inl hsame
    rcases List.prefix_concat_iff.1 hup with rfl | hup
    · exact .inr ⟨_, hstat⟩
    -- The path of fewer names led somewhere before, so it cannot have been made.
    obtain ⟨rest, hrest⟩ := hup
    obtain ⟨htakes, hleads⟩ := stat_directory_iff.1 hstat
    obtain ⟨Q, fewer, hfront, -⟩ := (stat_directory_iff.1 hp).2.split hrest.symm (by simp)
    have hbefore : fs.stat ⟨p.anchor, names⟩ = .ok (Q, .directory) :=
      stat_directory_iff.2 ⟨htakes, hfront⟩
    have hQ := isDirectory_of_stat hfs hbefore
    have hafter := stat_directory_extends hbefore h.later
    have hsame : place = Q := by
      have := hstat.symm.trans hafter
      cases this
      rfl
    rw [← hsame, hnone] at hQ
    cases hQ

/-- The place is one that names below the path lead to. -/
def LeadsBelow (fs : Files) (p : Path) (place : Place) : Prop :=
  ∃ rel, rel ≠ [] ∧ (∀ n ∈ rel, Path.IsPlain n) ∧ ∃ e, fs.stat (p.under rel) = .ok (place, e)

end Files

open Files

variable {top : Path} {fs₀ fs fs' : Files} {r : Report} {rel : List String}

namespace Walk

structure Contained (top : Path) (fs₀ fs : Files) : Prop where
  wellFormed : fs.WellFormed
  later : fs₀.Extends fs
  links : ∀ {place : Place} {target : String},
    fs.get? place = some (.link target) → fs₀.get? place = some (.link target)
  change : ∀ place, fs.get? place = fs₀.get? place ∨ fs.LeadsBelow top place

/-- The report tells of all that has changed, and rightly. -/
structure Told (top : Path) (fs₀ fs : Files) (r : Report) : Prop where
  below : ∀ q ∈ r.made, ∃ rel, rel ≠ [] ∧ (∀ n ∈ rel, Path.IsPlain n) ∧ q = top.under rel
  directories : ∀ q ∈ r.directories, ∃ place, fs.stat q = .ok (place, .directory)
  files : ∀ q ∈ r.written, ∃ place c, fs.stat q = .ok (place, .file c)
  change : ∀ place, fs.get? place = fs₀.get? place ∨ ∃ q ∈ r.made, ∃ e, fs.stat q = .ok (place, e)

theorem Contained.refl (top : Path) (hfs : fs.WellFormed) : Contained top fs fs :=
  ⟨hfs, .refl fs, id, fun _ => .inl rfl⟩

theorem Told.nothing (top : Path) (fs : Files) : Told top fs fs {} :=
  ⟨by simp [Report.made, Report.written], by simp, by simp [Report.written], fun _ => .inl rfl⟩

theorem Contained.touch (h : Contained top fs₀ fs) (hrel : rel ≠ [])
    (hplain : ∀ n ∈ rel, Path.IsPlain n) (ht : Touches (top.under rel) fs fs') :
    Contained top fs₀ fs' := by
  refine ⟨ht.wellFormed, h.later.trans ht.later, fun hlink => h.links (ht.links hlink),
    fun place => ?_⟩
  rcases ht.change place with hsame | hnew
  · rcases h.change place with hold | ⟨rel', hrel', hplain', e, hstat⟩
    · exact .inl (hsame.trans hold)
    · obtain ⟨e', hstat', -⟩ := stat_extends h.wellFormed hstat ht.later
      exact .inr ⟨rel', hrel', hplain', e', hstat'⟩
  · exact .inr ⟨rel, hrel, hplain, hnew⟩

theorem Told.touch (h : Told top fs₀ fs r) (hfs : fs.WellFormed) (hrel : rel ≠ [])
    (hplain : ∀ n ∈ rel, Path.IsPlain n) (ht : Touches (top.under rel) fs fs') {r' : Report}
    (hmade : ∀ q, q ∈ r'.made ↔ q ∈ r.made ∨ q = top.under rel)
    (hdirectories : ∀ q ∈ r'.directories, q ∈ r.directories ∨ ∃ place, fs'.stat q = .ok (place, .directory))
    (hfiles : ∀ q ∈ r'.written, q ∈ r.written ∨ ∃ place c, fs'.stat q = .ok (place, .file c)) :
    Told top fs₀ fs' r' := by
  constructor
  · intro q hq
    rcases (hmade q).1 hq with hold | rfl
    · exact h.below q hold
    · exact ⟨rel, hrel, hplain, rfl⟩
  · intro q hq
    rcases hdirectories q hq with hold | hnew
    · obtain ⟨place, hstat⟩ := h.directories q hold
      exact ⟨place, stat_directory_extends hstat ht.later⟩
    · exact hnew
  · intro q hq
    rcases hfiles q hq with hold | hnew
    · obtain ⟨place, c, hstat⟩ := h.files q hold
      obtain ⟨e', hstat', -, -, hfile⟩ := stat_extends hfs hstat ht.later
      obtain ⟨c', rfl⟩ := hfile c rfl
      exact ⟨place, c', hstat'⟩
    · exact hnew
  · intro place
    rcases ht.change place with hsame | hnew
    · rcases h.change place with hold | ⟨q, hq, e, hstat⟩
      · exact .inl (hsame.trans hold)
      · obtain ⟨e', hstat', -⟩ := stat_extends hfs hstat ht.later
        exact .inr ⟨q, (hmade q).2 (.inl hq), e', hstat'⟩
    · exact .inr ⟨top.under rel, (hmade _).2 (.inr rfl), hnew⟩

theorem Told.addDirectory (h : Told top fs₀ fs r) (hfs : fs.WellFormed) (hrel : rel ≠ [])
    (hplain : ∀ n ∈ rel, Path.IsPlain n) (ht : Touches (top.under rel) fs fs') {D : Place}
    (hD : fs'.stat (top.under rel) = .ok (D, .directory)) :
    Told top fs₀ fs' (r.addDirectory (top.under rel)) := by
  refine h.touch hfs hrel hplain ht (fun q => ?_) (fun q hq => ?_) fun q hq => .inl hq
  · simp only [Report.made, Report.addDirectory, Report.written, List.mem_append, List.mem_singleton]
    tauto
  · rcases List.mem_append.1 hq with hold | hnew
    · exact .inl hold
    · rw [List.mem_singleton.1 hnew]
      exact .inr ⟨D, hD⟩

theorem Told.addFile (h : Told top fs₀ fs r) (hfs : fs.WellFormed) (hrel : rel ≠ [])
    (hplain : ∀ n ∈ rel, Path.IsPlain n) (ht : Touches (top.under rel) fs fs') {place : Place}
    {c : ByteArray} (hc : fs'.stat (top.under rel) = .ok (place, .file c)) (rendered : Bool) :
    Told top fs₀ fs' (r.addFile rendered (top.under rel)) := by
  have hwritten : ∀ q, q ∈ (r.addFile rendered (top.under rel)).written ↔
      q ∈ r.written ∨ q = top.under rel := by
    intro q
    cases rendered <;> simp [Report.addFile, Report.written] <;> tauto
  have hdirectories : (r.addFile rendered (top.under rel)).directories = r.directories := by
    cases rendered <;> rfl
  refine h.touch hfs hrel hplain ht (fun q => ?_) (fun q hq => .inl (hdirectories ▸ hq))
    fun q hq => ?_
  · rw [Report.made, Report.made, List.mem_append, List.mem_append, hwritten, hdirectories, or_assoc]
  · rcases (hwritten q).1 hq with hold | rfl
    · exact .inl hold
    · exact .inr ⟨place, c, hc⟩

/-! ### Steps and runs -/

/-- A walk keeps below the destination and, unless it fails, tells of all it did. -/
structure Keeps (top : Path) (fs₀ fs : Files) (done : Except Failure Report × Files) : Prop where
  contained : Contained top fs₀ done.2
  later : fs.Extends done.2
  told : ∀ r, done.1 = .ok r → Told top fs₀ done.2 r

/-- A way to walk that keeps below the destination from any directory there. -/
def KeepsBelow (top : Path) (fs₀ : Files) (descend : Path → Path → Report → Step Report) : Prop :=
  ∀ (here : Path) (rel : List String) (r : Report) (fs : Files), (∀ n ∈ rel, Path.IsPlain n) →
    Contained top fs₀ fs → Told top fs₀ fs r →
    (∃ D, fs.stat (top.under rel) = .ok (D, .directory)) →
    Keeps top fs₀ fs (descend here (top.under rel) r fs)

section
variable {w : Walk} {descend : Path → Path → Report → Step Report} (source : Path)
  (hw : w.RenamesPlainly) (htop : top.IsNormal) (hdescend : KeepsBelow top fs₀ descend)
  (hrel : ∀ n ∈ rel, Path.IsPlain n)
include hw htop hdescend hrel

theorem entry_keeps {e : String × Bool} (he : Path.IsPlain e.1) (hfs : Contained top fs₀ fs)
    (hr : Told top fs₀ fs r) (hdir : ∃ D, fs.stat (top.under rel) = .ok (D, .directory)) :
    Keeps top fs₀ fs (w.entry descend source (top.under rel) e r fs) := by
  obtain ⟨name, isDirectory⟩ := e
  obtain ⟨D, hD⟩ := hdir
  have hout := outName_isPlain hw (e := (name, isDirectory)) he
  have hnormal := htop.under hrel
  have hplain : ∀ n ∈ rel ++ [w.outName (name, isDirectory)], Path.IsPlain n :=
    Path.isPlain_concat hrel hout
  have hne : rel ++ [w.outName (name, isDirectory)] ≠ [] := by simp
  cases hincluded : w.includes (name, isDirectory) with
  | false =>
    rw [entry_skipped w _ _ _ hincluded]
    refine ⟨hfs, .refl fs, fun r' hr' => ?_⟩
    cases hr'
    exact ⟨hr.below, hr.directories, hr.files, hr.change⟩
  | true =>
    cases isDirectory with
    | true =>
      rcases entry_directory w source (top.under rel) fs he hincluded with
        ⟨f, fs', hmake, hentry⟩ | ⟨fs', hmake, hentry⟩ <;> rw [hentry]
      · obtain ⟨hmade, -⟩ := ensureDirectory_made hfs.wellFormed (hnormal.child hout) hmake
        have ht := hmade.touches hfs.wellFormed hD
        rw [← Path.under_concat] at ht
        exact ⟨hfs.touch hne hplain ht, ht.later, by simp⟩
      · obtain ⟨hmade, hstat⟩ := ensureDirectory_made hfs.wellFormed (hnormal.child hout) hmake
        obtain ⟨E, hE⟩ := hstat rfl
        have ht := hmade.touches hfs.wellFormed hD
        rw [← Path.under_concat] at ht hE ⊢
        have hkeeps := hdescend (source.child name) _ _ fs' hplain (hfs.touch hne hplain ht)
          (hr.addDirectory hfs.wellFormed hne hplain ht hE) ⟨E, hE⟩
        exact ⟨hkeeps.contained, ht.later.trans hkeeps.later, hkeeps.told⟩
    | false =>
      rcases entry_file hw source (top.under rel) fs he hincluded with
        ⟨f, hentry⟩ | ⟨c, fs', -, hwrite, hentry⟩ <;> rw [hentry]
      · exact ⟨hfs, .refl fs, by simp⟩
      · obtain ⟨f, hno⟩ | ⟨Q, m, fs'', hwrite', hputs, hstat⟩ :=
          write_puts hfs.wellFormed (hnormal.child hout) c
        · rw [hno] at hwrite
          cases hwrite
        · rw [hwrite'] at hwrite
          cases hwrite
          have ht := hputs.touches hstat
          rw [← Path.under_concat] at ht hstat ⊢
          refine ⟨hfs.touch hne hplain ht, ht.later, fun r' hr' => ?_⟩
          cases hr'
          exact hr.addFile hfs.wellFormed hne hplain ht hstat _

theorem entries_keeps {es : List (String × Bool)} (hes : ∀ e ∈ es, Path.IsPlain e.1)
    (hfs : Contained top fs₀ fs) (hr : Told top fs₀ fs r)
    (hdir : ∃ D, fs.stat (top.under rel) = .ok (D, .directory)) :
    Keeps top fs₀ fs (entries (w.entry descend source (top.under rel)) es r fs) := by
  induction es generalizing r fs with
  | nil =>
    refine ⟨hfs, .refl fs, fun r' hr' => ?_⟩
    cases hr'
    exact hr
  | cons e es ih =>
    have hfirst := entry_keeps source hw htop hdescend hrel (hes e (by simp)) hfs hr hdir
    rw [entries]
    generalize w.entry descend source (top.under rel) e r fs = done at hfirst ⊢
    obtain ⟨⟨f⟩ | ⟨r'⟩, fs'⟩ := done
    · exact ⟨hfirst.contained, hfirst.later, by simp⟩
    · obtain ⟨D, hD⟩ := hdir
      have hrest := ih (fun e he => hes e (List.mem_cons_of_mem _ he)) hfirst.contained
        (hfirst.told r' rfl) ⟨D, stat_directory_extends hD hfirst.later⟩
      exact ⟨hrest.contained, hfirst.later.trans hrest.later, hrest.told⟩

end

theorem directory_keeps {w : Walk} (hw : w.RenamesPlainly) (htop : top.IsNormal) (depth : Nat) :
    KeepsBelow top fs₀ (w.directory depth) := by
  induction depth with
  | zero => exact fun _ _ _ fs _ hfs _ _ => ⟨hfs, .refl fs, by simp [directory]⟩
  | succ depth ih =>
    intro here rel r fs hrel hfs hr hdir
    obtain ⟨D, hD⟩ := hdir
    rcases directory_cases w depth here (top.under rel) r fs with
      ⟨f, -, hrun⟩ | ⟨-, hrun⟩ | ⟨f, fs', hmake, hrun⟩ | ⟨fs', hmake, hrun⟩
    · rw [hrun]
      exact ⟨hfs, .refl fs, by simp⟩
    · rw [hrun]
      refine ⟨hfs, .refl fs, fun r' hr' => ?_⟩
      cases hr'
      exact ⟨hr.below, hr.directories, hr.files, hr.change⟩
    · rw [ensureDirectory_of_stat hD] at hmake
      cases hmake
    · rw [ensureDirectory_of_stat hD] at hmake
      cases hmake
      rcases hrun with ⟨f, -, hrun⟩ | ⟨es, hlist, hrun⟩ <;> rw [hrun]
      · exact ⟨hfs, .refl fs, by simp⟩
      · exact entries_keeps here hw htop ih hrel (isPlain_of_listed hfs.wellFormed hlist) hfs hr ⟨D, hD⟩

/-- A walk into a destination makes what is missing of it and then keeps below it. -/
theorem run_keeps {w : Walk} (hw : w.RenamesPlainly) (htop : top.IsNormal) (hfs : fs.WellFormed)
    (source : Path) :
    ∃ fs₁, Made top fs fs₁ ∧ Keeps top fs₁ fs₁ (w.run source top fs) := by
  have hlimit : w.run source top fs = w.directory (pathLimit - 1 + 1) source top {} fs := rfl
  have hstay : ∀ (res : Except Failure Report) (fs' : Files), fs'.WellFormed →
      (∀ r, res = .ok r → r.made = []) → Keeps top fs' fs' (res, fs') := by
    intro res fs' hfs' hres
    refine ⟨.refl top hfs', .refl fs', fun r hr => ?_⟩
    have hmade := List.append_eq_nil_iff.1 (hres r hr)
    exact ⟨by simp [hres r hr], by simp [hmade.1], by simp [hmade.2], fun _ => .inl rfl⟩
  rcases directory_cases w (pathLimit - 1) source top {} fs with
    ⟨f, -, hrun⟩ | ⟨-, hrun⟩ | ⟨f, fs', hmake, hrun⟩ | ⟨fs', hmake, hrun⟩
  · exact ⟨fs, .refl top hfs, by
      rw [hlimit, hrun]
      exact hstay _ fs hfs (by simp)⟩
  · exact ⟨fs, .refl top hfs, by
      rw [hlimit, hrun]
      refine hstay _ fs hfs fun r hr => ?_
      cases hr
      rfl⟩
  · have hmade := (ensureDirectory_made hfs htop hmake).1
    exact ⟨fs', hmade, by
      rw [hlimit, hrun]
      exact hstay _ fs' hmade.wellFormed (by simp)⟩
  · obtain ⟨hmade, hstat⟩ := ensureDirectory_made hfs htop hmake
    refine ⟨fs', hmade, ?_⟩
    rcases hrun with ⟨f, -, hrun⟩ | ⟨es, hlist, hrun⟩ <;> rw [hlimit, hrun]
    · exact hstay _ fs' hmade.wellFormed (by simp)
    · have hnone : ∀ n ∈ ([] : List String), Path.IsPlain n := by simp
      have hkeeps := entries_keeps source hw htop (directory_keeps hw htop (pathLimit - 1)) hnone
        (isPlain_of_listed hmade.wellFormed hlist) (.refl top hmade.wellFormed) (.nothing top fs')
        (by rw [Path.under_nil]; exact hstat rfl)
      rwa [Path.under_nil] at hkeeps

/-! ### What a walk did -/

/-- What has changed since is the destination, missing above it, or below it: where the destination
has no links, in the very places that its paths say. -/
structure Confined (dest : Path) (fs fs' : Files) : Prop where
  change : ∀ place, fs'.get? place ≠ fs.get? place →
    MadeFor dest fs fs' place ∨ fs'.LeadsBelow dest place
  literally : ∀ D, fs'.stat dest = .ok (D, .directory) → fs.LinkFree D →
    ∀ place, fs'.get? place ≠ fs.get? place →
      MadeFor dest fs fs' place ∨ ∃ rel, rel ≠ [] ∧ place = D ++ rel

/-- The report has all that has changed since below the destination, each with its kind: where the
destination has no links, by the very paths. -/
structure Accounted (dest : Path) (fs fs' : Files) (r : Report) : Prop where
  below : ∀ q ∈ r.made, ∃ rel, rel ≠ [] ∧ (∀ n ∈ rel, Path.IsPlain n) ∧ q = dest.under rel
  directories : ∀ q ∈ r.directories, ∃ place, fs'.stat q = .ok (place, .directory)
  files : ∀ q ∈ r.written, ∃ place c, fs'.stat q = .ok (place, .file c)
  change : ∀ place, fs'.get? place ≠ fs.get? place →
    MadeFor dest fs fs' place ∨ ∃ q ∈ r.made, ∃ e, fs'.stat q = .ok (place, e)
  literally : ∀ D, fs'.stat dest = .ok (D, .directory) → fs.LinkFree D → ".." ∉ dest.names →
    ∀ rel, rel ≠ [] → fs'.get? (D ++ rel) ≠ fs.get? (D ++ rel) → dest.under rel ∈ r.made

theorem not_up_of_isPlain (h : ∀ n ∈ rel, Path.IsPlain n) : ".." ∉ rel :=
  fun hup => (h ".." hup).2.2.2 rfl

theorem prefix_of_madeFor {dest : Path} {D place : Place} (hfs : fs.WellFormed)
    (hlinks : ∀ {place : Place} {target : String},
      fs'.get? place = some (.link target) → fs.get? place = some (.link target))
    (hup : ".." ∉ dest.names) (hD : fs'.stat dest = .ok (D, .directory))
    (h : MadeFor dest fs fs' place) : place <+: D := by
  obtain ⟨hnone, -, names, ⟨rest, hrest⟩, hstat⟩ := h
  obtain ⟨Q, fewer, hfront, hback⟩ := (stat_directory_iff.1 hD).2.split hrest.symm (by simp)
  obtain rfl := (stat_directory_iff.1 hstat).2.unique hfront
  have hlink : fs'.LinkFree place := by
    intro rel target hl
    have hold := hlinks hl
    by_cases hrel : rel = []
    · rw [hrel, List.append_nil, hnone] at hold
      cases hold
    · have hdir := hfs.above hold hrel
      rw [hnone] at hdir
      cases hdir
  obtain ⟨taken, -, rfl⟩ := hback.down hlink fun hmem => hup (hrest ▸ List.mem_append_right _ hmem)
  exact List.prefix_append _ _

section
variable {dest : Path} {fs₁ : Files} {done : Except Failure Report × Files}
  (hfs : fs.WellFormed) (hmade : Made dest fs fs₁) (hkeeps : Keeps dest fs₁ fs₁ done)
include hmade hkeeps

theorem madeFor_of_keeps {place : Place} (hsame : done.2.get? place = fs₁.get? place)
    (hne : done.2.get? place ≠ fs.get? place) : MadeFor dest fs done.2 place := by
  rcases hmade.change place with hold | ⟨hnone, hdir, names, hup, hstat⟩
  · exact absurd (hsame.trans hold) hne
  · exact ⟨hnone, hsame.trans hdir, names, hup, stat_directory_extends hstat hkeeps.later⟩

theorem links_of_keeps {place : Place} {target : String}
    (h : done.2.get? place = some (.link target)) : fs.get? place = some (.link target) := by
  have hlink := hkeeps.contained.links h
  rcases hmade.change place with hold | ⟨-, hdir, -⟩
  · rwa [← hold]
  · rw [hlink] at hdir
    cases hdir

theorem confined_of_keeps : Confined dest fs done.2 := by
  have hchange : ∀ place, done.2.get? place ≠ fs.get? place →
      MadeFor dest fs done.2 place ∨ done.2.LeadsBelow dest place := by
    intro place hne
    rcases hkeeps.contained.change place with hsame | hbelow
    · exact .inl (madeFor_of_keeps hmade hkeeps hsame hne)
    · exact .inr hbelow
  refine ⟨hchange, fun D hD hlink place hne => ?_⟩
  have hlink' : done.2.LinkFree D := fun rel target h => hlink rel target (links_of_keeps hmade hkeeps h)
  rcases hchange place hne with habove | ⟨rel, hrel, hplain, e, hstat⟩
  · exact .inl habove
  · exact .inr ⟨rel, hrel, stat_under hD hlink' (not_up_of_isPlain hplain) hrel hstat⟩

include hfs in
theorem accounted_of_keeps (hr : done.1 = .ok r) : Accounted dest fs done.2 r := by
  have htold := hkeeps.told r hr
  have hchange : ∀ place, done.2.get? place ≠ fs.get? place →
      MadeFor dest fs done.2 place ∨ ∃ q ∈ r.made, ∃ e, done.2.stat q = .ok (place, e) := by
    intro place hne
    rcases htold.change place with hsame | hnew
    · exact .inl (madeFor_of_keeps hmade hkeeps hsame hne)
    · exact .inr hnew
  refine ⟨htold.below, htold.directories, htold.files, hchange, fun D hD hlink hup rel hrel hne => ?_⟩
  have hlink' : done.2.LinkFree D := fun rel target h => hlink rel target (links_of_keeps hmade hkeeps h)
  rcases hchange _ hne with habove | ⟨q, hq, e, hstat⟩
  · obtain ⟨rest, hrest⟩ :=
      prefix_of_madeFor hfs (links_of_keeps hmade hkeeps) hup hD habove
    have hlength := congrArg List.length hrest
    have := List.length_pos_iff.2 hrel
    simp only [List.length_append] at hlength
    omega
  · obtain ⟨rel', hrel', hplain', rfl⟩ := htold.below q hq
    have hplace := stat_under hD hlink' (not_up_of_isPlain hplain') hrel' hstat
    rwa [List.append_cancel_left hplace]

end

/-- Whatever the walk, the destination and how it ends: changes keep to the destination, names of
entries come out as names of entries, and a report is a full and true account. -/
theorem materialize_contained (w : Walk) (hw : w.RenamesPlainly) (source dest : String) (s : Session)
    (hs : s.files.WellFormed) :
    Confined (.ofText dest) s.files (w.materialize (.ofText source) (.ofText dest) s).2.files ∧
    (∀ n, Path.IsPlain n → Path.IsPlain (DirectoryName.clean w.vocabulary n) ∧
      Path.IsPlain (FileName.clean w.vocabulary n)) ∧
    ∀ r, (w.materialize (.ofText source) (.ofText dest) s).1 = .ok r →
      Accounted (.ofText dest) s.files (w.materialize (.ofText source) (.ofText dest) s).2.files r := by
  obtain ⟨fs₁, hmade, hkeeps⟩ := run_keeps hw (Path.ofText_isNormal dest) hs (.ofText source)
  have hclean : ∀ n, Path.IsPlain n → Path.IsPlain (DirectoryName.clean w.vocabulary n) ∧
      Path.IsPlain (FileName.clean w.vocabulary n) :=
    fun n hn => ⟨DirectoryName.clean_isPlain w.vocabulary hn, FileName.clean_isPlain w.vocabulary hn⟩
  have hconfined := confined_of_keeps hmade hkeeps
  cases hrun : w.run (.ofText source) (.ofText dest) s.files with
  | mk res fs' =>
    rw [hrun] at hkeeps hconfined
    cases res with
    | error f =>
      rw [materialize_of_error w hrun]
      exact ⟨hconfined, hclean, by simp⟩
    | ok r =>
      obtain ⟨hfiles, hreport, -⟩ := materialize_of_ok w hrun
      rw [hfiles]
      refine ⟨hconfined, hclean, fun r' hr' => ?_⟩
      rw [hreport r' hr']
      exact accounted_of_keeps hs hmade hkeeps rfl

theorem sample_contained :
    let done := sampleWalk.materialize (.ofText "t") (.ofText "d") sampleSession
    done.2.files.get? ["d", "src", "b.txt"] = some (.file "x".toUTF8) ∧
      Confined (.ofText "d") sampleFiles done.2.files ∧
      ∀ r, done.1 = .ok r → Accounted (.ofText "d") sampleFiles done.2.files r := by
  have h := materialize_contained sampleWalk sampleWalk_renamesPlainly "t" "d" sampleSession
    sampleFiles_wellFormed
  exact ⟨by decide +kernel, h.1, h.2.2⟩

end Walk
end Scaffold
