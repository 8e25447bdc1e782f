import Scaffold.Proofs.Walk.Containment
import Scaffold.Proofs.Walk.Held

set_option autoImplicit false

/-!
# An empty destination

A walk that does not fail leaves in an empty destination the images of what is live in its source,
each of its kind, and nothing else. Source and destination have to be apart: no path below the one
may come by the other. Links in the source are followed, wherever else they lead.
-/
namespace Scaffold
namespace Walk
open Files

variable {w : Walk} {source dest : Path} {fs fs₁ fs' : Files} {S D place : Place} {q : Path} {r : Report}
  {rel : List String} {isDirectory : Bool} {v : List String × Bool}
  {vs : List (List String × Bool)} {e : Entry}

/-! ### What fills an empty destination -/

/-- There is nothing in the destination once it is there. -/
def Vacant (fs : Files) (dest : Path) : Prop :=
  ∀ D, (ensureDirectory dest fs).2.stat dest = .ok (D, .directory) →
    ∀ rel, rel ≠ [] → (ensureDirectory dest fs).2.get? (D ++ rel) = none

theorem vacant_of_stat (h : fs.stat dest = .ok (D, .directory))
    (hnone : ∀ rel, rel ≠ [] → fs.get? (D ++ rel) = none) : Vacant fs dest := by
  intro D' hD'
  rw [ensureDirectory_of_stat h] at hD' ⊢
  cases h.symm.trans hD'
  exact hnone

/-- A directory was empty, and what it has come to hold since is reported. -/
structure Fills (dest : Path) (D : Place) (fs fs' : Files) (r : Report) : Prop where
  atDest : fs.stat dest = .ok (D, .directory)
  empty : ∀ rel, rel ≠ [] → fs.get? (D ++ rel) = none
  contained : Contained dest fs fs'
  told : Told dest fs fs' r

theorem run_fills (hw : w.RenamesPlainly) (hfs : fs.WellFormed) (hdest : dest.IsNormal)
    (hsource : fs.exists? source = .ok true) (hvacant : Vacant fs dest)
    (hrun : w.run source dest fs = (.ok r, fs')) :
    ∃ fs₁ D, ensureDirectory dest fs = (.ok (), fs₁) ∧ Made dest fs fs₁ ∧
      Fills dest D fs₁ fs' r := by
  have hlimit : w.run source dest fs = w.directory (pathLimit - 1 + 1) source dest {} fs := rfl
  rw [hlimit] at hrun
  rcases directory_cases w (pathLimit - 1) source dest {} fs with
    ⟨f, hask, -⟩ | ⟨hask, -⟩ | ⟨f, mid, -, herror⟩ | ⟨fs₁, hmake, hdone⟩
  · rw [hsource] at hask
    cases hask
  · rw [hsource] at hask
    cases hask
  · rw [hrun] at herror
    cases herror
  · rcases hdone with ⟨f, -, herror⟩ | ⟨es, hlist, hdone⟩
    · rw [hrun] at herror
      cases herror
    · obtain ⟨hmade, hstat⟩ := ensureDirectory_made hfs hdest hmake
      obtain ⟨D, hD⟩ := hstat rfl
      have hthere : ∃ D, fs₁.stat (dest.under []) = .ok (D, .directory) :=
        ⟨D, by rwa [Path.under_nil]⟩
      have hkeeps := entries_keeps source hw hdest (directory_keeps hw hdest (pathLimit - 1))
        (by simp) (isPlain_of_listed hmade.wellFormed hlist) (.refl dest hmade.wellFormed)
        (.nothing dest fs₁) hthere
      rw [Path.under_nil, ← hdone, hrun] at hkeeps
      have hempty := hvacant D
      rw [hmake] at hempty
      exact ⟨fs₁, D, hmake, hmade, hD, hempty hD, hkeeps.contained, hkeeps.told r rfl⟩

namespace Fills
variable (h : Fills dest D fs fs' r)
include h

theorem stat_dest : fs'.stat dest = .ok (D, .directory) :=
  stat_directory_extends h.atDest h.contained.later

theorem linkFree (hfs : fs.WellFormed) : fs'.LinkFree D := by
  intro rel target hlink
  have hold := h.contained.links hlink
  by_cases hrel : rel = []
  · rw [hrel, List.append_nil, isDirectory_of_stat hfs h.atDest] at hold
    cases hold
  · rw [h.empty rel hrel] at hold
    cases hold

theorem place_eq (hfs : fs.WellFormed) (hrel : rel ≠ []) (hplain : ∀ m ∈ rel, Path.IsPlain m)
    (hstat : fs'.stat (dest.under rel) = .ok (place, e)) :
    place = D ++ rel ∧ fs'.get? (D ++ rel) = some e := by
  obtain rfl := stat_under h.stat_dest (h.linkFree hfs) (not_up_of_isPlain hplain) hrel hstat
  obtain ⟨e', hstat', he, -⟩ := stat_extends h.contained.wellFormed hstat (.refl fs')
  cases hstat.symm.trans hstat'
  exact ⟨rfl, he⟩

theorem made_of_get? (hfs : fs.WellFormed) (hrel : rel ≠ []) (he : fs'.get? (D ++ rel) = some e) :
    dest.under rel ∈ r.made ∧ fs'.stat (dest.under rel) = .ok (D ++ rel, e) := by
  rcases h.told.change (D ++ rel) with hsame | ⟨q, hq, e', hstat⟩
  · rw [h.empty rel hrel, he] at hsame
    cases hsame
  · obtain ⟨rel', hrel', hplain, rfl⟩ := h.told.below q hq
    obtain ⟨hplace, he'⟩ := h.place_eq hfs hrel' hplain hstat
    obtain rfl := List.append_cancel_left hplace
    rw [he] at he'
    cases he'
    exact ⟨hq, hstat⟩

theorem get?_outside (hfs : fs.WellFormed) (hout : ∀ rel, rel ≠ [] → place ≠ D ++ rel) :
    fs'.get? place = fs.get? place := by
  rcases h.contained.change place with hsame | ⟨rel, hrel, hplain, e, hstat⟩
  · exact hsame
  · exact absurd (h.place_eq hfs hrel hplain hstat).1 (hout rel hrel)

end Fills

/-! ### Sources apart from the destination -/

/-- No path below the source passes what is to be made of the destination, or what is below it. -/
structure Aloof (fs : Files) (source dest : Path) : Prop where
  made : ∀ rel q, (∀ m ∈ rel, Path.IsPlain m) →
    fs.Passes q linkLimit (fs.start source) (source.names ++ rel) →
    ¬MadeFor dest fs (ensureDirectory dest fs).2 q
  outside : ∀ rel q, (∀ m ∈ rel, Path.IsPlain m) →
    fs.Passes q linkLimit (fs.start source) (source.names ++ rel) →
    ∀ D, (ensureDirectory dest fs).2.stat dest = .ok (D, .directory) →
      ∀ below, below ≠ [] → q ≠ D ++ below

theorem aloof_of_apart (hfs : fs.WellFormed) (hdest : dest.IsNormal)
    (hsource : fs.stat source = .ok (S, .directory)) (hlink : fs.LinkFree S)
    (hapart : Apart fs S dest) (hvacant : Vacant fs dest) : Aloof fs source dest := by
  have hmade : Made dest fs (ensureDirectory dest fs).2 := (ensureDirectory_made hfs hdest rfl).1
  -- The way to the source passes only what is there; from the source on, paths go where they say.
  have hway : ∀ rel q, (∀ m ∈ rel, Path.IsPlain m) →
      fs.Passes q linkLimit (fs.start source) (source.names ++ rel) →
      (∃ e, fs.get? q = some e) ∨ S <+: q := by
    intro rel q hrel hq
    refine (hq.beyond ((stat_directory_iff.1 hsource).2.more rel)).imp_right ?_
    rintro ⟨fewer, hbelow⟩
    exact hbelow.down hlink (not_up_of_isPlain hrel)
  constructor
  · intro rel q hrel hq hnew
    rcases hway rel q hrel hq with ⟨e, he⟩ | hbelow
    · rw [hnew.1] at he
      cases he
    · exact hapart.made q hnew hbelow
  · rintro rel q hrel hq D hD below hne rfl
    rcases hway rel _ hrel hq with ⟨e, he⟩ | hbelow
    · obtain ⟨e', he', -⟩ := hmade.later.there he
      rw [hvacant D hD below hne] at he'
      cases he'
    · have hout := hapart.outside D hD
      rcases List.prefix_or_prefix_of_prefix hbelow (List.prefix_append D below) with h | h
      · exact hout.1 h
      · exact hout.2 h

theorem spares_of_aloof (hmake : ensureDirectory dest fs = (.ok (), fs₁)) (hmade : Made dest fs fs₁)
    (hfills : Fills dest D fs₁ fs' r) (h : Aloof fs source dest) : Spares source fs fs' := by
  obtain ⟨hnew, houtside⟩ := h
  rw [hmake] at hnew houtside
  refine ⟨hfills.contained.wellFormed, hmade.later.trans hfills.contained.later,
    fun rel q hrel hq => ?_⟩
  rw [hfills.get?_outside hmade.wellFormed (houtside rel q hrel hq D hfills.atDest)]
  exact (hmade.change q).resolve_right (hnew rel q hrel hq)

/-! ### Reports and their entries -/

theorem outPath_eq (hw : w.RenamesPlainly) (dest : Path) (hne : v.1 ≠ [])
    (hplain : ∀ m ∈ v.1, Path.IsPlain m) : w.outPath dest v = dest.under (w.image v) := by
  obtain ⟨rel, isDirectory⟩ := v
  obtain ⟨above, n, rfl⟩ := (List.eq_nil_or_concat' rel).resolve_left hne
  cases isDirectory with
  | true => rw [outPath, if_pos rfl, image_directory]
  | false =>
    have hn : Path.IsPlain (w.outName (n, false)) := outName_isPlain hw (hplain n (by simp))
    have htarget : w.targetOf (dest.under (above.map fun m => w.outName (m, true))) n =
        (dest.under (above.map fun m => w.outName (m, true))).child (w.outName (n, false)) :=
      Path.join_ofText _ hn
    rw [outPath, if_neg (by simp), image]
    simp only [List.dropLast_concat, lastName_concat]
    rw [htarget, Path.under_concat]

def madeOf (r : Report) (isDirectory : Bool) : List Path :=
  if isDirectory then r.directories else r.written

theorem mem_made : q ∈ r.made ↔ ∃ isDirectory, q ∈ madeOf r isDirectory := by
  simp [Report.made, madeOf, or_comm]

theorem fate_directory : w.fate v = .directory ↔ w.takes v = true ∧ v.2 = true := by
  unfold fate
  cases w.takes v <;> cases v.2 <;> cases FileName.isRendered w.vocabulary (lastName v.1) <;> simp

theorem fate_written :
    w.fate v = .rendered ∨ w.fate v = .copied ↔ w.takes v = true ∧ v.2 = false := by
  unfold fate
  cases w.takes v <;> cases v.2 <;> cases FileName.isRendered w.vocabulary (lastName v.1) <;> simp

theorem mem_madeOf (h : r = vs.foldl (w.note source dest) {}) :
    q ∈ madeOf r isDirectory ↔
      ∃ v ∈ vs, w.takes v = true ∧ v.2 = isDirectory ∧ w.outPath dest v = q := by
  have hlist : ∀ k, q ∈ r.list k ↔ ∃ v ∈ vs, w.fate v = k ∧ w.notedPath source dest v = q := by
    intro k
    rw [(recorded_of_notes h).list k]
    simp [and_assoc]
  have hnoted : ∀ v, w.takes v = true → w.notedPath source dest v = w.outPath dest v :=
    fun v hv => if_pos hv
  have hmade : q ∈ madeOf r isDirectory ↔ ∃ v ∈ vs,
      (w.takes v = true ∧ v.2 = isDirectory) ∧ w.notedPath source dest v = q := by
    cases isDirectory with
    | true =>
      simp only [← fate_directory]
      exact hlist .directory
    | false =>
      simp only [← fate_written, or_and_right, and_or_left, exists_or]
      rw [← hlist, ← hlist]
      exact List.mem_append
  rw [hmade]
  refine exists_congr fun v => and_congr_right fun _ => ?_
  rw [and_assoc]
  exact and_congr_right fun hv => by rw [hnoted v hv]

/-! ### Destinations and their images -/

def OfKind (isDirectory : Bool) (e : Entry) : Prop :=
  if isDirectory then e = .directory else ∃ c, e = .file c

/-- The destination has the images of what is live in the source, each of its kind, and nothing
else. -/
structure Filled (w : Walk) (source : Path) (D : Place) (fs fs' : Files) : Prop where
  image : ∀ rel isDirectory, fs.Holds source rel isDirectory → w.Live rel isDirectory →
    ∃ e, fs'.get? (D ++ w.image (rel, isDirectory)) = some e ∧ OfKind isDirectory e
  only : ∀ names e, names ≠ [] → fs'.get? (D ++ names) = some e →
    ∃ rel isDirectory, fs.Holds source rel isDirectory ∧ w.Live rel isDirectory ∧
      w.image (rel, isDirectory) = names ∧ OfKind isDirectory e

theorem Fills.kind (h : Fills dest D fs fs' r) (hq : q ∈ madeOf r isDirectory) :
    ∃ place e, fs'.stat q = .ok (place, e) ∧ OfKind isDirectory e := by
  cases isDirectory with
  | true =>
    obtain ⟨place, hstat⟩ := h.told.directories q hq
    exact ⟨place, _, hstat, rfl⟩
  | false =>
    obtain ⟨place, c, hstat⟩ := h.told.files q hq
    exact ⟨place, _, hstat, c, rfl⟩

/-- A source that is there, and an empty destination apart from it. -/
structure Fresh (fs : Files) (source dest : Path) : Prop where
  wellFormed : fs.WellFormed
  there : fs.exists? source = .ok true
  aloof : Aloof fs source dest
  vacant : Vacant fs dest

theorem run_filled (hw : w.RenamesPlainly) (hdest : dest.IsNormal) (hfresh : Fresh fs source dest)
    (hrun : w.run source dest fs = (.ok r, fs')) :
    ∃ D, fs'.stat dest = .ok (D, .directory) ∧ w.Filled source D fs fs' := by
  obtain ⟨hfs, hsource, haloof, hvacant⟩ := hfresh
  obtain ⟨fs₁, D, hmake, hmade, hfills⟩ := run_fills hw hfs hdest hsource hvacant hrun
  have hspares := spares_of_aloof hmake hmade hfills haloof
  obtain ⟨vs, htoured⟩ := directory_tours w pathLimit hfs hdest hsource hrun
  -- What the tour comes to and takes is what the source holds and is live.
  have hmem : ∀ rel isDirectory, (rel, isDirectory) ∈ vs ∧ w.takes (rel, isDirectory) = true ↔
      fs.Holds source rel isDirectory ∧ w.Live rel isDirectory := by
    intro rel isDirectory
    rw [htoured.tour.mem_iff hspares hfs, Live, and_assoc]
  have hout : ∀ {rel isDirectory}, fs.Holds source rel isDirectory →
      w.outPath dest (rel, isDirectory) = dest.under (w.image (rel, isDirectory)) :=
    fun hholds => outPath_eq hw dest hholds.ne_nil (hholds.isPlain hfs)
  refine ⟨D, hfills.stat_dest, fun rel isDirectory hholds hlive => ?_, fun names e hnames he => ?_⟩
  · obtain ⟨hvisited, htakes⟩ := (hmem rel isDirectory).2 ⟨hholds, hlive⟩
    have hnoted : dest.under (w.image (rel, isDirectory)) ∈ madeOf r isDirectory :=
      (mem_madeOf htoured.notes).2 ⟨_, hvisited, htakes, rfl, hout hholds⟩
    obtain ⟨place, e, hstat, hkind⟩ := hfills.kind hnoted
    obtain ⟨names, hne, hplain, hsame⟩ := hfills.told.below _ (mem_made.2 ⟨_, hnoted⟩)
    obtain rfl := Path.under_inj hsame
    exact ⟨e, (hfills.place_eq hmade.wellFormed hne hplain hstat).2, hkind⟩
  · obtain ⟨hnoted, hstat⟩ := hfills.made_of_get? hmade.wellFormed hnames he
    obtain ⟨isDirectory, hnoted⟩ := mem_made.1 hnoted
    obtain ⟨v, hvisited, htakes, rfl, hsame⟩ := (mem_madeOf htoured.notes).1 hnoted
    obtain ⟨hholds, hlive⟩ := (hmem v.1 v.2).1 ⟨hvisited, htakes⟩
    obtain ⟨place, e', hstat', hkind⟩ := hfills.kind hnoted
    cases hstat.symm.trans hstat'
    exact ⟨v.1, v.2, hholds, hlive, Path.under_inj ((hout hholds).symm.trans hsame), hkind⟩

theorem materialize_filled (hw : w.RenamesPlainly) {source dest : String} {s : Session}
    (hfresh : Fresh s.files (.ofText source) (.ofText dest))
    (hr : (w.materialize (.ofText source) (.ofText dest) s).1 = .ok r) :
    ∃ D, (w.materialize (.ofText source) (.ofText dest) s).2.files.stat (.ofText dest) =
        .ok (D, .directory) ∧
      w.Filled (.ofText source) D s.files
        (w.materialize (.ofText source) (.ofText dest) s).2.files := by
  cases hrun : w.run (.ofText source) (.ofText dest) s.files with
  | mk res fs' =>
  cases res with
  | error f =>
    rw [materialize_of_error w hrun] at hr
    cases hr
  | ok r' =>
    rw [(materialize_of_ok w hrun).1]
    exact run_filled hw (Path.ofText_isNormal dest) hfresh hrun

end Walk
end Scaffold
