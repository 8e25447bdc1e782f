import Scaffold.Proofs.Walk.Abreast

set_option autoImplicit false

/-!
# What is left out has no say

Of a directory that does not fit the selection a walk sees no more than its name, and of such a file
no byte. Walks of two sources that differ only there end alike: with the same report or the same
failure, and with the same files, but for those that were different before and are still as they
were. This takes that files are renamed to names that entries can have; a file renamed to a path
may come out in what was left out.
-/
namespace Scaffold.Walk
open Files

variable {f f' g g' : Files} {source dest : Path} {S D : Place} {w : Walk} {r : Report}

/-- Two walks come to the same: the same report or failure, the same destination, and files that
only differ where they did, in what is left out, and are there as they were. -/
structure Indifferent (w : Walk) (S : Place) (dest : Path) (f g : Files)
    (x y : Except Failure Report × Files) : Prop where
  result : y.1 = x.1
  places : Beside f g x.2 y.2
  twins : w.Twins S x.2 y.2
  dest : ∀ D, x.2.stat dest = .ok (D, .directory) → y.2.stat dest = .ok (D, .directory) ∧
    ∀ rel, y.2.get? (D ++ rel) = x.2.get? (D ++ rel)

section
variable (hw : w.RenamesPlainly) (hrenderer : w.renderer.directory = none) (hf : f.WellFormed)
  (hg : g.WellFormed) (hsource : f.stat source = .ok (S, .directory))
  (hsource' : g.stat source = .ok (S, .directory)) (htwins : w.Twins S f g)
  (hlinks : ∀ rel target, f.get? (S ++ rel) = some (.link target) → w.Hidden S (S ++ rel))
include hw hrenderer hf hg hsource hsource' htwins hlinks

theorem walked_indifferent (hdest : dest.IsNormal) (hD : f.stat dest = .ok (D, .directory))
    (hD' : g.stat dest = .ok (D, .directory)) (hfree : f.LinkFree D)
    (hsame : ∀ rel, g.get? (D ++ rel) = f.get? (D ++ rel)) :
    w.Indifferent S dest f g (w.run source dest f) (w.run source dest g) := by
  have habreast : w.Abreast S D f g := ⟨hf, hg, htwins, hlinks, hfree, hsame, .inl hrenderer⟩
  have hlevel : w.Level S D f g source dest [] D :=
    { toAbreast := habreast
      included := by simp
      atHere := by simpa using hsource
      atHere' := by simpa using hsource'
      normal := hdest
      below := List.prefix_rfl
      atOut := hD
      atOut' := hD' }
  have hrun : Together D f g (w.run source dest f) (w.run source dest g) :=
    directory_accords hw pathLimit {} hlevel
  refine ⟨hrun.result, hrun.beside, htwins.beside hrun.left.later hrun.right.later hrun.beside, ?_⟩
  intro E hE
  obtain rfl : E = D := by
    rw [stat_directory_extends hD hrun.left.later] at hE
    cases hE
    rfl
  exact ⟨stat_directory_extends hD' hrun.right.later, fun rel => hrun.beside.same (hsame rel)⟩

theorem run_indifferent (hdest : dest.IsNormal) (hway : Alike f g dest)
    (hregion : ∀ D, (ensureDirectory dest f).2.stat dest = .ok (D, .directory) →
      f.LinkFree D ∧ ∀ rel, g.get? (D ++ rel) = f.get? (D ++ rel)) :
    w.Indifferent S dest f g (w.run source dest f) (w.run source dest g) := by
  rcases hx : ensureDirectory dest f with ⟨res, f₁⟩
  obtain ⟨g₁, hy, hmade⟩ := (ensureDirectory_parallel hdest hf hg hway).exists_eq hx
  have halike : Alike f₁ g₁ dest := hmade.alike hway
  have htwins₁ : w.Twins S f₁ g₁ := htwins.beside hmade.left.later hmade.right.later hmade.beside
  rw [hx] at hregion
  have hsame : ∀ D, f₁.stat dest = .ok (D, .directory) → g₁.stat dest = .ok (D, .directory) ∧
      ∀ rel, g₁.get? (D ++ rel) = f₁.get? (D ++ rel) := by
    intro D hD
    exact ⟨by rw [stat_congr halike, hD], fun rel => hmade.beside.same ((hregion D hD).2 rel)⟩
  cases res with
  | error fault =>
    rw [run_of_fault w hsource hx, run_of_fault w hsource' hy]
    exact ⟨rfl, hmade.beside, htwins₁, hsame⟩
  | ok _ =>
    obtain ⟨hleft, hstat⟩ := ensureDirectory_made hf hdest hx
    obtain ⟨D, hD⟩ := hstat rfl
    obtain ⟨hD', hsame⟩ := hsame D hD
    have hlinks₁ : ∀ rel target, f₁.get? (S ++ rel) = some (.link target) → w.Hidden S (S ++ rel) := by
      intro rel target hlink
      rcases hmade.left.change (S ++ rel) with hkept | ⟨-, hdir, -⟩
      · exact hlinks rel target (hkept ▸ hlink)
      · rw [hlink] at hdir
        cases hdir
    have hwalked := walked_indifferent hw hrenderer hmade.left.wellFormed hmade.right.wellFormed
      (stat_directory_extends hsource hmade.left.later)
      (stat_directory_extends hsource' hmade.right.later) htwins₁ hlinks₁ hdest hD hD'
      (hleft.linkFree (hregion D hD).1) hsame
    rw [run_of_made w hsource hx hmade.left.later hD, run_of_made w hsource' hy hmade.right.later hD']
    exact ⟨hwalked.result, hmade.beside.trans hwalked.places, hwalked.twins, hwalked.dest⟩

end

/-- Walks of two sources that differ in nothing but what is left out, into a destination that is the
same in both trees with all that leads there, come to the same. -/
theorem materialize_overlooks (hw : w.RenamesPlainly) (hrenderer : w.renderer.directory = none)
    {source dest : String} {s : Session} (hs : s.files.WellFormed) (hg : g.WellFormed)
    (hsource : s.files.stat (.ofText source) = .ok (S, .directory))
    (hsource' : g.stat (.ofText source) = .ok (S, .directory)) (htwins : w.Twins S s.files g)
    (hlinks : ∀ rel target, s.files.get? (S ++ rel) = some (.link target) → w.Hidden S (S ++ rel))
    (hway : Alike s.files g (.ofText dest))
    (hregion : ∀ D,
      (ensureDirectory (.ofText dest) s.files).2.stat (.ofText dest) = .ok (D, .directory) →
      s.files.LinkFree D ∧ ∀ rel, g.get? (D ++ rel) = s.files.get? (D ++ rel)) :
    let done := w.materialize (.ofText source) (.ofText dest) s
    let done' := w.materialize (.ofText source) (.ofText dest) { s with files := g }
    w.Indifferent S (.ofText dest) s.files g (done.1, done.2.files) (done'.1, done'.2.files) ∧
      done'.2.terminal = done.2.terminal := by
  have hrun := run_indifferent hw hrenderer hs hg hsource hsource' htwins hlinks
    (Path.ofText_isNormal dest) hway hregion
  have hsessions := materialize_congr w (s := s) hrun.result
  generalize w.materialize (.ofText source) (.ofText dest) s = done at hsessions
  generalize w.materialize (.ofText source) (.ofText dest) { s with files := g } = done' at hsessions
  obtain ⟨hresult, hterminal, hfiles, hfiles'⟩ := hsessions
  have hplaces := hrun.places
  have htwins := hrun.twins
  have hdest := hrun.dest
  rw [← hfiles, ← hfiles'] at hplaces htwins hdest
  exact ⟨⟨hresult, hplaces, htwins, hdest⟩, hterminal⟩

/-! ### Small pairs of trees -/

def pagesFiles (more pages : List (Place × Entry)) : Files where
  entries := [(["out"], .directory), (["src"], .directory), (["src", "pages.vue"], .directory)] ++
    more ++ pages

def pagesSession (more pages : List (Place × Entry)) : Session :=
  ⟨pagesFiles more pages, { width := 80 }⟩

def brokenPages : List (Place × Entry) :=
  [(["src", "pages.vue", "a.txt"], .directory),
    (["src", "pages.vue", "b.txt.j2"], .file "\x7b\x7b".toUTF8)]

def plainSource : List (Place × Entry) := [(["src", "a.txt"], .file "A".toUTF8)]

def pagesWalk (target : String) : Walk where
  vocabulary := ⟨["react", "vue"], [], Vocabulary.defaultPassthrough, "j2", [],
    [⟨"react", "a.txt", target⟩]⟩
  renderer := {}
  selection := ⟨"react", []⟩

theorem pages_wellFormed :
    (pagesFiles plainSource brokenPages).WellFormed ∧ (pagesFiles plainSource []).WellFormed := by
  constructor <;> refine Files.wellFormed_of_sound (by decide) ?_ (by decide) <;>
    unfold Files.Sound <;> simp [pagesFiles, plainSource, brokenPages] <;> decide

theorem pages_linkFree (place : Place) : (pagesFiles plainSource brokenPages).LinkFree place :=
  Files.linkFree_of_entries (by simp [pagesFiles, plainSource, brokenPages]) place

theorem pages_get? (more : List (Place × Entry)) {place : Place}
    (h : ∀ rest, rest ≠ [] → place ≠ ["src", "pages.vue"] ++ rest) :
    (pagesFiles more brokenPages).get? place = (pagesFiles more []).get? place := by
  have hbroken : brokenPages.lookup place = none := by
    have ha := h ["a.txt"] (by simp)
    have hb := h ["b.txt.j2"] (by simp)
    rw [List.lookup_eq_none_iff]
    simpa [brokenPages] using ⟨ha, hb⟩
  simp only [get?, pagesFiles, List.lookup_append, hbroken, List.append_nil, Option.or_none]

theorem pages_twins (target : String) (more : List (Place × Entry)) :
    (pagesWalk target).Twins ["src"] (pagesFiles more brokenPages) (pagesFiles more []) := by
  have hout : (pagesWalk target).includes ("pages.vue", true) = false := by rfl
  refine ⟨rfl, fun place => ?_⟩
  by_cases hpages : ∃ rest, rest ≠ [] ∧ place = ["src", "pages.vue"] ++ rest
  · obtain ⟨rest, hrest, rfl⟩ := hpages
    exact .inr (.inl ⟨[], "pages.vue", rest, rfl, hrest, hout⟩)
  · exact .inl (pages_get? more fun rest hrest heq => hpages ⟨rest, hrest, heq⟩).symm

theorem pages_alike :
    Alike (pagesFiles plainSource brokenPages) (pagesFiles plainSource []) (.ofText "out") := by
  have hnames : (Path.ofText "out").names = ["out"] := by decide +kernel
  have hstart : (pagesFiles plainSource brokenPages).start (.ofText "out") = [] := rfl
  refine ⟨rfl, fun q hq => ?_⟩
  rw [hnames, hstart] at hq
  obtain rfl : q = ["out"] := by
    generalize hout : ["out"] = names at hq
    cases hq with
    | here _ hq =>
      obtain ⟨rfl, rfl⟩ := List.cons.inj hout
      exact hq.symm
    | up => simp at hout
    | into _ _ hq =>
      obtain ⟨-, rfl⟩ := List.cons.inj hout
      cases hq
    | @link _ _ n target _ _ hlink _ _ => exact absurd hlink (pages_linkFree [] [n] target)
  rfl

theorem pages_apart : ∀ D,
    (ensureDirectory (.ofText "out") (pagesFiles plainSource brokenPages)).2.stat (.ofText "out") =
      .ok (D, .directory) →
    (pagesFiles plainSource brokenPages).LinkFree D ∧ ∀ rel,
      (pagesFiles plainSource []).get? (D ++ rel) =
        (pagesFiles plainSource brokenPages).get? (D ++ rel) := by
  have hout : (pagesFiles plainSource brokenPages).stat (.ofText "out") =
      .ok (["out"], .directory) := by rfl
  intro D hD
  rw [ensureDirectory_of_stat hout, hout] at hD
  cases hD
  exact ⟨pages_linkFree _, fun rel => (pages_get? plainSource (by simp)).symm⟩

theorem pages_materialized {target : String} {more pages : List (Place × Entry)}
    (hnames : (pagesFiles more pages).names ["src"] = ["a.txt", "pages.vue"])
    (hkind : (pagesFiles more pages).isDirectory? (.ofText "src/a.txt") = .ok false)
    {r? : Option Report} (hmissing : ∀ r, r? = some r → r.missing = [])
    (hentries : (entries ((pagesWalk target).entry ((pagesWalk target).directory (pathLimit - 1))
      (.ofText "src") (.ofText "out")) [("a.txt", false), ("pages.vue", true)] {}
      (pagesFiles more pages)).1.toOption = r?) :
    ((pagesWalk target).materialize (.ofText "src") (.ofText "out")
      (pagesSession more pages)).1.toOption = r? := by
  have hsource : (pagesFiles more pages).stat (.ofText "src") = .ok (["src"], .directory) := by rfl
  have hdest : (pagesFiles more pages).stat (.ofText "out") = .ok (["out"], .directory) := by rfl
  have hlist : listEntries (pagesFiles more pages) (.ofText "src") =
      .ok [("a.txt", false), ("pages.vue", true)] := by
    have hchild : (Path.ofText "src").child "a.txt" = .ofText "src/a.txt" := by decide +kernel
    have hpages : (pagesFiles more pages).isDirectory? ((Path.ofText "src").child "pages.vue") =
      .ok true := by rfl
    unfold listEntries Files.list
    rw [hsource]
    change Except.mapError _ (List.mapM _ ((pagesFiles more pages).names ["src"])) = _
    rw [hnames, List.mapM_cons, List.mapM_cons, List.mapM_nil, hchild, hkind, hpages]
    rfl
  have hrun : (pagesWalk target).run (.ofText "src") (.ofText "out") (pagesFiles more pages) =
      entries ((pagesWalk target).entry ((pagesWalk target).directory (pathLimit - 1))
        (.ofText "src") (.ofText "out")) [("a.txt", false), ("pages.vue", true)] {}
        (pagesFiles more pages) := by
    change (pagesWalk target).directory (pathLimit - 1 + 1) _ _ {} _ = _
    rw [directory_made _ _ {} hsource (ensureDirectory_of_stat hdest), hlist]
  rw [← hrun] at hentries
  rcases hx : (pagesWalk target).run (.ofText "src") (.ofText "out") (pagesFiles more pages) with
    ⟨fault | r, fs⟩ <;> rw [hx] at hentries
  · rw [materialize_of_error _ hx]
    exact hentries
  · rw [(materialize_of_ok _ hx).2.2 (hmissing r hentries.symm)]
    exact hentries

/-- What is left out may be in the way of a file that goes to a path, may be what a link in the
source leads to, and may be what a link in the destination leads to. -/
theorem pages_in_the_way :
    let report (target : String) (more pages : List (Place × Entry)) : Option Report :=
      ((pagesWalk target).materialize (.ofText "src") (.ofText "out")
        (pagesSession more pages)).1.toOption
    let linked : List (Place × Entry) := [(["src", "a.txt"], .link "pages.vue/b.txt.j2")]
    let pointing : List (Place × Entry) :=
      (["out", "b.txt"], .link "../src/pages.vue/a.txt") :: plainSource
    let copied (p : String) : Report :=
      { copied := [.ofText p], skipped := [.ofText "src/pages.vue"] }
    (∀ target more, (pagesWalk target).renderer.directory = none ∧
      (pagesWalk target).Twins ["src"] (pagesFiles more brokenPages) (pagesFiles more [])) ∧
    (report "../src/pages.vue/a.txt" plainSource brokenPages = none ∧
      report "../src/pages.vue/a.txt" plainSource [] = some (copied "out/../src/pages.vue/a.txt")) ∧
    (report "b.txt" linked brokenPages = some (copied "out/b.txt") ∧ report "b.txt" linked [] = none) ∧
    (report "b.txt" pointing brokenPages = none ∧ report "b.txt" pointing [] = some (copied "out/b.txt")) := by
  refine ⟨fun target more => ⟨rfl, pages_twins target more⟩, ⟨?_, ?_⟩, ⟨?_, ?_⟩, ?_, ?_⟩
  all_goals
    refine pages_materialized ?_ (by rfl) (by simp) (by decide +kernel)
    simp [Files.names, pagesFiles, plainSource, brokenPages, List.mergeSort]

theorem pages_overlooked :
    let w := pagesWalk "b.txt"
    let done := w.materialize (.ofText "src") (.ofText "out") (pagesSession plainSource brokenPages)
    let done' := w.materialize (.ofText "src") (.ofText "out") (pagesSession plainSource [])
    done.1.toOption = some { copied := [.ofText "out/b.txt"], skipped := [.ofText "src/pages.vue"] } ∧
      w.Indifferent ["src"] (.ofText "out") (pagesFiles plainSource brokenPages)
        (pagesFiles plainSource []) (done.1, done.2.files) (done'.1, done'.2.files) := by
  have hplain : (pagesWalk "b.txt").RenamesPlainly := by
    simp [Walk.RenamesPlainly, pagesWalk, Path.IsPlain]
  have hsource : (pagesSession plainSource brokenPages).files.stat (.ofText "src") =
      .ok (["src"], .directory) := by rfl
  have hsource' : (pagesFiles plainSource []).stat (.ofText "src") = .ok (["src"], .directory) := by
    rfl
  have hlinks : ∀ rel target, (pagesFiles plainSource brokenPages).get? (["src"] ++ rel) =
      some (.link target) → (pagesWalk "b.txt").Hidden ["src"] (["src"] ++ rel) :=
    fun rel target hlink => absurd hlink (pages_linkFree ["src"] rel target)
  have hindifferent := materialize_overlooks hplain rfl pages_wellFormed.1 pages_wellFormed.2 hsource
    hsource' (pages_twins _ _) hlinks pages_alike pages_apart
  refine ⟨pages_materialized ?_ (by rfl) (by simp) (by decide +kernel), hindifferent.1⟩
  simp [Files.names, pagesFiles, plainSource, brokenPages, List.mergeSort]

end Scaffold.Walk
