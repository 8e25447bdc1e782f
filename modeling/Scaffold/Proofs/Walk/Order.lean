import Scaffold.Proofs.Files.Below
import Scaffold.Proofs.Walk.Step

set_option autoImplicit false

/-!
# The order of a walk

Where source and destination are apart, a walk is one visit after the other: to the places below
the source in their order, past the directories that do not fit the selection. What the walk makes
on its way does not change where it goes.
-/
namespace Scaffold.Walk
open Files

variable {fs fs' fs₂ : Files} {source dest : Path} {S P : Place} {w : Walk} {r : Report}

/-! ### Steps one after the other -/

section
variable {α β : Type} (step : α → Report → Step Report)

theorem entries_append (xs ys : List α) (r : Report) (fs : Files) :
    entries step (xs ++ ys) r fs =
      match entries step xs r fs with
      | (.error f, fs') => (.error f, fs')
      | (.ok r', fs') => entries step ys r' fs' := by
  induction xs generalizing r fs with
  | nil => rfl
  | cons x xs ih =>
    rw [List.cons_append, entries, entries]
    rcases step x r fs with ⟨f | r', fs'⟩
    · rfl
    · exact ih r' fs'

theorem entries_single (x : α) (r : Report) (fs : Files) :
    entries step [x] r fs = step x r fs := by
  rw [entries]
  rcases step x r fs with ⟨f | r', fs'⟩ <;> rfl

theorem entries_map (g : β → α) (xs : List β) (r : Report) (fs : Files) :
    entries step (xs.map g) r fs = entries (fun x => step (g x)) xs r fs := by
  induction xs generalizing r fs with
  | nil => rfl
  | cons x xs ih =>
    rw [List.map_cons, entries, entries]
    rcases step (g x) r fs with ⟨f | r', fs'⟩
    · rfl
    · exact ih r' fs'

theorem entries_congr {step step' : α → Report → Step Report} {xs : List α}
    (h : ∀ x ∈ xs, step x = step' x) (r : Report) (fs : Files) :
    entries step xs r fs = entries step' xs r fs := by
  induction xs generalizing r fs with
  | nil => rfl
  | cons x xs ih =>
    rw [entries, entries, h x (by simp)]
    rcases step' x r fs with ⟨f | r', fs'⟩
    · rfl
    · exact ih (fun y hy => h y (List.mem_cons_of_mem _ hy)) r' fs'

end

/-! ### Visits -/

/-- The entries that a walk comes to, each as the names that lead to it and whether it is a
directory: in order, those below directories that all fit the selection. -/
def visits (w : Walk) (fs : Files) (S : Place) : List (List String × Bool) :=
  ((fs.below S).filter fun rel => rel.dropLast.all fun n => w.includes (n, true)).map
    fun rel => (rel, decide (fs.get? (S ++ rel) = some .directory))

/-- A directory is not entered, but it has to be one that can be listed. -/
def peek (here _ : Path) (r : Report) : Step Report := fun fs =>
  ((listEntries fs here).map fun _ => r, fs)

theorem peek_eq_ok {here there : Path} {r' : Report} :
    peek here there r fs = (.ok r', fs') ↔
      r' = r ∧ fs' = fs ∧ ∃ es, listEntries fs here = .ok es := by
  unfold peek
  cases listEntries fs here with
  | error f => simp [Except.map]
  | ok es => simp [Except.map, eq_comm]

/-- What a walk does at one entry, apart from what it does below. -/
def visit (w : Walk) (source dest : Path) (v : List String × Bool) : Report → Step Report :=
  w.entry peek (source.under v.1.dropLast)
    (dest.under (v.1.dropLast.map fun n => w.outName (n, true))) (v.1.getLast?.getD "", v.2)

theorem visit_single (w : Walk) (source dest : Path) (n : String) (isDirectory : Bool) :
    w.visit source dest ([n], isDirectory) = w.entry peek source dest (n, isDirectory) := by
  simp [visit, Path.under_nil]

theorem visit_concat (w : Walk) (source dest : Path) (above : List String) (n : String)
    (isDirectory : Bool) :
    w.visit source dest (above ++ [n], isDirectory) =
      w.entry peek (source.under above) (dest.under (above.map fun n => w.outName (n, true)))
        (n, isDirectory) := by
  simp [visit]

theorem visit_cons (w : Walk) (source dest : Path) (n : String) {rel : List String} (h : rel ≠ [])
    (isDirectory : Bool) :
    w.visit source dest (n :: rel, isDirectory) =
      w.visit (source.child n) (dest.child (w.outName (n, true))) (rel, isDirectory) := by
  obtain ⟨m, rest, rfl⟩ := List.exists_cons_of_ne_nil h
  simp [visit, Path.under_cons]

/-- An entry of a directory, and then what is below it if it may be entered. -/
def visitsFrom (w : Walk) (fs : Files) (S : Place) (n : String) : List (List String × Bool) :=
  ([n], decide (fs.get? (S ++ [n]) = some .directory)) ::
    if w.includes (n, true) then (w.visits fs (S ++ [n])).map fun v => (n :: v.1, v.2) else []

theorem visits_eq (w : Walk) (hfs : fs.WellFormed) (S : Place) :
    w.visits fs S = (fs.names S).flatMap (w.visitsFrom fs S) := by
  unfold visitsFrom visits
  rw [below_eq_flatMap hfs, List.filter_flatMap, List.map_flatMap]
  refine List.flatMap_congr fun n _ => ?_
  have hbelow : ((fs.below (S ++ [n])).map (n :: ·)).filter
      (fun rel => rel.dropLast.all fun m => w.includes (m, true)) =
        if w.includes (n, true) then
          ((fs.below (S ++ [n])).filter fun rel => rel.dropLast.all fun m => w.includes (m, true)).map
            (n :: ·)
        else [] := by
    rw [List.filter_map]
    have htest : ∀ rel ∈ fs.below (S ++ [n]),
        ((fun rel : List String => rel.dropLast.all fun m => w.includes (m, true)) ∘ (n :: ·)) rel =
          (w.includes (n, true) && rel.dropLast.all fun m => w.includes (m, true)) := by
      intro rel hrel
      obtain ⟨m, rest, rfl⟩ := List.exists_cons_of_ne_nil (mem_below.1 hrel).1
      simp
    rw [List.filter_congr htest]
    cases w.includes (n, true) <;> simp
  rw [List.filter_cons, hbelow]
  cases w.includes (n, true) <;> simp [Function.comp_def]

theorem visits_congr (w : Walk) (h : fs.WellFormed) (h' : fs'.WellFormed)
    (hsame : ∀ rel, rel ≠ [] → fs'.get? (S ++ rel) = fs.get? (S ++ rel)) :
    w.visits fs' S = w.visits fs S := by
  unfold visits
  rw [below_congr h h' hsame]
  refine List.map_congr_left fun rel hrel => ?_
  rw [hsame rel (mem_below.1 (List.mem_filter.1 hrel).1).1]

/-! ### Directories that are apart -/

/-- A path leads to a directory without links. -/
structure Stands (fs : Files) (dest : Path) (P : Place) : Prop where
  wellFormed : fs.WellFormed
  atDest : fs.stat dest = .ok (P, .directory)
  normal : dest.IsNormal
  destFree : fs.LinkFree P

/-- Another path leads to such a directory too, and neither is in the other. -/
structure Ready (fs : Files) (source dest : Path) (S P : Place) : Prop
    extends Stands fs dest P where
  atSource : fs.stat source = .ok (S, .directory)
  sourceFree : fs.LinkFree S
  apart : ¬ S <+: P ∧ ¬ P <+: S

theorem not_prefix_below {rel : List String} (h : ¬ S <+: P ∧ ¬ P <+: S) : ¬ P <+: S ++ rel := by
  intro hP
  rcases List.prefix_or_prefix_of_prefix hP (List.prefix_append S rel) with hPS | hSP
  · exact h.2 hPS
  · exact h.1 hSP

theorem Stands.later (h : Stands fs dest P) (hg : Grown P fs fs') : Stands fs' dest P where
  wellFormed := hg.wellFormed
  atDest := stat_directory_extends h.atDest hg.later
  normal := h.normal
  destFree := hg.linkFree h.destFree

theorem Stands.child (h : Stands fs dest P) {m : String} (hm : Path.IsPlain m)
    (hdest : fs.stat (dest.child m) = .ok (P ++ [m], .directory)) :
    Stands fs (dest.child m) (P ++ [m]) where
  wellFormed := h.wellFormed
  atDest := hdest
  normal := h.normal.child hm
  destFree rel target := by
    rw [List.append_assoc]
    exact h.destFree _ target

namespace Ready

theorem later (h : Ready fs source dest S P) (hg : Grown P fs fs') : Ready fs' source dest S P where
  toStands := h.toStands.later hg
  atSource := stat_directory_extends h.atSource hg.later
  sourceFree := hg.linkFree h.sourceFree
  apart := h.apart

theorem unchanged (h : Ready fs source dest S P) (hg : Grown P fs fs') (rel : List String) :
    fs'.get? (S ++ rel) = fs.get? (S ++ rel) :=
  hg.outside _ (not_prefix_below h.apart)

theorem named (h : Ready fs source dest S P) {n : String} (hn : n ∈ fs.names S) :
    Path.IsPlain n ∧ '\x00' ∉ n.toList := by
  obtain ⟨e, he⟩ := (mem_names fs S n).1 hn
  exact h.wellFormed.named he

theorem listed (h : Ready fs source dest S P) {es : List (String × Bool)}
    (hlist : listEntries fs source = .ok es) :
    es = (fs.names S).map (fun n => (n, decide (fs.get? (S ++ [n]) = some .directory))) ∧
      ∀ n ∈ fs.names S, fs.get? (S ++ [n]) = some .directory →
        fs.stat (source.child n) = .ok (S ++ [n], .directory) := by
  obtain ⟨Q, hQ, hnames, hkinds⟩ := listEntries_eq_ok hlist
  obtain rfl : Q = S := by
    have hplace := hQ.symm.trans h.atSource
    cases hplace
    rfl
  have hlink : ∀ n target, fs.get? (Q ++ [n]) ≠ some (.link target) :=
    fun n target => h.sourceFree [n] target
  have hkind : ∀ e ∈ es, e.2 = decide (fs.get? (Q ++ [e.1]) = some .directory) := by
    intro e he
    have hn := h.named (hnames ▸ List.mem_map_of_mem he : e.1 ∈ fs.names Q)
    exact isDirectory?_child h.atSource hn.1 hn.2 (hlink e.1) (hkinds e he)
  constructor
  · calc es = es.map id := (List.map_id es).symm
      _ = es.map fun e => (e.1, decide (fs.get? (Q ++ [e.1]) = some .directory)) :=
        List.map_congr_left fun e he => Prod.ext rfl (hkind e he)
      _ = (fs.names Q).map fun n => (n, decide (fs.get? (Q ++ [n]) = some .directory)) := by
        rw [← hnames, List.map_map]
        rfl
  · intro n hn hdir
    rw [← hnames] at hn
    obtain ⟨e, he, rfl⟩ := List.mem_map.1 hn
    have hasked := hkinds e he
    rw [hkind e he, decide_eq_true hdir] at hasked
    obtain ⟨D, hD⟩ := isDirectory?_eq_true.1 hasked
    have hplain := (h.named (hnames ▸ List.mem_map_of_mem he : e.1 ∈ fs.names Q)).1
    obtain ⟨-, rfl, -⟩ := stat_child_inv h.atSource hplain.2.2.2 (hlink e.1) hD
    exact hD

theorem child (h : Ready fs source dest S P) {n m : String} (hm : Path.IsPlain m)
    (hsource : fs.stat (source.child n) = .ok (S ++ [n], .directory))
    (hdest : fs.stat (dest.child m) = .ok (P ++ [m], .directory)) :
    Ready fs (source.child n) (dest.child m) (S ++ [n]) (P ++ [m]) where
  toStands := h.toStands.child hm hdest
  atSource := hsource
  sourceFree rel target := by
    rw [List.append_assoc]
    exact h.sourceFree _ target
  apart := by
    constructor
    · exact fun hS => not_prefix_below ⟨h.apart.2, h.apart.1⟩ ((List.prefix_append S [n]).trans hS)
    · exact fun hP => not_prefix_below h.apart ((List.prefix_append P [m]).trans hP)

end Ready

/-- At an entry a walk passes by, fails without a trace, makes a directory and goes on into it, or
writes a file. -/
theorem entry_lands (hw : w.RenamesPlainly) (source : Path) (h : Stands fs dest P) {e : String × Bool}
    (he : Path.IsPlain e.1) :
    (w.includes e = false ∧
      ∀ descend r, w.entry descend source dest e r fs = (.ok (r.addSkipped (source.child e.1)), fs)) ∨
    (w.includes e = true ∧ ∃ f, ∀ descend r, w.entry descend source dest e r fs = (.error f, fs)) ∨
    (w.includes e = true ∧ e.2 = true ∧ ∃ fs', Puts P (w.outName e) .directory fs fs' ∧
      fs'.stat (dest.child (w.outName e)) = .ok (P ++ [w.outName e], .directory) ∧
      ∀ descend r, w.entry descend source dest e r fs =
        descend (source.child e.1) (dest.child (w.outName e))
          (r.addDirectory (dest.child (w.outName e))) fs') ∨
    (w.includes e = true ∧ e.2 = false ∧ ∃ c fs', w.Yields fs (source.child e.1) c ∧
      Puts P (w.outName e) (.file c) fs fs' ∧
      ∀ descend r, w.entry descend source dest e r fs =
        (.ok (r.addFile (FileName.isRendered w.vocabulary e.1) (dest.child (w.outName e))), fs')) := by
  obtain ⟨n, isDirectory⟩ := e
  have hout := outName_isPlain hw (e := (n, isDirectory)) he
  have hlink : ∀ target, fs.get? (P ++ [w.outName (n, isDirectory)]) ≠ some (.link target) :=
    fun target => h.destFree [_] target
  cases hincluded : w.includes (n, isDirectory) with
  | false => exact .inl ⟨rfl, fun descend r => entry_skipped w source dest fs hincluded descend r⟩
  | true =>
    cases isDirectory with
    | true =>
      rcases entry_directory w source dest fs he hincluded with
        ⟨f, fs', hmake, hentry⟩ | ⟨fs', hmake, hentry⟩
      · rcases ensureDirectory_lands h.wellFormed h.atDest hout hlink with
          ⟨f', hf⟩ | ⟨fs'', hok, -⟩
        · rw [hf] at hmake
          cases hmake
          exact .inr (.inl ⟨rfl, _, hentry⟩)
        · rw [hok] at hmake
          cases hmake
      · rcases ensureDirectory_lands h.wellFormed h.atDest hout hlink with
          ⟨f', hf⟩ | ⟨fs'', hok, hputs, hstat⟩
        · rw [hf] at hmake
          cases hmake
        · rw [hok] at hmake
          cases hmake
          exact .inr (.inr (.inl ⟨rfl, rfl, fs', hputs, hstat, hentry⟩))
    | false =>
      rcases entry_file hw source dest fs he hincluded with
        ⟨f, hentry⟩ | ⟨c, fs', hyields, hwrite, hentry⟩
      · exact .inr (.inl ⟨rfl, f, hentry⟩)
      · rcases write_lands h.wellFormed h.atDest hout hlink h.normal c with
          ⟨f', hf⟩ | ⟨fs'', hok, hputs⟩
        · rw [hf] at hwrite
          cases hwrite
        · rw [hok] at hwrite
          cases hwrite
          exact .inr (.inr (.inr ⟨rfl, rfl, c, fs', hyields, hputs, hentry⟩))

/-! ### The walk as visits -/

def walked (w : Walk) (source dest : Path) (S : Place) (r : Report) : Step Report := fun fs =>
  match listEntries fs source with
  | .error f => (.error f, fs)
  | .ok _ => entries (w.visit source dest) (w.visits fs S) r fs

/-- A way to walk that comes to its visits, from sources so deep that a budget makes up for what
their paths leave of the longest path. -/
def Unfolds (w : Walk) (budget : Nat) (descend : Path → Path → Report → Step Report) : Prop :=
  ∀ (source dest : Path) (S P : Place) (r : Report) (fs : Files), Ready fs source dest S P →
    pathLimit + 1 < budget + Path.span source.names →
    descend source dest r fs = w.walked source dest S r fs ∧
      Grown P fs (descend source dest r fs).2

theorem visitsFrom_single (hfs : fs.WellFormed) {n : String}
    (h : fs.get? (S ++ [n]) ≠ some .directory ∨ w.includes (n, true) = false) :
    w.visitsFrom fs S n = [([n], decide (fs.get? (S ++ [n]) = some .directory))] := by
  unfold visitsFrom
  rcases h with hkind | hout
  · have hempty : fs.below (S ++ [n]) = [] := by
      rw [List.eq_nil_iff_forall_not_mem]
      intro rel hrel
      obtain ⟨hne, e, he⟩ := mem_below.1 hrel
      rw [hfs.absent_below hkind hne] at he
      cases he
    simp [visits, hempty]
  · simp [hout]

theorem entries_inside (w : Walk) (fs : Files) (S : Place) (source dest : Path) (n : String)
    (r : Report) (fs' : Files) :
    entries (w.visit source dest) ((w.visits fs (S ++ [n])).map fun v => (n :: v.1, v.2)) r fs' =
      entries (w.visit (source.child n) (dest.child (w.outName (n, true))))
        (w.visits fs (S ++ [n])) r fs' := by
  rw [entries_map]
  refine entries_congr (fun v hv => ?_) r fs'
  obtain ⟨rel, hrel, rfl⟩ := List.mem_map.1 hv
  exact visit_cons w source dest n (mem_below.1 (List.mem_filter.1 hrel).1).1 _

section
variable {budget : Nat} {descend : Path → Path → Report → Step Report} (hw : w.RenamesPlainly)
  (h : Ready fs source dest S P) (hdescend : Unfolds w budget descend)
  (hbudget : pathLimit + 1 < budget + 2 + Path.span source.names)
include hw h hdescend hbudget

/-- To go into a directory of the source is to visit it and what there is below it. -/
theorem descend_unfolds {n : String} (hplain : Path.IsPlain n)
    (hkind : fs.get? (S ++ [n]) = some .directory)
    (hstat : fs.stat (source.child n) = .ok (S ++ [n], .directory))
    (hincluded : w.includes (n, true) = true) (hg : Grown P fs fs')
    (hchild : fs'.stat (dest.child (w.outName (n, true))) = .ok (P ++ [w.outName (n, true)], .directory))
    (hentry : ∀ descend r, w.entry descend source dest (n, true) r fs₂ =
      descend (source.child n) (dest.child (w.outName (n, true)))
        (r.addDirectory (dest.child (w.outName (n, true)))) fs') :
    w.entry descend source dest (n, true) r fs₂ =
        entries (w.visit source dest) (w.visitsFrom fs S n) r fs₂ ∧
      Grown P fs (w.entry descend source dest (n, true) r fs₂).2 := by
  have hin : Ready fs' (source.child n) (dest.child (w.outName (n, true))) (S ++ [n])
      (P ++ [w.outName (n, true)]) :=
    (h.later hg).child (outName_isPlain hw hplain) (stat_directory_extends hstat hg.later) hchild
  have hdeep : pathLimit + 1 < budget + Path.span (source.child n).names := by
    have hsize : 0 < n.utf8ByteSize := by
      have := hplain.1
      simpa [Nat.pos_iff_ne_zero] using this
    rw [Path.child, Path.span_concat]
    omega
  obtain ⟨hwalked, hgrown⟩ := hdescend _ _ _ _
    (r.addDirectory (dest.child (w.outName (n, true)))) fs' hin hdeep
  have hgrown := hg.trans (hgrown.mono (List.prefix_append P _))
  have hsame : w.visits fs' (S ++ [n]) = w.visits fs (S ++ [n]) :=
    visits_congr w h.wellFormed hg.wellFormed fun rel _ => by
      rw [List.append_assoc]
      exact h.unchanged hg _
  rw [hentry]
  refine ⟨?_, hgrown⟩
  rw [hwalked, visitsFrom, hkind, decide_eq_true rfl, hincluded, if_pos rfl, entries, visit_single,
    hentry]
  unfold walked peek
  cases hlist : listEntries fs' (source.child n) with
  | error f => rfl
  | ok es => simp only [Except.map, entries_inside, hsame]

theorem entry_unfolds {n : String} (hplain : Path.IsPlain n)
    (hstat : fs.get? (S ++ [n]) = some .directory →
      fs.stat (source.child n) = .ok (S ++ [n], .directory))
    (hg : Grown P fs fs') :
    let e := (n, decide (fs.get? (S ++ [n]) = some .directory))
    w.entry descend source dest e r fs' =
        entries (w.visit source dest) (w.visitsFrom fs S n) r fs' ∧
      Grown P fs (w.entry descend source dest e r fs').2 := by
  intro e
  rcases entry_lands hw source (h.later hg).toStands (e := e) hplain with
    ⟨hout, hentry⟩ | ⟨-, f, hentry⟩ | ⟨hincluded, hdir, fs'', hputs, hchild, hentry⟩ |
    ⟨-, hfile, c, fs'', -, hputs, hentry⟩
  · have hnone : fs.get? (S ++ [n]) ≠ some .directory ∨ w.includes (n, true) = false := by
      by_cases hkind : fs.get? (S ++ [n]) = some .directory
      · rw [show e = (n, true) from Prod.ext rfl (decide_eq_true hkind)] at hout
        exact .inr hout
      · exact .inl hkind
    rw [visitsFrom_single h.wellFormed hnone, entries_single, visit_single, hentry, hentry]
    exact ⟨rfl, hg⟩
  · rw [visitsFrom, entries, visit_single, hentry, hentry]
    exact ⟨rfl, hg⟩
  · have hkind : fs.get? (S ++ [n]) = some .directory := by simpa [e] using hdir
    rw [show e = (n, true) from Prod.ext rfl (decide_eq_true hkind)] at hincluded hputs hchild hentry ⊢
    exact descend_unfolds hw h hdescend hbudget hplain hkind (hstat hkind) hincluded
      (hg.trans (hputs.grown (by simp))) hchild hentry
  · have hkind : fs.get? (S ++ [n]) ≠ some .directory := by simpa [e] using hfile
    rw [visitsFrom_single h.wellFormed (.inl hkind), entries_single, visit_single, hentry, hentry]
    exact ⟨rfl, hg.trans (hputs.grown (by simp))⟩

theorem entries_unfold {ns : List String}
    (hns : ∀ n ∈ ns, Path.IsPlain n ∧ (fs.get? (S ++ [n]) = some .directory →
      fs.stat (source.child n) = .ok (S ++ [n], .directory)))
    (hg : Grown P fs fs') :
    let es := ns.map fun n => (n, decide (fs.get? (S ++ [n]) = some .directory))
    entries (w.entry descend source dest) es r fs' =
        entries (w.visit source dest) (ns.flatMap (w.visitsFrom fs S)) r fs' ∧
      Grown P fs (entries (w.entry descend source dest) es r fs').2 := by
  induction ns generalizing r fs' with
  | nil => exact ⟨rfl, hg⟩
  | cons n ns ih =>
    obtain ⟨hplain, hstat⟩ := hns n (by simp)
    have hrest := fun m hm => hns m (List.mem_cons_of_mem n hm)
    obtain ⟨hentry, hgrown⟩ := entry_unfolds (r := r) hw h hdescend hbudget hplain hstat hg
    simp only [List.map_cons, List.flatMap_cons, entries_append, entries, ← hentry]
    generalize w.entry descend source dest _ r fs' = done at hgrown ⊢
    obtain ⟨f | r', fs''⟩ := done
    · exact ⟨rfl, hgrown⟩
    · exact ih hrest hgrown

end

theorem exists_of_stat {p : Path} (h : fs.stat p = .ok (P, .directory)) :
    fs.exists? p = .ok true := by
  unfold exists? asks
  rw [h]

theorem listed_walked {budget : Nat} {descend : Path → Path → Report → Step Report}
    (hw : w.RenamesPlainly) (h : Ready fs source dest S P) (hdescend : Unfolds w budget descend)
    (hbudget : pathLimit + 1 < budget + 2 + Path.span source.names) {es : List (String × Bool)}
    (hlist : listEntries fs source = .ok es) :
    entries (w.entry descend source dest) es r fs = w.walked source dest S r fs ∧
      Grown P fs (entries (w.entry descend source dest) es r fs).2 := by
  obtain ⟨hes, hstats⟩ := h.listed hlist
  have hunfold := entries_unfold hw h hdescend hbudget (r := r)
    (fun n hn => ⟨(h.named hn).1, hstats n hn⟩) (.refl P h.wellFormed)
  rw [← hes, ← visits_eq w h.wellFormed] at hunfold
  rw [walked, hlist]
  exact hunfold

theorem directory_unfolds (hw : w.RenamesPlainly) (depth : Nat) :
    Unfolds w (2 * depth) (w.directory depth) := by
  induction depth with
  | zero =>
    -- A source so deep would have a path that is too long to lead anywhere.
    intro source dest S P r fs h hdeep
    have htakes := (stat_directory_iff.1 h.atSource).1.2
    have hspan := Path.span_le_text source
    omega
  | succ depth ih =>
    intro source dest S P r fs h hdeep
    have hmake := ensureDirectory_of_stat h.atDest
    rcases directory_cases w depth source dest r fs with
      ⟨f, hask, -⟩ | ⟨hask, -⟩ | ⟨f, fs', hmake', -⟩ | ⟨fs', hmake', hrun⟩
    · rw [exists_of_stat h.atSource] at hask
      cases hask
    · rw [exists_of_stat h.atSource] at hask
      cases hask
    · rw [hmake] at hmake'
      cases hmake'
    · rw [hmake] at hmake'
      cases hmake'
      rcases hrun with ⟨f, hlist, hrun⟩ | ⟨es, hlist, hrun⟩ <;> rw [hrun]
      · rw [walked, hlist]
        exact ⟨rfl, .refl P h.wellFormed⟩
      · exact listed_walked hw h ih (by omega) hlist

/-- What is still to be made of a destination, and what it leads to, is neither in the directory
nor around it; it leads to no links. -/
structure Apart (fs : Files) (S : Place) (dest : Path) : Prop where
  made : ∀ place, MadeFor dest fs (ensureDirectory dest fs).2 place → ¬ S <+: place
  outside : ∀ D, (ensureDirectory dest fs).2.stat dest = .ok (D, .directory) →
    ¬ S <+: D ∧ ¬ D <+: S
  regular : ∀ D, (ensureDirectory dest fs).2.stat dest = .ok (D, .directory) → fs.LinkFree D

theorem apart_of_stat {dest : Path} {D : Place} (h : fs.stat dest = .ok (D, .directory))
    (houtside : ¬ S <+: D ∧ ¬ D <+: S) (hlink : fs.LinkFree D) : Apart fs S dest := by
  have hsame : (ensureDirectory dest fs).2 = fs := by rw [ensureDirectory_of_stat h]
  constructor <;> rw [hsame]
  · rintro place ⟨hnone, hdir, -⟩
    rw [hnone] at hdir
    cases hdir
  all_goals
    intro E hE
    have heq := h.symm.trans hE
    cases heq
  · exact houtside
  · exact hlink

/-- A walk fails to make its destination, or visits there what there is in the source. -/
theorem run_cases (hw : w.RenamesPlainly) (hfs : fs.WellFormed)
    (hsource : fs.stat source = .ok (S, .directory)) (hlink : fs.LinkFree S)
    (hdest : dest.IsNormal) (hapart : Apart fs S dest) :
    (∃ f fs', ensureDirectory dest fs = (.error f, fs') ∧
      w.run source dest fs = (.error (.ofFault "Cannot create directory" dest f), fs')) ∨
    ∃ fs₁ D, ensureDirectory dest fs = (.ok (), fs₁) ∧ Made dest fs fs₁ ∧
      Ready fs₁ source dest S D ∧ (∀ rel, fs₁.get? (S ++ rel) = fs.get? (S ++ rel)) ∧
      w.run source dest fs = w.walked source dest S {} fs₁ ∧
      Grown D fs₁ (w.run source dest fs).2 := by
  have hlimit : w.run source dest fs = w.directory (pathLimit - 1 + 1) source dest {} fs := rfl
  rw [hlimit]
  rcases directory_cases w (pathLimit - 1) source dest {} fs with
    ⟨f, hask, -⟩ | ⟨hask, -⟩ | ⟨f, fs', hmake, hrun⟩ | ⟨fs₁, hmake, hrun⟩
  · rw [exists_of_stat hsource] at hask
    cases hask
  · rw [exists_of_stat hsource] at hask
    cases hask
  · exact .inl ⟨f, fs', hmake, hrun⟩
  · obtain ⟨hmade, hstat⟩ := ensureDirectory_made hfs hdest hmake
    obtain ⟨D, hD⟩ := hstat rfl
    obtain ⟨hnew, houtside, hregular⟩ := hapart
    rw [hmake] at hnew houtside hregular
    have hready : Ready fs₁ source dest S D :=
      ⟨⟨hmade.wellFormed, hD, hdest, hmade.linkFree (hregular D hD)⟩,
        stat_directory_extends hsource hmade.later, hmade.linkFree hlink, houtside D hD⟩
    have hkept : ∀ rel, fs₁.get? (S ++ rel) = fs.get? (S ++ rel) := by
      intro rel
      rcases hmade.change (S ++ rel) with hsame | hmadeFor
      · exact hsame
      · exact absurd (List.prefix_append S rel) (hnew _ hmadeFor)
    refine .inr ⟨fs₁, D, hmake, hmade, hready, hkept, ?_⟩
    rcases hrun with ⟨f, hlist, hrun⟩ | ⟨es, hlist, hrun⟩ <;> rw [hrun]
    · rw [walked, hlist]
      exact ⟨rfl, .refl D hmade.wellFormed⟩
    · refine listed_walked hw hready (directory_unfolds hw (pathLimit - 1)) ?_ hlist
      have hbig : pathLimit + 1 < 2 * (pathLimit - 1) + 2 := by decide
      omega

end Scaffold.Walk
