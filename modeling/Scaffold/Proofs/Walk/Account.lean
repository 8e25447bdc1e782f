import Scaffold.Proofs.Walk.Overlay

set_option autoImplicit false

/-!
# What a report tells

A walk that does not fail comes to the entries of its source and of each directory that it goes
into, and its report has each of them once, in one list: what was made or written by where it
came out, what was left out by where it is. Nothing is assumed here of the names that files are
renamed to, of links, or of where source and destination are; a directory is what it was when the
walk listed it. In a source that stays as it is, the entries are those of the tree.
-/
namespace Scaffold

inductive Fate where
  | directory
  | rendered
  | copied
  | skipped
  deriving DecidableEq

namespace Report

def list (r : Report) : Fate → List Path
  | .directory => r.directories
  | .rendered => r.rendered
  | .copied => r.copied
  | .skipped => r.skipped

def add (r : Report) : Fate → Path → Report
  | .directory, p => r.addDirectory p
  | .rendered, p => r.addFile true p
  | .copied, p => r.addFile false p
  | .skipped, p => r.addSkipped p

theorem list_add (r : Report) (k k' : Fate) (p : Path) :
    (r.add k p).list k' = r.list k' ++ if k = k' then [p] else [] := by
  cases k <;> cases k' <;> simp [add, list, addDirectory, addFile, addSkipped]

theorem missing_add (r : Report) (k : Fate) (p : Path) : (r.add k p).missing = r.missing := by
  cases k <;> rfl

theorem summary_eq (r : Report) : r.summary = [
    ("Directories", toString (r.list .directory).length),
    ("Rendered files", toString (r.list .rendered).length),
    ("Copied files", toString (r.list .copied).length),
    ("Skipped entries", toString (r.list .skipped).length)] := rfl

end Report

namespace Walk
open Files

variable {w : Walk} {source dest : Path} {fs fs' fs'' : Files} {r r' : Report}
  {vs vs' : List (List String × Bool)} {rel : List String} {n : String}

/-! ### Notes -/

def fate (w : Walk) (v : List String × Bool) : Fate :=
  if !w.takes v then .skipped
  else if v.2 then .directory
  else if FileName.isRendered w.vocabulary (lastName v.1) then .rendered
  else .copied

def outPath (w : Walk) (dest : Path) (v : List String × Bool) : Path :=
  if v.2 then dest.under (v.1.map fun n => w.outName (n, true))
  else w.targetOf (dest.under (v.1.dropLast.map fun n => w.outName (n, true))) (lastName v.1)

/-- The path that a report has of an entry: where it came out, or where it was left. -/
def notedPath (w : Walk) (source dest : Path) (v : List String × Bool) : Path :=
  if w.takes v then w.outPath dest v else source.under v.1

def note (w : Walk) (source dest : Path) (r : Report) (v : List String × Bool) : Report :=
  r.add (w.fate v) (w.notedPath source dest v)

theorem lastName_cons (n : String) (hrel : rel ≠ []) : lastName (n :: rel) = lastName rel := by
  obtain ⟨m, rest, rfl⟩ := List.exists_cons_of_ne_nil hrel
  simp [lastName]

theorem takes_cons (w : Walk) (n : String) (hrel : rel ≠ []) (isDirectory : Bool) :
    w.takes (n :: rel, isDirectory) = w.takes (rel, isDirectory) := by
  rw [takes, takes, lastName_cons n hrel]

theorem note_cons (w : Walk) (source dest : Path) (r : Report) (n : String) (hrel : rel ≠ [])
    (isDirectory : Bool) :
    w.note source dest r (n :: rel, isDirectory) =
      w.note (source.child n) (dest.child (w.outName (n, true))) r (rel, isDirectory) := by
  have hfate : w.fate (n :: rel, isDirectory) = w.fate (rel, isDirectory) := by
    simp only [fate, takes_cons w n hrel, lastName_cons n hrel]
  have hdrop : (n :: rel).dropLast = n :: rel.dropLast := List.dropLast_cons_of_ne_nil hrel
  have hpath : w.notedPath source dest (n :: rel, isDirectory) =
      w.notedPath (source.child n) (dest.child (w.outName (n, true))) (rel, isDirectory) := by
    simp only [notedPath, outPath, takes_cons w n hrel, lastName_cons n hrel, hdrop, List.map_cons,
      Path.under_cons]
  rw [note, note, hfate, hpath]

theorem notes_inside (w : Walk) (source dest : Path) (r : Report) (n : String)
    (hvs : ∀ v ∈ vs, v.1 ≠ []) :
    (vs.map fun v => (n :: v.1, v.2)).foldl (w.note source dest) r =
      vs.foldl (w.note (source.child n) (dest.child (w.outName (n, true)))) r := by
  rw [List.foldl_map]
  refine List.foldl_ext _ _ r fun r v hv => ?_
  exact note_cons w source dest r n (hvs v hv) v.2

theorem list_notes (w : Walk) (source dest : Path) (r : Report) (vs : List (List String × Bool))
    (k : Fate) :
    (vs.foldl (w.note source dest) r).list k =
      r.list k ++ (vs.filter fun v => w.fate v = k).map (w.notedPath source dest) := by
  induction vs generalizing r with
  | nil => simp
  | cons v vs ih =>
    rw [List.foldl_cons, ih, note, Report.list_add, List.append_assoc]
    by_cases hk : w.fate v = k <;> simp [hk]

theorem missing_notes (w : Walk) (source dest : Path) (r : Report)
    (vs : List (List String × Bool)) :
    (vs.foldl (w.note source dest) r).missing = r.missing := by
  induction vs generalizing r with
  | nil => rfl
  | cons v vs ih => rw [List.foldl_cons, ih, note, Report.missing_add]

/-- The report has these entries, each once and in one list, in their order, and nothing else; the
numbers of its summary come to theirs. -/
structure Recorded (w : Walk) (source dest : Path) (vs : List (List String × Bool)) (r : Report) :
    Prop where
  list : ∀ k, r.list k = (vs.filter fun v => w.fate v = k).map (w.notedPath source dest)
  missing : r.missing = []
  summary : ∃ directories rendered copied skipped : Nat,
    r.summary = [("Directories", toString directories), ("Rendered files", toString rendered),
      ("Copied files", toString copied), ("Skipped entries", toString skipped)] ∧
    directories + rendered + copied + skipped = vs.length

theorem length_fates (w : Walk) (vs : List (List String × Bool)) :
    (vs.filter fun v => w.fate v = .directory).length +
      (vs.filter fun v => w.fate v = .rendered).length +
      (vs.filter fun v => w.fate v = .copied).length +
      (vs.filter fun v => w.fate v = .skipped).length = vs.length := by
  induction vs with
  | nil => rfl
  | cons v vs ih =>
    simp only [List.filter_cons, List.length_cons]
    cases w.fate v <;> simp <;> omega

theorem recorded_of_notes (h : r = vs.foldl (w.note source dest) {}) :
    w.Recorded source dest vs r := by
  have hlist : ∀ k, r.list k = (vs.filter fun v => w.fate v = k).map (w.notedPath source dest) := by
    intro k
    rw [h, list_notes]
    cases k <;> rfl
  refine ⟨hlist, by rw [h, missing_notes], _, _, _, _, r.summary_eq, ?_⟩
  simp only [hlist, List.length_map]
  exact length_fates w vs

/-! ### Tours -/

/-- The names lead to the source itself, or to a directory among the entries that is gone into. -/
def Entered (w : Walk) (vs : List (List String × Bool)) (rel : List String) : Prop :=
  rel = [] ∨ (rel, true) ∈ vs ∧ w.takes (rel, true) = true

/-- The entries are those of the source and, in turn, of each directory among them that is gone
into, depth first and siblings by name. What a directory has is what it was listed with, at a moment
between two states of the files. -/
structure Tour (w : Walk) (source : Path) (fs fs' : Files) (vs : List (List String × Bool)) :
    Prop where
  rising : vs.Pairwise fun v v' => v.1 < v'.1
  inside : ∀ v ∈ vs, v.1 ≠ [] ∧ w.Entered vs v.1.dropLast
  listed : ∀ rel, w.Entered vs rel → ∃ mid es, fs.Extends mid ∧ mid.Extends fs' ∧
    listEntries mid (source.under rel) = .ok es ∧
    ∀ n isDirectory, (rel ++ [n], isDirectory) ∈ vs ↔ (n, isDirectory) ∈ es

/-- A tour of some of the entries of a directory, and of what is below them. -/
structure Leg (w : Walk) (source : Path) (fs fs' : Files) (es : List (String × Bool))
    (vs : List (List String × Bool)) : Prop where
  rising : vs.Pairwise fun v v' => v.1 < v'.1
  top : ∀ n isDirectory, ([n], isDirectory) ∈ vs ↔ (n, isDirectory) ∈ es
  first : ∀ v ∈ vs, ∃ n rest, v.1 = n :: rest ∧ n ∈ es.map (·.1)
  inside : ∀ v ∈ vs, w.Entered vs v.1.dropLast
  listed : ∀ rel, rel ≠ [] → w.Entered vs rel → ∃ mid es, fs.Extends mid ∧ mid.Extends fs' ∧
    listEntries mid (source.under rel) = .ok es ∧
    ∀ n isDirectory, (rel ++ [n], isDirectory) ∈ vs ↔ (n, isDirectory) ∈ es

theorem Entered.mono (h : w.Entered vs rel) (hvs : ∀ v ∈ vs, v ∈ vs') : w.Entered vs' rel :=
  h.imp_right fun h => ⟨hvs _ h.1, h.2⟩

theorem Leg.nil (w : Walk) (source : Path) (fs fs' : Files) : w.Leg source fs fs' [] [] := by
  refine ⟨.nil, by simp, by simp, by simp, ?_⟩
  rintro rel hrel (rfl | ⟨hmem, -⟩)
  · exact absurd rfl hrel
  · simp at hmem

theorem Leg.earlier {es : List (String × Bool)} (h : w.Leg source fs' fs'' es vs)
    (hext : fs.Extends fs') : w.Leg source fs fs'' es vs := by
  refine ⟨h.rising, h.top, h.first, h.inside, fun rel hrel hup => ?_⟩
  obtain ⟨mid, es', hmid, hrest⟩ := h.listed rel hrel hup
  exact ⟨mid, es', hext.trans hmid, hrest⟩

theorem Leg.append {es es' : List (String × Bool)} (h : w.Leg source fs fs' es vs)
    (h' : w.Leg source fs' fs'' es' vs') (hext : fs.Extends fs') (hext' : fs'.Extends fs'')
    (hes : ∀ e ∈ es, ∀ e' ∈ es', e.1 < e'.1) : w.Leg source fs fs'' (es ++ es') (vs ++ vs') := by
  -- No name that one of the two legs starts with is one that the other starts with.
  have hapart : ∀ {v v' : List String × Bool} {n m : String} {rest rest' : List String},
      v ∈ vs → v' ∈ vs' → v.1 = n :: rest → v'.1 = m :: rest' → n < m := by
    intro v v' n m rest rest' hv hv' hn hm
    obtain ⟨k, krest, hk, hkmem⟩ := h.first v hv
    obtain ⟨k', krest', hk', hkmem'⟩ := h'.first v' hv'
    obtain ⟨e, he, rfl⟩ := List.mem_map.1 hkmem
    obtain ⟨e', he', rfl⟩ := List.mem_map.1 hkmem'
    obtain ⟨rfl, -⟩ := List.cons.inj (hn.symm.trans hk)
    obtain ⟨rfl, -⟩ := List.cons.inj (hm.symm.trans hk')
    exact hes e he e' he'
  have hleft : ∀ {rel : List String} {n : String} {isDirectory isDirectory' : Bool},
      (rel, isDirectory) ∈ vs → (rel ++ [n], isDirectory') ∉ vs' := by
    intro rel n isDirectory isDirectory' hv hv'
    obtain ⟨m, rest, rfl, -⟩ := h.first _ hv
    exact absurd (hapart hv hv' rfl rfl) (lt_irrefl m)
  have hright : ∀ {rel : List String} {n : String} {isDirectory isDirectory' : Bool},
      (rel, isDirectory) ∈ vs' → (rel ++ [n], isDirectory') ∉ vs := by
    intro rel n isDirectory isDirectory' hv' hv
    obtain ⟨m, rest, rfl, -⟩ := h'.first _ hv'
    exact absurd (hapart hv hv' rfl rfl) (lt_irrefl m)
  refine ⟨?_, ?_, ?_, ?_, ?_⟩
  · refine List.pairwise_append.2 ⟨h.rising, h'.rising, fun v hv v' hv' => ?_⟩
    obtain ⟨n, rest, hn, -⟩ := h.first v hv
    obtain ⟨m, rest', hm, -⟩ := h'.first v' hv'
    rw [hn, hm]
    exact List.cons_lt_cons_iff.2 (.inl (hapart hv hv' hn hm))
  · intro n isDirectory
    rw [List.mem_append, List.mem_append, h.top, h'.top]
  · intro v hv
    rcases List.mem_append.1 hv with hv | hv
    · obtain ⟨n, rest, hn, hmem⟩ := h.first v hv
      exact ⟨n, rest, hn, by simp only [List.map_append, List.mem_append]; exact .inl hmem⟩
    · obtain ⟨n, rest, hn, hmem⟩ := h'.first v hv
      exact ⟨n, rest, hn, by simp only [List.map_append, List.mem_append]; exact .inr hmem⟩
  · intro v hv
    rcases List.mem_append.1 hv with hv | hv
    · exact (h.inside v hv).mono fun v hv => List.mem_append_left _ hv
    · exact (h'.inside v hv).mono fun v hv => List.mem_append_right _ hv
  · rintro rel hrel (rfl | ⟨hmem, htakes⟩)
    · exact absurd rfl hrel
    · rcases List.mem_append.1 hmem with hmem | hmem
      · obtain ⟨mid, es, hmid, hmid', hlist, hiff⟩ := h.listed rel hrel (.inr ⟨hmem, htakes⟩)
        refine ⟨mid, es, hmid, hmid'.trans hext', hlist, fun n isDirectory => ?_⟩
        rw [List.mem_append, hiff, or_iff_left (hleft hmem)]
      · obtain ⟨mid, es, hmid, hmid', hlist, hiff⟩ := h'.listed rel hrel (.inr ⟨hmem, htakes⟩)
        refine ⟨mid, es, hext.trans hmid, hmid', hlist, fun n isDirectory => ?_⟩
        rw [List.mem_append, hiff, or_iff_right (hright hmem)]

theorem Leg.single (w : Walk) (source : Path) (fs fs' : Files) {e : String × Bool}
    (h : ¬ (w.includes e = true ∧ e.2 = true)) : w.Leg source fs fs' [e] [([e.1], e.2)] := by
  refine ⟨by simp, by simp [Prod.ext_iff], by simp, by simp [Entered], ?_⟩
  rintro rel hrel (rfl | ⟨hmem, htakes⟩)
  · exact absurd rfl hrel
  · obtain ⟨n, isDirectory⟩ := e
    obtain ⟨rfl, rfl⟩ : rel = [n] ∧ true = isDirectory := by simpa using hmem
    exact absurd ⟨by simpa [takes, lastName] using htakes, rfl⟩ h

theorem mem_inside {v : List String × Bool} :
    v ∈ vs.map (fun v => (n :: v.1, v.2)) ↔ ∃ rel, v.1 = n :: rel ∧ (rel, v.2) ∈ vs := by
  obtain ⟨rel, isDirectory⟩ := v
  simp only [List.mem_map, Prod.mk.injEq]
  constructor
  · rintro ⟨v, hv, rfl, rfl⟩
    exact ⟨v.1, rfl, hv⟩
  · rintro ⟨rel, rfl, hv⟩
    exact ⟨_, hv, rfl, rfl⟩

theorem Tour.leg (h : w.Tour (source.child n) fs fs' vs) (hin : w.includes (n, true) = true) :
    w.Leg source fs fs' [(n, true)] (([n], true) :: vs.map fun v => (n :: v.1, v.2)) := by
  have htop : w.takes ([n], true) = true := by simpa [takes, lastName] using hin
  have hdeeper : ∀ {rel : List String} {isDirectory : Bool}, rel ≠ [] →
      ((n :: rel, isDirectory) ∈ ([n], true) :: vs.map (fun v => (n :: v.1, v.2)) ↔
        (rel, isDirectory) ∈ vs) := by
    intro rel isDirectory hrel
    rw [List.mem_cons, mem_inside]
    simp [hrel]
  have hentered : ∀ rel, w.Entered vs rel →
      w.Entered (([n], true) :: vs.map fun v => (n :: v.1, v.2)) (n :: rel) := by
    rintro rel hrel
    by_cases hnil : rel = []
    · subst hnil
      exact .inr ⟨by simp, htop⟩
    · obtain ⟨hmem, htakes⟩ := hrel.resolve_left hnil
      exact .inr ⟨(hdeeper hnil).2 hmem, by rwa [takes_cons w n hnil]⟩
  refine ⟨?_, ?_, ?_, ?_, ?_⟩
  · rw [List.pairwise_cons, List.pairwise_map]
    constructor
    · intro v hv
      obtain ⟨rel, hrel, hmem⟩ := mem_inside.1 hv
      obtain ⟨m, rest, rfl⟩ := List.exists_cons_of_ne_nil (h.inside _ hmem).1
      rw [hrel]
      simp
    · exact h.rising.imp fun hlt => by simpa using hlt
  · intro m isDirectory
    have hnone : ([], isDirectory) ∉ vs := fun hmem => (h.inside _ hmem).1 rfl
    rw [List.mem_cons, mem_inside]
    simp [hnone]
  · intro v hv
    rcases List.mem_cons.1 hv with rfl | hv
    · exact ⟨n, [], rfl, by simp⟩
    · obtain ⟨rel, hrel, -⟩ := mem_inside.1 hv
      exact ⟨n, rel, hrel, by simp⟩
  · intro v hv
    rcases List.mem_cons.1 hv with rfl | hv
    · exact .inl rfl
    · obtain ⟨rel, hrel, hmem⟩ := mem_inside.1 hv
      obtain ⟨hne, hup⟩ := h.inside _ hmem
      rw [hrel, List.dropLast_cons_of_ne_nil hne]
      exact hentered _ hup
  · rintro rel hrel (rfl | ⟨hmem, htakes⟩)
    · exact absurd rfl hrel
    · obtain ⟨m, below, rfl⟩ := List.exists_cons_of_ne_nil hrel
      have hbelow : m = n ∧ w.Entered vs below := by
        rcases List.mem_cons.1 hmem with hsame | hmem
        · obtain ⟨rfl, rfl⟩ : m = n ∧ below = [] := by simpa using hsame
          exact ⟨rfl, .inl rfl⟩
        · obtain ⟨rel, hcons, hmem⟩ := mem_inside.1 hmem
          obtain ⟨rfl, rfl⟩ := List.cons.inj hcons
          exact ⟨rfl, .inr ⟨hmem, by rwa [takes_cons w m (h.inside _ hmem).1] at htakes⟩⟩
      obtain ⟨rfl, hup⟩ := hbelow
      obtain ⟨mid, es, hmid, hmid', hlist, hiff⟩ := h.listed below hup
      refine ⟨mid, es, hmid, hmid', by rwa [Path.under_cons], fun k isDirectory => ?_⟩
      rw [List.cons_append, hdeeper (by simp), hiff]

theorem Leg.tour {es : List (String × Bool)} {mid : Files} (h : w.Leg source mid fs' es vs)
    (hext : fs.Extends mid) (hext' : mid.Extends fs') (hlist : listEntries mid source = .ok es) :
    w.Tour source fs fs' vs := by
  refine ⟨h.rising, fun v hv => ?_, fun rel hup => ?_⟩
  · obtain ⟨n, rest, hn, -⟩ := h.first v hv
    exact ⟨by simp [hn], h.inside v hv⟩
  · by_cases hrel : rel = []
    · subst hrel
      exact ⟨mid, es, hext, hext', by rwa [Path.under_nil], h.top⟩
    · obtain ⟨then_, es', hmid, hmid', hlist', hiff⟩ := h.listed rel hrel hup
      exact ⟨then_, es', hext.trans hmid, hmid', hlist', hiff⟩

/-! ### Steps and runs -/

theorem note_directory (w : Walk) (source dest : Path) (r : Report)
    (h : w.includes (n, true) = true) :
    w.note source dest r ([n], true) = r.addDirectory (dest.child (w.outName (n, true))) := by
  simp [note, fate, notedPath, outPath, takes, lastName, h, Report.add, Path.under, Path.child]

theorem note_file (w : Walk) (source dest : Path) (r : Report)
    (h : w.includes (n, false) = true) :
    w.note source dest r ([n], false) =
      r.addFile (FileName.isRendered w.vocabulary n) (w.targetOf dest n) := by
  cases hrendered : FileName.isRendered w.vocabulary n <;>
    simp [note, fate, notedPath, outPath, takes, lastName, h, hrendered, Report.add, Path.under]

theorem note_skipped (w : Walk) (source dest : Path) (r : Report) {e : String × Bool}
    (h : w.includes e = false) :
    w.note source dest r ([e.1], e.2) = r.addSkipped (source.child e.1) := by
  simp [note, fate, notedPath, takes, lastName, h, Report.add, Path.under, Path.child]

/-- An entry at which a walk does not fail is noted, and then gone into if it is a directory that is
included. -/
theorem entry_notes (w : Walk) (source : Path) (hfs : fs.WellFormed) (hdest : dest.IsNormal)
    {e : String × Bool} (he : Path.IsPlain e.1) {descend : Path → Path → Report → Step Report}
    (h : w.entry descend source dest e r fs = (.ok r', fs')) :
    (w.includes e = true ∧ e.2 = true ∧ ∃ mid, mid.WellFormed ∧ fs.Extends mid ∧
      descend (source.child e.1) (dest.child (w.outName e)) (w.note source dest r ([e.1], e.2)) mid =
        (.ok r', fs')) ∨
    ¬ (w.includes e = true ∧ e.2 = true) ∧ r' = w.note source dest r ([e.1], e.2) ∧
      fs'.WellFormed ∧ fs.Extends fs' := by
  obtain ⟨n, isDirectory⟩ := e
  cases hincluded : w.includes (n, isDirectory) with
  | false =>
    rw [entry_skipped w source dest fs hincluded] at h
    cases h
    exact .inr ⟨by simp, (note_skipped w source dest r hincluded).symm, hfs, .refl fs⟩
  | true =>
    cases isDirectory with
    | true =>
      have hclean : Path.IsPlain (w.outName (n, true)) := DirectoryName.clean_isPlain w.vocabulary he
      rcases entry_directory w source dest fs he hincluded with
        ⟨f, mid, -, hentry⟩ | ⟨mid, hmake, hentry⟩ <;> rw [hentry] at h
      · cases h
      · have hmade := (ensureDirectory_made hfs (hdest.child hclean) hmake).1
        rw [← note_directory w source dest r hincluded] at h
        exact .inl ⟨rfl, rfl, mid, hmade.wellFormed, hmade.later, h⟩
    | false =>
      have hfile : FileName.isIncluded w.vocabulary w.selection n = true := hincluded
      unfold entry at h
      simp only [hfile, if_true] at h
      rcases file_cases w (source.child n) dest fs with
        ⟨f, hdone⟩ | ⟨content, mid, -, hwrite, hdone⟩ <;> rw [hdone] at h
      · cases h
      · rw [Path.name_child] at h hwrite
        cases h
        have hnormal : (w.targetOf dest n).IsNormal := hdest.join (Path.ofText_isNormal _)
        rcases write_puts hfs hnormal content with ⟨f, hno⟩ | ⟨P, m, fs'', hwrite', hputs, -⟩
        · rw [hno] at hwrite
          cases hwrite
        · rw [hwrite'] at hwrite
          cases hwrite
          exact .inr ⟨by simp, (note_file w source dest r hincluded).symm, hputs.wellFormed,
            hputs.later⟩

/-- A walk that does not fail is a tour, and its report has the notes of it. -/
structure Toured (w : Walk) (here dest : Path) (r r' : Report) (fs fs' : Files)
    (vs : List (List String × Bool)) : Prop where
  tour : w.Tour here fs fs' vs
  notes : r' = vs.foldl (w.note here dest) r
  wellFormed : fs'.WellFormed
  later : fs.Extends fs'

def Tours (w : Walk) (descend : Path → Path → Report → Step Report) : Prop :=
  ∀ {here dest : Path} {r r' : Report} {fs fs' : Files}, fs.WellFormed → dest.IsNormal →
    fs.exists? here = .ok true → descend here dest r fs = (.ok r', fs') →
    ∃ vs, w.Toured here dest r r' fs fs' vs

section
variable {descend : Path → Path → Report → Step Report} (hdescend : w.Tours descend)
  (hdest : dest.IsNormal)
include hdescend hdest

theorem entry_tours (hfs : fs.WellFormed) {e : String × Bool} (he : Path.IsPlain e.1)
    (hthere : e.2 = true → ∃ P, fs.stat (source.child e.1) = .ok (P, .directory))
    (h : w.entry descend source dest e r fs = (.ok r', fs')) :
    ∃ vs, w.Leg source fs fs' [e] vs ∧ r' = vs.foldl (w.note source dest) r ∧ fs'.WellFormed ∧
      fs.Extends fs' := by
  rcases entry_notes w source hfs hdest he h with
    ⟨hin, hdir, mid, hmid, hext, hrun⟩ | ⟨hnot, rfl, hfs', hext⟩
  · obtain ⟨n, isDirectory⟩ := e
    obtain rfl : isDirectory = true := hdir
    obtain ⟨P, hP⟩ := hthere rfl
    have hclean : Path.IsPlain (w.outName (n, true)) := DirectoryName.clean_isPlain w.vocabulary he
    obtain ⟨vs, htoured⟩ := hdescend hmid (hdest.child hclean)
      (exists_of_stat (stat_directory_extends hP hext)) hrun
    refine ⟨_, (htoured.tour.leg hin).earlier hext, ?_, htoured.wellFormed, hext.trans htoured.later⟩
    rw [List.foldl_cons, notes_inside w source dest _ n fun v hv => (htoured.tour.inside v hv).1]
    exact htoured.notes
  · exact ⟨[([e.1], e.2)], .single w source fs fs' hnot, rfl, hfs', hext⟩

theorem entries_tour {es : List (String × Bool)} (hfs : fs.WellFormed)
    (hes : ∀ e ∈ es, Path.IsPlain e.1) (hrising : (es.map (·.1)).Pairwise (· < ·))
    (hthere : ∀ e ∈ es, e.2 = true → ∃ P, fs.stat (source.child e.1) = .ok (P, .directory))
    (h : entries (w.entry descend source dest) es r fs = (.ok r', fs')) :
    ∃ vs, w.Leg source fs fs' es vs ∧ r' = vs.foldl (w.note source dest) r ∧ fs'.WellFormed ∧
      fs.Extends fs' := by
  induction es generalizing r fs with
  | nil =>
    cases h
    exact ⟨[], .nil .., rfl, hfs, .refl _⟩
  | cons e es ih =>
    rw [entries] at h
    cases hfirst : w.entry descend source dest e r fs with
    | mk res mid =>
      rw [hfirst] at h
      cases res with
      | error f => cases h
      | ok r₁ =>
        obtain ⟨vs, hleg, rfl, hmid, hext⟩ :=
          entry_tours hdescend hdest hfs (hes e (by simp)) (hthere e (by simp)) hfirst
        rw [List.map_cons, List.pairwise_cons] at hrising
        obtain ⟨vs', hleg', hnotes, hfs', hext'⟩ := ih hmid
          (fun e he => hes e (List.mem_cons_of_mem _ he)) hrising.2
          (fun e' he' hdir => by
            obtain ⟨P, hP⟩ := hthere e' (List.mem_cons_of_mem _ he') hdir
            exact ⟨P, stat_directory_extends hP hext⟩) h
        refine ⟨vs ++ vs', hleg.append hleg' hext hext' ?_, ?_, hfs', hext.trans hext'⟩
        · intro x hx e' he'
          rw [List.mem_singleton.1 hx]
          exact hrising.1 _ (List.mem_map_of_mem he')
        · rw [List.foldl_append]
          exact hnotes

end

theorem directory_tours (w : Walk) (depth : Nat) : w.Tours (w.directory depth) := by
  induction depth with
  | zero =>
    intro here dest r r' fs fs' _ _ _ h
    cases h
  | succ depth ih =>
    intro here dest r r' fs fs' hfs hdest hthere h
    rcases directory_cases w depth here dest r fs with
      ⟨f, hask, -⟩ | ⟨hask, -⟩ | ⟨f, mid, -, hrun⟩ | ⟨mid, hmake, hrun⟩
    · rw [hthere] at hask
      cases hask
    · rw [hthere] at hask
      cases hask
    · rw [hrun] at h
      cases h
    · have hmade := (ensureDirectory_made hfs hdest hmake).1
      rcases hrun with ⟨f, -, hrun⟩ | ⟨es, hlist, hrun⟩ <;> rw [hrun] at h
      · cases h
      · obtain ⟨P, -, hnames, hkinds⟩ := listEntries_eq_ok hlist
        obtain ⟨vs, hleg, hnotes, hfs', hext⟩ := entries_tour ih hdest hmade.wellFormed
          (isPlain_of_listed hmade.wellFormed hlist) (hnames ▸ names_rising hmade.wellFormed P)
          (fun e he hdir => isDirectory?_eq_true.1 (hdir ▸ hkinds e he)) h
        exact ⟨vs, hleg.tour hmade.later hext hlist, hnotes, hfs', hmade.later.trans hext⟩

/-! ### Where nothing is new in the source -/

section
variable {S : Place} (hfs : fs.WellFormed) (hsource : fs.stat source = .ok (S, .directory))
  (hlink : fs.LinkFree S) (hstill : ∀ rel, fs.get? (S ++ rel) = none → fs'.get? (S ++ rel) = none)
include hfs hsource hlink hstill

theorem mem_listed_of_still {mid : Files} (hext : fs.Extends mid) (hext' : mid.Extends fs')
    (hdir : fs.get? (S ++ rel) = some .directory) {es : List (String × Bool)}
    (hlist : listEntries mid (source.under rel) = .ok es) (n : String) (isDirectory : Bool) :
    (n, isDirectory) ∈ es ↔ (∃ e, fs.get? (S ++ (rel ++ [n])) = some e) ∧
      isDirectory = decide (fs.get? (S ++ (rel ++ [n])) = some .directory) := by
  -- Between the first state and the last, each place in the source has an entry of one kind.
  have hkinds : ∀ below, ((∃ e, mid.get? (S ++ below) = some e) ↔
      ∃ e, fs.get? (S ++ below) = some e) ∧
      (mid.get? (S ++ below) = some .directory ↔ fs.get? (S ++ below) = some .directory) := by
    intro below
    cases he : fs.get? (S ++ below) with
    | none =>
      have hnone : mid.get? (S ++ below) = none := by
        cases hmid : mid.get? (S ++ below) with
        | none => rfl
        | some e =>
          obtain ⟨e', he', -⟩ := hext'.there hmid
          rw [hstill below he] at he'
          cases he'
      simp [hnone]
    | some e =>
      obtain ⟨e', he', hkind⟩ := hext.there he
      simp [he', hkind]
  have hlinkMid : mid.LinkFree S := by
    intro below target hl
    obtain ⟨e, he⟩ := (hkinds below).1.1 ⟨_, hl⟩
    cases e with
    | link target => exact hlink below target he
    | directory =>
      rw [hext.directory he] at hl
      cases hl
    | file c =>
      obtain ⟨c', hc'⟩ := hext.file he
      rw [hc'] at hl
      cases hl
  have hup : ".." ∉ rel := fun hmem =>
    (hfs.plain hdir ".." (List.mem_append_right _ hmem)).2.2.2 rfl
  obtain ⟨Q, hQ, hnames, hasked⟩ := listEntries_eq_ok hlist
  have hsourceMid := stat_directory_extends hsource hext
  obtain rfl : Q = S ++ rel := by
    by_cases hrel : rel = []
    · subst hrel
      rw [Path.under_nil, hsourceMid] at hQ
      cases hQ
      simp
    · exact stat_under hsourceMid hlinkMid hup hrel hQ
  have hthere : ∀ m, m ∈ es.map (·.1) ↔ ∃ e, fs.get? (S ++ (rel ++ [m])) = some e := by
    intro m
    rw [hnames, mem_names, List.append_assoc, (hkinds _).1]
  have hkind : ∀ e ∈ es, e.2 = decide (fs.get? (S ++ (rel ++ [e.1])) = some .directory) := by
    intro e he
    obtain ⟨old, hold⟩ := (hthere e.1).1 (List.mem_map_of_mem he)
    have hnamed := hfs.named (n := e.1) (by rw [List.append_assoc]; exact hold)
    have hchild : ∀ target, mid.get? (S ++ rel ++ [e.1]) ≠ some (.link target) := by
      intro target
      rw [List.append_assoc]
      exact hlinkMid _ target
    rw [isDirectory?_child hQ hnamed.1 hnamed.2 hchild (hasked e he), List.append_assoc]
    simp only [(hkinds _).2]
  constructor
  · intro he
    exact ⟨(hthere n).1 (List.mem_map_of_mem he), hkind _ he⟩
  · rintro ⟨hn, rfl⟩
    obtain ⟨e, he, rfl⟩ := List.mem_map.1 ((hthere n).2 hn)
    rwa [← hkind e he]

theorem Tour.eq_visits (h : w.Tour source fs fs' vs) : vs = w.visits fs S := by
  refine eq_of_rising_by (·.1) h.rising (visits_rising w hfs S) fun v => ?_
  obtain ⟨rel, isDirectory⟩ := v
  induction rel using List.reverseRecOn generalizing isDirectory with
  | nil =>
    rw [mem_visits]
    exact iff_of_false (fun hmem => (h.inside _ hmem).1 rfl) (by simp)
  | append_singleton rel n ih =>
    have hentered : w.Entered vs rel ↔
        fs.get? (S ++ rel) = some .directory ∧ ∀ m ∈ rel, w.includes (m, true) = true := by
      by_cases hrel : rel = []
      · subst hrel
        simp [Entered, isDirectory_of_stat hfs hsource]
      · obtain ⟨above, m, rfl⟩ := (List.eq_nil_or_concat' rel).resolve_left hrel
        rw [Entered, or_iff_right hrel, ih, mem_visits]
        simp only [takes, lastName_concat, List.dropLast_concat, List.mem_append,
          List.mem_singleton, or_imp, forall_and, forall_eq, eq_comm (a := true),
          decide_eq_true_eq]
        constructor
        · rintro ⟨⟨-, -, hdir, habove⟩, hm⟩
          exact ⟨hdir, habove, hm⟩
        · rintro ⟨hdir, habove, hm⟩
          exact ⟨⟨by simp, ⟨_, hdir⟩, hdir, habove⟩, hm⟩
    rw [mem_visits, List.dropLast_concat]
    constructor
    · intro hmem
      obtain ⟨-, hup⟩ := h.inside _ hmem
      rw [List.dropLast_concat] at hup
      obtain ⟨mid, es, hext, hext', hlist, hiff⟩ := h.listed rel hup
      obtain ⟨hdir, habove⟩ := hentered.1 hup
      obtain ⟨hthere, hkind⟩ :=
        (mem_listed_of_still hfs hsource hlink hstill hext hext' hdir hlist n isDirectory).1
          ((hiff n isDirectory).1 hmem)
      exact ⟨by simp, hthere, hkind, habove⟩
    · rintro ⟨-, ⟨e, he⟩, hkind, habove⟩
      have hdir : fs.get? (S ++ rel) = some .directory :=
        hfs.inside (n := n) (by rw [List.append_assoc]; exact he)
      have hup := hentered.2 ⟨hdir, habove⟩
      obtain ⟨mid, es, hext, hext', hlist, hiff⟩ := h.listed rel hup
      exact (hiff n isDirectory).2
        ((mem_listed_of_still hfs hsource hlink hstill hext hext' hdir hlist n isDirectory).2
          ⟨⟨e, he⟩, hkind⟩)

end

theorem run_still {S : Place} (hw : w.RenamesPlainly) (hfs : fs.WellFormed)
    (hsource : fs.stat source = .ok (S, .directory)) (hlink : fs.LinkFree S)
    (hdest : dest.IsNormal) (hapart : Apart fs S dest) (hrun : w.run source dest fs = (.ok r, fs')) :
    ∀ rel, fs'.get? (S ++ rel) = fs.get? (S ++ rel) := by
  intro rel
  rcases run_cases hw hfs hsource hlink hdest hapart with
    ⟨f, fs₁, -, herror⟩ | ⟨fs₁, D, -, -, hready, hkept, -, hgrown⟩
  · rw [hrun] at herror
    cases herror
  · rw [hrun] at hgrown
    rw [hready.unchanged hgrown, hkept]

/-- Where source and destination are apart, a report is that of the visits. -/
theorem run_report {S : Place} (hw : w.RenamesPlainly) (hfs : fs.WellFormed)
    (hsource : fs.stat source = .ok (S, .directory)) (hlink : fs.LinkFree S)
    (hdest : dest.IsNormal) (hapart : Apart fs S dest) (hrun : w.run source dest fs = (.ok r, fs')) :
    r = (w.visits fs S).foldl (w.note source dest) {} := by
  obtain ⟨vs, htoured⟩ := directory_tours w pathLimit hfs hdest (exists_of_stat hsource) hrun
  have hstill := run_still hw hfs hsource hlink hdest hapart hrun
  rw [← htoured.tour.eq_visits hfs hsource hlink fun rel hnone => (hstill rel).trans hnone]
  exact htoured.notes

/-- A report that a walk gives of a source that is there has all entries of its tour, and the tour
is of the tree that was there unless the walk put something into it. -/
theorem materialize_accounts (w : Walk) {source dest : String} {s : Session}
    (hs : s.files.WellFormed) (hsource : s.files.exists? (.ofText source) = .ok true)
    (hr : (w.materialize (.ofText source) (.ofText dest) s).1 = .ok r) :
    ∃ vs, w.Tour (.ofText source) s.files
        (w.materialize (.ofText source) (.ofText dest) s).2.files vs ∧
      w.Recorded (.ofText source) (.ofText dest) vs r ∧
      ∀ S, s.files.stat (.ofText source) = .ok (S, .directory) → s.files.LinkFree S →
        (w.RenamesPlainly ∧ Apart s.files S (.ofText dest) ∨
          ∀ rel, s.files.get? (S ++ rel) = none →
            (w.materialize (.ofText source) (.ofText dest) s).2.files.get? (S ++ rel) = none) →
        vs = w.visits s.files S := by
  cases hrun : w.run (.ofText source) (.ofText dest) s.files with
  | mk res fs' =>
    cases res with
    | error f =>
      rw [materialize_of_error w hrun] at hr
      cases hr
    | ok r' =>
      obtain ⟨hfiles, hreport, -⟩ := materialize_of_ok w hrun
      obtain rfl := hreport r hr
      rw [hfiles]
      have hdest := Path.ofText_isNormal dest
      obtain ⟨vs, htoured⟩ := directory_tours w pathLimit hs hdest hsource hrun
      refine ⟨vs, htoured.tour, recorded_of_notes htoured.notes, fun S hS hlink hkeeps => ?_⟩
      refine htoured.tour.eq_visits hs hS hlink ?_
      rcases hkeeps with ⟨hw, hapart⟩ | hstill
      · exact fun rel hnone => (run_still hw hs hS hlink hdest hapart hrun rel).trans hnone
      · exact hstill

theorem sample_accounted :
    ∃ r vs, (sampleWalk.materialize (.ofText "t") (.ofText "d") sampleSession).1 = .ok r ∧
      sampleWalk.Tour (.ofText "t") sampleFiles
        (sampleWalk.materialize (.ofText "t") (.ofText "d") sampleSession).2.files vs ∧
      sampleWalk.Recorded (.ofText "t") (.ofText "d") vs r ∧
      vs = [(["src.vue"], true), (["src.vue", "a.txt"], false)] := by
  have hreport : (sampleWalk.materialize (.ofText "t") (.ofText "d") sampleSession).1.toOption =
      some { directories := [.ofText "d/src"], copied := [.ofText "d/src/b.txt"] } := by
    decide +kernel
  cases hr : (sampleWalk.materialize (.ofText "t") (.ofText "d") sampleSession).1 with
  | error f =>
    rw [hr] at hreport
    cases hreport
  | ok r =>
    have hsource : sampleFiles.stat (.ofText "t") = .ok (["t"], .directory) := by rfl
    have hdest : sampleFiles.stat (.ofText "d") = .ok (["d"], .directory) := by rfl
    obtain ⟨vs, htour, hrecorded, hvisits⟩ := materialize_accounts (s := sampleSession) sampleWalk
      sampleFiles_wellFormed (exists_of_stat hsource) hr
    refine ⟨r, vs, rfl, htour, hrecorded, ?_⟩
    have hnames : sampleFiles.names ["t"] = ["src.vue"] := by decide +kernel
    have hbelow : sampleFiles.names (["t"] ++ ["src.vue"]) = ["a.txt"] := by decide +kernel
    have hfile : sampleFiles.get? (["t"] ++ ["src.vue"] ++ ["a.txt"]) ≠ some .directory := by decide
    calc vs = sampleWalk.visits sampleFiles ["t"] :=
          hvisits ["t"] hsource (sampleFiles_linkFree _) (.inl ⟨sampleWalk_renamesPlainly,
            apart_of_stat hdest (by decide) (sampleFiles_linkFree _)⟩)
      _ = sampleWalk.visitsFrom sampleFiles ["t"] "src.vue" := by
        rw [visits_eq _ sampleFiles_wellFormed, hnames, List.flatMap_singleton]
      _ = [(["src.vue"], true), (["src.vue", "a.txt"], false)] := by
        rw [visitsFrom, visits_eq _ sampleFiles_wellFormed, hbelow, List.flatMap_singleton,
          visitsFrom_single sampleFiles_wellFormed (.inl hfile)]
        decide +kernel

end Walk
end Scaffold
