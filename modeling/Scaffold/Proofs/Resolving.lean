import Mathlib.Logic.Relation
import Scaffold.Proofs.Files.Regular
import Scaffold.Settings

set_option autoImplicit false

/-!
# Resolved paths

A path that is absolute once a tilde is replaced is its own resolution. Any other is seen from where
relative paths start, and in a tree without links its resolution is what its names come to by
themselves: each double dot takes back the name before it, and at the root nothing. What is resolved
is absolute, and its text reads as the same path again, which stays as it is.
-/
namespace Scaffold.Path

variable {p r : Path} {names out xs ys : List String}

/-! ### Texts of paths -/

theorem namesOf_slash (cs : List Char) : namesOf ('/' :: cs) = namesOf cs := by
  simp [namesOf, List.splitOn_cons_eq_if_modifyHead]

private theorem namesOf_joined (h : p.IsNormal) :
    namesOf ("/".intercalate p.names).toList = p.names := by
  by_cases hnil : p.names = []
  · rw [hnil]
    rfl
  · have hslash : ∀ piece ∈ p.names.map String.toList, '/' ∉ piece := by
      intro piece hpiece
      obtain ⟨n, hn, rfl⟩ := List.mem_map.1 hpiece
      exact (h n hn).2.1
    have hsplit : ("/".intercalate p.names).toList.splitOn '/' = p.names.map String.toList := by
      rw [String.toList_intercalate]
      exact List.splitOn_intercalate '/' hslash (by simpa using hnil)
    have hkeeps : ∀ n ∈ p.names,
        ((fun cs => if cs = [] || cs = ['.'] then none else some (String.ofList cs)) ∘
          String.toList) n = some n := by
      intro n hn
      obtain ⟨hempty, -, hdot⟩ := h n hn
      have hcs : n.toList ≠ ['.'] := fun heq => hdot (String.toList_inj.1 (by simpa using heq))
      simp [hempty, hcs]
    rw [namesOf, hsplit, List.filterMap_map, List.filterMap_congr hkeeps, List.filterMap_some]

private theorem takeWhile_joined (h : p.IsNormal) :
    ("/".intercalate p.names).toList.takeWhile (· = '/') = [] := by
  cases hnames : p.names with
  | nil => rfl
  | cons n rest =>
    obtain ⟨hempty, hslash, -⟩ := h n (by simp [hnames])
    obtain ⟨c, cs, hn⟩ := List.exists_cons_of_ne_nil (l := n.toList) (by simpa using hempty)
    have hc : c ≠ '/' := fun heq => hslash (by simp [hn, heq])
    by_cases hnil : rest = []
    · simp [hnil, hn, hc]
    · rw [String.intercalate_cons_of_ne_nil hnil]
      simp [hn, hc]

theorem ofText_text (h : p.IsNormal) : ofText p.text = p := by
  have hnames := namesOf_joined h
  have hlead := takeWhile_joined h
  obtain ⟨anchor, names⟩ := p
  dsimp only at hnames hlead
  cases anchor with
  | relative =>
    by_cases hnil : names = []
    · rw [hnil]
      rfl
    · have htext : (⟨.relative, names⟩ : Path).text = "/".intercalate names := by
        simp [text, hnil]
      rw [htext, ofText, hnames, anchorOf, hlead]
      rfl
  | root =>
    have htext : (⟨.root, names⟩ : Path).text.toList = '/' :: ("/".intercalate names).toList := by
      simp only [text, String.toList_append]
      rfl
    rw [ofText, htext, namesOf_slash, hnames, anchorOf, List.takeWhile_cons_of_pos (by simp), hlead]
    rfl
  | doubleRoot =>
    have htext : (⟨.doubleRoot, names⟩ : Path).text.toList =
        '/' :: '/' :: ("/".intercalate names).toList := by
      simp only [text, String.toList_append]
      rfl
    rw [ofText, htext, namesOf_slash, namesOf_slash, hnames, anchorOf,
      List.takeWhile_cons_of_pos (by simp), List.takeWhile_cons_of_pos (by simp), hlead]
    rfl

/-! ### Names without dots -/

/-- A double dot takes back the name before it, and at the top nothing. -/
inductive Cancels : List String → List String → Prop
  | back (above : List String) {n : String} (rest : List String) (hn : n ≠ "..") :
    Cancels (above ++ n :: ".." :: rest) (above ++ rest)
  | top (rest : List String) : Cancels (".." :: rest) rest

theorem Cancels.append (h : Cancels xs ys) (more : List String) :
    Cancels (xs ++ more) (ys ++ more) := by
  cases h with
  | back above rest hn =>
    simpa using Cancels.back above (rest ++ more) hn
  | top => exact .top (ys ++ more)

theorem Cancels.normalNames_eq (h : Cancels xs ys) : normalNames xs = normalNames ys := by
  cases h with
  | @back above n rest hn =>
    have hback : normalNames (above ++ [n] ++ [".."]) = normalNames above := by
      rw [normalNames_concat, if_pos rfl, normalNames_concat, if_neg hn, List.dropLast_concat]
    have hrest : normalNames (above ++ [n] ++ [".."] ++ rest) = normalNames (above ++ rest) :=
      normalNames_append hback
    simpa using hrest
  | top =>
    have htop : normalNames ([".."] ++ ys) = normalNames ([] ++ ys) := normalNames_append rfl
    exact htop

theorem cancels_normalNames (names : List String) :
    Relation.ReflTransGen Cancels names (normalNames names) := by
  induction names using List.reverseRecOn with
  | nil => exact .refl
  | append_singleton front n ih =>
    have hfront : Relation.ReflTransGen Cancels (front ++ [n]) (normalNames front ++ [n]) :=
      ih.lift (· ++ [n]) fun _ _ h => h.append [n]
    rw [normalNames_concat]
    split
    · rename_i hup
      subst hup
      refine hfront.tail ?_
      obtain hnil | ⟨above, m, habove⟩ := List.eq_nil_or_concat' (normalNames front)
      · rw [hnil]
        exact .top []
      · have hmem : m ∈ normalNames front := by simp [habove]
        have hm : m ≠ ".." := (mem_of_mem_normalNames hmem).2
        rw [habove, List.dropLast_concat]
        simpa using Cancels.back above [] hm
    · exact hfront

theorem normalNames_eq_of_cancels (h : Relation.ReflTransGen Cancels xs ys) :
    normalNames xs = normalNames ys := by
  induction h with
  | refl => rfl
  | tail _ hstep ih => exact ih.trans hstep.normalNames_eq

/-- Whatever is cancelled first, the same is left when there is nothing more to cancel. -/
theorem normalNames_eq_iff :
    normalNames names = out ↔ Relation.ReflTransGen Cancels names out ∧ ".." ∉ out := by
  constructor
  · rintro rfl
    exact ⟨cancels_normalNames names, fun hup => (mem_of_mem_normalNames hup).2 rfl⟩
  · rintro ⟨hreach, hdown⟩
    rw [normalNames_eq_of_cancels hreach, normalNames_of_down hdown]

/-- The second path is what the first comes to by its names alone, below the one root there is. -/
structure IsLexically (p r : Path) : Prop where
  anchor : r.anchor = .root
  cancels : Relation.ReflTransGen Cancels p.names r.names
  down : ".." ∉ r.names

theorem isLexically_iff : IsLexically p r ↔ r = ⟨.root, normalNames p.names⟩ := by
  constructor
  · rintro ⟨hanchor, hcancels, hdown⟩
    obtain ⟨anchor, names⟩ := r
    obtain rfl : anchor = .root := hanchor
    rw [normalNames_eq_iff.2 ⟨hcancels, hdown⟩]
  · rintro rfl
    obtain ⟨hcancels, hdown⟩ := normalNames_eq_iff.1 (rfl : normalNames p.names = _)
    exact ⟨rfl, hcancels, hdown⟩

theorem IsLexically.mem {n : String} (h : IsLexically p r) (hn : n ∈ r.names) :
    n ∈ p.names ∧ n ≠ ".." := by
  rw [isLexically_iff.1 h] at hn
  exact mem_of_mem_normalNames hn

end Scaffold.Path

namespace Scaffold.Settings
open Files

variable {s : Settings} {homes : Homes} {fs : Files} {p q r : Path} {text : String}

/-! ### Resolving -/

theorem expandHome_isNormal (hp : p.IsNormal) (h : expandHome homes p = some q) : q.IsNormal := by
  unfold expandHome at h
  split at h
  · rename_i first rest _ hnames
    split at h
    · obtain ⟨home, -, hhome⟩ := Option.bind_eq_some_iff.1 h
      rcases ite_eq_iff.1 hhome with ⟨-, hnone⟩ | ⟨-, hsome⟩
      · exact absurd hnone (by simp)
      · obtain rfl := Option.some.inj hsome
        intro m hm
        rcases List.mem_append.1 hm with hm | hm
        · exact Path.ofText_isNormal _ m hm
        · exact hp m (by rw [hnames]; exact List.mem_cons_of_mem _ hm)
    · exact Option.some.inj h ▸ hp
  · exact Option.some.inj h ▸ hp

theorem expandHome_absolute (h : p.isAbsolute = true) : expandHome homes p = some p := by
  unfold expandHome
  split
  · rename_i hanchor _
    simp [Path.isAbsolute, hanchor] at h
  · rfl

theorem resolve_absolute (h : p.isAbsolute = true) : s.resolve homes fs p = .ok p := by
  simp [resolve, expandHome_absolute h, h]

def fromCurrent (fs : Files) (p : Path) : Path := (⟨.root, fs.current⟩ : Path).join p

theorem nominal_eq (fs : Files) (p : Path) :
    fs.nominal p = Path.normalNames (fromCurrent fs p).names := by
  unfold Files.nominal fromCurrent Files.start Path.join
  split <;> rfl

/-- In a tree without links, a path is resolved just if it starts from no unknown home and, unless
it is absolute then, there is no zero character in it and before it. -/
theorem resolve_eq_ok (hfs : fs.Regular) :
    s.resolve homes fs p = .ok r ↔ ∃ q, expandHome homes p = some q ∧
      if q.isAbsolute then r = q
      else '\x00' ∉ (s.running.join q).text.toList ∧
        Path.IsLexically (fromCurrent fs (s.running.join q)) r := by
  unfold resolve
  cases hhome : expandHome homes p with
  | none => simp
  | some q =>
    simp only [Option.some.injEq, exists_eq_left', canonical_regular hfs, Path.isLexically_iff,
      ← nominal_eq]
    by_cases habsolute : q.isAbsolute
    · simp [habsolute, eq_comm]
    · by_cases hzero : '\x00' ∈ (s.running.join q).text.toList
      · simp [habsolute, hzero]
      · simp [habsolute, hzero, eq_comm]

theorem resolve_isAbsolute (hfs : fs.Regular) (h : s.resolve homes fs p = .ok r) :
    r.isAbsolute = true := by
  obtain ⟨q, -, hq⟩ := (resolve_eq_ok hfs).1 h
  split at hq
  · rename_i habsolute
    rwa [hq]
  · simp [Path.isAbsolute, hq.2.anchor]

theorem resolve_isNormal (hfs : fs.Regular) (hrunning : s.running.IsNormal) (hp : p.IsNormal)
    (h : s.resolve homes fs p = .ok r) : r.IsNormal := by
  obtain ⟨q, hhome, hq⟩ := (resolve_eq_ok hfs).1 h
  have hnormal := expandHome_isNormal hp hhome
  split at hq
  · rwa [hq]
  · have hcurrent : (⟨.root, fs.current⟩ : Path).IsNormal := fun n hn =>
      have hplain := hfs.plain hfs.current n hn
      ⟨hplain.1, hplain.2.1, hplain.2.2.1⟩
    exact fun n hn => hcurrent.join (hrunning.join hnormal) n (hq.2.mem hn).1

/-- What a path of a text is resolved to, if it is resolved, is absolute, and resolves to itself, as
it is or from its text. It is the path itself if that is absolute once a tilde is replaced. Else
it has no dots, and is the one path that the current directory, the path that relative ones start
from, and the path itself come to by their names alone. -/
theorem resolve_settles (hfs : fs.Regular) (hrunning : s.running.IsNormal)
    (h : s.resolve homes fs (.ofText text) = .ok r) :
    r.isAbsolute = true ∧ s.resolve homes fs r = .ok r ∧
      s.resolve homes fs (.ofText r.text) = .ok r ∧
      ∃ q, expandHome homes (.ofText text) = some q ∧
        (q.isAbsolute = true → r = q) ∧
        (q.isAbsolute = false → (∀ n ∈ r.names, n ≠ "." ∧ n ≠ "..") ∧
          ∀ r', Path.IsLexically ((⟨.root, fs.current⟩ : Path).join (s.running.join q)) r' ↔
            r' = r) := by
  have hnormal := resolve_isNormal hfs hrunning (Path.ofText_isNormal text) h
  have habsolute := resolve_isAbsolute hfs h
  obtain ⟨q, hhome, hq⟩ := (resolve_eq_ok hfs).1 h
  refine ⟨habsolute, resolve_absolute habsolute, ?_, q, hhome, fun hroot => ?_, fun hroot => ?_⟩
  · rw [Path.ofText_text hnormal]
    exact resolve_absolute habsolute
  · rwa [if_pos hroot] at hq
  · rw [if_neg (by simp [hroot])] at hq
    refine ⟨fun n hn => ⟨(hnormal n hn).2.2, (hq.2.mem hn).2⟩, fun r' => ?_⟩
    rw [Path.isLexically_iff, Path.isLexically_iff.1 hq.2]
    rfl

def deskFiles : Files := ⟨[(["desk"], .directory)], ["desk"]⟩

theorem deskFiles_regular : deskFiles.Regular := by
  have hwell : deskFiles.WellFormed := by
    refine wellFormed_of_sound (by decide) ?_ (by decide)
    unfold Sound
    simp [deskFiles]
    decide
  exact ⟨hwell, linkFree_of_entries (by simp [deskFiles]) []⟩

def deskSettings : Settings := { projects := .ofText "types", running := .ofText "../out/./x" }

def deskHomes : Homes := ⟨"/home/me/", []⟩

theorem desk_settles :
    deskFiles.Regular ∧ deskSettings.running.IsNormal ∧
      deskSettings.resolve deskHomes deskFiles (.ofText "a//../../../../b/~") =
        .ok ⟨.root, ["b", "~"]⟩ ∧
      deskSettings.resolve deskHomes deskFiles ⟨.root, ["b", "~"]⟩ = .ok ⟨.root, ["b", "~"]⟩ ∧
      Path.IsLexically ⟨.root, ["desk", "..", "out", "x", "a", "..", "..", "..", "..", "b", "~"]⟩
        ⟨.root, ["b", "~"]⟩ ∧
      deskSettings.resolve deskHomes deskFiles (.ofText "~/x/..") =
        .ok ⟨.root, ["home", "me", "x", ".."]⟩ ∧
      deskSettings.resolve deskHomes deskFiles (.ofText "/home/me/x/..") =
        .ok ⟨.root, ["home", "me", "x", ".."]⟩ := by
  have hrunning : deskSettings.running.IsNormal := Path.ofText_isNormal _
  have hrelative : deskSettings.resolve deskHomes deskFiles (.ofText "a//../../../../b/~") =
      .ok ⟨.root, ["b", "~"]⟩ := by rfl
  have hhome : deskSettings.resolve deskHomes deskFiles (.ofText "~/x/..") =
      .ok ⟨.root, ["home", "me", "x", ".."]⟩ := by rfl
  obtain ⟨-, hagain, -, q, hq, -, hlexical⟩ := resolve_settles deskFiles_regular hrunning hrelative
  obtain ⟨-, -, hreread, -⟩ := resolve_settles deskFiles_regular hrunning hhome
  obtain rfl : ⟨.relative, ["a", "..", "..", "..", "..", "b", "~"]⟩ = q := Option.some.inj hq
  exact ⟨deskFiles_regular, hrunning, hrelative, hagain, ((hlexical rfl).2 _).2 rfl, hhome, hreread⟩

end Scaffold.Settings
