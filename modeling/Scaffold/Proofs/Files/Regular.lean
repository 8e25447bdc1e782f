import Scaffold.Files.Canonical
import Scaffold.Proofs.Files.Child

set_option autoImplicit false

/-!
# Trees without links

In a tree of files and directories alone a path names a place without a look at the tree: each name
goes one down and each double dot one up. What the path leads to, if it leads anywhere, is there.
-/
namespace Scaffold.Files

variable {fs : Files} {links : Nat} {at_ place P : Place} {left names : List String} {n : String}
  {p parent : Path} {e : Entry}

structure Regular (fs : Files) : Prop extends WellFormed fs where
  noLink : ∀ (place : Place) (target : String), fs.get? place ≠ some (.link target)

theorem Regular.linkFree (hfs : fs.Regular) (place : Place) : fs.LinkFree place :=
  fun rel target => hfs.noLink (place ++ rel) target

/-! ### The place that a path names -/

def nominal (fs : Files) (p : Path) : Place := Path.normalNames (fs.start p ++ p.names)

theorem nominal_child (hup : n ≠ "..") : fs.nominal (p.child n) = fs.nominal p ++ [n] := by
  have hnames : fs.start (p.child n) ++ (p.child n).names = (fs.start p ++ p.names) ++ [n] :=
    (List.append_assoc ..).symm
  rw [nominal, hnames, Path.normalNames_concat, if_neg hup, nominal]

theorem WellFormed.start_down (hfs : fs.WellFormed) (p : Path) : ".." ∉ fs.start p := fun hmem =>
  (hfs.plain (start_isDirectory hfs p) _ hmem).2.2.2 rfl

theorem nominal_of_down (hfs : fs.WellFormed) (hup : ".." ∉ p.names) :
    fs.nominal p = fs.start p ++ p.names := by
  refine Path.normalNames_of_down fun hmem => ?_
  rcases List.mem_append.1 hmem with hmem | hmem
  · exact hfs.start_down p hmem
  · exact hup hmem

private theorem normalNames_up (hat : ".." ∉ at_) (names : List String) :
    Path.normalNames (at_ ++ ".." :: names) = Path.normalNames (at_.dropLast ++ names) := by
  have hlast : ".." ∉ at_.dropLast := fun hmem => hat (List.dropLast_subset _ hmem)
  rw [← List.singleton_append, ← List.append_assoc]
  refine Path.normalNames_append ?_
  rw [Path.normalNames_concat, if_pos rfl, Path.normalNames_of_down hat,
    Path.normalNames_of_down hlast]

theorem Leads.nominal (h : fs.Leads left links at_ names P) (hfs : fs.Regular) (hat : ".." ∉ at_) :
    ∃ taken, names = taken ++ left ∧ P = Path.normalNames (at_ ++ taken) := by
  induction h with
  | here => exact ⟨[], rfl, by rw [List.append_nil, Path.normalNames_of_down hat]⟩
  | up _ ih =>
    obtain ⟨taken, rfl, rfl⟩ := ih fun hmem => hat (List.dropLast_subset _ hmem)
    exact ⟨".." :: taken, rfl, (normalNames_up hat taken).symm⟩
  | @into links at_ P n rest hup _ _ _ ih =>
    have hbelow : ".." ∉ at_ ++ [n] := by simpa [hat] using hup.symm
    obtain ⟨taken, rfl, rfl⟩ := ih hbelow
    exact ⟨n :: taken, rfl, by rw [List.append_assoc, List.singleton_append]⟩
  | link _ _ hlink _ _ _ => exact absurd hlink (hfs.noLink _ _)

/-- What a path leads to is at the place that the path names. -/
theorem stat_nominal (hfs : fs.Regular) (h : fs.stat p = .ok (place, e)) :
    place = fs.nominal p ∧ fs.get? place = some e := by
  have hstart : ".." ∉ fs.start p := hfs.start_down p
  rw [stat_eq_ok] at h
  rcases locate_cases fs true p with
    ⟨f, hl⟩ | ⟨Q, hl, -, hleads⟩ | ⟨Q, n, hl, hpoints, -⟩ <;> rw [hl] at h
  · cases h
  · cases h
    obtain ⟨taken, hnames, hplace⟩ := hleads.nominal hfs hstart
    rw [List.append_nil] at hnames
    rw [Files.nominal, hnames]
    exact ⟨hplace, hleads.isDirectory hfs.toWellFormed (start_isDirectory hfs.toWellFormed p)⟩
  · obtain ⟨rfl, he⟩ := landing_eq_found.1 h
    obtain ⟨taken, hnames, rfl⟩ := hpoints.leads.nominal hfs hstart
    rw [Files.nominal, hnames, ← List.append_assoc, Path.normalNames_concat, if_neg hpoints.notUp]
    exact ⟨rfl, he⟩

/-! ### Walking without links -/

theorem walkNames_regular (hfs : fs.Regular) (follow : Bool) (links : Nat) (at_ : Place)
    (names : List String) :
    fs.walkNames follow links at_ names = fs.walkNames true 0 at_ names ∧
      fs.walkNames true 0 at_ names ≠ .fault .tooManyLinks := by
  induction names generalizing at_ with
  | nil =>
    rw [walkNames_nil, walkNames_nil]
    exact ⟨rfl, by simp⟩
  | cons n rest ih =>
    by_cases hup : n = ".."
    · subst hup
      rw [walkNames_up, walkNames_up]
      exact ih at_.dropLast
    rw [walkNames_into _ _ _ _ _ hup, walkNames_into _ _ _ _ _ hup]
    split
    · exact ⟨rfl, by simp⟩
    cases he : fs.get? (at_ ++ [n]) with
    | none => by_cases hrest : rest = [] <;> simp [meet, hrest]
    | some e =>
      cases e with
      | directory => exact ih (at_ ++ [n])
      | file c => by_cases hrest : rest = [] <;> simp [meet, hrest]
      | link target => exact absurd he (hfs.noLink _ _)

theorem stat_ne_tooManyLinks (hfs : fs.Regular) (p : Path) : fs.stat p ≠ .error .tooManyLinks := by
  have hlocate : fs.locate true p ≠ .fault .tooManyLinks := by
    by_cases htakes : Takes p
    · obtain ⟨hwalk, hne⟩ := walkNames_regular hfs true linkLimit (fs.start p) p.names
      rwa [locate_of_takes htakes, hwalk]
    · obtain ⟨f, hkind, hf⟩ := locate_of_not_takes htakes
      rcases hkind with ⟨rfl, -⟩ | rfl <;> simp [hf]
  unfold stat
  cases hl : fs.locate true p with
  | found place e => simp
  | free place => simp
  | fault f =>
    intro hf
    cases hf
    exact hlocate hl

theorem statLink_regular (hfs : fs.Regular) (p : Path) : fs.statLink p = fs.stat p := by
  have hwalk := (walkNames_regular hfs false linkLimit (fs.start p) p.names).1
  have hwalk' := (walkNames_regular hfs true linkLimit (fs.start p) p.names).1
  unfold start at hwalk hwalk'
  simp only [statLink, stat, locate, hwalk, hwalk']

theorem walkNames_down (hfs : fs.WellFormed) (hup : ".." ∉ names)
    (hdir : fs.get? (at_ ++ names) = some .directory) (follow : Bool) (links : Nat)
    (more : List String) :
    fs.walkNames follow links at_ (names ++ more) =
      if ∀ n ∈ names, n.utf8ByteSize ≤ nameLimit then fs.walkNames follow links (at_ ++ names) more
      else .fault .nameTooLong := by
  induction names generalizing at_ with
  | nil => simp
  | cons n rest ih =>
    have hn : n ≠ ".." := fun heq => hup (by simp [heq])
    have hrest : ".." ∉ rest := fun hmem => hup (List.mem_cons_of_mem _ hmem)
    have hbelow : fs.get? (at_ ++ [n] ++ rest) = some .directory := by simpa using hdir
    have hhere : fs.get? (at_ ++ [n]) = some .directory := by
      by_cases hnil : rest = []
      · simpa [hnil] using hbelow
      · exact hfs.above hbelow hnil
    rw [List.cons_append, walkNames_into _ _ _ _ _ hn, hhere, meet, ih hrest hbelow]
    by_cases hsize : nameLimit < n.utf8ByteSize
    · have hlong : ¬ n.utf8ByteSize ≤ nameLimit := by omega
      simp [hsize, hlong]
    · have hshort : n.utf8ByteSize ≤ nameLimit := by omega
      simp [hsize, hshort]

theorem Leads.fit (h : fs.Leads left links at_ names P) (hleft : ∀ n ∈ left, n.utf8ByteSize ≤ nameLimit) :
    ∀ n ∈ names, n.utf8ByteSize ≤ nameLimit := by
  have hdots : "..".utf8ByteSize ≤ nameLimit := by decide
  induction h with
  | here => exact hleft
  | up _ ih =>
    intro n hn
    rcases List.mem_cons.1 hn with rfl | hn
    · exact hdots
    · exact ih n hn
  | into _ hsize _ _ ih =>
    intro n hn
    rcases List.mem_cons.1 hn with rfl | hn
    · exact hsize
    · exact ih n hn
  | link _ hsize _ _ _ ih =>
    intro n hn
    rcases List.mem_cons.1 hn with rfl | hn
    · exact hsize
    · exact ih n (List.mem_append_right _ hn)

/-! ### One name below a directory that a path names -/

def Fits (p : Path) : Prop :=
  p.text.utf8ByteSize ≤ pathLimit ∧ ∀ n ∈ p.names, n.utf8ByteSize ≤ nameLimit

instance (p : Path) : Decidable (Fits p) := inferInstanceAs (Decidable (_ ∧ _))

/-- The place that a path names is the one that following it comes to, if it comes to one: the path
has no double dots, or leads to a directory. -/
def Straight (fs : Files) (p : Path) : Prop :=
  ".." ∉ p.names ∨ ∃ P, fs.stat p = .ok (P, .directory)

section
variable (hfs : fs.Regular) (hstraight : fs.Straight parent)
  (hdir : fs.get? (fs.nominal parent) = some .directory)
include hfs hstraight hdir

private theorem text_of_straight (hzero : '\x00' ∉ n.toList) :
    '\x00' ∉ (parent.child n).text.toList := by
  have habove : ∀ m ∈ parent.names, '\x00' ∉ m.toList := by
    intro m hm
    rcases hstraight with hdown | ⟨P, hP⟩
    · rw [nominal_of_down hfs.toWellFormed hdown] at hdir
      exact (hfs.named_of_mem hdir m (List.mem_append_right _ hm)).2
    · exact fun hc => (stat_directory_iff.1 hP).1.1 (Path.mem_text hm hc)
  intro hmem
  rcases Path.of_mem_text hmem with hc | hc | ⟨m, hm, hc⟩
  · simp at hc
  · simp at hc
  · rcases List.mem_append.1 hm with hm | hm
    · exact habove m hm hc
    · exact hzero (List.mem_singleton.1 hm ▸ hc)

theorem walkNames_straight (hup : n ≠ "..") :
    fs.walkNames true linkLimit (fs.start parent) (parent.names ++ [n]) =
      if ∀ m ∈ parent.names ++ [n], m.utf8ByteSize ≤ nameLimit then
        fs.landing (fs.nominal parent ++ [n])
      else .fault .nameTooLong := by
  have hlast : fs.atName (fs.nominal parent) n = if n.utf8ByteSize ≤ nameLimit then
      fs.landing (fs.nominal parent ++ [n]) else .fault .nameTooLong := by
    unfold atName
    by_cases hsize : n.utf8ByteSize ≤ nameLimit
    · rw [if_neg (by omega), if_pos hsize]
    · rw [if_pos (by omega), if_neg hsize]
  have hsizes : (∀ m ∈ parent.names ++ [n], m.utf8ByteSize ≤ nameLimit) ↔
      (∀ m ∈ parent.names, m.utf8ByteSize ≤ nameLimit) ∧ n.utf8ByteSize ≤ nameLimit := by
    simp [or_imp, forall_and]
  simp only [hsizes, ite_and, ← hlast]
  rcases hstraight with hdown | ⟨P, hP⟩
  · rw [nominal_of_down hfs.toWellFormed hdown] at hdir ⊢
    rw [walkNames_down hfs.toWellFormed hdown hdir,
      walkNames_last true linkLimit hup fun _ => hfs.noLink _]
  · obtain ⟨rfl, -⟩ := stat_nominal hfs hP
    have hleads := (stat_directory_iff.1 hP).2
    rw [hleads.child true hup (hfs.noLink _), if_pos (hleads.fit (by simp))]

theorem locate_straight (hup : n ≠ "..") (hzero : '\x00' ∉ n.toList) :
    fs.locate true (parent.child n) =
      if Fits (parent.child n) then fs.landing (fs.nominal parent ++ [n])
      else .fault .nameTooLong := by
  have htext := text_of_straight hfs hstraight hdir hzero
  have hwalk := walkNames_straight hfs hstraight hdir hup
  by_cases hsize : (parent.child n).text.utf8ByteSize ≤ pathLimit
  · rw [locate_of_takes ⟨htext, hsize⟩]
    refine hwalk.trans ?_
    by_cases hnames : ∀ m ∈ parent.names ++ [n], m.utf8ByteSize ≤ nameLimit
    · rw [if_pos hnames, if_pos ⟨hsize, hnames⟩]
    · rw [if_neg hnames, if_neg fun hfits => hnames hfits.2]
  · rw [locate, if_neg (by simpa using htext), if_pos (by omega), if_neg fun hfits => hsize hfits.1]

end

/-! ### Canonical places -/

theorem followNames_regular (hfs : fs.Regular) (onLink : Place → Place → String → Canonical)
    (hat : ".." ∉ at_) (names : List String) :
    fs.followNames onLink at_ names = .reached (Path.normalNames (at_ ++ names)) := by
  induction names generalizing at_ with
  | nil => rw [followNames, List.append_nil, Path.normalNames_of_down hat]
  | cons n rest ih =>
    by_cases hup : n = ".."
    · subst hup
      rw [followNames, if_pos rfl, normalNames_up hat]
      exact ih fun hmem => hat (List.dropLast_subset _ hmem)
    · have hbelow : ".." ∉ at_ ++ [n] := by simpa [hat] using Ne.symm hup
      have hon := ih hbelow
      rw [List.append_assoc, List.singleton_append] at hon
      rw [followNames, if_neg hup]
      simp only
      cases he : fs.get? (at_ ++ [n]) with
      | none => exact hon
      | some e =>
        cases e with
        | link target => exact absurd he (hfs.noLink _ _)
        | directory => exact hon
        | file c => exact hon

theorem canonical_regular (hfs : fs.Regular) (p : Path) :
    fs.canonical p =
      if '\x00' ∈ p.text.toList then .error .zeroCharacter else .ok ⟨.root, fs.nominal p⟩ := by
  have hnames : fs.canonicalNames p = fs.nominal p := by
    have hfollow := fun onLink => followNames_regular hfs onLink (hfs.start_down p) p.names
    unfold start at hfollow
    rw [canonicalNames, canonicalFrom, hfollow]
    rfl
  unfold canonical
  rw [hnames]
  by_cases hzero : '\x00' ∈ p.text.toList
  · rw [if_pos (by simpa using hzero), if_pos hzero]
  · rw [if_neg (by simpa using hzero), if_neg hzero]
    simp only
    split
    · rename_i hloop
      exact absurd hloop (stat_ne_tooManyLinks hfs _)
    · rfl

end Scaffold.Files
