import Scaffold.Proofs.Files.Tree
import Scaffold.Proofs.Paths

set_option autoImplicit false

/-!
# Where paths lead

That names lead from one directory to another is a relation, of which walking along them is the
decision. It survives in every later tree, and what stands one name further is read off the tree.
Nothing is assumed of links on the way.
-/
namespace Scaffold.Files

variable {fs fs' : Files} {links : Nat} {at_ place P : Place} {left names : List String} {n : String}

/-- Names lead from a directory to another one along at most so many links, with some names left to
go from there. -/
inductive Leads (fs : Files) (left : List String) : Nat → Place → List String → Place → Prop
  | here {links : Nat} {at_ : Place} : Leads fs left links at_ left at_
  | up {links : Nat} {at_ P : Place} {rest : List String} :
    Leads fs left links at_.dropLast rest P → Leads fs left links at_ (".." :: rest) P
  | into {links : Nat} {at_ P : Place} {n : String} {rest : List String} :
    n ≠ ".." → n.utf8ByteSize ≤ nameLimit → fs.get? (at_ ++ [n]) = some .directory →
    Leads fs left links (at_ ++ [n]) rest P → Leads fs left links at_ (n :: rest) P
  | link {links : Nat} {at_ P : Place} {n target : String} {rest : List String} :
    n ≠ ".." → n.utf8ByteSize ≤ nameLimit → fs.get? (at_ ++ [n]) = some (.link target) →
    target ≠ "" →
    Leads fs left links (if (Path.ofText target).isAbsolute then [] else at_)
      ((Path.ofText target).names ++ rest) P →
    Leads fs left (links + 1) at_ (n :: rest) P

/-! ### Walking along names -/

def beyondLink (fs : Files) (follow : Bool) : Nat → Place → String → List String → Located
  | 0, _, _, _ => .fault .tooManyLinks
  | links + 1, at_, target, rest =>
    if target = "" then .fault .notFound
    else
      walkNames fs follow links (if (Path.ofText target).isAbsolute then [] else at_)
        ((Path.ofText target).names ++ rest)

def meet (fs : Files) (follow : Bool) (links : Nat) (at_ place : Place) (rest : List String) :
    Option Entry → Located
  | none => if rest = [] then .free place else .fault .notFound
  | some .directory => walkNames fs follow links place rest
  | some (.file content) => if rest = [] then .found place (.file content) else .fault .notDirectory
  | some (.link target) =>
    if rest = [] && !follow then .found place (.link target)
    else beyondLink fs follow links at_ target rest

theorem walkNames_nil (fs : Files) (follow : Bool) (links : Nat) (at_ : Place) :
    walkNames fs follow links at_ [] = .found at_ .directory := by
  cases links <;> rfl

theorem walkNames_up (fs : Files) (follow : Bool) (links : Nat) (at_ : Place)
    (rest : List String) :
    walkNames fs follow links at_ (".." :: rest) = walkNames fs follow links at_.dropLast rest := by
  cases links <;> simp [walkNames, advance]

theorem walkNames_into (fs : Files) (follow : Bool) (links : Nat) (at_ : Place)
    (rest : List String) (hup : n ≠ "..") :
    walkNames fs follow links at_ (n :: rest) =
      if nameLimit < n.utf8ByteSize then .fault .nameTooLong
      else meet fs follow links at_ (at_ ++ [n]) rest (fs.get? (at_ ++ [n])) := by
  cases links with
  | zero =>
    simp only [walkNames, advance, hup, if_false]
    split
    · rfl
    · cases fs.get? (at_ ++ [n]) with
      | none => rfl
      | some e => cases e <;> rfl
  | succ links =>
    simp only [walkNames, advance, hup, if_false]
    split
    · rfl
    · cases fs.get? (at_ ++ [n]) with
      | none => rfl
      | some e => cases e <;> rfl

def landing (fs : Files) (place : Place) : Located :=
  match fs.get? place with
  | none => .free place
  | some e => .found place e

theorem landing_eq_found {q : Place} {e : Entry} :
    fs.landing place = .found q e ↔ q = place ∧ fs.get? place = some e := by
  unfold landing
  cases fs.get? place with
  | none => simp
  | some e' =>
    constructor
    · intro h
      cases h
      exact ⟨rfl, rfl⟩
    · rintro ⟨rfl, h⟩
      cases h
      rfl

theorem landing_eq_free {q : Place} :
    fs.landing place = .free q ↔ q = place ∧ fs.get? place = none := by
  unfold landing
  cases fs.get? place <;> simp [eq_comm]

def atName (fs : Files) (place : Place) (n : String) : Located :=
  if nameLimit < n.utf8ByteSize then .fault .nameTooLong else fs.landing (place ++ [n])

theorem walkNames_last (follow : Bool) (links : Nat) (hup : n ≠ "..")
    (hlink : follow = true → ∀ target, fs.get? (P ++ [n]) ≠ some (.link target)) :
    fs.walkNames follow links P [n] = fs.atName P n := by
  rw [walkNames_into _ _ _ _ _ hup, atName, landing]
  split
  · rfl
  · cases he : fs.get? (P ++ [n]) with
    | none => rfl
    | some e =>
      cases e with
      | directory => exact walkNames_nil ..
      | file c => rfl
      | link target =>
        cases follow with
        | false => rfl
        | true => exact absurd he (hlink rfl target)

theorem Leads.walk (h : fs.Leads left links at_ names P) (follow : Bool) (more : List String)
    (hmore : follow = true ∨ more ≠ []) :
    ∃ fewer, fs.walkNames follow links at_ (names ++ more) =
      fs.walkNames follow fewer P (left ++ more) := by
  induction h with
  | here => exact ⟨_, rfl⟩
  | up _ ih =>
    rw [List.cons_append, walkNames_up]
    exact ih
  | into hup hsize hdir _ ih =>
    rw [List.cons_append, walkNames_into _ _ _ _ _ hup, if_neg (by omega), hdir]
    exact ih
  | @link links at_ P n target rest hup hsize hlink htarget _ ih =>
    have hon : (decide (rest ++ more = []) && !follow) = false := by
      rcases hmore with rfl | hne
      · simp
      · simp [hne]
    obtain ⟨fewer, hwalk⟩ := ih
    refine ⟨fewer, ?_⟩
    rw [List.cons_append, walkNames_into _ _ _ _ _ hup, if_neg (by omega), hlink, ← hwalk,
      List.append_assoc]
    simp only [meet, hon, beyondLink, htarget, if_false]
    rfl

theorem Leads.walkNames (h : fs.Leads [] links at_ names P) :
    fs.walkNames true links at_ names = .found P .directory := by
  obtain ⟨fewer, hwalk⟩ := h.walk true [] (.inl rfl)
  rwa [List.append_nil, List.append_nil, walkNames_nil] at hwalk

theorem Leads.name (h : fs.Leads [n] links at_ names P) (hup : n ≠ "..")
    (hlink : ∀ target, fs.get? (P ++ [n]) ≠ some (.link target)) :
    fs.walkNames true links at_ names = fs.atName P n := by
  obtain ⟨fewer, hwalk⟩ := h.walk true [] (.inl rfl)
  rwa [List.append_nil, List.append_nil, walkNames_last _ _ hup fun _ => hlink] at hwalk

theorem Leads.child (h : fs.Leads [] links at_ names P) (follow : Bool) (hup : n ≠ "..")
    (hlink : ∀ target, fs.get? (P ++ [n]) ≠ some (.link target)) :
    fs.walkNames follow links at_ (names ++ [n]) = fs.atName P n := by
  obtain ⟨fewer, hwalk⟩ := h.walk follow [n] (.inr (by simp))
  rwa [List.nil_append, walkNames_last _ _ hup fun _ => hlink] at hwalk

/-- How walks along names end: with a fault, in a directory, or under a name in a directory. -/
inductive Ends (fs : Files) (follow : Bool) (links : Nat) (at_ : Place) (names : List String) :
    Located → Prop
  | fault (f : Fault) : Ends fs follow links at_ names (.fault f)
  | directory {P : Place} : fs.Leads [] links at_ names P →
    Ends fs follow links at_ names (.found P .directory)
  | name {P : Place} {n : String} : fs.Leads [n] links at_ names P → n ≠ ".." →
    n.utf8ByteSize ≤ nameLimit → fs.get? (P ++ [n]) ≠ some .directory →
    (follow = true → ∀ target, fs.get? (P ++ [n]) ≠ some (.link target)) →
    Ends fs follow links at_ names (fs.landing (P ++ [n]))

theorem Ends.step {follow : Bool} {links fewer : Nat} {at_ place : Place} {names more : List String}
    {l : Located} (h : fs.Ends follow fewer place more l)
    (hstep : ∀ left P, fs.Leads left fewer place more P → fs.Leads left links at_ names P) :
    fs.Ends follow links at_ names l := by
  cases h with
  | fault f => exact .fault f
  | directory hleads => exact .directory (hstep _ _ hleads)
  | name hleads hup hsize hdir hlink => exact .name (hstep _ _ hleads) hup hsize hdir hlink

/-- An entry at the end of the names that is not gone into is where the walk ends. -/
theorem Ends.last {follow : Bool} {l : Located} (hup : n ≠ "..") (hsize : n.utf8ByteSize ≤ nameLimit)
    (hdir : fs.get? (at_ ++ [n]) ≠ some .directory)
    (hlink : follow = true → ∀ target, fs.get? (at_ ++ [n]) ≠ some (.link target))
    (hl : fs.landing (at_ ++ [n]) = l) : fs.Ends follow links at_ [n] l :=
  hl ▸ .name .here hup hsize hdir hlink

theorem walkNames_ends (fs : Files) (follow : Bool) (links : Nat) (at_ : Place)
    (names : List String) :
    fs.Ends follow links at_ names (fs.walkNames follow links at_ names) := by
  -- Behind a link there may be more names than before, but fewer links are left to follow.
  induction links using Nat.strongRecOn generalizing at_ names with
  | _ links fewer_links =>
    induction names generalizing at_ with
    | nil =>
      rw [walkNames_nil]
      exact .directory .here
    | cons n rest ih =>
      by_cases hup : n = ".."
      · subst hup
        rw [walkNames_up]
        exact (ih at_.dropLast).step fun _ _ => .up
      rw [walkNames_into _ _ _ _ _ hup]
      split
      · exact .fault _
      rename_i hsize
      have hsize : n.utf8ByteSize ≤ nameLimit := by omega
      cases he : fs.get? (at_ ++ [n]) with
      | none =>
        by_cases hrest : rest = []
        · subst hrest
          exact .last hup hsize (by simp [he]) (by simp [he]) (by simp [meet, landing, he])
        · rw [meet, if_neg hrest]
          exact .fault _
      | some e =>
        cases e with
        | directory => exact (ih (at_ ++ [n])).step fun _ _ => .into hup hsize he
        | file c =>
          by_cases hrest : rest = []
          · subst hrest
            exact .last hup hsize (by simp [he]) (by simp [he]) (by simp [meet, landing, he])
          · rw [meet, if_neg hrest]
            exact .fault _
        | link target =>
          by_cases hlast : (decide (rest = []) && !follow) = true
          · obtain ⟨rfl, rfl⟩ : rest = [] ∧ follow = false := by simpa using hlast
            exact .last hup hsize (by simp [he]) (by simp) (by simp [meet, landing, he])
          simp only [meet, hlast]
          cases links with
          | zero => exact .fault _
          | succ fewer =>
            by_cases htarget : target = ""
            · simp only [beyondLink, htarget, if_true]
              exact .fault _
            simp only [beyondLink, htarget, if_false]
            exact (fewer_links fewer (by omega) _ _).step fun _ _ => .link hup hsize he htarget

theorem Leads.found (h : fs.Leads [] links at_ names P) :
    ∃ place e, fs.walkNames false links at_ names = .found place e := by
  induction h with
  | here => exact ⟨_, _, walkNames_nil ..⟩
  | up _ ih =>
    rw [walkNames_up]
    exact ih
  | into hup hsize hdir _ ih =>
    rw [walkNames_into _ _ _ _ _ hup, if_neg (by omega), hdir]
    exact ih
  | @link links at_ P n target rest hup hsize hlink htarget _ ih =>
    rw [walkNames_into _ _ _ _ _ hup, if_neg (by omega), hlink]
    by_cases hrest : rest = []
    · exact ⟨at_ ++ [n], .link target, by simp [meet, hrest]⟩
    · simpa [meet, beyondLink, htarget, hrest] using ih

/-! ### Other trees, and parts of the names -/

theorem Leads.later (h : fs.Leads left links at_ names P) (hfs : fs.Extends fs') :
    fs'.Leads left links at_ names P := by
  induction h with
  | here => exact .here
  | up _ ih => exact .up ih
  | into hup hsize hdir _ ih => exact .into hup hsize (hfs.directory hdir) ih
  | link hup hsize hlink htarget _ ih => exact .link hup hsize (hfs.link hlink) htarget ih

theorem Leads.isDirectory (h : fs.Leads left links at_ names P) (hfs : fs.WellFormed)
    (hat : fs.get? at_ = some .directory) : fs.get? P = some .directory := by
  induction h with
  | here => exact hat
  | up _ ih => exact ih (hfs.get?_dropLast hat)
  | into _ _ hdir _ ih => exact ih hdir
  | link _ _ _ _ _ ih =>
    apply ih
    split
    · rfl
    · exact hat

theorem Leads.unique (h : fs.Leads [] links at_ names P) {Q : Place}
    (h' : fs.Leads [] links at_ names Q) : P = Q := by
  have hwalk := h.walkNames.symm.trans h'.walkNames
  cases hwalk
  rfl

theorem Leads.split {front rest : List String} (h : fs.Leads left links at_ names P)
    (hnames : names = front ++ rest) (hleft : left.length ≤ rest.length) :
    ∃ Q fewer, fs.Leads [] links at_ front Q ∧ fs.Leads left fewer Q rest P := by
  induction h generalizing front with
  | @here links at_ =>
    obtain rfl : front = [] := by
      have := congrArg List.length hnames
      rw [List.length_append] at this
      exact List.length_eq_zero_iff.1 (by omega)
    exact ⟨at_, links, .here, (show left = rest from hnames) ▸ .here⟩
  | @up links at_ P tail h ih =>
    cases front with
    | nil => exact ⟨at_, links, .here, (show ".." :: tail = rest from hnames) ▸ .up h⟩
    | cons m front =>
      obtain ⟨rfl, rfl⟩ := List.cons.inj hnames
      obtain ⟨Q, fewer, hfront, hrest⟩ := ih rfl
      exact ⟨Q, fewer, .up hfront, hrest⟩
  | @into links at_ P n tail hup hsize hdir h ih =>
    cases front with
    | nil =>
      exact ⟨at_, links, .here, (show n :: tail = rest from hnames) ▸ .into hup hsize hdir h⟩
    | cons m front =>
      obtain ⟨rfl, rfl⟩ := List.cons.inj hnames
      obtain ⟨Q, fewer, hfront, hrest⟩ := ih rfl
      exact ⟨Q, fewer, .into hup hsize hdir hfront, hrest⟩
  | @link links at_ P n target tail hup hsize hlink htarget h ih =>
    cases front with
    | nil =>
      exact ⟨at_, links + 1, .here,
        (show n :: tail = rest from hnames) ▸ .link hup hsize hlink htarget h⟩
    | cons m front =>
      obtain ⟨rfl, rfl⟩ := List.cons.inj hnames
      obtain ⟨Q, fewer, hfront, hrest⟩ := ih (List.append_assoc ..).symm
      exact ⟨Q, fewer, .link hup hsize hlink htarget hfront, hrest⟩

theorem Leads.more (h : fs.Leads left links at_ names P) (more : List String) :
    fs.Leads (left ++ more) links at_ (names ++ more) P := by
  induction h with
  | here => exact .here
  | up _ ih => exact .up ih
  | into hup hsize hdir _ ih => exact .into hup hsize hdir ih
  | link hup hsize hlink htarget _ ih =>
    rw [List.append_assoc] at ih
    exact .link hup hsize hlink htarget ih

theorem Leads.down (h : fs.Leads left links at_ names P) (hlink : fs.LinkFree at_)
    (hup : ".." ∉ names) : ∃ taken, names = taken ++ left ∧ P = at_ ++ taken := by
  induction h with
  | here => exact ⟨[], by simp⟩
  | up _ _ => simp at hup
  | @into links at_ P n rest _ _ _ _ ih =>
    have hbelow : fs.LinkFree (at_ ++ [n]) := fun rel target => by
      rw [List.append_assoc]
      exact hlink _ _
    obtain ⟨taken, rfl, rfl⟩ := ih hbelow fun h => hup (List.mem_cons_of_mem _ h)
    exact ⟨n :: taken, by simp⟩
  | @link links at_ P n target rest _ _ hentry _ _ _ => exact absurd hentry (hlink [n] target)

/-- A text without zero character between slashes of a path. -/
def Usable (n : String) : Prop := (n ≠ "" ∧ '/' ∉ n.toList ∧ n ≠ ".") ∧ '\x00' ∉ n.toList

theorem usable_of_link (hfs : fs.WellFormed) {target : String}
    (h : fs.get? place = some (.link target)) (hn : n ∈ (Path.ofText target).names) : Usable n :=
  ⟨Path.ofText_isNormal target n hn, fun hzero => hfs.targets h (Path.mem_ofText hn hzero)⟩

theorem Leads.usable (h : fs.Leads left links at_ names P) (hfs : fs.WellFormed)
    (hnames : ∀ n ∈ names, Usable n) : ∀ n ∈ left, Usable n := by
  induction h with
  | here => exact hnames
  | up _ ih => exact ih fun n hn => hnames n (List.mem_cons_of_mem _ hn)
  | into _ _ _ _ ih => exact ih fun n hn => hnames n (List.mem_cons_of_mem _ hn)
  | link _ _ hlink _ _ ih =>
    refine ih fun n hn => ?_
    rcases List.mem_append.1 hn with hn | hn
    · exact usable_of_link hfs hlink hn
    · exact hnames n (List.mem_cons_of_mem _ hn)

/-! ### Paths -/

/-- The text of the path is one that the tree takes: no zero character, not too long. -/
def Takes (p : Path) : Prop := '\x00' ∉ p.text.toList ∧ p.text.utf8ByteSize ≤ pathLimit

def start (fs : Files) (p : Path) : Place := if p.isAbsolute then [] else fs.current

theorem start_isDirectory (hfs : fs.WellFormed) (p : Path) :
    fs.get? (fs.start p) = some .directory := by
  unfold start
  split
  · rfl
  · exact hfs.current

theorem locate_of_takes {p : Path} (h : Takes p) (follow : Bool) :
    fs.locate follow p = fs.walkNames follow linkLimit (fs.start p) p.names := by
  have hzero : p.text.toList.contains '\x00' = false := by simpa using h.1
  unfold locate start
  rw [hzero, if_neg (by simp), if_neg (by have := h.2; omega)]

theorem locate_of_not_takes {p : Path} (h : ¬ Takes p) :
    ∃ f, (f = .zeroCharacter ∧ '\x00' ∈ p.text.toList ∨ f = .nameTooLong) ∧
      ∀ (fs : Files) (follow : Bool), fs.locate follow p = .fault f := by
  by_cases hzero : '\x00' ∈ p.text.toList
  · refine ⟨.zeroCharacter, .inl ⟨rfl, hzero⟩, fun fs follow => ?_⟩
    unfold locate
    rw [if_pos (by simpa using hzero)]
  · refine ⟨.nameTooLong, .inr rfl, fun fs follow => ?_⟩
    have hlong : pathLimit < p.text.utf8ByteSize := by
      by_contra hshort
      exact h ⟨hzero, by omega⟩
    unfold locate
    rw [if_neg (by simpa using hzero), if_pos hlong]

structure Points (fs : Files) (p : Path) (P : Place) (n : String) : Prop where
  takes : Takes p
  leads : fs.Leads [n] linkLimit (fs.start p) p.names P
  notUp : n ≠ ".."
  size : n.utf8ByteSize ≤ nameLimit

theorem Points.isDirectory {p : Path} (h : fs.Points p P n) (hfs : fs.WellFormed) :
    fs.get? P = some .directory :=
  h.leads.isDirectory hfs (start_isDirectory hfs p)

theorem Points.locate {p : Path} (h : fs.Points p P n)
    (hlink : ∀ target, fs.get? (P ++ [n]) ≠ some (.link target)) :
    fs.locate true p = fs.landing (P ++ [n]) := by
  rw [locate_of_takes h.takes, h.leads.name h.notUp hlink, atName,
    if_neg (by have := h.size; omega)]

theorem Points.later {p : Path} (h : fs.Points p P n) (hfs : fs.Extends fs') :
    fs'.Points p P n := by
  have hstart : fs'.start p = fs.start p := by
    unfold start
    rw [hfs.current]
  exact ⟨h.takes, hstart ▸ h.leads.later hfs, h.notUp, h.size⟩

theorem Points.named {p : Path} (h : fs.Points p P n) (hfs : fs.WellFormed) (hp : p.IsNormal) :
    Path.IsPlain n ∧ '\x00' ∉ n.toList := by
  have husable : ∀ m ∈ p.names, Usable m :=
    fun m hm => ⟨hp m hm, fun hzero => h.takes.1 (Path.mem_text hm hzero)⟩
  obtain ⟨⟨hempty, hslash, hdot⟩, hzero⟩ := h.leads.usable hfs husable n (by simp)
  exact ⟨⟨hempty, hslash, hdot, h.notUp⟩, hzero⟩

theorem locate_cases (fs : Files) (follow : Bool) (p : Path) :
    (∃ f, fs.locate follow p = .fault f) ∨
    (∃ P, fs.locate follow p = .found P .directory ∧ Takes p ∧
      fs.Leads [] linkLimit (fs.start p) p.names P) ∨
    ∃ P n, fs.locate follow p = fs.landing (P ++ [n]) ∧ fs.Points p P n ∧
      fs.get? (P ++ [n]) ≠ some .directory ∧
      (follow = true → ∀ target, fs.get? (P ++ [n]) ≠ some (.link target)) := by
  by_cases htakes : Takes p
  · rw [locate_of_takes htakes]
    have hends := walkNames_ends fs follow linkLimit (fs.start p) p.names
    generalize fs.walkNames follow linkLimit (fs.start p) p.names = l at hends ⊢
    cases hends with
    | fault f => exact .inl ⟨f, rfl⟩
    | directory hleads => exact .inr (.inl ⟨_, rfl, htakes, hleads⟩)
    | name hleads hup hsize hdir hlink =>
      exact .inr (.inr ⟨_, _, rfl, ⟨htakes, hleads, hup, hsize⟩, hdir, hlink⟩)
  · obtain ⟨f, -, hf⟩ := locate_of_not_takes htakes
    exact .inl ⟨f, hf fs follow⟩

theorem stat_eq_ok {p : Path} {e : Entry} :
    fs.stat p = .ok (place, e) ↔ fs.locate true p = .found place e := by
  unfold stat
  cases fs.locate true p <;> simp

theorem stat_directory_iff {p : Path} :
    fs.stat p = .ok (P, .directory) ↔
      Takes p ∧ fs.Leads [] linkLimit (fs.start p) p.names P := by
  rw [stat_eq_ok]
  constructor
  · intro h
    rcases locate_cases fs true p with
      ⟨f, hl⟩ | ⟨Q, hl, htakes, hleads⟩ | ⟨Q, n, hl, -, hdir, -⟩ <;> rw [hl] at h
    · cases h
    · cases h
      exact ⟨htakes, hleads⟩
    · rw [landing_eq_found] at h
      exact absurd (h.1 ▸ h.2) hdir
  · rintro ⟨htakes, hleads⟩
    rw [locate_of_takes htakes, hleads.walkNames]

theorem stat_directory_extends {p : Path} (h : fs.stat p = .ok (P, .directory))
    (hfs : fs.Extends fs') : fs'.stat p = .ok (P, .directory) := by
  rw [stat_directory_iff] at h ⊢
  have hstart : fs'.start p = fs.start p := by
    unfold start
    rw [hfs.current]
  rw [hstart]
  exact ⟨h.1, h.2.later hfs⟩

theorem isDirectory_of_stat {p : Path} (hfs : fs.WellFormed)
    (h : fs.stat p = .ok (P, .directory)) : fs.get? P = some .directory :=
  (stat_directory_iff.1 h).2.isDirectory hfs (start_isDirectory hfs p)

/-- What a path leads to is found there in every later tree, if with other content. -/
theorem stat_extends {p : Path} {e : Entry} (hfs : fs.WellFormed)
    (h : fs.stat p = .ok (place, e)) (hext : fs.Extends fs') :
    ∃ e', fs'.stat p = .ok (place, e') ∧ fs'.get? place = some e' ∧
      (e = .directory → e' = .directory) ∧ ∀ c, e = .file c → ∃ c', e' = .file c' := by
  by_cases hkind : e = .directory
  · subst hkind
    exact ⟨.directory, stat_directory_extends h hext,
      hext.directory (isDirectory_of_stat hfs h), fun _ => rfl, by simp⟩
  · have hat : ∃ Q n, place = Q ++ [n] ∧ fs.Points p Q n ∧ fs.get? place = some e ∧
        ∀ target, e ≠ .link target := by
      rw [stat_eq_ok] at h
      rcases locate_cases fs true p with
        ⟨f, hl⟩ | ⟨Q, hl, -⟩ | ⟨Q, n, hl, hpoints, -, hlink⟩ <;> rw [hl] at h
      · cases h
      · cases h
        exact absurd rfl hkind
      · obtain ⟨rfl, he⟩ := landing_eq_found.1 h
        exact ⟨Q, n, rfl, hpoints, he, fun target ht => hlink rfl target (ht ▸ he)⟩
    obtain ⟨Q, n, rfl, hpoints, he, hlink⟩ := hat
    cases e with
    | directory => exact absurd rfl hkind
    | link target => exact absurd rfl (hlink target)
    | file c =>
      obtain ⟨c', hc'⟩ := hext.file he
      refine ⟨.file c', ?_, hc', by simp, fun _ _ => ⟨c', rfl⟩⟩
      rw [stat, (hpoints.later hext).locate (by simp [hc']), landing, hc']

theorem stat_under {p : Path} {rel : List String} {e : Entry} (hp : fs.stat p = .ok (P, .directory))
    (hlink : fs.LinkFree P) (hup : ".." ∉ rel) (hrel : rel ≠ [])
    (h : fs.stat (p.under rel) = .ok (place, e)) : place = P ++ rel := by
  have hstart : fs.start (p.under rel) = fs.start p := rfl
  have hnames : (p.under rel).names = p.names ++ rel := rfl
  have hlength : 0 < rel.length := List.length_pos_iff.2 hrel
  have hlead := (stat_directory_iff.1 hp).2
  rw [stat_eq_ok] at h
  rcases locate_cases fs true (p.under rel) with
    ⟨f, hl⟩ | ⟨Q, hl, -, hleads⟩ | ⟨Q, n, hl, hpoints, -⟩ <;> rw [hl] at h
  · cases h
  · cases h
    obtain ⟨R, fewer, hfront, hrest⟩ := hleads.split hnames (by simp)
    obtain rfl := hlead.unique (hstart ▸ hfront)
    obtain ⟨taken, rfl, rfl⟩ := hrest.down hlink hup
    simp
  · obtain ⟨R, fewer, hfront, hrest⟩ := hpoints.leads.split hnames hlength
    obtain rfl := hlead.unique (hstart ▸ hfront)
    obtain ⟨taken, rfl, rfl⟩ := hrest.down hlink hup
    rw [(landing_eq_found.1 h).1, List.append_assoc]

def TakesChild (p : Path) (n : String) : Prop :=
  Takes (p.child n) ∧ n.utf8ByteSize ≤ nameLimit

theorem locate_child {p : Path} (h : fs.stat p = .ok (P, .directory)) (hup : n ≠ "..")
    (hlink : ∀ target, fs.get? (P ++ [n]) ≠ some (.link target)) (htakes : TakesChild p n)
    (follow : Bool) : fs.locate follow (p.child n) = fs.landing (P ++ [n]) := by
  rw [locate_of_takes htakes.1]
  have hwalk := (stat_directory_iff.1 h).2.child follow hup hlink
  rwa [atName, if_neg (by have := htakes.2; omega)] at hwalk

theorem locate_child_of_not_takes {p : Path} (h : fs.stat p = .ok (P, .directory)) (hup : n ≠ "..")
    (hlink : ∀ target, fs.get? (P ++ [n]) ≠ some (.link target)) (htakes : ¬ TakesChild p n) :
    ∃ f, (f = .zeroCharacter ∧ '\x00' ∈ (p.child n).text.toList ∨ f = .nameTooLong) ∧
      ∀ follow, fs.locate follow (p.child n) = .fault f := by
  by_cases hpath : Takes (p.child n)
  · refine ⟨.nameTooLong, .inr rfl, fun follow => ?_⟩
    have hsize : nameLimit < n.utf8ByteSize := by
      by_contra hshort
      exact htakes ⟨hpath, by omega⟩
    rw [locate_of_takes hpath]
    have hwalk := (stat_directory_iff.1 h).2.child follow hup hlink
    rwa [atName, if_pos hsize] at hwalk
  · obtain ⟨f, hkind, hf⟩ := locate_of_not_takes hpath
    exact ⟨f, hkind, hf fs⟩

theorem stat_child {p : Path} {e : Entry} (h : fs.stat p = .ok (P, .directory)) (hup : n ≠ "..")
    (htakes : TakesChild p n) (he : fs.get? (P ++ [n]) = some e) (hkind : ∀ target, e ≠ .link target) :
    fs.stat (p.child n) = .ok (P ++ [n], e) := by
  have hlink : ∀ target, fs.get? (P ++ [n]) ≠ some (.link target) := by
    intro target hl
    exact hkind target (Option.some.inj (he.symm.trans hl))
  rw [stat, locate_child h hup hlink htakes, landing, he]

theorem stat_child_inv {p : Path} {e : Entry} {place : Place} (h : fs.stat p = .ok (P, .directory))
    (hup : n ≠ "..") (hlink : ∀ target, fs.get? (P ++ [n]) ≠ some (.link target))
    (hchild : fs.stat (p.child n) = .ok (place, e)) :
    TakesChild p n ∧ place = P ++ [n] ∧ fs.get? (P ++ [n]) = some e := by
  by_cases htakes : TakesChild p n
  · rw [stat, locate_child h hup hlink htakes, landing] at hchild
    cases he : fs.get? (P ++ [n]) with
    | none =>
      rw [he] at hchild
      cases hchild
    | some e' =>
      rw [he] at hchild
      cases hchild
      exact ⟨htakes, rfl, rfl⟩
  · obtain ⟨f, -, hf⟩ := locate_child_of_not_takes h hup hlink htakes
    rw [stat, hf] at hchild
    cases hchild

theorem isDirectory?_child {p : Path} {b : Bool}
    (h : fs.stat p = .ok (P, .directory)) (hn : Path.IsPlain n) (hzero : '\x00' ∉ n.toList)
    (hlink : ∀ target, fs.get? (P ++ [n]) ≠ some (.link target))
    (hb : fs.isDirectory? (p.child n) = .ok b) :
    b = decide (fs.get? (P ++ [n]) = some .directory) := by
  unfold isDirectory? asks at hb
  by_cases htakes : TakesChild p n
  · rw [stat, locate_child h hn.2.2.2 hlink htakes, landing] at hb
    cases he : fs.get? (P ++ [n]) with
    | none =>
      rw [he] at hb
      cases hb
      rfl
    | some e =>
      rw [he] at hb
      cases hb
      cases e <;> simp
  · obtain ⟨f, hkind, hl⟩ := locate_child_of_not_takes h hn.2.2.2 hlink htakes
    rw [stat, hl] at hb
    rcases hkind with ⟨-, htext⟩ | rfl
    · -- The zero character would have to be in the path above or in the name.
      rcases Path.of_mem_text htext with hc | hc | ⟨m, hm, hc⟩
      · simp at hc
      · simp at hc
      · rcases List.mem_append.1 hm with hm | hm
        · exact absurd (Path.mem_text hm hc) (stat_directory_iff.1 h).1.1
        · rw [List.mem_singleton.1 hm] at hc
          exact absurd hc hzero
    · cases hb

end Scaffold.Files
