import Scaffold.Proofs.Files.Recreate

set_option autoImplicit false

/-!
# Directories at absolute paths

What is done at an absolute path does not depend on the current directory. Where the tree has no
links and the path no double dots, its names are the place that it names, and what it comes to is
read off the first name on the way that is no directory. So a directory with those above it is made
unless there is a file in the way or a name is too long; and then those before this name are made.
-/
namespace Scaffold.Files

variable {f : Files} {anchor : Anchor} {names front rest : List String} {m n : String} {p : Path}
  {c : Place}

/-! ### The current directory -/

def seenFrom (f : Files) (c : Place) : Files := { f with current := c }

def elsewhere (c : Place) (x : Except Fault Unit × Files) : Except Fault Unit × Files :=
  (x.1, x.2.seenFrom c)

theorem seenFrom_set (f : Files) (c place : Place) (e : Entry) :
    (f.seenFrom c).set place e = (f.set place e).seenFrom c := by
  unfold set seenFrom
  split <;> rfl

theorem Regular.seenFrom (hf : f.Regular) (hc : f.get? c = some .directory) :
    (f.seenFrom c).Regular :=
  ⟨⟨hf.distinct, hf.inside, hf.named, hf.targets, hc⟩, hf.noLink⟩

section
variable (hp : p.anchor ≠ .relative)
include hp

theorem start_absolute (f : Files) : f.start p = [] := by
  have habsolute : p.isAbsolute = true := by simpa [Path.isAbsolute] using hp
  rw [start, if_pos habsolute]

theorem locate_seenFrom (f : Files) (c : Place) (follow : Bool) :
    (f.seenFrom c).locate follow p = f.locate follow p := by
  by_cases htakes : Takes p
  · rw [locate_of_takes htakes, locate_of_takes htakes, start_absolute hp, start_absolute hp]
    exact walkNames_congr (f := f) (g := f.seenFrom c) (fun _ _ => rfl) follow
  · obtain ⟨fault, -, hl⟩ := locate_of_not_takes htakes
    rw [hl, hl]

theorem settle_seenFrom (existOk : Bool) (fault : Fault) (f : Files) (c : Place) :
    settle p existOk fault (f.seenFrom c) = settle p existOk fault f := by
  unfold settle isDirectory? stat
  rw [locate_seenFrom hp]

theorem makeDirectory_seenFrom (f : Files) (c : Place) :
    makeDirectory p (f.seenFrom c) = elsewhere c (makeDirectory p f) := by
  unfold makeDirectory
  rw [locate_seenFrom hp]
  cases f.locate false p with
  | found place e => rfl
  | free place => exact Prod.ext rfl (seenFrom_set f c place .directory)
  | fault fault => rfl

theorem concluded_elsewhere (existOk : Bool) (c : Place) (x : Except Fault Unit × Files) :
    concluded p existOk (elsewhere c x) = elsewhere c (concluded p existOk x) := by
  have hsettle (fault : Fault) : (settle p existOk fault (x.2.seenFrom c), x.2.seenFrom c) =
      elsewhere c (settle p existOk fault x.2, x.2) := by
    rw [settle_seenFrom hp, elsewhere]
  rcases x with ⟨fault | ⟨⟩, f₁⟩
  · cases fault
    case notFound => rfl
    all_goals exact hsettle _
  · rfl

end

theorem makeNames_seenFrom (hp : anchor ≠ .relative) (existOk : Bool) (names : List String)
    (f : Files) (c : Place) :
    makeNames anchor existOk names (f.seenFrom c) =
      elsewhere c (makeNames anchor existOk names f) := by
  induction names using List.reverseRecOn generalizing existOk f with
  | nil => rw [makeNames_nil, makeNames_nil, makeDirectory_seenFrom hp, concluded_elsewhere hp]
  | append_singleton above n ih =>
    have hpath : (⟨anchor, above ++ [n]⟩ : Path).anchor ≠ .relative := hp
    rw [makeNames_concat, makeNames_concat, makeDirectory_seenFrom hpath]
    rcases hmake : makeDirectory ⟨anchor, above ++ [n]⟩ f with ⟨fault | ⟨⟩, f₁⟩
    · cases fault
      case notFound =>
        simp only [elsewhere, ih true f₁]
        rcases makeNames anchor true above f₁ with ⟨fault | ⟨⟩, f₂⟩
        · rfl
        · simp only [makeDirectory_seenFrom hpath]
          exact concluded_elsewhere hpath existOk c _
      all_goals exact concluded_elsewhere hpath existOk c (_, f₁)
    · exact concluded_elsewhere hpath existOk c (_, f₁)

/-! ### What is on the way -/

abbrev Short (n : String) : Prop := n.utf8ByteSize ≤ nameLimit

/-- An absolute path without dots, of a text that the tree takes. -/
structure Direct (p : Path) : Prop where
  absolute : p.anchor ≠ .relative
  plain : ∀ n ∈ p.names, Path.IsPlain n
  takes : Takes p

theorem Direct.down (h : Direct p) : ".." ∉ p.names := fun hmem => (h.plain _ hmem).2.2.2 rfl

theorem Direct.isNormal (h : Direct p) : p.IsNormal := fun n hn =>
  ⟨(h.plain n hn).1, (h.plain n hn).2.1, (h.plain n hn).2.2.1⟩

theorem Direct.above {more : List String} (h : Direct ⟨anchor, names ++ more⟩) :
    Direct ⟨anchor, names⟩ := by
  refine ⟨h.absolute, fun n hn => h.plain n (List.mem_append_left _ hn), ?_, ?_⟩
  · intro hzero
    rcases Path.of_mem_text hzero with hc | hc | ⟨m, hm, hc⟩
    · cases hc
    · cases hc
    · exact h.takes.1 (Path.mem_text (List.mem_append_left _ hm) hc)
  · have hjoined : ("/".intercalate names).utf8ByteSize ≤
        ("/".intercalate (names ++ more)).utf8ByteSize := by
      by_cases hnames : names = []
      · simp [hnames]
      by_cases hmore : more = []
      · simp [hmore]
      rw [String.intercalate_append_of_ne_nil hnames hmore, String.utf8ByteSize_append,
        String.utf8ByteSize_append]
      omega
    have hsize := h.takes.2
    cases anchor with
    | relative => exact absurd rfl h.absolute
    | root | doubleRoot =>
      simp only [Path.text, String.utf8ByteSize_append] at hsize ⊢
      omega

/-- At and above a place there are directories or nothing yet. -/
def Open (f : Files) (place : Place) : Prop :=
  ∀ q, q <+: place → f.get? q = none ∨ f.get? q = some .directory

theorem Open.above {q place : Place} (h : f.Open place) (hq : q <+: place) : f.Open q :=
  fun _ hup => h _ (hup.trans hq)

theorem exists_edge (h : f.get? names ≠ some .directory) :
    ∃ front m rest, names = front ++ m :: rest ∧ f.get? front = some .directory ∧
      f.get? (front ++ [m]) ≠ some .directory := by
  induction names using List.reverseRecOn with
  | nil => exact absurd (get?_root f) h
  | append_singleton above n ih =>
    by_cases hdir : f.get? above = some .directory
    · exact ⟨above, n, [], rfl, hdir, h⟩
    · obtain ⟨front, m, rest, rfl, hfront, hm⟩ := ih hdir
      exact ⟨front, m, rest ++ [n], by simp, hfront, hm⟩

section
variable (hf : f.Regular)
include hf

theorem nominal_absolute (hp : anchor ≠ .relative) (hdown : ".." ∉ names) :
    f.nominal ⟨anchor, names⟩ = names := by
  rw [nominal_of_down hf.toWellFormed hdown, start_absolute hp, List.nil_append]

theorem stat_direct (h : Direct ⟨anchor, names⟩) (hshort : ∀ x ∈ names, Short x)
    (hdir : f.get? names = some .directory) : f.stat ⟨anchor, names⟩ = .ok (names, .directory) := by
  have hroot : f.get? ([] ++ names) = some .directory := hdir
  have hwalk := walkNames_down hf.toWellFormed h.down hroot true linkLimit []
  rw [List.append_nil, if_pos hshort, walkNames_nil] at hwalk
  rw [stat_eq_ok, locate_of_takes h.takes, start_absolute h.absolute, hwalk, List.nil_append]

/-- What is on the way of a path that goes into a directory decides what the path comes to. -/
theorem locate_into (h : Direct ⟨anchor, front ++ m :: rest⟩)
    (hfront : f.get? front = some .directory) (follow : Bool) :
    f.locate follow ⟨anchor, front ++ m :: rest⟩ =
      if ∀ x ∈ front ++ [m], Short x then
        meet f true 0 front (front ++ [m]) rest (f.get? (front ++ [m]))
      else .fault .nameTooLong := by
  have hm : m ≠ ".." := fun heq => h.down (by simp [heq])
  have hdir : f.get? ([] ++ front) = some .directory := hfront
  have hwalk := walkNames_down hf.toWellFormed h.above.down hdir true 0 (m :: rest)
  rw [List.nil_append, walkNames_into _ _ _ _ _ hm] at hwalk
  rw [locate_of_takes h.takes, start_absolute h.absolute, (walkNames_regular hf follow _ _ _).1,
    hwalk]
  by_cases hshort : ∀ x ∈ front, Short x
  · by_cases hlast : Short m
    · have hall : ∀ x ∈ front ++ [m], Short x := by simpa [or_imp, forall_and] using ⟨hshort, hlast⟩
      rw [if_pos hshort, if_neg (Nat.not_lt.2 hlast), if_pos hall]
    · rw [if_pos hshort, if_pos (Nat.lt_of_not_le hlast),
        if_neg fun hall => hlast (hall m (by simp))]
  · rw [if_neg hshort, if_neg fun hall => hshort fun x hx => hall x (List.mem_append_left _ hx)]

theorem locate_missing (h : Direct ⟨anchor, front ++ rest⟩) (hshort : ∀ x ∈ front, Short x)
    (hopen : f.Open front) (hdir : f.get? front ≠ some .directory) (hrest : rest ≠ [])
    (follow : Bool) : f.locate follow ⟨anchor, front ++ rest⟩ = .fault .notFound := by
  obtain ⟨before, m, after, rfl, hbefore, hm⟩ := exists_edge hdir
  have hmissing : f.get? (before ++ [m]) = none :=
    (hopen _ ⟨after, by simp⟩).resolve_right hm
  have hshort' : ∀ x ∈ before ++ [m], Short x := by
    intro x hx
    refine hshort x ?_
    rw [List.append_cons]
    exact List.mem_append_left _ hx
  rw [List.append_assoc, List.cons_append] at h ⊢
  rw [locate_into hf h hbefore, hmissing, if_pos hshort', meet, if_neg (by simp [hrest])]

end

/-! ### Directories with those above them -/

/-- At and above a place there are directories, and elsewhere there is what there was. -/
structure Filled (place : Place) (f f' : Files) : Prop where
  regular : f'.Regular
  current : f'.current = f.current
  get? : ∀ q, f'.get? q = if q <+: place then some .directory else f.get? q

theorem Regular.filled_of_directory (hf : f.Regular) (hdir : f.get? names = some .directory) :
    Filled names f f := by
  refine ⟨hf, rfl, fun q => ?_⟩
  split
  · rename_i hq
    obtain ⟨rest, rfl⟩ := hq
    by_cases hrest : rest = []
    · simpa [hrest] using hdir
    · exact hf.above hdir hrest
  · rfl

theorem Filled.trans {above : Place} {f₁ f₂ : Files} (h : Filled above f f₁)
    (h' : Filled names f₁ f₂) (habove : above <+: names) : Filled names f f₂ := by
  refine ⟨h'.regular, h'.current.trans h.current, fun q => ?_⟩
  rw [h'.get?, h.get?]
  by_cases hq : q <+: names
  · rw [if_pos hq, if_pos hq]
  · rw [if_neg hq, if_neg hq, if_neg fun hup => hq (hup.trans habove)]

theorem Filled.there {f' : Files} (h : Filled names f f') : f'.get? names = some .directory := by
  rw [h.get?, if_pos List.prefix_rfl]

theorem concluded_of_fault {fault : Fault} (h : f.locate true p = .fault fault) (existOk : Bool) :
    concluded p existOk (.error fault, f) = (.error fault, f) := by
  have hsettle : settle p existOk fault f = .error fault := by
    unfold settle
    split
    · rw [isDirectory?, stat, h, asks]
      split <;> rename_i hasked <;> split at hasked <;> cases hasked <;> rfl
    · rfl
  cases fault <;> simp only [concluded, hsettle]

theorem makeNames_refused {fault : Fault}
    (h : ∀ follow, f.locate follow ⟨anchor, names⟩ = .fault fault) (hne : fault ≠ .notFound) (existOk : Bool) :
    makeNames anchor existOk names f = (.error fault, f) := by
  have hmake : makeDirectory ⟨anchor, names⟩ f = (.error fault, f) := by rw [makeDirectory, h]
  have hdone := concluded_of_fault (h true) existOk
  rcases List.eq_nil_or_concat' names with rfl | ⟨above, n, rfl⟩
  · rw [makeNames_nil, hmake, hdone]
  · rw [makeNames_concat, hmake]
    cases fault
    case notFound => exact absurd rfl hne
    all_goals exact hdone

theorem makeDirectory_free (hf : f.Regular) (h : Direct ⟨anchor, names ++ [n]⟩)
    (hshort : ∀ x ∈ names ++ [n], Short x) (hdir : f.get? names = some .directory)
    (hnone : f.get? (names ++ [n]) = none) :
    ∃ f', makeDirectory ⟨anchor, names ++ [n]⟩ f = (.ok (), f') ∧ Filled (names ++ [n]) f f' := by
  have hl := locate_into hf h hdir false
  rw [if_pos hshort, hnone, meet, if_pos rfl] at hl
  have hmake : makeDirectory ⟨anchor, names ++ [n]⟩ f =
      (.ok (), f.set (names ++ [n]) .directory) := by
    rw [makeDirectory, hl]
  have hregular := (makeDirectory_made hf.toWellFormed h.isNormal hmake).1.regular hf
  refine ⟨_, hmake, hregular, current_set _ _ _, fun q => ?_⟩
  have hthere := (hf.filled_of_directory hdir).get? q
  rw [get?_set _ (by simp)]
  simp only [List.prefix_concat_iff]
  by_cases hq : q = names ++ [n]
  · rw [if_pos hq, if_pos (.inl hq)]
  · simpa only [hq, if_false, false_or] using hthere

theorem makeNames_filled (hf : f.Regular) (h : Direct ⟨anchor, names⟩)
    (hshort : ∀ x ∈ names, Short x) (hopen : f.Open names) {existOk : Bool}
    (hnew : existOk = true ∨ f.get? names = none) :
    ∃ f', makeNames anchor existOk names f = (.ok (), f') ∧ Filled names f f' := by
  by_cases hthere : f.get? names = some .directory
  · obtain rfl : existOk = true := hnew.resolve_right (by simp [hthere])
    exact ⟨f, ensureDirectory_of_stat (stat_direct hf h hshort hthere),
      hf.filled_of_directory hthere⟩
  induction names using List.reverseRecOn generalizing existOk with
  | nil => exact absurd (get?_root f) hthere
  | append_singleton above n ih =>
    have hprefix : above <+: above ++ [n] := List.prefix_append _ _
    have hnone : f.get? (above ++ [n]) = none := (hopen _ List.prefix_rfl).resolve_right hthere
    rw [makeNames_concat]
    by_cases habove : f.get? above = some .directory
    · obtain ⟨f', hmake, hfilled⟩ := makeDirectory_free hf h hshort habove hnone
      exact ⟨f', by rw [hmake]; rfl, hfilled⟩
    · -- The first attempt fails, and the last one comes after those above are made.
      have hshort' : ∀ x ∈ above, Short x := fun x hx => hshort x (List.mem_append_left _ hx)
      have hl := locate_missing hf h hshort' (hopen.above hprefix) habove (by simp) false
      have hfirst : makeDirectory ⟨anchor, above ++ [n]⟩ f = (.error .notFound, f) := by
        rw [makeDirectory, hl]
      obtain ⟨f₁, hup, hfilled⟩ := ih h.above hshort' (hopen.above hprefix) (.inl rfl) habove
      have hnone₁ : f₁.get? (above ++ [n]) = none := by
        rw [hfilled.get?, if_neg fun hin => by simpa using hin.length_le, hnone]
      obtain ⟨f₂, hlast, hfilled'⟩ :=
        makeDirectory_free hfilled.regular h hshort hfilled.there hnone₁
      refine ⟨f₂, ?_, hfilled.trans hfilled' hprefix⟩
      simp only [hfirst, hup, hlast, concluded]

/-- The first name that is too long ends it. What is above it is made before. -/
theorem makeNames_overlong (hf : f.Regular) (h : Direct ⟨anchor, front ++ m :: rest⟩)
    (hshort : ∀ x ∈ front, Short x) (hm : ¬ Short m) (hopen : f.Open front) (existOk : Bool) :
    ∃ f', makeNames anchor existOk (front ++ m :: rest) f = (.error .nameTooLong, f') ∧
      Filled front f f' := by
  have hlong : ¬ ∀ x ∈ front ++ [m], Short x := fun hall => hm (hall m (by simp))
  by_cases hdir : f.get? front = some .directory
  · refine ⟨f, makeNames_refused (fun follow => ?_) (by simp) existOk, hf.filled_of_directory hdir⟩
    rw [locate_into hf h hdir, if_neg hlong]
  have hfirst {rest : List String} (h : Direct ⟨anchor, front ++ m :: rest⟩) :
      makeDirectory ⟨anchor, front ++ m :: rest⟩ f = (.error .notFound, f) := by
    rw [makeDirectory, locate_missing hf h hshort hopen hdir (by simp)]
  induction rest using List.reverseRecOn generalizing existOk with
  | nil =>
    obtain ⟨f₁, hup, hfilled⟩ :
        ∃ f₁, makeNames anchor true front f = (.ok (), f₁) ∧ Filled front f f₁ :=
      makeNames_filled hf h.above hshort hopen (.inl rfl)
    have hl (follow : Bool) : f₁.locate follow ⟨anchor, front ++ [m]⟩ = .fault .nameTooLong := by
      rw [locate_into hfilled.regular h hfilled.there, if_neg hlong]
    have hlast : makeDirectory ⟨anchor, front ++ [m]⟩ f₁ = (.error .nameTooLong, f₁) := by
      rw [makeDirectory, hl]
    refine ⟨f₁, ?_, hfilled⟩
    rw [makeNames_concat]
    simp only [hfirst h, hup, hlast, concluded_of_fault (hl true)]
  | append_singleton rest n ih =>
    have hnames : front ++ m :: (rest ++ [n]) = (front ++ m :: rest) ++ [n] := by simp
    have hmake := hfirst h
    rw [hnames] at h hmake ⊢
    obtain ⟨f₁, hup, hfilled⟩ := ih h.above true
    refine ⟨f₁, ?_, hfilled⟩
    rw [makeNames_concat, hmake]
    simp only [hup]

end Scaffold.Files
