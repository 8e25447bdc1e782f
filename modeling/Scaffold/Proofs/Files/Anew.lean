import Mathlib.Data.List.Infix
import Scaffold.Proofs.Files.Absolute

set_option autoImplicit false

/-!
# What becomes of a place that is made anew

At an absolute path without dots, in a tree of files and directories, a directory can be made anew
unless the path is one that no tree takes or a file stands above it. Afterwards it is empty, the
directories above it are there, and nothing else has changed. If it cannot be made, nothing has
changed, but that the names before one that is too long lead to a directory by then.
-/
namespace Scaffold.Files

variable {f f' : Files} {p : Path} {anchor : Anchor} {names above front rest : List String}
  {m n : String} {T q : Place}

def Nameable (p : Path) : Prop := Takes p ∧ ∀ n ∈ p.names, Short n

instance (p : Path) : Decidable (Nameable p) := inferInstanceAs (Decidable ((_ ∧ _) ∧ _))

def Barred (f : Files) (T : Place) : Prop :=
  ∃ q c, q <+: T ∧ q ≠ T ∧ f.get? q = some (.file c)

/-- An empty directory stands at the place, in directories. All else is left alone, but for
directories above it that were missing. -/
structure Anew (T : Place) (f f' : Files) : Prop where
  current : f'.current = f.current
  there : f'.get? T = some .directory
  empty : ∀ rest, rest ≠ [] → f'.get? (T ++ rest) = none
  above : ∀ q, q <+: T → f'.get? q = some .directory
  outside : ∀ q, ¬ T <+: q → (q <+: T → f.get? q ≠ none) → f'.get? q = f.get? q

/-- Above the first name that is too long all directories are there, and all else is left alone. -/
structure Begun (T : Place) (f f' : Files) : Prop where
  current : f'.current = f.current
  get? : ∀ q, f'.get? q =
    if q <+: T ∧ ∀ n ∈ q, Short n then some .directory else f.get? q

/-! ### The current directory -/

theorem statLink_seenFrom (hp : p.anchor ≠ .relative) (f : Files) (c : Place) :
    (f.seenFrom c).statLink p = f.statLink p := by
  rw [statLink, statLink, locate_seenFrom hp]

theorem clear_seenFrom (hp : p.anchor ≠ .relative) (f : Files) (c : Place) :
    clear p (f.seenFrom c) = elsewhere c (clear p f) := by
  unfold clear
  rw [statLink_seenFrom hp]
  cases f.statLink p with
  | ok found =>
    obtain ⟨place, e⟩ := found
    cases e with
    | directory =>
      dsimp only
      split
      · rfl
      · split <;> rfl
    | file content => rfl
    | link target => rfl
  | error fault =>
    dsimp only
    split <;> rfl

theorem recreate_seenFrom (hp : p.anchor ≠ .relative) (f : Files) (c : Place) :
    recreate p (f.seenFrom c) = elsewhere c (recreate p f) := by
  rw [recreate_eq, recreate_eq, clear_seenFrom hp]
  rcases clear p f with ⟨_ | ⟨⟩, f₁⟩
  · rfl
  · exact makeNames_seenFrom hp false p.names f₁ c

/-! ### Failures -/

theorem recreate_refused {fault : Fault}
    (h : ∀ follow, f.locate follow ⟨anchor, names⟩ = .fault fault) (hne : fault ≠ .notFound) :
    recreate ⟨anchor, names⟩ f = (.error fault, f) := by
  have hstat : f.statLink ⟨anchor, names⟩ = .error fault := by rw [statLink, h]
  rw [recreate_eq, clear, hstat]
  by_cases habsent : fault.isAbsence = true
  · simp only [habsent, if_true, makeNames_refused h hne]
  · simp only [habsent]
    rfl

theorem recreate_of_not_takes (h : ¬ Takes ⟨anchor, names⟩) (f : Files) :
    ∃ fault, recreate ⟨anchor, names⟩ f = (.error fault, f) := by
  obtain ⟨fault, hkind, hl⟩ := locate_of_not_takes h
  refine ⟨fault, recreate_refused (hl f) ?_⟩
  rcases hkind with ⟨rfl, -⟩ | rfl <;> simp

theorem Begun.of_filled (hshort : ∀ x ∈ front, Short x) (hm : ¬ Short m) (h : Filled front f f') :
    Begun (front ++ m :: rest) f f' := by
  refine ⟨h.current, fun q => ?_⟩
  have hiff : q <+: front ++ m :: rest ∧ (∀ x ∈ q, Short x) ↔ q <+: front := by
    constructor
    · rintro ⟨hq, hall⟩
      have hmem : m ∉ q := fun hmem => hm (hall m hmem)
      have hfirst : front ++ [m] <+: front ++ m :: rest := ⟨rest, by simp⟩
      rcases List.prefix_or_prefix_of_prefix hq hfirst with hin | hin
      · rcases List.prefix_concat_iff.1 hin with rfl | hup
        · exact absurd (by simp) hmem
        · exact hup
      · exact absurd (hin.subset (by simp)) hmem
    · exact fun hq => ⟨hq.trans (List.prefix_append _ _), fun x hx => hshort x (hq.subset hx)⟩
  rw [h.get?]
  simp only [hiff]

theorem Anew.of_get? (hopen : f.Open above) (hcurrent : f'.current = f.current)
    (hget : ∀ q, f'.get? q = if q <+: above ++ [n] then some .directory
      else if above ++ [n] <+: q then none else f.get? q) : Anew (above ++ [n]) f f' where
  current := hcurrent
  there := by rw [hget, if_pos List.prefix_rfl]
  empty := by
    intro rest hrest
    have hout : ¬ above ++ [n] ++ rest <+: above ++ [n] := by
      intro hin
      have hlength := hin.length_le
      have hpos := List.length_pos_iff.2 hrest
      simp only [List.length_append] at hlength
      omega
    rw [hget, if_neg hout, if_pos (List.prefix_append _ _)]
  above := fun q hq => by rw [hget, if_pos hq]
  outside := by
    intro q hout hthere
    by_cases hq : q <+: above ++ [n]
    · rw [hget, if_pos hq]
      rcases List.prefix_concat_iff.1 hq with rfl | hup
      · exact absurd List.prefix_rfl hout
      · exact ((hopen q hup).resolve_left (hthere hq)).symm
    · rw [hget, if_neg hq, if_neg hout]

section
variable (hf : f.Regular)
include hf

theorem recreate_of_barred (h : Direct ⟨anchor, names⟩) (hbarred : Barred f names) :
    ∃ fault, recreate ⟨anchor, names⟩ f = (.error fault, f) := by
  obtain ⟨q, c, ⟨rest, rfl⟩, hne, hfile⟩ := hbarred
  obtain ⟨front, m, rfl⟩ := (List.eq_nil_or_concat' q).resolve_left (by rintro rfl; cases hfile)
  have hrest : rest ≠ [] := fun hnil => hne (by simp [hnil])
  rw [List.append_assoc, List.singleton_append] at h ⊢
  have hl := locate_into hf h (hf.inside hfile)
  rw [hfile, meet, if_neg hrest] at hl
  by_cases hshort : ∀ x ∈ front ++ [m], Short x
  · simp only [if_pos hshort] at hl
    exact ⟨_, recreate_refused hl (by simp)⟩
  · simp only [if_neg hshort] at hl
    exact ⟨_, recreate_refused hl (by simp)⟩

theorem recreate_overlong (h : Direct ⟨anchor, front ++ m :: rest⟩) (hshort : ∀ x ∈ front, Short x)
    (hm : ¬ Short m) (hopen : f.Open front) :
    ∃ f', recreate ⟨anchor, front ++ m :: rest⟩ f = (.error .nameTooLong, f') ∧
      Begun (front ++ m :: rest) f f' := by
  obtain ⟨f', hrun, hfilled⟩ :
      ∃ f', recreate ⟨anchor, front ++ m :: rest⟩ f = (.error .nameTooLong, f') ∧
        Filled front f f' := by
    by_cases hdir : f.get? front = some .directory
    · have hlong : ¬ ∀ x ∈ front ++ [m], Short x := fun hall => hm (hall m (by simp))
      have hl := locate_into hf h hdir
      simp only [if_neg hlong] at hl
      exact ⟨f, recreate_refused hl (by simp), hf.filled_of_directory hdir⟩
    · have hstat : f.statLink ⟨anchor, front ++ m :: rest⟩ = .error .notFound := by
        rw [statLink, locate_missing hf h hshort hopen hdir (by simp)]
      rw [recreate_eq, clear, hstat]
      exact makeNames_overlong hf h hshort hm hopen false
  exact ⟨f', hrun, .of_filled hshort hm hfilled⟩

/-! ### Success -/

theorem exists?_of_open (h : Direct ⟨anchor, above ++ [n]⟩) (hshort : ∀ x ∈ above ++ [n], Short x)
    (hopen : f.Open above) : ∃ b, f.exists? ⟨anchor, above ++ [n]⟩ = .ok b := by
  by_cases hdir : f.get? above = some .directory
  · have hl := locate_into hf h hdir true
    rw [if_pos hshort] at hl
    unfold exists? stat
    rw [hl]
    cases he : f.get? (above ++ [n]) with
    | none => exact ⟨false, rfl⟩
    | some e =>
      cases e with
      | directory => exact ⟨true, rfl⟩
      | file content => exact ⟨true, rfl⟩
      | link target => exact absurd he (hf.noLink _ _)
  · have hl := locate_missing hf h (fun x hx => hshort x (List.mem_append_left _ hx)) hopen hdir
      (by simp) true
    refine ⟨false, ?_⟩
    rw [exists?, stat, hl]
    rfl

theorem recreate_anew (hcurrent : f.current = []) (h : Direct ⟨anchor, above ++ [n]⟩)
    (hshort : ∀ x ∈ above ++ [n], Short x) (hopen : f.Open above) :
    ∃ f', recreate ⟨anchor, above ++ [n]⟩ f = (.ok (), f') ∧ Anew (above ++ [n]) f f' := by
  have hzero : '\x00' ∉ n.toList := fun hc => h.takes.1 (Path.mem_text (by simp) hc)
  have hstraight : f.Straight ⟨anchor, above⟩ := .inl h.above.down
  have hplace : f.nominal ⟨anchor, above⟩ = above := nominal_absolute hf h.absolute h.above.down
  obtain ⟨b, hb⟩ := exists?_of_open hf h hshort hopen
  obtain ⟨f₁, hclear, hcleared⟩ :
      ∃ f₁, clear ⟨anchor, above ++ [n]⟩ f = (.ok (), f₁) ∧ Cleared (above ++ [n]) f f₁ := by
    have hdone := clear_cleared hf hstraight (h.plain n (by simp)) hzero
      (by rw [hplace, hcurrent]; simp) hb
    rwa [hplace] at hdone
  -- What is left above the place are directories, or nothing.
  have hopen₁ : f₁.Open (above ++ [n]) := by
    intro q hq
    rw [hcleared.get?]
    split
    · exact .inl rfl
    · rename_i hout
      rcases List.prefix_concat_iff.1 hq with rfl | hq
      · exact absurd List.prefix_rfl hout
      · exact hopen q hq
  have hnone₁ : f₁.get? (above ++ [n]) = none := by rw [hcleared.get?, if_pos List.prefix_rfl]
  obtain ⟨f', hmake, hfilled⟩ := makeNames_filled hcleared.regular h hshort hopen₁ (.inr hnone₁)
  refine ⟨f', by rw [recreate_eq, hclear]; exact hmake, .of_get? hopen
    (hfilled.current.trans hcleared.current) fun q => ?_⟩
  rw [hfilled.get?, hcleared.get?]

end

/-! ### Every absolute path -/

theorem not_barred_concat (hf : f.Regular) : ¬ Barred f (above ++ [n]) ↔ f.Open above := by
  constructor
  · intro h q hq
    cases he : f.get? q with
    | none => exact .inl rfl
    | some e =>
      cases e with
      | directory => exact .inr rfl
      | link target => exact absurd he (hf.noLink q target)
      | file c =>
        refine absurd ⟨q, c, hq.trans (List.prefix_append _ _), ?_, he⟩ h
        rintro rfl
        simpa using hq.length_le
  · rintro h ⟨q, c, hq, hne, hfile⟩
    rcases h q ((List.prefix_concat_iff.1 hq).resolve_left hne) with hnone | hdir
    · cases hfile.symm.trans hnone
    · cases hfile.symm.trans hdir

theorem exists_overlong (h : ¬ ∀ x ∈ names, Short x) :
    ∃ front m rest, names = front ++ m :: rest ∧ (∀ x ∈ front, Short x) ∧ ¬ Short m := by
  push Not at h
  obtain ⟨x, hx, hlong⟩ := h
  obtain ⟨m, hm⟩ := Option.isSome_iff_exists.1
    (List.find?_isSome (p := fun y => decide (¬ Short y)).2 ⟨x, hx, by simpa using hlong⟩)
  obtain ⟨hm, front, rest, hnames, hfront⟩ := List.find?_eq_some_iff_append.1 hm
  exact ⟨front, m, rest, hnames, fun y hy => by simpa using hfront y hy, by simpa using hm⟩

inductive Remade (p : Path) (f : Files) : Except Fault Unit × Files → Prop
  | anew {f' : Files} (name : Nameable p) (free : ¬ Barred f p.names) (done : Anew p.names f f') :
    Remade p f (.ok (), f')
  | begun {f' : Files} {fault : Fault} (takes : Takes p) (free : ¬ Barred f p.names)
    (long : ∃ n ∈ p.names, ¬ Short n) (done : Begun p.names f f') : Remade p f (.error fault, f')
  | refused {fault : Fault} (why : ¬ Takes p ∨ Barred f p.names) : Remade p f (.error fault, f)

theorem Remade.elsewhere {x : Except Fault Unit × Files} (h : Remade p (f.seenFrom []) x) :
    Remade p f (elsewhere f.current x) := by
  cases h with
  | anew name free done =>
    exact .anew name free ⟨rfl, done.there, done.empty, done.above, done.outside⟩
  | begun takes free long done => exact .begun takes free long ⟨rfl, done.get?⟩
  | refused why => exact .refused why

theorem recreate_remade_root (hf : f.Regular) (hcurrent : f.current = [])
    (h : Direct ⟨anchor, above ++ [n]⟩) :
    Remade ⟨anchor, above ++ [n]⟩ f (recreate ⟨anchor, above ++ [n]⟩ f) := by
  by_cases hbarred : Barred f (above ++ [n])
  · obtain ⟨fault, hrun⟩ := recreate_of_barred hf h hbarred
    exact hrun ▸ .refused (.inr hbarred)
  · have hopen : f.Open above := (not_barred_concat hf).1 hbarred
    by_cases hshort : ∀ x ∈ above ++ [n], Short x
    · obtain ⟨f', hrun, hanew⟩ := recreate_anew hf hcurrent h hshort hopen
      exact hrun ▸ .anew ⟨h.takes, hshort⟩ hbarred hanew
    · obtain ⟨front, m, rest, hnames, hfront, hm⟩ := exists_overlong hshort
      -- The names before the one that is too long are all above the last.
      have hup : front <+: above := by
        have hin : front <+: above ++ [n] := ⟨m :: rest, hnames.symm⟩
        refine (List.prefix_concat_iff.1 hin).resolve_left fun heq => ?_
        rw [← heq] at hnames
        simp at hnames
      have hlong : ∃ x ∈ above ++ [n], ¬ Short x := by simpa using hshort
      rw [hnames] at h hbarred hlong ⊢
      obtain ⟨f', hrun, hbegun⟩ := recreate_overlong hf h hfront hm (hopen.above hup)
      exact hrun ▸ .begun h.takes hbarred hlong hbegun

theorem recreate_remade (hf : f.Regular) (habsolute : p.isAbsolute = true) (hroot : p.names ≠ [])
    (hplain : ∀ n ∈ p.names, Path.IsPlain n) : Remade p f (recreate p f) := by
  obtain ⟨anchor, names⟩ := p
  have hp : anchor ≠ .relative := by simpa [Path.isAbsolute] using habsolute
  obtain ⟨above, n, rfl⟩ := (List.eq_nil_or_concat' names).resolve_left hroot
  by_cases htakes : Takes ⟨anchor, above ++ [n]⟩
  · -- The current directory may be one that is taken away, but the path does not start from it.
    have hrun := recreate_seenFrom (p := ⟨anchor, above ++ [n]⟩) hp (f.seenFrom []) f.current
    have hremade := recreate_remade_root (hf.seenFrom (get?_root f)) rfl ⟨hp, hplain, htakes⟩
    exact hrun ▸ hremade.elsewhere
  · obtain ⟨fault, hrun⟩ := recreate_of_not_takes htakes f
    exact hrun ▸ .refused (.inl htakes)

/-- What becomes of an absolute path without dots, below the root, in a tree of files and
directories. A directory is made anew there just if a tree can have something at the path and no
file stands above it. If that fails, nothing is changed; but where only a name is too long, the
names before it lead to a directory then. -/
theorem recreate_absolute (hf : f.Regular) (habsolute : p.isAbsolute = true) (hroot : p.names ≠ [])
    (hplain : ∀ n ∈ p.names, Path.IsPlain n) :
    ((recreate p f).1 = .ok () ↔ Nameable p ∧ ¬ Barred f p.names) ∧
    ((recreate p f).1 = .ok () → Anew p.names f (recreate p f).2) ∧
    ((recreate p f).1 ≠ .ok () → Takes p → ¬ Barred f p.names →
      (∃ n ∈ p.names, ¬ Short n) ∧ Begun p.names f (recreate p f).2) ∧
    ((recreate p f).1 ≠ .ok () → ¬ Takes p ∨ Barred f p.names → (recreate p f).2 = f) := by
  have hremade := recreate_remade hf habsolute hroot hplain
  generalize recreate p f = run at hremade ⊢
  cases hremade with
  | anew name free done =>
    exact ⟨iff_of_true rfl ⟨name, free⟩, fun _ => done, fun h => absurd rfl h, fun h => absurd rfl h⟩
  | begun takes free long done =>
    obtain ⟨n, hn, hlong⟩ := long
    refine ⟨iff_of_false (by simp) fun h => hlong (h.1.2 n hn), fun h => absurd h (by simp),
      fun _ _ _ => ⟨⟨n, hn, hlong⟩, done⟩, fun _ why => ?_⟩
    exact why.elim (absurd takes) fun hbarred => absurd hbarred free
  | refused why =>
    refine ⟨iff_of_false (by simp) ?_, fun h => absurd h (by simp), fun _ htakes hfree => ?_,
      fun _ _ => rfl⟩
    · rintro ⟨hname, hfree⟩
      exact why.elim (absurd hname.1) hfree
    · exact why.elim (absurd htakes) fun hbarred => absurd hbarred hfree

def workFiles : Files where
  entries := [(["w"], .directory), (["w", "app"], .directory),
    (["w", "app", "a.txt"], .file "a".toUTF8)]
  current := ["w", "app"]

theorem workFiles_regular : workFiles.Regular := by
  have hwell : workFiles.WellFormed := by
    refine wellFormed_of_sound (by decide) ?_ (by decide)
    unfold Sound
    simp [workFiles]
    decide
  exact ⟨hwell, linkFree_of_entries (by simp [workFiles]) []⟩

theorem work_remade :
    workFiles.Regular ∧ (⟨.root, ["w"]⟩ : Path).isAbsolute = true ∧
      (⟨.root, ["w"]⟩ : Path).names ≠ [] ∧ (∀ n ∈ (⟨.root, ["w"]⟩ : Path).names, Path.IsPlain n) ∧
      (recreate ⟨.root, ["w"]⟩ workFiles).1 = .ok () ∧
      Anew ["w"] workFiles (recreate ⟨.root, ["w"]⟩ workFiles).2 := by
  have hplain : ∀ n ∈ (⟨.root, ["w"]⟩ : Path).names, Path.IsPlain n := by decide
  obtain ⟨hok, hanew, -⟩ := recreate_absolute workFiles_regular (p := ⟨.root, ["w"]⟩) rfl
    (by decide) hplain
  have hfree : ¬ Barred workFiles ["w"] := by
    rintro ⟨q, c, hq, hne, hfile⟩
    rcases List.prefix_concat_iff.1 (show q <+: [] ++ ["w"] from hq) with heq | hnil
    · exact hne heq
    · rw [List.prefix_nil.1 hnil] at hfile
      cases hfile
  have hdone := hok.2 ⟨by decide, hfree⟩
  exact ⟨workFiles_regular, rfl, by decide, hplain, hdone, hanew hdone⟩

def longName : String := String.ofList (List.replicate 256 'a')

theorem longName_size : longName.utf8ByteSize = 256 := by decide +kernel

theorem mem_longName {c : Char} (h : c ∈ longName.toList) : c = 'a' := by
  have hchars : longName.toList = List.replicate 256 'a' := String.toList_ofList
  exact List.eq_of_mem_replicate (hchars ▸ h)

theorem longName_direct : Direct ⟨.root, ["new", longName]⟩ := by
  have hsize {n : String} (h : n.utf8ByteSize < 256) : longName ≠ n := by
    rintro rfl
    exact absurd longName_size h.ne
  refine ⟨by simp, ?_, ?_, ?_⟩
  · have hlong : Path.IsPlain longName :=
      ⟨hsize (by decide), fun hc => absurd (mem_longName hc) (by decide), hsize (by decide),
        hsize (by decide)⟩
    simpa using ⟨show Path.IsPlain "new" by decide, hlong⟩
  · intro hzero
    rcases Path.of_mem_text hzero with hc | hc | ⟨n, hn, hc⟩
    · cases hc
    · cases hc
    · rcases List.mem_pair.1 hn with rfl | rfl
      · exact absurd hc (by decide)
      · cases mem_longName hc
  · simp only [Path.text, String.intercalate_cons_cons, String.intercalate_singleton,
      String.utf8ByteSize_append, longName_size]
    decide

theorem overlong_leaves_folder :
    (⟨[], []⟩ : Files).Regular ∧ (∀ n ∈ ["new", longName], Path.IsPlain n) ∧
      ¬ Barred ⟨[], []⟩ ["new", longName] ∧
      (recreate ⟨.root, ["new", longName]⟩ ⟨[], []⟩).1 ≠ .ok () ∧
      (⟨[], []⟩ : Files).get? ["new"] = none ∧
      (recreate ⟨.root, ["new", longName]⟩ ⟨[], []⟩).2.get? ["new"] = some .directory := by
  have hwell : (⟨[], []⟩ : Files).WellFormed :=
    wellFormed_of_sound (by decide) (by simp) (by decide)
  have hregular : (⟨[], []⟩ : Files).Regular := ⟨hwell, linkFree_of_entries (by simp) []⟩
  have hopen : (⟨[], []⟩ : Files).Open ["new"] := by
    intro q _
    by_cases hq : q = []
    · exact .inr (by rw [hq, get?_root])
    · exact .inl (by simp [get?, hq])
  have hfree : ¬ Barred ⟨[], []⟩ (["new"] ++ [longName]) := (not_barred_concat hregular).2 hopen
  have hlong : ¬ Short longName := by
    rw [Short, longName_size]
    decide
  obtain ⟨f', hrun, hbegun⟩ := recreate_overlong hregular longName_direct (by decide) hlong hopen
  have hrun : recreate ⟨.root, ["new", longName]⟩ ⟨[], []⟩ = (.error .nameTooLong, f') := hrun
  have hmade := (hbegun.get? ["new"]).trans (if_pos (by decide))
  rw [hrun]
  exact ⟨hregular, longName_direct.plain, hfree, by simp, rfl, hmade⟩

end Scaffold.Files
