import Scaffold.Proofs.Files.Zero
import Scaffold.Proofs.Walk.Account
import Scaffold.Proofs.Walk.Failure

set_option autoImplicit false

/-!
# How a walk ends

A walk ends in a report, or in a failure that it foresees: of files, or of a template that cannot be
filled in. What it does not foresee are paths that cannot be asked for or are none, templates that
are no text or misuse values, and a source whose name cannot be read where its absence is told.
-/
namespace Scaffold

/-- A failure of files or of a template, as a walk tells of them. -/
def Failure.Foreseen : Failure → Prop
  | .render .. | .files .. => True
  | _ => False

instance : DecidablePred Failure.Foreseen
  | .render .. | .files .. => .isTrue trivial
  | .unknownProject .. | .aborted .. | .interrupted | .refused .. | .invalid .. | .misuse ..
  | .fault .. | .unresolvable | .document .. | .badMarkup => .isFalse id

def Unforeseen {α : Type} (outcome : Except Failure α) : Prop :=
  ∃ f, outcome = .error f ∧ ¬ f.Foreseen

theorem Console.Unreadable.ofUnreadable_unforeseen (e : Console.Unreadable) :
    ¬ (Failure.ofUnreadable e).Foreseen := by
  cases e <;> exact id

section
variable {α β : Type}

@[simp] theorem unforeseen_ok (a : α) : ¬ Unforeseen (.ok a : Except Failure α) := by
  simp [Unforeseen]

@[simp] theorem unforeseen_error (f : Failure) :
    Unforeseen (.error f : Except Failure α) ↔ ¬ f.Foreseen := by
  simp [Unforeseen]

@[simp] theorem unforeseen_map (g : α → β) (outcome : Except Failure α) :
    Unforeseen (outcome.map g) ↔ Unforeseen outcome := by
  cases outcome <;> simp [Except.map]

instance (outcome : Except Failure α) : Decidable (Unforeseen outcome) :=
  match outcome with
  | .ok a => .isFalse (unforeseen_ok a)
  | .error f => decidable_of_iff _ (unforeseen_error f).symm

end

namespace Template.Renderer

/-- A file that is no text, or whose text misuses values when it is filled in. -/
def Misused (r : Renderer) (e : Engine) (fs : Files) (p : Path) (bindings : Variables)
    (s : Selection) : Prop :=
  ∃ bytes, fs.read p = .ok bytes ∧
    ((∃ g, Text.ofBytes bytes = .error g) ∨
      ∃ text m, Text.ofBytes bytes = .ok text ∧
        r.renderBy e fs text bindings (some s) (some p.text) = .error (.misuse m))

variable {r : Renderer} {e : Engine} {fs : Files} {p : Path} {bindings : Variables} {s : Selection}

theorem render_error {text : String} {name : Option String} {f : Failure}
    (h : r.renderBy e fs text bindings (some s) name = .error f) :
    f.Foreseen ∨ ∃ m, f = .misuse m := by
  obtain ⟨g, rfl⟩ : ∃ g, report name g = f := by
    change Except.mapError (report name) (e.fill name (r.loader fs) text
      (contextFor r.base r.vocabulary bindings s)) = .error f at h
    generalize e.fill _ _ _ _ = filled at h
    cases filled with
    | error g => exact ⟨g, Except.error.inj h⟩
    | ok text => cases h
  cases g with
  | misuse m => exact .inr ⟨m, rfl⟩
  | malformed inner g => exact .inl trivial
  | failed m => exact .inl trivial
  | missing m => exact .inl trivial
  | absent m => exact .inl trivial

theorem renderFile_unforeseen_iff (hp : ¬ Files.Broken p) :
    Unforeseen (r.renderFileBy e fs p bindings (some s)) ↔ r.Misused e fs p bindings s := by
  unfold renderFileBy Misused
  cases hread : fs.read p with
  | error g =>
    have hg : g ≠ .zeroCharacter := by
      rintro rfl
      exact hp (Files.read_broken_iff.1 hread)
    cases g <;> simp_all [Failure.Foreseen]
  | ok bytes =>
    dsimp only
    cases htext : Text.ofBytes bytes with
    | error e =>
      exact iff_of_true ⟨Failure.ofUndecodable e, rfl, id⟩ ⟨bytes, rfl, .inl ⟨e, htext⟩⟩
    | ok text =>
      constructor
      · rintro ⟨f, hf, hunforeseen⟩
        obtain ⟨m, rfl⟩ := (render_error hf).resolve_left hunforeseen
        exact ⟨bytes, rfl, .inr ⟨text, m, htext, hf⟩⟩
      · rintro ⟨_, hbytes, hcause⟩
        cases hbytes
        rw [htext] at hcause
        rcases hcause with ⟨e, he⟩ | ⟨text', m, htext', hrender⟩
        · cases he
        · cases htext'
          exact ⟨_, hrender, id⟩

end Template.Renderer

namespace Walk
open Files Console

variable {w : Walk} {fs fs' : Files} {source dest file into : Path} {r : Report}

theorem foreseen_ofFault {action : String} {p : Path} {f : Fault} :
    (Failure.ofFault action p f).Foreseen ↔ f ≠ .zeroCharacter := by
  cases f <;> simp [Failure.ofFault, Failure.Foreseen]

theorem reported_unforeseen_iff {α : Type} {action : String} {p : Path} {c : Change α} :
    Unforeseen (reported action p c fs).1 ↔ (c fs).1 = .error .zeroCharacter := by
  unfold reported
  rcases c fs with ⟨g | a, fs'⟩ <;> simp [Except.mapError, foreseen_ofFault]

/-- A file at which a walk ends in a failure that it does not foresee: its template is misused, or
it is to be written to a path that is none. -/
def Spoils (w : Walk) (fs : Files) (file into : Path) : Prop :=
  (FileName.isRendered w.vocabulary file.name = true ∧
    w.renderer.Misused w.engine fs file w.bindings w.selection) ∨
  (Broken (w.targetOf into file.name) ∧ ∃ content, w.Yields fs file content)

theorem file_unforeseen_iff (hfile : ¬ Broken file) :
    Unforeseen (w.file file into fs).1 ↔ w.Spoils fs file into := by
  unfold Walk.file Spoils Yields
  dsimp only
  rw [unforeseen_map]
  by_cases hrendered : FileName.isRendered w.vocabulary file.name = true
  · simp only [hrendered, if_true, true_and]
    rw [← Template.Renderer.renderFile_unforeseen_iff hfile]
    cases hrender : w.renderer.renderFileBy w.engine fs file w.bindings (some w.selection) with
    | error f => simp
    | ok text => simp [writeText, reported_unforeseen_iff, write_broken_iff]
  · simp only [hrendered]
    simpa [copyFile, reported_unforeseen_iff] using copy_broken_iff hfile

/-! ### Directories on the way -/

private theorem mapM_error {α β : Type} {ask : α → Except Fault β} {xs : List α} {f : Fault}
    (h : xs.mapM ask = .error f) : ∃ x ∈ xs, ask x = .error f := by
  induction xs with
  | nil => cases h
  | cons x xs ih =>
    rw [List.mapM_cons] at h
    cases hx : ask x with
    | error g =>
      rw [hx] at h
      cases h
      exact ⟨x, by simp, hx⟩
    | ok b =>
      rw [hx] at h
      cases hxs : xs.mapM ask with
      | error g =>
        rw [hxs] at h
        cases h
        obtain ⟨y, hy, hask⟩ := ih hxs
        exact ⟨y, List.mem_cons_of_mem _ hy, hask⟩
      | ok others =>
        rw [hxs] at h
        cases h

theorem listEntries_foreseen (fs : Files) {p : Path} (hp : ¬ Broken p) :
    ¬ Unforeseen (listEntries fs p) := by
  suffices hask : ∀ f, (do
      (← fs.list p).mapM fun n => do return (n, ← fs.isDirectory? (p.child n)) :
        Except Fault (List (String × Bool))) = .error f → f ≠ .zeroCharacter by
    unfold listEntries
    dsimp only
    generalize (do
      (← fs.list p).mapM fun n => do return (n, ← fs.isDirectory? (p.child n)) :
        Except Fault (List (String × Bool))) = listed at hask ⊢
    cases listed with
    | ok es => simp [Except.mapError]
    | error f => simp [Except.mapError, foreseen_ofFault, hask f rfl]
  rintro f hf rfl
  rw [← stat_broken_iff fs] at hp
  unfold list at hf
  split at hf
  · obtain ⟨n, -, hn⟩ := mapM_error hf
    cases hkind : fs.isDirectory? (p.child n) with
    | ok b =>
      rw [hkind] at hn
      cases hn
    | error g =>
      rw [hkind] at hn
      cases hn
      exact asks_ne_zero _ hkind
  · cases hf
  · rename_i g hg
    cases hf
    exact hp hg

theorem foreseen_of_ensureDirectory {p : Path} {f : Fault} (hp : ¬ Broken p)
    (h : ensureDirectory p fs = (.error f, fs')) (action : String) :
    (Failure.ofFault action p f).Foreseen := by
  rw [foreseen_ofFault]
  rintro rfl
  exact hp ((ensureDirectory_broken_iff _).1 (congrArg Prod.fst h))

theorem zero_not_mem_clean {v : Vocabulary} {n : String} (h : '\x00' ∉ n.toList) :
    '\x00' ∉ (DirectoryName.clean v n).toList := by
  unfold DirectoryName.clean
  split
  · exact h
  · rename_i before segment hsplit
    split
    · rw [(DirectoryName.splitLast?_spec hsplit).1] at h
      exact fun hmem => h (List.mem_append_left _ hmem)
    · exact h

theorem entries_unforeseen_iff {α : Type} {step : α → Report → Step Report} {xs : List α} :
    Unforeseen (entries step xs r fs).1 ↔
      ∃ front x back r₂ fs₂, xs = front ++ x :: back ∧ entries step front r fs = (.ok r₂, fs₂) ∧
        Unforeseen (step x r₂ fs₂).1 := by
  constructor
  · rintro ⟨f, hf, hunforeseen⟩
    obtain ⟨front, x, back, r₂, fs₂, hxs, hfront, hx⟩ := entries_error (Prod.ext hf rfl)
    exact ⟨front, x, back, r₂, fs₂, hxs, hfront, f, congrArg Prod.fst hx, hunforeseen⟩
  · rintro ⟨front, x, back, r₂, fs₂, rfl, hfront, f, hf, hunforeseen⟩
    rcases hx : step x r₂ fs₂ with ⟨res, fs₃⟩
    rw [hx] at hf
    obtain rfl : res = .error f := hf
    refine ⟨f, ?_, hunforeseen⟩
    rw [entries_append, hfront]
    simp only [entries, hx]

theorem entry_unforeseen_iff {descend : Path → Path → Report → Step Report}
    {e : String × Bool} (hn : Path.IsPlain e.1) (hzero : '\x00' ∉ e.1.toList)
    (hsource : ¬ Broken source) (hdest : ¬ Broken dest) :
    Unforeseen (w.entry descend source dest e r fs).1 ↔ w.includes e = true ∧
      (e.2 = true ∧ (∃ fs', ensureDirectory (dest.child (w.outName e)) fs = (.ok (), fs') ∧
        Unforeseen (descend (source.child e.1) (dest.child (w.outName e))
          (r.addDirectory (dest.child (w.outName e))) fs').1) ∨
      e.2 = false ∧ w.Spoils fs (source.child e.1) dest) := by
  obtain ⟨n, isDirectory⟩ := e
  cases hincluded : w.includes (n, isDirectory) with
  | false =>
    rw [entry_skipped w source dest fs hincluded]
    simp
  | true =>
    cases isDirectory with
    | true =>
      have htarget : ¬ Broken (dest.child (w.outName (n, true))) :=
        not_broken_child hdest (zero_not_mem_clean hzero)
      rcases entry_directory w source dest fs hn hincluded with
        ⟨f, fs', hmake, hentry⟩ | ⟨fs', hmake, hentry⟩
      · rw [hentry, hmake]
        simp [foreseen_of_ensureDirectory htarget hmake]
      · rw [hentry, hmake]
        simp
    | false =>
      have hfile : FileName.isIncluded w.vocabulary w.selection n = true := hincluded
      rw [← file_unforeseen_iff (not_broken_child hsource hzero)]
      unfold entry
      simp only [hfile, if_true]
      rcases w.file (source.child n) dest fs with ⟨f | target, fs'⟩ <;> simp

/-- The walk of a directory gets to a file that is included, in the tree as it is by then. -/
inductive Arrives (w : Walk) : Nat → Path → Path → Report → Files → Path → Path → Files → Prop where
  | here {depth : Nat} {source dest : Path} {r r₂ : Report} {fs fs₁ fs₂ : Files}
      {front back : List (String × Bool)} {n : String}
      (made : ensureDirectory dest fs = (.ok (), fs₁))
      (listed : listEntries fs₁ source = .ok (front ++ (n, false) :: back))
      (before : entries (w.entry (w.directory depth) source dest) front r fs₁ = (.ok r₂, fs₂))
      (included : w.includes (n, false) = true) :
      Arrives w (depth + 1) source dest r fs (source.child n) dest fs₂
  | inside {depth : Nat} {source dest file into : Path} {r r₂ : Report} {fs fs₁ fs₂ fs₃ fs' : Files}
      {front back : List (String × Bool)} {n : String}
      (made : ensureDirectory dest fs = (.ok (), fs₁))
      (listed : listEntries fs₁ source = .ok (front ++ (n, true) :: back))
      (before : entries (w.entry (w.directory depth) source dest) front r fs₁ = (.ok r₂, fs₂))
      (included : w.includes (n, true) = true)
      (madeInside : ensureDirectory (dest.child (w.outName (n, true))) fs₂ = (.ok (), fs₃))
      (rest : Arrives w depth (source.child n) (dest.child (w.outName (n, true)))
        (r₂.addDirectory (dest.child (w.outName (n, true)))) fs₃ file into fs') :
      Arrives w (depth + 1) source dest r fs file into fs'

theorem directory_of_listed {depth : Nat} {fs₁ : Files} {es : List (String × Bool)}
    (hthere : fs.exists? source = .ok true) (hmake : ensureDirectory dest fs = (.ok (), fs₁))
    (hlist : listEntries fs₁ source = .ok es) :
    w.directory (depth + 1) source dest r fs =
      entries (w.entry (w.directory depth) source dest) es r fs₁ := by
  rw [directory, hthere]
  simp only [makeDirectory, reported, hmake, Except.mapError, hlist]

/-- Of a source that is there only an entry can be what the walk does not foresee. -/
theorem directory_unforeseen_step (w : Walk) (depth : Nat) (hbroken : ¬ Broken dest)
    (hthere : fs.exists? source = .ok true) :
    Unforeseen (w.directory (depth + 1) source dest r fs).1 ↔
      ∃ fs₁ es, ensureDirectory dest fs = (.ok (), fs₁) ∧ listEntries fs₁ source = .ok es ∧
        Unforeseen (entries (w.entry (w.directory depth) source dest) es r fs₁).1 := by
  constructor
  · intro h
    rcases directory_cases w depth source dest r fs with
      ⟨f, hask, -⟩ | ⟨hask, -⟩ | ⟨f, fs₁, hmake, hrun⟩ | ⟨fs₁, hmake, hrun⟩
    · rw [hthere] at hask
      cases hask
    · rw [hthere] at hask
      cases hask
    · rw [hrun] at h
      simp [foreseen_of_ensureDirectory hbroken hmake] at h
    · rcases hrun with ⟨f, hlist, hrun⟩ | ⟨es, hlist, hrun⟩
      · have hforeseen := listEntries_foreseen fs₁ (not_broken_of_exists hthere)
        rw [hlist, unforeseen_error] at hforeseen
        rw [hrun, unforeseen_error] at h
        exact absurd h hforeseen
      · rw [hrun] at h
        exact ⟨fs₁, es, hmake, hlist, h⟩
  · rintro ⟨fs₁, es, hmake, hlist, h⟩
    rw [directory_of_listed hthere hmake hlist]
    exact h

theorem entry_reached {depth : Nat} {fs₁ fs₂ : Files} {r₂ : Report} {e : String × Bool}
    {front back : List (String × Bool)} (hfs : fs.WellFormed) (hdest : dest.IsNormal)
    (hmake : ensureDirectory dest fs = (.ok (), fs₁))
    (hlist : listEntries fs₁ source = .ok (front ++ e :: back))
    (hbefore : entries (w.entry (w.directory depth) source dest) front r fs₁ = (.ok r₂, fs₂)) :
    fs₂.WellFormed ∧ ¬ Broken source ∧ Path.IsPlain e.1 ∧ '\x00' ∉ e.1.toList ∧
      (e.2 = true → ∃ P, fs₂.stat (source.child e.1) = .ok (P, .directory)) := by
  have hfs₁ := (ensureDirectory_made hfs hdest hmake).1.wellFormed
  obtain ⟨P, hstat, hnames, hkinds⟩ := listEntries_eq_ok hlist
  have hplain := isPlain_of_listed hfs₁ hlist
  have hrising : ((front ++ e :: back).map (·.1)).Pairwise (· < ·) := hnames ▸ names_rising hfs₁ P
  have hthere : ∀ x ∈ front ++ e :: back, x.2 = true →
      ∃ P, fs₁.stat (source.child x.1) = .ok (P, .directory) :=
    fun x hx hdir => isDirectory?_eq_true.1 (hdir ▸ hkinds x hx)
  rw [List.map_append, List.pairwise_append] at hrising
  obtain ⟨vs, -, -, hfs₂, hext⟩ := entries_tour (directory_tours w depth) hdest hfs₁
    (fun x hx => hplain x (List.mem_append_left _ hx)) hrising.1
    (fun x hx => hthere x (List.mem_append_left _ hx)) hbefore
  have hmem : e ∈ front ++ e :: back := by simp
  obtain ⟨old, hold⟩ := (mem_names fs₁ P e.1).1 (hnames ▸ List.mem_map_of_mem hmem)
  refine ⟨hfs₂, not_broken_of_stat hstat, hplain e hmem, (hfs₁.named hold).2, fun hdir => ?_⟩
  obtain ⟨Q, hQ⟩ := hthere e hmem hdir
  exact ⟨Q, stat_directory_extends hQ hext⟩

/-- The walk of a directory ends in a failure that it does not foresee just if it gets to a file that
spoils it. -/
theorem directory_unforeseen_iff (w : Walk) {depth : Nat} (hfs : fs.WellFormed)
    (hdest : dest.IsNormal) (hbroken : ¬ Broken dest) (hthere : fs.exists? source = .ok true) :
    Unforeseen (w.directory depth source dest r fs).1 ↔
      ∃ file into fs', w.Arrives depth source dest r fs file into fs' ∧ w.Spoils fs' file into := by
  induction depth generalizing source dest r fs with
  | zero =>
    refine iff_of_false (by simp [directory, foreseen_ofFault]) ?_
    rintro ⟨_, _, _, harrives, -⟩
    cases harrives
  | succ depth ih =>
    -- The entry that is gone into is there, and its destination is a path, so that `ih` applies.
    have hinside {fs₂ fs₃ : Files} {n : String} {r₂ : Report} (hfs₂ : fs₂.WellFormed)
        (hn : Path.IsPlain n) (hzero : '\x00' ∉ n.toList)
        (hP : ∃ P, fs₂.stat (source.child n) = .ok (P, .directory))
        (hmake : ensureDirectory (dest.child (w.outName (n, true))) fs₂ = (.ok (), fs₃)) :
        Unforeseen (w.directory depth (source.child n) (dest.child (w.outName (n, true))) r₂ fs₃).1 ↔
          ∃ file into fs', w.Arrives depth (source.child n) (dest.child (w.outName (n, true))) r₂ fs₃
            file into fs' ∧ w.Spoils fs' file into := by
      have hnormal := hdest.child (DirectoryName.clean_isPlain w.vocabulary hn)
      have hmade := (ensureDirectory_made hfs₂ hnormal hmake).1
      obtain ⟨P, hP⟩ := hP
      exact ih hmade.wellFormed hnormal (not_broken_child hbroken (zero_not_mem_clean hzero))
        (exists_of_stat (stat_directory_extends hP hmade.later))
    rw [directory_unforeseen_step w depth hbroken hthere]
    constructor
    · rintro ⟨fs₁, es, hmake, hlist, h⟩
      obtain ⟨front, ⟨n, isDirectory⟩, back, r₂, fs₂, rfl, hbefore, hentry⟩ :=
        entries_unforeseen_iff.1 h
      obtain ⟨hfs₂, hsource, hn, hzero, hP⟩ := entry_reached hfs hdest hmake hlist hbefore
      rw [entry_unforeseen_iff hn hzero hsource hbroken] at hentry
      obtain ⟨hincluded, ⟨hdir, fs₃, hmakeInside, hrest⟩ | ⟨hfile, hspoils⟩⟩ := hentry
      · obtain rfl : isDirectory = true := hdir
        rw [hinside hfs₂ hn hzero (hP rfl) hmakeInside] at hrest
        obtain ⟨file, into, fs', harrives, hspoils⟩ := hrest
        exact ⟨file, into, fs', .inside hmake hlist hbefore hincluded hmakeInside harrives, hspoils⟩
      · obtain rfl : isDirectory = false := hfile
        exact ⟨_, _, _, .here hmake hlist hbefore hincluded, hspoils⟩
    · rintro ⟨file, into, fs', harrives, hspoils⟩
      cases harrives with
      | here hmake hlist hbefore hincluded =>
        obtain ⟨-, hsource, hn, hzero, -⟩ := entry_reached hfs hdest hmake hlist hbefore
        refine ⟨_, _, hmake, hlist, entries_unforeseen_iff.2 ⟨_, _, _, _, _, rfl, hbefore, ?_⟩⟩
        rw [entry_unforeseen_iff hn hzero hsource hbroken]
        exact ⟨hincluded, .inr ⟨rfl, hspoils⟩⟩
      | inside hmake hlist hbefore hincluded hmakeInside harrives =>
        obtain ⟨hfs₂, hsource, hn, hzero, hP⟩ := entry_reached hfs hdest hmake hlist hbefore
        refine ⟨_, _, hmake, hlist, entries_unforeseen_iff.2 ⟨_, _, _, _, _, rfl, hbefore, ?_⟩⟩
        rw [entry_unforeseen_iff hn hzero hsource hbroken]
        refine ⟨hincluded, .inl ⟨rfl, _, hmakeInside, ?_⟩⟩
        rw [hinside hfs₂ hn hzero (hP rfl) hmakeInside]
        exact ⟨file, into, fs', harrives, hspoils⟩

/-! ### Sessions -/

/-- What the walk of a source does not foresee: a source that cannot be asked for, one that is not
there and whose absence cannot be told, and of one that is there a destination that is no path, or a
file that spoils the walk. -/
def Surprised (w : Walk) (m : Markup) (source dest : Path) (fs : Files) : Prop :=
  (∃ f, fs.exists? source = .error f) ∨
  fs.exists? source = .ok false ∧ ¬ m.Reads (styled Tone.warning.style (missingText source)) ∨
  fs.exists? source = .ok true ∧ (Broken dest ∨
    ∃ file into fs', w.Arrives pathLimit source dest {} fs file into fs' ∧ w.Spoils fs' file into)

variable {s : Session}

theorem missingText_plain {p : Path} (h : '[' ∉ p.text.toList) : '[' ∉ (missingText p).toList := by
  have hfront : '[' ∉ "Template directory does not exist: ".toList := by decide +kernel
  have htext : (missingText p).toList =
      "Template directory does not exist: ".toList ++ p.text.toList := String.toList_append
  rw [htext]
  exact fun hmem => (List.mem_append.1 hmem).elim hfront h

theorem materialize_missing (w : Walk) (dest : Path)
    (hmissing : s.files.exists? source = .ok false) :
    w.materialize source dest s =
      match Tone.warning.line s.terminal.markup s.terminal.width (missingText source) with
      | .ok text => (.ok { missing := [source] }, s.print text)
      | .error e => (.error (.ofUnreadable e), s) := by
  have hrun : w.run source dest s.files = (.ok { missing := [source] }, s.files) := by
    unfold run
    rw [show pathLimit = (pathLimit - 1) + 1 from rfl, directory, hmissing]
    rfl
  have htell : w.materialize source dest s = (do
      Act.talk (Talk.tell .warning (missingText source))
      return { missing := [source] } : Act Report) s := by
    rw [materialize, Act.bind_run, Act.step, hrun]
    simp
  rw [htell, Act.bind_run, Talk.tell, Talk.put_run]
  cases Tone.warning.line s.terminal.markup s.terminal.width (missingText source) <;> rfl

theorem run_unforeseen_iff (w : Walk) (hfs : fs.WellFormed) (hdest : dest.IsNormal)
    (hthere : fs.exists? source = .ok true) :
    Unforeseen (w.run source dest fs).1 ↔ Broken dest ∨
      ∃ file into fs', w.Arrives pathLimit source dest {} fs file into fs' ∧
        w.Spoils fs' file into := by
  by_cases hbroken : Broken dest
  · refine iff_of_true ?_ (.inl hbroken)
    have hmake := (ensureDirectory_broken_iff fs).2 hbroken
    rcases hdone : ensureDirectory dest fs with ⟨_ | _, fs₁⟩ <;> rw [hdone] at hmake <;> cases hmake
    refine ⟨Failure.ofFault "Cannot create directory" dest .zeroCharacter, ?_, id⟩
    unfold run
    rw [show pathLimit = (pathLimit - 1) + 1 from rfl, directory, hthere]
    simp only [makeDirectory, reported, hdone, Except.mapError]
  · rw [or_iff_right hbroken]
    exact directory_unforeseen_iff w hfs hdest hbroken hthere

theorem materialize_there (w : Walk) (hs : s.files.WellFormed) (hdest : dest.IsNormal)
    (hthere : s.files.exists? source = .ok true) :
    w.materialize source dest s =
      ((w.run source dest s.files).1, { s with files := (w.run source dest s.files).2 }) := by
  rcases hrun : w.run source dest s.files with ⟨f | r, fs'⟩
  · exact materialize_of_error w hrun
  · obtain ⟨vs, htoured⟩ := directory_tours w pathLimit hs hdest hthere hrun
    exact (materialize_of_ok w hrun).2.2 (by rw [htoured.notes, missing_notes])

def spoiltFiles : Files where
  entries := [(["t"], .directory), (["t", "a.j2"], .file ⟨#[255]⟩), (["u"], .directory),
    (["u", "a.j2"], .file "{{ 1 // 0 }}".toUTF8), (["d"], .directory)]

def spoiltSession : Session := ⟨spoiltFiles, { width := 80 }⟩

end Walk
end Scaffold
