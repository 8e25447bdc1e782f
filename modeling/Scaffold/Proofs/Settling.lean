import Scaffold.Proofs.Choices

set_option autoImplicit false

/-!
# How questions end

A question that is given lines, and then no more, comes to what the first line says that answers it,
and is aborted if no line does; a line that does not answer it is turned down, and the question is
asked again. There are lines that spoil this. A question for choices fails on digits that write no
number, and one for several choices also if it cannot print the items that it does not know.
-/
namespace Scaffold.Prompt
open Talk Console Text

variable {α β : Type}

/-- How a question ends that is given lines, of which some answer it and some spoil it. -/
inductive Ends (answers : String → α → Prop) (spoils : String → Prop) (question : String) :
    List String → Except Failure α → Prop where
  | answered {line : String} {rest : List String} {a : α} (sound : ¬ spoils line)
      (here : answers line a) : Ends answers spoils question (line :: rest) (.ok a)
  | spoilt {line : String} {rest : List String} {f : Failure} (here : spoils line)
      (other : f = .badMarkup ∨ ∃ message, f = .invalid message) :
      Ends answers spoils question (line :: rest) (.error f)
  | again {line : String} {rest : List String} {r : Except Failure α} (sound : ¬ spoils line)
      (vain : ∀ a, ¬ answers line a) (later : Ends answers spoils question rest r) :
      Ends answers spoils question (line :: rest) r
  | unanswered : Ends answers spoils question [] (.error (.aborted question))

def Settled (question : String) (r : Except Failure α) : Prop :=
  (∃ a, r = .ok a) ∨ r = .error (.aborted question)

instance (question : String) : (r : Except Failure α) → Decidable (Settled question r)
  | .ok a => .isTrue (.inl ⟨a, rfl⟩)
  | .error (.aborted asked) => decidable_of_iff (asked = question) (by simp [Settled])
  | .error (.render ..) | .error (.files ..) | .error (.unknownProject ..) | .error .interrupted
  | .error (.refused ..) | .error (.invalid ..) | .error (.misuse ..) | .error (.fault ..)
  | .error .unresolvable | .error (.document ..) | .error .badMarkup => .isFalse (by simp [Settled])

/-- A verdict accepts the lines that answer a question. Of the others it turns down those that do
not spoil the question, with a complaint that can be printed. -/
structure Judges (m : Markup) (judge : String → Verdict α) (answers : String → α → Prop)
    (spoils : String → Prop) : Prop where
  accepts : ∀ {line a}, ¬ spoils line → answers line a → judge (stripped line) = .accept a
  breaks : ∀ {line}, spoils line → (∃ message, judge (stripped line) = .fail (.invalid message)) ∨
    ∃ complaint, judge (stripped line) = .reject complaint ∧ ¬ m.Reads (styled "yellow" complaint)
  rejects : ∀ {line}, ¬ spoils line → (∀ a, ¬ answers line a) →
    ∃ complaint, judge (stripped line) = .reject complaint ∧ m.Reads (styled "yellow" complaint)

section
variable {judge : String → Verdict α} {answers : String → α → Prop} {spoils : String → Prop}
  {question : String} {lines : List String} {m : Markup}

theorem Judges.answers_of_accept (h : Judges m judge answers spoils) {line : String} {a : α}
    (haccept : judge (stripped line) = .accept a) : answers line a := by
  have hsound : ¬ spoils line := by
    intro hspoils
    rcases h.breaks hspoils with ⟨message, hfail⟩ | ⟨complaint, hreject, -⟩
    · cases haccept.symm.trans hfail
    · cases haccept.symm.trans hreject
  by_cases hanswers : ∃ b, answers line b
  · obtain ⟨b, hb⟩ := hanswers
    cases haccept.symm.trans (h.accepts hsound hb)
    exact hb
  · obtain ⟨complaint, hreject, -⟩ := h.rejects hsound (not_exists.1 hanswers)
    cases haccept.symm.trans hreject

def Unspoilt (answers : String → α → Prop) (spoils : String → Prop) (lines : List String) : Prop :=
  ∀ before line after, lines = before ++ line :: after → spoils line →
    ∃ x ∈ before, ∃ a, answers x a

theorem unspoilt_nil : Unspoilt answers spoils [] := by
  intro before line after hlines
  simp at hlines

theorem unspoilt_cons {first : String} :
    Unspoilt answers spoils (first :: lines) ↔
      ¬ spoils first ∧ ((∃ a, answers first a) ∨ Unspoilt answers spoils lines) := by
  constructor
  · intro h
    refine ⟨fun hspoils => ?_, or_iff_not_imp_left.2 fun hvain before line after hlines hspoils => ?_⟩
    · obtain ⟨x, hx, -⟩ := h [] first lines rfl hspoils
      cases hx
    · obtain ⟨x, hx, ha⟩ := h (first :: before) line after (by rw [hlines]; rfl) hspoils
      rcases List.mem_cons.1 hx with rfl | hx
      · exact absurd ha hvain
      · exact ⟨x, hx, ha⟩
  · rintro ⟨hsound, hlater⟩ before line after hlines hspoils
    cases before with
    | nil =>
      obtain ⟨rfl, -⟩ := List.cons.inj hlines
      exact absurd hspoils hsound
    | cons x before =>
      obtain ⟨rfl, hrest⟩ := List.cons.inj hlines
      rcases hlater with ha | hlater
      · exact ⟨first, List.mem_cons_self, ha⟩
      · obtain ⟨y, hy, ha⟩ := hlater before line after hrest hspoils
        exact ⟨y, List.mem_cons_of_mem _ hy, ha⟩

theorem Ends.settled_iff {r : Except Failure α} (h : Ends answers spoils question lines r) :
    Settled question r ↔ Unspoilt answers spoils lines := by
  induction h with
  | answered sound here =>
    exact iff_of_true (.inl ⟨_, rfl⟩) (unspoilt_cons.2 ⟨sound, .inl ⟨_, here⟩⟩)
  | spoilt here other =>
    refine iff_of_false ?_ fun hunspoilt => (unspoilt_cons.1 hunspoilt).1 here
    rcases other with rfl | ⟨message, rfl⟩ <;> simp [Settled]
  | again sound vain _ ih =>
    rw [ih, unspoilt_cons, and_iff_right sound, or_iff_right (not_exists.2 vain)]
  | unanswered => exact iff_of_true (.inr rfl) unspoilt_nil

theorem unreadable_kinds (e : Unreadable) : Failure.ofUnreadable e = .badMarkup ∨
    ∃ message, Failure.ofUnreadable e = .invalid message := by
  cases e with
  | tags => exact .inl rfl
  | value message => exact .inr ⟨message, rfl⟩

theorem reads_complaint (m : Markup) {complaint : String} (h : '[' ∉ complaint.toList) :
    m.Reads (styled "yellow" complaint) := m.reads_style (by simp [styles]) h

theorem askAll_ends (h : Judges m judge answers spoils) (width : Nat) (question : String)
    (lines : List String) (printed : String) :
    Ends answers spoils question lines
      (askAll m width question judge (lines.map Answer.line) printed).1 := by
  induction lines generalizing printed with
  | nil => exact .unanswered
  | cons line lines ih =>
    rw [List.map_cons, askAll]
    by_cases hspoils : spoils line
    · rcases h.breaks hspoils with ⟨message, hfail⟩ | ⟨complaint, hreject, hread⟩
      · rw [hfail]
        exact .spoilt hspoils (.inr ⟨message, rfl⟩)
      · cases hunread : m.read (styled "yellow" complaint) with
        | ok cs => exact absurd ⟨cs, hunread⟩ hread
        | error e =>
          simp only [hreject, Console.line, hunread, Except.map]
          exact .spoilt hspoils (unreadable_kinds e)
    · by_cases hanswers : ∃ a, answers line a
      · obtain ⟨a, ha⟩ := hanswers
        rw [h.accepts hspoils ha]
        exact .answered hspoils ha
      · have hvain : ∀ a, ¬ answers line a := not_exists.1 hanswers
        obtain ⟨complaint, hreject, cs, hread⟩ := h.rejects hspoils hvain
        simp only [hreject, Console.line, hread, Except.map]
        exact .again hspoils hvain (ih _)

theorem ask_ends (h : Judges m judge answers spoils) (width : Nat) (question : String)
    (lines : List String) (printed : String) :
    Ends answers spoils question lines
      (ask question judge ⟨width, lines.map Answer.line, printed, m⟩).1 :=
  askAll_ends h width question lines printed

/-- What takes no line before a question leaves its end to it. -/
theorem Ends.after {c : Talk β} {b : β} {f : β → Talk α} (hc : Comes c [] b) {width : Nat}
    (h : ∀ printed, Ends answers spoils question lines
      (f b ⟨width, lines.map Answer.line, printed, m⟩).1) (printed : String) :
    Ends answers spoils question lines
      ((c >>= f) ⟨width, lines.map Answer.line, printed, m⟩).1 := by
  obtain ⟨printed', hrun⟩ := hc width m (lines.map .line) printed
  rw [List.map_nil, List.nil_append] at hrun
  rw [bind_run, hrun]
  exact h printed'

end

/-! ### One choice -/

inductive Takes (choices : List String) (default : Option String) : String → String → Prop where
  | default {line c : String} (blank : stripped line = "") (given : default = some c) :
      Takes choices default line c
  | choice {line c : String} (entered : stripped line = "" → default = none)
      (names : Names choices (stripped line) c) : Takes choices default line c

section
variable {choices : List String} {default : Option String} {answer : String}

theorem selectVerdict_of_entered (h : answer = "" → default = none) :
    selectVerdict choices default answer =
      match choice? choices answer with
      | .error f => .fail f
      | .ok (some c) => .accept c
      | .ok none => .reject ("Please enter a number between 1 and " ++ toString choices.length) := by
  unfold selectVerdict
  split
  · cases h rfl
  · rfl

theorem selectVerdict_judges (m : Markup) (choices : List String) (default : Option String) :
    Judges m (selectVerdict choices default) (Takes choices default)
      fun line => Illegible choices (stripped line) where
  accepts := by
    rintro line c hlegible (⟨hblank, rfl⟩ | ⟨hentered, hnames⟩)
    · rw [hblank]
      rfl
    · rw [selectVerdict_of_entered hentered, choice?_of_legible hlegible, named?_eq_some.2 hnames]
  breaks := by
    intro line hillegible
    have hentered : stripped line = "" → default = none := fun hblank =>
      absurd hblank hillegible.2.1
    obtain ⟨message, herror⟩ := choice?_of_illegible hillegible
    rw [selectVerdict_of_entered hentered, herror]
    exact .inl ⟨message, rfl⟩
  rejects := by
    intro line hlegible hvain
    have hentered : stripped line = "" → default = none := fun hblank =>
      Option.eq_none_iff_forall_ne_some.2 fun c hc => hvain c (.default hblank hc)
    have hnone : named? choices (stripped line) = none :=
      named?_eq_none.2 fun c hc => hvain c (.choice hentered hc)
    refine ⟨_, by rw [selectVerdict_of_entered hentered, choice?_of_legible hlegible, hnone],
      reads_complaint m ?_⟩
    simp [no_bracket_in_number]

end

/-! ### Several choices -/

/-- A line on which a question for several choices fails: with an item of digits that write no
number, or with items that the console cannot read where they are complained of. -/
def Spoils (m : Markup) (choices : List String) (line : String) : Prop :=
  (∃ item ∈ itemsOf (stripped line), Illegible choices item) ∨
    ¬ m.Reads (styled "yellow"
      ("Unknown choice(s): " ++ ", ".intercalate (unknown choices (itemsOf (stripped line)))))

theorem multiselectVerdict_judges (m : Markup) (choices : List String) :
    Judges m (multiselectVerdict choices)
      (fun line picked => Serves choices line ∧
        picked = choices.filter fun c => ∃ item ∈ itemsOf (stripped line), Names choices item c)
      (Spoils m choices) where
  accepts := by
    rintro line picked hsound ⟨hserves, rfl⟩
    have hlegible : ∀ item ∈ itemsOf (stripped line), ¬ Illegible choices item :=
      fun item hitem hillegible => hsound (.inl ⟨item, hitem, hillegible⟩)
    rw [multiselectVerdict_of_legible hlegible, serves_iff.1 hserves]
  breaks := by
    intro line hspoils
    by_cases hillegible : ∃ item ∈ itemsOf (stripped line), Illegible choices item
    · exact .inl (multiselectVerdict_of_illegible hillegible)
    · obtain hread := hspoils.resolve_left hillegible
      push Not at hillegible
      rw [multiselectVerdict_of_legible hillegible]
      cases hunknown : unknown choices (itemsOf (stripped line)) with
      | nil =>
        rw [hunknown] at hread
        exact absurd (reads_complaint m (by decide)) hread
      | cons item items =>
        rw [hunknown] at hread
        exact .inr ⟨_, rfl, hread⟩
  rejects := by
    intro line hsound hvain
    obtain ⟨hlegible, hread⟩ := not_or.1 hsound
    push Not at hlegible
    rw [multiselectVerdict_of_legible hlegible]
    cases hunknown : unknown choices (itemsOf (stripped line)) with
    | nil => exact absurd ⟨serves_iff.2 hunknown, rfl⟩ (hvain _)
    | cons item items =>
      rw [hunknown, not_not] at hread
      exact ⟨_, rfl, hread⟩

/-! ### Yes or no, and texts -/

def Says (default : Bool) (line : String) (agreed : Bool) : Prop :=
  lowered (stripped line) = "" ∧ agreed = default ∨
    lowered (stripped line) ∈ ["y", "yes"] ∧ agreed = true ∨
    lowered (stripped line) ∈ ["n", "no"] ∧ agreed = false

theorem confirmVerdict_judges (m : Markup) (default : Bool) :
    Judges m (confirmVerdict default) (Says default) fun _ => False where
  accepts := by
    rintro line agreed - (⟨hword, rfl⟩ | ⟨hword, rfl⟩ | ⟨hword, rfl⟩)
    · simp [confirmVerdict, hword]
    · rcases List.mem_pair.1 hword with hword | hword <;> simp [confirmVerdict, hword]
    · rcases List.mem_pair.1 hword with hword | hword <;> simp [confirmVerdict, hword]
  breaks := False.elim
  rejects := by
    intro line _ hvain
    have hblank : lowered (stripped line) ≠ "" := fun hword => hvain _ (.inl ⟨hword, rfl⟩)
    have hyes : lowered (stripped line) ∉ ["y", "yes"] := fun hword =>
      hvain _ (.inr (.inl ⟨hword, rfl⟩))
    have hno : lowered (stripped line) ∉ ["n", "no"] := fun hword =>
      hvain _ (.inr (.inr ⟨hword, rfl⟩))
    refine ⟨"Please answer y or n", ?_, reads_complaint m (by decide)⟩
    simp_all [confirmVerdict]

/-- A check passes good values alone, and its complaints look like no tags. -/
structure Demands (check : Check) (good : String → Prop) : Prop where
  passes : ∀ value, check value = none ↔ good value
  plain : ∀ value complaint, check value = some complaint → '[' ∉ complaint.toList

theorem nonEmpty_demands {complaint : String} (h : '[' ∉ complaint.toList) :
    Demands (nonEmpty complaint) fun value => stripped value ≠ "" where
  passes := by simp [nonEmpty]
  plain := by
    intro value told htold
    obtain ⟨-, rfl⟩ : stripped value = "" ∧ complaint = told := by simpa [nonEmpty] using htold
    exact h

theorem packageName_demands : Demands packageName fun value => Text.packageName value ≠ "" where
  passes := by simp [packageName]
  plain := by
    intro value told htold
    obtain ⟨-, rfl⟩ : Text.packageName value = "" ∧
        "Project name must be a valid package name." = told := by simpa [packageName] using htold
    decide

def Enters (default : String) (good : String → Prop) (line value : String) : Prop :=
  value = (if stripped line = "" then default else stripped line) ∧ good value

theorem textVerdict_judges (m : Markup) {check : Check} {good : String → Prop}
    (h : Demands check good) (default : String) :
    Judges m (textVerdict default check) (Enters default good) fun _ => False where
  accepts := by
    rintro line value - ⟨hvalue, hgood⟩
    simp only [textVerdict, ← hvalue, (h.passes value).2 hgood]
  breaks := False.elim
  rejects := by
    intro line _ hvain
    obtain ⟨complaint, hcheck⟩ : ∃ complaint,
        check (if stripped line = "" then default else stripped line) = some complaint := by
      rw [← Option.ne_none_iff_exists', ne_eq, h.passes]
      exact fun hgood => hvain _ ⟨rfl, hgood⟩
    exact ⟨complaint, by simp only [textVerdict, hcheck],
      reads_complaint m (h.plain _ complaint hcheck)⟩

/-! ### Every question -/

section
variable {message : String} {choices : List String}

/-- Given lines and then no more, each question comes to what the first line says that answers it,
or is aborted if there is none, unless a line spoils it first; and no line spoils a question for yes
or no or for a text. -/
theorem questions_end (hmessage : '[' ∉ message.toList) (hchoices : ∀ c ∈ choices, '[' ∉ c.toList)
    (hne : choices ≠ []) (preset : Option String) (agreed : Bool) (default : String)
    {complaint : String} (hcomplaint : '[' ∉ complaint.toList) (width : Nat) (lines : List String)
    (printed : String) (markup : Markup) :
    let t : Terminal := ⟨width, lines.map .line, printed, markup⟩
    let framed := message ++ (if default = "" then "" else " [" ++ default ++ "]") ++ " "
    Ends (Takes choices preset) (fun line => Illegible choices (stripped line))
      ("Select (1-" ++ toString choices.length ++ "): ") lines (select message choices preset t).1 ∧
    Ends (fun line picked => Serves choices line ∧
        picked = choices.filter fun c => ∃ item ∈ itemsOf (stripped line), Names choices item c)
      (Spoils markup choices) "Select (comma-separated numbers, empty for none): " lines
      (multiselect message choices t).1 ∧
    Ends (Says agreed) (fun _ => False) (message ++ (if agreed then " [Y/n] " else " [y/N] ")) lines
      (confirm message agreed t).1 ∧
    Ends (Enters default fun value => stripped value ≠ "") (fun _ => False) framed lines
      (text message default (nonEmpty complaint) t).1 ∧
    Ends (Enters default fun value => Text.packageName value ≠ "") (fun _ => False) framed lines
      (text message default packageName t).1 := by
  have hpresent {mark : String → String} (hmark : ∀ c, '[' ∉ (mark c).toList) :
      Comes (present message choices mark) [] () := comes_present hmessage hchoices hmark
  refine ⟨?_, ?_, ask_ends (confirmVerdict_judges markup agreed) width _ lines printed,
    ask_ends (textVerdict_judges markup (nonEmpty_demands hcomplaint) default) width _ lines printed,
    ask_ends (textVerdict_judges markup packageName_demands default) width _ lines printed⟩
  · rw [select_eq hne]
    exact Ends.after (hpresent fun c => by split <;> decide)
      (ask_ends (selectVerdict_judges markup choices preset) width _ lines) printed
  · rw [multiselect_eq hne]
    exact Ends.after (hpresent fun _ => by decide)
      (ask_ends (multiselectVerdict_judges markup choices) width _ lines) printed

/-- Somebody who tries a name that is none, and then a number. The third line would spoil the
question for a framework, and answers none for yes or no. -/
def triedTerminal : Terminal where
  width := 80
  answers := ["svelte", "2", "²"].map .line

theorem framework_asked :
    '[' ∉ "Framework".toList ∧ (∀ c ∈ ["vue", "react"], '[' ∉ c.toList) ∧
      '[' ∉ "Path cannot be empty.".toList ∧
      (select "Framework" ["vue", "react"] none triedTerminal).1 = .ok "react" ∧
      Settled ("Framework" ++ " [y/N] ") (confirm "Framework" false triedTerminal).1 := by
  have hmessage : '[' ∉ "Framework".toList := by decide
  have hchoices : ∀ c ∈ ["vue", "react"], '[' ∉ c.toList := by decide
  have hcomplaint : '[' ∉ "Path cannot be empty.".toList := by decide
  obtain ⟨hselect, -, hconfirm, -⟩ := questions_end hmessage hchoices (by decide) none false ""
    hcomplaint 80 ["svelte", "2", "²"] "" .tags
  refine ⟨hmessage, hchoices, hcomplaint, ?_, hconfirm.settled_iff.2 fun _ _ _ _ => False.elim⟩
  have htakes {line c : String} (h : Takes ["vue", "react"] none line c) :
      named? ["vue", "react"] (stripped line) = some c := by
    rcases h with ⟨-, given⟩ | ⟨-, names⟩
    · cases given
    · exact named?_eq_some.2 names
  have hname : named? ["vue", "react"] (stripped "svelte") = none := by decide +kernel
  have hnumber : named? ["vue", "react"] (stripped "2") = some "react" := by decide +kernel
  have hlegible (found : Option String) {line : String}
      (h : (choice? ["vue", "react"] (stripped line)).toOption = some found) :
      ¬ Illegible ["vue", "react"] (stripped line) := by
    intro hillegible
    obtain ⟨complaint, herror⟩ := choice?_of_illegible hillegible
    rw [herror] at h
    cases h
  change Ends _ _ _ _ (select "Framework" ["vue", "react"] none triedTerminal).1 at hselect
  generalize (select "Framework" ["vue", "react"] none triedTerminal).1 = r at hselect ⊢
  cases hselect with
  | answered _ here =>
    have hchosen := htakes here
    rw [hname] at hchosen
    cases hchosen
  | spoilt here => exact absurd here (hlegible none (by decide +kernel))
  | again _ _ later =>
    cases later with
    | answered _ here =>
      have hchosen := htakes here
      rw [hnumber] at hchosen
      cases hchosen
      rfl
    | spoilt here => exact absurd here (hlegible (some "react") (by decide +kernel))
    | again _ vain => exact absurd (.choice (fun _ => rfl) (named?_eq_some.1 hnumber)) (vain _)

/-- A raised two is a digit that writes no number; an item that looks like a tag cannot be printed. -/
theorem odd_answers_unsettled :
    ¬ Settled "Select (1-1): "
        (select "Framework" ["vue"] none { width := 120, answers := [.line "²"] }).1 ∧
      ¬ Settled "Select (comma-separated numbers, empty for none): "
        (multiselect "Options" ["pug"] { width := 120, answers := [.line "[/x]"] }).1 := by
  constructor <;> decide +kernel

end

end Scaffold.Prompt
