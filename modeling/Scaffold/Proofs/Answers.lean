import Mathlib.Data.List.Sort
import Scaffold.Proofs.Prompt
import Scaffold.Proofs.Session
import Scaffold.Proofs.Text.Pieces

set_option autoImplicit false

/-!
# Lines that answer

An exchange that is given the lines it asks for takes them and no more, and comes to what they say:
a choice to the one of this name, be its name a number, and a list of choices to those between its
commas.
-/
namespace Scaffold

/-- Given these lines the exchange comes to a result, and leaves what comes after them. -/
def Talk.Comes {α : Type} (c : Talk α) (lines : List String) (a : α) : Prop :=
  ∀ (width : Nat) (markup : Console.Markup) (rest : List Answer) (printed : String), ∃ printed',
    c ⟨width, lines.map .line ++ rest, printed, markup⟩ = (.ok a, ⟨width, rest, printed', markup⟩)

namespace Talk
open Console

variable {α β : Type} {c : Talk α} {a : α} {b : β} {lines more : List String}

theorem bind_run (c : Talk α) (f : α → Talk β) (t : Terminal) :
    (c >>= f) t = match c t with
      | (.ok x, t') => f x t'
      | (.error e, t') => (.error e, t') := by
  change (ExceptT.bind c f : Talk β) t = _
  simp only [ExceptT.bind, ExceptT.mk, bind, StateT.bind]
  rcases c t with ⟨_ | x, t'⟩ <;> rfl

theorem comes_pure (a : α) : Comes (pure a) [] a := fun _ _ _ printed => ⟨printed, rfl⟩

theorem Comes.bind {f : α → Talk β} (h : Comes c lines a) (hf : Comes (f a) more b) :
    Comes (c >>= f) (lines ++ more) b := by
  intro width markup rest printed
  obtain ⟨printed₁, hc⟩ := h width markup (more.map .line ++ rest) printed
  obtain ⟨printed₂, hf⟩ := hf width markup rest printed₁
  refine ⟨printed₂, ?_⟩
  rw [List.map_append, List.append_assoc, bind_run, hc]
  exact hf

theorem Comes.first {f : α → Talk β} (h : Comes c [] a) (hf : Comes (f a) lines b) :
    Comes (c >>= f) lines b := h.bind hf

theorem Comes.takes {line : String} (h : Comes c [line] a) (fs : Files) (width : Nat)
    (markup : Markup) (rest : List Answer) (printed : String) :
    ∃ printed', Act.talk c ⟨fs, ⟨width, .line line :: rest, printed, markup⟩⟩ =
      (.ok a, ⟨fs, ⟨width, rest, printed', markup⟩⟩) := by
  obtain ⟨printed', hrun⟩ := h width markup rest printed
  exact ⟨printed', Act.talk_run hrun fs⟩

theorem Comes.passes (h : Comes c [] a) (fs : Files) (width : Nat) (markup : Markup)
    (rest : List Answer) (printed : String) :
    ∃ printed', Act.talk c ⟨fs, ⟨width, rest, printed, markup⟩⟩ =
      (.ok a, ⟨fs, ⟨width, rest, printed', markup⟩⟩) := by
  obtain ⟨printed', hrun⟩ := h width markup rest printed
  exact ⟨printed', Act.talk_run hrun fs⟩

/-- What every console can read is printed. -/
theorem comes_line {message : String} (h : ∀ markup : Markup, markup.Reads message) :
    Comes (put fun markup width => Console.line markup width message) [] () := by
  intro width markup rest printed
  obtain ⟨cs, hread⟩ := h markup
  simp only [List.map_nil, List.nil_append, put_eq, Console.line, hread, Except.map]
  exact ⟨_, rfl⟩

theorem comes_say {message : String} (h : '[' ∉ message.toList) : Comes (say message) [] () :=
  comes_line fun markup => markup.reads_plain h

theorem comes_tell {tone : Tone} {message : String} (h : '[' ∉ message.toList) :
    Comes (tell tone message) [] () :=
  comes_line fun markup => markup.reads_style tone.style_mem h

theorem comes_forIn (xs : List α) {step : α → PUnit → Talk (ForInStep PUnit)}
    (h : ∀ x ∈ xs, Comes (step x ⟨⟩) [] (.yield ⟨⟩)) : Comes (forIn xs PUnit.unit step) [] ⟨⟩ := by
  induction xs with
  | nil => exact comes_pure _
  | cons x xs ih =>
    rw [List.forIn_cons]
    exact (h x (by simp)).first (ih fun y hy => h y (List.mem_cons_of_mem _ hy))

end Talk

namespace Prompt
open Talk Console Text

variable {α : Type} {question message answer : String} {judge : String → Verdict α} {a : α}
  {choices : List String}

theorem comes_ask (h : judge (stripped answer) = .accept a) :
    Comes (ask question judge) [answer] a := by
  intro width markup rest printed
  refine ⟨printed ++ Console.question width question, ?_⟩
  unfold ask
  simp only [List.map_cons, List.map_nil, List.singleton_append, askAll, h]

/-- What is typed on a line and read off it again. -/
structure Typed (s : String) : Prop where
  nonempty : s ≠ ""
  stripped : stripped s = s

theorem comes_text {default : String} {check : Check} (h : Typed answer) (hcheck : check answer = none) :
    Comes (text message default check) [answer] answer := by
  refine comes_ask ?_
  rw [h.stripped, textVerdict, if_neg h.nonempty, hcheck]

theorem no_bracket_in_number (n : Nat) : '[' ∉ Nat.toDigits 10 n := fun hmem =>
  absurd (Nat.isDigit_of_mem_toDigits (by decide) (by decide) hmem) (by decide)

theorem comes_present {mark : String → String} (hmessage : '[' ∉ message.toList)
    (hchoices : ∀ c ∈ choices, '[' ∉ c.toList) (hmark : ∀ c, '[' ∉ (mark c).toList) :
    Comes (present message choices mark) [] () := by
  have hheader : Comes (say ("\n" ++ styled "cyan" message)) [] () := comes_line fun markup =>
    markup.reads_styled Tone.info.style_mem (by decide) (by decide) hmessage
  have hlines : ∀ x ∈ choices.zipIdx 1,
      Comes (say ("  " ++ toString x.2 ++ ". " ++ x.1 ++ mark x.1)) [] () := by
    intro x hx
    refine comes_say ?_
    have hchoice := hchoices x.1 (List.fst_mem_of_mem_zipIdx hx)
    simp [hchoice, no_bracket_in_number, hmark]
  unfold present
  refine hheader.first (Comes.first (a := PUnit.unit) ?_ (comes_pure ()))
  exact comes_forIn (choices.zipIdx 1) fun x hx => (hlines x hx).first (comes_pure _)

theorem select_eq (h : choices ≠ []) (message : String) (default : Option String) :
    select message choices default =
      present message choices (fun c => if some c = default then " (default)" else "") >>= fun _ =>
        ask ("Select (1-" ++ toString choices.length ++ "): ") (selectVerdict choices default) := by
  have hempty : choices.isEmpty = false := by simpa using h
  unfold select
  simp only [hempty, Bool.false_eq_true, if_false]

theorem multiselect_eq (h : choices ≠ []) (message : String) :
    multiselect message choices =
      present message choices (fun _ => "") >>= fun _ =>
        ask "Select (comma-separated numbers, empty for none): " (multiselectVerdict choices) := by
  have hempty : choices.isEmpty = false := by simpa using h
  unfold multiselect
  simp only [hempty, Bool.false_eq_true, if_false]

theorem comes_select {default : Option String} (hmessage : '[' ∉ message.toList)
    (hchoices : ∀ c ∈ choices, '[' ∉ c.toList) (hanswer : answer ∈ choices) (htyped : Typed answer) :
    Comes (select message choices default) [answer] answer := by
  have hverdict : selectVerdict choices default (stripped answer) = .accept answer := by
    have hchoice : choice? choices answer = .ok (some answer) := by
      rw [choice?, if_pos (List.contains_iff_mem.2 hanswer)]
    rw [htyped.stripped]
    unfold selectVerdict
    split
    · exact absurd rfl htyped.nonempty
    · rw [hchoice]
  have hpresent : Comes (present message choices fun c => if some c = default then " (default)" else "")
      [] () := by
    refine comes_present hmessage hchoices fun c => ?_
    split <;> decide
  rw [select_eq (List.ne_nil_of_mem hanswer)]
  exact hpresent.first (comes_ask hverdict)

/-! ### Several choices on a line -/

theorem strip_of_no_blank {cs : List Char} (h : ∀ c ∈ cs, isBlank c = false) : strip cs = cs := by
  have hdrop {ds : List Char} (hds : ∀ c ∈ ds, isBlank c = false) : ds.dropWhile isBlank = ds := by
    cases ds with
    | nil => rfl
    | cons d ds => rw [List.dropWhile_cons_of_neg (by simp [hds d (by simp)])]
  unfold strip stripChars dropEndWhile
  rw [hdrop h, hdrop fun c hc => h c (List.mem_reverse.1 hc), List.reverse_reverse]

/-- Names that can stand between commas. -/
structure Listable (names : List String) : Prop where
  nonempty : ∀ n ∈ names, n ≠ ""
  no_blank : ∀ n ∈ names, ∀ c ∈ n.toList, isBlank c = false
  no_comma : ∀ n ∈ names, ',' ∉ n.toList

variable {names : List String}

theorem stripped_intercalate (h : Listable names) :
    stripped (",".intercalate names) = ",".intercalate names := by
  have hchars : ∀ c ∈ (",".intercalate names).toList, isBlank c = false := by
    intro c hc
    rw [String.toList_intercalate] at hc
    rcases of_mem_intercalate hc with hc | ⟨piece, hpiece, hc⟩
    · rw [List.mem_singleton.1 hc]
      decide
    · obtain ⟨n, hn, rfl⟩ := List.mem_map.1 hpiece
      exact h.no_blank n hn c hc
  rw [stripped, strip_of_no_blank hchars, String.ofList_toList]

theorem itemsOf_intercalate (h : Listable names) : itemsOf (",".intercalate names) = names := by
  by_cases hnil : names = []
  · subst hnil
    rfl
  have hsplit : (",".intercalate names).toList.splitOn ',' = names.map String.toList := by
    rw [String.toList_intercalate]
    refine List.splitOn_intercalate ',' ?_ (by simpa using hnil)
    intro piece hpiece
    obtain ⟨n, hn, rfl⟩ := List.mem_map.1 hpiece
    exact h.no_comma n hn
  have hitems : (names.map String.toList).map (fun cs => String.ofList (strip cs)) = names := by
    rw [List.map_map]
    refine (List.map_congr_left fun n hn => ?_).trans (List.map_id names)
    simp [strip_of_no_blank (h.no_blank n hn)]
  rw [itemsOf, hsplit, hitems, List.filter_eq_self]
  exact fun n hn => by simpa using h.nonempty n hn

theorem pick_eq_ok (h : ∀ n ∈ names, n ∈ choices) : pick choices names = .ok (names, []) := by
  induction names with
  | nil => rfl
  | cons n names ih =>
    have hchoice : choice? choices n = .ok (some n) := by
      rw [choice?, if_pos (List.contains_iff_mem.2 (h n (by simp)))]
    rw [pick, hchoice, ih fun m hm => h m (List.mem_cons_of_mem _ hm)]
    rfl

/-- A question for several choices that is given their names on one line takes the line, unless
there is nothing to choose from. -/
theorem multiselect_line (hmessage : '[' ∉ message.toList) (hchoices : ∀ c ∈ choices, '[' ∉ c.toList)
    (hnames : ∀ n ∈ names, n ∈ choices) (h : Listable names) (width : Nat) (printed : String)
    (markup : Markup) :
    ∃ t, multiselect message choices ⟨width, [.line (",".intercalate names)], printed, markup⟩ =
      (.ok (choices.filter names.contains), t) ∧ t.width = width ∧ t.markup = markup := by
  by_cases hne : choices = []
  · subst hne
    exact ⟨_, rfl, rfl, rfl⟩
  · have hverdict : multiselectVerdict choices (stripped (",".intercalate names)) =
        .accept (choices.filter names.contains) := by
      rw [stripped_intercalate h, multiselectVerdict, itemsOf_intercalate h, pick_eq_ok hnames]
    have hpresent : Comes (present message choices fun _ => "") [] () :=
      comes_present hmessage hchoices fun _ => by decide
    have hasked : Comes (multiselect message choices) [",".intercalate names]
        (choices.filter names.contains) := by
      rw [multiselect_eq hne]
      exact hpresent.first (comes_ask hverdict)
    obtain ⟨printed', hrun⟩ := hasked width markup [] printed
    exact ⟨_, hrun, rfl, rfl⟩

end Prompt
end Scaffold
