import Scaffold.Prompt

set_option autoImplicit false

/-!
# Answers to prompts

A question that is answered takes the first line that will do. A folder is replaced only on an
answer that says so.
-/
namespace Scaffold.Prompt

variable {α : Type} {judge : String → Verdict α} {answers left : List Answer} {a : α}

/-- An answer was taken from a line, after others that were turned down; what comes after it is
still to come. -/
def Took (judge : String → Verdict α) (answers : List Answer) (a : α) (left : List Answer) : Prop :=
  ∃ (turned : List String) (line : String),
    answers = turned.map Answer.line ++ Answer.line line :: left ∧
      (∀ x ∈ turned, ∃ complaint, judge (Text.stripped x) = .reject complaint) ∧
      judge (Text.stripped line) = .accept a

theorem askAll_spec {markup : Console.Markup} {width : Nat} {question printed printed' : String}
    {res : Except Failure α}
    (h : askAll markup width question judge answers printed = (res, left, printed')) :
    (∃ more, printed' = printed ++ Console.question width question ++ more) ∧
      ∀ a, res = .ok a → Took judge answers a left := by
  induction answers generalizing printed with
  | nil =>
    unfold askAll at h
    cases h
    exact ⟨⟨"", by simp⟩, by simp⟩
  | cons first rest ih =>
    unfold askAll at h
    cases first with
    | interrupt =>
      cases h
      exact ⟨⟨"", by simp⟩, by simp⟩
    | line text =>
      cases hjudge : judge (Text.stripped text) with
      | accept b =>
        simp only [hjudge] at h
        cases h
        refine ⟨⟨"", by simp⟩, fun a ha => ?_⟩
        cases ha
        exact ⟨[], text, rfl, by simp, hjudge⟩
      | fail f =>
        simp only [hjudge] at h
        cases h
        exact ⟨⟨"", by simp⟩, by simp⟩
      | reject complaint =>
        simp only [hjudge] at h
        split at h
        · cases h
          exact ⟨⟨"", by simp⟩, by simp⟩
        · rename_i told _
          obtain ⟨⟨more, rfl⟩, htook⟩ := ih h
          refine ⟨⟨told ++ Console.question width question ++ more, by simp [String.append_assoc]⟩,
            fun a ha => ?_⟩
          obtain ⟨turned, line, rfl, hturned, hline⟩ := htook a ha
          refine ⟨text :: turned, line, rfl, fun x hx => ?_, hline⟩
          rcases List.mem_cons.1 hx with rfl | hx
          · exact ⟨complaint, hjudge⟩
          · exact hturned x hx

section
variable {question : String} {t t' : Terminal}

theorem ask_spec {res : Except Failure α} (h : ask question judge t = (res, t')) :
    (∃ more, t'.printed = t.printed ++ Console.question t.width question ++ more) ∧
      ∀ a, res = .ok a → Took judge t.answers a t'.answers := by
  unfold ask at h
  rcases hall : askAll t.markup t.width question judge t.answers t.printed with ⟨res, left, printed⟩
  rw [hall] at h
  cases h
  exact askAll_spec hall

theorem ask_shortens (h : ask question judge t = (.ok a, t')) :
    t'.answers.length < t.answers.length := by
  obtain ⟨turned, line, hanswers, -, -⟩ := (ask_spec h).2 a rfl
  rw [hanswers]
  simp
  omega

end

/-- A question was printed, and a line that comes to one of the words was its answer, after lines
that come to none of those that answer it. -/
def Replied (question : String) (words : List String) (t t' : Terminal) : Prop :=
  (∃ more, t'.printed = t.printed ++ Console.question t.width question ++ more) ∧
    ∃ (turned : List String) (line : String),
      t.answers = turned.map Answer.line ++ Answer.line line :: t'.answers ∧
        (∀ x ∈ turned, Text.lowered (Text.stripped x) ∉ ["", "y", "yes", "n", "no"]) ∧
        Text.lowered (Text.stripped line) ∈ words

theorem confirmVerdict_reject {default : Bool} {answer complaint : String}
    (h : confirmVerdict default answer = .reject complaint) :
    Text.lowered answer ∉ ["", "y", "yes", "n", "no"] := by
  unfold confirmVerdict at h
  simp only at h
  split at h
  · cases h
  · rename_i hblank
    split at h
    · cases h
    · rename_i hyes
      split at h
      · cases h
      · rename_i hno
        simp_all

def words (agreed : Bool) : List String := if agreed then ["y", "yes"] else ["", "n", "no"]

theorem confirmVerdict_accept {answer : String} {agreed : Bool}
    (h : confirmVerdict false answer = .accept agreed) :
    Text.lowered answer ∈ words agreed := by
  unfold confirmVerdict at h
  simp only at h
  split at h
  · rename_i hblank
    cases h
    simp [words, hblank]
  · split at h
    · rename_i hyes
      cases h
      simpa [words] using hyes
    · split at h
      · rename_i hno
        cases h
        have hword : Text.lowered answer = "n" ∨ Text.lowered answer = "no" := by simpa using hno
        simp [words, hword]
      · cases h

theorem confirm_replied {message : String} {t t' : Terminal} {agreed : Bool}
    (h : confirm message false t = (.ok agreed, t')) :
    Replied (message ++ " [y/N] ") (words agreed) t t' := by
  have hask : ask (message ++ " [y/N] ") (confirmVerdict false) t = (.ok agreed, t') := h
  obtain ⟨hprinted, htook⟩ := ask_spec hask
  obtain ⟨turned, line, hanswers, hturned, hline⟩ := htook agreed rfl
  refine ⟨hprinted, turned, line, hanswers, fun x hx => ?_, confirmVerdict_accept hline⟩
  obtain ⟨complaint, hx⟩ := hturned x hx
  exact confirmVerdict_reject hx

end Scaffold.Prompt
