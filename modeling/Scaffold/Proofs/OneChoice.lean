import Scaffold.Proofs.Settling

set_option autoImplicit false

/-!
# Questions for one choice

A line stands for the default if it is blank and there is one, else for the choice that is called
so, else for the choice at the place that it numbers. A question for one choice takes the first line
that stands for anything.
-/
namespace Scaffold.Prompt
open Text

variable {choices : List String} {default : Option String}
  {message item line c r complaint : String} {t t' : Terminal}

def Numbers (choices : List String) (item : String) : Prop :=
  ∃ n, numeralValue? item.toList = some n ∧ 1 ≤ n ∧ n ≤ choices.length

theorem names_of_numbers (hother : item ∉ choices) (h : Numbers choices item) :
    ∃ c, Names choices item c := by
  obtain ⟨n, hnumeral, hpos, hle⟩ := h
  obtain ⟨place, rfl⟩ : ∃ place, n = place + 1 := ⟨n - 1, by omega⟩
  exact ⟨choices[place], .number hother hnumeral (List.getElem?_eq_getElem hle)⟩

/-- The readings of a line never compete: each but the first is of lines that the ones before it
leave. -/
theorem takes_iff : Takes choices default line r ↔
    if stripped line = "" ∧ default ≠ none then default = some r
    else if stripped line ∈ choices then r = stripped line
    else ∃ n, numeralValue? (stripped line).toList = some (n + 1) ∧ choices[n]? = some r := by
  by_cases hdefault : stripped line = "" ∧ default ≠ none
  · rw [if_pos hdefault]
    refine ⟨?_, fun hgiven => .default hdefault.1 hgiven⟩
    rintro (⟨-, given⟩ | ⟨entered, -⟩)
    · exact given
    · exact absurd (entered hdefault.1) hdefault.2
  · rw [if_neg hdefault]
    have hentered : stripped line = "" → default = none := by simpa using hdefault
    have hnames : Takes choices default line r ↔ Names choices (stripped line) r := by
      refine ⟨?_, .choice hentered⟩
      rintro (⟨blank, given⟩ | ⟨-, names⟩)
      · cases (hentered blank).symm.trans given
      · exact names
    rw [hnames]
    by_cases hmem : stripped line ∈ choices
    · rw [if_pos hmem]
      constructor
      · rintro (there | ⟨other, -, -⟩)
        · rfl
        · exact absurd hmem other
      · rintro rfl
        exact .name hmem
    · rw [if_neg hmem]
      constructor
      · rintro (there | ⟨-, numeral, place⟩)
        · exact absurd there hmem
        · exact ⟨_, numeral, place⟩
      · rintro ⟨n, hnumeral, hplace⟩
        exact .number hmem hnumeral hplace

theorem names_none_of_reject
    (h : selectVerdict choices default (stripped line) = .reject complaint) :
    (stripped line = "" → default = none) ∧ ∀ c, ¬ Names choices (stripped line) c := by
  have hentered : stripped line = "" → default = none := by
    intro hblank
    rw [hblank] at h
    cases default with
    | none => rfl
    | some d => cases h
  rw [selectVerdict_of_entered hentered] at h
  refine ⟨hentered, named?_eq_none.1 ?_⟩
  by_cases hillegible : Illegible choices (stripped line)
  · obtain ⟨message, herror⟩ := choice?_of_illegible hillegible
    rw [herror] at h
    cases h
  · rw [choice?_of_legible hillegible] at h
    cases hnamed : named? choices (stripped line) with
    | none => rfl
    | some c =>
      rw [hnamed] at h
      cases h

/-- To print the choices takes no line, so what is taken is taken by the question. -/
theorem select_took (h : select message choices default t = (.ok r, t')) :
    Took (selectVerdict choices default) t.answers r t'.answers := by
  have hne : choices ≠ [] := by
    rintro rfl
    cases h
  rw [select_eq hne, Talk.bind_run] at h
  have hunread := present_takesNone message choices
    (fun c => if some c = default then " (default)" else "") t
  generalize present _ _ _ t = presented at h hunread
  rcases presented with ⟨_ | _, t₁⟩
  · cases h
  · exact hunread ▸ (ask_spec h).2 r rfl

/-- A question for one choice that is answered turned down the lines before its answer, which were
neither a choice nor the number of one, nor blank where there is a default. What it answers is the
default for a blank line, else the choice that the line is, be it a number also, else the choice at
the place that it numbers. Nothing after this line is taken. -/
theorem select_takes_first (h : select message choices default t = (.ok r, t')) :
    ∃ (turned : List String) (line : String),
      t.answers = turned.map Answer.line ++ Answer.line line :: t'.answers ∧
      (∀ x ∈ turned, stripped x ∉ choices ∧ ¬ Numbers choices (stripped x) ∧
        (stripped x = "" → default = none)) ∧
      if stripped line = "" ∧ default ≠ none then default = some r
      else if stripped line ∈ choices then r = stripped line
      else ∃ n, numeralValue? (stripped line).toList = some (n + 1) ∧ choices[n]? = some r := by
  obtain ⟨turned, line, hanswers, hturned, hline⟩ := select_took h
  refine ⟨turned, line, hanswers, fun x hx => ?_,
    takes_iff.1 ((selectVerdict_judges t.markup choices default).answers_of_accept hline)⟩
  obtain ⟨complaint, hreject⟩ := hturned x hx
  obtain ⟨hentered, hnone⟩ := names_none_of_reject hreject
  have hother : stripped x ∉ choices := fun hmem => hnone _ (.name hmem)
  refine ⟨hother, fun hnumbers => ?_, hentered⟩
  obtain ⟨c, hc⟩ := names_of_numbers hother hnumbers
  exact hnone c hc

/-- Of these choices the first is called by a number. The line that is a blank and this number is
taken for it, and not for the choice at the third place. -/
theorem version_chosen :
    ∃ t', select "Version" ["3", "", "latest"] (some "latest")
        { width := 80, answers := [.line "4", .line " 3", .line "2"] } = (.ok "3", t') ∧
      t'.answers = [.line "2"] ∧ ¬ Numbers ["3", "", "latest"] (stripped "4") := by
  have hevaluated :
      let run := select "Version" ["3", "", "latest"] (some "latest")
        { width := 80, answers := [.line "4", .line " 3", .line "2"] }
      run.1.toOption = some "3" ∧ run.2.answers = [.line "2"] := by
    decide +kernel
  rcases hrun : select "Version" ["3", "", "latest"] (some "latest")
    { width := 80, answers := [.line "4", .line " 3", .line "2"] } with ⟨_ | r, t'⟩
  · rw [hrun] at hevaluated
    cases hevaluated.1
  · rw [hrun] at hevaluated
    have hr : some r = some "3" := hevaluated.1
    have hleft : t'.answers = [.line "2"] := hevaluated.2
    obtain rfl : r = "3" := Option.some.inj hr
    obtain ⟨turned, line, hanswers, hturned, -⟩ := select_takes_first hrun
    have hone : turned.length = 1 := by
      have hlength := congrArg List.length hanswers
      simp [hleft] at hlength
      omega
    obtain ⟨first, rfl⟩ := List.length_eq_one_iff.1 hone
    simp only [hleft, List.map_cons, List.map_nil, List.singleton_append, List.cons.injEq,
      Answer.line.injEq, and_true] at hanswers
    obtain ⟨rfl, rfl⟩ := hanswers
    exact ⟨t', rfl, hleft, (hturned _ (List.mem_singleton_self _)).2.1⟩

end Scaffold.Prompt
