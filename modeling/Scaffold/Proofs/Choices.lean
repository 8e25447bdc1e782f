import Scaffold.Proofs.Answers

set_option autoImplicit false

/-!
# Choices by name and by number

An item of an answer names the choice that is called so, be it a numeral, and else the one at the
place that it numbers. A question for several choices takes the first line that is blank or whose
items all name choices, and comes to just those. Some runs of digits write no number: they are not
turned down.
-/
namespace Scaffold

namespace Text
variable {cs : List Char}

theorem isSome_foldl_decimal (cs : List Char) (acc : Option Nat) :
    (cs.foldl (fun acc c => acc.bind fun n => (decimalValue? c).map (10 * n + ·)) acc).isSome = true ↔
      acc.isSome = true ∧ ∀ c ∈ cs, isDecimal c = true := by
  induction cs generalizing acc with
  | nil => simp
  | cons c cs ih =>
    rw [List.foldl_cons, ih, List.forall_mem_cons, ← and_assoc]
    refine and_congr_left fun _ => ?_
    cases acc <;> simp [isDecimal]

/-- Numerals are made of decimal digits of any script. -/
theorem isSome_numeralValue?_iff :
    (numeralValue? cs).isSome = true ↔ cs ≠ [] ∧ ∀ c ∈ cs, isDecimal c = true := by
  cases cs with
  | nil => simp [numeralValue?]
  | cons c cs => simpa [numeralValue?] using isSome_foldl_decimal (c :: cs) (some 0)

end Text

namespace Talk
variable {α β : Type}

def TakesNone (c : Talk α) : Prop := ∀ t, (c t).2.answers = t.answers

theorem takesNone_pure (a : α) : TakesNone (pure a) := fun _ => rfl

theorem takesNone_put (show? : Console.Markup → Nat → Except Console.Unreadable String) :
    TakesNone (put show?) := by
  intro t
  rw [put_eq]
  cases show? t.markup t.width <;> rfl

theorem TakesNone.bind {c : Talk α} {f : α → Talk β} (h : TakesNone c) (hf : ∀ a, TakesNone (f a)) :
    TakesNone (c >>= f) := by
  intro t
  have ht := h t
  rw [bind_run]
  generalize c t = done at ht
  rcases done with ⟨_ | a, t'⟩
  · exact ht
  · exact (hf a t').trans ht

theorem takesNone_forIn (xs : List α) {step : α → PUnit → Talk (ForInStep PUnit)}
    (h : ∀ x u, TakesNone (step x u)) : TakesNone (forIn xs PUnit.unit step) :=
  forIn_closed takesNone_pure TakesNone.bind xs h

end Talk

namespace Prompt
open Text

variable {choices items : List String} {item c answer message : String}

/-! ### Numbers that answers write -/

/-- Digits that write no number: they are too many, or one of them has no decimal place. -/
def Unwritten (answer : String) : Prop :=
  answer ≠ "" ∧ (∀ c ∈ answer.toList, isDigit c = true) ∧
    (Number.digitLimit < answer.toList.length ∨ ∃ c ∈ answer.toList, isDecimal c = false)

theorem number?_of_unwritten (h : Unwritten answer) :
    ∃ message, number? answer = .error (.invalid message) := by
  obtain ⟨hne, hdigits, hwhy⟩ := h
  have hdigits : (answer.toList.isEmpty || !answer.toList.all isDigit) = false := by
    simpa [hne] using hdigits
  unfold number?
  simp only [hdigits, Bool.false_eq_true, if_false]
  split
  · exact ⟨_, rfl⟩
  · rename_i hfits
    have hnone : numeralValue? answer.toList = none := by
      rw [← Option.not_isSome_iff_eq_none, isSome_numeralValue?_iff]
      rintro ⟨-, hdecimal⟩
      rcases hwhy with hlong | ⟨c, hc, hsign⟩
      · exact hfits (by simpa [hlong] using hdecimal)
      · rw [hdecimal c hc] at hsign
        cases hsign
    rw [hnone]
    exact ⟨_, rfl⟩

theorem number?_of_written (h : ¬ Unwritten answer) :
    number? answer = .ok (numeralValue? answer.toList) := by
  unfold number?
  by_cases hdigits : answer.toList ≠ [] ∧ ∀ c ∈ answer.toList, isDigit c = true
  · obtain ⟨hne, hdigits⟩ := hdigits
    obtain ⟨hfits, hdecimal⟩ : answer.toList.length ≤ Number.digitLimit ∧
        ∀ c ∈ answer.toList, isDecimal c = true := by
      unfold Unwritten at h
      push Not at h
      have hwhy := h (by simpa using hne) hdigits
      simpa using hwhy
    have hsome := isSome_numeralValue?_iff.2 ⟨hne, hdecimal⟩
    obtain ⟨n, hn⟩ := Option.isSome_iff_exists.1 hsome
    have hplain : (answer.toList.isEmpty || !answer.toList.all isDigit) = false := by
      simpa using ⟨by simpa using hne, hdigits⟩
    simp [hplain, hn, Nat.not_lt.2 hfits]
  · -- what is not all digits is no numeral either
    have hnone : numeralValue? answer.toList = none := by
      rw [← Option.not_isSome_iff_eq_none, isSome_numeralValue?_iff]
      rintro ⟨hne, hdecimal⟩
      exact hdigits ⟨hne, fun c hc => by simp [isDigit, hdecimal c hc]⟩
    have hother : (answer.toList.isEmpty || !answer.toList.all isDigit) = true := by
      simpa [or_iff_not_imp_left] using hdigits
    simp only [hother, if_true, hnone]

/-! ### Choices that items name -/

inductive Names (choices : List String) : String → String → Prop where
  | name {c : String} (there : c ∈ choices) : Names choices c c
  | number {item c : String} {n : Nat} (other : item ∉ choices)
      (numeral : numeralValue? item.toList = some (n + 1)) (place : choices[n]? = some c) :
      Names choices item c

def named? (choices : List String) (item : String) : Option String :=
  if choices.contains item then some item
  else (numeralValue? item.toList).bind fun n => if n = 0 then none else choices[n - 1]?

theorem named?_eq_some : named? choices item = some c ↔ Names choices item c := by
  unfold named?
  by_cases hitem : item ∈ choices
  · rw [if_pos (List.contains_iff_mem.2 hitem), Option.some.injEq]
    constructor
    · rintro rfl
      exact .name hitem
    · rintro (there | ⟨other, -, -⟩)
      · rfl
      · exact absurd hitem other
  · rw [if_neg (by simpa using hitem)]
    constructor
    · intro h
      obtain ⟨n, hn, hplace⟩ := Option.bind_eq_some_iff.1 h
      cases n with
      | zero => cases hplace
      | succ n => exact .number hitem hn hplace
    · rintro (there | ⟨-, numeral, place⟩)
      · exact absurd there hitem
      · simpa [numeral] using place

instance : Decidable (Names choices item c) := decidable_of_iff _ named?_eq_some

theorem named?_eq_none : named? choices item = none ↔ ∀ c, ¬ Names choices item c := by
  simp only [Option.eq_none_iff_forall_ne_some, ne_eq, named?_eq_some]

theorem Names.mem (h : Names choices item c) : c ∈ choices := by
  rcases h with there | ⟨-, -, place⟩
  · exact there
  · exact List.mem_of_getElem? place

/-- A run of digits that is neither a choice nor a number. -/
def Illegible (choices : List String) (item : String) : Prop := item ∉ choices ∧ Unwritten item

theorem choice?_of_illegible (h : Illegible choices item) :
    ∃ message, choice? choices item = .error (.invalid message) := by
  obtain ⟨hitem, hunwritten⟩ := h
  obtain ⟨message, hnumber⟩ := number?_of_unwritten hunwritten
  refine ⟨message, ?_⟩
  rw [choice?, if_neg (by simpa using hitem), hnumber]
  rfl

theorem choice?_of_legible (h : ¬ Illegible choices item) :
    choice? choices item = .ok (named? choices item) := by
  unfold choice? named?
  by_cases hitem : choices.contains item = true
  · rw [if_pos hitem, if_pos hitem]
  · have hwritten : ¬ Unwritten item := fun hunwritten => h ⟨by simpa using hitem, hunwritten⟩
    rw [if_neg hitem, if_neg hitem, number?_of_written hwritten]
    rfl

/-! ### Several items -/

def unknown (choices items : List String) : List String :=
  items.filter fun item => (named? choices item).isNone

theorem pick_of_legible (h : ∀ item ∈ items, ¬ Illegible choices item) :
    pick choices items = .ok (items.filterMap (named? choices), unknown choices items) := by
  induction items with
  | nil => rfl
  | cons item items ih =>
    obtain ⟨hitem, hitems⟩ := List.forall_mem_cons.1 h
    rw [pick, choice?_of_legible hitem, ih hitems]
    cases hnamed : named? choices item <;> simp [unknown, hnamed] <;> rfl

theorem pick_of_illegible (h : ∃ item ∈ items, Illegible choices item) :
    ∃ message, pick choices items = .error (.invalid message) := by
  induction items with
  | nil => simp at h
  | cons item items ih =>
    by_cases hitem : Illegible choices item
    · obtain ⟨message, herror⟩ := choice?_of_illegible hitem
      exact ⟨message, by rw [pick, herror]; rfl⟩
    · obtain ⟨message, hrest⟩ := ih (by simpa [hitem] using h)
      exact ⟨message, by rw [pick, choice?_of_legible hitem, hrest]; rfl⟩

theorem unknown_eq_nil : unknown choices items = [] ↔ ∀ item ∈ items, ∃ c, Names choices item c := by
  simp only [unknown, List.filter_eq_nil_iff, Bool.not_eq_true, Option.isNone_eq_false_iff,
    Option.isSome_iff_exists, named?_eq_some]

/-- A line that a question for several choices takes: it is blank, or each of its items names a
choice. -/
def Serves (choices : List String) (line : String) : Prop :=
  stripped line = "" ∨ ∀ item ∈ itemsOf (stripped line), ∃ c, Names choices item c

theorem serves_iff {line : String} :
    Serves choices line ↔ unknown choices (itemsOf (stripped line)) = [] := by
  rw [unknown_eq_nil]
  refine ⟨fun h => h.elim (fun hblank => ?_) id, .inr⟩
  have hnone : itemsOf "" = [] := rfl
  rw [hblank, hnone]
  simp

theorem multiselectVerdict_of_legible (h : ∀ item ∈ itemsOf answer, ¬ Illegible choices item) :
    multiselectVerdict choices answer =
      match unknown choices (itemsOf answer) with
      | [] => .accept (choices.filter fun c => ∃ item ∈ itemsOf answer, Names choices item c)
      | items => .reject ("Unknown choice(s): " ++ ", ".intercalate items) := by
  have hfilter : choices.filter ((itemsOf answer).filterMap (named? choices)).contains =
      choices.filter fun c => ∃ item ∈ itemsOf answer, Names choices item c :=
    List.filter_congr fun c _ => by simp [named?_eq_some]
  unfold multiselectVerdict
  rw [pick_of_legible h]
  cases unknown choices (itemsOf answer) with
  | nil => rw [← hfilter]
  | cons item items => rfl

theorem multiselectVerdict_of_illegible (h : ∃ item ∈ itemsOf answer, Illegible choices item) :
    ∃ message, multiselectVerdict choices answer = .fail (.invalid message) := by
  obtain ⟨message, hpick⟩ := pick_of_illegible h
  refine ⟨message, ?_⟩
  rw [multiselectVerdict, hpick]

section
variable {line complaint : String} {picked : List String}

theorem legible_of_verdict (h : ∀ f, multiselectVerdict choices answer ≠ .fail f) :
    ∀ item ∈ itemsOf answer, ¬ Illegible choices item := by
  intro item hitem hillegible
  obtain ⟨message, hfail⟩ := multiselectVerdict_of_illegible ⟨item, hitem, hillegible⟩
  exact h _ hfail

theorem serves_of_accept (h : multiselectVerdict choices (stripped line) = .accept picked) :
    Serves choices line ∧
      picked = choices.filter fun c => ∃ item ∈ itemsOf (stripped line), Names choices item c := by
  have hlegible := legible_of_verdict fun f hf => by rw [h] at hf; cases hf
  rw [multiselectVerdict_of_legible hlegible] at h
  rw [serves_iff]
  cases hunknown : unknown choices (itemsOf (stripped line)) with
  | nil =>
    rw [hunknown] at h
    exact ⟨rfl, (Verdict.accept.inj h).symm⟩
  | cons item items =>
    rw [hunknown] at h
    cases h

theorem not_serves_of_reject (h : multiselectVerdict choices (stripped line) = .reject complaint) :
    ¬ Serves choices line := by
  have hlegible := legible_of_verdict fun f hf => by rw [h] at hf; cases hf
  rw [multiselectVerdict_of_legible hlegible] at h
  rw [serves_iff]
  intro hnone
  rw [hnone] at h
  cases h

end

theorem present_takesNone (message : String) (choices : List String) (mark : String → String) :
    Talk.TakesNone (present message choices mark) :=
  (Talk.takesNone_put _).bind fun _ =>
    (Talk.takesNone_forIn (choices.zipIdx 1) fun _ _ =>
      (Talk.takesNone_put _).bind fun _ => Talk.takesNone_pure _).bind fun _ => Talk.takesNone_pure _

/-- A question for several choices that is answered took the first line that serves, and nothing
after it. The answer is made of the choices that this line names, in their own order; of equal
choices it has all or none. Where there is nothing to choose from, nothing is asked. -/
theorem multiselect_takes {t t' : Terminal} {picked : List String}
    (h : multiselect message choices t = (.ok picked, t')) :
    (choices = [] → picked = [] ∧ t' = t) ∧
    (choices ≠ [] → ∃ (turned : List String) (line : String),
      t.answers = turned.map Answer.line ++ Answer.line line :: t'.answers ∧
      (∀ x ∈ turned, ¬ Serves choices x) ∧ Serves choices line ∧
      picked = choices.filter fun c => ∃ item ∈ itemsOf (stripped line), Names choices item c) := by
  constructor
  · rintro rfl
    cases h
    exact ⟨rfl, rfl⟩
  · intro hne
    rw [multiselect_eq hne, Talk.bind_run] at h
    have hunread := present_takesNone message choices (fun _ => "") t
    generalize present message choices (fun _ => "") t = presented at h hunread
    rcases presented with ⟨_ | _, t₁⟩
    · cases h
    · obtain ⟨turned, line, hanswers, hturned, hline⟩ := (ask_spec h).2 picked rfl
      obtain ⟨hserves, hpicked⟩ := serves_of_accept hline
      refine ⟨turned, line, hunread ▸ hanswers, fun x hx => ?_, hserves, hpicked⟩
      obtain ⟨complaint, hreject⟩ := hturned x hx
      exact not_serves_of_reject hreject

/-- The fourth style is taken by its name and the second by its number, in whatever script; the item
`3` is a style itself and not the third one. -/
theorem styles_chosen :
    ∃ t', multiselect "Styles" ["3", "pug", "sass", "ts"]
        { width := 80, answers := [.line "sass, 5", .line " ts , 3,, ٢ ", .line "1"] } =
          (.ok ["3", "pug", "ts"], t') ∧
      t'.answers = [.line "1"] ∧ ¬ Serves ["3", "pug", "sass", "ts"] "sass, 5" ∧
      Serves ["3", "pug", "sass", "ts"] " ts , 3,, ٢ " := by
  have hevaluated :
      let run := multiselect "Styles" ["3", "pug", "sass", "ts"]
        { width := 80, answers := [.line "sass, 5", .line " ts , 3,, ٢ ", .line "1"] }
      run.1.toOption = some ["3", "pug", "ts"] ∧ run.2.answers = [.line "1"] := by
    decide +kernel
  rcases hrun : multiselect "Styles" ["3", "pug", "sass", "ts"]
    { width := 80, answers := [.line "sass, 5", .line " ts , 3,, ٢ ", .line "1"] } with ⟨_ | picked, t'⟩
  · rw [hrun] at hevaluated
    cases hevaluated.1
  · rw [hrun] at hevaluated
    have hpicked : some picked = some ["3", "pug", "ts"] := hevaluated.1
    have hleft : t'.answers = [.line "1"] := hevaluated.2
    obtain rfl : picked = ["3", "pug", "ts"] := Option.some.inj hpicked
    obtain ⟨turned, line, hanswers, hturned, hserves, -⟩ := (multiselect_takes hrun).2 (by decide)
    have hone : turned.length = 1 := by
      have hlength := congrArg List.length hanswers
      simp [hleft] at hlength
      omega
    obtain ⟨first, rfl⟩ := List.length_eq_one_iff.1 hone
    simp only [hleft, List.map_cons, List.map_nil, List.singleton_append, List.cons.injEq,
      Answer.line.injEq, and_true] at hanswers
    obtain ⟨rfl, rfl⟩ := hanswers
    exact ⟨t', rfl, hleft, hturned _ (List.mem_singleton_self _), hserves⟩

end Prompt
end Scaffold
