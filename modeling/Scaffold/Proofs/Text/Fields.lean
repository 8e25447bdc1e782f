import Mathlib.Data.List.TakeWhile
import Scaffold.Text.Naming

set_option autoImplicit false

/-!
# Texts taken apart by a test

A test on characters takes a text apart into the fields between those that pass it; stripping takes
those that pass off the ends, and squeezing puts one mark in place of each run of them.
-/
namespace Scaffold.Text

variable {p : Char → Bool} {c g mark : Char} {cs front trail : List Char}

/-! ### Fields -/

theorem fieldsBy_ne_nil (p : Char → Bool) (cs : List Char) : fieldsBy p cs ≠ [] := by
  cases cs with
  | nil => simp [fieldsBy]
  | cons c cs =>
    unfold fieldsBy
    split
    · simp
    · split <;> simp

theorem fieldsBy_cons (hc : p c = false) {field : List Char} {fields : List (List Char)}
    (h : fieldsBy p cs = field :: fields) : fieldsBy p (c :: cs) = (c :: field) :: fields := by
  simp [fieldsBy, hc, h]

theorem fieldsBy_append (hg : p g = true) (front rest : List Char) :
    fieldsBy p (front ++ g :: rest) = fieldsBy p front ++ fieldsBy p rest := by
  induction front with
  | nil => simp [fieldsBy, hg]
  | cons c front ih =>
    by_cases hc : p c = true
    · simp [fieldsBy, hc, ih]
    · obtain ⟨field, fields, hfields⟩ := List.exists_cons_of_ne_nil (fieldsBy_ne_nil p front)
      have hc : p c = false := by simpa using hc
      rw [hfields] at ih
      rw [List.cons_append, fieldsBy_cons hc ih, fieldsBy_cons hc hfields]
      rfl

theorem fieldsBy_of_none (h : ∀ c ∈ cs, p c = false) : fieldsBy p cs = [cs] := by
  induction cs with
  | nil => rfl
  | cons c cs ih =>
    obtain ⟨hc, hcs⟩ := List.forall_mem_cons.1 h
    exact fieldsBy_cons hc (ih hcs)

theorem of_mem_fieldsBy {field : List Char} (h : field ∈ fieldsBy p cs) :
    ∀ c ∈ field, p c = false := by
  induction cs generalizing field with
  | nil => simp_all [fieldsBy]
  | cons d cs ih =>
    by_cases hd : p d = true
    · simp only [fieldsBy, hd, if_true, List.mem_cons] at h
      rcases h with rfl | h
      · simp
      · exact ih h
    · obtain ⟨first, fields, hfields⟩ := List.exists_cons_of_ne_nil (fieldsBy_ne_nil p cs)
      have hd : p d = false := by simpa using hd
      rw [fieldsBy_cons hd hfields, List.mem_cons] at h
      rcases h with rfl | h
      · exact List.forall_mem_cons.2 ⟨hd, ih (by simp [hfields])⟩
      · exact ih (by simp [hfields, h])

/-! ### Stripping -/

theorem exists_strip (p : Char → Bool) (cs : List Char) :
    ∃ lead trail, cs = lead ++ (stripChars p cs ++ trail) ∧ (∀ c ∈ lead, p c = true) ∧
      ∀ c ∈ trail, p c = true := by
  have hend : ∀ ds : List Char, ds = dropEndWhile p ds ++ (ds.reverse.takeWhile p).reverse := by
    intro ds
    rw [dropEndWhile, ← List.reverse_append, List.takeWhile_append_dropWhile, List.reverse_reverse]
  refine ⟨cs.takeWhile p, ((cs.dropWhile p).reverse.takeWhile p).reverse, ?_, ?_, ?_⟩
  · rw [stripChars, ← hend, List.takeWhile_append_dropWhile]
  · exact fun c hc => List.mem_takeWhile_imp hc
  · exact fun c hc => List.mem_takeWhile_imp (List.mem_reverse.1 hc)

theorem dropEndWhile_append (h : ∀ c ∈ trail, p c = true) (cs : List Char) :
    dropEndWhile p (cs ++ trail) = dropEndWhile p cs := by
  unfold dropEndWhile
  rw [List.reverse_append, List.dropWhile_append_of_pos fun c hc => h c (List.mem_reverse.1 hc)]

theorem dropEndWhile_concat (hc : p c = false) (cs : List Char) :
    dropEndWhile p (cs ++ [c]) = cs ++ [c] := by
  simp [dropEndWhile, hc]

/-! ### Squeezing -/

theorem squeeze_cons_of_not (hc : p c = false) (cs : List Char) :
    squeeze p mark (c :: cs) = c :: squeeze p mark cs := by
  simp [squeeze, hc]

theorem squeeze_append_of_not (h : ∀ c ∈ front, p c = false) (rest : List Char) :
    squeeze p mark (front ++ rest) = front ++ squeeze p mark rest := by
  induction front with
  | nil => rfl
  | cons c front ih =>
    obtain ⟨hc, hfront⟩ := List.forall_mem_cons.1 h
    rw [List.cons_append, squeeze_cons_of_not hc, ih hfront]
    rfl

theorem squeeze_of_none (h : ∀ c ∈ cs, p c = false) : squeeze p mark cs = cs := by
  have hcs : squeeze p mark (cs ++ []) = cs ++ squeeze p mark [] := squeeze_append_of_not h []
  rwa [List.append_nil, squeeze, List.append_nil] at hcs

theorem squeeze_last (hg : p g = true) : squeeze p mark [g] = [mark] := by
  simp [squeeze, hg]

theorem squeeze_end_of_gap (hg : p g = true) (hc : p c = false) (cs : List Char) :
    squeeze p mark (g :: c :: cs) = mark :: squeeze p mark (c :: cs) := by
  rw [squeeze.eq_def]
  simp [hg, hc]

theorem squeeze_inside_gap (hg : p g = true) (hc : p c = true) (cs : List Char) :
    squeeze p mark (g :: c :: cs) = squeeze p mark (c :: cs) := by
  rw [squeeze.eq_def]
  simp [hg, hc]

end Scaffold.Text
