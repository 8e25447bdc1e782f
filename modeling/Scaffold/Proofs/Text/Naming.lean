import Mathlib.Data.List.Basic
import Scaffold.Path
import Scaffold.Proofs.Text.Fields
import Scaffold.Proofs.Text.Letters
import Scaffold.Proofs.Text.Pieces
import Scaffold.Template.Filter

set_option autoImplicit false

/-!
# Package names

The name of a package is the runs of lower-case letters and digits of a text in lower case, joined
by single hyphens. It is made in three steps, and slugs by another way, but both come to the same;
what is made so is left as it is, and a folder can go by it wherever it stands.
-/
namespace Scaffold.Text

variable {c g : Char} {cs lead trail run : List Char} {words : List (List Char)}

/-! ### Runs -/

/-- What is no lower-case letter and no digit stands between the words of a package name. -/
def isPackageGap (c : Char) : Bool := !isPackageChar c

theorem isPackageGap_eq_false : isPackageGap c = false ↔ isPackageChar c = true := by
  simp [isPackageGap]

def runs (cs : List Char) : List (List Char) := (fieldsBy isPackageGap cs).filter (· ≠ [])

def IsRun (w : List Char) : Prop := w ≠ [] ∧ ∀ c ∈ w, isPackageChar c = true

instance (w : List Char) : Decidable (IsRun w) :=
  decidable_of_iff (w ≠ [] ∧ w.all isPackageChar = true) (by simp [IsRun])

theorem of_mem_runs {w : List Char} (h : w ∈ runs cs) : IsRun w := by
  obtain ⟨hfield, hne⟩ := List.mem_filter.1 h
  exact ⟨by simpa using hne, fun c hc => isPackageGap_eq_false.1 (of_mem_fieldsBy hfield c hc)⟩

theorem runs_nil : runs [] = [] := rfl

theorem runs_append (hg : isPackageGap g = true) (front rest : List Char) :
    runs (front ++ g :: rest) = runs front ++ runs rest := by
  rw [runs, fieldsBy_append hg, List.filter_append]
  rfl

theorem runs_cons (hg : isPackageGap g = true) (rest : List Char) : runs (g :: rest) = runs rest :=
  runs_append hg [] rest

theorem IsRun.runs_eq (h : IsRun run) : runs run = [run] := by
  rw [runs, fieldsBy_of_none fun c hc => isPackageGap_eq_false.2 (h.2 c hc)]
  simp [h.1]

theorem runs_lead (h : ∀ c ∈ lead, isPackageGap c = true) (cs : List Char) :
    runs (lead ++ cs) = runs cs := by
  induction lead with
  | nil => rfl
  | cons c lead ih =>
    obtain ⟨hc, hlead⟩ := List.forall_mem_cons.1 h
    rw [List.cons_append, runs_cons hc, ih hlead]

theorem runs_trail (h : ∀ c ∈ trail, isPackageGap c = true) (cs : List Char) :
    runs (cs ++ trail) = runs cs := by
  cases trail with
  | nil => rw [List.append_nil]
  | cons c trail =>
    obtain ⟨hc, htrail⟩ := List.forall_mem_cons.1 h
    have hnone := runs_lead htrail []
    rw [List.append_nil] at hnone
    rw [runs_append hc, hnone, runs_nil, List.append_nil]

theorem runs_intercalate (h : ∀ w ∈ words, IsRun w) : runs (['-'].intercalate words) = words := by
  induction words with
  | nil => rfl
  | cons w words ih =>
    obtain ⟨hw, hwords⟩ := List.forall_mem_cons.1 h
    cases words with
    | nil => rw [List.intercalate_singleton, hw.runs_eq]
    | cons v words =>
      rw [List.intercalate_cons_cons, List.append_assoc, List.singleton_append,
        runs_append (by decide), ih hwords, hw.runs_eq]
      rfl

/-! ### Runs of a text in lower case -/

theorem hyphened_of_gap (h : isPackageGap c = true) : hyphened c = '-' := by
  have hc : isPackageChar c = false := by simpa [isPackageGap] using h
  unfold hyphened
  rw [hc, Bool.false_or]
  split
  · rename_i hhyphen
    exact of_decide_eq_true hhyphen
  · rfl

theorem hyphened_of_char (h : isPackageChar c = true) : hyphened c = c := by
  simp [hyphened, h]

/-- Characters that make a gap make one as hyphens too. -/
theorem fieldsBy_hyphened (cs : List Char) :
    fieldsBy isPackageGap (cs.map hyphened) = fieldsBy isPackageGap cs := by
  induction cs with
  | nil => rfl
  | cons c cs ih =>
    cases hc : isPackageGap c with
    | true =>
      have hhyphen : isPackageGap '-' = true := by decide
      simp [fieldsBy, hyphened_of_gap hc, hhyphen, hc, ih]
    | false =>
      have hstays : hyphened c = c := hyphened_of_char (isPackageGap_eq_false.1 hc)
      simp only [List.map_cons, hstays, fieldsBy, ih]

theorem runs_hyphened (cs : List Char) : runs (cs.map hyphened) = runs cs := by
  rw [runs, fieldsBy_hyphened, runs]

/-- Which form a sigma takes is not seen, so that each letter stands for itself. -/
theorem lowerAfter_hyphened (before cs : List Char) :
    (lowerAfter before cs).map hyphened = cs.flatMap fun c => (lowerLetter c).map hyphened := by
  induction cs generalizing before with
  | nil => rfl
  | cons c cs ih =>
    have hletter : (if c = 'Σ' then [if endsWord before cs then 'ς' else 'σ'] else lowerLetter c).map
        hyphened = (lowerLetter c).map hyphened := by
      by_cases hc : c = 'Σ'
      · subst hc
        cases endsWord before cs <;> decide +kernel
      · rw [if_neg hc]
    rw [lowerAfter, List.map_append, ih, hletter]
    rfl

theorem isPackageGap_of_isBlank (h : isBlank c = true) : isPackageGap c = true :=
  Ranges.forall_of_codes (r := blankRanges) (P := fun c => isPackageGap c = true)
    (by decide +kernel) h

theorem runs_strip (cs : List Char) : runs (strip cs) = runs cs := by
  obtain ⟨lead, trail, hcs, hlead, htrail⟩ := exists_strip isBlank cs
  conv_rhs => rw [hcs]
  rw [runs_lead fun c hc => isPackageGap_of_isBlank (hlead c hc),
    runs_trail fun c hc => isPackageGap_of_isBlank (htrail c hc)]
  rfl

theorem runs_lower_strip (cs : List Char) : runs (lower (strip cs)) = runs (lower cs) := by
  have hblank : ∀ {ds : List Char}, (∀ c ∈ ds, isBlank c = true) →
      ∀ d ∈ ds.flatMap fun c => (lowerLetter c).map hyphened, isPackageGap d = true := by
    intro ds hds d hd
    obtain ⟨c, hc, hd⟩ := List.mem_flatMap.1 hd
    have hgap := isPackageGap_of_isBlank (hds c hc)
    rw [(stays_of_isBlank (hds c hc)).2, List.map_singleton, hyphened_of_gap hgap,
      List.mem_singleton] at hd
    subst hd
    decide
  have hletters : ∀ ds, runs (lower ds) = runs (ds.flatMap fun c => (lowerLetter c).map hyphened) :=
    fun ds => by rw [← runs_hyphened, lower, lowerAfter_hyphened]
  obtain ⟨lead, trail, hcs, hlead, htrail⟩ := exists_strip isBlank cs
  rw [hletters, hletters]
  conv_rhs => rw [hcs]
  rw [List.flatMap_append, List.flatMap_append, runs_lead (hblank hlead),
    runs_trail (hblank htrail)]
  rfl

/-! ### Hyphens between runs -/

theorem hyphened_eq_hyphen : decide (hyphened c = '-') = isPackageGap c := by
  cases hc : isPackageGap c with
  | true =>
    rw [hyphened_of_gap hc]
    rfl
  | false =>
    have hchar := isPackageGap_eq_false.1 hc
    have hne : c ≠ '-' := by
      rintro rfl
      exact absurd hchar (by decide)
    simp [hyphened_of_char hchar, hne]

/-- Where hyphens stand for all gaps, to collapse them is to replace each gap by one. -/
theorem squeeze_hyphened (cs : List Char) :
    squeeze (· = '-') '-' (cs.map hyphened) = squeeze isPackageGap '-' cs := by
  induction cs with
  | nil => rfl
  | cons c cs ih =>
    cases hc : isPackageGap c with
    | false =>
      have hstays : hyphened c = c := hyphened_of_char (isPackageGap_eq_false.1 hc)
      rw [List.map_cons, squeeze_cons_of_not (hyphened_eq_hyphen.trans hc), ih, hstays,
        squeeze_cons_of_not hc]
    | true =>
      have hmark := hyphened_eq_hyphen.trans hc
      cases cs with
      | nil => rw [List.map_singleton, squeeze_last hmark, squeeze_last hc]
      | cons d cs =>
        rw [List.map_cons, List.map_cons] at *
        cases hd : isPackageGap d with
        | false =>
          rw [squeeze_end_of_gap hmark (hyphened_eq_hyphen.trans hd), ih, squeeze_end_of_gap hc hd]
        | true =>
          rw [squeeze_inside_gap hmark (hyphened_eq_hyphen.trans hd), ih, squeeze_inside_gap hc hd]

theorem IsRun.squeeze_after (h : IsRun run) (hg : isPackageGap g = true) (rest : List Char) :
    squeeze isPackageGap '-' (g :: (run ++ rest)) =
      '-' :: (run ++ squeeze isPackageGap '-' rest) := by
  obtain ⟨hne, hchars⟩ := h
  have hinside : ∀ c ∈ run, isPackageGap c = false := fun c hc =>
    isPackageGap_eq_false.2 (hchars c hc)
  obtain ⟨c, more, rfl⟩ := List.exists_cons_of_ne_nil hne
  rw [List.cons_append, squeeze_end_of_gap hg (hinside c (by simp)), ← List.cons_append,
    squeeze_append_of_not hinside]

/-- Behind a gap each run comes after one hyphen, and at the end there may be another one. The run
that has been begun is carried along. -/
theorem squeeze_after_gap (hg : isPackageGap g = true) (run : List Char)
    (hrun : ∀ c ∈ run, isPackageChar c = true) (rest : List Char) :
    ∃ trail, (∀ c ∈ trail, c = '-') ∧
      squeeze isPackageGap '-' (g :: (run ++ rest)) =
        (runs (run ++ rest)).flatMap ('-' :: ·) ++ trail := by
  induction rest generalizing g run with
  | nil =>
    rw [List.append_nil]
    by_cases hne : run = []
    · subst hne
      exact ⟨['-'], by simp, squeeze_last hg⟩
    · have hbegun : IsRun run := ⟨hne, hrun⟩
      have hsqueeze := hbegun.squeeze_after hg []
      rw [List.append_nil] at hsqueeze
      refine ⟨[], by simp, ?_⟩
      rw [hsqueeze, hbegun.runs_eq]
      simp [squeeze]
  | cons c rest ih =>
    cases hc : isPackageGap c with
    | true =>
      obtain ⟨trail, htrail, hrest⟩ := ih hc [] (by simp)
      rw [List.nil_append] at hrest
      refine ⟨trail, htrail, ?_⟩
      by_cases hne : run = []
      · rw [hne, List.nil_append, squeeze_inside_gap hg hc, hrest, runs_cons hc]
      · have hbegun : IsRun run := ⟨hne, hrun⟩
        rw [hbegun.squeeze_after hg, hrest, runs_append hc, hbegun.runs_eq]
        simp
    | false =>
      have hmore : ∀ d ∈ run ++ [c], isPackageChar d = true := by
        intro d hd
        rcases List.mem_append.1 hd with hd | hd
        · exact hrun d hd
        · exact List.mem_singleton.1 hd ▸ isPackageGap_eq_false.1 hc
      have hlonger := ih hg (run ++ [c]) hmore
      rwa [List.append_assoc, List.singleton_append] at hlonger

theorem intercalate_eq_append (sep : Char) (w : List Char) (words : List (List Char)) :
    [sep].intercalate (w :: words) = w ++ words.flatMap (sep :: ·) := by
  induction words generalizing w with
  | nil => simp
  | cons v words ih =>
    rw [List.intercalate_cons_cons, ih, List.flatMap_cons]
    simp

theorem dropEndWhile_words {w : List Char} (hw : IsRun w) (h : ∀ v ∈ words, IsRun v) :
    dropEndWhile (· = '-') (w ++ words.flatMap ('-' :: ·)) = w ++ words.flatMap ('-' :: ·) := by
  have hend : ∀ (front : List Char) {v : List Char}, IsRun v →
      dropEndWhile (· = '-') (front ++ v) = front ++ v := by
    intro front v hv
    obtain ⟨init, c, rfl⟩ := (List.eq_nil_or_concat' v).resolve_left hv.1
    have hc : decide (c = '-') = false := by
      rw [decide_eq_false_iff_not]
      rintro rfl
      exact absurd (hv.2 '-' (by simp)) (by decide)
    rw [← List.append_assoc, dropEndWhile_concat hc]
  rcases List.eq_nil_or_concat' words with rfl | ⟨init, v, rfl⟩
  · simpa using hend [] hw
  · have hv : IsRun v := h v (by simp)
    rw [List.flatMap_append, List.flatMap_singleton, ← List.append_assoc, List.append_cons,
      hend _ hv]

theorem stripChars_squeeze (cs : List Char) :
    stripChars (· = '-') (squeeze isPackageGap '-' cs) = ['-'].intercalate (runs cs) := by
  have hhyphen : isPackageGap '-' = true := by decide
  -- a hyphen more in front is stripped off with the others
  have hfront : (squeeze isPackageGap '-' cs).dropWhile (· = '-') =
      (squeeze isPackageGap '-' ('-' :: cs)).dropWhile (· = '-') := by
    cases cs with
    | nil => rfl
    | cons c cs =>
      cases hc : isPackageGap c with
      | false => rw [squeeze_end_of_gap hhyphen hc, List.dropWhile_cons_of_pos (by simp)]
      | true => rw [squeeze_inside_gap hhyphen hc]
  obtain ⟨trail, htrail, hsqueeze⟩ := squeeze_after_gap hhyphen [] (by simp) cs
  rw [List.nil_append] at hsqueeze
  have hhyphens : ∀ c ∈ trail, decide (c = '-') = true := fun c hc => by simp [htrail c hc]
  rw [stripChars, hfront, hsqueeze]
  cases hruns : runs cs with
  | nil =>
    rw [List.flatMap_nil, List.nil_append, List.dropWhile_eq_nil_iff.2 hhyphens]
    rfl
  | cons w words =>
    have hwords : ∀ v ∈ w :: words, IsRun v := fun v hv => of_mem_runs (hruns ▸ hv)
    obtain ⟨hw, hothers⟩ := List.forall_mem_cons.1 hwords
    obtain ⟨c, more, rfl⟩ := List.exists_cons_of_ne_nil hw.1
    have hc : c ≠ '-' := by
      rintro rfl
      exact absurd (hw.2 '-' (by simp)) (by decide)
    rw [List.flatMap_cons, List.cons_append, List.cons_append, List.dropWhile_cons_of_pos (by simp),
      List.cons_append, List.cons_append, List.dropWhile_cons_of_neg (by simpa using hc),
      ← List.cons_append, ← List.cons_append, dropEndWhile_append hhyphens,
      dropEndWhile_words hw hothers, intercalate_eq_append]

/-! ### The two ways to a name -/

theorem packageChars_eq (cs : List Char) :
    packageChars cs = ['-'].intercalate (runs (lower cs)) := by
  rw [packageChars, squeeze_hyphened, stripChars_squeeze, runs_lower_strip]

theorem slugChars_eq (cs : List Char) : slugChars cs = ['-'].intercalate (runs (lower cs)) := by
  have hsqueeze := stripChars_squeeze (strip (lower cs))
  rw [runs_strip] at hsqueeze
  exact hsqueeze

theorem slug_eq_packageName (s : String) : slug s = packageName s := by
  rw [slug, packageName, slugChars_eq, packageChars_eq]

theorem of_mem_packageChars (h : c ∈ packageChars cs) : c = '-' ∨ isPackageChar c = true := by
  rw [packageChars_eq] at h
  rcases of_mem_intercalate h with hc | ⟨w, hw, hc⟩
  · exact .inl (List.mem_singleton.1 hc)
  · exact .inr ((of_mem_runs hw).2 c hc)

theorem packageChars_packageChars (cs : List Char) :
    packageChars (packageChars cs) = packageChars cs := by
  have hstays : ∀ c ∈ packageChars cs, Stays c := by
    intro c hc
    rcases of_mem_packageChars hc with rfl | hchar
    · decide +kernel
    · exact stays_of_isPackageChar hchar
  rw [packageChars_eq (packageChars cs), lower_of_stays hstays]
  conv_lhs => rw [packageChars_eq, runs_intercalate fun _ => of_mem_runs]
  rw [packageChars_eq]

theorem packageName_isPlain {s : String} (h : packageName s ≠ "") :
    Path.IsPlain (packageName s) ∧ '\x00' ∉ (packageName s).toList := by
  have hother : ∀ c, c ≠ '-' → isPackageChar c = false → c ∉ (packageName s).toList := by
    intro c hmark hc hmem
    rw [packageName, String.toList_ofList] at hmem
    rcases of_mem_packageChars hmem with rfl | hpackage
    · exact hmark rfl
    · rw [hc] at hpackage
      cases hpackage
  have hdot : '.' ∉ (packageName s).toList := hother '.' (by decide) (by decide)
  refine ⟨⟨h, hother '/' (by decide) (by decide), ?_, ?_⟩, hother '\x00' (by decide) (by decide)⟩
  · exact fun heq => hdot (by rw [heq]; decide)
  · exact fun heq => hdot (by rw [heq]; decide)

/-- The name of a package is empty, or words of lower-case letters and digits joined by single
hyphens, which a folder can go by. A name that is one already stays so, and the filter for slugs
comes to the same. -/
theorem packageName_spelling (s : String) :
    (packageName s = "" ∨
      (∃ words : List String, words ≠ [] ∧
        (∀ w ∈ words, w ≠ "" ∧ ∀ c ∈ w.toList, 'a' ≤ c ∧ c ≤ 'z' ∨ '0' ≤ c ∧ c ≤ '9') ∧
        packageName s = "-".intercalate words) ∧ Path.IsPlain (packageName s)) ∧
    packageName (packageName s) = packageName s ∧
    ∃ f, Template.Filter.ofName? "slugify" = some f ∧
      f.apply (.text s) {} = .ok (.text (packageName s)) := by
  refine ⟨?_, ?_, .slugify, rfl, ?_⟩
  · by_cases hempty : packageName s = ""
    · exact .inl hempty
    · refine .inr ⟨⟨(runs (lower s.toList)).map String.ofList, ?_, fun w hw => ?_, ?_⟩,
        (packageName_isPlain hempty).1⟩
      · intro hnil
        rw [List.map_eq_nil_iff] at hnil
        exact hempty (by rw [packageName, packageChars_eq, hnil]; rfl)
      · obtain ⟨run, hrun, rfl⟩ := List.mem_map.1 hw
        obtain ⟨hne, hchars⟩ := of_mem_runs hrun
        refine ⟨by simpa using hne, fun c hc => ?_⟩
        rw [String.toList_ofList] at hc
        simpa [isPackageChar, isLowerAscii, isDigitAscii] using hchars c hc
      · rw [packageName, packageChars_eq]
        apply String.toList_inj.1
        rw [String.toList_ofList, String.toList_intercalate, List.map_map]
        simp [Function.comp_def]
  · rw [packageName, packageName, String.toList_ofList, packageChars_packageChars]
  · rw [← slug_eq_packageName]
    rfl

end Scaffold.Text
