import Scaffold.Proofs.Text.Naming

set_option autoImplicit false

/-!
# Spellings of a name

The words of a name are found again in each of its spellings. Where capitals begin the words, one
pass over the text finds those that letters follow, save for those that come right behind a word it
has just found; another pass finds the others.
-/
namespace Scaffold.Text

variable {a b C : Char} {cs front rest out word : List Char} {caps words : List (List Char)}

/-! ### Capitals among other characters -/

/-- A pass that leaves a character alone where no capital comes next. -/
def Passing (f : List Char → List Char) : Prop :=
  ∀ (a b : Char) (rest : List Char), isUpperAscii b = false → f (a :: b :: rest) = a :: f (b :: rest)

theorem partWords_passing : Passing partWords := by
  intro a b rest hb
  rw [partWords, if_neg (by simp [hb])]

theorem partCapitals_passing : Passing partCapitals := by
  intro a b rest hb
  rw [partCapitals, if_neg (by simp [hb])]

theorem Passing.run {f : List Char → List Char} (h : Passing f)
    (hfront : ∀ c ∈ front, isUpperAscii c = false) (ha : isUpperAscii a = false)
    (rest : List Char) : f (front ++ a :: rest) = front ++ f (a :: rest) := by
  induction front with
  | nil => rfl
  | cons c front ih =>
    obtain ⟨-, hfront⟩ := List.forall_mem_cons.1 hfront
    rw [List.cons_append, List.cons_append, ← ih hfront]
    cases front with
    | nil => exact h c a rest ha
    | cons d front => exact h c d _ (hfront d (by simp))

theorem Passing.whole {f : List Char → List Char} (h : Passing f) (hnil : f [] = [])
    (hsingle : ∀ a, f [a] = [a]) (hcs : ∀ c ∈ cs, isUpperAscii c = false) : f cs = cs := by
  rcases List.eq_nil_or_concat' cs with rfl | ⟨init, a, rfl⟩
  · exact hnil
  · rw [h.run (fun c hc => hcs c (by simp [hc])) (hcs a (by simp)), hsingle]

theorem partWords_whole (h : ∀ c ∈ cs, isUpperAscii c = false) : partWords cs = cs :=
  partWords_passing.whole (by simp [partWords]) (fun a => by simp [partWords]) h

theorem partCapitals_whole (h : ∀ c ∈ cs, isUpperAscii c = false) : partCapitals cs = cs :=
  partCapitals_passing.whole rfl (fun _ => rfl) h

/-! ### Words with capitals -/

theorem not_upper_of_isPackageChar {c : Char} (h : isPackageChar c = true) :
    isUpperAscii c = false :=
  forall_isPackageChar (P := fun c => isUpperAscii c = false) (by decide +kernel) h

theorem not_lower_of_isUpperAscii (h : isUpperAscii C = true) : isLowerAscii C = false := by
  by_contra hlower
  have hnot := not_upper_of_isPackageChar (c := C) (by simp [isPackageChar, hlower])
  rw [h] at hnot
  cases hnot

/-- A capital with lower-case letters and digits behind it. -/
def IsHump (w : List Char) : Prop := ∃ C rest, w = C :: rest ∧ isUpperAscii C = true ∧ IsRun rest

inductive Parted : List (List Char) → List Char → Prop
  | nil : Parted [] []
  | joined {w out : List Char} {ws : List (List Char)} :
    Parted ws out → Parted (w :: ws) (w ++ out)
  | parted {w out : List Char} {ws : List (List Char)} :
    Parted ws out → Parted (w :: ws) ('_' :: (w ++ out))

theorem Passing.hump {f : List Char → List Char} (h : Passing f) (hrest : IsRun rest)
    (tail : List Char) : f (C :: (rest ++ tail)) = C :: f (rest ++ tail) := by
  obtain ⟨b, more, rfl⟩ := List.exists_cons_of_ne_nil hrest.1
  exact h C b _ (not_upper_of_isPackageChar (hrest.2 b (by simp)))

theorem flatten_humps (h : ∀ w ∈ caps, IsHump w) :
    caps.flatten = [] ∨ ∃ C tail, caps.flatten = C :: tail ∧ isUpperAscii C = true := by
  cases caps with
  | nil => exact .inl rfl
  | cons w caps =>
    obtain ⟨C, rest, rfl, hC, -⟩ := h w (by simp)
    exact .inr ⟨C, _, rfl, hC⟩

/-- The letters at the front of a text end where the next word begins. -/
theorem letters_append (h : ∀ w ∈ caps, IsHump w) (cs : List Char) :
    (cs ++ caps.flatten).takeWhile isLowerAscii = cs.takeWhile isLowerAscii ∧
      (cs ++ caps.flatten).dropWhile isLowerAscii = cs.dropWhile isLowerAscii ++ caps.flatten := by
  rcases flatten_humps h with hnil | ⟨C, tail, hcons, hC⟩
  · simp [hnil]
  · have hlower := not_lower_of_isUpperAscii hC
    rw [hcons]
    induction cs with
    | nil => simp [hlower]
    | cons c cs ih =>
      by_cases hc : isLowerAscii c = true <;> simp [hc, ih]

/-- The first pass puts underscores before some of the words. -/
theorem partWords_parts (h : ∀ w ∈ caps, IsHump w) (hcs : ∀ c ∈ cs, isPackageChar c = true) :
    ∃ out, Parted caps out ∧ partWords (cs ++ caps.flatten) = cs ++ out := by
  induction caps generalizing cs with
  | nil =>
    refine ⟨[], .nil, ?_⟩
    rw [List.flatten_nil, List.append_nil,
      partWords_whole fun c hc => not_upper_of_isPackageChar (hcs c hc)]
  | cons w caps ih =>
    obtain ⟨⟨C, rest, rfl, hC, hrest⟩, hcaps⟩ := List.forall_mem_cons.1 h
    have hjoined : ∃ out, Parted ((C :: rest) :: caps) out ∧
        partWords (C :: (rest ++ caps.flatten)) = out := by
      obtain ⟨out, hout, hparts⟩ := ih hcaps hrest.2
      exact ⟨_, .joined hout, by rw [partWords_passing.hump hrest, hparts]; rfl⟩
    rw [List.flatten_cons, List.cons_append]
    rcases List.eq_nil_or_concat' cs with rfl | ⟨init, a, rfl⟩
    · exact hjoined
    have hinit : ∀ c ∈ init, isUpperAscii c = false := fun c hc =>
      not_upper_of_isPackageChar (hcs c (by simp [hc]))
    have ha := not_upper_of_isPackageChar (hcs a (by simp))
    rw [List.append_assoc, List.singleton_append, partWords_passing.run hinit ha, partWords]
    split
    · -- the word is found, and the letters that follow its capital are spent
      obtain ⟨htake, hdrop⟩ := letters_append hcaps rest
      have hleft : ∀ c ∈ rest.dropWhile isLowerAscii, isPackageChar c = true := fun c hc =>
        hrest.2 c ((List.dropWhile_suffix _).mem hc)
      obtain ⟨out, hout, hparts⟩ := ih hcaps hleft
      refine ⟨_, .parted hout, ?_⟩
      rw [htake, hdrop, hparts, ← List.append_assoc, List.takeWhile_append_dropWhile]
      simp
    · obtain ⟨out, hout, hparts⟩ := hjoined
      exact ⟨out, hout, by rw [hparts]; simp⟩

/-- The second pass puts one before each of the others. -/
theorem partCapitals_parts (h : ∀ w ∈ caps, IsHump w) (hout : Parted caps out) (hcs : IsRun cs) :
    partCapitals (cs ++ out) = cs ++ caps.flatMap ('_' :: ·) := by
  have hcapitals : ∀ {ds : List Char}, IsRun ds → ∀ c ∈ ds, isUpperAscii c = false :=
    fun hds c hc => not_upper_of_isPackageChar (hds.2 c hc)
  induction hout generalizing cs with
  | nil =>
    rw [List.append_nil, partCapitals_whole (hcapitals hcs), List.flatMap_nil, List.append_nil]
  | @joined w out ws hout ih =>
    obtain ⟨⟨C, rest, rfl, hC, hrest⟩, hws⟩ := List.forall_mem_cons.1 h
    obtain ⟨init, a, rfl⟩ := (List.eq_nil_or_concat' cs).resolve_left hcs.1
    have hinit : ∀ c ∈ init, isUpperAscii c = false := fun c hc => hcapitals hcs c (by simp [hc])
    have ha : isPackageChar a = true := hcs.2 a (by simp)
    rw [List.append_assoc, List.singleton_append, List.cons_append,
      partCapitals_passing.run hinit (not_upper_of_isPackageChar ha), partCapitals,
      if_pos (by simp [ha, hC]), ih hws hrest]
    simp
  | @parted w out ws hout ih =>
    obtain ⟨⟨C, rest, rfl, hC, hrest⟩, hws⟩ := List.forall_mem_cons.1 h
    have hmark : ¬ (isPackageChar '_' && isUpperAscii C) = true := by
      simp [show isPackageChar '_' = false by decide]
    rw [partCapitals_passing.run (hcapitals hcs) (by decide), List.cons_append, partCapitals,
      if_neg hmark, partCapitals_passing.hump hrest, ih hws hrest]
    simp

/-- Both passes together put one underscore before each word but the first. -/
theorem parts_of_run (h : ∀ w ∈ caps, IsHump w) (hcs : IsRun cs) :
    partCapitals (partWords (cs ++ caps.flatten)) = cs ++ caps.flatMap ('_' :: ·) := by
  obtain ⟨out, hout, hparts⟩ := partWords_parts h hcs.2
  rw [hparts, partCapitals_parts h hout hcs]

theorem parts_of_hump (h : ∀ w ∈ caps, IsHump w) (hrest : IsRun rest) :
    partCapitals (partWords (C :: (rest ++ caps.flatten))) =
      C :: (rest ++ caps.flatMap ('_' :: ·)) := by
  obtain ⟨out, hout, hparts⟩ := partWords_parts h hrest.2
  rw [partWords_passing.hump hrest, hparts, partCapitals_passing.hump hrest,
    partCapitals_parts h hout hrest]

/-! ### The end of the passes -/

def plainRanges : Ranges := [(48, 57), (65, 90), (95, 95), (97, 122)]

theorem has_plain_of_run (h : IsRun word) : ∀ c ∈ word, plainRanges.has c = true := fun c hc =>
  forall_isPackageChar (P := fun c => plainRanges.has c = true) (by decide +kernel) (h.2 c hc)

theorem has_plain_of_hump (h : IsHump word) : ∀ c ∈ word, plainRanges.has c = true := by
  obtain ⟨C, rest, rfl, hC, hrest⟩ := h
  refine List.forall_mem_cons.2 ⟨?_, has_plain_of_run hrest⟩
  exact Ranges.forall_of_codes (P := fun c => plainRanges.has c = true) (by decide +kernel)
    (isUpperAscii_iff ▸ hC)

theorem lower_squeeze (h : ∀ c ∈ cs, plainRanges.has c = true) :
    lower (squeeze (fun c => c = '-' || isBlank c) '_' cs) = cs.flatMap lowerLetter := by
  have hplain : ∀ c ∈ cs, (c = '-' || isBlank c) = false ∧ c ≠ 'Σ' := fun c hc =>
    Ranges.forall_of_codes (P := fun c => (c = '-' || isBlank c) = false ∧ c ≠ 'Σ')
      (by decide +kernel) (h c hc)
  rw [squeeze_of_none fun c hc => (hplain c hc).1]
  exact lowerAfter_of_no_sigma [] fun c hc => (hplain c hc).2

theorem snakeChars_of_parts (hword : ∀ c ∈ word, plainRanges.has c = true)
    (hcaps : ∀ w ∈ caps, IsHump w)
    (h : partCapitals (partWords cs) = word ++ caps.flatMap ('_' :: ·)) :
    snakeChars cs =
      word.flatMap lowerLetter ++ caps.flatMap fun w => '_' :: w.flatMap lowerLetter := by
  have hmark : lowerLetter '_' = ['_'] := by decide +kernel
  rw [snakeChars, h, lower_squeeze]
  · simp [List.flatMap_append, List.flatMap_assoc, hmark]
  · intro c hc
    rcases List.mem_append.1 hc with hc | hc
    · exact hword c hc
    · obtain ⟨w, hw, hc⟩ := List.mem_flatMap.1 hc
      rcases List.mem_cons.1 hc with rfl | hc
      · decide
      · exact has_plain_of_hump (hcaps w hw) c hc

/-! ### Names made of words -/

/-- A word of a name: a lower-case letter, and behind it more of them or digits. -/
def IsNameWord : List Char → Prop
  | [] => False
  | first :: rest => isLowerAscii first = true ∧ IsRun rest

instance : (w : List Char) → Decidable (IsNameWord w)
  | [] => inferInstanceAs (Decidable False)
  | _ :: _ => inferInstanceAs (Decidable (_ ∧ _))

def IsSeparator (c : Char) : Prop := c = '-' ∨ c = '_'

instance (c : Char) : Decidable (IsSeparator c) := inferInstanceAs (Decidable (_ ∨ _))

def joined (word : List Char) (more : List (Char × List Char)) : List Char :=
  word ++ more.flatMap fun x => x.1 :: x.2

variable {more : List (Char × List Char)}

theorem joined_cons (word : List Char) (x : Char × List Char) (more : List (Char × List Char)) :
    joined word (x :: more) = word ++ x.1 :: joined x.2 more := by
  simp [joined]

theorem IsNameWord.isRun (h : IsNameWord word) : IsRun word := by
  cases word with
  | nil => exact h.elim
  | cons first rest =>
    exact ⟨by simp, List.forall_mem_cons.2 ⟨by simp [isPackageChar, h.1], h.2.2⟩⟩

theorem IsNameWord.flatMap_eq (h : IsNameWord word) : word.flatMap lowerLetter = word :=
  flatMap_of_stays fun c hc => stays_of_isPackageChar (h.isRun.2 c hc)

theorem IsNameWord.capitalize_eq (h : IsNameWord word) :
    ∃ C rest, capitalize word = C :: rest ∧ isUpperAscii C = true ∧ IsRun rest ∧
      lower [C] ++ rest = word ∧ (capitalize word).flatMap lowerLetter = word := by
  cases word with
  | nil => exact h.elim
  | cons first rest =>
    obtain ⟨hfirst, hrest⟩ := h
    have hstays : ∀ c ∈ rest, Stays c := fun c hc => stays_of_isPackageChar (hrest.2 c hc)
    obtain ⟨hupper, htitle, hlower, hsigma⟩ := raised_toUpper hfirst
    have hcapital : capitalize (first :: rest) = first.toUpper :: rest := by
      rw [capitalize, htitle, lowerAfter_of_stays _ hstays]
      rfl
    refine ⟨first.toUpper, rest, hcapital, hupper, hrest, ?_, ?_⟩
    · rw [lower, lowerAfter_of_no_sigma [] (by simpa using hsigma), List.flatMap_singleton, hlower]
      rfl
    · rw [hcapital, List.flatMap_cons, hlower, flatMap_of_stays hstays]
      rfl

theorem IsNameWord.isHump (h : IsNameWord word) : IsHump (capitalize word) := by
  obtain ⟨C, rest, hcapital, hC, hrest, -⟩ := h.capitalize_eq
  exact ⟨C, rest, hcapital, hC, hrest⟩

theorem isHump_capitals (h : ∀ w ∈ words, IsNameWord w) :
    ∀ w ∈ words.map capitalize, IsHump w := by
  intro w hw
  obtain ⟨v, hv, rfl⟩ := List.mem_map.1 hw
  exact (h v hv).isHump

theorem lower_capitals (h : ∀ w ∈ words, IsNameWord w) :
    ((words.map capitalize).flatMap fun w => '_' :: w.flatMap lowerLetter) =
      words.flatMap ('_' :: ·) := by
  rw [List.flatMap_map, List.flatMap_def, List.flatMap_def]
  refine congrArg List.flatten (List.map_congr_left fun w hw => ?_)
  obtain ⟨C, rest, -, -, -, -, hback⟩ := (h w hw).capitalize_eq
  rw [hback]

section
variable (hsep : ∀ x ∈ more, IsSeparator x.1) (h : ∀ w ∈ word :: more.map Prod.snd, IsNameWord w)
include hsep h

theorem fieldsBy_joined : fieldsBy isWordGap (joined word more) = word :: more.map Prod.snd := by
  have hinside : ∀ {w : List Char}, IsNameWord w → fieldsBy isWordGap w = [w] := fun hw =>
    fieldsBy_of_none fun c hc =>
      forall_isPackageChar (P := fun c => isWordGap c = false) (by decide +kernel)
        (hw.isRun.2 c hc)
  induction more generalizing word with
  | nil => simpa [joined] using hinside (h word (by simp))
  | cons x more ih =>
    obtain ⟨hword, hnext⟩ := List.forall_mem_cons.1 h
    obtain ⟨hx, hmore⟩ := List.forall_mem_cons.1 hsep
    have hgap : isWordGap x.1 = true := by
      rcases hx with hx | hx <;> rw [hx] <;> rfl
    rw [joined_cons, fieldsBy_append hgap, hinside hword, ih hmore hnext]
    rfl

theorem pascalChars_joined : pascalChars (joined word more) =
    capitalize word ++ ((more.map Prod.snd).map capitalize).flatten := by
  rw [pascalChars, fieldsBy_joined hsep h]
  rfl

theorem squeeze_joined : squeeze (fun c => c = '-' || isBlank c) '_' (joined word more) =
    word ++ (more.map Prod.snd).flatMap ('_' :: ·) := by
  have hinside : ∀ {w : List Char}, IsNameWord w → ∀ c ∈ w, (c = '-' || isBlank c) = false :=
    fun hw c hc =>
      forall_isPackageChar (P := fun c => (c = '-' || isBlank c) = false) (by decide +kernel)
        (hw.isRun.2 c hc)
  induction more generalizing word with
  | nil => simpa [joined] using squeeze_of_none (hinside (h word (by simp)))
  | cons x more ih =>
    obtain ⟨hword, hnext⟩ := List.forall_mem_cons.1 h
    obtain ⟨hx, hmore⟩ := List.forall_mem_cons.1 hsep
    have hrest := ih hmore hnext
    obtain ⟨c, others, hc⟩ := List.exists_cons_of_ne_nil (hnext x.2 (by simp)).isRun.1
    have hfirst := hinside (hnext x.2 (by simp)) c (by simp [hc])
    have hmark : squeeze (fun c => c = '-' || isBlank c) '_' (x.1 :: joined x.2 more) =
        '_' :: squeeze (fun c => c = '-' || isBlank c) '_' (joined x.2 more) := by
      rcases hx with hx | hx
      · rw [hx, joined, hc]
        exact squeeze_end_of_gap rfl hfirst _
      · rw [hx]
        exact squeeze_cons_of_not (by decide) _
    rw [joined_cons, squeeze_append_of_not (hinside hword), hmark, hrest]
    rfl

theorem no_capital_joined : ∀ c ∈ joined word more, isUpperAscii c = false := by
  intro c hc
  rcases List.mem_append.1 hc with hc | hc
  · exact not_upper_of_isPackageChar ((h word (by simp)).isRun.2 c hc)
  · obtain ⟨x, hx, hc⟩ := List.mem_flatMap.1 hc
    rcases List.mem_cons.1 hc with rfl | hc
    · rcases hsep x hx with hsign | hsign <;> rw [hsign] <;> rfl
    · have hword := h x.2 (List.mem_cons_of_mem _ (List.mem_map_of_mem hx))
      exact not_upper_of_isPackageChar (hword.isRun.2 c hc)

theorem snakeChars_joined :
    snakeChars (joined word more) = word ++ (more.map Prod.snd).flatMap ('_' :: ·) := by
  have hcapital := no_capital_joined hsep h
  rw [snakeChars, partWords_whole hcapital, partCapitals_whole hcapital, squeeze_joined hsep h]
  refine lower_of_stays fun c hc => ?_
  rcases List.mem_append.1 hc with hc | hc
  · exact stays_of_isPackageChar ((h word (by simp)).isRun.2 c hc)
  · obtain ⟨w, hw, hc⟩ := List.mem_flatMap.1 hc
    rcases List.mem_cons.1 hc with rfl | hc
    · decide +kernel
    · exact stays_of_isPackageChar ((h w (List.mem_cons_of_mem _ hw)).isRun.2 c hc)

theorem snakeChars_pascalChars :
    snakeChars (pascalChars (joined word more)) =
      word ++ (more.map Prod.snd).flatMap ('_' :: ·) := by
  obtain ⟨hword, hothers⟩ := List.forall_mem_cons.1 h
  obtain ⟨C, rest, hcapital, hC, hrest, -, hback⟩ := hword.capitalize_eq
  have hcaps := isHump_capitals hothers
  have hplain : ∀ c ∈ capitalize word, plainRanges.has c = true :=
    has_plain_of_hump hword.isHump
  rw [pascalChars_joined hsep h, snakeChars_of_parts hplain hcaps, hback, lower_capitals hothers]
  rw [hcapital]
  exact parts_of_hump hcaps hrest

theorem camelChars_joined : camelChars (joined word more) =
    word ++ ((more.map Prod.snd).map capitalize).flatten := by
  obtain ⟨C, rest, hcapital, -, -, hfront, -⟩ := (h word (by simp)).capitalize_eq
  rw [camelChars, pascalChars_joined hsep h, hcapital, List.cons_append]
  simp only
  rw [← List.append_assoc, hfront]

theorem snakeChars_camelChars :
    snakeChars (camelChars (joined word more)) =
      word ++ (more.map Prod.snd).flatMap ('_' :: ·) := by
  obtain ⟨hword, hothers⟩ := List.forall_mem_cons.1 h
  have hcaps := isHump_capitals hothers
  rw [camelChars_joined hsep h, snakeChars_of_parts (has_plain_of_run hword.isRun) hcaps
    (parts_of_run hcaps hword.isRun), hword.flatMap_eq, lower_capitals hothers]

end

def nameText (word : String) (more : List (Char × String)) : String :=
  String.ofList (joined word.toList (more.map fun x => (x.1, x.2.toList)))

/-- Words that are run together, with or without a capital in front, are found again, and so are
words that stay apart. -/
theorem snakeCase_finds_words {word : String} {more : List (Char × String)}
    (hsep : ∀ x ∈ more, IsSeparator x.1)
    (h : ∀ w ∈ word :: more.map Prod.snd, IsNameWord w.toList) :
    snakeCase (pascalCase (nameText word more)) = "_".intercalate (word :: more.map Prod.snd) ∧
    snakeCase (camelCase (nameText word more)) = "_".intercalate (word :: more.map Prod.snd) ∧
    snakeCase (nameText word more) = "_".intercalate (word :: more.map Prod.snd) := by
  have hsep' : ∀ x ∈ more.map fun x => (x.1, x.2.toList), IsSeparator x.1 := by
    intro x hx
    obtain ⟨y, hy, rfl⟩ := List.mem_map.1 hx
    exact hsep y hy
  have hwords : (more.map fun x => (x.1, x.2.toList)).map Prod.snd =
      (more.map Prod.snd).map String.toList := by
    simp
  have h' : ∀ w ∈ word.toList :: (more.map fun x => (x.1, x.2.toList)).map Prod.snd,
      IsNameWord w := by
    rw [hwords, ← List.map_cons]
    intro w hw
    obtain ⟨v, hv, rfl⟩ := List.mem_map.1 hw
    exact h v hv
  have hsnake : "_".intercalate (word :: more.map Prod.snd) = String.ofList (word.toList ++
      ((more.map fun x => (x.1, x.2.toList)).map Prod.snd).flatMap ('_' :: ·)) := by
    apply String.toList_inj.1
    rw [String.toList_ofList, String.toList_intercalate, List.map_cons, hwords]
    exact intercalate_eq_append '_' _ _
  rw [hsnake]
  simp only [snakeCase, pascalCase, camelCase, nameText, String.toList_ofList]
  rw [snakeChars_pascalChars hsep' h', snakeChars_camelChars hsep' h', snakeChars_joined hsep' h']
  exact ⟨rfl, rfl, rfl⟩

theorem words_found :
    (∀ x ∈ [('_', "b2"), ('-', "cd3e"), ('-', "fg"), ('_', "h4")], IsSeparator x.1) ∧
    (∀ w ∈ ["a1", "b2", "cd3e", "fg", "h4"], IsNameWord w.toList) ∧
    snakeCase (pascalCase "a1_b2-cd3e-fg_h4") = "a1_b2_cd3e_fg_h4" ∧
    snakeCase (camelCase "a1_b2-cd3e-fg_h4") = "a1_b2_cd3e_fg_h4" ∧
    snakeCase "a1_b2-cd3e-fg_h4" = "a1_b2_cd3e_fg_h4" := by
  have hsep : ∀ x ∈ [('_', "b2"), ('-', "cd3e"), ('-', "fg"), ('_', "h4")], IsSeparator x.1 := by
    decide
  have hwords : ∀ w ∈ ["a1", "b2", "cd3e", "fg", "h4"], IsNameWord w.toList := by decide
  have htext : nameText "a1" [('_', "b2"), ('-', "cd3e"), ('-', "fg"), ('_', "h4")] =
      "a1_b2-cd3e-fg_h4" := by decide +kernel
  have hsnake : "_".intercalate
      ("a1" :: [('_', "b2"), ('-', "cd3e"), ('-', "fg"), ('_', "h4")].map Prod.snd) =
      "a1_b2_cd3e_fg_h4" := by decide +kernel
  have hfound := snakeCase_finds_words hsep hwords
  rw [htext, hsnake] at hfound
  exact ⟨hsep, hwords, hfound⟩

end Scaffold.Text
