import Scaffold.Proofs.NameParts

set_option autoImplicit false

/-!
# What the parts of a name leave open

A name is split at each dot but its leading ones, and nothing of it is lost: its parts make it up
again. Only an empty extension looks the same whether there is a dot before it or not, and so a
name without dots but leading ones shares its parts with the name that has one more dot at its end.
-/
namespace Scaffold.NameParts

variable {v : Vocabulary} {p : NameParts} {n m : String} {e e' before before' : List Char}

/-! ### The text after the last dot -/

/-- The name ends in a dot and a text without dots. -/
def EndsIn (n text : String) : Prop :=
  '.' ∉ text.toList ∧ ∃ before : String, n = before ++ "." ++ text

private theorem eq_of_last (h : before ++ '.' :: e = before' ++ '.' :: e') (he : '.' ∉ e)
    (he' : '.' ∉ e') : e = e' := by
  have hreverse := congrArg List.reverse h
  simp only [List.reverse_append, List.reverse_cons, List.append_assoc, List.singleton_append]
    at hreverse
  have htake := congrArg (List.takeWhile (· ≠ '.')) hreverse
  rw [Text.takeWhile_ne (by simpa using he), Text.takeWhile_ne (by simpa using he')] at htake
  exact List.reverse_inj.1 htake

theorem EndsIn.unique {text text' : String} (h : EndsIn n text) (h' : EndsIn n text') :
    text = text' := by
  obtain ⟨hdot, before, rfl⟩ := h
  obtain ⟨hdot', before', heq⟩ := h'
  have hlists := congrArg String.toList heq
  simp only [String.toList_append, List.append_assoc] at hlists
  exact String.toList_inj.1 (eq_of_last hlists hdot hdot')

theorem Sound.endsIn (h : p.Sound v) : EndsIn p.name p.extension := by
  refine ⟨h.extension, ".".intercalate (p.stem :: p.segments), ?_⟩
  rw [name, String.intercalate_append_of_ne_nil (by simp) (by simp), String.intercalate_singleton]

/-! ### Nothing is lost -/

/-- The parts of a name that is split: its leading dots and a text without dots, then the pieces
between its other dots. -/
structure Splits (v : Vocabulary) (n : String) (p : NameParts) : Prop where
  stem : ∃ core : String, core ≠ "" ∧ '.' ∉ core.toList ∧
    p.stem = String.ofList (n.toList.takeWhile (· = '.')) ++ core
  segments : ∀ segment ∈ p.segments, '.' ∉ segment.toList
  extension : '.' ∉ p.extension.toList
  joined : ".".intercalate (p.stem :: p.segments ++ [p.extension]) = n
  rendered : p.rendered = true ↔ EndsIn n v.marker

theorem takeWhile_of_isStem {stem : String} (h : IsStem stem) (rest : List Char) :
    (stem.toList ++ rest).takeWhile (· = '.') = stem.toList.takeWhile (· = '.') := by
  rw [List.takeWhile_append, if_neg]
  intro hlength
  have hwhole := List.takeWhile_append_dropWhile (p := fun c : Char => decide (c = '.'))
    (l := stem.toList)
  have hlengths := congrArg List.length hwhole
  rw [List.length_append, hlength] at hlengths
  exact h.1 (List.eq_nil_of_length_eq_zero (by omega))

theorem Sound.splits (h : p.Sound v) : Splits v p.name p := by
  refine ⟨⟨String.ofList (p.stem.toList.dropWhile (· = '.')), by simpa using h.stem.1,
    by simpa using h.stem.2, ?_⟩, h.segments, h.extension, rfl, ?_⟩
  · have hname : p.name = p.stem ++ ("." ++ ".".intercalate (p.segments ++ [p.extension])) := by
      rw [name, List.cons_append, String.intercalate_cons_of_ne_nil (by simp), String.append_assoc]
    rw [hname, String.toList_append, takeWhile_of_isStem h.stem, ← String.ofList_append,
      List.takeWhile_append_dropWhile, String.ofList_toList]
  · rw [h.rendered, beq_iff_eq]
    exact ⟨fun heq => heq ▸ h.endsIn, h.endsIn.unique⟩

/-! ### Names that share their parts -/

/-- The second name has one more dot at its end than the first, which has no dot but leading ones
and more than these. -/
def OneDotMore (n m : String) : Prop :=
  IsStem n ∧ m = n ++ "."

theorem name_whole (n : String) : name ⟨n, [], "", false⟩ = n ++ "." := by
  rw [name, String.intercalate_append_of_ne_nil (by simp) (by simp)]
  simp

theorem ofName_oneDotMore (hmarker : v.marker ≠ "") (h : OneDotMore n m) :
    ofName v n = ofName v m := by
  obtain ⟨hstem, rfl⟩ := h
  have hsound : Sound v ⟨n, [], "", false⟩ :=
    ⟨hstem, by simp, by simp, by simpa using hmarker.symm⟩
  rw [ofName_whole v hstem.2, ← name_whole, ofName_name hsound]

theorem oneDotMore_of_ofName (hn : '.' ∉ n.toList.dropWhile (· = '.'))
    (hm : '.' ∈ m.toList.dropWhile (· = '.')) (h : ofName v n = ofName v m) :
    v.marker ≠ "" ∧ OneDotMore n m := by
  obtain ⟨hsound, hname⟩ := name_ofName v hm
  rw [← h, ofName_whole v hn] at hsound hname
  exact ⟨fun hmarker => by simpa [hmarker] using hsound.rendered, hsound.stem,
    hname.symm.trans (name_whole n)⟩

theorem ofName_eq_iff (v : Vocabulary) (n m : String) :
    ofName v n = ofName v m ↔
      n = m ∨ v.marker ≠ "" ∧ (OneDotMore n m ∨ OneDotMore m n) := by
  constructor
  · intro h
    by_cases hn : '.' ∈ n.toList.dropWhile (· = '.') <;>
      by_cases hm : '.' ∈ m.toList.dropWhile (· = '.')
    · left
      rw [← (name_ofName v hn).2, h, (name_ofName v hm).2]
    · obtain ⟨hmarker, hmore⟩ := oneDotMore_of_ofName hm hn h.symm
      exact .inr ⟨hmarker, .inr hmore⟩
    · obtain ⟨hmarker, hmore⟩ := oneDotMore_of_ofName hn hm h
      exact .inr ⟨hmarker, .inl hmore⟩
    · left
      rw [ofName_whole v hn, ofName_whole v hm] at h
      exact congrArg stem h
  · rintro (rfl | ⟨hmarker, hmore | hmore⟩)
    · rfl
    · exact ofName_oneDotMore hmarker hmore
    · exact (ofName_oneDotMore hmarker hmore).symm

/-- A name is split everywhere and nothing of it is lost: with a dot after its leading ones, its
parts with dots between them are the name, and without one, all of it is stem. Two names share
their parts only if one of them is such a stem and the other has one more dot at its end. -/
theorem ofName_loses_nothing (v : Vocabulary) (n : String) :
    ('.' ∈ n.toList.dropWhile (· = '.') → Splits v n (ofName v n)) ∧
    ('.' ∉ n.toList.dropWhile (· = '.') → ofName v n = ⟨n, [], "", false⟩) ∧
    ∀ m, ofName v n = ofName v m ↔
      n = m ∨ v.marker ≠ "" ∧ (OneDotMore n m ∨ OneDotMore m n) := by
  refine ⟨fun hdot => ?_, ofName_whole v, fun m => ofName_eq_iff v n m⟩
  obtain ⟨hsound, hname⟩ := name_ofName v hdot
  have hsplits := hsound.splits
  rwa [hname] at hsplits

def bareVocabulary : Vocabulary := ({} : Vocabulary.Draft).vocabulary

theorem env_loses_nothing :
    '.' ∈ "..env.vue..j2".toList.dropWhile (· = '.') ∧
      Splits bareVocabulary "..env.vue..j2" ⟨"..env", ["vue", ""], "j2", true⟩ ∧
      '.' ∉ "..env".toList.dropWhile (· = '.') ∧
      ofName bareVocabulary "..env" = ⟨"..env", [], "", false⟩ ∧
      ofName bareVocabulary "..env" = ofName bareVocabulary "..env." := by
  obtain ⟨hsplits, -, -⟩ := ofName_loses_nothing bareVocabulary "..env.vue..j2"
  obtain ⟨-, hwhole, hshared⟩ := ofName_loses_nothing bareVocabulary "..env"
  have hparts : ofName bareVocabulary "..env.vue..j2" =
      ⟨"..env", ["vue", ""], "j2", true⟩ := by decide +kernel
  have hstem : '.' ∉ "..env".toList.dropWhile (· = '.') := by decide +kernel
  have hdot : '.' ∈ "..env.vue..j2".toList.dropWhile (· = '.') := by decide +kernel
  refine ⟨hdot, hparts ▸ hsplits hdot, hstem, hwhole hstem, ?_⟩
  exact (hshared "..env.").2 (.inr ⟨by decide +kernel, .inl ⟨by decide +kernel, rfl⟩⟩)

end Scaffold.NameParts
