import Scaffold.Proofs.CleanNames

set_option autoImplicit false

/-!
# Native extensions

The extension of a clean name is the last piece that remains behind the stem. So a file to render
comes out with the extension that stands before the marker, unless that segment is itself dropped:
as a second marker, or as a condition that decides.
-/
namespace Scaffold

variable {v : Vocabulary} {p : NameParts} {n e : String} {before : List String} {c : Condition}

namespace NameParts

theorem remains_of_rendered (hrendered : p.rendered = true) (hsegments : p.segments = before ++ [e]) :
    p.remains v = before.filter (stays v) ++ kept v [(e, p.reading v (e, before.length))] := by
  rw [remains, keptSegments_concat hsegments]
  simp [hrendered]

theorem nativeExtension_of_rendered (hrendered : p.rendered = true)
    (hsegments : p.segments = before ++ [e]) : p.nativeExtension = e := by
  simp [nativeExtension, hrendered, hsegments]

theorem not_gating_reading {x : String × Nat} (h : (Condition.ofSegment v x.1).isGating = false) :
    (p.reading v x).isGating = false := by
  unfold reading
  split
  · rfl
  · exact h

theorem mem_kept_single : e ∈ kept v [(e, c)] ↔ e ≠ v.marker ∧ c.isGating = false := by
  simp [kept, and_comm]

/-- The last of the segments remains if it is kept at its own place; an equal one before it then
remains as well. -/
theorem mem_remains_iff (hrendered : p.rendered = true) (hsegments : p.segments = before ++ [e]) :
    e ∈ p.remains v ↔
      e ≠ v.marker ∧ (p.reading v (e, before.length)).isGating = false := by
  rw [remains_of_rendered hrendered hsegments, List.mem_append, mem_kept_single]
  refine ⟨fun h => h.elim (fun hearlier => ?_) id, .inr⟩
  have hstays := (List.mem_filter.1 hearlier).2
  simp only [stays, Bool.and_eq_true, Bool.not_eq_true', bne_iff_ne] at hstays
  exact ⟨hstays.2, not_gating_reading hstays.1⟩

theorem getLast?_remains (hrendered : p.rendered = true) (hsegments : p.segments = before ++ [e])
    (h : e ∈ p.remains v) : (p.remains v).getLast? = some e := by
  obtain ⟨hmarker, hgating⟩ := (mem_remains_iff hrendered hsegments).1 h
  have hkept : kept v [(e, p.reading v (e, before.length))] = [e] := by
    simp [kept, hmarker, hgating]
  rw [remains_of_rendered hrendered hsegments, hkept, List.getLast?_concat]

theorem not_gating_component (hrendered : p.rendered = true) (hsegments : p.segments = before ++ [e])
    (h : namesComponents v e = true) : (p.reading v (e, before.length)).isGating = false := by
  have hlast : (before.length + 1 == p.segments.length) = true := by simp [hsegments]
  simp [reading, hrendered, hlast, h, Condition.isGating]

end NameParts

namespace FileName
open NameParts Vocabulary

theorem extension_clean (v : Vocabulary) (n : String) :
    (ofName v (clean v n)).extension = ((ofName v n).remains v).getLast?.getD "" := by
  by_cases hdot : '.' ∈ n.toList.dropWhile (· = '.')
  · obtain ⟨hsound, -⟩ := name_ofName v hdot
    obtain hnil | ⟨init, last, hconcat⟩ := List.eq_nil_or_concat' ((ofName v n).remains v)
    · rw [clean, clean_eq, hnil, String.intercalate_singleton, ofName_whole v hsound.stem.2]
      rfl
    · obtain ⟨hclean, hname⟩ := isClean_of_remains hsound hconcat
      rw [clean, ← hname, ofName_name hclean.sound, hconcat, List.getLast?_concat]
      rfl
  · have hnil : (ofName v n).remains v = [] := by
      simp [ofName_whole v hdot, remains, keptSegments]
    rw [clean_whole hdot, hnil, ofName_whole v hdot]
    rfl

theorem getLast?_conditions (hsegments : (ofName v n).segments = before ++ [e]) :
    (conditions v n).getLast? = some ((ofName v n).reading v (e, before.length)) := by
  rw [conditions, conditions_concat hsegments, List.getLast?_concat]

/-- A file to render comes out with the extension before the marker if and only if that segment is
no marker itself and, in its position, no condition that decides. A token that names the type of
components is never one there. -/
theorem native_extension_stays_iff (hv : v.Accepted) (hrendered : isRendered v n = true)
    (hsegments : (ofName v n).segments = before ++ [e]) (he : e ≠ "") :
    (ofName v n).nativeExtension = e ∧
      ((ofName v (clean v n)).extension = (ofName v n).nativeExtension ↔
        e ≠ v.marker ∧ ∃ c, (conditions v n).getLast? = some c ∧ c.isGating = false) ∧
      (namesComponents v e = true → (ofName v (clean v n)).extension = e) := by
  have hnative := nativeExtension_of_rendered hrendered hsegments
  have hlast : (ofName v (clean v n)).extension = e ↔ e ∈ (ofName v n).remains v := by
    rw [extension_clean]
    constructor
    · intro heq
      cases hfound : ((ofName v n).remains v).getLast? with
      | none => exact absurd (by simpa [hfound] using heq.symm) he
      | some last =>
        rw [hfound, Option.getD_some] at heq
        exact heq ▸ List.mem_of_getLast? hfound
    · intro hmem
      rw [getLast?_remains hrendered hsegments hmem, Option.getD_some]
  have hmem := mem_remains_iff (v := v) hrendered hsegments
  refine ⟨hnative, ?_, fun hcomponents => hlast.2 (hmem.2 ⟨?_, ?_⟩)⟩
  · rw [hnative, hlast, hmem, getLast?_conditions hsegments]
    simp
  · have hframework : e ∈ v.frameworks := by
      simp only [namesComponents, isFramework, Bool.and_eq_true, List.contains_iff_mem] at hcomponents
      exact hcomponents.1
    rintro rfl
    have hpassthrough := hv.wellFormed.not_passthrough (.inl hframework)
    simp [isPassthrough] at hpassthrough
  · exact not_gating_component hrendered hsegments hcomponents

/-- Of equal segments the first is a condition and the last the type of the components; a condition
before the marker is lost. -/
theorem app_extensions :
    (ofName vueOrReact.vocabulary (clean vueOrReact.vocabulary "App.vue.vue.j2")).extension = "vue" ∧
      (ofName vueOrReact.vocabulary (clean vueOrReact.vocabulary "App.vue.react.j2")).extension ≠
        (ofName vueOrReact.vocabulary "App.vue.react.j2").nativeExtension := by
  have hcomponents : (ofName vueOrReact.vocabulary "App.vue.vue.j2").segments = ["vue"] ++ ["vue"] := by
    decide +kernel
  have hcondition : (ofName vueOrReact.vocabulary "App.vue.react.j2").segments =
      ["vue"] ++ ["react"] := by
    decide +kernel
  obtain ⟨-, -, hkept⟩ := native_extension_stays_iff vueOrReact_accepted (by decide +kernel)
    hcomponents (by decide)
  obtain ⟨-, hlost, -⟩ := native_extension_stays_iff vueOrReact_accepted (by decide +kernel)
    hcondition (by decide)
  refine ⟨hkept (by decide +kernel), fun heq => ?_⟩
  obtain ⟨-, c, hc, hgating⟩ := hlost.1 heq
  have hlast : (conditions vueOrReact.vocabulary "App.vue.react.j2").getLast? =
      some (.framework "react") := by
    decide +kernel
  cases hlast.symm.trans hc
  cases hgating

end FileName
end Scaffold
