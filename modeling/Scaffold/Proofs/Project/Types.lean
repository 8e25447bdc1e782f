import Mathlib.Data.List.Nodup
import Scaffold.Project.Discovery
import Scaffold.Proofs.Session

set_option autoImplicit false

/-!
# Types of projects

Of the types that are found in a directory no two go by one name, so that a type is loaded by its
name.
-/
namespace Scaffold

namespace ProjectType
variable {fs : Files} {directory : Path} {types found : List ProjectType} {t : ProjectType}

theorem add_distinct (h : (found.map name).Nodup) : ((add found t).map name).Nodup := by
  unfold add
  by_cases hany : found.any (·.name = t.name)
  · have hnames : (found.map fun u => if u.name = t.name then t else u).map name = found.map name := by
      rw [List.map_map]
      refine List.map_congr_left fun u _ => ?_
      by_cases heq : u.name = t.name
      · simp [heq]
      · simp [heq]
    rw [if_pos hany, hnames]
    exact h
  · rw [if_neg hany, List.map_append]
    refine List.nodup_append.2 ⟨h, by simp, ?_⟩
    simpa using hany

theorem collect_distinct {folders : List Path} (h : (found.map name).Nodup)
    (hcollect : collect fs folders found = .ok types) : (types.map name).Nodup := by
  induction folders generalizing found with
  | nil =>
    cases hcollect
    exact h
  | cons folder rest ih =>
    rw [collect] at hcollect
    obtain ⟨t?, -, hrest⟩ := Act.ok_of_bind hcollect
    cases t? with
    | none => exact ih h hrest
    | some t => exact ih (add_distinct h) hrest

theorem discover_distinct (h : discover fs directory = .ok types) : (types.map name).Nodup := by
  unfold discover at h
  obtain ⟨there, -, hrest⟩ := Act.ok_of_bind h
  cases there with
  | false =>
    cases hrest
    exact List.nodup_nil
  | true =>
    obtain ⟨names, -, hcollect⟩ := Act.ok_of_bind hrest
    have hnone : (([] : List ProjectType).map name).Nodup := List.nodup_nil
    exact collect_distinct hnone hcollect

theorem find?_name (h : (types.map name).Nodup) (ht : t ∈ types) :
    types.find? (·.name = t.name) = some t := by
  cases hfind : types.find? (·.name = t.name) with
  | none => exact absurd (List.find?_eq_none.1 hfind t ht) (by simp)
  | some u =>
    have hname : u.name = t.name := by simpa using List.find?_some hfind
    exact congrArg some (List.inj_on_of_nodup_map h (List.mem_of_find?_eq_some hfind) ht hname)

theorem mem_namesOf {n : String} : n ∈ namesOf types ↔ ∃ t ∈ types, t.name = n :=
  List.mem_mergeSort.trans List.mem_map

end ProjectType

namespace Project
variable {p : Project} {fs : Files} {settings : Settings} {types : List ProjectType}
  {t : ProjectType}

theorem load_of_discover (h : ProjectType.discover fs settings.projects = .ok types)
    (name : String) :
    load fs settings name =
      match types.find? (·.name = name) with
      | some t => ofType t settings
      | none => .error (.unknownProject name (ProjectType.namesOf types)) := by
  unfold load
  rw [h]
  rfl

theorem load_found (h : ProjectType.discover fs settings.projects = .ok types) (ht : t ∈ types) :
    load fs settings t.name = ofType t settings := by
  rw [load_of_discover h, ProjectType.find?_name (ProjectType.discover_distinct h) ht]

theorem ofType_eq_ok (h : ofType t settings = .ok p) :
    p.type = t ∧ p.settings = settings ∧ t.manifest.vocabulary settings.marker = .ok p.vocabulary := by
  unfold ofType at h
  cases hvocabulary : t.manifest.vocabulary settings.marker with
  | error r =>
    rw [hvocabulary] at h
    cases h
  | ok v =>
    rw [hvocabulary] at h
    cases h
    exact ⟨rfl, rfl, rfl⟩

end Project
end Scaffold
