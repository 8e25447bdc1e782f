import Scaffold.Proofs.Files.Make
import Scaffold.Proofs.Project.Types

set_option autoImplicit false

/-!
# Types that are found

Each folder with a manifest is a type of project, in the order of the folders. A look through a
directory keeps of the types of one name the last, at the place of the first; so it keeps all of
them just if their names differ, and then in this order.
-/
namespace Scaffold

/-! ### First occurrences -/

section
variable {α : Type} [DecidableEq α] {xs : List α} {x : α}

theorem eraseDups_concat (xs : List α) (x : α) :
    (xs ++ [x]).eraseDups = if x ∈ xs then xs.eraseDups else xs.eraseDups ++ [x] := by
  rw [List.eraseDups_append]
  by_cases h : x ∈ xs <;> simp [List.removeAll, List.eraseDups_cons, h]

theorem eraseDups_sublist (xs : List α) : xs.eraseDups.Sublist xs := by
  induction xs using List.reverseRecOn with
  | nil => simp
  | append_singleton xs x ih =>
    rw [eraseDups_concat]
    split
    · exact ih.trans (List.sublist_append_left ..)
    · exact ih.append (.refl [x])

theorem nodup_eraseDups (xs : List α) : xs.eraseDups.Nodup := by
  induction xs using List.reverseRecOn with
  | nil => simp
  | append_singleton xs x ih =>
    rw [eraseDups_concat]
    split
    · exact ih
    · rename_i hnew
      refine List.nodup_append.2 ⟨ih, by simp, ?_⟩
      rintro y hy _ hx rfl
      exact hnew (List.mem_singleton.1 hx ▸ List.mem_eraseDups.1 hy)

end

namespace ProjectType
variable {fs : Files} {directory folder : Path} {place : Place} {folders : List Path}
  {types found all : List ProjectType} {t u : ProjectType}

/-! ### One type after the other -/

theorem mem_add : u ∈ add found t ↔ u = t ∨ u ∈ found ∧ u.name ≠ t.name := by
  unfold add
  by_cases hany : found.any (·.name = t.name)
  · rw [if_pos hany, List.mem_map]
    obtain ⟨old, hold, hname⟩ : ∃ old ∈ found, old.name = t.name := by simpa using hany
    constructor
    · rintro ⟨w, hw, hu⟩
      split at hu
      · exact .inl hu.symm
      · rename_i hne
        exact .inr ⟨hu ▸ hw, hu ▸ hne⟩
    · rintro (rfl | ⟨hu, hne⟩)
      · exact ⟨old, hold, if_pos hname⟩
      · exact ⟨u, hu, if_neg hne⟩
  · have hfresh : ∀ w ∈ found, w.name ≠ t.name := by simpa using hany
    rw [if_neg hany, List.mem_append, List.mem_singleton, or_comm]
    exact or_congr_right (iff_self_and.2 (hfresh u))

theorem add_fresh (h : t.name ∉ found.map name) : add found t = found ++ [t] := by
  have hany : ¬ found.any (·.name = t.name) := by simpa using h
  rw [add, if_neg hany]

theorem names_add (found : List ProjectType) (t : ProjectType) :
    (add found t).map name =
      if t.name ∈ found.map name then found.map name else found.map name ++ [t.name] := by
  by_cases h : t.name ∈ found.map name
  · have hany : found.any (·.name = t.name) := by simpa using h
    rw [if_pos h, add, if_pos hany, List.map_map]
    refine List.map_congr_left fun u _ => ?_
    by_cases heq : u.name = t.name <;> simp [heq]
  · rw [if_neg h, add_fresh h, List.map_append]
    rfl

def IsLatest (all : List ProjectType) (t : ProjectType) : Prop :=
  ∃ before after, all = before ++ t :: after ∧ t.name ∉ after.map name

theorem foldl_add (all : List ProjectType) :
    (all.foldl add []).map name = (all.map name).eraseDups ∧
      ∀ t ∈ all.foldl add [], IsLatest all t := by
  induction all using List.reverseRecOn with
  | nil => simp
  | append_singleton all u ih =>
    obtain ⟨hnames, hlatest⟩ := ih
    rw [List.foldl_concat]
    constructor
    · rw [names_add, hnames, List.map_append, List.map_singleton, eraseDups_concat]
      simp only [List.mem_eraseDups]
    · intro t ht
      rcases mem_add.1 ht with rfl | ⟨ht, hname⟩
      · exact ⟨all, [], rfl, by simp⟩
      · obtain ⟨before, after, rfl, hafter⟩ := hlatest t ht
        exact ⟨before, after ++ [u], by simp, by simpa [hname] using hafter⟩

theorem foldl_add_of_distinct (h : (all.map name).Nodup) : all.foldl add [] = all := by
  induction all using List.reverseRecOn with
  | nil => rfl
  | append_singleton all u ih =>
    rw [List.map_append, List.map_singleton] at h
    obtain ⟨hall, -, hdisjoint⟩ := List.nodup_append.1 h
    rw [List.foldl_concat, ih hall]
    exact add_fresh fun hmem => hdisjoint _ hmem _ (List.mem_singleton_self _) rfl

theorem length_foldl_add : (all.foldl add []).length = all.length ↔ (all.map name).Nodup := by
  constructor
  · intro hlength
    have heq : (all.map name).eraseDups = all.map name :=
      (eraseDups_sublist _).eq_of_length (by rw [← (foldl_add all).1]; simpa using hlength)
    exact heq ▸ nodup_eraseDups _
  · intro hnodup
    rw [foldl_add_of_distinct hnodup]

/-! ### Folders with manifests -/

def IsHome (fs : Files) (folder : Path) : Prop :=
  fs.isDirectory? folder = .ok true ∧ fs.isFile? (folder.child manifestName) = .ok true

instance (fs : Files) (folder : Path) : Decidable (IsHome fs folder) :=
  inferInstanceAs (Decidable (_ ∧ _))

/-- A folder can be looked into, and the manifest in it, if there is one, be loaded. -/
structure Loadable (fs : Files) (folder : Path) : Prop where
  asked : ∃ b, fs.isDirectory? folder = .ok b
  searched : fs.isDirectory? folder = .ok true → ∃ b, fs.isFile? (folder.child manifestName) = .ok b
  loaded : IsHome fs folder → ∃ m, Manifest.ofFile fs (folder.child manifestName) = .ok m

theorem ofFolder_cases (fs : Files) (folder : Path) :
    (∃ m, IsHome fs folder ∧ Manifest.ofFile fs (folder.child manifestName) = .ok m ∧
        ofFolder fs folder = .ok (some ⟨m, folder⟩)) ∨
      (¬IsHome fs folder ∧ Loadable fs folder ∧ ofFolder fs folder = .ok none) ∨
      ¬Loadable fs folder ∧ ∃ f, ofFolder fs folder = .error f := by
  simp only [ofFolder]
  rcases hasked : fs.isDirectory? folder with f | _ | _
  · exact .inr (.inr ⟨fun h => by simpa [hasked] using h.asked, _, rfl⟩)
  · have hnot : ¬IsHome fs folder := fun h => by cases hasked.symm.trans h.1
    exact .inr (.inl ⟨hnot, ⟨⟨_, hasked⟩, by simp [hasked], fun h => absurd h hnot⟩, rfl⟩)
  rcases hsearched : fs.isFile? (folder.child manifestName) with f | _ | _
  · exact .inr (.inr ⟨fun h => by simpa [hsearched] using h.searched hasked, _, rfl⟩)
  · have hnot : ¬IsHome fs folder := fun h => by cases hsearched.symm.trans h.2
    exact .inr (.inl ⟨hnot, ⟨⟨_, hasked⟩, fun _ => ⟨_, hsearched⟩, fun h => absurd h hnot⟩, rfl⟩)
  have hhome : IsHome fs folder := ⟨hasked, hsearched⟩
  rcases hloaded : Manifest.ofFile fs (folder.child manifestName) with f | m
  · exact .inr (.inr ⟨fun h => by simpa [hloaded] using h.loaded hhome, f, rfl⟩)
  · exact .inl ⟨m, hhome, rfl, rfl⟩

/-- The types of those among some folders that hold a manifest. -/
structure Housed (fs : Files) (folders : List Path) (all : List ProjectType) : Prop where
  homes : all.map root = folders.filter (IsHome fs)
  manifests : ∀ t ∈ all, Manifest.ofFile fs (t.root.child manifestName) = .ok t.manifest

theorem collect_ok (h : ∀ folder ∈ folders, Loadable fs folder) (found : List ProjectType) :
    ∃ all, Housed fs folders all ∧ collect fs folders found = .ok (all.foldl add found) := by
  induction folders generalizing found with
  | nil => exact ⟨[], ⟨rfl, by simp⟩, rfl⟩
  | cons folder rest ih =>
    obtain ⟨hfolder, hrest⟩ := List.forall_mem_cons.1 h
    obtain ⟨m, hhome, hloaded, hfound⟩ | ⟨hnot, -, hnone⟩ | ⟨hunloadable, -⟩ :=
      ofFolder_cases fs folder
    · obtain ⟨all, hall, hcollect⟩ := ih hrest (add found ⟨m, folder⟩)
      refine ⟨⟨m, folder⟩ :: all, ⟨by simp [hall.homes, hhome], ?_⟩, ?_⟩
      · exact List.forall_mem_cons.2 ⟨hloaded, hall.manifests⟩
      · rw [collect, hfound]
        exact hcollect
    · obtain ⟨all, hall, hcollect⟩ := ih hrest found
      refine ⟨all, ⟨by simp [hall.homes, hnot], hall.manifests⟩, ?_⟩
      rw [collect, hnone]
      exact hcollect
    · exact absurd hfolder hunloadable

theorem loadable_of_collect (h : collect fs folders found = .ok types) :
    ∀ folder ∈ folders, Loadable fs folder := by
  induction folders generalizing found with
  | nil => simp
  | cons folder rest ih =>
    rw [collect] at h
    obtain ⟨t?, hfolder, hrest⟩ := Act.ok_of_bind h
    refine List.forall_mem_cons.2 ⟨?_, ?_⟩
    · obtain ⟨m, hhome, hloaded, -⟩ | ⟨-, hloadable, -⟩ | ⟨-, f, herror⟩ := ofFolder_cases fs folder
      · exact ⟨⟨_, hhome.1⟩, fun _ => ⟨_, hhome.2⟩, fun _ => ⟨m, hloaded⟩⟩
      · exact hloadable
      · cases hfolder.symm.trans herror
    · cases t? with
      | none => exact ih hrest
      | some t => exact ih hrest

/-! ### A directory of types -/

/-- The types of a directory: one for each folder in it that holds a manifest, in the order of the
folders. -/
structure Census (fs : Files) (directory : Path) (place : Place) (all : List ProjectType) : Prop where
  homes : ∀ folder, folder ∈ all.map root ↔
    IsHome fs folder ∧ ∃ n e, fs.get? (place ++ [n]) = some e ∧ folder = directory.child n
  rising : (all.map fun t => t.root.name).Pairwise (· < ·)
  manifests : ∀ t ∈ all, Manifest.ofFile fs (t.root.child manifestName) = .ok t.manifest

theorem Housed.census (hfs : fs.WellFormed)
    (h : Housed fs ((fs.names place).map directory.child) all) : Census fs directory place all where
  homes folder := by
    rw [h.homes, List.mem_filter, and_comm, decide_eq_true_iff, List.mem_map]
    refine and_congr_right fun _ => exists_congr fun n => ?_
    rw [Files.mem_names, exists_and_right, eq_comm]
  rising := by
    have hroots : all.map (fun t => t.root.name) =
        ((fs.names place).filter fun n => IsHome fs (directory.child n)).map
          fun n => (directory.child n).name := by
      have hmap := congrArg (List.map Path.name) h.homes
      rw [List.map_map, List.filter_map, List.map_map] at hmap
      exact hmap
    simp only [hroots, Path.name_child, List.map_id']
    exact (Files.names_rising hfs place).filter _
  manifests := h.manifests

theorem discover_of_stat (h : fs.stat directory = .ok (place, .directory)) :
    discover fs directory = collect fs ((fs.names place).map directory.child) [] := by
  have hlist : fs.list directory = .ok (fs.names place) := by rw [Files.list, h]
  unfold discover
  rw [Files.isDirectory?_eq_true.2 ⟨place, h⟩, hlist]
  rfl

/-- A look through a directory comes to an end just if all folders in it can be looked into and
their manifests be loaded. Of the types of these folders it then gives, for each name, the last at
the place of the first: all of them in their order if no two go by one name, and else fewer. A name
that it gives loads the project of its type, unless the conditions of that type are refused. -/
theorem discover_keeps_latest (hfs : fs.WellFormed)
    (hdirectory : fs.stat directory = .ok (place, .directory)) :
    ((∃ types, discover fs directory = .ok types) ↔
      ∀ n e, fs.get? (place ++ [n]) = some e → Loadable fs (directory.child n)) ∧
    ∀ types, discover fs directory = .ok types → ∃ all, Census fs directory place all ∧
      types.map name = (all.map name).eraseDups ∧
      (∀ t ∈ types, IsLatest all t) ∧
      (types.length = all.length ↔ (all.map name).Nodup) ∧
      ((all.map name).Nodup → types = all) ∧
      ∀ settings : Settings, settings.projects = directory → ∀ t ∈ types,
        (∀ v, t.manifest.vocabulary settings.marker = .ok v →
          Project.load fs settings t.name = .ok ⟨t, settings, v⟩) ∧
        ∀ r, t.manifest.vocabulary settings.marker = .error r →
          Project.load fs settings t.name = .error (.refused r) := by
  have hdiscover := discover_of_stat hdirectory
  have hloadable : (∀ folder ∈ (fs.names place).map directory.child, Loadable fs folder) ↔
      ∀ n e, fs.get? (place ++ [n]) = some e → Loadable fs (directory.child n) := by
    simp only [List.forall_mem_map, Files.mem_names, forall_exists_index]
  constructor
  · rw [← hloadable, hdiscover]
    constructor
    · rintro ⟨types, htypes⟩
      exact loadable_of_collect htypes
    · intro h
      obtain ⟨all, -, hcollect⟩ := collect_ok h []
      exact ⟨_, hcollect⟩
  · intro types htypes
    obtain ⟨all, hall, hcollect⟩ := collect_ok (loadable_of_collect (hdiscover ▸ htypes)) []
    obtain rfl : all.foldl add [] = types :=
      Except.ok.inj (hcollect.symm.trans (hdiscover.symm.trans htypes))
    refine ⟨all, hall.census hfs, (foldl_add all).1, (foldl_add all).2, length_foldl_add,
      foldl_add_of_distinct, ?_⟩
    rintro settings rfl t ht
    rw [Project.load_found htypes ht]
    unfold Project.ofType
    refine ⟨fun v hv => ?_, fun r hr => ?_⟩
    · rw [hv]
      rfl
    · rw [hr]
      rfl

/-! ### Namesakes -/

def namesakeFiles : Files where
  entries := [(["p"], .directory),
    (["p", "a"], .directory), (["p", "a", "project.yaml"], .file "name: web".toUTF8),
    (["p", "b"], .directory), (["p", "b", "project.yaml"], .file "".toUTF8),
    (["p", "c"], .directory),
    (["p", "c", "project.yaml"], .file "name: web\ndescription: new".toUTF8)]

def namesakes : List ProjectType := [
  ⟨⟨"web", "new", [], [], none, Vocabulary.defaultPassthrough, Vocabulary.defaultExtensions, [],
    "templates"⟩, ⟨.root, ["p", "c"]⟩⟩,
  ⟨⟨"b", "", [], [], none, Vocabulary.defaultPassthrough, Vocabulary.defaultExtensions, [],
    "templates"⟩, ⟨.root, ["p", "b"]⟩⟩]

theorem namesakeFiles_wellFormed : namesakeFiles.WellFormed := by
  refine Files.wellFormed_of_sound (by decide) ?_ (by decide)
  unfold Files.Sound
  simp [namesakeFiles]
  decide

theorem namesakeFiles_names : namesakeFiles.names ["p"] = ["a", "b", "c"] := by
  simp [Files.names, namesakeFiles, List.mergeSort]

theorem namesakes_stat : namesakeFiles.stat ⟨.root, ["p"]⟩ = .ok (["p"], .directory) := by rfl

theorem namesakes_discover : discover namesakeFiles ⟨.root, ["p"]⟩ = .ok namesakes := by
  rw [discover_of_stat namesakes_stat, namesakeFiles_names]
  exact Act.ok_of_toOption (by decide +kernel)

theorem namesakes_latest :
    namesakeFiles.WellFormed ∧ namesakeFiles.stat ⟨.root, ["p"]⟩ = .ok (["p"], .directory) ∧
      ∃ all, Census namesakeFiles ⟨.root, ["p"]⟩ ["p"] all ∧ namesakes.length ≠ all.length ∧
        Project.load namesakeFiles ⟨⟨.root, ["p"]⟩, ⟨.root, []⟩, "j2", false⟩ "web" =
          .ok ⟨namesakes[0], ⟨⟨.root, ["p"]⟩, ⟨.root, []⟩, "j2", false⟩,
            ⟨[], [], Vocabulary.defaultPassthrough, "j2", [], []⟩⟩ := by
  obtain ⟨all, hcensus, -, -, hlength, hdistinct, hload⟩ :=
    (discover_keeps_latest namesakeFiles_wellFormed namesakes_stat).2 _ namesakes_discover
  refine ⟨namesakeFiles_wellFormed, namesakes_stat, all, hcensus, fun hsame => ?_,
    (hload _ rfl namesakes[0] (by simp [namesakes])).1 _ (by rfl)⟩
  have hfirst : (⟨.root, ["p", "a"]⟩ : Path) ∈ all.map root :=
    (hcensus.homes _).2 ⟨by decide +kernel, "a", .directory, by decide +kernel, rfl⟩
  rw [← hdistinct (hlength.1 hsame)] at hfirst
  exact absurd hfirst (by decide)

/-- Of three types in three folders two are found, and not in the order of the folders. -/
theorem namesake_lost :
    namesakeFiles.WellFormed ∧ namesakeFiles.names ["p"] = ["a", "b", "c"] ∧
      (∀ n ∈ ["a", "b", "c"], IsHome namesakeFiles ⟨.root, ["p", n]⟩ ∧
        Loadable namesakeFiles ⟨.root, ["p", n]⟩) ∧
      discover namesakeFiles ⟨.root, ["p"]⟩ = .ok namesakes ∧
      namesakes.map root = [⟨.root, ["p", "c"]⟩, ⟨.root, ["p", "b"]⟩] := by
  have hloadable := loadable_of_collect
    ((discover_of_stat namesakes_stat).symm.trans namesakes_discover)
  rw [namesakeFiles_names, List.forall_mem_map] at hloadable
  refine ⟨namesakeFiles_wellFormed, namesakeFiles_names, fun n hn => ⟨?_, hloadable n hn⟩,
    namesakes_discover, rfl⟩
  revert n
  decide +kernel

end ProjectType
end Scaffold
