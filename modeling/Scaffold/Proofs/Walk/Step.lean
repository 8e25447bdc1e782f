import Scaffold.Proofs.EntryNames
import Scaffold.Proofs.Files.Child
import Scaffold.Proofs.Session

set_option autoImplicit false

/-!
# What a walk does at an entry

Listing a directory reads off its names, a file is written with what it yields, and an entry is
left out, fails, is walked or is written. Nothing is assumed of where source and destination are.
-/
namespace Scaffold.Walk

variable {fs fs' : Files} {p : Path} {name : String}

/-! ### Listing -/

private theorem mapM_eq_ok {α β : Type} {ask : α → Except Fault β} {xs : List α} {ys : List (α × β)}
    (h : xs.mapM (fun x => do return (x, ← ask x)) = .ok ys) :
    ys.map (·.1) = xs ∧ ∀ y ∈ ys, ask y.1 = .ok y.2 := by
  induction xs generalizing ys with
  | nil =>
    cases h
    simp
  | cons x xs ih =>
    rw [List.mapM_cons] at h
    cases hx : ask x with
    | error f =>
      rw [hx] at h
      cases h
    | ok b =>
      rw [hx] at h
      cases hxs : xs.mapM (fun x => do return (x, ← ask x)) with
      | error f =>
        simp only [hxs] at h
        cases h
      | ok others =>
        simp only [hxs] at h
        cases h
        obtain ⟨hnames, hasked⟩ := ih hxs
        exact ⟨by simp [hnames], by simpa [hx] using hasked⟩

theorem listEntries_eq_ok {es : List (String × Bool)} (h : listEntries fs p = .ok es) :
    ∃ P, fs.stat p = .ok (P, .directory) ∧ es.map (·.1) = fs.names P ∧
      ∀ e ∈ es, fs.isDirectory? (p.child e.1) = .ok e.2 := by
  unfold listEntries Files.list at h
  cases hs : fs.stat p with
  | error f =>
    rw [hs] at h
    cases h
  | ok found =>
    obtain ⟨P, e⟩ := found
    rw [hs] at h
    cases e with
    | file c => cases h
    | link target => cases h
    | directory =>
      refine ⟨P, rfl, ?_⟩
      cases hm : (fs.names P).mapM
          (fun n => do return (n, ← fs.isDirectory? (p.child n)) : _ → Except Fault _) with
      | error f =>
        simp only [bind, Except.bind, pure, Except.pure] at h hm
        rw [hm] at h
        cases h
      | ok ys =>
        have hys : ys = es := by
          simp only [bind, Except.bind, pure, Except.pure] at h hm
          rw [hm] at h
          cases h
          rfl
        exact hys ▸ mapM_eq_ok hm

private theorem mapM_congr {α β : Type} {ask ask' : α → Except Fault β} {xs : List α}
    (h : ∀ x ∈ xs, ask' x = ask x) : xs.mapM ask' = xs.mapM ask := by
  induction xs with
  | nil => rfl
  | cons x xs ih =>
    rw [List.mapM_cons, List.mapM_cons, h x (by simp), ih fun y hy => h y (List.mem_cons_of_mem _ hy)]

/-- A listing is told by the names in the directory and by which of them are directories. -/
theorem listEntries_congr {P P' : Place} (h : fs.stat p = .ok (P, .directory))
    (h' : fs'.stat p = .ok (P', .directory)) (hnames : fs'.names P' = fs.names P)
    (hkinds : ∀ n ∈ fs.names P, fs'.isDirectory? (p.child n) = fs.isDirectory? (p.child n)) :
    listEntries fs' p = listEntries fs p := by
  have hlist : fs.list p = .ok (fs.names P) := by rw [Files.list, h]
  have hlist' : fs'.list p = .ok (fs.names P) := by simp only [Files.list, h', hnames]
  have hmapM : (fs.names P).mapM (fun n => do return (n, ← fs'.isDirectory? (p.child n))) =
      (fs.names P).mapM (fun n => do return (n, ← fs.isDirectory? (p.child n))) :=
    mapM_congr fun n hn => by rw [hkinds n hn]
  unfold listEntries
  rw [hlist, hlist']
  exact congrArg (Except.mapError (Failure.ofFault "Cannot list directory" p)) hmapM

theorem isPlain_of_listed (hfs : fs.WellFormed) {es : List (String × Bool)}
    (h : listEntries fs p = .ok es) : ∀ e ∈ es, Path.IsPlain e.1 := by
  obtain ⟨P, -, hnames, -⟩ := listEntries_eq_ok h
  intro e he
  have hmem : e.1 ∈ fs.names P := hnames ▸ List.mem_map_of_mem he
  obtain ⟨old, hold⟩ := (Files.mem_names fs P e.1).1 hmem
  exact (hfs.named hold).1

/-! ### Files -/

/-- What a file holds once it is written: what its template gives, or its own bytes. -/
def Yields (w : Walk) (fs : Files) (source : Path) (content : ByteArray) : Prop :=
  if FileName.isRendered w.vocabulary source.name then
    ∃ text, w.renderer.renderFileBy w.engine fs source w.bindings (some w.selection) = .ok text ∧
      content = text.toUTF8
  else fs.read source = .ok content

theorem read_of_yields {w : Walk} {source : Path} {content : ByteArray}
    (h : w.Yields fs source content) : ∃ bytes, fs.read source = .ok bytes := by
  unfold Yields at h
  split at h
  · obtain ⟨text, htext, -⟩ := h
    unfold Template.Renderer.renderFileBy at htext
    cases hread : fs.read source with
    | error f =>
      rw [hread] at htext
      cases f <;> cases htext
    | ok bytes => exact ⟨bytes, rfl⟩
  · exact ⟨content, h⟩

theorem file_cases (w : Walk) (source dest : Path) (fs : Files) :
    (∃ f, w.file source dest fs = (.error f, fs)) ∨
    ∃ content fs', w.Yields fs source content ∧
      Files.write (w.targetOf dest source.name) content fs = (.ok (), fs') ∧
      w.file source dest fs = (.ok (w.targetOf dest source.name), fs') := by
  have written : ∀ (action : String) (p : Path) (content : ByteArray),
      (∃ f, reported action p (Files.write p content) fs = (.error f, fs)) ∨
      ∃ fs', Files.write p content fs = (.ok (), fs') ∧
        reported action p (Files.write p content) fs = (.ok (), fs') := by
    intro action p content
    unfold reported
    rcases Files.write_cases p content fs with ⟨f, h⟩ | ⟨fs', h⟩ <;> rw [h]
    · exact .inl ⟨_, rfl⟩
    · exact .inr ⟨fs', rfl, rfl⟩
  unfold file Yields
  by_cases hrendered : FileName.isRendered w.vocabulary source.name
  · simp only [hrendered, if_true]
    cases hr : w.renderer.renderFileBy w.engine fs source w.bindings (some w.selection) with
    | error f => exact .inl ⟨f, rfl⟩
    | ok text =>
      rcases written "Cannot write file" (w.targetOf dest source.name) text.toUTF8 with
        ⟨f, h⟩ | ⟨fs', hwrite, h⟩
      · exact .inl ⟨f, by simp only [writeText, h]; rfl⟩
      · exact .inr ⟨_, fs', ⟨text, rfl, rfl⟩, hwrite, by simp only [writeText, h]; rfl⟩
  · simp only [hrendered]
    rcases Files.copy_cases source (w.targetOf dest source.name) fs with ⟨f, h⟩ | ⟨content, hread, h⟩
    · exact .inl ⟨_, by simp only [copyFile, reported, h]; rfl⟩
    · rcases Files.write_cases (w.targetOf dest source.name) content fs with ⟨f, hw⟩ | ⟨fs', hw⟩
      · exact .inl ⟨_, by simp only [copyFile, reported, h, hw]; rfl⟩
      · exact .inr ⟨content, fs', hread, hw, by simp only [copyFile, reported, h, hw]; rfl⟩

theorem file_of_yields {w : Walk} {source dest : Path} {content : ByteArray}
    (hyields : w.Yields fs source content)
    (hapart : ∀ a b e e', fs.stat source = .ok (a, e) →
      fs.stat (w.targetOf dest source.name) = .ok (b, e') → a ≠ b)
    (hwrite : Files.write (w.targetOf dest source.name) content fs = (.ok (), fs')) :
    w.file source dest fs = (.ok (w.targetOf dest source.name), fs') := by
  unfold Yields at hyields
  unfold file
  by_cases hrendered : FileName.isRendered w.vocabulary source.name
  · rw [if_pos hrendered] at hyields
    obtain ⟨text, htext, rfl⟩ := hyields
    simp only [hrendered, if_true, htext, writeText, reported, hwrite]
    rfl
  · rw [if_neg hrendered] at hyields
    have hcopy := Files.copy_of_read hyields hapart
    simp only [hrendered, copyFile, reported, hcopy, hwrite]
    rfl

/-! ### Entries -/

def includes (w : Walk) (e : String × Bool) : Bool :=
  if e.2 then DirectoryName.isIncluded w.vocabulary w.selection e.1
  else FileName.isIncluded w.vocabulary w.selection e.1

def outName (w : Walk) (e : String × Bool) : String :=
  if e.2 then DirectoryName.clean w.vocabulary e.1
  else FileName.destination w.vocabulary w.selection e.1

def RenamesPlainly (w : Walk) : Prop := ∀ r ∈ w.vocabulary.renamings, Path.IsPlain r.target

theorem outName_isPlain {w : Walk} (hw : w.RenamesPlainly) {e : String × Bool}
    (h : Path.IsPlain e.1) : Path.IsPlain (w.outName e) := by
  unfold outName
  split
  · exact DirectoryName.clean_isPlain w.vocabulary h
  · exact FileName.destination_isPlain w.selection hw h

theorem entry_skipped (w : Walk) (source dest : Path) (fs : Files) {e : String × Bool}
    (h : w.includes e = false) (descend : Path → Path → Report → Step Report) (r : Report) :
    w.entry descend source dest e r fs = (.ok (r.addSkipped (source.child e.1)), fs) := by
  obtain ⟨name, isDirectory⟩ := e
  cases isDirectory <;> simp_all [includes, entry]

theorem entry_directory (w : Walk) (source dest : Path) (fs : Files) (hn : Path.IsPlain name)
    (h : w.includes (name, true) = true) :
    (∃ f fs', Files.ensureDirectory (dest.child (w.outName (name, true))) fs = (.error f, fs') ∧
      ∀ descend r, w.entry descend source dest (name, true) r fs =
        (.error (.ofFault "Cannot create directory" (dest.child (w.outName (name, true))) f), fs')) ∨
    ∃ fs', Files.ensureDirectory (dest.child (w.outName (name, true))) fs = (.ok (), fs') ∧
      ∀ descend r, w.entry descend source dest (name, true) r fs =
        descend (source.child name) (dest.child (w.outName (name, true)))
          (r.addDirectory (dest.child (w.outName (name, true)))) fs' := by
  have hincluded : DirectoryName.isIncluded w.vocabulary w.selection name = true := h
  have htarget : dest.join (.ofText (DirectoryName.clean w.vocabulary name)) =
      dest.child (w.outName (name, true)) :=
    Path.join_ofText dest (DirectoryName.clean_isPlain w.vocabulary hn)
  unfold entry
  simp only [hincluded, if_true, htarget]
  unfold makeDirectory reported
  rcases Files.ensureDirectory (dest.child (w.outName (name, true))) fs with ⟨_ | ⟨⟨⟩⟩, fs'⟩
  · exact .inl ⟨_, fs', rfl, fun _ _ => rfl⟩
  · exact .inr ⟨fs', rfl, fun _ _ => rfl⟩

theorem entry_file {w : Walk} (hw : w.RenamesPlainly) (source dest : Path) (fs : Files)
    (hn : Path.IsPlain name) (h : w.includes (name, false) = true) :
    (∃ f, ∀ descend r, w.entry descend source dest (name, false) r fs = (.error f, fs)) ∨
    ∃ content fs', w.Yields fs (source.child name) content ∧
      Files.write (dest.child (w.outName (name, false))) content fs = (.ok (), fs') ∧
      ∀ descend r, w.entry descend source dest (name, false) r fs =
        (.ok (r.addFile (FileName.isRendered w.vocabulary name)
          (dest.child (w.outName (name, false)))), fs') := by
  have hincluded : FileName.isIncluded w.vocabulary w.selection name = true := h
  have htarget : w.targetOf dest (source.child name).name = dest.child (w.outName (name, false)) := by
    rw [Path.name_child]
    exact Path.join_ofText dest (outName_isPlain hw (e := (name, false)) hn)
  unfold entry
  simp only [hincluded, if_true]
  rcases file_cases w (source.child name) dest fs with ⟨f, hfile⟩ | ⟨content, fs', hyields, hwrite, hfile⟩
  · exact .inl ⟨f, fun _ _ => by rw [hfile]; rfl⟩
  · rw [htarget] at hwrite hfile
    exact .inr ⟨content, fs', hyields, hwrite, fun _ _ => by rw [hfile]; rfl⟩

theorem entry_of_file {w : Walk} (hw : w.RenamesPlainly) {source dest : Path} (hn : Path.IsPlain name)
    (h : w.includes (name, false) = true) {content : ByteArray}
    (hyields : w.Yields fs (source.child name) content)
    (hapart : ∀ a b e e', fs.stat (source.child name) = .ok (a, e) →
      fs.stat (dest.child (w.outName (name, false))) = .ok (b, e') → a ≠ b)
    (hwrite : Files.write (dest.child (w.outName (name, false))) content fs = (.ok (), fs'))
    (descend : Path → Path → Report → Step Report) (r : Report) :
    w.entry descend source dest (name, false) r fs =
      (.ok (r.addFile (FileName.isRendered w.vocabulary name)
        (dest.child (w.outName (name, false)))), fs') := by
  have hincluded : FileName.isIncluded w.vocabulary w.selection name = true := h
  have htarget : w.targetOf dest (source.child name).name = dest.child (w.outName (name, false)) := by
    rw [Path.name_child]
    exact Path.join_ofText dest (outName_isPlain hw (e := (name, false)) hn)
  have hfile : w.file (source.child name) dest fs =
      (.ok (w.targetOf dest (source.child name).name), fs') :=
    file_of_yields hyields (by rwa [htarget]) (by rwa [htarget])
  unfold entry
  simp only [hincluded, if_true, hfile, htarget]
  rfl

/-! ### Directories -/

/-- A directory cannot be asked for, is not there, cannot be made, cannot be listed, or is gone
through entry by entry. -/
theorem directory_cases (w : Walk) (depth : Nat) (source dest : Path) (r : Report) (fs : Files) :
    (∃ f, fs.exists? source = .error f ∧
      w.directory (depth + 1) source dest r fs = (.error (.fault f), fs)) ∨
    (fs.exists? source = .ok false ∧
      w.directory (depth + 1) source dest r fs = (.ok (r.addMissing source), fs)) ∨
    (∃ f fs', Files.ensureDirectory dest fs = (.error f, fs') ∧
      w.directory (depth + 1) source dest r fs =
        (.error (.ofFault "Cannot create directory" dest f), fs')) ∨
    ∃ fs', Files.ensureDirectory dest fs = (.ok (), fs') ∧
      ((∃ f, listEntries fs' source = .error f ∧
        w.directory (depth + 1) source dest r fs = (.error f, fs')) ∨
      ∃ es, listEntries fs' source = .ok es ∧
        w.directory (depth + 1) source dest r fs =
          entries (w.entry (w.directory depth) source dest) es r fs') := by
  rw [directory]
  rcases fs.exists? source with f | there
  · exact .inl ⟨f, rfl, rfl⟩
  cases there with
  | false => exact .inr (.inl ⟨rfl, rfl⟩)
  | true =>
    unfold makeDirectory reported
    rcases hmake : Files.ensureDirectory dest fs with ⟨_ | ⟨⟨⟩⟩, fs'⟩
    · exact .inr (.inr (.inl ⟨_, fs', rfl, rfl⟩))
    · refine .inr (.inr (.inr ⟨fs', rfl, ?_⟩))
      rcases hlist : listEntries fs' source with f | es
      · exact .inl ⟨f, rfl, by simp [Except.mapError, hlist]⟩
      · exact .inr ⟨es, rfl, by simp [Except.mapError, hlist]⟩

/-! ### Sessions -/

theorem materialize_of_error (w : Walk) {source dest : Path} {s : Session} {f : Failure}
    (h : w.run source dest s.files = (.error f, fs')) :
    w.materialize source dest s = (.error f, { s with files := fs' }) := by
  rw [materialize, Act.bind_run, Act.step, h]

theorem materialize_of_ok (w : Walk) {source dest : Path} {s : Session} {r : Report}
    (h : w.run source dest s.files = (.ok r, fs')) :
    (w.materialize source dest s).2.files = fs' ∧
      (∀ r', (w.materialize source dest s).1 = .ok r' → r' = r) ∧
      (r.missing = [] → w.materialize source dest s = (.ok r, { s with files := fs' })) := by
  have hrest : w.materialize source dest s =
      ((do
        for p in r.missing do
          Act.talk (Talk.tell .warning (missingText p))
        return r) : Act Report) { s with files := fs' } := by
    rw [materialize, Act.bind_run, Act.step, h]
  have hquiet : Act.Quiet (forIn r.missing PUnit.unit fun p _ => do
      Act.talk (Talk.tell .warning (missingText p))
      return ForInStep.yield PUnit.unit) :=
    Act.quiet_forIn _ fun _ _ => (Act.quiet_talk _).bind fun _ => Act.quiet_pure _
  rw [hrest, Act.bind_run]
  refine ⟨?_, ?_, fun hmissing => by rw [hmissing]; rfl⟩
  · have hfiles := hquiet { s with files := fs' }
    generalize forIn (m := Act) r.missing PUnit.unit _ { s with files := fs' } = done at hfiles ⊢
    rcases done with ⟨_ | _, s'⟩ <;> exact hfiles
  · intro r' hr'
    generalize forIn (m := Act) r.missing PUnit.unit _ { s with files := fs' } = done at hr'
    rcases done with ⟨_ | _, s'⟩
    · cases hr'
    · cases hr'
      rfl

/-! ### A small tree -/

def sampleFiles : Files where
  entries := [(["t"], .directory), (["t", "src.vue"], .directory),
    (["t", "src.vue", "a.txt"], .file "x".toUTF8), (["d"], .directory)]

def sampleWalk : Walk where
  vocabulary := ⟨["vue"], [], Vocabulary.defaultPassthrough, "j2", [], [⟨"vue", "a.txt", "b.txt"⟩]⟩
  renderer := {}
  selection := ⟨"vue", []⟩

def sampleSession : Session := ⟨sampleFiles, { width := 80 }⟩

theorem sampleFiles_wellFormed : sampleFiles.WellFormed := by
  refine Files.wellFormed_of_sound (by decide) ?_ (by decide)
  unfold Files.Sound
  simp [sampleFiles]
  decide

theorem sampleFiles_linkFree (place : Place) : sampleFiles.LinkFree place :=
  Files.linkFree_of_entries (by simp [sampleFiles]) place

theorem sampleWalk_renamesPlainly : sampleWalk.RenamesPlainly := by
  unfold RenamesPlainly
  decide

end Scaffold.Walk
