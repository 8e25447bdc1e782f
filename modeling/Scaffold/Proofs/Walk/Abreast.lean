import Scaffold.Proofs.Files.Regular
import Scaffold.Proofs.Files.Way
import Scaffold.Proofs.Walk.Overlay

set_option autoImplicit false

/-!
# Two walks side by side

Two trees may differ in what a walk leaves out: in all that is below a directory that does not fit
the selection, and in the bytes of a file that does not. Walks of the same source into the same
destination then do the same step by step, whether a step fails or not, and neither touches what
the trees differ in. Source and destination may overlap.
-/
namespace Scaffold.Walk
open Files

variable {f f' g g' : Files} {here out source dest : Path} {S D P : Place} {w : Walk}
  {r : Report} {rel : List String} {n : String}

/-! ### What is left out -/

/-- The place is below a directory that does not fit the selection. -/
def Hidden (w : Walk) (S place : Place) : Prop :=
  ∃ above n rest, place = S ++ (above ++ n :: rest) ∧ rest ≠ [] ∧ w.includes (n, true) = false

/-- In both trees the place is that of a file that does not fit the selection. -/
def Unread (w : Walk) (S : Place) (f g : Files) (place : Place) : Prop :=
  ∃ above n c c', place = S ++ (above ++ [n]) ∧ w.includes (n, false) = false ∧
    f.get? place = some (.file c) ∧ g.get? place = some (.file c')

/-- Two trees that differ, if at all, in what is left out of a source. -/
structure Twins (w : Walk) (S : Place) (f g : Files) : Prop where
  current : g.current = f.current
  place : ∀ place, g.get? place = f.get? place ∨ w.Hidden S place ∨ w.Unread S f g place

theorem not_hidden_of_included (h : ∀ m ∈ rel, w.includes (m, true) = true) (n : String) :
    ¬ w.Hidden S (S ++ (rel ++ [n])) := by
  rintro ⟨above, m, rest, hplace, hrest, hout⟩
  obtain ⟨front, last, rfl⟩ := (List.eq_nil_or_concat' rest).resolve_left hrest
  have hnames : rel ++ [n] = (above ++ m :: front) ++ [last] := by
    simpa using List.append_cancel_left hplace
  obtain ⟨rfl, -⟩ := List.append_inj' hnames rfl
  rw [h m (by simp)] at hout
  cases hout

theorem render_same (h : f.Same g) (renderer : Template.Renderer) (e : Template.Engine) :
    renderer.renderBy e g = renderer.renderBy e f := by
  have hloader : renderer.loader g = renderer.loader f := by
    unfold Template.Renderer.loader
    congr 1
    funext directory name
    unfold Template.loaderOf
    cases Template.templateNames? name with
    | none => rfl
    | some names =>
      simp only [isFile?_congr (h.alike _), read_congr (h.alike _)]
  funext text bindings selection name
  simp only [Template.Renderer.renderBy, hloader]

/-- Two trees to walk at the same time: what they differ in is left out, and is not in the
destination. -/
structure Abreast (w : Walk) (S D : Place) (f g : Files) : Prop where
  left : f.WellFormed
  right : g.WellFormed
  twins : w.Twins S f g
  links : ∀ rel target, f.get? (S ++ rel) = some (.link target) → w.Hidden S (S ++ rel)
  free : f.LinkFree D
  dest : ∀ rel, g.get? (D ++ rel) = f.get? (D ++ rel)
  render : w.renderer.directory = none ∨ f.Same g

theorem Twins.beside (h : w.Twins S f g) (hf : f.Extends f') (hg : g.Extends g')
    (hbeside : Beside f g f' g') : w.Twins S f' g' := by
  refine ⟨by rw [hg.current, hf.current, h.current], fun place => ?_⟩
  rcases hbeside place with ⟨hleft, hright⟩ | hsame
  · unfold Unread
    rw [hleft, hright]
    exact h.place place
  · exact .inl hsame

theorem Abreast.later (h : w.Abreast S D f g) (hf : Grown D f f') (hg : Grown D g g')
    (hbeside : Beside f g f' g') : w.Abreast S D f' g' where
  left := hf.wellFormed
  right := hg.wellFormed
  twins := h.twins.beside hf.later hg.later hbeside
  links rel target hlink := h.links rel target (hf.links hlink)
  free := hf.linkFree h.free
  dest rel := hbeside.same (h.dest rel)
  render := h.render.imp_right fun hsame =>
    ⟨(h.twins.beside hf.later hg.later hbeside).current, fun place => hbeside.same (hsame.get? place)⟩

structure Together {α : Type} (D : Place) (f g : Files) (x y : Except Failure α × Files) : Prop where
  result : y.1 = x.1
  left : Grown D f x.2
  right : Grown D g y.2
  beside : Beside f g x.2 y.2

theorem Abreast.stay {α : Type} (h : w.Abreast S D f g) (r : Except Failure α) :
    Together D f g (r, f) (r, g) :=
  ⟨rfl, .refl D h.left, .refl D h.right, .refl f g⟩

theorem Together.trans {α β : Type} {r : Except Failure α} {x y : Except Failure β × Files}
    (h : Together D f g (r, f') (r, g')) (h' : Together D f' g' x y) : Together D f g x y :=
  ⟨h'.result, h.left.trans h'.left, h.right.trans h'.right, h.beside.trans h'.beside⟩

theorem Together.same {α : Type} {x y : Except Failure α × Files} (h : Together D f g x y)
    (hsame : f.Same g) : x.2.Same y.2 := by
  refine ⟨?_, fun q => h.beside.same (hsame.get? q)⟩
  rw [h.right.later.current, h.left.later.current, hsame.current]

/-! ### A directory of the source and one of the destination -/

/-- The walks have come to the same directory, by names that all fit the selection. -/
structure Level (w : Walk) (S D : Place) (f g : Files) (here out : Path) (rel : List String)
    (P : Place) : Prop extends Abreast w S D f g where
  included : ∀ m ∈ rel, w.includes (m, true) = true
  atHere : f.stat here = .ok (S ++ rel, .directory)
  atHere' : g.stat here = .ok (S ++ rel, .directory)
  normal : out.IsNormal
  below : D <+: P
  atOut : f.stat out = .ok (P, .directory)
  atOut' : g.stat out = .ok (P, .directory)

namespace Level

theorem later (h : w.Level S D f g here out rel P) (hf : Grown D f f') (hg : Grown D g g')
    (hbeside : Beside f g f' g') : w.Level S D f' g' here out rel P where
  toAbreast := h.toAbreast.later hf hg hbeside
  included := h.included
  atHere := stat_directory_extends h.atHere hf.later
  atHere' := stat_directory_extends h.atHere' hg.later
  normal := h.normal
  below := h.below
  atOut := stat_directory_extends h.atOut hf.later
  atOut' := stat_directory_extends h.atOut' hg.later

section
variable (h : w.Level S D f g here out rel P)
include h

theorem place (n : String) :
    g.get? (S ++ rel ++ [n]) = f.get? (S ++ rel ++ [n]) ∨
      w.includes (n, false) = false ∧ ∃ c c', f.get? (S ++ rel ++ [n]) = some (.file c) ∧
        g.get? (S ++ rel ++ [n]) = some (.file c') := by
  rw [List.append_assoc]
  rcases h.twins.place (S ++ (rel ++ [n])) with hsame | hhidden | ⟨above, m, c, c', hplace, hout, hc, hc'⟩
  · exact .inl hsame
  · exact absurd hhidden (not_hidden_of_included h.included n)
  · have hnames := List.append_cancel_left hplace
    obtain ⟨-, hname⟩ := List.append_inj' hnames rfl
    obtain rfl : n = m := by simpa using hname
    exact .inr ⟨hout, c, c', hc, hc'⟩

theorem noLink (n target : String) : f.get? (S ++ rel ++ [n]) ≠ some (.link target) := by
  rw [List.append_assoc]
  exact fun hlink => not_hidden_of_included h.included n (h.links _ target hlink)

theorem noLink' (n target : String) : g.get? (S ++ rel ++ [n]) ≠ some (.link target) := by
  rcases h.place n with hsame | ⟨-, c, c', -, hc'⟩
  · rw [hsame]
    exact h.noLink n target
  · rw [hc']
    simp

theorem outPlace (m : String) : g.get? (P ++ [m]) = f.get? (P ++ [m]) := by
  obtain ⟨k, rfl⟩ := h.below
  rw [List.append_assoc]
  exact h.dest _

theorem outFree (m target : String) : f.get? (P ++ [m]) ≠ some (.link target) := by
  obtain ⟨k, rfl⟩ := h.below
  rw [List.append_assoc]
  exact h.free _ target

theorem outFree' (m target : String) : g.get? (P ++ [m]) ≠ some (.link target) := by
  rw [h.outPlace]
  exact h.outFree m target

theorem listed : listEntries g here = listEntries f here := by
  refine listEntries_congr h.atHere h.atHere' (names_congr h.left h.right fun n => ?_) fun n hn => ?_
  · rcases h.place n with hsame | ⟨-, c, c', hc, hc'⟩
    · rw [hsame]
    · exact iff_of_true ⟨_, hc'⟩ ⟨_, hc⟩
  · obtain ⟨e, he⟩ := (mem_names f (S ++ rel) n).1 hn
    have hup : n ≠ ".." := (h.left.named he).1.2.2.2
    rw [isDirectory?_child_eq h.atHere hup (h.noLink n),
      isDirectory?_child_eq h.atHere' hup (h.noLink' n)]
    rcases h.place n with hsame | ⟨-, c, c', hc, hc'⟩
    · rw [hsame]
    · rw [hc, hc']
      simp only [Option.some.injEq, reduceCtorEq]

end

theorem puts (h : w.Level S D f g here out rel P) {m : String} {e : Entry} (hf : Puts P m e f f')
    (hg : Puts P m e g g') (hlink : ∀ target, e ≠ .link target) {α : Type} (r : Except Failure α) :
    Together D f g (r, f') (r, g') :=
  ⟨rfl, (hf.grown hlink).mono h.below, (hg.grown hlink).mono h.below, hf.beside hg⟩

theorem ensureDirectory (h : w.Level S D f g here out rel P) {m : String} (hm : Path.IsPlain m) :
    (∃ fault, Files.ensureDirectory (out.child m) f = (.error fault, f) ∧
      Files.ensureDirectory (out.child m) g = (.error fault, g)) ∨
    ∃ f' g', Files.ensureDirectory (out.child m) f = (.ok (), f') ∧
      Files.ensureDirectory (out.child m) g = (.ok (), g') ∧
      Puts P m .directory f f' ∧ Puts P m .directory g g' ∧
      f'.stat (out.child m) = .ok (P ++ [m], .directory) ∧
      g'.stat (out.child m) = .ok (P ++ [m], .directory) := by
  have hresult : (Files.ensureDirectory (out.child m) g).1 =
      (Files.ensureDirectory (out.child m) f).1 := by
    rw [ensureDirectory_child_eq h.atOut hm.2.2.2 (h.outFree m),
      ensureDirectory_child_eq h.atOut' hm.2.2.2 (h.outFree' m), h.outPlace]
    cases refusal out m with
    | some fault => rfl
    | none =>
      cases f.get? (P ++ [m]) with
      | none => rfl
      | some e => cases e <;> rfl
  rcases ensureDirectory_lands h.left h.atOut hm (h.outFree m) with
    ⟨fault, hno⟩ | ⟨f', hok, hputs, hstat⟩ <;>
  rcases ensureDirectory_lands h.right h.atOut' hm (h.outFree' m) with
    ⟨fault', hno'⟩ | ⟨g', hok', hputs', hstat'⟩
  · rw [hno, hno'] at hresult
    cases hresult
    exact .inl ⟨_, hno, hno'⟩
  · rw [hno, hok'] at hresult
    cases hresult
  · rw [hok, hno'] at hresult
    cases hresult
  · exact .inr ⟨f', g', hok, hok', hputs, hputs', hstat, hstat'⟩

/-- A change of both trees fails without a trace, or puts a file under a name in the destination. -/
def Writes (P : Place) (m : String) (f g : Files) (x y : Except Fault Unit × Files) : Prop :=
  (∃ fault, x = (.error fault, f) ∧ y = (.error fault, g)) ∨
  ∃ c f' g', x = (.ok (), f') ∧ y = (.ok (), g') ∧ Puts P m (.file c) f f' ∧ Puts P m (.file c) g g'

theorem Writes.reported {m action : String} {p : Path} {change : Files.Change Unit}
    (h : w.Level S D f g here out rel P) (hwrites : Writes P m f g (change f) (change g)) :
    Together D f g (reported action p change f) (reported action p change g) := by
  unfold Walk.reported
  rcases hwrites with ⟨fault, hf, hg⟩ | ⟨c, f', g', hf, hg, hputs, hputs'⟩ <;> rw [hf, hg]
  · exact h.stay _
  · exact h.puts hputs hputs' (by simp) _

theorem write (h : w.Level S D f g here out rel P) {m : String} (hm : Path.IsPlain m)
    (c : ByteArray) :
    Writes P m f g (Files.write (out.child m) c f) (Files.write (out.child m) c g) := by
  have hresult : (Files.write (out.child m) c g).1 = (Files.write (out.child m) c f).1 := by
    rw [write_child_eq h.atOut hm.2.2.2 (h.outFree m),
      write_child_eq h.atOut' hm.2.2.2 (h.outFree' m), h.outPlace]
    cases refusal out m with
    | some fault => rfl
    | none => split <;> rfl
  rcases write_lands h.left h.atOut hm (h.outFree m) h.normal c with
    ⟨fault, hno⟩ | ⟨f', hok, hputs⟩ <;>
  rcases write_lands h.right h.atOut' hm (h.outFree' m) h.normal c with
    ⟨fault', hno'⟩ | ⟨g', hok', hputs'⟩
  · rw [hno, hno'] at hresult
    cases hresult
    exact .inl ⟨_, hno, hno'⟩
  · rw [hno, hok'] at hresult
    cases hresult
  · rw [hok, hno'] at hresult
    cases hresult
  · exact .inr ⟨c, f', g', hok, hok', hputs, hputs'⟩

theorem copy (h : w.Level S D f g here out rel P) {m : String} (hm : Path.IsPlain m)
    (hsource : g.stat source = f.stat source) :
    Writes P m f g (Files.copy source (out.child m) f) (Files.copy source (out.child m) g) := by
  have hread : g.read source = f.read source := by
    unfold Files.read
    rw [hsource]
  have htarget : g.stat (out.child m) = f.stat (out.child m) := by
    rw [stat_child_eq h.atOut hm.2.2.2 (h.outFree m), stat_child_eq h.atOut' hm.2.2.2 (h.outFree' m),
      h.outPlace]
  unfold Files.copy
  simp only [hsource, hread, htarget]
  split_ifs
  · exact .inl ⟨_, rfl, rfl⟩
  · cases f.read source with
    | error fault => exact .inl ⟨fault, rfl, rfl⟩
    | ok c => exact h.write hm c

theorem file (h : w.Level S D f g here out rel P) (hw : w.RenamesPlainly) (hn : Path.IsPlain n)
    (hin : w.includes (n, false) = true) :
    Together D f g (w.file (here.child n) out f) (w.file (here.child n) out g) := by
  have hm : Path.IsPlain (w.outName (n, false)) := outName_isPlain hw (e := (n, false)) hn
  have htarget : w.targetOf out (here.child n).name = out.child (w.outName (n, false)) := by
    rw [Path.name_child]
    exact Path.join_ofText out hm
  have hsame : g.get? (S ++ rel ++ [n]) = f.get? (S ++ rel ++ [n]) := by
    rcases h.place n with hsame | ⟨hout, -⟩
    · exact hsame
    · rw [hin] at hout
      cases hout
  have hsource : g.stat (here.child n) = f.stat (here.child n) := by
    rw [stat_child_eq h.atHere hn.2.2.2 (h.noLink n), stat_child_eq h.atHere' hn.2.2.2 (h.noLink' n),
      hsame]
  have hread : g.read (here.child n) = f.read (here.child n) := by
    unfold Files.read
    rw [hsource]
  have hrender : w.renderer.renderFileBy w.engine g (here.child n) =
      w.renderer.renderFileBy w.engine f (here.child n) := by
    rcases h.render with hnone | hsame
    · exact renderFile_congr hnone w.engine hread
    · funext bindings selection
      simp only [Template.Renderer.renderFileBy, hread, render_same hsame]
  have hmapped : ∀ {x y : Except Failure Unit × Files}, Together D f g x y →
      Together D f g (x.1.map fun _ => out.child (w.outName (n, false)), x.2)
        (y.1.map fun _ => out.child (w.outName (n, false)), y.2) :=
    fun hxy => ⟨by rw [hxy.result], hxy.left, hxy.right, hxy.beside⟩
  unfold Walk.file
  simp only [htarget, hrender]
  refine hmapped ?_
  split
  · cases w.renderer.renderFileBy w.engine f (here.child n) w.bindings (some w.selection) with
    | error fault => exact h.stay _
    | ok text => exact Writes.reported h (h.write hm text.toUTF8)
  · exact Writes.reported h (h.copy hm hsource)

theorem child (h : w.Level S D f g here out rel P) (hin : w.includes (n, true) = true)
    (hn : f.stat (here.child n) = .ok (S ++ rel ++ [n], .directory)) (hup : n ≠ "..") {m : String}
    (hm : Path.IsPlain m) (hf : f.stat (out.child m) = .ok (P ++ [m], .directory))
    (hg : g.stat (out.child m) = .ok (P ++ [m], .directory)) :
    w.Level S D f g (here.child n) (out.child m) (rel ++ [n]) (P ++ [m]) := by
  have hplace := isDirectory_of_stat h.left hn
  have htakes := (stat_child_inv h.atHere hup (h.noLink n) hn).1
  have hplace' : g.get? (S ++ rel ++ [n]) = some .directory := by
    rcases h.place n with hsame | ⟨-, c, c', hc, -⟩
    · rw [hsame, hplace]
    · rw [hc] at hplace
      cases hplace
  have hn' : g.stat (here.child n) = .ok (S ++ rel ++ [n], .directory) :=
    stat_child h.atHere' hup htakes hplace' (by simp)
  refine ⟨h.toAbreast, ?_, ?_, ?_, h.normal.child hm, h.below.trans (List.prefix_append P [m]), hf, hg⟩
  · intro k hk
    rcases List.mem_append.1 hk with hk | hk
    · exact h.included k hk
    · rwa [List.mem_singleton.1 hk]
  · rwa [← List.append_assoc]
  · rwa [← List.append_assoc]

end Level

/-! ### Steps and runs -/

theorem entry_directory_eq (w : Walk) (source dest : Path) (fs : Files) (hn : Path.IsPlain n)
    (h : w.includes (n, true) = true) (descend : Path → Path → Report → Step Report) (r : Report) :
    w.entry descend source dest (n, true) r fs =
      match Files.ensureDirectory (dest.child (w.outName (n, true))) fs with
      | (.error fault, fs') =>
        (.error (.ofFault "Cannot create directory" (dest.child (w.outName (n, true))) fault), fs')
      | (.ok (), fs') =>
        descend (source.child n) (dest.child (w.outName (n, true)))
          (r.addDirectory (dest.child (w.outName (n, true)))) fs' := by
  rcases entry_directory w source dest fs hn h with ⟨fault, fs', hmake, hentry⟩ | ⟨fs', hmake, hentry⟩
  · rw [hmake, hentry]
  · rw [hmake, hentry]

theorem entry_file_eq (w : Walk) (source dest : Path) (fs : Files)
    (h : w.includes (n, false) = true) (descend : Path → Path → Report → Step Report) (r : Report) :
    w.entry descend source dest (n, false) r fs =
      match w.file (source.child n) dest fs with
      | (.error fault, fs') => (.error fault, fs')
      | (.ok target, fs') => (.ok (r.addFile (FileName.isRendered w.vocabulary n) target), fs') := by
  have hincluded : FileName.isIncluded w.vocabulary w.selection n = true := h
  unfold entry
  simp only [hincluded, if_true]
  rfl

theorem directory_made (w : Walk) (depth : Nat) (r : Report) {Q : Place}
    (hhere : f.stat here = .ok (Q, .directory)) (hmake : Files.ensureDirectory out f = (.ok (), f')) :
    w.directory (depth + 1) here out r f =
      match listEntries f' here with
      | .error fault => (.error fault, f')
      | .ok es => entries (w.entry (w.directory depth) here out) es r f' := by
  rw [directory, exists_of_stat hhere]
  simp only [makeDirectory, reported, hmake]
  rfl

/-- A way to walk that does the same in two trees wherever it has come to the same directory. -/
def Accords (w : Walk) (S D : Place) (descend : Path → Path → Report → Step Report) : Prop :=
  ∀ {f g : Files} {here out : Path} {rel : List String} {P : Place} (r : Report),
    w.Level S D f g here out rel P → Together D f g (descend here out r f) (descend here out r g)

section
variable (hw : w.RenamesPlainly) {descend : Path → Path → Report → Step Report}
  (hdescend : w.Accords S D descend)
include hw hdescend

theorem entry_accords (h : w.Level S D f g here out rel P) {e : String × Bool}
    (he : Path.IsPlain e.1)
    (hthere : e.2 = true → f.stat (here.child e.1) = .ok (S ++ rel ++ [e.1], .directory)) :
    Together D f g (w.entry descend here out e r f) (w.entry descend here out e r g) := by
  obtain ⟨n, isDirectory⟩ := e
  cases hin : w.includes (n, isDirectory) with
  | false =>
    rw [entry_skipped w here out f hin, entry_skipped w here out g hin]
    exact h.stay _
  | true =>
    cases isDirectory with
    | true =>
      have hm : Path.IsPlain (w.outName (n, true)) := DirectoryName.clean_isPlain w.vocabulary he
      rw [entry_directory_eq w here out f he hin, entry_directory_eq w here out g he hin]
      rcases h.ensureDirectory hm with
        ⟨fault, hf, hg⟩ | ⟨f', g', hf, hg, hputs, hputs', hstat, hstat'⟩ <;> rw [hf, hg]
      · exact h.stay _
      · have hmade : Together D f g ((.ok r : Except Failure Report), f') (.ok r, g') :=
          h.puts hputs hputs' (by simp) _
        have hlater := h.later hmade.left hmade.right hmade.beside
        have hthere' := stat_directory_extends (hthere rfl) hputs.later
        exact hmade.trans (hdescend _ (hlater.child hin hthere' he.2.2.2 hm hstat hstat'))
    | false =>
      have hfile := h.file hw he hin
      rw [entry_file_eq w here out f hin, entry_file_eq w here out g hin]
      rcases hx : w.file (here.child n) out f with ⟨res, f'⟩
      rcases hy : w.file (here.child n) out g with ⟨res', g'⟩
      rw [hx, hy] at hfile
      obtain rfl : res' = res := hfile.result
      cases res' with
      | error fault => exact ⟨rfl, hfile.left, hfile.right, hfile.beside⟩
      | ok target => exact ⟨rfl, hfile.left, hfile.right, hfile.beside⟩

theorem entries_accord {es : List (String × Bool)} (h : w.Level S D f g here out rel P)
    (hes : ∀ e ∈ es, Path.IsPlain e.1 ∧
      (e.2 = true → f.stat (here.child e.1) = .ok (S ++ rel ++ [e.1], .directory))) :
    Together D f g (entries (w.entry descend here out) es r f)
      (entries (w.entry descend here out) es r g) := by
  induction es generalizing r f g with
  | nil => exact h.stay _
  | cons e es ih =>
    obtain ⟨hplain, hthere⟩ := hes e (by simp)
    have hfirst := entry_accords hw hdescend (r := r) h hplain hthere
    rw [entries, entries]
    rcases hx : w.entry descend here out e r f with ⟨res, f'⟩
    rcases hy : w.entry descend here out e r g with ⟨res', g'⟩
    rw [hx, hy] at hfirst
    obtain rfl : res' = res := hfirst.result
    cases res' with
    | error fault => exact hfirst
    | ok r' =>
      refine hfirst.trans (ih (h.later hfirst.left hfirst.right hfirst.beside) fun e he => ?_)
      obtain ⟨hplain, hthere⟩ := hes e (List.mem_cons_of_mem _ he)
      exact ⟨hplain, fun hdir => stat_directory_extends (hthere hdir) hfirst.left.later⟩

end

theorem directory_accords (hw : w.RenamesPlainly) (depth : Nat) :
    w.Accords S D (w.directory depth) := by
  induction depth with
  | zero => exact fun r h => h.stay _
  | succ depth ih =>
    intro f g here out rel P r h
    rw [directory_made w depth r h.atHere (ensureDirectory_of_stat h.atOut),
      directory_made w depth r h.atHere' (ensureDirectory_of_stat h.atOut'), h.listed]
    cases hlist : listEntries f here with
    | error fault => exact h.stay _
    | ok es =>
      refine entries_accord hw ih h fun e he => ⟨isPlain_of_listed h.left hlist e he, fun hdir => ?_⟩
      obtain ⟨Q, -, -, hkinds⟩ := listEntries_eq_ok hlist
      obtain ⟨E, hE⟩ := isDirectory?_eq_true.1 (hdir ▸ hkinds e he)
      have hup : e.1 ≠ ".." := (isPlain_of_listed h.left hlist e he).2.2.2
      obtain ⟨-, rfl, -⟩ := stat_child_inv h.atHere hup (h.noLink e.1) hE
      exact hE

theorem run_of_fault (w : Walk) {fault : Fault} (hsource : f.stat source = .ok (S, .directory))
    (hmake : ensureDirectory dest f = (.error fault, f')) :
    w.run source dest f = (.error (.ofFault "Cannot create directory" dest fault), f') := by
  have hlimit : w.run source dest f = w.directory (pathLimit - 1 + 1) source dest {} f := rfl
  rw [hlimit, directory, exists_of_stat hsource]
  simp only [makeDirectory, reported, hmake]
  rfl

theorem run_of_made (w : Walk) (hsource : f.stat source = .ok (S, .directory))
    (hmake : ensureDirectory dest f = (.ok (), f')) (hlater : f.Extends f')
    (hdest : f'.stat dest = .ok (D, .directory)) : w.run source dest f = w.run source dest f' := by
  have hlimit : ∀ fs, w.run source dest fs = w.directory (pathLimit - 1 + 1) source dest {} fs :=
    fun _ => rfl
  rw [hlimit, hlimit, directory_made w _ {} hsource hmake,
    directory_made w _ {} (stat_directory_extends hsource hlater) (ensureDirectory_of_stat hdest)]

/-! ### One tree twice -/

theorem run_of_no_directory (w : Walk) (hdest : f.stat dest = .ok (D, .directory))
    (hsource : ∀ S, f.stat source ≠ .ok (S, .directory)) :
    w.run source dest f =
      (match f.exists? source with
        | .error fault => .error (.fault fault)
        | .ok false => .ok (({} : Report).addMissing source)
        | .ok true => .error (.ofFault "Cannot list directory" source .notDirectory), f) := by
  have hlimit : w.run source dest f = w.directory (pathLimit - 1 + 1) source dest {} f := rfl
  have hmake := ensureDirectory_of_stat hdest
  rw [hlimit, directory]
  cases hexists : f.exists? source with
  | error fault => rfl
  | ok there =>
    cases there with
    | false => rfl
    | true =>
      have hlist : listEntries f source =
          .error (.ofFault "Cannot list directory" source .notDirectory) := by
        unfold exists? asks at hexists
        unfold listEntries list
        cases hs : f.stat source with
        | error fault =>
          rw [hs] at hexists
          by_cases habsent : fault.isAbsence = true <;> simp [habsent] at hexists
        | ok found =>
          obtain ⟨S, e⟩ := found
          cases e with
          | directory => exact absurd hs (hsource S)
          | file c => rfl
          | link target => rfl
      simp only [makeDirectory, reported, hmake, Except.mapError, hlist]

theorem run_same (hw : w.RenamesPlainly) (hf : f.Regular) (hg : g.Regular) (h : f.Same g)
    (hdest : dest.IsNormal) (hD : f.stat dest = .ok (D, .directory)) :
    Together D f g (w.run source dest f) (w.run source dest g) := by
  have hD' : g.stat dest = .ok (D, .directory) := by rw [stat_congr (h.alike dest), hD]
  have hstat : g.stat source = f.stat source := stat_congr (h.alike source)
  have habreast : ∀ S, w.Abreast S D f g := fun S =>
    { left := hf.toWellFormed
      right := hg.toWellFormed
      twins := ⟨h.current, fun place => .inl (h.get? place)⟩
      links := fun rel target hlink => absurd hlink (hf.noLink _ _)
      free := hf.linkFree D
      dest := fun rel => h.get? _
      render := .inr h }
  by_cases hsource : ∃ S, f.stat source = .ok (S, .directory)
  · obtain ⟨S, hS⟩ := hsource
    have hlevel : w.Level S D f g source dest [] D :=
      { toAbreast := habreast S
        included := by simp
        atHere := by simpa using hS
        atHere' := by simpa [hstat] using hS
        normal := hdest
        below := List.prefix_rfl
        atOut := hD
        atOut' := hD' }
    exact directory_accords hw pathLimit {} hlevel
  · have hnone : ∀ S, f.stat source ≠ .ok (S, .directory) := fun S hS => hsource ⟨S, hS⟩
    rw [run_of_no_directory w hD hnone, run_of_no_directory w hD' (by rwa [hstat]),
      exists?_congr (h.alike source)]
    exact (habreast []).stay _

/-! ### Sessions -/

theorem materialize_congr (w : Walk) {source dest : Path} {s : Session}
    (h : (w.run source dest g).1 = (w.run source dest s.files).1) :
    let done := w.materialize source dest s
    let done' := w.materialize source dest { s with files := g }
    done'.1 = done.1 ∧ done'.2.terminal = done.2.terminal ∧
      done.2.files = (w.run source dest s.files).2 ∧ done'.2.files = (w.run source dest g).2 := by
  obtain ⟨fs, t⟩ := s
  have haside : ∀ r : Report, ((do
      for p in r.missing do
        Act.talk (Talk.tell .warning (missingText p))
      return r) : Act Report).Aside := by
    intro r
    refine (Act.aside_forIn _ fun p _ => ?_).bind fun _ => Act.aside_pure r
    exact (Act.aside_talk _).bind fun _ => Act.aside_pure _
  simp only [materialize, Act.bind_run, Act.step]
  rcases hx : w.run source dest fs with ⟨res, f'⟩
  rcases hy : w.run source dest g with ⟨res', g'⟩
  rw [hx, hy] at h
  obtain rfl : res' = res := h
  cases res' with
  | error fault => exact ⟨rfl, rfl, rfl, rfl⟩
  | ok r =>
    obtain ⟨res, t', hrest⟩ := haside r t
    simp only [Act.bind_run] at hrest
    simp only [hrest]
    exact ⟨trivial, trivial, trivial, trivial⟩

end Scaffold.Walk
