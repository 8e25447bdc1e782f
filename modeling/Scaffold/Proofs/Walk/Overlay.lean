import Scaffold.Proofs.Walk.Order

set_option autoImplicit false

/-!
# What a walk makes of its destination

After each of its visits, a walk has laid over the destination what it visited so far: the image of
a directory is a directory, the image of files holds what the last of them yields, and all else is
as before.
-/
namespace Scaffold.Walk
open Files

variable {fs fs₁ fs' : Files} {source dest : Path} {S D : Place} {w : Walk} {r r' : Report}

/-! ### Visits and their images -/

def lastName (rel : List String) : String := rel.getLast?.getD ""

theorem lastName_concat (above : List String) (n : String) : lastName (above ++ [n]) = n := by
  simp [lastName]

theorem name_under {rel : List String} (h : rel ≠ []) (source : Path) :
    (source.under rel).name = lastName rel := by
  obtain ⟨above, n, rfl⟩ := (List.eq_nil_or_concat' rel).resolve_left h
  rw [Path.under_concat, Path.name_child, lastName_concat]

/-- The names that lead from the destination to where an entry comes out. -/
def image (w : Walk) (v : List String × Bool) : List String :=
  v.1.dropLast.map (fun n => w.outName (n, true)) ++ [w.outName (lastName v.1, v.2)]

def takes (w : Walk) (v : List String × Bool) : Bool := w.includes (lastName v.1, v.2)

theorem image_directory (w : Walk) (above : List String) (n : String) :
    w.image (above ++ [n], true) = (above ++ [n]).map fun n => w.outName (n, true) := by
  simp [image, lastName_concat]

theorem mem_visits {v : List String × Bool} :
    v ∈ w.visits fs S ↔ v.1 ≠ [] ∧ (∃ e, fs.get? (S ++ v.1) = some e) ∧
      v.2 = decide (fs.get? (S ++ v.1) = some .directory) ∧
      ∀ n ∈ v.1.dropLast, w.includes (n, true) = true := by
  obtain ⟨rel, isDirectory⟩ := v
  simp only [visits, List.mem_map, List.mem_filter, mem_below, List.all_eq_true, Prod.mk.injEq]
  constructor
  · rintro ⟨rel', ⟨⟨hne, he⟩, hall⟩, rfl, rfl⟩
    exact ⟨hne, he, rfl, hall⟩
  · rintro ⟨hne, he, hkind, hall⟩
    exact ⟨rel, ⟨⟨hne, he⟩, hall⟩, rfl, hkind.symm⟩

theorem visits_rising (w : Walk) (hfs : fs.WellFormed) (S : Place) :
    (w.visits fs S).Pairwise fun v v' => v.1 < v'.1 := by
  rw [visits, List.pairwise_map]
  exact (below_rising hfs S).filter _

/-- A directory is visited before what is below it. -/
theorem above_visited (hfs : fs.WellFormed) {front back : List (List String × Bool)}
    {above : List String} {n : String} {isDirectory : Bool}
    (hvisits : w.visits fs S = front ++ (above ++ [n], isDirectory) :: back) (habove : above ≠ []) :
    (above, true) ∈ front ∧ w.takes (above, true) = true := by
  have hmem : (above ++ [n], isDirectory) ∈ w.visits fs S := by simp [hvisits]
  obtain ⟨-, ⟨e, he⟩, -, hall⟩ := mem_visits.1 hmem
  rw [List.dropLast_concat] at hall
  rw [← List.append_assoc] at he
  have hdir := hfs.inside he
  have hvisited : (above, true) ∈ w.visits fs S :=
    mem_visits.2 ⟨habove, ⟨_, hdir⟩, by simp [hdir],
      fun m hm => hall m (List.dropLast_subset _ hm)⟩
  obtain ⟨up, m, rfl⟩ := List.eq_nil_or_concat' above |>.resolve_left habove
  refine ⟨?_, by simpa [takes, lastName_concat] using hall m (by simp)⟩
  rw [hvisits, List.mem_append, List.mem_cons] at hvisited
  rcases hvisited with hfront | hsame | hback
  · exact hfront
  · exact absurd (congrArg (fun v => v.1.length) hsame) (by simp)
  · -- Later visits are to later places, but names that go on come after those that they go on from.
    have hrising := visits_rising w hfs S
    rw [hvisits, List.pairwise_append, List.pairwise_cons] at hrising
    have hbefore := @List.append_left_lt String _ (up ++ [m]) _ _ (List.nil_lt_cons n [])
    rw [List.append_nil] at hbefore
    exact absurd (hrising.2.1.1 _ hback) (lt_asymm hbefore)

/-! ### The overlay -/

/-- The files are as they were with these visits laid over them: `content` says of each file what
it may come out as. -/
structure Overlay (w : Walk) (content : List String → ByteArray → Prop) (dest : Path) (D : Place)
    (fs₁ : Files) (vs : List (List String × Bool)) (fs : Files) : Prop where
  grown : Grown D fs₁ fs
  directory : ∀ v ∈ vs, v.2 = true → w.takes v = true →
    fs.stat (dest.under (w.image v)) = .ok (D ++ w.image v, .directory)
  file : ∀ (front back : List (List String × Bool)) (v : List String × Bool),
    vs = front ++ v :: back → v.2 = false → w.takes v = true →
    (∀ v' ∈ back, v'.2 = false → w.takes v' = true → w.image v' ≠ w.image v) →
    ∃ c, content v.1 c ∧ fs.get? (D ++ w.image v) = some (.file c)
  rest : ∀ place, (∀ v ∈ vs, w.takes v = true → place ≠ D ++ w.image v) →
    fs.get? place = fs₁.get? place

variable {content : List String → ByteArray → Prop} {front back : List (List String × Bool)}
  {v : List String × Bool}

theorem Overlay.nil (hfs : fs₁.WellFormed) : Overlay w content dest D fs₁ [] fs₁ :=
  ⟨.refl D hfs, by simp, by simp, fun _ _ => rfl⟩

theorem concat_eq_append_cons {α : Type} {xs front back : List α} {x y : α}
    (h : xs ++ [y] = front ++ x :: back) :
    back = [] ∧ front = xs ∧ x = y ∨ ∃ more, back = more ++ [y] ∧ xs = front ++ x :: more := by
  obtain rfl | ⟨more, z, rfl⟩ := List.eq_nil_or_concat' back
  · obtain ⟨rfl, hlast⟩ := List.append_inj' h rfl
    exact .inl ⟨rfl, rfl, by simpa using hlast.symm⟩
  · rw [← List.cons_append, ← List.append_assoc] at h
    obtain ⟨rfl, hlast⟩ := List.append_inj' h rfl
    exact .inr ⟨more, by simpa using hlast.symm, rfl⟩

theorem Overlay.skip (h : Overlay w content dest D fs₁ front fs) (hv : w.takes v = false) :
    Overlay w content dest D fs₁ (front ++ [v]) fs := by
  have hold : ∀ v' ∈ front ++ [v], w.takes v' = true → v' ∈ front := by
    intro v' hv' htakes
    rcases List.mem_append.1 hv' with hmem | hmem
    · exact hmem
    · rw [List.mem_singleton.1 hmem, hv] at htakes
      cases htakes
  refine ⟨h.grown, fun v' hv' hdir htakes => h.directory v' (hold v' hv' htakes) hdir htakes, ?_,
    fun place hplace => h.rest place fun v' hv' => hplace v' (List.mem_append_left _ hv')⟩
  intro before after v' hsplit hfile htakes hlast
  rcases concat_eq_append_cons hsplit with ⟨-, -, rfl⟩ | ⟨more, rfl, rfl⟩
  · rw [hv] at htakes
    cases htakes
  · exact h.file before more v' rfl hfile htakes fun x hx => hlast x (List.mem_append_left _ hx)

/-- What is put in the image of an entry is laid over what was there: a file over the files before
it, while a directory never comes out where a file did. -/
theorem Overlay.put {P : Place} {n : String} {e : Entry}
    (h : Overlay w content dest D fs₁ front fs) (hv : w.takes v = true)
    (hplace : D ++ w.image v = P ++ [n]) (hD : D <+: P) (hputs : Puts P n e fs fs')
    (hkind : v.2 = true ∧ e = .directory ∧
        fs'.stat (dest.under (w.image v)) = .ok (D ++ w.image v, .directory) ∨
      v.2 = false ∧ ∃ c, e = .file c ∧ content v.1 c) :
    Overlay w content dest D fs₁ (front ++ [v]) fs' := by
  have hlink : ∀ target, e ≠ .link target := by
    rcases hkind with ⟨-, rfl, -⟩ | ⟨-, c, rfl, -⟩ <;> simp
  refine ⟨h.grown.trans ((hputs.grown hlink).mono hD), ?_, ?_, ?_⟩
  · intro v' hv' hdir htakes
    rcases List.mem_append.1 hv' with hmem | hmem
    · exact stat_directory_extends (h.directory v' hmem hdir htakes) hputs.later
    · rw [List.mem_singleton.1 hmem] at hdir ⊢
      rcases hkind with ⟨-, -, hstat⟩ | ⟨hfile, -⟩
      · exact hstat
      · rw [hdir] at hfile
        cases hfile
  · intro before after v' hsplit hfile htakes hlast
    rw [hputs.get?]
    rcases concat_eq_append_cons hsplit with ⟨-, -, rfl⟩ | ⟨more, rfl, rfl⟩
    · rcases hkind with ⟨hdir, -⟩ | ⟨-, c, rfl, hc⟩
      · rw [hfile] at hdir
        cases hdir
      · exact ⟨c, hc, if_pos hplace⟩
    · obtain ⟨c, hc, hthere⟩ := h.file before more v' rfl hfile htakes
        fun x hx => hlast x (List.mem_append_left _ hx)
      have hother : D ++ w.image v' ≠ P ++ [n] := by
        rcases hkind with ⟨-, rfl, -⟩ | ⟨hfile', -⟩
        · obtain ⟨c', hc'⟩ := hputs.later.file hthere
          rw [hputs.get?] at hc'
          intro hsame
          rw [if_pos hsame] at hc'
          cases hc'
        · rw [← hplace]
          intro hsame
          exact hlast v (by simp) hfile' hv (List.append_cancel_left hsame).symm
      exact ⟨c, hc, by rwa [if_neg hother]⟩
  · intro place hout
    have hother : place ≠ P ++ [n] := hplace ▸ hout v (by simp) hv
    rw [hputs.get?, if_neg hother]
    exact h.rest place fun v' hv' => hout v' (List.mem_append_left _ hv')

section
variable (hw : w.RenamesPlainly) (h₁ : Stands fs₁ dest D)
include hw h₁

theorem Overlay.stands (h : Overlay w content dest D fs₁ front fs) {above : List String} {n : String}
    {isDirectory : Bool} (hvisits : w.visits fs₁ S = front ++ (above ++ [n], isDirectory) :: back) :
    Stands fs (dest.under (above.map fun n => w.outName (n, true)))
      (D ++ above.map fun n => w.outName (n, true)) := by
  have hstands := h₁.later h.grown
  by_cases habove : above = []
  · simpa [habove, Path.under_nil] using hstands
  · obtain ⟨hfront, htakes⟩ := above_visited h₁.wellFormed hvisits habove
    have hstat := h.directory _ hfront rfl htakes
    have hvisited : (above ++ [n], isDirectory) ∈ w.visits fs₁ S := by simp [hvisits]
    obtain ⟨-, ⟨e, he⟩, -⟩ := mem_visits.1 hvisited
    have hplain : ∀ m ∈ above.map fun n => w.outName (n, true), Path.IsPlain m := by
      intro m hm
      obtain ⟨k, hk, rfl⟩ := List.mem_map.1 hm
      exact outName_isPlain hw (h₁.wellFormed.plain he k (by simp [hk]))
    obtain ⟨up, m, rfl⟩ := (List.eq_nil_or_concat' above).resolve_left habove
    rw [image_directory] at hstat
    refine ⟨hstands.wellFormed, hstat, h₁.normal.under hplain, fun rel target => ?_⟩
    rw [List.append_assoc]
    exact hstands.destFree _ target

/-- A visit fails without a trace, or it lays its entry over what there was: a directory that then
cannot be listed is there all the same. -/
theorem Overlay.visit (source : Path) (h : Overlay w content dest D fs₁ front fs)
    (hvisits : w.visits fs₁ S = front ++ v :: back)
    (hcontent : ∀ fs c, Grown D fs₁ fs → w.Yields fs (source.under v.1) c → content v.1 c)
    (r : Report) :
    (∃ f, w.visit source dest v r fs = (.error f, fs)) ∨
    (∃ f fs', w.visit source dest v r fs = (.error f, fs') ∧
      listEntries fs' (source.under v.1) = .error f ∧
      Overlay w content dest D fs₁ (front ++ [v]) fs') ∨
    ∃ r' fs', w.visit source dest v r fs = (.ok r', fs') ∧
      Overlay w content dest D fs₁ (front ++ [v]) fs' := by
  obtain ⟨rel, isDirectory⟩ := v
  have hvisited : (rel, isDirectory) ∈ w.visits fs₁ S := by simp [hvisits]
  obtain ⟨hne, ⟨e, he⟩, -⟩ := mem_visits.1 hvisited
  obtain ⟨above, n, rfl⟩ := (List.eq_nil_or_concat' rel).resolve_left hne
  have hplain : Path.IsPlain n := h₁.wellFormed.plain he n (by simp)
  have hstands := h.stands hw h₁ hvisits
  have himage : w.image (above ++ [n], isDirectory) =
      (above.map fun n => w.outName (n, true)) ++ [w.outName (n, isDirectory)] := by
    simp [image, lastName_concat]
  have hplace : D ++ w.image (above ++ [n], isDirectory) =
      (D ++ above.map fun n => w.outName (n, true)) ++ [w.outName (n, isDirectory)] := by
    rw [himage, List.append_assoc]
  have hvisit : ∀ r, w.visit source dest (above ++ [n], isDirectory) r =
      w.entry peek (source.under above) (dest.under (above.map fun n => w.outName (n, true)))
        (n, isDirectory) r := by
    intro r
    simp [Walk.visit]
  have htakes : w.takes (above ++ [n], isDirectory) = w.includes (n, isDirectory) := by
    rw [takes, lastName_concat]
  rw [hvisit]
  rw [Path.under_concat] at hcontent ⊢
  rcases entry_lands hw (source.under above) hstands (e := (n, isDirectory)) hplain with
    ⟨hout, hentry⟩ | ⟨-, f, hentry⟩ | ⟨hin, hdir, fs', hputs, hstat, hentry⟩ |
    ⟨hin, hfile, c, fs', hyields, hputs, hentry⟩ <;> rw [hentry]
  · exact .inr (.inr ⟨_, fs, rfl, h.skip (htakes.trans hout)⟩)
  · exact .inl ⟨f, rfl⟩
  · have hover : Overlay w content dest D fs₁ (front ++ [(above ++ [n], isDirectory)]) fs' := by
      refine h.put (htakes.trans hin) hplace (List.prefix_append _ _) hputs (.inl ⟨hdir, rfl, ?_⟩)
      rw [hplace, himage, Path.under_concat]
      exact hstat
    unfold peek
    cases hlist : listEntries fs' ((source.under above).child n) with
    | error f => exact .inr (.inl ⟨f, fs', rfl, hlist, hover⟩)
    | ok es => exact .inr (.inr ⟨_, fs', rfl, hover⟩)
  · exact .inr (.inr ⟨_, fs', rfl, h.put (htakes.trans hin) hplace (List.prefix_append _ _) hputs
      (.inr ⟨hfile, c, rfl, hcontent fs c h.grown hyields⟩)⟩)

theorem Overlay.entries (source : Path) {vs : List (List String × Bool)}
    (h : Overlay w content dest D fs₁ front fs) (hvisits : w.visits fs₁ S = front ++ (vs ++ back))
    (hcontent : ∀ v ∈ vs, ∀ fs c, Grown D fs₁ fs → w.Yields fs (source.under v.1) c → content v.1 c)
    (hrun : Walk.entries (w.visit source dest) vs r fs = (.ok r', fs')) :
    Overlay w content dest D fs₁ (front ++ vs) fs' := by
  induction vs generalizing front r fs with
  | nil =>
    cases hrun
    rwa [List.append_nil]
  | cons v vs ih =>
    rw [Walk.entries] at hrun
    rcases h.visit hw h₁ source hvisits (hcontent v (by simp)) r with
      ⟨f, hv⟩ | ⟨f, fs₂, hv, -⟩ | ⟨r₂, fs₂, hv, h₂⟩ <;> rw [hv] at hrun
    · cases hrun
    · cases hrun
    · have hrest := ih h₂ (by simpa using hvisits)
        (fun v hv => hcontent v (List.mem_cons_of_mem _ hv)) hrun
      simpa using hrest

end

/-! ### What files hold -/

/-- What a file of the source comes out as: what the renderer makes of its text, or its bytes. -/
def Content (w : Walk) (fs : Files) (source : Path) (S : Place) (rel : List String)
    (c : ByteArray) : Prop :=
  ∃ bytes, fs.get? (S ++ rel) = some (.file bytes) ∧
    if FileName.isRendered w.vocabulary (lastName rel) then
      ∃ template text, Text.ofBytes bytes = .ok template ∧
        w.renderer.renderBy w.engine fs template w.bindings (some w.selection)
          (some (source.under rel).text) = .ok text ∧ c = text.toUTF8
    else c = bytes

theorem read_under {rel : List String} {bytes : ByteArray} (hfs : fs.WellFormed)
    (hsource : fs.stat source = .ok (S, .directory)) (hlink : fs.LinkFree S) (hrel : rel ≠ [])
    (hup : ".." ∉ rel) (h : fs.read (source.under rel) = .ok bytes) :
    fs.get? (S ++ rel) = some (.file bytes) := by
  unfold Files.read at h
  split at h
  · rename_i place content hstat
    cases h
    obtain ⟨e, hstat', he, -⟩ := stat_extends hfs hstat (.refl fs)
    rw [hstat] at hstat'
    cases hstat'
    rwa [← stat_under hsource hlink hup hrel hstat]
  · cases h
  · cases h

theorem loader_eq_none {renderer : Template.Renderer} (h : renderer.directory = none) (fs : Files) :
    renderer.loader fs = none := by
  rw [Template.Renderer.loader, h, Option.map_none]

theorem render_congr {renderer : Template.Renderer} (h : renderer.directory = none)
    (e : Template.Engine) (fs fs' : Files) : renderer.renderBy e fs = renderer.renderBy e fs' := by
  funext text bindings selection name
  simp only [Template.Renderer.renderBy, loader_eq_none h]

theorem renderFile_congr {renderer : Template.Renderer} (h : renderer.directory = none)
    (e : Template.Engine) {p : Path} (hread : fs'.read p = fs.read p) :
    renderer.renderFileBy e fs' p = renderer.renderFileBy e fs p := by
  funext bindings selection
  simp only [Template.Renderer.renderFileBy, hread, render_congr h e fs' fs]

theorem yields_congr (h : w.renderer.directory = none) {p : Path} (hread : fs'.read p = fs.read p)
    (c : ByteArray) : w.Yields fs' p c ↔ w.Yields fs p c := by
  simp only [Yields, hread, renderFile_congr h w.engine hread]

theorem content_of_yields {rel : List String} {c : ByteArray} (hready : Ready fs₁ source dest S D)
    (hrenderer : w.renderer.directory = none) (hkept : ∀ rel, fs₁.get? (S ++ rel) = fs.get? (S ++ rel))
    (hrel : rel ≠ []) (hup : ".." ∉ rel) (hg : Grown D fs₁ fs')
    (h : w.Yields fs' (source.under rel) c) : w.Content fs source S rel c := by
  have hlater := hready.later hg
  have hthere : ∀ bytes, fs'.read (source.under rel) = .ok bytes →
      fs.get? (S ++ rel) = some (.file bytes) := by
    intro bytes hread
    rw [← hkept, ← hready.unchanged hg]
    exact read_under hlater.wellFormed hlater.atSource hlater.sourceFree hrel hup hread
  unfold Yields at h
  rw [name_under hrel] at h
  unfold Content
  split at h
  · rename_i hrendered
    obtain ⟨text, hfile, rfl⟩ := h
    unfold Template.Renderer.renderFileBy at hfile
    cases hread : fs'.read (source.under rel) with
    | error f =>
      rw [hread] at hfile
      cases f <;> cases hfile
    | ok bytes =>
      rw [hread] at hfile
      refine ⟨bytes, hthere bytes hread, ?_⟩
      rw [if_pos hrendered]
      cases htext : Text.ofBytes bytes with
      | error e =>
        simp only [htext] at hfile
        cases hfile
      | ok template =>
        simp only [htext] at hfile
        rw [render_congr hrenderer w.engine fs' fs] at hfile
        exact ⟨template, text, rfl, hfile, rfl⟩
  · rename_i hcopied
    exact ⟨c, hthere c h, by rw [if_neg hcopied]⟩

/-! ### The destination of a walk that does not fail -/

/-- The entry fits the selection, and so do all directories above it. -/
def Live (w : Walk) (rel : List String) (isDirectory : Bool) : Prop :=
  (∀ n ∈ rel.dropLast, w.includes (n, true) = true) ∧ w.takes (rel, isDirectory) = true

/-- A live file that comes out at these names, none of them later in the order of the walk. -/
structure LastInto (w : Walk) (fs : Files) (S : Place) (names rel : List String) : Prop where
  isFile : ∃ bytes, fs.get? (S ++ rel) = some (.file bytes)
  live : w.Live rel false
  image : w.image (rel, false) = names
  last : ∀ rel' bytes, fs.get? (S ++ rel') = some (.file bytes) → w.Live rel' false →
    w.image (rel', false) = names → rel' ≤ rel

/-- The destination is as it was, overlaid with the images of what is live in the source: the
images of directories are directories, the images of files hold what the last of them comes out
as. Beyond that, only the destination itself may be new. -/
structure Overlaid (w : Walk) (source dest : Path) (S D : Place) (fs fs' : Files) : Prop where
  directory : ∀ rel, rel ≠ [] → fs.get? (S ++ rel) = some .directory → w.Live rel true →
    fs'.get? (D ++ w.image (rel, true)) = some .directory
  file : ∀ rel bytes, fs.get? (S ++ rel) = some (.file bytes) → w.Live rel false →
    ∃ rel' c, w.LastInto fs S (w.image (rel, false)) rel' ∧ w.Content fs source S rel' c ∧
      fs'.get? (D ++ w.image (rel, false)) = some (.file c)
  rest : ∀ place, (∀ rel e, rel ≠ [] → fs.get? (S ++ rel) = some e →
      w.Live rel (decide (e = .directory)) → place ≠ D ++ w.image (rel, decide (e = .directory))) →
    fs'.get? place = fs.get? place ∨ MadeFor dest fs fs' place

theorem exists_last_of {α : Type} {xs : List α} {p : α → Prop} (h : ∃ x ∈ xs, p x) :
    ∃ front x back, xs = front ++ x :: back ∧ p x ∧ ∀ y ∈ back, ¬ p y := by
  induction xs using List.reverseRecOn with
  | nil => simp at h
  | append_singleton xs y ih =>
    by_cases hy : p y
    · exact ⟨xs, y, [], rfl, hy, by simp⟩
    · obtain ⟨x, hx, hpx⟩ := h
      have hfront : x ∈ xs := by
        rcases List.mem_append.1 hx with hmem | hmem
        · exact hmem
        · exact absurd (List.mem_singleton.1 hmem ▸ hpx) hy
      obtain ⟨front, z, back, rfl, hz, hback⟩ := ih ⟨x, hfront, hpx⟩
      refine ⟨front, z, back ++ [y], by simp, hz, fun u hu => ?_⟩
      rcases List.mem_append.1 hu with hmem | hmem
      · exact hback u hmem
      · rwa [List.mem_singleton.1 hmem]

section
variable (hready : Ready fs₁ source dest S D)
  (hkept : ∀ rel, fs₁.get? (S ++ rel) = fs.get? (S ++ rel))
include hkept

theorem visited_of_live {rel : List String} {e : Entry} (hrel : rel ≠ [])
    (he : fs.get? (S ++ rel) = some e) (hlive : w.Live rel (decide (e = .directory))) :
    (rel, decide (e = .directory)) ∈ w.visits fs₁ S := by
  refine mem_visits.2 ⟨hrel, ⟨e, (hkept rel).trans he⟩, ?_, hlive.1⟩
  rw [hkept, he]
  simp

include hready

theorem visited_of_live_file {rel : List String} {bytes : ByteArray}
    (hfile : fs.get? (S ++ rel) = some (.file bytes)) (hlive : w.Live rel false) :
    (rel, false) ∈ w.visits fs₁ S := by
  have hrel : rel ≠ [] := by
    rintro rfl
    have hdir := isDirectory_of_stat hready.wellFormed hready.atSource
    rw [← List.append_nil S, hkept, hfile] at hdir
    cases hdir
  simpa using visited_of_live hkept hrel hfile (by simpa using hlive)

theorem lastInto_of_visits {names rel : List String}
    (hvisits : w.visits fs₁ S = front ++ (rel, false) :: back) (htakes : w.takes (rel, false) = true)
    (himage : w.image (rel, false) = names)
    (hback : ∀ v ∈ back, ¬ (v.2 = false ∧ w.takes v = true ∧ w.image v = names)) :
    w.LastInto fs S names rel := by
  have hvisited : (rel, false) ∈ w.visits fs₁ S := by simp [hvisits]
  obtain ⟨-, ⟨e, he⟩, hkind, hall⟩ := mem_visits.1 hvisited
  have hfile : ∃ bytes, fs.get? (S ++ rel) = some (.file bytes) := by
    rw [hkept] at he hkind
    cases e with
    | file bytes => exact ⟨bytes, he⟩
    | directory => simp [he] at hkind
    | link target => exact absurd ((hkept rel).trans he) (hready.sourceFree rel target)
  refine ⟨hfile, ⟨hall, htakes⟩, himage, fun other bytes hother hlive himage' => ?_⟩
  have hmem := visited_of_live_file hready hkept hother hlive
  have hrising := visits_rising w hready.wellFormed S
  rw [hvisits, List.pairwise_append, List.pairwise_cons] at hrising
  rw [hvisits, List.mem_append, List.mem_cons] at hmem
  rcases hmem with hfront | hsame | hafter
  · exact le_of_lt (hrising.2.2 _ hfront (rel, false) (by simp))
  · exact le_of_eq (congrArg Prod.fst hsame)
  · exact absurd ⟨rfl, hlive.2, himage'⟩ (hback _ hafter)

theorem overlaid_of_visits (hmade : Made dest fs fs₁)
    (h : Overlay w (w.Content fs source S) dest D fs₁ (w.visits fs₁ S) fs') :
    w.Overlaid source dest S D fs fs' := by
  constructor
  · intro rel hrel hdir hlive
    have hvisited := visited_of_live hkept hrel hdir (by simpa using hlive)
    have hstat := h.directory (rel, true) (by simpa using hvisited) rfl hlive.2
    exact isDirectory_of_stat h.grown.wellFormed hstat
  · intro rel bytes hfile hlive
    have hvisited := visited_of_live_file hready hkept hfile hlive
    obtain ⟨front, v, back, hvisits, ⟨hkind, htakes, himage⟩, hback⟩ :=
      exists_last_of (p := fun v => v.2 = false ∧ w.takes v = true ∧ w.image v = w.image (rel, false))
        ⟨_, hvisited, rfl, hlive.2, rfl⟩
    obtain ⟨c, hc, hthere⟩ := h.file front back v hvisits hkind htakes fun v' hv' hkind' htakes' heq =>
      hback v' hv' ⟨hkind', htakes', heq.trans himage⟩
    obtain ⟨rel', isDirectory⟩ := v
    obtain rfl : isDirectory = false := hkind
    rw [himage] at hthere
    exact ⟨rel', c, lastInto_of_visits hready hkept hvisits htakes himage hback, hc, hthere⟩
  · intro place hout
    have hrest : fs'.get? place = fs₁.get? place := by
      refine h.rest place fun v hv htakes => ?_
      obtain ⟨rel, isDirectory⟩ := v
      obtain ⟨hrel, ⟨e, he⟩, hkind, hall⟩ := mem_visits.1 hv
      obtain rfl : isDirectory = decide (e = .directory) := by simpa [he] using hkind
      exact hout rel e hrel ((hkept rel).symm.trans he) ⟨hall, htakes⟩
    rcases hmade.change place with hsame | ⟨hnone, hdir, names, hup, hstat⟩
    · exact .inl (hrest.trans hsame)
    · exact .inr ⟨hnone, hrest.trans hdir, names, hup,
        stat_directory_extends hstat h.grown.later⟩

end

end Scaffold.Walk
