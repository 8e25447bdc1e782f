import Scaffold.Proofs.Files.Recreate
import Scaffold.Proofs.Project.Consent
import Scaffold.Proofs.Resolving
import Scaffold.Proofs.Text.Naming
import Scaffold.Proofs.Walk.Abreast

set_option autoImplicit false

/-!
# What was there before a project

Where folders may be replaced without asking, a new project does not depend on what stood in its
place: nothing, a file or a whole tree. It ends the same, leaves the same, and leaves all else
alone. This takes that there is a place to speak of: that the parent is followed to where its names
lead, without double dots that pass what is not there.
-/
namespace Scaffold.Project
open Files

variable {p : Project} {homes : Homes} {q : Request} {f f' g : Files} {T : Place} {parent : Path}
  {package framework : String} {options : List String} {selection : Selection}
  {bindings : Template.Variables} {t : Terminal}

/-! ### The parent -/

theorem firstParent_congr (hf : f.Regular) (hg : g.Regular) (h : g.current = f.current) :
    p.firstParent homes q g = p.firstParent homes q f := by
  unfold firstParent Settings.resolve
  simp only [canonical_regular hf, canonical_regular hg, nominal_congr h]

theorem firstParent_isNormal (hrunning : p.settings.running.IsNormal) (hf : f.Regular)
    (h : p.firstParent homes q f = .ok parent) : parent.IsNormal := by
  unfold firstParent at h
  split at h
  · cases h
    exact hrunning
  · exact Settings.resolve_isNormal hf hrunning (Path.ofText_isNormal _) h

/-! ### Before anything is replaced -/

/-- What comes before a folder is replaced without asking for anything. -/
def settled (p : Project) (homes : Homes) (q : Request) (framework : String)
    (options : List String) (fs : Files) : Except Failure (Path × Selection) := do
  if Text.packageName q.name = "" then throw (.invalid (nameText q.name))
  let parent ← p.firstParent homes q fs
  let _ ← (fs.exists? (parent.child (Text.packageName q.name))).mapError Failure.fault
  let s ← p.select framework options
  return (parent, s)

/-- The folder of a package may be made in a parent without asking. -/
def Free (p : Project) (package : String) (fs : Files) (parent : Path) : Prop :=
  p.settings.force = true ∨ fs.exists? (parent.child package) ≠ .ok true

theorem findParent_free {s : Session} (hfree : p.Free package s.files parent) (rounds : Nat) :
    p.findParent homes package (rounds + 1) parent s =
      (((s.files.exists? (parent.child package)).mapError Failure.fault).map fun _ => parent, s) := by
  unfold findParent
  rw [Act.bind_run, Act.consult]
  unfold Free at hfree
  cases hthere : s.files.exists? (parent.child package) with
  | error fault => rfl
  | ok there =>
    have hmay : (!there || p.settings.force) = true := by
      rcases hfree with hforce | hthere'
      · simp [hforce]
      · cases there with
        | false => rfl
        | true => exact absurd hthere hthere'
    simp only [Except.mapError, hmay, if_true]
    rfl

/-- Where nothing is asked about the folder, what comes before it is made depends on the terminal
only through what is chosen there. -/
theorem prepare_free {s s' : Session}
    (hfree : ∀ parent, p.firstParent homes q s.files = .ok parent →
      p.Free (Text.packageName q.name) s.files parent)
    (hchoose : p.choose q s = (p.select framework options, s')) :
    ∃ s₁, (s₁ = s ∨ s₁ = s') ∧
      p.prepare homes q s = (p.settled homes q framework options s.files, s₁) := by
  unfold prepare settled
  by_cases hname : Text.packageName q.name = ""
  · rw [if_pos hname, if_pos hname]
    exact ⟨s, .inl rfl, rfl⟩
  · rw [if_neg hname, if_neg hname]
    simp only [Act.bind_run, Act.consult]
    cases hfirst : p.firstParent homes q s.files with
    | error fault => exact ⟨s, .inl rfl, rfl⟩
    | ok first =>
      have hget : (get : Act Session) s = (.ok s, s) := rfl
      simp only [hget, findParent_free (hfree first hfirst), bind, Except.bind]
      cases s.files.exists? (first.child (Text.packageName q.name)) with
      | error fault => exact ⟨s, .inl rfl, rfl⟩
      | ok there =>
        simp only [Except.mapError, Except.map, hchoose]
        refine ⟨s', .inr rfl, ?_⟩
        cases p.select framework options with
        | error fault => rfl
        | ok selection => rfl

theorem choose_given (hframework : q.framework = some framework) (hoptions : q.options = some options)
    (s : Session) : p.choose q s = (p.select framework options, s) := by
  unfold choose given
  rw [hframework, hoptions]
  rfl

theorem prepare_settled (hforce : p.settings.force = true) (hframework : q.framework = some framework)
    (hoptions : q.options = some options) (s : Session) :
    p.prepare homes q s = (p.settled homes q framework options s.files, s) := by
  have hfree : ∀ parent, p.firstParent homes q s.files = .ok parent →
      p.Free (Text.packageName q.name) s.files parent := fun _ _ => .inl hforce
  obtain ⟨s₁, rfl | rfl, hprepare⟩ := prepare_free hfree (choose_given hframework hoptions s) <;>
    exact hprepare

def walkFor (p : Project) (package : String) (parent : Path) (s : Selection)
    (bindings : Template.Variables) : Walk where
  vocabulary := p.vocabulary
  renderer := p.renderer
  selection := s
  bindings := (p.bindings package parent s).overlay bindings

theorem fill_of_error {fault : Fault}
    (h : recreate (parent.child package) f = (.error fault, f')) :
    p.fill package parent selection bindings ⟨f, t⟩ = (.error (.fault fault), ⟨f', t⟩) := by
  unfold fill
  rw [Act.bind_run, Act.change, h]
  rfl

theorem fill_of_ok (h : recreate (parent.child package) f = (.ok (), f')) {m : Except Failure Report}
    {s : Session} (hwalk : (p.walkFor package parent selection bindings).materialize p.templates
      (parent.child package) ⟨f', t⟩ = (m, s)) :
    p.fill package parent selection bindings ⟨f, t⟩ =
      (m.map fun r => ⟨parent.child package, selection, r⟩, s) := by
  unfold walkFor at hwalk
  unfold fill
  rw [Act.bind_run, Act.change, h]
  simp only [Except.mapError, Act.bind_run, hwalk]
  cases m <;> rfl

/-! ### Two trees with different things in the way -/

/-- Two trees of files and directories that are the same but for the folder of a package, which
both parents are followed to. -/
structure Contested (package : String) (parent : Path) (f g : Files) : Prop where
  straight : f.Straight parent
  straight' : g.Straight parent
  current : ¬ f.nominal parent ++ [package] <+: f.current
  same : SameBut (f.nominal parent ++ [package]) f g

theorem settled_congr (hf : f.Regular) (hg : g.Regular) (hcurrent : g.current = f.current)
    (hcontested : ∀ parent, p.firstParent homes q f = .ok parent →
      Contested (Text.packageName q.name) parent f g) :
    p.settled homes q framework options g = p.settled homes q framework options f := by
  have hthrow : ∀ {α β : Type} (e : Failure) (k : α → Except Failure β),
      (throw e : Except Failure α) >>= k = .error e := fun _ _ => rfl
  unfold settled
  by_cases hname : Text.packageName q.name = ""
  · rw [if_pos hname, if_pos hname, hthrow, hthrow]
  · obtain ⟨hplain, hzero⟩ := Text.packageName_isPlain hname
    rw [firstParent_congr hf hg hcurrent]
    simp only [bind, Except.bind]
    cases hparent : p.firstParent homes q f with
    | error fault => simp only
    | ok parent =>
      have hpair := hcontested parent hparent
      simp only
      rcases exists?_sameBut hf hg hpair.straight hpair.straight' hplain hzero hpair.same with
        ⟨b, b', hb, hb'⟩ | ⟨fault, hfault, hfault'⟩
      · simp only [hb, hb', Except.mapError]
      · simp only [hfault, hfault', Except.mapError]

theorem settled_eq_ok (h : p.settled homes q framework options f = .ok (parent, selection)) :
    Text.packageName q.name ≠ "" ∧ p.firstParent homes q f = .ok parent ∧
      ∃ b, f.exists? (parent.child (Text.packageName q.name)) = .ok b := by
  unfold settled at h
  by_cases hname : Text.packageName q.name = ""
  · rw [if_pos hname] at h
    cases h
  · rw [if_neg hname] at h
    obtain ⟨first, hfirst, hrest⟩ := Act.ok_of_bind h
    obtain ⟨b, hasked, hrest⟩ := Act.ok_of_bind hrest
    obtain ⟨chosen, -, hreturn⟩ := Act.ok_of_bind hrest
    cases hreturn
    refine ⟨hname, hfirst, b, ?_⟩
    cases hthere : f.exists? (parent.child (Text.packageName q.name)) with
    | error fault =>
      rw [hthere] at hasked
      cases hasked
    | ok there =>
      rw [hthere] at hasked
      cases hasked
      rfl

theorem fill_replaces (selection : Selection) (bindings : Template.Variables) (t : Terminal)
    (hrenames : ∀ r ∈ p.vocabulary.renamings, Path.IsPlain r.target)
    (hf : f.Regular) (hg : g.Regular) (hnormal : parent.IsNormal) (hplain : Path.IsPlain package)
    (hzero : '\x00' ∉ package.toList) (hpair : Contested package parent f g) {b b' : Bool}
    (hthere : f.exists? (parent.child package) = .ok b)
    (hthere' : g.exists? (parent.child package) = .ok b') :
    let done := p.fill package parent selection bindings ⟨f, t⟩
    let done' := p.fill package parent selection bindings ⟨g, t⟩
    done'.1 = done.1 ∧ done'.2.terminal = done.2.terminal ∧ done.2.files.Same done'.2.files ∧
      Intact (f.nominal parent ++ [package]) f done.2.files := by
  have hplace : g.nominal parent = f.nominal parent := nominal_congr hpair.same.current parent
  have hcurrent' : ¬ g.nominal parent ++ [package] <+: g.current := by
    rw [hplace, hpair.same.current]
    exact hpair.current
  obtain ⟨hresult, hsame⟩ := recreate_sameBut hf hg hpair.straight hpair.straight' hplain hzero
    hpair.same hnormal hpair.current hthere hthere'
  rcases hx : recreate (parent.child package) f with ⟨r, f'⟩
  rcases hy : recreate (parent.child package) g with ⟨r', g'⟩
  rw [hx, hy] at hresult hsame
  obtain rfl : r' = r := hresult
  obtain ⟨hf', -, hintact, hstat⟩ :=
    recreate_remakes hf hpair.straight hplain hzero hnormal hpair.current hthere hx
  obtain ⟨hg', -⟩ := recreate_remakes hg hpair.straight' hplain hzero hnormal hcurrent' hthere' hy
  cases r' with
  | error fault =>
    rw [fill_of_error hx, fill_of_error hy]
    exact ⟨rfl, rfl, hsame, hintact⟩
  | ok _ =>
    -- Once the folder is made anew the trees are the same, and the walk cannot tell them apart.
    have hw : (p.walkFor package parent selection bindings).RenamesPlainly := hrenames
    have hrun : Walk.Together (f.nominal parent ++ [package]) f' g'
        ((p.walkFor package parent selection bindings).run p.templates (parent.child package) f')
        ((p.walkFor package parent selection bindings).run p.templates (parent.child package) g') :=
      Walk.run_same hw hf' hg' hsame (hnormal.child hplain) (hstat rfl)
    have hsessions := Walk.materialize_congr (p.walkFor package parent selection bindings)
      (s := ⟨f', t⟩) hrun.result
    rcases hm : (p.walkFor package parent selection bindings).materialize p.templates
      (parent.child package) ⟨f', t⟩ with ⟨m, s⟩
    rcases hm' : (p.walkFor package parent selection bindings).materialize p.templates
      (parent.child package) ⟨g', t⟩ with ⟨m', s'⟩
    rw [fill_of_ok hx hm, fill_of_ok hy hm']
    simp only [hm, hm'] at hsessions
    obtain ⟨rfl, hterminal, hfiles, hfiles'⟩ := hsessions
    refine ⟨rfl, hterminal, ?_, ?_⟩
    · rw [hfiles, hfiles']
      exact hrun.same hsame
    · rw [hfiles]
      exact hintact.grown hrun.left

/-- Over two trees that are the same but for what is in the way, with leave to replace it and nothing
left to ask, a new project ends the same. If it is not refused beforehand, it leaves the same files,
and all but its own folder as it was, save for missing directories above it. -/
theorem build_replaces (hrenames : ∀ r ∈ p.vocabulary.renamings, Path.IsPlain r.target)
    (hrunning : p.settings.running.IsNormal) (hforce : p.settings.force = true)
    (hframework : q.framework = some framework) (hoptions : q.options = some options) {s : Session}
    (hf : s.files.Regular) (hg : g.Regular) (hcurrent : g.current = s.files.current)
    (hcontested : ∀ parent, p.firstParent homes q s.files = .ok parent →
      Contested (Text.packageName q.name) parent s.files g) :
    let done := p.build homes q s
    let done' := p.build homes q { s with files := g }
    done'.1 = done.1 ∧ done'.2.terminal = done.2.terminal ∧
      (∀ e s₁, p.prepare homes q s = (.error e, s₁) →
        done.1 = .error e ∧ done.2.files = s.files ∧ done'.2.files = g) ∧
      ∀ parent selection s₁, p.prepare homes q s = (.ok (parent, selection), s₁) →
        p.firstParent homes q s.files = .ok parent ∧ done.2.files.Same done'.2.files ∧
        Intact (s.files.nominal parent ++ [Text.packageName q.name]) s.files done.2.files ∧
        Intact (s.files.nominal parent ++ [Text.packageName q.name]) g done'.2.files := by
  obtain ⟨f, t⟩ := s
  have hsettled : p.settled homes q framework options g = p.settled homes q framework options f :=
    settled_congr hf hg hcurrent hcontested
  have hprepare : p.prepare homes q ⟨f, t⟩ = (p.settled homes q framework options f, ⟨f, t⟩) :=
    prepare_settled hforce hframework hoptions ⟨f, t⟩
  have hprepare' : p.prepare homes q ⟨g, t⟩ = (p.settled homes q framework options f, ⟨g, t⟩) :=
    hsettled ▸ prepare_settled hforce hframework hoptions ⟨g, t⟩
  simp only [build_eq, Act.bind_run, hprepare, hprepare']
  cases hx : p.settled homes q framework options f with
  | error e =>
    refine ⟨rfl, rfl, fun e' s₁ h => ?_, fun parent selection s₁ h => ?_⟩
    · cases h
      exact ⟨rfl, rfl, rfl⟩
    · cases h
  | ok x =>
    obtain ⟨parent, selection⟩ := x
    obtain ⟨hname, hparent, b, hthere⟩ := settled_eq_ok hx
    obtain ⟨-, -, b', hthere'⟩ := settled_eq_ok (hsettled.trans hx)
    obtain ⟨hplain, hzero⟩ := Text.packageName_isPlain hname
    have hpair := hcontested parent hparent
    obtain ⟨hresult, hterminal, hsame, hintact⟩ := fill_replaces selection q.bindings t hrenames
      hf hg (firstParent_isNormal hrunning hf hparent) hplain hzero hpair hthere hthere'
    refine ⟨hresult, hterminal, fun e s₁ h => ?_, fun parent' selection' s₁ h => ?_⟩
    · cases h
    · cases h
      refine ⟨hparent, hsame, hintact, fun q hq => ?_⟩
      rw [hsame.get?, hpair.same.get? q hq]
      exact hintact q hq

/-! ### A small project -/

def forcedProject : Project where
  type := sampleProject.type
  settings := ⟨⟨.root, ["p"]⟩, ⟨.root, ["w"]⟩, "j2", true⟩
  vocabulary := sampleProject.vocabulary

def requestFor (framework parent : String) : Request :=
  ⟨"App", parent, some framework, some [], []⟩

def contestedFiles (app : List (Place × Entry)) : Files where
  entries := [(["p"], .directory), (["p", "templates"], .directory),
    (["p", "templates", "a.txt"], .file "A".toUTF8), (["w"], .directory)] ++ app

def contestedSession (app : List (Place × Entry)) : Session := ⟨contestedFiles app, { width := 80 }⟩

def oldApp : List (Place × Entry) :=
  [(["w", "app"], .directory), (["w", "app", "old.txt"], .file "old".toUTF8)]

theorem contested_regular : (contestedFiles oldApp).Regular ∧ (contestedFiles []).Regular := by
  have hwell : (contestedFiles oldApp).WellFormed ∧ (contestedFiles []).WellFormed := by
    constructor <;> refine Files.wellFormed_of_sound (by decide) ?_ (by decide) <;>
      unfold Files.Sound <;> simp [contestedFiles, oldApp] <;> decide
  exact ⟨⟨hwell.1, linkFree_of_entries (by simp [contestedFiles, oldApp]) []⟩,
    ⟨hwell.2, linkFree_of_entries (by simp [contestedFiles]) []⟩⟩

theorem contested_sameBut : SameBut ["w", "app"] (contestedFiles oldApp) (contestedFiles []) := by
  refine ⟨rfl, fun q hq => ?_⟩
  have hold : oldApp.lookup q = none := by
    rw [List.lookup_eq_none_iff]
    have hdir : q ≠ ["w", "app"] := fun heq => hq (heq ▸ List.prefix_rfl)
    have hfile : q ≠ ["w", "app", "old.txt"] := fun heq => hq (by rw [heq]; decide)
    simpa [oldApp] using ⟨hdir, hfile⟩
  simp only [Files.get?, contestedFiles, List.lookup_append, hold, List.append_nil, Option.or_none]

/-- What is refused beforehand replaces nothing; and with double dots that pass what is not there,
the folder is not found and is in the way. -/
theorem old_app_stays :
    let build (q : Request) (app : List (Place × Entry)) :=
      forcedProject.build ⟨"/h", []⟩ q (contestedSession app)
    ((contestedFiles oldApp).Regular ∧ (contestedFiles []).Regular ∧
      SameBut ["w", "app"] (contestedFiles oldApp) (contestedFiles [])) ∧
    ((build (requestFor "nope" "") oldApp).1.toOption = none ∧
      (build (requestFor "nope" "") []).1.toOption = none ∧
      (build (requestFor "nope" "") oldApp).2.files.get? ["w", "app"] = some .directory ∧
      (build (requestFor "nope" "") []).2.files.get? ["w", "app"] = none) ∧
    ((build (requestFor "vue" "/w/new/..") oldApp).1.toOption = none ∧
      (build (requestFor "vue" "/w/new/..") []).1.toOption =
        some ⟨.ofText "/w/new/../app", ⟨"vue", []⟩, { copied := [.ofText "/w/new/../app/a.txt"] }⟩) := by
  refine ⟨⟨contested_regular.1, contested_regular.2, contested_sameBut⟩, ⟨?_, ?_, ?_, ?_⟩, ?_, ?_⟩
  all_goals decide +kernel

theorem old_app_replaced :
    let done := forcedProject.build ⟨"/h", []⟩ (requestFor "vue" "") (contestedSession oldApp)
    let done' := forcedProject.build ⟨"/h", []⟩ (requestFor "vue" "") (contestedSession [])
    done.1.toOption =
        some ⟨.ofText "/w/app", ⟨"vue", []⟩, { copied := [.ofText "/w/app/a.txt"] }⟩ ∧
      done.2.files.get? ["w", "app", "old.txt"] = none ∧ done'.1 = done.1 ∧
      done.2.files.Same done'.2.files ∧
      Intact ["w", "app"] (contestedFiles oldApp) done.2.files := by
  have hpackage : Text.packageName (requestFor "vue" "").name = "app" := by decide +kernel
  have hfirst : forcedProject.firstParent ⟨"/h", []⟩ (requestFor "vue" "") (contestedFiles oldApp) =
      .ok ⟨.root, ["w"]⟩ := rfl
  have hplace : (contestedFiles oldApp).nominal ⟨.root, ["w"]⟩ = ["w"] := by decide +kernel
  have hcontested : ∀ parent, forcedProject.firstParent ⟨"/h", []⟩ (requestFor "vue" "")
      (contestedSession oldApp).files = .ok parent →
      Contested (Text.packageName (requestFor "vue" "").name) parent (contestedFiles oldApp)
        (contestedFiles []) := by
    intro parent h
    obtain rfl : (⟨.root, ["w"]⟩ : Path) = parent := Except.ok.inj (hfirst.symm.trans h)
    rw [hpackage]
    exact ⟨.inl (by decide), .inl (by decide), by rw [hplace]; decide, hplace ▸ contested_sameBut⟩
  obtain ⟨hresult, -, -, hready⟩ := build_replaces (s := contestedSession oldApp)
    (show ∀ r ∈ forcedProject.vocabulary.renamings, Path.IsPlain r.target by decide)
    (show Path.IsNormal ⟨.root, ["w"]⟩ by simp [Path.IsNormal]) rfl rfl rfl contested_regular.1 contested_regular.2
    rfl hcontested
  have hprepare : (forcedProject.prepare ⟨"/h", []⟩ (requestFor "vue" "")
      (contestedSession oldApp)).1.toOption = some (⟨.root, ["w"]⟩, ⟨"vue", []⟩) := by
    decide +kernel
  rcases hx : forcedProject.prepare ⟨"/h", []⟩ (requestFor "vue" "") (contestedSession oldApp) with
    ⟨_ | x, s₁⟩ <;> rw [hx] at hprepare
  · cases hprepare
  · obtain rfl : x = (⟨.root, ["w"]⟩, ⟨"vue", []⟩) := Option.some.inj hprepare
    obtain ⟨-, hsame, hintact, -⟩ := hready _ _ _ hx
    have hplace' : (contestedSession oldApp).files.nominal ⟨.root, ["w"]⟩ = ["w"] := hplace
    rw [hpackage, hplace'] at hintact
    exact ⟨by decide +kernel, by decide +kernel, hresult, hsame, hintact⟩

end Scaffold.Project
