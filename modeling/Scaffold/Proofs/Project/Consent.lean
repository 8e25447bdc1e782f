import Scaffold.Project.Build
import Scaffold.Proofs.Prompt
import Scaffold.Proofs.Session

set_option autoImplicit false

/-!
# Folders that are replaced

All that can go wrong before a new project is filled in leaves the files as they are, and a folder
that is in the way is only replaced if the settings or the user say so: of that very folder, by the
last of all answers to such questions.
-/
namespace Scaffold.Project

variable {p : Project} {homes : Homes} {fs : Files} {package : String}

/-! ### What comes before anything is changed -/

def firstParent (p : Project) (homes : Homes) (q : Request) (fs : Files) : Except Failure Path :=
  if q.parent = "" then .ok p.settings.running else p.settings.resolve homes fs (.ofText q.parent)

def given {α : Type} (a? : Option α) (t : Talk α) : Act α :=
  match a? with
  | some a => pure a
  | none => Act.talk t

def choose (p : Project) (q : Request) : Act Selection := do
  let framework ← given q.framework p.askFramework
  let options ← given q.options p.askOptions
  Act.consult fun _ => p.select framework options

/-- What comes before a new project is filled in: its name is checked, a parent is found, and a
selection is chosen and checked. -/
def prepare (p : Project) (homes : Homes) (q : Request) : Act (Path × Selection) := do
  if Text.packageName q.name = "" then throw (.invalid (nameText q.name))
  let first ← Act.consult fun fs => p.firstParent homes q fs
  let rounds := (← get).terminal.answers.length + 1
  let parent ← p.findParent homes (Text.packageName q.name) rounds first
  let s ← p.choose q
  return (parent, s)

theorem build_eq (p : Project) (homes : Homes) (q : Request) :
    p.build homes q = p.prepare homes q >>= fun x =>
      p.fill (Text.packageName q.name) x.1 x.2 q.bindings := by
  have hfirst : (if q.parent = "" then (pure p.settings.running : Act Path)
      else Act.consult fun fs => p.settings.resolve homes fs (.ofText q.parent)) =
      Act.consult fun fs => p.firstParent homes q fs := by
    unfold firstParent
    split <;> rfl
  unfold build prepare choose given
  obtain ⟨name, parent, framework, options, bindings⟩ := q
  by_cases hname : Text.packageName name = ""
  · simp [hname]
  · simp only [hname, if_false, ← hfirst]
    by_cases hparent : parent = "" <;> cases framework <;> cases options <;> simp [hparent]

theorem findParent_quiet (p : Project) (homes : Homes) (package : String) (rounds : Nat)
    (parent : Path) : (p.findParent homes package rounds parent).Quiet := by
  induction rounds generalizing parent with
  | zero => exact Act.quiet_throw _
  | succ rounds ih =>
    unfold findParent
    refine (Act.quiet_consult _).bind fun taken => ?_
    split
    · exact Act.quiet_pure parent
    · refine (Act.quiet_talk _).bind fun agreed => ?_
      split
      · exact Act.quiet_pure parent
      · exact (Act.quiet_talk _).bind fun answer => (Act.quiet_consult _).bind fun next => ih next

theorem given_quiet {α : Type} (a? : Option α) (t : Talk α) : (given a? t).Quiet := by
  cases a? with
  | some a => exact Act.quiet_pure a
  | none => exact Act.quiet_talk t

theorem choose_quiet (p : Project) (q : Request) : (p.choose q).Quiet :=
  (given_quiet _ _).bind fun _ => (given_quiet _ _).bind fun _ => Act.quiet_consult _

/-- Nothing is changed before a new project is filled in, however that ends. -/
theorem prepare_quiet (p : Project) (homes : Homes) (q : Request) : (p.prepare homes q).Quiet := by
  unfold prepare
  have hrest : (do
      let first ← Act.consult fun fs => p.firstParent homes q fs
      let rounds := (← get).terminal.answers.length + 1
      let parent ← p.findParent homes (Text.packageName q.name) rounds first
      let s ← p.choose q
      return (parent, s) : Act (Path × Selection)).Quiet := by
    refine (Act.quiet_consult _).bind fun first => Act.quiet_get.bind fun s => ?_
    refine (findParent_quiet p homes _ _ first).bind fun parent => ?_
    exact (choose_quiet p q).bind fun selection => Act.quiet_pure _
  split
  · exact (Act.quiet_throw _).bind fun _ => hrest
  · exact hrest

/-! ### What is asked before a folder is replaced -/

/-- An exchange that ends in leave to replace a folder: each time but the last the answer is no and
names another parent, and the last time it is yes. -/
inductive Consent (p : Project) (homes : Homes) (fs : Files) (package : String) :
    Path → Terminal → Path → Terminal → Prop where
  | yes {parent : Path} {t t' : Terminal}
      (asked : Prompt.confirm (overwriteQuestion (parent.child package)) false t = (.ok true, t'))
      (replied : Prompt.Replied (overwriteQuestion (parent.child package) ++ " [y/N] ")
        ["y", "yes"] t t') :
      Consent p homes fs package parent t parent t'
  | no {parent next final : Path} {answer : String} {t t₁ t₂ t' : Terminal}
      (asked : Prompt.confirm (overwriteQuestion (parent.child package)) false t = (.ok false, t₁))
      (replied : Prompt.Replied (overwriteQuestion (parent.child package) ++ " [y/N] ")
        ["", "n", "no"] t t₁)
      (named : Prompt.text "Enter a new path for the project:" "" parentCheck t₁ = (.ok answer, t₂))
      (resolved : p.settings.resolve homes fs (.ofText answer) = .ok next)
      (rest : Consent p homes fs package next t₂ final t') :
      Consent p homes fs package parent t final t'

/-- The answers run out before the rounds do. -/
theorem findParent_rounds {m n : Nat} {parent : Path} {s : Session}
    (hm : s.terminal.answers.length < m) (hn : s.terminal.answers.length < n) :
    p.findParent homes package m parent s = p.findParent homes package n parent s := by
  induction m generalizing n parent s with
  | zero => cases hm
  | succ m ih =>
    cases n with
    | zero => cases hn
    | succ n =>
      unfold findParent
      refine Act.bind_congr_ok fun taken s₁ hlook => ?_
      obtain ⟨-, rfl⟩ := Act.consult_ok hlook
      split
      · rfl
      · refine Act.bind_congr_ok fun agreed s₂ hconfirm => ?_
        have hconfirm := Prompt.ask_shortens (Act.talk_ok hconfirm).1
        split
        · rfl
        · refine Act.bind_congr_ok fun answer s₃ htext => ?_
          have htext := Prompt.ask_shortens (Act.talk_ok htext).1
          refine Act.bind_congr_ok fun next s₄ hresolve => ?_
          obtain ⟨-, rfl⟩ := Act.consult_ok hresolve
          exact ih (by omega) (by omega)

/-- A parent is settled on where nothing is in the way, or else with consent. -/
theorem findParent_consents {rounds : Nat} {parent final : Path} {s s' : Session}
    (h : p.findParent homes package rounds parent s = (.ok final, s'))
    (hthere : s.files.exists? (final.child package) = .ok true) :
    p.settings.force = true ∨
      Consent p homes s.files package parent s.terminal final s'.terminal := by
  induction rounds generalizing parent s with
  | zero => cases h
  | succ rounds ih =>
    unfold findParent at h
    obtain ⟨taken, s₁, hlook, hrun⟩ := Act.bind_ok h
    obtain ⟨htaken, rfl⟩ := Act.consult_ok hlook
    split at hrun
    · rename_i hfree
      cases hrun
      rw [hthere] at htaken
      cases htaken
      left
      simpa using hfree
    · obtain ⟨agreed, s₂, hconfirm, hreply⟩ := Act.bind_ok hrun
      obtain ⟨hasked, hfiles⟩ := Act.talk_ok hconfirm
      have hreplied := Prompt.confirm_replied hasked
      split at hreply
      · rename_i hagreed
        subst hagreed
        cases hreply
        exact .inr (.yes hasked hreplied)
      · rename_i hagreed
        obtain rfl : agreed = false := by simpa using hagreed
        obtain ⟨answer, s₃, htext, hnext⟩ := Act.bind_ok hreply
        obtain ⟨hnamed, hfiles'⟩ := Act.talk_ok htext
        obtain ⟨next, s₄, hresolve, hrest⟩ := Act.bind_ok hnext
        obtain ⟨hresolved, rfl⟩ := Act.consult_ok hresolve
        have hsame : s₄.files = s₁.files := hfiles'.trans hfiles
        have hrest := ih hrest (by rw [hsame]; exact hthere)
        rw [hsame] at hresolved hrest
        rcases hrest with hforce | hconsent
        · exact .inl hforce
        · exact .inr (.no hasked hreplied hnamed hresolved hconsent)

theorem prepare_ok {q : Request} {s s' : Session} {parent : Path} {selection : Selection}
    (h : p.prepare homes q s = (.ok (parent, selection), s')) :
    ∃ first s₁, p.firstParent homes q s.files = .ok first ∧
      p.findParent homes (Text.packageName q.name) (s.terminal.answers.length + 1) first s =
        (.ok parent, s₁) ∧ p.choose q s₁ = (.ok selection, s') := by
  unfold prepare at h
  split at h
  · cases h
  · obtain ⟨first, s₁, hfirst, hrun⟩ := Act.bind_ok h
    obtain ⟨hfirst, rfl⟩ := Act.consult_ok hfirst
    obtain ⟨_, _, hget, hrun⟩ := Act.bind_ok hrun
    cases hget
    obtain ⟨found, s₂, hfind, hrun⟩ := Act.bind_ok hrun
    obtain ⟨chosen, s₃, hchoose, hreturn⟩ := Act.bind_ok hrun
    cases hreturn
    exact ⟨first, s₂, hfirst, hfind, hchoose⟩

section
variable {parent : Path} {selection : Selection} {bindings : Template.Variables} {s s' : Session}
  {b : Built}

theorem fill_made (h : p.fill package parent selection bindings s = (.ok b, s')) :
    b.path = parent.child package ∧ b.selection = selection := by
  unfold fill at h
  obtain ⟨_, s₁, -, hwalk⟩ := Act.bind_ok h
  obtain ⟨report, s₂, -, hreturn⟩ := Act.bind_ok hwalk
  cases hreturn
  exact ⟨rfl, rfl⟩

theorem fill_path (h : p.fill package parent selection bindings s = (.ok b, s')) :
    b.path = parent.child package := (fill_made h).1

end

/-- What goes wrong before a new project is filled in is the end of it and leaves the files as they
are. A project that is filled in replaces a folder that was there only if the settings or, in the
last answer to a question of this kind, the user says so. -/
theorem build_consents (p : Project) (homes : Homes) (q : Request) (s : Session) :
    (∀ f s₁, p.prepare homes q s = (.error f, s₁) →
      p.build homes q s = (.error f, s₁) ∧ s₁.files = s.files) ∧
    ∀ parent selection s₁, p.prepare homes q s = (.ok (parent, selection), s₁) →
      p.build homes q s = p.fill (Text.packageName q.name) parent selection q.bindings s₁ ∧
      s₁.files = s.files ∧
      (∀ b, (p.build homes q s).1 = .ok b → b.path = parent.child (Text.packageName q.name)) ∧
      (s.files.exists? (parent.child (Text.packageName q.name)) = .ok true →
        p.settings.force = true ∨
        ∃ first t, p.firstParent homes q s.files = .ok first ∧
          Consent p homes s.files (Text.packageName q.name) first s.terminal parent t ∧
          p.choose q ⟨s.files, t⟩ = (.ok selection, s₁)) := by
  have hquiet := prepare_quiet p homes q s
  rw [build_eq, Act.bind_run]
  constructor
  · intro f s₁ hprepare
    rw [hprepare] at hquiet ⊢
    exact ⟨rfl, hquiet⟩
  · intro parent selection s₁ hprepare
    rw [hprepare] at hquiet ⊢
    refine ⟨rfl, hquiet, fun b hb => fill_path (Prod.ext hb rfl), fun hthere => ?_⟩
    obtain ⟨first, s₂, hfirst, hfind, hchoose⟩ := prepare_ok hprepare
    have hfiles : s₂.files = s.files := by
      have hkept := findParent_quiet p homes (Text.packageName q.name)
        (s.terminal.answers.length + 1) first s
      rwa [hfind] at hkept
    rcases findParent_consents hfind hthere with hforce | hconsent
    · exact .inl hforce
    · right
      refine ⟨first, s₂.terminal, hfirst, hconsent, ?_⟩
      rw [← hfiles]
      exact hchoose

/-! ### A small project -/

def sampleProject : Project where
  type := ⟨⟨"web", "", ["vue"], [], none, [], [], [], "templates"⟩, ⟨.root, ["p"]⟩⟩
  settings := ⟨⟨.root, ["p"]⟩, ⟨.root, ["w"]⟩, "j2", false⟩
  vocabulary := ⟨["vue"], [], [], "j2", [], []⟩

def sampleRequest : Request where
  name := "App"
  framework := some "vue"
  options := some []

/-- Two folders are in the way, and only the second of them may be replaced. -/
def sampleSession : Session where
  files :=
    { entries := [(["w"], .directory), (["w", "app"], .directory), (["x"], .directory),
        (["x", "app"], .directory)] }
  terminal := { width := 80, answers := [.line "", .line " /x ", .line "maybe", .line "YES "] }

theorem sample_consents : ∃ t,
    Consent sampleProject ⟨"/h", []⟩ sampleSession.files (Text.packageName "App") ⟨.root, ["w"]⟩
      sampleSession.terminal ⟨.root, ["x"]⟩ t := by
  have hprepare : ((sampleProject.prepare ⟨"/h", []⟩ sampleRequest sampleSession).1.toOption) =
      some (⟨.root, ["x"]⟩, ⟨"vue", []⟩) := by
    decide +kernel
  rcases hrun : sampleProject.prepare ⟨"/h", []⟩ sampleRequest sampleSession with ⟨_ | x, s₁⟩
  · rw [hrun] at hprepare
    cases hprepare
  · rw [hrun] at hprepare
    cases hprepare
    obtain ⟨-, -, -, hconsents⟩ :=
      (build_consents sampleProject ⟨"/h", []⟩ sampleRequest sampleSession).2 _ _ _ hrun
    rcases hconsents (by rfl) with hforce | ⟨first, t, hfirst, hconsent, -⟩
    · cases hforce
    · cases hfirst
      exact ⟨t, hconsent⟩

end Scaffold.Project
