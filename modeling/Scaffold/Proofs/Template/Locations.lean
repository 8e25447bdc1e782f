import Scaffold.Proofs.Session
import Scaffold.Proofs.Template.Faults
import Scaffold.Template.Renderer

set_option autoImplicit false

/-!
# Where a fault in a text is told to be

A template that is filled in fails with a fault in the text of a template only if it has that fault
itself, or it has none and another template that is found by name has it. The line that is told is
the line in the text at fault. The name is that of the template filled in, whenever it has one, and
else the name of the template at fault.
-/
namespace Scaffold.Template

variable {p : Fault → Prop} {loader : Option Loader} {text : String} {name : Option String}
  {f : SyntaxFault} {e : Fault}

/-! ### Faults of texts -/

def syntaxFault? (text : String) : Option SyntaxFault :=
  match Document.ofText none text with
  | .error (.malformed _ f) => some f
  | _ => none

theorem ofText_cases (name : Option String) (text : String) :
    (∃ f, syntaxFault? text = some f ∧ Document.ofText name text = .error (.malformed name f)) ∨
      ∃ d, syntaxFault? text = none ∧ Document.ofText name text = .ok d := by
  unfold syntaxFault? Document.ofText
  dsimp only
  generalize (do
    let nodes ← Statement.readTemplate (scan (Text.unifyLineEnds text.toList))
    Check.template nodes
    return nodes : Except SyntaxFault (List Node)) = read
  cases read with
  | ok nodes => exact .inr ⟨_, rfl, rfl⟩
  | error f => exact .inl ⟨f, rfl, rfl⟩

/-- A fault in the text of a template is one of a template that is found by its name. -/
def Located (loader : Option Loader) : Fault → Prop
  | .malformed name f => ∃ n find text,
    name = some n ∧ loader = some find ∧ find n = .ok text ∧ syntaxFault? text = some f
  | _ => True

instance : Broad (Located loader) where
  failed _ := trivial
  missing _ := trivial
  absent _ := trivial
  misuse _ := trivial

/-- Templates are found as texts: what is wrong in a text is not for the loader to say. -/
def Plain (loader : Option Loader) : Prop :=
  ∀ find n name f, loader = some find → find n ≠ .error (.malformed name f)

theorem load_located (h : Plain loader) (v : Value) : FaultsIn (Located loader) (load loader v) := by
  unfold load
  split
  · split
    · exact faultsIn_useOf _
    · exact faultsIn_misused _
  cases hloader : loader with
  | none => exact faultsIn_misused _
  | some find =>
    dsimp only
    split
    · rename_i n _
      rw [← hloader]
      intro e he
      cases hfind : find n with
      | error found =>
        obtain rfl : found = e := by
          rw [hfind] at he
          exact Except.error.inj he
        cases found with
        | malformed name f => exact absurd hfind (h find n name f hloader)
        | failed | missing | absent | misuse => trivial
      | ok text =>
        rw [hfind] at he
        obtain ⟨f, hfault, hread⟩ | ⟨d, -, hread⟩ := ofText_cases (some n) text
        · cases he.symm.trans hread
          exact ⟨n, find, text, rfl, hloader, hfind, hfault⟩
        · cases he.symm.trans hread
    · split
      · exact faultsIn_misused _
      · exact faultsIn_misused _

theorem loadFirst_located (h : Plain loader) (names vs : List Value) :
    FaultsIn (Located loader) (loadFirst loader names vs) := by
  induction vs with
  | nil => exact faultsIn_error.2 trivial
  | cons v vs ih =>
    unfold loadFirst
    split
    · exact ih
    · exact ih
    · exact load_located h v

theorem loadAny_located (h : Plain loader) (v : Value) :
    FaultsIn (Located loader) (loadAny loader v) := by
  unfold loadAny
  split
  · exact load_located h _
  · exact faultsIn_useOf _
  · split
    · exact faultsIn_bind (faultsIn_itemsOf _) fun names => loadFirst_located h names names
    · exact faultsIn_error.2 trivial

/-! ### Runs -/

theorem faultsIn_framed {run : Run → Outcome Run} (h : ∀ r, FaultsIn p (run r)) (frame : Frame)
    (r : Run) : FaultsIn p (framed run frame r) :=
  faultsIn_bind (h _) fun _ => faultsIn_pure _

theorem faultsIn_passes {body : Nat → Value → Run → Outcome Run}
    (h : ∀ i v r, FaultsIn p (body i v r)) (i : Nat) (vs : List Value) (r : Run) :
    FaultsIn p (passes body i vs r) := by
  induction vs generalizing i r with
  | nil => exact faultsIn_ok _
  | cons v vs ih => exact faultsIn_bind (h i v r) fun r => ih (i + 1) r

mutual
theorem faultsIn_unpack [Broad p] : (target : Target) → (v : Value) → FaultsIn p (unpack target v)
  | .name _ _, _ => faultsIn_ok _
  | .member _, _ => faultsIn_ok _
  | .tuple targets, v => by
    refine faultsIn_bind (faultsIn_itemsOf v) fun items => ?_
    split
    · exact faultsIn_unpackAll targets items
    · exact faultsIn_misused _

theorem faultsIn_unpackAll [Broad p] : (targets : List Target) → (vs : List Value) →
    FaultsIn p (unpackAll targets vs)
  | t :: ts, v :: vs =>
    faultsIn_bind (faultsIn_unpack t v) fun _ =>
      faultsIn_bind (faultsIn_unpackAll ts vs) fun _ => faultsIn_pure _
  | [], _ => faultsIn_ok _
  | _ :: _, [] => faultsIn_ok _
end

structure NestedIn (p : Fault → Prop) (nested : Nested) : Prop where
  load (v : Value) : FaultsIn p (load nested.loader v)
  loadAny (v : Value) : FaultsIn p (loadAny nested.loader v)
  block (r : Run) (name : String) (level : Nat) : FaultsIn p (nested.block r name level)
  document (d : Document) (r : Run) : FaultsIn p (nested.document d r)

variable {nested : Nested}

theorem faultsIn_evalIn [Broad p] (h : NestedIn p nested) (r : Run) (e : Expr) :
    FaultsIn p (eval (r.environment nested) e) := faultsIn_eval (h.block r) e

theorem faultsIn_passing [Broad p] (h : NestedIn p nested) (r : Run) (target : Target) (test : Option Expr)
    (vs : List Value) : ∀ e, (r.passing nested target test vs).2 = some e → p e := by
  induction vs with
  | nil =>
    intro e he
    cases he
  | cons v vs ih =>
    cases test with
    | none => exact ih
    | some test =>
      have hpassed : FaultsIn p (do
          let given ← unpack target v
          let frame := r.newFrame (Slots.ofLoopTest r.known target test) given
          truth (← eval ({ r with frames := frame :: r.frames }.environment nested) test)) :=
        faultsIn_bind (faultsIn_unpack target v) fun _ =>
          faultsIn_bind (faultsIn_evalIn h _ _) faultsIn_truth
      unfold Run.passing
      dsimp only
      split
      · rename_i e he
        rintro _ ⟨⟩
        exact hpassed e he
      · exact ih

mutual
theorem faultsIn_runNodes [Broad p] (h : NestedIn p nested) (s : Standing) :
    (nodes : List Node) → (r : Run) → FaultsIn p (runNodes nested s nodes r)
  | [], _ => faultsIn_ok _
  | n :: ns, r => faultsIn_bind (faultsIn_runNode h s n r) fun r => faultsIn_runNodes h s ns r

theorem faultsIn_runNode [Broad p] (h : NestedIn p nested) (s : Standing) :
    (node : Node) → (r : Run) → FaultsIn p (runNode nested s node r)
  | .text _, _ => faultsIn_ok _
  | .print e, r => by
    unfold runNode
    split
    · exact faultsIn_ok _
    · exact faultsIn_bind (faultsIn_evalIn h r e) fun v =>
        faultsIn_bind (faultsIn_textOf v) fun _ => faultsIn_pure _
  | .branch branches otherwise, r => by
    refine faultsIn_bind (faultsIn_runBranches h s branches r) fun taken => ?_
    cases taken with
    | none => exact faultsIn_runNodes h s otherwise r
    | some r => exact faultsIn_pure r
  | .loop target items test body otherwise, r => by
    refine faultsIn_bind (faultsIn_evalIn h r items) fun v =>
      faultsIn_bind (faultsIn_itemsOf v) fun all => ?_
    have hlater := faultsIn_passing h r target test all
    generalize r.passing nested target test all = passed at hlater
    obtain ⟨kept, fault?⟩ := passed
    refine faultsIn_bind (faultsIn_passes (fun i v r' => ?_) 0 kept r) fun r' => ?_
    · exact faultsIn_bind (faultsIn_bind (faultsIn_unpack target v) fun _ => faultsIn_pure _)
        fun frame => faultsIn_framed (fun r => faultsIn_runNodes h s.inner body r) frame r'
    · cases fault? with
      | some e => exact faultsIn_error.2 (hlater e rfl)
      | none =>
        dsimp only
        split
        · exact faultsIn_framed (fun r => faultsIn_runNodes h s.inner otherwise r) _ r'
        · exact faultsIn_pure r'
  | .assign target e, r => by
    unfold runNode
    split
    · exact faultsIn_bind (faultsIn_evalIn h r e) fun v =>
        faultsIn_bind (faultsIn_unpack target v) fun _ => faultsIn_pure _
    · exact faultsIn_error.2 (Broad.failed _)
  | .capture target filters body, r => by
    refine faultsIn_bind (faultsIn_runNodes h ⟨false, false⟩ body _) fun inner => ?_
    refine faultsIn_bind (faultsIn_foldlM (fun v f => ?_) _ filters) fun v => ?_
    · exact faultsIn_bind (faultsIn_evalArgs (h.block inner) {} f.args) (faultsIn_applyFilter _ v)
    · exact faultsIn_bind (faultsIn_unpack target v) fun _ => faultsIn_pure _
  | .block _ name isScoped mandatory _, r => by
    unfold runNode
    split
    · exact faultsIn_ok _
    · split
      · exact faultsIn_error.2 (Broad.failed _)
      · exact faultsIn_bind (h.block _ name 0) fun _ => faultsIn_pure _
  | .extend _ e, r => by
    unfold runNode
    split
    · exact faultsIn_error.2 (Broad.failed _)
    · exact faultsIn_bind (faultsIn_evalIn h r e) fun v =>
        faultsIn_bind (h.load v) fun _ => faultsIn_pure _
  | .embed e ignoreMissing withContext, r => by
    refine faultsIn_bind (faultsIn_evalIn h r e) fun v => ?_
    have hload := h.loadAny v
    generalize Template.loadAny nested.loader v = loaded at hload
    split
    · split
      · exact faultsIn_pure r
      · exact faultsIn_error.2 (Broad.missing _)
    · exact faultsIn_error.2 (faultsIn_error.1 hload)
    · exact faultsIn_bind (h.document _ _) fun _ => faultsIn_pure _

theorem faultsIn_runBranches [Broad p] (h : NestedIn p nested) (s : Standing) :
    (branches : List (Expr × List Node)) → (r : Run) → FaultsIn p (runBranches nested s branches r)
  | [], _ => faultsIn_ok _
  | (test, body) :: bs, r =>
    faultsIn_bind (faultsIn_evalIn h r test) fun v => faultsIn_bind (faultsIn_truth v) fun holds => by
      cases holds
      · exact faultsIn_runBranches h s bs r
      · exact faultsIn_bind (faultsIn_runNodes h s body r) fun _ => faultsIn_pure _
end

/-! ### Whole templates -/

theorem nestedWithin_located (h : Plain loader) (depth : Nat) :
    NestedIn (Located loader) (nestedWithin loader depth) := by
  induction depth with
  | zero =>
    exact ⟨load_located h, loadAny_located h, fun _ _ _ => faultsIn_misused _,
      fun _ _ => faultsIn_misused _⟩
  | succ depth ih =>
    refine ⟨load_located h, loadAny_located h, fun r name level => ?_, fun d r => ?_⟩
    · dsimp only [nestedWithin]
      split
      · exact faultsIn_ok _
      · exact faultsIn_bind (faultsIn_runNodes ih _ _ _) fun _ => faultsIn_pure _
    · refine faultsIn_bind (faultsIn_runNodes ih _ _ _) fun r => ?_
      split
      · exact faultsIn_pure r
      · exact ih.document _ r

theorem fill_located (h : Plain loader) (context : Variables) (d : Document) :
    FaultsIn (Located loader) (d.fill loader context) :=
  faultsIn_bind ((nestedWithin_located h nestingLimit).document d _) fun _ => faultsIn_pure _

/-- A text has a fault, or it has none and a template found by name has it. -/
inductive AtFault (loader : Option Loader) (text : String) :
    Option String → SyntaxFault → Prop where
  | own {f : SyntaxFault} (fault : syntaxFault? text = some f) : AtFault loader text none f
  | found {f : SyntaxFault} {n inner : String} {find : Loader} (sound : syntaxFault? text = none)
      (finds : loader = some find) (there : find n = .ok inner)
      (fault : syntaxFault? inner = some f) : AtFault loader text (some n) f

theorem fill_atFault {context : Variables} {own told : Option String} (h : Plain loader)
    (hfill : (Document.ofText own text >>= fun d => d.fill loader context) =
      .error (.malformed told f)) :
    AtFault loader text none f ∧ told = own ∨
      ∃ n, AtFault loader text (some n) f ∧ told = some n := by
  obtain ⟨found, hfault, hread⟩ | ⟨d, hsound, hread⟩ := ofText_cases own text
  · rw [hread] at hfill
    cases hfill
    exact .inl ⟨.own hfault, rfl⟩
  · rw [hread] at hfill
    obtain ⟨n, find, inner, rfl, hfinds, hthere, hfault⟩ := fill_located h context d _ hfill
    exact .inr ⟨n, .found hsound hfinds hthere hfault, rfl⟩

namespace Renderer
variable {r : Renderer} {fs : Files} {bindings : Variables} {selection : Option Selection}
  {message : String} {told : Option String} {line : Int}

theorem loader_plain (r : Renderer) (fs : Files) : Plain (r.loader fs) := by
  intro find n name f hfind
  obtain ⟨directory, -, rfl⟩ := Option.map_eq_some_iff.1 hfind
  unfold loaderOf
  split
  · nofun
  · dsimp only
    split
    · split <;> nofun
    · nofun

def toldName (name inner : Option String) : Option String := (name.filter (· ≠ "")).or inner

theorem report_eq {e : Fault} (h : report name e = .render message told (some line)) :
    ∃ inner f, e = .malformed inner f ∧ message = f.message ∧ line = f.line ∧
      told = toldName name inner := by
  cases e with
  | malformed inner f =>
    cases h
    refine ⟨inner, f, rfl, rfl, rfl, ?_⟩
    split
    · rfl
    · rfl
    · rename_i n hn
      have hne : n ≠ "" := hn
      simp [toldName, Option.filter, hne]
  | failed | missing | absent | misuse => cases h

theorem past_context {g : Variables → Except Failure String}
    (h : (r.context bindings selection >>= g) = .error (.render message told (some line))) :
    ∃ context, g context = .error (.render message told (some line)) := by
  unfold context at h
  cases hcontext : Template.context r.base r.vocabulary bindings selection with
  | ok c =>
    rw [hcontext] at h
    exact ⟨c, h⟩
  | error unusable =>
    rw [hcontext] at h
    cases unusable <;> cases h

theorem of_mapError {α : Type} {o : Outcome α} {g : Fault → Failure} {failure : Failure}
    (h : o.mapError g = .error failure) : ∃ e, o = .error e ∧ g e = failure := by
  cases o with
  | ok a => cases h
  | error e => exact ⟨e, rfl, Except.error.inj h⟩

theorem render_tells {name : Option String}
    (h : r.render fs text bindings selection name = .error (.render message told (some line))) :
    ∃ other f, AtFault (r.loader fs) text other f ∧ message = f.message ∧ line = f.line ∧
      told = toldName name other := by
  obtain ⟨context, h⟩ := past_context h
  obtain ⟨e, hfill, he⟩ := of_mapError h
  obtain ⟨inner, f, rfl, hmessage, hline, htold⟩ := report_eq he
  obtain ⟨hfault, rfl⟩ | ⟨n, hfault, rfl⟩ := fill_atFault (loader_plain r fs) hfill
  · exact ⟨none, f, hfault, hmessage, hline, htold⟩
  · exact ⟨some n, f, hfault, hmessage, hline, htold⟩

theorem renderFile_tells {path : Path}
    (h : r.renderFile fs path bindings selection = .error (.render message told (some line))) :
    ∃ bytes text other f, fs.read path = .ok bytes ∧ Text.ofBytes bytes = .ok text ∧
      AtFault (r.loader fs) text other f ∧ message = f.message ∧ line = f.line ∧
      told = toldName (some path.text) other := by
  unfold renderFile renderFileBy at h
  split at h
  · cases h
  · cases h
  · rename_i bytes hbytes
    split at h
    · cases h
    · rename_i text htext
      obtain ⟨other, f, hrest⟩ := render_tells h
      exact ⟨bytes, text, other, f, hbytes, htext, hrest⟩

theorem renderTemplate_tells {template : String}
    (h : r.renderTemplate fs template bindings selection =
      .error (.render message told (some line))) :
    ∃ find text other f, r.loader fs = some find ∧ find template = .ok text ∧
      AtFault (r.loader fs) text other f ∧ message = f.message ∧ line = f.line ∧
      told = some template := by
  have hplain := loader_plain r fs
  unfold renderTemplate at h
  cases hloader : r.loader fs with
  | none =>
    rw [hloader] at h
    cases h
  | some find =>
    rw [hloader] at h hplain
    obtain ⟨context, h⟩ := past_context h
    obtain ⟨e, hfilled, he⟩ := of_mapError h
    obtain ⟨inner, f, rfl⟩ : ∃ inner f, e = .malformed inner f := by
      cases e with
      | malformed inner f => exact ⟨inner, f, rfl⟩
      | failed | missing | absent | misuse => cases he
    cases he
    change ((find template >>= Document.ofText (some template)) >>= fun d =>
      d.fill (some find) context) = _ at hfilled
    cases htext : find template with
    | error e =>
      rw [htext] at hfilled
      cases hfilled
      exact absurd htext (hplain find template inner f rfl)
    | ok text =>
      rw [htext] at hfilled
      obtain ⟨hfault, -⟩ | ⟨n, hfault, -⟩ := fill_atFault hplain hfilled
      · exact ⟨find, text, none, f, rfl, htext, hfault, rfl, rfl, rfl⟩
      · exact ⟨find, text, some n, f, rfl, htext, hfault, rfl, rfl, rfl⟩

/-- A failure that tells a line tells of a fault in the text of the template filled in, or, if this
has none, of one in the text of a template found by name; the line is the line in the text at fault.
A template that is found by its own name is the one that is told, whichever is at fault. Where a
text or a file is filled in, its name is told, whichever is at fault, unless it is empty or left
out: then the name of the other one is told. -/
theorem lines_told (r : Renderer) (fs : Files) (bindings : Variables)
    (selection : Option Selection) (message : String) (told : Option String) (line : Int) :
    (∀ text name,
      r.render fs text bindings selection name = .error (.render message told (some line)) →
      ∃ other f, AtFault (r.loader fs) text other f ∧ message = f.message ∧ line = f.line ∧
        told = toldName name other) ∧
    (∀ path, r.renderFile fs path bindings selection = .error (.render message told (some line)) →
      ∃ bytes text other f, fs.read path = .ok bytes ∧ Text.ofBytes bytes = .ok text ∧
        AtFault (r.loader fs) text other f ∧ message = f.message ∧ line = f.line ∧
        told = toldName (some path.text) other) ∧
    ∀ template,
      r.renderTemplate fs template bindings selection =
        .error (.render message told (some line)) →
      ∃ find text other f, r.loader fs = some find ∧ find template = .ok text ∧
        AtFault (r.loader fs) text other f ∧ message = f.message ∧ line = f.line ∧
        told = some template :=
  ⟨fun _ _ => render_tells, fun _ => renderFile_tells, fun _ => renderTemplate_tells⟩

/-! ### A broken part -/

def brokenPage : String := "\x7b% include \"part.j2\" %\x7d"

def brokenPart : String := "one\ntwo\n\x7b% endfor %\x7d"

def brokenFiles : Files where
  entries := [(["t"], .directory), (["t", "page.j2"], .file brokenPage.toUTF8),
    (["t", "part.j2"], .file brokenPart.toUTF8)]

def brokenRenderer : Renderer where
  directory := some ⟨.root, ["t"]⟩

def brokenMessage : String := "Encountered unknown tag " ++ Text.quoted "endfor" ++ "."

def told? : Except Failure String → Option (String × Option String × Option Int)
  | .error (.render message told line?) => some (message, told, line?)
  | _ => none

theorem eq_of_told {outcome : Except Failure String} {line? : Option Int}
    (h : told? outcome = some (message, told, line?)) :
    outcome = .error (.render message told line?) := by
  unfold told? at h
  split at h
  · cases h
    rfl
  · cases h

theorem broken_part_told :
    brokenRenderer.render brokenFiles brokenPage [] none none =
        .error (.render brokenMessage (some "part.j2") (some 3)) ∧
      ∃ f, AtFault (brokenRenderer.loader brokenFiles) brokenPage (some "part.j2") f ∧ f.line = 3 := by
  have hrender : brokenRenderer.render brokenFiles brokenPage [] none none =
      .error (.render brokenMessage (some "part.j2") (some 3)) := eq_of_told (by decide +kernel)
  obtain ⟨other, f, hfault, -, hline, htold⟩ := (lines_told _ _ _ _ _ _ _).1 _ _ hrender
  obtain rfl : other = some "part.j2" := htold.symm
  exact ⟨hrender, f, hfault, by omega⟩

theorem broken_part_misnamed :
    brokenRenderer.renderTemplate brokenFiles "page.j2" [] none =
        .error (.render brokenMessage (some "page.j2") (some 3)) ∧
      (loaderOf brokenFiles ⟨.root, ["t"]⟩ "page.j2").toOption = some brokenPage ∧
      syntaxFault? brokenPage = none ∧
      (loaderOf brokenFiles ⟨.root, ["t"]⟩ "part.j2").toOption = some brokenPart ∧
      syntaxFault? brokenPart = some ⟨brokenMessage, 3⟩ :=
  ⟨eq_of_told (by decide +kernel), by decide +kernel, by decide +kernel, by decide +kernel,
    by decide +kernel⟩

end Renderer
end Scaffold.Template
