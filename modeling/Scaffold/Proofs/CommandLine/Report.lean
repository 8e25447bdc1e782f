import Scaffold.CommandLine.Command
import Scaffold.Proofs.Project.Types
import Scaffold.Proofs.Session

set_option autoImplicit false

/-!
# How failures are told

The command tells of a failure in one line and ends with exit code 1, if the console can read the
message between the tags of the style that it is printed in. The message is made of what the user
typed and of names of files, in which brackets may be taken for tags. One that cannot be read is not
printed, and the command ends without an exit code.
-/
namespace Scaffold.CommandLine
open Console

variable {f : Failure} {message : String} {t t' : Session}

def told? : Failure → Option String
  | .aborted _ | .interrupted => some "\nCancelled"
  | f => f.report?.map ("Error: " ++ ·)

theorem report_told (h : told? f = some message) (t : Session) :
    report f t =
      match Tone.error.line t.terminal.markup t.terminal.width message with
      | .ok text => (.ok failed, t.print text)
      | .error e => (.error (.ofUnreadable e), t) := by
  have htell : report f = do
      Act.talk (Talk.tell .error message)
      return failed := by
    cases f with
    | aborted | interrupted =>
      cases h
      rfl
    | _ =>
      simp only [told?, Option.map_eq_some_iff] at h
      obtain ⟨text, htext, rfl⟩ := h
      simp only [report, htext]
  rw [htell, Act.bind_run, Talk.tell, Talk.put_run]
  cases Tone.error.line t.terminal.markup t.terminal.width message <;> rfl

theorem execute_run {s : Surroundings} {line : List String} {a : Arguments} {settings : Settings}
    (hparse : parse line = .ok a) (hlist : a.list = false) (hsettings : s.settings a = .ok settings)
    (elapsed : Number.Double) (t : Session) :
    execute s line elapsed t =
      finish (run a settings s.homes t).1 elapsed (run a settings s.homes t).2 := by
  unfold execute
  rw [hparse]
  dsimp only
  rw [Act.bind_run]
  have hconsult : Act.consult (fun _ => s.settings a) t = (.ok settings, t) := by
    rw [Act.consult, hsettings]
  rw [hconsult]
  simp only [hlist, Bool.false_eq_true, if_false, Act.bind_run]
  rfl

/-- A failure that is to be told of is told in a line, and the exit code is 1, just if the console
can read the message where it is printed, as it can without brackets. Files are left as the failure
left them. -/
theorem execute_reports {s : Surroundings} {line : List String} {a : Arguments}
    {settings : Settings} (elapsed : Number.Double) (hparse : parse line = .ok a)
    (hlist : a.list = false) (hsettings : s.settings a = .ok settings)
    (hrun : run a settings s.homes t = (.error f, t')) (htold : told? f = some message) :
    (t'.terminal.markup.Reads (styled Tone.error.style message) → ∃ text,
      Tone.error.line t'.terminal.markup t'.terminal.width message = .ok text ∧
        execute s line elapsed t = (.ok failed, t'.print text)) ∧
      ('[' ∉ message.toList → t'.terminal.markup.Reads (styled Tone.error.style message)) ∧
      ∀ e, t'.terminal.markup.read (styled Tone.error.style message) = .error e →
        execute s line elapsed t = (.error (.ofUnreadable e), t') := by
  have hexecute : execute s line elapsed t = report f t' := by
    rw [execute_run hparse hlist hsettings, hrun]
    rfl
  rw [hexecute, report_told htold]
  refine ⟨?_, fun hplain => t'.terminal.markup.reads_style Tone.error.style_mem hplain, ?_⟩
  · rintro ⟨cs, hread⟩
    simp only [Tone.line, Console.line, hread, Except.map]
    exact ⟨_, rfl, rfl⟩
  · intro e hread
    simp only [Tone.line, Console.line, hread, Except.map]

/-! ### Where there are no types of projects -/

def bare : Surroundings where
  defaults := ⟨⟨.root, ["p"]⟩, ⟨.root, ["w"]⟩, "j2", false⟩
  homes := ⟨"/h", []⟩

def bareSession : Session := ⟨{ entries := [] }, { width := 80 }⟩

theorem bare_run (type : String) (h : type ≠ "") :
    run { type := some type } bare.defaults bare.homes bareSession =
      (.error (.unknownProject type []), bareSession) := by
  have hgiven : given (some type) = some type := by simp [given, h]
  have hload : Act.consult (fun fs => Project.load fs bare.defaults type) bareSession =
      (.error (.unknownProject type []), bareSession) := by
    have hdiscover : ProjectType.discover bareSession.files bare.defaults.projects = .ok [] := rfl
    rw [Act.consult, Project.load_of_discover hdiscover]
    simp [ProjectType.namesOf]
  unfold run
  simp only [hgiven, pure_bind]
  rw [Act.bind_run, hload]

theorem bare_settings (type : String) : bare.settings { type := some type } = .ok bare.defaults :=
  rfl

theorem bare_told (type : String) : told? (.unknownProject type []) =
    some ("Error: " ++ Failure.unknownProjectText type []) := rfl

theorem unknown_type_told : ∃ text,
    Tone.error.line .tags 80 ("Error: " ++ Failure.unknownProjectText "x" []) = .ok text ∧
      execute bare ["x"] (.finite ⟨false, 0, 0⟩) bareSession =
        (.ok failed, bareSession.print text) := by
  have hparse : parse ["x"] = .ok { type := some "x" } := rfl
  have hreports := execute_reports (.finite ⟨false, 0, 0⟩) hparse rfl (bare_settings "x")
    (bare_run "x" (by decide)) (bare_told "x")
  exact hreports.1 (hreports.2.1 (by decide +kernel))

/-- A type that looks like a tag that closes a style is not told of. -/
theorem closing_tag_untold :
    parse ["[/x]"] = .ok { type := some "[/x]" } ∧
      run { type := some "[/x]" } bare.defaults bare.homes bareSession =
        (.error (.unknownProject "[/x]" []), bareSession) ∧
      execute bare ["[/x]"] (.finite ⟨false, 0, 0⟩) bareSession =
        (.error .badMarkup, bareSession) := by
  have hparse : parse ["[/x]"] = .ok { type := some "[/x]" } := rfl
  have hrun := bare_run "[/x]" (by decide)
  have hline : Tone.error.line .tags 80 ("Error: " ++ Failure.unknownProjectText "[/x]" []) =
      .error .tags := by
    decide +kernel
  refine ⟨hparse, hrun, ?_⟩
  rw [execute_run hparse rfl (bare_settings _), hrun, finish, report_told (bare_told _)]
  simp only [bareSession, hline, Failure.ofUnreadable]

end Scaffold.CommandLine
