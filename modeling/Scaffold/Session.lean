import Scaffold.Prompt
import Scaffold.Walk

set_option autoImplicit false

/-!
# Sessions

What the program acts on: a tree of files and a terminal. An action ends in a result or a failure,
and what it did to either before a failure stays done.
-/
namespace Scaffold

structure Session where
  files : Files
  terminal : Terminal

abbrev Act (α : Type) := ExceptT Failure (StateM Session) α

namespace Act
variable {α : Type}

def talk (t : Talk α) : Act α := fun s =>
  let (r, terminal) := t s.terminal
  (r, { s with terminal := terminal })

def step (c : Walk.Step α) : Act α := fun s =>
  let (r, files) := c s.files
  (r, { s with files := files })

def change (c : Files.Change α) : Act α := fun s =>
  let (r, files) := c s.files
  (r.mapError Failure.fault, { s with files := files })

def consult (q : Files → Except Failure α) : Act α := fun s => (q s.files, s)

def outcome (a : Act α) : Act (Except Failure α) := fun s =>
  let (r, s) := a s
  (.ok r, s)

theorem talk_files (t : Talk α) (s : Session) : (talk t s).2.files = s.files := rfl

end Act

def Walk.materialize (w : Walk) (source dest : Path) : Act Report := do
  let report ← Act.step (w.run source dest)
  for p in report.missing do
    Act.talk (Talk.tell .warning (Walk.missingText p))
  return report

end Scaffold
