set_option autoImplicit false

/-!
# Markup

A message may hold tags between brackets that open and close styles. What counts as a tag is the
affair of the console, which is known by what it makes of each message. The program relies on two
things: a message without brackets has no tags, and the styles that the program prints in can be
opened and closed around such a message.
-/
namespace Scaffold.Console

inductive Unreadable where
  | tags
  | value (message : String)
  deriving DecidableEq, Repr

def styled (style message : String) : String := "[" ++ style ++ "]" ++ message ++ "[/" ++ style ++ "]"

def styles : List String := ["bold green", "bold red", "bold yellow", "cyan", "yellow"]

structure Markup where
  /-- The characters that a message puts on a plain console. -/
  read : String → Except Unreadable (List Char)
  reads_plain : ∀ {message : String}, '[' ∉ message.toList → ∃ cs, read message = .ok cs
  /-- A backslash in front of the opening tag would make it text. -/
  reads_styled : ∀ {style before message : String}, style ∈ styles → '[' ∉ before.toList →
    '\\' ∉ before.toList → '[' ∉ message.toList →
      ∃ cs, read (before ++ styled style message) = .ok cs

namespace Markup

def Reads (m : Markup) (message : String) : Prop := ∃ cs, m.read message = .ok cs

theorem reads_style (m : Markup) {style message : String} (hstyle : style ∈ styles)
    (h : '[' ∉ message.toList) : m.Reads (styled style message) := by
  have hread := m.reads_styled hstyle (by decide : '[' ∉ "".toList) (by decide) h
  rwa [String.empty_append] at hread

end Markup

end Scaffold.Console
