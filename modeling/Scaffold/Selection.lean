import Scaffold.Validation

set_option autoImplicit false

/-!
# Selections

A selection is one framework and a set of options, kept as the list of its members in the order
of code points.
-/
namespace Scaffold

def insertMember (x : String) : List String → List String
  | [] => [x]
  | y :: ys => if x = y then y :: ys else if x < y then x :: y :: ys else y :: insertMember x ys

/-- The members of a list in order, each once. -/
def membersOf (xs : List String) : List String := xs.foldr insertMember []

theorem mem_insertMember (x y : String) (ys : List String) :
    x ∈ insertMember y ys ↔ x = y ∨ x ∈ ys := by
  induction ys with
  | nil => simp [insertMember]
  | cons z zs ih =>
    simp only [insertMember]
    split
    · rename_i h
      subst h
      simp
    · split
      · simp
      · simp only [List.mem_cons, ih]
        exact or_left_comm

theorem mem_membersOf (x : String) (xs : List String) : x ∈ membersOf xs ↔ x ∈ xs := by
  induction xs with
  | nil => simp [membersOf]
  | cons y ys ih =>
    simp only [membersOf, List.foldr_cons, mem_insertMember, List.mem_cons]
    exact or_congr Iff.rfl ih

structure Selection where
  framework : String
  options : List String
  deriving DecidableEq, Repr

namespace Selection

def of (framework : String) (options : List String) : Selection := ⟨framework, membersOf options⟩

def hasOption (s : Selection) (option : String) : Bool := s.options.contains option

def has (s : Selection) (token : String) : Bool := s.hasOption token || s.framework == token

open Validation

def ofRecord (entries : List (Value × Value)) : Except Refusal Selection :=
  let record := Value.dict entries
  match both (required record entries "framework" checkText)
      (field entries "options" [] (checkSequence .notSet checkText)) with
  | .ok (framework, options) => .ok (of framework options)
  | .error issues => .error ⟨"SelectionContext", issues⟩

inductive Unusable where
  | notIterable
  | notHashable
  | refused (r : Refusal)

def distinct (items : List Value) : List Value :=
  (items.foldl (fun seen v => if seen.any (Value.same v) then seen else v :: seen) []).reverse

/-- A selection of any values: the options are the distinct items of the second. -/
def ofValues (framework options : Value) : Except Unusable Selection :=
  match options.items? with
  | none => .error .notIterable
  | some items =>
    if items.all Value.isKey then
      match ofRecord [(.text "framework", framework), (.text "options", .list (distinct items))] with
      | .ok s => .ok s
      | .error r => .error (.refused r)
    else .error .notHashable

end Selection
end Scaffold
