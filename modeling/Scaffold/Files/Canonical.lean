import Scaffold.Files.Basic

set_option autoImplicit false

/-!
# Canonical places

The place that a path stands for once links are followed, single and double dots are taken up, and
names that are not there are kept as they are. A link that leads back to itself cannot be followed;
it is kept, and what comes after it is only normalised.
-/
namespace Scaffold.Files

inductive Canonical where
  | reached (place : Place)
  | looping (place : Place) (rest : List String)

def followNames (fs : Files) (onLink : Place → Place → String → Canonical) :
    Place → List String → Canonical
  | at_, [] => .reached at_
  | at_, n :: rest =>
    if n = ".." then followNames fs onLink at_.dropLast rest
    else
      let place := at_ ++ [n]
      match fs.get? place with
      | some (.link target) =>
        match onLink at_ place target with
        | .reached p => followNames fs onLink p rest
        | .looping p left => .looping p (left ++ rest)
      | _ => followNames fs onLink place rest

def canonicalFrom (fs : Files) : Nat → List Place → Place → List String → Canonical
  | 0, _, at_, names => .looping at_ names
  | depth + 1, pending, at_, names =>
    followNames fs
      (fun from_ place target =>
        if place ∈ pending then .looping place []
        else
          let t := Path.ofText target
          canonicalFrom fs depth (place :: pending) (if t.isAbsolute then [] else from_) t.names)
      at_ names

def canonicalNames (fs : Files) (p : Path) : List String :=
  match canonicalFrom fs (fs.entries.length + 1) [] (if p.isAbsolute then [] else fs.current)
      p.names with
  | .reached place => place
  | .looping place rest => Path.normalNames (place ++ rest)

inductive Unresolved where
  | loop
  | zeroCharacter
  deriving DecidableEq, Repr

def canonical (fs : Files) (p : Path) : Except Unresolved Path :=
  if p.text.toList.contains '\x00' then .error .zeroCharacter
  else
    let q : Path := ⟨.root, fs.canonicalNames p⟩
    match fs.stat q with
    | .error .tooManyLinks => .error .loop
    | _ => .ok q

end Scaffold.Files
