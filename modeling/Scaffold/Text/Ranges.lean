set_option autoImplicit false

/-!
# Character classes as ranges

A class is a list of ranges of code points, both ends included.
-/
namespace Scaffold.Text

abbrev Ranges := List (Nat × Nat)

def Ranges.has (r : Ranges) (c : Char) : Bool :=
  r.any fun p => p.1 ≤ c.toNat && c.toNat ≤ p.2

theorem Ranges.has_iff (r : Ranges) (c : Char) :
    r.has c = true ↔ ∃ p ∈ r, p.1 ≤ c.toNat ∧ c.toNat ≤ p.2 := by
  simp [Ranges.has]

end Scaffold.Text
