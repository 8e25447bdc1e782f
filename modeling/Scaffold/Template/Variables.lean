import Scaffold.Value

set_option autoImplicit false

/-!
# Named values

Values under names, each name once. Setting a name changes what is looked up under it and nothing
else; of two layers, the upper one counts.
-/
namespace Scaffold.Template

abbrev Variables := List (String × Value)

namespace Variables

def set : Variables → String → Value → Variables
  | [], n, v => [(n, v)]
  | (m, w) :: vs, n, v => if m = n then (n, v) :: vs else (m, w) :: set vs n v

/-- The values of `upper` over those of `under`. -/
def overlay (under upper : Variables) : Variables := upper.foldl (fun vs e => set vs e.1 e.2) under

theorem lookup_set (vs : Variables) (n m : String) (v : Value) :
    (vs.set n v).lookup m = if m = n then some v else vs.lookup m := by
  induction vs with
  | nil =>
    by_cases h : m = n
    · simp [set, h]
    · have : (m == n) = false := by simpa using h
      simp [set, List.lookup_cons, h, this]
  | cons e vs ih =>
    obtain ⟨k, w⟩ := e
    by_cases hk : k = n
    · subst hk
      by_cases h : m = k
      · simp [set, h]
      · have : (m == k) = false := by simpa using h
        simp [set, List.lookup_cons, h, this]
    · by_cases h : m = k
      · subst h; simp [set, hk]
      · have : (m == k) = false := by simpa using h
        simp [set, List.lookup_cons, hk, this, ih]

end Variables
end Scaffold.Template
