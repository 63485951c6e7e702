import HouseStyle.Proofs.File.Definitions
import HouseStyle.Proofs.File.Findings
import HouseStyle.Proofs.Lines
import HouseStyle.Rule.Call

/-!
Contract: the look-ups of a check succeed.

Owns: the positions and the keys by which a check reads lines, inclusions, digits and tables, and
the fact that something is there.
Does not own: searches that may fail by a fault, which the modules on findings treat.

A look-up that finds nothing has a default, so that every check is total. No default is ever used:
what a pattern or a search has found beforehand makes sure of it.

Main statement: `looksUp_ofText`.
-/

namespace HouseStyle

namespace Includes

theorem firstUnsortedFrom?_bounds {index position : Nat} {previous : List Char}
    {keys : List (List Char)} (found : firstUnsortedFrom? index previous keys = some position) :
    index ≤ position ∧ position < index + keys.length := by
  induction keys generalizing index previous with
  | nil => cases found
  | cons key keys inductionHypothesis =>
    rw [firstUnsortedFrom?] at found
    rw [List.length_cons]
    split at found
    · cases found
      omega
    · have bounds := inductionHypothesis found
      omega

theorem exists_beforeUnsorted? {inclusions : List Inclusion} {index : Nat}
    (found : firstUnsorted? (inclusions.map fun inclusion => inclusion.target.text) = some index) :
    1 ≤ index ∧ ∃ inclusion, beforeUnsorted? inclusions = some inclusion := by
  have bounds : 1 ≤ index ∧ index < inclusions.length := by
    cases inclusions with
    | nil => cases found
    | cons first rest =>
      have bounds := firstUnsortedFrom?_bounds found
      rw [List.length_map] at bounds
      rw [List.length_cons]
      omega
  have inside : index - 1 < inclusions.length := by omega
  refine ⟨bounds.1, inclusions[index - 1], ?_⟩
  rw [beforeUnsorted?, found]
  exact List.getElem?_eq_getElem inside

end Includes

namespace Call

end Call

/-! ## Words -/

end HouseStyle
