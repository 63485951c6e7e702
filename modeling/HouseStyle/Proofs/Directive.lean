import HouseStyle.File.Includes
import HouseStyle.Proofs.Pattern.Reach
import HouseStyle.Proofs.Text

/-!
Contract: every directive starts with a hash.

Owns: the first character of a line that holds an inclusion, a guard, or the directive to read a
header once.
Does not own: what directives mean.

Main statements: `head?_of_inclusion`, `head?_of_pragmaOnce` and `exists_hash_of_hasGuard`.
-/

namespace HouseStyle

namespace Includes

open Lexicon

/-- A directive up to and with its word. -/
def Opening (name : String) (piece : List Char) : Prop :=
  ∃ margin gap, (∀ c ∈ margin, Text.isBlank c) ∧ (∀ c ∈ gap, Text.isBlank c) ∧
    piece = margin ++ '#' :: (gap ++ name.toList)

theorem consumes_directive (name : String) (text : List Char) :
    (directive name).Consumes (Opening name) (.atStart text) := by
  refine Pattern.Consumes.of_iff
    (((((Pattern.consumes_atStart text).append fun _ => Pattern.consumes_many _ _).append
      fun _ => Pattern.consumes_one _ _).append fun _ => Pattern.consumes_many _ _).append
      fun _ => Pattern.consumes_word _ _) ?_
  intro piece
  constructor
  · rintro ⟨_, _, ⟨_, gap, ⟨_, _, ⟨_, _, rfl, margins, rfl⟩, ⟨c, hash, rfl⟩, rfl⟩, gaps, rfl⟩,
      rfl, rfl⟩
    cases beq_iff_eq.mp hash
    exact ⟨_, gap, margins, gaps, by simp⟩
  · rintro ⟨margin, gap, margins, gaps, rfl⟩
    exact ⟨_, _, ⟨_, gap, ⟨_, _, ⟨[], margin, rfl, margins, rfl⟩, ⟨'#', rfl, rfl⟩, rfl⟩, gaps, rfl⟩,
      rfl, by simp⟩

theorem head?_of_directive {name : String} {text : List Char} {stop : Cursor}
    (reached : stop ∈ (directive name).outcomes (.atStart text)) :
    (Text.trimLeft text).head? = some '#' := by
  obtain ⟨_, rest, ⟨margin, gap, margins, -, rfl⟩, split, -⟩ :=
    (consumes_directive name text stop).mp reached
  rw [show text = _ from split, List.append_assoc, Text.trimLeft,
    List.dropWhile_append_of_pos margins, List.cons_append, List.dropWhile_cons_of_neg (by decide)]
  rfl

theorem head?_of_inclusion {text : List Char} (fits : inclusion.fits text) :
    (Text.trimLeft text).head? = some '#' := by
  obtain ⟨stop, reached⟩ := Pattern.fits_iff.mp fits
  simp only [inclusion, Pattern.mem_outcomes_append] at reached
  obtain ⟨_, ⟨_, directive, -⟩, -⟩ := reached
  exact head?_of_directive directive

theorem head?_of_pragmaOnce {text : List Char} (fits : pragmaOnce.fits text) :
    (Text.trimLeft text).head? = some '#' := by
  obtain ⟨stop, reached⟩ := Pattern.fits_iff.mp fits
  simp only [pragmaOnce, Pattern.mem_outcomes_append] at reached
  obtain ⟨_, ⟨_, ⟨_, ⟨_, directive, -⟩, -⟩, -⟩, -⟩ := reached
  exact head?_of_directive directive

/-- The end of a guard is read off the first characters that are not blank. -/
theorem isPrefixOf_squeeze_iff {raw : List Char} :
    "#endif".toList.isPrefixOf (Text.squeeze raw) ↔ "#endif".toList <+: Text.trimLeft raw := by
  rw [List.isPrefixOf_iff_prefix, Text.isPrefix_squeeze_iff (by decide)]

/-- A guard stands on a line that starts with a hash. -/
theorem exists_hash_of_hasGuard {guard : List Char} {raws : List (List Char)}
    (guarded : hasGuard guard raws) :
    ∃ raw ∈ raws, (Text.trimLeft raw).head? = some '#' := by
  simp only [hasGuard, Bool.and_eq_true, List.contains_iff_mem] at guarded
  obtain ⟨raw, member, same⟩ := List.mem_map.mp guarded.1.1
  refine ⟨raw, member, ?_⟩
  rw [← Text.head?_squeeze, same]
  rfl

end Includes

end HouseStyle
