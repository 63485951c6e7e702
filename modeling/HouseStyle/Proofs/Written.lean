import HouseStyle.Diagnostic.Basic
import HouseStyle.Style
import Mathlib.Algebra.Group.Int.Defs
import Mathlib.Algebra.Group.Nat.Defs

/-!
Contract: which numbers a message can hold.

Owns: the limits that can be written in the complaint about a line that exceeds them, and what
becomes of that complaint.
Does not own: where limits come from.

Every number of a message but one is a measure of the text or the code of a character. The other one
is the limit in the complaint about a long line. A limit from zero on is shorter than the line, so
only a limit below zero can have too many digits.

Main statement: `lineTooLong_format`.
-/

namespace HouseStyle

theorem Text.numeralBound_eq_pow : numeralBound = 10 ^ digitLimit := by
  -- the power itself is too large to be worked out
  unfold numeralBound
  generalize digitLimit = digits
  rfl

namespace Quantity

@[simp] theorem written_measure (value : Int) : (measure value).written = .ok (toString value) :=
  rfl

/-- A number that a measure exceeds can be written unless it lies below zero and has too many
digits. -/
theorem written_exceeded (value : Int) :
    (exceeded value).written =
      if value < 0 → value.natAbs < Text.numeralBound then .ok (toString value)
      else .error (.numeralTooLong none) := by
  unfold exceeded
  by_cases below : value < 0
  · rw [if_pos below, written]
    congr 1
    exact propext ⟨fun short _ => short, fun short => short below⟩
  · rw [if_neg below, written_measure, if_pos fun negative => absurd negative below]

end Quantity

/-- A limit that can be written wherever a line exceeds it: one from zero on, or one with no more
digits than may be written. -/
def Settings.Writable (settings : Settings) : Prop :=
  settings.limit < 0 → settings.limit.natAbs < Text.numeralBound

instance (settings : Settings) : Decidable settings.Writable :=
  inferInstanceAs (Decidable (_ → _))

/-- The limits that cannot be written are those far below zero. -/
theorem Settings.writable_iff {settings : Settings} :
    settings.Writable ↔ -(Text.numeralBound : Int) < settings.limit := by
  have positive : 0 < Text.numeralBound := by
    rw [Text.numeralBound_eq_pow]
    exact Nat.pow_pos (by decide)
  unfold Writable
  omega

theorem Settings.writable_of_nonneg {settings : Settings} (nonneg : 0 ≤ settings.limit) :
    settings.Writable :=
  fun below => absurd below (Int.not_lt.mpr nonneg)

/-- A power of ten below zero is no limit if it has too many digits. -/
theorem Settings.not_writable_of_pow (style : Style) (chainLimit : Option Nat) {exponent : Nat}
    (long : Text.digitLimit ≤ exponent) :
    ¬ Settings.Writable ⟨style, -10 ^ exponent, chainLimit⟩ := by
  have bound : Text.numeralBound ≤ 10 ^ exponent := by
    rw [Text.numeralBound_eq_pow]
    exact Nat.pow_le_pow_right (by decide) long
  rw [Settings.writable_iff, Int.not_lt, Int.neg_le_neg_iff]
  exact_mod_cast bound

/-- The complaint about a line of a length that exceeds the limit holds both numbers, if the limit
can be written at all. -/
theorem Kind.lineTooLong_format (settings : Settings) (length : Int) :
    Kind.lineTooLong.template.format
        [.number (.exceeded settings.limit), .number (.measure length)] =
      if settings.Writable then
        .ok ("line length must not exceed " ++ (toString settings.limit ++
          (" characters, found " ++ (toString length ++ ""))))
      else .error (.numeralTooLong none) := by
  have written := Quantity.written_exceeded settings.limit
  simp only [template, Template.format, List.isEmpty_cons, Bool.false_eq_true, if_false,
    Template.fill, Piece.fill, Quantity.written_measure]
  by_cases writable : settings.Writable
  · rw [if_pos writable, written.trans (if_pos writable)]
    rfl
  · rw [if_neg writable, written.trans (if_neg writable)]
    rfl

end HouseStyle
