import HouseStyle.Proofs.Rule.Alike
import HouseStyle.Proofs.Rule.Findings

/-!
Contract: how far a rule sees.

Owns: the agreement of every rule on two views that differ only in lines beyond the nearest lines
with code.
Does not own: what a rule finds.

Main statement: `runPhase_eq_of_sight`.
-/

namespace HouseStyle

/-- Two views that a rule cannot tell apart: the same line under the same settings, between the same
lines with code. -/
structure View.SameSight (view other : View) : Prop where
  settings : view.settings = other.settings
  scope : view.scope = other.scope
  line : view.line = other.line
  previous : view.previousCode? = other.previousCode?
  next : view.nextCode? = other.nextCode?

theorem Line.Alike.refl (line : Line) : line.Alike line :=
  ⟨rfl, rfl, rfl, rfl, rfl, rfl, rfl, rfl⟩

variable {view other : View}

theorem View.SameSight.alike (sight : view.SameSight other) : view.Alike other where
  settings := sight.settings
  scope := sight.scope
  line := sight.line ▸ Line.Alike.refl view.line
  previous := congrArg (Option.map Line.code) sight.previous
  next := congrArg (Option.map Line.code) sight.next

namespace Rule

theorem check_eq_of_sight (sight : view.SameSight other) :
    ∀ rule ∈ all, rule.check view = rule.check other := by
  intro rule member
  exact check_eq_of_alike sight.alike rule member
    fun _ => sight.line ▸ Line.SameCharacters.refl view.line

theorem runPhase_eq_of_sight (phase : Phase) (sight : view.SameSight other) :
    runPhase phase view = runPhase phase other := by
  unfold runPhase
  rw [Answer.mapM_congr fun rule member =>
    check_eq_of_sight sight rule (mem_all_of_mem_ofPhase member)]

end Rule

end HouseStyle
