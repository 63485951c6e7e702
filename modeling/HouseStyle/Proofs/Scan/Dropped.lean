import HouseStyle.Proofs.Diagnostic
import HouseStyle.Proofs.Scan.Outcome

/-!
Contract: findings of some kinds, dropped before they are reported or after.

Owns: the agreement of both, and of two phases whose rules agree on the kinds that are kept.
Does not own: which kinds are dropped, and why rules agree on the others.

A scan that is compared with another one only for some kinds of complaints is compared rule by rule:
what a rule finds of the other kinds is never reported as one of those.

Main statement: `filter_phase`.
-/

namespace HouseStyle

/-- The findings of the kinds that are kept. -/
def Finding.keeping (keeps : Kind → Bool) (findings : List Finding) : List Finding :=
  findings.filter fun finding => keeps finding.kind

variable {keeps : Kind → Bool} {kept : Diagnostic → Bool}

/-- Rules that agree on the kinds that are kept make a phase that does. -/
theorem Rule.keeping_runPhase {view other : View} {phase : Phase}
    (same : ∀ rule ∈ ofPhase phase, (rule.check view).map (Finding.keeping keeps) =
      (rule.check other).map (Finding.keeping keeps)) :
    (runPhase phase view).map (Finding.keeping keeps) =
      (runPhase phase other).map (Finding.keeping keeps) := by
  have rules : ∀ view : View, (runPhase phase view).map (Finding.keeping keeps) =
      ((ofPhase phase).mapM fun rule : Rule => (rule.check view).map (Finding.keeping keeps)).map
        List.flatten := by
    intro view
    rw [Answer.mapM_map, runPhase, Answer.map_bind]
    cases (ofPhase phase).mapM fun rule : Rule => rule.check view with
    | error fault => rfl
    | ok findings => exact congrArg Except.ok List.filter_flatten
  rw [rules, rules, Answer.mapM_congr same]

namespace Scan

theorem report_cons {site : Site} {finding : Finding} {diagnostic : Diagnostic}
    (given : finding.onLine site.number = .ok diagnostic) (findings : List Finding) :
    report site (finding :: findings) = (report site findings).map (List.cons diagnostic) := by
  rw [report, List.mapM_cons, given]
  rfl

/-- Diagnostics of the kinds that are kept come from findings of these kinds. -/
theorem filter_report (decides : Kind.Decides keeps kept) {kinds : List Kind}
    {findings : List Finding} (declared : Declared kinds findings) (site : Site) :
    (report site findings).map (List.filter kept) = report site (Finding.keeping keeps findings) := by
  induction findings with
  | nil => rfl
  | cons finding findings inductionHypothesis =>
    obtain ⟨⟨-, printable⟩, others⟩ := List.forall_mem_cons.mp declared
    obtain ⟨diagnostic, given, isOf⟩ := onLine_answers printable site.number
    have later := inductionHypothesis others
    have decided := decides diagnostic finding.kind isOf
    rw [report_cons given]
    unfold Finding.keeping at later ⊢
    cases keep : keeps finding.kind with
    | true =>
      rw [List.filter_cons_of_pos (by simp [keep]), report_cons given, ← later]
      cases report site findings with
      | error fault => rfl
      | ok diagnostics => exact congrArg Except.ok (List.filter_cons_of_pos (decided.trans keep))
    | false =>
      rw [List.filter_cons_of_neg (by simp [keep]), ← later]
      cases report site findings with
      | error fault => rfl
      | ok diagnostics =>
        exact congrArg Except.ok (List.filter_cons_of_neg (by simp [decided, keep]))

/-- The complaints of a phase agree on the kinds that are kept if those of every rule do, and if the
limits can be written alike. -/
theorem filter_phase (decides : Kind.Decides keeps kept) {site other : Site}
    (number : site.number = other.number) {view viewToo : View}
    (alike : view.settings.Writable ↔ viewToo.settings.Writable) {phase : Phase}
    (same : ∀ rule ∈ Rule.ofPhase phase, (rule.check view).map (Finding.keeping keeps) =
      (rule.check viewToo).map (Finding.keeping keeps)) :
    (Rule.runPhase phase view >>= report site).map (List.filter kept) =
      (Rule.runPhase phase viewToo >>= report other).map (List.filter kept) := by
  by_cases writable : phase = .raw → view.settings.Writable
  · apply Answer.map_bind_congr (Rule.keeping_runPhase same)
    intro findings findingsToo answers answersToo agree
    rw [filter_report decides (Rule.declared_of_runPhase answers writable),
      filter_report decides (Rule.declared_of_runPhase answersToo fun raw =>
        alike.mp (writable raw)), agree, report, report, number]
  · obtain ⟨rfl, unwritable⟩ := Classical.not_imp.mp writable
    rw [Rule.runPhase_raw, Rule.runPhase_raw, Answer.ok_bind, Answer.ok_bind,
      report_lineLength_eq_error unwritable,
      report_lineLength_eq_error fun writable => unwritable (alike.mpr writable)]

end Scan

end HouseStyle
