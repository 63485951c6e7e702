import HouseStyle.Proofs.Answer
import HouseStyle.Scan.Step

/-!
Contract: a scan as far as it gets.

Owns: the records of the lines before the first that fails, and the rule for what every state of a
scan satisfies.
Does not own: what a single line does to the state.

`Scan.records` gives nothing at all when a line fails. The lines before that one have been scanned
all the same, and statements about every scanned line are statements about `Scan.run`.

Main statements: `records` is `run` when no line fails (`records_eq_run`), and what a step preserves
holds after every line (`invariant_of_step`).
-/

namespace HouseStyle.Scan

/-- The records of the lines up to the first that fails, and its fault. The lines already scanned
are listed from the nearest on. -/
def runFrom (settings : Settings) (index : Nat) (before : List Line) (state : ScanState) :
    List Line → List Record × Option Fault
  | [] => ([], none)
  | line :: rest =>
    match step settings ⟨index, before, line, rest⟩ state with
    | .error fault => ([], some fault)
    | .ok (diagnostics, state) =>
      let (records, fault) := runFrom settings (index + 1) (line :: before) state rest
      (⟨index, diagnostics, state⟩ :: records, fault)

/-- The records of the lines of a file up to the first that fails, and its fault. -/
def run (settings : Settings) (lines : List Line) : List Record × Option Fault :=
  runFrom settings 0 [] .initial lines

variable {settings : Settings} {index : Nat} {before : List Line} {state : ScanState}

theorem runFrom_cons_error {line : Line} {rest : List Line} {fault : Fault}
    (fails : step settings ⟨index, before, line, rest⟩ state = .error fault) :
    runFrom settings index before state (line :: rest) = ([], some fault) := by
  rw [runFrom, fails]

theorem runFrom_cons_ok {line : Line} {rest : List Line} {diagnostics : List Diagnostic}
    {next : ScanState}
    (passes : step settings ⟨index, before, line, rest⟩ state = .ok (diagnostics, next)) :
    runFrom settings index before state (line :: rest) =
      (⟨index, diagnostics, next⟩ ::
          (runFrom settings (index + 1) (line :: before) next rest).1,
        (runFrom settings (index + 1) (line :: before) next rest).2) := by
  rw [runFrom, passes]

/-- The records are those of the run if the run gets through, and its fault otherwise. -/
theorem recordsFrom_eq_runFrom (settings : Settings) (index : Nat) (before : List Line)
    (state : ScanState) (lines : List Line) :
    recordsFrom settings index before state lines =
      match runFrom settings index before state lines with
      | (records, none) => .ok records
      | (_, some fault) => .error fault := by
  induction lines generalizing index before state with
  | nil => rfl
  | cons line rest inductionHypothesis =>
    rw [recordsFrom]
    cases outcome : step settings ⟨index, before, line, rest⟩ state with
    | error fault =>
      rw [runFrom_cons_error outcome]
      rfl
    | ok settled =>
      obtain ⟨diagnostics, next⟩ := settled
      rw [runFrom_cons_ok outcome, Answer.ok_bind]
      show (recordsFrom settings (index + 1) (line :: before) next rest >>= _) = _
      rw [inductionHypothesis]
      cases others : runFrom settings (index + 1) (line :: before) next rest with
      | mk records fault => cases fault <;> rfl

theorem records_eq_run (settings : Settings) (lines : List Line) :
    records settings lines =
      match run settings lines with
      | (records, none) => .ok records
      | (_, some fault) => .error fault :=
  recordsFrom_eq_runFrom settings 0 [] .initial lines

/-- The settings do not matter where all lines are blank. -/
theorem runFrom_of_blank (settings other : Settings) {lines : List Line}
    (blank : ∀ line ∈ lines, line.isBlank) (index : Nat) (before : List Line) (state : ScanState) :
    runFrom settings index before state lines = runFrom other index before state lines := by
  induction lines generalizing index before state with
  | nil => rfl
  | cons first rest inductionHypothesis =>
    obtain ⟨blankFirst, blankRest⟩ := List.forall_mem_cons.mp blank
    have alike : step settings ⟨index, before, first, rest⟩ state =
        step other ⟨index, before, first, rest⟩ state := by
      unfold step line
      rw [if_pos blankFirst, if_pos blankFirst]
    cases outcome : step other ⟨index, before, first, rest⟩ state with
    | error fault => rw [runFrom_cons_error outcome, runFrom_cons_error (alike.trans outcome)]
    | ok settled =>
      rw [runFrom_cons_ok outcome, runFrom_cons_ok (alike.trans outcome),
        inductionHypothesis blankRest]

/-- What holds before the first line and is preserved by every step holds after every line. -/
theorem invariant_of_step {Holds : ScanState → Prop}
    (preserved : ∀ site state diagnostics next, Holds state →
      step settings site state = .ok (diagnostics, next) → Holds next)
    (lines : List Line) (holds : Holds state) :
    ∀ record ∈ (runFrom settings index before state lines).1, Holds record.state := by
  induction lines generalizing index before state with
  | nil =>
    intro record member
    exact absurd member List.not_mem_nil
  | cons line rest inductionHypothesis =>
    cases outcome : step settings ⟨index, before, line, rest⟩ state with
    | error fault =>
      rw [runFrom_cons_error outcome]
      intro record member
      exact absurd member List.not_mem_nil
    | ok settled =>
      obtain ⟨diagnostics, next⟩ := settled
      have holdsNext := preserved _ _ _ _ holds outcome
      rw [runFrom_cons_ok outcome]
      intro record member
      rcases List.mem_cons.mp member with rfl | later
      · exact holdsNext
      · exact inductionHypothesis holdsNext record later

end HouseStyle.Scan
