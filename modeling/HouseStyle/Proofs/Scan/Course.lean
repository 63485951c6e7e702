import HouseStyle.Proofs.Scan.Outcome
import HouseStyle.Proofs.Scan.Run

/-!
Contract: the course of a scan, as one state for every line index.

Owns: the line of an index in its file, the state before it, and the reading of a run off both.
Does not own: what a single line does to the state, which `Scan.advance` gives.

The states of a scan depend on neither the settings nor the diagnostics, so they are defined for
every line, also for one behind the first that fails. A run follows them up to its first fault.

Main statements: every record is the step from the state before its line (`step_of_run`), the fault of
a run is the first along the course (`fault_run`), and the lines before it are those with a record
(`lt_length_run`).
-/

namespace HouseStyle

/-- The line of an index in its file. -/
def Site.at? (lines : List Line) (index : Nat) : Option Site :=
  lines[index]?.map fun line => ⟨index, (lines.take index).reverse, line, lines.drop (index + 1)⟩

theorem Site.at?_append (before : List Line) (line : Line) (rest : List Line) :
    Site.at? (before.reverse ++ line :: rest) before.length =
      some ⟨before.length, before, line, rest⟩ := by
  have later : (before.reverse ++ line :: rest).drop (before.length + 1) = rest := by
    rw [← List.length_reverse, List.drop_length_add_append]
    rfl
  simp [Site.at?, later]

theorem Site.exists_at? {lines : List Line} {index : Nat} (inside : index < lines.length) :
    ∃ site, Site.at? lines index = some site ∧ lines[index]? = some site.line := by
  have there := List.getElem?_eq_getElem inside
  exact ⟨_, by rw [Site.at?, there]; rfl, there⟩

theorem Site.mem_of_at? {lines : List Line} {index : Nat} {site : Site}
    (there : Site.at? lines index = some site) : site.line ∈ lines := by
  obtain ⟨line, found, rfl⟩ := Option.map_eq_some_iff.mp there
  exact List.mem_of_getElem? found

theorem Site.index_of_at? {lines : List Line} {index : Nat} {site : Site}
    (there : Site.at? lines index = some site) : site.index = index := by
  obtain ⟨line, -, rfl⟩ := Option.map_eq_some_iff.mp there
  rfl

theorem Site.after_of_at? {lines : List Line} {index : Nat} {site : Site}
    (there : Site.at? lines index = some site) : site.after = lines.drop (index + 1) := by
  obtain ⟨line, -, rfl⟩ := Option.map_eq_some_iff.mp there
  rfl

theorem Site.getElem?_of_at? {lines : List Line} {index : Nat} {site : Site}
    (there : Site.at? lines index = some site) : lines[index]? = some site.line := by
  obtain ⟨line, found, rfl⟩ := Option.map_eq_some_iff.mp there
  exact found

theorem Site.lt_length_of_at? {lines : List Line} {index : Nat} {site : Site}
    (there : Site.at? lines index = some site) : index < lines.length :=
  (List.getElem?_eq_some_iff.mp (Site.getElem?_of_at? there)).1

/-- The lines from one on are the line itself and those after it. -/
theorem Site.drop_of_at? {lines : List Line} {index : Nat} {site : Site}
    (there : Site.at? lines index = some site) :
    lines.drop index = site.line :: lines.drop (index + 1) := by
  obtain ⟨inside, found⟩ := List.getElem?_eq_some_iff.mp (Site.getElem?_of_at? there)
  rw [List.drop_eq_getElem_cons inside, found]

/-- The lines up to one are those before it and the line itself. -/
theorem Site.take_succ_of_at? {lines : List Line} {index : Nat} {site : Site}
    (there : Site.at? lines index = some site) :
    lines.take (index + 1) = lines.take index ++ [site.line] := by
  obtain ⟨line, found, rfl⟩ := Option.map_eq_some_iff.mp there
  rw [List.take_add_one, found]
  rfl

namespace Scan

/-- The state before the line of an index, or after the last line if there is none. -/
def stateBefore (lines : List Line) : Nat → ScanState
  | 0 => .initial
  | index + 1 =>
    match Site.at? lines index with
    | some site => advance site (stateBefore lines index)
    | none => stateBefore lines index

/-- The fault that the line of an index raises, if the scan gets there. -/
def faultAt? (settings : Settings) (lines : List Line) (index : Nat) : Option Fault :=
  (Site.at? lines index).bind fun site => fault? settings site (stateBefore lines index)

theorem stateBefore_succ {lines : List Line} {index : Nat} {site : Site}
    (there : Site.at? lines index = some site) :
    stateBefore lines (index + 1) = advance site (stateBefore lines index) := by
  rw [stateBefore, there]

/-- What holds before the first line and is kept by every line holds before every line. -/
theorem stateBefore_induction {lines : List Line} {Holds : Nat → ScanState → Prop}
    (initial : Holds 0 .initial)
    (advances : ∀ index site state, Site.at? lines index = some site → Holds index state →
      Holds (index + 1) (advance site state)) :
    ∀ index ≤ lines.length, Holds index (stateBefore lines index) := by
  intro index within
  induction index with
  | zero => exact initial
  | succ index inductionHypothesis =>
    obtain ⟨site, there, -⟩ := Site.exists_at? within
    rw [stateBefore_succ there]
    exact advances index site _ there (inductionHypothesis (Nat.le_of_succ_le within))

section Run

variable {settings : Settings} {lines rest : List Line}

/-- A scan from a line on: the line raises its fault, or its record comes first and the scan goes on
with the line behind it. -/
theorem runFrom_of_split {before : List Line} {line : Line}
    (split : lines = before.reverse ++ line :: rest) :
    let site : Site := ⟨before.length, before, line, rest⟩
    let next := stateBefore lines (before.length + 1)
    let run := runFrom settings before.length before (stateBefore lines before.length) (line :: rest)
    let later := runFrom settings (before.length + 1) (line :: before) next rest
    (∃ fault, faultAt? settings lines before.length = some fault ∧ run = ([], some fault)) ∨
      ∃ diagnostics, Site.at? lines before.length = some site ∧
        fault? settings site (stateBefore lines before.length) = none ∧
        faultAt? settings lines before.length = none ∧
        step settings site (stateBefore lines before.length) = .ok (diagnostics, next) ∧
        run = (⟨before.length, diagnostics, next⟩ :: later.1, later.2) := by
  intro site next run later
  have here : Site.at? lines before.length = some site := by rw [split, Site.at?_append]
  have raised : faultAt? settings lines before.length =
      fault? settings site (stateBefore lines before.length) := by
    rw [faultAt?, here]
    rfl
  have outcome := step_outcome settings site (stateBefore lines before.length)
  rw [raised]
  cases fails : fault? settings site (stateBefore lines before.length) with
  | some fault =>
    rw [fails] at outcome
    exact .inl ⟨fault, rfl, runFrom_cons_error outcome⟩
  | none =>
    rw [fails] at outcome
    obtain ⟨diagnostics, passes, -⟩ := outcome
    rw [← stateBefore_succ here] at passes
    exact .inr ⟨diagnostics, here, rfl, rfl, passes, runFrom_cons_ok passes⟩

theorem step_of_runFrom (before : List Line) (split : lines = before.reverse ++ rest) {position : Nat}
    {record : Record}
    (scanned : (runFrom settings before.length before (stateBefore lines before.length)
      rest).1[position]? = some record) :
    ∃ site, Site.at? lines (before.length + position) = some site ∧
      record.index = before.length + position ∧
      fault? settings site (stateBefore lines (before.length + position)) = none ∧
      step settings site (stateBefore lines (before.length + position)) =
        .ok (record.diagnostics, record.state) := by
  induction rest generalizing before position with
  | nil => cases scanned
  | cons line rest inductionHypothesis =>
    rcases @runFrom_of_split settings lines rest before line split with
      ⟨fault, -, run⟩ | ⟨diagnostics, here, fails, -, passes, run⟩
    · rw [run] at scanned
      cases scanned
    · rw [run] at scanned
      cases position with
      | zero =>
        cases scanned
        exact ⟨_, here, rfl, fails, passes⟩
      | succ position =>
        have later := inductionHypothesis (line :: before)
          (by rw [split, List.reverse_cons, List.append_assoc]; rfl) scanned
        rwa [List.length_cons, Nat.add_right_comm, Nat.add_assoc] at later

/-- Every record of a run is the step from the state before its line. -/
theorem step_of_run {index : Nat} {record : Record}
    (scanned : (run settings lines).1[index]? = some record) :
    ∃ site, Site.at? lines index = some site ∧ record.index = index ∧
      fault? settings site (stateBefore lines index) = none ∧
      step settings site (stateBefore lines index) = .ok (record.diagnostics, record.state) := by
  have found := step_of_runFrom [] rfl scanned
  rwa [List.length_nil, Nat.zero_add] at found

theorem state_of_run {index : Nat} {record : Record}
    (scanned : (run settings lines).1[index]? = some record) :
    record.state = stateBefore lines (index + 1) := by
  obtain ⟨site, there, -, -, passes⟩ := step_of_run scanned
  rw [stateBefore_succ there, state_of_step passes]

/-- What holds of the complaints of every step holds of all complaints of a run. -/
theorem forall_of_run {Holds : Diagnostic → Prop}
    (each : ∀ site diagnostics next, Site.at? lines site.index = some site →
      step settings site (stateBefore lines site.index) = .ok (diagnostics, next) →
        ∀ diagnostic ∈ diagnostics, Holds diagnostic) :
    ∀ record ∈ (run settings lines).1, ∀ diagnostic ∈ record.diagnostics, Holds diagnostic := by
  intro record member
  obtain ⟨index, scanned⟩ := List.mem_iff_getElem?.mp member
  obtain ⟨site, there, -, -, passes⟩ := step_of_run scanned
  obtain rfl := Site.index_of_at? there
  exact each site record.diagnostics record.state there passes

theorem fault_runFrom (before : List Line) (split : lines = before.reverse ++ rest) :
    (runFrom settings before.length before (stateBefore lines before.length) rest).2 =
      (List.range' before.length rest.length).findSome? (faultAt? settings lines) := by
  induction rest generalizing before with
  | nil => rfl
  | cons line rest inductionHypothesis =>
    rw [List.length_cons, List.range'_succ, List.findSome?_cons]
    rcases @runFrom_of_split settings lines rest before line split with
      ⟨fault, raised, run⟩ | ⟨diagnostics, -, -, raised, -, run⟩
    · rw [run, raised]
    · rw [run, raised]
      exact inductionHypothesis (line :: before)
        (by rw [split, List.reverse_cons, List.append_assoc]; rfl)

/-- The fault of a run is the first that a line raises. -/
theorem fault_run (settings : Settings) (lines : List Line) :
    (run settings lines).2 =
      (List.range lines.length).findSome? (faultAt? settings lines) := by
  rw [List.range_eq_range']
  exact fault_runFrom [] rfl

/-- A run that does not get by with its limit fails at the first line that is not blank. -/
theorem fault_run_of_not_writesLimit (fails : ¬ WritesLimit settings lines) :
    (run settings lines).2 = some (.numeralTooLong none) := by
  obtain ⟨unwritable, inked⟩ := not_or.mp fails
  simp only [not_forall] at inked
  obtain ⟨line, member, inked⟩ := inked
  obtain ⟨index, there⟩ := List.getElem?_of_mem member
  obtain ⟨inside, -⟩ := List.getElem?_eq_some_iff.mp there
  obtain ⟨site, found, same⟩ := Site.exists_at? inside
  rw [there, Option.some.injEq] at same
  have raised : faultAt? settings lines index = some (.numeralTooLong none) := by
    rw [faultAt?, found, Option.bind_some, fault?_of_not_writable unwritable, ← same, if_neg inked]
  -- an earlier line may be the first to fail, with the same fault
  rw [fault_run]
  cases first : (List.range lines.length).findSome? (faultAt? settings lines) with
  | none =>
    have passes := List.findSome?_eq_none_iff.mp first index (List.mem_range.mpr inside)
    rw [raised] at passes
    cases passes
  | some fault =>
    obtain ⟨earlier, -, raised⟩ := List.exists_of_findSome?_eq_some first
    obtain ⟨site, -, raised⟩ := Option.bind_eq_some_iff.mp raised
    rw [fault?_of_not_writable unwritable] at raised
    exact (Option.ite_none_left_eq_some.mp raised).2.symm

/-- A run that gets by with its limit does not fail on it. -/
theorem fault_run_of_writesLimit (writes : WritesLimit settings lines) :
    (run settings lines).2 ≠ some (.numeralTooLong none) := by
  intro fails
  rw [fault_run] at fails
  obtain ⟨index, -, raised⟩ := List.exists_of_findSome?_eq_some fails
  obtain ⟨site, there, raised⟩ := Option.bind_eq_some_iff.mp raised
  have fits : lengthFault? settings site.line = none := by
    rw [lengthFault?_eq_none_iff]
    exact writes.symm.imp_left fun blank => blank site.line (Site.mem_of_at? there)
  rw [fault?, fits, Option.none_or, Option.or_eq_some_iff] at raised
  rcases raised with number | ⟨-, chain⟩
  · obtain ⟨-, number⟩ := Option.ite_none_left_eq_some.mp number
    obtain ⟨long, -, counted⟩ := Option.map_eq_some_iff.mp number
    cases counted
  · obtain ⟨-, chained⟩ := Option.ite_none_right_eq_some.mp chain
    cases chained

theorem fault_run_eq_some_iff :
    (run settings lines).2 = some (.numeralTooLong none) ↔ ¬ WritesLimit settings lines :=
  ⟨fun fails writes => fault_run_of_writesLimit writes fails, fault_run_of_not_writesLimit⟩

/-- A run gets as far as no line raises a fault, and fails where one does. -/
theorem length_runFrom (before : List Line) (split : lines = before.reverse ++ rest) :
    let run := runFrom settings before.length before (stateBefore lines before.length) rest
    run.2 = faultAt? settings lines (before.length + run.1.length) ∧
      ∀ offset, offset < run.1.length ↔ offset < rest.length ∧
        ∀ earlier ≤ offset, faultAt? settings lines (before.length + earlier) = none := by
  induction rest generalizing before with
  | nil =>
    have past : Site.at? lines before.length = none := by
      rw [Site.at?, List.getElem?_eq_none (by simp [split])]
      rfl
    refine ⟨?_, fun offset => by simp [runFrom]⟩
    show none = faultAt? settings lines before.length
    rw [faultAt?, past, Option.bind_none]
  | cons line rest inductionHypothesis =>
    rcases @runFrom_of_split settings lines rest before line split with
      ⟨fault, raised, run⟩ | ⟨diagnostics, -, -, raised, -, run⟩
    · rw [run]
      refine ⟨raised.symm, fun offset => ⟨fun inside => absurd inside (Nat.not_lt_zero offset), ?_⟩⟩
      rintro ⟨-, passes⟩
      have none := passes 0 (Nat.zero_le offset)
      rw [Nat.add_zero, raised] at none
      cases none
    · obtain ⟨fault, scanned⟩ := inductionHypothesis (line :: before)
        (by rw [split, List.reverse_cons, List.append_assoc]; rfl)
      rw [List.length_cons] at fault scanned
      rw [run]
      refine ⟨?_, ?_⟩
      · rw [fault, List.length_cons, Nat.add_assoc, Nat.add_comm 1]
      · intro offset
        cases offset with
        | zero => simp [raised]
        | succ offset =>
          rw [List.length_cons, List.length_cons, Nat.succ_lt_succ_iff, Nat.succ_lt_succ_iff,
            scanned]
          refine and_congr_right fun inside => ⟨?_, ?_⟩
          · intro later earlier within
            cases earlier with
            | zero => exact raised
            | succ earlier =>
              rw [← Nat.add_assoc, Nat.add_right_comm]
              exact later earlier (Nat.le_of_succ_le_succ within)
          · intro all earlier within
            have passed := all (earlier + 1) (Nat.succ_le_succ within)
            rwa [← Nat.add_assoc, Nat.add_right_comm] at passed

/-- The fault of a run is that of the line behind the last one scanned. -/
theorem fault_run_length (settings : Settings) (lines : List Line) :
    (run settings lines).2 = faultAt? settings lines (run settings lines).1.length := by
  have fault := (@length_runFrom settings lines lines [] rfl).1
  rwa [List.length_nil, Nat.zero_add] at fault

/-- The line of an index is scanned if neither it nor a line before it raises a fault. -/
theorem lt_length_run {index : Nat} :
    index < (run settings lines).1.length ↔
      index < lines.length ∧ ∀ earlier ≤ index, faultAt? settings lines earlier = none := by
  have scanned := (@length_runFrom settings lines lines [] rfl).2 index
  simp only [List.length_nil, Nat.zero_add] at scanned
  exact scanned

theorem length_run_of_passes
    (passes : ∀ index < lines.length, faultAt? settings lines index = none) :
    (run settings lines).1.length = lines.length := by
  refine eq_of_forall_lt_iff fun index => lt_length_run.trans ⟨And.left, fun inside => ⟨inside, ?_⟩⟩
  exact fun earlier within => passes earlier (Nat.lt_of_le_of_lt within inside)

/-- A scan that answers has a record of every line, and answers with all their diagnostics. -/
theorem run_of_diagnostics {diagnostics : List Diagnostic}
    (answers : Scan.diagnostics settings lines = .ok diagnostics) :
    diagnostics = (run settings lines).1.flatMap Record.diagnostics ∧
      (run settings lines).1.length = lines.length := by
  obtain ⟨records, scanned, answers⟩ := Answer.bind_eq_ok.mp answers
  cases answers
  rw [records_eq_run] at scanned
  split at scanned
  next whole passes =>
    cases scanned
    have fault : (run settings lines).2 = none := congrArg Prod.snd passes
    rw [fault_run, List.findSome?_eq_none_iff] at fault
    refine ⟨by rw [passes], length_run_of_passes fun index inside => ?_⟩
    exact fault index (List.mem_range.mpr inside)
  next => cases scanned

/-- A line behind lines that raise no fault has a record, with the state behind it. -/
theorem exists_record {index : Nat} (inside : index < lines.length)
    (passes : ∀ earlier ≤ index, faultAt? settings lines earlier = none) :
    ∃ record, (run settings lines).1[index]? = some record ∧
      record.state = stateBefore lines (index + 1) := by
  have scanned := List.getElem?_eq_getElem (lt_length_run.mpr ⟨inside, passes⟩)
  exact ⟨_, scanned, state_of_run scanned⟩

end Run

end Scan

end HouseStyle
