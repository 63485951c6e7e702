import HouseStyle.Proofs.Check
import HouseStyle.Proofs.Scan.Told

/-!
Contract: a check drops nothing but repetitions.

Owns: that the complaints of the checks of files are told by their messages, the first diagnostics
of every place and message, and what a whole check makes of what the single checks find.
Does not own: the messages, and the complaints of a scan.

The key by which repetitions are recognised holds the place and the message but not the kind. Since
the message tells the kind, nothing is lost with it.

Main statements: `dedupe_eq_firsts` and `checkText_keeps`.
-/

namespace HouseStyle

variable {lines : List Line} {diagnostics : List Diagnostic}

/-! ## Checks of files -/

/-- The answer of one complaint at a place, as a list. -/
theorem AllTold.of_complaint {kind : Kind} (plain : kind.Plain) {line column length : Int}
    {arguments : List Argument}
    (answers : (do
        let diagnostic ← kind.diagnostic line column length arguments
        return [diagnostic] : Except Fault (List Diagnostic)) = .ok diagnostics) :
    AllTold lines diagnostics := by
  obtain ⟨diagnostic, given, answers⟩ := Answer.bind_eq_ok.mp answers
  cases answers
  exact AllTold.singleton (Diagnostic.told_of_plain plain given)

namespace Includes

theorem told_of_directiveDiagnostic {kind : Kind} (plain : kind.Plain) {inclusion : Inclusion}
    {arguments : List Argument}
    (answers : (do
        let diagnostic ← directiveDiagnostic kind inclusion arguments
        return [diagnostic] : Except Fault (List Diagnostic)) = .ok diagnostics) :
    AllTold lines diagnostics := by
  obtain ⟨diagnostic, given, answers⟩ := Answer.bind_eq_ok.mp answers
  cases answers
  obtain ⟨start, -, given⟩ := Answer.bind_eq_ok.mp given
  exact AllTold.singleton (Diagnostic.told_of_plain plain given)

theorem told_of_recursionDiagnostics {path : Path} {inclusions : List Inclusion}
    (answers : recursionDiagnostics path inclusions = .ok diagnostics) :
    AllTold lines diagnostics := by
  intro diagnostic member
  obtain ⟨inclusion, -, given⟩ := Answer.exists_of_mem_mapM answers diagnostic member
  exact ⟨_, Diagnostic.told_of_plain (by decide) given⟩

theorem told_of_mixedDiagnostics {system project : List Inclusion}
    (answers : mixedDiagnostics system project = .ok diagnostics) : AllTold lines diagnostics := by
  unfold mixedDiagnostics at answers
  split at answers
  · split at answers
    · exact told_of_directiveDiagnostic (by decide) answers
    · cases answers
      exact AllTold.nil
  · cases answers
    exact AllTold.nil

theorem told_of_orderDiagnostics {kind : Kind} (plain : kind.Plain) {inclusions : List Inclusion}
    {arguments : Inclusion → List Argument}
    (answers : orderDiagnostics kind arguments inclusions = .ok diagnostics) :
    AllTold lines diagnostics := by
  unfold orderDiagnostics at answers
  split at answers
  · exact told_of_directiveDiagnostic plain answers
  · cases answers
    exact AllTold.nil

theorem told_of_guardDiagnostics {file : SourceFile}
    (answers : guardDiagnostics file = .ok diagnostics) : AllTold lines diagnostics := by
  unfold guardDiagnostics at answers
  simp only at answers
  split at answers
  · exact AllTold.of_complaint (by decide) answers
  · exact AllTold.of_complaint (by decide) answers
  · cases answers
    exact AllTold.nil

theorem told_of_diagnostics {file : SourceFile}
    (answers : Includes.diagnostics file = .ok diagnostics) : AllTold lines diagnostics := by
  obtain ⟨recursion, givenRecursion, answers⟩ := Answer.bind_eq_ok.mp answers
  obtain ⟨mixed, givenMixed, answers⟩ := Answer.bind_eq_ok.mp answers
  obtain ⟨system, givenSystem, answers⟩ := Answer.bind_eq_ok.mp answers
  obtain ⟨project, givenProject, answers⟩ := Answer.bind_eq_ok.mp answers
  have others : AllTold lines (recursion ++ mixed ++ system ++ project) :=
    (((told_of_recursionDiagnostics givenRecursion).append
      (told_of_mixedDiagnostics givenMixed)).append
      (told_of_orderDiagnostics (by decide) givenSystem)).append
      (told_of_orderDiagnostics (by decide) givenProject)
  dsimp only at answers
  split at answers
  · obtain ⟨guard, given, answers⟩ := Answer.bind_eq_ok.mp answers
    cases answers
    exact others.append (told_of_guardDiagnostics given)
  · cases answers
    exact others.append AllTold.nil

end Includes

namespace Layout

theorem told_of_endDiagnostics {file : SourceFile}
    (answers : endDiagnostics file = .ok diagnostics) : AllTold lines diagnostics := by
  unfold endDiagnostics at answers
  split at answers
  · cases answers
    exact AllTold.nil
  · exact AllTold.of_complaint (by decide) answers

theorem told_of_trailingDiagnostics {file : SourceFile}
    (answers : trailingDiagnostics file = .ok diagnostics) : AllTold lines diagnostics := by
  unfold trailingDiagnostics at answers
  simp only at answers
  split at answers
  · cases answers
    exact AllTold.nil
  · exact AllTold.of_complaint (by decide) answers

theorem told_of_betweenDiagnostics {raws : List (List Char)} {previous next : FunctionDefinition}
    (answers : betweenDiagnostics raws previous next = .ok diagnostics) :
    AllTold lines diagnostics := by
  unfold betweenDiagnostics at answers
  simp only at answers
  split at answers
  · cases answers
    exact AllTold.nil
  · split at answers
    · exact AllTold.of_complaint (by decide) answers
    · split at answers
      · exact AllTold.of_complaint (by decide) answers
      · cases answers
        exact AllTold.nil

theorem told_of_diagnostics {file : SourceFile}
    (answers : Layout.diagnostics file = .ok diagnostics) : AllTold lines diagnostics := by
  obtain ⟨ending, givenEnding, answers⟩ := Answer.bind_eq_ok.mp answers
  obtain ⟨trailing, givenTrailing, answers⟩ := Answer.bind_eq_ok.mp answers
  obtain ⟨spacing, givenSpacing, answers⟩ := Answer.bind_eq_ok.mp answers
  cases answers
  have between : AllTold lines spacing := by
    obtain ⟨found, asked, given⟩ := Answer.bind_eq_ok.mp givenSpacing
    cases given
    apply AllTold.flatten
    intro diagnostics member
    obtain ⟨_, _, given⟩ := Answer.exists_of_mem_mapM asked diagnostics member
    exact told_of_betweenDiagnostics given
  exact ((told_of_endDiagnostics givenEnding).append
    (told_of_trailingDiagnostics givenTrailing)).append between

end Layout

namespace ConstPointer

theorem told_of_suggestion? {definition : FunctionDefinition} {parameter : List Char}
    {diagnostic : Diagnostic}
    (answers : suggestion? lines definition parameter = .ok (some diagnostic)) :
    diagnostic.Told lines .pointerCouldBeConst := by
  unfold suggestion? at answers
  split at answers
  · cases answers
  · split at answers
    · cases answers
    · obtain ⟨suggestion, given, answers⟩ := Answer.bind_eq_ok.mp answers
      cases answers
      exact Diagnostic.told_of_plain (by decide) given

theorem told_of_diagnostics (answers : ConstPointer.diagnostics lines = .ok diagnostics) :
    AllTold lines diagnostics := by
  obtain ⟨found, asked, answers⟩ := Answer.bind_eq_ok.mp answers
  cases answers
  intro diagnostic member
  obtain ⟨suggestion, among, same⟩ := List.mem_filterMap.mp member
  obtain ⟨suggestions, amongFound, inside⟩ := List.mem_flatten.mp among
  obtain ⟨definition, -, given⟩ := Answer.exists_of_mem_mapM asked suggestions amongFound
  obtain ⟨parameter, -, suggested⟩ := Answer.exists_of_mem_mapM given suggestion inside
  rw [show suggestion = some diagnostic from same] at suggested
  exact ⟨_, told_of_suggestion? suggested⟩

end ConstPointer

/-- Whichever check complains, the message tells the kind. -/
theorem Checker.told_of_run {settings : Settings} {path : Path} {text : List Char}
    {checker : Checker} (answers : checker.run settings (.ofText path text) = .ok diagnostics) :
    AllTold (Line.ofRaws (Source.splitLines text)) diagnostics := by
  cases checker with
  | includes => exact Includes.told_of_diagnostics answers
  | layout => exact Layout.told_of_diagnostics answers
  | lines =>
    intro diagnostic member
    rw [(Scan.run_of_diagnostics answers).1] at member
    obtain ⟨record, recorded, reported⟩ := List.mem_flatMap.mp member
    exact Scan.told_of_run settings _ record recorded diagnostic reported
  | functions => exact ConstPointer.told_of_diagnostics answers

/-! ## First diagnostics -/

namespace Diagnostic

/-- Whether no diagnostic has the line, the column and the message of the given one. -/
def isNew (before : List Diagnostic) (diagnostic : Diagnostic) : Bool :=
  before.all fun earlier => earlier.key != diagnostic.key

theorem isNew_iff {before : List Diagnostic} {diagnostic : Diagnostic} :
    isNew before diagnostic ↔ diagnostic.key ∉ before.map key := by
  simp [isNew]

/-- The diagnostics that are new after those before them. -/
def firsts (diagnostics : List Diagnostic) : List Diagnostic :=
  (diagnostics.zipIdx.filter fun (diagnostic, index) =>
    isNew (diagnostics.take index) diagnostic).map Prod.fst

theorem firsts_sublist (diagnostics : List Diagnostic) :
    (firsts diagnostics).Sublist diagnostics := by
  have kept := (List.filter_sublist (l := diagnostics.zipIdx) (p := fun (diagnostic, index) =>
    isNew (diagnostics.take index) diagnostic)).map Prod.fst
  rwa [List.zipIdx_map_fst] at kept

/-- Behind diagnostics whose keys have been seen, the fresh ones are new after all before them. -/
theorem fresh_eq (before : List Diagnostic) {rest : List Diagnostic}
    {seen : List (Int × Int × String)}
    (known : ∀ key, key ∈ seen ↔ key ∈ before.map Diagnostic.key) :
    fresh seen rest = ((rest.zipIdx before.length).filter fun (diagnostic, index) =>
      isNew ((before ++ rest).take index) diagnostic).map Prod.fst := by
  induction rest generalizing before seen with
  | nil => rfl
  | cons diagnostic rest inductionHypothesis =>
    have later {seen : List (Int × Int × String)}
        (known : ∀ key, key ∈ seen ↔ key ∈ (before ++ [diagnostic]).map Diagnostic.key) :
        fresh seen rest = ((rest.zipIdx (before.length + 1)).filter fun (other, index) =>
          isNew ((before ++ diagnostic :: rest).take index) other).map Prod.fst := by
      have behind := inductionHypothesis (before ++ [diagnostic]) known
      rwa [List.length_append, List.length_singleton, List.append_assoc, List.singleton_append]
        at behind
    have here : isNew ((before ++ diagnostic :: rest).take before.length) diagnostic ↔
        diagnostic.key ∉ seen := by
      rw [List.take_left, isNew_iff, known]
    rw [fresh, List.zipIdx_cons]
    by_cases repeated : diagnostic.key ∈ seen
    · rw [if_pos repeated, List.filter_cons_of_neg (by simpa only [here, not_not] using repeated)]
      refine later fun key => ?_
      rw [List.map_append, List.mem_append, ← known, List.map_singleton, List.mem_singleton]
      exact ⟨.inl, fun either => either.elim id fun same => same ▸ repeated⟩
    · rw [if_neg repeated, List.filter_cons_of_pos (by simpa only [here] using repeated),
        List.map_cons]
      refine congrArg _ (later fun key => ?_)
      rw [List.map_append, List.mem_append, ← known, List.map_singleton, List.mem_singleton,
        List.mem_cons, or_comm]

/-- What is left without duplicates are the first diagnostics of every place and message. -/
theorem dedupe_eq_firsts (diagnostics : List Diagnostic) :
    dedupe diagnostics = firsts diagnostics :=
  fresh_eq [] fun _ => Iff.rfl

end Diagnostic

/-! ## Whole checks -/

/-- A check that answers drops repetitions only. Of what its four checks find, diagnostics with the
same line, column and message are of the same kind and severity. Exactly the first diagnostic of
each line, column and message is kept, in order, and so every kind that was found at a place is
still reported there. -/
theorem checkText_keeps {settings : Settings} {path : Path} {text : List Char}
    (answers : checkText settings path text = .ok diagnostics) :
    ∃ found, Checker.all.mapM (Checker.run settings (.ofText path text)) = .ok found ∧
      (∀ diagnostic ∈ found.flatten, ∀ other ∈ found.flatten, diagnostic.key = other.key →
        diagnostic.kind = other.kind ∧ diagnostic.severity = other.severity) ∧
      diagnostics = Diagnostic.firsts found.flatten ∧ diagnostics.Sublist found.flatten ∧
      ∀ diagnostic ∈ found.flatten, ∃ kept ∈ diagnostics, kept.key = diagnostic.key ∧
        kept.kind = diagnostic.kind ∧ kept.severity = diagnostic.severity := by
  obtain ⟨found, given, answers⟩ := Answer.bind_eq_ok.mp answers
  cases answers
  have told : AllTold (Line.ofRaws (Source.splitLines text)) found.flatten := by
    apply AllTold.flatten
    intro diagnostics member
    obtain ⟨checker, -, answered⟩ := Answer.exists_of_mem_mapM given diagnostics member
    exact Checker.told_of_run answered
  have agree : ∀ diagnostic ∈ found.flatten, ∀ other ∈ found.flatten,
      diagnostic.key = other.key →
        diagnostic.kind = other.kind ∧ diagnostic.severity = other.severity := by
    intro diagnostic member other memberToo same
    obtain ⟨kind, toldHere⟩ := told diagnostic member
    obtain ⟨otherKind, toldThere⟩ := told other memberToo
    simp only [Diagnostic.key, Prod.mk.injEq] at same
    have kinds := toldHere.kind_eq toldThere same.1 same.2.2
    rw [toldHere.name, toldThere.name, toldHere.severity, toldThere.severity, kinds]
    exact ⟨rfl, rfl⟩
  refine ⟨found, given, agree, Diagnostic.dedupe_eq_firsts _, ?_, ?_⟩
  · rw [Diagnostic.dedupe_eq_firsts]
    exact Diagnostic.firsts_sublist _
  · intro diagnostic member
    obtain ⟨kept, among, same⟩ := Diagnostic.exists_key_of_mem member
    exact ⟨kept, among, same, agree kept (Diagnostic.mem_of_mem_fresh among) diagnostic member same⟩

/-- Both suggestions about two parameters of one name are the same complaint. -/
theorem checkText_keeps_parameters :
    let text := "void main(int *a, int *a)\n\x7b\n\x7d\n".toList
    ∃ diagnostics, checkText .default ⟨"", ["main.c"]⟩ text = .ok diagnostics ∧
      ∃ found, Checker.all.mapM (Checker.run .default (.ofText ⟨"", ["main.c"]⟩ text)) = .ok found ∧
        found.map List.length = [0, 0, 0, 2] ∧ diagnostics.length = 1 ∧
          diagnostics = Diagnostic.firsts found.flatten ∧
            ∀ diagnostic ∈ found.flatten, ∃ kept ∈ diagnostics, kept.key = diagnostic.key ∧
              kept.kind = diagnostic.kind ∧ kept.severity = diagnostic.severity := by
  intro text
  have asked :
      ((Checker.all.mapM (Checker.run .default (.ofText ⟨"", ["main.c"]⟩ text))).toOption.map
        fun found => (found.map List.length, (Diagnostic.dedupe found.flatten).length)) =
          some ([0, 0, 0, 2], 1) := by
    decide +kernel
  cases given : Checker.all.mapM (Checker.run .default (.ofText ⟨"", ["main.c"]⟩ text)) with
  | error fault =>
    rw [given] at asked
    cases asked
  | ok found =>
    rw [given] at asked
    obtain ⟨lengths, left⟩ := Prod.mk.inj (Option.some.inj asked)
    have answers : checkText .default ⟨"", ["main.c"]⟩ text =
        .ok (Diagnostic.dedupe found.flatten) := by
      rw [checkText, checkFile, given]
      rfl
    obtain ⟨foundToo, givenToo, -, same, -, kept⟩ := checkText_keeps answers
    rw [given] at givenToo
    cases givenToo
    exact ⟨_, answers, found, rfl, lengths, left, same, kept⟩

end HouseStyle
