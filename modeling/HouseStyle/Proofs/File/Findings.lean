import HouseStyle.File.ConstPointer
import HouseStyle.File.Layout
import HouseStyle.Proofs.Diagnostic
import HouseStyle.Proofs.Directive

/-!
Contract: the checks of a whole file answer, with diagnostics of known kinds.

Owns: the searches and messages of the checks on inclusions, on layout and on pointer parameters.
Does not own: the scan, which `Proofs.Scan.Outcome` treats.

Main statements: `Includes.diagnostics_answers`, `Layout.diagnostics_answers` and
`ConstPointer.diagnostics_answers`.
-/

namespace HouseStyle

namespace Includes

/-- The kinds of diagnostics about inclusions and the guard of a file. -/
def kinds : List Kind :=
  [.recursiveInclusion, .systemIncludesFirst, .systemIncludesUnsorted, .projectIncludesUnsorted,
    .pragmaOnceAndGuard, .missingHeaderGuard]

/-- An inclusion is the one that one of the lines holds. -/
theorem exists_ofLine?_of_mem_fromLines {number : Nat} {lines : List Line} {inclusion : Inclusion}
    (member : inclusion ∈ fromLines number lines) :
    ∃ index line, lines[index]? = some line ∧ ofLine? (number + index) line = some inclusion := by
  induction lines generalizing number with
  | nil => exact absurd member List.not_mem_nil
  | cons line rest inductionHypothesis =>
    rcases List.mem_append.mp member with here | later
    · exact ⟨0, line, rfl, Option.mem_toList.mp here⟩
    · obtain ⟨index, line, there, held⟩ := inductionHypothesis later
      rw [Nat.add_right_comm] at held
      exact ⟨index + 1, line, there, held⟩

/-- An inclusion stands on one of the lines, and names its number and its text. -/
theorem exists_of_mem_fromLines {number : Nat} {lines : List Line} {inclusion : Inclusion}
    (member : inclusion ∈ fromLines number lines) :
    ∃ index line, lines[index]? = some line ∧ inclusion.number = number + index ∧
      inclusion.raw = line.raw ∧ Lexicon.inclusion.fits line.raw := by
  obtain ⟨index, line, there, held⟩ := exists_ofLine?_of_mem_fromLines member
  obtain ⟨found, fits, held⟩ := Option.bind_eq_some_iff.mp held
  obtain ⟨target, -, held⟩ := Option.bind_eq_some_iff.mp held
  obtain ⟨-, held⟩ := Option.ite_none_right_eq_some.mp held
  cases held
  exact ⟨index, line, there, rfl, rfl, Option.isSome_iff_exists.mpr ⟨found, fits⟩⟩

theorem hash_of_inclusion {raw : List Char} (fits : Lexicon.inclusion.fits raw) : '#' ∈ raw :=
  (List.dropWhile_suffix Text.isBlank).subset (List.mem_of_head? (head?_of_inclusion fits))

theorem directiveDiagnostic_answers {kind : Kind} (member : kind ∈ kinds) {inclusion : Inclusion}
    {arguments : List Argument} (hash : '#' ∈ inclusion.raw)
    (printable : ∃ message, kind.template.format arguments = .ok message) :
    ∃ diagnostic, directiveDiagnostic kind inclusion arguments = .ok diagnostic ∧
      Reported kinds [diagnostic] := by
  obtain ⟨start, found⟩ := Text.exists_index_character (show '#' ∈ inclusion.raw.drop 0 from hash)
  rw [directiveDiagnostic, found, Answer.ok_bind]
  exact Kind.diagnostic_answers member _ _ _ printable

theorem recursionDiagnostics_answers (path : Path) (inclusions : List Inclusion) :
    ∃ diagnostics, recursionDiagnostics path inclusions = .ok diagnostics ∧
      Reported kinds diagnostics := by
  apply Reported.exists_mapM
  intro inclusion _
  exact Kind.diagnostic_answers (by decide) _ _ _ ⟨_, rfl⟩

variable {inclusions : List Inclusion}

theorem mixedDiagnostics_answers {project : List Inclusion}
    (hashes : ∀ inclusion ∈ project, '#' ∈ inclusion.raw) (system : List Inclusion) :
    ∃ diagnostics, mixedDiagnostics system project = .ok diagnostics ∧
      Reported kinds diagnostics := by
  unfold mixedDiagnostics
  split
  next first last starts _ =>
    split
    · obtain ⟨diagnostic, given, reported⟩ := directiveDiagnostic_answers
        (show Kind.systemIncludesFirst ∈ kinds by decide)
        (hashes first (List.mem_of_head? starts))
        (show ∃ message, Kind.systemIncludesFirst.template.format
          [.word (String.ofList first.file)] = .ok message from ⟨_, rfl⟩)
      rw [given]
      exact ⟨_, rfl, reported⟩
    · exact ⟨_, rfl, Reported.nil⟩
  next => exact ⟨_, rfl, Reported.nil⟩

theorem mem_of_beforeUnsorted? {inclusion : Inclusion}
    (found : beforeUnsorted? inclusions = some inclusion) : inclusion ∈ inclusions := by
  obtain ⟨index, -, there⟩ := Option.bind_eq_some_iff.mp found
  exact List.mem_of_getElem? there

/-- The complaint about inclusions that are not sorted, whatever its kind and arguments. -/
def orderDiagnostics (kind : Kind) (arguments : Inclusion → List Argument)
    (inclusions : List Inclusion) : Except Fault (List Diagnostic) := do
  let some inclusion := beforeUnsorted? inclusions | return []
  let diagnostic ← directiveDiagnostic kind inclusion (arguments inclusion)
  return [diagnostic]

theorem systemDiagnostics_eq (system : List Inclusion) :
    systemDiagnostics system = orderDiagnostics .systemIncludesUnsorted (fun _ => []) system := rfl

theorem projectDiagnostics_eq (project : List Inclusion) :
    projectDiagnostics project = orderDiagnostics .projectIncludesUnsorted
      (fun inclusion => [.word (String.ofList inclusion.file)]) project := rfl

/-- Only the inclusion before the first one that is out of order can be complained about. -/
theorem orderDiagnostics_eq_ok_iff {kind : Kind} {arguments : Inclusion → List Argument}
    {diagnostics : List Diagnostic} :
    orderDiagnostics kind arguments inclusions = .ok diagnostics ↔
      (beforeUnsorted? inclusions = none ∧ diagnostics = []) ∨
        ∃ inclusion diagnostic, beforeUnsorted? inclusions = some inclusion ∧
          directiveDiagnostic kind inclusion (arguments inclusion) = .ok diagnostic ∧
          diagnostics = [diagnostic] := by
  unfold orderDiagnostics
  cases beforeUnsorted? inclusions with
  | none => simp [eq_comm]
  | some inclusion =>
    constructor
    · intro answers
      obtain ⟨diagnostic, given, same⟩ := Answer.bind_eq_ok.mp answers
      cases same
      exact .inr ⟨inclusion, diagnostic, rfl, given, rfl⟩
    · rintro (⟨nothing, -⟩ | ⟨_, diagnostic, found, given, rfl⟩)
      · cases nothing
      · cases found
        exact Answer.bind_eq_ok.mpr ⟨diagnostic, given, rfl⟩

theorem orderDiagnostics_answers {kind : Kind} (member : kind ∈ kinds)
    (arguments : Inclusion → List Argument)
    (printable : ∀ inclusion, ∃ message, kind.template.format (arguments inclusion) = .ok message)
    (hashes : ∀ inclusion ∈ inclusions, '#' ∈ inclusion.raw) :
    ∃ diagnostics, orderDiagnostics kind arguments inclusions = .ok diagnostics ∧
      Reported kinds diagnostics := by
  cases found : beforeUnsorted? inclusions with
  | none => exact ⟨[], orderDiagnostics_eq_ok_iff.mpr (.inl ⟨found, rfl⟩), Reported.nil⟩
  | some inclusion =>
    obtain ⟨diagnostic, given, reported⟩ := directiveDiagnostic_answers member
      (hashes inclusion (mem_of_beforeUnsorted? found)) (printable inclusion)
    exact ⟨[diagnostic], orderDiagnostics_eq_ok_iff.mpr (.inr ⟨_, _, found, given, rfl⟩), reported⟩

theorem guardDiagnostics_answers (file : SourceFile) :
    ∃ diagnostics, guardDiagnostics file = .ok diagnostics ∧ Reported kinds diagnostics := by
  unfold guardDiagnostics
  simp only
  split
  next index _ _ =>
    obtain ⟨diagnostic, given, reported⟩ := Kind.diagnostic_answers
      (show Kind.pragmaOnceAndGuard ∈ kinds by decide) (index + 1) 0
      (file.raws[index]?.getD []).length
      (show ∃ message, Kind.pragmaOnceAndGuard.template.format [] = .ok message from ⟨_, rfl⟩)
    rw [given]
    exact ⟨_, rfl, reported⟩
  next =>
    obtain ⟨diagnostic, given, reported⟩ := Kind.diagnostic_answers
      (show Kind.missingHeaderGuard ∈ kinds by decide) 1 0 0
      (show ∃ message, Kind.missingHeaderGuard.template.format
        [.word (String.ofList (guardName file.path.stem.toList))] = .ok message from ⟨_, rfl⟩)
    rw [given]
    exact ⟨_, rfl, reported⟩
  next => exact ⟨_, rfl, Reported.nil⟩

theorem diagnostics_answers (file : SourceFile) :
    ∃ diagnostics, Includes.diagnostics file = .ok diagnostics ∧ Reported kinds diagnostics := by
  have hashes : ∀ inclusion ∈ fromLines 1 file.lines, '#' ∈ inclusion.raw := by
    intro inclusion member
    obtain ⟨-, line, -, -, raw, fits⟩ := exists_of_mem_fromLines member
    rw [raw]
    exact hash_of_inclusion fits
  have chosen : ∀ test, ∀ inclusion ∈ (fromLines 1 file.lines).filter test, '#' ∈ inclusion.raw :=
    fun test inclusion member => hashes inclusion (List.mem_filter.mp member).1
  obtain ⟨recursion, givenRecursion, reportedRecursion⟩ :=
    recursionDiagnostics_answers file.path (fromLines 1 file.lines)
  obtain ⟨mixed, givenMixed, reportedMixed⟩ := mixedDiagnostics_answers
    (chosen fun inclusion => !inclusion.isSystem)
    ((fromLines 1 file.lines).filter Inclusion.isSystem)
  obtain ⟨system, givenSystem, reportedSystem⟩ := orderDiagnostics_answers
    (show Kind.systemIncludesUnsorted ∈ kinds by decide) (fun _ => []) (fun _ => ⟨_, rfl⟩)
    (chosen Inclusion.isSystem)
  obtain ⟨project, givenProject, reportedProject⟩ := orderDiagnostics_answers
    (show Kind.projectIncludesUnsorted ∈ kinds by decide)
    (fun inclusion => [.word (String.ofList inclusion.file)]) (fun _ => ⟨_, rfl⟩)
    (chosen fun inclusion => !inclusion.isSystem)
  obtain ⟨guard, givenGuard, reportedGuard⟩ := guardDiagnostics_answers file
  have others : Reported kinds (recursion ++ mixed ++ system ++ project) := by
    simp only [Reported.append]
    exact ⟨⟨⟨reportedRecursion, reportedMixed⟩, reportedSystem⟩, reportedProject⟩
  simp only [diagnostics, systemDiagnostics_eq, projectDiagnostics_eq, givenRecursion, givenMixed,
    givenSystem, givenProject, givenGuard, Answer.ok_bind]
  split
  · exact ⟨_, rfl, Reported.append.mpr ⟨others, reportedGuard⟩⟩
  · exact ⟨_, rfl, Reported.append.mpr ⟨others, Reported.nil⟩⟩

end Includes

namespace Layout

/-- The kinds of diagnostics about the end of a file and the lines between functions. -/
def kinds : List Kind :=
  [.missingEofNewline, .trailingBlankLines, .missingBlankAfterFunction,
    .tooManyBlanksBetweenFunctions]

/-- The answer of one complaint at a place, as a list. -/
theorem complaint_answers {kind : Kind} (member : kind ∈ kinds) (line column length : Int)
    {arguments : List Argument}
    (printable : ∃ message, kind.template.format arguments = .ok message) :
    ∃ diagnostics, (do
        let diagnostic ← kind.diagnostic line column length arguments
        return [diagnostic] : Except Fault (List Diagnostic)) = .ok diagnostics ∧
      Reported kinds diagnostics := by
  obtain ⟨diagnostic, given, reported⟩ :=
    Kind.diagnostic_answers member line column length printable
  rw [given]
  exact ⟨_, rfl, reported⟩

theorem endDiagnostics_answers (file : SourceFile) :
    ∃ diagnostics, endDiagnostics file = .ok diagnostics ∧ Reported kinds diagnostics := by
  unfold endDiagnostics
  split
  · exact ⟨_, rfl, Reported.nil⟩
  · exact complaint_answers (by decide) _ _ _ ⟨_, rfl⟩

theorem trailingDiagnostics_answers (file : SourceFile) :
    ∃ diagnostics, trailingDiagnostics file = .ok diagnostics ∧ Reported kinds diagnostics := by
  unfold trailingDiagnostics
  simp only
  split
  · exact ⟨_, rfl, Reported.nil⟩
  · exact complaint_answers (by decide) _ _ _ ⟨_, rfl⟩

theorem betweenDiagnostics_answers (raws : List (List Char)) (previous next : FunctionDefinition) :
    ∃ diagnostics, betweenDiagnostics raws previous next = .ok diagnostics ∧
      Reported kinds diagnostics := by
  unfold betweenDiagnostics
  simp only
  split
  · exact ⟨_, rfl, Reported.nil⟩
  · split
    · exact complaint_answers (by decide) _ _ _ ⟨_, rfl⟩
    · split
      · exact complaint_answers (by decide) _ _ _ ⟨_, rfl⟩
      · exact ⟨_, rfl, Reported.nil⟩

theorem spacingDiagnostics_answers (file : SourceFile) :
    ∃ diagnostics, spacingDiagnostics file = .ok diagnostics ∧ Reported kinds diagnostics := by
  have between : ∀ pair ∈ (FunctionDefinition.findAll file.lines).zip
        (FunctionDefinition.findAll file.lines).tail,
      ∃ diagnostics, betweenDiagnostics file.raws pair.1 pair.2 = .ok diagnostics ∧
        Reported kinds diagnostics :=
    fun pair _ => betweenDiagnostics_answers file.raws pair.1 pair.2
  obtain ⟨found, given, reported⟩ := Answer.mapM_answers between
  simp only [spacingDiagnostics, given, Answer.ok_bind]
  refine ⟨_, rfl, Reported.flatten ?_⟩
  intro diagnostics member
  obtain ⟨-, -, known⟩ := reported diagnostics member
  exact known

theorem diagnostics_answers (file : SourceFile) :
    ∃ diagnostics, Layout.diagnostics file = .ok diagnostics ∧ Reported kinds diagnostics := by
  obtain ⟨first, givenFirst, reportedFirst⟩ := endDiagnostics_answers file
  obtain ⟨second, givenSecond, reportedSecond⟩ := trailingDiagnostics_answers file
  obtain ⟨third, givenThird, reportedThird⟩ := spacingDiagnostics_answers file
  simp only [diagnostics, givenFirst, givenSecond, givenThird, Answer.ok_bind]
  refine ⟨_, rfl, ?_⟩
  simp only [Reported.append]
  exact ⟨⟨reportedFirst, reportedSecond⟩, reportedThird⟩

end Layout

namespace ConstPointer

theorem suggestion?_answers (lines : List Line) (definition : FunctionDefinition)
    (parameter : List Char) :
    ∃ diagnostic?, suggestion? lines definition parameter = .ok diagnostic? ∧
      Reported [.pointerCouldBeConst] diagnostic?.toList := by
  unfold suggestion?
  split
  · exact ⟨_, rfl, Reported.nil⟩
  next name _ =>
    split
    · exact ⟨_, rfl, Reported.nil⟩
    · obtain ⟨diagnostic, given, reported⟩ := Kind.diagnostic_answers
        (List.mem_singleton_self Kind.pointerCouldBeConst) ((locate lines definition name).1 + 1)
        (locate lines definition name).2 name.length
        (show ∃ message, Kind.pointerCouldBeConst.template.format
          [.word (String.ofList name), .word (String.ofList parameter)] = .ok message from
          ⟨_, rfl⟩)
      simp only [given, Answer.ok_bind]
      exact ⟨_, rfl, reported⟩

theorem diagnostics_answers (lines : List Line) :
    ∃ diagnostics, ConstPointer.diagnostics lines = .ok diagnostics ∧
      Reported [.pointerCouldBeConst] diagnostics := by
  have each : ∀ definition ∈ FunctionDefinition.findAll lines,
      ∃ found, definition.parameters.mapM (suggestion? lines definition) = .ok found ∧
        ∀ diagnostic? ∈ found, Reported [.pointerCouldBeConst] diagnostic?.toList := by
    intro definition _
    obtain ⟨found, given, reported⟩ := Answer.mapM_answers fun parameter
      (_ : parameter ∈ definition.parameters) => suggestion?_answers lines definition parameter
    refine ⟨found, given, ?_⟩
    intro diagnostic? member
    obtain ⟨-, -, known⟩ := reported diagnostic? member
    exact known
  obtain ⟨found, given, reported⟩ := Answer.mapM_answers each
  unfold diagnostics
  rw [given, Answer.ok_bind]
  refine ⟨_, rfl, ?_⟩
  intro diagnostic member
  obtain ⟨diagnostic?, among, same⟩ := List.mem_filterMap.mp member
  obtain ⟨suggestions, amongFound, inside⟩ := List.mem_flatten.mp among
  obtain ⟨-, -, known⟩ := reported suggestions amongFound
  exact known diagnostic? inside diagnostic (Option.mem_toList.mpr same)

end ConstPointer

end HouseStyle
