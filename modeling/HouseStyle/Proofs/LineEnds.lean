import HouseStyle.Check
import HouseStyle.Proofs.Lines

/-!
Contract: the two line ends.

Owns: the pieces of a text between its line feeds, texts with carriage returns at their line ends, and
the check of such texts.
Does not own: carriage returns elsewhere, which are characters like any other.

Where each piece of a text but the last has one carriage return at its end, splitting takes it away
again, and so both line ends give the same lines. Apart from its lines a check asks of a text only
whether it is empty and whether it ends with a line feed.

Main statement: `checkText_withReturns`.
-/

namespace HouseStyle

namespace Source

/-! ## The pieces of a text -/

/-- The lines of a text, each with the line end behind it. -/
def joinLines (ending : List Char) (lines : List (List Char)) : List Char :=
  lines.flatMap (· ++ ending)

theorem joinLines_cons (ending line : List Char) (lines : List (List Char)) :
    joinLines ending (line :: lines) = line ++ (ending ++ joinLines ending lines) :=
  (List.flatMap_cons ..).trans (List.append_assoc ..)

theorem intercalate_concat (pieces : List (List Char)) (last : List Char) :
    ['\n'].intercalate (pieces ++ [last]) = joinLines ['\n'] pieces ++ last := by
  induction pieces with
  | nil => exact List.intercalate_singleton
  | cons piece pieces inductionHypothesis =>
    have step : ['\n'].intercalate (piece :: (pieces ++ [last])) =
        piece ++ ['\n'] ++ ['\n'].intercalate (pieces ++ [last]) := by
      cases pieces <;> exact List.intercalate_cons_cons ..
    rw [List.cons_append, step, inductionHypothesis, joinLines_cons]
    simp only [List.append_assoc]

/-- Every text is put together of pieces without line feeds, and only the last has no line feed behind
it. -/
theorem exists_pieces (text : List Char) :
    ∃ pieces last, (∀ piece ∈ pieces, '\n' ∉ piece) ∧ '\n' ∉ last ∧
      text = joinLines ['\n'] pieces ++ last := by
  induction text with
  | nil => exact ⟨[], [], nofun, List.not_mem_nil, rfl⟩
  | cons c text inductionHypothesis =>
    obtain ⟨pieces, last, each, final, rfl⟩ := inductionHypothesis
    by_cases feed : c = '\n'
    · subst feed
      exact ⟨[] :: pieces, last, List.forall_mem_cons.mpr ⟨List.not_mem_nil, each⟩, final, rfl⟩
    · cases pieces with
      | nil =>
        exact ⟨[], c :: last, nofun, List.not_mem_cons_of_ne_of_not_mem (Ne.symm feed) final, rfl⟩
      | cons piece pieces =>
        obtain ⟨first, others⟩ := List.forall_mem_cons.mp each
        exact ⟨(c :: piece) :: pieces, last, List.forall_mem_cons.mpr
          ⟨List.not_mem_cons_of_ne_of_not_mem (Ne.symm feed) first, others⟩, final, rfl⟩

/-- The lines of a text are its pieces, the last one only if it is not empty. -/
theorem splitLines_joinLines_append {pieces : List (List Char)} {last : List Char}
    (each : ∀ piece ∈ pieces, '\n' ∉ piece) (final : '\n' ∉ last) :
    splitLines (joinLines ['\n'] pieces ++ last) =
      pieces.map dropReturn ++ if last = [] then [] else [dropReturn last] := by
  have split : (joinLines ['\n'] pieces ++ last).splitOn '\n' = pieces ++ [last] := by
    rw [← intercalate_concat]
    apply List.splitOn_intercalate
    · intro piece member
      rcases List.mem_append.mp member with earlier | here
      · exact each piece earlier
      · rwa [List.mem_singleton.mp here]
    · exact List.concat_ne_nil _ _
  rw [splitLines, split, List.getLast?_concat]
  by_cases empty : last = []
  · rw [if_pos (congrArg some empty), if_pos empty, List.dropLast_concat, List.append_nil]
  · rw [if_neg fun same => empty (Option.some.inj same), if_neg empty, List.map_append,
      List.map_singleton]

/-- Lines with line feeds behind them are split into themselves, but for carriage returns. -/
theorem splitLines_joinLines {lines : List (List Char)} (each : ∀ line ∈ lines, '\n' ∉ line) :
    splitLines (joinLines ['\n'] lines) = lines.map dropReturn := by
  have whole := splitLines_joinLines_append each (List.not_mem_nil (a := '\n'))
  rwa [List.append_nil, if_pos rfl, List.append_nil] at whole

/-! ## Carriage returns -/

/-- The text with a carriage return before every line feed. -/
def withReturns (text : List Char) : List Char :=
  text.flatMap fun c => if c = '\n' then ['\r', '\n'] else [c]

theorem withReturns_append (first second : List Char) :
    withReturns (first ++ second) = withReturns first ++ withReturns second :=
  List.flatMap_append

theorem withReturns_eq_self {piece : List Char} (oneLine : '\n' ∉ piece) :
    withReturns piece = piece := by
  induction piece with
  | nil => rfl
  | cons c piece inductionHypothesis =>
    rw [List.mem_cons, not_or] at oneLine
    rw [withReturns, List.flatMap_cons, if_neg (Ne.symm oneLine.1)]
    exact congrArg (c :: ·) (inductionHypothesis oneLine.2)

theorem joinLines_return (lines : List (List Char)) :
    joinLines ['\r', '\n'] lines = joinLines ['\n'] (lines.map (· ++ ['\r'])) := by
  simp only [joinLines, List.flatMap_map, List.append_assoc]
  rfl

/-- The carriage returns stand behind all pieces but the last. -/
theorem withReturns_joinLines {pieces : List (List Char)} (each : ∀ piece ∈ pieces, '\n' ∉ piece) :
    withReturns (joinLines ['\n'] pieces) = joinLines ['\r', '\n'] pieces := by
  induction pieces with
  | nil => rfl
  | cons piece pieces inductionHypothesis =>
    obtain ⟨first, others⟩ := List.forall_mem_cons.mp each
    rw [joinLines_cons, withReturns_append, withReturns_append, withReturns_eq_self first,
      inductionHypothesis others, joinLines_cons]
    rfl

@[simp] theorem dropReturn_append_return (line : List Char) : dropReturn (line ++ ['\r']) = line := by
  rw [dropReturn, List.getLast?_concat, if_pos rfl, List.dropLast_concat]

theorem dropReturn_eq_self {line : List Char} (bare : line.getLast? ≠ some '\r') :
    dropReturn line = line :=
  if_neg bare

theorem not_mem_append_return {line : List Char} (oneLine : '\n' ∉ line) :
    '\n' ∉ line ++ ['\r'] := by
  simp [oneLine]

/-- Lines with a carriage return and a line feed behind them are split into themselves. -/
theorem splitLines_joinLines_return {lines : List (List Char)}
    (each : ∀ line ∈ lines, '\n' ∉ line) : splitLines (joinLines ['\r', '\n'] lines) = lines := by
  have eachToo : ∀ line ∈ lines.map (· ++ ['\r']), '\n' ∉ line := by
    rintro _ member
    obtain ⟨line, among, rfl⟩ := List.mem_map.mp member
    exact not_mem_append_return (each line among)
  rw [joinLines_return, splitLines_joinLines eachToo, List.map_map]
  exact (List.map_congr_left fun line _ => dropReturn_append_return line).trans (List.map_id lines)

/-- Both line ends give the same lines. -/
theorem splitLines_withReturns {text : List Char} (plain : '\r' ∉ text) :
    splitLines (withReturns text) = splitLines text := by
  obtain ⟨pieces, last, each, final, rfl⟩ := exists_pieces text
  have eachToo : ∀ piece ∈ pieces.map (· ++ ['\r']), '\n' ∉ piece := by
    rintro _ member
    obtain ⟨piece, among, rfl⟩ := List.mem_map.mp member
    exact not_mem_append_return (each piece among)
  have kept : pieces.map (dropReturn ∘ (· ++ ['\r'])) = pieces.map dropReturn := by
    apply List.map_congr_left
    intro piece among
    have bare : piece.getLast? ≠ some '\r' := by
      intro ends
      apply plain
      refine List.mem_append_left _ (List.mem_flatMap.mpr ⟨piece, among, ?_⟩)
      exact List.mem_append_left _ (List.mem_of_getLast? ends)
    exact (dropReturn_append_return piece).trans (dropReturn_eq_self bare).symm
  rw [withReturns_append, withReturns_joinLines each, withReturns_eq_self final, joinLines_return,
    splitLines_joinLines_append eachToo final, splitLines_joinLines_append each final, List.map_map,
    kept]

theorem getLast?_withReturns (text : List Char) :
    (withReturns text).getLast? = text.getLast? := by
  rcases List.eq_nil_or_concat text with rfl | ⟨before, c, rfl⟩
  · rfl
  · rw [List.concat_eq_append, withReturns_append, List.getLast?_concat, List.getLast?_append]
    by_cases feed : c = '\n' <;> simp [withReturns, feed]

end Source

/-! ## Checks -/

/-- A check asks of a text its lines and its last character. -/
theorem checkText_eq_of_lines {text other : List Char}
    (lines : Source.splitLines text = Source.splitLines other)
    (last : text.getLast? = other.getLast?) (settings : Settings) (path : Path) :
    checkText settings path text = checkText settings path other := by
  have empty : text.isEmpty = other.isEmpty := by
    rw [Bool.eq_iff_iff, List.isEmpty_iff, List.isEmpty_iff, ← List.getLast?_eq_none_iff, last,
      List.getLast?_eq_none_iff]
  have ending : Layout.endDiagnostics (.ofText path text) =
      Layout.endDiagnostics (.ofText path other) := by
    unfold Layout.endDiagnostics SourceFile.ofText
    simp only [lines, last, empty]
  have trailing : Layout.trailingDiagnostics (.ofText path text) =
      Layout.trailingDiagnostics (.ofText path other) := by
    unfold Layout.trailingDiagnostics SourceFile.ofText
    simp only [lines]
  have spacing : Layout.spacingDiagnostics (.ofText path text) =
      Layout.spacingDiagnostics (.ofText path other) := by
    unfold Layout.spacingDiagnostics SourceFile.ofText
    simp only [lines]
  have guard : Includes.guardDiagnostics (.ofText path text) =
      Includes.guardDiagnostics (.ofText path other) := by
    unfold Includes.guardDiagnostics SourceFile.ofText
    simp only [lines]
  have marked : (SourceFile.ofText path text).lines = (SourceFile.ofText path other).lines :=
    congrArg Line.ofRaws lines
  have same : Checker.run settings (.ofText path text) =
      Checker.run settings (.ofText path other) := by
    funext checker
    cases checker with
    | includes =>
      rw [Checker.run, Checker.run, Includes.diagnostics, Includes.diagnostics, guard, marked]
      rfl
    | layout =>
      rw [Checker.run, Checker.run, Layout.diagnostics, Layout.diagnostics, ending, trailing, spacing]
    | lines => rw [Checker.run, Checker.run, marked]
    | functions => rw [Checker.run, Checker.run, marked]
  rw [checkText, checkText, checkFile, checkFile, same]

/-- Line ends with and without carriage returns give the same check, and joined lines are split into
themselves with either. -/
theorem checkText_withReturns (settings : Settings) (path : Path) {text : List Char}
    (plain : '\r' ∉ text) {lines : List (List Char)}
    (each : ∀ line ∈ lines, '\n' ∉ line ∧ line.getLast? ≠ some '\r') :
    checkText settings path (Source.withReturns text) = checkText settings path text ∧
      Source.splitLines (Source.joinLines ['\n'] lines) = lines ∧
      Source.splitLines (Source.joinLines ['\r', '\n'] lines) = lines := by
  refine ⟨?_, ?_, ?_⟩
  · exact checkText_eq_of_lines (Source.splitLines_withReturns plain)
      (Source.getLast?_withReturns text) settings path
  · rw [Source.splitLines_joinLines fun line member => (each line member).1]
    exact (List.map_congr_left fun line member => Source.dropReturn_eq_self (each line member).2).trans
      (List.map_id lines)
  · exact Source.splitLines_joinLines_return fun line member => (each line member).1

/-- A text with blank lines and without a line end at its end, under a header's path, and lines of
which one is empty and one holds a carriage return. -/
theorem checkText_withReturns_header :
    let text := "int x;\n\n\nint  y;".toList
    let lines := [[], "a\rb".toList, []]
    '\r' ∉ text ∧ (∀ line ∈ lines, '\n' ∉ line ∧ line.getLast? ≠ some '\r') ∧
      checkText .default ⟨"", ["a.h"]⟩ (Source.withReturns text) =
        checkText .default ⟨"", ["a.h"]⟩ text ∧
      Source.splitLines (Source.joinLines ['\n'] lines) = lines ∧
      Source.splitLines (Source.joinLines ['\r', '\n'] lines) = lines := by
  intro text lines
  have plain : '\r' ∉ text := by decide
  have each : ∀ line ∈ lines, '\n' ∉ line ∧ line.getLast? ≠ some '\r' := by decide
  exact ⟨plain, each, checkText_withReturns .default ⟨"", ["a.h"]⟩ plain each⟩

end HouseStyle
