import HouseStyle.Proofs.Check
import HouseStyle.Proofs.File.Alike
import HouseStyle.Proofs.File.Definitions
import HouseStyle.Proofs.Scan.Spans

/-!
Contract: the diagnostics of a check lie in the text.

Owns: the places of the complaints about inclusions, guards and layout, and those of a whole check.
Does not own: the complaints of a scan, which `Proofs.Scan.Spans` treats.

Each check counts lines its own way. Inclusions carry their number, definitions the index of their
last line, and the rules on the end of a file take the number of lines. An empty text has no lines,
and the complaint about its missing guard still names the first.

Main statement: `checkText_inText`.
-/

namespace HouseStyle

/-! ## The lines of a text -/

namespace Source

theorem getLast?_intercalate_concat_nil (separator : Char) (first : List Char)
    (others : List (List Char)) :
    ([separator].intercalate (first :: (others ++ [[]]))).getLast? = some separator := by
  induction others generalizing first with
  | nil => simp [List.intercalate_cons_cons]
  | cons second others inductionHypothesis =>
    rw [List.cons_append, List.intercalate_cons_cons, List.getLast?_append,
      inductionHypothesis second]
    rfl

/-- The last line of a text that does not end with a line end is not empty, unless it is a single
carriage return. -/
theorem getLast?_splitLines {text : List Char} (written : text ≠ [])
    (unended : text.getLast? ≠ some '\n') (visible : (text.splitOn '\n').getLast? ≠ some ['\r']) :
    ∃ last, (splitLines text).getLast? = some last ∧ last ≠ [] := by
  obtain ⟨last, ends⟩ : ∃ last, (text.splitOn '\n').getLast? = some last :=
    ⟨_, List.getLast?_eq_some_getLast (List.splitOn_ne_nil '\n' text)⟩
  have whole : ['\n'].intercalate (text.splitOn '\n') = text := List.intercalate_splitOn '\n'
  have inked : last ≠ [] := by
    rintro rfl
    obtain ⟨before, pieces⟩ := List.getLast?_eq_some_iff.mp ends
    rw [pieces] at whole
    cases before with
    | nil => exact written whole.symm
    | cons first others =>
      rw [List.cons_append] at whole
      apply unended
      rw [← whole, getLast?_intercalate_concat_nil]
  have kept : (text.splitOn '\n').getLast? ≠ some [] := by
    rw [ends]
    simpa using inked
  refine ⟨dropReturn last, ?_, ?_⟩
  · rw [splitLines, if_neg kept, List.getLast?_map, ends]
    rfl
  · unfold dropReturn
    split
    next returned =>
      intro empty
      obtain ⟨before, split⟩ := List.getLast?_eq_some_iff.mp returned
      rw [split, List.dropLast_concat] at empty
      rw [empty, List.nil_append] at split
      exact visible (ends.trans (congrArg some split))
    next => exact inked

end Source

/-- A diagnostic that lies in the text with the given lines. An empty text has a first line, but no
columns. -/
structure Diagnostic.InText (raws : List (List Char)) (diagnostic : Diagnostic) : Prop where
  line_pos : 1 ≤ diagnostic.line
  line_le : diagnostic.line ≤ max 1 raws.length
  columns : raws ≠ [] → ∃ raw, raws[(diagnostic.line - 1).toNat]? = some raw ∧
    0 ≤ diagnostic.column ∧ diagnostic.column + diagnostic.length ≤ raw.length

theorem Source.HasPlace.inText {raws : List (List Char)} {diagnostic : Diagnostic}
    (place : HasPlace raws diagnostic.line diagnostic.column diagnostic.length) :
    diagnostic.InText raws := by
  obtain ⟨index, raw, there, numbered, behind, -, early⟩ := place
  have within := (List.getElem?_eq_some_iff.mp there).1
  refine ⟨by omega, by omega, fun _ => ⟨raw, ?_, behind, early⟩⟩
  rw [show (diagnostic.line - 1).toNat = index by omega]
  exact there

/-! ## Inclusions -/

namespace Includes

variable {raws : List (List Char)} {diagnostics : List Diagnostic}

/-- The target of an inclusion has its two delimiters and stands on the line of its number. -/
structure Inclusion.Stands (raws : List (List Char)) (inclusion : Inclusion) : Prop where
  there : ∃ index, raws[index]? = some inclusion.raw ∧ inclusion.number = 1 + index
  delimited : 2 ≤ inclusion.target.length
  within : inclusion.target.stop ≤ inclusion.raw.length

theorem stands_of_mem_fromLines {inclusion : Inclusion}
    (member : inclusion ∈ fromLines 1 (Line.ofRaws raws)) : inclusion.Stands raws := by
  obtain ⟨index, line, here, held⟩ := exists_ofLine?_of_mem_fromLines member
  obtain ⟨found, fits, held⟩ := Option.bind_eq_some_iff.mp held
  obtain ⟨target, recorded, held⟩ := Option.bind_eq_some_iff.mp held
  obtain ⟨-, held⟩ := Option.ite_none_right_eq_some.mp held
  cases held
  obtain ⟨before, raw, there, rfl⟩ := Line.exists_ofRaw_of_getElem? here
  obtain ⟨room, known, inside, within⟩ := (Pattern.matched_of_matchStart? fits).room recorded
  have three : room = ⟨3, 0⟩ := Option.some.inj (known.symm.trans (by decide))
  subst three
  refine ⟨⟨index, there, rfl⟩, ?_, by omega⟩
  simp only at inside ⊢
  omega

theorem located_directiveDiagnostic {kind : Kind} {inclusion : Inclusion}
    {arguments : List Argument} {diagnostic : Diagnostic} (stands : inclusion.Stands raws)
    (given : directiveDiagnostic kind inclusion arguments = .ok diagnostic) :
    Located raws [diagnostic] := by
  obtain ⟨start, found, given⟩ := Answer.bind_eq_ok.mp given
  have bounds := (Text.index_bounds found).2
  obtain ⟨index, there, numbered⟩ := stands.there
  have place : Source.HasPlace raws inclusion.number start
      ((inclusion.raw.length : Int) - start) :=
    ⟨index, inclusion.raw, there, by omega, by omega, by omega, by omega⟩
  exact Located.of_diagnostic place given

theorem located_recursionDiagnostics {path : Path} {inclusions : List Inclusion}
    (stand : ∀ inclusion ∈ inclusions, inclusion.Stands raws)
    (answers : recursionDiagnostics path inclusions = .ok diagnostics) :
    Located raws diagnostics := by
  intro diagnostic member _
  obtain ⟨inclusion, among, given⟩ := Answer.exists_of_mem_mapM answers diagnostic member
  have stands := stand inclusion (List.mem_filter.mp among).1
  obtain ⟨index, there, numbered⟩ := stands.there
  have delimited := stands.delimited
  have within := stands.within
  have stop : inclusion.target.stop = inclusion.target.start + inclusion.target.length := rfl
  have place : Source.HasPlace raws inclusion.number ((inclusion.target.start : Int) + 1)
      ((inclusion.target.length : Int) - 2) :=
    ⟨index, inclusion.raw, there, by omega, by omega, by omega, by omega⟩
  exact Kind.hasPlace_of_diagnostic place given

theorem located_mixedDiagnostics {system project : List Inclusion}
    (stand : ∀ inclusion ∈ project, inclusion.Stands raws)
    (answers : mixedDiagnostics system project = .ok diagnostics) : Located raws diagnostics := by
  unfold mixedDiagnostics at answers
  split at answers
  next first last starts _ =>
    split at answers
    · obtain ⟨diagnostic, given, answers⟩ := Answer.bind_eq_ok.mp answers
      cases answers
      exact located_directiveDiagnostic (stand first (List.mem_of_head? starts)) given
    · cases answers
      exact Located.nil
  next =>
    cases answers
    exact Located.nil

theorem located_orderDiagnostics {kind : Kind} {arguments : Inclusion → List Argument}
    {inclusions : List Inclusion} (stand : ∀ inclusion ∈ inclusions, inclusion.Stands raws)
    (answers : orderDiagnostics kind arguments inclusions = .ok diagnostics) :
    Located raws diagnostics := by
  rcases orderDiagnostics_eq_ok_iff.mp answers with
    ⟨-, rfl⟩ | ⟨inclusion, diagnostic, found, given, rfl⟩
  · exact Located.nil
  · exact located_directiveDiagnostic (stand inclusion (mem_of_beforeUnsorted? found)) given

/-- The complaint about a guard names the line that repeats it, or the first line. -/
theorem inText_of_guardDiagnostics {file : SourceFile}
    (answers : guardDiagnostics file = .ok diagnostics) :
    ∀ diagnostic ∈ diagnostics, diagnostic.InText file.raws := by
  unfold guardDiagnostics at answers
  simp only at answers
  split at answers
  next index _ found =>
    obtain ⟨diagnostic, given, answers⟩ := Answer.bind_eq_ok.mp answers
    cases answers
    obtain ⟨within, -⟩ := List.findIdx?_eq_some_iff_getElem.mp found
    have there := List.getElem?_eq_getElem within
    rw [there] at given
    have place : Source.HasPlace file.raws ((index : Int) + 1) 0 file.raws[index].length :=
      ⟨index, _, there, rfl, Int.le_refl 0, Int.natCast_nonneg _, by omega⟩
    intro other member
    rw [List.mem_singleton.mp member]
    exact (Kind.hasPlace_of_diagnostic place given).inText
  next =>
    obtain ⟨diagnostic, given, answers⟩ := Answer.bind_eq_ok.mp answers
    cases answers
    obtain ⟨message, -, given⟩ := Answer.bind_eq_ok.mp given
    cases given
    intro other member
    rw [List.mem_singleton.mp member]
    refine ⟨Int.le_refl 1, by simp only; omega, fun written => ?_⟩
    obtain ⟨first, rest, raws⟩ := List.exists_cons_of_ne_nil written
    refine ⟨first, ?_, Int.le_refl 0, ?_⟩
    · rw [raws]
      rfl
    · simp only
      omega
  next =>
    cases answers
    intro diagnostic member
    exact absurd member List.not_mem_nil

theorem inText_of_diagnostics {path : Path} {text : List Char}
    (answers : Includes.diagnostics (.ofText path text) = .ok diagnostics) :
    ∀ diagnostic ∈ diagnostics, diagnostic.kind ∉ Kind.astray.map Kind.name →
      diagnostic.InText (Source.splitLines text) := by
  obtain ⟨recursion, givenRecursion, answers⟩ := Answer.bind_eq_ok.mp answers
  obtain ⟨mixed, givenMixed, answers⟩ := Answer.bind_eq_ok.mp answers
  obtain ⟨system, givenSystem, answers⟩ := Answer.bind_eq_ok.mp answers
  obtain ⟨project, givenProject, answers⟩ := Answer.bind_eq_ok.mp answers
  obtain ⟨guard, same, guarded⟩ : ∃ guard,
      diagnostics = recursion ++ mixed ++ system ++ project ++ guard ∧
        ∀ diagnostic ∈ guard, diagnostic.InText (Source.splitLines text) := by
    dsimp only at answers
    split at answers
    · obtain ⟨guard, given, answers⟩ := Answer.bind_eq_ok.mp answers
      cases answers
      exact ⟨guard, rfl, inText_of_guardDiagnostics given⟩
    · cases answers
      exact ⟨[], rfl, fun diagnostic member => absurd member List.not_mem_nil⟩
  rw [same]
  have stand : ∀ inclusion ∈ fromLines 1 (Line.ofRaws (Source.splitLines text)),
      inclusion.Stands (Source.splitLines text) := fun inclusion => stands_of_mem_fromLines
  have chosen : ∀ test, ∀ inclusion ∈ (fromLines 1 (Line.ofRaws (Source.splitLines text))).filter
      test, inclusion.Stands (Source.splitLines text) :=
    fun test inclusion member => stand inclusion (List.mem_filter.mp member).1
  have others : Located (Source.splitLines text) (recursion ++ mixed ++ system ++ project) :=
    (((located_recursionDiagnostics stand givenRecursion).append
      (located_mixedDiagnostics (chosen _) givenMixed)).append
      (located_orderDiagnostics (chosen _) givenSystem)).append
      (located_orderDiagnostics (chosen _) givenProject)
  intro diagnostic member followed
  rcases List.mem_append.mp member with early | last
  · exact (others diagnostic early followed).inText
  · exact guarded diagnostic last

end Includes

/-! ## Layout -/

namespace Layout

variable {path : Path} {text : List Char} {diagnostics : List Diagnostic}

theorem located_endDiagnostics (visible : (text.splitOn '\n').getLast? ≠ some ['\r'])
    (answers : endDiagnostics (.ofText path text) = .ok diagnostics) :
    Located (Source.splitLines text) diagnostics := by
  unfold endDiagnostics at answers
  split at answers
  · cases answers
    exact Located.nil
  next unended =>
    obtain ⟨diagnostic, given, answers⟩ := Answer.bind_eq_ok.mp answers
    cases answers
    simp only [SourceFile.ofText, Bool.or_eq_true, not_or, List.isEmpty_iff, beq_iff_eq] at unended
    obtain ⟨last, ends, inked⟩ := Source.getLast?_splitLines unended.1 unended.2 visible
    obtain ⟨before, raws⟩ := List.getLast?_eq_some_iff.mp ends
    have positive := List.length_pos_iff.mpr inked
    have same : (Source.splitLines text).getLastD [] = last := by
      rw [List.getLastD_eq_getLast?, ends]
      rfl
    have place : Source.HasPlace (Source.splitLines text) (Source.splitLines text).length
        ((((Source.splitLines text).getLastD []).length : Int) - 1) 1 := by
      rw [same]
      refine ⟨before.length, last, ?_, ?_, by omega, by omega, by omega⟩
      · rw [raws]
        simp
      · rw [raws, List.length_append, List.length_singleton]
        omega
    exact Located.of_diagnostic place given

theorem located_trailingDiagnostics
    (answers : trailingDiagnostics (.ofText path text) = .ok diagnostics) :
    Located (Source.splitLines text) diagnostics := by
  unfold trailingDiagnostics at answers
  simp only at answers
  split at answers
  · cases answers
    exact Located.nil
  next several =>
    obtain ⟨diagnostic, given, answers⟩ := Answer.bind_eq_ok.mp answers
    cases answers
    rw [not_or, Nat.not_le] at several
    have positive : 0 < (Source.splitLines text).length := Nat.zero_lt_of_lt several.2
    have place : Source.HasPlace (Source.splitLines text) (Source.splitLines text).length 0 0 :=
      ⟨(Source.splitLines text).length - 1, _, List.getElem?_eq_getElem (by omega), by omega,
        Int.le_refl 0, Int.le_refl 0, by omega⟩
    exact Located.of_diagnostic place given

theorem located_betweenDiagnostics {raws : List (List Char)} {previous next : FunctionDefinition}
    (within : previous.closeLine < raws.length)
    (answers : betweenDiagnostics raws previous next = .ok diagnostics) :
    Located raws diagnostics := by
  have place : ∀ index < raws.length, Source.HasPlace raws ((index : Int) + 1) 0 0 :=
    fun index inside => ⟨index, _, List.getElem?_eq_getElem inside, rfl, Int.le_refl 0,
      Int.le_refl 0, by omega⟩
  unfold betweenDiagnostics at answers
  simp only at answers
  split at answers
  · cases answers
    exact Located.nil
  · split at answers
    · obtain ⟨diagnostic, given, answers⟩ := Answer.bind_eq_ok.mp answers
      cases answers
      exact Located.of_diagnostic (place previous.closeLine within) given
    · split at answers
      next several =>
        obtain ⟨diagnostic, given, answers⟩ := Answer.bind_eq_ok.mp answers
        cases answers
        rw [List.length_drop, List.length_take] at several
        have behind := place (previous.closeLine + 1) (by omega)
        rw [show (((previous.closeLine + 1 : Nat) : Int) + 1) = previous.closeLine + 2 by omega]
          at behind
        exact Located.of_diagnostic behind given
      next =>
        cases answers
        exact Located.nil

theorem located_spacingDiagnostics
    (answers : spacingDiagnostics (.ofText path text) = .ok diagnostics) :
    Located (Source.splitLines text) diagnostics := by
  obtain ⟨found, asked, answers⟩ := Answer.bind_eq_ok.mp answers
  cases answers
  apply Located.flatten
  intro diagnostics member
  obtain ⟨⟨previous, next⟩, among, given⟩ := Answer.exists_of_mem_mapM asked diagnostics member
  have within := (FunctionDefinition.ordered_of_mem_findAll (List.of_mem_zip among).1).2
  have length : (SourceFile.ofText path text).lines.length = (Source.splitLines text).length :=
    Line.length_ofRawsFrom .code _
  rw [length] at within
  exact located_betweenDiagnostics within given

theorem located_diagnostics (visible : (text.splitOn '\n').getLast? ≠ some ['\r'])
    (answers : Layout.diagnostics (.ofText path text) = .ok diagnostics) :
    Located (Source.splitLines text) diagnostics := by
  obtain ⟨ending, givenEnding, answers⟩ := Answer.bind_eq_ok.mp answers
  obtain ⟨trailing, givenTrailing, answers⟩ := Answer.bind_eq_ok.mp answers
  obtain ⟨spacing, givenSpacing, answers⟩ := Answer.bind_eq_ok.mp answers
  cases answers
  exact ((located_endDiagnostics visible givenEnding).append
    (located_trailingDiagnostics givenTrailing)).append (located_spacingDiagnostics givenSpacing)

end Layout

/-! ## The check of a text -/

/-- Every diagnostic about a text whose last line is no single carriage return lies in the text,
but for those about a brace behind a label and about a parameter that could be constant. -/
theorem checkText_inText (settings : Settings) (positive : 0 ≤ settings.limit) {path : Path}
    {text : List Char} (visible : (text.splitOn '\n').getLast? ≠ some ['\r'])
    {diagnostics : List Diagnostic} (answers : checkText settings path text = .ok diagnostics) :
    ∀ diagnostic ∈ diagnostics, diagnostic.kind ≠ Kind.caseBlockBraces.name →
      diagnostic.kind ≠ Kind.pointerCouldBeConst.name →
        diagnostic.InText (Source.splitLines text) := by
  obtain ⟨includes, givenIncludes, -⟩ := Includes.diagnostics_answers (.ofText path text)
  obtain ⟨layout, givenLayout, -⟩ := Layout.diagnostics_answers (.ofText path text)
  obtain ⟨pointers, givenPointers, onlyPointers⟩ := ConstPointer.diagnostics_answers
    (Line.ofRaws (Source.splitLines text))
  rw [checkText_of_answers settings givenIncludes givenLayout givenPointers] at answers
  obtain ⟨lines, scanned, answers⟩ := Answer.bind_eq_ok.mp answers
  cases answers
  intro diagnostic member notBraces notPointer
  have followed : diagnostic.kind ∉ Kind.astray.map Kind.name := by
    intro astray
    rcases List.mem_cons.mp astray with braces | others
    · exact notBraces braces
    · exact notPointer (List.mem_singleton.mp others)
  obtain ⟨found, among, inside⟩ := List.mem_flatten.mp (Diagnostic.mem_of_mem_fresh member)
  simp only [List.mem_cons, List.not_mem_nil, or_false] at among
  rcases among with rfl | rfl | rfl | rfl
  · exact Includes.inText_of_diagnostics givenIncludes diagnostic inside followed
  · exact (Layout.located_diagnostics visible givenLayout diagnostic inside followed).inText
  · exact (Scan.located_of_diagnostics positive scanned diagnostic inside followed).inText
  · obtain ⟨kind, among, same⟩ := onlyPointers diagnostic inside
    rw [List.mem_singleton.mp among] at same
    exact absurd same.1 notPointer

/-- A tag is complained about on the line that closes the type, and at its place on the first. -/
theorem checkText_inText_tag :
    let text := "struct my_point \x7b\n  int x;\n\x7d;".toList
    0 ≤ Settings.default.limit ∧ (text.splitOn '\n').getLast? ≠ some ['\r'] ∧
      ∃ diagnostics, checkText .default ⟨"", ["main.c"]⟩ text = .ok diagnostics ∧
        (diagnostics.map fun diagnostic => (diagnostic.line, diagnostic.column, diagnostic.length)) =
          [(3, 1, 1), (1, 7, 8)] ∧
        ∀ diagnostic ∈ diagnostics, diagnostic.kind ≠ Kind.caseBlockBraces.name →
          diagnostic.kind ≠ Kind.pointerCouldBeConst.name →
            diagnostic.InText (Source.splitLines text) := by
  intro text
  have positive : 0 ≤ Settings.default.limit := by decide
  have visible : (text.splitOn '\n').getLast? ≠ some ['\r'] := by decide +kernel
  have answered : ((checkText .default ⟨"", ["main.c"]⟩ text).toOption.map (List.map fun diagnostic =>
      (diagnostic.line, diagnostic.column, diagnostic.length))) = some [(3, 1, 1), (1, 7, 8)] := by
    decide +kernel
  cases answers : checkText .default ⟨"", ["main.c"]⟩ text with
  | error fault =>
    rw [answers] at answered
    cases answered
  | ok diagnostics =>
    rw [answers] at answered
    exact ⟨positive, visible, diagnostics, rfl, Option.some.inj answered,
      checkText_inText .default positive visible answers⟩

end HouseStyle
