import HouseStyle.Report.Snippet
import Mathlib.Data.List.Sort

/-!
Contract: the lines shown with a diagnostic, at every place that a diagnostic can have.

Owns: which lines are shown, where the carets stand, and that no line is looked for outside a file.
Does not own: the rest of a report.

A diagnostic may be about a line before the first or behind the last one, about a column behind the
end of its line, and about no characters. A row of carets is told from the others by its front, where
the others have a digit.

Main statement: `snippet_in_file`.
-/

namespace HouseStyle.Report

variable {diagnostic : Diagnostic} {line : List Char} {index : Nat}

/-- The line with an index is the one that a diagnostic is about, or next to it. -/
def isShown (diagnostic : Diagnostic) (index : Nat) : Bool :=
  (index + 1 : Int) ∈ [diagnostic.line - 1, diagnostic.line, diagnostic.line + 1]

/-- Of lines with their indices, those that are shown with a diagnostic. -/
def shown (diagnostic : Diagnostic) (entries : List (List Char × Nat)) : List (List Char × Nat) :=
  entries.filter fun entry => isShown diagnostic entry.2

/-- The indices from the line before the one that a diagnostic is about to the line behind it, kept
within so many lines. -/
def window (diagnostic : Diagnostic) (count : Nat) : List Nat :=
  let first := max (diagnostic.line - 2) 0
  let last := min diagnostic.line (count - 1)
  List.range' first.toNat (last + 1 - first).toNat

/-- A row of carets starts like this one. -/
def isUnderline (row : String) : Bool :=
  "    | ".toList.isPrefixOf row.toList

/-- The row with the carets under a line. -/
def underline (diagnostic : Diagnostic) (line : List Char) : String :=
  "    | " ++ String.ofList
    (List.replicate (caretColumn diagnostic line).toNat ' ' ++
      List.replicate (caretWidth diagnostic line).toNat '^')

/-- The rows for a line that is shown. -/
def rowsOf (diagnostic : Diagnostic) (entry : List Char × Nat) : List String :=
  numberedRow entry.2 entry.1 ::
    if (entry.2 + 1 : Int) = diagnostic.line then [underline diagnostic entry.1] else []

/-- The rows for those of some lines that are shown. -/
def shownRows (diagnostic : Diagnostic) (entries : List (List Char × Nat)) : List String :=
  (shown diagnostic entries).flatMap (rowsOf diagnostic)

/-- The rows of a snippet, put together index by index, if every index has a line. -/
def indexedRows (lines : List (List Char)) (diagnostic : Diagnostic) : Option (List String) :=
  ((window diagnostic lines.length).mapM fun index =>
    lines[index]?.map fun line => rowsOf diagnostic (line, index)).map List.flatten

/-! ## The indices of the lines that are shown -/

theorem isShown_iff : isShown diagnostic index ↔
    diagnostic.line - 2 ≤ index ∧ (index : Int) ≤ diagnostic.line := by
  simp only [isShown, decide_eq_true_eq, List.mem_cons, List.not_mem_nil, or_false]
  omega

/-- The window has the indices of the lines that are shown, and no others. -/
theorem window_eq_filter (diagnostic : Diagnostic) (count : Nat) :
    window diagnostic count = (List.range count).filter (isShown diagnostic) := by
  refine List.Pairwise.eq_of_mem_iff (List.pairwise_lt_range') (List.pairwise_lt_range.filter _)
    fun index => ?_
  rw [window, List.mem_range'_1, List.mem_filter, List.mem_range, isShown_iff]
  omega

theorem filter_range_eq (p : Nat → Bool) (lines : List (List Char)) :
    (List.range lines.length).filter p =
      (lines.zipIdx.filter fun entry => p entry.2).map Prod.snd := by
  rw [List.range_eq_range', ← List.zipIdx_map_snd 0 lines, List.filter_map]
  rfl

theorem mapM_eq_some {α β : Type} {answer : α → Option β} (value : α → β) {questions : List α}
    (given : ∀ question ∈ questions, answer question = some (value question)) :
    questions.mapM answer = some (questions.map value) := by
  induction questions with
  | nil => rfl
  | cons question questions inductionHypothesis =>
    obtain ⟨first, others⟩ := List.forall_mem_cons.mp given
    rw [List.mapM_cons, first, inductionHypothesis others]
    rfl

/-- Every index of the window has a line. -/
theorem indexedRows_eq (lines : List (List Char)) (diagnostic : Diagnostic) :
    indexedRows lines diagnostic = some (shownRows diagnostic lines.zipIdx) := by
  rw [indexedRows, window_eq_filter, filter_range_eq, List.mapM_map,
    mapM_eq_some (rowsOf diagnostic)]
  · rfl
  · intro entry member
    have there := List.mem_zipIdx_iff_getElem?.mp (List.mem_filter.mp member).1
    simp only [Function.comp_apply, there, Option.map_some]

/-! ## The rows of a snippet -/

theorem shownRows_append (first rest : List (List Char × Nat)) :
    shownRows diagnostic (first ++ rest) =
      shownRows diagnostic first ++ shownRows diagnostic rest := by
  rw [shownRows, shown, List.filter_append, List.flatMap_append]
  rfl

theorem shownRows_cons (entry : List Char × Nat) (rest : List (List Char × Nat)) :
    shownRows diagnostic (entry :: rest) =
      (if isShown diagnostic entry.2 then rowsOf diagnostic entry else []) ++
        shownRows diagnostic rest := by
  rw [shownRows, shown, List.filter_cons]
  split <;> rfl

section Rows

variable (column : 0 ≤ diagnostic.column)
include column

theorem rowsFor_eq (index : Nat) (line : List Char) :
    rowsFor diagnostic index line =
      .ok (if isShown diagnostic index then rowsOf diagnostic (line, index) else []) := by
  have carets : caretRow diagnostic line = .ok (underline diagnostic line) := by
    rw [caretRow, caretFault?_eq_none line column]
    rfl
  have offending : (index : Int) = diagnostic.line - 1 ↔ (index + 1 : Int) = diagnostic.line := by
    omega
  rw [rowsFor, carets]
  simp only [isShown_iff, offending, rowsOf]
  split
  · split <;> rfl
  · rfl

theorem rowsFrom_eq (index : Nat) (lines : List (List Char)) :
    rowsFrom diagnostic index lines = .ok (shownRows diagnostic (lines.zipIdx index)) := by
  induction lines generalizing index with
  | nil => rfl
  | cons line lines inductionHypothesis =>
    rw [rowsFrom, rowsFor_eq column, inductionHypothesis, List.zipIdx_cons, shownRows_cons]
    rfl

end Rows

/-! ## Rows with a number and rows with carets -/

theorem isUnderline_underline (diagnostic : Diagnostic) (line : List Char) :
    isUnderline (underline diagnostic line) := by
  rw [isUnderline, List.isPrefixOf_iff_prefix, underline, String.toList_append]
  exact List.prefix_append _ _

/-- One of the first three characters of a row with a number is a digit. -/
theorem exists_digit_of_numberedRow (index : Nat) (line : List Char) : ∃ width digit rest,
    (numberedRow index line).toList = List.replicate width ' ' ++ digit :: rest ∧ width < 3 ∧
      digit.isDigit := by
  obtain ⟨digit, digits, written⟩ :=
    List.exists_cons_of_ne_nil (@Nat.toDigits_ne_nil (index + 1) 10)
  have isDigit : digit.isDigit :=
    Nat.isDigit_of_mem_toDigits (by decide) (by decide) (written ▸ List.mem_cons_self)
  have number : (toString (index + 1)).toList = digit :: digits := by
    rw [← written]
    exact Nat.toList_repr
  refine ⟨3 - (toString (index + 1)).length, digit, digits ++ (" | ".toList ++ line), ?_, ?_, isDigit⟩
  · simp only [numberedRow, padded, String.toList_append, number, String.toList_ofList,
      List.append_assoc, List.cons_append]
  · rw [← String.length_toList, number, List.length_cons]
    omega

theorem isUnderline_numberedRow (index : Nat) (line : List Char) :
    isUnderline (numberedRow index line) = false := by
  rw [Bool.eq_false_iff]
  intro starts
  obtain ⟨behind, split⟩ := List.isPrefixOf_iff_prefix.mp starts
  obtain ⟨width, digit, rest, row, early, isDigit⟩ := exists_digit_of_numberedRow index line
  have blank : ("    | ".toList ++ behind)[width]? = some ' ' := by
    obtain _ | _ | _ | _ := width <;> first | rfl | omega
  rw [split, row, List.getElem?_append_right (List.length_replicate.le), List.length_replicate,
    Nat.sub_self, List.getElem?_cons_zero, Option.some.injEq] at blank
  rw [blank] at isDigit
  exact absurd isDigit (by decide)

/-- A row of the lines that are shown has a number, unless it has the carets under the line that the
diagnostic is about. -/
theorem mem_shownRows {entries : List (List Char × Nat)} {row : String}
    (member : row ∈ shownRows diagnostic entries) :
    isUnderline row = false ∨ ∃ entry ∈ entries, (entry.2 + 1 : Int) = diagnostic.line := by
  obtain ⟨entry, among, inRows⟩ := List.mem_flatMap.mp member
  rcases List.mem_cons.mp inRows with rfl | carets
  · exact .inl (isUnderline_numberedRow _ _)
  · refine .inr ⟨entry, (List.mem_filter.mp among).1, ?_⟩
    by_contra elsewhere
    rw [if_neg elsewhere] at carets
    exact absurd carets List.not_mem_nil

/-- The rows with a number are those of the lines that are shown. -/
theorem filter_shownRows (entries : List (List Char × Nat)) :
    (shownRows diagnostic entries).filter (fun row => !isUnderline row) =
      (shown diagnostic entries).map fun entry => numberedRow entry.2 entry.1 := by
  have numbered (entry : List Char × Nat) :
      (rowsOf diagnostic entry).filter (fun row => !isUnderline row) =
        [numberedRow entry.2 entry.1] := by
    rw [rowsOf, List.filter_cons_of_pos (by rw [isUnderline_numberedRow]; rfl)]
    split
    · rw [List.filter_cons_of_neg (by rw [isUnderline_underline]; decide), List.filter_nil]
    · rfl
  simp only [shownRows, List.filter_flatMap, numbered]
  exact List.flatMap_pure_eq_map _ _

/-- The rows with the carets under a line stand between rows with numbers. -/
theorem shownRows_split {lines : List (List Char)} (there : lines[index]? = some line)
    (about : (index + 1 : Int) = diagnostic.line) : ∃ before behind,
    shownRows diagnostic lines.zipIdx =
        before ++ numberedRow index line :: underline diagnostic line :: behind ∧
      ∀ row ∈ before ++ behind, isUnderline row = false := by
  obtain ⟨within, same⟩ := List.getElem?_eq_some_iff.mp there
  have split : lines.zipIdx =
      (lines.take index).zipIdx ++ (line, index) :: (lines.drop (index + 1)).zipIdx (index + 1) := by
    conv_lhs => rw [← List.take_append_drop index lines, List.drop_eq_getElem_cons within, same]
    rw [List.zipIdx_append, List.length_take_of_le within.le, Nat.zero_add, List.zipIdx_cons]
  refine ⟨shownRows diagnostic (lines.take index).zipIdx,
    shownRows diagnostic ((lines.drop (index + 1)).zipIdx (index + 1)), ?_, ?_⟩
  · rw [split, shownRows_append, shownRows_cons, if_pos (isShown_iff.mpr (by omega)), rowsOf,
      if_pos about]
    rfl
  · intro row member
    rcases List.mem_append.mp member with early | late
    · refine (mem_shownRows early).resolve_right ?_
      rintro ⟨entry, among, same⟩
      have before := List.snd_lt_add_of_mem_zipIdx among
      rw [List.length_take_of_le within.le] at before
      omega
    · refine (mem_shownRows late).resolve_right ?_
      rintro ⟨entry, among, same⟩
      have behind := List.le_snd_of_mem_zipIdx among
      omega

/-! ## The carets -/

/-- A row of carets: blanks up to the column of a diagnostic or the end of the line, and then carets.
There is at least one, and they end where the diagnostic or the line does, if that is further on. -/
def Underlines (diagnostic : Diagnostic) (line : List Char) (row : String) : Prop :=
  ∃ carets : Nat,
    row = "    | " ++ String.ofList (List.replicate (min diagnostic.column line.length).toNat ' ' ++
      List.replicate carets '^') ∧
    1 ≤ carets ∧
    (min diagnostic.column line.length < min (diagnostic.column + diagnostic.length) line.length →
      min diagnostic.column line.length + carets =
        min (diagnostic.column + diagnostic.length) line.length)

theorem underlines_underline (diagnostic : Diagnostic) (line : List Char) :
    Underlines diagnostic line (underline diagnostic line) := by
  refine ⟨(caretWidth diagnostic line).toNat, rfl, ?_, ?_⟩
  · rw [caretWidth]
    omega
  · rw [caretWidth, caretColumn]
    omega

/-- A snippet is made at every place: each index that is looked up has a line, and the rows with a
number are those of the lines next to the one that the diagnostic is about, and of that line. It has
no carets, unless the file has this line; then carets stand directly under it, and nowhere else. -/
theorem snippet_in_file (lines : List (List Char)) (diagnostic : Diagnostic)
    (column : 0 ≤ diagnostic.column) : ∃ rows,
    snippet lines diagnostic = .ok rows ∧
    indexedRows lines diagnostic = some rows ∧
    rows.filter (fun row => !isUnderline row) =
      (shown diagnostic lines.zipIdx).map (fun entry => numberedRow entry.2 entry.1) ∧
    (¬ (1 ≤ diagnostic.line ∧ diagnostic.line ≤ lines.length) →
      ∀ row ∈ rows, isUnderline row = false) ∧
    (∀ (index : Nat) (line : List Char), (index + 1 : Int) = diagnostic.line →
      lines[index]? = some line →
      ∃ before carets behind, rows = before ++ numberedRow index line :: carets :: behind ∧
        Underlines diagnostic line carets ∧ ∀ row ∈ before ++ behind, isUnderline row = false) := by
  refine ⟨shownRows diagnostic lines.zipIdx, rowsFrom_eq column 0 lines, indexedRows_eq lines diagnostic,
    filter_shownRows _, ?outside, ?inside⟩
  case outside =>
    intro outside row member
    refine (mem_shownRows member).resolve_right ?_
    rintro ⟨entry, among, about⟩
    have within := (List.getElem?_eq_some_iff.mp (List.mem_zipIdx_iff_getElem?.mp among)).1
    exact outside (by omega)
  case inside =>
    intro index line about there
    obtain ⟨before, behind, split, others⟩ := shownRows_split there about
    exact ⟨before, _, behind, split, underlines_underline diagnostic line, others⟩

/-- About a column behind the end of the last line. -/
theorem snippet_in_file_last_line :
    let lines := ["int a;".toList, "x;".toList]
    let diagnostic : Diagnostic := ⟨2, 7, 0, .error, "", ""⟩
    ∃ rows, snippet lines diagnostic = .ok rows ∧ indexedRows lines diagnostic = some rows ∧
      rows.filter (fun row => !isUnderline row) = ["  1 | int a;", "  2 | x;"] ∧
        ∃ before carets behind, rows = before ++ "  2 | x;" :: carets :: behind ∧
          Underlines diagnostic "x;".toList carets ∧
            ∀ row ∈ before ++ behind, isUnderline row = false := by
  intro lines diagnostic
  obtain ⟨rows, made, indexed, numbered, -, carets⟩ :=
    snippet_in_file lines diagnostic (by decide)
  exact ⟨rows, made, indexed, numbered, carets 1 "x;".toList rfl rfl⟩

-- about line zero the next line is shown, and about one far behind the end nothing
example :
    (snippet ["a".toList, "b".toList] ⟨0, 0, 3, .error, "", ""⟩).toOption = some ["  1 | a"] ∧
      (snippet ["a".toList, "b".toList] ⟨5, 0, 3, .error, "", ""⟩).toOption = some [] := by
  decide +kernel

end HouseStyle.Report
