import HouseStyle.Proofs.Program.Row

/-!
Contract: statements and the rows that they are written in.

Owns: statements as trees, their rows in either brace style, and the reading of case bodies over
them.
Does not own: the scan of such rows.

A reading of a case body counts braces and stops at labels, breaks and closing braces of its own
depth. It passes over whole statements, for what they hold of these stands deeper.

Main statements: `passedOver_rows` and `startsPlain_bodyRows`.
-/

namespace HouseStyle.Program

/-! ## Statements -/

/-- Statements: an assignment, a test of one assignment without braces, a loop, a test with two
branches, and a choice of one case or more, each of which ends in a break. -/
inductive Statement where
  | assign
  | guarded
  | loop (body : List Statement)
  | branch (yes no : List Statement)
  | choice (first : List Statement) (others : List (List Statement))

/-- Induction on the nesting of statements. -/
@[elab_as_elim]
theorem Statement.induction {motive : Statement → Prop} (assign : motive .assign)
    (guarded : motive .guarded)
    (loop : ∀ body, (∀ statement ∈ body, motive statement) → motive (.loop body))
    (branch : ∀ yes no, (∀ statement ∈ yes, motive statement) →
      (∀ statement ∈ no, motive statement) → motive (.branch yes no))
    (choice : ∀ first others, (∀ statement ∈ first, motive statement) →
      (∀ body ∈ others, ∀ statement ∈ body, motive statement) → motive (.choice first others))
    (statement : Statement) : motive statement := by
  refine @Statement.rec motive (fun body => ∀ statement ∈ body, motive statement)
    (fun bodies => ∀ body ∈ bodies, ∀ statement ∈ body, motive statement)
    assign guarded loop branch choice ?_ ?_ ?_ ?_ statement
  · exact fun _ member => absurd member List.not_mem_nil
  · exact fun _ _ first rest => List.forall_mem_cons.mpr ⟨first, rest⟩
  · exact fun _ member => absurd member List.not_mem_nil
  · exact fun _ _ first rest => List.forall_mem_cons.mpr ⟨first, rest⟩

/-- The rows that open the block of a statement. -/
def opening (style : Style) (level : Nat) (header : Header) : List Placed :=
  match style with
  | .kr => [⟨level, .headBrace header⟩]
  | .allman => [⟨level, .head header⟩, ⟨level, .brace⟩]

/-- The rows between the two branches of a test. -/
def turning (style : Style) (level : Nat) : List Placed :=
  match style with
  | .kr => [⟨level, .closeOtherwise⟩]
  | .allman => [⟨level, .close⟩, ⟨level, .otherwise⟩, ⟨level, .brace⟩]

/-- The rows of a statement with one block. -/
def block (style : Style) (level : Nat) (header : Header) (body : List Placed) : List Placed :=
  opening style level header ++ (body ++ [⟨level, .close⟩])

/-- The rows of a case with the given body. -/
def caseRows (level : Nat) (body : List Placed) : List Placed :=
  ⟨level, .label⟩ :: (body ++ [⟨level + 1, .leave⟩])

mutual

/-- The rows of a statement at a level. -/
def rows (style : Style) (level : Nat) : Statement → List Placed
  | .assign => [⟨level, .assign⟩]
  | .guarded => [⟨level, .head .test⟩, ⟨level + 1, .assign⟩]
  | .loop body => block style level .loop (bodyRows style (level + 1) body)
  | .branch yes no =>
    opening style level .test ++ (bodyRows style (level + 1) yes ++
      (turning style level ++ (bodyRows style (level + 1) no ++ [⟨level, .close⟩])))
  | .choice first others =>
    block style level .choice
      (caseRows (level + 1) (bodyRows style (level + 2) first) ++
        otherRows style (level + 1) others)

/-- The rows of statements one after the other. -/
def bodyRows (style : Style) (level : Nat) : List Statement → List Placed
  | [] => []
  | statement :: rest => rows style level statement ++ bodyRows style level rest

/-- The rows of further cases, whose labels stand at a level. -/
def otherRows (style : Style) (level : Nat) : List (List Statement) → List Placed
  | [] => []
  | body :: rest =>
    caseRows level (bodyRows style (level + 1) body) ++ otherRows style level rest

end

/-- The rows of a function with the given statements. -/
def functionRows (style : Style) (statements : List Statement) : List Placed :=
  ⟨0, .function⟩ :: ⟨0, .brace⟩ :: (bodyRows style 1 statements ++ [⟨0, .close⟩])

/-- The lines of a function with the given statements. -/
def render (style : Style) (statements : List Statement) : List (List Char) :=
  (functionRows style statements).map Placed.raw

/-- The text of a function with the given statements, with a line end behind every line. -/
def text (style : Style) (statements : List Statement) : List Char :=
  ['\n'].intercalate (render style statements ++ [[]])

theorem splitLines_text (style : Style) (statements : List Statement) :
    Source.splitLines (text style statements) = render style statements := by
  apply Source.splitLines_intercalate
  intro raw member
  obtain ⟨placed, -, rfl⟩ := List.mem_map.mp member
  exact placed.oneLine_raw

example : (render .kr [.loop [], .branch [.guarded] []]).map String.ofList =
    ["void test_run(void)", "\x7b", "  while (x) \x7b", "  \x7d", "  if (x) \x7b", "    if (x)",
      "      x = 0;", "  \x7d else \x7b", "  \x7d", "\x7d"] := by
  decide +kernel

/-! ## First rows -/

/-- Rows whose first neither closes a block nor is a label or a brace. -/
def StartsPlain (rows : List Placed) : Prop :=
  ∃ first rest, rows = first :: rest ∧ first.row ≠ .close ∧ first.row ≠ .label ∧ first.row ≠ .brace

theorem startsPlain_rows (style : Style) (level : Nat) (statement : Statement) :
    StartsPlain (rows style level statement) := by
  cases statement <;> cases style <;>
    exact ⟨_, _, rfl, nofun, nofun, nofun⟩

theorem startsPlain_bodyRows (style : Style) (level : Nat) {statements : List Statement}
    (some : bodyRows style level statements ≠ []) : StartsPlain (bodyRows style level statements) := by
  cases statements with
  | nil => exact absurd rfl some
  | cons statement rest =>
    obtain ⟨first, later, written, plain⟩ := startsPlain_rows style level statement
    rw [bodyRows, written]
    exact ⟨first, _, rfl, plain⟩

/-- The first row after a label is of its body, or the break at the end of it. -/
theorem startsPlain_leave (style : Style) (level : Nat) (statements : List Statement) :
    StartsPlain (bodyRows style level statements ++ [⟨level, .leave⟩]) := by
  cases statements with
  | nil => exact ⟨_, [], rfl, nofun, nofun, nofun⟩
  | cons statement rest =>
    obtain ⟨first, later, written, plain⟩ := startsPlain_rows style level statement
    rw [bodyRows, written]
    exact ⟨first, _, rfl, plain⟩

/-! ## Reading case bodies -/

/-- Rows that a reading of a case body passes over, at the given depth of braces or deeper, and the
braces that they leave open. -/
def PassedOver (low net : Int) (rows : List Placed) : Prop :=
  ∀ index depth last rest, low ≤ depth → ∃ later,
    CaseBlock.scanBody index depth last false (rows.map Placed.line ++ rest) =
      CaseBlock.scanBody (index + rows.length) (depth + net) later false rest

namespace PassedOver

variable {low net : Int} {rows : List Placed}

theorem nil : PassedOver low 0 [] := by
  intro index depth last rest _
  exact ⟨last, by rw [Int.add_zero]; rfl⟩

theorem append {other more total : Int} {others : List Placed} (first : PassedOver low net rows)
    (second : PassedOver other more others) (deep : other ≤ low + net) (sum : net + more = total) :
    PassedOver low total (rows ++ others) := by
  intro index depth last rest within
  obtain ⟨middle, passed⟩ := first index depth last (others.map Placed.line ++ rest) within
  obtain ⟨later, passedToo⟩ := second (index + rows.length) (depth + net) middle rest (by omega)
  refine ⟨later, ?_⟩
  rw [List.map_append, List.append_assoc, passed, passedToo, List.length_append, Nat.add_assoc,
    Int.add_assoc, sum]

theorem deeper {other : Int} (passed : PassedOver low net rows) (deep : low ≤ other) :
    PassedOver other net rows :=
  fun index depth last rest within => passed index depth last rest (Int.le_trans deep within)

end PassedOver

/-- The depth of braces at which a reading of a case body passes over a row. -/
def Row.low (row : Row) : Int :=
  if row = label ∨ row = leave ∨ row.closes then 1 else 0

/-- A row that no reading stops at does not end a body. -/
theorem Row.of_low_le_zero {row : Row} (low : row.low ≤ 0) :
    row ≠ label ∧ row ≠ leave ∧ row.closes = false := by
  by_cases ends : row = label ∨ row = leave ∨ row.closes
  · rw [Row.low, if_pos ends] at low
    exact absurd low (by decide)
  · rw [not_or, not_or, Bool.not_eq_true] at ends
    exact ends

theorem Row.low_add_net_nonneg (row : Row) : 0 ≤ row.low + row.net := by
  revert row
  exact Row.forall_of_all (by decide)

theorem passedOver_row (placed : Placed) :
    PassedOver placed.row.low placed.row.net [placed] := by
  intro index depth last rest within
  have reading := placed.row.reading
  have unmarked : CaseBlock.isMarked placed.line = false := by
    rw [placed.written.isMarked_eq, reading.noMark]
  have goesOn : depth = 0 → placed.row ≠ .label ∧ placed.row ≠ .leave ∧
      placed.row.closes = false := by
    rintro rfl
    exact Row.of_low_le_zero within
  have noLabel : ¬ (depth = 0 ∧ (CaseBlock.labelStart.fits placed.line.stripped ∨
      placed.line.stripped.head? = some '}')) := by
    rintro ⟨bottom, ends⟩
    obtain ⟨noLabel, -, noClose⟩ := goesOn bottom
    rw [← reading.closes] at noClose
    rw [placed.stripped_line, reading.labelStart] at ends
    rcases ends with label | close
    · exact noLabel (beq_iff_eq.mp label)
    · exact beq_eq_false_iff_ne.mp noClose close
  have noBreak : ¬ (depth = 0 ∧ CaseBlock.breakStatement.fits placed.line.stripped) := by
    rintro ⟨bottom, ends⟩
    rw [placed.stripped_line, reading.breakStatement] at ends
    exact (goesOn bottom).2.1 (beq_iff_eq.mp ends)
  have inside : ¬ depth + placed.row.net < 0 := by
    have nonneg := placed.row.low_add_net_nonneg
    omega
  refine ⟨some index, ?_⟩
  show CaseBlock.scanBody index depth last false (placed.line :: rest) = _
  rw [CaseBlock.scanBody, if_pos placed.hasCode_line]
  simp only [if_neg noLabel, if_neg noBreak]
  rw [placed.stripped_line, reading.net, if_neg inside, unmarked]
  rfl

/-- A reading of a case body ends with a break at its own depth. -/
theorem scanBody_leave (index level : Nat) (last : Option Nat) (rest : List Line) :
    CaseBlock.scanBody index 0 last false (Placed.line ⟨level, .leave⟩ :: rest) =
      ⟨some index, true, false⟩ := by
  have text : (Placed.line ⟨level, .leave⟩).stripped = Row.leave.text := Placed.stripped_line _
  have goesOn : ¬ ((0 : Int) = 0 ∧
      (CaseBlock.labelStart.fits (Placed.line ⟨level, .leave⟩).stripped ∨
        (Placed.line ⟨level, .leave⟩).stripped.head? = some '}')) := by
    rw [text]
    decide +kernel
  have ends : (0 : Int) = 0 ∧
      CaseBlock.breakStatement.fits (Placed.line ⟨level, .leave⟩).stripped := by
    rw [text]
    decide +kernel
  rw [CaseBlock.scanBody, if_pos (Placed.hasCode_line _)]
  exact (if_neg goesOn).trans (if_pos ends)

/-! ### Statements -/

theorem passedOver_opening (style : Style) (level : Nat) (header : Header) :
    PassedOver 0 1 (opening style level header) := by
  cases style with
  | kr => exact passedOver_row ⟨level, .headBrace header⟩
  | allman =>
    exact (passedOver_row ⟨level, .head header⟩).append (passedOver_row ⟨level, .brace⟩)
      (Int.le_refl 0) rfl

theorem passedOver_turning (style : Style) (level : Nat) :
    PassedOver 1 0 (turning style level) := by
  cases style with
  | kr => exact passedOver_row ⟨level, .closeOtherwise⟩
  | allman =>
    have opened : PassedOver 0 1 [⟨level, .otherwise⟩, ⟨level, .brace⟩] :=
      (passedOver_row ⟨level, .otherwise⟩).append (passedOver_row ⟨level, .brace⟩)
        (Int.le_refl 0) rfl
    exact (passedOver_row ⟨level, .close⟩).append opened (Int.le_refl 0) rfl

section Body

variable {body : List Placed}

theorem passedOver_close (level : Nat) (passed : PassedOver 1 0 body) :
    PassedOver 1 (-1) (body ++ [⟨level, .close⟩]) :=
  passed.append (passedOver_row ⟨level, .close⟩) (Int.le_refl 1) rfl

theorem passedOver_block (style : Style) (level : Nat) (header : Header)
    (passed : PassedOver 1 0 body) : PassedOver 0 0 (block style level header body) :=
  (passedOver_opening style level header).append (passedOver_close level passed) (Int.le_refl 1) rfl

theorem passedOver_case (level : Nat) (passed : PassedOver 1 0 body) :
    PassedOver 1 0 (caseRows level body) := by
  have ended : PassedOver 1 0 (body ++ [⟨level + 1, .leave⟩]) :=
    passed.append (passedOver_row ⟨level + 1, .leave⟩) (Int.le_refl 1) rfl
  exact (passedOver_row ⟨level, .label⟩).append ended (Int.le_refl 1) rfl

end Body

theorem passedOver_bodyRows {style : Style} {statements : List Statement}
    (each : ∀ statement ∈ statements, ∀ level, PassedOver 0 0 (rows style level statement))
    (level : Nat) : PassedOver 0 0 (bodyRows style level statements) := by
  induction statements with
  | nil => exact .nil
  | cons statement rest inductionHypothesis =>
    obtain ⟨first, others⟩ := List.forall_mem_cons.mp each
    exact (first level).append (inductionHypothesis others) (Int.le_refl 0) rfl

theorem passedOver_otherRows {style : Style} {bodies : List (List Statement)}
    (each : ∀ body ∈ bodies, ∀ level, PassedOver 0 0 (bodyRows style level body)) (level : Nat) :
    PassedOver 1 0 (otherRows style level bodies) := by
  induction bodies with
  | nil => exact .nil
  | cons body rest inductionHypothesis =>
    obtain ⟨first, others⟩ := List.forall_mem_cons.mp each
    exact (passedOver_case level ((first (level + 1)).deeper (by decide))).append
      (inductionHypothesis others) (Int.le_refl 1) rfl

/-- A reading of a case body passes over every statement in it. -/
theorem passedOver_rows (style : Style) (statement : Statement) :
    ∀ level, PassedOver 0 0 (rows style level statement) := by
  induction statement using Statement.induction with
  | assign => exact fun level => passedOver_row ⟨level, .assign⟩
  | guarded =>
    intro level
    exact (passedOver_row ⟨level, .head .test⟩).append (passedOver_row ⟨level + 1, .assign⟩)
      (Int.le_refl 0) rfl
  | loop body each =>
    intro level
    exact passedOver_block style level .loop
      ((passedOver_bodyRows each (level + 1)).deeper (by decide))
  | branch yes no eachYes eachNo =>
    intro level
    have last := passedOver_close level ((passedOver_bodyRows eachNo (level + 1)).deeper (by decide))
    have turned := (passedOver_turning style level).append last (Int.le_refl 1) rfl
    have first := passedOver_bodyRows eachYes (level + 1)
    have whole : PassedOver 1 (-1) _ :=
      (first.deeper (show (0 : Int) ≤ 1 by decide)).append turned (Int.le_refl 1) rfl
    exact (passedOver_opening style level .test).append whole (Int.le_refl 1) rfl
  | choice first others eachFirst eachOthers =>
    intro level
    have case := passedOver_case (level + 1)
      ((passedOver_bodyRows eachFirst (level + 2)).deeper (by decide))
    have rest := passedOver_otherRows
      (fun body member => passedOver_bodyRows (eachOthers body member)) (level + 1)
    exact passedOver_block style level .choice (case.append rest (Int.le_refl 1) rfl)

/-! ### Labels -/

/-- The label of a case with the given body, between lines before and after the case. -/
def caseSite (index : Nat) (before : List Line) (level : Nat) (body : List Placed)
    (after : List Line) : Site :=
  ⟨index, before, Placed.line ⟨level, .label⟩,
    List.map Placed.line (body ++ [⟨level + 1, .leave⟩]) ++ after⟩

/-- The break at the end of a case is the first that a reading of its body stops at. -/
theorem body_caseSite {body : List Placed} (passed : PassedOver 0 0 body) (index : Nat)
    (before : List Line) (level : Nat) (after : List Line) :
    CaseBlock.body (caseSite index before level body after) =
      ⟨some (index + 1 + body.length), true, false⟩ := by
  obtain ⟨last, skipped⟩ := passed (index + 1) 0 none
    (Placed.line ⟨level + 1, .leave⟩ :: after) (Int.le_refl 0)
  show CaseBlock.scanBody (index + 1) 0 none false
    (List.map Placed.line (body ++ [⟨level + 1, .leave⟩]) ++ after) = _
  rw [List.map_append, List.append_assoc]
  exact skipped.trans (scanBody_leave _ _ last after)

theorem broken_caseSite {body : List Placed} {level : Nat} (passed : PassedOver 0 0 body)
    (plain : StartsPlain (body ++ [⟨level + 1, .leave⟩])) (index : Nat) (before after : List Line) :
    Row.Broken (caseSite index before level body after) := by
  obtain ⟨first, rest, written, -, noLabel, noBrace⟩ := plain
  refine ⟨by rw [body_caseSite passed], first.row, ?_, noLabel, noBrace⟩
  rw [Site.nextCode?, caseSite, written, Placed.find?_hasCode_map_line, Option.map_some,
    first.stripped_line]

end HouseStyle.Program
