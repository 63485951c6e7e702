import HouseStyle.Proofs.Scan.Nesting

/-!
Contract: the look-ahead for the end of a body, cut in two at any line.

Owns: the depth at which a body is still read behind some lines, and the end of a body as the end
found in the lines behind, or else in those before.
Does not own: which bodies are open in a scan.

The reading of a body carries a depth and the last line read. The depth alone decides whether it
goes on, so that a reading which gets through some lines goes on behind them as a reading of its
own. A deeper reading gets through all lines that a shallower one gets through.

Main statements: `lastLine?_append` and `depthBehind?_deeper`.
-/

namespace HouseStyle.CaseBlock

/-- Whether the reading of a body at a brace depth stops before or with a line of code. -/
def stopsAt (depth : Int) (line : Line) : Bool :=
  depth = 0 ∧ (labelStart.fits line.stripped ∨ line.stripped.head? = some '}' ∨
      breakStatement.fits line.stripped) ∨
    depth + Text.excess '{' '}' line.code < 0

/-- The depth at which a body is still read behind lines, if the reading does not stop on them. -/
def depthBehind? : Int → List Line → Option Int
  | depth, [] => some depth
  | depth, line :: rest =>
    if line.hasCode then
      if stopsAt depth line then none
      else depthBehind? (depth + Text.excess '{' '}' line.code) rest
    else depthBehind? depth rest

/-- The last line of a body that is read from the line with the given index on. -/
def lastLine? (index : Nat) (depth : Int) (lines : List Line) : Option Nat :=
  (scanBody index depth none false lines).last

variable {depth deeper : Int} {index endLine : Nat} {line : Line} {first rest lines : List Line}

/-! ## One line -/

/-- The last line is the one read before only where no line is read now. -/
theorem last_scanBody (index : Nat) (depth : Int) (last : Option Nat) (marked : Bool)
    (lines : List Line) :
    (scanBody index depth last marked lines).last = (lastLine? index depth lines).or last := by
  unfold lastLine?
  induction lines generalizing index depth last marked with
  | nil => rfl
  | cons line rest inductionHypothesis =>
    simp only [scanBody]
    by_cases coded : line.hasCode
    · simp only [coded, if_true]
      split
      · rfl
      · split
        · rfl
        · split
          · rfl
          · rw [inductionHypothesis _ _ (some index) (marked || isMarked line),
              inductionHypothesis _ _ (some index) (false || isMarked line), Option.or_assoc]
            rfl
    · simp only [coded]
      rw [if_neg Bool.false_ne_true, if_neg Bool.false_ne_true,
        inductionHypothesis _ _ last (marked || isMarked line),
        inductionHypothesis _ _ none (false || isMarked line), Option.or_none]

/-- A line without code is passed over. -/
theorem lastLine?_cons_codeless (codeless : line.hasCode = false) :
    lastLine? index depth (line :: rest) = lastLine? (index + 1) depth rest := by
  rw [lastLine?, scanBody, codeless, if_neg Bool.false_ne_true, last_scanBody, Option.or_none]

/-- A line of code that does not stop the reading is its last one unless there is a later one. -/
theorem lastLine?_cons_further (coded : line.hasCode) (further : stopsAt depth line = false) :
    lastLine? index depth (line :: rest) =
      (lastLine? (index + 1) (depth + Text.excess '{' '}' line.code) rest).or (some index) := by
  have goes : ¬ (depth = 0 ∧ (labelStart.fits line.stripped ∨ line.stripped.head? = some '}')) ∧
      ¬ (depth = 0 ∧ breakStatement.fits line.stripped) ∧
        ¬ depth + Text.excess '{' '}' line.code < 0 := by
    simp only [stopsAt, decide_eq_false_iff_not] at further
    tauto
  rw [lastLine?, scanBody, if_pos coded]
  dsimp only
  rw [Line.excess_stripped, if_neg goes.1, if_neg goes.2.1, if_neg goes.2.2, last_scanBody]

/-- Where the reading stops, nothing behind the line matters. -/
theorem lastLine?_cons_stopsAt (coded : line.hasCode) (stops : stopsAt depth line)
    (rest others : List Line) :
    lastLine? index depth (line :: rest) = lastLine? index depth (line :: others) := by
  simp only [stopsAt, decide_eq_true_eq] at stops
  simp only [lastLine?, scanBody, coded, if_true, Line.excess_stripped]
  split
  · rfl
  · split
    · rfl
    · rw [if_pos (by tauto), if_pos (by tauto)]

/-- The end of a body is a line of code among those read. -/
theorem exists_of_lastLine? (ends : lastLine? index depth lines = some endLine) :
    ∃ line, index ≤ endLine ∧ lines[endLine - index]? = some line ∧ line.hasCode := by
  rcases scanBody_last ends with none | found
  · cases none
  · exact found

/-! ## Several lines -/

/-- The end of a body is the one found behind some lines, or else the one found on them. -/
theorem lastLine?_append (index : Nat) (depth : Int) (first rest : List Line) :
    lastLine? index depth (first ++ rest) =
      match depthBehind? depth first with
      | none => lastLine? index depth first
      | some deeper =>
        (lastLine? (index + first.length) deeper rest).or (lastLine? index depth first) := by
  induction first generalizing index depth with
  | nil => exact (Option.or_none).symm
  | cons line first inductionHypothesis =>
    rw [List.cons_append, List.length_cons, depthBehind?]
    by_cases coded : line.hasCode
    · rw [if_pos coded]
      by_cases stops : stopsAt depth line
      · rw [if_pos stops]
        exact lastLine?_cons_stopsAt coded stops (first ++ rest) first
      · have further : stopsAt depth line = false := by simpa using stops
        rw [if_neg stops, lastLine?_cons_further coded further, lastLine?_cons_further coded further,
          inductionHypothesis]
        cases depthBehind? (depth + Text.excess '{' '}' line.code) first with
        | none => rfl
        | some deeper =>
          simp only [Option.or_assoc, Nat.add_assoc, Nat.add_comm 1]
    · have codeless : line.hasCode = false := by simpa using coded
      rw [if_neg coded, lastLine?_cons_codeless codeless, lastLine?_cons_codeless codeless,
        inductionHypothesis]
      cases depthBehind? depth first with
      | none => rfl
      | some deeper => simp only [Nat.add_assoc, Nat.add_comm 1]

theorem depthBehind?_append (depth : Int) (first rest : List Line) :
    depthBehind? depth (first ++ rest) =
      (depthBehind? depth first).bind fun deeper => depthBehind? deeper rest := by
  induction first generalizing depth with
  | nil => rfl
  | cons line first inductionHypothesis =>
    rw [List.cons_append, depthBehind?, depthBehind?]
    split
    · split
      · rfl
      · exact inductionHypothesis _
    · exact inductionHypothesis _

theorem depthBehind?_of_codeless (codeless : ∀ line ∈ lines, line.hasCode = false) (depth : Int) :
    depthBehind? depth lines = some depth := by
  induction lines with
  | nil => rfl
  | cons line rest inductionHypothesis =>
    obtain ⟨here, later⟩ := List.forall_mem_cons.mp codeless
    rw [depthBehind?, here, if_neg Bool.false_ne_true, inductionHypothesis later]

/-- A body is never read at a negative depth. -/
theorem depthBehind?_nonneg (inside : 0 ≤ depth) (behind : depthBehind? depth lines = some deeper) :
    0 ≤ deeper := by
  induction lines generalizing depth with
  | nil =>
    cases behind
    exact inside
  | cons line rest inductionHypothesis =>
    rw [depthBehind?] at behind
    split at behind
    · split at behind
      · cases behind
      next further =>
        refine inductionHypothesis ?_ behind
        simp only [stopsAt, decide_eq_true_eq] at further
        omega
    · exact inductionHypothesis inside behind

/-- A deeper reading stops at no line at which a shallower one does not. -/
theorem stopsAt_deeper (inside : 0 ≤ depth) (above : depth ≤ deeper)
    (further : stopsAt depth line = false) : stopsAt deeper line = false := by
  simp only [stopsAt, decide_eq_false_iff_not] at further ⊢
  rintro (⟨zero, stops⟩ | negative)
  · exact further (.inl ⟨by omega, stops⟩)
  · exact further (.inr (by omega))

/-- A deeper reading gets through the lines that a shallower one gets through. -/
theorem depthBehind?_deeper {inner outer : Int} (inside : 0 ≤ inner) (above : inner ≤ outer)
    (behind : depthBehind? inner lines = some deeper) :
    depthBehind? outer lines = some (deeper + (outer - inner)) := by
  induction lines generalizing inner outer with
  | nil =>
    cases behind
    rw [depthBehind?]
    congr 1
    omega
  | cons line rest inductionHypothesis =>
    rw [depthBehind?] at behind ⊢
    split at behind
    next coded =>
      split at behind
      · cases behind
      next further =>
        have goes : stopsAt inner line = false := by simpa using further
        have below : ¬ inner + Text.excess '{' '}' line.code < 0 := by
          simp only [stopsAt, decide_eq_true_eq] at further
          omega
        rw [if_pos coded, stopsAt_deeper inside above goes, if_neg Bool.false_ne_true,
          inductionHypothesis (by omega) (by omega) behind]
        congr 1
        omega
    next codeless =>
      rw [if_neg codeless]
      exact inductionHypothesis inside above behind

/-- A reading that gets through lines has the last line of code among them as its end. -/
theorem lastLine?_of_depthBehind? {gap : List Line} (coded : line.hasCode)
    (codeless : ∀ line ∈ gap, line.hasCode = false)
    (behind : (depthBehind? depth (first ++ line :: gap)).isSome) :
    lastLine? index depth (first ++ line :: gap) = some (index + first.length) := by
  rw [depthBehind?_append] at behind
  obtain ⟨final, behind⟩ := Option.isSome_iff_exists.mp behind
  obtain ⟨inner, before, behind⟩ := Option.bind_eq_some_iff.mp behind
  have further : stopsAt inner line = false := by
    rw [depthBehind?, if_pos coded] at behind
    split at behind
    · cases behind
    next goes => simpa using goes
  have none : ∀ index depth, lastLine? index depth gap = none := by
    intro index depth
    by_contra found
    obtain ⟨endLine, ends⟩ := Option.ne_none_iff_exists'.mp found
    obtain ⟨last, -, there, inked⟩ := exists_of_lastLine? ends
    rw [codeless last (List.mem_of_getElem? there)] at inked
    cases inked
  rw [lastLine?_append, before]
  dsimp only
  rw [lastLine?_cons_further coded further, none]
  rfl

end HouseStyle.CaseBlock
