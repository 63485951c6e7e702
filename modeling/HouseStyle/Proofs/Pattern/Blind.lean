import HouseStyle.Proofs.Pattern.Shift

/-!
Contract: patterns that cannot tell some characters from others.

Owns: texts in which every character is replaced by one that a pattern takes for the same, and the
matches in them.
Does not own: which characters a pattern of the checks can tell apart.

Main statement: `findAll_replaced`.
-/

namespace HouseStyle

variable (replace : Char → Char)

/-- The piece with every character replaced. -/
def Excerpt.replaced (excerpt : Excerpt) : Excerpt :=
  ⟨excerpt.start, excerpt.text.map replace⟩

/-- The match with every character replaced. -/
def Match.replaced (found : Match) : Match :=
  ⟨found.whole.replaced replace,
    found.parts.map fun (part, excerpt) => (part, excerpt.replaced replace)⟩

/-- The place in the text with every character replaced. -/
def Cursor.replaced (cursor : Cursor) : Cursor :=
  ⟨cursor.position, cursor.previous.map replace, cursor.rest.map replace, cursor.captures⟩

theorem Cursor.excerpt_replaced (cursor : Cursor) (span : Span) :
    (cursor.replaced replace).excerpt span = (cursor.excerpt span).replaced replace := by
  simp only [excerpt, replaced, Excerpt.replaced, List.map_take, List.map_drop]

theorem Cursor.matched_replaced (start stop : Cursor) :
    (start.replaced replace).matched (stop.replaced replace) =
      (start.matched stop).replaced replace := by
  simp only [matched, Match.replaced, excerpt_replaced, List.map_map]
  rfl

namespace Pattern

/-- Patterns whose tests and looks take every character for the one that replaces it. -/
def Blind : Pattern → Prop
  | empty => True
  | one test => ∀ c, test (replace c) = test c
  | many test => ∀ c, test (replace c) = test c
  | seq first second => first.Blind ∧ second.Blind
  | alt first second => first.Blind ∧ second.Blind
  | star body => body.Blind
  | lazyStar body => body.Blind
  | capture _ body => body.Blind
  | look test => ∀ previous rest, test (previous.map replace) (rest.map replace) = test previous rest

variable {replace}

theorem manyOutcomes_replaced {test : Char → Bool} (blind : ∀ c, test (replace c) = test c)
    (captures : List (Part × Span)) (position : Nat) (previous : Option Char) (rest : List Char) :
    manyOutcomes test captures position (previous.map replace) (rest.map replace) =
      (manyOutcomes test captures position previous rest).map (Cursor.replaced replace) := by
  induction rest generalizing position previous with
  | nil => rfl
  | cons c rest inductionHypothesis =>
    have later := inductionHypothesis (position + 1) (some c)
    rw [Option.map_some] at later
    rw [List.map_cons, manyOutcomes, manyOutcomes, List.map_append, later, blind]
    split <;> rfl

/-- A blind pattern reaches the same places. -/
theorem outcomes_replaced {pattern : Pattern} (blind : pattern.Blind replace) (cursor : Cursor) :
    outcomes pattern (cursor.replaced replace) =
      (outcomes pattern cursor).map (Cursor.replaced replace) := by
  have ahead : ∀ cursor next : Cursor,
      (cursor.replaced replace).position < (next.replaced replace).position ↔
        cursor.position < next.position :=
    fun _ _ => Iff.rfl
  have left : ∀ cursor : Cursor, (cursor.replaced replace).rest.length = cursor.rest.length :=
    fun cursor => List.length_map _
  induction pattern generalizing cursor with
  | empty => rfl
  | one test =>
    obtain ⟨position, previous, rest, captures⟩ := cursor
    cases rest with
    | nil => rfl
    | cons c rest =>
      show (if test (replace c) then [Cursor.advance (Cursor.replaced replace _) (replace c) _]
        else []) = (if test c then [Cursor.advance _ c rest] else []).map (Cursor.replaced replace)
      rw [blind c]
      split <;> rfl
  | many test => exact manyOutcomes_replaced blind _ _ _ _
  | seq first second firstAgrees secondAgrees =>
    simp only [outcomes, firstAgrees blind.1, List.flatMap_map, List.map_flatMap,
      secondAgrees blind.2]
  | alt first second firstAgrees secondAgrees =>
    simp only [outcomes, firstAgrees blind.1, secondAgrees blind.2, List.map_append]
  | star body agrees =>
    rw [outcomes, outcomes, left]
    exact roundOutcomes_carried ahead (agrees blind) _ _
  | lazyStar body agrees =>
    rw [outcomes, outcomes, left]
    exact lazyRoundOutcomes_carried ahead (agrees blind) _ _
  | capture part body agrees =>
    simp only [outcomes, agrees blind, List.map_map]
    rfl
  | look test =>
    rw [outcomes, outcomes]
    simp only [Cursor.replaced, blind cursor.previous cursor.rest]
    split <;> rfl

theorem matchAt?_replaced {pattern : Pattern} (blind : pattern.Blind replace) (cursor : Cursor) :
    matchAt? pattern (cursor.replaced replace) =
      (matchAt? pattern cursor).map (Match.replaced replace) := by
  rw [matchAt?_eq, matchAt?_eq, outcomes_replaced blind, List.head?_map, Option.map_map,
    Option.map_map]
  congr 1
  funext stop
  exact Cursor.matched_replaced replace cursor stop

theorem findAllAt_replaced {pattern : Pattern} (blind : pattern.Blind replace)
    (skip position : Nat) (previous : Option Char) (text : List Char) :
    findAllAt pattern skip position (previous.map replace) (text.map replace) =
      (findAllAt pattern skip position previous text).map (Match.replaced replace) := by
  induction text generalizing skip position previous with
  | nil =>
    cases skip with
    | succ skip => rfl
    | zero =>
      have here : matchAt? pattern ⟨position, previous.map replace, [], []⟩ = _ :=
        matchAt?_replaced blind ⟨position, previous, [], []⟩
      rw [List.map_nil, findAllAt, findAllAt, here]
      cases matchAt? pattern ⟨position, previous, [], []⟩ <;> rfl
  | cons c text inductionHypothesis =>
    have later : ∀ skip, findAllAt pattern skip (position + 1) (some (replace c))
        (text.map replace) = _ :=
      fun skip => inductionHypothesis skip (position + 1) (some c)
    cases skip with
    | succ skip => exact later skip
    | zero =>
      have here : matchAt? pattern
          ⟨position, previous.map replace, replace c :: text.map replace, []⟩ = _ :=
        matchAt?_replaced blind ⟨position, previous, c :: text, []⟩
      rw [List.map_cons, findAllAt, findAllAt, here]
      cases matchAt? pattern ⟨position, previous, c :: text, []⟩ with
      | none => exact later 0
      | some found =>
        have length : (found.replaced replace).whole.length = found.whole.length :=
          List.length_map _
        simp only [Option.map_some, length, List.map_cons, later]

/-- A blind pattern has the same matches in a text with every character replaced. -/
theorem findAll_replaced {pattern : Pattern} (blind : pattern.Blind replace) (text : List Char) :
    findAll pattern (text.map replace) = (findAll pattern text).map (Match.replaced replace) :=
  findAllAt_replaced blind 0 0 none text

end Pattern

end HouseStyle
