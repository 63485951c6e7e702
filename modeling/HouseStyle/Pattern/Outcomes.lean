import HouseStyle.Pattern.Run

/-!
Contract: all ways in which a pattern matches at a place, in order of preference.

Owns: the list of outcomes and its agreement with the matcher.
Does not own: search, which asks only for the first outcome.

Main statement: the matcher answers with the first outcome that its continuation accepts
(`run_eq_findSome?`), so a fact about every outcome is a fact about every match.
-/

namespace HouseStyle.Pattern

variable {β : Type}

/-- The places along a run of characters that pass the test, the farthest first. -/
def manyOutcomes (test : Char → Bool) (captures : List (Part × Span)) :
    Nat → Option Char → List Char → List Cursor
  | position, previous, [] => [⟨position, previous, [], captures⟩]
  | position, previous, c :: rest =>
    (if test c then manyOutcomes test captures (position + 1) (some c) rest else []) ++
      [⟨position, previous, c :: rest, captures⟩]

/-- The places after at most `fuel` rounds of a body, most rounds first. -/
def roundOutcomes (body : Cursor → List Cursor) : Nat → Cursor → List Cursor
  | 0, cursor => [cursor]
  | fuel + 1, cursor =>
    ((body cursor).filter fun next => cursor.position < next.position).flatMap
      (roundOutcomes body fuel) ++ [cursor]

/-- The places after at most `fuel` rounds of a body, fewest rounds first. -/
def lazyRoundOutcomes (body : Cursor → List Cursor) : Nat → Cursor → List Cursor
  | 0, cursor => [cursor]
  | fuel + 1, cursor =>
    cursor :: ((body cursor).filter fun next => cursor.position < next.position).flatMap
      (lazyRoundOutcomes body fuel)

/-- The places that the pattern reaches from here, in order of preference. -/
def outcomes : Pattern → Cursor → List Cursor
  | empty, cursor => [cursor]
  | one test, cursor =>
    match cursor.rest with
    | [] => []
    | c :: rest => if test c then [cursor.advance c rest] else []
  | many test, cursor =>
    manyOutcomes test cursor.captures cursor.position cursor.previous cursor.rest
  | seq first second, cursor => (outcomes first cursor).flatMap (outcomes second)
  | alt first second, cursor => outcomes first cursor ++ outcomes second cursor
  | star body, cursor => roundOutcomes (outcomes body) cursor.rest.length cursor
  | lazyStar body, cursor => lazyRoundOutcomes (outcomes body) cursor.rest.length cursor
  | capture part body, cursor => (outcomes body cursor).map (cursor.record part)
  | look test, cursor => if test cursor.previous cursor.rest then [cursor] else []

private theorem orElse_eq_or (first second : Option β) :
    (match first with
      | some answer => some answer
      | none => second) = first.or second := by
  cases first <;> rfl

private theorem findSome?_flatMap (step : Cursor → List Cursor) (accept : Cursor → Option β)
    (places : List Cursor) :
    (places.flatMap step).findSome? accept =
      places.findSome? fun place => (step place).findSome? accept := by
  induction places with
  | nil => rfl
  | cons place places ih =>
    simp only [List.flatMap_cons, List.findSome?_append, ih, List.findSome?_cons]
    cases (step place).findSome? accept <;> rfl

private theorem findSome?_filter_flatMap (keep : Cursor → Bool) (step : Cursor → List Cursor)
    (accept : Cursor → Option β) (places : List Cursor) :
    ((places.filter keep).flatMap step).findSome? accept =
      places.findSome? fun place => if keep place then (step place).findSome? accept else none := by
  induction places with
  | nil => rfl
  | cons place places ih =>
    by_cases kept : keep place
    · simp only [List.filter_cons_of_pos kept, List.flatMap_cons, List.findSome?_append, ih,
        List.findSome?_cons, kept, if_true]
      cases (step place).findSome? accept <;> rfl
    · simp only [List.filter_cons_of_neg kept, ih, List.findSome?_cons, kept]
      rfl

private theorem runMany_eq_findSome? (test : Char → Bool) (captures : List (Part × Span))
    (accept : Cursor → Option β) (position : Nat) (previous : Option Char) (rest : List Char) :
    runMany test captures accept position previous rest =
      (manyOutcomes test captures position previous rest).findSome? accept := by
  induction rest generalizing position previous with
  | nil => simp [runMany, manyOutcomes]
  | cons c rest ih =>
    rw [runMany, manyOutcomes, List.findSome?_append, List.findSome?_singleton]
    by_cases passed : test c
    · simp only [passed, if_true, ih]
      exact orElse_eq_or _ _
    · simp [passed]

private theorem rounds_eq_findSome? {body : Matcher β} {reach : Cursor → List Cursor}
    (agree : ∀ cursor accept, body cursor accept = (reach cursor).findSome? accept) (fuel : Nat)
    (cursor : Cursor) (accept : Cursor → Option β) :
    rounds body fuel cursor accept = (roundOutcomes reach fuel cursor).findSome? accept := by
  induction fuel generalizing cursor with
  | zero => simp [rounds, roundOutcomes]
  | succ fuel ih =>
    rw [rounds, roundOutcomes, List.findSome?_append, findSome?_filter_flatMap, agree]
    simp only [ih, decide_eq_true_eq, List.findSome?_singleton]
    exact orElse_eq_or _ _

private theorem lazyRounds_eq_findSome? {body : Matcher β} {reach : Cursor → List Cursor}
    (agree : ∀ cursor accept, body cursor accept = (reach cursor).findSome? accept) (fuel : Nat)
    (cursor : Cursor) (accept : Cursor → Option β) :
    lazyRounds body fuel cursor accept =
      (lazyRoundOutcomes reach fuel cursor).findSome? accept := by
  induction fuel generalizing cursor with
  | zero => simp [lazyRounds, lazyRoundOutcomes]
  | succ fuel ih =>
    rw [lazyRounds, lazyRoundOutcomes, List.findSome?_cons, findSome?_filter_flatMap, agree]
    simp only [ih, decide_eq_true_eq]
    cases accept cursor <;> rfl

/-- The matcher answers with the first outcome that the continuation accepts. -/
theorem run_eq_findSome? (pattern : Pattern) (cursor : Cursor) (accept : Cursor → Option β) :
    run pattern cursor accept = (outcomes pattern cursor).findSome? accept := by
  induction pattern generalizing cursor accept with
  | empty => simp [run, outcomes]
  | one test =>
    rw [run, outcomes]
    cases cursor.rest with
    | nil => rfl
    | cons c rest => by_cases passed : test c <;> simp [passed]
  | many test =>
    rw [run, outcomes]
    exact runMany_eq_findSome? test _ accept _ _ _
  | seq first second firstAgrees secondAgrees =>
    rw [run, outcomes, firstAgrees, findSome?_flatMap]
    simp only [secondAgrees]
  | alt first second firstAgrees secondAgrees =>
    rw [run, outcomes, firstAgrees, secondAgrees, List.findSome?_append]
    exact orElse_eq_or _ _
  | star body agrees =>
    rw [run, outcomes]
    exact rounds_eq_findSome? agrees _ _ _
  | lazyStar body agrees =>
    rw [run, outcomes]
    exact lazyRounds_eq_findSome? agrees _ _ _
  | capture part body agrees =>
    rw [run, outcomes, agrees, List.findSome?_map]
    rfl
  | look test =>
    rw [run, outcomes]
    by_cases passed : test cursor.previous cursor.rest <;> simp [passed]

end HouseStyle.Pattern
