import HouseStyle.File.ConstPointer
import HouseStyle.Proofs.Pattern.Foremost
import HouseStyle.Proofs.Pattern.Reading
import HouseStyle.Proofs.Text

/-!
Contract: pointers that are modified in a body that grows.

Owns: patterns on texts that a line feed joins, all calls of a text and the arguments behind them,
and the agreement of a body with both of its halves.
Does not own: which parameters are candidates, and where suggestions point.

A write is found by a pattern, and none of these patterns can tell a line feed from an end of the
text. A call is found by a pattern and a walk to the parenthesis that closes it. A call across the
line feed takes no character from another one, for no call starts inside another; and a walk that
ends in the first half ends there in the whole. Without a closing parenthesis it does not end, and
the last character of the body is left out.

Main statement: `isModified_append`.
-/

namespace HouseStyle

namespace Pattern

/-! ## Texts joined by a line feed -/

/-- Neighbours that are the same, or a line feed in place of an end of the text. -/
def Ended (neighbour other : Option Char) : Prop :=
  neighbour = other ∨ neighbour = none ∧ other = some '\n'

theorem Ended.refl (neighbour : Option Char) : Ended neighbour neighbour :=
  .inl rfl

theorem ended_or (neighbour : Option Char) : Ended neighbour (neighbour.or (some '\n')) := by
  cases neighbour with
  | none => exact .inr ⟨rfl, rfl⟩
  | some c => exact .inl rfl

/-- A test that a line feed does not pass cannot tell such neighbours apart. -/
theorem any_of_ended {test : Char → Bool} (fails : test '\n' = false)
    {neighbour other : Option Char} (ended : Ended neighbour other) :
    neighbour.any test = other.any test := by
  rcases ended with rfl | ⟨rfl, rfl⟩
  · rfl
  · exact fails.symm

theorem ended_notBehind {test : Char → Bool} (fails : test '\n' = false) :
    (notBehind test).Indifferent Ended :=
  fun _ _ _ _ before _ => congrArg not (any_of_ended fails before)

theorem ended_notAhead {test : Char → Bool} (fails : test '\n' = false) :
    (notAhead test).Indifferent Ended :=
  fun _ _ _ _ _ behind => congrArg not (any_of_ended fails behind)

theorem ended_boundary : boundary.Indifferent Ended := by
  intro _ _ _ _ before behind
  have apart : Text.isWord '\n' = false := by decide
  simp only [any_of_ended apart before, any_of_ended apart behind]

theorem indifferent_append {alike : Option Char → Option Char → Prop} {first second : Pattern} :
    (first ++ second).Indifferent alike ↔ first.Indifferent alike ∧ second.Indifferent alike :=
  Iff.rfl

/-- What occurs in one of two texts occurs in both joined by a line feed. -/
theorem occurs_append_lineFeed {pattern : Pattern} (indifferent : pattern.Indifferent Ended)
    {first second : List Char} (occurs : pattern.occurs first ∨ pattern.occurs second) :
    pattern.occurs (first ++ '\n' :: second) := by
  rw [occurs_iff_reads]
  rcases occurs with early | late
  · obtain ⟨before, piece, rest, rfl, reads⟩ := occurs_iff_reads.mp early
    refine ⟨before, piece, rest ++ '\n' :: second, by simp, ?_⟩
    refine reads.carried Ended.refl indifferent (.refl _) ?_
    rw [List.head?_append]
    exact ended_or _
  · obtain ⟨before, piece, rest, rfl, reads⟩ := occurs_iff_reads.mp late
    refine ⟨first ++ '\n' :: before, piece, rest, by simp, ?_⟩
    refine reads.carried Ended.refl indifferent ?_ (.refl _)
    rw [List.getLast?_append, List.getLast?_cons]
    cases before.getLast? with
    | none => exact .inr ⟨rfl, rfl⟩
    | some c => exact .inl rfl

end Pattern

namespace ConstPointer

open Pattern

theorem ended_assignment : assignment.Indifferent Ended :=
  ⟨indifferent_of_lookless _ rfl, ended_notAhead rfl⟩

theorem lookless_characters (text : List Char) : (characters text).lookless := by
  induction text with
  | nil => rfl
  | cons c text inductionHypothesis =>
    cases text with
    | nil => rfl
    | cons d text => exact inductionHypothesis

/-- No write looks at the seam of two texts. -/
theorem ended_writes (name : List Char) : ∀ pattern ∈ writes name, pattern.Indifferent Ended := by
  have plain : (characters name).Indifferent Ended :=
    indifferent_of_lookless _ (lookless_characters name)
  simp only [writes, List.forall_mem_cons, indifferent_append, plain, ended_boundary,
    ended_assignment, true_and, and_true]
  and_intros
  all_goals
    first
    | exact ended_notBehind (by decide)
    | exact indifferent_of_lookless _ rfl
    | exact List.forall_mem_nil _

/-! ## Calls -/

/-- A call as it is written: a name with no character of a word before it, and blanks behind it. -/
structure Called (previous : Option Char) (callee gap : List Char) : Prop where
  alone : previous.any Text.isWord = false
  starts : callee.head?.any Lexicon.isIdentStart
  goesOn : ∀ c ∈ callee, Lexicon.isIdentRest c
  blanks : ∀ c ∈ gap, Text.isBlank c

/-- The match of a call at a position. -/
def callMatch (position : Nat) (callee gap : List Char) : Match :=
  ⟨⟨position, callee ++ (gap ++ ['('])⟩, [(.name, ⟨position, callee⟩)]⟩

variable {previous : Option Char} {callee gap piece rest text : List Char} {found : Match}

/-- What the pattern of calls reads is a call. -/
theorem exists_called_of_reads (reads : call.Reads previous piece rest) :
    ∃ callee gap, piece = callee ++ (gap ++ ['(']) ∧ Called previous callee gap := by
  obtain ⟨_, _, rfl, ⟨before, gap, rfl, ⟨_, callee, rfl, ⟨rfl, edge⟩, named⟩, blanks⟩, paren⟩ :=
    reads
  obtain ⟨_, others, rfl, ⟨c, starts, rfl⟩, goesOn⟩ := named
  obtain rfl := reads_char.mp paren
  have rests := isIdentRest_of_isIdentStart starts
  have word := isWord_of_isIdentRest rests
  refine ⟨c :: others, gap, by simp, ?_, starts, ?_, blanks⟩
  · simpa [word] using edge
  · exact List.forall_mem_cons.mpr ⟨rests, goesOn⟩

theorem Called.word (called : Called previous callee gap) :
    ∃ c others, callee = c :: others ∧ Lexicon.isIdentStart c := by
  have starts := called.starts
  cases callee with
  | nil => cases starts
  | cons c others => exact ⟨c, others, rfl, starts⟩

/-- Where a call is written, the pattern of calls finds it. -/
theorem Called.matchAt? (called : Called previous callee gap) (position : Nat) (rest : List Char) :
    Pattern.matchAt? call ⟨position, previous, callee ++ (gap ++ '(' :: rest), []⟩ =
      some (callMatch position callee gap) := by
  obtain ⟨c, others, rfl, starts⟩ := called.word
  obtain ⟨rests, goesOn⟩ := List.forall_mem_cons.mp called.goesOn
  have nameEnds : (gap ++ '(' :: rest).head?.any Lexicon.isIdentRest = false := by
    cases gap with
    | nil => rfl
    | cons d gap =>
      rw [List.cons_append, List.head?_cons, Option.any_some, ← Bool.not_eq_true]
      intro further
      exact absurd (called.blanks d List.mem_cons_self)
        (by simp [isBlank_eq_false_of_isIdentRest further])
  let start : Cursor := ⟨position, previous, c :: others ++ (gap ++ '(' :: rest), []⟩
  have edge : Pattern.boundary.Foremost start start := by
    apply foremost_look
    simp [start, called.alone, isWord_of_isIdentRest rests]
  have name : Lexicon.ident.Foremost start (start.after (c :: others) (gap ++ '(' :: rest)) := by
    rw [Cursor.after_cons]
    exact (foremost_one rfl starts).append (foremost_many rfl goesOn nameEnds)
  have reached := ((edge.append (name.capture .name)).append
    (foremost_many rfl called.blanks rfl)).append (foremost_char rfl)
  rw [matchAt?_eq]
  show (outcomes call start).head?.map _ = _
  rw [show (outcomes call start).head? = _ from reached]
  have split : c :: others ++ (gap ++ '(' :: rest) = c :: others ++ (gap ++ ['(']) ++ rest := by
    simp
  have length : position + (c :: others).length + gap.length + ['('].length - position =
      (c :: others ++ (gap ++ ['('])).length := by
    simp only [List.length_append]
    omega
  simp only [Option.map_some, Cursor.matched, Cursor.excerpt, Cursor.after, Cursor.record, start,
    Nat.sub_self, List.drop_zero, length, List.map_cons, List.map_nil, Nat.add_sub_cancel_left]
  rw [List.take_left, split, List.take_left]
  rfl

/-- No call starts inside another one. -/
theorem Called.le_length {before before' callee' gap' behind rest' : List Char}
    (called : Called before.getLast? callee gap) (called' : Called before'.getLast? callee' gap')
    (same : before ++ (callee ++ behind) = before' ++ (callee' ++ (gap' ++ '(' :: rest')))
    (inside : before.length < before'.length + (callee' ++ (gap' ++ ['('])).length) :
    before.length ≤ before'.length := by
  by_contra further
  obtain ⟨c, others, rfl, starts⟩ := called.word
  obtain ⟨between, rfl⟩ : before' <+: before :=
    List.prefix_of_prefix_length_le ⟨_, same.symm⟩ (List.prefix_append _ _) (by omega)
  rw [List.append_assoc, List.append_cancel_left_eq] at same
  rw [List.length_append] at further
  simp only [List.length_append, List.length_singleton] at inside
  -- the character before the inner name is one of the outer name or stands behind it
  obtain ⟨front, d, rfl⟩ := List.eq_nil_or_concat between |>.resolve_left fun none => by
    rw [none] at further
    simp at further
  have alone : Text.isWord d = false := by simpa using called.alone
  rcases List.append_eq_append_iff.mp same with ⟨more, rfl, -⟩ | ⟨more, split, left⟩
  · have word := isWord_of_isIdentRest (called'.goesOn d (by simp))
    rw [word] at alone
    cases alone
  · have lengths := congrArg List.length split
    simp only [List.length_append] at lengths inside
    have left' : more ++ c :: (others ++ behind) = (gap' ++ ['(']) ++ rest' := by
      rw [List.append_assoc]
      exact left.symm
    rcases lt_or_exists_of_append_eq left' with ⟨-, among⟩ | ⟨beyond, rfl, -⟩
    · rcases List.mem_append.mp among with blank | paren
      · rw [isIdentStart_eq_false_of_isBlank (called'.blanks c blank)] at starts
        cases starts
      · rw [List.mem_singleton.mp paren] at starts
        cases starts
    · simp only [List.length_append, List.length_singleton] at lengths
      omega

/-- All calls of a text are found. -/
theorem mem_findAll_call : found ∈ call.findAll text ↔ ∃ before callee gap rest,
    text = before ++ (callee ++ (gap ++ '(' :: rest)) ∧ Called before.getLast? callee gap ∧
      found = callMatch before.length callee gap := by
  have written {found : Match} (member : found ∈ call.findAll text) :
      ∃ before callee gap rest, text = before ++ (callee ++ (gap ++ '(' :: rest)) ∧
        Called before.getLast? callee gap ∧ found = callMatch before.length callee gap := by
    obtain ⟨before, _, rfl, here⟩ := exists_matchAt?_of_mem_findAll member
    obtain ⟨piece, rest, rfl, -, reads⟩ := exists_reads_of_matchAt? here
    obtain ⟨callee, gap, rfl, called⟩ := exists_called_of_reads reads
    have same : callee ++ (gap ++ ['(']) ++ rest = callee ++ (gap ++ '(' :: rest) := by simp
    rw [same, called.matchAt?] at here
    exact ⟨before, callee, gap, rest, by rw [same], called, (Option.some.inj here).symm⟩
  constructor
  · exact written
  · rintro ⟨before, callee, gap, rest, rfl, called, rfl⟩
    have here := called.matchAt? before.length rest
    obtain ⟨piece, _, split, whole, reads⟩ := exists_reads_of_matchAt? here
    obtain ⟨found, member, early, late⟩ := exists_covering_of_reads (by decide) reads
    rw [← split] at member
    obtain ⟨before', callee', gap', rest', same, called', rfl⟩ := written member
    have first : before.length = before'.length :=
      Nat.le_antisymm (called.le_length called' same late) early
    obtain ⟨rfl, left⟩ := List.append_inj same first
    rw [left, called'.matchAt?] at here
    rwa [← Option.some.inj here]

variable {name first second : List Char}

/-- A name is passed on if it is an argument of some call of the text. -/
theorem isPassed_iff : isPassed name text ↔ ∃ before callee gap rest,
    text = before ++ (callee ++ (gap ++ '(' :: rest)) ∧ Called before.getLast? callee gap ∧
      Lexicon.isKeyword callee = false ∧ (callArguments rest 0).any (argument name).fitsWhole := by
  have behind (before callee gap rest : List Char) :
      callArguments (before ++ (callee ++ (gap ++ '(' :: rest)))
        (callMatch before.length callee gap).stop = callArguments rest 0 := by
    have split : before ++ (callee ++ (gap ++ '(' :: rest)) =
        (before ++ (callee ++ (gap ++ ['(']))) ++ rest := by simp
    have stop : (callMatch before.length callee gap).stop =
        (before ++ (callee ++ (gap ++ ['(']))).length := List.length_append.symm
    rw [callArguments, callArguments, split, stop, List.drop_left, List.drop_zero]
  rw [isPassed, List.any_eq_true]
  simp only [mem_findAll_call]
  constructor
  · rintro ⟨_, ⟨before, callee, gap, rest, rfl, called, rfl⟩, passed⟩
    have other : (!Lexicon.isKeyword callee && (callArguments _ _).any _) = true := passed
    rw [behind, Bool.and_eq_true, Bool.not_eq_true'] at other
    exact ⟨before, callee, gap, rest, rfl, called, other⟩
  · rintro ⟨before, callee, gap, rest, rfl, called, other, passed⟩
    refine ⟨_, ⟨before, callee, gap, rest, rfl, called, rfl⟩, ?_⟩
    show (!Lexicon.isKeyword callee && (callArguments _ _).any _) = true
    rw [behind, other, passed]
    rfl

/-! ## Parentheses that are closed -/

/-- Every opening parenthesis is closed by a later one: those between them balance. -/
def Closed (text : List Char) : Prop :=
  ∀ position < text.length, text[position]? = some '(' →
    ∃ length < text.length, text[position + 1 + length]? = some ')' ∧
      Text.excess '(' ')' ((text.drop (position + 1)).take length) = 0

instance (text : List Char) : Decidable (Closed text) :=
  inferInstanceAs (Decidable (∀ position < text.length, _))

theorem Closed.exists_split {before rest : List Char} (closed : Closed (before ++ '(' :: rest)) :
    ∃ inside behind, rest = inside ++ ')' :: behind ∧ Text.excess '(' ')' inside = 0 := by
  obtain ⟨length, -, closer, balanced⟩ := closed before.length (by simp) (by simp)
  have left : (before ++ '(' :: rest).drop (before.length + 1) = rest := by
    rw [← List.drop_drop, List.drop_left, List.drop_one, List.tail_cons]
  rw [← List.getElem?_drop, left] at closer
  rw [left] at balanced
  obtain ⟨within, closer⟩ := List.getElem?_eq_some_iff.mp closer
  refine ⟨rest.take length, rest.drop (length + 1), ?_, balanced⟩
  rw [← closer, ← List.drop_eq_getElem_cons within, List.take_append_drop]

/-- A call ends at the latest with a parenthesis before which its own are balanced. -/
theorem exists_callLength (inside : List Char) (depth : Nat)
    (balanced : (depth : Int) + Text.excess '(' ')' inside = 0) :
    ∃ length ≤ inside.length + 1, ∀ behind,
      callLength (depth + 1) (inside ++ ')' :: behind) = length := by
  induction inside generalizing depth with
  | nil =>
    obtain rfl : depth = 0 := by simpa [Text.excess] using balanced
    exact ⟨1, Nat.le_refl 1, fun behind => by simp [callLength]⟩
  | cons c inside inductionHypothesis =>
    have goOn (next : Nat) (left : (next : Int) + Text.excess '(' ')' inside = 0)
        (step : (if c = '(' then depth + 2 else if c = ')' then depth else depth + 1) = next + 1) :
        ∃ length ≤ (c :: inside).length + 1, ∀ behind,
          callLength (depth + 1) (c :: inside ++ ')' :: behind) = length := by
      obtain ⟨length, within, same⟩ := inductionHypothesis next left
      refine ⟨1 + length, by rw [List.length_cons]; omega, fun behind => ?_⟩
      rw [List.cons_append, callLength, step, same]
    rw [← List.singleton_append, Text.excess_append] at balanced
    by_cases opens : c = '('
    · subst opens
      have one : Text.excess '(' ')' ['('] = 1 := by decide
      exact goOn (depth + 1) (by omega) rfl
    by_cases closes : c = ')'
    · subst closes
      have one : Text.excess '(' ')' [')'] = -1 := by decide
      cases depth with
      | zero => exact ⟨1, by simp, fun behind => by simp [callLength]⟩
      | succ depth => exact goOn depth (by omega) rfl
    · have none : Text.excess '(' ')' [c] = 0 :=
        Text.excess_of_not_mem (by simpa using Ne.symm opens) (by simpa using Ne.symm closes)
      exact goOn depth (by omega) (by rw [if_neg opens, if_neg closes])

/-- The arguments of a call that is closed do not depend on what stands behind it. -/
theorem callArguments_append {inside : List Char} (balanced : Text.excess '(' ')' inside = 0)
    (behind more : List Char) :
    callArguments (inside ++ ')' :: behind ++ more) 0 =
      callArguments (inside ++ ')' :: behind) 0 := by
  obtain ⟨length, within, same⟩ := exists_callLength inside 0 (by simpa using balanced)
  simp only [callArguments, List.drop_zero, List.append_assoc, List.cons_append, same]
  rw [List.take_append_of_le_length (by omega), List.take_append_of_le_length (by omega)]

/-- A name that is passed on in one of two bodies is passed on in both together. -/
theorem isPassed_append (closed : Closed first)
    (passed : isPassed name first ∨ isPassed name second) :
    isPassed name (first ++ '\n' :: second) := by
  rw [isPassed_iff]
  rcases passed with early | late
  · obtain ⟨before, callee, gap, rest, rfl, called, other, argument⟩ := isPassed_iff.mp early
    rw [← List.append_assoc callee, ← List.append_assoc before] at closed
    obtain ⟨inside, behind, rfl, balanced⟩ := closed.exists_split
    rw [← callArguments_append balanced behind ('\n' :: second)] at argument
    exact ⟨before, callee, gap, _, by simp, called, other, argument⟩
  · obtain ⟨before, callee, gap, rest, rfl, called, other, argument⟩ := isPassed_iff.mp late
    refine ⟨first ++ '\n' :: before, callee, gap, rest, by simp, ?_, other, argument⟩
    refine { called with alone := ?_ }
    rw [List.getLast?_append, List.getLast?_cons, Option.some_or]
    cases last : before.getLast? with
    | none => rfl
    | some c => exact last ▸ called.alone

/-- Code that is added does not make a pointer one that is only read: what is modified in one of two
bodies is modified in both, joined by a line feed, if all parentheses of the first are closed. -/
theorem isModified_append (closed : Closed first)
    (modified : isModified name first ∨ isModified name second) :
    isModified name (first ++ '\n' :: second) := by
  rw [isModified, Bool.or_eq_true, isModified, Bool.or_eq_true, or_or_or_comm] at modified
  rw [isModified, Bool.or_eq_true]
  refine modified.imp (fun written => ?_) (isPassed_append closed)
  have found : ∃ pattern ∈ writes name, pattern.occurs first ∨ pattern.occurs second := by
    rcases written with early | late
    · obtain ⟨pattern, member, occurs⟩ := List.any_eq_true.mp early
      exact ⟨pattern, member, .inl occurs⟩
    · obtain ⟨pattern, member, occurs⟩ := List.any_eq_true.mp late
      exact ⟨pattern, member, .inr occurs⟩
  obtain ⟨pattern, member, occurs⟩ := found
  exact List.any_eq_true.mpr
    ⟨pattern, member, occurs_append_lineFeed (ended_writes name pattern member) occurs⟩

/-- A call on one line and a write on the next. -/
theorem isModified_append_call :
    let name := "p".toList
    let first := "free(copy(p));".toList
    let second := "n = 1;".toList
    Closed first ∧ (isModified name first ∨ isModified name second) ∧
      isModified name (first ++ '\n' :: second) := by
  intro name first second
  have closed : Closed first := by decide +kernel
  have modified : isModified name first ∨ isModified name second := .inl (by decide +kernel)
  exact ⟨closed, modified, isModified_append closed modified⟩

-- the walk from a parenthesis that stays open leaves out the last character, whichever it is
example :
    isModified "p".toList "f(p ".toList ∧
      ¬ isModified "p".toList ("f(p ".toList ++ '\n' :: "x;".toList) := by
  decide +kernel

end ConstPointer

end HouseStyle
