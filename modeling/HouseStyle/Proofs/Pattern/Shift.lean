import HouseStyle.Lexicon
import HouseStyle.Proofs.Pattern.Reach
import HouseStyle.Source.Line
import HouseStyle.Source.Lines

/-!
Contract: matches of a text that is moved to the right.

Owns: matching after a margin of spaces, tabs and hidden characters, and matching after leading
blanks.
Does not own: which patterns the scan uses.

A pattern reads its text from left to right, and only a look sees what is before it. As long as no
look tells a margin from the start of the text, a match of the text is a match of the text after a
margin, moved by the width of the margin. A pattern that starts with any number of blanks and goes on
with something that is not blank takes all leading blanks.

Main statements: `outcomes_moved`, and `matchStart?_indented` for patterns that skip leading blanks.
-/

namespace HouseStyle

/-- A character of a margin: a space, a tab, or the mask of a comment. -/
def isMargin (c : Char) : Bool :=
  c == ' ' || c == '\t' || c == maskCharacter

theorem isMargin_iff {c : Char} : isMargin c ↔ c = ' ' ∨ c = '\t' ∨ c = maskCharacter := by
  simp [isMargin, or_assoc]

/-! ## Moved places and matches -/

/-- The stretch moved to the right. -/
def Span.moved (width : Nat) (span : Span) : Span :=
  ⟨span.start + width, span.stop + width⟩

/-- The piece moved to the right. -/
def Excerpt.moved (width : Nat) (excerpt : Excerpt) : Excerpt :=
  ⟨excerpt.start + width, excerpt.text⟩

/-- The match moved to the right. -/
def Match.moved (width : Nat) (found : Match) : Match :=
  ⟨found.whole.moved width, found.parts.map fun (part, excerpt) => (part, excerpt.moved width)⟩

theorem Match.part?_moved (width : Nat) (found : Match) (part : Part) :
    (found.moved width).part? part = (found.part? part).map (Excerpt.moved width) :=
  lookup_map_snd (Excerpt.moved width) part found.parts

/-- The place moved to the right, after a margin that ends in the given character. -/
def Cursor.moved (width : Nat) (last : Option Char) (cursor : Cursor) : Cursor :=
  ⟨cursor.position + width, cursor.previous.or last, cursor.rest,
    cursor.captures.map fun (part, span) => (part, span.moved width)⟩

theorem Cursor.advance_moved (width : Nat) (last : Option Char) (cursor : Cursor) (c : Char)
    (rest : List Char) :
    (cursor.moved width last).advance c rest = (cursor.advance c rest).moved width last := by
  simp only [advance, moved, Option.some_or, Nat.add_right_comm]

theorem Cursor.excerpt_moved (width : Nat) (last : Option Char) (cursor : Cursor) (span : Span) :
    (cursor.moved width last).excerpt (span.moved width) = (cursor.excerpt span).moved width := by
  simp only [excerpt, moved, Span.moved, Excerpt.moved, Nat.add_sub_add_right]

theorem Cursor.matched_moved (width : Nat) (last : Option Char) (start stop : Cursor) :
    (start.moved width last).matched (stop.moved width last) =
      (start.matched stop).moved width := by
  have whole := excerpt_moved width last start ⟨start.position, stop.position⟩
  simp only [matched, Match.moved, List.map_map]
  apply congr (congrArg Match.mk whole)
  simp only [moved, List.map_map]
  apply List.map_congr_left
  intro capture _
  exact congrArg (Prod.mk capture.1) (excerpt_moved width last start capture.2)

namespace Pattern

/-! ## Steady patterns -/

/-- Patterns whose looks do not tell a margin from the start of the text. -/
def Steady : Pattern → Prop
  | empty => True
  | one _ => True
  | many _ => True
  | seq first second => first.Steady ∧ second.Steady
  | alt first second => first.Steady ∧ second.Steady
  | star body => body.Steady
  | lazyStar body => body.Steady
  | capture _ body => body.Steady
  | look test => ∀ c rest, isMargin c → test (some c) rest = test none rest

section Steady

variable {first second body : Pattern}

@[simp] theorem steady_one {test : Char → Bool} : (one test).Steady := trivial

@[simp] theorem steady_many {test : Char → Bool} : (many test).Steady := trivial

@[simp] theorem steady_char {c : Char} : (char c).Steady := trivial

@[simp] theorem steady_append : (first ++ second).Steady ↔ first.Steady ∧ second.Steady := Iff.rfl

@[simp] theorem steady_orElse : (first <|> second).Steady ↔ first.Steady ∧ second.Steady := Iff.rfl

@[simp] theorem steady_star : (star body).Steady ↔ body.Steady := Iff.rfl

@[simp] theorem steady_lazyStar : (lazyStar body).Steady ↔ body.Steady := Iff.rfl

@[simp] theorem steady_capture {part : Part} : (capture part body).Steady ↔ body.Steady := Iff.rfl

@[simp] theorem steady_several {test : Char → Bool} : (several test).Steady := ⟨trivial, trivial⟩

@[simp] theorem steady_opt : (opt body).Steady ↔ body.Steady :=
  and_iff_left trivial

@[simp] theorem steady_plus : (plus body).Steady ↔ body.Steady :=
  and_self_iff

@[simp] theorem steady_word {text : String} : (word text).Steady := by
  unfold word
  induction text.toList with
  | nil => trivial
  | cons c rest inductionHypothesis =>
    cases rest with
    | nil => trivial
    | cons d rest => exact ⟨trivial, inductionHypothesis⟩

@[simp] theorem steady_oneOf {words : List String} : (oneOf words).Steady := by
  induction words with
  | nil => trivial
  | cons text words inductionHypothesis =>
    cases words with
    | nil => exact steady_word
    | cons other words => exact ⟨steady_word, inductionHypothesis⟩

@[simp] theorem steady_notAhead {test : Char → Bool} : (notAhead test).Steady :=
  fun _ _ _ => rfl

@[simp] theorem steady_atEnd : atEnd.Steady :=
  fun _ _ _ => rfl

theorem steady_notBehind {test : Char → Bool} (margin : ∀ c, isMargin c → test c = false) :
    (notBehind test).Steady := by
  intro c rest passes
  simp [margin c passes]

theorem isWord_eq_false_of_isMargin {c : Char} (margin : isMargin c) : Text.isWord c = false := by
  rcases isMargin_iff.mp margin with rfl | rfl | rfl <;> decide

@[simp] theorem steady_boundary : boundary.Steady := by
  intro c rest margin
  simp [isWord_eq_false_of_isMargin margin]

end Steady

variable {width : Nat} {last : Option Char}

theorem look_moved {test : Option Char → List Char → Bool} (steady : (look test).Steady)
    (margin : ∀ c, last = some c → isMargin c) (previous : Option Char) (rest : List Char) :
    test (previous.or last) rest = test previous rest := by
  cases previous with
  | some c => rfl
  | none =>
    cases last with
    | none => rfl
    | some c => exact steady c rest (margin c rfl)

theorem manyOutcomes_moved (test : Char → Bool) (captures : List (Part × Span)) (position : Nat)
    (previous : Option Char) (rest : List Char) :
    manyOutcomes test (captures.map fun (part, span) => (part, span.moved width))
        (position + width) (previous.or last) rest =
      (manyOutcomes test captures position previous rest).map (Cursor.moved width last) := by
  induction rest generalizing position previous with
  | nil => rfl
  | cons c rest inductionHypothesis =>
    have later := inductionHypothesis (position + 1) (some c)
    rw [Option.some_or, Nat.add_right_comm] at later
    rw [manyOutcomes, manyOutcomes, List.map_append, later]
    split <;> rfl

section Carried

-- Places are carried to other places, in the same order.
variable {carry : Cursor → Cursor}
  (ahead : ∀ cursor next : Cursor,
    (carry cursor).position < (carry next).position ↔ cursor.position < next.position)
include ahead

/-- One round from a place that is carried elsewhere: the same places, carried along, with rounds
that consume nothing left out. -/
theorem round_carried {reach farther : Cursor → List Cursor}
    (agree : ∀ cursor, reach (carry cursor) = (reach cursor).map carry)
    (further : ∀ cursor, farther (carry cursor) = (farther cursor).map carry) (cursor : Cursor) :
    ((reach (carry cursor)).filter fun next =>
        (carry cursor).position < next.position).flatMap farther =
      (((reach cursor).filter fun next => cursor.position < next.position).flatMap farther).map
        carry := by
  have same : ∀ next : Cursor, decide ((carry cursor).position < (carry next).position) =
      decide (cursor.position < next.position) := by
    intro next
    rw [decide_eq_decide, ahead]
  rw [agree, List.filter_map, List.flatMap_map, List.map_flatMap]
  simp only [Function.comp_def, same, further]

theorem roundOutcomes_carried {reach : Cursor → List Cursor}
    (agree : ∀ cursor, reach (carry cursor) = (reach cursor).map carry) (fuel : Nat)
    (cursor : Cursor) :
    roundOutcomes reach fuel (carry cursor) = (roundOutcomes reach fuel cursor).map carry := by
  induction fuel generalizing cursor with
  | zero => rfl
  | succ fuel inductionHypothesis =>
    rw [roundOutcomes, roundOutcomes, round_carried ahead agree inductionHypothesis, List.map_append]
    rfl

theorem lazyRoundOutcomes_carried {reach : Cursor → List Cursor}
    (agree : ∀ cursor, reach (carry cursor) = (reach cursor).map carry) (fuel : Nat)
    (cursor : Cursor) :
    lazyRoundOutcomes reach fuel (carry cursor) =
      (lazyRoundOutcomes reach fuel cursor).map carry := by
  induction fuel generalizing cursor with
  | zero => rfl
  | succ fuel inductionHypothesis =>
    rw [lazyRoundOutcomes, lazyRoundOutcomes, round_carried ahead agree inductionHypothesis,
      List.map_cons]

end Carried

theorem Cursor.moved_lt_moved (cursor next : Cursor) :
    (cursor.moved width last).position < (next.moved width last).position ↔
      cursor.position < next.position :=
  Nat.add_lt_add_iff_right

/-- After a margin a steady pattern reaches the same places, moved. -/
theorem outcomes_moved {pattern : Pattern} (steady : pattern.Steady)
    (margin : ∀ c, last = some c → isMargin c) (cursor : Cursor) :
    outcomes pattern (cursor.moved width last) =
      (outcomes pattern cursor).map (Cursor.moved width last) := by
  induction pattern generalizing cursor with
  | empty => rfl
  | one test =>
    obtain ⟨position, previous, rest, captures⟩ := cursor
    cases rest with
    | nil => rfl
    | cons c rest =>
      show (if test c then [Cursor.advance (Cursor.moved width last _) c rest] else []) =
        (if test c then [Cursor.advance _ c rest] else []).map (Cursor.moved width last)
      rw [Cursor.advance_moved]
      split <;> rfl
  | many test => exact manyOutcomes_moved test _ _ _ _
  | seq first second firstMoves secondMoves =>
    simp only [outcomes, firstMoves steady.1, List.flatMap_map, List.map_flatMap,
      secondMoves steady.2]
  | alt first second firstMoves secondMoves =>
    simp only [outcomes, firstMoves steady.1, secondMoves steady.2, List.map_append]
  | star body moves => exact roundOutcomes_carried Cursor.moved_lt_moved (moves steady) _ _
  | lazyStar body moves => exact lazyRoundOutcomes_carried Cursor.moved_lt_moved (moves steady) _ _
  | capture part body moves =>
    simp only [outcomes, moves steady, List.map_map]
    rfl
  | look test =>
    have same := look_moved steady margin cursor.previous cursor.rest
    rw [outcomes, outcomes]
    simp only [Cursor.moved, same]
    split <;> rfl

theorem matchAt?_moved {pattern : Pattern} (steady : pattern.Steady)
    (margin : ∀ c, last = some c → isMargin c) (cursor : Cursor) :
    matchAt? pattern (cursor.moved width last) =
      (matchAt? pattern cursor).map (Match.moved width) := by
  rw [matchAt?_eq, matchAt?_eq, outcomes_moved steady margin, List.head?_map, Option.map_map,
    Option.map_map]
  congr 1
  funext stop
  exact Cursor.matched_moved width last cursor stop

theorem findAllAt_moved {pattern : Pattern} (steady : pattern.Steady)
    (margin : ∀ c, last = some c → isMargin c) (skip position : Nat) (previous : Option Char)
    (text : List Char) :
    findAllAt pattern skip (position + width) (previous.or last) text =
      (findAllAt pattern skip position previous text).map (Match.moved width) := by
  have here : ∀ text, matchAt? pattern ⟨position + width, previous.or last, text, []⟩ =
      (matchAt? pattern ⟨position, previous, text, []⟩).map (Match.moved width) :=
    fun text => matchAt?_moved steady margin ⟨position, previous, text, []⟩
  induction text generalizing skip position previous with
  | nil =>
    cases skip with
    | succ skip => rfl
    | zero =>
      rw [findAllAt, findAllAt, here]
      cases matchAt? pattern ⟨position, previous, [], []⟩ <;> rfl
  | cons c text inductionHypothesis =>
    have later : ∀ skip, findAllAt pattern skip (position + 1 + width) (some c) text = _ :=
      fun skip => inductionHypothesis skip (position + 1) (some c)
        fun text => matchAt?_moved steady margin ⟨position + 1, some c, text, []⟩
    rw [Nat.add_right_comm] at later
    cases skip with
    | succ skip => exact later skip
    | zero =>
      rw [findAllAt, findAllAt, here]
      cases matchAt? pattern ⟨position, previous, c :: text, []⟩ with
      | none => exact later 0
      | some found => exact congrArg (found.moved width :: ·) (later _)

theorem searchAt?_moved {pattern : Pattern} (steady : pattern.Steady)
    (margin : ∀ c, last = some c → isMargin c) (position : Nat) (previous : Option Char)
    (text : List Char) :
    searchAt? pattern (position + width) (previous.or last) text =
      (searchAt? pattern position previous text).map (Match.moved width) := by
  rw [← head?_findAllAt, ← head?_findAllAt, findAllAt_moved steady margin, List.head?_map]

/-! ## Patterns that need a character of their own -/

/-- Patterns that match nowhere before a character that passes the test. -/
def Refuses (pattern : Pattern) (test : Char → Bool) : Prop :=
  ∀ cursor, cursor.rest.head?.any test → outcomes pattern cursor = []

section Refusal

variable {first second body : Pattern} {test : Char → Bool}

theorem refuses_one {accepted : Char → Bool} (disjoint : ∀ c, test c → accepted c = false) :
    (one accepted).Refuses test := by
  intro cursor starts
  rw [outcomes]
  cases written : cursor.rest with
  | nil => rfl
  | cons c rest =>
    rw [written, List.head?_cons, Option.any_some] at starts
    show (if accepted c then [cursor.advance c rest] else []) = []
    rw [disjoint c starts]
    rfl

theorem refuses_char {c : Char} (other : test c = false) : (char c).Refuses test := by
  apply refuses_one
  intro d passes
  rw [beq_eq_false_iff_ne]
  intro same
  rw [same, other] at passes
  cases passes

theorem Refuses.append (refuses : first.Refuses test) (second : Pattern) :
    (first ++ second).Refuses test := by
  intro cursor starts
  rw [append_eq, outcomes, refuses cursor starts]
  rfl

theorem Refuses.orElse (refuses : first.Refuses test) (refusesToo : second.Refuses test) :
    (first <|> second).Refuses test := by
  intro cursor starts
  rw [orElse_eq, outcomes, refuses cursor starts, refusesToo cursor starts]
  rfl

theorem Refuses.capture (refuses : body.Refuses test) (part : Part) :
    (capture part body).Refuses test := by
  intro cursor starts
  rw [outcomes, refuses cursor starts]
  rfl

/-- What can be left out refuses a character if what follows it does too. -/
theorem Refuses.opt_append (refuses : first.Refuses test) (refusesToo : second.Refuses test) :
    (opt first ++ second).Refuses test := by
  intro cursor starts
  rw [append_eq, opt, orElse_eq, outcomes, outcomes, outcomes, refuses cursor starts,
    List.nil_append, List.flatMap_singleton]
  exact refusesToo cursor starts

/-- What can be passed over refuses a character that it cannot pass if what follows it does too. -/
theorem Refuses.many_append {passed : Char → Bool} (disjoint : ∀ c, test c → passed c = false)
    (refuses : second.Refuses test) : (many passed ++ second).Refuses test := by
  intro cursor starts
  rw [append_eq, outcomes, outcomes]
  cases written : cursor.rest with
  | nil =>
    rw [written] at starts
    cases starts
  | cons c rest =>
    rw [written] at starts
    rw [manyOutcomes, disjoint c starts, if_neg Bool.false_ne_true, List.nil_append,
      List.flatMap_singleton]
    exact refuses _ starts

theorem refuses_ahead {accepted : Char → Bool} (disjoint : ∀ c, test c → accepted c = false) :
    (ahead accepted).Refuses test := by
  intro cursor starts
  rw [ahead, outcomes]
  cases next : cursor.rest.head? with
  | none => rfl
  | some c =>
    rw [next] at starts
    rw [Option.any_some, disjoint c starts]
    rfl

theorem Refuses.look_append (refuses : second.Refuses test)
    (look : Option Char → List Char → Bool) : (Pattern.look look ++ second).Refuses test := by
  intro cursor starts
  rw [append_eq, outcomes, outcomes]
  split
  · rw [List.flatMap_singleton]
    exact refuses cursor starts
  · rfl

theorem refuses_characters {c : Char} (other : test c = false) (text : List Char) :
    (characters (c :: text)).Refuses test := by
  cases text with
  | nil => exact refuses_char other
  | cons d text => exact (refuses_char other).append _

theorem refuses_word {text : String} {c : Char} (starts : text.toList.head? = some c)
    (other : test c = false) : (word text).Refuses test := by
  unfold word
  cases letters : text.toList with
  | nil => simp [letters] at starts
  | cons d rest =>
    rw [letters, List.head?_cons, Option.some.injEq] at starts
    rw [starts]
    exact refuses_characters other rest

theorem refuses_oneOf {words : List String}
    (others : ∀ text ∈ words, (word text).Refuses test) : (oneOf words).Refuses test := by
  induction words with
  | nil => exact refuses_one fun c _ => rfl
  | cons text words inductionHypothesis =>
    obtain ⟨refuses, rest⟩ := List.forall_mem_cons.mp others
    cases words with
    | nil => exact refuses
    | cons other words => exact refuses.orElse (inductionHypothesis rest)

theorem matchAt?_eq_none (refuses : body.Refuses test) {cursor : Cursor}
    (starts : cursor.rest.head?.any test) : matchAt? body cursor = none := by
  rw [matchAt?_eq, refuses cursor starts]
  rfl

end Refusal

/-! ## Searches after a margin -/

theorem findAllAt_margin {pattern : Pattern} (refuses : pattern.Refuses isMargin)
    {margin : List Char} (all : ∀ c ∈ margin, isMargin c) (position : Nat)
    (previous : Option Char) (text : List Char) :
    findAllAt pattern 0 position previous (margin ++ text) =
      findAllAt pattern 0 (position + margin.length) (margin.getLast?.or previous) text := by
  induction margin generalizing position previous with
  | nil => rfl
  | cons c margin inductionHypothesis =>
    obtain ⟨here, rest⟩ := List.forall_mem_cons.mp all
    have none : matchAt? pattern ⟨position, previous, c :: (margin ++ text), []⟩ = none :=
      matchAt?_eq_none refuses here
    rw [List.cons_append, findAllAt, none, inductionHypothesis rest, getLast?_cons_or,
      List.length_cons, Nat.add_assoc, Nat.add_comm 1]

theorem searchAt?_margin {pattern : Pattern} (refuses : pattern.Refuses isMargin)
    {margin : List Char} (all : ∀ c ∈ margin, isMargin c) (position : Nat)
    (previous : Option Char) (text : List Char) :
    searchAt? pattern position previous (margin ++ text) =
      searchAt? pattern (position + margin.length) (margin.getLast?.or previous) text := by
  rw [← head?_findAllAt, ← head?_findAllAt, findAllAt_margin refuses all]

theorem margin_getLast? {margin : List Char} (all : ∀ c ∈ margin, isMargin c) :
    ∀ c, margin.getLast? = some c → isMargin c :=
  fun c last => all c (List.mem_of_getLast? last)

/-- All matches after a margin are the matches of the text, moved. -/
theorem findAll_margin {pattern : Pattern} (steady : pattern.Steady)
    (refuses : pattern.Refuses isMargin) {margin : List Char} (all : ∀ c ∈ margin, isMargin c)
    (text : List Char) :
    findAll pattern (margin ++ text) =
      (findAll pattern text).map (Match.moved margin.length) := by
  rw [findAll, findAllAt_margin refuses all, Option.or_none]
  exact findAllAt_moved steady (margin_getLast? all) 0 0 none text

theorem search?_margin {pattern : Pattern} (steady : pattern.Steady)
    (refuses : pattern.Refuses isMargin) {margin : List Char} (all : ∀ c ∈ margin, isMargin c)
    (text : List Char) :
    search? pattern (margin ++ text) = (search? pattern text).map (Match.moved margin.length) := by
  rw [search?, searchAt?_margin refuses all, Option.or_none]
  exact searchAt?_moved steady (margin_getLast? all) 0 none text

end Pattern

/-! ## Leading blanks -/

/-- The place after the leading blanks of a text. -/
def Cursor.afterBlanks (text : List Char) : Cursor :=
  ⟨(text.takeWhile Text.isBlank).length, (text.takeWhile Text.isBlank).getLast?,
    Text.trimLeft text, []⟩

/-- The match of an indented text: its parts are moved, and the whole of it includes the
indentation. -/
def Match.indented (indentation : List Char) (found : Match) : Match :=
  ⟨⟨found.whole.start, indentation ++ found.whole.text⟩,
    found.parts.map fun (part, excerpt) => (part, excerpt.moved indentation.length)⟩

namespace Pattern

/-- The first pattern takes all leading blanks and goes on as the second. -/
def Leads (pattern rest : Pattern) : Prop :=
  ∀ text, outcomes pattern (.atStart text) = outcomes rest (.afterBlanks text)

theorem flatMap_manyOutcomes {body : Pattern} {test : Char → Bool} (refuses : body.Refuses test)
    (captures : List (Part × Span)) (position : Nat) (previous : Option Char) (text : List Char) :
    (manyOutcomes test captures position previous text).flatMap (outcomes body) =
      outcomes body ⟨position + (text.takeWhile test).length,
        (text.takeWhile test).getLast?.or previous, text.dropWhile test, captures⟩ := by
  induction text generalizing position previous with
  | nil =>
    rw [manyOutcomes, List.flatMap_singleton]
    rfl
  | cons c text inductionHypothesis =>
    rw [manyOutcomes, List.flatMap_append, List.flatMap_singleton]
    by_cases passes : test c
    · have none : outcomes body ⟨position, previous, c :: text, captures⟩ = [] := refuses _ passes
      rw [if_pos passes, inductionHypothesis, none, List.append_nil,
        List.takeWhile_cons_of_pos passes, List.dropWhile_cons_of_pos passes, getLast?_cons_or,
        List.length_cons, Nat.add_assoc, Nat.add_comm 1]
    · rw [if_neg passes, List.takeWhile_cons_of_neg passes, List.dropWhile_cons_of_neg passes]
      rfl

theorem leads_of_refuses {body : Pattern} (refuses : body.Refuses Text.isBlank) :
    Leads (atStart ++ blanks ++ body) body := by
  intro text
  have taken := flatMap_manyOutcomes refuses [] 0 none text
  rw [Option.or_none, Nat.zero_add] at taken
  have start : outcomes (atStart ++ blanks) (.atStart text) =
      manyOutcomes Text.isBlank [] 0 none text := List.flatMap_singleton _ _
  rw [append_eq, outcomes, start, taken]
  rfl

theorem Leads.append {pattern rest : Pattern} (leads : Leads pattern rest) (more : Pattern) :
    Leads (pattern ++ more) (rest ++ more) := by
  intro text
  rw [append_eq, append_eq, outcomes, outcomes, leads text]

/-- Two patterns after the leading blanks, of which only both together need a character of their
own. -/
theorem leads_of_refuses_append {first second : Pattern}
    (refuses : (first ++ second).Refuses Text.isBlank) :
    Leads (atStart ++ blanks ++ first ++ second) (first ++ second) := by
  intro text
  rw [← leads_of_refuses refuses text]
  simp only [append_eq, outcomes, List.flatMap_assoc]

/-- Patterns that take all leading blanks and are steady after them. -/
def Indentable (pattern : Pattern) : Prop :=
  ∃ rest, Leads pattern rest ∧ rest.Steady

theorem indentable_of_refuses {body : Pattern} (refuses : body.Refuses Text.isBlank)
    (steady : body.Steady) : (atStart ++ blanks ++ body).Indentable :=
  ⟨body, leads_of_refuses refuses, steady⟩

theorem indentable_of_refuses_append {first second : Pattern}
    (refuses : (first ++ second).Refuses Text.isBlank) (steady : (first ++ second).Steady) :
    (atStart ++ blanks ++ first ++ second).Indentable :=
  ⟨first ++ second, leads_of_refuses_append refuses, steady⟩

theorem Indentable.append {pattern more : Pattern} (indentable : pattern.Indentable)
    (steady : more.Steady) : (pattern ++ more).Indentable := by
  obtain ⟨rest, leads, steadyRest⟩ := indentable
  exact ⟨rest ++ more, leads.append more, steadyRest, steady⟩

end Pattern

section Indented

variable {indentation : List Char} (all : ∀ c ∈ indentation, Source.isIndentation c)
include all

theorem isMargin_of_indentation : ∀ c ∈ indentation, isMargin c := by
  intro c member
  have passes := all c member
  unfold Source.isIndentation at passes
  unfold isMargin
  rw [passes, Bool.true_or]

theorem isBlank_of_indentation : ∀ c ∈ indentation, Text.isBlank c := by
  intro c member
  have passes := all c member
  simp only [Source.isIndentation, Bool.or_eq_true, beq_iff_eq] at passes
  rcases passes with rfl | rfl <;> decide

theorem Cursor.afterBlanks_indented (text : List Char) :
    Cursor.afterBlanks (indentation ++ text) =
      (Cursor.afterBlanks text).moved indentation.length indentation.getLast? := by
  have blank := isBlank_of_indentation all
  simp only [afterBlanks, moved, Text.trimLeft, List.takeWhile_append_of_pos blank,
    List.dropWhile_append_of_pos blank, List.length_append, List.getLast?_append, List.map_nil,
    Nat.add_comm]

omit all in
theorem Cursor.matched_indented (text : List Char) (stop : Cursor) :
    (Cursor.atStart (indentation ++ text)).matched
        (stop.moved indentation.length indentation.getLast?) =
      ((Cursor.atStart text).matched stop).indented indentation := by
  have parts : ∀ span : Span, (Cursor.atStart (indentation ++ text)).excerpt
      (span.moved indentation.length) =
        ((Cursor.atStart text).excerpt span).moved indentation.length := by
    intro span
    have later : (indentation ++ text).drop (span.start + indentation.length) =
        text.drop span.start := by
      rw [Nat.add_comm, List.drop_length_add_append]
    simp only [excerpt, atStart, Span.moved, Excerpt.moved, Nat.sub_zero, later,
      Nat.add_sub_add_right]
  have whole : (indentation ++ text).take (stop.position + indentation.length) =
      indentation ++ text.take stop.position := by
    rw [Nat.add_comm, List.take_length_add_append]
  simp only [matched, Match.indented, moved, List.map_map]
  refine congr (congrArg Match.mk ?_) ?_
  · simpa [excerpt, atStart] using whole
  · apply List.map_congr_left
    intro capture _
    exact congrArg (Prod.mk capture.1) (parts capture.2)

/-- A pattern that takes leading blanks matches an indented text as it matches the text. -/
theorem Pattern.matchStart?_indented {pattern : Pattern} (indentable : pattern.Indentable)
    (text : List Char) :
    matchStart? pattern (indentation ++ text) =
      (matchStart? pattern text).map (Match.indented indentation) := by
  obtain ⟨rest, leads, steady⟩ := indentable
  have margin := margin_getLast? (isMargin_of_indentation all)
  rw [matchStart?, matchStart?, matchAt?_eq, matchAt?_eq, leads, leads,
    Cursor.afterBlanks_indented all, outcomes_moved steady margin, List.head?_map, Option.map_map,
    Option.map_map]
  congr 1
  funext stop
  exact Cursor.matched_indented text stop

end Indented

theorem Pattern.fits_indented {indentation : List Char}
    (all : ∀ c ∈ indentation, Source.isIndentation c) {pattern : Pattern}
    (indentable : pattern.Indentable) (text : List Char) :
    pattern.fits (indentation ++ text) = pattern.fits text := by
  rw [fits, fits, matchStart?_indented all indentable, Option.isSome_map]

theorem Match.part?_indented (indentation : List Char) (found : Match) (part : Part) :
    (found.indented indentation).part? part =
      (found.part? part).map (Excerpt.moved indentation.length) :=
  lookup_map_snd (Excerpt.moved indentation.length) part found.parts

theorem Match.stop_indented (indentation : List Char) (found : Match) :
    (found.indented indentation).stop = found.stop + indentation.length := by
  simp only [stop, Excerpt.stop, indented, List.length_append]
  omega

end HouseStyle
