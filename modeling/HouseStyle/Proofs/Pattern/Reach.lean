import HouseStyle.Pattern.Outcomes

/-!
Contract: the places that a pattern reaches, taken apart along the pattern.

Owns: membership in the outcomes of every kind of pattern, and what a match says about the text.
Does not own: the order of the outcomes, which `Pattern.outcomes` gives.

Main statements: a match is the first outcome (`matchAt?_eq`), and every outcome lies behind a piece
of the text (`reaches_of_mem_outcomes`).
-/

namespace HouseStyle

/-- The match that starts at one place and stops at another. -/
def Cursor.matched (start stop : Cursor) : Match :=
  ⟨start.excerpt ⟨start.position, stop.position⟩,
    stop.captures.map fun (part, span) => (part, start.excerpt span)⟩

/-- The character before a place that lies behind a piece. -/
theorem getLast?_cons_or (c : Char) (piece : List Char) (previous : Option Char) :
    (c :: piece).getLast?.or previous = piece.getLast?.or (some c) := by
  rw [List.getLast?_cons]
  cases piece.getLast? <;> rfl

/-- The place after some of the characters that are left. -/
def Cursor.after (cursor : Cursor) (consumed rest : List Char) : Cursor :=
  ⟨cursor.position + consumed.length, consumed.getLast?.or cursor.previous, rest, cursor.captures⟩

theorem Cursor.after_nil (cursor : Cursor) : cursor.after [] cursor.rest = cursor :=
  rfl

theorem Cursor.after_cons (cursor : Cursor) (c : Char) (consumed rest : List Char) :
    cursor.after (c :: consumed) rest = (cursor.advance c (consumed ++ rest)).after consumed rest := by
  have further : cursor.position + (c :: consumed).length = cursor.position + 1 + consumed.length := by
    rw [List.length_cons]
    omega
  simp only [after, advance, further, getLast?_cons_or]

/-- Looking up a part does not depend on what is recorded for it. -/
theorem lookup_map_snd {α β : Type} (record : α → β) (part : Part) (parts : List (Part × α)) :
    (parts.map fun (recorded, found) => (recorded, record found)).lookup part =
      (parts.lookup part).map record := by
  induction parts with
  | nil => rfl
  | cons first others inductionHypothesis =>
    obtain ⟨recorded, found⟩ := first
    rw [List.map_cons, List.lookup_cons, List.lookup_cons]
    cases part == recorded with
    | true => rfl
    | false => exact inductionHypothesis

/-- A part of a match is the text of the span recorded for it last. -/
theorem Cursor.part?_matched (start stop : Cursor) (part : Part) :
    (start.matched stop).part? part = (stop.captures.lookup part).map start.excerpt :=
  lookup_map_snd start.excerpt part stop.captures

namespace Pattern

theorem append_eq (first second : Pattern) : first ++ second = seq first second :=
  rfl

theorem orElse_eq (first second : Pattern) : (first <|> second) = alt first second :=
  rfl

/-! ## A match is the first outcome -/

theorem matchAt?_eq (pattern : Pattern) (cursor : Cursor) :
    matchAt? pattern cursor = (outcomes pattern cursor).head?.map cursor.matched := by
  rw [matchAt?, run_eq_findSome?]
  cases outcomes pattern cursor <;> rfl

theorem exists_of_matchAt? {pattern : Pattern} {cursor : Cursor} {found : Match}
    (matches' : matchAt? pattern cursor = some found) :
    ∃ stop ∈ outcomes pattern cursor, found = cursor.matched stop := by
  rw [matchAt?_eq, Option.map_eq_some_iff] at matches'
  obtain ⟨stop, first, same⟩ := matches'
  exact ⟨stop, List.mem_of_head? first, same.symm⟩

theorem fits_iff {pattern : Pattern} {text : List Char} :
    pattern.fits text ↔ ∃ stop, stop ∈ outcomes pattern (.atStart text) := by
  rw [fits, matchStart?, matchAt?_eq, Option.isSome_map]
  cases outcomes pattern (.atStart text) with
  | nil => simp
  | cons stop others => simp

/-! ## Membership -/

variable {first second body : Pattern} {test : Char → Bool} {start stop : Cursor}

@[simp] theorem mem_outcomes_empty : stop ∈ outcomes empty start ↔ stop = start :=
  List.mem_singleton

@[simp] theorem mem_outcomes_one :
    stop ∈ outcomes (one test) start ↔
      ∃ c rest, start.rest = c :: rest ∧ test c ∧ stop = start.advance c rest := by
  rw [outcomes]
  cases start.rest with
  | nil => simp
  | cons c rest =>
    show stop ∈ (if test c then [start.advance c rest] else []) ↔ _
    constructor
    · intro member
      by_cases passed : test c
      · rw [if_pos passed, List.mem_singleton] at member
        exact ⟨c, rest, rfl, passed, member⟩
      · rw [if_neg passed] at member
        exact absurd member List.not_mem_nil
    · rintro ⟨d, others, same, passed, rfl⟩
      cases same
      rw [if_pos passed]
      exact List.mem_singleton_self _

@[simp] theorem mem_outcomes_seq :
    stop ∈ outcomes (seq first second) start ↔
      ∃ between ∈ outcomes first start, stop ∈ outcomes second between := by
  rw [outcomes, List.mem_flatMap]

@[simp] theorem mem_outcomes_append :
    stop ∈ outcomes (first ++ second) start ↔
      ∃ between ∈ outcomes first start, stop ∈ outcomes second between :=
  mem_outcomes_seq

@[simp] theorem mem_outcomes_alt :
    stop ∈ outcomes (alt first second) start ↔
      stop ∈ outcomes first start ∨ stop ∈ outcomes second start := by
  rw [outcomes, List.mem_append]

@[simp] theorem mem_outcomes_orElse :
    stop ∈ outcomes (first <|> second) start ↔
      stop ∈ outcomes first start ∨ stop ∈ outcomes second start :=
  mem_outcomes_alt

@[simp] theorem mem_outcomes_opt :
    stop ∈ outcomes (opt body) start ↔ stop ∈ outcomes body start ∨ stop = start := by
  rw [opt, mem_outcomes_orElse, mem_outcomes_empty]

@[simp] theorem mem_outcomes_capture {part : Part} :
    stop ∈ outcomes (capture part body) start ↔
      ∃ inside ∈ outcomes body start, stop = start.record part inside := by
  rw [outcomes, List.mem_map]
  constructor
  · rintro ⟨inside, member, rfl⟩
    exact ⟨inside, member, rfl⟩
  · rintro ⟨inside, member, rfl⟩
    exact ⟨inside, member, rfl⟩

@[simp] theorem mem_outcomes_look {look : Option Char → List Char → Bool} :
    stop ∈ outcomes (.look look) start ↔ look start.previous start.rest ∧ stop = start := by
  rw [outcomes]
  by_cases passed : look start.previous start.rest <;> simp [passed]

theorem mem_manyOutcomes {captures : List (Part × Span)} {position : Nat}
    {previous : Option Char} {text : List Char} :
    stop ∈ manyOutcomes test captures position previous text ↔
      ∃ consumed rest, text = consumed ++ rest ∧ (∀ c ∈ consumed, test c) ∧
        stop = Cursor.after ⟨position, previous, text, captures⟩ consumed rest := by
  induction text generalizing position previous with
  | nil =>
    rw [manyOutcomes, List.mem_singleton]
    constructor
    · rintro rfl
      exact ⟨[], [], rfl, by simp, rfl⟩
    · rintro ⟨consumed, rest, split, -, rfl⟩
      obtain ⟨rfl, rfl⟩ := List.append_eq_nil_iff.mp split.symm
      rfl
  | cons c text inductionHypothesis =>
    rw [manyOutcomes, List.mem_append, List.mem_singleton]
    constructor
    · rintro (farther | rfl)
      · by_cases passed : test c
        · rw [if_pos passed] at farther
          obtain ⟨consumed, rest, rfl, all, rfl⟩ := inductionHypothesis.mp farther
          refine ⟨c :: consumed, rest, rfl, ?_, ?_⟩
          · simpa [passed] using all
          · rw [Cursor.after_cons]
            rfl
        · rw [if_neg passed] at farther
          exact absurd farther List.not_mem_nil
      · exact ⟨[], c :: text, rfl, by simp, rfl⟩
    · rintro ⟨consumed, rest, split, all, rfl⟩
      cases consumed with
      | nil =>
        rw [List.nil_append] at split
        rw [← split]
        exact .inr rfl
      | cons d consumed =>
        obtain ⟨rfl, rfl⟩ := List.cons.inj split
        left
        rw [if_pos (all c List.mem_cons_self)]
        refine inductionHypothesis.mpr
          ⟨consumed, rest, rfl, fun e member => all e (List.mem_cons_of_mem _ member), ?_⟩
        rw [Cursor.after_cons]
        rfl

@[simp] theorem mem_outcomes_many :
    stop ∈ outcomes (many test) start ↔
      ∃ consumed rest, start.rest = consumed ++ rest ∧ (∀ c ∈ consumed, test c) ∧
        stop = start.after consumed rest := by
  rw [outcomes]
  exact mem_manyOutcomes

@[simp] theorem mem_outcomes_char {c : Char} :
    stop ∈ outcomes (char c) start ↔
      ∃ rest, start.rest = c :: rest ∧ stop = start.advance c rest := by
  rw [char, mem_outcomes_one]
  constructor
  · rintro ⟨d, rest, split, same, rfl⟩
    rw [beq_iff_eq] at same
    subst same
    exact ⟨rest, split, rfl⟩
  · rintro ⟨rest, split, rfl⟩
    exact ⟨c, rest, split, beq_self_eq_true c, rfl⟩

theorem mem_outcomes_characters {text : List Char} :
    stop ∈ outcomes (characters text) start ↔
      ∃ rest, start.rest = text ++ rest ∧ stop = start.after text rest := by
  induction text generalizing start with
  | nil =>
    rw [characters, mem_outcomes_empty]
    constructor
    · rintro rfl
      exact ⟨stop.rest, rfl, rfl⟩
    · rintro ⟨rest, split, rfl⟩
      rw [List.nil_append] at split
      rw [← split, Cursor.after_nil]
  | cons c text inductionHypothesis =>
    have step : stop ∈ outcomes (characters (c :: text)) start ↔
        ∃ rest, start.rest = c :: rest ∧ stop ∈ outcomes (characters text) (start.advance c rest) := by
      cases text with
      | nil => simp only [characters, mem_outcomes_char, mem_outcomes_empty]
      | cons d text =>
        rw [characters, mem_outcomes_append]
        · simp only [mem_outcomes_char]
          constructor
          · rintro ⟨between, ⟨rest, split, rfl⟩, member⟩
            exact ⟨rest, split, member⟩
          · rintro ⟨rest, split, member⟩
            exact ⟨_, ⟨rest, split, rfl⟩, member⟩
        · exact List.cons_ne_nil d text
    rw [step]
    constructor
    · rintro ⟨rest, split, member⟩
      obtain ⟨others, inner, rfl⟩ := inductionHypothesis.mp member
      have whole : rest = text ++ others := inner
      subst whole
      exact ⟨others, split, (Cursor.after_cons start c text others).symm⟩
    · rintro ⟨others, split, rfl⟩
      refine ⟨text ++ others, split, inductionHypothesis.mpr ⟨others, rfl, ?_⟩⟩
      rw [Cursor.after_cons]

@[simp] theorem mem_outcomes_word {text : String} :
    stop ∈ outcomes (word text) start ↔
      ∃ rest, start.rest = text.toList ++ rest ∧ stop = start.after text.toList rest :=
  mem_outcomes_characters

theorem mem_outcomes_oneOf {words : List String} :
    stop ∈ outcomes (oneOf words) start ↔
      ∃ text ∈ words, ∃ rest, start.rest = text.toList ++ rest ∧
        stop = start.after text.toList rest := by
  induction words with
  | nil => simp [oneOf]
  | cons text words inductionHypothesis =>
    cases words with
    | nil => simp [oneOf]
    | cons other words =>
      rw [oneOf, mem_outcomes_orElse, mem_outcomes_word, inductionHypothesis]
      simp only [List.mem_cons, exists_eq_or_imp]
      exact List.cons_ne_nil other words

/-! ## Every outcome lies ahead -/

theorem mem_roundOutcomes_induction {Holds : Cursor → Cursor → Prop} {reach : Cursor → List Cursor}
    (refl : ∀ cursor, Holds cursor cursor)
    (round : ∀ cursor next stop, next ∈ reach cursor → Holds next stop → Holds cursor stop)
    {fuel : Nat} (member : stop ∈ roundOutcomes reach fuel start ∨
      stop ∈ lazyRoundOutcomes reach fuel start) : Holds start stop := by
  induction fuel generalizing start with
  | zero =>
    rcases member with here | here <;>
      rw [List.mem_singleton.mp here] <;> exact refl start
  | succ fuel inductionHypothesis =>
    simp only [roundOutcomes, lazyRoundOutcomes, List.mem_append, List.mem_cons, List.not_mem_nil,
      or_false, List.mem_flatMap] at member
    rcases member with (⟨next, found, later⟩ | rfl) | (rfl | ⟨next, found, later⟩)
    · exact round start next stop ((List.mem_filter.mp found).1) (inductionHypothesis (.inl later))
    · exact refl _
    · exact refl _
    · exact round start next stop ((List.mem_filter.mp found).1) (inductionHypothesis (.inr later))

end Pattern

/-- The later place lies behind some of the characters that are left at the earlier one. -/
def Cursor.Reaches (start stop : Cursor) : Prop :=
  ∃ consumed, start.rest = consumed ++ stop.rest ∧
    stop.position = start.position + consumed.length

theorem Cursor.Reaches.refl (cursor : Cursor) : cursor.Reaches cursor :=
  ⟨[], rfl, rfl⟩

theorem Cursor.Reaches.trans {first second third : Cursor} (early : first.Reaches second)
    (late : second.Reaches third) : first.Reaches third := by
  obtain ⟨before, split, position⟩ := early
  obtain ⟨after, split', position'⟩ := late
  refine ⟨before ++ after, ?_, ?_⟩
  · rw [split, split', List.append_assoc]
  · rw [position', position, List.length_append, Nat.add_assoc]

theorem Cursor.reaches_after {cursor : Cursor} {consumed rest : List Char}
    (split : cursor.rest = consumed ++ rest) : cursor.Reaches (cursor.after consumed rest) :=
  ⟨consumed, split, rfl⟩

theorem Cursor.reaches_advance {cursor : Cursor} {c : Char} {rest : List Char}
    (split : cursor.rest = c :: rest) : cursor.Reaches (cursor.advance c rest) :=
  ⟨[c], split, rfl⟩

theorem Cursor.reaches_of_record {part : Part} {start stop later : Cursor}
    (reaches : (start.record part stop).Reaches later) : stop.Reaches later :=
  reaches

theorem Pattern.reaches_of_mem_outcomes {pattern : Pattern} {start stop : Cursor}
    (member : stop ∈ outcomes pattern start) : start.Reaches stop := by
  induction pattern generalizing start stop with
  | empty =>
    rw [mem_outcomes_empty.mp member]
    exact .refl start
  | one test =>
    obtain ⟨c, rest, split, -, rfl⟩ := mem_outcomes_one.mp member
    exact Cursor.reaches_advance split
  | many test =>
    obtain ⟨consumed, rest, split, -, rfl⟩ := mem_outcomes_many.mp member
    exact Cursor.reaches_after split
  | seq first second firstReaches secondReaches =>
    obtain ⟨between, early, late⟩ := mem_outcomes_seq.mp member
    exact (firstReaches early).trans (secondReaches late)
  | alt first second firstReaches secondReaches =>
    rcases mem_outcomes_alt.mp member with early | late
    · exact firstReaches early
    · exact secondReaches late
  | star body reaches =>
    exact mem_roundOutcomes_induction .refl
      (fun _ _ _ found later => (reaches found).trans later) (.inl member)
  | lazyStar body reaches =>
    exact mem_roundOutcomes_induction .refl
      (fun _ _ _ found later => (reaches found).trans later) (.inr member)
  | capture part body reaches =>
    obtain ⟨inside, found, rfl⟩ := mem_outcomes_capture.mp member
    obtain ⟨consumed, split, position⟩ := reaches found
    exact ⟨consumed, split, position⟩
  | look test =>
    obtain ⟨-, rfl⟩ := mem_outcomes_look.mp member
    exact .refl _

/-! ## Characters that are never consumed -/

/-- Whether no part of the pattern can consume the character. -/
def Pattern.avoids (c : Char) : Pattern → Bool
  | empty => true
  | one test => !test c
  | many test => !test c
  | seq first second => first.avoids c && second.avoids c
  | alt first second => first.avoids c && second.avoids c
  | star body => body.avoids c
  | lazyStar body => body.avoids c
  | capture _ body => body.avoids c
  | look _ => true

/-- The later place lies behind some of the characters that are left at the earlier one, none of
which is the given one. -/
def Cursor.ReachesWithout (c : Char) (start stop : Cursor) : Prop :=
  ∃ consumed, start.rest = consumed ++ stop.rest ∧
    stop.position = start.position + consumed.length ∧ c ∉ consumed

theorem Cursor.ReachesWithout.refl (c : Char) (cursor : Cursor) : cursor.ReachesWithout c cursor :=
  ⟨[], rfl, rfl, List.not_mem_nil⟩

theorem Cursor.ReachesWithout.trans {c : Char} {first second third : Cursor}
    (early : first.ReachesWithout c second) (late : second.ReachesWithout c third) :
    first.ReachesWithout c third := by
  obtain ⟨before, split, position, avoided⟩ := early
  obtain ⟨after, split', position', avoided'⟩ := late
  refine ⟨before ++ after, ?_, ?_, ?_⟩
  · rw [split, split', List.append_assoc]
  · rw [position', position, List.length_append, Nat.add_assoc]
  · rw [List.mem_append]
    exact not_or.mpr ⟨avoided, avoided'⟩

theorem Pattern.reachesWithout_of_mem_outcomes {c : Char} {pattern : Pattern} {start stop : Cursor}
    (avoids : pattern.avoids c) (member : stop ∈ outcomes pattern start) :
    start.ReachesWithout c stop := by
  induction pattern generalizing start stop with
  | empty =>
    rw [mem_outcomes_empty.mp member]
    exact .refl c start
  | one test =>
    obtain ⟨d, rest, split, passed, rfl⟩ := mem_outcomes_one.mp member
    refine ⟨[d], split, rfl, ?_⟩
    intro same
    rw [List.mem_singleton.mp same, Pattern.avoids, passed] at avoids
    cases avoids
  | many test =>
    obtain ⟨consumed, rest, split, passed, rfl⟩ := mem_outcomes_many.mp member
    refine ⟨consumed, split, rfl, ?_⟩
    intro inside
    rw [Pattern.avoids, passed c inside] at avoids
    cases avoids
  | seq first second firstReaches secondReaches =>
    obtain ⟨avoidsFirst, avoidsSecond⟩ := Bool.and_eq_true_iff.mp avoids
    obtain ⟨between, early, late⟩ := mem_outcomes_seq.mp member
    exact (firstReaches avoidsFirst early).trans (secondReaches avoidsSecond late)
  | alt first second firstReaches secondReaches =>
    obtain ⟨avoidsFirst, avoidsSecond⟩ := Bool.and_eq_true_iff.mp avoids
    rcases mem_outcomes_alt.mp member with early | late
    · exact firstReaches avoidsFirst early
    · exact secondReaches avoidsSecond late
  | star body reaches =>
    exact mem_roundOutcomes_induction (.refl c)
      (fun _ _ _ found later => (reaches avoids found).trans later) (.inl member)
  | lazyStar body reaches =>
    exact mem_roundOutcomes_induction (.refl c)
      (fun _ _ _ found later => (reaches avoids found).trans later) (.inr member)
  | capture part body reaches =>
    obtain ⟨inside, found, rfl⟩ := mem_outcomes_capture.mp member
    obtain ⟨consumed, split, position, avoided⟩ := reaches avoids found
    exact ⟨consumed, split, position, avoided⟩
  | look test =>
    obtain ⟨-, rfl⟩ := mem_outcomes_look.mp member
    exact .refl c _

/-! ## Patterns that consume the pieces of a language -/

theorem Cursor.after_after (cursor : Cursor) (first between second rest : List Char) :
    (cursor.after first between).after second rest = cursor.after (first ++ second) rest := by
  have last : second.getLast?.or (first.getLast?.or cursor.previous) =
      (first ++ second).getLast?.or cursor.previous := by
    rw [List.getLast?_append, Option.or_assoc]
  simp only [after, List.length_append, last, Nat.add_assoc]

/-- From the given place the pattern reaches what lies behind the pieces of a language. -/
def Pattern.Consumes (pattern : Pattern) (language : List Char → Prop) (start : Cursor) : Prop :=
  ∀ stop, stop ∈ outcomes pattern start ↔
    ∃ piece rest, language piece ∧ start.rest = piece ++ rest ∧ stop = start.after piece rest

namespace Pattern

theorem consumes_atStart (text : List Char) : atStart.Consumes (· = []) (.atStart text) := by
  intro stop
  rw [atStart, mem_outcomes_look]
  constructor
  · rintro ⟨-, rfl⟩
    exact ⟨[], text, rfl, rfl, rfl⟩
  · rintro ⟨_, rest, rfl, split, rfl⟩
    cases (show text = rest from split)
    exact ⟨rfl, rfl⟩

theorem consumes_one (test : Char → Bool) (start : Cursor) :
    (one test).Consumes (fun piece => ∃ c, test c ∧ piece = [c]) start := by
  intro stop
  rw [mem_outcomes_one]
  constructor
  · rintro ⟨c, rest, split, passed, rfl⟩
    exact ⟨[c], rest, ⟨c, passed, rfl⟩, split, rfl⟩
  · rintro ⟨_, rest, ⟨c, passed, rfl⟩, split, rfl⟩
    exact ⟨c, rest, split, passed, rfl⟩

theorem consumes_many (test : Char → Bool) (start : Cursor) :
    (many test).Consumes (fun piece => ∀ c ∈ piece, test c) start := by
  intro stop
  rw [mem_outcomes_many]
  constructor
  · rintro ⟨piece, rest, split, passed, rfl⟩
    exact ⟨piece, rest, passed, split, rfl⟩
  · rintro ⟨piece, rest, passed, split, rfl⟩
    exact ⟨piece, rest, split, passed, rfl⟩

theorem consumes_word (text : String) (start : Cursor) :
    (word text).Consumes (· = text.toList) start := by
  intro stop
  rw [mem_outcomes_word]
  constructor
  · rintro ⟨rest, split, rfl⟩
    exact ⟨_, rest, rfl, split, rfl⟩
  · rintro ⟨_, rest, rfl, split, rfl⟩
    exact ⟨rest, split, rfl⟩

theorem Consumes.mem_outcomes {pattern : Pattern} {language : List Char → Prop} {start : Cursor}
    (consumes : pattern.Consumes language start) {piece rest : List Char} (held : language piece)
    (split : start.rest = piece ++ rest) : start.after piece rest ∈ outcomes pattern start :=
  (consumes _).mpr ⟨piece, rest, held, split, rfl⟩

theorem Consumes.append {first second : Pattern} {early late : List Char → Prop} {start : Cursor}
    (consumes : first.Consumes early start) (consumesLater : ∀ between, second.Consumes late between) :
    (first ++ second).Consumes
      (fun piece => ∃ one two, early one ∧ late two ∧ piece = one ++ two) start := by
  intro stop
  rw [mem_outcomes_append]
  constructor
  · rintro ⟨between, reached, further⟩
    obtain ⟨one, others, isEarly, split, rfl⟩ := (consumes between).mp reached
    obtain ⟨two, rest, isLate, splitLater, rfl⟩ := (consumesLater _ stop).mp further
    have remaining : others = two ++ rest := splitLater
    refine ⟨one ++ two, rest, ⟨one, two, isEarly, isLate, rfl⟩, ?_, start.after_after _ _ _ _⟩
    rw [split, remaining, List.append_assoc]
  · rintro ⟨_, rest, ⟨one, two, isEarly, isLate, rfl⟩, split, rfl⟩
    rw [List.append_assoc] at split
    refine ⟨start.after one (two ++ rest), consumes.mem_outcomes isEarly split, ?_⟩
    rw [← start.after_after one (two ++ rest) two rest]
    exact (consumesLater _).mem_outcomes isLate rfl

theorem Consumes.of_iff {pattern : Pattern} {language other : List Char → Prop} {start : Cursor}
    (consumes : pattern.Consumes language start) (same : ∀ piece, language piece ↔ other piece) :
    pattern.Consumes other start := by
  intro stop
  simp only [consumes stop, same]

end Pattern

/-! ## Places in a text -/

/-- The characters left at a place that is reached from the start of a text are those after its
position. -/
theorem Cursor.Reaches.rest_eq_drop {text : List Char} {cursor : Cursor}
    (reaches : (Cursor.atStart text).Reaches cursor) : text.drop cursor.position = cursor.rest := by
  obtain ⟨consumed, split, position⟩ := reaches
  rw [position, show text = consumed ++ cursor.rest from split]
  simp [atStart]

/-- A part that is recorded between two places of a text stops at the second. -/
theorem Cursor.Reaches.stop_excerpt {text : List Char} {first second : Cursor}
    (early : (Cursor.atStart text).Reaches first) (late : first.Reaches second) :
    ((Cursor.atStart text).excerpt ⟨first.position, second.position⟩).stop = second.position := by
  have here := early.rest_eq_drop
  obtain ⟨consumed, split, position⟩ := late
  simp only [excerpt, Excerpt.stop, atStart, Nat.sub_zero, here, split, position,
    Nat.add_sub_cancel_left, List.take_left]

/-- The text of a part stands in the text from the start of the part on. -/
theorem Pattern.infix_of_part? {pattern : Pattern} {text : List Char} {found : Match} {part : Part}
    {excerpt : Excerpt} (fits : pattern.matchStart? text = some found)
    (recorded : found.part? part = some excerpt) : excerpt.text <:+: text.drop excerpt.start := by
  obtain ⟨stop, -, rfl⟩ := exists_of_matchAt? fits
  rw [Cursor.part?_matched, Option.map_eq_some_iff] at recorded
  obtain ⟨span, -, rfl⟩ := recorded
  exact (List.take_prefix _ _).isInfix

/-! ## Matches in a text -/

namespace Pattern

variable {pattern : Pattern} {skip position : Nat} {previous : Option Char} {text : List Char}
  {found : Match}

/-- The match that a search finds is the first of all. -/
theorem head?_findAllAt (pattern : Pattern) (position : Nat) (previous : Option Char)
    (text : List Char) :
    (findAllAt pattern 0 position previous text).head? = searchAt? pattern position previous text := by
  induction text generalizing position previous with
  | nil => exact Option.head?_toList
  | cons c text inductionHypothesis =>
    rw [findAllAt, searchAt?]
    cases matchAt? pattern ⟨position, previous, c :: text, []⟩ with
    | some found => rfl
    | none => exact inductionHypothesis _ _

/-- Each of all matches is the first match at its place. -/
theorem exists_matchAt?_of_mem_findAllAt
    (member : found ∈ findAllAt pattern skip position previous text) :
    ∃ before rest, text = before ++ rest ∧
      matchAt? pattern ⟨position + before.length, before.getLast?.or previous, rest, []⟩ =
        some found := by
  induction text generalizing skip position previous with
  | nil =>
    cases skip with
    | zero => exact ⟨[], [], rfl, Option.mem_toList.mp member⟩
    | succ skip => exact absurd member List.not_mem_nil
  | cons c text inductionHypothesis =>
    have further {skip : Nat}
        (later : found ∈ findAllAt pattern skip (position + 1) (some c) text) :
        ∃ before rest, c :: text = before ++ rest ∧
          matchAt? pattern ⟨position + before.length, before.getLast?.or previous, rest, []⟩ =
            some found := by
      obtain ⟨before, rest, rfl, here⟩ := inductionHypothesis later
      refine ⟨c :: before, rest, rfl, ?_⟩
      rwa [getLast?_cons_or, List.length_cons, Nat.add_comm before.length, ← Nat.add_assoc]
    cases skip with
    | succ skip => exact further member
    | zero =>
      rw [findAllAt] at member
      cases first : matchAt? pattern ⟨position, previous, c :: text, []⟩ with
      | none =>
        rw [first] at member
        exact further member
      | some other =>
        rw [first] at member
        rcases List.mem_cons.mp member with rfl | later
        · exact ⟨[], c :: text, rfl, first⟩
        · exact further later

theorem exists_matchAt?_of_mem_findAll (member : found ∈ findAll pattern text) :
    ∃ before rest, text = before ++ rest ∧
      matchAt? pattern ⟨before.length, before.getLast?, rest, []⟩ = some found := by
  simpa only [Option.or_none, Nat.zero_add] using exists_matchAt?_of_mem_findAllAt member

theorem mem_findAllAt_of_searchAt? (first : searchAt? pattern position previous text = some found) :
    found ∈ findAllAt pattern 0 position previous text :=
  List.mem_of_head? ((head?_findAllAt ..).trans first)

/-- The first match in a text starts before one of the ends of the text. -/
theorem exists_of_searchAt? (first : searchAt? pattern position previous text = some found) :
    ∃ cursor, cursor.rest <:+ text ∧ matchAt? pattern cursor = some found := by
  obtain ⟨before, rest, rfl, here⟩ :=
    exists_matchAt?_of_mem_findAllAt (mem_findAllAt_of_searchAt? first)
  exact ⟨_, List.suffix_append before rest, here⟩

end Pattern

end HouseStyle
