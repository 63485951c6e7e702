import HouseStyle.Proofs.Pattern.Room

/-!
Contract: what a pattern reads, apart from the way in which its matcher finds it.

Owns: the pieces that a pattern reads between the character before them and the characters behind
them, their agreement with the outcomes of the matcher, reading in other surroundings, and which
places a search reaches.
Does not own: the parts that a pattern records, which a reading forgets.

A reading has no positions and no fuel, so it can be carried from one text to another. Every match is
a reading (`exists_reads_of_mem_findAll`); a reading need not be a match, since another match may
overlap it, but some match then covers the place where it starts (`exists_covering_of_reads`).

Main statements: `exists_reads_of_mem_outcomes` and `exists_mem_outcomes_of_reads`, which together
say that the matcher reaches exactly the places behind a reading.
-/

namespace HouseStyle

/-- The later place lies just behind a piece that starts at the earlier one. -/
structure Cursor.Passes (start : Cursor) (piece : List Char) (stop : Cursor) : Prop where
  rest : start.rest = piece ++ stop.rest
  position : stop.position = start.position + piece.length
  previous : stop.previous = piece.getLast?.or start.previous

namespace Cursor.Passes

theorem refl (cursor : Cursor) : cursor.Passes [] cursor :=
  ⟨rfl, rfl, rfl⟩

theorem trans {first second third : Cursor} {early late : List Char}
    (before : first.Passes early second) (behind : second.Passes late third) :
    first.Passes (early ++ late) third where
  rest := by rw [before.rest, behind.rest, List.append_assoc]
  position := by rw [behind.position, before.position, List.length_append, Nat.add_assoc]
  previous := by rw [behind.previous, before.previous, List.getLast?_append, Option.or_assoc]

theorem after {cursor : Cursor} {piece rest : List Char} (split : cursor.rest = piece ++ rest) :
    cursor.Passes piece (cursor.after piece rest) :=
  ⟨split, rfl, rfl⟩

theorem advance {cursor : Cursor} {c : Char} {rest : List Char} (split : cursor.rest = c :: rest) :
    cursor.Passes [c] (cursor.advance c rest) :=
  ⟨split, rfl, rfl⟩

end Cursor.Passes

namespace Pattern

/-- Rounds of a body, each reading where the one before it stopped. -/
inductive Rounds (body : Option Char → List Char → List Char → Prop) :
    Option Char → List Char → List Char → Prop where
  | done (previous : Option Char) (rest : List Char) : Rounds body previous [] rest
  | round {previous : Option Char} {first others rest : List Char}
      (head : body previous first (others ++ rest))
      (tail : Rounds body (first.getLast?.or previous) others rest) :
      Rounds body previous (first ++ others) rest

/-- The pattern reads the piece between the character before it and the characters behind it. -/
def Reads : Pattern → Option Char → List Char → List Char → Prop
  | empty, _, piece, _ => piece = []
  | one test, _, piece, _ => ∃ c, test c ∧ piece = [c]
  | many test, _, piece, _ => ∀ c ∈ piece, test c
  | seq first second, previous, piece, rest => ∃ early late, piece = early ++ late ∧
      first.Reads previous early (late ++ rest) ∧
      second.Reads (early.getLast?.or previous) late rest
  | alt first second, previous, piece, rest =>
      first.Reads previous piece rest ∨ second.Reads previous piece rest
  | star body, previous, piece, rest => Rounds body.Reads previous piece rest
  | lazyStar body, previous, piece, rest => Rounds body.Reads previous piece rest
  | capture _ body, previous, piece, rest => body.Reads previous piece rest
  | look test, previous, piece, rest => piece = [] ∧ test previous rest

variable {pattern first second body : Pattern} {test : Char → Bool} {previous other : Option Char}
  {piece rest : List Char} {start stop : Cursor}

/-! ## The vocabulary -/

theorem reads_append : (first ++ second).Reads previous piece rest ↔
    ∃ early late, piece = early ++ late ∧ first.Reads previous early (late ++ rest) ∧
      second.Reads (early.getLast?.or previous) late rest :=
  Iff.rfl

theorem reads_orElse : (first <|> second).Reads previous piece rest ↔
    first.Reads previous piece rest ∨ second.Reads previous piece rest :=
  Iff.rfl

theorem reads_opt :
    (opt body).Reads previous piece rest ↔ body.Reads previous piece rest ∨ piece = [] :=
  Iff.rfl

theorem reads_char {c : Char} : (char c).Reads previous piece rest ↔ piece = [c] := by
  simp [char, Reads]

theorem reads_several : (several test).Reads previous piece rest ↔
    piece ≠ [] ∧ ∀ c ∈ piece, test c := by
  constructor
  · rintro ⟨_, late, rfl, ⟨c, passes, rfl⟩, all⟩
    refine ⟨List.cons_ne_nil _ _, fun d member => ?_⟩
    rcases List.mem_cons.mp member with rfl | later
    · exact passes
    · exact all d later
  · rintro ⟨some, all⟩
    obtain ⟨c, late, rfl⟩ := List.exists_cons_of_ne_nil some
    exact ⟨[c], late, rfl, ⟨c, all c List.mem_cons_self, rfl⟩,
      fun d member => all d (List.mem_cons_of_mem c member)⟩

theorem reads_characters {text : List Char} :
    (characters text).Reads previous piece rest ↔ piece = text := by
  induction text generalizing previous piece with
  | nil => exact Iff.rfl
  | cons c text inductionHypothesis =>
    cases text with
    | nil => exact reads_char
    | cons d text =>
      rw [characters, reads_append]
      constructor
      · rintro ⟨early, late, rfl, head, tail⟩
        rw [reads_char.mp head, inductionHypothesis.mp tail]
        rfl
      · rintro rfl
        exact ⟨[c], d :: text, rfl, reads_char.mpr rfl, inductionHypothesis.mpr rfl⟩
      · exact List.cons_ne_nil d text

theorem reads_word {text : String} : (word text).Reads previous piece rest ↔ piece = text.toList :=
  reads_characters

theorem reads_oneOf {words : List String} : (oneOf words).Reads previous piece rest ↔
    ∃ text ∈ words, piece = text.toList := by
  induction words with
  | nil => simp [oneOf, Reads]
  | cons text words inductionHypothesis =>
    cases words with
    | nil => simp [oneOf, reads_word]
    | cons other words =>
      rw [oneOf, reads_orElse, reads_word, inductionHypothesis]
      · simp
      · exact List.cons_ne_nil other words

/-! ## Agreement with the matcher -/

private theorem exists_rounds_of_mem {fuel : Nat}
    (reads : ∀ {start stop : Cursor}, stop ∈ outcomes body start →
      ∃ piece, start.Passes piece stop ∧ body.Reads start.previous piece stop.rest)
    (member : stop ∈ roundOutcomes (outcomes body) fuel start ∨
      stop ∈ lazyRoundOutcomes (outcomes body) fuel start) :
    ∃ piece, start.Passes piece stop ∧ Rounds body.Reads start.previous piece stop.rest := by
  let holds (start stop : Cursor) : Prop :=
    ∃ piece, start.Passes piece stop ∧ Rounds body.Reads start.previous piece stop.rest
  refine @mem_roundOutcomes_induction start stop holds (outcomes body)
    (fun cursor => ⟨[], .refl cursor, .done _ _⟩) ?_ fuel member
  rintro cursor next stop found ⟨others, passes', tail⟩
  obtain ⟨first, passes, head⟩ := reads found
  rw [passes'.rest] at head
  rw [passes.previous] at tail
  exact ⟨first ++ others, passes.trans passes', .round head tail⟩

/-- The piece up to a place that the matcher reaches is read. -/
theorem exists_reads_of_mem_outcomes (member : stop ∈ outcomes pattern start) :
    ∃ piece, start.Passes piece stop ∧ pattern.Reads start.previous piece stop.rest := by
  induction pattern generalizing start stop with
  | empty =>
    rw [mem_outcomes_empty.mp member]
    exact ⟨[], .refl start, rfl⟩
  | one test =>
    obtain ⟨c, rest, split, passed, rfl⟩ := mem_outcomes_one.mp member
    exact ⟨[c], .advance split, c, passed, rfl⟩
  | many test =>
    obtain ⟨consumed, rest, split, passed, rfl⟩ := mem_outcomes_many.mp member
    exact ⟨consumed, .after split, passed⟩
  | seq first second readsFirst readsSecond =>
    obtain ⟨between, early, late⟩ := mem_outcomes_seq.mp member
    obtain ⟨before, passes, reads⟩ := readsFirst early
    obtain ⟨behind, passes', reads'⟩ := readsSecond late
    rw [passes'.rest] at reads
    rw [passes.previous] at reads'
    exact ⟨before ++ behind, passes.trans passes', before, behind, rfl, reads, reads'⟩
  | alt first second readsFirst readsSecond =>
    rcases mem_outcomes_alt.mp member with early | late
    · obtain ⟨piece, passes, reads⟩ := readsFirst early
      exact ⟨piece, passes, .inl reads⟩
    · obtain ⟨piece, passes, reads⟩ := readsSecond late
      exact ⟨piece, passes, .inr reads⟩
  | star body reads => exact exists_rounds_of_mem reads (.inl member)
  | lazyStar body reads => exact exists_rounds_of_mem reads (.inr member)
  | capture part body reads =>
    obtain ⟨inside, found, rfl⟩ := mem_outcomes_capture.mp member
    obtain ⟨piece, passes, reads⟩ := reads found
    exact ⟨piece, ⟨passes.rest, passes.position, passes.previous⟩, reads⟩
  | look test =>
    obtain ⟨passed, rfl⟩ := mem_outcomes_look.mp member
    exact ⟨[], .refl _, rfl, passed⟩

/-- Rounds of a body are walked as long as the fuel lasts, whichever end they are tried from. -/
private theorem exists_mem_of_rounds {walk : Nat → Cursor → List Cursor}
    (stay : ∀ fuel cursor, cursor ∈ walk fuel cursor)
    (go : ∀ {fuel cursor next stop}, next ∈ outcomes body cursor →
      cursor.position < next.position → stop ∈ walk fuel next → stop ∈ walk (fuel + 1) cursor)
    (reaches : ∀ {start : Cursor} {piece rest : List Char}, body.Reads start.previous piece rest →
      start.rest = piece ++ rest →
        ∃ stop ∈ outcomes body start, start.Passes piece stop ∧ stop.rest = rest)
    (rounds : Rounds body.Reads previous piece rest) {fuel : Nat} {start : Cursor}
    (before : start.previous = previous) (split : start.rest = piece ++ rest)
    (enough : piece.length ≤ fuel) :
    ∃ stop ∈ walk fuel start, start.Passes piece stop ∧ stop.rest = rest := by
  induction rounds generalizing fuel start with
  | done previous rest => exact ⟨start, stay fuel start, .refl start, split⟩
  | @round previous first others rest head tail inductionHypothesis =>
    by_cases idle : first = []
    · subst idle
      exact inductionHypothesis before split enough
    · rw [List.append_assoc] at split
      rw [List.length_append] at enough
      obtain ⟨next, found, passes, left⟩ := reaches (before ▸ head) split
      have ahead := List.length_pos_iff.mpr idle
      have position := passes.position
      obtain ⟨less, rfl⟩ : ∃ less, fuel = less + 1 := ⟨fuel - 1, by omega⟩
      obtain ⟨stop, walked, passes', left'⟩ :=
        inductionHypothesis (passes.previous.trans (congrArg _ before)) left
          (show others.length ≤ less by omega)
      exact ⟨stop, go found (by omega) walked, passes.trans passes', left'⟩

/-- The matcher reaches the place behind a piece that is read. -/
theorem exists_mem_outcomes_of_reads (reads : pattern.Reads start.previous piece rest)
    (split : start.rest = piece ++ rest) :
    ∃ stop ∈ outcomes pattern start, start.Passes piece stop ∧ stop.rest = rest := by
  induction pattern generalizing start piece rest with
  | empty =>
    obtain rfl : piece = [] := reads
    exact ⟨start, mem_outcomes_empty.mpr rfl, .refl start, split⟩
  | one test =>
    obtain ⟨c, passed, rfl⟩ := reads
    exact ⟨start.advance c rest, mem_outcomes_one.mpr ⟨c, rest, split, passed, rfl⟩,
      .advance split, rfl⟩
  | many test =>
    exact ⟨start.after piece rest, mem_outcomes_many.mpr ⟨piece, rest, split, reads, rfl⟩,
      .after split, rfl⟩
  | seq first second reachesFirst reachesSecond =>
    obtain ⟨early, late, rfl, head, tail⟩ := reads
    rw [List.append_assoc] at split
    obtain ⟨between, found, passes, left⟩ := reachesFirst head split
    obtain ⟨stop, found', passes', left'⟩ := reachesSecond (passes.previous ▸ tail) left
    exact ⟨stop, mem_outcomes_seq.mpr ⟨between, found, found'⟩, passes.trans passes', left'⟩
  | alt first second reachesFirst reachesSecond =>
    rcases reads with reads | reads
    · obtain ⟨stop, found, passes⟩ := reachesFirst reads split
      exact ⟨stop, mem_outcomes_alt.mpr (.inl found), passes⟩
    · obtain ⟨stop, found, passes⟩ := reachesSecond reads split
      exact ⟨stop, mem_outcomes_alt.mpr (.inr found), passes⟩
  | star body reaches =>
    rw [outcomes]
    refine exists_mem_of_rounds (fun fuel cursor => ?_) (fun found ahead later => ?_) reaches reads
      rfl split (by rw [split, List.length_append]; omega)
    · cases fuel <;> simp [roundOutcomes]
    · rw [roundOutcomes, List.mem_append, List.mem_flatMap]
      exact .inl ⟨_, List.mem_filter.mpr ⟨found, decide_eq_true ahead⟩, later⟩
  | lazyStar body reaches =>
    rw [outcomes]
    refine exists_mem_of_rounds (fun fuel cursor => ?_) (fun found ahead later => ?_) reaches reads
      rfl split (by rw [split, List.length_append]; omega)
    · cases fuel <;> simp [lazyRoundOutcomes]
    · rw [lazyRoundOutcomes, List.mem_cons, List.mem_flatMap]
      exact .inr ⟨_, List.mem_filter.mpr ⟨found, decide_eq_true ahead⟩, later⟩
  | capture part body reaches =>
    obtain ⟨stop, found, passes, left⟩ := reaches reads split
    exact ⟨start.record part stop, mem_outcomes_capture.mpr ⟨stop, found, rfl⟩,
      ⟨passes.rest, passes.position, passes.previous⟩, left⟩
  | look test =>
    obtain ⟨rfl, passed⟩ := reads
    obtain rfl : start.rest = rest := split
    exact ⟨start, mem_outcomes_look.mpr ⟨passed, rfl⟩, .refl start, rfl⟩

/-! ## Matches and searches -/

variable {position skip : Nat} {text : List Char} {found : Match}

/-- A match at a place is a reading there. -/
theorem exists_reads_of_matchAt? (here : matchAt? pattern ⟨position, previous, text, []⟩ = some found) :
    ∃ piece rest, text = piece ++ rest ∧ found.whole = ⟨position, piece⟩ ∧
      pattern.Reads previous piece rest := by
  obtain ⟨stop, reached, rfl⟩ := exists_of_matchAt? here
  obtain ⟨piece, passes, reads⟩ := exists_reads_of_mem_outcomes reached
  refine ⟨piece, stop.rest, passes.rest, ?_, reads⟩
  simp [Cursor.matched, Cursor.excerpt, passes.position, show text = _ from passes.rest]

theorem bounds_of_matchAt? (here : matchAt? pattern ⟨position, previous, text, []⟩ = some found) :
    found.start = position ∧ found.stop = position + found.whole.length := by
  obtain ⟨piece, rest, -, whole, -⟩ := exists_reads_of_matchAt? here
  rw [Match.start, Match.stop, whole]
  exact ⟨rfl, rfl⟩

/-- Where something can be read, the matcher finds a match. -/
theorem exists_matchAt?_of_reads (reads : pattern.Reads previous piece rest) (position : Nat) :
    ∃ found, matchAt? pattern ⟨position, previous, piece ++ rest, []⟩ = some found := by
  obtain ⟨stop, reached, -⟩ :=
    @exists_mem_outcomes_of_reads pattern piece rest ⟨position, previous, piece ++ rest, []⟩ reads rfl
  rw [matchAt?_eq]
  cases reach : outcomes pattern ⟨position, previous, piece ++ rest, []⟩ with
  | nil =>
    rw [reach] at reached
    cases reached
  | cons first others => exact ⟨_, rfl⟩

/-- A pattern fits a text if and only if it reads a piece at its start. -/
theorem fits_iff_reads :
    pattern.fits text ↔ ∃ piece rest, text = piece ++ rest ∧ pattern.Reads none piece rest := by
  constructor
  · intro fits
    obtain ⟨found, here⟩ := Option.isSome_iff_exists.mp fits
    obtain ⟨piece, rest, split, -, reads⟩ := exists_reads_of_matchAt? here
    exact ⟨piece, rest, split, reads⟩
  · rintro ⟨piece, rest, rfl, reads⟩
    obtain ⟨found, here⟩ := exists_matchAt?_of_reads reads 0
    exact Option.isSome_of_eq_some here

/-- A pattern occurs in a text if and only if it reads some piece of it. -/
theorem isSome_searchAt?_iff : (searchAt? pattern position previous text).isSome ↔
    ∃ before piece rest, text = before ++ (piece ++ rest) ∧
      pattern.Reads (before.getLast?.or previous) piece rest := by
  induction text generalizing position previous with
  | nil =>
    rw [searchAt?]
    constructor
    · intro some
      obtain ⟨found, here⟩ := Option.isSome_iff_exists.mp some
      obtain ⟨piece, rest, split, -, reads⟩ := exists_reads_of_matchAt? here
      exact ⟨[], piece, rest, split, reads⟩
    · rintro ⟨before, piece, rest, split, reads⟩
      obtain ⟨rfl, both⟩ := List.append_eq_nil_iff.mp split.symm
      obtain ⟨rfl, rfl⟩ := List.append_eq_nil_iff.mp both
      obtain ⟨found, here⟩ := exists_matchAt?_of_reads reads position
      exact Option.isSome_iff_exists.mpr ⟨found, here⟩
  | cons c text inductionHypothesis =>
    rw [searchAt?]
    constructor
    · cases here : matchAt? pattern ⟨position, previous, c :: text, []⟩ with
      | some found =>
        intro
        obtain ⟨piece, rest, split, -, reads⟩ := exists_reads_of_matchAt? here
        exact ⟨[], piece, rest, split, reads⟩
      | none =>
        intro later
        obtain ⟨before, piece, rest, rfl, reads⟩ := inductionHypothesis.mp later
        exact ⟨c :: before, piece, rest, rfl, by rwa [getLast?_cons_or]⟩
    · rintro ⟨before, piece, rest, split, reads⟩
      cases here : matchAt? pattern ⟨position, previous, c :: text, []⟩ with
      | some found => rfl
      | none =>
        cases before with
        | nil =>
          obtain ⟨found, found'⟩ := exists_matchAt?_of_reads reads position
          rw [← show c :: text = piece ++ rest from split] at found'
          cases here.symm.trans found'
        | cons d before =>
          obtain ⟨rfl, rfl⟩ := List.cons.inj split
          rw [getLast?_cons_or] at reads
          exact inductionHypothesis.mpr ⟨before, piece, rest, rfl, reads⟩

theorem occurs_iff_reads : pattern.occurs text ↔ ∃ before piece rest,
    text = before ++ (piece ++ rest) ∧ pattern.Reads before.getLast? piece rest := by
  rw [occurs, search?, isSome_searchAt?_iff]
  simp only [Option.or_none]

/-- Each of all matches is a reading of the piece that it covers. -/
theorem exists_reads_of_mem_findAllAt
    (member : found ∈ findAllAt pattern skip position previous text) :
    ∃ before piece rest, text = before ++ (piece ++ rest) ∧
      found.whole = ⟨position + before.length, piece⟩ ∧
      pattern.Reads (before.getLast?.or previous) piece rest := by
  obtain ⟨before, _, rfl, here⟩ := exists_matchAt?_of_mem_findAllAt member
  obtain ⟨piece, rest, rfl, whole, reads⟩ := exists_reads_of_matchAt? here
  exact ⟨before, piece, rest, rfl, whole, reads⟩

theorem exists_reads_of_mem_findAll (member : found ∈ findAll pattern text) :
    ∃ before piece rest, text = before ++ (piece ++ rest) ∧
      found.whole = ⟨before.length, piece⟩ ∧ pattern.Reads before.getLast? piece rest := by
  simpa only [Option.or_none, Nat.zero_add] using exists_reads_of_mem_findAllAt member

/-- All matches lie one behind the other, and none starts in what is skipped. -/
theorem pairwise_findAllAt : (findAllAt pattern skip position previous text).Pairwise
      (fun first second => first.stop ≤ second.start) ∧
    ∀ found ∈ findAllAt pattern skip position previous text, position + skip ≤ found.start := by
  induction text generalizing skip position previous with
  | nil =>
    cases skip with
    | zero =>
      rw [findAllAt]
      cases here : matchAt? pattern ⟨position, previous, [], []⟩ with
      | none => exact ⟨.nil, fun found member => absurd member List.not_mem_nil⟩
      | some found =>
        refine ⟨List.pairwise_singleton _ _, fun other member => ?_⟩
        rw [List.mem_singleton.mp member, (bounds_of_matchAt? here).1]
        exact Nat.le_refl position
    | succ skip => exact ⟨.nil, fun found member => absurd member List.not_mem_nil⟩
  | cons c text inductionHypothesis =>
    cases skip with
    | succ skip =>
      obtain ⟨ordered, behind⟩ := @inductionHypothesis (some c) (position + 1) skip
      refine ⟨ordered, fun found member => ?_⟩
      have later := behind found member
      omega
    | zero =>
      rw [findAllAt]
      cases here : matchAt? pattern ⟨position, previous, c :: text, []⟩ with
      | none =>
        obtain ⟨ordered, behind⟩ := @inductionHypothesis (some c) (position + 1) 0
        refine ⟨ordered, fun found member => ?_⟩
        have later := behind found member
        omega
      | some first =>
        obtain ⟨ordered, behind⟩ :=
          @inductionHypothesis (some c) (position + 1) (first.whole.length - 1)
        have bounds := bounds_of_matchAt? here
        refine ⟨.cons (fun found member => ?_) ordered, fun found member => ?_⟩
        · have later := behind found member
          omega
        · rcases List.mem_cons.mp member with rfl | among
          · omega
          · have later := behind found among
            omega

theorem pairwise_findAll :
    (findAll pattern text).Pairwise fun first second => first.stop ≤ second.start :=
  pairwise_findAllAt.1

/-- A reading has at least as many characters as the pattern needs. -/
theorem least_le_length (reads : pattern.Reads previous piece rest) :
    pattern.least ≤ piece.length := by
  obtain ⟨stop, reached, passes, -⟩ :=
    @exists_mem_outcomes_of_reads pattern piece rest ⟨0, previous, piece ++ rest, []⟩ reads rfl
  have least := position_add_least_le reached
  rw [passes.position] at least
  omega

/-- The place where something can be read is skipped after an earlier match, or else one of all
matches covers it. -/
theorem exists_covering_of_reads_at (consumes : 0 < pattern.least) {before : List Char}
    (reads : pattern.Reads (before.getLast?.or previous) piece rest) :
    before.length < skip ∨
      ∃ found ∈ findAllAt pattern skip position previous (before ++ (piece ++ rest)),
        found.start ≤ position + before.length ∧ position + before.length < found.stop := by
  have written {found : Match} {text : List Char} {position : Nat} {previous : Option Char}
      (here : matchAt? pattern ⟨position, previous, text, []⟩ = some found) :
      0 < found.whole.length := by
    obtain ⟨piece, rest, -, whole, reads⟩ := exists_reads_of_matchAt? here
    rw [whole]
    exact Nat.lt_of_lt_of_le consumes (least_le_length reads)
  induction before generalizing skip position previous with
  | nil =>
    cases skip with
    | succ skip => exact .inl (Nat.succ_pos skip)
    | zero =>
      right
      obtain ⟨found, here⟩ := exists_matchAt?_of_reads reads position
      obtain ⟨c, more, same⟩ : ∃ c more, piece ++ rest = c :: more := by
        refine List.exists_cons_of_ne_nil fun none => ?_
        have least := Nat.lt_of_lt_of_le consumes (least_le_length reads)
        rw [(List.append_eq_nil_iff.mp none).1] at least
        exact absurd least (Nat.lt_irrefl 0)
      have some := written here
      have bounds := bounds_of_matchAt? here
      simp only [List.getLast?_nil, Option.none_or, same] at here
      refine ⟨found, ?_, Nat.le_of_eq bounds.1, by rw [List.length_nil]; omega⟩
      rw [List.nil_append, same, findAllAt, here]
      exact List.mem_cons_self
  | cons c before inductionHypothesis =>
    rw [getLast?_cons_or] at reads
    rw [List.length_cons, List.cons_append, Nat.add_comm before.length, ← Nat.add_assoc]
    have later (skip : Nat) := @inductionHypothesis (some c) (position + 1) skip reads
    cases skip with
    | succ skip =>
      rcases later skip with skipped | covered
      · exact .inl (by omega)
      · exact .inr covered
    | zero =>
      right
      rw [findAllAt]
      cases here : matchAt? pattern ⟨position, previous, c :: (before ++ (piece ++ rest)), []⟩ with
      | none =>
        exact (later 0).resolve_left (Nat.not_lt_zero _)
      | some first =>
        have some := written here
        have bounds := bounds_of_matchAt? here
        rcases later (first.whole.length - 1) with skipped | ⟨found, member, covers⟩
        · exact ⟨first, List.mem_cons_self, by omega, by omega⟩
        · exact ⟨found, List.mem_cons_of_mem _ member, covers⟩

/-- One of all matches covers the place where something can be read. -/
theorem exists_covering_of_reads (consumes : 0 < pattern.least) {before : List Char}
    (reads : pattern.Reads before.getLast? piece rest) :
    ∃ found ∈ findAll pattern (before ++ (piece ++ rest)),
      found.start ≤ before.length ∧ before.length < found.stop := by
  have covered := @exists_covering_of_reads_at pattern none piece rest 0 0 consumes before
    (by rwa [Option.or_none])
  simpa only [findAll, Nat.not_lt_zero, false_or, Nat.zero_add] using covered

/-! ## Other surroundings -/

/-- No look of the pattern tells related surroundings apart. -/
def Indifferent (alike : Option Char → Option Char → Prop) : Pattern → Prop
  | empty => True
  | one _ => True
  | many _ => True
  | seq first second => first.Indifferent alike ∧ second.Indifferent alike
  | alt first second => first.Indifferent alike ∧ second.Indifferent alike
  | star body => body.Indifferent alike
  | lazyStar body => body.Indifferent alike
  | capture _ body => body.Indifferent alike
  | look test => ∀ previous other rest others,
      alike previous other → alike rest.head? others.head? → test previous rest = test other others

/-- Whether the pattern never looks around. -/
def lookless : Pattern → Bool
  | seq first second => first.lookless && second.lookless
  | alt first second => first.lookless && second.lookless
  | star body => body.lookless
  | lazyStar body => body.lookless
  | capture _ body => body.lookless
  | look _ => false
  | _ => true

theorem indifferent_of_lookless (alike : Option Char → Option Char → Prop)
    (never : pattern.lookless) : pattern.Indifferent alike := by
  induction pattern with
  | empty => trivial
  | one test => trivial
  | many test => trivial
  | seq first second neverFirst neverSecond =>
    obtain ⟨early, late⟩ := (Bool.and_eq_true _ _).mp never
    exact ⟨neverFirst early, neverSecond late⟩
  | alt first second neverFirst neverSecond =>
    obtain ⟨early, late⟩ := (Bool.and_eq_true _ _).mp never
    exact ⟨neverFirst early, neverSecond late⟩
  | star body inside => exact inside never
  | lazyStar body inside => exact inside never
  | capture part body inside => exact inside never
  | look test => cases never

theorem Indifferent.append {alike : Option Char → Option Char → Prop}
    (indifferent : first.Indifferent alike) (never : second.lookless) :
    (first ++ second).Indifferent alike :=
  ⟨indifferent, indifferent_of_lookless alike never⟩

section Surroundings

variable {alike : Option Char → Option Char → Prop} (refl : ∀ c, alike c c)
include refl

theorem alike_head?_append {others : List Char} (behind : alike rest.head? others.head?) :
    alike (piece ++ rest).head? (piece ++ others).head? := by
  cases piece with
  | nil => exact behind
  | cons c piece => exact refl _

theorem alike_getLast?_or (before : alike previous other) :
    alike (piece.getLast?.or previous) (piece.getLast?.or other) := by
  cases piece.getLast? with
  | none => exact before
  | some c => exact refl _

/-- What is read in one place is read in every place with related surroundings. -/
theorem Reads.carried {others : List Char} (reads : pattern.Reads previous piece rest)
    (indifferent : pattern.Indifferent alike) (before : alike previous other)
    (behind : alike rest.head? others.head?) : pattern.Reads other piece others := by
  have rounds {body : Pattern} {previous other : Option Char} {piece rest others : List Char}
      (carried : ∀ {previous other : Option Char} {piece rest others : List Char},
        body.Reads previous piece rest → alike previous other →
          alike rest.head? others.head? → body.Reads other piece others)
      (reads : Rounds body.Reads previous piece rest) (before : alike previous other)
      (behind : alike rest.head? others.head?) : Rounds body.Reads other piece others := by
    induction reads generalizing other with
    | done previous rest => exact .done _ _
    | round head tail inductionHypothesis =>
      exact .round (carried head before (alike_head?_append refl behind))
        (inductionHypothesis (alike_getLast?_or refl before) behind)
  induction pattern generalizing previous other piece rest others with
  | empty => exact reads
  | one test => exact reads
  | many test => exact reads
  | seq first second carriedFirst carriedSecond =>
    obtain ⟨early, late, rfl, head, tail⟩ := reads
    exact ⟨early, late, rfl,
      carriedFirst head indifferent.1 before (alike_head?_append refl behind),
      carriedSecond tail indifferent.2 (alike_getLast?_or refl before) behind⟩
  | alt first second carriedFirst carriedSecond =>
    exact reads.imp (carriedFirst · indifferent.1 before behind)
      (carriedSecond · indifferent.2 before behind)
  | star body carried =>
    exact rounds (fun head => carried head indifferent) reads before behind
  | lazyStar body carried =>
    exact rounds (fun head => carried head indifferent) reads before behind
  | capture part body carried => exact carried reads indifferent before behind
  | look test =>
    obtain ⟨rfl, passed⟩ := reads
    exact ⟨rfl, indifferent _ _ _ _ before behind ▸ passed⟩

end Surroundings

end Pattern

end HouseStyle
