import HouseStyle.Proofs.Pattern.Reach

/-!
Contract: where matches and their parts lie in a text.

Owns: the least number of characters that a pattern consumes, that it records as a part, and that it
consumes behind the part; the ends of matches within the text.
Does not own: what a match consumes, which `Pattern.outcomes` gives.

The least numbers are read off a pattern, so that the room around a part of a given pattern is known
by computation.

Main statements: a match ends within its text (`Pattern.Matched.stop_le`), and its parts leave room
(`Pattern.Matched.room`).
-/

namespace HouseStyle

/-- The least number of characters inside a part and between its end and the end of a match. -/
structure Room where
  inside : Nat
  behind : Nat
deriving DecidableEq, Repr

/-- The room that is there in either case, where a part is recorded in one of two ways. -/
def Room.meet : Option Room → Option Room → Option Room
  | none, other => other
  | some room, none => some room
  | some room, some other => some ⟨min room.inside other.inside, min room.behind other.behind⟩

theorem Room.meet_comm (first second : Option Room) : meet first second = meet second first := by
  cases first <;> cases second <;> simp [meet, Nat.min_comm]

/-- The room where further characters are consumed behind the part. -/
def Room.before (count : Nat) (room : Room) : Room :=
  { room with behind := room.behind + count }

namespace Pattern

/-- The least number of characters that a pattern consumes. -/
def least : Pattern → Nat
  | empty => 0
  | one _ => 1
  | many _ => 0
  | seq first second => first.least + second.least
  | alt first second => min first.least second.least
  | star _ => 0
  | lazyStar _ => 0
  | capture _ body => body.least
  | look _ => 0

/-- The room around a part where the pattern records it, or nothing if it never does. -/
def room (part : Part) : Pattern → Option Room
  | empty => none
  | one _ => none
  | many _ => none
  | seq first second => Room.meet ((first.room part).map (Room.before second.least)) (second.room part)
  | alt first second => Room.meet (first.room part) (second.room part)
  | star body => body.room part
  | lazyStar body => body.room part
  | capture recorded body => if part = recorded then some ⟨body.least, 0⟩ else body.room part
  | look _ => none

end Pattern

/-- Between two places a part is recorded, and the given room is around it. -/
def Cursor.Records (part : Part) (room? : Option Room) (start stop : Cursor) : Prop :=
  ∃ span room, stop.captures.lookup part = some span ∧ room? = some room ∧
    start.position ≤ span.start ∧ span.start + room.inside ≤ span.stop ∧
    span.stop + room.behind ≤ stop.position

/-- From one place to a later one a part stays as it is, or is recorded with the given room. -/
def Cursor.Traces (part : Part) (room? : Option Room) (start stop : Cursor) : Prop :=
  start.position ≤ stop.position ∧
    (stop.captures.lookup part = start.captures.lookup part ∨ Records part room? start stop)

namespace Cursor.Records

variable {part : Part} {start stop : Cursor} {first second : Option Room}

theorem meet_left (records : Records part first start stop) (other : Option Room) :
    Records part (Room.meet first other) start stop := by
  obtain ⟨span, room, found, rfl, behind, inside, before⟩ := records
  cases other with
  | none => exact ⟨span, room, found, rfl, behind, inside, before⟩
  | some other =>
    refine ⟨span, _, found, rfl, behind, ?_, ?_⟩
    · simp only
      omega
    · simp only
      omega

theorem meet_right (other : Option Room) (records : Records part second start stop) :
    Records part (Room.meet other second) start stop := by
  rw [Room.meet_comm]
  exact records.meet_left other

end Cursor.Records

theorem Cursor.Traces.refl (part : Part) (room? : Option Room) (cursor : Cursor) :
    Traces part room? cursor cursor :=
  ⟨Nat.le_refl _, .inl rfl⟩

theorem Cursor.Traces.trans {part : Part} {room? : Option Room} {first second third : Cursor}
    (early : Traces part room? first second) (late : Traces part room? second third) :
    Traces part room? first third := by
  obtain ⟨ahead, earlier⟩ := early
  obtain ⟨further, later⟩ := late
  refine ⟨Nat.le_trans ahead further, ?_⟩
  rcases later with same | ⟨span, room, found, known, behind, rest⟩
  · rcases earlier with sameToo | ⟨span, room, found, known, behind, inside, before⟩
    · exact .inl (same.trans sameToo)
    · exact .inr ⟨span, room, same.trans found, known, behind, inside, by omega⟩
  · exact .inr ⟨span, room, found, known, by omega, rest⟩

namespace Pattern

theorem position_add_least_le {pattern : Pattern} {start stop : Cursor}
    (member : stop ∈ outcomes pattern start) : start.position + pattern.least ≤ stop.position := by
  have ahead : start.position ≤ stop.position := by
    obtain ⟨consumed, -, position⟩ := reaches_of_mem_outcomes member
    omega
  induction pattern generalizing start stop with
  | one test =>
    obtain ⟨c, rest, -, -, rfl⟩ := mem_outcomes_one.mp member
    exact Nat.le_refl _
  | seq first second firstLeast secondLeast =>
    obtain ⟨between, early, late⟩ := mem_outcomes_seq.mp member
    obtain ⟨before, -, position⟩ := reaches_of_mem_outcomes early
    obtain ⟨after, -, positionToo⟩ := reaches_of_mem_outcomes late
    have one := firstLeast early (by omega)
    have two := secondLeast late (by omega)
    simp only [least]
    omega
  | alt first second firstLeast secondLeast =>
    simp only [least]
    rcases mem_outcomes_alt.mp member with early | late
    · have one := firstLeast early ahead
      omega
    · have two := secondLeast late ahead
      omega
  | capture part body bodyLeast =>
    obtain ⟨inside, found, rfl⟩ := mem_outcomes_capture.mp member
    have inner : start.position + body.least ≤ inside.position := bodyLeast found ahead
    exact inner
  | _ => exact ahead

/-- Whatever a pattern reaches, a part is as before or has the room that the pattern leaves it. -/
theorem traces_of_mem_outcomes (part : Part) {pattern : Pattern} {start stop : Cursor}
    (member : stop ∈ outcomes pattern start) :
    Cursor.Traces part (pattern.room part) start stop := by
  induction pattern generalizing start stop with
  | empty =>
    rw [mem_outcomes_empty.mp member]
    exact .refl part _ start
  | one test =>
    obtain ⟨c, rest, -, -, rfl⟩ := mem_outcomes_one.mp member
    exact ⟨Nat.le_succ _, .inl rfl⟩
  | many test =>
    obtain ⟨consumed, rest, -, -, rfl⟩ := mem_outcomes_many.mp member
    exact ⟨Nat.le_add_right _ _, .inl rfl⟩
  | seq first second firstTraces secondTraces =>
    obtain ⟨between, early, late⟩ := mem_outcomes_seq.mp member
    have least := position_add_least_le late
    obtain ⟨ahead, earlier⟩ := firstTraces early
    obtain ⟨further, later⟩ := secondTraces late
    refine ⟨Nat.le_trans ahead further, ?_⟩
    rcases later with same | ⟨span, room, found, known, behind, rest⟩
    · rcases earlier with sameToo | ⟨span, room, found, known, behind, inside, before⟩
      · exact .inl (same.trans sameToo)
      · right
        apply Cursor.Records.meet_left
        rw [known]
        refine ⟨span, _, same.trans found, rfl, behind, inside, ?_⟩
        simp only [Room.before]
        omega
    · right
      apply Cursor.Records.meet_right
      exact ⟨span, room, found, known, by omega, rest⟩
  | alt first second firstTraces secondTraces =>
    rcases mem_outcomes_alt.mp member with early | late
    · exact (firstTraces early).imp_right (Or.imp_right fun records => records.meet_left _)
    · exact (secondTraces late).imp_right (Or.imp_right fun records => records.meet_right _)
  | star body bodyTraces =>
    exact mem_roundOutcomes_induction (.refl part _)
      (fun _ _ _ found later => (bodyTraces found).trans later) (.inl member)
  | lazyStar body bodyTraces =>
    exact mem_roundOutcomes_induction (.refl part _)
      (fun _ _ _ found later => (bodyTraces found).trans later) (.inr member)
  | capture recorded body bodyTraces =>
    obtain ⟨inside, found, rfl⟩ := mem_outcomes_capture.mp member
    obtain ⟨ahead, traced⟩ := bodyTraces found
    refine ⟨ahead, ?_⟩
    rw [room]
    by_cases same : part = recorded
    · right
      rw [if_pos same]
      refine ⟨⟨start.position, inside.position⟩, _, ?_, rfl, Nat.le_refl _,
        position_add_least_le found, Nat.le_refl _⟩
      simp [Cursor.record, same]
    · have looked : (start.record recorded inside).captures.lookup part =
          inside.captures.lookup part := by
        rw [Cursor.record, List.lookup_cons, beq_eq_false_iff_ne.mpr same]
      rw [if_neg same, looked]
      rcases traced with before | ⟨span, room, here, rest⟩
      · exact .inl before
      · exact .inr ⟨span, room, looked.trans here, rest⟩
  | look test =>
    obtain ⟨-, rfl⟩ := mem_outcomes_look.mp member
    exact .refl part _ _

/-- A pattern that never records a part leaves it as it is. -/
theorem lookup_of_mem_outcomes {part : Part} {pattern : Pattern} {start stop : Cursor}
    (never : pattern.room part = none) (member : stop ∈ outcomes pattern start) :
    stop.captures.lookup part = start.captures.lookup part := by
  obtain ⟨-, same | ⟨-, room, -, known, -⟩⟩ := traces_of_mem_outcomes part member
  · exact same
  · rw [never] at known
    cases known

/-! ## Matches in a text -/

/-- The match is the way of the pattern between two places of the text. -/
def Matched (pattern : Pattern) (text : List Char) (found : Match) : Prop :=
  ∃ start stop, text.drop start.position = start.rest ∧ start.position ≤ text.length ∧
    start.captures = [] ∧ stop ∈ outcomes pattern start ∧ found = start.matched stop

theorem matched_of_matchAt? {pattern : Pattern} {text : List Char} {found : Match}
    {position : Nat} {previous : Option Char} (within : position ≤ text.length)
    (here : matchAt? pattern ⟨position, previous, text.drop position, []⟩ = some found) :
    pattern.Matched text found := by
  obtain ⟨stop, reached, same⟩ := exists_of_matchAt? here
  exact ⟨_, stop, rfl, within, rfl, reached, same⟩

theorem matched_of_matchStart? {pattern : Pattern} {text : List Char} {found : Match}
    (fits : pattern.matchStart? text = some found) : pattern.Matched text found :=
  matched_of_matchAt? (Nat.zero_le _) fits

theorem matched_of_mem_findAllAt {pattern : Pattern} {whole : List Char} {found : Match}
    {skip position : Nat} {previous : Option Char} (within : position ≤ whole.length)
    (member : found ∈ findAllAt pattern skip position previous (whole.drop position)) :
    pattern.Matched whole found := by
  obtain ⟨before, rest, split, here⟩ := exists_matchAt?_of_mem_findAllAt member
  have length := congrArg List.length split
  rw [List.length_drop, List.length_append] at length
  have left : whole.drop (position + before.length) = rest := by
    rw [← List.drop_drop, split, List.drop_left]
  rw [← left] at here
  exact matched_of_matchAt? (by omega) here

theorem matched_of_search? {pattern : Pattern} {text : List Char} {found : Match}
    (first : pattern.search? text = some found) : pattern.Matched text found :=
  matched_of_mem_findAllAt (Nat.zero_le _) (mem_findAllAt_of_searchAt? first)

theorem matched_of_mem_findAll {pattern : Pattern} {text : List Char} {found : Match}
    (member : found ∈ pattern.findAll text) : pattern.Matched text found :=
  matched_of_mem_findAllAt (Nat.zero_le _) member

namespace Matched

variable {pattern : Pattern} {text : List Char} {found : Match} {part : Part} {excerpt : Excerpt}

/-- An excerpt of a text stops where its span does. -/
theorem stop_excerpt {start : Cursor} {span : Span} (left : text.drop start.position = start.rest)
    (behind : start.position ≤ span.start) (ordered : span.start ≤ span.stop)
    (early : span.stop ≤ text.length) :
    (start.excerpt span).stop = span.stop := by
  simp only [Cursor.excerpt, Excerpt.stop, ← left, List.length_take, List.length_drop]
  omega

/-- A match consumes at least the least number of characters, and ends within the text. -/
theorem stop_le (matched : pattern.Matched text found) :
    found.start + pattern.least ≤ found.stop ∧ found.stop ≤ text.length := by
  obtain ⟨start, stop, left, within, -, reached, rfl⟩ := matched
  have least := position_add_least_le reached
  obtain ⟨consumed, split, position⟩ := reaches_of_mem_outcomes reached
  have early : stop.position ≤ text.length := by
    have length := congrArg List.length (left.trans split)
    rw [List.length_drop, List.length_append] at length
    omega
  have same : (start.matched stop).stop = stop.position :=
    stop_excerpt left (Nat.le_refl _) (by simp only; omega) early
  rw [same]
  exact ⟨least, early⟩

theorem text_ne_nil (matched : pattern.Matched text found) (consumes : 0 < pattern.least) :
    found.whole.text ≠ [] := by
  intro empty
  have same : found.stop = found.start := by
    show found.whole.start + found.whole.text.length = found.whole.start
    rw [empty]
    rfl
  have bounds := matched.stop_le.1
  omega

/-- A part of a match has the room that the pattern leaves it. -/
theorem room (matched : pattern.Matched text found) (recorded : found.part? part = some excerpt) :
    ∃ room, pattern.room part = some room ∧ room.inside ≤ excerpt.length ∧
      excerpt.stop + room.behind ≤ text.length := by
  have ends := matched.stop_le.2
  obtain ⟨start, stop, left, within, fresh, reached, rfl⟩ := matched
  rw [Cursor.part?_matched, Option.map_eq_some_iff] at recorded
  obtain ⟨span, found, rfl⟩ := recorded
  obtain ⟨consumed, split, position⟩ := reaches_of_mem_outcomes reached
  have early : stop.position ≤ text.length := by
    have length := congrArg List.length (left.trans split)
    rw [List.length_drop, List.length_append] at length
    omega
  obtain ⟨-, same | ⟨span', room, found', known, behind, inside, before⟩⟩ :=
    traces_of_mem_outcomes part reached
  · rw [found, fresh] at same
    cases same
  · rw [found] at found'
    cases found'
    have stops : (start.excerpt span).stop = span.stop :=
      stop_excerpt left behind (by omega) (by omega)
    refine ⟨room, known, ?_, by omega⟩
    have length : (start.excerpt span).stop = span.start + (start.excerpt span).length := rfl
    omega

/-- A part of a match ends within the text. -/
theorem part_le (matched : pattern.Matched text found) (recorded : found.part? part = some excerpt) :
    excerpt.stop ≤ text.length := by
  obtain ⟨room, -, -, early⟩ := matched.room recorded
  omega

end Matched

end Pattern

end HouseStyle
