import HouseStyle.Proofs.Excerpts
import HouseStyle.Proofs.Pattern.Room

/-!
Contract: what the parts of a match consist of.

Owns: characters that a pattern keeps out of a part, and that parts stand in the text.
Does not own: which parts a pattern records, and the room around them.

Whether a part can hold a character is read off the pattern: the body that is recorded must be able
to consume it. Where a part stands in the text is read off its position.

Main statements: `not_mem_part` and `standsIn_part`.
-/

namespace HouseStyle

/-- What is left at a later place are the characters behind those consumed on the way. -/
theorem Cursor.Reaches.excerpt_eq {first second : Cursor} (reaches : first.Reaches second)
    {span : Span} (behind : second.position ≤ span.start) :
    first.excerpt span = second.excerpt span := by
  obtain ⟨consumed, split, position⟩ := reaches
  have further : first.rest.drop (span.start - first.position) =
      second.rest.drop (span.start - second.position) := by
    rw [split, List.drop_append, List.drop_eq_nil_of_le (by omega), List.nil_append]
    congr 1
    omega
  rw [excerpt, excerpt, further]

/-! ## Parts -/

/-- Whether nothing that the pattern records as the part can hold the character. -/
def Pattern.clears (part : Part) (c : Char) : Pattern → Bool
  | seq first second => first.clears part c && second.clears part c
  | alt first second => first.clears part c && second.clears part c
  | star body => body.clears part c
  | lazyStar body => body.clears part c
  | capture recorded body => if part = recorded then body.avoids c else body.clears part c
  | _ => true

/-- From one place to a later one a part stays as it is, or is recorded without the character. -/
def Cursor.KeepsClear (part : Part) (c : Char) (start stop : Cursor) : Prop :=
  start.Reaches stop ∧ (stop.captures.lookup part = start.captures.lookup part ∨
    ∃ span, stop.captures.lookup part = some span ∧ start.position ≤ span.start ∧
      c ∉ (start.excerpt span).text)

theorem Cursor.KeepsClear.refl (part : Part) (c : Char) (cursor : Cursor) :
    cursor.KeepsClear part c cursor :=
  ⟨.refl cursor, .inl rfl⟩

theorem Cursor.KeepsClear.trans {part : Part} {c : Char} {first second third : Cursor}
    (early : first.KeepsClear part c second) (late : second.KeepsClear part c third) :
    first.KeepsClear part c third := by
  obtain ⟨reaches, earlier⟩ := early
  obtain ⟨further, later⟩ := late
  refine ⟨reaches.trans further, ?_⟩
  rcases later with same | ⟨span, found, behind, clear⟩
  · rw [same]
    exact earlier
  · right
    have position : first.position ≤ second.position := by
      obtain ⟨consumed, -, position⟩ := reaches
      omega
    refine ⟨span, found, Nat.le_trans position behind, ?_⟩
    rwa [reaches.excerpt_eq behind]

/-- What a body consumes without the character is recorded without it. -/
theorem Cursor.ReachesWithout.not_mem_excerpt {c : Char} {start stop : Cursor}
    (reaches : start.ReachesWithout c stop) :
    c ∉ (start.excerpt ⟨start.position, stop.position⟩).text := by
  obtain ⟨consumed, split, position, avoided⟩ := reaches
  simp only [excerpt, Nat.sub_self, List.drop_zero, split, position, Nat.add_sub_cancel_left,
    List.take_left]
  exact avoided

namespace Pattern

theorem keepsClear_of_mem_outcomes {part : Part} {c : Char} {pattern : Pattern}
    {start stop : Cursor} (clears : pattern.clears part c) (member : stop ∈ outcomes pattern start) :
    start.KeepsClear part c stop := by
  induction pattern generalizing start stop with
  | empty =>
    rw [mem_outcomes_empty.mp member]
    exact .refl part c start
  | one test =>
    have reaches := reaches_of_mem_outcomes member
    obtain ⟨d, rest, -, -, rfl⟩ := mem_outcomes_one.mp member
    exact ⟨reaches, .inl rfl⟩
  | many test =>
    have reaches := reaches_of_mem_outcomes member
    obtain ⟨consumed, rest, -, -, rfl⟩ := mem_outcomes_many.mp member
    exact ⟨reaches, .inl rfl⟩
  | seq first second firstKeeps secondKeeps =>
    obtain ⟨clearsFirst, clearsSecond⟩ := Bool.and_eq_true_iff.mp clears
    obtain ⟨between, early, late⟩ := mem_outcomes_seq.mp member
    exact (firstKeeps clearsFirst early).trans (secondKeeps clearsSecond late)
  | alt first second firstKeeps secondKeeps =>
    obtain ⟨clearsFirst, clearsSecond⟩ := Bool.and_eq_true_iff.mp clears
    rcases mem_outcomes_alt.mp member with early | late
    · exact firstKeeps clearsFirst early
    · exact secondKeeps clearsSecond late
  | star body keeps =>
    exact mem_roundOutcomes_induction (.refl part c)
      (fun _ _ _ found later => (keeps clears found).trans later) (.inl member)
  | lazyStar body keeps =>
    exact mem_roundOutcomes_induction (.refl part c)
      (fun _ _ _ found later => (keeps clears found).trans later) (.inr member)
  | capture recorded body keeps =>
    have reaches := reaches_of_mem_outcomes member
    obtain ⟨inside, found, rfl⟩ := mem_outcomes_capture.mp member
    refine ⟨reaches, ?_⟩
    rw [Pattern.clears] at clears
    by_cases same : part = recorded
    · right
      rw [if_pos same] at clears
      refine ⟨⟨start.position, inside.position⟩, ?_, Nat.le_refl _,
        (reachesWithout_of_mem_outcomes clears found).not_mem_excerpt⟩
      simp [Cursor.record, same]
    · rw [if_neg same] at clears
      have looked : (start.record recorded inside).captures.lookup part =
          inside.captures.lookup part := by
        rw [Cursor.record, List.lookup_cons, beq_eq_false_iff_ne.mpr same]
      rw [looked]
      exact (keeps clears found).2
  | look test =>
    obtain ⟨-, rfl⟩ := mem_outcomes_look.mp member
    exact .refl part c _

namespace Matched

variable {pattern : Pattern} {text : List Char} {found : Match} {part : Part} {excerpt : Excerpt}

/-- A part of a match is free of the characters that the pattern keeps out of it. -/
theorem not_mem_part (matched : pattern.Matched text found)
    (recorded : found.part? part = some excerpt) {c : Char} (clears : pattern.clears part c) :
    c ∉ excerpt.text := by
  obtain ⟨start, stop, -, -, fresh, reached, rfl⟩ := matched
  rw [Cursor.part?_matched, Option.map_eq_some_iff] at recorded
  obtain ⟨span, found, rfl⟩ := recorded
  obtain ⟨-, same | ⟨spanToo, foundToo, -, clear⟩⟩ := keepsClear_of_mem_outcomes clears reached
  · rw [found, fresh] at same
    cases same
  · rw [found] at foundToo
    cases foundToo
    exact clear

/-- A match is free of the characters that its pattern avoids. -/
theorem not_mem_whole (matched : pattern.Matched text found) {c : Char} (avoids : pattern.avoids c) :
    c ∉ found.whole.text := by
  obtain ⟨start, stop, -, -, -, reached, rfl⟩ := matched
  exact (reachesWithout_of_mem_outcomes avoids reached).not_mem_excerpt

theorem standsIn_whole (matched : pattern.Matched text found) : found.whole.StandsIn text := by
  obtain ⟨start, stop, left, -, -, -, rfl⟩ := matched
  simp only [Excerpt.StandsIn, Cursor.matched, Cursor.excerpt, Nat.sub_self, List.drop_zero, left]
  exact List.take_prefix _ _

/-- The text has a part of a match at the place of the part. -/
theorem standsIn_part (matched : pattern.Matched text found)
    (recorded : found.part? part = some excerpt) : excerpt.StandsIn text := by
  obtain ⟨start, stop, left, -, fresh, reached, rfl⟩ := matched
  rw [Cursor.part?_matched, Option.map_eq_some_iff] at recorded
  obtain ⟨span, found, rfl⟩ := recorded
  obtain ⟨-, same | ⟨spanToo, -, foundToo, -, behind, -⟩⟩ := traces_of_mem_outcomes part reached
  · rw [found, fresh] at same
    cases same
  · rw [found] at foundToo
    cases foundToo
    have here : text.drop span.start = start.rest.drop (span.start - start.position) := by
      rw [← left, List.drop_drop]
      congr 1
      omega
    simp only [Excerpt.StandsIn, Cursor.excerpt, here]
    exact List.take_prefix _ _

end Matched

end Pattern

end HouseStyle
