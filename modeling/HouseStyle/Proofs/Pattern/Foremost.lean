import HouseStyle.Proofs.Pattern.Reach

/-!
Contract: the place that a pattern prefers.

Owns: the first outcome of a pattern, read off its parts, and the match that it makes.
Does not own: which outcomes there are besides.

A match is made of the first outcome only. Where every part of a pattern goes on from the first
outcome of the part before it, nothing is tried again, and the first outcome of the whole is found
by following the parts.

Main statement: `matchStart?_of_foremost`.
-/

namespace HouseStyle

/-- What a place excerpts from its own text. -/
theorem Cursor.excerpt_atStart {text before piece rest : List Char}
    (split : text = before ++ piece ++ rest) :
    (Cursor.atStart text).excerpt ⟨before.length, before.length + piece.length⟩ =
      ⟨before.length, piece⟩ := by
  unfold Cursor.excerpt Cursor.atStart
  simp only [Nat.sub_zero, Nat.add_sub_cancel_left, Excerpt.mk.injEq, true_and]
  rw [split, List.append_assoc, List.drop_left, List.take_left]

namespace Pattern

/-- The place is the first that the pattern reaches. -/
def Foremost (pattern : Pattern) (start stop : Cursor) : Prop :=
  (outcomes pattern start).head? = some stop

variable {first second body : Pattern} {test : Char → Bool} {start middle stop : Cursor}
  {piece rest : List Char}

/-- The only place that a pattern reaches is the first. -/
theorem foremost_of_mem (reached : stop ∈ outcomes body start)
    (only : ∀ other ∈ outcomes body start, other = stop) : body.Foremost start stop := by
  unfold Foremost
  cases places : outcomes body start with
  | nil =>
    rw [places] at reached
    exact absurd reached List.not_mem_nil
  | cons place others =>
    rw [List.head?_cons, only place (by rw [places]; exact List.mem_cons_self)]

theorem Foremost.append (early : first.Foremost start middle) (late : second.Foremost middle stop) :
    (first ++ second).Foremost start stop := by
  obtain ⟨others, reached⟩ := List.head?_eq_some_iff.mp early
  show ((outcomes first start).flatMap (outcomes second)).head? = some stop
  rw [reached, List.flatMap_cons, List.head?_append, show (outcomes second middle).head? = _ from late,
    Option.some_or]

theorem Foremost.orElse (reached : first.Foremost start stop) (second : Pattern) :
    (first <|> second).Foremost start stop := by
  show (outcomes first start ++ outcomes second start).head? = some stop
  rw [List.head?_append, show (outcomes first start).head? = _ from reached, Option.some_or]

theorem Foremost.orElse_right (nowhere : outcomes first start = [])
    (reached : second.Foremost start stop) : (first <|> second).Foremost start stop := by
  show (outcomes first start ++ outcomes second start).head? = some stop
  rw [nowhere]
  exact reached

theorem Foremost.opt (reached : body.Foremost start stop) : (opt body).Foremost start stop :=
  reached.orElse empty

/-- What fits nowhere is left out. -/
theorem foremost_opt_of_nowhere (nowhere : outcomes body start = []) :
    (opt body).Foremost start start :=
  .orElse_right nowhere rfl

theorem Foremost.capture (reached : body.Foremost start stop) (part : Part) :
    (capture part body).Foremost start (start.record part stop) := by
  show ((outcomes body start).map (start.record part)).head? = _
  rw [List.head?_map, show (outcomes body start).head? = _ from reached]
  rfl

theorem foremost_look {look : Option Char → List Char → Bool}
    (holds : look start.previous start.rest) : (Pattern.look look).Foremost start start := by
  show (if look start.previous start.rest then [start] else []).head? = some start
  rw [if_pos holds]
  rfl

theorem foremost_one {c : Char} (split : start.rest = c :: rest) (passes : test c) :
    (one test).Foremost start (start.after [c] rest) := by
  simp only [Foremost, outcomes, split, passes, if_true]
  rfl

theorem foremost_char {c : Char} (split : start.rest = c :: rest) :
    (char c).Foremost start (start.after [c] rest) :=
  foremost_one split (beq_self_eq_true c)

/-- A repetition first goes on up to the first character that fails the test. -/
theorem foremost_many (split : start.rest = piece ++ rest) (all : ∀ c ∈ piece, test c)
    (ends : rest.head?.any test = false) : (many test).Foremost start (start.after piece rest) := by
  show (manyOutcomes test start.captures start.position start.previous start.rest).head? = _
  induction piece generalizing start with
  | nil =>
    rw [List.nil_append] at split
    rw [split, ← split, Cursor.after_nil]
    cases rest with
    | nil =>
      rw [split, manyOutcomes, List.head?_cons, ← split]
    | cons d rest =>
      rw [List.head?_cons, Option.any_some] at ends
      rw [split, manyOutcomes, ends, ← split]
      rfl
  | cons c piece inductionHypothesis =>
    obtain ⟨passes, others⟩ := List.forall_mem_cons.mp all
    have later : (manyOutcomes test start.captures (start.position + 1) (some c)
        (piece ++ rest)).head? = _ := @inductionHypothesis (start.advance c (piece ++ rest)) rfl others
    rw [split, List.cons_append, manyOutcomes, if_pos passes, List.head?_append, Cursor.after_cons,
      later, Option.some_or]

/-- Where no blank stands, none is passed. -/
theorem foremost_blanks (ink : start.rest.head?.any Text.isBlank = false) :
    blanks.Foremost start start :=
  foremost_many rfl (fun _ member => absurd member List.not_mem_nil) ink

theorem foremost_blanks_space (split : start.rest = ' ' :: rest)
    (ink : rest.head?.any Text.isBlank = false) :
    blanks.Foremost start (start.after [' '] rest) :=
  foremost_many split (List.forall_mem_singleton.mpr rfl) ink

theorem foremost_several {c : Char} (split : start.rest = c :: (piece ++ rest)) (passes : test c)
    (all : ∀ d ∈ piece, test d) (ends : rest.head?.any test = false) :
    (several test).Foremost start (start.after (c :: piece) rest) := by
  rw [Cursor.after_cons]
  exact (foremost_one split passes).append (foremost_many rfl all ends)

theorem foremost_word {text : String} (split : start.rest = text.toList ++ rest) :
    (word text).Foremost start (start.after text.toList rest) := by
  apply foremost_of_mem (mem_outcomes_word.mpr ⟨rest, split, rfl⟩)
  intro other member
  obtain ⟨others, splitToo, rfl⟩ := mem_outcomes_word.mp member
  rw [List.append_cancel_left (split.symm.trans splitToo)]

/-- Of several words the one that stands here is read, if no other does. -/
theorem foremost_oneOf {words : List String} {text : String} (among : text ∈ words)
    (split : start.rest = text.toList ++ rest)
    (apart : ∀ other ∈ words, other.toList <+: start.rest → other = text) :
    (oneOf words).Foremost start (start.after text.toList rest) := by
  apply foremost_of_mem (mem_outcomes_oneOf.mpr ⟨text, among, rest, split, rfl⟩)
  intro other member
  obtain ⟨word, inside, others, splitToo, rfl⟩ := mem_outcomes_oneOf.mp member
  obtain rfl := apart word inside (splitToo ▸ List.prefix_append _ _)
  rw [List.append_cancel_left (split.symm.trans splitToo)]

theorem matchStart?_of_foremost {text : List Char}
    (reached : body.Foremost (.atStart text) stop) :
    body.matchStart? text = some ((Cursor.atStart text).matched stop) := by
  rw [matchStart?, matchAt?_eq, show (outcomes body (.atStart text)).head? = _ from reached]
  rfl

end Pattern

end HouseStyle
