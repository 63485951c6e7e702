import HouseStyle.Proofs.Text
import Mathlib.Data.List.Infix

/-!
Contract: texts whose parentheses belong together in pairs.

Owns: texts that close what is open before them and all of their own, and texts that one pair of
parentheses encloses.
Does not own: where such texts stand on a line.

A reader keeps the number of open parentheses. `BalancedFrom` says what it wants of a text from a
number on, and takes it apart character by character, as a reader does (`balancedFrom_cons`).

Main statement: `enclosed_cons_iff`.
-/

namespace HouseStyle.Text

/-- A text that closes the parentheses open before it and all of its own, and no others. -/
structure BalancedFrom (depth : Int) (text : List Char) : Prop where
  covered : ∀ front, front <+: text → 0 ≤ depth + excess '(' ')' front
  closed : depth + excess '(' ')' text = 0

/-- A text whose parentheses belong together in pairs. -/
def Balanced (text : List Char) : Prop :=
  BalancedFrom 0 text

/-- A text that one pair of parentheses encloses: it has as many of both kinds, and more opening than
closing ones up to every place inside. -/
structure Enclosed (text : List Char) : Prop where
  closed : excess '(' ')' text = 0
  open_inside : ∀ front, front <+: text → front ≠ [] → front ≠ text → 0 < excess '(' ')' front

/-- What a character adds to the number of open parentheses. -/
def parenWeight (c : Char) : Int :=
  if c = '(' then 1 else if c = ')' then -1 else 0

theorem parenWeight_opener : parenWeight '(' = 1 :=
  rfl

theorem parenWeight_closer : parenWeight ')' = -1 :=
  rfl

variable {depth : Int} {c : Char} {text rest : List Char}

theorem excess_nil : excess '(' ')' [] = 0 :=
  rfl

theorem excess_singleton (c : Char) : excess '(' ')' [c] = parenWeight c := by
  unfold parenWeight
  by_cases opens : c = '('
  · rw [if_pos opens, opens]
    rfl
  by_cases closes : c = ')'
  · rw [if_neg opens, if_pos closes, closes]
    rfl
  · rw [if_neg opens, if_neg closes]
    exact excess_of_not_mem (by simpa using Ne.symm opens) (by simpa using Ne.symm closes)

theorem excess_cons (c : Char) (text : List Char) :
    excess '(' ')' (c :: text) = parenWeight c + excess '(' ')' text := by
  rw [← excess_singleton, ← excess_append]
  rfl

theorem BalancedFrom.nonneg (balanced : BalancedFrom depth text) : 0 ≤ depth := by
  have covered := balanced.covered [] List.nil_prefix
  rwa [excess_nil, Int.add_zero] at covered

theorem balancedFrom_nil : BalancedFrom depth [] ↔ depth = 0 := by
  constructor
  · intro balanced
    have closed := balanced.closed
    rwa [excess_nil, Int.add_zero] at closed
  · rintro rfl
    refine ⟨fun front start => ?_, rfl⟩
    rw [List.prefix_nil.mp start]
    decide

/-- A reader of parentheses takes one character. -/
theorem balancedFrom_cons :
    BalancedFrom depth (c :: text) ↔ 0 ≤ depth ∧ BalancedFrom (depth + parenWeight c) text := by
  constructor
  · intro balanced
    refine ⟨balanced.nonneg, fun front start => ?_, ?_⟩
    · have longer := balanced.covered (c :: front) (List.prefix_cons_inj c |>.mpr start)
      rw [excess_cons] at longer
      omega
    · have closed := balanced.closed
      rw [excess_cons] at closed
      omega
  · rintro ⟨enough, balanced⟩
    refine ⟨fun front start => ?_, ?_⟩
    · rcases List.prefix_cons_iff.mp start with rfl | ⟨shorter, rfl, inner⟩
      · rwa [excess_nil, Int.add_zero]
      · have covered := balanced.covered shorter inner
        rw [excess_cons]
        omega
    · have closed := balanced.closed
      rw [excess_cons]
      omega

instance (depth : Int) (text : List Char) : Decidable (BalancedFrom depth text) :=
  decidable_of_iff ((∀ front ∈ text.inits, 0 ≤ depth + excess '(' ')' front) ∧
      depth + excess '(' ')' text = 0)
    ⟨fun ⟨covered, closed⟩ => ⟨fun front start => covered front ((List.mem_inits ..).mpr start), closed⟩,
      fun ⟨covered, closed⟩ => ⟨fun front start => covered front ((List.mem_inits ..).mp start), closed⟩⟩

instance (text : List Char) : Decidable (Balanced text) :=
  inferInstanceAs (Decidable (BalancedFrom 0 text))

/-- Blanks around a text do not change how its parentheses belong together. -/
theorem BalancedFrom.trim (balanced : BalancedFrom depth text) : BalancedFrom depth (trim text) := by
  obtain ⟨before, after, blanks, -, split⟩ := exists_blanks_around_trim text
  have idle : excess '(' ')' before = 0 := by
    apply excess_of_not_mem
    · intro member
      exact absurd (blanks '(' member) (by decide)
    · intro member
      exact absurd (blanks ')' member) (by decide)
  refine ⟨fun front start => ?_, ?_⟩
  · have longer := balanced.covered (before ++ front) (by
      rw [split, List.prefix_append_right_inj]
      exact start.trans (List.prefix_append _ after))
    rw [excess_append, idle] at longer
    omega
  · rw [excess_trim text (by decide) (by decide)]
    exact balanced.closed

/-- What stands between the parentheses of an enclosed text is balanced. -/
theorem enclosed_cons_iff :
    Enclosed ('(' :: rest) ↔ ∃ inside, rest = inside ++ [')'] ∧ Balanced inside := by
  constructor
  · intro enclosed
    have closed := enclosed.closed
    rw [excess_cons, parenWeight_opener] at closed
    rcases List.eq_nil_or_concat rest with rfl | ⟨inside, last, rfl⟩
    · cases closed
    rw [List.concat_eq_append] at enclosed closed ⊢
    have above : ∀ front, front <+: inside → 0 ≤ excess '(' ')' front := by
      intro front start
      have inner := enclosed.open_inside ('(' :: front)
        (List.prefix_cons_inj '(' |>.mpr (start.trans (List.prefix_append _ _)))
        (List.cons_ne_nil _ _) (by
          rintro same
          have longer := start.length_le
          rw [(List.cons.inj same).2, List.length_append, List.length_singleton] at longer
          omega)
      rw [excess_cons, parenWeight_opener] at inner
      omega
    have whole := above inside List.prefix_rfl
    rw [excess_append, excess_singleton] at closed
    -- only a closing parenthesis takes the count down to zero
    obtain rfl : last = ')' := by
      by_contra other
      rw [parenWeight, if_neg other] at closed
      split at closed <;> omega
    rw [parenWeight_closer] at closed
    refine ⟨inside, rfl, fun front start => ?_, ?_⟩
    · have covered := above front start
      omega
    · omega
  · rintro ⟨inside, rfl, balanced⟩
    have closed := balanced.closed
    refine ⟨?_, fun front start some proper => ?_⟩
    · rw [excess_cons, excess_append, excess_singleton, parenWeight_opener, parenWeight_closer]
      omega
    · rcases List.prefix_cons_iff.mp start with rfl | ⟨shorter, rfl, behind⟩
      · exact absurd rfl some
      rcases List.prefix_concat_iff.mp behind with rfl | inner
      · exact absurd rfl proper
      · have covered := balanced.covered shorter inner
        rw [excess_cons, parenWeight_opener]
        omega

end HouseStyle.Text
