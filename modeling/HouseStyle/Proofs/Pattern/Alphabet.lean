import HouseStyle.Proofs.Pattern.Reach

/-!
Contract: patterns that match nowhere in a text.

Owns: patterns that cannot do without a character outside an alphabet, and searches that find nothing.
Does not own: the alphabets.

A sequence leaves an alphabet as soon as one of its parts does, and a choice only if both do.

Main statements: `outcomes_eq_nil` and `findAll_eq_nil`.
-/

namespace HouseStyle.Pattern

/-- Whatever the pattern reaches, it consumes a character outside the alphabet. -/
def Leaves (letters : Char → Bool) : Pattern → Prop
  | empty => False
  | one test => ∀ c, letters c → test c = false
  | many _ => False
  | seq first second => first.Leaves letters ∨ second.Leaves letters
  | alt first second => first.Leaves letters ∧ second.Leaves letters
  | star _ => False
  | lazyStar _ => False
  | capture _ body => body.Leaves letters
  | look _ => False

section Leaves

variable {letters : Char → Bool} {first second body : Pattern}

theorem leaves_append : (first ++ second).Leaves letters ↔
    first.Leaves letters ∨ second.Leaves letters :=
  Iff.rfl

theorem leaves_orElse : (first <|> second).Leaves letters ↔
    first.Leaves letters ∧ second.Leaves letters :=
  Iff.rfl

theorem leaves_capture {part : Part} : (capture part body).Leaves letters ↔ body.Leaves letters :=
  Iff.rfl

theorem leaves_anyOf {characters : List Char} (outside : characters.any letters = false) :
    (anyOf characters).Leaves letters := by
  intro c letter
  rw [← Bool.not_eq_true, List.contains_iff_mem]
  intro member
  exact List.any_eq_false.mp outside c member letter

theorem leaves_char {c : Char} (outside : letters c = false) : (char c).Leaves letters := by
  intro d letter
  rw [beq_eq_false_iff_ne]
  rintro rfl
  rw [outside] at letter
  cases letter

theorem leaves_characters {c : Char} {text : List Char} (member : c ∈ text)
    (outside : letters c = false) : (characters text).Leaves letters := by
  induction text with
  | nil => exact absurd member List.not_mem_nil
  | cons d text inductionHypothesis =>
    cases text with
    | nil =>
      rw [List.mem_singleton] at member
      subst member
      exact leaves_char outside
    | cons e text =>
      rcases List.mem_cons.mp member with rfl | later
      · exact .inl (leaves_char outside)
      · exact .inr (inductionHypothesis later)

theorem leaves_oneOf {words : List String}
    (outside : words.all fun text => text.toList.any fun c => !letters c) :
    (oneOf words).Leaves letters := by
  induction words with
  | nil => exact fun _ _ => rfl
  | cons text words inductionHypothesis =>
    rw [List.all_cons, Bool.and_eq_true, List.any_eq_true] at outside
    obtain ⟨⟨c, member, apart⟩, rest⟩ := outside
    have other : letters c = false := (Bool.not_eq_true' _).mp apart
    cases words with
    | nil => exact leaves_characters member other
    | cons next words => exact ⟨leaves_characters member other, inductionHypothesis rest⟩

/-- In a text over the alphabet the pattern reaches nothing. -/
theorem outcomes_eq_nil {pattern : Pattern} (leaves : pattern.Leaves letters) {cursor : Cursor}
    (within : ∀ c ∈ cursor.rest, letters c) : outcomes pattern cursor = [] := by
  rw [List.eq_nil_iff_forall_not_mem]
  intro stop reached
  induction pattern generalizing cursor stop with
  | one test =>
    obtain ⟨c, rest, split, passed, -⟩ := mem_outcomes_one.mp reached
    have letter : letters c := within c (by rw [split]; exact List.mem_cons_self)
    rw [leaves c letter] at passed
    cases passed
  | seq first second firstNever secondNever =>
    obtain ⟨between, early, late⟩ := mem_outcomes_seq.mp reached
    rcases leaves with first | second
    · exact firstNever first within _ early
    · obtain ⟨consumed, split, -⟩ := reaches_of_mem_outcomes early
      refine secondNever second (fun c member => within c ?_) _ late
      rw [split]
      exact List.mem_append_right _ member
  | alt first second firstNever secondNever =>
    rcases mem_outcomes_alt.mp reached with early | late
    · exact firstNever leaves.1 within _ early
    · exact secondNever leaves.2 within _ late
  | capture part body never =>
    obtain ⟨inside, found, -⟩ := mem_outcomes_capture.mp reached
    exact never leaves within _ found
  | _ => exact leaves

end Leaves

/-! ## Searches that find nothing -/

variable {pattern : Pattern} {text : List Char}

theorem findAllAt_eq_nil (none : ∀ cursor : Cursor, cursor.rest <:+ text → outcomes pattern cursor = [])
    (skip position : Nat) (previous : Option Char) :
    findAllAt pattern skip position previous text = [] := by
  have here : ∀ position previous, matchAt? pattern ⟨position, previous, text, []⟩ = .none := by
    intro position previous
    rw [matchAt?_eq, none _ (List.suffix_refl text)]
    rfl
  induction text generalizing skip position previous with
  | nil =>
    cases skip with
    | zero => rw [findAllAt, here]; rfl
    | succ skip => rfl
  | cons c text inductionHypothesis =>
    have later : ∀ skip position previous, findAllAt pattern skip position previous text = [] := by
      intro skip position previous
      apply inductionHypothesis
      · exact fun cursor inside => none cursor (inside.trans (List.suffix_cons c text))
      · intro position previous
        rw [matchAt?_eq, none _ (List.suffix_cons c text)]
        rfl
    cases skip with
    | zero => rw [findAllAt, here]; exact later ..
    | succ skip => exact later ..

/-- A pattern that reaches nothing from any place of a text is found nowhere in it. -/
theorem findAll_eq_nil (none : ∀ cursor : Cursor, cursor.rest <:+ text → outcomes pattern cursor = []) :
    findAll pattern text = [] :=
  findAllAt_eq_nil none 0 0 .none

theorem findAll_eq_nil_of_leaves {letters : Char → Bool} (leaves : pattern.Leaves letters)
    (within : ∀ c ∈ text, letters c) : findAll pattern text = [] :=
  findAll_eq_nil fun _ inside => outcomes_eq_nil leaves fun c member => within c (inside.mem member)

theorem matchStart?_eq_none_of_leaves {letters : Char → Bool} (leaves : pattern.Leaves letters)
    (within : ∀ c ∈ text, letters c) : matchStart? pattern text = none := by
  rw [matchStart?, matchAt?_eq, outcomes_eq_nil leaves within]
  rfl

end HouseStyle.Pattern
