import HouseStyle.Proofs.Pattern.Reach
import HouseStyle.Proofs.Text

/-!
Contract: a text with spaces inserted.

Owns: the insertion of spaces at given places, and what it leaves of the text: its pieces, its ends,
its last visible character, and the words that it starts with.
Does not own: at which places something asks for spaces.

Main statements: a piece without inner gaps comes through whole (`spread_append_append`), and no word
comes to be by insertion (`isPrefix_of_isPrefix_spread`).
-/

namespace HouseStyle.Text

/-- The text, which starts at the given position, with spaces in front of its characters and at its
end; `gaps` tells how many at each position. -/
def spread (gaps : Nat → Nat) : Nat → List Char → List Char
  | position, [] => List.replicate (gaps position) ' '
  | position, c :: rest =>
    List.replicate (gaps position) ' ' ++ c :: spread gaps (position + 1) rest

/-- The text with one space inserted for each of the places, all of which are positions of the text
as it was. -/
def withSpaces (places : List Int) (text : List Char) : List Char :=
  spread (fun position => places.count (position : Int)) 0 text

variable {gaps : Nat → Nat} {position : Nat} {text before piece rest : List Char}

/-! ## Pieces -/

theorem spread_append_of_tight
    (tight : ∀ place, position ≤ place → place < position + piece.length → gaps place = 0) :
    spread gaps position (piece ++ rest) = piece ++ spread gaps (position + piece.length) rest := by
  induction piece generalizing position with
  | nil => rfl
  | cons c piece inductionHypothesis =>
    rw [List.length_cons] at tight ⊢
    rw [List.cons_append, spread, tight position (Nat.le_refl _) (by omega), List.replicate_zero,
      List.nil_append, inductionHypothesis fun place _ _ => tight place (by omega) (by omega),
      List.cons_append, Nat.add_assoc, Nat.add_comm 1]

private theorem spread_append_append_at (some : piece ≠ [])
    (tight : ∀ place, position + before.length < place →
      place < position + before.length + piece.length → gaps place = 0) :
    spread gaps position (before ++ (piece ++ rest)) = spread gaps position before ++
      (piece ++ spread gaps (position + before.length + piece.length) rest) := by
  induction before generalizing position with
  | nil =>
    obtain ⟨c, piece, rfl⟩ := List.exists_cons_of_ne_nil some
    rw [List.length_nil, Nat.add_zero, List.length_cons] at *
    rw [List.nil_append, List.cons_append, spread, spread, spread_append_of_tight fun place _ _ =>
      tight place (by omega) (by omega), Nat.add_assoc, Nat.add_comm 1]
    rfl
  | cons c before inductionHypothesis =>
    have further : position + (c :: before).length = position + 1 + before.length := by
      rw [List.length_cons]
      omega
    rw [further] at tight ⊢
    rw [List.cons_append, spread, inductionHypothesis tight, spread]
    simp

/-- A piece without gaps between its characters stays whole. -/
theorem spread_append_append (some : piece ≠ []) (tight : ∀ place, before.length < place →
      place < before.length + piece.length → gaps place = 0) :
    spread gaps 0 (before ++ (piece ++ rest)) =
      spread gaps 0 before ++ (piece ++ spread gaps (before.length + piece.length) rest) := by
  rw [spread_append_append_at some (by rwa [Nat.zero_add]), Nat.zero_add]

theorem spread_append (tight : ∀ place, before.length < place →
      place ≤ before.length + piece.length → gaps place = 0) :
    spread gaps 0 (before ++ piece) = spread gaps 0 before ++ piece := by
  rcases List.eq_nil_or_concat piece with rfl | ⟨initial, c, some⟩
  · rw [List.append_nil, List.append_nil]
  · have length := congrArg List.length some
    rw [List.length_concat] at length
    have whole : spread gaps 0 (before ++ (piece ++ [])) =
        spread gaps 0 before ++ (piece ++ spread gaps (before.length + piece.length) []) :=
      spread_append_append (by rw [some]; simp) fun place behind within =>
        tight place behind (by omega)
    rw [List.append_nil] at whole
    rw [whole, spread, tight _ (by omega) (Nat.le_refl _), List.replicate_zero, List.append_nil]

/-! ## Ends -/

theorem head?_spread : (spread gaps position text).head? =
    if 0 < gaps position then some ' ' else text.head? := by
  cases gap : gaps position <;> cases text <;> simp [spread, gap, List.replicate_succ]

theorem getLast?_spread : (spread gaps position text).getLast? =
    if 0 < gaps (position + text.length) then some ' ' else text.getLast? := by
  induction text generalizing position with
  | nil => cases gap : gaps position <;> simp [spread, gap, List.getLast?_replicate]
  | cons c text inductionHypothesis =>
    rw [spread, List.getLast?_append, List.getLast?_cons, inductionHypothesis, List.length_cons,
      Nat.add_assoc, Nat.add_comm 1, List.getLast?_cons]
    split <;> rfl

/-- Spaces do not change the last visible character. -/
theorem getLast?_trimRight_spread :
    (trimRight (spread gaps position text)).getLast? = (trimRight text).getLast? := by
  have spaces (count : Nat) :
      (List.replicate count ' ').reverse.find? (fun c => !isBlank c) = none := by
    rw [List.reverse_replicate, List.find?_eq_none]
    intro c member
    rw [List.eq_of_mem_replicate member]
    decide
  rw [getLast?_trimRight, getLast?_trimRight]
  induction text generalizing position with
  | nil => exact spaces _
  | cons c text inductionHypothesis =>
    rw [spread, List.reverse_append, List.find?_append, spaces, Option.or_none, List.reverse_cons,
      List.find?_append, inductionHypothesis, List.reverse_cons, List.find?_append]

theorem isBlank_of_mem_spread (blank : ∀ c ∈ text, isBlank c) :
    ∀ c ∈ spread gaps position text, isBlank c := by
  induction text generalizing position with
  | nil =>
    intro c member
    rw [(List.mem_replicate.mp member).2]
    decide
  | cons d text inductionHypothesis =>
    intro c member
    rw [spread, List.mem_append, List.mem_cons] at member
    rcases member with space | rfl | later
    · rw [(List.mem_replicate.mp space).2]
      decide
    · exact blank c List.mem_cons_self
    · exact inductionHypothesis (fun c member => blank c (List.mem_cons_of_mem _ member)) c later

/-! ## Words -/

/-- A word at the start of a text with spaces inserted is at the start of the text. -/
theorem isPrefix_of_isPrefix_spread {word : List Char} (whole : ' ' ∉ word)
    (starts : word <+: spread gaps position text) : word <+: text := by
  induction word generalizing position text with
  | nil => exact List.nil_prefix
  | cons d word inductionHypothesis =>
    rw [List.mem_cons, not_or] at whole
    have first : (spread gaps position text).head? = some d := by
      obtain ⟨rest, same⟩ := starts
      rw [← same]
      rfl
    rw [head?_spread] at first
    split at first
    · exact absurd (Option.some.inj first) whole.1
    next none =>
      cases text with
      | nil => cases first
      | cons c text =>
        obtain rfl : c = d := Option.some.inj first
        rw [spread, Nat.eq_zero_of_not_pos none, List.replicate_zero, List.nil_append,
          List.cons_prefix_cons] at starts
        exact List.cons_prefix_cons.mpr ⟨rfl, inductionHypothesis whole.2 starts.2⟩

end HouseStyle.Text
