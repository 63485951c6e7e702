import HouseStyle.Proofs.Text

/-!
Contract: excerpts that stand in a text.

Owns: which characters of a text an excerpt names, and what cutting it into smaller ones keeps.
Does not own: how excerpts are found.

An excerpt stands in a text if the text has its characters at its place. This is a statement about
each character, and so it survives whenever the text is replaced by one that agrees on the characters
of the excerpt.

Main statements: `StandsIn.within`, `StandsIn.of_mem_splitOn`, `StandsIn.trim`, `standsIn_sliceBounds`
and `StandsIn.unveil`.
-/

namespace HouseStyle.Excerpt

/-- An excerpt that a text has at its place. -/
def StandsIn (text : List Char) (excerpt : Excerpt) : Prop :=
  excerpt.text <+: text.drop excerpt.start

variable {text other : List Char} {excerpt piece : Excerpt}

theorem standsIn_iff : excerpt.StandsIn text ↔
    ∀ position c, excerpt.text[position]? = some c → text[excerpt.start + position]? = some c := by
  unfold StandsIn
  rw [List.prefix_iff_getElem?]
  constructor
  · intro each position c there
    obtain ⟨inside, same⟩ := List.getElem?_eq_some_iff.mp there
    rw [← List.getElem?_drop, each position inside, same]
  · intro each position inside
    rw [List.getElem?_drop]
    exact each position _ (List.getElem?_eq_getElem inside)

namespace StandsIn

/-- What stands in an excerpt stands in the text. -/
theorem within (stands : excerpt.StandsIn text) (inner : piece.StandsIn excerpt.text) :
    StandsIn text ⟨excerpt.start + piece.start, piece.text⟩ := by
  rw [standsIn_iff] at stands inner ⊢
  intro position c there
  rw [Nat.add_assoc]
  exact stands _ c (inner position c there)

/-- What ends before a text goes on stands in the text. -/
theorem of_append {more : List Char} (stands : excerpt.StandsIn (text ++ more))
    (early : excerpt.stop ≤ text.length) : excerpt.StandsIn text := by
  rw [standsIn_iff] at stands ⊢
  intro position c there
  have inside := (List.getElem?_eq_some_iff.mp there).1
  have stop : excerpt.stop = excerpt.start + excerpt.text.length := rfl
  have found := stands position c there
  rwa [List.getElem?_append_left (by omega)] at found

theorem trim (stands : excerpt.StandsIn text) : excerpt.trim.StandsIn text := by
  have skipped : excerpt.text.drop (excerpt.text.takeWhile Text.isBlank).length =
      Text.trimLeft excerpt.text := by
    have whole := List.takeWhile_append_dropWhile (p := Text.isBlank) (l := excerpt.text)
    calc excerpt.text.drop (excerpt.text.takeWhile Text.isBlank).length
        = (excerpt.text.takeWhile Text.isBlank ++ excerpt.text.dropWhile Text.isBlank).drop
            (excerpt.text.takeWhile Text.isBlank).length := by rw [whole]
      _ = excerpt.text.dropWhile Text.isBlank := List.drop_left
  have inner : StandsIn excerpt.text
      ⟨(excerpt.text.takeWhile Text.isBlank).length, Text.trimRight (Text.trimLeft excerpt.text)⟩ := by
    rw [StandsIn, skipped]
    exact Text.isPrefix_trimRight _
  exact stands.within inner

/-- An excerpt stands in a second text that agrees with the first on its characters. -/
theorem unveil (stands : excerpt.StandsIn text) {veils : List Char}
    (clear : ∀ c ∈ veils, c ∉ excerpt.text)
    (shown : ∀ (position : Nat) c, text[position]? = some c → c ∉ veils → other[position]? = some c) :
    excerpt.StandsIn other := by
  rw [standsIn_iff] at stands ⊢
  intro position c there
  refine shown _ c (stands position c there) ?_
  intro veiled
  exact clear c veiled (List.mem_of_getElem? there)

/-- A second text that an excerpt does not stand in differs from the first at one of its places. -/
theorem exists_ne (stands : excerpt.StandsIn text) (fails : ¬ excerpt.StandsIn other) :
    ∃ position, excerpt.start ≤ position ∧ position < excerpt.stop ∧
      text[position]? ≠ other[position]? := by
  by_contra same
  simp only [not_exists, not_and, not_not] at same
  apply fails
  rw [standsIn_iff] at stands ⊢
  intro position c there
  have inside := (List.getElem?_eq_some_iff.mp there).1
  rw [← same _ (Nat.le_add_right _ _) (Nat.add_lt_add_left inside _)]
  exact stands position c there

end StandsIn

/-! ## Pieces between separators -/

/-- The texts that are laid out stand in the text that they are put together to. -/
theorem standsIn_of_mem_layOut {separator : Char} {start : Nat} {texts : List (List Char)}
    (member : piece ∈ layOut start texts) :
    ∃ inner : Excerpt, piece = ⟨start + inner.start, inner.text⟩ ∧
      inner.StandsIn ([separator].intercalate texts) := by
  induction texts generalizing start with
  | nil => exact absurd member List.not_mem_nil
  | cons first texts inductionHypothesis =>
    rw [layOut] at member
    rcases List.mem_cons.mp member with rfl | later
    · refine ⟨⟨0, first⟩, rfl, ?_⟩
      cases texts with
      | nil =>
        rw [List.intercalate_singleton]
        exact List.prefix_refl first
      | cons next texts =>
        rw [List.intercalate_cons_cons]
        exact ⟨[separator] ++ [separator].intercalate (next :: texts), List.append_assoc .. |>.symm⟩
    · obtain ⟨inner, rfl, stands⟩ := inductionHypothesis later
      cases texts with
      | nil => exact absurd later List.not_mem_nil
      | cons next texts =>
        refine ⟨⟨first.length + 1 + inner.start, inner.text⟩, ?_, ?_⟩
        · simp only [Nat.add_assoc]
        · have behind : StandsIn ([separator].intercalate (first :: next :: texts))
              ⟨first.length + 1, [separator].intercalate (next :: texts)⟩ := by
            rw [List.intercalate_cons_cons]
            simp [StandsIn]
          exact behind.within stands

theorem StandsIn.of_mem_splitOn {separator : Char} (stands : excerpt.StandsIn text)
    (member : piece ∈ excerpt.splitOn separator) : piece.StandsIn text := by
  obtain ⟨inner, rfl, joined⟩ : ∃ inner : Excerpt, piece = ⟨excerpt.start + inner.start, inner.text⟩ ∧
      inner.StandsIn ([separator].intercalate (excerpt.text.splitOn separator)) :=
    standsIn_of_mem_layOut member
  rw [List.intercalate_splitOn] at joined
  exact stands.within joined

/-! ## Parts of a text between bounds -/

theorem standsIn_slice (text : List Char) (start stop : Nat) :
    StandsIn text ⟨start, Text.slice text start stop⟩ := by
  show (text.take stop).drop start <+: text.drop start
  rw [List.drop_take]
  exact List.take_prefix _ _

/-- What lies between two bounds stands behind the first, if that is a position in the text. -/
theorem standsIn_sliceBounds {start : Nat} (within : start ≤ text.length) (stop : Int) :
    StandsIn text ⟨start, Text.sliceBounds text start stop⟩ := by
  have position : Text.boundPosition text.length start = start := by
    rw [Text.boundPosition, if_neg (by omega), Int.toNat_natCast]
    exact Nat.min_eq_left within
  rw [Text.sliceBounds, position]
  exact standsIn_slice text start _

end HouseStyle.Excerpt
