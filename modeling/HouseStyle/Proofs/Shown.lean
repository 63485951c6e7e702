import HouseStyle.Proofs.Excerpts
import HouseStyle.Proofs.Lexing

/-!
Contract: what the views of a line show of it.

Owns: the characters that are shown where they are written, and the ones that stand for others.
Does not own: which characters lie in comments and literals.

A view shows a space or the mask character for what it hides, and every other character is one that
is written at the same place. A quote always opens a literal or lies in one, so no view shows it.

Main statements: `shown_code`, `shown_masked` and `Shown.standsIn`.
-/

namespace HouseStyle

/-- The characters that a view shows for what it hides. -/
def Source.veils : List Char :=
  [' ', maskCharacter]

/-- An excerpt that nothing is hidden in. -/
def Excerpt.Legible (excerpt : Excerpt) : Prop :=
  ∀ c ∈ Source.veils, c ∉ excerpt.text

/-- A view of a line that is written as given. -/
structure Source.Shown (raw view : List Char) : Prop where
  plain : ∀ (position : Nat) c, view[position]? = some c → c ∉ veils → raw[position]? = some c
  unquoted : '\'' ∉ view

namespace Source

/-- Where a view shows what it has to show of each character, only hidden ones are shown as others. -/
theorem getElem?_of_view {view : Segment → List Char} {shown : Lexing.Region → Char → Char}
    (same : ∀ segment, view segment = List.zipWith shown (Lexing.regions segment) segment.raw)
    (hidden : ∀ region c, shown region c = c ∨ shown region c ∈ veils) {before : CommentState}
    {raw : List Char} {position : Nat} {c : Char}
    (there : ((segments before raw).1.flatMap view)[position]? = some c) (plain : c ∉ veils) :
    raw[position]? = some c := by
  rw [Lexing.flatMap_eq_zipWith same, flatMap_raw_segments, List.getElem?_zipWith] at there
  split at there
  next region d here written =>
    cases there
    rcases hidden region d with kept | veiled
    · rwa [kept]
    · exact absurd veiled plain
  next => cases there

/-- No character of code is a quote. -/
theorem ne_quote_of_mem_segments {state : CommentState} {text : List Char} {c : Char}
    (member : .code c ∈ (segments state text).1) : c ≠ '\'' := by
  fun_induction segments state text with
  | case1 => simp at member
  | case2 => simp at member
  | case3 _ _ _ _ _ _ following state eq inductionHypothesis =>
    rw [eq] at inductionHypothesis
    exact inductionHypothesis (by simpa using member)
  | case4 => simp at member
  | case5 => simp at member
  | case6 _ _ _ _ _ following state eq inductionHypothesis =>
    rw [eq] at inductionHypothesis
    exact inductionHypothesis (by simpa using member)
  | case7 _ _ _ _ _ _ following state eq inductionHypothesis =>
    rw [eq] at inductionHypothesis
    exact inductionHypothesis (by simpa using member)
  | case8 d _ _ _ unquoted following state eq inductionHypothesis =>
    rw [eq] at inductionHypothesis
    rcases List.mem_cons.mp member with here | later
    · cases here
      exact (not_or.mp unquoted).2
    · exact inductionHypothesis later

/-- A view shows what is written, if each segment shows its code and veils the rest of what it hides. -/
theorem shown_of_view {view : Segment → List Char} {shown : Lexing.Region → Char → Char}
    (same : ∀ segment, view segment = List.zipWith shown (Lexing.regions segment) segment.raw)
    (hidden : ∀ region c, shown region c = c ∨ shown region c ∈ veils)
    (veiled : ∀ segment, ∀ c ∈ view segment, segment = .code c ∨ c ∈ veils)
    (before : CommentState) (raw : List Char) :
    Shown raw ((segments before raw).1.flatMap view) where
  plain := fun _ _ there => getElem?_of_view same hidden there
  unquoted := by
    intro member
    obtain ⟨segment, among, inside⟩ := List.mem_flatMap.mp member
    rcases veiled segment _ inside with rfl | veil
    · exact ne_quote_of_mem_segments among rfl
    · exact absurd veil (by decide)

variable (before : CommentState) (raw : List Char)

theorem shown_code : Shown raw (Line.ofRaw before raw).code := by
  refine shown_of_view Lexing.visible_eq_zipWith ?_ ?_ before raw
  · intro region c
    cases region with
    | code => exact .inl rfl
    | comment => exact .inr List.mem_cons_self
    | literal => exact .inr (List.mem_cons_of_mem _ List.mem_cons_self)
  · intro segment c inside
    cases segment with
    | code d => exact .inl (congrArg Segment.code (List.mem_singleton.mp inside).symm)
    | comment text =>
      obtain ⟨-, -, rfl⟩ := List.mem_map.mp inside
      exact .inr (by decide)
    | literal text =>
      obtain ⟨-, -, rfl⟩ := List.mem_map.mp inside
      exact .inr (by decide)

theorem shown_masked : Shown raw (Line.ofRaw before raw).masked := by
  refine shown_of_view Lexing.masked_eq_zipWith ?_ ?_ before raw
  · intro region c
    cases region with
    | code => exact .inl rfl
    | comment | literal => exact .inr (List.mem_cons_of_mem _ List.mem_cons_self)
  · intro segment c inside
    cases segment with
    | code d => exact .inl (congrArg Segment.code (List.mem_singleton.mp inside).symm)
    | comment text | literal text =>
      obtain ⟨-, -, rfl⟩ := List.mem_map.mp inside
      exact .inr (by decide)

namespace Shown

variable {raw view : List Char} {excerpt : Excerpt} (shown : Shown raw view)
include shown

/-- What a view shows in full is written at the same place. -/
theorem standsIn (stands : excerpt.StandsIn view) (legible : excerpt.Legible) :
    excerpt.StandsIn raw :=
  stands.unveil legible shown.plain

theorem quote_not_mem (stands : excerpt.StandsIn view) : '\'' ∉ excerpt.text := by
  intro member
  exact shown.unquoted (List.mem_of_mem_drop (stands.subset member))

end Shown

end Source

end HouseStyle
