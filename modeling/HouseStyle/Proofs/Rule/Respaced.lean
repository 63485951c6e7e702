import HouseStyle.Proofs.Rule.Operators

/-!
Contract: complaints about the spaces around operators, once they are followed.

Owns: the text with the spaces inserted that its findings ask for, what they leave as it was, and
that nothing is left to complain about.
Does not own: the operators of a text, which `Proofs.Rule.Operators` finds, and the form of the
pieces that mark pointers, which `Proofs.Rule.Markers` treats.

Main statement: `findings_respaced`.
-/

namespace HouseStyle.Operator

/-! ## The spaces that are asked for -/

variable {text before piece rest : List Char} {token : Excerpt}

/-- The operators of a text whose spaces count. -/
def binaries (text : List Char) : List Excerpt :=
  (tokens text).filter (isBinary text (Pointer.ranges text))

/-- The place at which a finding about an operator asks for a space. -/
def spacePlace? (finding : Finding) : Option Int :=
  match finding.kind with
  | .operatorSpaceBefore => some finding.column
  | .operatorSpaceAfter => some (finding.column + finding.length)
  | _ => none

/-- How many spaces the findings in a text ask for at a position. -/
def spaces (text : List Char) (position : Nat) : Nat :=
  ((findings text).filterMap spacePlace?).count (position : Int)

theorem start_lt_stop_of_mem_binaries (member : token ∈ binaries text) : token.start < token.stop :=
  start_lt_stop_of_mem_tokens (List.mem_filter.mp member).1

/-- The findings about an operator, seen from its two neighbours. -/
theorem spaceFindings_eq (split : text = before ++ (token.text ++ rest))
    (start : token.start = before.length) : spaceFindings text token =
      (if before.getLast?.any fun c => !Text.isBlank c then
        [Kind.operatorSpaceBefore.quoting token] else []) ++
      (if rest.head?.any fun c => !Text.isBlank c then
        [Kind.operatorSpaceAfter.quoting token] else []) := by
  have behind : text[token.stop]? = rest.head? := by
    rw [Excerpt.stop, start, split, ← List.length_append, ← List.append_assoc,
      List.getElem?_append_right (Nat.le_refl _), Nat.sub_self, List.head?_eq_getElem?]
  have ahead : (0 < token.start && text[token.start - 1]?.any fun c => !Text.isBlank c) =
      before.getLast?.any fun c => !Text.isBlank c := by
    cases before with
    | nil =>
      rw [start]
      rfl
    | cons c before =>
      rw [start, split, List.getElem?_append_left (by simp), ← List.getLast?_eq_getElem?]
      rfl
  rw [spaceFindings, behind, ahead]

theorem exists_binary_of_gap {position : Nat} (gap : 0 < spaces text position) :
    ∃ token ∈ binaries text, token.start = position ∨ token.stop = position := by
  obtain ⟨finding, found, place⟩ := List.mem_filterMap.mp (List.count_pos_iff.mp gap)
  obtain ⟨token, member, about⟩ := List.mem_flatMap.mp found
  refine ⟨token, member, ?_⟩
  rw [spaceFindings, List.mem_append] at about
  rcases about with about | about
  · obtain rfl : finding = Kind.operatorSpaceBefore.quoting token := by
      split at about
      · exact List.mem_singleton.mp about
      · cases about
    exact .inl (Int.ofNat.inj (Option.some.inj place))
  · obtain rfl : finding = Kind.operatorSpaceAfter.quoting token := by
      split at about
      · exact List.mem_singleton.mp about
      · cases about
    exact .inr (Int.ofNat.inj (Option.some.inj place))

theorem spaces_eq_zero {position : Nat}
    (apart : ∀ token ∈ binaries text, token.start ≠ position ∧ token.stop ≠ position) :
    spaces text position = 0 := by
  by_contra gap
  obtain ⟨token, member, start | stop⟩ := exists_binary_of_gap (Nat.pos_of_ne_zero gap)
  · exact (apart token member).1 start
  · exact (apart token member).2 stop

theorem gap_of_mem_findings (finding : Finding) {position : Nat} (member : token ∈ binaries text)
    (found : finding ∈ spaceFindings text token) (place : spacePlace? finding = some position) :
    0 < spaces text position :=
  List.count_pos_iff.mpr (List.mem_filterMap.mpr
    ⟨finding, List.mem_flatMap.mpr ⟨token, member, found⟩, place⟩)

/-! ## Pieces that no binary operator touches -/

/-- The longer of two first parts of a text goes on where the shorter one ends. -/
theorem exists_of_append_eq_append {first second first' second' : List Char}
    (same : first ++ second = first' ++ second') (shorter : first.length ≤ first'.length) :
    ∃ between, first' = first ++ between ∧ second = between ++ second' := by
  obtain ⟨between, rfl⟩ := List.prefix_of_prefix_length_le ⟨second, same⟩
    (List.prefix_append first' second') shorter
  rw [List.append_assoc] at same
  exact ⟨between, rfl, List.append_cancel_left same⟩

/-- A position within a piece divides the piece. -/
theorem exists_character {position : Nat} (behind : before.length ≤ position)
    (within : position < before.length + piece.length) :
    ∃ early c late, piece = early ++ c :: late ∧ position = before.length + early.length ∧
      (before ++ (piece ++ rest))[position]? = some c := by
  have inside : position - before.length < piece.length := by omega
  refine ⟨piece.take (position - before.length), piece[position - before.length],
    piece.drop (position - before.length + 1), ?_, ?_, ?_⟩
  · rw [← List.drop_eq_getElem_cons, List.take_append_drop]
  · rw [List.length_take]
    omega
  · rw [List.getElem?_append_right behind, List.getElem?_append_left inside,
      List.getElem?_eq_getElem inside]

/-- An operator lies before a piece or behind it if no character belongs to both. -/
theorem apart_of_no_common (member : token ∈ tokens text) (split : text = before ++ (piece ++ rest))
    (some : piece ≠ [])
    (never : ∀ early c late early' late', token.text = early ++ c :: late →
      piece = early' ++ c :: late' → token.start + early.length = before.length + early'.length →
        False) :
    token.stop ≤ before.length ∨ before.length + piece.length ≤ token.start := by
  obtain ⟨-, before', rest', split', start⟩ := exists_of_mem_tokens member
  have written := start_lt_stop_of_mem_tokens member
  have length := List.length_pos_iff.mpr some
  have stop : token.stop = token.start + token.text.length := rfl
  by_contra overlap
  rw [not_or, Nat.not_le, Nat.not_le] at overlap
  obtain ⟨early, c, late, written, there, here⟩ := @exists_character before' token.text rest'
    (max token.start before.length) (by omega) (by omega)
  obtain ⟨early', d, late', written', there', here'⟩ := @exists_character before piece rest
    (max token.start before.length) (by omega) (by omega)
  rw [← split'] at here
  rw [← split, here] at here'
  cases here'
  exact never early c late early' late' written written' (by omega)

theorem apart_of_plain (member : token ∈ tokens text) (split : text = before ++ (piece ++ rest))
    (some : piece ≠ []) (plain : ∀ c ∈ piece, c ∉ symbols) :
    token.stop ≤ before.length ∨ before.length + piece.length ≤ token.start := by
  refine apart_of_no_common member split some fun early c late early' late' written written' _ => ?_
  refine plain c (by simp [written']) ((symbol_of_mem_words (exists_of_mem_tokens member).1).2 c ?_)
  simp [written]

/-- A binary operator lies before or behind any piece that marks a pointer. -/
theorem apart_of_marker {marker : Pattern} {found : Match} (member : token ∈ binaries text)
    (among : marker ∈ Pointer.markers) (match' : found ∈ marker.findAll text) :
    token.stop ≤ found.start ∨ found.stop ≤ token.start := by
  obtain ⟨front, back, form⟩ := Pointer.exists_form among
  obtain ⟨before, piece, rest, split, whole, reads⟩ := Pattern.exists_reads_of_mem_findAll match'
  obtain ⟨inTokens, binary⟩ := List.mem_filter.mp member
  obtain ⟨word, before', rest', split', start⟩ := exists_of_mem_tokens inTokens
  have least := Nat.lt_of_lt_of_le (Pointer.least_pos among) (Pattern.least_le_length reads)
  have stop : found.stop = before.length + piece.length := by rw [Match.stop, whole]; rfl
  have start' : found.start = before.length := by rw [Match.start, whole]
  rw [start', stop]
  refine apart_of_no_common inTokens split (List.length_pos_iff.mp least) ?_
  intro early c late early' late' written written' there
  have length : piece.length = early'.length + (late'.length + 1) := by
    rw [written', List.length_append, List.length_cons]
  obtain rfl : c = '*' := form.eq_star_of_symbol reads (by simp [written'])
    ((symbol_of_mem_words word).2 c (by simp [written]))
  obtain ⟨rfl, rfl | rfl⟩ := star_of_mem_words word written
  · -- a star of its own is inside the range of the marker
    have tokenStop : token.stop = token.start + 1 := by rw [Excerpt.stop, written]; rfl
    have inside : isInside (Pointer.ranges text) token := by
      refine List.any_eq_true.mpr ⟨found.whole, List.mem_flatMap.mpr
        ⟨marker, among, List.mem_map_of_mem match'⟩, ?_⟩
      rw [List.length_nil] at there
      rw [Bool.and_eq_true, decide_eq_true_eq, decide_eq_true_eq]
      exact ⟨by rw [← Match.start]; omega, by rw [← Match.stop]; omega⟩
    rw [isBinary, written, inside] at binary
    simp at binary
  · -- a star before an equals sign is not in the marker
    have onward : before' ++ '*' :: ('=' :: rest') = before ++ (piece ++ rest) := by
      rw [← split, split', written]
      rfl
    rw [List.length_nil] at there
    obtain ⟨between, rfl, equals⟩ :=
      (lt_or_exists_of_append_eq onward).resolve_left fun early => by omega
    have beyond := form.length_le_of_star_equals reads equals
    rw [List.length_append] at start
    omega

/-- A piece of the text that no binary operator overlaps. -/
structure Untouched (text before piece rest : List Char) : Prop where
  split : text = before ++ (piece ++ rest)
  some : piece ≠ []
  apart : ∀ token ∈ binaries text,
    token.stop ≤ before.length ∨ before.length + piece.length ≤ token.start

theorem untouched_of_plain (split : text = before ++ (piece ++ rest)) (some : piece ≠ [])
    (plain : ∀ c ∈ piece, c ∉ symbols) : Untouched text before piece rest where
  split := split
  some := some
  apart := fun _ member => apart_of_plain (List.mem_filter.mp member).1 split some plain

theorem untouched_of_marker {marker : Pattern} {found : Match} (among : marker ∈ Pointer.markers)
    (match' : found ∈ marker.findAll text) : ∃ before piece rest,
      Untouched text before piece rest ∧ found.whole = ⟨before.length, piece⟩ ∧
      marker.Reads before.getLast? piece rest := by
  obtain ⟨before, piece, rest, split, whole, reads⟩ := Pattern.exists_reads_of_mem_findAll match'
  have some := List.length_pos_iff.mp
    (Nat.lt_of_lt_of_le (Pointer.least_pos among) (Pattern.least_le_length reads))
  refine ⟨before, piece, rest, ⟨split, some, fun token member => ?_⟩, whole, reads⟩
  have outside := apart_of_marker member among match'
  rwa [Match.start, Match.stop, whole] at outside

/-- An operator that ends where the second part of a text starts leaves a character of its own
behind. -/
theorem exists_symbol_before (member : token ∈ binaries text) (split : text = before ++ rest)
    (stop : token.stop = before.length) : ∃ c ∈ symbols, before.getLast? = some c := by
  obtain ⟨word, before', rest', split', start⟩ := exists_of_mem_tokens (List.mem_filter.mp member).1
  have whole : before ++ rest = before' ++ token.text ++ rest' := by
    rw [List.append_assoc, ← split, split']
  have same : before = before' ++ token.text := by
    refine (List.append_inj whole ?_).1
    rw [List.length_append, ← start]
    exact stop.symm
  obtain ⟨initial, c, last⟩ := List.eq_nil_or_concat token.text |>.resolve_left
    (symbol_of_mem_words word).1
  exact ⟨c, (symbol_of_mem_words word).2 c (by simp [last]), by simp [same, last]⟩

theorem exists_symbol_behind (member : token ∈ binaries text) (split : text = before ++ rest)
    (start : token.start = before.length) : ∃ c ∈ symbols, rest.head? = some c := by
  obtain ⟨word, before', rest', split', start'⟩ := exists_of_mem_tokens (List.mem_filter.mp member).1
  have same : rest = token.text ++ rest' :=
    (List.append_inj (split.symm.trans split') (start.symm.trans start')).2
  obtain ⟨c, more, first⟩ := List.exists_cons_of_ne_nil (symbol_of_mem_words word).1
  exact ⟨c, (symbol_of_mem_words word).2 c (by simp [first]), by simp [same, first]⟩

namespace Untouched

variable (untouched : Untouched text before piece rest)
include untouched

theorem spaces_eq_zero (place : Nat) (behind : before.length < place)
    (within : place < before.length + piece.length) : spaces text place = 0 := by
  refine Operator.spaces_eq_zero fun token member => ?_
  have written := start_lt_stop_of_mem_binaries member
  have outside := untouched.apart token member
  omega

/-- The character before the piece is the same in the fixed text, or a space in place of a character
of an operator. -/
theorem spaced_before :
    Spaced before.getLast? (Text.spread (spaces text) 0 before).getLast? := by
  rw [Text.getLast?_spread, Nat.zero_add]
  split
  next gap =>
    obtain ⟨token, member, beside⟩ := exists_binary_of_gap gap
    have outside := untouched.apart token member
    have written := start_lt_stop_of_mem_binaries member
    have some := List.length_pos_iff.mpr untouched.some
    exact .inr ⟨exists_symbol_before member untouched.split (by omega), rfl⟩
  next => exact .refl _

/-- So is the character behind the piece. -/
theorem spaced_behind :
    Spaced rest.head? (Text.spread (spaces text) (before.length + piece.length) rest).head? := by
  rw [Text.head?_spread]
  split
  next gap =>
    obtain ⟨token, member, beside⟩ := exists_binary_of_gap gap
    have outside := untouched.apart token member
    have written := start_lt_stop_of_mem_binaries member
    have some := List.length_pos_iff.mpr untouched.some
    have split := untouched.split
    rw [← List.append_assoc] at split
    exact .inr ⟨exists_symbol_behind member split (by rw [List.length_append]; omega), rfl⟩
  next => exact .refl _

end Untouched

/-! ## What stays as it was -/

/-- The text with one space put in for each of its findings. -/
def respaced (text : List Char) : List Char :=
  Text.withSpaces ((findings text).filterMap spacePlace?) text

theorem respaced_eq (text : List Char) : respaced text = Text.spread (spaces text) 0 text :=
  rfl

/-- The piece is found again in the fixed text. -/
theorem Untouched.respaced_eq (untouched : Untouched text before piece rest) :
    respaced text = Text.spread (spaces text) 0 before ++
      (piece ++ Text.spread (spaces text) (before.length + piece.length) rest) := by
  rw [Operator.respaced_eq, ← Text.spread_append_append untouched.some untouched.spaces_eq_zero,
    ← untouched.split]

/-- The operators of the fixed text are those of the text. -/
theorem exists_moved_of_mem_tokens_respaced {token' : Excerpt}
    (member : token' ∈ tokens (respaced text)) : ∃ token ∈ tokens text, ∃ before rest,
      Moved (spaces text) 0 0 text before rest token token' ∧
      respaced text = Text.spread (spaces text) 0 before ++
        (token.text ++ Text.spread (spaces text) (before.length + token.text.length) rest) := by
  have tight (token : Excerpt) (member : token ∈ tokens text) (place : Nat)
      (behind : token.start < place) (within : place < token.stop) : spaces text place = 0 := by
    refine spaces_eq_zero fun other member' => ?_
    have written := start_lt_stop_of_mem_binaries member'
    rcases eq_or_apart_of_mem_tokens member (List.mem_filter.mp member').1 with rfl | apart <;> omega
  rw [respaced_eq, tokens_eq] at member
  obtain ⟨token, among, before, rest, moved⟩ := exists_moved_of_mem_tokensAt_spread
    (fun place _ _ => by omega) (by rwa [← tokens_eq]) member
  rw [← tokens_eq] at among
  refine ⟨token, among, before, rest, moved, ?_⟩
  have start := moved.start
  rw [respaced_eq, ← Text.spread_append_append (symbol_of_mem_words (exists_of_mem_tokens among).1).1,
    ← moved.split]
  exact fun place behind within => tight token among place (by omega) (by
    rw [Excerpt.stop]
    omega)

/-! ## Unary operators stay unary -/

/-- Spaces are put beside characters of operators only: a piece without any stays whole, and the
character before it is the same, or a space in place of a character of an operator. -/
def Keeps (gaps : Nat → Nat) (text : List Char) : Prop :=
  ∀ {before piece rest : List Char}, text = before ++ (piece ++ rest) → piece ≠ [] →
    (∀ c ∈ piece, c ∉ symbols) →
      Spaced before.getLast? (Text.spread gaps 0 before).getLast? ∧
      Text.spread gaps 0 text = Text.spread gaps 0 before ++
        (piece ++ Text.spread gaps (before.length + piece.length) rest)

/-- A word after which operators are unary is one with the spaces inserted too. -/
theorem occurs_unaryWord_spread {gaps : Nat → Nat} (keeps : Keeps gaps text)
    (occurs : unaryWord.occurs (Text.trimRight text)) :
    unaryWord.occurs (Text.trimRight (Text.spread gaps 0 text)) := by
  obtain ⟨before, _, rest, split, word, _, rfl, reads, rfl, ends⟩ :=
    Pattern.occurs_iff_reads.mp occurs
  have plain : ∀ c ∈ word, c ∉ symbols := by
    have avoids : symbols.all fun c => (Pattern.boundary ++
      .oneOf ["return", "case", "sizeof"] : Pattern).avoids c := by decide
    exact fun c member symbol =>
      Pattern.not_mem_of_reads (List.all_eq_true.mp avoids c symbol) reads member
  have length : 0 < _ := Nat.lt_of_lt_of_le (by decide) (Pattern.least_le_length reads)
  have some : word ≠ [] := List.length_pos_iff.mp length
  have inked := Text.inked_trimRight text
  obtain rfl : rest = [] := by
    rcases (Bool.or_eq_true _ _).mp ends with none | feed
    · exact eq_of_beq none
    · rw [split, eq_of_beq feed] at inked
      simp at inked
      exact absurd inked (by decide)
  obtain ⟨blanks, blank, whole⟩ := Text.exists_blanks_behind_trimRight text
  rw [split, List.append_nil, List.append_nil] at inked
  rw [split, List.append_nil, List.append_nil, List.append_assoc] at whole
  obtain ⟨spaced, kept⟩ := keeps whole some plain
  have trimmed : Text.trimRight (Text.spread gaps 0 text) = Text.spread gaps 0 before ++ word := by
    rw [kept, ← List.append_assoc]
    refine Text.trimRight_append (Text.isBlank_of_mem_spread blank) ?_
    rw [List.getLast?_append, List.getLast?_eq_some_getLast some] at inked ⊢
    exact inked
  refine Pattern.occurs_iff_reads.mpr ⟨Text.spread gaps 0 before, word, [], by rw [trimmed]; simp,
    word, [], (List.append_nil word).symm, ?_, rfl, rfl⟩
  exact reads.carried .refl ⟨Pattern.indifferent_boundary,
    Pattern.indifferent_of_lookless _ (by decide)⟩ spaced (.refl _)

/-- A number whose exponent may have a sign is one with the spaces inserted too, if none comes
behind it. -/
theorem occurs_exponentMark_spread {gaps : Nat → Nat} (keeps : Keeps gaps text)
    (ended : ∀ piece before, text = before ++ piece → piece ≠ [] → (∀ c ∈ piece, c ∉ symbols) →
      gaps text.length = 0)
    (occurs : exponentMark.occurs text) : exponentMark.occurs (Text.spread gaps 0 text) := by
  obtain ⟨before, _, rest, split, number, _, rfl, reads, rfl, ends⟩ :=
    Pattern.occurs_iff_reads.mp occurs
  have plain : ∀ c ∈ number ++ rest, c ∉ symbols := by
    have avoids : symbols.all fun c => (.notBehind Lexicon.isIdentStart ++
      .several Text.isDecimal ++ .opt (.char '.' ++ .many Text.isDecimal) ++ .anyOf ['e', 'E'] :
        Pattern).avoids c := by decide
    intro c member symbol
    rcases List.mem_append.mp member with inside | behind
    · exact Pattern.not_mem_of_reads (List.all_eq_true.mp avoids c symbol) reads inside
    · rcases (Bool.or_eq_true _ _).mp ends with none | feed
      · rw [eq_of_beq none] at behind
        cases behind
      · rw [eq_of_beq feed, List.mem_singleton] at behind
        exact absurd symbol (by rw [behind]; decide)
  have length : 0 < _ := Nat.lt_of_lt_of_le (by decide) (Pattern.least_le_length reads)
  have some : number ++ rest ≠ [] := by
    rw [← List.length_pos_iff, List.length_append]
    omega
  rw [List.append_nil] at split
  have whole : text = before ++ (number ++ rest ++ []) := by rw [split, List.append_nil]
  obtain ⟨spaced, kept⟩ := keeps whole some plain
  have none : gaps (before.length + (number ++ rest).length) = 0 := by
    rw [← List.length_append, ← split]
    exact ended _ before split some plain
  rw [Text.spread, none, List.replicate_zero, List.append_nil] at kept
  refine Pattern.occurs_iff_reads.mpr ⟨Text.spread gaps 0 before, number, rest, kept, number, [],
    (List.append_nil number).symm, ?_, rfl, ends⟩
  refine reads.carried .refl ?_ spaced (.refl _)
  exact ⟨⟨⟨Pattern.indifferent_notBehind (by decide), Pattern.indifferent_of_lookless _ (by decide)⟩,
    Pattern.indifferent_of_lookless _ (by decide)⟩, Pattern.indifferent_of_lookless _ (by decide)⟩

theorem isUnary_spread {gaps : Nat → Nat} {operator : List Char} (keeps : Keeps gaps text)
    (ended : ∀ piece before, text = before ++ piece → piece ≠ [] → (∀ c ∈ piece, c ∉ symbols) →
      gaps text.length = 0)
    (unary : isUnary text operator) : isUnary (Text.spread gaps 0 text) operator := by
  rw [isUnary, Bool.and_eq_true] at unary ⊢
  refine ⟨unary.1, ?_⟩
  have before := unary.2
  rw [Text.getLast?_trimRight_spread]
  cases last : (Text.trimRight text).getLast? with
  | none => rfl
  | some previous =>
    rw [last] at before
    simp only [Bool.or_eq_true] at before ⊢
    rcases before with (context | word) | exponent
    · exact .inl (.inl context)
    · exact .inl (.inr (occurs_unaryWord_spread keeps word))
    · rw [Bool.and_eq_true] at exponent ⊢
      exact .inr ⟨exponent.1, occurs_exponentMark_spread keeps ended exponent.2⟩

/-- The text before an operator keeps its pieces without characters of operators. -/
theorem keeps_before (split : text = before ++ rest) : Keeps (spaces text) before := by
  intro early piece late split' some plain
  have whole : text = early ++ (piece ++ (late ++ rest)) := by
    rw [split, split']
    simp
  have untouched := untouched_of_plain whole some plain
  refine ⟨untouched.spaced_before, ?_⟩
  rw [← Text.spread_append_append some untouched.spaces_eq_zero, ← split']

/-- An operator that is unary is so in the fixed text. -/
theorem isUnary_respaced (member : token ∈ tokens text) (exempt : token ∉ binaries text)
    (split : text = before ++ (token.text ++ rest)) (start : token.start = before.length)
    (unary : isUnary before token.text) :
    isUnary (Text.spread (spaces text) 0 before) token.text := by
  refine isUnary_spread (keeps_before split) (fun piece early split' some plain => ?_) unary
  have whole : text = early ++ (piece ++ (token.text ++ rest)) := by
    rw [split, split']
    simp
  have length := congrArg List.length split'
  rw [List.length_append] at length
  refine spaces_eq_zero fun other member' => ?_
  obtain ⟨inTokens, -⟩ := List.mem_filter.mp member'
  have written := start_lt_stop_of_mem_tokens inTokens
  have written' := start_lt_stop_of_mem_tokens member
  have filled := List.length_pos_iff.mpr some
  rcases eq_or_apart_of_mem_tokens member inTokens with rfl | apart
  · exact absurd member' exempt
  · have outside := apart_of_plain inTokens whole some plain
    omega

/-! ## Stars of pointers stay stars of pointers -/

/-- A star inside a piece that marks a pointer is inside such a piece in the fixed text. -/
theorem isInside_respaced (split : text = before ++ '*' :: rest)
    (inside : isInside (Pointer.ranges text) ⟨before.length, ['*']⟩) :
    isInside (Pointer.ranges (respaced text))
      ⟨(Text.spread (spaces text) 0 before).length, ['*']⟩ := by
  obtain ⟨range, among, contains⟩ := List.any_eq_true.mp inside
  obtain ⟨marker, listed, found⟩ := List.mem_flatMap.mp among
  obtain ⟨found, match', rfl⟩ := List.mem_map.mp found
  obtain ⟨front, back, form⟩ := Pointer.exists_form listed
  obtain ⟨lead, piece, tail, untouched, whole, reads⟩ := untouched_of_marker listed match'
  rw [Bool.and_eq_true, decide_eq_true_eq, decide_eq_true_eq, whole] at contains
  obtain ⟨behind, within⟩ : lead.length ≤ before.length ∧
      before.length + 1 ≤ lead.length + piece.length := contains
  have fixed := untouched.respaced_eq
  -- the piece is read in the fixed text too, so that some match of the marker covers its start
  have reads' := form.carried reads untouched.spaced_before untouched.spaced_behind
  obtain ⟨cover, match', early, late⟩ :=
    Pattern.exists_covering_of_reads (Pointer.least_pos listed) reads'
  rw [← fixed] at match'
  obtain ⟨lead', piece', tail', split'', whole', reads''⟩ := Pattern.exists_reads_of_mem_findAll match'
  rw [Match.start, whole'] at early
  rw [Match.stop, whole'] at late
  obtain ⟨skipped, onward, left⟩ := exists_of_append_eq_append (split''.symm.trans fixed) early
  have stop : (Text.spread (spaces text) 0 lead).length < lead'.length + piece'.length := late
  rw [onward, List.length_append] at stop
  obtain ⟨more, rfl, ahead⟩ := exists_of_append_eq_append left.symm (by omega)
  -- and this match covers the stars of the piece
  obtain ⟨inner, rfl, star⟩ := exists_of_append_eq_append (untouched.split.symm.trans split) behind
  rw [List.length_append] at within
  obtain ⟨further, rfl, last⟩ := exists_of_append_eq_append star.symm (by omega)
  obtain ⟨c, later, rfl⟩ : ∃ c later, further = c :: later := by
    refine List.exists_cons_of_length_pos ?_
    rw [List.length_append] at within
    omega
  obtain rfl : '*' = c := (List.cons.inj last).1
  have unfinished : more ≠ [] := by
    rintro rfl
    rw [List.append_nil] at stop
    omega
  have covered := form.lt_of_star_of_overlap reads'' rfl unfinished
    (by rwa [onward, List.getLast?_append] at reads') ahead rfl
  have place : Text.spread (spaces text) 0 (lead ++ inner) = lead' ++ skipped ++ inner := by
    rw [Text.spread_append fun place behind within => untouched.spaces_eq_zero place behind (by
      rw [List.length_append, List.length_cons]
      omega), onward]
  refine List.any_eq_true.mpr ⟨cover.whole, List.mem_flatMap.mpr
    ⟨marker, listed, List.mem_map_of_mem match'⟩, ?_⟩
  rw [Bool.and_eq_true, decide_eq_true_eq, decide_eq_true_eq, whole', place]
  simp only [Excerpt.stop, List.length_append, List.length_singleton]
  omega

/-! ## Nothing left to complain about -/

/-- A space asked for beside a binary operator is there in the fixed text. -/
theorem spaceFindings_respaced {token' : Excerpt} (member : token ∈ binaries text)
    (moved : Moved (spaces text) 0 0 text before rest token token')
    (fixed : respaced text = Text.spread (spaces text) 0 before ++
      (token.text ++ Text.spread (spaces text) (before.length + token.text.length) rest)) :
    spaceFindings (respaced text) token' = [] := by
  have start := moved.start
  rw [Nat.zero_add] at start
  have asked := spaceFindings_eq moved.split start
  have ahead : ¬(Text.spread (spaces text) 0 before).getLast?.any fun c => !Text.isBlank c := by
    rw [Text.getLast?_spread, Nat.zero_add]
    split
    · decide
    next none =>
      intro ink
      refine none (gap_of_mem_findings (Kind.operatorSpaceBefore.quoting token) member ?_ ?_)
      · rw [asked, if_pos ink]
        exact List.mem_append_left _ (List.mem_singleton_self _)
      · rw [← start]
        rfl
  have behind : ¬(Text.spread (spaces text) (before.length + token.text.length) rest).head?.any
      fun c => !Text.isBlank c := by
    rw [Text.head?_spread]
    split
    · decide
    next none =>
      intro ink
      refine none (gap_of_mem_findings (Kind.operatorSpaceAfter.quoting token) member ?_ ?_)
      · rw [asked, if_pos ink]
        exact List.mem_append_right _ (List.mem_singleton_self _)
      · rw [← start]
        rfl
  have sameText : token'.text = token.text := by rw [moved.moved]
  have start' : token'.start = (Text.spread (spaces text) 0 before).length := by
    rw [moved.moved]
    exact Nat.zero_add _
  rw [← sameText] at fixed
  rw [spaceFindings_eq fixed start', if_neg ahead, sameText, if_neg behind]
  rfl

/-- An operator whose spaces do not count is one in the fixed text too. -/
theorem isBinary_respaced {token' : Excerpt} (member : token ∈ tokens text)
    (exempt : token ∉ binaries text) (moved : Moved (spaces text) 0 0 text before rest token token')
    (fixed : respaced text = Text.spread (spaces text) 0 before ++
      (token.text ++ Text.spread (spaces text) (before.length + token.text.length) rest)) :
    isBinary (respaced text) (Pointer.ranges (respaced text)) token' = false := by
  have split := moved.split
  have start := moved.start
  obtain rfl := moved.moved
  rw [Nat.zero_add] at start ⊢
  have taken : text.take token.start = before := by
    rw [split, start, List.take_left]
  have taken' : (respaced text).take (Text.spread (spaces text) 0 before).length =
      Text.spread (spaces text) 0 before := by
    rw [fixed, List.take_left]
  have reason : isBinary text (Pointer.ranges text) token = false := by
    rw [← Bool.not_eq_true]
    exact fun binary => exempt (List.mem_filter.mpr ⟨member, binary⟩)
  rw [isBinary, taken] at reason
  rw [isBinary, taken']
  simp only [Bool.and_eq_false_iff, Bool.not_eq_false', Bool.and_eq_true, beq_iff_eq] at reason ⊢
  rcases reason with (listed | ⟨star, inside⟩) | unary
  · exact .inl (.inl listed)
  · obtain ⟨position, word⟩ := token
    obtain rfl : word = ['*'] := star
    obtain rfl : position = before.length := start
    exact .inl (.inr ⟨rfl, isInside_respaced split inside⟩)
  · exact .inr (isUnary_respaced member exempt split start unary)

/-- Once the spaces asked for are there, none is asked for. -/
theorem findings_respaced (text : List Char) : findings (respaced text) = [] := by
  rw [List.eq_nil_iff_forall_not_mem]
  intro finding found
  obtain ⟨token', member', about⟩ := List.mem_flatMap.mp found
  obtain ⟨inTokens, binary⟩ := List.mem_filter.mp member'
  obtain ⟨token, member, before, rest, moved, fixed⟩ := exists_moved_of_mem_tokens_respaced inTokens
  by_cases counts : token ∈ binaries text
  · rw [spaceFindings_respaced counts moved fixed] at about
    cases about
  · rw [isBinary_respaced member counts moved fixed] at binary
    cases binary

example : respaced "char *p=a* -b;".toList = "char *p = a * -b;".toList := by decide

end HouseStyle.Operator
