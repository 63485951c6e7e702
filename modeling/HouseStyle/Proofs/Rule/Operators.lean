import HouseStyle.Proofs.Rule.Markers
import HouseStyle.Proofs.Spread

/-!
Contract: the operators that a text consists of.

Owns: which operator a search finds at a place, the operators of a text one by one, and that they
come through when spaces are inserted between them.
Does not own: which operators are unary, and the findings about the rest.

Main statement: every operator of a text with spaces inserted, but not into an operator, is one of
the text (`exists_moved_of_mem_tokensAt_spread`).
-/

namespace HouseStyle

namespace Pattern

variable {pattern : Pattern} {previous : Option Char} {position skip : Nat} {text : List Char}

theorem matchAt?_orElse (first second : Pattern) (cursor : Cursor) :
    matchAt? (first <|> second) cursor = (matchAt? first cursor).or (matchAt? second cursor) := by
  rw [matchAt?_eq, matchAt?_eq, matchAt?_eq, orElse_eq, outcomes, List.head?_append, Option.map_or]

/-- A pattern that reads words, no two of which fit at the same place, matches the word that fits. -/
theorem whole_matchAt?_of_unique {words : List (List Char)}
    (reads : ∀ piece rest, pattern.Reads previous piece rest ↔ piece ∈ words)
    (unique : ∀ word ∈ words, ∀ other ∈ words, word <+: text → other <+: text → word = other) :
    (matchAt? pattern ⟨position, previous, text, []⟩).map Match.whole =
      (words.find? (·.isPrefixOf text)).map fun word => ⟨position, word⟩ := by
  cases here : matchAt? pattern ⟨position, previous, text, []⟩ with
  | some found =>
    obtain ⟨piece, rest, rfl, whole, read⟩ := exists_reads_of_matchAt? here
    have member := (reads piece rest).mp read
    have some : (words.find? (·.isPrefixOf (piece ++ rest))).isSome := List.find?_isSome.mpr
      ⟨piece, member, List.isPrefixOf_iff_prefix.mpr (List.prefix_append piece rest)⟩
    obtain ⟨word, first⟩ := Option.isSome_iff_exists.mp some
    have fits := List.find?_some (p := fun word : List Char => word.isPrefixOf (piece ++ rest)) first
    rw [List.isPrefixOf_iff_prefix] at fits
    rw [first, Option.map_some, Option.map_some, whole,
      unique word (List.mem_of_find?_eq_some first) piece member fits (List.prefix_append _ _)]
  | none =>
    have absent : words.find? (·.isPrefixOf text) = none := by
      rw [List.find?_eq_none]
      intro word member fits
      obtain ⟨rest, rfl⟩ := List.isPrefixOf_iff_prefix.mp fits
      obtain ⟨found, here'⟩ := exists_matchAt?_of_reads ((reads word rest).mpr member) position
      cases here.symm.trans here'
    rw [absent]
    rfl

theorem whole_matchAt?_oneOf {words : List String} :
    (matchAt? (oneOf words) ⟨position, previous, text, []⟩).map Match.whole =
      ((words.map String.toList).find? (·.isPrefixOf text)).map fun word => ⟨position, word⟩ := by
  have alone (word : String) :
      (matchAt? (Pattern.word word) ⟨position, previous, text, []⟩).map Match.whole =
        ([word.toList].find? (·.isPrefixOf text)).map fun word => ⟨position, word⟩ := by
    refine whole_matchAt?_of_unique (fun piece rest => ?_) ?_
    · rw [reads_word, List.mem_singleton]
    · intro word member other member' _ _
      rw [List.mem_singleton.mp member, List.mem_singleton.mp member']
  induction words with
  | nil => exact whole_matchAt?_of_unique (fun piece rest => by simp [oneOf, Reads]) (by simp)
  | cons word words inductionHypothesis =>
    cases words with
    | nil => exact alone word
    | cons other words =>
      have split : (word :: other :: words).map String.toList =
          [word.toList] ++ (other :: words).map String.toList := rfl
      rw [split, List.find?_append, Option.map_or, oneOf, matchAt?_orElse, Option.map_or, alone,
        inductionHypothesis]
      exact List.cons_ne_nil other words

theorem whole_matchAt?_anyOf {characters : List Char} :
    (matchAt? (anyOf characters) ⟨position, previous, text, []⟩).map Match.whole =
      ((characters.map fun c => [c]).find? (·.isPrefixOf text)).map fun word => ⟨position, word⟩ := by
  refine whole_matchAt?_of_unique (fun piece rest => ?_) ?_
  · rw [List.mem_map]
    constructor
    · rintro ⟨c, listed, rfl⟩
      exact ⟨c, List.contains_iff_mem.mp listed, rfl⟩
    · rintro ⟨c, member, rfl⟩
      exact ⟨c, List.contains_iff_mem.mpr member, rfl⟩
  · simp only [List.mem_map]
    rintro _ ⟨c, -, rfl⟩ _ ⟨d, -, rfl⟩ fits fits'
    exact (List.prefix_of_prefix_length_le fits fits' (Nat.le_refl 1)).eq_of_length rfl

end Pattern

namespace Operator

/-- The operators, in the order in which they are tried. -/
def words : List (List Char) :=
  ["<<=", ">>=", "->", "++", "--", "&&", "||", "<<", ">>", ">=", "<=", "==", "!=", "+=", "-=", "*=",
    "/=", "%=", "&=", "|=", "^="].map String.toList ++
  ['=', '+', '-', '*', '/', '%', '<', '>', '?', ':'].map fun c => [c]

/-- The operator that a text starts with. -/
def token? (text : List Char) : Option (List Char) :=
  words.find? (·.isPrefixOf text)

theorem whole_matchAt?_operator {position : Nat} {previous : Option Char} {text : List Char} :
    (operator.matchAt? ⟨position, previous, text, []⟩).map Match.whole =
      (token? text).map fun word => ⟨position, word⟩ := by
  rw [operator, Pattern.matchAt?_orElse, Option.map_or, Pattern.whole_matchAt?_oneOf,
    Pattern.whole_matchAt?_anyOf, ← Option.map_or, ← List.find?_append]
  rfl

theorem reads_operator {previous : Option Char} {piece rest : List Char} :
    operator.Reads previous piece rest → piece ∈ words := by
  rintro (long | ⟨c, listed, rfl⟩)
  · obtain ⟨text, member, rfl⟩ := Pattern.reads_oneOf.mp long
    exact List.mem_append_left _ (List.mem_map_of_mem member)
  · exact List.mem_append_right _ (List.mem_map_of_mem (List.contains_iff_mem.mp listed))

theorem symbol_of_mem_words {word : List Char} (member : word ∈ words) :
    word ≠ [] ∧ ∀ c ∈ word, c ∈ symbols := by
  have each : words.all fun word => !word.isEmpty && word.all symbols.contains := by decide
  have here := List.all_eq_true.mp each word member
  rw [Bool.and_eq_true, Bool.not_eq_true', List.isEmpty_eq_false_iff] at here
  exact ⟨here.1, fun c inside => List.contains_iff_mem.mp (List.all_eq_true.mp here.2 c inside)⟩

theorem space_not_mem_word {word : List Char} (member : word ∈ words) : ' ' ∉ word :=
  fun inside => absurd ((symbol_of_mem_words member).2 _ inside) (by decide)

/-- An operator with a star in it is a star, or a star and an equals sign. -/
theorem star_of_mem_words {word before behind : List Char} (member : word ∈ words)
    (star : word = before ++ '*' :: behind) : before = [] ∧ (behind = [] ∨ behind = ['=']) := by
  have each : words.all fun word =>
      !word.contains '*' || (word == ['*'] || word == ['*', '=']) := by decide
  have here := List.all_eq_true.mp each word member
  have inside : word.contains '*' := by
    rw [List.contains_iff_mem, star]
    exact List.mem_append_right _ List.mem_cons_self
  rw [inside, Bool.not_true, Bool.false_or, Bool.or_eq_true, beq_iff_eq, beq_iff_eq] at here
  rcases before with _ | ⟨c, _ | ⟨d, before⟩⟩ <;> rcases here with rfl | rfl <;> simp_all

/-! ## The operators of a text -/

variable {text before rest : List Char} {token : Excerpt}

/-- The operators of a text. -/
def tokens (text : List Char) : List Excerpt :=
  (operator.findAll text).map Match.whole

theorem exists_of_mem_tokens (member : token ∈ tokens text) : token.text ∈ words ∧
    ∃ before rest, text = before ++ (token.text ++ rest) ∧ token.start = before.length := by
  obtain ⟨found, among, rfl⟩ := List.mem_map.mp member
  obtain ⟨before, piece, rest, split, whole, reads⟩ := Pattern.exists_reads_of_mem_findAll among
  rw [whole]
  exact ⟨reads_operator reads, before, rest, split, rfl⟩

theorem start_lt_stop_of_mem_tokens (member : token ∈ tokens text) : token.start < token.stop := by
  have some := List.length_pos_iff.mpr (symbol_of_mem_words (exists_of_mem_tokens member).1).1
  rw [Excerpt.stop]
  omega

theorem eq_or_apart_of_mem_tokens {other : Excerpt} (member : token ∈ tokens text)
    (member' : other ∈ tokens text) :
    token = other ∨ token.stop ≤ other.start ∨ other.stop ≤ token.start := by
  have ordered : (tokens text).Pairwise fun first second => first.stop ≤ second.start :=
    List.pairwise_map.mpr Pattern.pairwise_findAll
  rw [List.pairwise_iff_getElem] at ordered
  obtain ⟨index, inside, rfl⟩ := List.getElem_of_mem member
  obtain ⟨index', inside', rfl⟩ := List.getElem_of_mem member'
  rcases Nat.lt_trichotomy index index' with before | rfl | behind
  · exact .inr (.inl (ordered index index' inside inside' before))
  · exact .inl rfl
  · exact .inr (.inr (ordered index' index inside' inside behind))

/-- The operators of a text from the given position on, after skipping characters that belong to the
operator before. -/
def tokensAt : Nat → Nat → List Char → List Excerpt
  | _, _, [] => []
  | skip + 1, position, _ :: rest => tokensAt skip (position + 1) rest
  | 0, position, c :: rest =>
    match token? (c :: rest) with
    | some word => ⟨position, word⟩ :: tokensAt (word.length - 1) (position + 1) rest
    | none => tokensAt 0 (position + 1) rest

theorem map_whole_findAllAt {skip position : Nat} {previous : Option Char} {text : List Char} :
    (operator.findAllAt skip position previous text).map Match.whole =
      tokensAt skip position text := by
  induction text generalizing skip position previous with
  | nil =>
    cases skip with
    | succ skip => rfl
    | zero =>
      have here := @whole_matchAt?_operator position previous []
      rw [show token? [] = none by decide, Option.map_none, Option.map_eq_none_iff] at here
      rw [Pattern.findAllAt, here]
      rfl
  | cons c text inductionHypothesis =>
    cases skip with
    | succ skip =>
      rw [Pattern.findAllAt, tokensAt]
      exact inductionHypothesis
    | zero =>
      have here := @whole_matchAt?_operator position previous (c :: text)
      rw [Pattern.findAllAt, tokensAt]
      cases found : operator.matchAt? ⟨position, previous, c :: text, []⟩ with
      | none =>
        rw [found] at here
        rw [Option.map_eq_none_iff.mp here.symm]
        exact inductionHypothesis
      | some found' =>
        rw [found] at here
        obtain ⟨word, first, whole⟩ := Option.map_eq_some_iff.mp here.symm
        simp only [first, List.map_cons, ← whole, inductionHypothesis, Excerpt.length]

theorem tokens_eq (text : List Char) : tokens text = tokensAt 0 0 text :=
  map_whole_findAllAt

/-! ## Operators behind inserted spaces -/

variable {gaps : Nat → Nat}

/-- The operator at a place is the same after spaces have been inserted, but not into it. -/
theorem token?_spread {position : Nat} {c : Char} {text : List Char}
    (tight : ∀ word, token? (c :: text) = some word → ∀ place, position < place →
      place < position + word.length → gaps place = 0) :
    token? (c :: Text.spread gaps (position + 1) text) = token? (c :: text) := by
  have back {word : List Char} (member : word ∈ words)
      (fits : word.isPrefixOf (c :: Text.spread gaps (position + 1) text)) :
      word.isPrefixOf (c :: text) := by
    obtain ⟨d, word, rfl⟩ := List.exists_cons_of_ne_nil (symbol_of_mem_words member).1
    have whole := space_not_mem_word member
    rw [List.isPrefixOf_iff_prefix, List.cons_prefix_cons] at fits ⊢
    exact ⟨fits.1, Text.isPrefix_of_isPrefix_spread
      (fun inside => whole (List.mem_cons_of_mem _ inside)) fits.2⟩
  cases here : token? (c :: text) with
  | none =>
    rw [token?, List.find?_eq_none] at here ⊢
    exact fun word member fits => here word member (back member fits)
  | some word =>
    have inner := tight word here
    rw [token?, List.find?_eq_some_iff_append] at here ⊢
    obtain ⟨fits, earlier, later, split, refused⟩ := here
    refine ⟨?_, earlier, later, split, fun other member => ?_⟩
    · have member : word ∈ words := by
        rw [split]
        exact List.mem_append_right _ List.mem_cons_self
      obtain ⟨d, word, rfl⟩ := List.exists_cons_of_ne_nil (symbol_of_mem_words member).1
      rw [List.isPrefixOf_iff_prefix, List.cons_prefix_cons] at fits ⊢
      obtain ⟨rfl, rest, rfl⟩ := fits
      rw [List.length_cons] at inner
      rw [Text.spread_append_of_tight fun place _ _ => inner place (by omega) (by omega)]
      exact ⟨rfl, List.prefix_append _ _⟩
    · have apart := refused other member
      rw [Bool.not_eq_true', ← Bool.not_eq_true] at apart ⊢
      refine fun fits => apart (back ?_ fits)
      rw [split]
      exact List.mem_append_left _ member

theorem tokensAt_spaces (count position : Nat) (text : List Char) :
    tokensAt 0 position (List.replicate count ' ' ++ text) = tokensAt 0 (position + count) text := by
  induction count generalizing position with
  | zero => rfl
  | succ count inductionHypothesis =>
    have none : token? (' ' :: (List.replicate count ' ' ++ text)) = none := by
      rw [token?, List.find?_eq_none]
      intro word member fits
      obtain ⟨c, word, rfl⟩ := List.exists_cons_of_ne_nil (symbol_of_mem_words member).1
      rw [List.isPrefixOf_iff_prefix, List.cons_prefix_cons] at fits
      exact space_not_mem_word member (fits.1 ▸ List.mem_cons_self)
    rw [List.replicate_succ, List.cons_append, tokensAt, none, inductionHypothesis, Nat.add_assoc,
      Nat.add_comm 1]

/-- An operator of a text that starts at the first position, and the same operator in the text with
spaces inserted, which starts at the second position. -/
structure Moved (gaps : Nat → Nat) (position position' : Nat) (text before rest : List Char)
    (token token' : Excerpt) : Prop where
  split : text = before ++ (token.text ++ rest)
  start : token.start = position + before.length
  moved : token' = ⟨position' + (Text.spread gaps position before).length, token.text⟩

theorem Moved.cons {position position' : Nat} {token' : Excerpt}
    (moved : Moved gaps (position + 1) (position' + gaps position + 1) text before rest token token')
    (c : Char) : Moved gaps position position' (c :: text) (c :: before) rest token token' where
  split := by rw [moved.split, List.cons_append]
  start := by
    rw [moved.start, List.length_cons]
    omega
  moved := by
    rw [moved.moved, Text.spread, List.length_append, List.length_replicate, List.length_cons]
    congr 1
    omega

/-- The operators of a text with spaces inserted, but not into an operator, are those of the text. -/
theorem exists_moved_of_mem_tokensAt_spread {skip position position' : Nat} {text : List Char}
    (skipped : ∀ place, position ≤ place → place < position + skip → gaps place = 0)
    (tight : ∀ token ∈ tokensAt skip position text, ∀ place,
      token.start < place → place < token.stop → gaps place = 0)
    {token' : Excerpt} (member : token' ∈ tokensAt skip position' (Text.spread gaps position text)) :
    ∃ token ∈ tokensAt skip position text, ∃ before rest,
      Moved gaps position position' text before rest token token' := by
  induction text generalizing skip position position' with
  | nil =>
    cases skip with
    | succ skip =>
      rw [Text.spread, skipped position (Nat.le_refl _) (by omega)] at member
      exact absurd member List.not_mem_nil
    | zero =>
      have none := tokensAt_spaces (gaps position) position' []
      rw [List.append_nil] at none
      rw [Text.spread, none] at member
      exact absurd member List.not_mem_nil
  | cons c text inductionHypothesis =>
    cases skip with
    | succ skip =>
      have none : gaps position = 0 := skipped position (Nat.le_refl _) (by omega)
      rw [Text.spread, none, List.replicate_zero, List.nil_append, tokensAt] at member
      rw [tokensAt] at tight ⊢
      obtain ⟨token, among, before, rest, moved⟩ := inductionHypothesis
        (fun place _ _ => skipped place (by omega) (by omega)) tight member
      refine ⟨token, among, c :: before, rest, Moved.cons ?_ c⟩
      rwa [none]
    | zero =>
      rw [Text.spread, tokensAt_spaces, tokensAt] at member
      rw [tokensAt] at tight ⊢
      cases here : token? (c :: text) with
      | none =>
        rw [token?_spread (fun word first => by rw [here] at first; cases first), here] at member
        rw [here] at tight
        obtain ⟨token, among, before, rest, moved⟩ := inductionHypothesis
          (fun place _ _ => by omega) tight member
        exact ⟨token, among, c :: before, rest, moved.cons c⟩
      | some word =>
        rw [here] at tight
        have inner : ∀ place, position < place → place < position + word.length → gaps place = 0 :=
          tight _ List.mem_cons_self
        rw [token?_spread (fun word' first => by rw [here] at first; cases first; exact inner),
          here] at member
        rcases List.mem_cons.mp member with rfl | later
        · obtain ⟨rest, split⟩ := List.isPrefixOf_iff_prefix.mp
            (List.find?_some (p := fun word : List Char => word.isPrefixOf (c :: text)) here)
          refine ⟨_, List.mem_cons_self, [], rest, split.symm, rfl, ?_⟩
          rw [Text.spread, List.length_replicate]
        · obtain ⟨token, among, before, rest, moved⟩ := inductionHypothesis
            (fun place _ _ => inner place (by omega) (by omega))
            (fun token among => tight token (List.mem_cons_of_mem _ among)) later
          exact ⟨token, List.mem_cons_of_mem _ among, c :: before, rest, moved.cons c⟩

end Operator

end HouseStyle
