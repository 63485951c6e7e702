import HouseStyle.Proofs.Parentheses
import HouseStyle.Proofs.Pattern.Foremost
import HouseStyle.Proofs.Pattern.Reading
import HouseStyle.Proofs.Scan.CaseBraces
import HouseStyle.Proofs.Scan.Indented

/-!
Contract: the parentheses around the conditions of control lines, and the bodies of one-line
statements.

Owns: which parentheses belong to a condition, which lines start with a control word that has one,
how often the test for one-line statements is made, and the braces of such statements.
Does not own: findings on one-line statements.

The parenthesis that closes a condition is found by a count, and told by what stands before it: a
balanced text behind the opening one. Blanks may stand before a condition, and between the words of
`else if`; where these two words fit, no shorter word is tried.

Main statement: `conditions_matched`.
-/

namespace HouseStyle

/-! ## Pieces of a text from a position on -/

section Pieces

variable {text first rest : List Char} {start stop : Nat}

theorem Text.slice_of_drop (split : text.drop start = first ++ rest) :
    slice text start (start + first.length) = first := by
  rw [slice, List.drop_take, split, Nat.add_sub_cancel_left, List.take_left]

theorem Text.drop_of_drop (split : text.drop start = first ++ rest) :
    text.drop (start + first.length) = rest := by
  rw [← List.drop_drop, split, List.drop_left]

theorem Text.slice_append_drop (ordered : start ≤ stop) :
    slice text start stop ++ text.drop stop = text.drop start := by
  have onward : text.drop stop = (text.drop start).drop (stop - start) := by
    rw [List.drop_drop, Nat.add_sub_cancel' ordered]
  rw [slice, List.drop_take, onward, List.take_append_drop]

end Pieces

/-! ## Words with blanks between them -/

theorem Text.words_append_cons {c : Char} (blank : isBlank c) (first rest : List Char) :
    words (first ++ c :: rest) = words first ++ words rest := by
  rw [words, List.splitOnP_append_cons first rest blank, List.filter_append]
  rfl

theorem Text.words_blanks_append {blanks : List Char} (blank : ∀ c ∈ blanks, isBlank c)
    (rest : List Char) : words (blanks ++ rest) = words rest := by
  induction blanks with
  | nil => rfl
  | cons c blanks inductionHypothesis =>
    obtain ⟨first, others⟩ := List.forall_mem_cons.mp blank
    have apart := words_append_cons first [] (blanks ++ rest)
    rw [inductionHypothesis others] at apart
    exact apart

namespace InlineControl

open Text (Balanced BalancedFrom Enclosed parenWeight)

variable {code text : List Char}

/-! ## The parenthesis that closes a condition -/

/-- Behind so many characters a parenthesis stands that closes the first of those open before the
text, of which there is one more than the given number. -/
def ClosesBehind (depth : Int) (text : List Char) (length : Nat) : Prop :=
  ∃ inside behind, text = inside ++ ')' :: behind ∧ BalancedFrom depth inside ∧
    inside.length = length

theorem not_closesBehind_nil (depth : Int) (length : Nat) : ¬ ClosesBehind depth [] length := by
  rintro ⟨inside, behind, split, -⟩
  simp at split

theorem closesBehind_cons {depth : Int} {c : Char} {length : Nat} :
    ClosesBehind depth (c :: text) length ↔ c = ')' ∧ depth = 0 ∧ length = 0 ∨
      0 ≤ depth ∧ ∃ less, ClosesBehind (depth + parenWeight c) text less ∧ less + 1 = length := by
  constructor
  · rintro ⟨inside, behind, split, balanced, rfl⟩
    cases inside with
    | nil => exact .inl ⟨(List.cons.inj split).1, Text.balancedFrom_nil.mp balanced, rfl⟩
    | cons d inside =>
      obtain ⟨rfl, rfl⟩ := List.cons.inj split
      obtain ⟨enough, later⟩ := Text.balancedFrom_cons.mp balanced
      exact .inr ⟨enough, inside.length, ⟨inside, behind, rfl, later, rfl⟩, rfl⟩
  · rintro (⟨rfl, rfl, rfl⟩ | ⟨enough, _, ⟨inside, behind, rfl, later, rfl⟩, rfl⟩)
    · exact ⟨[], text, rfl, Text.balancedFrom_nil.mpr rfl, rfl⟩
    · exact ⟨c :: inside, behind, rfl, Text.balancedFrom_cons.mpr ⟨enough, later⟩, rfl⟩

/-- The count of open parentheses ends at the parenthesis that closes the first of them. -/
theorem closingParen?_eq_some_iff {depth position closer : Nat} :
    closingParen? (depth + 1) position text = some closer ↔
      ∃ length, ClosesBehind depth text length ∧ position + length = closer := by
  induction text generalizing depth position with
  | nil =>
    constructor
    · nofun
    · rintro ⟨length, closes, -⟩
      exact absurd closes (not_closesBehind_nil depth length)
  | cons c text inductionHypothesis =>
    have goOn (next : Nat) (weight : (depth : Int) + parenWeight c = next)
        (further : ¬ (c = ')' ∧ (depth : Int) = 0)) :
        closingParen? (next + 1) (position + 1) text = some closer ↔
          ∃ length, ClosesBehind depth (c :: text) length ∧ position + length = closer := by
      rw [inductionHypothesis]
      constructor
      · rintro ⟨less, closes, rfl⟩
        refine ⟨less + 1, closesBehind_cons.mpr (.inr ⟨Int.natCast_nonneg depth, less, ?_, rfl⟩), ?_⟩
        · rwa [weight]
        · omega
      · rintro ⟨length, closes, rfl⟩
        rcases closesBehind_cons.mp closes with ⟨closed, none, -⟩ | ⟨-, less, later, rfl⟩
        · exact absurd ⟨closed, none⟩ further
        · rw [weight] at later
          exact ⟨less, later, by omega⟩
    rw [closingParen?]
    by_cases opens : c = '('
    · subst opens
      rw [if_pos rfl]
      exact goOn (depth + 1) rfl (by simp)
    rw [if_neg opens]
    by_cases closes : c = ')'
    · subst closes
      rw [if_pos rfl]
      cases depth with
      | zero =>
        rw [if_pos (by omega)]
        constructor
        · rintro here
          cases here
          exact ⟨0, closesBehind_cons.mpr (.inl ⟨rfl, rfl, rfl⟩), rfl⟩
        · rintro ⟨length, closes, rfl⟩
          rcases closesBehind_cons.mp closes with ⟨-, -, rfl⟩ | ⟨-, less, ⟨_, _, _, below, _⟩, -⟩
          · rfl
          · exact absurd below.nonneg (by decide)
      | succ depth =>
        rw [if_neg (by omega)]
        exact goOn depth (by rw [Text.parenWeight_closer]; omega) (by omega)
    · rw [if_neg closes]
      have weight : parenWeight c = 0 := by rw [parenWeight, if_neg opens, if_neg closes]
      exact goOn depth (by omega) fun closed => closes closed.1

/-! ## Conditions -/

/-- The parentheses around the condition behind a control word that ends at a position: the first
opening one, with blanks only before it, and the one that closes it. -/
structure Condition (code : List Char) (keywordEnd opener closer : Nat) : Prop where
  behind : keywordEnd ≤ opener
  opens : code[opener]? = some '('
  first : '(' ∉ Text.slice code keywordEnd opener
  between : Text.isBlankText (Text.slice code keywordEnd opener)
  later : opener ≤ closer
  onLine : closer < code.length
  enclosed : Enclosed (Text.slice code opener (closer + 1))

variable {keywordEnd opener closer : Nat}

/-- A condition is a balanced text in parentheses, behind blanks. -/
theorem condition_iff : Condition code keywordEnd opener closer ↔ ∃ blanks inside behind,
    code.drop keywordEnd = blanks ++ '(' :: (inside ++ ')' :: behind) ∧
      (∀ c ∈ blanks, Text.isBlank c) ∧ Balanced inside ∧ keywordEnd + blanks.length = opener ∧
      opener + 1 + inside.length = closer := by
  constructor
  · intro condition
    have behind := condition.behind
    have later := condition.later
    have onLine := condition.onLine
    obtain ⟨within, opens⟩ := List.getElem?_eq_some_iff.mp condition.opens
    have onward : code.drop opener = '(' :: code.drop (opener + 1) := by
      rw [List.drop_eq_getElem_cons within, opens]
    have enclosed := condition.enclosed
    rw [Text.slice, List.drop_take, onward, show closer + 1 - opener = closer - opener + 1 by omega,
      List.take_succ_cons, Text.enclosed_cons_iff] at enclosed
    obtain ⟨inside, taken, balanced⟩ := enclosed
    have whole : inside ++ ')' :: (code.drop (opener + 1)).drop (closer - opener) =
        code.drop (opener + 1) := by
      have parts := List.take_append_drop (closer - opener) (code.drop (opener + 1))
      rwa [taken, List.append_assoc] at parts
    have split : code.drop keywordEnd = Text.slice code keywordEnd opener ++
        '(' :: (inside ++ ')' :: (code.drop (opener + 1)).drop (closer - opener)) := by
      rw [whole, ← onward, Text.slice_append_drop behind]
    refine ⟨_, inside, _, split, List.all_eq_true.mp condition.between, balanced, ?_, ?_⟩
    · rw [Text.slice, List.length_drop, List.length_take]
      omega
    · have length := congrArg List.length taken
      rw [List.length_take, List.length_drop, List.length_append, List.length_singleton] at length
      omega
  · rintro ⟨blanks, inside, behind, split, blank, balanced, rfl, rfl⟩
    have between := Text.slice_of_drop split
    have onward := Text.drop_of_drop split
    have length := congrArg List.length onward
    rw [List.length_drop, List.length_cons, List.length_append, List.length_cons] at length
    refine ⟨by omega, ?_, ?_, ?_, by omega, by omega, ?_⟩
    · rw [← List.head?_drop, onward]
      rfl
    · rw [between]
      exact Text.not_mem_of_blanks rfl blank
    · rw [between]
      exact List.all_eq_true.mpr blank
    · rw [List.append_cons inside, ← List.cons_append] at onward
      have enclosed := Text.slice_of_drop onward
      rw [List.length_cons, List.length_append, List.length_singleton] at enclosed
      rw [show keywordEnd + blanks.length + 1 + inside.length + 1 =
        keywordEnd + blanks.length + (inside.length + 1 + 1) by omega, enclosed]
      exact Text.enclosed_cons_iff.mpr ⟨inside, rfl, balanced⟩

theorem condition?_eq_some_iff :
    condition? code keywordEnd = some (opener, closer) ↔ Condition code keywordEnd opener closer := by
  rw [condition_iff]
  unfold condition?
  constructor
  · intro found
    obtain ⟨_, first, found⟩ := Option.bind_eq_some_iff.mp found
    obtain ⟨_, there, rfl⟩ := Option.map_eq_some_iff.mp first
    obtain ⟨blanks, rest, split, -, rfl⟩ := Text.find?_character_iff.mp there
    rw [Nat.add_comm, Text.slice_of_drop split, Text.drop_of_drop split] at found
    obtain ⟨blank, found⟩ := Option.ite_none_right_eq_some.mp found
    obtain ⟨_, closes, same⟩ := Option.bind_eq_some_iff.mp found
    cases same
    obtain ⟨_, ⟨inside, behind, rfl, balanced, rfl⟩, rfl⟩ := closingParen?_eq_some_iff.mp closes
    exact ⟨blanks, inside, behind, split, List.all_eq_true.mp blank, balanced, rfl, rfl⟩
  · rintro ⟨blanks, inside, behind, split, blank, balanced, rfl, rfl⟩
    have found : Text.findFrom? ['('] keywordEnd code = some (keywordEnd + blanks.length) := by
      rw [Text.findFrom?, Text.find?_character_iff.mpr
        ⟨blanks, _, split, Text.not_mem_of_blanks rfl blank, rfl⟩, Option.map_some, Nat.add_comm]
    have closes : closingParen? 0 (keywordEnd + blanks.length) ('(' :: (inside ++ ')' :: behind)) =
        some (keywordEnd + blanks.length + 1 + inside.length) :=
      closingParen?_eq_some_iff.mpr ⟨_, ⟨inside, behind, rfl, balanced, rfl⟩, rfl⟩
    rw [found]
    simp only [Option.bind_eq_bind, Option.bind_some, Text.slice_of_drop split,
      Text.drop_of_drop split, closes]
    exact if_pos (List.all_eq_true.mpr blank)

/-! ## Control words with a condition -/

/-- The words that start a statement with a condition. -/
def conditionWords : List String :=
  ["if", "for", "while", "switch"]

/-- How a control word with a condition is written: as one word, or as two with blanks between
them. -/
inductive Spells : List Char → List Char → Prop where
  | single {word : String} (among : word ∈ conditionWords) : Spells word.toList word.toList
  | chained {gap : List Char} (apart : gap ≠ []) (blank : ∀ c ∈ gap, Text.isBlank c) :
      Spells ("else".toList ++ gap ++ "if".toList) "else if".toList

/-- A line that starts with a control word that has a condition, which ends at a position. -/
def Headed (code keyword : List Char) (keywordEnd : Nat) : Prop :=
  ∃ blanks written rest, code = blanks ++ (written ++ rest) ∧ (∀ c ∈ blanks, Text.isBlank c) ∧
    Spells written keyword ∧ rest.head?.any Text.isWord = false ∧
    blanks.length + written.length = keywordEnd

variable {written keyword rest : List Char} {found : Match}

theorem eq_of_mem_conditionWords {word : String} (among : word ∈ conditionWords) :
    word = "if" ∨ word = "for" ∨ word = "while" ∨ word = "switch" := by
  simpa only [conditionWords, List.mem_cons, List.not_mem_nil, or_false] using among

theorem Spells.exists_cons (spells : Spells written keyword) :
    ∃ c more, written = c :: more ∧ Text.isBlank c = false := by
  cases spells with
  | single among =>
    rcases eq_of_mem_conditionWords among with rfl | rfl | rfl | rfl <;> exact ⟨_, _, rfl, rfl⟩
  | chained apart blank => exact ⟨'e', _, rfl, rfl⟩

theorem Spells.word_last (spells : Spells written keyword) :
    written.getLast?.any Text.isWord := by
  cases spells with
  | single among =>
    rcases eq_of_mem_conditionWords among with rfl | rfl | rfl | rfl <;> rfl
  | chained apart blank =>
    rw [List.getLast?_append]
    rfl

theorem Spells.squeeze_eq (spells : Spells written keyword) : Text.squeeze written = keyword := by
  cases spells with
  | single among =>
    rcases eq_of_mem_conditionWords among with rfl | rfl | rfl | rfl <;> decide +kernel
  | @chained gap apart blank =>
    obtain ⟨c, more, rfl⟩ := List.exists_cons_of_ne_nil apart
    obtain ⟨first, others⟩ := List.forall_mem_cons.mp blank
    have words : Text.words ("else".toList ++ c :: (more ++ "if".toList)) =
        ["else".toList, "if".toList] := by
      rw [Text.words_append_cons first, Text.words_blanks_append others]
      decide +kernel
    rw [List.append_assoc, List.cons_append, Text.squeeze, words]
    rfl

theorem Spells.conditional (spells : Spells written keyword) :
    (keyword == "else".toList || keyword == "do".toList) = false := by
  cases spells with
  | single among =>
    rcases eq_of_mem_conditionWords among with rfl | rfl | rfl | rfl <;> rfl
  | chained => rfl

/-- Of the control words the one that is written is read first, the two words before the one. -/
theorem Spells.foremost_word {start : Cursor} (spells : Spells written keyword)
    (split : start.rest = written ++ rest) :
    ((.word "else" ++ .gap ++ .word "if" : Pattern) <|>
      .oneOf ["if", "for", "while", "switch", "else", "do"]).Foremost start
      (start.after written rest) := by
  cases spells with
  | @single word among =>
    have spelled := eq_of_mem_conditionWords among
    apply Pattern.Foremost.orElse_right
    · rw [List.eq_nil_iff_forall_not_mem]
      intro stop member
      obtain ⟨_, early, -⟩ := Pattern.mem_outcomes_append.mp member
      obtain ⟨_, first, -⟩ := Pattern.mem_outcomes_append.mp early
      obtain ⟨more, other, -⟩ := Pattern.mem_outcomes_word.mp first
      rw [split] at other
      rcases spelled with rfl | rfl | rfl | rfl <;> exact absurd other (by simp)
    · apply Pattern.foremost_oneOf _ split
      · rw [split]
        rcases spelled with rfl | rfl | rfl | rfl <;> simp
      · rcases spelled with rfl | rfl | rfl | rfl <;> simp
  | @chained gap apart blank =>
    obtain ⟨c, more, rfl⟩ := List.exists_cons_of_ne_nil apart
    obtain ⟨first, others⟩ := List.forall_mem_cons.mp blank
    let tail := "if".toList ++ rest
    let otherwise := start.after "else".toList (c :: (more ++ tail))
    have early : (Pattern.word "else").Foremost start otherwise := by
      apply Pattern.foremost_word
      rw [split]
      simp [tail]
    have gap : Pattern.gap.Foremost otherwise (otherwise.after (c :: more) tail) :=
      Pattern.foremost_several rfl first others rfl
    have late : (Pattern.word "if").Foremost (otherwise.after (c :: more) tail) _ :=
      Pattern.foremost_word rfl
    have reached := (early.append gap).append late
    rw [Cursor.after_after, Cursor.after_after] at reached
    exact reached.orElse _

/-- A control word is read as it is written, if no word goes on behind it. -/
theorem Spells.foremost (spells : Spells written keyword)
    (ends : rest.head?.any Text.isWord = false) :
    controlKeyword.Foremost (.atStart (written ++ rest))
      ((Cursor.atStart (written ++ rest)).record .keyword
        ((Cursor.atStart (written ++ rest)).after written rest)) := by
  let start := Cursor.atStart (written ++ rest)
  have edge : Pattern.atStart.Foremost start start := Pattern.foremost_look rfl
  have word := (@Spells.foremost_word _ _ rest start spells rfl).capture .keyword
  have boundary : Pattern.boundary.Foremost (start.record .keyword (start.after written rest))
      (start.record .keyword (start.after written rest)) := by
    apply Pattern.foremost_look
    show ((written.getLast?.or none).any Text.isWord != rest.head?.any Text.isWord) = true
    rw [Option.or_none, spells.word_last, ends]
    rfl
  exact (edge.append word).append boundary

theorem Spells.exists_match (spells : Spells written keyword)
    (ends : rest.head?.any Text.isWord = false) :
    ∃ found, controlKeyword.matchStart? (written ++ rest) = some found ∧
      found.part? .keyword = some ⟨0, written⟩ := by
  refine ⟨_, Pattern.matchStart?_of_foremost (spells.foremost ends), ?_⟩
  rw [Cursor.part?_matched]
  have excerpt := @Cursor.excerpt_atStart (written ++ rest) [] written rest rfl
  exact congrArg some excerpt

/-- What is read as a control word is one with a condition, `else` or `do`. -/
theorem exists_written_of_match (matched : controlKeyword.matchStart? text = some found) :
    ∃ written rest, text = written ++ rest ∧ found.part? .keyword = some ⟨0, written⟩ ∧
      rest.head?.any Text.isWord = false ∧
      ((∃ keyword, Spells written keyword) ∨ written = "else".toList ∨ written = "do".toList) := by
  obtain ⟨_, reached, rfl⟩ := Pattern.exists_of_matchAt? matched
  obtain ⟨_, early, edge⟩ := Pattern.mem_outcomes_append.mp reached
  obtain ⟨_, opened, captured⟩ := Pattern.mem_outcomes_append.mp early
  obtain ⟨-, rfl⟩ := Pattern.mem_outcomes_look.mp opened
  obtain ⟨inner, inside, rfl⟩ := Pattern.mem_outcomes_capture.mp captured
  obtain ⟨apart, rfl⟩ := Pattern.mem_outcomes_look.mp edge
  obtain ⟨written, passes, reads⟩ := Pattern.exists_reads_of_mem_outcomes inside
  have spelled : (∃ keyword, Spells written keyword) ∨ written = "else".toList ∨
      written = "do".toList := by
    rcases reads with ⟨_, _, rfl, ⟨_, gap, rfl, first, blanks⟩, second⟩ | single
    · rw [Pattern.reads_word.mp first, Pattern.reads_word.mp second]
      obtain ⟨some, blank⟩ := Pattern.reads_several.mp blanks
      exact .inl ⟨_, .chained some blank⟩
    · obtain ⟨word, among, rfl⟩ := Pattern.reads_oneOf.mp single
      simp only [List.mem_cons, List.not_mem_nil, or_false] at among
      rcases among with rfl | rfl | rfl | rfl | rfl | rfl
      all_goals first
        | exact .inl ⟨_, .single (by decide)⟩
        | exact .inr (.inl rfl)
        | exact .inr (.inr rfl)
  have last : written.getLast?.any Text.isWord := by
    rcases spelled with ⟨keyword, spells⟩ | rfl | rfl
    · exact spells.word_last
    · rfl
    · rfl
  refine ⟨written, inner.rest, passes.rest, ?_, ?_, spelled⟩
  · have position : inner.position = ([] : List Char).length + written.length := passes.position
    have excerpt := @Cursor.excerpt_atStart text [] written inner.rest passes.rest
    rw [← position] at excerpt
    rw [Cursor.part?_matched]
    exact congrArg some excerpt
  · have edge : (inner.previous.any Text.isWord != inner.rest.head?.any Text.isWord) = true := apart
    rw [passes.previous, show (Cursor.atStart text).previous = none from rfl, Option.or_none,
      last] at edge
    simpa using edge

/-- A line is headed by a control word with a condition if and only if one is read there. -/
theorem headed_iff : Headed code keyword keywordEnd ↔ ∃ found word,
    controlKeyword.matchStart? (Text.trimLeft code) = some found ∧
      found.part? .keyword = some word ∧ Text.squeeze word.text = keyword ∧
      (code.takeWhile Text.isBlank).length + word.stop = keywordEnd ∧
      (keyword == "else".toList || keyword == "do".toList) = false := by
  constructor
  · rintro ⟨blanks, written, rest, rfl, blank, spells, ends, rfl⟩
    obtain ⟨found, matched, part⟩ := spells.exists_match ends
    obtain ⟨c, more, rfl, ink⟩ := spells.exists_cons
    have left : Text.trimLeft (blanks ++ (c :: more ++ rest)) = c :: more ++ rest := by
      rw [Text.trimLeft, List.dropWhile_append_of_pos blank]
      exact List.dropWhile_cons_of_neg (by simp [ink])
    have before : (blanks ++ (c :: more ++ rest)).takeWhile Text.isBlank = blanks := by
      rw [List.takeWhile_append_of_pos blank, List.cons_append,
        List.takeWhile_cons_of_neg (by simp [ink]), List.append_nil]
    refine ⟨found, _, by rw [left, matched], part, spells.squeeze_eq, ?_, spells.conditional⟩
    rw [before, Excerpt.stop, Nat.zero_add]
  · rintro ⟨found, word, matched, part, rfl, rfl, conditional⟩
    obtain ⟨written, rest, split, there, ends, spelled⟩ := exists_written_of_match matched
    rw [part] at there
    cases there
    rcases spelled with ⟨keyword, spells⟩ | rfl | rfl
    · refine ⟨code.takeWhile Text.isBlank, written, rest, ?_,
        fun c => Text.isBlank_of_mem_takeWhile, ?_, ends, ?_⟩
      · rw [← split]
        exact List.takeWhile_append_dropWhile.symm
      · exact spells.squeeze_eq ▸ spells
      · rw [Excerpt.stop, Nat.zero_add]
    · exact absurd conditional (by decide +kernel)
    · exact absurd conditional (by decide +kernel)

/-- A line that a control word with a condition heads is split at its condition. -/
theorem split?_of_headed (headed : Headed code keyword keywordEnd) :
    split? code = (condition? code keywordEnd).map fun (opener, closer) =>
      ⟨keyword, keywordEnd, some (opener, closer), closer + 1⟩ := by
  obtain ⟨found, word, matched, part, rfl, rfl, conditional⟩ := headed_iff.mp headed
  unfold split?
  simp only [matched, part, Option.bind_eq_bind, Option.bind_some, conditional]
  cases condition? code ((code.takeWhile Text.isBlank).length + word.stop) <;> rfl

theorem headed_of_split? {split : Split} (found : split? code = some split)
    (parens : split.parens ≠ none) : Headed code split.keyword split.keywordEnd := by
  unfold split? at found
  obtain ⟨start, matched, found⟩ := Option.bind_eq_some_iff.mp found
  obtain ⟨word, part, found⟩ := Option.bind_eq_some_iff.mp found
  by_cases bare : Text.squeeze word.text == "else".toList || Text.squeeze word.text == "do".toList
  · rw [if_pos bare] at found
    cases found
    exact absurd rfl parens
  · rw [if_neg bare] at found
    obtain ⟨pair, -, found⟩ := Option.bind_eq_some_iff.mp found
    cases found
    exact headed_iff.mpr ⟨start, word, matched, part, rfl, rfl, by simpa using bare⟩

/-! ## The test for one-line statements -/

theorem exists_of_chained? {body : List Char} (chained : chained? code = some body) :
    ∃ split, split? code = some split ∧ split.body code = body ∧ split.keyword = "else".toList ∧
      controlKeyword.fits body ∧ '{' ∉ body ∧ '}' ∉ body := by
  obtain ⟨split, found, chained⟩ := Option.bind_eq_some_iff.mp chained
  obtain ⟨goesOn, same⟩ := Option.ite_none_right_eq_some.mp chained
  cases same
  simp only [Bool.and_eq_true, Bool.not_eq_true', beq_iff_eq, List.contains_eq_mem,
    decide_eq_false_iff_not] at goesOn
  obtain ⟨⟨⟨keyword, fits⟩, noOpener⟩, noCloser⟩ := goesOn
  exact ⟨split, found, rfl, keyword, fits, noOpener, noCloser⟩

theorem ne_nil_of_fits {body : List Char} (fits : controlKeyword.fits body) : body ≠ [] := by
  rintro rfl
  exact absurd fits (by decide)

theorem length_lt_of_chained? {body : List Char} (chained : chained? code = some body) :
    body.length < code.length := by
  obtain ⟨split, found, rfl, -, fits, -⟩ := exists_of_chained? chained
  exact length_body_lt found (ne_nil_of_fits fits)

/-- Behind `else` the answer is that of the control line that is the body. -/
theorem isInline_of_chained? {body : List Char} (chained : chained? code = some body) :
    isInline code = isInline body := by
  obtain ⟨split, found, rfl, keyword, fits, noOpener, noCloser⟩ := exists_of_chained? chained
  have unbraced : ((split.body code).head? == some '{') = false := by
    rw [beq_eq_false_iff_ne]
    exact fun starts => noOpener (List.mem_of_head? starts)
  rw [isInline_eq code, found]
  simp [ne_nil_of_fits fits, unbraced, noOpener, noCloser, keyword, fits]

/-- The test with a limit is made on a line, and if need be on the rest of its chain. -/
theorem isInlineWithin_succ (count : Nat) (code : List Char) :
    isInlineWithin (some (count + 1)) code =
      match chained? code with
      | some body => isInlineWithin (some count) body
      | none => .ok (isInline code) := by
  unfold isInlineWithin
  rw [Option.any_some, chainsMoreThan]
  cases chained : chained? code with
  | none => rfl
  | some body =>
    simp only [Option.any_some, isInline_of_chained? chained]

/-- The test comes to an end: it is not made more often than the line has characters, and once. -/
theorem isInlineWithin_of_length_lt {limit : Nat} (enough : code.length < limit) :
    isInlineWithin (some limit) code = .ok (isInline code) := by
  induction limit generalizing code with
  | zero => exact absurd enough (Nat.not_lt_zero _)
  | succ limit inductionHypothesis =>
    rw [isInlineWithin_succ]
    cases chained : chained? code with
    | none => rfl
    | some body =>
      have shorter := length_lt_of_chained? chained
      simp only
      rw [inductionHypothesis (by omega), isInline_of_chained? chained]

/-- The body of a one-line statement has as many braces of both kinds. -/
theorem exists_balanced_of_isInline (inline : isInline code) : ∃ split, split? code = some split ∧
    (code.drop split.bodyStart).count '{' = (code.drop split.bodyStart).count '}' := by
  rw [isInline_eq] at inline
  cases found : split? code with
  | none =>
    rw [found] at inline
    cases inline
  | some split =>
    refine ⟨split, rfl, ?_⟩
    have balanced : Text.excess '{' '}' (split.body code) = 0 := by
      simp only [found] at inline
      split at inline
      next => cases inline
      next =>
        split at inline
        next =>
          rw [Bool.and_eq_true, beq_iff_eq, beq_iff_eq] at inline
          rw [Text.excess, inline.2, Int.sub_self]
        next =>
          split at inline
          next => cases inline
          next plain =>
            simp only [Bool.or_eq_true, not_or, List.contains_iff_mem] at plain
            exact Text.excess_of_not_mem plain.1 plain.2
    rw [Split.body, Text.excess_trim _ (by decide) (by decide), Text.excess] at balanced
    omega

/-- The parentheses of a condition are the first that follow the control word, with blanks only
between, and belong together; a line that a control word with a condition heads is split if and only
if it has such a pair. The test for one-line statements comes to an end on every line, and where it
holds, the body has as many braces of both kinds. -/
theorem conditions_matched (code : List Char) :
    (∀ split opener closer, split? code = some split → split.parens = some (opener, closer) →
      Headed code split.keyword split.keywordEnd ∧
        Condition code split.keywordEnd opener closer ∧ split.bodyStart = closer + 1) ∧
    (∀ keyword keywordEnd, Headed code keyword keywordEnd →
      (split? code = none ↔ ¬ ∃ opener closer, Condition code keywordEnd opener closer)) ∧
    (∀ limit, code.length < limit → isInlineWithin (some limit) code = .ok (isInline code)) ∧
    (isInline code → ∃ split, split? code = some split ∧
      (code.drop split.bodyStart).count '{' = (code.drop split.bodyStart).count '}') := by
  refine ⟨?parens, ?whether, fun limit => isInlineWithin_of_length_lt, exists_balanced_of_isInline⟩
  case parens =>
    intro split opener closer found parens
    have headed := headed_of_split? found (by rw [parens]; nofun)
    rw [split?_of_headed headed, Option.map_eq_some_iff] at found
    obtain ⟨pair, here, same⟩ := found
    rw [← same, Option.some.injEq] at parens
    have start := congrArg Split.bodyStart same
    rw [show pair = (opener, closer) from parens] at here start
    exact ⟨headed, condition?_eq_some_iff.mp here, start.symm⟩
  case whether =>
    intro keyword keywordEnd headed
    rw [split?_of_headed headed, Option.map_eq_none_iff, Option.eq_none_iff_forall_ne_some]
    simp only [Prod.forall, ne_eq, condition?_eq_some_iff, not_exists]

-- the pair of an `else if`, and a line whose parentheses stay open
example :
    (split? "else  if (f(x)) y();".toList).map Split.parens = some (some (9, 14)) ∧
      split? "while (a && (b ||".toList = none := by
  decide +kernel

end InlineControl

end HouseStyle
