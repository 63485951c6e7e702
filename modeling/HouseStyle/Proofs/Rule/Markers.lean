import HouseStyle.Proofs.Pattern.Reading
import HouseStyle.Proofs.Pattern.Shift
import HouseStyle.Proofs.Text
import HouseStyle.Rule.Operator

/-!
Contract: the stars in the pieces of a line that mark pointers.

Owns: the form that all markers share, and what follows from it for two pieces of one marker that
overlap.
Does not own: which pieces a search finds, and the spaces around operators.

Every marker reads a front, one run of stars and a back, and no other character of an operator. None
starts at its stars or behind them, so two overlapping pieces of one marker have the same run.

Main statements: `exists_form`, and `lt_of_star_of_overlap`.
-/

namespace HouseStyle

namespace Operator

/-- The characters that operators are made of. -/
def symbols : List Char :=
  "<>-+&|=!*/%^?:".toList

/-- Neighbours that are the same, or a space in place of a character of an operator. -/
def Spaced (neighbour other : Option Char) : Prop :=
  neighbour = other ∨ (∃ c ∈ symbols, neighbour = some c) ∧ other = some ' '

theorem Spaced.refl (neighbour : Option Char) : Spaced neighbour neighbour :=
  .inl rfl

/-- A test that treats every character of an operator like a space cannot tell such neighbours
apart. -/
theorem any_of_spaced {test : Char → Bool} (same : symbols.all fun c => test c == test ' ')
    {neighbour other : Option Char} (spaced : Spaced neighbour other) :
    neighbour.any test = other.any test := by
  rcases spaced with rfl | ⟨⟨c, symbol, rfl⟩, rfl⟩
  · rfl
  · exact eq_of_beq (List.all_eq_true.mp same c symbol)

end Operator

namespace Pattern

open Operator

theorem indifferent_ahead {test : Char → Bool} (same : symbols.all fun c => test c == test ' ') :
    (ahead test).Indifferent Spaced :=
  fun _ _ _ _ _ behind => any_of_spaced same behind

theorem indifferent_behind {test : Char → Bool} (same : symbols.all fun c => test c == test ' ') :
    (behind test).Indifferent Spaced :=
  fun _ _ _ _ before _ => any_of_spaced same before

theorem indifferent_notBehind {test : Char → Bool} (same : symbols.all fun c => test c == test ' ') :
    (notBehind test).Indifferent Spaced :=
  fun _ _ _ _ before _ => congrArg not (any_of_spaced same before)

theorem indifferent_boundary : boundary.Indifferent Spaced := by
  have same : symbols.all fun c => Text.isWord c == Text.isWord ' ' := by decide
  intro previous other rest others before behind
  show (_ != _) = (_ != _)
  rw [any_of_spaced same before, any_of_spaced same behind]

theorem indifferent_atStart : atStart.Indifferent Spaced := by
  intro previous other rest others before _
  rcases before with rfl | ⟨⟨c, -, rfl⟩, rfl⟩ <;> rfl

end Pattern

namespace Pattern

/-- Wherever the pattern reads something, this holds of the character before and of the characters
from there on. -/
def Opens (pattern : Pattern) (holds : Option Char → List Char → Prop) : Prop :=
  ∀ previous piece rest, pattern.Reads previous piece rest → holds previous (piece ++ rest)

theorem Opens.append {first : Pattern} {holds : Option Char → List Char → Prop}
    (opens : first.Opens holds) (second : Pattern) : (first ++ second).Opens holds := by
  rintro previous piece rest ⟨early, late, rfl, head, -⟩
  rw [List.append_assoc]
  exact opens _ _ _ head

theorem Opens.after_look {second : Pattern} {holds : List Char → Prop}
    (opens : second.Opens fun _ text => holds text) (test : Option Char → List Char → Bool) :
    (look test ++ second).Opens fun _ text => holds text := by
  rintro previous piece rest ⟨_, late, rfl, ⟨rfl, -⟩, behind⟩
  exact opens _ _ _ behind

theorem opens_atStart : atStart.Opens fun previous _ => previous = none := by
  rintro previous piece rest ⟨-, start⟩
  exact Option.isNone_iff_eq_none.mp start

theorem opens_behind (test : Char → Bool) : (behind test).Opens fun previous _ => previous.any test :=
  fun _ _ _ reads => reads.2

theorem opens_char (c : Char) : (char c).Opens fun _ text => text.head? = some c := by
  intro previous piece rest reads
  rw [reads_char.mp reads]
  rfl

/-- The next character starts a name. -/
def StartsName (_ : Option Char) (text : List Char) : Prop :=
  text.head?.any Lexicon.isIdentStart

/-- What starts with a letter at a word boundary does not go on with a word. -/
theorem opens_boundary_append {second : Pattern}
    (opens : second.Opens StartsName) :
    (boundary ++ second).Opens fun previous text =>
      previous.any Text.isWord = false ∧ StartsName previous text := by
  rintro previous piece rest ⟨early, late, rfl, ⟨rfl, apart⟩, word⟩
  have letter : (late ++ rest).head?.any Lexicon.isIdentStart := opens _ _ _ word
  refine ⟨?_, letter⟩
  cases starts : (late ++ rest).head? with
  | none =>
    rw [starts] at letter
    cases letter
  | some c =>
    rw [starts] at letter
    have more := isWord_of_isIdentRest (isIdentRest_of_isIdentStart letter)
    have other : previous.any Text.isWord != (late ++ rest).head?.any Text.isWord := apart
    simpa [starts, more] using other

/-- Refusal of a character, as a fact about what is read. -/
theorem Refuses.opens {pattern : Pattern} {test : Char → Bool} (refuses : pattern.Refuses test) :
    pattern.Opens fun _ text => text.head?.any test = false := by
  intro previous piece rest reads
  rw [← Bool.not_eq_true]
  intro starts
  obtain ⟨stop, reached, -⟩ :=
    @exists_mem_outcomes_of_reads pattern piece rest ⟨0, previous, piece ++ rest, []⟩ reads rfl
  rw [refuses _ starts] at reached
  cases reached

/-- A pattern reads no characters that it avoids. -/
theorem not_mem_of_reads {pattern : Pattern} {c : Char} (avoids : pattern.avoids c)
    {previous : Option Char} {piece rest : List Char} (reads : pattern.Reads previous piece rest) :
    c ∉ piece := by
  obtain ⟨stop, reached, passes, -⟩ :=
    @exists_mem_outcomes_of_reads pattern piece rest ⟨0, previous, piece ++ rest, []⟩ reads rfl
  obtain ⟨consumed, split, -, avoided⟩ := reachesWithout_of_mem_outcomes avoids reached
  rwa [List.append_cancel_right (split.symm.trans passes.rest)] at avoided

theorem reads_assoc {first second third : Pattern} {previous : Option Char} {piece rest : List Char} :
    (first ++ second ++ third).Reads previous piece rest ↔
      (first ++ (second ++ third)).Reads previous piece rest := by
  constructor
  · rintro ⟨_, late, rfl, ⟨early, between, rfl, head, middle⟩, last⟩
    refine ⟨early, between ++ late, List.append_assoc .., ?_, between, late, rfl, middle, ?_⟩
    · rwa [List.append_assoc]
    · rwa [← Option.or_assoc, ← List.getLast?_append]
  · rintro ⟨early, _, rfl, head, between, late, rfl, middle, last⟩
    refine ⟨early ++ between, late, (List.append_assoc ..).symm, ⟨early, between, rfl, ?_, middle⟩, ?_⟩
    · rwa [← List.append_assoc]
    · rwa [List.getLast?_append, Option.or_assoc]

end Pattern

namespace Pointer

open Pattern Lexicon

variable {marker front back : Pattern} {previous : Option Char} {piece rest others : List Char}
  {lead run tail : List Char}

/-- The parts of what a marker reads. -/
structure Parts (front back : Pattern) (previous : Option Char) (lead run tail rest : List Char) :
    Prop where
  reads_lead : front.Reads previous lead (run ++ (tail ++ rest))
  some : run ≠ []
  stars : ∀ c ∈ run, c = '*'
  reads_tail : back.Reads ((lead ++ run).getLast?.or previous) tail rest

/-- A marker consists of a front, a run of stars and a back; what it reads holds no other characters
of operators, is told apart from its surroundings by none, and starts where no other piece of the
marker has its run or its back. -/
structure Form (marker front back : Pattern) : Prop where
  reads : ∀ {previous : Option Char} {piece rest : List Char}, marker.Reads previous piece rest ↔
    (front ++ (stars ++ back)).Reads previous piece rest
  written : 0 < front.least
  plain : Operator.symbols.all fun c => front.avoids c && back.avoids c
  closes : back.Refuses fun c => c == '*' || c == '='
  indifferent : front.Indifferent Operator.Spaced ∧ back.Indifferent Operator.Spaced
  starts : ∀ {previous : Option Char} {lead run tail rest : List Char},
    Parts front back previous lead run tail rest →
    ∀ {skipped more piece others : List Char}, skipped ++ more = lead ++ (run ++ tail) → more ≠ [] →
      marker.Reads (skipped.getLast?.or previous) piece others → piece ++ others = more ++ rest →
        skipped.length < lead.length

theorem Parts.lead_pos (parts : Parts front back previous lead run tail rest)
    (written : 0 < front.least) : 0 < lead.length :=
  Nat.lt_of_lt_of_le written (least_le_length parts.reads_lead)

theorem Parts.not_mem (parts : Parts front back previous lead run tail rest) {c : Char}
    (avoids : front.avoids c && back.avoids c && (c != '*')) : c ∉ lead ++ (run ++ tail) := by
  rw [Bool.and_eq_true, Bool.and_eq_true, bne_iff_ne] at avoids
  rw [List.mem_append, List.mem_append]
  rintro (early | star | late)
  · exact not_mem_of_reads avoids.1.1 parts.reads_lead early
  · exact avoids.2 (parts.stars c star)
  · exact not_mem_of_reads avoids.1.2 parts.reads_tail late

theorem exists_parts (form : Form marker front back) (reads : marker.Reads previous piece rest) :
    ∃ lead run tail, piece = lead ++ (run ++ tail) ∧
      Parts front back previous lead run tail rest := by
  obtain ⟨lead, _, rfl, head, run, tail, rfl, stars, last⟩ := form.reads.mp reads
  obtain ⟨some, stars⟩ := reads_several.mp stars
  refine ⟨lead, run, tail, rfl, ?_, some, fun c member => eq_of_beq (stars c member), ?_⟩
  · rwa [← List.append_assoc]
  · rwa [List.getLast?_append, Option.or_assoc]

/-! ## The markers -/

/-- A letter of a piece stands in its front or in its back. -/
theorem Parts.lt_or_exists (parts : Parts front back previous lead run tail rest)
    {skipped more : List Char} {c : Char} (same : skipped ++ c :: more = lead ++ (run ++ tail))
    (letter : isIdentStart c) :
    skipped.length < lead.length ∨
      ∃ between, skipped = lead ++ (run ++ between) ∧ tail = between ++ c :: more := by
  rcases lt_or_exists_of_append_eq same with ⟨early, -⟩ | ⟨between, rfl, split⟩
  · exact .inl early
  · rcases lt_or_exists_of_append_eq split.symm with ⟨-, star⟩ | ⟨further, rfl, last⟩
    · rw [parts.stars c star] at letter
      cases letter
    · exact .inr ⟨further, rfl, last⟩

/-- A marker that starts the text starts once. -/
theorem starts_of_first (written : 0 < front.least)
    (parts : Parts front back previous lead run tail rest) {skipped : List Char}
    (first : skipped.getLast?.or previous = none) : skipped.length < lead.length := by
  rw [Option.or_eq_none_iff, List.getLast?_eq_none_iff] at first
  rw [first.1]
  exact parts.lead_pos written

theorem opens_one : (one isIdentStart).Opens StartsName := by
  rintro previous piece rest ⟨c, letter, rfl⟩
  exact letter

theorem opens_oneOf {words : List String}
    (starts : words.all fun text => text.toList.head?.any isIdentStart) :
    (oneOf words).Opens StartsName := by
  intro previous piece rest reads
  obtain ⟨text, member, rfl⟩ := reads_oneOf.mp reads
  have first := List.all_eq_true.mp starts text member
  rw [StartsName]
  cases written : text.toList with
  | nil =>
    rw [written] at first
    cases first
  | cons c letters =>
    rw [written] at first
    exact first

theorem opens_knownType : knownType.Opens StartsName := by
  rintro previous piece rest (basic | named | tagged)
  · exact opens_oneOf (by decide) _ _ _ basic
  · exact (opens_one.append (.many isIdentRest)).append (.word "_t") _ _ _ named
  · exact ((opens_oneOf (by decide)).append gap).append ident _ _ _ tagged

theorem opens_oneOf_const {words : List String} (others : words.all fun text =>
      2 ≤ text.toList.length && text.toList.take 2 != ['c', 'o']) :
    (oneOf words).Opens fun _ text => ¬ "const".toList <+: text := by
  rintro previous piece rest reads ⟨more, same⟩
  obtain ⟨text, member, rfl⟩ := reads_oneOf.mp reads
  have apart := List.all_eq_true.mp others text member
  rw [Bool.and_eq_true, decide_eq_true_eq, bne_iff_ne] at apart
  have two := congrArg (List.take 2) same
  rw [List.take_append_of_le_length apart.1] at two
  exact apart.2 two.symm

/-- No known type starts with the word `const`. -/
theorem opens_knownType_const : knownType.Opens fun _ text =>
    ∀ c more, text = "const".toList ++ c :: more → Text.isBlank c = false := by
  rintro previous piece rest (basic | named | tagged) c more same
  · exact absurd ⟨_, same.symm⟩ (opens_oneOf_const (by decide) _ _ _ basic)
  · obtain ⟨_, _, rfl, ⟨_, others, rfl, ⟨first, letter, rfl⟩, letters⟩, ending⟩ := named
    rw [reads_word.mp ending] at same
    rcases lt_or_exists_of_append_eq same.symm with ⟨-, member⟩ | ⟨between, split, -⟩
    · apply isBlank_eq_false_of_isIdentRest
      rcases List.mem_append.mp member with early | late
      · rcases List.mem_cons.mp early with rfl | later
        · exact isIdentRest_of_isIdentStart letter
        · exact letters c later
      · have plain : "_t".toList.all isIdentRest := by decide
        exact List.all_eq_true.mp plain c late
    · have absent : '_' ∉ "const".toList := by decide
      rw [split] at absent
      exact absurd (List.mem_append_left _ (List.mem_append_right _ List.mem_cons_self)) absent
  · exact absurd ⟨_, same.symm⟩
      (((opens_oneOf_const (by decide)).append gap).append ident _ _ _ tagged)

theorem disjoint_closers {test : Char → Bool} (star : test '*' = false) (equals : test '=' = false)
    (c : Char) (closer : c == '*' || c == '=') : test c = false := by
  rw [Bool.or_eq_true, beq_iff_eq, beq_iff_eq] at closer
  rcases closer with rfl | rfl
  · exact star
  · exact equals

/-- The marker of a known type starts at none of its stars and not behind them. -/
theorem starts_knownType {after : Pattern} (looks : ∀ previous piece rest,
      after.Reads previous piece rest → piece = [])
    (opens : marker.Opens fun previous text =>
      previous.any Text.isWord = false ∧ StartsName previous text)
    (apart : marker.Opens fun _ text =>
      ∀ c more, text = "const".toList ++ c :: more → Text.isBlank c = false)
    (parts : Parts front (.blanks ++ (.opt (.word "const" ++ .gap) ++ after)) previous lead run tail
      rest)
    {skipped more : List Char} (same : skipped ++ more = lead ++ (run ++ tail)) (some : more ≠ [])
    (reads : marker.Reads (skipped.getLast?.or previous) piece others)
    (onward : piece ++ others = more ++ rest) : skipped.length < lead.length := by
  obtain ⟨c, more, rfl⟩ := List.exists_cons_of_ne_nil some
  have starts := opens _ _ _ reads
  rw [onward] at starts
  obtain ⟨edge, letter⟩ : _ ∧ isIdentStart c := starts
  have ink := isBlank_eq_false_of_isIdentRest (isIdentRest_of_isIdentStart letter)
  rcases parts.lt_or_exists same letter with early | ⟨between, rfl, split⟩
  · exact early
  exfalso
  obtain ⟨blank, _, rfl, allBlank, word, last, rfl, maybe, look⟩ := parts.reads_tail
  obtain rfl := looks _ _ _ look
  rw [List.append_nil] at split
  rcases lt_or_exists_of_append_eq split.symm with ⟨-, inside⟩ | ⟨further, rfl, left⟩
  · rw [allBlank c inside] at ink
    cases ink
  rcases reads_opt.mp maybe with ⟨_, gap, rfl, const, spaces⟩ | rfl
  · rw [reads_word.mp const] at left
    obtain ⟨gapped, allBlank'⟩ := reads_several.mp spaces
    rcases lt_or_exists_of_append_eq left.symm with ⟨within, -⟩ | ⟨beyond, -, late⟩
    · rcases List.eq_nil_or_concat further with rfl | ⟨initial, d, rfl⟩
      · obtain ⟨e, gap, rfl⟩ := List.exists_cons_of_ne_nil gapped
        rw [List.nil_append] at left
        have inked := apart _ _ _ reads e (gap ++ rest) (by rw [onward, ← left]; simp)
        rw [allBlank' e List.mem_cons_self] at inked
        cases inked
      · have among : initial.concat d <+: "const".toList :=
          List.prefix_of_prefix_length_le ⟨_, left.symm⟩ (List.prefix_append _ _) (Nat.le_of_lt within)
        have word : "const".toList.all Text.isWord := by decide
        have wordly := List.all_eq_true.mp word d (among.subset (by simp))
        simp [wordly] at edge
    · have member : c ∈ gap := by simp [late]
      rw [allBlank' c member] at ink
      cases ink
  · simp at left

/-- The marker of a known type. -/
theorem form_knownType : ∃ front back, Form
    (.boundary ++ knownType ++ .blanks ++ stars ++ .blanks ++ .opt (.word "const" ++ .gap) ++
      beforeOperand) front back := by
  refine ⟨.boundary ++ knownType ++ .blanks,
    .blanks ++ (.opt (.word "const" ++ .gap) ++ beforeOperand), ?_, ?_, ?_, ?_, ?_, ?_⟩
  · exact reads_assoc.trans (reads_assoc.trans reads_assoc)
  · decide
  · decide
  · exact .many_append (disjoint_closers (by decide) (by decide))
      (.opt_append ((refuses_word rfl (by decide)).append _)
        (refuses_ahead (disjoint_closers (by decide) (by decide))))
  · exact ⟨(indifferent_boundary.append (by decide)).append (by decide),
      indifferent_of_lookless _ (by decide), indifferent_of_lookless _ (by decide),
      indifferent_ahead (by decide)⟩
  · intro previous lead run tail rest parts skipped more piece others
    refine starts_knownType ?_ ?_ ?_ parts
    · rintro _ _ _ ⟨none, -⟩
      exact none
    · exact (((((opens_boundary_append opens_knownType).append _).append _).append _).append _).append _
    · exact (((((opens_knownType_const.after_look _).append _).append _).append _).append _).append _

/-- The marker at the first word of a statement. -/
theorem form_statement : ∃ front back, Form
    (.atStart ++ .blanks ++
      .star (.oneOf ["static", "const", "extern", "register", "volatile"] ++ .gap) ++ ident ++
      .gap ++ stars ++ beforeOperand) front back := by
  refine ⟨.atStart ++ .blanks ++
    .star (.oneOf ["static", "const", "extern", "register", "volatile"] ++ .gap) ++ ident ++ .gap,
    beforeOperand, reads_assoc, by decide, by decide, ?_, ?_, ?_⟩
  · exact refuses_ahead (disjoint_closers (by decide) (by decide))
  · exact ⟨(((indifferent_atStart.append (by decide)).append (by decide)).append (by decide)).append
      (by decide), indifferent_ahead (by decide)⟩
  · intro previous lead run tail rest parts skipped more piece others same some reads onward
    exact starts_of_first (by decide) parts
      ((((((opens_atStart.append _).append _).append _).append _).append _).append _ _ _ _ reads)

/-- What a marker reads before its run and behind it does not let it start again there if it must
start behind characters that it does not read. -/
theorem starts_of_behind {test : Char → Bool} (written : 0 < front.least)
    (parts : Parts front back previous lead run tail rest) {skipped more : List Char}
    (same : skipped ++ more = lead ++ (run ++ tail))
    (avoids : ∀ c, test c → front.avoids c && back.avoids c && (c != '*'))
    (behind : (skipped.getLast?.or previous).any test) : skipped.length < lead.length := by
  rcases List.eq_nil_or_concat skipped with rfl | ⟨initial, c, rfl⟩
  · exact parts.lead_pos written
  · have passes : test c := by simpa using behind
    have absent := parts.not_mem (avoids c passes)
    rw [← same] at absent
    exact absurd (by simp) absent

/-- The marker of a parameter. -/
theorem form_parameter : ∃ front back, Form
    (.behind (fun c => c == '(' || c == ',') ++ .blanks ++ .opt (.word "const" ++ .gap) ++ ident ++
      .gap ++ stars ++ beforeName) front back := by
  refine ⟨.behind (fun c => c == '(' || c == ',') ++ .blanks ++ .opt (.word "const" ++ .gap) ++
    ident ++ .gap, beforeName, reads_assoc, by decide, by decide, ?_, ?_, ?_⟩
  · exact refuses_ahead (disjoint_closers (by decide) (by decide))
  · exact ⟨((((indifferent_behind (by decide)).append (by decide)).append (by decide)).append
      (by decide)).append (by decide), indifferent_ahead (by decide)⟩
  · intro previous lead run tail rest parts skipped more piece others same some reads onward
    refine starts_of_behind (by decide) parts same (fun c passes => ?_)
      (((((((opens_behind _).append _).append _).append _).append _).append _).append _ _ _ _ reads)
    rw [Bool.or_eq_true, beq_iff_eq, beq_iff_eq] at passes
    rcases passes with rfl | rfl <;> decide

/-- The marker of a cast, or of a parameter without a name. -/
theorem form_cast : ∃ front back, Form
    (.boundary ++ ident ++ .blanks ++ stars ++ .blanks ++ .ahead (fun c => c == ',' || c == ')'))
      front back := by
  refine ⟨.boundary ++ ident ++ .blanks, .blanks ++ .ahead (fun c => c == ',' || c == ')'),
    reads_assoc.trans reads_assoc, by decide, by decide, ?_, ?_, ?_⟩
  · exact .many_append (disjoint_closers (by decide) (by decide))
      (refuses_ahead (disjoint_closers (by decide) (by decide)))
  · exact ⟨(indifferent_boundary.append (by decide)).append (by decide),
      indifferent_of_lookless _ (by decide), indifferent_ahead (by decide)⟩
  · intro previous lead run tail rest parts skipped more piece others same some reads onward
    obtain ⟨c, more, rfl⟩ := List.exists_cons_of_ne_nil some
    have starts := ((((opens_boundary_append (opens_one.append _)).append _).append _).append
      _).append _ _ _ _ reads
    rw [onward] at starts
    have letter : isIdentStart c := starts.2
    rcases parts.lt_or_exists same letter with early | ⟨between, rfl, split⟩
    · exact early
    · obtain ⟨blank, _, rfl, allBlank, rfl, -⟩ := parts.reads_tail
      have member : c ∈ blank := by
        rw [List.append_nil] at split
        simp [split]
      rw [isIdentStart_eq_false_of_isBlank (allBlank c member)] at letter
      cases letter

/-- The marker of an instance on the closing line of a type. -/
theorem form_instance : ∃ front back, Form
    (.atStart ++ .blanks ++ .char '}' ++ .blanks ++ stars ++ beforeName) front back := by
  refine ⟨.atStart ++ .blanks ++ .char '}' ++ .blanks, beforeName, reads_assoc, by decide, by decide,
    ?_, ?_, ?_⟩
  · exact refuses_ahead (disjoint_closers (by decide) (by decide))
  · exact ⟨((indifferent_atStart.append (by decide)).append (by decide)).append (by decide),
      indifferent_ahead (by decide)⟩
  · intro previous lead run tail rest parts skipped more piece others same some reads onward
    exact starts_of_first (by decide) parts
      (((((opens_atStart.append _).append _).append _).append _).append _ _ _ _ reads)

/-- The marker of a pointer to a function. -/
theorem form_function : ∃ front back, Form
    (.char '(' ++ .blanks ++ stars ++ .blanks ++ ident ++ .blanks ++ .char ')') front back := by
  refine ⟨.char '(' ++ .blanks, .blanks ++ (ident ++ (.blanks ++ .char ')')),
    reads_assoc.trans (reads_assoc.trans (reads_assoc.trans reads_assoc)), by decide, by decide,
    ?_, ?_, ?_⟩
  · exact .many_append (disjoint_closers (by decide) (by decide))
      (((refuses_one (disjoint_closers (by decide) (by decide))).append _).append _)
  · exact ⟨indifferent_of_lookless _ (by decide), indifferent_of_lookless _ (by decide)⟩
  · intro previous lead run tail rest parts skipped more piece others same some reads onward
    obtain ⟨c, more, rfl⟩ := List.exists_cons_of_ne_nil some
    have starts := ((((((opens_char '(').append _).append _).append _).append _).append _).append
      _ _ _ _ reads
    rw [onward] at starts
    obtain rfl : c = '(' := Option.some.inj starts
    rcases lt_or_exists_of_append_eq same with ⟨early, -⟩ | ⟨between, -, split⟩
    · exact early
    · exfalso
      have member : '(' ∈ run ++ tail := by simp [split]
      rcases List.mem_append.mp member with star | late
      · exact absurd (parts.stars _ star) (by decide)
      · exact not_mem_of_reads (by decide) parts.reads_tail late

theorem exists_form (member : marker ∈ markers) : ∃ front back, Form marker front back := by
  simp only [markers, List.mem_cons, List.not_mem_nil, or_false] at member
  rcases member with rfl | rfl | rfl | rfl | rfl | rfl
  · exact form_knownType
  · exact form_statement
  · exact form_parameter
  · exact form_cast
  · exact form_instance
  · exact form_function

theorem least_pos (member : marker ∈ markers) : 0 < marker.least := by
  simp only [markers, List.mem_cons, List.not_mem_nil, or_false] at member
  rcases member with rfl | rfl | rfl | rfl | rfl | rfl <;> decide

/-! ## What the form gives -/

/-- Two texts that start with a run of stars behind other characters have the same run. -/
theorem run_unique {lead' run' tail' : List Char} (plain : '*' ∉ lead) (plain' : '*' ∉ lead')
    (some : run ≠ []) (some' : run' ≠ []) (stars : ∀ c ∈ run, c = '*') (stars' : ∀ c ∈ run', c = '*')
    (closed : tail.head? ≠ .some '*') (closed' : tail'.head? ≠ .some '*')
    (same : lead ++ (run ++ tail) = lead' ++ (run' ++ tail')) : lead = lead' ∧ run = run' := by
  have front {lead run tail : List Char} (plain : '*' ∉ lead) (some : run ≠ [])
      (stars : ∀ c ∈ run, c = '*') : (lead ++ (run ++ tail)).takeWhile (· != '*') = lead := by
    obtain ⟨c, more, rfl⟩ := List.exists_cons_of_ne_nil some
    rw [stars c List.mem_cons_self, List.takeWhile_append_of_pos, List.cons_append,
      List.takeWhile_cons_of_neg (by decide), List.append_nil]
    intro d member
    rw [bne_iff_ne]
    rintro rfl
    exact plain member
  have middle {run tail : List Char} (stars : ∀ c ∈ run, c = '*') (closed : tail.head? ≠ .some '*') :
      (run ++ tail).takeWhile (· == '*') = run := by
    rw [List.takeWhile_append_of_pos fun d member => beq_iff_eq.mpr (stars d member)]
    cases tail with
    | nil => exact List.append_nil run
    | cons d tail =>
      rw [List.takeWhile_cons_of_neg, List.append_nil]
      rw [beq_iff_eq]
      rintro rfl
      exact closed rfl
  obtain rfl : lead = lead' := by rw [← front plain some stars, same, front plain' some' stars']
  refine ⟨rfl, ?_⟩
  rw [← middle stars closed, List.append_cancel_left same, middle stars' closed']

namespace Form

variable (form : Form marker front back) (reads : marker.Reads previous piece rest)
include form

theorem carried {other : Option Char} (reads : marker.Reads previous piece rest)
    (before : Operator.Spaced previous other) (behind : Operator.Spaced rest.head? others.head?) :
    marker.Reads other piece others :=
  form.reads.mpr ((form.reads.mp reads).carried .refl
    ⟨form.indifferent.1, indifferent_of_lookless _ (by decide), form.indifferent.2⟩ before behind)

theorem not_mem_of_symbol (parts : Parts front back previous lead run tail rest) {c : Char}
    (symbol : c ∈ Operator.symbols) : c ∉ lead ∧ c ∉ tail := by
  have avoids := List.all_eq_true.mp form.plain c symbol
  rw [Bool.and_eq_true] at avoids
  exact ⟨not_mem_of_reads avoids.1 parts.reads_lead, not_mem_of_reads avoids.2 parts.reads_tail⟩

theorem head?_ne_closer (parts : Parts front back previous lead run tail rest) {c : Char}
    (closer : c == '*' || c == '=') : (tail ++ rest).head? ≠ some c := by
  intro first
  have refused : (tail ++ rest).head?.any _ = false := form.closes.opens _ _ _ parts.reads_tail
  rw [first, Option.any_some, closer] at refused
  cases refused

include reads

/-- Stars are the only characters of operators that a marker reads. -/
theorem eq_star_of_symbol {c : Char} (member : c ∈ piece) (symbol : c ∈ Operator.symbols) :
    c = '*' := by
  obtain ⟨lead, run, tail, rfl, parts⟩ := exists_parts form reads
  obtain ⟨early, late⟩ := form.not_mem_of_symbol parts symbol
  simp only [List.mem_append, early, late, false_or, or_false] at member
  exact parts.stars c member

/-- No star of a marker is followed by an equals sign. -/
theorem length_le_of_star_equals {before behind : List Char}
    (split : piece ++ rest = before ++ '*' :: '=' :: behind) : piece.length ≤ before.length := by
  obtain ⟨lead, run, tail, rfl, parts⟩ := exists_parts form reads
  obtain ⟨early, late⟩ := form.not_mem_of_symbol parts (c := '*') (by decide)
  rw [List.append_assoc, List.append_assoc] at split
  obtain ⟨further, rfl, inRun⟩ := (lt_or_exists_of_append_eq split.symm).resolve_left (early ·.2)
  rcases lt_or_exists_of_append_eq inRun.symm with ⟨within, -⟩ | ⟨beyond, rfl, inTail⟩
  · -- the equals sign is then the first character behind the run
    have next : further ++ ['*'] ++ '=' :: behind = run ++ (tail ++ rest) := by simp [inRun]
    rcases lt_or_exists_of_append_eq next with ⟨-, star⟩ | ⟨between, ends, onward⟩
    · exact absurd (parts.stars _ star) (by decide)
    · have lengths := congrArg List.length ends
      simp only [List.length_append, List.length_singleton] at lengths
      obtain rfl : between = [] := List.length_eq_zero_iff.mp (by omega)
      exact absurd (congrArg List.head? onward) (form.head?_ne_closer parts (by decide))
  · obtain ⟨last, rfl, -⟩ := (lt_or_exists_of_append_eq inTail.symm).resolve_left (late ·.2)
    simp only [List.length_append]
    omega

/-- The stars of a piece that starts inside another piece of the same marker lie inside that one. -/
theorem lt_of_star_of_overlap {skipped more piece' rest' before behind : List Char}
    (same : skipped ++ more = piece) (some : more ≠ [])
    (reads' : marker.Reads (skipped.getLast?.or previous) piece' rest')
    (onward : piece' ++ rest' = more ++ rest) (star : piece' = before ++ '*' :: behind) :
    before.length < more.length := by
  obtain ⟨lead, run, tail, rfl, parts⟩ := exists_parts form reads
  obtain ⟨lead', run', tail', rfl, parts'⟩ := exists_parts form reads'
  have early := form.starts parts same some reads' onward
  obtain ⟨further, rfl, rfl⟩ :
      ∃ further, lead = skipped ++ further ∧ more = further ++ (run ++ tail) := by
    rcases List.append_eq_append_iff.mp same with split | ⟨between, rfl, -⟩
    · exact split
    · rw [List.length_append] at early
      omega
  have plain := form.not_mem_of_symbol parts (c := '*') (by decide)
  have plain' := form.not_mem_of_symbol parts' (c := '*') (by decide)
  simp only [List.append_assoc] at onward
  obtain ⟨rfl, rfl⟩ := run_unique plain'.1 (fun member => plain.1 (List.mem_append_right _ member))
    parts'.some parts.some parts'.stars parts.stars (form.head?_ne_closer parts' (by decide))
    (form.head?_ne_closer parts (by decide)) onward
  rw [← List.append_assoc] at star
  rcases lt_or_exists_of_append_eq star.symm with ⟨within, -⟩ | ⟨beyond, -, late⟩
  · simp only [List.length_append] at within ⊢
    omega
  · exact absurd (by simp [late]) plain'.2

end Form

end Pointer

end HouseStyle
