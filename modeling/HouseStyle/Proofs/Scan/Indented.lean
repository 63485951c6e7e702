import HouseStyle.Proofs.Pattern.Shift
import HouseStyle.Proofs.Rule.Findings
import HouseStyle.Proofs.Scan.Advance
import Mathlib.Data.List.TakeWhile

/-!
Contract: what a scan reads off an indented line is what it reads off the line.

Owns: the insensitivity to leading spaces and tabs of every test that decides the state of a scan or
a fault.
Does not own: the columns of findings, which move with the line.

Main statements: one per reading, named for it and ending in `_indented`.
-/

namespace HouseStyle

/-! ## Patterns after leading blanks -/

namespace Pattern

theorem refuses_ident : Lexicon.ident.Refuses Text.isBlank :=
  (refuses_one fun _ blank => isIdentStart_eq_false_of_isBlank blank).append _

theorem steady_ident : Lexicon.ident.Steady :=
  ⟨trivial, trivial⟩

theorem indentable_caseLabel : Spacing.caseLabel.Indentable := by
  have label : (capture .label
      ((word "case" ++ boundary ++ lazyStar any) <|> word "default")).Refuses Text.isBlank := by
    refine Refuses.capture (Refuses.orElse ?_ ?_) .label
    · exact ((refuses_word rfl (by decide)).append _).append _
    · exact refuses_word rfl (by decide)
  refine (((((indentable_of_refuses label ?_).append ?_).append ?_).append ?_).append ?_).append ?_
  all_goals simp [any, manySpaces, anything]

theorem indentable_gotoLabel : Spacing.gotoLabel.Indentable := by
  have name := refuses_ident.capture .name
  refine ((((indentable_of_refuses name ?_).append ?_).append ?_).append ?_).append ?_
  all_goals simp [steady_ident, manySpaces, blanks]

theorem indentable_nameOnly : Function.nameOnly.Indentable := by
  have name := refuses_ident.capture .name
  refine ((indentable_of_refuses name ?_).append ?_).append ?_
  all_goals simp [steady_ident, blanks]

theorem indentable_headPattern : Function.headPattern.Indentable := by
  have returnType : Function.returnType.Refuses Text.isBlank := by
    refine Refuses.capture (Refuses.append (Refuses.orElse ?_ ?_) _) .returnType
    · exact refuses_ident.append _
    · exact ((refuses_ident.append _).append _).append _
  refine (((indentable_of_refuses returnType ?_).append ?_).append ?_).append ?_
  all_goals simp [Function.returnType, Lexicon.stars, gap, blanks, steady_ident]

theorem indentable_typeStart : Member.typeStart.Indentable := by
  have keyword : (opt (capture .typedefWord (word "typedef" ++ gap)) ++
      capture .keyword (oneOf ["struct", "enum", "union"])).Refuses Text.isBlank := by
    apply Refuses.opt_append
    · exact ((refuses_word rfl (by decide)).append _).capture .typedefWord
    · refine Refuses.capture (refuses_oneOf ?_) .keyword
      simp only [List.forall_mem_cons]
      refine ⟨refuses_word rfl (by decide), refuses_word rfl (by decide),
        refuses_word rfl (by decide), ?_⟩
      intro text member
      exact absurd member List.not_mem_nil
  refine ((((indentable_of_refuses_append keyword ?_).append ?_).append ?_).append ?_).append ?_
  all_goals simp [gap, blanks, steady_ident]

theorem indentable_directive (name : String) : (Lexicon.directive name).Indentable := by
  have hash : (char '#').Refuses Text.isBlank := refuses_char (by decide)
  exact ((indentable_of_refuses hash steady_char).append steady_many).append steady_word

theorem indentable_definition : Lexicon.definition.Indentable := by
  refine ((indentable_directive _).append ?_).append ?_
  all_goals simp [gap, steady_ident]

theorem indentable_inclusion : Lexicon.inclusion.Indentable := by
  refine ((indentable_directive _).append ?_).append ?_
  all_goals simp [blanks, anyOf, severalBut]

end Pattern

/-! ## Texts -/

section Texts

variable {indentation : List Char} (all : ∀ c ∈ indentation, Source.isIndentation c)
include all

theorem Text.trimLeft_indented (text : List Char) :
    trimLeft (indentation ++ text) = trimLeft text :=
  List.dropWhile_append_of_pos (isBlank_of_indentation all)

theorem Text.trim_indented (text : List Char) : trim (indentation ++ text) = trim text := by
  rw [trim, trim, trimLeft_indented all]

theorem not_mem_indentation {c : Char} (other : Source.isIndentation c = false) :
    c ∉ indentation := by
  intro member
  rw [all c member] at other
  cases other

theorem count_indented {c : Char} (other : Source.isIndentation c = false) (text : List Char) :
    (indentation ++ text).count c = text.count c := by
  rw [List.count_append, List.count_eq_zero_of_not_mem (not_mem_indentation all other),
    Nat.zero_add]

theorem Text.excess_indented {opener closer : Char}
    (openerInk : Source.isIndentation opener = false)
    (closerInk : Source.isIndentation closer = false) (text : List Char) :
    excess opener closer (indentation ++ text) = excess opener closer text := by
  rw [excess, excess, count_indented all openerInk, count_indented all closerInk]

theorem contains_indented {c : Char} (other : Source.isIndentation c = false) (text : List Char) :
    (indentation ++ text).contains c = text.contains c := by
  rw [Bool.eq_iff_iff, List.contains_iff_mem, List.contains_iff_mem, List.mem_append]
  exact or_iff_right (not_mem_indentation all other)

/-- A word that starts with neither a space nor a tab stands in an indented text where it stands in
the text. -/
theorem infix_indented_iff {c : Char} {word : List Char} (starts : word.head? = some c)
    (other : Source.isIndentation c = false) {text : List Char} :
    word <:+: indentation ++ text ↔ word <:+: text := by
  induction indentation with
  | nil => exact Iff.rfl
  | cons d indentation inductionHypothesis =>
    obtain ⟨here, rest⟩ := List.forall_mem_cons.mp all
    have elsewhere : ¬ word <+: d :: (indentation ++ text) := by
      intro first
      rcases List.prefix_cons_iff.mp first with rfl | ⟨rest, rfl, -⟩
      · cases starts
      · rw [List.head?_cons, Option.some.injEq] at starts
        rw [starts, other] at here
        cases here
    rw [List.cons_append, List.infix_cons_iff, or_iff_right elsewhere]
    exact inductionHypothesis rest

theorem Text.getLast?_trimRight_indented (text : List Char) :
    (trimRight (indentation ++ text)).getLast? = (trimRight text).getLast? := by
  have nothing : (indentation.reverse.find? fun c => !isBlank c) = none := by
    rw [List.find?_eq_none]
    intro c member
    simp [isBlank_of_indentation all c (List.mem_reverse.mp member)]
  rw [getLast?_trimRight, getLast?_trimRight, List.reverse_append, List.find?_append, nothing,
    Option.or_none]

omit all in
theorem Text.findLast?_append {c : Char} {first : List Char} (other : c ∉ first)
    (text : List Char) :
    findLast? c (first ++ text) = (findLast? c text).map (· + first.length) := by
  induction first with
  | nil =>
    rw [List.nil_append]
    cases findLast? c text <;> rfl
  | cons d first inductionHypothesis =>
    rw [List.mem_cons, not_or] at other
    obtain ⟨here, rest⟩ := other
    rw [List.cons_append, findLast?, inductionHypothesis rest, List.length_cons]
    cases findLast? c text with
    | none =>
      rw [Option.map_none]
      simpa using fun same => here same.symm
    | some position => rfl

omit all in
/-- From a position after the first part on, a word is found in the second part. -/
theorem Text.findFrom?_append (word first text : List Char) (start : Nat) :
    findFrom? word (start + first.length) (first ++ text) =
      (findFrom? word start text).map (· + first.length) := by
  rw [findFrom?, findFrom?, Nat.add_comm start, List.drop_length_add_append, Option.map_map]
  congr 1
  funext offset
  simp only [Function.comp_apply]
  omega

end Texts

/-! ## One-line statements -/

namespace InlineControl

/-- The parts of a control line, moved to the right. -/
def Split.moved (width : Nat) (split : Split) : Split :=
  { split with
    keywordEnd := split.keywordEnd + width
    parens := split.parens.map fun (opener, closer) => (opener + width, closer + width)
    bodyStart := split.bodyStart + width }

theorem closingParen?_moved (width depth position : Nat) (text : List Char) :
    closingParen? depth (position + width) text =
      (closingParen? depth position text).map (· + width) := by
  induction text generalizing depth position with
  | nil => rfl
  | cons c text inductionHypothesis =>
    have later := fun depth => inductionHypothesis depth (position + 1)
    rw [Nat.add_right_comm] at later
    simp only [closingParen?, later]
    repeat' split
    all_goals rfl

theorem condition?_append (first text : List Char) (keywordEnd : Nat) :
    condition? (first ++ text) (keywordEnd + first.length) =
      (condition? text keywordEnd).map fun (opener, closer) =>
        (opener + first.length, closer + first.length) := by
  unfold condition?
  rw [Text.findFrom?_append]
  cases Text.findFrom? ['('] keywordEnd text with
  | none => rfl
  | some opener =>
    have between : Text.slice (first ++ text) (keywordEnd + first.length) (opener + first.length) =
        Text.slice text keywordEnd opener := by
      rw [Text.slice, Text.slice, Nat.add_comm opener, List.take_length_add_append,
        Nat.add_comm keywordEnd, List.drop_length_add_append]
    have later : (first ++ text).drop (opener + first.length) = text.drop opener := by
      rw [Nat.add_comm, List.drop_length_add_append]
    simp only [Option.map_some, Option.bind_eq_bind, Option.bind_some, between, later,
      closingParen?_moved]
    split
    · cases closingParen? 0 opener (text.drop opener) <;> rfl
    · rfl

variable {indentation : List Char} (all : ∀ c ∈ indentation, Source.isIndentation c)
include all

theorem split?_indented (code : List Char) :
    split? (indentation ++ code) = (split? code).map (Split.moved indentation.length) := by
  unfold split?
  rw [List.takeWhile_append_of_pos (isBlank_of_indentation all), Text.trimLeft_indented all]
  cases controlKeyword.matchStart? (Text.trimLeft code) with
  | none => rfl
  | some found =>
    simp only [Option.bind_eq_bind, Option.bind_some]
    cases found.part? .keyword with
    | none => rfl
    | some word =>
      have moved : (indentation ++ code.takeWhile Text.isBlank).length + word.stop =
          (code.takeWhile Text.isBlank).length + word.stop + indentation.length := by
        rw [List.length_append]
        omega
      simp only [Option.bind_some, moved, condition?_append]
      split
      · rfl
      · cases condition? code ((code.takeWhile Text.isBlank).length + word.stop) with
        | none => rfl
        | some parens =>
          obtain ⟨opener, closer⟩ := parens
          have later : closer + indentation.length + 1 = closer + 1 + indentation.length := by
            omega
          simp only [Option.map_some, Option.bind_some, later]
          rfl

omit all in
theorem body_moved (split : Split) (first code : List Char) :
    (split.moved first.length).body (first ++ code) = split.body code := by
  show Text.trim ((first ++ code).drop (split.bodyStart + first.length)) = _
  rw [Nat.add_comm, List.drop_length_add_append]
  rfl

omit all in
theorem isInline_eq (code : List Char) :
    isInline code =
      match split? code with
      | none => false
      | some split =>
        let body := split.body code
        if body = [] then false
        else if body.head? == some '{' then
          body.getLast? == some '}' && body.count '{' == body.count '}'
        else if body.contains '{' || body.contains '}' then false
        else if split.keyword == "else".toList && controlKeyword.fits body then isInline body
        else body.getLast? == some ';' := by
  rw [isInline]
  split
  next none => rw [none]
  next split found => simp only [found, dite_eq_ite]

theorem isInline_indented (code : List Char) :
    isInline (indentation ++ code) = isInline code := by
  rw [isInline_eq, isInline_eq, split?_indented all]
  cases split? code with
  | none => rfl
  | some split =>
    simp only [Option.map_some, body_moved]
    rfl

theorem chainsMoreThan_indented (count : Nat) (code : List Char) :
    chainsMoreThan count (indentation ++ code) = chainsMoreThan count code := by
  cases count with
  | zero => rfl
  | succ count =>
    have same : chained? (indentation ++ code) = chained? code := by
      unfold chained?
      rw [split?_indented all]
      cases split? code with
      | none => rfl
      | some split =>
        simp only [Option.map_some, Option.bind_eq_bind, Option.bind_some, body_moved]
        rfl
    rw [chainsMoreThan, chainsMoreThan, same]

end InlineControl

section Readings

variable {indentation : List Char} (all : ∀ c ∈ indentation, Source.isIndentation c)
include all

/-! ## Labels -/

namespace CaseBlock

theorem isLabel_indented (code : List Char) : isLabel (indentation ++ code) = isLabel code := by
  rw [isLabel, isLabel, Text.trim_indented all,
    Pattern.fits_indented all Pattern.indentable_caseLabel]

theorem parts?_indented (code : List Char) :
    parts? (indentation ++ code) =
      (parts? code).map fun (label, gap, rest) =>
        (label.moved indentation.length, gap.moved indentation.length,
          rest.moved indentation.length) := by
  unfold parts?
  rw [Pattern.matchStart?_indented all Pattern.indentable_caseLabel]
  cases Spacing.caseLabel.matchStart? code with
  | none => rfl
  | some found =>
    simp only [Option.map_some, Option.bind_eq_bind, Option.bind_some, Match.part?_indented]
    cases found.part? .label with
    | none => rfl
    | some label =>
      cases found.part? .gap with
      | none => rfl
      | some gap => cases found.part? .rest <;> rfl

end CaseBlock

theorem Scan.isSome_labelFindings?_indented (code : List Char) :
    (labelFindings? (indentation ++ code)).isSome = (labelFindings? code).isSome := by
  unfold labelFindings?
  rw [Pattern.matchStart?_indented all Pattern.indentable_gotoLabel]
  cases Spacing.gotoLabel.matchStart? code with
  | none => rfl
  | some found =>
    simp only [Option.map_some, Option.bind_eq_bind, Option.bind_some, Match.part?_indented]
    cases found.part? .name with
    | none => rfl
    | some name =>
      cases found.part? .gap with
      | none => rfl
      | some gap =>
        simp only [Option.map_some, Option.bind_some]
        by_cases keyword : Lexicon.isKeyword name.text
        · rw [if_pos keyword, if_pos (show Lexicon.isKeyword (name.moved _).text from keyword)]
        · rw [if_neg keyword, if_neg (show ¬ Lexicon.isKeyword (name.moved _).text from keyword)]
          rfl

/-! ## Lists of parameters -/

namespace Function

theorem isSome_head?_indented (code : List Char) :
    (head? (indentation ++ code)).isSome = (head? code).isSome := by
  unfold head?
  rw [Pattern.matchStart?_indented all Pattern.indentable_headPattern]
  cases headPattern.matchStart? code with
  | none => rfl
  | some found =>
    simp only [Option.map_some, Option.bind_eq_bind, Option.bind_some, Match.part?_indented]
    cases found.part? .returnType with
    | none => rfl
    | some returnType =>
      cases found.part? .name with
      | none => rfl
      | some name =>
        cases found.part? .gap with
        | none => rfl
        | some gap =>
          simp only [Option.map_some, Option.bind_some]
          by_cases declares : isDeclaration returnType name
          · rw [if_pos declares, if_pos
              (show isDeclaration (returnType.moved _) (name.moved _) from declares)]
            rfl
          · rw [if_neg declares, if_neg
              (show ¬ isDeclaration (returnType.moved _) (name.moved _) from declares)]

theorem isSome_leadingName?_indented (code : List Char) :
    (leadingName? (indentation ++ code)).isSome = (leadingName? code).isSome := by
  unfold leadingName?
  rw [Pattern.matchStart?_indented all Pattern.indentable_nameOnly]
  cases nameOnly.matchStart? code with
  | none => rfl
  | some found =>
    simp only [Option.map_some, Option.bind_eq_bind, Option.bind_some, Match.part?_indented,
      Option.isSome_map]

end Function

theorem ParamBlock.opens_indented (code : List Char) :
    opens (indentation ++ code) = opens code := by
  rw [opens, opens, contains_indented all rfl, Text.trim_indented all,
    Text.excess_indented all rfl rfl]

/-! ## Types -/

theorem TypeScope.staysOpen_indented (code : List Char) (bodyStart : Nat) :
    staysOpen (indentation ++ code) (bodyStart + indentation.length) =
      staysOpen code bodyStart := by
  unfold staysOpen
  rw [Text.findLast?_append (not_mem_indentation all rfl)]
  cases Text.findLast? '}' code with
  | none => rfl
  | some close => simp

end Readings

/-! ## Numbers -/

namespace Call

theorem isDecimal_eq_false_of_isMargin {c : Char} (margin : isMargin c) :
    Text.isDecimal c = false := by
  rcases isMargin_iff.mp margin with rfl | rfl | rfl <;> decide

theorem steady_number : number.Steady := by
  have behind : (Pattern.notBehind fun c => Text.isWord c || c == '.').Steady := by
    apply Pattern.steady_notBehind
    intro c margin
    rcases isMargin_iff.mp margin with rfl | rfl | rfl <;> decide
  simp [number, behind]

theorem refuses_number : number.Refuses isMargin := by
  have digits : (Pattern.several Text.isDecimal).Refuses isMargin :=
    (Pattern.refuses_one fun _ margin => isDecimal_eq_false_of_isMargin margin).append _
  exact (digits.look_append _).append _

theorem refuses_enumWord : enumWord.Refuses isMargin := by
  have word : (Pattern.word "enum").Refuses isMargin := Pattern.refuses_word rfl (by decide)
  exact (word.look_append _).append _

/-- The numbers after a margin are the numbers of the text, moved. -/
theorem numbers_margin {margin : List Char} (all : ∀ c ∈ margin, isMargin c) (text : List Char) :
    (number.findAll (margin ++ text)).map Match.whole =
      ((number.findAll text).map Match.whole).map (Excerpt.moved margin.length) := by
  rw [Pattern.findAll_margin steady_number refuses_number all, List.map_map, List.map_map]
  rfl

theorem occurs_enumWord_indented {indentation : List Char}
    (all : ∀ c ∈ indentation, Source.isIndentation c) (code : List Char) :
    enumWord.occurs (indentation ++ code) = enumWord.occurs code := by
  rw [Pattern.occurs, Pattern.occurs, Pattern.search?_margin (by simp [enumWord]) refuses_enumWord
    (isMargin_of_indentation all), Option.isSome_map]

end Call

end HouseStyle
