import HouseStyle.File.ConstPointer
import HouseStyle.Proofs.File.Heads
import HouseStyle.Proofs.File.Findings

/-!
Contract: where suggestions about pointer parameters point.

Owns: the first match of a search, names that stand alone, the place that the search for a parameter's
name finds, and the comparison with the place of the parameter.
Does not own: the place of a parameter in the lines of a head, which `File.Heads` gives.

A suggestion is placed by a search for the parameter's name on the lines of the head. The search takes
the first place at which the name stands alone, whatever stands there, and the start of the head if
there is none. So it finds the parameter only if nothing before it is spelled alike.

Main statement: `diagnostics_placed`.
-/

namespace HouseStyle

/-! ## First finds -/

/-- A search has found the first of the values that are wanted, in some order, or nothing because there
is none. -/
def FindsFirst {α : Type} (order : α → α → Prop) (wanted : α → Prop) : Option α → Prop
  | some value => wanted value ∧ ∀ other, wanted other → order value other
  | none => ∀ value, ¬ wanted value

namespace FindsFirst

variable {α : Type} {order : α → α → Prop} {wanted late : α → Prop} {found other : Option α}

theorem congr (first : FindsFirst order wanted found) (same : ∀ value, wanted value ↔ late value) :
    FindsFirst order late found := by
  obtain rfl : wanted = late := funext fun value => propext (same value)
  exact first

/-- A search that goes on where the one before it found nothing has searched all of both. -/
theorem or (first : FindsFirst order wanted found) (second : FindsFirst order late other)
    (ordered : ∀ value further, wanted value → late further → order value further) :
    FindsFirst order (fun value => wanted value ∨ late value) (found.or other) := by
  cases found with
  | some value =>
    obtain ⟨here, least⟩ := first
    exact ⟨.inl here, fun further either => either.elim (least further) (ordered value further here)⟩
  | none =>
    cases other with
    | some value =>
      obtain ⟨here, least⟩ := second
      exact ⟨.inr here, fun further either =>
        either.elim (fun before => absurd before (first further)) (least further)⟩
    | none => exact fun further either => either.elim (first further) (second further)

end FindsFirst

/-! ## First matches -/

/-- A place of a text, with nothing recorded. -/
def Cursor.ofPosition (text : List Char) (position : Nat) : Cursor :=
  ⟨position, (text.take position).getLast?, text.drop position, []⟩

namespace Pattern

variable {pattern : Pattern} {text : List Char} {start : Nat}

theorem start_of_matchAt? {cursor : Cursor} {found : Match}
    (here : pattern.matchAt? cursor = some found) : found.start = cursor.position := by
  obtain ⟨stop, -, rfl⟩ := exists_of_matchAt? here
  rfl

/-- The pattern matches at a position of a text. -/
def FitsAt (pattern : Pattern) (text : List Char) (position : Nat) : Prop :=
  (pattern.matchAt? (.ofPosition text position)).isSome

theorem findsFirst_matchAt? (pattern : Pattern) (text : List Char) (start : Nat) :
    FindsFirst (· ≤ ·) (fun position => position = start ∧ pattern.FitsAt text position)
      ((pattern.matchAt? (.ofPosition text start)).map Match.start) := by
  unfold FitsAt
  cases here : pattern.matchAt? (.ofPosition text start) with
  | some found =>
    have started : found.start = start := start_of_matchAt? here
    refine ⟨⟨started, ?_⟩, fun other wanted => by omega⟩
    rw [started, here]
    rfl
  | none =>
    rintro position ⟨rfl, fits⟩
    rw [here] at fits
    cases fits

/-- A search finds the first position at which there is a match. -/
theorem findsFirst_searchAt? (within : start ≤ text.length) :
    FindsFirst (· ≤ ·)
      (fun position => start ≤ position ∧ position ≤ text.length ∧ pattern.FitsAt text position)
      ((pattern.searchAt? start (text.take start).getLast? (text.drop start)).map Match.start) := by
  generalize left : text.drop start = rest
  have here : Cursor.mk start (text.take start).getLast? rest [] = .ofPosition text start := by
    rw [Cursor.ofPosition, left]
  have length : text.length = start + rest.length := by
    have same := congrArg List.length left
    rw [List.length_drop] at same
    omega
  have first := findsFirst_matchAt? pattern text start
  induction rest generalizing start with
  | nil =>
    rw [List.length_nil] at length
    rw [searchAt?, here]
    refine first.congr fun position => ?_
    constructor
    · rintro ⟨same, fits⟩
      exact ⟨by omega, by omega, fits⟩
    · rintro ⟨behind, upTo, fits⟩
      exact ⟨by omega, fits⟩
  | cons c rest inductionHypothesis =>
    rw [List.length_cons] at length
    have further : text.drop (start + 1) = rest := by
      rw [← List.tail_drop, left, List.tail_cons]
    have last : (text.take (start + 1)).getLast? = some c := by
      rw [List.take_add_one, ← List.head?_drop, left]
      exact List.getLast?_concat
    have later := @inductionHypothesis (start + 1) (by omega) further
      (by rw [Cursor.ofPosition, further]) (by omega) (findsFirst_matchAt? pattern text (start + 1))
    have step : (pattern.searchAt? start (text.take start).getLast? (c :: rest)).map Match.start =
        ((pattern.matchAt? (.ofPosition text start)).map Match.start).or
          ((pattern.searchAt? (start + 1) (some c) rest).map Match.start) := by
      rw [searchAt?, here]
      cases pattern.matchAt? (.ofPosition text start) <;> rfl
    rw [last] at later
    rw [step]
    refine (first.or later fun position other same behind => by omega).congr fun position => ?_
    constructor
    · rintro (⟨same, fits⟩ | ⟨behind, upTo, fits⟩)
      · exact ⟨by omega, by omega, fits⟩
      · exact ⟨by omega, upTo, fits⟩
    · rintro ⟨behind, upTo, fits⟩
      rcases Nat.eq_or_lt_of_le behind with same | past
      · exact .inl ⟨same.symm, fits⟩
      · exact .inr ⟨past, upTo, fits⟩

end Pattern

namespace ConstPointer

/-! ## Names that stand alone -/

/-- A name stands at a column of a code and touches no other character of words. -/
structure StandsAlone (code name : List Char) (column : Nat) : Prop where
  stands : Excerpt.StandsIn code ⟨column, name⟩
  before : (code.take column).getLast?.any Text.isWord = false
  after : (code.drop (column + name.length)).head?.any Text.isWord = false

/-- The characters of a name that is looked for belong to words. -/
structure IsWord (name : List Char) : Prop where
  written : name ≠ []
  letters : ∀ c ∈ name, Text.isWord c

/-- The pattern that looks for a name. -/
def alone (name : List Char) : Pattern :=
  .boundary ++ .characters name ++ .boundary

theorem mem_outcomes_alone {name : List Char} (word : IsWord name) {start stop : Cursor} :
    stop ∈ (alone name).outcomes start ↔ start.previous.any Text.isWord = false ∧
      ∃ rest, start.rest = name ++ rest ∧ rest.head?.any Text.isWord = false ∧
        stop = start.after name rest := by
  obtain ⟨first, others, rfl⟩ := List.exists_cons_of_ne_nil word.written
  have starts : Text.isWord first := word.letters first List.mem_cons_self
  obtain ⟨before, last, split⟩ := List.eq_nil_or_concat (first :: others) |>.resolve_left word.written
  have ends : Text.isWord last := word.letters last (by rw [split]; simp)
  have previous : ∀ cursor : Cursor, ((first :: others).getLast?.or cursor.previous) = some last := by
    intro cursor
    rw [split, List.concat_eq_append, List.getLast?_concat, Option.some_or]
  simp only [alone, Pattern.boundary, Pattern.mem_outcomes_append, Pattern.mem_outcomes_look,
    Pattern.mem_outcomes_characters, Cursor.after]
  constructor
  · rintro ⟨_, ⟨_, ⟨opens, rfl⟩, rest, written, rfl⟩, closes, rfl⟩
    rw [written, List.cons_append, List.head?_cons, Option.any_some, starts] at opens
    rw [previous, Option.any_some, ends] at closes
    exact ⟨by simpa using opens, rest, written, by simpa using closes, rfl⟩
  · rintro ⟨opens, rest, written, closes, rfl⟩
    refine ⟨_, ⟨start, ⟨?_, rfl⟩, rest, written, rfl⟩, ?_, rfl⟩
    · rw [written, List.cons_append, List.head?_cons, Option.any_some, starts, opens]
      rfl
    · rw [previous, Option.any_some, ends, closes]
      rfl

/-- The pattern fits exactly where the name stands alone. -/
theorem fitsAt_alone_iff {code name : List Char} (word : IsWord name) {column : Nat} :
    (alone name).FitsAt code column ↔ StandsAlone code name column := by
  have some : (alone name).FitsAt code column ↔
      ∃ stop, stop ∈ (alone name).outcomes (.ofPosition code column) := by
    rw [Pattern.FitsAt, Pattern.matchAt?_eq, Option.isSome_map, List.isSome_head?]
    constructor
    · exact List.exists_mem_of_ne_nil _
    · rintro ⟨_, member⟩
      exact List.ne_nil_of_mem member
  rw [some]
  constructor
  · rintro ⟨stop, reached⟩
    obtain ⟨before, rest, written, after, -⟩ := (mem_outcomes_alone word).mp reached
    have written : code.drop column = name ++ rest := written
    refine ⟨⟨rest, written.symm⟩, before, ?_⟩
    rwa [← List.drop_drop, written, List.drop_left]
  · rintro ⟨⟨rest, written⟩, before, after⟩
    refine ⟨_, (mem_outcomes_alone word).mpr ⟨before, rest, written.symm, ?_, rfl⟩⟩
    rwa [← List.drop_drop, ← written, List.drop_left] at after

/-! ## The place that the search finds -/

/-- Where the search on the first line of a head starts: behind its first parenthesis. -/
def searchStart (code : List Char) : Nat :=
  ((Text.find? ['('] code).map (· + 1)).getD 0

/-- A name stands alone at a place of the lines that are searched: those of the head, the first one
only behind its first parenthesis. -/
structure Seen (lines : List Line) (definition : FunctionDefinition) (name : List Char)
    (place : Nat × Nat) : Prop where
  behind : definition.headerLine ≤ place.1
  upTo : place.1 ≤ definition.openLine
  alone : ∃ line, lines[place.1]? = some line ∧ StandsAlone line.code name place.2 ∧
    (place.1 = definition.headerLine → searchStart line.code ≤ place.2)

/-- A place on an earlier line, or on the same line and not to the right of the other. -/
def NoLater (place other : Nat × Nat) : Prop :=
  place.1 < other.1 ∨ place.1 = other.1 ∧ place.2 ≤ other.2

theorem NoLater.antisymm {place other : Nat × Nat} (early : NoLater place other)
    (late : NoLater other place) : place = other := by
  obtain ⟨index, column⟩ := place
  obtain ⟨otherIndex, otherColumn⟩ := other
  simp only [NoLater, Prod.mk.injEq] at *
  omega

/-- A character is found before the end of the text, and not behind another one like it. -/
theorem find?_character {c : Char} {text : List Char} {position : Nat}
    (found : Text.find? [c] text = some position) :
    position < text.length ∧ ∀ other, text[other]? = some c → position ≤ other := by
  obtain ⟨before, rest, rfl, without, rfl⟩ := Text.find?_character_iff.mp found
  refine ⟨by simp, fun other there => ?_⟩
  by_contra early
  rw [List.getElem?_append_left (by omega)] at there
  exact without (List.mem_of_getElem? there)

theorem searchStart_le (code : List Char) : searchStart code ≤ code.length := by
  rw [searchStart]
  cases found : Text.find? ['('] code with
  | none => exact Nat.zero_le _
  | some position => exact (find?_character found).1

/-- A place behind a parenthesis is behind the first one. -/
theorem searchStart_le_of_paren {code : List Char} {paren column : Nat}
    (opens : code[paren]? = some '(') (behind : paren < column) : searchStart code ≤ column := by
  rw [searchStart]
  cases found : Text.find? ['('] code with
  | none => exact Nat.zero_le _
  | some position =>
    have least := (find?_character found).2 paren opens
    simp only [Option.map_some, Option.getD_some]
    omega

theorem StandsAlone.le_length {code name : List Char} (word : IsWord name) {column : Nat}
    (alone : StandsAlone code name column) : column ≤ code.length := by
  by_contra past
  have beyond : code.drop column = [] := List.drop_eq_nil_of_le (by omega)
  have none := alone.stands
  rw [Excerpt.StandsIn, beyond] at none
  exact word.written (List.prefix_nil.mp none)

/-- A search of a line for a name finds the first column at which the name stands alone. -/
theorem findsFirst_searchFrom? {code name : List Char} (word : IsWord name) {start : Nat}
    (within : start ≤ code.length) :
    FindsFirst (· ≤ ·) (fun column => start ≤ column ∧ StandsAlone code name column)
      (((alone name).searchFrom? start code).map Match.start) := by
  have previous : (if start = 0 then none else code[start - 1]?) = (code.take start).getLast? := by
    cases start with
    | zero => rfl
    | succ before =>
      rw [if_neg (Nat.succ_ne_zero before), Nat.add_sub_cancel, List.take_add_one,
        List.getElem?_eq_getElem within]
      exact List.getLast?_concat.symm
  rw [Pattern.searchFrom?, previous]
  refine (Pattern.findsFirst_searchAt? within).congr fun column => ?_
  rw [fitsAt_alone_iff word]
  exact and_congr_right fun _ => and_iff_right_of_imp fun stands => stands.le_length word

variable {lines : List Line} {definition : FunctionDefinition} {name : List Char}

/-- A name stands alone at a place of a file. -/
def StandsAt (lines : List Line) (name : List Char) (place : Nat × Nat) : Prop :=
  ∃ line, lines[place.1]? = some line ∧ StandsAlone line.code name place.2

/-- A search of one line of a file finds the first place there at which the name stands alone. -/
theorem findsFirst_onLine (word : IsWord name) {index start : Nat} {line : Line}
    (here : lines[index]? = some line) (within : start ≤ line.code.length) :
    FindsFirst NoLater
      (fun place => place.1 = index ∧ start ≤ place.2 ∧ StandsAt lines name place)
      (((alone name).searchFrom? start line.code).map fun found => (index, found.start)) := by
  have first := findsFirst_searchFrom? word within
  cases searched : (alone name).searchFrom? start line.code with
  | some found =>
    rw [searched] at first
    obtain ⟨⟨behind, stands⟩, least⟩ := first
    refine ⟨⟨rfl, behind, line, here, stands⟩, ?_⟩
    rintro ⟨_, column⟩ ⟨rfl, after, otherLine, there, alone⟩
    cases here.symm.trans there
    exact .inr ⟨rfl, least column ⟨after, alone⟩⟩
  | none =>
    rw [searched] at first
    rintro ⟨_, column⟩ ⟨rfl, after, otherLine, there, alone⟩
    cases here.symm.trans there
    exact first column ⟨after, alone⟩

/-- The search on consecutive lines finds the first place at which a name stands alone. -/
theorem findsFirst_locateFrom (word : IsWord name) {index : Nat} {rest : List Line}
    (same : ∀ offset < rest.length, rest[offset]? = lines[index + offset]?) :
    FindsFirst NoLater
      (fun place => index ≤ place.1 ∧ place.1 < index + rest.length ∧ StandsAt lines name place)
      (locateFrom (alone name) index rest) := by
  induction rest generalizing index with
  | nil =>
    rintro place ⟨behind, before, -⟩
    rw [List.length_nil] at before
    omega
  | cons line rest inductionHypothesis =>
    have here : lines[index]? = some line := (same 0 (Nat.succ_pos _)).symm
    have later := @inductionHypothesis (index + 1) (by
      intro offset inside
      rw [Nat.add_right_comm, Nat.add_assoc, ← same (offset + 1) (Nat.succ_lt_succ inside)]
      rfl)
    have step : locateFrom (alone name) index (line :: rest) =
        (((alone name).searchFrom? 0 line.code).map fun found => (index, found.start)).or
          (locateFrom (alone name) (index + 1) rest) := by
      rw [locateFrom, show (alone name).search? line.code = (alone name).searchFrom? 0 line.code from rfl]
      cases (alone name).searchFrom? 0 line.code <;> rfl
    rw [step]
    refine ((findsFirst_onLine word here (Nat.zero_le _)).or later ?_).congr fun place => ?_
    · rintro place other ⟨onLine, -⟩ ⟨behind, -⟩
      exact .inl (by omega)
    · rw [List.length_cons]
      constructor
      · rintro (⟨onLine, -, stands⟩ | ⟨behind, before, stands⟩)
        · exact ⟨by omega, by omega, stands⟩
        · exact ⟨by omega, by omega, stands⟩
      · rintro ⟨behind, before, stands⟩
        rcases Nat.eq_or_lt_of_le behind with onLine | past
        · exact .inl ⟨onLine.symm, Nat.zero_le _, stands⟩
        · exact .inr ⟨past, by omega, stands⟩

/-- The place that the search names is the first at which the name stands alone, or the start of the
head if there is none. -/
theorem locate_alone (word : IsWord name) (ordered : definition.headerLine ≤ definition.openLine)
    (within : definition.openLine < lines.length) :
    ∃ found, FindsFirst NoLater (Seen lines definition name) found ∧
      locate lines definition name = found.getD (definition.headerLine, 0) := by
  have inside : definition.headerLine < lines.length := by omega
  generalize known : lines[definition.headerLine] = line
  have here : lines[definition.headerLine]? = some line := by
    rw [List.getElem?_eq_getElem inside, known]
  generalize others : (lines.drop (definition.headerLine + 1)).take
    (definition.openLine - definition.headerLine) = rest
  have split : (lines.drop definition.headerLine).take
      (definition.openLine + 1 - definition.headerLine) = line :: rest := by
    rw [List.drop_eq_getElem_cons inside, Nat.succ_sub ordered, List.take_succ_cons, known, others]
  have length : rest.length = definition.openLine - definition.headerLine := by
    rw [← others, List.length_take, List.length_drop]
    omega
  have first := findsFirst_onLine word here (searchStart_le line.code)
  have later := @findsFirst_locateFrom lines _ word (definition.headerLine + 1) rest (by
    intro offset early
    rw [← others, List.getElem?_take_of_lt (by omega), List.getElem?_drop])
  refine ⟨_, (first.or later ?_).congr fun place => ?_, ?_⟩
  · rintro place other ⟨onLine, -⟩ ⟨behind, -⟩
    exact .inl (by omega)
  · constructor
    · rintro (⟨onLine, behind, known, there, alone⟩ | ⟨behind, before, known, there, alone⟩)
      · refine ⟨by omega, by omega, known, there, alone, fun _ => ?_⟩
        rw [onLine] at there
        cases here.symm.trans there
        exact behind
      · exact ⟨by omega, by omega, known, there, alone, fun onLine => by omega⟩
    · rintro ⟨behind, upTo, known, there, alone, start⟩
      rcases Nat.eq_or_lt_of_le behind with onLine | past
      · refine .inl ⟨onLine.symm, ?_, known, there, alone⟩
        have behindParen := start onLine.symm
        rw [← onLine] at there
        cases here.symm.trans there
        exact behindParen
      · exact .inr ⟨past, by omega, known, there, alone⟩
  · rw [locate, split]
    dsimp only [alone, searchStart]
    cases Pattern.searchFrom? _ _ line.code <;> rfl

theorem isWord_of_mem_identifiers {text : List Char} (member : name ∈ Lexicon.identifiers text) :
    IsWord name := by
  obtain ⟨found, among, rfl⟩ := List.mem_map.mp member
  obtain ⟨start, stop, -, -, -, reached, rfl⟩ := Pattern.matched_of_mem_findAll among
  obtain ⟨_, first, others⟩ := Pattern.mem_outcomes_append.mp reached
  obtain ⟨c, rest, split, starts, rfl⟩ := Pattern.mem_outcomes_one.mp first
  obtain ⟨more, after, splitRest, all, rfl⟩ := Pattern.mem_outcomes_many.mp others
  have written : (start.matched ((start.advance c rest).after more after)).whole.text = c :: more := by
    have length : start.position + 1 + more.length - start.position = (c :: more).length := by
      rw [List.length_cons]
      omega
    have whole : rest = more ++ after := splitRest
    simp only [Cursor.matched, Cursor.excerpt, Cursor.after, Cursor.advance, Nat.sub_self,
      List.drop_zero, length, split, whole, ← List.cons_append, List.take_left]
  rw [written]
  refine ⟨List.cons_ne_nil _ _, fun d inside => isWord_of_isIdentRest ?_⟩
  rcases List.mem_cons.mp inside with rfl | later
  · exact isIdentRest_of_isIdentStart starts
  · exact all d later

/-- The search names the place of a parameter exactly if the parameter's name stands alone there, and
nowhere before on the lines that are searched. -/
theorem exists_locate_eq_iff (found : definition ∈ FunctionDefinition.findAll lines)
    {position : Nat} {parameter : List Char}
    (given : definition.parameters[position]? = some parameter)
    (named : (Lexicon.identifiers parameter).getLast? = some name) :
    ∃ place line, definition.parameterPlace? lines position = some place ∧
      definition.headerLine ≤ place.1 ∧ place.1 ≤ definition.openLine ∧
      lines[place.1]? = some line ∧ Excerpt.StandsIn line.code ⟨place.2, name⟩ ∧
      (locate lines definition name = place ↔ StandsAlone line.code name place.2 ∧
        ∀ other, Seen lines definition name other → NoLater place other) := by
  obtain ⟨index, column, line, placed, behind, upTo, there, stands, paren⟩ :=
    FunctionDefinition.exists_parameterPlace? found given named
  refine ⟨(index, column), line, placed, behind, upTo, there, stands, ?_⟩
  have word : IsWord name := isWord_of_mem_identifiers (List.mem_of_getLast? named)
  obtain ⟨⟨ordered, open_le⟩, within⟩ := FunctionDefinition.ordered_of_mem_findAll found
  have seen : StandsAlone line.code name column → Seen lines definition name (index, column) := by
    refine fun alone => ⟨behind, upTo, line, there, alone, fun same => ?_⟩
    obtain ⟨opening, before, opens⟩ := paren same
    exact searchStart_le_of_paren opens before
  obtain ⟨found, first, located⟩ := locate_alone word ordered (Nat.lt_of_le_of_lt open_le within)
  rw [located]
  cases found with
  | some place =>
    obtain ⟨seenThere, least⟩ := first
    constructor
    · rintro rfl
      obtain ⟨otherLine, known, alone, -⟩ := seenThere.alone
      cases there.symm.trans known
      exact ⟨alone, least⟩
    · rintro ⟨alone, earliest⟩
      exact (least _ (seen alone)).antisymm (earliest _ seenThere)
  | none =>
    constructor
    · intro same
      obtain ⟨rfl, rfl⟩ := Prod.mk.inj same
      obtain ⟨opening, before, -⟩ := paren rfl
      exact absurd before (Nat.not_lt_zero _)
    · rintro ⟨alone, -⟩
      exact absurd (seen alone) (first _)

/-! ## Suggestions -/

/-- The diagnostic is the suggestion for a parameter of a definition. -/
def Suggests (lines : List Line) (definition : FunctionDefinition) (position : Nat)
    (diagnostic : Diagnostic) : Prop :=
  ∃ parameter, definition.parameters[position]? = some parameter ∧
    suggestion? lines definition parameter = .ok (some diagnostic)

/-- A suggestion is about the last identifier of its parameter, and placed where that is searched
for. -/
theorem exists_of_suggests {position : Nat} {diagnostic : Diagnostic}
    (suggests : Suggests lines definition position diagnostic) :
    ∃ parameter name, definition.parameters[position]? = some parameter ∧
      (Lexicon.identifiers parameter).getLast? = some name ∧
      diagnostic.length = name.length ∧
      diagnostic.line = (locate lines definition name).1 + 1 ∧
      diagnostic.column = (locate lines definition name).2 := by
  obtain ⟨parameter, given, suggested⟩ := suggests
  rw [suggestion?] at suggested
  split at suggested
  · cases suggested
  next name candidate =>
    have named : (Lexicon.identifiers parameter).getLast? = some name := by
      rw [candidate?] at candidate
      split at candidate
      · cases candidate
      · exact candidate
    refine ⟨parameter, name, given, named, ?_⟩
    split at suggested
    · cases suggested
    · generalize locate lines definition name = place at suggested ⊢
      obtain ⟨diagnostic, complaint, same⟩ := Answer.bind_eq_ok.mp suggested
      cases same
      obtain ⟨message, -, same⟩ := Answer.bind_eq_ok.mp complaint
      cases same
      exact ⟨Int.max_eq_left (Int.natCast_nonneg _), rfl, Int.max_eq_left (Int.natCast_nonneg _)⟩

theorem mem_diagnostics_iff {diagnostics : List Diagnostic}
    (answers : ConstPointer.diagnostics lines = .ok diagnostics) (diagnostic : Diagnostic) :
    diagnostic ∈ diagnostics ↔ ∃ definition ∈ FunctionDefinition.findAll lines, ∃ position,
      Suggests lines definition position diagnostic := by
  obtain ⟨found, given, same⟩ := Answer.bind_eq_ok.mp answers
  cases same
  constructor
  · intro member
    obtain ⟨suggestion, inside, same⟩ := List.mem_filterMap.mp member
    cases (show suggestion = some diagnostic from same)
    obtain ⟨suggestions, among, inside⟩ := List.mem_flatten.mp inside
    obtain ⟨definition, known, suggested⟩ := Answer.exists_of_mem_mapM given suggestions among
    obtain ⟨parameter, listed, answered⟩ := Answer.exists_of_mem_mapM suggested _ inside
    obtain ⟨position, there⟩ := List.mem_iff_getElem?.mp listed
    exact ⟨definition, known, position, parameter, there, answered⟩
  · rintro ⟨definition, known, position, parameter, there, answered⟩
    obtain ⟨suggestions, among, suggested⟩ := Answer.exists_mem_of_mapM given definition known
    obtain ⟨suggestion, inside, same⟩ :=
      Answer.exists_mem_of_mapM suggested parameter (List.mem_of_getElem? there)
    cases answered.symm.trans same
    exact List.mem_filterMap.mpr ⟨_, List.mem_flatten.mpr ⟨suggestions, among, inside⟩, rfl⟩

/-- The suggestion for a parameter points at the parameter's name exactly if the name stands alone there
and nowhere before on the lines of the head, behind the first parenthesis of the first of them. -/
theorem diagnostics_placed {text : List Char} {diagnostics : List Diagnostic}
    (answers : ConstPointer.diagnostics (Line.ofRaws (Source.splitLines text)) = .ok diagnostics) :
    let lines := Line.ofRaws (Source.splitLines text)
    (∀ diagnostic, diagnostic ∈ diagnostics ↔ ∃ definition ∈ FunctionDefinition.findAll lines,
      ∃ position, Suggests lines definition position diagnostic) ∧
    ∀ definition ∈ FunctionDefinition.findAll lines, ∀ position diagnostic,
      Suggests lines definition position diagnostic →
        ∃ parameter name place line, definition.parameters[position]? = some parameter ∧
          (Lexicon.identifiers parameter).getLast? = some name ∧
          definition.parameterPlace? lines position = some place ∧
          definition.headerLine ≤ place.1 ∧ place.1 ≤ definition.openLine ∧
          lines[place.1]? = some line ∧ Excerpt.StandsIn line.code ⟨place.2, name⟩ ∧
          diagnostic.length = name.length ∧
          (diagnostic.line = place.1 + 1 ∧ diagnostic.column = place.2 ↔
            StandsAlone line.code name place.2 ∧
              ∀ other, Seen lines definition name other → NoLater place other) := by
  intro lines
  refine ⟨mem_diagnostics_iff answers, ?_⟩
  intro definition found position diagnostic suggests
  obtain ⟨parameter, name, given, named, length, line, column⟩ := exists_of_suggests suggests
  obtain ⟨place, there, placed, behind, upTo, known, stands, iff⟩ :=
    exists_locate_eq_iff found given named
  refine ⟨parameter, name, place, there, given, named, placed, behind, upTo, known, stands, length, ?_⟩
  rw [← iff, line, column, Prod.ext_iff]
  constructor
  · rintro ⟨sameLine, sameColumn⟩
    exact ⟨by omega, by omega⟩
  · rintro ⟨sameLine, sameColumn⟩
    exact ⟨by rw [sameLine], by rw [sameColumn]⟩

/-- A suggestion on a parameter on the second line of a head, whose name starts like another's: it
points at the name, which stands alone there and nowhere before. -/
theorem diagnostics_placed_sum :
    let text :=
      "int util_sum(int *value,\n             int *values)\n\x7b\n  return values[0];\n\x7d\n".toList
    let lines := Line.ofRaws (Source.splitLines text)
    let definition : FunctionDefinition :=
      ⟨"util_sum".toList, 0, 2, 4, ["int *value".toList, "int *values".toList]⟩
    let diagnostic : Diagnostic := ⟨2, 18, 6, .warning, Kind.pointerCouldBeConst.name,
      "pointer 'values' is not modified; consider declaring it 'const int *values'"⟩
    ∃ diagnostics, ConstPointer.diagnostics lines = .ok diagnostics ∧
      definition ∈ FunctionDefinition.findAll lines ∧ Suggests lines definition 1 diagnostic ∧
      definition.parameterPlace? lines 1 = some (1, 18) ∧
      ∃ line, lines[1]? = some line ∧ Excerpt.StandsIn line.code ⟨18, "values".toList⟩ ∧
        (diagnostic.line = 1 + 1 ∧ diagnostic.column = 18) ∧
          StandsAlone line.code "values".toList 18 ∧
            ∀ other, Seen lines definition "values".toList other → NoLater (1, 18) other := by
  intro text lines definition diagnostic
  obtain ⟨diagnostics, answers, -⟩ := ConstPointer.diagnostics_answers lines
  have found : FunctionDefinition.findAll lines = [definition] := by decide +kernel
  have member : definition ∈ FunctionDefinition.findAll lines := by
    rw [found]
    exact List.mem_singleton_self _
  have suggests : Suggests lines definition 1 diagnostic :=
    ⟨"int *values".toList, rfl, by decide +kernel⟩
  have place : definition.parameterPlace? lines 1 = some (1, 18) := by decide +kernel
  have last : (Lexicon.identifiers "int *values".toList).getLast? = some "values".toList := by
    decide +kernel
  obtain ⟨parameter, name, there, line, given, named, placed, -, -, known, stands, -, points⟩ :=
    (diagnostics_placed answers).2 definition member 1 diagnostic suggests
  cases given
  cases last.symm.trans named
  cases place.symm.trans placed
  exact ⟨diagnostics, answers, member, suggests, place, line, known, stands, ⟨rfl, rfl⟩,
    points.mp ⟨rfl, rfl⟩⟩

/-- A tag that is spelled like its parameter draws the suggestion to itself. -/
theorem diagnostics_placed_tag :
    let text := "int list_first(struct node *node)\n\x7b\n  return node->value;\n\x7d\n".toList
    let lines := Line.ofRaws (Source.splitLines text)
    ∃ definition diagnostic, FunctionDefinition.findAll lines = [definition] ∧
      ConstPointer.diagnostics lines = .ok [diagnostic] ∧
      definition.parameters = ["struct node *node".toList] ∧
      definition.parameterPlace? lines 0 = some (0, 28) ∧
      (diagnostic.line, diagnostic.column, diagnostic.length) = (1, 22, 4) := by
  refine ⟨⟨"list_first".toList, 0, 1, 3, ["struct node *node".toList]⟩, ⟨1, 22, 4, .warning,
    "POINTER_COULD_BE_CONST",
    "pointer 'node' is not modified; consider declaring it 'const struct node *node'"⟩, ?_⟩
  decide +kernel

end ConstPointer

end HouseStyle
