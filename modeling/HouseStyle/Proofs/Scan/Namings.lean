import HouseStyle.Proofs.Masking
import HouseStyle.Proofs.Pattern.Alphabet
import HouseStyle.Proofs.Pattern.Reading
import HouseStyle.Proofs.Scan.Indented
import HouseStyle.Proofs.Scan.Origins

/-!
Contract: what a scan says about the names in a declaration of a type, row by row.

Owns: the kinds of these complaints and what they say, the rows that such a declaration is written
in, the complaints about names that a scan has on one row, and their collection over several.
Does not own: which rows a declaration has.

A row is a statement and nothing else: it has no label, no list of parameters and no condition. All
that a scan says about names on it comes from the reading of types, if the row opens or closes one,
and from the rule on members otherwise.

Main statements: `DeclarationRow.exists_step` and `Scan.Remarks.cons`.
-/

namespace HouseStyle

/-! ## Kinds -/

/-- The kinds of complaints about the names in a declaration of a type. -/
def Kind.typeNaming : List Kind :=
  [.enumElementNotScreaming, .fieldNameNotSnake, .instanceNotSnake, .instanceEndsWithT,
    .typedefTypeName, .typedefNameMissing, .typeTagNotCamel]

/-- The kinds and messages of the complaints about the names in declarations of types, in order. -/
def Diagnostic.namings (diagnostics : List Diagnostic) : List (String × String) :=
  (diagnostics.filter fun diagnostic =>
      (Kind.typeNaming.map Kind.name).contains diagnostic.kind).map fun diagnostic =>
    (diagnostic.kind, diagnostic.message)

/-- The printed name of a kind, and its message with the given arguments. -/
def Kind.worded (kind : Kind) (arguments : List Argument) : String × String :=
  (kind.name, (kind.template.format arguments).toOption.getD "")

/-- The kinds and messages of the findings about the names in declarations of types, in order. -/
def Finding.namings (findings : List Finding) : List (String × String) :=
  (findings.filter fun finding => Kind.typeNaming.contains finding.kind).map fun finding =>
    finding.kind.worded finding.arguments

/-- What a scan says about names on a row: what the reading of types says, if it says anything, and
what the rule on members finds otherwise. -/
def TypeScope.namings (settings : Settings) (site : Site) : Outcome → List (String × String)
  | (some diagnostics, _) => Diagnostic.namings diagnostics
  | (none, state) => Finding.namings (Member.typeMembers (site.view settings state))

theorem Kind.contains_name_typeNaming (kind : Kind) :
    (typeNaming.map name).contains kind.name = typeNaming.contains kind := by
  rw [Bool.eq_iff_iff, List.contains_iff_mem, List.contains_iff_mem]
  exact List.mem_map_of_injective Kind.name_injective

namespace Diagnostic

variable {diagnostics others : List Diagnostic} {findings more : List Finding} {kinds : List Kind}

theorem namings_append (diagnostics others : List Diagnostic) :
    namings (diagnostics ++ others) = namings diagnostics ++ namings others := by
  rw [namings, List.filter_append, List.map_append]
  rfl

/-- Complaints of other kinds say nothing about names. -/
theorem namings_of_reported (reported : Reported kinds diagnostics)
    (apart : ∀ kind ∈ kinds, kind ∉ Kind.typeNaming) : namings diagnostics = [] := by
  rw [namings, List.filter_eq_nil_iff.mpr, List.map_nil]
  intro diagnostic member
  obtain ⟨kind, among, named, -⟩ := reported diagnostic member
  rw [named, Kind.contains_name_typeNaming, List.contains_iff_mem]
  exact apart kind among

/-- What is said on a line says what was found. -/
theorem namings_of_onLines {line : Int}
    (given : (findings.mapM fun finding => finding.onLine line) = .ok diagnostics) :
    namings diagnostics = Finding.namings findings := by
  induction findings generalizing diagnostics with
  | nil =>
    cases given
    rfl
  | cons finding findings inductionHypothesis =>
    rw [List.mapM_cons] at given
    obtain ⟨first, answered, given⟩ := Answer.bind_eq_ok.mp given
    obtain ⟨others, rest, given⟩ := Answer.bind_eq_ok.mp given
    cases given
    have later := inductionHypothesis rest
    obtain ⟨message, written, answered⟩ := Answer.bind_eq_ok.mp answered
    cases answered
    unfold namings Finding.namings at later ⊢
    rw [List.filter_cons, List.filter_cons, Kind.contains_name_typeNaming]
    split
    · simp only [List.map_cons, later, Kind.worded, written]
      rfl
    · exact later

end Diagnostic

/-- Findings of other kinds are not about names. -/
theorem Finding.namings_of_ofKinds {kinds : List Kind} {findings : List Finding}
    (declared : OfKinds kinds findings) (apart : ∀ kind ∈ kinds, kind ∉ Kind.typeNaming) :
    namings findings = [] := by
  rw [namings, List.filter_eq_nil_iff.mpr, List.map_nil]
  intro finding member
  rw [List.contains_iff_mem]
  exact apart finding.kind (declared finding member)

theorem Finding.namings_append (findings more : List Finding) :
    namings (findings ++ more) = namings findings ++ namings more := by
  rw [namings, List.filter_append, List.map_append]
  rfl

/-- Of the rules on statements only the one on members looks at the names in declarations of
types. -/
theorem Rule.namings_statement {view : View} {findings : List Finding}
    (ruled : runPhase .statement view = .ok findings) :
    Finding.namings findings = Finding.namings (Member.typeMembers view) := by
  have split : statementRules = statementRules.take 10 ++
      [total "type_members" .statement [.enumElementNotScreaming, .fieldNameNotSnake]
        Member.typeMembers] := rfl
  have firstKinds : ∀ rule ∈ statementRules.take 10, ∀ kind ∈ rule.kinds,
      kind ∉ Kind.typeNaming := by
    decide
  obtain ⟨lists, asked, given⟩ := Answer.bind_eq_ok.mp ruled
  cases given
  have last : ([total "type_members" .statement [.enumElementNotScreaming, .fieldNameNotSnake]
      Member.typeMembers].mapM fun rule => rule.check view) = .ok [Member.typeMembers view] := rfl
  rw [ofPhase, split, List.mapM_append, last] at asked
  obtain ⟨others, askedOthers, asked⟩ := Answer.bind_eq_ok.mp asked
  rw [Answer.ok_bind] at asked
  cases asked
  have declared : OfKinds ((statementRules.take 10).flatMap Rule.kinds) others.flatten := by
    intro finding member
    obtain ⟨found, among, inside⟩ := List.mem_flatten.mp member
    obtain ⟨rule, inTake, answered⟩ := Answer.exists_of_mem_mapM askedOthers found among
    obtain ⟨foundToo, answeredToo, declared⟩ :=
      finds_of_runPhase ruled rule (List.mem_of_mem_take inTake)
    rw [answered] at answeredToo
    cases answeredToo
    exact List.mem_flatMap.mpr ⟨rule, inTake, declared finding inside⟩
  have nothing : Finding.namings others.flatten = [] := by
    refine Finding.namings_of_ofKinds declared fun kind member => ?_
    obtain ⟨rule, inTake, among⟩ := List.mem_flatMap.mp member
    exact firstKinds rule inTake kind among
  rw [List.flatten_append, Finding.namings_append, nothing, List.nil_append, List.flatten_singleton]

/-! ## Words at the start of a text -/

/-- The words that start a control statement. -/
def controlWords : List (List Char) :=
  ["if", "for", "while", "switch", "else", "do"].map String.toList

/-- The words that start a type. -/
def typeWords : List (List Char) :=
  ["typedef", "struct", "enum", "union"].map String.toList

/-- The characters of names that a text starts with. -/
def Text.leadingWord (text : List Char) : List Char :=
  text.takeWhile Lexicon.isIdentRest

theorem Text.leadingWord_append {word rest : List Char} (all : ∀ c ∈ word, Lexicon.isIdentRest c)
    (ends : rest.head?.any Lexicon.isIdentRest = false) : leadingWord (word ++ rest) = word := by
  rw [leadingWord, List.takeWhile_append_of_pos all]
  cases rest with
  | nil => simp
  | cons c rest =>
    rw [List.head?_cons, Option.any_some] at ends
    simp [ends]

/-- Blanks before a word do not belong to it. -/
theorem Text.leadingWord_trimLeft {blanks rest : List Char} (all : ∀ c ∈ blanks, isBlank c)
    (some : leadingWord rest ≠ []) : leadingWord (trimLeft (blanks ++ rest)) = leadingWord rest := by
  rw [trimLeft, List.dropWhile_append_of_pos all]
  cases rest with
  | nil => rfl
  | cons c rest =>
    have starts : Lexicon.isIdentRest c := by
      rw [← Bool.not_eq_false]
      intro other
      exact some (List.takeWhile_cons_of_neg (by rw [other]; decide))
    rw [List.dropWhile_cons_of_neg]
    rw [isBlank_eq_false_of_isIdentRest starts]
    decide

/-- A text that starts with a word starts with no other character. -/
theorem Text.head?_trim_ne {text : List Char} {c : Char} (word : leadingWord (trimLeft text) ≠ [])
    (other : Lexicon.isIdentRest c = false) : (trim text).head? ≠ some c := by
  intro starts
  obtain ⟨rest, split⟩ := List.head?_eq_some_iff.mp (head?_trimLeft_of_trim starts)
  rw [split, leadingWord, List.takeWhile_cons_of_neg (by rw [other]; decide)] at word
  exact word rfl

namespace Pattern

variable {previous : Option Char} {piece rest : List Char}

/-- A word of a list that ends at a boundary is the whole word that the text starts with. -/
theorem leadingWord_of_reads_oneOf {words : List String}
    (named : ∀ word ∈ words, word.toList.getLast?.isSome ∧ word.toList.all Lexicon.isIdentRest)
    (reads : (oneOf words ++ boundary).Reads previous piece rest) :
    Text.leadingWord (piece ++ rest) = piece ∧ piece ∈ words.map String.toList := by
  obtain ⟨_, _, rfl, word, rfl, edge⟩ := reads
  obtain ⟨text, among, rfl⟩ := reads_oneOf.mp word
  obtain ⟨some, letters⟩ := named text among
  obtain ⟨c, last⟩ := Option.isSome_iff_exists.mp some
  rw [List.all_eq_true] at letters
  have inside : Text.isWord c := isWord_of_isIdentRest (letters c (List.mem_of_getLast? last))
  rw [last, Option.some_or] at edge
  have apart : (Text.isWord c != rest.head?.any Text.isWord) = true := edge
  rw [List.append_nil]
  refine ⟨Text.leadingWord_append letters ?_, List.mem_map_of_mem among⟩
  cases rest with
  | nil => rfl
  | cons d rest =>
    rw [inside, List.head?_cons, Option.any_some] at apart
    rw [List.head?_cons, Option.any_some, ← Bool.not_eq_true]
    intro goesOn
    rw [isWord_of_isIdentRest goesOn] at apart
    cases apart

/-- A word before a gap is the whole word that the text starts with. -/
theorem leadingWord_of_reads_gap {text : String} (letters : text.toList.all Lexicon.isIdentRest)
    (reads : (word text ++ gap).Reads previous piece rest) :
    Text.leadingWord (piece ++ rest) = text.toList := by
  obtain ⟨_, blank, rfl, named, blanks⟩ := reads
  obtain rfl := reads_word.mp named
  obtain ⟨some, all⟩ := reads_several.mp blanks
  obtain ⟨c, more, rfl⟩ := List.exists_cons_of_ne_nil some
  rw [List.append_assoc]
  apply Text.leadingWord_append (List.all_eq_true.mp letters)
  rw [List.cons_append, List.head?_cons, Option.any_some, ← Bool.not_eq_true]
  intro goesOn
  have ink := isBlank_eq_false_of_isIdentRest goesOn
  rw [all c List.mem_cons_self] at ink
  cases ink

end Pattern

/-- A control statement starts with a control word. -/
theorem InlineControl.leadingWord_of_fits {text : List Char} (fits : controlKeyword.fits text) :
    Text.leadingWord text ∈ controlWords := by
  obtain ⟨_, rest, rfl, _, _, rfl, ⟨_, _, rfl, ⟨rfl, -⟩, chained | single⟩, edge⟩ :=
    Pattern.fits_iff_reads.mp fits
  · obtain ⟨_, _, rfl, first, -⟩ := chained
    have word := Pattern.leadingWord_of_reads_gap (by decide) first
    simp only [List.nil_append, List.append_assoc] at word ⊢
    rw [word]
    decide
  · have reads := Pattern.reads_append.mpr ⟨_, _, rfl, single, edge⟩
    obtain ⟨word, among⟩ := Pattern.leadingWord_of_reads_oneOf (by decide +kernel) reads
    rw [List.nil_append, word]
    exact among

/-- A type starts with its word, or with `typedef`. -/
theorem Member.leadingWord_of_typeStart {piece rest : List Char}
    (reads : typeStart.Reads none piece rest) :
    Text.leadingWord (Text.trimLeft (piece ++ rest)) ∈ typeWords := by
  obtain ⟨_, _, rfl, ⟨_, _, rfl, ⟨_, _, rfl, ⟨_, _, rfl, ⟨_, _, rfl, ⟨_, _, rfl, ⟨_, blanks, rfl,
    ⟨rfl, -⟩, all⟩, opened⟩, keyword⟩, edge⟩, -⟩, -⟩, -⟩ := reads
  have outside : ∀ {others : List Char}, Text.leadingWord others ∈ typeWords →
      Text.leadingWord (Text.trimLeft (blanks ++ others)) ∈ typeWords := by
    intro others among
    rwa [Text.leadingWord_trimLeft all]
    intro nothing
    rw [nothing] at among
    exact absurd among (by decide)
  rcases opened with typedef | rfl
  · have word := Pattern.leadingWord_of_reads_gap (by decide) typedef
    simp only [List.nil_append, List.append_assoc] at word ⊢
    apply outside
    rw [word]
    decide
  · simp only [List.nil_append, List.append_nil, List.getLast?_append, Option.or_none] at keyword edge
    have reads := Pattern.reads_append.mpr ⟨_, _, rfl, keyword, edge⟩
    obtain ⟨word, among⟩ := Pattern.leadingWord_of_reads_oneOf (by decide +kernel) reads
    simp only [List.nil_append, List.append_nil, List.append_assoc] at word among ⊢
    apply outside
    rw [word]
    exact List.mem_cons_of_mem _ among

/-- What a line that opens a type starts with. -/
theorem Member.leadingWord_of_fits {behind : Pattern} {text : List Char}
    (fits : (typeStart ++ behind).fits text) :
    Text.leadingWord (Text.trimLeft text) ∈ typeWords := by
  obtain ⟨_, rest, rfl, _, late, rfl, reads, -⟩ := Pattern.fits_iff_reads.mp fits
  rw [List.append_assoc]
  exact leadingWord_of_typeStart reads

/-! ## Rows -/

/-- The characters in which declarations of types are written. -/
def isDeclarationLetter (c : Char) : Bool :=
  Lexicon.isIdentRest c || [' ', ';', ',', '=', '{', '}'].contains c

/-- A text in which declarations of types are written. It holds no number: a word goes on before
every digit. -/
structure DeclarationText (text : List Char) : Prop where
  letters : ∀ c ∈ text, isDeclarationLetter c
  digits : ∀ before d rest, text = before ++ d :: rest → Text.isDecimal d →
    before.getLast?.any Text.isWord

/-- A row of a declaration: it is not blank, and starts with no control word. -/
structure DeclarationRow (raw : List Char) : Prop extends DeclarationText raw where
  inked : ∃ c ∈ raw, Text.isBlank c = false
  uncontrolled : Text.leadingWord (Text.trimLeft raw) ∉ controlWords

namespace DeclarationText

variable {text more : List Char}

theorem of_all (plain : text.all fun c => isDeclarationLetter c && !Text.isDecimal c) :
    DeclarationText text where
  letters := fun c member => ((Bool.and_eq_true ..).mp (List.all_eq_true.mp plain c member)).1
  digits := by
    rintro before d rest rfl digit
    have plainToo := List.all_eq_true.mp plain d (by simp)
    rw [digit, Bool.not_true, Bool.and_false] at plainToo
    cases plainToo

theorem append (first : DeclarationText text) (second : DeclarationText more) :
    DeclarationText (text ++ more) where
  letters := List.forall_mem_append.mpr ⟨first.letters, second.letters⟩
  digits := by
    intro before d rest split digit
    rcases List.append_eq_append_iff.mp split with ⟨others, rfl, later⟩ | ⟨others, rfl, later⟩
    · have inside := second.digits others d rest later digit
      rw [List.getLast?_append]
      cases last : others.getLast? with
      | none =>
        rw [last] at inside
        cases inside
      | some c =>
        rw [last] at inside
        exact inside
    · cases others with
      | nil =>
        have inside := second.digits [] d rest later.symm digit
        cases inside
      | cons c others =>
        obtain ⟨rfl, -⟩ := List.cons.inj later
        exact first.digits before d others rfl digit

theorem cons {c : Char} (plain : isDeclarationLetter c && !Text.isDecimal c)
    (behind : DeclarationText text) : DeclarationText (c :: text) := by
  have first : DeclarationText [c] := .of_all (by rw [List.all_cons, plain]; rfl)
  exact first.append behind

theorem flatMap {α : Type} {items : List α} {text : α → List Char}
    (all : ∀ item ∈ items, DeclarationText (text item)) : DeclarationText (items.flatMap text) := by
  induction items with
  | nil => exact .of_all rfl
  | cons item items inductionHypothesis =>
    obtain ⟨first, others⟩ := List.forall_mem_cons.mp all
    rw [List.flatMap_cons]
    exact first.append (inductionHypothesis others)

end DeclarationText

/-- The state of a scan in which nothing is open but frames and types. -/
def ScanState.inTypes (frames : List Nat) (nextIndent : Option Int) (types : List TypeScope) :
    ScanState :=
  { ScanState.initial with frames, nextIndent, types }

/-- A row that opens as many braces as it closes, apart from one that it starts with, opens and leaves
no frame. -/
theorem Indent.exists_followBraces_of_level {site : Site} {closes : Bool}
    (level : Text.excess '{' '}'
      (if closes then site.line.stripped.tail else site.line.stripped) = 0)
    (expected : Int) (frames : List Nat) (types : List TypeScope) :
    ∃ after, followBraces site expected closes (.inTypes frames none types) =
      .inTypes frames after types := by
  unfold followBraces
  simp only [level, Int.lt_irrefl, if_false]
  split
  · exact ⟨_, rfl⟩
  · exact ⟨_, rfl⟩

namespace DeclarationRow

variable {raw : List Char} (row : DeclarationRow raw)
include row

theorem not_mem {c : Char} (other : isDeclarationLetter c = false) : c ∉ raw := by
  intro member
  rw [row.letters c member] at other
  cases other

theorem ofRaw_eq : Line.ofRaw .code raw =
    { raw, masked := raw, code := raw, comments := [], before := .code, after := .code } := by
  exact (Line.allCode_of_markFree (Source.markFree_of_not_mem (row.not_mem (by decide))
    (row.not_mem (by decide)) (row.not_mem (by decide)))).unchanged

/-- A word goes on before every digit, so that no number starts there. -/
theorem numbers_eq_nil : Call.number.findAll raw = [] := by
  rw [List.eq_nil_iff_forall_not_mem]
  intro found member
  obtain ⟨before, piece, rest, split, -, _, _, rfl, ⟨_, _, rfl, ⟨rfl, clear⟩, digits⟩, -⟩ :=
    Pattern.exists_reads_of_mem_findAll member
  obtain ⟨some, all⟩ := Pattern.reads_several.mp digits
  obtain ⟨d, more, rfl⟩ := List.exists_cons_of_ne_nil some
  have inside := row.digits before d _ split (all d List.mem_cons_self)
  cases last : before.getLast? with
  | none =>
    rw [last] at inside
    cases inside
  | some c =>
    rw [last, Option.any_some] at inside
    rw [last] at clear
    have outside : (!(Text.isWord c || c == '.')) = true := clear
    rw [inside] at outside
    cases outside

theorem controlKeyword_eq_none :
    InlineControl.controlKeyword.matchStart? (Text.trimLeft raw) = none := by
  rw [← Option.not_isSome_iff_eq_none]
  exact fun fits => row.uncontrolled (InlineControl.leadingWord_of_fits fits)

theorem split?_eq_none : InlineControl.split? raw = none := by
  rw [InlineControl.split?, row.controlKeyword_eq_none]
  rfl

theorem isInline_eq_false : InlineControl.isInline raw = false := by
  rw [InlineControl.isInline_eq, row.split?_eq_none]

theorem chainsMoreThan_eq_false (count : Nat) :
    InlineControl.chainsMoreThan (count + 1) raw = false := by
  rw [InlineControl.chainsMoreThan, InlineControl.chained?, row.split?_eq_none]
  rfl

theorem isLabel_eq_false : CaseBlock.isLabel raw = false := by
  have colon : Spacing.caseLabel.Leaves isDeclarationLetter :=
    .inl (.inl (.inl (.inr (Pattern.leaves_char (by decide)))))
  have unfit : Spacing.caseLabel.fits raw = false := by
    rw [Pattern.fits, Pattern.matchStart?_eq_none_of_leaves colon row.letters]
    rfl
  rw [CaseBlock.isLabel, unfit, Bool.and_false]

theorem labelFindings?_eq_none : Scan.labelFindings? raw = none := by
  have colon : Spacing.gotoLabel.Leaves isDeclarationLetter :=
    .inl (.inl (.inr (Pattern.leaves_char (by decide))))
  rw [Scan.labelFindings?, Pattern.matchStart?_eq_none_of_leaves colon row.letters]
  rfl

theorem opens_eq_false : ParamBlock.opens raw = false := by
  have noParen : raw.contains '(' = false := by
    rw [← Bool.not_eq_true, List.contains_iff_mem]
    exact row.not_mem (by decide)
  rw [ParamBlock.opens, noParen]
  rfl

theorem noHash : (Text.trim raw).head? ≠ some '#' :=
  fun starts => row.not_mem (by decide) ((Text.isInfix_trim raw).subset (List.mem_of_head? starts))

/-! ### The scan of a row -/

section Scan

variable {site : Site} (written : site.line = .ofRaw .code raw) {frames : List Nat}
  {waiting : Option Int} {types : List TypeScope}
include written

theorem code_eq : site.line.code = raw := by
  rw [written, row.ofRaw_eq]

theorem stripped_eq : site.line.stripped = Text.trim raw := by
  rw [Line.stripped, row.code_eq written]

/-- The braces of a row are all that moves the frames. -/
theorem settled_eq :
    Indent.settled site (.inTypes frames waiting types) =
      Indent.followBraces site (Indent.expectedAt site.line (.inTypes frames waiting types))
        ((Text.trim raw).head? == some '}')
        (.inTypes (if (Text.trim raw).head? == some '}' then frames.tail else frames) none types) := by
  unfold Indent.settled Indent.labelled Indent.outside
  rw [row.code_eq written, row.isInline_eq_false, row.opens_eq_false, row.isLabel_eq_false,
    row.stripped_eq written]
  simp only [Bool.false_eq_true, if_false]
  split <;> rfl

/-- A row that opens a brace more than it closes gets a frame. -/
theorem exists_settled_of_opens (opens : Text.excess '{' '}' raw = 1)
    (starts : (Text.trim raw).head? ≠ some '}') :
    ∃ indent, Indent.settled site (.inTypes frames waiting types) =
      .inTypes (indent :: frames) none types := by
  have other : ((Text.trim raw).head? == some '}') = false := beq_eq_false_iff_ne.mpr starts
  have net : 0 < Text.excess '{' '}' (Text.trim raw) := by
    rw [Text.excess_trim raw rfl rfl, opens]
    decide
  rw [row.settled_eq written, other]
  unfold Indent.followBraces
  simp only [row.stripped_eq written, Bool.false_eq_true, if_false, if_pos net]
  exact ⟨_, rfl⟩

/-- A row that closes what it opens stays in its frame. -/
theorem exists_settled_of_level (level : Text.excess '{' '}' raw = 0)
    (starts : (Text.trim raw).head? ≠ some '}') :
    ∃ after, Indent.settled site (.inTypes frames waiting types) =
      .inTypes frames after types := by
  have other : ((Text.trim raw).head? == some '}') = false := beq_eq_false_iff_ne.mpr starts
  rw [row.settled_eq written, other]
  refine Indent.exists_followBraces_of_level ?_ _ frames types
  rw [row.stripped_eq written]
  exact (Text.excess_trim raw rfl rfl).trans level

/-- A row that only closes the frame that it stands in leaves that frame. -/
theorem exists_settled_of_closes (level : Text.excess '{' '}' raw = -1)
    (starts : (Text.trim raw).head? = some '}') :
    ∃ after, Indent.settled site (.inTypes frames waiting types) =
      .inTypes frames.tail after types := by
  have same : ((Text.trim raw).head? == some '}') = true := beq_iff_eq.mpr starts
  rw [row.settled_eq written, same]
  refine Indent.exists_followBraces_of_level ?_ _ frames.tail types
  obtain ⟨rest, split⟩ := List.head?_eq_some_iff.mp starts
  rw [← Text.excess_trim raw rfl rfl, split, ← List.singleton_append, Text.excess_append] at level
  have brace : Text.excess '{' '}' ['}'] = -1 := rfl
  rw [row.stripped_eq written, split]
  show Text.excess '{' '}' rest = 0
  omega

variable (style : Style) (limit : Int)

/-- The kinds of what a scan says about a row before it reads types. -/
theorem exists_layout :
    ∃ layout, Indent.step (Settings.of style limit).chainLimit site site.previousCode
        (.inTypes frames waiting types) = .ok layout ∧
      layout.state = Indent.settled site (.inTypes frames waiting types) ∧
      layout.opened = false ∧
      Declared (.indentationMismatch :: (CaseBlock.kinds ++ ParamBlock.kinds)) layout.findings := by
  have short : ¬ (Settings.of style limit).chainLimit.any fun count =>
      InlineControl.chainsMoreThan count site.line.code := by
    rw [row.code_eq written]
    show ¬ InlineControl.chainsMoreThan (986 + 1) raw
    rw [row.chainsMoreThan_eq_false]
    decide
  obtain ⟨layout, -, passes, -⟩ :=
    Scan.indentStep_answers short site.previousCode (.inTypes frames waiting types)
  obtain ⟨state, opened⟩ := Indent.state_of_step passes
  rw [row.code_eq written, row.opens_eq_false, Bool.and_false] at opened
  exact ⟨layout, passes, state, opened, Scan.declared_indentStep passes⟩

theorem contentDiagnostics_answers (state : ScanState) :
    ∃ diagnostics, Scan.contentDiagnostics (.of style limit) site state = .ok diagnostics ∧
      Reported (Rule.kindsOf .content) diagnostics := by
  have none : Rule.fault? .content (site.view (.of style limit) state) = none := by
    have noNumbers : Call.numbers (site.view (.of style limit) state) = [] := by
      rw [Call.numbers, View.masked, show (site.view _ state).line = site.line from rfl, written,
        row.ofRaw_eq, row.numbers_eq_nil]
      rfl
    rw [Rule.fault?, Call.longNumber?, noNumbers, List.find?_nil, ite_self]
    rfl
  obtain ⟨findings, ruled, declared⟩ := Rule.runPhase_answers none
  obtain ⟨diagnostics, given, reported⟩ := Scan.report_answers declared site
  unfold Scan.contentDiagnostics
  split
  · exact ⟨[], rfl, Reported.nil⟩
  · rw [ruled, Answer.ok_bind]
    exact ⟨diagnostics, given, reported⟩

variable {next after : ScanState} {closed : Option (List Diagnostic)}
  (typed : TypeScope.step site.index raw next = .ok (closed, after))
include typed

theorem exists_settledStatement :
    ∃ diagnostics, Scan.settledStatement (.of style limit) site next = .ok (diagnostics, after) ∧
      Diagnostic.namings diagnostics =
        TypeScope.namings (.of style limit) site (closed, after) := by
  unfold Scan.settledStatement
  simp only [row.code_eq written, row.isInline_eq_false, typed, Answer.ok_bind,
    Bool.false_eq_true, if_false]
  cases closed with
  | some given => exact ⟨given, rfl, rfl⟩
  | none =>
    obtain ⟨findings, ruled, declared⟩ := Rule.runPhase_answers
      (show Rule.fault? .statement (site.view (.of style limit) after) = none from rfl)
    obtain ⟨diagnostics, given, -⟩ := Scan.report_answers declared site
    refine ⟨diagnostics, by simp only [ruled, given, Answer.ok_bind]; rfl, ?_⟩
    rw [Diagnostic.namings_of_onLines given, Rule.namings_statement ruled]
    rfl

variable (settles : Indent.settled site (.inTypes frames waiting types) = next)
include settles

theorem exists_codeLine :
    ∃ diagnostics, Scan.codeLine (.of style limit) site (.inTypes frames waiting types) =
        .ok (diagnostics, after) ∧
      Diagnostic.namings diagnostics =
        TypeScope.namings (.of style limit) site (closed, after) := by
  obtain ⟨layout, passes, state, opened, declared⟩ :=
    @exists_layout raw row site written frames waiting types style limit
  obtain ⟨first, given, reported⟩ := Scan.report_answers declared site
  obtain ⟨others, statement, said⟩ := row.exists_settledStatement written style limit typed
  have directive : (site.line.stripped.head? == some '#') = false := by
    rw [row.stripped_eq written, beq_eq_false_iff_ne]
    exact row.noHash
  refine ⟨first ++ others, ?_, ?_⟩
  · unfold Scan.codeLine
    show (if (site.line.stripped.head? == some '#' || false) = true then _ else _) = _
    rw [directive, if_neg (by decide), row.code_eq written, row.labelFindings?_eq_none]
    show Scan.statementLine (.of style limit) site (.inTypes frames waiting types) = _
    unfold Scan.statementLine
    rw [show (site.view (.of style limit) (.inTypes frames waiting types)).previousCode =
      site.previousCode from rfl]
    simp only [passes, given, opened, state, settles, statement, Answer.ok_bind,
      Bool.false_eq_true, if_false]
    rfl
  · rw [Diagnostic.namings_append, Diagnostic.namings_of_reported reported (by decide), said]
    rfl

/-- What a scan says about names on a row comes from its reading of types, and from the rule on
members where that has nothing to say. -/
theorem exists_step (writable : (Settings.of style limit).Writable) :
    ∃ diagnostics, Scan.step (.of style limit) site (.inTypes frames waiting types) =
        .ok (diagnostics, { CaseBlock.closeFinished site.index after with comment := .code }) ∧
      Diagnostic.namings diagnostics =
        TypeScope.namings (.of style limit) site (closed, after) := by
  obtain ⟨c, member, ink⟩ := row.inked
  have inked : site.line.isBlank = false := by
    rw [written, row.ofRaw_eq, Line.isBlank, Text.isBlankText, List.all_eq_false]
    exact ⟨c, member, by rw [ink]; decide⟩
  have shown : c ≠ maskCharacter := by
    rintro rfl
    exact row.not_mem (by decide) member
  have coded : site.line.hasCode := by
    rw [Line.hasCode, row.code_eq written, List.any_eq_true]
    exact ⟨c, member, by simp [ink, shown]⟩
  have kept : site.line.isSkipped = false := by
    rw [Line.isSkipped, coded, Bool.not_true, Bool.and_false]
  obtain ⟨findings, ruled, declared⟩ := Rule.runPhase_answers (show Rule.fault? .raw
    (site.view (.of style limit) (.inTypes frames waiting types)) = none from if_pos writable)
  obtain ⟨raws, given, reported⟩ := Scan.report_answers declared site
  obtain ⟨content, contents, reportedContent⟩ :=
    row.contentDiagnostics_answers written style limit (.inTypes frames waiting types)
  obtain ⟨others, codes, said⟩ := row.exists_codeLine written style limit typed settles
  refine ⟨raws ++ content ++ others, ?_, ?_⟩
  · have blanks : Scan.endBlankRun site (.inTypes frames waiting types) =
        .ok ([], .inTypes frames waiting types) := rfl
    have comment : site.line.after = .code := by rw [written, row.ofRaw_eq]
    rw [Scan.step, Scan.line, if_neg (by rw [inked]; decide), Scan.inkedLine, blanks]
    simp only [Answer.ok_bind, ruled, given, kept, contents, codes, comment, Bool.false_eq_true,
      if_false]
    rfl
  · rw [Diagnostic.namings_append, Diagnostic.namings_append,
      Diagnostic.namings_of_reported reported (by decide),
      Diagnostic.namings_of_reported reportedContent (by decide), said]
    rfl

end Scan

end DeclarationRow

/-! ## Rows of types -/

namespace TypeScope

/-- The rule on members has nothing to say where a type starts. -/
theorem namings_of_braceStart {site : Site} (fits : Member.braceStart.fits site.line.code)
    (settings : Settings) (state : ScanState) : namings settings site (none, state) = [] := by
  show Finding.namings (Member.typeMembers (site.view settings state)) = []
  unfold Member.typeMembers
  split
  · rfl
  · rw [if_pos]
    · rfl
    · rw [View.code, show (site.view settings state).line = site.line from rfl, fits, Bool.or_true]

section Apart

variable {raw : List Char} (apart : Text.leadingWord (Text.trimLeft raw) ∉ typeWords)
include apart

/-- What does not start with the word of a type starts no type. -/
theorem typeStart_eq_none (behind : Pattern) :
    (Member.typeStart ++ behind).matchStart? raw = none :=
  Option.not_isSome_iff_eq_none.mp fun fits => apart (Member.leadingWord_of_fits fits)

/-- A row that does not start like a type is read for the brace that closes one. -/
theorem step_of_apart (index : Nat) (frames : List Nat) (waiting : Option Int)
    (types : List TypeScope) :
    step index raw (.inTypes frames waiting types) =
      closeInnermost index raw (.inTypes frames waiting types) := by
  show openOrClose index raw _ = _
  unfold openOrClose
  rw [Member.bareStart, Member.braceStart, typeStart_eq_none apart, typeStart_eq_none apart]
  rfl

/-- On such a row the rule on members says what it finds. -/
theorem namings_of_apart (settings : Settings) {site : Site} (code : site.line.code = raw)
    (frames : List Nat) (waiting : Option Int) (scope : TypeScope) (types : List TypeScope) :
    namings settings site (none, .inTypes frames waiting (scope :: types)) =
      Finding.namings (Member.findings scope.head.kind raw) := by
  show Finding.namings (if Member.bareStart.fits site.line.code || Member.braceStart.fits
    site.line.code then [] else Member.findings scope.head.kind site.line.code) = _
  rw [code, Pattern.fits, Pattern.fits, Member.bareStart, Member.braceStart,
    typeStart_eq_none apart, typeStart_eq_none apart]
  rfl

end Apart

end TypeScope

/-! ## Runs over rows -/

/-- Rows of declarations leave no comment open. -/
theorem Line.ofRaws_of_rows {raws : List (List Char)} (rows : ∀ raw ∈ raws, DeclarationRow raw) :
    ofRaws raws = raws.map (ofRaw .code) := by
  unfold ofRaws
  induction raws with
  | nil => rfl
  | cons raw raws inductionHypothesis =>
    obtain ⟨row, others⟩ := List.forall_mem_cons.mp rows
    have after : (ofRaw .code raw).after = .code := by rw [row.ofRaw_eq]
    rw [ofRawsFrom, List.map_cons, ← inductionHypothesis others]
    simp only [after]

/-- What a scan says about names on consecutive lines. -/
def Scan.Remarks (settings : Settings) (index : Nat) (before : List Line) (state : ScanState)
    (lines : List Line) (said : List (String × String)) : Prop :=
  ∃ records, recordsFrom settings index before state lines = .ok records ∧
    Diagnostic.namings (records.flatMap Record.diagnostics) = said

namespace Scan.Remarks

variable {settings : Settings} {index : Nat} {before lines : List Line} {line : Line}
  {state after : ScanState} {diagnostics : List Diagnostic} {said first : List (String × String)}

theorem nil : Remarks settings index before state [] [] :=
  ⟨[], rfl, rfl⟩

theorem cons (steps : step settings ⟨index, before, line, lines⟩ state = .ok (diagnostics, after))
    (names : Diagnostic.namings diagnostics = first)
    (later : Remarks settings (index + 1) (line :: before) after lines said) :
    Remarks settings index before state (line :: lines) (first ++ said) := by
  obtain ⟨records, given, same⟩ := later
  refine ⟨⟨index, diagnostics, after⟩ :: records, ?_, ?_⟩
  · simp only [recordsFrom, steps, given, Answer.ok_bind]
    rfl
  · rw [List.flatMap_cons, Diagnostic.namings_append, same, names]

theorem diagnostics_of_initial (remarks : Remarks settings 0 [] .initial lines said) :
    ∃ diagnostics, Scan.diagnostics settings lines = .ok diagnostics ∧
      Diagnostic.namings diagnostics = said := by
  obtain ⟨records, given, same⟩ := remarks
  exact ⟨_, by rw [Scan.diagnostics, Scan.records, given]; rfl, same⟩

end Scan.Remarks

end HouseStyle
