import HouseStyle.Proofs.Diagnostic
import HouseStyle.Rule.View

/-!
Contract: what a message quotes.

Owns: the kinds of complaints that quote a name, a number or an operator, and reading the quoted text
off the message.
Does not own: where the quoted text stands.

The messages of most of these kinds are put together of a fixed text that ends in a quote, the
quoted text, and a fixed text that starts with a quote. In front of them the word of a type may
stand. Complaints about allocations name the function between spaces, without quotes.

Main statement: `quoted_of_format`.
-/

namespace HouseStyle

namespace Text

variable {separator : Char} {first second : List Char}

theorem splitOn_append_cons (clean : separator ∉ first) (rest : List Char) :
    (first ++ separator :: rest).splitOn separator = first :: rest.splitOn separator := by
  have apart : ∀ c ∈ first, (c == separator) = false := by
    intro c member
    rw [beq_eq_false_iff_ne]
    rintro rfl
    exact clean member
  rw [List.splitOn_eq_splitOnP, List.splitOn_eq_splitOnP]
  exact List.splitOnP_append_cons_of_forall_mem apart separator (beq_self_eq_true separator) rest

/-- Between the first two separators of a text stands what is written between them. -/
theorem getD_splitOn_one (clean : separator ∉ first) (cleanToo : separator ∉ second)
    (rest : List Char) :
    ((first ++ separator :: (second ++ separator :: rest)).splitOn separator).getD 1 [] = second := by
  rw [splitOn_append_cons clean, splitOn_append_cons cleanToo]
  rfl

end Text

namespace Kind

/-- The kinds of complaints that quote a name, a number or an operator. -/
def naming : List Kind :=
  [.macroNameNotScreaming, .macroParamNotSnake, .macroBodyIdentNotSnake,
    .functionNameNotModuleCamel, .paramNameNotSnake, .labelNotSnake, .magicNumber,
    .insecureFunction, .allocNotCast, .operatorSpaceBefore, .operatorSpaceAfter, .instanceNotSnake,
    .instanceEndsWithT, .typedefTypeName, .typedefFuncPtrName, .typedefAliasName, .typeTagNotCamel,
    .enumElementNotScreaming, .fieldNameNotSnake, .uninitializedDeclaration, .variableEndsWithT,
    .variableNotSnake]

/-- What a message of the kind quotes: the text between its first two quotes, or in a complaint about
an allocation the third word. -/
def quoted (kind : Kind) (message : String) : List Char :=
  if kind = .allocNotCast then (message.toList.splitOn ' ').getD 2 []
  else (message.toList.splitOn '\'').getD 1 []

/-- The arguments of a complaint of the kind that quotes a text. -/
def Names (kind : Kind) (name : List Char) (arguments : List Argument) : Prop :=
  if kind.startsWithWord then
    ∃ type : TypeKind, arguments = [.word type.word, .word (String.ofList name)]
  else arguments.head? = some (.word (String.ofList name))

end Kind

namespace Template

variable {content message : String} {pieces : Template} {arguments : List Argument}

theorem exists_of_fill_text (filled : fill (.text content :: pieces) arguments = .ok message) :
    ∃ rest, fill pieces arguments = .ok rest ∧ message = content ++ rest := by
  rw [fill] at filled
  obtain ⟨rest, given, written⟩ := Answer.bind_eq_ok.mp filled
  cases written
  exact ⟨rest, given, rfl⟩

theorem exists_of_fill_word
    (filled : fill (.word :: pieces) (.word content :: arguments) = .ok message) :
    ∃ rest, fill pieces arguments = .ok rest ∧ message = content ++ rest := by
  obtain ⟨rest, given, written⟩ : ∃ rest, fill pieces arguments = .ok rest ∧
      Except.ok (content ++ rest) = (.ok message : Except Fault String) :=
    Answer.bind_eq_ok.mp filled
  exact ⟨rest, given, (Except.ok.inj written).symm⟩

/-- A template whose first argument stands between quotes, the first ones of its messages. -/
def Quotes (template : Template) : Prop :=
  ∃ (before after : String) (opening closing : List Char) (pieces : Template),
    template = .text before :: .word :: .text after :: pieces ∧
      before.toList = opening ++ ['\''] ∧ '\'' ∉ opening ∧ after.toList = '\'' :: closing

/-- The message of such a template, behind the word of a type or nothing. -/
theorem Quotes.getD_splitOn {template : Template} (quotes : template.Quotes)
    {name : List Char} {word : String}
    (filled : template.fill (.word (String.ofList name) :: arguments) = .ok message)
    (clean : '\'' ∉ word.toList) (unquoted : '\'' ∉ name) :
    ((word ++ message).toList.splitOn '\'').getD 1 [] = name := by
  obtain ⟨before, after, opening, closing, pieces, rfl, opens, cleanToo, closes⟩ := quotes
  obtain ⟨named, later, rfl⟩ := exists_of_fill_text filled
  obtain ⟨ended, last, rfl⟩ := exists_of_fill_word later
  obtain ⟨rest, -, rfl⟩ := exists_of_fill_text last
  have whole : (word ++ (before ++ (String.ofList name ++ (after ++ rest)))).toList =
      (word.toList ++ opening) ++ '\'' :: (name ++ '\'' :: (closing ++ rest.toList)) := by
    simp [String.toList_append, opens, closes]
  rw [whole]
  apply Text.getD_splitOn_one _ unquoted
  rw [List.mem_append]
  exact not_or.mpr ⟨clean, cleanToo⟩

/-- Fixed texts that end and start with a quote make such a template. -/
theorem quotes_of_letters {letters closing : List Char} (pieces : Template)
    (ends : letters.getLast? = some '\'') (clean : '\'' ∉ letters.dropLast) :
    Quotes (.text (String.ofList letters) :: .word :: .text (String.ofList ('\'' :: closing)) ::
      pieces) := by
  refine ⟨_, _, letters.dropLast, closing, pieces, rfl, ?_, clean, String.toList_ofList⟩
  rw [String.toList_ofList]
  exact (List.dropLast_append_getLast? _ ends).symm

end Template

namespace Kind

variable {kind : Kind}

/-- The templates of the kinds that quote a text, some of them behind the word of a type. -/
theorem exists_quotes_of_naming (naming : kind ∈ naming) (other : kind ≠ .allocNotCast) :
    ∃ pieces : Template, (kind.startsWithWord = true ∧ kind.template = .word :: pieces ∨
      kind.startsWithWord = false ∧ kind.template = pieces) ∧ pieces.Quotes := by
  cases kind
  case allocNotCast => exact absurd rfl other
  case instanceNotSnake | instanceEndsWithT | typedefTypeName | typeTagNotCamel |
      fieldNameNotSnake =>
    exact ⟨_, .inl ⟨rfl, rfl⟩, Template.quotes_of_letters _ rfl (by decide)⟩
  case macroNameNotScreaming | macroParamNotSnake | macroBodyIdentNotSnake |
      functionNameNotModuleCamel | paramNameNotSnake | labelNotSnake | magicNumber |
      insecureFunction | operatorSpaceBefore | operatorSpaceAfter | typedefFuncPtrName |
      typedefAliasName | enumElementNotScreaming | uninitializedDeclaration | variableEndsWithT |
      variableNotSnake =>
    exact ⟨_, .inr ⟨rfl, rfl⟩, Template.quotes_of_letters _ rfl (by decide)⟩
  all_goals exact absurd naming (by decide)

theorem quote_not_mem_word (type : TypeKind) : '\'' ∉ type.word.toList := by
  cases type <;> decide +kernel

/-- The third word of a complaint about an allocation is the name of the function. -/
theorem quoted_of_allocation {name : List Char} {others : List Argument} {message : String}
    (formatted : Kind.allocNotCast.template.format (.word (String.ofList name) :: others) =
      .ok message) (solid : ' ' ∉ name) : Kind.allocNotCast.quoted message = name := by
  obtain ⟨named, later, rfl⟩ := Template.exists_of_fill_text formatted
  obtain ⟨ended, last, rfl⟩ := Template.exists_of_fill_word later
  obtain ⟨rest, -, rfl⟩ := Template.exists_of_fill_text last
  have whole : ("allocation via " ++ (String.ofList name ++
      (" must be cast to the target pointer type" ++ rest))).toList =
      "allocation".toList ++ ' ' :: ("via".toList ++ ' ' :: (name ++ ' ' ::
        ("must be cast to the target pointer type".toList ++ rest.toList))) := by
    simp
  rw [quoted, if_pos rfl, whole, Text.splitOn_append_cons (by decide +kernel), List.getD_cons_succ]
  exact Text.getD_splitOn_one (by decide +kernel) solid _

/-- What a message quotes is the text that its complaint names. -/
theorem quoted_of_format (naming : kind ∈ naming) {arguments : List Argument} {message : String}
    (formatted : kind.template.format arguments = .ok message) {name : List Char}
    (names : kind.Names name arguments) (unquoted : '\'' ∉ name)
    (solid : kind = .allocNotCast → ' ' ∉ name) : kind.quoted message = name := by
  by_cases allocation : kind = .allocNotCast
  · subst allocation
    obtain ⟨others, rfl⟩ := List.head?_eq_some_iff.mp names
    exact quoted_of_allocation formatted (solid rfl)
  · rw [quoted, if_neg allocation]
    unfold Names at names
    obtain ⟨pieces, ⟨worded, template⟩ | ⟨plain, template⟩, quotes⟩ :=
      exists_quotes_of_naming naming allocation
    · rw [if_pos worded] at names
      obtain ⟨type, rfl⟩ := names
      rw [template] at formatted
      obtain ⟨rest, filled, rfl⟩ := Template.exists_of_fill_word formatted
      exact quotes.getD_splitOn filled (quote_not_mem_word type) unquoted
    · rw [if_neg (by simp [plain])] at names
      obtain ⟨others, rfl⟩ := List.head?_eq_some_iff.mp names
      rw [template] at formatted
      rw [← String.empty_append (s := message)]
      exact quotes.getD_splitOn formatted List.not_mem_nil unquoted

end Kind

end HouseStyle
