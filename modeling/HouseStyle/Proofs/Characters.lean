import HouseStyle.Proofs.Diagnostic

/-!
Contract: complaints about single characters, and all others.

Owns: the two kinds that are about characters as they are written, and the proof that their messages
are those of no other kind.
Does not own: who finds them.

Both messages start like no other, but for messages that start with the word of a type. Those end in
a quote or the letter e, which neither the text about white space nor a hexadecimal number does.

Main statement: `besides_dedupe`.
-/

namespace HouseStyle

/-- The kinds about characters as they are written. -/
def Kind.readsCharacters : Kind → Bool
  | .nonAsciiCharacter | .trailingWhitespace => true
  | _ => false

namespace Diagnostic

def readsCharacters (diagnostic : Diagnostic) : Bool :=
  diagnostic.kind == Kind.nonAsciiCharacter.name || diagnostic.kind == Kind.trailingWhitespace.name

/-- The diagnostics that are not about single characters. -/
def besides (diagnostics : List Diagnostic) : List Diagnostic :=
  diagnostics.filter fun diagnostic => !diagnostic.readsCharacters

theorem besides_append (diagnostics more : List Diagnostic) :
    besides (diagnostics ++ more) = besides diagnostics ++ besides more :=
  List.filter_append ..

theorem decides_readsCharacters : Kind.Decides (fun kind => !kind.readsCharacters)
    fun diagnostic => !diagnostic.readsCharacters := by
  intro diagnostic kind isOf
  refine congrArg not ?_
  rw [readsCharacters, isOf.1]
  cases kind <;> decide

end Diagnostic

/-! ## Messages -/

theorem getLast?_toDigits (value : Nat) :
    (Nat.toDigits 16 value).getLast? = some (Nat.digitChar (value % 16)) := by
  rw [Nat.toDigits_eq_if (by decide)]
  split
  next small => rw [Nat.mod_eq_of_lt small, List.getLast?_singleton]
  next => rw [List.getLast?_append, List.getLast?_singleton, Option.some_or]

/-- No digit of a hexadecimal number ends a message about a type. -/
theorem toUpper_digitChar : ∀ digit < 16,
    (Nat.digitChar digit).toUpper ≠ 'e' ∧ (Nat.digitChar digit).toUpper ≠ '\'' := by
  decide

theorem getLast?_hexUpper (value : Int) :
    (hexUpper value).toList.getLast? = some (Nat.digitChar (value.natAbs % 16)).toUpper := by
  have digits : ((Nat.toDigits 16 value.natAbs).map Char.toUpper).getLast? =
      some (Nat.digitChar (value.natAbs % 16)).toUpper := by
    rw [List.getLast?_map, getLast?_toDigits]
    rfl
  unfold hexUpper
  split
  · rw [String.toList_append, String.toList_ofList, String.toList_ofList, List.getLast?_append,
      digits, Option.some_or]
  · rw [String.toList_ofList, digits]

namespace Kind

/-- A text that starts neither like the complaint about white space nor like the one about a
character beyond ASCII. -/
inductive StartsOtherwise : List Char → Prop where
  | letter {c : Char} {rest : List Char} (noU : c ≠ 'u') (noW : c ≠ 'w') :
    StartsOtherwise (c :: rest)
  | use {rest : List Char} : StartsOtherwise ('u' :: 's' :: rest)

/-- A text that ends like neither of the two. -/
def EndsOtherwise (text : List Char) : Prop :=
  ['\''] <:+ text ∨ ['s', 'e'] <:+ text

/-- Every other kind is told apart by the start of its messages, or by their end where they start
with the word of a type. -/
theorem starts_or_ends_otherwise {kind : Kind} (otherwise : kind.readsCharacters = false) :
    StartsOtherwise kind.template.opening ∨ EndsOtherwise kind.template.ending := by
  have letter : ∀ c rest, c ≠ 'u' → c ≠ 'w' → StartsOtherwise (String.ofList (c :: rest)).toList := by
    intro c rest noU noW
    rw [String.toList_ofList]
    exact .letter noU noW
  have quote : ∀ text, ['\''] <:+ text → EndsOtherwise (String.ofList text).toList := by
    intro text ends
    rw [String.toList_ofList]
    exact .inl ends
  have case : ∀ text, ['s', 'e'] <:+ text → EndsOtherwise (String.ofList text).toList := by
    intro text ends
    rw [String.toList_ofList]
    exact .inr ends
  have use : ∀ rest, StartsOtherwise (String.ofList ('u' :: 's' :: rest)).toList := by
    intro rest
    rw [String.toList_ofList]
    exact .use
  cases kind
  case nonAsciiCharacter | trailingWhitespace => cases otherwise
  case insecureFunction => exact .inl (use _)
  case instanceNotSnake | typeTagNotCamel | fieldNameNotSnake => exact .inr (case _ (by decide))
  case instanceEndsWithT | typedefTypeName | typedefNameMissing =>
    exact .inr (quote _ (by decide))
  all_goals exact .inl (letter _ _ (by decide) (by decide))

end Kind

/-- The last character of a message about a character beyond ASCII: a digit, or the place of one. -/
theorem getLast?_of_nonAscii {arguments : List Argument} {message : String}
    (formatted : Kind.nonAsciiCharacter.template.format arguments = .ok message) :
    ∃ c, message.toList.getLast? = some c ∧ c ≠ 'e' ∧ c ≠ '\'' := by
  cases arguments with
  | nil =>
    cases formatted
    exact ⟨'X', by decide +kernel, by decide, by decide⟩
  | cons argument arguments =>
    cases argument with
    | word content => cases formatted
    | number quantity =>
      cases arguments with
      | cons => cases formatted
      | nil =>
        have written : message = "unexpected non-ASCII character: 0x" ++
            (hexUpper quantity.value ++ "") := by
          cases formatted
          rfl
        refine ⟨_, ?_, toUpper_digitChar _ (Nat.mod_lt quantity.value.natAbs (by decide))⟩
        rw [written, String.append_empty, String.toList_append, List.getLast?_append,
          getLast?_hexUpper, Option.some_or]

theorem Kind.EndsOtherwise.getLast? {text : List Char} (ends : EndsOtherwise text) :
    text.getLast? = some 'e' ∨ text.getLast? = some '\'' := by
  rcases ends with ⟨before, rfl⟩ | ⟨before, rfl⟩
  · exact .inr (by rw [List.getLast?_append]; rfl)
  · exact .inl (by rw [List.getLast?_append]; rfl)

/-- A message about single characters starts and ends like no other. -/
theorem message_of_reads {kind : Kind} (reads : kind.readsCharacters) {arguments : List Argument}
    {message : String} (formatted : kind.template.format arguments = .ok message) :
    (∀ text, Kind.StartsOtherwise text → ¬ text <+: message.toList) ∧
      ¬ Kind.EndsOtherwise message.toList := by
  obtain ⟨after, starts⟩ := Template.isPrefix_of_format formatted
  have ends := Template.isSuffix_of_format formatted
  cases kind with
  | trailingWhitespace =>
    rw [show Kind.trailingWhitespace.template.opening = 'w' :: _ from String.toList_ofList] at starts
    have last : ['n', 'e'] <:+ Kind.trailingWhitespace.template.ending := by
      rw [show Kind.trailingWhitespace.template.ending = _ from String.toList_ofList]
      decide
    obtain ⟨before, whole⟩ := last.trans ends
    refine ⟨?_, ?_⟩
    · rintro text otherwise ⟨rest, startsToo⟩
      rw [← starts] at startsToo
      cases otherwise with
      | letter noU noW => exact noW (List.cons.inj startsToo).1
      | use => cases (List.cons.inj startsToo).1
    · rintro (⟨front, wholeToo⟩ | ⟨front, wholeToo⟩)
      · have letter := congrArg List.getLast? (wholeToo.trans whole.symm)
        rw [List.getLast?_append, List.getLast?_append] at letter
        cases letter
      · cases (List.append_inj' (wholeToo.trans whole.symm) rfl).2
  | nonAsciiCharacter =>
    rw [show Kind.nonAsciiCharacter.template.opening = 'u' :: 'n' :: _ from
      String.toList_ofList] at starts
    obtain ⟨c, last, noLetter, noQuote⟩ := getLast?_of_nonAscii formatted
    refine ⟨?_, ?_⟩
    · rintro text otherwise ⟨rest, startsToo⟩
      rw [← starts] at startsToo
      cases otherwise with
      | letter noU noW => exact noU (List.cons.inj startsToo).1
      | use => cases (List.cons.inj (List.cons.inj startsToo).2).1
    · intro otherwise
      rcases otherwise.getLast? with letter | quote
      · rw [letter] at last
        exact noLetter (Option.some.inj last).symm
      · rw [quote] at last
        exact noQuote (Option.some.inj last).symm
  | _ => cases reads

/-- Messages about single characters are those of no other kind. -/
theorem message_ne {kind other : Kind} (reads : kind.readsCharacters)
    (otherwise : other.readsCharacters = false) {arguments others : List Argument}
    {message : String} (formatted : kind.template.format arguments = .ok message) :
    other.template.format others ≠ .ok message := by
  intro formattedToo
  obtain ⟨noStart, noEnd⟩ := message_of_reads reads formatted
  have ends := Template.isSuffix_of_format formattedToo
  rcases Kind.starts_or_ends_otherwise otherwise with opening | quote | case
  · exact noStart _ opening (Template.isPrefix_of_format formattedToo)
  · exact noEnd (.inl (quote.trans ends))
  · exact noEnd (.inr (case.trans ends))

namespace Diagnostic

/-- Diagnostics about single characters may be dropped before or after the duplicates. -/
theorem besides_dedupe {kinds : List Kind} {diagnostics : List Diagnostic}
    (reported : Reported kinds diagnostics) :
    besides (dedupe diagnostics) = dedupe (besides diagnostics) := by
  refine filter_dedupe_of_decides decides_readsCharacters reported ?_
  intro diagnostic _ kind other isOf drops keeps others
  obtain ⟨-, arguments, formatted⟩ := isOf
  exact message_ne ((Bool.not_eq_false' _).mp drops) ((Bool.not_eq_true' _).mp keeps) formatted

end Diagnostic

end HouseStyle
