import HouseStyle.Rule.View
import Mathlib.Data.List.TakeWhile

/-!
Contract: the characters of names, trimmed texts, searches that succeed, squeezed texts, and the
balance of two characters.

Owns: which characters names have, where a trimmed text lies in the text, when a word is found in it,
what is left of it when its words are joined by single spaces, and the balance of a text that is put
together of others.
Does not own: positions of matches, which `Proofs.Pattern` treats.
-/

namespace HouseStyle

/-- The characters of names are the ASCII letters and digits and the underscore. -/
theorem toNat_of_isIdentRest {c : Char} (rest : Lexicon.isIdentRest c) :
    (48 ≤ c.toNat ∧ c.toNat ≤ 57) ∨ (65 ≤ c.toNat ∧ c.toNat ≤ 90) ∨ c.toNat = 95 ∨
      (97 ≤ c.toNat ∧ c.toNat ≤ 122) := by
  have ranges : (((decide (c.val ≥ 'A'.val ∧ c.val ≤ 'Z'.val)) ||
      (decide (c.val ≥ 'a'.val) && decide (c.val ≤ 'z'.val))) ||
      (decide (c.val ≥ '0'.val) && decide (c.val ≤ '9'.val)) || c == '_') = true := rest
  simp only [Bool.or_eq_true, Bool.and_eq_true, decide_eq_true_eq, UInt32.le_iff_toNat_le,
    ge_iff_le, beq_iff_eq] at ranges
  have letter : (((65 ≤ c.toNat ∧ c.toNat ≤ 90) ∨ (97 ≤ c.toNat ∧ c.toNat ≤ 122)) ∨
    (48 ≤ c.toNat ∧ c.toNat ≤ 57)) ∨ c = '_' := ranges
  rcases letter with ((upper | lower) | digit) | rfl
  · exact .inr (.inl upper)
  · exact .inr (.inr (.inr lower))
  · exact .inl digit
  · exact .inr (.inr (.inl rfl))

theorem isBlank_eq_false_of_isIdentRest {c : Char} (rest : Lexicon.isIdentRest c) :
    Text.isBlank c = false := by
  have code := toNat_of_isIdentRest rest
  rw [← Bool.not_eq_true]
  intro blank
  simp only [Text.isBlank, Bool.or_eq_true, Bool.and_eq_true, decide_eq_true_eq,
    beq_iff_eq] at blank
  omega

theorem isWord_of_isIdentRest {c : Char} (rest : Lexicon.isIdentRest c) : Text.isWord c := by
  have code := toNat_of_isIdentRest rest
  rw [Text.isWord, if_pos (by omega)]
  exact rest

theorem isIdentRest_of_isIdentStart {c : Char} (starts : Lexicon.isIdentStart c) :
    Lexicon.isIdentRest c := by
  rw [Lexicon.isIdentStart, Bool.or_eq_true] at starts
  rw [Lexicon.isIdentRest, Char.isAlphanum]
  rcases starts with letter | underscore
  · rw [letter]
    rfl
  · rw [underscore, Bool.or_true]

/-- A name does not start with a blank. -/
theorem isIdentStart_eq_false_of_isBlank {c : Char} (blank : Text.isBlank c) :
    Lexicon.isIdentStart c = false := by
  rw [← Bool.not_eq_true]
  intro starts
  have ink := isBlank_eq_false_of_isIdentRest (isIdentRest_of_isIdentStart starts)
  rw [blank] at ink
  cases ink

/-- A character of two joined texts stands in the first or behind it in the second. -/
theorem lt_or_exists_of_append_eq {before behind first second : List Char} {c : Char}
    (same : before ++ c :: behind = first ++ second) :
    before.length < first.length ∧ c ∈ first ∨
      ∃ between, before = first ++ between ∧ second = between ++ c :: behind := by
  rcases List.append_eq_append_iff.mp same with ⟨more, rfl, split⟩ | ⟨between, rfl, split⟩
  · cases more with
    | nil => exact .inr ⟨[], by simp, by simpa using split.symm⟩
    | cons d more =>
      obtain ⟨rfl, -⟩ := List.cons.inj split
      exact .inl ⟨by simp, by simp⟩
  · exact .inr ⟨between, rfl, split⟩

namespace Text

theorem isPrefix_trimRight (text : List Char) : trimRight text <+: text := by
  have dropped := List.dropWhile_suffix isBlank (l := text.reverse)
  rw [← List.reverse_prefix, List.reverse_reverse] at dropped
  exact dropped

/-- The last character of a text without its trailing blanks is the last that is not blank. -/
theorem getLast?_trimRight (text : List Char) :
    (trimRight text).getLast? = text.reverse.find? fun c => !isBlank c := by
  rw [trimRight, List.getLast?_reverse, List.find?_not_eq_head?_dropWhile]

theorem inked_trimRight (text : List Char) : (trimRight text).getLast?.any isBlank = false := by
  rw [getLast?_trimRight]
  cases last : text.reverse.find? fun c => !isBlank c with
  | none => rfl
  | some c => simpa using List.find?_some last

theorem isInfix_trim (text : List Char) : trim text <:+: text :=
  (isPrefix_trimRight (trimLeft text)).isInfix.trans (List.dropWhile_suffix isBlank).isInfix

theorem isBlank_of_mem_takeWhile {c : Char} {text : List Char}
    (member : c ∈ text.takeWhile isBlank) : isBlank c :=
  List.all_eq_true.mp List.all_takeWhile c member

theorem exists_blanks_behind_trimRight (text : List Char) :
    ∃ after, (∀ c ∈ after, isBlank c) ∧ text = trimRight text ++ after := by
  refine ⟨(text.reverse.takeWhile isBlank).reverse, fun c member => ?_, ?_⟩
  · exact isBlank_of_mem_takeWhile (List.mem_reverse.mp member)
  · rw [trimRight, ← List.reverse_append, List.takeWhile_append_dropWhile, List.reverse_reverse]

/-- A text that does not end in a blank is what is left of it and blanks behind it. -/
theorem trimRight_append {text after : List Char} (blank : ∀ c ∈ after, isBlank c)
    (inked : text.getLast?.any isBlank = false) : trimRight (text ++ after) = text := by
  rw [trimRight, List.reverse_append,
    List.dropWhile_append_of_pos fun c member => blank c (List.mem_reverse.mp member)]
  rcases List.eq_nil_or_concat text with rfl | ⟨before, c, rfl⟩
  · rfl
  · rw [List.concat_eq_append, List.getLast?_concat, Option.any_some] at inked
    rw [List.concat_eq_append, List.reverse_append, List.reverse_singleton, List.singleton_append,
      List.dropWhile_cons_of_neg (by rw [inked]; decide), List.reverse_cons, List.reverse_reverse]

/-- A text is its trimmed text between blanks. -/
theorem exists_blanks_around_trim (text : List Char) :
    ∃ before after, (∀ c ∈ before, isBlank c) ∧ (∀ c ∈ after, isBlank c) ∧
      text = before ++ (trim text ++ after) := by
  obtain ⟨after, blank, split⟩ := exists_blanks_behind_trimRight (trimLeft text)
  refine ⟨text.takeWhile isBlank, after, fun c => isBlank_of_mem_takeWhile, blank, ?_⟩
  rw [trim, ← split]
  exact List.takeWhile_append_dropWhile.symm

/-- A trimmed text starts with the first character that is not blank. -/
theorem head?_trimLeft_of_trim {text : List Char} {c : Char} (head : (trim text).head? = some c) :
    (trimLeft text).head? = some c := by
  obtain ⟨rest, split⟩ := isPrefix_trimRight (trimLeft text)
  rw [← split, List.head?_append, show (trimRight (trimLeft text)).head? = some c from head]
  rfl

/-- A trimmed text starts with the first character behind the blanks before it. -/
theorem head?_trim_of_blanks {before rest : List Char} {c : Char} (blanks : ∀ d ∈ before, isBlank d)
    (ink : isBlank c = false) : (trim (before ++ c :: rest)).head? = some c := by
  have left : trimLeft (before ++ c :: rest) = c :: rest := by
    rw [trimLeft, List.dropWhile_append_of_pos blanks, List.dropWhile_cons_of_neg (by simp [ink])]
  have visible : trimRight (c :: rest) ≠ [] := by
    intro empty
    rw [trimRight, List.reverse_cons, List.reverse_eq_nil_iff, List.dropWhile_append] at empty
    split at empty
    · rw [List.dropWhile_cons_of_neg (by simp [ink])] at empty
      cases empty
    · exact List.cons_ne_nil _ _ (List.append_eq_nil_iff.mp empty).2
  obtain ⟨after, split⟩ := isPrefix_trimRight (c :: rest)
  rw [trim, left]
  cases trimmed : trimRight (c :: rest) with
  | nil => exact absurd trimmed visible
  | cons d others =>
    rw [trimmed, List.cons_append] at split
    rw [(List.cons.inj split).1]
    rfl

theorem findLast?_lt {c : Char} {text : List Char} {position : Nat}
    (found : findLast? c text = some position) : position < text.length := by
  induction text generalizing position with
  | nil => cases found
  | cons d rest inductionHypothesis =>
    rw [findLast?] at found
    cases later : findLast? c rest with
    | some further =>
      rw [later] at found
      cases found
      have bound := inductionHypothesis later
      rw [List.length_cons]
      omega
    | none =>
      rw [later] at found
      obtain ⟨-, same⟩ := Option.ite_none_right_eq_some.mp found
      cases same
      exact Nat.succ_pos _

/-- The last occurrence of a character is no earlier than any other. -/
theorem le_findLast? {c : Char} {text : List Char} {position : Nat}
    (there : text[position]? = some c) : ∃ last, findLast? c text = some last ∧ position ≤ last := by
  induction text generalizing position with
  | nil => cases there
  | cons d rest inductionHypothesis =>
    cases position with
    | zero =>
      rw [List.getElem?_cons_zero] at there
      rw [findLast?, (Option.some.inj there : d = c), beq_self_eq_true]
      cases findLast? c rest with
      | none => exact ⟨0, rfl, Nat.le_refl 0⟩
      | some last => exact ⟨last + 1, rfl, Nat.zero_le _⟩
    | succ position =>
      obtain ⟨last, found, behind⟩ := inductionHypothesis there
      exact ⟨last + 1, by rw [findLast?, found], Nat.succ_le_succ behind⟩

theorem findLast?_eq_none {c : Char} {text : List Char} (absent : c ∉ text) :
    findLast? c text = none := by
  induction text with
  | nil => rfl
  | cons d rest inductionHypothesis =>
    rw [List.mem_cons, not_or] at absent
    rw [findLast?, inductionHypothesis absent.2]
    exact if_neg (by rw [beq_iff_eq]; exact Ne.symm absent.1)

/-- A character that does not come again is the last of its kind. -/
theorem findLast?_append_cons {c : Char} {after : List Char} (absent : c ∉ after)
    (before : List Char) : findLast? c (before ++ c :: after) = some before.length := by
  induction before with
  | nil =>
    rw [List.nil_append, findLast?, findLast?_eq_none absent]
    exact if_pos (beq_self_eq_true c)
  | cons d before inductionHypothesis =>
    rw [List.cons_append, findLast?, inductionHypothesis]
    rfl

/-- A word is found exactly if it is part of the text. -/
theorem isSome_find?_iff {word text : List Char} : (find? word text).isSome ↔ word <:+: text := by
  induction text with
  | nil => cases word <;> simp [find?]
  | cons c text inductionHypothesis =>
    rw [find?, List.infix_cons_iff]
    by_cases starts : word.isPrefixOf (c :: text)
    · rw [if_pos starts]
      simp [List.isPrefixOf_iff_prefix.mp starts]
    · rw [if_neg starts, Option.isSome_map, inductionHypothesis]
      constructor
      · exact .inr
      · intro either
        rcases either with here | later
        · exact absurd (List.isPrefixOf_iff_prefix.mpr here) starts
        · exact later

/-- Behind characters that are not it, a character is found where they end. -/
theorem find?_of_not_mem {c : Char} {before : List Char} (without : c ∉ before)
    (rest : List Char) : find? [c] (before ++ c :: rest) = some before.length := by
  induction before with
  | nil =>
    have here : [c].isPrefixOf (c :: rest) := List.isPrefixOf_iff_prefix.mpr ⟨rest, rfl⟩
    rw [List.nil_append, find?, if_pos here]
    rfl
  | cons d before inductionHypothesis =>
    obtain ⟨other, without⟩ := not_or.mp (mt List.mem_cons.mpr without)
    have apart : ¬ [c].isPrefixOf (d :: (before ++ c :: rest)) := by
      intro here
      obtain ⟨after, split⟩ := List.isPrefixOf_iff_prefix.mp here
      exact other (List.cons.inj split).1
    rw [List.cons_append, find?, if_neg apart, inductionHypothesis without]
    rfl

/-- A character is found at the first place where it stands. -/
theorem find?_character_iff {c : Char} {text : List Char} {position : Nat} :
    find? [c] text = some position ↔
      ∃ before rest, text = before ++ c :: rest ∧ c ∉ before ∧ before.length = position := by
  constructor
  · intro found
    have there : [c] <:+: text := isSome_find?_iff.mp (Option.isSome_of_eq_some found)
    obtain ⟨before, rest, rfl, without⟩ :=
      List.eq_append_cons_of_mem (there.subset List.mem_cons_self)
    rw [find?_of_not_mem without] at found
    exact ⟨before, rest, rfl, without, Option.some.inj found⟩
  · rintro ⟨before, rest, rfl, without, rfl⟩
    exact find?_of_not_mem without rest

/-- A word without the separator stands in one of the two texts around it. -/
theorem infix_of_append_cons {c : Char} {word first second : List Char} (without : c ∉ word)
    (inside : word <:+: first ++ c :: second) : word <:+: first ∨ word <:+: second := by
  obtain ⟨before, after, whole⟩ := inside
  rw [List.append_assoc, List.append_eq_append_iff] at whole
  rcases whole with ⟨overlap, split, rest⟩ | ⟨overlap, split, rest⟩
  · -- the word starts in the first text, and cannot go on over the separator
    left
    rcases List.append_eq_append_iff.mp rest with ⟨more, whole, -⟩ | ⟨more, crossing, rest⟩
    · exact ⟨before, more, by rw [split, whole, List.append_assoc]⟩
    · cases more with
      | nil => exact ⟨before, [], by rw [split, crossing, List.append_nil, List.append_nil]⟩
      | cons d more =>
        obtain ⟨rfl, -⟩ := List.cons.inj rest
        exact absurd (crossing ▸ List.mem_append_right _ List.mem_cons_self) without
  · cases overlap with
    | nil =>
      cases word with
      | nil => exact .inl List.nil_infix
      | cons d word =>
        obtain ⟨rfl, -⟩ := List.cons.inj rest
        exact absurd List.mem_cons_self without
    | cons d overlap =>
      right
      obtain ⟨-, rest⟩ := List.cons.inj rest
      refine ⟨overlap, after, ?_⟩
      rw [List.append_assoc]
      exact rest.symm

/-- A word without the separator stands in one of the texts that the separator joins. -/
theorem exists_infix_of_intercalate {c : Char} {word : List Char} (without : c ∉ word)
    (inked : word ≠ []) {texts : List (List Char)} (inside : word <:+: [c].intercalate texts) :
    ∃ text ∈ texts, word <:+: text := by
  induction texts with
  | nil => exact absurd (List.infix_nil.mp inside) inked
  | cons text texts inductionHypothesis =>
    cases texts with
    | nil =>
      rw [List.intercalate_singleton] at inside
      exact ⟨text, List.mem_singleton_self text, inside⟩
    | cons other texts =>
      rw [List.intercalate_cons_cons, List.append_assoc] at inside
      rcases infix_of_append_cons without inside with here | later
      · exact ⟨text, List.mem_cons_self, here⟩
      · obtain ⟨found, member, there⟩ := inductionHypothesis later
        exact ⟨found, List.mem_cons_of_mem _ member, there⟩

theorem exists_index {word text : List Char} {start : Nat} (inside : word <:+: text.drop start) :
    ∃ position, index word start text = .ok position := by
  obtain ⟨offset, found⟩ := Option.isSome_iff_exists.mp (isSome_find?_iff.mpr inside)
  exact ⟨offset + start, by rw [index, findFrom?, found]; rfl⟩

theorem exists_index_character {c : Char} {text : List Char} {start : Nat}
    (inside : c ∈ text.drop start) : ∃ position, index [c] start text = .ok position := by
  obtain ⟨before, after, split⟩ := List.append_of_mem inside
  exact exists_index ⟨before, after, by rw [split, List.append_assoc]; rfl⟩

/-! ## Squeezed texts -/

theorem exists_splitOnP_eq_cons (text : List Char) :
    ∃ rest, text.splitOnP isBlank = text.takeWhile (fun c => !isBlank c) :: rest := by
  induction text with
  | nil => exact ⟨[], List.splitOnP_nil⟩
  | cons c text inductionHypothesis =>
    obtain ⟨rest, pieces⟩ := inductionHypothesis
    rw [List.splitOnP_cons_eq_if_modifyHead, List.takeWhile_cons, pieces]
    cases isBlank c with
    | true => exact ⟨_, rfl⟩
    | false => exact ⟨rest, rfl⟩

theorem squeeze_cons_of_blank {c : Char} (blank : isBlank c) (text : List Char) :
    squeeze (c :: text) = squeeze text := by
  rw [squeeze, squeeze, words, words, List.splitOnP_cons_eq_if_modifyHead, if_pos blank]
  rfl

/-- After the squeeze a text starts with the same word. -/
theorem takeWhile_squeeze (text : List Char) :
    (squeeze text).takeWhile (fun c => !isBlank c) =
      (trimLeft text).takeWhile fun c => !isBlank c := by
  induction text with
  | nil => rfl
  | cons c text inductionHypothesis =>
    by_cases blank : isBlank c
    · rw [squeeze_cons_of_blank blank, inductionHypothesis, trimLeft, trimLeft,
        List.dropWhile_cons_of_pos blank]
    · obtain ⟨rest, pieces⟩ := exists_splitOnP_eq_cons text
      have first : ∀ d ∈ c :: text.takeWhile (fun c => !isBlank c), (!isBlank d) = true := by
        rw [List.forall_mem_cons]
        exact ⟨by simpa using blank, fun d => List.mem_takeWhile_imp⟩
      rw [trimLeft, List.dropWhile_cons_of_neg blank, List.takeWhile_cons_of_pos (by simpa using blank),
        squeeze, words, List.splitOnP_cons_eq_if_modifyHead, if_neg blank, pieces,
        List.modifyHead_cons, List.filter_cons_of_pos (by rfl)]
      cases rest.filter fun word => !word.isEmpty with
      | nil =>
        rw [List.intercalate_singleton]
        exact List.takeWhile_eq_self_iff.mpr first
      | cons other others =>
        rw [List.intercalate_cons_cons, List.append_assoc, List.takeWhile_append_of_pos first,
          List.singleton_append, List.takeWhile_cons_of_neg (by decide), List.append_nil]

/-- A word starts the squeezed text exactly if it starts the text, blanks left out. -/
theorem isPrefix_squeeze_iff {word : List Char} (ink : word.all fun c => !isBlank c)
    (text : List Char) : word <+: squeeze text ↔ word <+: trimLeft text := by
  have starts : ∀ text : List Char, word <+: text ↔ word <+: text.takeWhile fun c => !isBlank c := by
    intro text
    constructor
    · rintro ⟨rest, rfl⟩
      rw [List.takeWhile_append_of_pos (List.all_eq_true.mp ink)]
      exact List.prefix_append word _
    · exact fun inside => inside.trans (List.takeWhile_prefix _)
  rw [starts, takeWhile_squeeze, ← starts]

/-- A text that is joined with others is part of the whole. -/
theorem isInfix_intercalate (separator : List Char) {text : List Char} {texts : List (List Char)}
    (member : text ∈ texts) : text <:+: separator.intercalate texts := by
  induction texts with
  | nil => exact absurd member List.not_mem_nil
  | cons first texts inductionHypothesis =>
    cases texts with
    | nil =>
      rw [List.intercalate_singleton]
      exact List.mem_singleton.mp member ▸ List.infix_refl text
    | cons second texts =>
      rw [List.intercalate_cons_cons]
      rcases List.mem_cons.mp member with rfl | later
      · rw [List.append_assoc]
        exact (List.prefix_append text _).isInfix
      · exact (inductionHypothesis later).trans (List.suffix_append _ _).isInfix

/-- The squeeze keeps every character that is not blank. -/
theorem mem_squeeze {c : Char} (ink : isBlank c = false) {text : List Char} (member : c ∈ text) :
    c ∈ squeeze text := by
  have piece : ∃ word ∈ text.splitOnP isBlank, c ∈ word := by
    induction text with
    | nil => exact absurd member List.not_mem_nil
    | cons d text inductionHypothesis =>
      obtain ⟨rest, pieces⟩ := exists_splitOnP_eq_cons text
      rw [List.splitOnP_cons_eq_if_modifyHead]
      rcases List.mem_cons.mp member with rfl | later
      · rw [ink, if_neg Bool.false_ne_true, pieces]
        exact ⟨_, List.mem_cons_self, List.mem_cons_self⟩
      · obtain ⟨word, among, inside⟩ := inductionHypothesis later
        split
        · exact ⟨word, List.mem_cons_of_mem _ among, inside⟩
        · rw [pieces] at among ⊢
          rcases List.mem_cons.mp among with rfl | other
          · exact ⟨_, List.mem_cons_self, List.mem_cons_of_mem _ inside⟩
          · exact ⟨word, List.mem_cons_of_mem _ other, inside⟩
  obtain ⟨word, among, inside⟩ := piece
  refine (isInfix_intercalate [' '] ?_).subset inside
  rw [words, List.mem_filter]
  cases word with
  | nil => exact absurd inside List.not_mem_nil
  | cons => exact ⟨among, rfl⟩

/-- The first character of the first word is the first that is not blank. -/
theorem head?_squeeze (text : List Char) :
    (squeeze text).head? = (trimLeft text).head? := by
  unfold squeeze words trimLeft
  induction text with
  | nil => rfl
  | cons c text inductionHypothesis =>
    rw [List.splitOnP_cons_eq_if_modifyHead]
    by_cases blank : isBlank c
    · rw [if_pos blank, List.dropWhile_cons_of_pos blank, ← inductionHypothesis]
      rfl
    · rw [if_neg blank, List.dropWhile_cons_of_neg blank]
      cases pieces : text.splitOnP isBlank with
      | nil => exact absurd pieces (List.splitOnP_ne_nil _ _)
      | cons first rest =>
        rw [List.modifyHead_cons, List.filter_cons_of_pos (by rfl)]
        cases rest.filter fun word => !word.isEmpty <;> rfl

/-! ## The balance of two characters -/

variable {opener closer : Char}

theorem excess_append (first second : List Char) :
    excess opener closer (first ++ second) =
      excess opener closer first + excess opener closer second := by
  unfold excess
  rw [List.count_append, List.count_append]
  omega

theorem excess_of_not_mem {text : List Char} (noOpener : opener ∉ text) (noCloser : closer ∉ text) :
    excess opener closer text = 0 := by
  rw [excess, List.count_eq_zero_of_not_mem noOpener, List.count_eq_zero_of_not_mem noCloser]
  rfl

theorem excess_trim (text : List Char) (openerInk : isBlank opener = false)
    (closerInk : isBlank closer = false) :
    excess opener closer (trim text) = excess opener closer text := by
  obtain ⟨before, after, blankBefore, blankAfter, split⟩ := exists_blanks_around_trim text
  have balanced : ∀ blanks : List Char, (∀ c ∈ blanks, isBlank c) →
      excess opener closer blanks = 0 := by
    intro blanks all
    apply excess_of_not_mem
    · intro member
      exact absurd (all opener member) (by simp [openerInk])
    · intro member
      exact absurd (all closer member) (by simp [closerInk])
  have whole := congrArg (excess opener closer) split
  rw [excess_append, excess_append, balanced before blankBefore, balanced after blankAfter] at whole
  omega

end Text

end HouseStyle
