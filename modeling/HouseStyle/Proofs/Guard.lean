import Mathlib
import HouseStyle.Proofs.BareDirective

/-!
Contract: headers that hold nothing but their guard.

Owns: the letters of guards, the three lines that guard a header, and the check of these lines.
Does not own: guards around other lines.

A guard is made of the header's name letter by letter, and every letter of it may stand in a constant's
name. A constant's name does not start with an underscore, though, and a definition does not start with
a digit. So the first letter alone decides what the rule on definitions has to say.

Main statement: `checkText_guardText`.
-/

namespace HouseStyle

open Lexicon

/-! ## Definitions of a name alone -/

/-- A run over characters that all pass the test stops behind them if that is accepted. -/
theorem Pattern.exists_runMany_eq {β : Type} {test : Char → Bool} {text : List Char}
    (all : ∀ c ∈ text, test c) {captures : List (Part × Span)} {accept : Cursor → Option β}
    {position : Nat} {previous : Option Char}
    (accepted : ∀ last, (accept ⟨position + text.length, last, [], captures⟩).isSome) :
    ∃ last, runMany test captures accept position previous text =
      accept ⟨position + text.length, last, [], captures⟩ := by
  induction text generalizing position previous with
  | nil => exact ⟨previous, rfl⟩
  | cons c text inductionHypothesis =>
    obtain ⟨first, others⟩ := List.forall_mem_cons.mp all
    rw [List.length_cons, Nat.add_comm text.length 1, ← Nat.add_assoc] at accepted ⊢
    obtain ⟨last, stopped⟩ := inductionHypothesis others accepted
    obtain ⟨answer, same⟩ := Option.isSome_iff_exists.mp (accepted last)
    exact ⟨last, by rw [runMany, if_pos first, stopped, same]⟩

theorem Definition.part?_name {c : Char} {name : List Char} (ink : Text.isBlank c = false)
    (word : ∀ d ∈ name, isIdentRest d) :
    ((definition.matchStart? ("#define ".toList ++ c :: name)).bind fun found =>
      found.part? .name) = if isIdentStart c then some ⟨8, c :: name⟩ else none := by
  have inks : Text.isBlank '#' = false ∧ Text.isBlank 'd' = false ∧ Text.isBlank ' ' := by decide
  have start : "#define ".toList = ['#', 'd', 'e', 'f', 'i', 'n', 'e', ' '] := rfl
  have letters : "define".toList = ['d', 'e', 'f', 'i', 'n', 'e'] := rfl
  -- The matcher is run up to the first character of the name, which decides.
  simp only [Pattern.matchStart?, Pattern.matchAt?, definition, directive, Pattern.append_eq,
    Pattern.run, Pattern.atStart, Pattern.blanks, Pattern.char, Pattern.word, Pattern.characters,
    Pattern.runMany, Pattern.gap, Pattern.several, Cursor.atStart, Cursor.advance, Cursor.record,
    start, letters, inks, ink, ident, List.cons_append, List.nil_append, Option.isNone_none,
    beq_self_eq_true, if_true, Bool.false_eq_true, if_false]
  by_cases starts : isIdentStart c
  · rw [if_pos starts, if_pos starts]
    generalize follow : Pattern.runMany isIdentRest _ _ _ _ _ = stopped
    obtain ⟨last, rfl⟩ : ∃ last, stopped = _ :=
      (Pattern.exists_runMany_eq word fun _ => rfl).imp fun _ same => follow.symm.trans same
    have whole : (c :: name).take (9 + name.length - 8) = c :: name :=
      List.take_of_length_le (by rw [List.length_cons]; omega)
    simp [Match.part?, Cursor.excerpt, whole]
  · rw [if_neg starts, if_neg starts]
    rfl

/-- A directive starts with its word. -/
theorem Includes.isPrefix_of_directive {word : String} {rest : List Char} {stop : Cursor}
    (ink : rest.head?.any Text.isBlank = false)
    (reached : stop ∈ (directive word).outcomes (.atStart ('#' :: rest))) : word.toList <+: rest := by
  obtain ⟨_, after, ⟨margin, gap, margins, gaps, rfl⟩, split, -⟩ :=
    (consumes_directive word _ stop).mp reached
  have whole : '#' :: rest = margin ++ '#' :: (gap ++ word.toList) ++ after := split
  cases margin with
  | cons c margin =>
    obtain ⟨rfl, -⟩ := List.cons.inj whole
    exact absurd (margins '#' List.mem_cons_self) (by decide)
  | nil =>
    obtain ⟨-, rfl⟩ := List.cons.inj whole
    cases gap with
    | cons c gap =>
      have plain : Text.isBlank c = false := ink
      rw [gaps c List.mem_cons_self] at plain
      cases plain
    | nil => exact List.prefix_append _ _

/-- Another directive is no definition. -/
theorem Definition.definitionLine_eq_nil {view : View} {rest : List Char}
    (written : view.code = '#' :: rest) (ink : rest.head?.any Text.isBlank = false)
    (other : ¬ "define".toList <+: rest) : definitionLine view = .ok [] := by
  have unfit : definition.matchStart? ('#' :: rest) = none := by
    rw [← Option.not_isSome_iff_eq_none]
    intro fits
    obtain ⟨stop, reached⟩ := Pattern.fits_iff.mp fits
    simp only [definition, Pattern.mem_outcomes_append] at reached
    obtain ⟨_, ⟨_, reached, -⟩, -⟩ := reached
    exact other (Includes.isPrefix_of_directive ink reached)
  rw [definitionLine, written, unfit]
  rfl

/-- A definition of a name alone is complained about only if the name is not a constant's. -/
theorem Definition.definitionLine_name {view : View} {c : Char} {name : List Char}
    (starts : name.head? = some c) (bare : BareDirective ("#define ".toList ++ name))
    (written : view.code = "#define ".toList ++ name) (word : ∀ d ∈ name, isIdentRest d) :
    definitionLine view =
      .ok (if isIdentStart c && !Naming.isScreaming name then
        [Kind.macroNameNotScreaming.quoting ⟨8, name⟩] else []) := by
  obtain ⟨others, rfl⟩ := List.head?_eq_some_iff.mp starts
  obtain ⟨first, more⟩ := List.forall_mem_cons.mp word
  have plain : withParameters.matchStart? ("#define ".toList ++ c :: others) = none := by
    refine Pattern.matchStart?_eq_none_of_leaves ?_ bare.letters
    exact .inl (.inl (.inl (.inl (.inr (Pattern.leaves_char (by decide))))))
  rw [definitionLine, written, part?_name (isBlank_eq_false_of_isIdentRest first) more, plain]
  cases isIdentStart c with
  | false => rfl
  | true =>
    rw [if_pos rfl]
    cases screaming : Naming.isScreaming (c :: others) <;> simp [screaming]

/-! ## Guards -/

namespace Includes

/-- The letter of a guard for a character of a header's name. -/
def guardLetter (c : Char) : Char :=
  if c.isAlphanum then c.toUpper else '_'

theorem guardName_eq (stem : List Char) : guardName stem = stem.map guardLetter ++ ['_', 'H'] :=
  rfl

theorem guardLetter_cases (c : Char) :
    (c.isAlphanum ∧ (guardLetter c).isUpper) ∨
      (c.isAlphanum ∧ (guardLetter c).isDigit ∧ (guardLetter c).isAlpha = false) ∨
      (c.isAlphanum = false ∧ guardLetter c = '_') := by
  by_cases letter : c.isAlpha
  · have alphanum : c.isAlphanum := by rw [Char.isAlphanum, letter, Bool.true_or]
    exact .inl ⟨alphanum, by rw [guardLetter, if_pos alphanum, Char.isUpper_toUpper_eq_isAlpha, letter]⟩
  · have small : ¬ c.isLower := fun lower => letter (by rw [Char.isAlpha, lower, Bool.or_true])
    by_cases digit : c.isDigit
    · have alphanum : c.isAlphanum := by rw [Char.isAlphanum, digit, Bool.or_true]
      rw [guardLetter, if_pos alphanum, Char.toUpper_eq_of_not_isLower small]
      exact .inr (.inl ⟨alphanum, digit, Bool.eq_false_of_not_eq_true letter⟩)
    · have other : ¬ c.isAlphanum := by
        rw [Char.isAlphanum, Bool.or_eq_true]
        exact not_or.mpr ⟨letter, digit⟩
      exact .inr (.inr ⟨Bool.eq_false_of_not_eq_true other, if_neg other⟩)

theorem screams_of_mem_guardName {stem : List Char} {d : Char} (member : d ∈ guardName stem) :
    d.isUpper || d.isDigit || d == '_' := by
  rw [guardName_eq] at member
  rcases List.mem_append.mp member with letter | ending
  · obtain ⟨c, -, rfl⟩ := List.mem_map.mp letter
    rcases guardLetter_cases c with ⟨-, upper⟩ | ⟨-, digit, -⟩ | ⟨-, same⟩
    · rw [upper]; rfl
    · rw [digit, Bool.or_true]; rfl
    · rw [same]; rfl
  · have plain : ['_', 'H'].all fun e => e.isUpper || e.isDigit || e == '_' := by decide
    exact List.all_eq_true.mp plain d ending

theorem isIdentRest_of_mem_guardName {stem : List Char} {d : Char} (member : d ∈ guardName stem) :
    isIdentRest d := by
  have screams := screams_of_mem_guardName member
  rw [Bool.or_eq_true, Bool.or_eq_true] at screams
  rw [isIdentRest, Char.isAlphanum, Char.isAlpha]
  rcases screams with (upper | digit) | underscore
  · rw [upper]; rfl
  · rw [digit, Bool.or_true]; rfl
  · rw [underscore, Bool.or_true]

/-- A guard starts an identifier that is no constant's name exactly if the header's name starts with
neither a letter nor a digit. -/
theorem misnamed_guardName (c : Char) (stem : List Char) :
    (isIdentStart (guardLetter c) && !Naming.isScreaming (guardName (c :: stem))) =
      !c.isAlphanum := by
  have others : (stem.map guardLetter ++ ['_', 'H']).all
      (fun d => d.isUpper || d.isDigit || d == '_') :=
    List.all_eq_true.mpr fun d member => @screams_of_mem_guardName stem d member
  rw [guardName_eq, List.map_cons, List.cons_append, Naming.isScreaming, others, Bool.and_true]
  rcases guardLetter_cases c with ⟨alphanum, upper⟩ | ⟨alphanum, digit, letter⟩ | ⟨other, same⟩
  · rw [upper, alphanum, Bool.not_true, Bool.and_false]
  · have apart : (guardLetter c == '_') = false := by
      rw [beq_eq_false_iff_ne]
      intro same
      rw [same] at digit
      cases digit
    rw [isIdentStart, letter, apart, alphanum]
    rfl
  · rw [same, other]
    rfl

/-- The lines of a header that holds nothing but a guard. -/
def guardLines (guard : List Char) : List (List Char) :=
  ["#ifndef ".toList ++ guard, "#define ".toList ++ guard, "#endif".toList]

theorem bare_guardLines (stem : List Char) :
    ∀ raw ∈ guardLines (guardName stem), BareDirective raw := by
  have word : ∀ c ∈ guardName stem, isIdentRest c := fun c => isIdentRest_of_mem_guardName
  have ending : ∃ c, (guardName stem).getLast? = some c ∧ Text.isDecimal c = false :=
    ⟨'H', by rw [guardName_eq, List.getLast?_append]; rfl, by decide⟩
  simp only [guardLines, List.forall_mem_cons]
  refine ⟨?_, ?_, ?_, fun raw member => absurd member List.not_mem_nil⟩
  · exact .of_name (by decide) rfl (by decide) word ending
  · exact .of_name (by decide) rfl (by decide) word ending
  · exact @BareDirective.of_name ['#'] "endif".toList (by decide) rfl (by decide)
      (List.all_eq_true.mp (by decide)) ⟨'f', rfl, by decide⟩

end Includes

namespace BareDirective

variable {raws : List (List Char)} (bare : ∀ raw ∈ raws, BareDirective raw)
include bare

theorem ofRaws_eq : Line.ofRaws raws = raws.map (Line.ofRaw .code) := by
  rw [Line.ofRaws]
  induction raws with
  | nil => rfl
  | cons raw raws inductionHypothesis =>
    obtain ⟨first, others⟩ := List.forall_mem_cons.mp bare
    have after : (Line.ofRaw .code raw).after = .code := by
      rw [Line.ofRaw_of_letters first.letters]
    rw [Line.ofRawsFrom, after, inductionHypothesis others]
    rfl

/-- Directives of words define no functions. -/
theorem findAll_functions : FunctionDefinition.findAll (Line.ofRaws raws) = [] := by
  have none : ∀ index,
      FunctionDefinition.findFrom index ⟨[], none, 0⟩ (raws.map (Line.ofRaw .code)) = [] := by
    induction raws with
    | nil => exact fun _ => rfl
    | cons raw raws inductionHypothesis =>
      intro index
      obtain ⟨first, others⟩ := List.forall_mem_cons.mp bare
      have hash : (Line.ofRaw .code raw).stripped.head? = some '#' := by
        rw [Line.stripped, Line.ofRaw_of_letters first.letters, first.trim_eq, first.hash]
      have passed : FunctionDefinition.line index (Line.ofRaw .code raw) ⟨[], none, 0⟩ =
          (⟨[], none, 0⟩, none) := by
        rw [FunctionDefinition.line]
        split
        · rfl
        · rw [if_pos ⟨rfl, rfl⟩, FunctionDefinition.fileScopeLine, hash]
          rfl
      rw [List.map_cons, FunctionDefinition.findFrom, passed]
      exact inductionHypothesis others (index + 1)
  rw [FunctionDefinition.findAll, ofRaws_eq bare, none]

/-- Directives of words include nothing. -/
theorem fromLines_eq_nil (number : Nat) : Includes.fromLines number (Line.ofRaws raws) = [] := by
  rw [ofRaws_eq bare]
  induction raws generalizing number with
  | nil => rfl
  | cons raw raws inductionHypothesis =>
    obtain ⟨first, others⟩ := List.forall_mem_cons.mp bare
    have none : Includes.ofLine? number (Line.ofRaw .code raw) = none := by
      rw [Includes.ofLine?, Line.raw_ofRaw, first.matchStart?_inclusion]
      rfl
    rw [List.map_cons, Includes.fromLines, none, inductionHypothesis others]
    rfl

end BareDirective

namespace Includes

theorem squeeze_pair {word guard : List Char} (inked : word.any Text.isBlank = false)
    (inkedToo : ∀ c ∈ guard, Text.isBlank c = false) (some : word ≠ []) (someToo : guard ≠ []) :
    Text.squeeze (word ++ ' ' :: guard) = word ++ ' ' :: guard := by
  have plain : ∀ c ∈ word, Text.isBlank c = false := fun c member =>
    Bool.eq_false_of_not_eq_true (List.any_eq_false.mp inked c member)
  rw [Text.squeeze, Text.words, List.splitOnP_append_cons_of_forall_mem plain ' ' (by decide),
    List.splitOnP_eq_singleton inkedToo, List.filter_cons_of_pos (by simpa using some),
    List.filter_cons_of_pos (by simpa using someToo), List.filter_nil, List.intercalate_cons_cons,
    List.intercalate_singleton, List.append_assoc]
  rfl

theorem hasGuard_guardLines (stem : List Char) :
    hasGuard (guardName stem) (guardLines (guardName stem)) := by
  have inked : ∀ c ∈ guardName stem, Text.isBlank c = false := fun c member =>
    isBlank_eq_false_of_isIdentRest (isIdentRest_of_mem_guardName member)
  have some : guardName stem ≠ [] := List.append_ne_nil_of_right_ne_nil _ (by decide)
  have opening : Text.squeeze ("#ifndef ".toList ++ guardName stem) =
      "#ifndef ".toList ++ guardName stem :=
    @squeeze_pair "#ifndef".toList _ (by decide) inked (by decide) some
  have defining : Text.squeeze ("#define ".toList ++ guardName stem) =
      "#define ".toList ++ guardName stem :=
    @squeeze_pair "#define".toList _ (by decide) inked (by decide) some
  have closing : Text.squeeze "#endif".toList = "#endif".toList := by decide
  simp only [hasGuard, guardLines, List.map_cons, List.map_nil, opening, defining, closing]
  simp

theorem pragmaOnce_guardLines (guard : List Char) :
    (guardLines guard).findIdx? (fun raw => pragmaOnce.fits raw) = none := by
  have unfit : ∀ rest : List Char, rest.head?.any Text.isBlank = false →
      ¬ "pragma".toList <+: rest → pragmaOnce.fits ('#' :: rest) = false := by
    intro rest ink other
    rw [← Bool.not_eq_true]
    intro fits
    obtain ⟨stop, reached⟩ := Pattern.fits_iff.mp fits
    simp only [pragmaOnce, Pattern.mem_outcomes_append] at reached
    obtain ⟨_, ⟨_, ⟨_, ⟨_, reached, -⟩, -⟩, -⟩, -⟩ := reached
    exact other (isPrefix_of_directive ink reached)
  simp only [guardLines, List.findIdx?_eq_none_iff, List.forall_mem_cons]
  refine ⟨?_, ?_, ?_, fun raw member => absurd member List.not_mem_nil⟩
  · exact unfit ("ifndef ".toList ++ guard) rfl fun ⟨_, same⟩ =>
      absurd (List.cons.inj same).1 (by decide)
  · exact unfit ("define ".toList ++ guard) rfl fun ⟨_, same⟩ =>
      absurd (List.cons.inj same).1 (by decide)
  · exact unfit "endif".toList rfl (by decide)

variable {path : Path} {stem : List Char}

/-- The text of a header that holds nothing but a guard. -/
def guardText (guard : List Char) : List Char :=
  Source.joinLines ['\n'] (guardLines guard)

theorem splitLines_guardText : Source.splitLines (guardText (guardName stem)) =
    guardLines (guardName stem) := by
  have each : ∀ raw ∈ guardLines (guardName stem), '\n' ∉ raw ∧ Source.dropReturn raw = raw := by
    intro raw member
    have letters := (bare_guardLines stem raw member).letters
    refine ⟨fun feed => absurd (letters _ feed) (by decide), Source.dropReturn_eq_self fun last => ?_⟩
    exact absurd (letters _ (List.mem_of_getLast? last)) (by decide)
  rw [guardText, Source.splitLines_joinLines fun raw member => (each raw member).1]
  exact (List.map_congr_left fun raw member => (each raw member).2).trans (List.map_id _)

theorem diagnostics_guardText (named : path.stem.toList = stem) :
    Includes.diagnostics (.ofText path (guardText (guardName stem))) = .ok [] := by
  have lines : (SourceFile.ofText path (guardText (guardName stem))).lines =
      Line.ofRaws (guardLines (guardName stem)) := congrArg Line.ofRaws splitLines_guardText
  have raws : (SourceFile.ofText path (guardText (guardName stem))).raws =
      guardLines (guardName stem) := splitLines_guardText
  have guard : guardDiagnostics (.ofText path (guardText (guardName stem))) = .ok [] := by
    have same : (SourceFile.ofText path (guardText (guardName stem))).path.stem.toList = stem := named
    rw [guardDiagnostics, same, raws, hasGuard_guardLines, pragmaOnce_guardLines]
    rfl
  rw [Includes.diagnostics, guard, lines, BareDirective.fromLines_eq_nil (bare_guardLines stem)]
  cases (SourceFile.ofText path (guardText (guardName stem))).path.isHeader <;> rfl

end Includes

theorem Layout.diagnostics_guardText (path : Path) (stem : List Char) :
    Layout.diagnostics (.ofText path (Includes.guardText (Includes.guardName stem))) = .ok [] := by
  have raws := @Includes.splitLines_guardText stem
  have functions := BareDirective.findAll_functions (Includes.bare_guardLines stem)
  generalize written : Includes.guardText (Includes.guardName stem) = text at raws ⊢
  have last : text.getLast? = some '\n' := by
    rw [← written, Includes.guardText, Includes.guardLines, Source.joinLines, List.flatMap_cons,
      List.flatMap_cons, List.flatMap_cons, List.getLast?_append, List.getLast?_append]
    rfl
  have ending : endDiagnostics (.ofText path text) = .ok [] := by
    rw [endDiagnostics, SourceFile.ofText]
    simp [last]
  have trailing : trailingDiagnostics (.ofText path text) = .ok [] := by
    rw [trailingDiagnostics, SourceFile.ofText]
    simp only [raws]
    rfl
  have spacing : spacingDiagnostics (.ofText path text) = .ok [] := by
    rw [spacingDiagnostics, SourceFile.ofText]
    simp only [raws, functions]
    rfl
  rw [Layout.diagnostics, ending, trailing, spacing]
  rfl

theorem ConstPointer.diagnostics_guardLines (stem : List Char) :
    ConstPointer.diagnostics (Line.ofRaws (Includes.guardLines (Includes.guardName stem))) =
      .ok [] := by
  rw [ConstPointer.diagnostics,
    BareDirective.findAll_functions (Includes.bare_guardLines stem)]
  rfl

/-- The complaint about the name of a guard on the second line of its header. -/
def Includes.guardComplaint (guard : List Char) : Diagnostic :=
  ⟨2, 8, guard.length, .error, "MACRO_NAME_NOT_SCREAMING",
    "macro name '" ++ String.ofList guard ++ "' must be SCREAMING_SNAKE_CASE"⟩

theorem Includes.onLine_guard (guard : List Char) :
    (Kind.macroNameNotScreaming.quoting ⟨8, guard⟩).onLine 2 = .ok (guardComplaint guard) := by
  have message : Kind.macroNameNotScreaming.template.format [.word (String.ofList guard)] =
      .ok ("macro name '" ++ String.ofList guard ++ "' must be SCREAMING_SNAKE_CASE") := by
    simp [Kind.template, Template.format, Template.fill, Piece.fill, String.append_assoc]
  have length : max ((guard.length : Int)) 0 = guard.length := max_eq_left (Int.natCast_nonneg _)
  rw [Finding.onLine, Kind.quoting, Kind.onWith, Kind.diagnostic]
  simp only [Excerpt.toString, message, Answer.ok_bind, Excerpt.length, length, guardComplaint]
  rfl

/-! ## The scan of the three lines -/

namespace Scan

variable {settings : Settings} {site : Site}

/-- A directive of words that defines nothing passes without a complaint. -/
theorem step_undefining {rest : List Char} (bare : BareDirective ('#' :: rest))
    (written : site.line = .ofRaw .code ('#' :: rest))
    (short : (('#' :: rest).length : Int) ≤ settings.limit)
    (ink : rest.head?.any Text.isBlank = false) (other : ¬ "define".toList <+: rest) :
    step settings site .initial = .ok ([], .initial) := by
  have code : (site.view settings .initial).code = '#' :: rest := by
    show site.line.code = _
    rw [written, Line.ofRaw_of_letters bare.letters]
  rw [bare.step_initial written short, Definition.definitionLine_eq_nil code ink other]
  rfl

/-- The definition of a guard is complained about unless the header's name starts with a letter or a
digit. -/
theorem step_defining {c : Char} {stem : List Char}
    (written : site.line = .ofRaw .code ("#define ".toList ++ Includes.guardName (c :: stem)))
    (second : site.number = 2)
    (short : (("#define ".toList ++ Includes.guardName (c :: stem)).length : Int) ≤ settings.limit) :
    step settings site .initial =
      .ok (if c.isAlphanum then [] else [Includes.guardComplaint (Includes.guardName (c :: stem))],
        .initial) := by
  have bare : BareDirective ("#define ".toList ++ Includes.guardName (c :: stem)) :=
    Includes.bare_guardLines (c :: stem) _ (.tail _ (.head _))
  have code : (site.view settings .initial).code =
      "#define ".toList ++ Includes.guardName (c :: stem) := by
    show site.line.code = _
    rw [written, Line.ofRaw_of_letters bare.letters]
  have starts : (Includes.guardName (c :: stem)).head? = some (Includes.guardLetter c) := rfl
  have word : ∀ d ∈ Includes.guardName (c :: stem), isIdentRest d :=
    fun d => Includes.isIdentRest_of_mem_guardName
  rw [bare.step_initial written short, Definition.definitionLine_name starts bare code word,
    Includes.misnamed_guardName, Answer.ok_bind]
  cases c.isAlphanum with
  | true => rfl
  | false =>
    have reported : report site
        [Kind.macroNameNotScreaming.quoting ⟨8, Includes.guardName (c :: stem)⟩] =
          .ok [Includes.guardComplaint (Includes.guardName (c :: stem))] := by
      rw [report, List.mapM_cons, List.mapM_nil, second]
      exact congrArg (· >>= _) (Includes.onLine_guard (Includes.guardName (c :: stem)))
    exact congrArg (· >>= _) reported

theorem diagnostics_guardLines {c : Char} {stem : List Char}
    (short : (("#define ".toList ++ Includes.guardName (c :: stem)).length : Int) ≤ settings.limit) :
    Scan.diagnostics settings
        (Line.ofRaws (Includes.guardLines (Includes.guardName (c :: stem)))) =
      .ok (if c.isAlphanum then []
        else [Includes.guardComplaint (Includes.guardName (c :: stem))]) := by
  have bare := Includes.bare_guardLines (c :: stem)
  rw [Scan.diagnostics, records, BareDirective.ofRaws_eq bare]
  simp only [Includes.guardLines, List.forall_mem_cons] at bare
  obtain ⟨opening, -, closing, -⟩ := bare
  have shortOpening : (("#ifndef ".toList ++ Includes.guardName (c :: stem)).length : Int) ≤
      settings.limit := by
    have same : "#ifndef ".toList.length = "#define ".toList.length := by decide
    rwa [List.length_append, same, ← List.length_append]
  have shortClosing : ("#endif".toList.length : Int) ≤ settings.limit := by
    rw [List.length_append] at short
    have shorter : "#endif".toList.length ≤ "#define ".toList.length := by decide
    omega
  have first : ∀ after, step settings
      ⟨0, [], .ofRaw .code ("#ifndef ".toList ++ Includes.guardName (c :: stem)), after⟩ .initial =
        .ok ([], .initial) := by
    intro after
    have other : ¬ "define".toList <+: "ifndef ".toList ++ Includes.guardName (c :: stem) := by
      rintro ⟨rest, same⟩
      exact absurd (List.cons.inj same).1 (by decide)
    exact step_undefining opening rfl shortOpening rfl other
  have second : ∀ before after, step settings
      ⟨1, before, .ofRaw .code ("#define ".toList ++ Includes.guardName (c :: stem)), after⟩ .initial =
        .ok (if c.isAlphanum then [] else [Includes.guardComplaint (Includes.guardName (c :: stem))],
          .initial) :=
    fun before after => step_defining rfl rfl short
  have third : ∀ before, step settings ⟨2, before, .ofRaw .code "#endif".toList, []⟩ .initial =
      .ok ([], .initial) :=
    fun before => step_undefining closing rfl shortClosing rfl (by decide)
  simp only [Includes.guardLines, List.map_cons, List.map_nil, recordsFrom, first, second, third,
    Answer.ok_bind]
  cases c.isAlphanum <;> rfl

end Scan

/-! ## Headers -/

theorem Path.stem_ne_nil_of_isHeader {path : Path} (header : path.isHeader) :
    path.stem.toList ≠ [] := by
  rw [Path.isHeader, Path.suffix, beq_iff_eq] at header
  rw [Path.stem, String.toList_ofList]
  simp only [splitName] at header ⊢
  split at header
  next split =>
    rw [if_pos split]
    simp only [Bool.and_eq_true, Bool.not_eq_true', List.isEmpty_eq_false_iff] at split
    exact split.1.2
  next => exact absurd (show String.ofList [] = ".h" from header) (by decide)

/-- A header that holds nothing but the guard that its name asks for passes the check exactly if the
name starts with a letter or a digit. Any other name makes a guard that starts with an underscore,
which is no constant's name. -/
theorem checkText_guardText {settings : Settings} {path : Path} (header : path.isHeader)
    (short : (("#define ".toList ++ Includes.guardName path.stem.toList).length : Int) ≤
      settings.limit) :
    checkText settings path (Includes.guardText (Includes.guardName path.stem.toList)) =
      .ok (if path.stem.toList.head?.any Char.isAlphanum then []
        else [Includes.guardComplaint (Includes.guardName path.stem.toList)]) := by
  generalize named : path.stem.toList = stem at short ⊢
  obtain ⟨c, stem, rfl⟩ :=
    List.exists_cons_of_ne_nil (named ▸ Path.stem_ne_nil_of_isHeader header)
  rw [checkText_of_answers settings (Includes.diagnostics_guardText named)
    (Layout.diagnostics_guardText path _) (by
      rw [Includes.splitLines_guardText]
      exact ConstPointer.diagnostics_guardLines _), Includes.splitLines_guardText,
    Scan.diagnostics_guardLines short]
  cases alphanum : c.isAlphanum <;> simp [alphanum, Diagnostic.dedupe, Diagnostic.fresh]

/-- Dots and digits in a header's name do no harm. -/
theorem checkText_guardText_dotted :
    let path : Path := ⟨"", ["my-list.2.h"]⟩
    let guard := "MY_LIST_2_H".toList
    path.isHeader ∧ Includes.guardName path.stem.toList = guard ∧
      ((("#define ".toList ++ guard).length : Int) ≤ Settings.default.limit) ∧
      checkText .default path (Includes.guardText guard) = .ok [] := by
  intro path guard
  have header : path.isHeader := by decide
  have same : Includes.guardName path.stem.toList = guard := by decide
  have short : (("#define ".toList ++ guard).length : Int) ≤ Settings.default.limit := by decide
  have checked := @checkText_guardText .default path header (by rw [same]; exact short)
  rw [same, if_pos (by decide)] at checked
  exact ⟨header, same, short, checked⟩

/-- A header whose name starts with an underscore cannot be guarded without a complaint. -/
theorem checkText_guardText_underscore :
    let path : Path := ⟨"", ["_x.h"]⟩
    let guard := "_X_H".toList
    path.isHeader ∧ Includes.guardName path.stem.toList = guard ∧
      ((("#define ".toList ++ guard).length : Int) ≤ Settings.default.limit) ∧
      checkText .default path (Includes.guardText guard) = .ok [Includes.guardComplaint guard] := by
  decide +kernel

end HouseStyle
