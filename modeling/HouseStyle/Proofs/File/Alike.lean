import HouseStyle.File.ConstPointer
import HouseStyle.File.Layout
import HouseStyle.Proofs.Directive
import HouseStyle.Proofs.Literals

/-!
Contract: the checks of whole files on lines that look alike and hold no directives.

Owns: the agreement of the checks on inclusions, on layout and on pointer parameters.
Does not own: the scan, which `Proofs.Scan.Alike` treats.

Function definitions are found in the code of a file alone. The layout is checked on lengths and on
blank lines, and without a directive there is neither an inclusion nor a guard.

Main statements: `Includes.diagnostics_of_plain`, `Layout.diagnostics_of_alike` and
`ConstPointer.diagnostics_of_alike`.
-/

namespace HouseStyle

/-! ## Function definitions -/

namespace FunctionDefinition

theorem line_of_alike (index : Nat) {head other : Line} (alike : head.Alike other)
    (progress : Progress) : line index head progress = line index other progress := by
  unfold line fileScopeLine
  rw [alike.hasCode_eq, alike.stripped_eq, alike.code]

theorem findFrom_of_alike (index : Nat) (progress : Progress) {lines others : List Line}
    (alike : List.Forall₂ Line.Alike lines others) :
    findFrom index progress lines = findFrom index progress others := by
  induction alike generalizing index progress with
  | nil => rfl
  | cons first _ inductionHypothesis =>
    simp only [findFrom, line_of_alike index first, inductionHypothesis]

theorem findAll_of_alike {lines others : List Line} (alike : List.Forall₂ Line.Alike lines others) :
    findAll lines = findAll others :=
  findFrom_of_alike 0 _ alike

end FunctionDefinition

/-! ## Pointer parameters -/

namespace ConstPointer

variable {lines others : List Line} (alike : List.Forall₂ Line.Alike lines others)
include alike

theorem map_code_of_alike : lines.map Line.code = others.map Line.code := by
  induction alike with
  | nil => rfl
  | cons first _ inductionHypothesis =>
    rw [List.map_cons, List.map_cons, first.code, inductionHypothesis]

theorem bodyText_of_alike (definition : FunctionDefinition) :
    bodyText lines definition = bodyText others definition := by
  unfold bodyText
  simp only [List.map_take, List.map_drop, map_code_of_alike alike]

theorem locateFrom_of_alike (word : Pattern) (index : Nat) :
    locateFrom word index lines = locateFrom word index others := by
  induction alike generalizing index with
  | nil => rfl
  | cons first _ inductionHypothesis =>
    simp only [locateFrom, first.code, inductionHypothesis]

theorem locate_of_alike (definition : FunctionDefinition) (name : List Char) :
    locate lines definition name = locate others definition name := by
  have heads := List.forall₂_take (definition.openLine + 1 - definition.headerLine)
    (List.forall₂_drop definition.headerLine alike)
  unfold locate
  simp only
  generalize (lines.drop definition.headerLine).take _ = head at heads ⊢
  generalize (others.drop definition.headerLine).take _ = headToo at heads ⊢
  cases heads with
  | nil => rfl
  | cons first rest => simp only [first.code, locateFrom_of_alike rest]

theorem diagnostics_of_alike :
    ConstPointer.diagnostics lines = ConstPointer.diagnostics others := by
  have suggestions : suggestion? lines = suggestion? others := by
    funext definition parameter
    unfold suggestion?
    simp only [bodyText_of_alike alike, locate_of_alike alike]
  unfold ConstPointer.diagnostics
  simp only [FunctionDefinition.findAll_of_alike alike, suggestions]

end ConstPointer

/-- What related lines have in common as they are written, the lines of two files have in common. -/
theorem Line.map_raws_of_forall₂ {α : Type} {relation : Line → Line → Prop}
    {reading : List Char → α}
    (same : ∀ line other : Line, relation line other → reading line.raw = reading other.raw)
    {raws others : List (List Char)}
    (related : List.Forall₂ relation (Line.ofRaws raws) (Line.ofRaws others)) :
    raws.map reading = others.map reading := by
  have lines : ∀ {lines others : List Line}, List.Forall₂ relation lines others →
      (lines.map Line.raw).map reading = (others.map Line.raw).map reading := by
    intro lines others related
    induction related with
    | nil => rfl
    | cons first _ inductionHypothesis =>
      simp only [List.map_cons, same _ _ first, inductionHypothesis]
  have whole := lines related
  rwa [Line.ofRaws, Line.ofRaws, Line.map_raw_ofRawsFrom, Line.map_raw_ofRawsFrom] at whole

/-! ## Layout -/

/-- Only the empty text has no lines. -/
theorem Source.splitLines_eq_nil_iff {text : List Char} : splitLines text = [] ↔ text = [] := by
  constructor
  · intro none
    unfold splitLines at none
    rw [List.map_eq_nil_iff] at none
    split at none
    next ended =>
      obtain ⟨before, pieces⟩ := List.getLast?_eq_some_iff.mp ended
      rw [pieces, List.dropLast_concat] at none
      have joined : ['\n'].intercalate (text.splitOn '\n') = text := List.intercalate_splitOn '\n'
      rw [← joined, pieces, none]
      rfl
    next => exact absurd none (List.splitOn_ne_nil _ _)
  · rintro rfl
    decide

namespace Layout

theorem trailingBlanks_eq (raws : List (List Char)) :
    trailingBlanks raws = ((raws.map Text.isBlankText).reverse.takeWhile id).length := by
  rw [trailingBlanks, ← List.map_reverse, List.takeWhile_map, List.length_map]
  rfl

variable {raws others : List (List Char)}

theorem betweenDiagnostics_of_blank
    (blank : raws.map Text.isBlankText = others.map Text.isBlankText)
    (previous next : FunctionDefinition) :
    betweenDiagnostics raws previous next = betweenDiagnostics others previous next := by
  have between : ((raws.take next.headerLine).drop (previous.closeLine + 1)).map Text.isBlankText =
      ((others.take next.headerLine).drop (previous.closeLine + 1)).map Text.isBlankText := by
    rw [List.map_drop, List.map_take, blank, ← List.map_take, ← List.map_drop]
  have inked : ∀ lines : List (List Char), (lines.any fun line => !Text.isBlankText line) =
      (lines.map Text.isBlankText).any (! ·) := by
    intro lines
    rw [List.any_map]
    rfl
  have length := congrArg List.length between
  rw [List.length_map, List.length_map] at length
  have empty : ((raws.take next.headerLine).drop (previous.closeLine + 1)).isEmpty =
      ((others.take next.headerLine).drop (previous.closeLine + 1)).isEmpty := by
    rw [Bool.eq_iff_iff, List.isEmpty_iff_length_eq_zero, List.isEmpty_iff_length_eq_zero, length]
  unfold betweenDiagnostics
  simp only [inked, between, empty, length]

/-- The layout of a file is that of another whose lines look alike, if both or neither end with a
line end. -/
theorem diagnostics_of_alike {text other : List Char}
    (alike : List.Forall₂ Line.Alike (Line.ofRaws (Source.splitLines text))
      (Line.ofRaws (Source.splitLines other)))
    (ends : text.getLast? = some '\n' ↔ other.getLast? = some '\n') (path : Path) :
    Layout.diagnostics (.ofText path text) = Layout.diagnostics (.ofText path other) := by
  have blank := Line.map_raws_of_forall₂ (fun _ _ same => same.isBlank_eq) alike
  have lengths := Line.map_raws_of_forall₂ (fun _ _ same => same.length) alike
  have count : (Source.splitLines text).length = (Source.splitLines other).length := by
    rw [← List.length_map List.length, lengths, List.length_map]
  have last : ((Source.splitLines text).getLastD []).length =
      ((Source.splitLines other).getLastD []).length := by
    have final : ∀ raws : List (List Char),
        (raws.getLastD []).length = (raws.map List.length).getLastD 0 := by
      intro raws
      rw [List.getLastD_eq_getLast?, List.getLastD_eq_getLast?, List.getLast?_map]
      cases raws.getLast? <;> rfl
    rw [final, final, lengths]
  have empty : text.isEmpty = other.isEmpty := by
    rw [Bool.eq_iff_iff, List.isEmpty_iff, List.isEmpty_iff, ← Source.splitLines_eq_nil_iff,
      ← Source.splitLines_eq_nil_iff, ← List.length_eq_zero_iff, ← List.length_eq_zero_iff, count]
  have ended : (text.getLast? == some '\n') = (other.getLast? == some '\n') := by
    rw [Bool.eq_iff_iff, beq_iff_eq, beq_iff_eq, ends]
  have ending : endDiagnostics (.ofText path text) = endDiagnostics (.ofText path other) := by
    unfold endDiagnostics SourceFile.ofText
    simp only [empty, ended, count, last]
  have trailing : trailingDiagnostics (.ofText path text) =
      trailingDiagnostics (.ofText path other) := by
    unfold trailingDiagnostics SourceFile.ofText
    simp only [trailingBlanks_eq, blank, count]
  have spacing : spacingDiagnostics (.ofText path text) =
      spacingDiagnostics (.ofText path other) := by
    unfold spacingDiagnostics SourceFile.ofText
    simp only [FunctionDefinition.findAll_of_alike alike, betweenDiagnostics_of_blank blank]
  rw [Layout.diagnostics, Layout.diagnostics, ending, trailing, spacing]

end Layout

/-! ## Inclusions -/

namespace Includes

theorem ofLine?_eq_none {line : Line}
    (noHash : ((Text.trimLeft line.code).head? == some '#') = false) (number : Nat) :
    ofLine? number line = none := by
  unfold ofLine?
  cases Lexicon.inclusion.matchStart? line.raw with
  | none => rfl
  | some found => cases found.part? .target <;> simp [noHash]

theorem fromLines_of_plain {lines : List Line} (plain : ∀ line ∈ lines, line.Plain) (number : Nat) :
    fromLines number lines = [] := by
  induction lines generalizing number with
  | nil => rfl
  | cons line rest inductionHypothesis =>
    obtain ⟨first, others⟩ := List.forall_mem_cons.mp plain
    have none := ofLine?_eq_none (beq_eq_false_iff_ne.mpr first.code) number
    rw [fromLines, none, inductionHypothesis others]
    rfl

/-- Without directives the check on inclusions depends on the path alone. -/
theorem diagnostics_of_plain {text other : List Char}
    (plain : ∀ line ∈ Line.ofRaws (Source.splitLines text), line.Plain)
    (plainToo : ∀ line ∈ Line.ofRaws (Source.splitLines other), line.Plain) (path : Path) :
    Includes.diagnostics (.ofText path text) = Includes.diagnostics (.ofText path other) := by
  have guard : ∀ {text : List Char},
      (∀ line ∈ Line.ofRaws (Source.splitLines text), line.Plain) →
      guardDiagnostics (.ofText path text) = (do
        let diagnostic ← Kind.missingHeaderGuard.diagnostic 1 0 0
          [.word (String.ofList (guardName path.stem.toList))]
        return [diagnostic]) := by
    intro text plain
    have noHash : ∀ raw ∈ Source.splitLines text, (Text.trimLeft raw).head? ≠ some '#' := by
      intro raw member
      rw [← Line.map_raw_ofRawsFrom .code (Source.splitLines text)] at member
      obtain ⟨line, among, rfl⟩ := List.mem_map.mp member
      exact (plain line among).raw
    have noGuard : ∀ guard, hasGuard guard (Source.splitLines text) = false := by
      intro guard
      rw [← Bool.not_eq_true]
      intro guarded
      obtain ⟨raw, member, hash⟩ := exists_hash_of_hasGuard guarded
      exact noHash raw member hash
    have noPragma : (Source.splitLines text).findIdx? (fun raw => pragmaOnce.fits raw) = none := by
      rw [List.findIdx?_eq_none_iff]
      intro raw member
      rw [← Bool.not_eq_true]
      intro fits
      exact noHash raw member (head?_of_pragmaOnce fits)
    unfold guardDiagnostics SourceFile.ofText
    simp only [noGuard, noPragma]
  have none : ∀ {text : List Char},
      (∀ line ∈ Line.ofRaws (Source.splitLines text), line.Plain) →
        fromLines 1 (SourceFile.ofText path text).lines = [] :=
    fun plain => fromLines_of_plain plain 1
  have samePath : ∀ text, (SourceFile.ofText path text).path = path := fun _ => rfl
  unfold Includes.diagnostics
  simp only [none plain, none plainToo, samePath, guard plain, guard plainToo]

end Includes

end HouseStyle
