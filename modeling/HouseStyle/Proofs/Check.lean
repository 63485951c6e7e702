import HouseStyle.Check
import HouseStyle.Proofs.Lookup
import HouseStyle.Proofs.Scan.Course

/-!
Contract: when a check fails.

Owns: the numbers that make a check fail, and the proof that nothing else does.
Does not own: how deep control words may be chained, which settings may limit, and where the limit
for the length of lines comes from, which `Proofs.Limits` treats.

The checks of whole files always answer. A scan whose chains of control words are not limited fails
on a line for one reason only, a number with more digits than may be read, and the first such number
in the order of the lines is the fault. With a limit that has too many digits to be written the first
line with ink on it makes the scan fail, before its numbers are read.

Main statement: `checkText_answers`.
-/

namespace HouseStyle

namespace Scan

/-- The first number on the line of an index that is too long to be read, unless numbers on the line
are not read: where there is no code, in inclusions and definitions, in enumerations, and beside the
word that opens one. -/
def longNumberAt? (lines : List Line) (index : Nat) : Option Excerpt := do
  let site ← Site.at? lines index
  if site.line.hasCode && !Lexicon.inclusion.fits site.line.raw &&
      !Lexicon.definition.fits site.line.code && !Call.enumWord.occurs site.line.code &&
      (stateBefore lines index).scope != some .enum then
    ((Call.number.findAll site.line.masked).map Match.whole).find? fun number =>
      Text.digitLimit < number.length
  else none

/-- The first number of a file, in the order of the lines, that is too long to be read. -/
def longNumber? (lines : List Line) : Option Excerpt :=
  (List.range lines.length).findSome? (longNumberAt? lines)

section Writable

variable {style : Style} {limit : Int} (writable : Settings.Writable ⟨style, limit, none⟩)
include writable

end Writable

section Writes

variable {style : Style} {limit : Int} {raws : List (List Char)}

end Writes

/-- The scan fails on its limit exactly if it does not get by with it. -/
theorem diagnostics_eq_error_iff {settings : Settings} {lines : List Line} :
    Scan.diagnostics settings lines = .error (.numeralTooLong none) ↔
      ¬ WritesLimit settings lines := by
  rw [← fault_run_eq_some_iff, Scan.diagnostics, records_eq_run]
  cases run settings lines with
  | mk scanned fault? => cases fault? <;> simp

end Scan

/-- The checks of whole files always answer, so a check of a text fails where its scan does. -/
theorem checkText_of_answers (settings : Settings) {path : Path} {text : List Char}
    {includes layout pointers : List Diagnostic}
    (givenIncludes : Includes.diagnostics (.ofText path text) = .ok includes)
    (givenLayout : Layout.diagnostics (.ofText path text) = .ok layout)
    (givenPointers : ConstPointer.diagnostics (Line.ofRaws (Source.splitLines text)) =
      .ok pointers) :
    checkText settings path text = (do
      let lines ← Scan.diagnostics settings (Line.ofRaws (Source.splitLines text))
      return Diagnostic.dedupe [includes, layout, lines, pointers].flatten) := by
  have lines : (SourceFile.ofText path text).lines = Line.ofRaws (Source.splitLines text) := rfl
  simp only [checkText, checkFile, Checker.all, List.mapM_cons, List.mapM_nil, Checker.run,
    givenIncludes, givenLayout, lines, givenPointers, Answer.ok_bind]
  cases Scan.diagnostics settings (Line.ofRaws (Source.splitLines text)) <;> rfl

/-- A check of a text fails where its scan does, with the same fault, and answers otherwise. -/
theorem checkText_of_diagnostics (settings : Settings) (path : Path) (text : List Char) :
    ∃ collect : List Diagnostic → List Diagnostic, checkText settings path text =
      (Scan.diagnostics settings (Line.ofRaws (Source.splitLines text))).map collect := by
  obtain ⟨includes, givenIncludes, -⟩ := Includes.diagnostics_answers (.ofText path text)
  obtain ⟨layout, givenLayout, -⟩ := Layout.diagnostics_answers (.ofText path text)
  obtain ⟨pointers, givenPointers, -⟩ := ConstPointer.diagnostics_answers
    (Line.ofRaws (Source.splitLines text))
  refine ⟨fun lines => Diagnostic.dedupe [includes, layout, lines, pointers].flatten, ?_⟩
  rw [checkText_of_answers settings givenIncludes givenLayout givenPointers]
  cases Scan.diagnostics settings (Line.ofRaws (Source.splitLines text)) <;> rfl

/-- A check fails on its limit exactly if its scan does not get by with the limit. -/
theorem checkText_eq_error_iff (settings : Settings) (path : Path) (text : List Char) :
    checkText settings path text = .error (.numeralTooLong none) ↔
      ¬ Scan.WritesLimit settings (Line.ofRaws (Source.splitLines text)) := by
  obtain ⟨collect, checked⟩ := checkText_of_diagnostics settings path text
  rw [checked, ← Scan.diagnostics_eq_error_iff]
  cases Scan.diagnostics settings (Line.ofRaws (Source.splitLines text)) with
  | error fault => exact Iff.rfl
  | ok found => exact ⟨nofun, nofun⟩

theorem checkText_ne_error_of_writable {settings : Settings} (writable : settings.Writable)
    (path : Path) (text : List Char) :
    checkText settings path text ≠ .error (.numeralTooLong none) :=
  fun fails => (checkText_eq_error_iff settings path text).mp fails (.inl writable)

/-- A line of one letter, on which there is no number, and a limit of 5001 digits. -/
theorem checkText_not_writable :
    let text := "a\n".toList
    Scan.longNumber? (Line.ofRaws (Source.splitLines text)) = none ∧
      checkText ⟨.kr, -10 ^ 5000, none⟩ (.ofString "a.c") text = .error (.numeralTooLong none) := by
  intro text
  have short : Scan.longNumber? (Line.ofRaws (Source.splitLines text)) = none := by decide +kernel
  have line : Line.ofRaw .code ['a'] ∈ Line.ofRaws (Source.splitLines text) := by decide +kernel
  have inked : ¬ (Line.ofRaw .code ['a']).isBlank := by decide +kernel
  have unwritable : ¬ Settings.Writable ⟨.kr, -10 ^ 5000, none⟩ :=
    Settings.not_writable_of_pow .kr none (by decide)
  exact ⟨short, (checkText_eq_error_iff _ _ text).mpr (Scan.not_writesLimit unwritable line inked)⟩

end HouseStyle
