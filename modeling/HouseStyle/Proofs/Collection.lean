import HouseStyle.Proofs.Check
import HouseStyle.Proofs.Scan.Kinds

/-!
Contract: the diagnostics of a whole check, collected from the checks of files and the scan.

Owns: where a collected diagnostic comes from, and what becomes of a diagnostic of the scan.
Does not own: what the single checks find.

A check that answers has scanned every line. Of what it found it keeps the first diagnostic with
each place and message.

Main statements: `origin_of_mem_checkText` and `exists_key_of_scanned`.
-/

namespace HouseStyle

/-- The kinds of complaints about a whole file. -/
def Checker.fileKinds : List Kind :=
  Includes.kinds ++ Layout.kinds ++ [.pointerCouldBeConst]

section Text

variable {settings : Settings} {path : Path} {text : List Char} {diagnostics : List Diagnostic}
  (answers : checkText settings path text = .ok diagnostics)
include answers

/-- A check that answers keeps one of each of the complaints about whole files and of the scan. -/
theorem exists_of_checkText :
    ∃ before scanned after, Reported Checker.fileKinds (before ++ after) ∧
      Scan.diagnostics settings (Line.ofRaws (Source.splitLines text)) = .ok scanned ∧
      diagnostics = Diagnostic.dedupe (before ++ (scanned ++ after)) := by
  obtain ⟨includes, givenIncludes, onlyIncludes⟩ := Includes.diagnostics_answers (.ofText path text)
  obtain ⟨layout, givenLayout, onlyLayout⟩ := Layout.diagnostics_answers (.ofText path text)
  obtain ⟨pointers, givenPointers, onlyPointers⟩ := ConstPointer.diagnostics_answers
    (Line.ofRaws (Source.splitLines text))
  rw [checkText_of_answers settings givenIncludes givenLayout givenPointers] at answers
  obtain ⟨scanned, given, answers⟩ := Answer.bind_eq_ok.mp answers
  cases answers
  refine ⟨includes ++ layout, scanned, pointers, ?_, given, by simp⟩
  exact Reported.append.mpr ⟨Reported.append.mpr
    ⟨onlyIncludes.mono (by decide), onlyLayout.mono (by decide)⟩, onlyPointers.mono (by decide)⟩

theorem reported_of_checkText : Reported Kind.all diagnostics := by
  obtain ⟨before, scanned, after, reported, given, rfl⟩ := exists_of_checkText answers
  obtain ⟨early, late⟩ := Reported.append.mp reported
  have all : Reported Kind.all (before ++ (scanned ++ after)) := Reported.append.mpr
    ⟨early.all, Reported.append.mpr ⟨Scan.reported_of_diagnostics given, late.all⟩⟩
  exact fun diagnostic member => all diagnostic (Diagnostic.mem_of_mem_fresh member)

/-- A collected diagnostic is a complaint about the whole file, or the scan reports it on a line. -/
theorem origin_of_mem_checkText :
    ∀ diagnostic ∈ diagnostics, (∃ kind ∈ Checker.fileKinds, diagnostic.IsOf kind) ∨
      ∃ record ∈ (Scan.run settings (Line.ofRaws (Source.splitLines text))).1,
        diagnostic ∈ record.diagnostics := by
  obtain ⟨before, scanned, after, reported, given, rfl⟩ := exists_of_checkText answers
  intro diagnostic member
  rw [(Scan.run_of_diagnostics given).1] at member
  rcases List.mem_append.mp (Diagnostic.mem_of_mem_fresh member) with early | later
  · exact .inl (reported diagnostic (List.mem_append_left _ early))
  · rcases List.mem_append.mp later with here | late
    · exact .inr (List.mem_flatMap.mp here)
    · exact .inl (reported diagnostic (List.mem_append_right _ late))

/-- Of what the scan reports, one diagnostic with the same place and message is kept. -/
theorem exists_key_of_scanned {record : Scan.Record}
    (recorded : record ∈ (Scan.run settings (Line.ofRaws (Source.splitLines text))).1) :
    ∀ diagnostic ∈ record.diagnostics, ∃ other ∈ diagnostics, other.key = diagnostic.key := by
  obtain ⟨before, scanned, after, -, given, rfl⟩ := exists_of_checkText answers
  intro diagnostic member
  apply Diagnostic.exists_key_of_mem
  rw [(Scan.run_of_diagnostics given).1]
  exact List.mem_append_right _ (List.mem_append_left _ (List.mem_flatMap.mpr
    ⟨record, recorded, member⟩))

/-- A check that answers has scanned every line. -/
theorem exists_record_of_checkText {index : Nat}
    (inside : index < (Line.ofRaws (Source.splitLines text)).length) :
    ∃ record, (Scan.run settings (Line.ofRaws (Source.splitLines text))).1[index]? =
      some record := by
  obtain ⟨before, scanned, after, -, given, -⟩ := exists_of_checkText answers
  rw [← (Scan.run_of_diagnostics given).2] at inside
  exact ⟨_, List.getElem?_eq_getElem inside⟩

end Text

end HouseStyle
