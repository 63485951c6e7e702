import HouseStyle.Proofs.Characters
import HouseStyle.Proofs.Check
import HouseStyle.Proofs.File.Alike
import HouseStyle.Proofs.Scan.Alike
import HouseStyle.Proofs.Scan.Kinds

/-!
Contract: what a literal holds does not matter to the check.

Owns: the agreement of two whole checks, on texts that differ in the contents of literals.
Does not own: the agreement of each check, which `Proofs.File.Alike` and `Proofs.Scan.Alike` treat.

Complaints about a single character, those about characters beyond ASCII and about blanks at the end
of a line, are about the text as it is written, literals included. All others are the same. A line
that looks like a directive is excluded, for the name of an included file is written as a literal.

Main statement: `checkText_sameCode`.
-/

namespace HouseStyle

/-- Two texts whose lines differ in the contents of literals only, neither with a directive, are
checked alike: both checks fail with the same fault, or both find the same but for complaints about
single characters. -/
theorem checkText_sameCode (settings : Settings) (path : Path) {text other : List Char}
    (same : List.Forall₂ Line.SameCode (Line.ofRaws (Source.splitLines text))
      (Line.ofRaws (Source.splitLines other)))
    (ends : text.getLast? = some '\n' ↔ other.getLast? = some '\n')
    (plain : ∀ line ∈ Line.ofRaws (Source.splitLines text), line.Plain) :
    (checkText settings path text).map Diagnostic.besides =
      (checkText settings path other).map Diagnostic.besides := by
  have alike : List.Forall₂ Line.Alike (Line.ofRaws (Source.splitLines text))
      (Line.ofRaws (Source.splitLines other)) := Line.forall₂_alike same
  have plainToo : ∀ line ∈ Line.ofRaws (Source.splitLines other), line.Plain :=
    Line.forall_plain_of_sameCode same plain
  obtain ⟨includes, givenIncludes, reportedIncludes⟩ :=
    Includes.diagnostics_answers (.ofText path text)
  obtain ⟨layout, givenLayout, reportedLayout⟩ := Layout.diagnostics_answers (.ofText path text)
  obtain ⟨pointers, givenPointers, reportedPointers⟩ := ConstPointer.diagnostics_answers
    (Line.ofRaws (Source.splitLines text))
  have givenIncludesToo := givenIncludes
  rw [Includes.diagnostics_of_plain plain plainToo path] at givenIncludesToo
  have givenLayoutToo := givenLayout
  rw [Layout.diagnostics_of_alike alike ends path] at givenLayoutToo
  have givenPointersToo := givenPointers
  rw [ConstPointer.diagnostics_of_alike alike] at givenPointersToo
  rw [checkText_of_answers settings givenIncludes givenLayout givenPointers,
    checkText_of_answers settings givenIncludesToo givenLayoutToo givenPointersToo]
  apply Answer.map_bind_congr (Scan.diagnostics_of_alike settings alike plain plainToo)
  intro lines linesToo scanned scannedToo agree
  have besides : ∀ {lines : List Diagnostic}, Reported Kind.all lines →
      Diagnostic.besides (Diagnostic.dedupe [includes, layout, lines, pointers].flatten) =
        Diagnostic.dedupe (Diagnostic.besides includes ++ (Diagnostic.besides layout ++
          (Diagnostic.besides lines ++ Diagnostic.besides pointers))) := by
    intro lines reportedLines
    have reported : Reported Kind.all [includes, layout, lines, pointers].flatten := by
      apply Reported.flatten
      simp only [List.forall_mem_cons]
      exact ⟨reportedIncludes.all, reportedLayout.all, reportedLines, reportedPointers.all, nofun⟩
    rw [Diagnostic.besides_dedupe reported]
    simp only [List.flatten_cons, List.flatten_nil, List.append_nil, Diagnostic.besides_append]
  rw [Answer.pure_eq_ok, Answer.pure_eq_ok, Answer.map_ok, Answer.map_ok,
    besides (Scan.reported_of_diagnostics scanned),
    besides (Scan.reported_of_diagnostics scannedToo), agree]

/-- One program with two messages, the second with signs that break several rules in code. -/
theorem checkText_sameCode_message :
    let text := "void f(void)\n\x7b\n  puts(\"a, b\");\n\x7d\n".toList
    let other := "void f(void)\n\x7b\n  puts(\"é=\x7b;\");\n\x7d\n".toList
    text ≠ other ∧
      List.Forall₂ Line.SameCode (Line.ofRaws (Source.splitLines text))
        (Line.ofRaws (Source.splitLines other)) ∧
      (text.getLast? = some '\n' ↔ other.getLast? = some '\n') ∧
      (∀ line ∈ Line.ofRaws (Source.splitLines text), line.Plain) ∧
      (checkText .default ⟨"", ["main.c"]⟩ text).map Diagnostic.besides =
        (checkText .default ⟨"", ["main.c"]⟩ other).map Diagnostic.besides := by
  intro text other
  have same : List.Forall₂ Line.SameCode (Line.ofRaws (Source.splitLines text))
      (Line.ofRaws (Source.splitLines other)) := by
    decide +kernel
  have ends : text.getLast? = some '\n' ↔ other.getLast? = some '\n' := by
    decide +kernel
  have plain : ∀ line ∈ Line.ofRaws (Source.splitLines text), line.Plain := by
    decide +kernel
  exact ⟨by decide +kernel, same, ends, plain,
    checkText_sameCode .default ⟨"", ["main.c"]⟩ same ends plain⟩

end HouseStyle
