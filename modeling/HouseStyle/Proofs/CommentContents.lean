import HouseStyle.Proofs.Check
import HouseStyle.Proofs.File.Inclusions
import HouseStyle.Proofs.Scan.Reading

/-!
Contract: what a comment holds does not matter to the check, but for its marks and for directives.

Owns: the agreement of two whole checks, on texts that differ in the characters of comments.
Does not own: the agreement of each check, which `Proofs.File.Inclusions`, `Proofs.File.Alike` and
`Proofs.Scan.Reading` treat.

The check looks for a few marks in comments. Besides, two readings see the line as it is written and
do not ask where a comment is. The lines that protect a header are read inside comments as well, so a
guard that is commented out still guards. And an inclusion is read up to the end of its target, even
if a comment starts before that, or ends before the directive and leaves code behind it.

Main statement: `checkText_sameBesideComments`.
-/

namespace HouseStyle

/-- A line whose comments the check of a file with the given path does not act on. -/
structure Line.IdleComments (path : Path) (line : Line) : Prop where
  quiet : line.Quiet
  clear : line.InclusionClear
  unguarded : path.isHeader → line.before = .block →
    Includes.protects (Includes.guardName path.stem.toList) line.raw = false

instance (path : Path) (line : Line) : Decidable (line.IdleComments path) :=
  decidable_of_iff (line.Quiet ∧ line.InclusionClear ∧ (path.isHeader → line.before = .block →
    Includes.protects (Includes.guardName path.stem.toList) line.raw = false))
    ⟨fun ⟨quiet, clear, unguarded⟩ => ⟨quiet, clear, unguarded⟩,
      fun ⟨quiet, clear, unguarded⟩ => ⟨quiet, clear, unguarded⟩⟩

namespace Line

/-- Two lines that differ in idle comments. -/
structure SameBesideIdle (path : Path) (line other : Line) : Prop where
  same : line.SameBesideComments other
  idle : line.IdleComments path
  idleToo : other.IdleComments path

theorem forall₂_sameBesideIdle {path : Path} {lines others : List Line}
    (same : List.Forall₂ SameBesideComments lines others)
    (idle : ∀ line ∈ lines ++ others, line.IdleComments path) :
    List.Forall₂ (SameBesideIdle path) lines others := by
  induction same with
  | nil => exact .nil
  | @cons line other lines others first _ inductionHypothesis =>
    obtain ⟨here, later⟩ := List.forall_mem_append.mp idle
    obtain ⟨hereFirst, hereRest⟩ := List.forall_mem_cons.mp here
    obtain ⟨laterFirst, laterRest⟩ := List.forall_mem_cons.mp later
    exact .cons ⟨first, hereFirst, laterFirst⟩
      (inductionHypothesis (List.forall_mem_append.mpr ⟨hereRest, laterRest⟩))

namespace SameBesideIdle

variable {path : Path} {before otherBefore : CommentState} {raw otherRaw : List Char}
  (related : SameBesideIdle path (ofRaw before raw) (ofRaw otherBefore otherRaw))
include related

/-- A scan reads the same of lines that differ in idle comments. -/
theorem readsAs : (ofRaw before raw).ReadsAs (ofRaw otherBefore otherRaw) where
  toAlike := related.same.alike related.idle.quiet related.idleToo.quiet
  trailing := related.same.trailing_eq related.idle.quiet related.idleToo.quiet
  foreign := related.same.firstForeign?_eq
  inclusion := Includes.fits_eq related.same related.idle.clear related.idleToo.clear
  continues := related.same.continues_eq related.idle.quiet related.idleToo.quiet

theorem ofLine?_outlined (number : Nat) :
    (Includes.ofLine? number (ofRaw before raw)).map Includes.Inclusion.outlined =
      (Includes.ofLine? number (ofRaw otherBefore otherRaw)).map Includes.Inclusion.outlined :=
  Includes.ofLine?_outlined related.same related.idle.clear related.idleToo.clear
    related.readsAs.margin number

theorem reading_eq (header : path.isHeader) :
    ∀ reading ∈ Includes.readings (Includes.guardName path.stem.toList),
      reading raw = reading otherRaw :=
  Includes.reading_eq related.same (Includes.noSlash_guardName _) (related.idle.unguarded header)
    (related.idleToo.unguarded header)

end SameBesideIdle

end Line

/-- Two texts that differ only in the characters of comments, idle ones in both, get the same answer
from the check: the same fault, or the same diagnostics. -/
theorem checkText_sameBesideComments (settings : Settings) (path : Path) {text other : List Char}
    (same : List.Forall₂ Line.SameBesideComments (Line.ofRaws (Source.splitLines text))
      (Line.ofRaws (Source.splitLines other)))
    (ends : text.getLast? = some '\n' ↔ other.getLast? = some '\n')
    (idle : ∀ line ∈ Line.ofRaws (Source.splitLines text) ++ Line.ofRaws (Source.splitLines other),
      line.IdleComments path) :
    checkText settings path text = checkText settings path other := by
  have related : List.Forall₂ (Line.SameBesideIdle path)
      (Line.ofRaws (Source.splitLines text)) (Line.ofRaws (Source.splitLines other)) :=
    Line.forall₂_sameBesideIdle same idle
  have reads : List.Forall₂ Line.ReadsAs (Line.ofRaws (Source.splitLines text))
      (Line.ofRaws (Source.splitLines other)) :=
    Line.forall₂_of_ofRaw Line.SameBesideIdle.readsAs related
  have alike := Scan.forall₂_alike_of_readsAs reads
  have inclusions := Includes.fromLines_outlined
    (Line.forall₂_of_ofRaw Line.SameBesideIdle.ofLine?_outlined related) 1
  have guard : path.isHeader → Includes.guardDiagnostics (.ofText path text) =
      Includes.guardDiagnostics (.ofText path other) := by
    intro header
    apply Includes.guardDiagnostics_of_readings
    · exact Line.map_raws_of_forall₂ (fun _ _ similar => similar.length) alike
    · intro reading member
      have read : List.Forall₂ (fun line other => reading line.raw = reading other.raw)
          (Line.ofRaws (Source.splitLines text)) (Line.ofRaws (Source.splitLines other)) :=
        Line.forall₂_of_ofRaw (fun differing => differing.reading_eq header reading member) related
      exact Line.map_raws_of_forall₂ (fun _ _ agree => agree) read
  have includes : Includes.diagnostics (.ofText path text) =
      Includes.diagnostics (.ofText path other) :=
    Includes.diagnostics_of_outlined rfl inclusions guard
  have lines : ∀ text, (SourceFile.ofText path text).lines = Line.ofRaws (Source.splitLines text) :=
    fun _ => rfl
  unfold checkText checkFile
  simp only [Checker.all, List.mapM_cons, List.mapM_nil, Checker.run, includes, lines,
    Layout.diagnostics_of_alike alike ends path, Scan.diagnostics_of_readsAs settings reads,
    ConstPointer.diagnostics_of_alike alike]

/-- A header with an inclusion that is commented out, and comments behind two directives. -/
theorem checkText_sameBesideComments_header :
    let text := ("/* old:\n#include <b.h>\n*/\n#ifndef A_H\n#define A_H\n" ++
      "#include <sys/a.h> // all\n#endif // A_H\n").toList
    let other := ("/* odd:\n#inclose <B:#>\n*/\n#ifndef A_H\n#define A_H\n" ++
      "#include <sys/a.h> // é<\"\n#endif // #/*\n").toList
    text ≠ other ∧
      List.Forall₂ Line.SameBesideComments (Line.ofRaws (Source.splitLines text))
        (Line.ofRaws (Source.splitLines other)) ∧
      (text.getLast? = some '\n' ↔ other.getLast? = some '\n') ∧
      (∀ line ∈ Line.ofRaws (Source.splitLines text) ++ Line.ofRaws (Source.splitLines other),
        line.IdleComments ⟨"", ["a.h"]⟩) ∧
      checkText .default ⟨"", ["a.h"]⟩ text = checkText .default ⟨"", ["a.h"]⟩ other := by
  intro text other
  have same : List.Forall₂ Line.SameBesideComments (Line.ofRaws (Source.splitLines text))
      (Line.ofRaws (Source.splitLines other)) := by
    decide +kernel
  have ends : text.getLast? = some '\n' ↔ other.getLast? = some '\n' := by
    decide +kernel
  have idle : ∀ line ∈ Line.ofRaws (Source.splitLines text) ++
      Line.ofRaws (Source.splitLines other), line.IdleComments ⟨"", ["a.h"]⟩ := by
    decide +kernel
  exact ⟨by decide +kernel, same, ends, idle,
    checkText_sameBesideComments .default ⟨"", ["a.h"]⟩ same ends idle⟩

/-- A guard that is commented out guards its header, and another word in its place does not. -/
theorem checkText_commented_guard :
    let text := "/*\n#ifndef A_H\n#define A_H\n#endif\n*/\n".toList
    let other := "/*\n#ifndef B_H\n#define A_H\n#endif\n*/\n".toList
    List.Forall₂ Line.SameBesideComments (Line.ofRaws (Source.splitLines text))
        (Line.ofRaws (Source.splitLines other)) ∧
      (text.getLast? = some '\n' ↔ other.getLast? = some '\n') ∧
      (∀ line ∈ Line.ofRaws (Source.splitLines text) ++ Line.ofRaws (Source.splitLines other),
        line.Quiet) ∧
      checkText .default ⟨"", ["a.h"]⟩ text = .ok [] ∧
      (checkText .default ⟨"", ["a.h"]⟩ other).map (List.map Diagnostic.kind) =
        .ok ["MISSING_HEADER_GUARD"] := by
  decide +kernel

end HouseStyle
