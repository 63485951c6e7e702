import HouseStyle.Diagnostic.Basic
import HouseStyle.Proofs.Answer
import Mathlib.Data.List.Forall2
import Mathlib.Data.List.Nodup

/-!
Contract: which kind a diagnostic is of, and which messages tell kinds apart.

Owns: diagnostics with a message of their kind, the fixed texts around the arguments of a message,
what is left of duplicates, and dropping them from a part of the diagnostics.
Does not own: which diagnostics a check finds.

Duplicates are found by place and message, whatever the kind. Dropping some kinds before or after
the duplicates makes no difference as long as no message of a dropped kind is one of a kept kind.

Main statements: `isPrefix_of_format`, `isSuffix_of_format` and `filter_dedupe`.
-/

namespace HouseStyle

/-! ## Kinds -/

/-- A diagnostic of a kind, with a message that the template of the kind gives. -/
def Diagnostic.IsOf (diagnostic : Diagnostic) (kind : Kind) : Prop :=
  diagnostic.kind = kind.name ∧
    ∃ arguments, kind.template.format arguments = .ok diagnostic.message

theorem Kind.isOf_of_diagnostic {kind : Kind} {line column length : Int}
    {arguments : List Argument} {diagnostic : Diagnostic}
    (given : kind.diagnostic line column length arguments = .ok diagnostic) :
    diagnostic.IsOf kind := by
  obtain ⟨message, written, given⟩ := Answer.bind_eq_ok.mp given
  cases given
  exact ⟨rfl, arguments, written⟩

/-- Diagnostics of the given kinds. -/
def Reported (kinds : List Kind) (diagnostics : List Diagnostic) : Prop :=
  ∀ diagnostic ∈ diagnostics, ∃ kind ∈ kinds, diagnostic.IsOf kind

namespace Reported

variable {kinds others : List Kind} {diagnostics more : List Diagnostic}

@[simp] theorem nil : Reported kinds [] := by
  intro diagnostic member
  exact absurd member List.not_mem_nil

@[simp] theorem append :
    Reported kinds (diagnostics ++ more) ↔ Reported kinds diagnostics ∧ Reported kinds more :=
  List.forall_mem_append

theorem mono (reported : Reported kinds diagnostics) (sub : kinds ⊆ others) :
    Reported others diagnostics := by
  intro diagnostic member
  obtain ⟨kind, among, same⟩ := reported diagnostic member
  exact ⟨kind, sub among, same⟩

theorem flatten {lists : List (List Diagnostic)}
    (each : ∀ diagnostics ∈ lists, Reported kinds diagnostics) : Reported kinds lists.flatten := by
  intro diagnostic member
  obtain ⟨diagnostics, among, inside⟩ := List.mem_flatten.mp member
  exact each diagnostics among diagnostic inside

end Reported

/-- Whether a diagnostic is kept depends on its kind. -/
def Kind.Decides (keeps : Kind → Bool) (kept : Diagnostic → Bool) : Prop :=
  ∀ diagnostic kind, Diagnostic.IsOf diagnostic kind → kept diagnostic = keeps kind

/-- A complaint whose arguments fit its message is given. -/
theorem Kind.diagnostic_answers {kind : Kind} {kinds : List Kind} (member : kind ∈ kinds)
    (line column length : Int) {arguments : List Argument}
    (printable : ∃ message, kind.template.format arguments = .ok message) :
    ∃ diagnostic, kind.diagnostic line column length arguments = .ok diagnostic ∧
      Reported kinds [diagnostic] := by
  obtain ⟨message, written⟩ := printable
  have given : kind.diagnostic line column length arguments =
      .ok ⟨line, max column 0, max length 0, kind.severity, kind.name, message⟩ := by
    rw [diagnostic, written]
    rfl
  refine ⟨_, given, ?_⟩
  intro other same
  rw [List.mem_singleton.mp same]
  exact ⟨kind, member, Kind.isOf_of_diagnostic given⟩

theorem Reported.exists_mapM {α : Type} {kinds : List Kind} {answer : α → Except Fault Diagnostic}
    {questions : List α}
    (answers : ∀ question ∈ questions, ∃ diagnostic, answer question = .ok diagnostic ∧
      Reported kinds [diagnostic]) :
    ∃ diagnostics, questions.mapM answer = .ok diagnostics ∧ Reported kinds diagnostics := by
  obtain ⟨diagnostics, given, each⟩ := Answer.mapM_answers answers
  refine ⟨diagnostics, given, ?_⟩
  intro diagnostic member
  obtain ⟨-, -, known⟩ := each diagnostic member
  exact known diagnostic (List.mem_singleton_self _)

theorem Kind.mem_all (kind : Kind) : kind ∈ Kind.all := by
  cases kind <;> decide

theorem Reported.all {kinds : List Kind} {diagnostics : List Diagnostic}
    (reported : Reported kinds diagnostics) : Reported Kind.all diagnostics :=
  reported.mono fun kind _ => kind.mem_all

/-- The printed names tell the kinds apart. -/
theorem Kind.name_injective : Function.Injective Kind.name := by
  have distinct : (Kind.all.map Kind.name).Nodup := by decide +kernel
  intro kind other same
  exact List.inj_on_of_nodup_map distinct kind.mem_all other.mem_all same

/-- Among diagnostics of the given kinds there is none of another kind. -/
theorem Reported.kind_ne {kinds : List Kind} {diagnostics : List Diagnostic} {kind : Kind}
    (reported : Reported kinds diagnostics) (other : kind ∉ kinds) :
    ∀ diagnostic ∈ diagnostics, diagnostic.kind ≠ kind.name := by
  intro diagnostic member same
  obtain ⟨found, among, isOf⟩ := reported diagnostic member
  rw [Kind.name_injective (isOf.1.symm.trans same)] at among
  exact other among

/-! ## The fixed texts of a message -/

/-- A part of a message that can stand at a place of a template: a fixed text is written as it
is. -/
def Piece.Gives (piece : Piece) (part : String) : Prop :=
  ∀ content, piece = .text content → part = content

theorem Piece.gives_written (piece : Piece) : piece.Gives piece.written := by
  intro content same
  rw [same]
  rfl

namespace Template

/-- The text that every message of a template starts with. -/
def opening : Template → List Char
  | .text content :: _ => content.toList
  | _ => []

/-- The text that every message of a template ends with. -/
def ending : Template → List Char
  | [.text content] => content.toList
  | _ :: next :: pieces => ending (next :: pieces)
  | _ => []

variable {template : Template} {arguments : List Argument} {message : String}

theorem exists_parts_of_fill (filled : template.fill arguments = .ok message) :
    ∃ parts, List.Forall₂ Piece.Gives template parts ∧
      message.toList = parts.flatMap String.toList := by
  induction template generalizing arguments message with
  | nil =>
    cases arguments with
    | nil =>
      cases filled
      exact ⟨[], .nil, rfl⟩
    | cons => cases filled
  | cons piece pieces inductionHypothesis =>
    -- a fixed text takes no argument, every other place takes one
    have split : ∃ part others rest, piece.Gives part ∧ Template.fill pieces others = .ok rest ∧
        message = part ++ rest := by
      cases piece with
      | text content =>
        obtain ⟨rest, given, filled⟩ := Answer.bind_eq_ok.mp filled
        cases filled
        exact ⟨content, arguments, rest, Piece.gives_written (.text content), given, rfl⟩
      | word | decimal | hexadecimal =>
        cases arguments with
        | nil => cases filled
        | cons argument arguments =>
          obtain ⟨part, -, filled⟩ := Answer.bind_eq_ok.mp filled
          obtain ⟨rest, given, filled⟩ := Answer.bind_eq_ok.mp filled
          cases filled
          exact ⟨part, arguments, rest, nofun, given, rfl⟩
    obtain ⟨part, others, rest, gives, given, rfl⟩ := split
    obtain ⟨parts, each, whole⟩ := inductionHypothesis given
    refine ⟨part :: parts, .cons gives each, ?_⟩
    rw [String.toList_append, whole, List.flatMap_cons]

/-- A message is put together of parts, one for each piece of its template. -/
theorem exists_parts_of_format (formatted : template.format arguments = .ok message) :
    ∃ parts, List.Forall₂ Piece.Gives template parts ∧
      message.toList = parts.flatMap String.toList := by
  unfold format at formatted
  split at formatted
  · cases formatted
    refine ⟨template.map Piece.written, ?_, ?_⟩
    · exact List.forall₂_map_right_iff.mpr (List.forall₂_same.mpr fun piece _ => piece.gives_written)
    · rw [written, String.toList_join]
  · exact exists_parts_of_fill formatted

theorem isPrefix_of_parts {parts : List String} (each : List.Forall₂ Piece.Gives template parts) :
    template.opening <+: parts.flatMap String.toList := by
  unfold opening
  split
  next content pieces =>
    obtain ⟨part, rest, gives, -, rfl⟩ := List.forall₂_cons_left_iff.mp each
    rw [gives content rfl, List.flatMap_cons]
    exact List.prefix_append _ _
  next => exact List.nil_prefix

theorem isPrefix_of_format (formatted : template.format arguments = .ok message) :
    template.opening <+: message.toList := by
  obtain ⟨parts, each, whole⟩ := exists_parts_of_format formatted
  rw [whole]
  exact isPrefix_of_parts each

theorem isSuffix_of_parts {parts : List String} (each : List.Forall₂ Piece.Gives template parts) :
    template.ending <:+ parts.flatMap String.toList := by
  induction each with
  | nil => exact List.nil_suffix
  | @cons piece part pieces parts gives rest inductionHypothesis =>
    cases pieces with
    | nil =>
      cases rest
      cases piece with
      | text content =>
        rw [gives content rfl, List.flatMap_singleton]
        exact List.suffix_refl _
      | word | decimal | hexadecimal => exact List.nil_suffix
    | cons next pieces =>
      have later : ending (piece :: next :: pieces) = ending (next :: pieces) := by
        cases piece <;> rfl
      rw [later, List.flatMap_cons]
      exact inductionHypothesis.trans (List.suffix_append _ _)

theorem isSuffix_of_format (formatted : template.format arguments = .ok message) :
    template.ending <:+ message.toList := by
  obtain ⟨parts, each, whole⟩ := exists_parts_of_format formatted
  rw [whole]
  exact isSuffix_of_parts each

end Template

/-- Whether the messages of a kind start with an argument, the word of a type. -/
def Kind.startsWithWord (kind : Kind) : Bool :=
  kind.template.head? == some .word

/-! ## Duplicates -/

namespace Diagnostic

/-- What is left of diagnostics without duplicates was among them. -/
theorem mem_of_mem_fresh {seen : List (Int × Int × String)}
    {diagnostics : List Diagnostic} {diagnostic : Diagnostic}
    (member : diagnostic ∈ fresh seen diagnostics) : diagnostic ∈ diagnostics := by
  induction diagnostics generalizing seen with
  | nil => exact member
  | cons first rest inductionHypothesis =>
    rw [fresh] at member
    split at member
    · exact List.mem_cons_of_mem _ (inductionHypothesis member)
    · rcases List.mem_cons.mp member with rfl | later
      · exact List.mem_cons_self
      · exact List.mem_cons_of_mem _ (inductionHypothesis later)

theorem exists_key_of_mem_fresh {seen : List (Int × Int × String)} {diagnostics : List Diagnostic}
    {diagnostic : Diagnostic} (member : diagnostic ∈ diagnostics) (new : diagnostic.key ∉ seen) :
    ∃ other ∈ fresh seen diagnostics, other.key = diagnostic.key := by
  induction diagnostics generalizing seen with
  | nil => exact absurd member List.not_mem_nil
  | cons first rest inductionHypothesis =>
    rw [fresh]
    split
    next known =>
      rcases List.mem_cons.mp member with rfl | later
      · exact absurd known new
      · exact inductionHypothesis later new
    next =>
      by_cases same : first.key = diagnostic.key
      · exact ⟨first, List.mem_cons_self, same⟩
      · rcases List.mem_cons.mp member with rfl | later
        · exact absurd rfl same
        · have newToo : diagnostic.key ∉ first.key :: seen := by
            rw [List.mem_cons]
            exact not_or.mpr ⟨Ne.symm same, new⟩
          obtain ⟨other, among, found⟩ := inductionHypothesis later newToo
          exact ⟨other, List.mem_cons_of_mem _ among, found⟩

/-- Of diagnostics with the same place and message one is kept. -/
theorem exists_key_of_mem {diagnostics : List Diagnostic} {diagnostic : Diagnostic}
    (member : diagnostic ∈ diagnostics) : ∃ other ∈ dedupe diagnostics, other.key = diagnostic.key :=
  exists_key_of_mem_fresh member List.not_mem_nil

theorem filter_fresh {kept : Diagnostic → Bool} {seen seenKept : List (Int × Int × String)}
    {diagnostics : List Diagnostic}
    (told : ∀ diagnostic ∈ diagnostics, ∀ other ∈ diagnostics, kept diagnostic = true →
      kept other = false → diagnostic.key ≠ other.key)
    (same : ∀ diagnostic ∈ diagnostics, kept diagnostic = true →
      (diagnostic.key ∈ seen ↔ diagnostic.key ∈ seenKept)) :
    (fresh seen diagnostics).filter kept = fresh seenKept (diagnostics.filter kept) := by
  induction diagnostics generalizing seen seenKept with
  | nil => rfl
  | cons diagnostic rest inductionHypothesis =>
    have toldRest : ∀ other ∈ rest, ∀ third ∈ rest, kept other = true → kept third = false →
        other.key ≠ third.key := fun other member third memberToo =>
      told other (List.mem_cons_of_mem _ member) third (List.mem_cons_of_mem _ memberToo)
    have sameRest : ∀ other ∈ rest, kept other = true →
        (other.key ∈ seen ↔ other.key ∈ seenKept) :=
      fun other member => same other (List.mem_cons_of_mem _ member)
    cases keeps : kept diagnostic with
    | true =>
      have here := same diagnostic List.mem_cons_self keeps
      rw [List.filter_cons_of_pos keeps, fresh, fresh]
      by_cases known : diagnostic.key ∈ seen
      · rw [if_pos known, if_pos (here.mp known)]
        exact inductionHypothesis toldRest sameRest
      · rw [if_neg known, if_neg fun there => known (here.mpr there), List.filter_cons_of_pos keeps]
        refine congrArg _ (inductionHypothesis toldRest ?_)
        intro other member keepsOther
        rw [List.mem_cons, List.mem_cons, sameRest other member keepsOther]
    | false =>
      rw [List.filter_cons_of_neg (by simp [keeps]), fresh]
      split
      · exact inductionHypothesis toldRest sameRest
      · rw [List.filter_cons_of_neg (by simp [keeps])]
        refine inductionHypothesis toldRest ?_
        intro other member keepsOther
        have apart : other.key ≠ diagnostic.key := told other (List.mem_cons_of_mem _ member)
          diagnostic List.mem_cons_self keepsOther keeps
        rw [List.mem_cons, sameRest other member keepsOther, or_iff_right apart]

/-- Diagnostics may be dropped before or after the duplicates, if none of them has the key of one
that is kept. -/
theorem filter_dedupe {kept : Diagnostic → Bool} {diagnostics : List Diagnostic}
    (told : ∀ diagnostic ∈ diagnostics, ∀ other ∈ diagnostics, kept diagnostic = true →
      kept other = false → diagnostic.key ≠ other.key) :
    (dedupe diagnostics).filter kept = dedupe (diagnostics.filter kept) :=
  filter_fresh told fun _ _ _ => Iff.rfl

/-- Diagnostics of some kinds may be dropped before or after the duplicates, if their messages are
those of no kind that is kept. -/
theorem filter_dedupe_of_decides {keeps : Kind → Bool} {kept : Diagnostic → Bool}
    (decides : Kind.Decides keeps kept) {kinds : List Kind} {diagnostics : List Diagnostic}
    (reported : Reported kinds diagnostics)
    (apart : ∀ diagnostic ∈ diagnostics, ∀ kind other, diagnostic.IsOf kind → keeps kind = false →
      keeps other = true → ∀ arguments, other.template.format arguments ≠ .ok diagnostic.message) :
    (dedupe diagnostics).filter kept = dedupe (diagnostics.filter kept) := by
  apply filter_dedupe
  intro diagnostic member other memberToo keepsIt drops same
  obtain ⟨kind, -, isOf⟩ := reported diagnostic member
  obtain ⟨otherKind, -, isOfToo⟩ := reported other memberToo
  rw [decides _ _ isOf] at keepsIt
  rw [decides _ _ isOfToo] at drops
  obtain ⟨-, arguments, formatted⟩ := isOf
  have message : diagnostic.message = other.message := congrArg (fun key => key.2.2) same
  rw [message] at formatted
  exact apart other memberToo otherKind kind isOfToo drops keepsIt arguments formatted

end Diagnostic

end HouseStyle
