import HouseStyle.Proofs.Lookup
import Mathlib.Data.Char
import Mathlib.Data.List.Lex
import Mathlib.Data.List.Pairwise

/-!
Contract: the order of inclusions is checked exactly.

Owns: what order is asked of the targets of a file, the ways to break it, and that the check finds
each of them once.
Does not own: inclusions of a header by itself, and guards.

The check compares neighbours of one group and the ends of the two groups. Neighbours are enough
because the order of texts is transitive, and the ends because inclusions are numbered by line.

Main statement: `diagnostics_inOrder`.
-/

namespace HouseStyle.Includes

/-! ## Sequences of targets -/

/-- A target in angle brackets. -/
def namesSystem (target : List Char) : Bool :=
  target.head? == some '<'

/-- System headers first, then all others, both sorted by code points. -/
def InOrder (targets : List (List Char)) : Prop :=
  ∃ system project, targets = system ++ project ∧
    (∀ target ∈ system, namesSystem target) ∧ (∀ target ∈ project, namesSystem target = false) ∧
    system.Pairwise (· ≤ ·) ∧ project.Pairwise (· ≤ ·)

/-- No system header comes after another one. -/
def Grouped (targets : List (List Char)) : Prop :=
  targets.Pairwise fun earlier later => namesSystem later → namesSystem earlier

instance (targets : List (List Char)) : Decidable (Grouped targets) :=
  inferInstanceAs (Decidable (targets.Pairwise _))

/-- A kind of complaint that is due unless something holds. -/
def dueUnless (holds : Prop) [Decidable holds] (kind : Kind) : List Kind :=
  if holds then [] else [kind]

/-- What is wrong with the order of a sequence of targets. -/
def disorders (targets : List (List Char)) : List Kind :=
  dueUnless (Grouped targets) .systemIncludesFirst ++
    dueUnless ((targets.filter namesSystem).Pairwise (· ≤ ·)) .systemIncludesUnsorted ++
    dueUnless ((targets.filter fun target => !namesSystem target).Pairwise (· ≤ ·))
      .projectIncludesUnsorted

/-- Where all system headers come first, they are what is in front of the others. -/
theorem Grouped.append_filter {targets : List (List Char)} (grouped : Grouped targets) :
    targets.filter namesSystem ++ (targets.filter fun target => !namesSystem target) = targets := by
  induction targets with
  | nil => rfl
  | cons target targets inductionHypothesis =>
    obtain ⟨first, others⟩ := List.pairwise_cons.mp grouped
    cases system : namesSystem target with
    | true =>
      rw [List.filter_cons_of_pos system, List.filter_cons_of_neg (by simp [system]),
        List.cons_append, inductionHypothesis others]
    | false =>
      have none : targets.filter namesSystem = [] := by
        apply List.filter_eq_nil_iff.mpr
        intro later member names
        rw [first later member names] at system
        cases system
      have rest := inductionHypothesis others
      rw [none, List.nil_append] at rest
      rw [List.filter_cons_of_neg (by simp [system]), List.filter_cons_of_pos (by simp [system]),
        none, List.nil_append, rest]

theorem inOrder_iff {targets : List (List Char)} : InOrder targets ↔
    Grouped targets ∧ (targets.filter namesSystem).Pairwise (· ≤ ·) ∧
      (targets.filter fun target => !namesSystem target).Pairwise (· ≤ ·) := by
  constructor
  · rintro ⟨system, project, rfl, systems, projects, sortedSystem, sortedProject⟩
    have front : (system ++ project).filter namesSystem = system := by
      rw [List.filter_append, List.filter_eq_self.mpr systems,
        List.filter_eq_nil_iff.mpr (by simpa using projects), List.append_nil]
    have back : (system ++ project).filter (fun target => !namesSystem target) = project := by
      rw [List.filter_append, List.filter_eq_nil_iff.mpr (by simpa using systems),
        List.filter_eq_self.mpr (by simpa using projects), List.nil_append]
    refine ⟨?_, front.symm ▸ sortedSystem, back.symm ▸ sortedProject⟩
    refine List.pairwise_append.mpr ⟨?_, ?_, ?_⟩
    · exact List.pairwise_of_forall_mem_list fun earlier member _ _ _ => systems earlier member
    · refine List.pairwise_of_forall_mem_list fun _ _ later member names => ?_
      rw [projects later member] at names
      cases names
    · exact fun earlier member _ _ _ => systems earlier member
  · rintro ⟨grouped, sortedSystem, sortedProject⟩
    refine ⟨_, _, grouped.append_filter.symm, ?_, ?_, sortedSystem, sortedProject⟩
    · exact fun target member => (List.mem_filter.mp member).2
    · exact fun target member => by simpa using (List.mem_filter.mp member).2

theorem disorders_eq_nil_iff {targets : List (List Char)} :
    disorders targets = [] ↔ InOrder targets := by
  simp [disorders, dueUnless, inOrder_iff]

theorem disorders_sublist (targets : List (List Char)) : (disorders targets).Sublist
    [.systemIncludesFirst, .systemIncludesUnsorted, .projectIncludesUnsorted] := by
  have each (holds : Prop) [Decidable holds] (kind : Kind) :
      (dueUnless holds kind).Sublist [kind] := by
    unfold dueUnless
    split
    · exact List.nil_sublist _
    · exact List.Sublist.refl _
  exact ((each _ _).append (each _ _)).append (each _ _)

/-! ## The searches -/

theorem firstUnsortedFrom?_eq_none_iff {index : Nat} {previous : List Char}
    {keys : List (List Char)} :
    firstUnsortedFrom? index previous keys = none ↔ (previous :: keys).Pairwise (· ≤ ·) := by
  rw [← List.isChain_iff_pairwise]
  induction keys generalizing index previous with
  | nil => simp [firstUnsortedFrom?]
  | cons key keys inductionHypothesis =>
    rw [firstUnsortedFrom?, List.isChain_cons_cons, ← @inductionHypothesis (index + 1),
      ← not_lt]
    by_cases smaller : key < previous
    · simp [smaller]
    · simp only [smaller, if_false, not_false_eq_true, true_and]

/-- Neighbours are compared, and that finds every disorder. -/
theorem firstUnsorted?_eq_none_iff {keys : List (List Char)} :
    firstUnsorted? keys = none ↔ keys.Pairwise (· ≤ ·) := by
  cases keys with
  | nil => simp [firstUnsorted?]
  | cons key keys => exact firstUnsortedFrom?_eq_none_iff

theorem beforeUnsorted?_eq_none_iff {inclusions : List Inclusion} :
    beforeUnsorted? inclusions = none ↔
      (inclusions.map fun inclusion => inclusion.target.text).Pairwise (· ≤ ·) := by
  rw [← firstUnsorted?_eq_none_iff]
  cases found : firstUnsorted? (inclusions.map fun inclusion => inclusion.target.text) with
  | none => simp [beforeUnsorted?, found]
  | some index =>
    obtain ⟨-, inclusion, there⟩ := exists_beforeUnsorted? found
    simp [there]

/-! ## Inclusions in line order -/

/-- The target of an inclusion that is not in a comment. -/
def liveTarget? (line : Line) : Option (List Char) :=
  if (Text.trimLeft line.code).head? = some '#' then
    ((Lexicon.inclusion.matchStart? line.raw).bind fun found =>
      found.part? .target).map Excerpt.text
  else none

/-- The targets of the inclusions of a file, in line order. -/
def liveTargets (file : SourceFile) : List (List Char) :=
  file.lines.filterMap liveTarget?

theorem map_text_fromLines (number : Nat) (lines : List Line) :
    (fromLines number lines).map (fun inclusion => inclusion.target.text) =
      lines.filterMap liveTarget? := by
  have held (number : Nat) (line : Line) :
      (ofLine? number line).map (fun inclusion => inclusion.target.text) = liveTarget? line := by
    unfold ofLine? liveTarget?
    cases Lexicon.inclusion.matchStart? line.raw with
    | none => simp
    | some found =>
      cases target : found.part? .target <;>
        by_cases hash : (Text.trimLeft line.code).head? = some '#' <;> simp [hash, target]
  induction lines generalizing number with
  | nil => rfl
  | cons line rest inductionHypothesis =>
    rw [fromLines, List.map_append, inductionHypothesis, List.filterMap_cons, ← held number]
    cases ofLine? number line <;> rfl

/-- Inclusions that are numbered in the order in which they stand. -/
def Numbered (inclusions : List Inclusion) : Prop :=
  inclusions.Pairwise fun earlier later => earlier.number < later.number

theorem numbered_fromLines (number : Nat) (lines : List Line) :
    Numbered (fromLines number lines) := by
  induction lines generalizing number with
  | nil => exact .nil
  | cons line rest inductionHypothesis =>
    refine List.pairwise_append.mpr ⟨?_, inductionHypothesis (number + 1), ?_⟩
    · cases ofLine? number line with
      | none => exact .nil
      | some inclusion => exact List.pairwise_singleton _ _
    · intro earlier here later behind
      have alone : earlier ∈ fromLines number [line] := by
        rwa [fromLines, fromLines, List.append_nil]
      obtain ⟨index, _, there, numbered, -⟩ := exists_of_mem_fromLines alone
      obtain ⟨indexToo, _, -, numberedToo, -⟩ := exists_of_mem_fromLines behind
      obtain ⟨within, -⟩ := List.getElem?_eq_some_iff.mp there
      rw [List.length_singleton] at within
      omega

namespace Numbered

variable {inclusions : List Inclusion}

theorem filter (numbered : Numbered inclusions) (test : Inclusion → Bool) :
    Numbered (inclusions.filter test) :=
  List.Pairwise.filter test numbered

theorem number_le_of_head? (numbered : Numbered inclusions) {first inclusion : Inclusion}
    (starts : inclusions.head? = some first) (member : inclusion ∈ inclusions) :
    first.number ≤ inclusion.number := by
  obtain ⟨rest, rfl⟩ := List.head?_eq_some_iff.mp starts
  rcases List.mem_cons.mp member with rfl | later
  · exact le_rfl
  · exact Nat.le_of_lt ((List.pairwise_cons.mp numbered).1 inclusion later)

theorem number_le_of_getLast? (numbered : Numbered inclusions) {last inclusion : Inclusion}
    (ends : inclusions.getLast? = some last) (member : inclusion ∈ inclusions) :
    inclusion.number ≤ last.number := by
  obtain ⟨front, rfl⟩ := List.getLast?_eq_some_iff.mp ends
  rcases List.mem_append.mp member with earlier | same
  · exact Nat.le_of_lt
      ((List.pairwise_append.mp numbered).2.2 inclusion earlier last (List.mem_singleton_self last))
  · rw [List.mem_singleton.mp same]

/-- What every inclusion is to those behind it, it is to those with greater numbers. -/
theorem forall_of_number_lt {Related : Inclusion → Inclusion → Prop}
    (numbered : Numbered inclusions) (related : inclusions.Pairwise Related)
    {earlier later : Inclusion} (member : earlier ∈ inclusions) (memberToo : later ∈ inclusions)
    (above : earlier.number < later.number) : Related earlier later := by
  induction inclusions with
  | nil => exact absurd member List.not_mem_nil
  | cons first rest inductionHypothesis =>
    obtain ⟨behind, numberedRest⟩ := List.pairwise_cons.mp numbered
    obtain ⟨relatedFirst, relatedRest⟩ := List.pairwise_cons.mp related
    rcases List.mem_cons.mp member with rfl | here <;>
      rcases List.mem_cons.mp memberToo with rfl | there
    · exact absurd above (Nat.lt_irrefl _)
    · exact relatedFirst later there
    · exact absurd above (Nat.lt_asymm (behind earlier here))
    · exact inductionHypothesis numberedRest relatedRest here there

/-- A system header comes after another one exactly if the last of the former stands below the first
of the latter. -/
theorem grouped_iff (numbered : Numbered inclusions) :
    Grouped (inclusions.map fun inclusion => inclusion.target.text) ↔
      ∀ first last, (inclusions.filter fun inclusion => !inclusion.isSystem).head? = some first →
        (inclusions.filter Inclusion.isSystem).getLast? = some last →
          ¬first.number < last.number := by
  rw [Grouped, List.pairwise_map]
  change inclusions.Pairwise (fun earlier later => later.isSystem → earlier.isSystem) ↔ _
  constructor
  · intro grouped first last starts ends above
    obtain ⟨memberFirst, other⟩ := List.mem_filter.mp (List.mem_of_head? starts)
    obtain ⟨memberLast, system⟩ := List.mem_filter.mp (List.mem_of_getLast? ends)
    have lawful := numbered.forall_of_number_lt grouped memberFirst memberLast above
    rw [lawful system] at other
    cases other
  · intro ends
    refine List.Pairwise.imp_of_mem ?_ numbered
    intro earlier later memberEarlier memberLater above system
    by_contra other
    have inProject : earlier ∈ inclusions.filter fun inclusion => !inclusion.isSystem :=
      List.mem_filter.mpr ⟨memberEarlier, by simpa using other⟩
    have inSystem : later ∈ inclusions.filter Inclusion.isSystem :=
      List.mem_filter.mpr ⟨memberLater, system⟩
    obtain ⟨first, starts⟩ := Option.isSome_iff_exists.mp (List.isSome_head?.mpr
      (List.ne_nil_of_mem inProject))
    obtain ⟨last, finishes⟩ := List.getLast?_isSome.mpr (List.ne_nil_of_mem inSystem) |>
      Option.isSome_iff_exists.mp
    have least := (numbered.filter _).number_le_of_head? starts inProject
    have most := (numbered.filter _).number_le_of_getLast? finishes inSystem
    have below := ends first last starts finishes
    omega

end Numbered

/-! ## The complaints -/

theorem directiveDiagnostic_kind {kind : Kind} (member : kind ∈ kinds) {inclusion : Inclusion}
    {arguments : List Argument} (hash : '#' ∈ inclusion.raw)
    (printable : ∃ message, kind.template.format arguments = .ok message) :
    ∃ diagnostic, directiveDiagnostic kind inclusion arguments = .ok diagnostic ∧
      diagnostic.kind = kind.name := by
  obtain ⟨diagnostic, given, -⟩ := directiveDiagnostic_answers member hash printable
  obtain ⟨_, -, complained⟩ := Answer.bind_eq_ok.mp given
  exact ⟨diagnostic, given, (Kind.isOf_of_diagnostic complained).1⟩

/-- An answer that complains once, of the given kind, unless something holds. -/
def AnswersUnless (answer : Except Fault (List Diagnostic)) (holds : Prop) [Decidable holds]
    (kind : Kind) : Prop :=
  ∃ diagnostics, answer = .ok diagnostics ∧
    diagnostics.map Diagnostic.kind = (dueUnless holds kind).map Kind.name

variable {inclusions : List Inclusion} (hashes : ∀ inclusion ∈ inclusions, '#' ∈ inclusion.raw)
include hashes

theorem mixedDiagnostics_answersUnless (numbered : Numbered inclusions) :
    AnswersUnless (mixedDiagnostics (inclusions.filter Inclusion.isSystem)
        (inclusions.filter fun inclusion => !inclusion.isSystem))
      (Grouped (inclusions.map fun inclusion => inclusion.target.text)) .systemIncludesFirst := by
  unfold AnswersUnless mixedDiagnostics dueUnless
  split
  next first last starts ends =>
    have ordered : Grouped (inclusions.map fun inclusion => inclusion.target.text) ↔
        ¬first.number < last.number := by
      rw [numbered.grouped_iff, starts, ends]
      simp
    split
    next above =>
      obtain ⟨diagnostic, given, kind⟩ := directiveDiagnostic_kind
        (show Kind.systemIncludesFirst ∈ Includes.kinds by decide)
        (hashes first (List.mem_filter.mp (List.mem_of_head? starts)).1)
        (show ∃ message, Kind.systemIncludesFirst.template.format
          [.word (String.ofList first.file)] = .ok message from ⟨_, rfl⟩)
      rw [given, if_neg (fun grouped => ordered.mp grouped above)]
      exact ⟨[diagnostic], rfl, congrArg (fun name => [name]) kind⟩
    next below =>
      rw [if_pos (ordered.mpr below)]
      exact ⟨[], rfl, rfl⟩
  next noPair =>
    have ordered : Grouped (inclusions.map fun inclusion => inclusion.target.text) :=
      numbered.grouped_iff.mpr fun first last starts ends => absurd ends (noPair first last starts)
    rw [if_pos ordered]
    exact ⟨[], rfl, rfl⟩

theorem orderDiagnostics_answersUnless {kind : Kind} (member : kind ∈ kinds)
    (arguments : Inclusion → List Argument)
    (printable : ∀ inclusion, ∃ message, kind.template.format (arguments inclusion) = .ok message) :
    AnswersUnless (orderDiagnostics kind arguments inclusions)
      ((inclusions.map fun inclusion => inclusion.target.text).Pairwise (· ≤ ·)) kind := by
  unfold AnswersUnless dueUnless
  cases found : beforeUnsorted? inclusions with
  | none =>
    rw [if_pos (beforeUnsorted?_eq_none_iff.mp found)]
    exact ⟨[], orderDiagnostics_eq_ok_iff.mpr (.inl ⟨found, rfl⟩), rfl⟩
  | some inclusion =>
    obtain ⟨diagnostic, given, named⟩ := directiveDiagnostic_kind member
      (hashes inclusion (mem_of_beforeUnsorted? found)) (printable inclusion)
    have unsorted := mt beforeUnsorted?_eq_none_iff.mpr (by rw [found]; nofun)
    rw [if_neg unsorted]
    exact ⟨[diagnostic], orderDiagnostics_eq_ok_iff.mpr (.inr ⟨_, _, found, given, rfl⟩),
      congrArg (fun name => [name]) named⟩

omit hashes

/-- A file that is not a header is complained about once for each disorder of its inclusions. -/
theorem diagnostics_kinds {file : SourceFile} (plain : file.path.isHeader = false) :
    ∃ diagnostics, Includes.diagnostics file = .ok diagnostics ∧
      diagnostics.map Diagnostic.kind = (disorders (liveTargets file)).map Kind.name := by
  have hashes : ∀ inclusion ∈ fromLines 1 file.lines, '#' ∈ inclusion.raw := by
    intro inclusion member
    obtain ⟨-, line, -, -, raw, fits⟩ := exists_of_mem_fromLines member
    rw [raw]
    exact hash_of_inclusion fits
  have among (test : Inclusion → Bool) :
      ∀ inclusion ∈ (fromLines 1 file.lines).filter test, '#' ∈ inclusion.raw :=
    fun inclusion member => hashes inclusion (List.mem_filter.mp member).1
  have targets : (fromLines 1 file.lines).map (fun inclusion => inclusion.target.text) =
      liveTargets file := map_text_fromLines 1 _
  have systemTargets : ((fromLines 1 file.lines).filter Inclusion.isSystem).map
      (fun inclusion => inclusion.target.text) = (liveTargets file).filter namesSystem := by
    rw [← targets, List.filter_map]
    rfl
  have projectTargets : ((fromLines 1 file.lines).filter fun inclusion => !inclusion.isSystem).map
      (fun inclusion => inclusion.target.text) =
        (liveTargets file).filter fun target => !namesSystem target := by
    rw [← targets, List.filter_map]
    rfl
  have recursion : recursionDiagnostics file.path (fromLines 1 file.lines) = .ok [] := by
    simp [recursionDiagnostics, plain]
  obtain ⟨mixed, givenMixed, kindsMixed⟩ :=
    mixedDiagnostics_answersUnless hashes (numbered_fromLines 1 _)
  obtain ⟨system, givenSystem, kindsSystem⟩ := orderDiagnostics_answersUnless
    (among Inclusion.isSystem) (show Kind.systemIncludesUnsorted ∈ kinds by decide) (fun _ => [])
    fun _ => ⟨_, rfl⟩
  obtain ⟨project, givenProject, kindsProject⟩ := orderDiagnostics_answersUnless
    (among fun inclusion => !inclusion.isSystem)
    (show Kind.projectIncludesUnsorted ∈ kinds by decide)
    (fun inclusion => [.word (String.ofList inclusion.file)]) fun _ => ⟨_, rfl⟩
  refine ⟨mixed ++ system ++ project, ?_, ?_⟩
  · simp [Includes.diagnostics, systemDiagnostics_eq, projectDiagnostics_eq, recursion, givenMixed,
      givenSystem, givenProject, plain]
  · simp only [targets] at kindsMixed
    simp only [systemTargets] at kindsSystem
    simp only [projectTargets] at kindsProject
    simp only [List.map_append, kindsMixed, kindsSystem, kindsProject, disorders]

/-- Whatever a file that is not a header holds, its inclusions are in order exactly if nothing is
complained about; otherwise there are one to three complaints, each of another kind. -/
theorem diagnostics_inOrder (path : Path) (plain : path.suffix ≠ ".h") (text : List Char) :
    ∃ diagnostics, Includes.diagnostics (.ofText path text) = .ok diagnostics ∧
      (diagnostics = [] ↔ InOrder (liveTargets (.ofText path text))) ∧
      (¬InOrder (liveTargets (.ofText path text)) →
        1 ≤ diagnostics.length ∧ diagnostics.length ≤ 3) ∧
      (diagnostics.map Diagnostic.kind).Sublist
        ["SYSTEM_INCLUDES_FIRST", "SYSTEM_INCLUDES_UNSORTED", "PROJECT_INCLUDES_UNSORTED"] := by
  obtain ⟨diagnostics, given, kinds⟩ :=
    diagnostics_kinds (show (SourceFile.ofText path text).path.isHeader = false from
      beq_eq_false_iff_ne.mpr plain)
  have few := (disorders_sublist (liveTargets (.ofText path text))).map Kind.name
  rw [← kinds] at few
  have none : diagnostics = [] ↔ InOrder (liveTargets (.ofText path text)) := by
    rw [← disorders_eq_nil_iff, ← List.map_eq_nil_iff, kinds, List.map_eq_nil_iff]
  refine ⟨diagnostics, given, none, ?_, few⟩
  intro disorder
  have some : diagnostics ≠ [] := mt none.mp disorder
  have most := few.length_le
  rw [List.length_map] at most
  exact ⟨List.length_pos_of_ne_nil some, most⟩

/-- A file with every disorder gets all three kinds of complaints. -/
theorem diagnostics_inOrder_mixed :
    let path := Path.ofString "main.c"
    let text := "#include \"b.h\"\n#include <b.h>\n#include \"a.h\"\n#include <a.h>\n".toList
    path.suffix ≠ ".h" ∧ liveTargets (.ofText path text) =
        ["\"b.h\"".toList, "<b.h>".toList, "\"a.h\"".toList, "<a.h>".toList] ∧
      ∃ diagnostics, Includes.diagnostics (.ofText path text) = .ok diagnostics ∧
        (diagnostics = [] ↔ InOrder (liveTargets (.ofText path text))) ∧
        (¬InOrder (liveTargets (.ofText path text)) →
          1 ≤ diagnostics.length ∧ diagnostics.length ≤ 3) ∧
        diagnostics.map Diagnostic.kind =
          ["SYSTEM_INCLUDES_FIRST", "SYSTEM_INCLUDES_UNSORTED", "PROJECT_INCLUDES_UNSORTED"] := by
  intro path text
  have plain : path.suffix ≠ ".h" := by decide +kernel
  obtain ⟨diagnostics, given, ordered, few, -⟩ := diagnostics_inOrder path plain text
  have kinds := Answer.map_ok (List.map Diagnostic.kind) diagnostics
  rw [← given] at kinds
  exact ⟨plain, by decide +kernel, diagnostics, given, ordered, few,
    Except.ok.inj (kinds.symm.trans (by decide +kernel))⟩

end HouseStyle.Includes
