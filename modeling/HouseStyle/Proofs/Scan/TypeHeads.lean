import HouseStyle.Proofs.Pattern.Room
import HouseStyle.Proofs.Scan.Pending

/-!
Contract: where the complaints about types come from.

Owns: that the head of every open or waiting type is read from a line of the text, and the rule that
what holds of the complaints from every place holds of all complaints about a line that closes a
type.
Does not own: what holds of them.

A line that closes a type complains about the members and the name that it shows, and about the tag
of the type, which may stand on a line before. The head has the line and the column of its tag from
the line that it was read from, and neither the type nor its place changes while it is open.

Main statements: `headsRead_stateBefore` and `TypeScope.Origins.forall_of_step`.
-/

namespace HouseStyle

/-! ## Heads -/

/-- The head of a type that a line of the text opens, with or without its brace. -/
def TypeHead.ReadFrom (lines : List Line) (head : TypeHead) : Prop :=
  ∃ (index : Nat) (line : Line) (pattern : Pattern) (found : Match), lines[index]? = some line ∧
    pattern ∈ [Member.bareStart, Member.braceStart] ∧
      pattern.matchStart? line.code = some found ∧ TypeScope.headOf? index found = some head

/-- A tag has its line and column from the line that its head is read from. -/
theorem TypeHead.ReadFrom.exists_tag {lines : List Line} {head : TypeHead}
    (read : head.ReadFrom lines) {text : List Char} (tagged : head.tag = some text) :
    ∃ (index : Nat) (line : Line) (pattern : Pattern) (found : Match) (tag : Excerpt),
      lines[index]? = some line ∧ pattern ∈ [Member.bareStart, Member.braceStart] ∧
        pattern.Matched line.code found ∧ found.part? .tag = some tag ∧ tag.text = text ∧
          head.tagLine = index + 1 ∧ head.tagColumn = tag.start := by
  obtain ⟨index, line, pattern, found, there, starts, fits, headed⟩ := read
  obtain ⟨word, -, headed⟩ := Option.bind_eq_some_iff.mp headed
  obtain ⟨kind, -, headed⟩ := Option.bind_eq_some_iff.mp headed
  cases headed
  obtain ⟨tag, recorded, same⟩ := Option.map_eq_some_iff.mp tagged
  refine ⟨index, line, pattern, found, tag, there, starts, Pattern.matched_of_matchStart? fits,
    recorded, same, rfl, ?_⟩
  simp only [recorded, Option.map_some, Option.getD_some]

/-- The heads of the open types and of the one that waits for its brace are read from the text. -/
structure ScanState.HeadsRead (lines : List Line) (state : ScanState) : Prop where
  types : ∀ scope ∈ state.types, scope.head.ReadFrom lines
  pending : ∀ pending, state.pendingType = some pending → pending.head.ReadFrom lines

variable {lines : List Line}

namespace ScanState.HeadsRead

variable {state : ScanState} (read : state.HeadsRead lines)
include read

theorem openType {head : TypeHead} (headRead : head.ReadFrom lines) :
    (state.openType head).HeadsRead lines where
  types := List.forall_mem_cons.mpr ⟨headRead, read.types⟩
  pending := read.pending

theorem idle : HeadsRead lines { state with pendingType := none } where
  types := read.types
  pending := fun _ none => nomatch none

theorem indented (site : Site) : (Scan.indented site state).HeadsRead lines where
  types := by
    rw [Scan.types_indented]
    exact read.types
  pending := by
    rw [Scan.pendingType_indented]
    exact read.pending

end ScanState.HeadsRead

namespace TypeScope

variable {index : Nat} {line : Line} {state next : ScanState}

theorem headsRead_closed {code : List Char} (read : state.HeadsRead lines) :
    (closed code state).HeadsRead lines := by
  unfold closed
  split
  · exact read
  next scope types inside =>
    split
    · refine ⟨fun other member => ?_, read.pending⟩
      apply read.types
      rw [inside]
      exact List.mem_cons_of_mem _ member
    · exact read

section Line

variable (there : lines[index]? = some line)
include there

theorem readFrom_of_bareStart {head : TypeHead}
    (bare : (Member.bareStart.matchStart? line.code).bind (headOf? index) = some head) :
    head.ReadFrom lines := by
  obtain ⟨found, fits, headed⟩ := Option.bind_eq_some_iff.mp bare
  exact ⟨index, line, _, found, there, List.mem_cons_self, fits, headed⟩

theorem readFrom_of_braceStart {head : TypeHead} {found : Match}
    (fits : Member.braceStart.matchStart? line.code = some found)
    (headed : headOf? index found = some head) : head.ReadFrom lines :=
  ⟨index, line, _, found, there, List.mem_cons_of_mem _ List.mem_cons_self, fits, headed⟩

theorem headsRead_openedOrClosed (read : state.HeadsRead lines) :
    (openedOrClosed index line.code state).HeadsRead lines := by
  unfold openedOrClosed
  split
  next head bare =>
    refine ⟨read.types, ?_⟩
    intro pending waiting
    cases waiting
    exact readFrom_of_bareStart there bare
  · split
    next found fits =>
      split
      next head headed =>
        split
        · exact read.openType (readFrom_of_braceStart there fits headed)
        · exact read
      next => exact headsRead_closed read
    next => exact headsRead_closed read

theorem headsRead_settled (read : state.HeadsRead lines) :
    (settled index line.code state).HeadsRead lines := by
  unfold settled
  split
  next pending waiting =>
    split
    · exact headsRead_openedOrClosed there read
    · dsimp only
      split
      · exact read.idle.openType (read.pending pending waiting)
      · exact headsRead_openedOrClosed there read.idle
  next => exact headsRead_openedOrClosed there read

end Line

end TypeScope

/-- Before every line the heads of all types are read from lines of the text. -/
theorem Scan.headsRead_stateBefore (lines : List Line) :
    ∀ index ≤ lines.length, (stateBefore lines index).HeadsRead lines := by
  apply stateBefore_induction
  case initial =>
    exact ⟨fun scope member => absurd member List.not_mem_nil, fun pending none => nomatch none⟩
  case advances =>
    intro index site state there read
    have here := Site.getElem?_of_at? there
    rw [← Site.index_of_at? there] at here
    have next : (lineNext site state).HeadsRead lines := by
      by_cases reads : readsTypes site.line state
      · rw [lineNext_of_readsTypes reads]
        exact TypeScope.headsRead_settled here (read.indented site)
      · obtain ⟨types, pendingType⟩ := types_of_not_readsTypes (by simpa using reads)
        constructor
        · rw [types]
          exact read.types
        · rw [pendingType]
          exact read.pending
    exact ⟨next.types, next.pending⟩

/-! ## Complaints -/

namespace TypeScope

/-- The code of a line with nothing before a column. -/
def behind (column : Nat) (code : List Char) : List Char :=
  List.replicate column ' ' ++ code.drop column

theorem length_behind {column : Nat} {code : List Char} (within : column ≤ code.length) :
    (behind column code).length = code.length := by
  rw [behind, List.length_append, List.length_replicate, List.length_drop]
  omega

/-- What is known of the complaints from every place in a line that closes a type. -/
structure Origins (Holds : Diagnostic → Prop) (lines : List Line) (index : Nat) (code : List Char) :
    Prop where
  members : ∀ kind bodyStart close diagnostics, bodyStart ≤ close → close < code.length →
    memberDiagnostics kind (index + 1) ⟨bodyStart, Text.slice code bodyStart close⟩ =
        .ok diagnostics →
      ∀ diagnostic ∈ diagnostics, Holds diagnostic
  name : ∀ head column found brace diagnostics, column ≤ code.length →
    closing.matchStart? (behind column code) = some found →
      Text.index ['}'] 0 (behind column code) = .ok brace →
        nameDiagnostics head (index + 1) brace (found.part? .name) = .ok diagnostics →
          ∀ diagnostic ∈ diagnostics, Holds diagnostic
  tag : ∀ head diagnostics, head.ReadFrom lines → tagDiagnostics head = .ok diagnostics →
    ∀ diagnostic ∈ diagnostics, Holds diagnostic

namespace Origins

variable {Holds : Diagnostic → Prop} {index : Nat} {line : Line} {state next : ScanState}
  {head : TypeHead} {diagnostics : List Diagnostic} (origins : Origins Holds lines index line.code)
include origins

theorem forall_of_closingDiagnostics {column : Nat} {found : Match} (within : column ≤ line.code.length)
    (read : head.ReadFrom lines) (fits : closing.matchStart? (behind column line.code) = some found)
    (answers : closingDiagnostics head (index + 1) (behind column line.code) found =
      .ok diagnostics) :
    ∀ diagnostic ∈ diagnostics, Holds diagnostic := by
  obtain ⟨brace, here, answers⟩ := Answer.bind_eq_ok.mp answers
  obtain ⟨named, givenNamed, answers⟩ := Answer.bind_eq_ok.mp answers
  obtain ⟨tagged, givenTagged, answers⟩ := Answer.bind_eq_ok.mp answers
  cases answers
  exact List.forall_mem_append.mpr ⟨origins.name head column found brace named within fits here
    givenNamed, origins.tag head tagged read givenTagged⟩

theorem forall_of_oneLineDiagnostics {bodyStart close : Nat} (read : head.ReadFrom lines)
    (ordered : bodyStart ≤ close) (closes : close < line.code.length)
    (answers : oneLineDiagnostics head (index + 1) line.code bodyStart close = .ok diagnostics) :
    ∀ diagnostic ∈ diagnostics, Holds diagnostic := by
  obtain ⟨members, givenMembers, answers⟩ := Answer.bind_eq_ok.mp answers
  have first := origins.members head.kind bodyStart close members ordered closes givenMembers
  dsimp only at answers
  split at answers
  next found fits =>
    obtain ⟨closed, givenClosed, answers⟩ := Answer.bind_eq_ok.mp answers
    cases answers
    exact List.forall_mem_append.mpr
      ⟨first, origins.forall_of_closingDiagnostics (Nat.le_of_lt closes) read fits givenClosed⟩
  next =>
    cases answers
    exact first

theorem forall_of_openWithBrace {bodyStart : Nat} (read : head.ReadFrom lines)
    (answers : openWithBrace index line.code head bodyStart state = .ok (some diagnostics, next)) :
    ∀ diagnostic ∈ diagnostics, Holds diagnostic := by
  unfold openWithBrace at answers
  split at answers
  next close found =>
    split at answers
    next ordered =>
      obtain ⟨given, answered, answers⟩ := Answer.bind_eq_ok.mp answers
      cases answers
      exact origins.forall_of_oneLineDiagnostics read ordered (Text.findLast?_lt found) answered
    next => cases answers
  next => cases answers

theorem forall_of_closeInnermost (read : state.HeadsRead lines)
    (answers : closeInnermost index line.code state = .ok (some diagnostics, next)) :
    ∀ diagnostic ∈ diagnostics, Holds diagnostic := by
  unfold closeInnermost at answers
  cases inside : state.types with
  | nil =>
    rw [inside] at answers
    cases answers
  | cons scope types =>
    have innermost : scope.head.ReadFrom lines := by
      apply read.types
      rw [inside]
      exact List.mem_cons_self
    simp only [inside, List.head?_cons, ScanState.closeType, Answer.ok_bind] at answers
    split at answers
    · split at answers
      next found fits =>
        obtain ⟨given, answered, answers⟩ := Answer.bind_eq_ok.mp answers
        cases answers
        exact origins.forall_of_closingDiagnostics (Nat.zero_le _) innermost fits answered
      next =>
        cases answers
        exact fun diagnostic member => absurd member List.not_mem_nil
    · cases answers

variable (there : lines[index]? = some line)
include there

theorem forall_of_openOrClose (read : state.HeadsRead lines)
    (answers : openOrClose index line.code state = .ok (some diagnostics, next)) :
    ∀ diagnostic ∈ diagnostics, Holds diagnostic := by
  unfold openOrClose at answers
  split at answers
  · cases answers
  · split at answers
    next found fits =>
      split at answers
      next head headed =>
        exact origins.forall_of_openWithBrace (readFrom_of_braceStart there fits headed) answers
      next => exact origins.forall_of_closeInnermost read answers
    next => exact origins.forall_of_closeInnermost read answers

/-- What holds of the complaints from every place holds of all complaints about a line that closes a
type. -/
theorem forall_of_step (read : state.HeadsRead lines)
    (answers : step index line.code state = .ok (some diagnostics, next)) :
    ∀ diagnostic ∈ diagnostics, Holds diagnostic := by
  unfold step at answers
  split at answers
  · split at answers
    · exact origins.forall_of_openOrClose there read answers
    · dsimp only at answers
      split at answers
      · cases answers
      · exact origins.forall_of_openOrClose there read.idle answers
  · exact origins.forall_of_openOrClose there read answers

end Origins

end TypeScope

end HouseStyle
