import HouseStyle.Proofs.Scan.Depth

/-!
Contract: types that wait for their brace.

Owns: the lines that are read for types, the bare line from which a type waits, and the line that
opens it.
Does not own: the closing of types, which `Proofs.Scan.Bodies` treats.

A type whose line has no brace waits until the next line that is read for types: a brace at the
start of this line opens it, anything else gives it up. Labels for jumps, directives, the lines of
lists and one-line control statements are not read for types. They neither open a waiting type nor
give it up, and so it outlasts them.

Main statement: `opensWaiting_run`.
-/

namespace HouseStyle

/-! ## The first line of a type -/

/-- The first line of a type begins, behind blanks, with a word that opens one. -/
theorem Member.head?_of_typeStart {text : List Char} {stop : Cursor}
    (reached : stop ∈ typeStart.outcomes (.atStart text)) :
    ∃ c ∈ ['t', 's', 'e', 'u'], (Text.trim text).head? = some c := by
  simp only [typeStart, Pattern.atStart, Pattern.blanks, Pattern.mem_outcomes_append,
    Pattern.mem_outcomes_look, Pattern.mem_outcomes_many, Pattern.mem_outcomes_opt,
    Pattern.mem_outcomes_capture, Pattern.mem_outcomes_word, Pattern.mem_outcomes_oneOf] at reached
  obtain ⟨_, ⟨_, ⟨_, ⟨_, ⟨_, ⟨_, ⟨_, ⟨-, rfl⟩, before, rest, split, blanks, rfl⟩, opening⟩,
    _, ⟨word, among, behind, written, -⟩, -⟩, -⟩, -⟩, -⟩, -⟩ := reached
  have text_eq : text = before ++ rest := split
  rcases opening with ⟨_, ⟨_, ⟨others, typedef, -⟩, -⟩, -⟩ | rfl
  · have rest_eq : rest = 't' :: ("ypedef".toList ++ others) := typedef
    rw [text_eq, rest_eq]
    exact ⟨'t', by decide, Text.head?_trim_of_blanks blanks rfl⟩
  · have rest_eq : rest = word.toList ++ behind := written
    rw [text_eq, rest_eq]
    simp only [List.mem_cons, List.not_mem_nil, or_false] at among
    rcases among with rfl | rfl | rfl
    · exact ⟨'s', by decide, @Text.head?_trim_of_blanks _ ("truct".toList ++ behind) _ blanks rfl⟩
    · exact ⟨'e', by decide, @Text.head?_trim_of_blanks _ ("num".toList ++ behind) _ blanks rfl⟩
    · exact ⟨'u', by decide, @Text.head?_trim_of_blanks _ ("nion".toList ++ behind) _ blanks rfl⟩

namespace TypeScope

/-- The head of a type whose line has no brace. -/
def bareHead? (index : Nat) (code : List Char) : Option TypeHead :=
  (Member.bareStart.matchStart? code).bind (headOf? index)

theorem head?_of_bareHead? {index : Nat} {code : List Char} {head : TypeHead}
    (bare : bareHead? index code = some head) :
    ∃ c ∈ ['t', 's', 'e', 'u'], (Text.trim code).head? = some c := by
  obtain ⟨found, matches', -⟩ := Option.bind_eq_some_iff.mp bare
  obtain ⟨stop, reached, -⟩ := Pattern.exists_of_matchAt? matches'
  obtain ⟨_, start, -⟩ := Pattern.mem_outcomes_append.mp reached
  exact Member.head?_of_typeStart start

/-- A line that settles types waits for the brace of its own type only. -/
theorem pendingType_settled {index : Nat} {code : List Char} {state : ScanState}
    (earlier : ∀ pending, state.pendingType = some pending → pending.line ≠ index) :
    (settled index code state).pendingType =
      (bareHead? index code).map fun head => ⟨head, index⟩ := by
  have given : ∀ state : ScanState, state.pendingType = none →
      (openedOrClosed index code state).pendingType =
        (bareHead? index code).map fun head => ⟨head, index⟩ := by
    intro state idle
    unfold openedOrClosed
    cases bare : (Member.bareStart.matchStart? code).bind (headOf? index) with
    | some head => rw [bareHead?, bare, Option.map_some]
    | none =>
      rw [bareHead?, bare, Option.map_none]
      have closed : (closed code state).pendingType = none := by
        unfold closed
        repeat' split
        all_goals exact idle
      dsimp only
      split
      · split
        · split <;> exact idle
        · exact closed
      · exact closed
  unfold settled
  cases waiting : state.pendingType with
  | none => exact given state waiting
  | some pending =>
    dsimp only
    rw [if_neg (earlier pending waiting)]
    split
    next braced =>
      have notBare : bareHead? index code = none := by
        by_contra bare
        obtain ⟨head, bare⟩ := Option.ne_none_iff_exists'.mp bare
        obtain ⟨c, among, head⟩ := head?_of_bareHead? bare
        have same := (beq_iff_eq.mp braced).symm.trans head
        cases same
        exact absurd among (by decide)
      rw [notBare]
      rfl
    next => exact given _ rfl

end TypeScope

namespace Scan

/-! ## Lines that are read for types -/

/-- Whether a line is read for types: it is a statement, neither on one line nor with a list that
goes on. -/
def readsTypes (line : Line) (state : ScanState) : Bool :=
  isStatement line state && !InlineControl.isInline line.code && !ParamBlock.opens line.code

variable {lines : List Line} {index : Nat} {site : Site} {state : ScanState}

/-- The state at a statement after its indentation is settled. -/
def indented (site : Site) (state : ScanState) : ScanState :=
  Indent.settled site { state with blankRun := 0 }

/-- The indentation of a line says nothing about types. -/
theorem exists_indented (site : Site) (state : ScanState) :
    ∃ frames nextIndent cases paramBlock blankRun, indented site state =
      { state with frames, nextIndent, cases, paramBlock, blankRun } := by
  have labelled : ∀ state : ScanState, ∃ frames nextIndent cases, Indent.labelled site state =
      { state with frames, nextIndent, cases } := by
    intro state
    unfold Indent.labelled Indent.outside CaseBlock.enter
    repeat' split
    all_goals exact ⟨_, _, _, rfl⟩
  obtain ⟨frames, nextIndent, cases, same⟩ := labelled { state with blankRun := 0 }
  unfold indented Indent.settled
  rw [same]
  simp only [Indent.followBraces]
  generalize Text.excess '{' '}' _ = net
  repeat' split
  all_goals exact ⟨_, _, _, _, _, rfl⟩

@[simp]
theorem types_indented (site : Site) (state : ScanState) :
    (indented site state).types = state.types := by
  obtain ⟨frames, nextIndent, cases, paramBlock, blankRun, same⟩ := exists_indented site state
  rw [same]

@[simp]
theorem pendingType_indented (site : Site) (state : ScanState) :
    (indented site state).pendingType = state.pendingType := by
  obtain ⟨frames, nextIndent, cases, paramBlock, blankRun, same⟩ := exists_indented site state
  rw [same]

theorem lineNext_of_readsTypes (reads : readsTypes site.line state) :
    lineNext site state =
      TypeScope.settled site.index site.line.code (indented site state) := by
  simp only [readsTypes, Bool.and_eq_true, Bool.not_eq_true'] at reads
  obtain ⟨⟨statement, inline⟩, opens⟩ := reads
  rw [lineNext_of_isStatement statement, statementNext, inline, opens]
  rfl

/-- A line that is not read for types leaves open and waiting types alone. -/
theorem types_of_not_readsTypes (unread : readsTypes site.line state = false) :
    (lineNext site state).types = state.types ∧
      (lineNext site state).pendingType = state.pendingType := by
  by_cases statement : isStatement site.line state
  · have skipped : InlineControl.isInline site.line.code || ParamBlock.opens site.line.code := by
      by_contra neither
      simp only [Bool.or_eq_true, not_or] at neither
      simp [readsTypes, statement, neither] at unread
    have next : lineNext site state = indented site state := by
      rw [lineNext_of_isStatement statement, statementNext, if_pos skipped]
      rfl
    rw [next]
    exact ⟨types_indented site state, pendingType_indented site state⟩
  · obtain ⟨frames, nextIndent, paramBlock, blankRun, inDefinition, same⟩ :=
      exists_lineNext_of_not_isStatement (by simpa using statement)
    rw [same]
    exact ⟨rfl, rfl⟩

/-! ## The line from which a type waits -/

/-- A type waits before the line of an index: a bare line gave its head, and no line behind that one
was read for types. -/
structure WaitsFrom (lines : List Line) (index : Nat) (pending : PendingType) : Prop where
  earlier : pending.line < index
  bare : ∃ site, Site.at? lines pending.line = some site ∧
    readsTypes site.line (stateBefore lines pending.line) ∧
      TypeScope.bareHead? pending.line site.line.code = some pending.head
  unread : ∀ between, pending.line < between → between < index →
    ∀ site ∈ Site.at? lines between, readsTypes site.line (stateBefore lines between) = false

/-- Behind a line, the types that wait are its own if it is read for types, and those that waited
before if it is not. -/
theorem waitsFrom_succ (there : Site.at? lines index = some site) {pending : PendingType} :
    WaitsFrom lines (index + 1) pending ↔
      if readsTypes site.line (stateBefore lines index) then
        pending.line = index ∧ TypeScope.bareHead? index site.line.code = some pending.head
      else WaitsFrom lines index pending := by
  constructor
  · intro waits
    split
    next reads =>
      have here : pending.line = index := by
        by_contra other
        have before := waits.earlier
        have unread := waits.unread index (by omega) (Nat.lt_succ_self index) site there
        rw [reads] at unread
        cases unread
      obtain ⟨found, foundThere, -, bare⟩ := waits.bare
      rw [here] at foundThere bare
      rw [there] at foundThere
      cases foundThere
      exact ⟨here, bare⟩
    next unread =>
      have before : pending.line < index := by
        have within := waits.earlier
        by_contra other
        have here : pending.line = index := by omega
        obtain ⟨found, foundThere, reads, -⟩ := waits.bare
        rw [here] at foundThere reads
        rw [there] at foundThere
        cases foundThere
        exact unread reads
      exact ⟨before, waits.bare, fun between behind within =>
        waits.unread between behind (Nat.lt_succ_of_lt within)⟩
  · intro either
    split at either
    next reads =>
      obtain ⟨here, bare⟩ := either
      refine ⟨by omega, ?_, ?_⟩
      · rw [here]
        exact ⟨site, there, reads, bare⟩
      · intro between behind within
        omega
    next unread =>
      refine ⟨Nat.lt_succ_of_lt either.earlier, either.bare, ?_⟩
      intro between behind within found foundThere
      by_cases here : between = index
      · subst here
        have same := foundThere.symm.trans there
        cases same
        simpa using unread
      · exact either.unread between behind (by omega) found foundThere

/-- Before every line the type that waits is that of the nearest line before that is read for types,
if this line is bare. -/
theorem pendingType_stateBefore (lines : List Line) :
    ∀ index ≤ lines.length, ∀ pending,
      (stateBefore lines index).pendingType = some pending ↔ WaitsFrom lines index pending := by
  intro index within
  induction index with
  | zero =>
    intro pending
    constructor
    · intro waiting
      cases waiting
    · intro waits
      exact absurd waits.earlier (Nat.not_lt_zero _)
  | succ index inductionHypothesis =>
    intro pending
    have before := inductionHypothesis (Nat.le_of_succ_le within)
    obtain ⟨site, there, -⟩ := Site.exists_at? within
    have next : (advance site (stateBefore lines index)).pendingType =
        (lineNext site (stateBefore lines index)).pendingType := rfl
    rw [stateBefore_succ there, next, waitsFrom_succ there]
    by_cases reads : readsTypes site.line (stateBefore lines index)
    · have earlier : ∀ pending, (indented site (stateBefore lines index)).pendingType =
          some pending → pending.line ≠ site.index := by
        intro pending waiting
        rw [pendingType_indented] at waiting
        have waits := (before pending).mp waiting
        rw [Site.index_of_at? there]
        exact Nat.ne_of_lt waits.earlier
      rw [lineNext_of_readsTypes reads, TypeScope.pendingType_settled earlier,
        Site.index_of_at? there, if_pos reads, Option.map_eq_some_iff]
      constructor
      · rintro ⟨head, bare, rfl⟩
        exact ⟨rfl, bare⟩
      · rintro ⟨rfl, bare⟩
        exact ⟨pending.head, bare, rfl⟩
    · rw [(types_of_not_readsTypes (by simpa using reads)).2, if_neg reads]
      exact before pending

/-- The line of an index opens the type that waits before it. -/
def OpensWaiting (lines : List Line) (index : Nat) (pending : PendingType) : Prop :=
  (stateBefore lines index).pendingType = some pending ∧ ∃ site ∈ Site.at? lines index,
    readsTypes site.line (stateBefore lines index) ∧ site.line.stripped.head? = some '{'

instance (lines : List Line) (index : Nat) (pending : PendingType) :
    Decidable (OpensWaiting lines index pending) := by
  unfold OpensWaiting
  infer_instance

/-- A line that opens the waiting type enters it at the depth behind its own brace. -/
theorem types_of_opensWaiting {pending : PendingType} (opens : OpensWaiting lines index pending)
    (there : Site.at? lines index = some site) :
    lineNext site (stateBefore lines index) =
      { indented site (stateBefore lines index) with
        pendingType := none
        types := ⟨pending.head, (indented site (stateBefore lines index)).depth⟩ ::
          (stateBefore lines index).types } := by
  obtain ⟨waiting, found, foundThere, reads, braced⟩ := opens
  cases Option.mem_unique foundThere there
  have within : index ≤ lines.length := Nat.le_of_lt (Site.lt_length_of_at? there)
  have earlier := ((pendingType_stateBefore lines index within pending).mp waiting).earlier
  have braced : (Text.trim site.line.code).head? == some '{' := beq_iff_eq.mpr braced
  rw [lineNext_of_readsTypes reads]
  simp only [TypeScope.settled, pendingType_indented, types_indented, waiting,
    Site.index_of_at? there, Nat.ne_of_lt earlier, if_false, braced, if_true]
  rfl

end Scan

/-- Whenever a line opens a type that waits, the type is that of the nearest line before it that is
read for types, and this line is bare. The nearest line with code is that line, or is not read for
types. -/
theorem opensWaiting_run (settings : Settings) {lines : List Line} {index : Nat}
    {record : Scan.Record} (scanned : (Scan.run settings lines).1[index]? = some record)
    {pending : PendingType} (opens : Scan.OpensWaiting lines index pending) :
    (∃ depth, record.state.types = ⟨pending.head, depth⟩ :: (Scan.stateBefore lines index).types) ∧
      record.state.pendingType = none ∧ Scan.WaitsFrom lines index pending ∧
        ∀ nearest < index, ∀ site ∈ Site.at? lines nearest, site.line.hasCode →
          (∀ between, nearest < between → between < index →
            ∀ line ∈ lines[between]?, line.hasCode = false) →
          nearest = pending.line ∨
            Scan.readsTypes site.line (Scan.stateBefore lines nearest) = false := by
  obtain ⟨site, there, -⟩ := Scan.step_of_run scanned
  have within : index ≤ lines.length := Nat.le_of_lt (Site.lt_length_of_at? there)
  have waits := (Scan.pendingType_stateBefore lines index within pending).mp opens.1
  have opened := Scan.types_of_opensWaiting opens there
  have types : record.state.types = (Scan.lineNext site (Scan.stateBefore lines index)).types := by
    rw [Scan.state_of_run scanned, Scan.stateBefore_succ there]
    rfl
  have pendingType : record.state.pendingType =
      (Scan.lineNext site (Scan.stateBefore lines index)).pendingType := by
    rw [Scan.state_of_run scanned, Scan.stateBefore_succ there]
    rfl
  rw [opened] at types pendingType
  refine ⟨⟨_, types⟩, pendingType, waits, ?_⟩
  intro nearest before found foundThere coded codeless
  by_cases behind : pending.line < nearest
  · exact .inr (waits.unread nearest behind before found foundThere)
  · obtain ⟨bare, bareThere, reads, -⟩ := waits.bare
    left
    by_contra other
    have bareCoded : bare.line.hasCode = false :=
      codeless pending.line (by omega) waits.earlier bare.line (Site.getElem?_of_at? bareThere)
    simp only [Scan.readsTypes, Bool.and_eq_true] at reads
    rw [Scan.hasCode_of_isStatement reads.1.1] at bareCoded
    cases bareCoded

/-- A type on two lines. -/
theorem opensWaiting_run_next_line :
    let lines := Line.ofRaws (["struct point", "\x7b", "  int x;", "\x7d;"].map String.toList)
    let pending : PendingType := ⟨⟨.struct, false, some "point".toList, 1, 7⟩, 0⟩
    Scan.OpensWaiting lines 1 pending ∧ ∃ record, (Scan.run .default lines).1[1]? = some record ∧
      (∃ depth, record.state.types = [⟨pending.head, depth⟩]) ∧
        Scan.WaitsFrom lines 1 pending := by
  intro lines pending
  have opens : Scan.OpensWaiting lines 1 pending := by decide +kernel
  have scanned : ((Scan.run .default lines).1[1]?).isSome := by decide +kernel
  have outside : (Scan.stateBefore lines 1).types = [] := by decide +kernel
  obtain ⟨record, found⟩ := Option.isSome_iff_exists.mp scanned
  obtain ⟨opened, -, waits, -⟩ := opensWaiting_run .default found opens
  rw [outside] at opened
  exact ⟨opens, record, found, opened, waits⟩

/-- The body of a function whose return type stands on a line of its own is taken for that of the
type: the lines of its list of parameters are not read for types. -/
theorem opensWaiting_run_function_body :
    let lines := Line.ofRaws
      (["struct point", "point_make(int x,", "           int y)", "\x7b", "  return;", "\x7d"].map
        String.toList)
    let pending : PendingType := ⟨⟨.struct, false, some "point".toList, 1, 7⟩, 0⟩
    Scan.OpensWaiting lines 3 pending ∧
      (lines[2]?.map fun line => (line.hasCode, TypeScope.bareHead? 2 line.code)) =
        some (true, none) ∧
      (((Scan.run .default lines).1[3]?).map fun record => record.state.types) =
        some [⟨pending.head, 1⟩] := by
  decide +kernel

end HouseStyle
