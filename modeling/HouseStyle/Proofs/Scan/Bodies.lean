import HouseStyle.Proofs.Braces
import HouseStyle.Proofs.Scan.Nesting
import HouseStyle.Proofs.Scan.Pending

/-!
Contract: the bodies of types, from the line that enters one to the line that closes it.

Owns: the lines that enter the body of a type, the conditions on closing braces under which the scan
finds the end of every body, and the depth and the bodies of cases at that end.
Does not own: which types are open, which `Proofs.Scan.Declarations` says.

A type is entered at the depth behind its brace and left by a line that starts with a closing brace
and goes back below that depth. Depth counts open braces and open bodies of cases. The bodies of
cases that are open when a type is entered stay open as long as its body does, because their labels
cannot look past it, and those entered inside it end before the line of its closing brace. So at
that line, and at no line before it, the depth is the one at which the type was entered.

Main statements: the bodies of cases around that of a type (`Followed.cases_of_stillOpen`), and the
line that closes it (`closer_of_not_stillOpen`).
-/

namespace HouseStyle

namespace TypeScope

/-! ## The types of a single line -/

/-- The head of a type that a line opens together with its brace and does not close. -/
def bracedHead? (index : Nat) (code : List Char) : Option TypeHead :=
  if (bareHead? index code).isSome then none
  else (Member.braceStart.matchStart? code).bind fun found =>
    if staysOpen code found.stop then headOf? index found else none

/-- The head of the type whose body a line enters. -/
def enteredHead? (index : Nat) (code : List Char) (waiting : Option PendingType) : Option TypeHead :=
  match waiting with
  | some pending =>
    if (Text.trim code).head? = some '{' then some pending.head else bracedHead? index code
  | none => bracedHead? index code

theorem types_closed (code : List Char) (state : ScanState) :
    (closed code state).types =
      if (Text.trim code).head? = some '}' ∧
          state.types.head?.map TypeScope.depth = some (state.depth + 1) then state.types.tail
      else state.types := by
  unfold closed
  cases inner : state.types with
  | nil => simp [inner]
  | cons scope types =>
    by_cases closes : (Text.trim code).head? = some '}' ∧ state.depth + 1 = scope.depth
    · simp [closes.1, closes.2]
    · simp only [List.head?_cons, Option.map_some, Option.some.injEq, List.tail_cons]
      rw [if_neg (by simpa using closes), if_neg (by simpa [eq_comm] using closes), inner]

theorem head?_ne_of_not_mem {text among : List Char} {other : Char}
    (starts : ∃ c ∈ among, text.head? = some c) (foreign : other ∉ among) :
    text.head? ≠ some other := by
  obtain ⟨c, member, starts⟩ := starts
  rw [starts]
  rintro same
  cases same
  exact foreign member

theorem head?_of_braceStart {code : List Char} {found : Match}
    (braced : Member.braceStart.matchStart? code = some found) :
    ∃ c ∈ ['t', 's', 'e', 'u'], (Text.trim code).head? = some c := by
  obtain ⟨stop, reached, -⟩ := Pattern.exists_of_matchAt? braced
  obtain ⟨_, start, -⟩ := Pattern.mem_outcomes_append.mp reached
  exact Member.head?_of_typeStart start

/-- The first line of a type with its brace is cut at the brace, which is the first one on it. -/
theorem split_of_braceStart {code : List Char} {found : Match}
    (braced : Member.braceStart.matchStart? code = some found) :
    ∃ consumed rest, code = consumed ++ '{' :: rest ∧ '{' ∉ consumed ∧ '}' ∉ consumed ∧
      found.stop = consumed.length + 1 := by
  obtain ⟨stop, reached, same⟩ := Pattern.exists_of_matchAt? braced
  have reaches := Pattern.reaches_of_mem_outcomes reached
  obtain ⟨between, start, brace⟩ := Pattern.mem_outcomes_append.mp reached
  obtain ⟨rest, next, rfl⟩ := Pattern.mem_outcomes_char.mp brace
  obtain ⟨consumed, split, position, noOpener⟩ :=
    Pattern.reachesWithout_of_mem_outcomes (c := '{') (by decide) start
  obtain ⟨consumed', split', position', noCloser⟩ :=
    Pattern.reachesWithout_of_mem_outcomes (c := '}') (by decide) start
  have twice : consumed' ++ between.rest = consumed ++ between.rest := by
    rw [← split, ← split']
  rw [List.append_cancel_right twice] at noCloser
  refine ⟨consumed, rest, ?_, noOpener, noCloser, ?_⟩
  · rw [← next]
    exact split
  · have column : between.position = consumed.length := position.trans (Nat.zero_add _)
    rw [same, ← column]
    exact Cursor.Reaches.stop_excerpt (.refl _) reaches

theorem closed_of_head? {code : List Char} {state : ScanState}
    (other : (Text.trim code).head? ≠ some '}') : closed code state = state := by
  unfold closed
  split
  · rfl
  · rw [if_neg]
    simp [other]

theorem openedOrClosed_eq {index : Nat} {code : List Char} {state : ScanState} :
    (openedOrClosed index code state).types =
      match bracedHead? index code with
      | some head => ⟨head, state.depth⟩ :: state.types
      | none => (closed code state).types := by
  unfold openedOrClosed bracedHead?
  cases bare : (Member.bareStart.matchStart? code).bind (headOf? index) with
  | some head =>
    have notCloser : (Text.trim code).head? ≠ some '}' :=
      head?_ne_of_not_mem (head?_of_bareHead? (show bareHead? index code = some head from bare))
        (by decide)
    simp only [bareHead?, bare, Option.isSome_some, if_true, closed_of_head? notCloser]
  | none =>
    simp only [bareHead?, bare, Option.isSome_none, Bool.false_eq_true, if_false]
    cases braced : Member.braceStart.matchStart? code with
    | none => rfl
    | some found =>
      have notCloser : (Text.trim code).head? ≠ some '}' :=
        head?_ne_of_not_mem (head?_of_braceStart braced) (by decide)
      simp only [Option.bind_some]
      by_cases open' : staysOpen code found.stop
      · simp only [open', if_true]
        cases headOf? index found with
        | none => rfl
        | some head => rfl
      · simp only [open', closed_of_head? notCloser]
        cases headOf? index found with
        | none => rfl
        | some head => rfl

/-- A line enters the body of a type, or closes the innermost type, or leaves types alone. -/
theorem types_settled {index : Nat} {code : List Char} {state : ScanState}
    (earlier : ∀ pending, state.pendingType = some pending → pending.line ≠ index) :
    (settled index code state).types =
      match enteredHead? index code state.pendingType with
      | some head => ⟨head, state.depth⟩ :: state.types
      | none => (closed code state).types := by
  unfold settled enteredHead?
  cases waiting : state.pendingType with
  | none => exact openedOrClosed_eq
  | some pending =>
    dsimp only
    rw [if_neg (earlier pending waiting)]
    by_cases braced : (Text.trim code).head? = some '{'
    · simp only [braced, beq_self_eq_true, if_true]
      rfl
    · simp only [braced, beq_eq_false_iff_ne.mpr braced, if_false, Bool.false_eq_true]
      rw [openedOrClosed_eq]
      cases bracedHead? index code with
      | some head => rfl
      | none => exact (types_closed code _).trans (types_closed code state).symm

end TypeScope

namespace Scan

/-! ## Types that the scan enters -/

/-- The type whose body the line of an index enters. -/
def enteredType? (lines : List Line) (index : Nat) : Option TypeScope :=
  (Site.at? lines index).bind fun site =>
    let state := stateBefore lines index
    if readsTypes site.line state then
      (TypeScope.enteredHead? index site.line.code state.pendingType).map fun head =>
        ⟨head, (indented site state).depth⟩
    else none

/-- The braces that are open behind a line stay open up to the line of an index. -/
def StillOpen (lines : List Line) (opener index : Nat) : Prop :=
  ∀ place ≤ lineStart lines index, lineStart lines (opener + 1) ≤ place →
    level lines (lineStart lines (opener + 1)) ≤ level lines place

instance (lines : List Line) (opener index : Nat) : Decidable (StillOpen lines opener index) := by
  unfold StillOpen
  infer_instance

/-! ## Conditions on closing braces -/

/-- The brace at a place opens the body of a type on the line of the type's word. -/
def OpensOnLine (lines : List Line) (index place : Nat) : Prop :=
  ∃ site ∈ Site.at? lines index, ∃ found ∈ Member.braceStart.matchStart? site.line.code,
    (TypeScope.headOf? index found).isSome ∧ lineStart lines index + found.stop = place + 1

instance (lines : List Line) (index place : Nat) : Decidable (OpensOnLine lines index place) := by
  unfold OpensOnLine
  infer_instance

/-- The brace at a place starts its line, before which a type waits. -/
def OpensNextLine (lines : List Line) (index place : Nat) : Prop :=
  (stateBefore lines index).pendingType.isSome ∧ OnLine lines index place ∧
    BeginsLine lines index place ∧ (codeOf lines)[place]? = some '{'

instance (lines : List Line) (index place : Nat) : Decidable (OpensNextLine lines index place) := by
  unfold OpensNextLine
  infer_instance

/-- If the brace at a place is closed on another line than its own, the closing brace starts that
line, with as many braces closed as opened behind it. -/
def ClosesAtStart (lines : List Line) (index place : Nat) : Prop :=
  ∀ closer < lines.length, ∀ last < (codeOf lines).length,
    index < closer ∧ OnLine lines closer last ∧ Matched lines place last →
      BeginsLine lines closer last ∧ Closed lines (last + 1) (lineStart lines (closer + 1))

instance (lines : List Line) (index place : Nat) : Decidable (ClosesAtStart lines index place) := by
  unfold ClosesAtStart
  infer_instance

/-- The brace at a place is not closed on its own line. -/
def StaysOpen (lines : List Line) (index place : Nat) : Prop :=
  ∀ last < (codeOf lines).length, Matched lines place last → lineStart lines (index + 1) ≤ last

instance (lines : List Line) (index place : Nat) : Decidable (StaysOpen lines index place) := by
  unfold StaysOpen
  infer_instance

/-- The closing brace of every body of a type stands on the line of the opening one, if this is also
the line of the type's word, or starts its line, with as many braces closed as opened behind it. -/
structure BodiesClosed (lines : List Line) : Prop where
  onLine : ∀ index < lines.length, ∀ place < (codeOf lines).length,
    OpensOnLine lines index place → ClosesAtStart lines index place
  nextLine : ∀ index < lines.length, ∀ place < (codeOf lines).length,
    OpensNextLine lines index place →
      ClosesAtStart lines index place ∧ StaysOpen lines index place

instance (lines : List Line) : Decidable (BodiesClosed lines) :=
  decidable_of_iff
    ((∀ index < lines.length, ∀ place < (codeOf lines).length,
      OpensOnLine lines index place → ClosesAtStart lines index place) ∧
      ∀ index < lines.length, ∀ place < (codeOf lines).length, OpensNextLine lines index place →
        ClosesAtStart lines index place ∧ StaysOpen lines index place)
    ⟨fun ⟨onLine, nextLine⟩ => ⟨onLine, nextLine⟩, fun closed => ⟨closed.onLine, closed.nextLine⟩⟩

/-! ## The line that enters a body -/

variable {lines : List Line} {index place first last opener stop : Nat} {site : Site}
  {state : ScanState} {scope : TypeScope}

theorem exists_of_enteredType? (entered : enteredType? lines index = some scope) :
    ∃ site head, Site.at? lines index = some site ∧ readsTypes site.line (stateBefore lines index) ∧
      TypeScope.enteredHead? index site.line.code (stateBefore lines index).pendingType = some head ∧
      scope = ⟨head, (indented site (stateBefore lines index)).depth⟩ := by
  obtain ⟨site, there, entered⟩ := Option.bind_eq_some_iff.mp entered
  dsimp only at entered
  split at entered
  next reads =>
    obtain ⟨head, headed, rfl⟩ := Option.map_eq_some_iff.mp entered
    exact ⟨site, head, there, reads, headed, rfl⟩
  next => cases entered

/-- What a line that enters a body says of the braces on it: the brace of the body is the first, and
nothing on the line closes it. -/
structure Enters (lines : List Line) (index first : Nat) : Prop where
  onLine : OnLine lines index first
  opens : (codeOf lines)[first]? = some '{'
  before : ∀ place ≤ first, lineStart lines index ≤ place →
    level lines place = level lines (lineStart lines index)
  behind : ∀ place ≤ lineStart lines (index + 1), first < place →
    level lines (lineStart lines index) + 1 ≤ level lines place
  closes : ClosesAtStart lines index first

theorem enters_of_opensNextLine (closed : BodiesClosed lines) (inside : index < lines.length)
    (opens : OpensNextLine lines index first) : Enters lines index first := by
  have within : first < (codeOf lines).length := (List.getElem?_eq_some_iff.mp opens.2.2.2).1
  obtain ⟨closes, stays⟩ := closed.nextLine index inside first within opens
  obtain ⟨-, onLine, begins, brace⟩ := opens
  have start := begins.level_eq onLine.1 (Nat.le_refl first)
  refine ⟨onLine, brace, fun place before from' => begins.level_eq from' before, ?_, closes⟩
  intro place before behind
  by_contra below
  obtain ⟨last, early, matched⟩ := exists_matched brace behind (by omega)
  have last_lt : last < (codeOf lines).length := (List.getElem?_eq_some_iff.mp matched.closes).1
  have late := stays last last_lt matched
  omega

theorem enters_of_opensOnLine (closed : BodiesClosed lines) (there : Site.at? lines index = some site)
    {found : Match} (braced : Member.braceStart.matchStart? site.line.code = some found)
    (headed : (TypeScope.headOf? index found).isSome)
    (open' : TypeScope.staysOpen site.line.code found.stop) : ∃ first, Enters lines index first := by
  obtain ⟨consumed, rest, code_eq, noOpener, noCloser, stop_eq⟩ := TypeScope.split_of_braceStart braced
  have within : consumed.length < site.line.code.length := by
    rw [code_eq, List.length_append, List.length_cons]
    omega
  have opens : (codeOf lines)[lineStart lines index + consumed.length]? = some '{' := by
    rw [getElem?_column there within, code_eq, List.getElem?_append_right (Nat.le_refl _),
      Nat.sub_self]
    rfl
  have onLine : OnLine lines index (lineStart lines index + consumed.length) := by
    refine ⟨Nat.le_add_right _ _, ?_⟩
    rw [lineStart_succ there]
    omega
  have before : ∀ place ≤ lineStart lines index + consumed.length, lineStart lines index ≤ place →
      level lines place = level lines (lineStart lines index) := by
    intro place early behind
    apply level_eq_of_no_braces _ behind
    intro earlier inside from'
    obtain ⟨column, rfl⟩ := Nat.exists_eq_add_of_le from'
    rw [getElem?_column there (by omega), code_eq, List.getElem?_append_left (by omega)]
    exact ⟨fun opener => noOpener (List.mem_of_getElem? opener),
      fun closer => noCloser (List.mem_of_getElem? closer)⟩
  refine ⟨lineStart lines index + consumed.length, onLine, opens, before, ?_, ?_⟩
  · intro place early behind
    by_contra below
    have start := before _ (Nat.le_refl _) onLine.1
    obtain ⟨last, inside, matched⟩ := exists_matched opens behind (by omega)
    have late := matched.before
    obtain ⟨column, rfl, short, closer⟩ :=
      OnLine.exists_column there ⟨by omega, Nat.lt_of_lt_of_le inside early⟩
    rw [matched.closes] at closer
    obtain ⟨close, lastClose, further⟩ := Text.le_findLast? closer.symm
    have staysBefore := open'
    rw [TypeScope.staysOpen, lastClose, Option.all_some, decide_eq_true_eq] at staysBefore
    omega
  · apply closed.onLine index (Site.lt_length_of_at? there) _ (List.getElem?_eq_some_iff.mp opens).1
    exact ⟨site, there, found, braced, headed, by omega⟩

/-- The line of a type that is entered has the brace of its body, and no brace on it closes that
one. -/
theorem exists_enters (closed : BodiesClosed lines) (there : Site.at? lines index = some site)
    {head : TypeHead} (entered : TypeScope.enteredHead? index site.line.code
      (stateBefore lines index).pendingType = some head) :
    (∃ first, Enters lines index first) ∧
      ∃ c ∈ ['t', 's', 'e', 'u', '{'], site.line.stripped.head? = some c := by
  have inside := Site.lt_length_of_at? there
  have braced : TypeScope.bracedHead? index site.line.code = some head →
      (∃ first, Enters lines index first) ∧
        ∃ c ∈ ['t', 's', 'e', 'u', '{'], site.line.stripped.head? = some c := by
    intro braced
    unfold TypeScope.bracedHead? at braced
    split at braced
    · cases braced
    · obtain ⟨found, matches', headed⟩ := Option.bind_eq_some_iff.mp braced
      split at headed
      next open' =>
        obtain ⟨c, among, starts⟩ := TypeScope.head?_of_braceStart matches'
        exact ⟨enters_of_opensOnLine closed there matches' (Option.isSome_of_eq_some headed) open',
          c, List.mem_append_left ['{'] among, starts⟩
      next => cases headed
  unfold TypeScope.enteredHead? at entered
  cases waiting : (stateBefore lines index).pendingType with
  | none =>
    rw [waiting] at entered
    exact braced entered
  | some pending =>
    rw [waiting] at entered
    dsimp only at entered
    split at entered
    next starts =>
      obtain ⟨first, onLine, begins, opens⟩ := (head?_stripped_iff there rfl).mp starts
      have waits : (stateBefore lines index).pendingType.isSome := by
        rw [waiting]
        rfl
      exact ⟨⟨first, enters_of_opensNextLine closed inside ⟨waits, onLine, begins, opens⟩⟩,
        '{', by decide, starts⟩
    next => exact braced entered

/-! ## Files whose bodies the scan can follow -/

/-- The conditions on a file under which the scan follows its bodies, up to the line of an index. -/
structure Followed (lines : List Line) (stop : Nat) : Prop where
  written : ∃ raws, lines = Line.ofRaws raws
  traceable : Traceable lines
  undirected : ∀ line ∈ lines, line.hasCode → line.stripped.head? ≠ some '#'
  balanced : LabelsBalanced lines stop
  closed : BodiesClosed lines

/-- The depth behind a line that is read for types: its open braces and the open bodies of cases. -/
theorem Followed.depth_settled (followed : Followed lines stop)
    (there : Site.at? lines index = some site)
    (reads : readsTypes site.line (stateBefore lines index)) :
    ((indented site (stateBefore lines index)).depth : Int) =
      level lines (lineStart lines (index + 1)) +
        ((entered? site (stateBefore lines index)).toList ++ (stateBefore lines index).cases).length := by
  obtain ⟨raws, rfl⟩ := followed.written
  have accounted := accounted_stateBefore followed.traceable followed.undirected index
    (Nat.le_of_lt (Site.lt_length_of_at? there))
  have surplus := (accounted.lineNext followed.traceable followed.undirected there).surplus
  rw [← cases_lineNext, lineNext_of_readsTypes reads] at *
  obtain ⟨types, pendingType, same⟩ := ScanState.exists_typeScope_settled site.index site.line.code
    (indented site (stateBefore (Line.ofRaws raws) index))
  rw [level_lineStart]
  rw [same, ScanState.surplus] at surplus
  rw [same]
  simp only [ScanState.depth] at surplus ⊢
  rw [codeOf]
  omega

theorem hasCode_of_closer (closes : site.line.stripped.head? = some '}') : site.line.hasCode := by
  by_contra codeless
  exact (Line.not_mem_code_of_hasCode (by simpa using codeless)).2
    ((Text.isInfix_trim site.line.code).subset (List.mem_of_head? closes))

/-- A line that starts with a closing brace is read for types. -/
theorem Followed.readsTypes_of_closer (followed : Followed lines stop)
    (there : Site.at? lines index = some site) (closes : site.line.stripped.head? = some '}') :
    readsTypes site.line (stateBefore lines index) := by
  obtain ⟨raws, rfl⟩ := followed.written
  have accounted := accounted_stateBefore followed.traceable followed.undirected index
    (Nat.le_of_lt (Site.lt_length_of_at? there))
  have line := followed.traceable.line followed.undirected there
  obtain ⟨before, raw, written⟩ := Line.exists_ofRaw_of_mem (Site.mem_of_at? there)
  have closer : '}' ∈ site.line.code :=
    (Text.isInfix_trim site.line.code).subset (List.mem_of_head? closes)
  have coded := hasCode_of_closer closes
  have inked : site.line.isBlank = false := by
    by_contra blank
    have blank : Text.isBlankText raw := by simpa [written, Line.isBlank] using blank
    rw [written, Line.hasCode_ofRaw_of_isBlank blank] at coded
    cases coded
  have noLabel : (labelFindings? site.line.code).isNone := by
    by_contra label
    exact (not_mem_of_labelFindings? (by simpa [Option.isSome_iff_ne_none] using label)).2 closer
  have noInline : InlineControl.isInline site.line.code = false := by
    by_contra inline
    exact InlineControl.head?_trim_of_isInline (by simpa using inline) closes
  simp [readsTypes, isStatement, inked, coded, noLabel, noInline, accounted.outside.1,
    accounted.outside.2, line.no_list coded, line.undirected coded]

theorem not_labelStart_of_head?_ne {text : List Char} (noCase : text.head? ≠ some 'c')
    (noDefault : text.head? ≠ some 'd') : ¬ CaseBlock.labelStart.fits text := by
  intro fits
  obtain ⟨rest, rfl | rfl⟩ := starts_of_labelStart fits
  · exact noCase rfl
  · exact noDefault rfl

/-- A line enters no body of a case unless it starts with the word of a label. -/
theorem entered?_eq_none (noLabel : ¬ CaseBlock.labelStart.fits site.line.stripped) :
    entered? site state = none := by
  cases entered : entered? site state with
  | none => rfl
  | some frame =>
    obtain ⟨-, label, -⟩ := label_of_entered? entered
    exact absurd (Bool.and_eq_true_iff.mp label).1 noLabel

end Scan

namespace CaseBlock

variable {lines : List Line} {index start stop endLine : Nat} {depth : Int} {site : Site}

theorem head?_of_breakStatement {text : List Char} (fits : breakStatement.fits text) :
    text.head? = some 'b' := by
  obtain ⟨stop, reached⟩ := Pattern.fits_iff.mp fits
  simp only [breakStatement, Pattern.atStart, Pattern.mem_outcomes_append, Pattern.mem_outcomes_look,
    Pattern.mem_outcomes_word] at reached
  obtain ⟨_, ⟨_, ⟨_, ⟨-, rfl⟩, rest, written, -⟩, -⟩, -⟩ := reached
  rw [show text = "break".toList ++ rest from written]
  rfl

/-- The reading of a body that is inside a block goes on until the block is closed. -/
theorem Reads.later (reads : Reads lines start depth endLine) (ahead : start ≤ stop)
    (within : stop ≤ lines.length)
    (deep : ∀ index ≤ stop, start ≤ index →
      1 ≤ depth + (level lines (lineStart lines index) - level lines (lineStart lines start))) :
    Reads lines stop
      (depth + (level lines (lineStart lines stop) - level lines (lineStart lines start))) endLine := by
  induction stop, ahead using Nat.le_induction with
  | base => simpa using reads
  | succ stop ahead inductionHypothesis =>
    obtain ⟨site, there, -⟩ := Site.exists_at? within
    have before := inductionHypothesis (Nat.le_of_succ_le within)
      fun index early => deep index (Nat.le_succ_of_le early)
    have here := deep stop (Nat.le_succ stop) ahead
    have further := deep (stop + 1) (Nat.le_refl _) (Nat.le_succ_of_le ahead)
    have step := level_lineStart_succ there
    rw [step] at further ⊢
    have next := before.next there fun _ => ⟨by omega, by omega, by omega⟩
    rwa [show depth + (level lines (lineStart lines stop) - level lines (lineStart lines start)) +
      Text.excess '{' '}' site.line.code = depth + (level lines (lineStart lines stop) +
        Text.excess '{' '}' site.line.code - level lines (lineStart lines start)) by omega] at next

/-- A line with code inside a block is part of the body. -/
theorem Reads.le (there : Site.at? lines index = some site) (reads : Reads lines index depth endLine)
    (coded : site.line.hasCode) (deep : 1 ≤ depth) : index ≤ endLine := by
  obtain ⟨last, marked, -, ends⟩ := reads
  have nonzero : depth ≠ 0 := by omega
  rw [Site.drop_of_at? there, scanBody, if_pos coded] at ends
  simp only [nonzero, false_and, if_false] at ends
  split at ends
  · exact Nat.le_of_eq (Option.some.inj ends)
  · obtain ⟨later, same, behind⟩ := le_scanBody_last (Nat.le_succ index)
    rw [ends] at same
    cases same
    exact behind

/-- A body that ends no earlier than a line is open before it, at the depth of its braces. -/
theorem Open.later (body : Open lines start depth endLine) (ahead : start ≤ stop)
    (before : stop ≤ endLine) :
    Open lines stop
      (depth + (level lines (lineStart lines stop) - level lines (lineStart lines start))) endLine := by
  induction stop, ahead using Nat.le_induction with
  | base => simpa using body
  | succ stop ahead inductionHypothesis =>
    have here := inductionHypothesis (Nat.le_of_succ_le before)
    obtain ⟨site, there, -⟩ := Site.exists_at? (Nat.lt_of_lt_of_le before (Nat.le_of_lt body.lt_length))
    have next := here.next there (by omega)
    rw [level_lineStart_succ there]
    rwa [show depth + (level lines (lineStart lines stop) - level lines (lineStart lines start)) +
      Text.excess '{' '}' site.line.code = depth + (level lines (lineStart lines stop) +
        Text.excess '{' '}' site.line.code - level lines (lineStart lines start)) by omega] at next

end CaseBlock

namespace Scan

variable {lines : List Line} {index first last opener stop : Nat} {site : Site} {scope : TypeScope}

/-! ## The bodies of cases around that of a type -/

/-- What the scan knows of a type whose body it entered: its line, the depth behind it, and that the
line is no label. -/
structure Entered (lines : List Line) (opener : Nat) (scope : TypeScope) : Prop where
  enters : ∃ first, Enters lines opener first
  level_succ : level lines (lineStart lines (opener + 1)) = level lines (lineStart lines opener) + 1
  depth : (scope.depth : Int) =
    level lines (lineStart lines (opener + 1)) + (stateBefore lines opener).cases.length
  line : ∃ site, Site.at? lines opener = some site ∧ site.line.hasCode ∧
    ∃ c ∈ ['t', 's', 'e', 'u', '{'], site.line.stripped.head? = some c

/-- The line that enters a body starts with a word of types or with a brace. -/
theorem Entered.head?_ne (entered : Entered lines opener scope)
    (there : Site.at? lines opener = some site) {c : Char} (other : c ∉ ['t', 's', 'e', 'u', '{']) :
    site.line.stripped.head? ≠ some c := by
  obtain ⟨found, foundThere, -, starts⟩ := entered.line
  rw [there] at foundThere
  cases foundThere
  exact TypeScope.head?_ne_of_not_mem starts other

theorem Entered.not_labelStart (entered : Entered lines opener scope)
    (there : Site.at? lines opener = some site) :
    ¬ CaseBlock.labelStart.fits site.line.stripped :=
  not_labelStart_of_head?_ne (entered.head?_ne there (by decide))
    (entered.head?_ne there (by decide))

theorem Followed.entered (followed : Followed lines stop)
    (entered : enteredType? lines opener = some scope) : Entered lines opener scope := by
  obtain ⟨site, head, there, reads, headed, rfl⟩ := exists_of_enteredType? entered
  obtain ⟨⟨first, enters⟩, starts⟩ := exists_enters followed.closed there headed
  have other : ∀ c ∉ ['t', 's', 'e', 'u', '{'], site.line.stripped.head? ≠ some c :=
    fun c => TypeScope.head?_ne_of_not_mem starts
  have coded : site.line.hasCode := by
    simp only [readsTypes, Bool.and_eq_true] at reads
    exact hasCode_of_isStatement reads.1.1
  have level_succ : level lines (lineStart lines (opener + 1)) =
      level lines (lineStart lines opener) + 1 := by
    have one := followed.traceable.opens_one _ (Site.mem_of_at? there) coded
    have excess := site.line.excess_code
    have least := enters.behind _ (Nat.le_refl _) enters.onLine.2
    rw [if_neg (other '}' (by decide))] at excess
    rw [level_lineStart_succ there] at least ⊢
    omega
  have noLabel : entered? site (stateBefore lines opener) = none :=
    entered?_eq_none (not_labelStart_of_head?_ne (other 'c' (by decide)) (other 'd' (by decide)))
  refine ⟨⟨first, enters⟩, level_succ, ?_, site, there, coded, starts⟩
  rw [followed.depth_settled there reads, noLabel]
  rfl

/-- A body of cases that is open where that of a type is entered goes on behind the line. -/
theorem Entered.reads_succ (entered : Entered lines opener scope) {depth : Int} {endLine : Nat}
    (body : CaseBlock.Open lines opener depth endLine) :
    CaseBlock.Reads lines (opener + 1) (depth + 1) endLine := by
  obtain ⟨site, there, -, -⟩ := entered.line
  have excess : Text.excess '{' '}' site.line.code = 1 := by
    have step := level_lineStart_succ there
    rw [entered.level_succ] at step
    omega
  have nonneg := body.inside
  rw [← excess]
  apply body.reads.next there
  intro coded
  refine ⟨?_, ?_, by omega⟩
  · rintro ⟨-, label | closer⟩
    · exact entered.not_labelStart there label
    · exact entered.head?_ne there (by decide) closer
  · rintro ⟨-, isBreak⟩
    exact entered.head?_ne there (by decide) (CaseBlock.head?_of_breakStatement isBreak)

/-- A body of cases that is open where that of a type is entered reaches every line with code in the
body of the type, because its label reads this line inside a block. -/
theorem Entered.le_endLine (entered : Entered lines opener scope) (behind : opener < index)
    (there : Site.at? lines index = some site) (coded : site.line.hasCode)
    (stillOpen : StillOpen lines opener index) {depth : Int} {endLine : Nat}
    (body : CaseBlock.Open lines opener depth endLine) : index ≤ endLine := by
  have nonneg := body.inside
  have deep : ∀ line ≤ index, opener + 1 ≤ line →
      1 ≤ depth + 1 + (level lines (lineStart lines line) -
        level lines (lineStart lines (opener + 1))) := by
    intro line early from'
    have above := stillOpen (lineStart lines line) (lineStart_mono early) (lineStart_mono from')
    omega
  have later := (entered.reads_succ body).later behind (Nat.le_of_lt (Site.lt_length_of_at? there)) deep
  exact later.le there coded (deep index (Nat.le_refl _) behind)

/-- A body of cases that is entered inside that of a type ends before the line of its closing
brace. -/
theorem endLine_lt_of_closer {label endLine : Nat} {labelSite : Site}
    (labelThere : Site.at? lines label = some labelSite)
    (framed : CaseBlock.frameEnd? labelSite = some endLine) (inside : opener < label)
    (before : label < index) (there : Site.at? lines index = some site)
    (stillOpen : StillOpen lines opener index) (closes : site.line.stripped.head? = some '}')
    (same : level lines (lineStart lines index) = level lines (lineStart lines (opener + 1))) :
    endLine < index := by
  by_contra later
  have body := (CaseBlock.open_of_frameEnd? labelThere framed).later before (by omega)
  have above := stillOpen (lineStart lines (label + 1)) (lineStart_mono before)
    (lineStart_mono (by omega))
  have nonneg := body.inside
  exact (body.continues there (hasCode_of_closer closes)).1 ⟨by omega, .inr closes⟩

/-- The bodies of cases that are open where a type is entered are still open at a line with code in
its body, and those entered inside it end before the line of its closing brace. -/
theorem Followed.cases_of_stillOpen (followed : Followed lines stop)
    (entered : Entered lines opener scope) (behind : opener < index) (within : index ≤ stop)
    (there : Site.at? lines index = some site) (coded : site.line.hasCode)
    (stillOpen : StillOpen lines opener index) :
    ∃ inner, (stateBefore lines index).cases = inner ++ (stateBefore lines opener).cases ∧
      (site.line.stripped.head? = some '}' →
        level lines (lineStart lines index) = level lines (lineStart lines (opener + 1)) →
          inner = []) := by
  have inside := Nat.le_of_lt (Site.lt_length_of_at? there)
  obtain ⟨-, kept⟩ := nested_stateBefore followed.balanced index within inside
  obtain ⟨nested, keptBefore⟩ := nested_stateBefore followed.balanced opener (by omega) (by omega)
  obtain ⟨inner, split, labels⟩ :=
    exists_collect_eq_append (enteredAt? lines) (Nat.le_of_lt behind)
  have outer : (enteredBefore lines opener).filter (fun frame => index ≤ frame.endLine) =
      (stateBefore lines opener).cases := by
    rw [keptBefore]
    apply List.filter_congr
    intro frame member
    rw [decide_eq_decide]
    constructor
    · intro later
      omega
    · intro open'
      have isOpen : frame ∈ (stateBefore lines opener).cases := by
        rw [keptBefore, List.mem_filter]
        exact ⟨member, decide_eq_true open'⟩
      obtain ⟨depth, body⟩ := nested.opened frame isOpen
      exact entered.le_endLine behind there coded stillOpen body
  refine ⟨inner.filter fun frame => index ≤ frame.endLine, ?_, ?_⟩
  · rw [kept, enteredBefore, split, List.filter_append]
    exact congrArg (_ ++ ·) outer
  · intro closes same
    rw [List.filter_eq_nil_iff]
    intro frame member later
    obtain ⟨label, from', before, labelled⟩ := labels frame member
    obtain ⟨labelSite, labelThere, labelled⟩ := Option.bind_eq_some_iff.mp labelled
    have notOpener : label ≠ opener := by
      rintro rfl
      rw [entered?_eq_none (entered.not_labelStart labelThere)] at labelled
      cases labelled
    obtain ⟨-, -, framed⟩ := label_of_entered? labelled
    have ended := endLine_lt_of_closer labelThere framed (by omega) before there stillOpen closes same
    exact absurd (of_decide_eq_true later) (Nat.not_le_of_lt ended)

/-! ## The line that closes a body -/

/-- The line on which a body is closed starts with the closing brace, and goes back below the body
by this brace only. -/
theorem closer_of_not_stillOpen (entered : Entered lines opener scope) (behind : opener < index)
    (there : Site.at? lines index = some site) (stillOpen : StillOpen lines opener index)
    (dropped : ¬ StillOpen lines opener (index + 1)) :
    site.line.stripped.head? = some '}' ∧
      level lines (lineStart lines index) = level lines (lineStart lines (opener + 1)) ∧
      ∃ last, OnLine lines index last ∧ BeginsLine lines index last ∧
        (codeOf lines)[last]? = some '}' ∧
        Closed lines (last + 1) (lineStart lines (index + 1)) := by
  obtain ⟨first, enters⟩ := entered.enters
  have inner := level_succ_of_opens enters.opens
  have outside := enters.before first (Nat.le_refl _) enters.onLine.1
  have level_succ := entered.level_succ
  have firstBefore := enters.onLine.2
  have openerBefore : lineStart lines (opener + 1) ≤ lineStart lines index := lineStart_mono behind
  have inside := Site.lt_length_of_at? there
  simp only [StillOpen, not_forall, Int.not_le] at dropped
  obtain ⟨place, early, from', below⟩ := dropped
  have here : lineStart lines index ≤ place := by
    by_contra earlier
    have above := stillOpen place (by omega) from'
    omega
  obtain ⟨last, lastFrom, lastBefore, closes, same, above⟩ := exists_drop here
    (stillOpen _ (Nat.le_refl _) openerBefore) below
  have matched : Matched lines first last := by
    refine ⟨enters.opens, closes, by omega, by omega, ?_⟩
    intro other within behindFirst
    by_cases onOpener : other ≤ lineStart lines (opener + 1)
    · have inBody := enters.behind other onOpener behindFirst
      omega
    · by_cases between : other ≤ lineStart lines index
      · have inBody := stillOpen other between (by omega)
        omega
      · have inBody := above other within (by omega)
        omega
  have onLine : OnLine lines index last := ⟨lastFrom, by omega⟩
  obtain ⟨begins, closed⟩ := enters.closes index inside last
    (List.getElem?_eq_some_iff.mp closes).1 ⟨behind, onLine, matched⟩
  refine ⟨(head?_stripped_iff there rfl).mpr ⟨last, onLine, begins, closes⟩, ?_, last, onLine, begins,
    closes, closed⟩
  rw [← begins.level_eq lastFrom (Nat.le_refl _), same]

end Scan

end HouseStyle
