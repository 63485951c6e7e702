import HouseStyle.Proofs.Scan.Bodies

/-!
Contract: the types that are open are those whose bodies are open.

Owns: the types that are open before every line, and those before and behind a declaration.
Does not own: the lines that enter and close bodies, which `Proofs.Scan.Bodies` treats.

Bodies nest, and a body inside another one lies deeper. A line closes one body at most, because it
closes a body by the brace that it starts with, and this is the innermost one, which is the only one
that the scan can leave.

Main statement: `types_run`.
-/

namespace HouseStyle

namespace Scan

variable {lines : List Line} {index first last opener stop : Nat} {site : Site} {scope : TypeScope}

/-! ## The types that are open -/

/-- The types whose bodies the lines before an index enter, each with the index of its line, the
latest first. -/
def enteredTypes (lines : List Line) (index : Nat) : List (Nat × TypeScope) :=
  collect (fun opener => (enteredType? lines opener).map fun scope => (opener, scope)) index

/-- The types entered before a line are those entered before an earlier one, behind those that the
lines in between enter. -/
theorem exists_enteredTypes_eq_append (lines : List Line) {earlier : Nat} (before : earlier ≤ index) :
    ∃ inner, enteredTypes lines index = inner ++ enteredTypes lines earlier ∧
      ∀ entry ∈ inner, earlier ≤ entry.1 ∧ entry.1 < index ∧
        enteredType? lines entry.1 = some entry.2 := by
  obtain ⟨inner, split, places⟩ := exists_collect_eq_append
    (fun opener => (enteredType? lines opener).map fun scope => (opener, scope)) before
  refine ⟨inner, split, ?_⟩
  intro entry member
  obtain ⟨between, from', within, found⟩ := places entry member
  obtain ⟨scope, entered, rfl⟩ := Option.map_eq_some_iff.mp found
  exact ⟨from', within, entered⟩

theorem mem_enteredTypes {entry : Nat × TypeScope} (member : entry ∈ enteredTypes lines index) :
    entry.1 < index ∧ enteredType? lines entry.1 = some entry.2 := by
  obtain ⟨inner, split, places⟩ := exists_enteredTypes_eq_append lines (Nat.zero_le index)
  rw [split, show enteredTypes lines 0 = [] from rfl, List.append_nil] at member
  exact (places entry member).2

/-- Types are listed from the latest on. -/
theorem pairwise_enteredTypes (lines : List Line) (index : Nat) :
    (enteredTypes lines index).Pairwise fun later earlier => earlier.1 < later.1 := by
  induction index with
  | zero => exact .nil
  | succ index inductionHypothesis =>
    rw [enteredTypes, collect, List.pairwise_append]
    refine ⟨?_, inductionHypothesis, ?_⟩
    · cases enteredType? lines index <;> simp
    · intro entry here earlier before
      obtain ⟨scope, -, rfl⟩ := Option.map_eq_some_iff.mp (Option.mem_toList.mp here)
      exact (mem_enteredTypes before).1

theorem StillOpen.of_later {later : Nat} (stillOpen : StillOpen lines opener later)
    (before : index ≤ later) : StillOpen lines opener index :=
  fun place within => stillOpen place (Nat.le_trans within (lineStart_mono before))

/-- A body inside another one lies deeper. -/
theorem level_lt_of_stillOpen {inner : Nat} (level_succ :
      level lines (lineStart lines (inner + 1)) = level lines (lineStart lines inner) + 1)
    (outside : opener < inner) (before : inner < index) (stillOpen : StillOpen lines opener index) :
    level lines (lineStart lines (opener + 1)) < level lines (lineStart lines (inner + 1)) := by
  have above := stillOpen (lineStart lines inner) (lineStart_mono (Nat.le_of_lt before))
    (lineStart_mono outside)
  omega

/-- The types whose bodies the lines before an index enter and leave open, the latest first. -/
def openTypes (lines : List Line) (index : Nat) : List (Nat × TypeScope) :=
  (enteredTypes lines index).filter fun entry => StillOpen lines entry.1 index

theorem mem_openTypes {entry : Nat × TypeScope} :
    entry ∈ openTypes lines index ↔
      entry ∈ enteredTypes lines index ∧ StillOpen lines entry.1 index := by
  rw [openTypes, List.mem_filter, decide_eq_true_eq]

/-- A line that does not start with a closing brace closes no body. -/
theorem Followed.stillOpen_succ (followed : Followed lines stop)
    (there : Site.at? lines index = some site) (notCloser : site.line.stripped.head? ≠ some '}')
    {entry : Nat × TypeScope} (member : entry ∈ openTypes lines index) :
    StillOpen lines entry.1 (index + 1) := by
  obtain ⟨enteredBefore, stillOpen⟩ := mem_openTypes.mp member
  obtain ⟨before, entered⟩ := mem_enteredTypes enteredBefore
  by_contra dropped
  exact notCloser
    (closer_of_not_stillOpen (followed.entered entered) before there stillOpen dropped).1

/-- Only the latest of the open bodies can be closed by a line. -/
theorem Followed.stillOpen_of_inner (followed : Followed lines stop)
    (there : Site.at? lines index = some site) {inner outer : Nat × TypeScope}
    (innerOpen : inner ∈ openTypes lines index) (outerOpen : outer ∈ openTypes lines index)
    (around : outer.1 < inner.1) : StillOpen lines outer.1 (index + 1) := by
  obtain ⟨enteredInner, stillInner⟩ := mem_openTypes.mp innerOpen
  obtain ⟨beforeInner, entered⟩ := mem_enteredTypes enteredInner
  obtain ⟨enteredOuter, stillOuter⟩ := mem_openTypes.mp outerOpen
  obtain ⟨beforeOuter, enteredAround⟩ := mem_enteredTypes enteredOuter
  by_contra dropped
  have same := (closer_of_not_stillOpen (followed.entered enteredAround) beforeOuter there
    stillOuter dropped).2.1
  have deeper := level_lt_of_stillOpen (followed.entered entered).level_succ around beforeInner
    stillOuter
  have above := stillInner _ (Nat.le_refl _) (lineStart_mono beforeInner)
  omega

/-- The open types behind a line that enters none are those before it whose bodies it leaves open. -/
theorem openTypes_succ_of_none (none' : enteredType? lines index = none) :
    openTypes lines (index + 1) =
      (openTypes lines index).filter fun entry => StillOpen lines entry.1 (index + 1) := by
  have same : enteredTypes lines (index + 1) = enteredTypes lines index := by
    rw [enteredTypes, collect, none', Option.map_none, Option.toList_none, List.nil_append]
    rfl
  rw [openTypes, openTypes, same, List.filter_filter]
  apply List.filter_congr
  intro entry member
  rw [← Bool.decide_and, decide_eq_decide]
  constructor
  · intro later
    exact ⟨later, later.of_later (Nat.le_succ index)⟩
  · rintro ⟨later, -⟩
    exact later

/-- A line that enters the body of a type, and so does not start with a closing brace, leaves all
open bodies open. -/
theorem Followed.openTypes_succ_of_some (followed : Followed lines stop)
    (there : Site.at? lines index = some site) (notCloser : site.line.stripped.head? ≠ some '}')
    (entered : enteredType? lines index = some scope) :
    openTypes lines (index + 1) = (index, scope) :: openTypes lines index := by
  have here : StillOpen lines index (index + 1) := by
    intro place within from'
    exact Int.le_of_eq (congrArg (level lines) (by omega))
  have next : enteredTypes lines (index + 1) = (index, scope) :: enteredTypes lines index := by
    rw [enteredTypes, collect, entered]
    rfl
  rw [openTypes, next, List.filter_cons_of_pos (p := fun entry : Nat × TypeScope =>
      decide (StillOpen lines entry.1 (index + 1))) (decide_eq_true here), openTypes]
  congr 1
  apply List.filter_congr
  intro entry member
  rw [decide_eq_decide]
  constructor
  · intro later
    exact later.of_later (Nat.le_succ index)
  · intro before
    exact followed.stillOpen_succ there notCloser (mem_openTypes.mpr ⟨member, before⟩)

/-- A line that is read for types leaves the innermost one if it starts with a closing brace and goes
back below its depth. -/
theorem Followed.types_closed (followed : Followed lines stop)
    (there : Site.at? lines index = some site)
    (reads : readsTypes site.line (stateBefore lines index)) :
    (TypeScope.closed site.line.code (indented site (stateBefore lines index))).types =
      if site.line.stripped.head? = some '}' ∧
          (stateBefore lines index).types.head?.map (fun scope => (scope.depth : Int)) =
            some (level lines (lineStart lines (index + 1)) +
              (stateBefore lines index).cases.length + 1) then
        (stateBefore lines index).types.tail
      else (stateBefore lines index).types := by
  have depth := followed.depth_settled there reads
  rw [TypeScope.types_closed, types_indented]
  by_cases closes : site.line.stripped.head? = some '}'
  · have noLabel : ¬ CaseBlock.labelStart.fits site.line.stripped := by
      apply not_labelStart_of_head?_ne <;> rw [closes] <;> decide
    rw [entered?_eq_none noLabel, Option.toList_none, List.nil_append] at depth
    have same : ((stateBefore lines index).types.head?.map TypeScope.depth =
          some ((indented site (stateBefore lines index)).depth + 1)) ↔
        ((stateBefore lines index).types.head?.map (fun scope => (scope.depth : Int)) =
          some (level lines (lineStart lines (index + 1)) +
            (stateBefore lines index).cases.length + 1)) := by
      cases (stateBefore lines index).types.head? with
      | none => simp
      | some scope =>
        simp only [Option.map_some, Option.some.injEq]
        omega
    simp only [same]
    rfl
  · rw [if_neg fun both => closes both.1, if_neg fun both => closes both.1]

/-- What a line does to types: it enters one, or it leaves the innermost one if it starts with a
closing brace and goes back below its depth. -/
theorem Followed.types_advance (followed : Followed lines stop)
    (there : Site.at? lines index = some site) :
    (stateBefore lines (index + 1)).types =
      match enteredType? lines index with
      | some scope => scope :: (stateBefore lines index).types
      | none =>
        if site.line.stripped.head? = some '}' ∧
            (stateBefore lines index).types.head?.map (fun scope => (scope.depth : Int)) =
              some (level lines (lineStart lines (index + 1)) +
                (stateBefore lines index).cases.length + 1) then
          (stateBefore lines index).types.tail
        else (stateBefore lines index).types := by
  have next : (advance site (stateBefore lines index)).types =
      (lineNext site (stateBefore lines index)).types := rfl
  rw [stateBefore_succ there, next, enteredType?, there, Option.bind_some]
  dsimp only
  by_cases reads : readsTypes site.line (stateBefore lines index)
  · have earlier : ∀ pending, (indented site (stateBefore lines index)).pendingType =
        some pending → pending.line ≠ site.index := by
      intro pending waiting
      rw [pendingType_indented] at waiting
      rw [Site.index_of_at? there]
      exact Nat.ne_of_lt ((pendingType_stateBefore lines index
        (Nat.le_of_lt (Site.lt_length_of_at? there)) pending).mp waiting).earlier
    rw [lineNext_of_readsTypes reads, TypeScope.types_settled earlier, Site.index_of_at? there,
      pendingType_indented, types_indented, if_pos reads, followed.types_closed there reads]
    cases TypeScope.enteredHead? index site.line.code (stateBefore lines index).pendingType with
    | some head => rfl
    | none => rfl
  · have notCloser : site.line.stripped.head? ≠ some '}' := by
      intro closes
      exact reads (followed.readsTypes_of_closer there closes)
    rw [(types_of_not_readsTypes (by simpa using reads)).1, if_neg reads]
    exact (if_neg fun both => notCloser both.1).symm

/-- Behind the innermost open body, every open body stays open on the line. -/
theorem Followed.openTypes_tail (followed : Followed lines stop)
    (there : Site.at? lines index = some site) {entry : Nat × TypeScope}
    {others : List (Nat × TypeScope)} (opened : openTypes lines index = entry :: others) :
    others.filter (fun entry => StillOpen lines entry.1 (index + 1)) = others := by
  have ordered : (openTypes lines index).Pairwise fun later earlier => earlier.1 < later.1 :=
    (pairwise_enteredTypes lines index).filter fun entry : Nat × TypeScope =>
      StillOpen lines entry.1 index
  rw [opened, List.pairwise_cons] at ordered
  have innerOpen : entry ∈ openTypes lines index := by
    rw [opened]
    exact List.mem_cons_self
  apply List.filter_eq_self.mpr
  intro other member
  have outerOpen : other ∈ openTypes lines index := by
    rw [opened]
    exact List.mem_cons_of_mem _ member
  exact decide_eq_true (followed.stillOpen_of_inner there innerOpen outerOpen (ordered.1 other member))

/-- A line closes an open body just if it starts with a closing brace and goes back below the depth of
the body. -/
theorem Followed.not_stillOpen_iff (followed : Followed lines stop)
    (body : Entered lines opener scope) (behind : opener < index) (within : index ≤ stop)
    (there : Site.at? lines index = some site) (stillOpen : StillOpen lines opener index) :
    ¬ StillOpen lines opener (index + 1) ↔
      site.line.stripped.head? = some '}' ∧
        (scope.depth : Int) = level lines (lineStart lines (index + 1)) +
          (stateBefore lines index).cases.length + 1 := by
  have depth := body.depth
  constructor
  · intro dropped
    obtain ⟨closes, same, last, onLine, begins, closer, closed⟩ :=
      closer_of_not_stillOpen body behind there stillOpen dropped
    obtain ⟨inner, cases, ended⟩ := followed.cases_of_stillOpen body behind within there
      (hasCode_of_closer closes) stillOpen
    have before := begins.level_eq onLine.1 (Nat.le_refl _)
    have after := level_succ_of_closes closer
    have rest := closed.1
    rw [ended closes same, List.nil_append] at cases
    rw [cases]
    exact ⟨closes, by omega⟩
  · rintro ⟨closes, same⟩ stays
    -- The bodies of cases around this one keep the depth above the one to leave.
    obtain ⟨inner, cases, -⟩ := followed.cases_of_stillOpen body behind within there
      (hasCode_of_closer closes) stillOpen
    have above := stays _ (Nat.le_refl _) (lineStart_mono (Nat.le_succ_of_le behind))
    rw [cases, List.length_append] at same
    omega

/-- Before every line the open types are those whose bodies are open. -/
theorem Followed.types_stateBefore (followed : Followed lines stop) :
    ∀ index ≤ stop, index ≤ lines.length →
      (stateBefore lines index).types = (openTypes lines index).map Prod.snd := by
  intro index within inside
  induction index with
  | zero => rfl
  | succ index inductionHypothesis =>
    have before := inductionHypothesis (Nat.le_of_succ_le within) (Nat.le_of_succ_le inside)
    obtain ⟨site, there, -⟩ := Site.exists_at? inside
    have step := followed.types_advance there
    cases entered : enteredType? lines index with
    | some scope =>
      have notCloser := (followed.entered entered).head?_ne there (c := '}') (by decide)
      rw [entered] at step
      rw [step, followed.openTypes_succ_of_some there notCloser entered, before]
      rfl
    | none =>
      rw [entered] at step
      dsimp only at step
      rw [step, before, openTypes_succ_of_none entered]
      cases opened : openTypes lines index with
      | nil => simp
      | cons entry others =>
        obtain ⟨enteredEntry, stillOpen⟩ := mem_openTypes.mp (opened ▸ List.mem_cons_self)
        obtain ⟨behind, enteredType⟩ := mem_enteredTypes enteredEntry
        have closing := followed.not_stillOpen_iff (followed.entered enteredType) behind
          (Nat.le_of_succ_le within) there stillOpen
        simp only [List.map_cons, List.head?_cons, Option.map_some, Option.some.injEq, ← closing,
          List.filter_cons, followed.openTypes_tail there opened, List.tail_cons]
        by_cases stays : StillOpen lines entry.1 (index + 1)
        · simp [stays]
        · simp [stays]

/-! ## Declarations -/

/-- A block between two braces that belong together, counted from the line of its word on. The lines
from there to that of the opening brace close what they open, and so does the text before the
opening brace if the block is closed on its line. -/
structure Declaration (lines : List Line) (word opener closer first last : Nat) : Prop where
  matched : Matched lines first last
  onOpener : OnLine lines opener first
  onCloser : OnLine lines closer last
  before : word ≤ opener
  between : Closed lines (lineStart lines word) (lineStart lines opener)
  sameLine : opener = closer → Closed lines (lineStart lines opener) first

instance (lines : List Line) (word opener closer first last : Nat) :
    Decidable (Declaration lines word opener closer first last) :=
  decidable_of_iff
    (Matched lines first last ∧ OnLine lines opener first ∧ OnLine lines closer last ∧
      word ≤ opener ∧ Closed lines (lineStart lines word) (lineStart lines opener) ∧
      (opener = closer → Closed lines (lineStart lines opener) first))
    ⟨fun ⟨matched, onOpener, onCloser, before, between, sameLine⟩ =>
        ⟨matched, onOpener, onCloser, before, between, sameLine⟩,
      fun declaration => ⟨declaration.matched, declaration.onOpener, declaration.onCloser,
        declaration.before, declaration.between, declaration.sameLine⟩⟩

variable {word closer : Nat}

theorem Declaration.opener_le_closer (declaration : Declaration lines word opener closer first last) :
    opener ≤ closer := by
  by_contra later
  have behind : lineStart lines (closer + 1) ≤ lineStart lines opener := lineStart_mono (by omega)
  have ordered := declaration.matched.before
  have onOpener := declaration.onOpener.1
  have onCloser := declaration.onCloser.2
  omega

theorem Declaration.word_le_closer (declaration : Declaration lines word opener closer first last) :
    word ≤ closer :=
  Nat.le_trans declaration.before declaration.opener_le_closer

/-- Behind a declaration as many braces are open as before its opening brace. -/
theorem Declaration.level_behind (declaration : Declaration lines word opener closer first last) :
    level lines (first + 1) = level lines first + 1 ∧
      level lines (last + 1) = level lines first := by
  have opened := level_succ_of_opens declaration.matched.opens
  have closed := level_succ_of_closes declaration.matched.closes
  have same := declaration.matched.closed.1
  exact ⟨opened, by omega⟩

/-- No body that a declaration enters is open behind it. -/
theorem Declaration.not_stillOpen (declaration : Declaration lines word opener closer first last)
    {inner : Nat} (body : Entered lines inner scope) (from' : word ≤ inner)
    (within : inner ≤ closer) : ¬ StillOpen lines inner (closer + 1) := by
  intro stillOpen
  obtain ⟨opened, behind⟩ := declaration.level_behind
  obtain ⟨⟨firstFrom, firstBefore⟩, lastFrom, lastBefore⟩ :=
    And.intro declaration.onOpener declaration.onCloser
  have level_succ := body.level_succ
  have ordered := declaration.matched.before
  obtain ⟨brace, enters⟩ := body.enters
  rcases Nat.lt_trichotomy inner opener with early | here | late
  · have above := stillOpen (lineStart lines opener)
      (lineStart_mono (Nat.le_succ_of_le declaration.opener_le_closer)) (lineStart_mono early)
    have least := declaration.between.2 (lineStart lines inner) (lineStart_mono (Nat.le_of_lt early))
      (lineStart_mono from')
    have same := declaration.between.1
    omega
  · subst here
    by_cases one : inner = closer
    · have same := (declaration.sameLine one).1
      subst one
      by_cases behindBrace : brace ≤ first
      · have above := enters.behind (last + 1) lastBefore (by omega)
        omega
      · have before := enters.before (first + 1) (by omega) (by omega)
        omega
    · have further : lineStart lines (inner + 1) ≤ lineStart lines closer :=
        lineStart_mono (by omega)
      have above := stillOpen (last + 1) lastBefore (by omega)
      have inside := declaration.matched.closed.2 (lineStart lines (inner + 1)) (by omega)
        firstBefore
      omega
  · have further : lineStart lines (opener + 1) ≤ lineStart lines inner := lineStart_mono late
    have before : lineStart lines inner ≤ lineStart lines closer := lineStart_mono within
    have inside := declaration.matched.closed.2 (lineStart lines inner) (by omega) (by omega)
    by_cases one : inner = closer
    · subst one
      by_cases behindBrace : brace ≤ last
      · have above := enters.behind (last + 1) lastBefore (by omega)
        omega
      · have same := enters.before (last + 1) (by omega) (by omega)
        omega
    · have lastLine : lineStart lines (inner + 1) ≤ lineStart lines closer :=
        lineStart_mono (by omega)
      have above := stillOpen (last + 1) lastBefore (by omega)
      omega

/-- A body that is open before a declaration is open behind it. -/
theorem Declaration.stillOpen (declaration : Declaration lines word opener closer first last)
    (inside : closer < lines.length) {outer : Nat} (body : Entered lines outer scope)
    (earlier : outer < word) (open' : StillOpen lines outer word) :
    StillOpen lines outer (closer + 1) := by
  obtain ⟨opened, behind⟩ := declaration.level_behind
  obtain ⟨⟨firstFrom, firstBefore⟩, lastFrom, lastBefore⟩ :=
    And.intro declaration.onOpener declaration.onCloser
  have ordered := declaration.matched.before
  have wordBefore := Nat.le_succ_of_le declaration.word_le_closer
  suffices every : ∀ index, word ≤ index → index ≤ closer + 1 → StillOpen lines outer index from
    every (closer + 1) wordBefore (Nat.le_refl _)
  intro index from' within
  induction index, from' using Nat.le_induction with
  | base => exact open'
  | succ index from' inductionHypothesis =>
    have stillOpen := inductionHypothesis (Nat.le_of_succ_le within)
    obtain ⟨site, there, -⟩ := Site.exists_at? (show index < lines.length by omega)
    by_contra dropped
    -- The line would start with the brace that closes the outer body.
    obtain ⟨-, same, brace, onLine, begins, closes, rest⟩ :=
      closer_of_not_stillOpen body (by omega) there stillOpen dropped
    have before := begins.level_eq onLine.1 (Nat.le_refl _)
    have after := level_succ_of_closes closes
    have ends := rest.1
    have outside := stillOpen (lineStart lines word) (lineStart_mono from') (lineStart_mono earlier)
    rcases Nat.lt_trichotomy index opener with early | here | late
    · have least := declaration.between.2 (lineStart lines (index + 1)) (lineStart_mono early)
        (lineStart_mono (Nat.le_succ_of_le from'))
      omega
    · subst here
      by_cases one : index = closer
      · obtain ⟨level_first, least⟩ := declaration.sameLine one
        rcases Nat.lt_trichotomy brace first with early | together | late
        · have above := least (brace + 1) early (Nat.le_succ_of_le onLine.1)
          omega
        · rw [together, declaration.matched.opens] at closes
          cases closes
        · have blank := begins.level_eq (show _ ≤ first + 1 by omega) late
          omega
      · have inBody := declaration.matched.closed.2 (lineStart lines (index + 1))
          (Nat.le_trans (lineStart_mono (show index + 1 ≤ closer by omega)) lastFrom) firstBefore
        by_cases early : first ≤ brace
        · have blank := begins.level_eq firstFrom early
          omega
        · have above := rest.2 first (Nat.le_of_lt firstBefore) (by omega)
          omega
    · have further : lineStart lines (opener + 1) ≤ lineStart lines index := lineStart_mono late
      have lastLine : lineStart lines index ≤ lineStart lines closer := lineStart_mono (by omega)
      have inBody := declaration.matched.closed.2 (lineStart lines index) (by omega) (by omega)
      have around : lineStart lines (outer + 1) ≤ lineStart lines opener :=
        lineStart_mono (Nat.le_trans earlier declaration.before)
      have atBrace := stillOpen first (by omega) (by omega)
      omega

/-- The same types are open behind a declaration as before it. -/
theorem Followed.openTypes_declaration (followed : Followed lines stop) (inside : closer < lines.length)
    (declaration : Declaration lines word opener closer first last) :
    openTypes lines (closer + 1) = openTypes lines word := by
  have wordBefore := Nat.le_succ_of_le declaration.word_le_closer
  obtain ⟨inner, split, places⟩ := exists_enteredTypes_eq_append lines wordBefore
  have innerClosed : inner.filter (fun entry => StillOpen lines entry.1 (closer + 1)) = [] := by
    rw [List.filter_eq_nil_iff]
    intro entry member stillOpen
    obtain ⟨from', within, entered⟩ := places entry member
    exact declaration.not_stillOpen (followed.entered entered) from' (Nat.le_of_lt_succ within)
      (of_decide_eq_true stillOpen)
  rw [openTypes, split, List.filter_append, innerClosed, List.nil_append, openTypes]
  apply List.filter_congr
  intro entry member
  obtain ⟨earlier, entered⟩ := mem_enteredTypes member
  rw [decide_eq_decide]
  constructor
  · intro later
    exact later.of_later wordBefore
  · intro before
    exact declaration.stillOpen inside (followed.entered entered) earlier before

end Scan

/-- Where the scan can follow all bodies, the types that are open behind the line of a declaration's
closing brace are those that were open before the line of its word. -/
theorem types_run (settings : Settings) {raws : List (List Char)}
    (traceable : Scan.Traceable (Line.ofRaws raws))
    (undirected : ∀ line ∈ Line.ofRaws raws, line.hasCode → line.stripped.head? ≠ some '#')
    (closed : Scan.BodiesClosed (Line.ofRaws raws)) {word opener closer first last : Nat}
    (balanced : Scan.LabelsBalanced (Line.ofRaws raws) (closer + 1))
    (declaration : Scan.Declaration (Line.ofRaws raws) word opener closer first last)
    {record : Scan.Record}
    (scanned : (Scan.run settings (Line.ofRaws raws)).1[closer]? = some record) :
    record.state.types = (Scan.stateBefore (Line.ofRaws raws) word).types := by
  have followed : Scan.Followed (Line.ofRaws raws) (closer + 1) :=
    ⟨⟨raws, rfl⟩, traceable, undirected, balanced, closed⟩
  obtain ⟨site, there, -⟩ := Scan.step_of_run scanned
  have inside := Site.lt_length_of_at? there
  rw [Scan.state_of_run scanned,
    followed.types_stateBefore (closer + 1) (Nat.le_refl _) inside,
    followed.types_stateBefore word (Nat.le_succ_of_le declaration.word_le_closer)
      (Nat.le_trans declaration.word_le_closer (Nat.le_of_lt inside)),
    followed.openTypes_declaration inside declaration]

/-- A type inside another one, with its brace on the line behind its word. -/
theorem types_run_nested :
    let raws := ["struct a \x7b", "struct b", "\x7b", "int x;", "\x7d y;", "\x7d;"].map String.toList
    let lines := Line.ofRaws raws
    Scan.Traceable lines ∧ (∀ line ∈ lines, line.hasCode → line.stripped.head? ≠ some '#') ∧
      Scan.BodiesClosed lines ∧ Scan.LabelsBalanced lines 5 ∧
      Scan.Declaration lines 1 2 4 18 25 ∧ (Scan.stateBefore lines 1).types.length = 1 ∧
      ∃ record, (Scan.run .default lines).1[4]? = some record ∧
        record.state.types = (Scan.stateBefore lines 1).types := by
  intro raws lines
  have traceable : Scan.Traceable lines := by decide +kernel
  have undirected : ∀ line ∈ lines, line.hasCode → line.stripped.head? ≠ some '#' := by
    decide +kernel
  have closed : Scan.BodiesClosed lines := by decide +kernel
  have balanced : Scan.LabelsBalanced lines 5 := by decide +kernel
  have declaration : Scan.Declaration lines 1 2 4 18 25 := by decide +kernel
  have around : (Scan.stateBefore lines 1).types.length = 1 := by decide +kernel
  have scanned : ((Scan.run .default lines).1[4]?).isSome := by decide +kernel
  obtain ⟨record, found⟩ := Option.isSome_iff_exists.mp scanned
  exact ⟨traceable, undirected, closed, balanced, declaration, around, record, found,
    types_run .default traceable undirected closed balanced declaration found⟩

/-- A type stays open for good if its body stands on one line, behind the line of its word. -/
theorem types_run_body_on_next_line :
    let lines := Line.ofRaws
      (["struct point", "\x7b int x; \x7d;", "int y;"].map String.toList)
    Scan.Traceable lines ∧ (∀ line ∈ lines, line.hasCode → line.stripped.head? ≠ some '#') ∧
      Scan.LabelsBalanced lines 3 ∧ Scan.Declaration lines 0 1 1 12 21 ∧
      (Scan.stateBefore lines 0).types = [] ∧
      (((Scan.run .default lines).1.map fun record => record.state.types.length)) = [0, 1, 1] := by
  decide +kernel

end HouseStyle
