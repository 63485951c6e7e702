import HouseStyle.Proofs.CodeExcess
import HouseStyle.Proofs.File.Definitions
import Mathlib.Data.Nat.Find

/-!
Contract: function definitions lie one behind the other, and each ends where its braces balance.

Owns: the definitions that lines head, the braces that are open in a body, and the definitions that
are found as those whose braces balance before the end of the file.
Does not own: which texts head a function, which `File.FunctionDefinition` decides.

One loop collects heads, counts braces and remembers the definition whose body is open. Its brace
count never falls below zero, so that a body is counted from its own first line on, whatever braces
the lines before it leave open or close too often.

Main statement: `findAll_bodies`.
-/

namespace HouseStyle.FunctionDefinition

/-! ## What is known before each line -/

/-- What is known before the line of an index. -/
def progressBefore (lines : List Line) (index : Nat) : Progress :=
  (lines.take index).zipIdx.foldl (fun progress entry => (line entry.2 entry.1 progress).1)
    ⟨[], none, 0⟩

/-- The definition that the line of an index closes. -/
def closedAt? (lines : List Line) (index : Nat) : Option FunctionDefinition := do
  let head ← lines[index]?
  (line index head (progressBefore lines index)).2

/-- Whether no body and no other block is open. -/
def Progress.isIdle (progress : Progress) : Bool :=
  progress.depth == 0 && progress.current.isNone

/-- The definition that a line heads: outside all blocks, together with the lines collected before
it. -/
def heads? (index : Nat) (head : Line) (progress : Progress) : Option Opened :=
  if head.hasCode && progress.isIdle && head.stripped.head? != some '#' then do
    let brace ← Text.find? ['{'] head.code
    opened? progress.header index (head.code.take brace)
  else none

/-- The definition that the line of an index heads. -/
def openedAt? (lines : List Line) (index : Nat) : Option Opened := do
  let head ← lines[index]?
  heads? index head (progressBefore lines index)

/-- The definition with its last line. -/
def Opened.closed (opened : Opened) (closeLine : Nat) : FunctionDefinition :=
  ⟨opened.name, opened.headerLine, opened.openLine, closeLine, opened.parameters⟩

/-- The braces that the lines from one index up to but excluding another open and do not close. -/
def openBraces (lines : List Line) (first stop : Nat) : Int :=
  Line.openBraces ((lines.take stop).drop first)

/-- A definition whose braces balance on its last line and not before. -/
structure Bodied (lines : List Line) (definition : FunctionDefinition) : Prop extends
    definition.Ordered where
  inFile : definition.closeLine < lines.length
  opens : ∃ head, lines[definition.openLine]? = some head ∧ '{' ∈ head.code
  positive : ∀ index, definition.openLine ≤ index → index < definition.closeLine →
    0 < openBraces lines definition.openLine (index + 1)
  balanced : openBraces lines definition.openLine (definition.closeLine + 1) ≤ 0

variable {lines : List Line} {floor index : Nat} {head : Line} {progress : Progress}
  {opened : Opened} {definition : FunctionDefinition}

theorem openBraces_self (lines : List Line) (index : Nat) : openBraces lines index index = 0 := by
  unfold openBraces
  rw [List.drop_eq_nil_of_le (List.length_take_le index lines)]
  rfl

theorem openBraces_succ (there : lines[index]? = some head) {first : Nat} (ordered : first ≤ index) :
    openBraces lines first (index + 1) =
      openBraces lines first index + Text.excess '{' '}' head.stripped := by
  have inside := (List.getElem?_eq_some_iff.mp there).1
  have trimmed : Text.excess '{' '}' head.stripped = Text.excess '{' '}' head.code :=
    Text.excess_trim head.code rfl rfl
  unfold openBraces
  rw [List.take_add_one, there, Option.toList_some, List.drop_append_of_le_length,
    Line.openBraces_append, Line.openBraces_singleton, trimmed]
  rw [List.length_take_of_le (Nat.le_of_lt inside)]
  exact ordered

/-! ## From line to line -/

theorem progressBefore_succ (there : lines[index]? = some head) :
    progressBefore lines (index + 1) = (line index head (progressBefore lines index)).1 := by
  have inside := (List.getElem?_eq_some_iff.mp there).1
  unfold progressBefore
  rw [List.take_add_one, there, Option.toList_some, List.zipIdx_append, List.foldl_append,
    List.length_take_of_le (Nat.le_of_lt inside), Nat.zero_add]
  rfl

theorem closedAt?_eq (there : lines[index]? = some head) :
    closedAt? lines index = (line index head (progressBefore lines index)).2 := by
  rw [closedAt?, there]
  rfl

theorem openedAt?_eq (there : lines[index]? = some head) :
    openedAt? lines index = heads? index head (progressBefore lines index) := by
  rw [openedAt?, there]
  rfl

theorem findFrom_eq (rest : List Line) (listed : lines.drop index = rest) :
    findFrom index (progressBefore lines index) rest =
      (List.range' index rest.length).filterMap (closedAt? lines) := by
  induction rest generalizing index with
  | nil => rfl
  | cons head rest inductionHypothesis =>
    have there : lines[index]? = some head := by
      rw [← List.head?_drop, listed, List.head?_cons]
    have further : lines.drop (index + 1) = rest := by
      rw [← List.tail_drop, listed, List.tail_cons]
    have later := inductionHypothesis further
    rw [progressBefore_succ there] at later
    rw [List.length_cons, List.range'_succ, List.filterMap_cons, closedAt?_eq there, ← later]
    show (line index head (progressBefore lines index)).2.toList ++ _ = _
    cases (line index head (progressBefore lines index)).2 with
    | none => rfl
    | some definition => rfl

/-- The definitions that are found are those that the lines close, in order. -/
theorem findAll_eq_filterMap (lines : List Line) :
    findAll lines = (List.range lines.length).filterMap (closedAt? lines) := by
  rw [List.range_eq_range']
  exact findFrom_eq lines rfl

theorem mem_findAll_iff :
    definition ∈ findAll lines ↔ ∃ index < lines.length, closedAt? lines index = some definition := by
  rw [findAll_eq_filterMap, List.mem_filterMap]
  simp only [List.mem_range]

/-! ## What a line does -/

/-- What is known of a line before its braces are followed: it heads a definition, or belongs to the
block that is open. -/
def entered (index : Nat) (head : Line) (progress : Progress) : Progress :=
  if progress.isIdle then { progress with header := [], current := heads? index head progress }
  else progress

theorem Progress.isIdle_iff : progress.isIdle ↔ progress.depth = 0 ∧ progress.current = none := by
  rw [isIdle, Bool.and_eq_true, beq_iff_eq, Option.isNone_iff_eq_none]

theorem openLine_of_heads? (headed : heads? index head progress = some opened) :
    opened.openLine = index ∧ progress.isIdle ∧ head.hasCode ∧ '{' ∈ head.code ∧
      opened.headerLine = (progress.header.head?.map Prod.fst).getD index := by
  unfold heads? at headed
  split at headed
  · next outside =>
    simp only [Bool.and_eq_true] at outside
    obtain ⟨brace, found, headed⟩ := Option.bind_eq_some_iff.mp headed
    obtain ⟨⟨name, parameters⟩, -, same⟩ := Option.bind_eq_some_iff.mp headed
    cases same
    have written : ['{'] <:+: head.code := Text.isSome_find?_iff.mp (Option.isSome_of_eq_some found)
    exact ⟨rfl, outside.1.2, outside.1.1, written.subset (List.mem_singleton_self _), rfl⟩
  · cases headed

/-- A line at file scope ends what is collected or is collected itself, unless it has an opening
brace. -/
theorem fileScopeLine_cases (index : Nat) (coded : head.hasCode) (idle : progress.isIdle) :
    (∃ header, fileScopeLine index head progress = ({ progress with header }, none) ∧
      heads? index head progress = none ∧
      ∀ entry ∈ header, entry ∈ progress.header ∨ entry.1 = index) ∨
    fileScopeLine index head progress =
      followBraces index head.stripped (entered index head progress) := by
  unfold fileScopeLine entered heads?
  simp only [coded, idle, Bool.true_and, if_true, bne]
  by_cases directive : head.stripped.head? == some '#'
  · rw [if_pos directive, directive]
    exact .inl ⟨[], rfl, rfl, fun _ member => absurd member List.not_mem_nil⟩
  · rw [if_neg directive, eq_false_of_ne_true directive]
    cases Text.find? ['{'] head.code with
    | none =>
      left
      dsimp only
      split
      · exact ⟨[], rfl, rfl, fun _ member => absurd member List.not_mem_nil⟩
      · refine ⟨_, rfl, rfl, fun entry member => ?_⟩
        rcases List.mem_append.mp member with earlier | here
        · exact .inl earlier
        · rw [List.mem_singleton.mp here]
          exact .inr rfl
    | some brace => exact .inr rfl

/-- A line that does not follow braces is not one of an open block, unless it has no code. -/
theorem line_cases (index : Nat) (head : Line) (progress : Progress) :
    (∃ header, line index head progress = ({ progress with header }, none) ∧
      heads? index head progress = none ∧
      (progress.isIdle = false → head.hasCode = false ∧ header = progress.header) ∧
      ∀ entry ∈ header, entry ∈ progress.header ∨ entry.1 = index) ∨
    line index head progress = followBraces index head.stripped (entered index head progress) := by
  unfold line
  by_cases coded : head.hasCode
  · rw [if_neg (by simp [coded])]
    by_cases idle : progress.isIdle
    · rw [if_pos (Progress.isIdle_iff.mp idle)]
      rcases fileScopeLine_cases index coded idle with ⟨header, kept, headless, among⟩ | followed
      · exact .inl ⟨header, kept, headless, fun busy => absurd idle (by simp [busy]), among⟩
      · exact .inr followed
    · rw [if_neg (mt Progress.isIdle_iff.mpr idle), entered, if_neg idle]
      exact .inr rfl
  · have codeless : head.hasCode = false := by simpa using coded
    rw [if_pos (by simp [codeless])]
    refine .inl ⟨progress.header, rfl, ?_, fun _ => ⟨codeless, rfl⟩, fun _ => .inl⟩
    rw [heads?, codeless]
    rfl

/-! ## What is known between two lines -/

/-- The body of a definition that starts no earlier than a given line is open, and the braces that
are open in it are counted. -/
structure BodyOpen (lines : List Line) (floor index depth : Nat) (opened : Opened) : Prop where
  headed : openedAt? lines opened.openLine = some opened
  floor_le : floor ≤ opened.headerLine
  started : opened.openLine ≤ index
  counted : openBraces lines opened.openLine index = depth
  positive : ∀ earlier, opened.openLine ≤ earlier → earlier < index →
    0 < openBraces lines opened.openLine (earlier + 1)

/-- What is known before a line speaks of no line before a given one, no head is collected inside a
block, and the braces of an open body are counted. -/
structure Progress.Traced (lines : List Line) (floor index : Nat) (progress : Progress) : Prop where
  floor_le : floor ≤ index
  header : ∀ entry ∈ progress.header, floor ≤ entry.1
  busy : progress.isIdle = false → progress.header = []
  deep : progress.current.isSome → 0 < progress.depth
  body : ∀ opened ∈ progress.current, BodyOpen lines floor index progress.depth opened

theorem Progress.traced_idle (lines : List Line) (ordered : floor ≤ index) :
    Progress.Traced lines floor index ⟨[], none, 0⟩ where
  floor_le := ordered
  header := fun _ member => absurd member List.not_mem_nil
  busy := fun _ => rfl
  deep := fun current => nomatch current
  body := fun _ current => nomatch current

theorem BodyOpen.next {depth deeper : Nat} (bodyOpen : BodyOpen lines floor index depth opened)
    (counted : openBraces lines opened.openLine (index + 1) = deeper) (positive : 0 < deeper) :
    BodyOpen lines floor (index + 1) deeper opened where
  headed := bodyOpen.headed
  floor_le := bodyOpen.floor_le
  started := Nat.le_succ_of_le bodyOpen.started
  counted := counted
  positive := by
    intro earlier behind before
    rcases Nat.lt_succ_iff_lt_or_eq.mp before with earlier' | rfl
    · exact bodyOpen.positive earlier behind earlier'
    · rw [counted]
      exact Int.natCast_pos.mpr positive

theorem BodyOpen.pass {depth : Nat} (bodyOpen : BodyOpen lines floor index depth opened)
    (deep : 0 < depth) (there : lines[index]? = some head) (codeless : head.hasCode = false) :
    BodyOpen lines floor (index + 1) depth opened := by
  refine bodyOpen.next ?_ deep
  have balanced : Text.excess '{' '}' head.stripped = 0 := by
    rw [Line.stripped, Text.excess_trim head.code rfl rfl]
    exact Line.excess_of_codeless (by decide) (by decide) codeless
  rw [openBraces_succ there bodyOpen.started, bodyOpen.counted, balanced, Int.add_zero]

/-- What is known when the braces of a line are followed speaks of this line and those before. -/
theorem Progress.Traced.bodies (there : lines[index]? = some head)
    (traced : (progressBefore lines index).Traced lines floor index) :
    (entered index head (progressBefore lines index)).header = [] ∧
      ∀ opened ∈ (entered index head (progressBefore lines index)).current,
        BodyOpen lines floor index (entered index head (progressBefore lines index)).depth
          opened := by
  unfold FunctionDefinition.entered
  by_cases idle : (progressBefore lines index).isIdle
  · rw [if_pos idle]
    refine ⟨rfl, fun opened headed => ?_⟩
    obtain ⟨here, -, -, -, first⟩ := openLine_of_heads? headed
    refine ⟨?_, ?_, Nat.le_of_eq here, ?_, ?_⟩
    · rw [here, openedAt?_eq there]
      exact headed
    · rw [first]
      cases collected : (progressBefore lines index).header.head? with
      | none => exact traced.floor_le
      | some entry => exact traced.header entry (List.mem_of_head? collected)
    · rw [here, openBraces_self]
      exact congrArg Int.ofNat (Progress.isIdle_iff.mp idle).1.symm
    · intro earlier behind before
      omega
  · rw [if_neg idle]
    exact ⟨traced.busy (by simpa using idle), traced.body⟩

/-- A line either closes a definition, whose braces balance on it, and leaves nothing open, or keeps
what is known in step with the lines. -/
theorem Progress.Traced.next (traced : (progressBefore lines index).Traced lines floor index)
    (there : lines[index]? = some head) :
    closedAt? lines index = none ∧
        (progressBefore lines (index + 1)).Traced lines floor (index + 1) ∨
      ∃ opened depth, BodyOpen lines floor index depth opened ∧
        openBraces lines opened.openLine (index + 1) ≤ 0 ∧
        closedAt? lines index = some (opened.closed index) ∧
        progressBefore lines (index + 1) = ⟨[], none, 0⟩ := by
  rw [closedAt?_eq there, progressBefore_succ there]
  rcases line_cases index head (progressBefore lines index) with
    ⟨header, kept, -, inBlock, among⟩ | followed
  · left
    rw [kept]
    refine ⟨rfl, Nat.le_succ_of_le traced.floor_le, fun entry member => ?_, fun busy => ?_,
      traced.deep, fun opened current => ?_⟩
    · rcases among entry member with earlier | here
      · exact traced.header entry earlier
      · rw [here]
        exact traced.floor_le
    · obtain ⟨-, same⟩ := inBlock busy
      exact same.trans (traced.busy busy)
    · have open' : (progressBefore lines index).current.isSome := Option.isSome_of_mem current
      have busy : (progressBefore lines index).isIdle = false := by
        rw [Progress.isIdle, Option.isNone_eq_false_iff.mpr open', Bool.and_false]
      exact (traced.body opened current).pass (traced.deep open') there (inBlock busy).1
  · obtain ⟨uncollected, bodies⟩ := traced.bodies there
    rw [followed]
    generalize entered index head (progressBefore lines index) = progress at *
    unfold followBraces
    dsimp only
    by_cases ends : (progress.depth : Int) + Text.excess '{' '}' head.stripped ≤ 0
    · rw [if_pos ends, uncollected]
      cases current : progress.current with
      | none => exact .inl ⟨rfl, Progress.traced_idle lines (Nat.le_succ_of_le traced.floor_le)⟩
      | some opened =>
        have bodyOpen := bodies opened current
        refine .inr ⟨opened, progress.depth, bodyOpen, ?_, rfl, rfl⟩
        rw [openBraces_succ there bodyOpen.started, bodyOpen.counted]
        exact ends
    · left
      rw [if_neg ends]
      have deeper : 0 < ((progress.depth : Int) + Text.excess '{' '}' head.stripped).toNat := by
        omega
      refine ⟨rfl, Nat.le_succ_of_le traced.floor_le, ?_, fun _ => uncollected, fun _ => deeper,
        fun opened current => ?_⟩
      · rw [uncollected]
        exact fun _ member => absurd member List.not_mem_nil
      · have bodyOpen := bodies opened current
        refine bodyOpen.next ?_ deeper
        rw [openBraces_succ there bodyOpen.started, bodyOpen.counted]
        exact (Int.toNat_of_nonneg (by omega)).symm

/-- What is known from some line on stays in step with the lines behind it. -/
theorem Progress.Traced.later {start : Nat}
    (traced : (progressBefore lines start).Traced lines floor start) (behind : start ≤ index)
    (inFile : index ≤ lines.length) : (progressBefore lines index).Traced lines floor index := by
  induction index, behind using Nat.le_induction with
  | base => exact traced
  | succ index behind inductionHypothesis =>
    have here := inductionHypothesis (Nat.le_of_succ_le inFile)
    rcases here.next (List.getElem?_eq_getElem inFile) with ⟨-, next⟩ | ⟨-, -, -, -, -, next⟩
    · exact next
    · rw [next]
      exact Progress.traced_idle lines (Nat.le_succ_of_le here.floor_le)

theorem traced_before (inFile : index ≤ lines.length) :
    (progressBefore lines index).Traced lines 0 index :=
  Progress.Traced.later (Progress.traced_idle lines (Nat.le_refl 0)) (Nat.zero_le index) inFile

/-! ## Where definitions end -/

/-- A line that closes a definition closes one whose body is open. -/
theorem exists_open_of_closedAt? (inFile : index < lines.length)
    (traced : (progressBefore lines index).Traced lines floor index)
    (closed : closedAt? lines index = some definition) :
    progressBefore lines (index + 1) = ⟨[], none, 0⟩ ∧
      ∃ opened depth, BodyOpen lines floor index depth opened ∧
        openBraces lines opened.openLine (index + 1) ≤ 0 ∧ definition = opened.closed index := by
  rcases traced.next (List.getElem?_eq_getElem inFile) with
    ⟨none, -⟩ | ⟨opened, depth, bodyOpen, balanced, closedToo, next⟩
  · rw [none] at closed
    cases closed
  · rw [closedToo] at closed
    exact ⟨next, opened, depth, bodyOpen, balanced, (Option.some.inj closed).symm⟩

/-- A definition starts behind the line on which an earlier one ends. -/
theorem pairwise_findAll_closeLine (lines : List Line) :
    (findAll lines).Pairwise fun first second => first.closeLine < second.headerLine := by
  rw [findAll_eq_filterMap, List.pairwise_filterMap]
  refine List.pairwise_lt_range.imp_of_mem ?_
  intro earlier later earlierIn laterIn before first closedFirst second closedSecond
  rw [List.mem_range] at earlierIn laterIn
  obtain ⟨next, opened, depth, -, -, rfl⟩ :=
    exists_open_of_closedAt? earlierIn (traced_before (Nat.le_of_lt earlierIn)) closedFirst
  have idle : (progressBefore lines (earlier + 1)).Traced lines (earlier + 1) (earlier + 1) := by
    rw [next]
    exact Progress.traced_idle lines (Nat.le_refl _)
  obtain ⟨-, openedToo, depthToo, bodyOpen, -, rfl⟩ :=
    exists_open_of_closedAt? laterIn (idle.later before (Nat.le_of_lt laterIn)) closedSecond
  exact bodyOpen.floor_le

/-- The braces of a definition that is found balance on its last line and not before. -/
theorem bodied_of_mem_findAll (found : definition ∈ findAll lines) : definition.Bodied lines := by
  obtain ⟨ordered, inFile⟩ := ordered_of_mem_findAll found
  obtain ⟨index, within, closed⟩ := mem_findAll_iff.mp found
  obtain ⟨-, opened, depth, bodyOpen, balanced, rfl⟩ :=
    exists_open_of_closedAt? within (traced_before (Nat.le_of_lt within)) closed
  refine ⟨ordered, inFile, ?_, bodyOpen.positive, balanced⟩
  obtain ⟨head, there, headed⟩ := Option.bind_eq_some_iff.mp bodyOpen.headed
  exact ⟨head, there, (openLine_of_heads? headed).2.2.2.1⟩

theorem not_isIdle_of_current (current : progress.current = some opened) :
    progress.isIdle = false := by
  rw [Progress.isIdle, current, Option.isNone_some, Bool.and_false]

/-- The definition of a line is the one that it heads, or the one that was open before. -/
theorem current_entered
    (open' : heads? index head progress = some opened ∨ progress.current = some opened) :
    (entered index head progress).current = some opened := by
  unfold entered
  rcases open' with headed | current
  · rw [if_pos (openLine_of_heads? headed).2.1]
    exact headed
  · rw [if_neg (by simp [not_isIdle_of_current current])]
    exact current

/-- A line that heads a definition, or on which one is open, closes it if the braces balance, and
leaves it open if they do not. -/
theorem current_or_closed (there : lines[index]? = some head)
    (traced : (progressBefore lines index).Traced lines floor index)
    (open' : openedAt? lines index = some opened ∨
      (progressBefore lines index).current = some opened) :
    (0 < openBraces lines opened.openLine (index + 1) →
        (progressBefore lines (index + 1)).current = some opened) ∧
      (openBraces lines opened.openLine (index + 1) ≤ 0 →
        closedAt? lines index = some (opened.closed index)) := by
  rw [openedAt?_eq there] at open'
  rw [progressBefore_succ there, closedAt?_eq there]
  rcases line_cases index head (progressBefore lines index) with
    ⟨header, kept, headless, inBlock, -⟩ | followed
  · have current := open'.resolve_left (by simp [headless])
    have codeless := (inBlock (not_isIdle_of_current current)).1
    have deep := traced.deep (Option.isSome_of_mem current)
    have counted := ((traced.body opened current).pass deep there codeless).counted
    rw [kept, counted]
    exact ⟨fun _ => current, fun ends => by omega⟩
  · have current := current_entered open'
    have bodyOpen := (traced.bodies there).2 opened current
    rw [followed, openBraces_succ there bodyOpen.started, bodyOpen.counted]
    unfold followBraces
    dsimp only
    constructor
    · intro positive
      rw [if_neg (by omega)]
      exact current
    · intro ends
      rw [if_pos ends, current]
      rfl

/-- A definition stays open as long as its braces do not balance. -/
theorem current_of_positive (headed : openedAt? lines opened.openLine = some opened)
    (behind : opened.openLine ≤ index) (inFile : index < lines.length)
    (positive : ∀ earlier, opened.openLine ≤ earlier → earlier ≤ index →
      0 < openBraces lines opened.openLine (earlier + 1)) :
    (progressBefore lines (index + 1)).current = some opened := by
  induction index, behind using Nat.le_induction with
  | base =>
    have traced := traced_before (Nat.le_of_lt inFile)
    exact (current_or_closed (List.getElem?_eq_getElem inFile) traced (.inl headed)).1
      (positive _ (Nat.le_refl _) (Nat.le_refl _))
  | succ index behind inductionHypothesis =>
    have traced := traced_before (Nat.le_of_lt inFile)
    have current := inductionHypothesis (Nat.lt_of_succ_lt inFile) fun earlier after before =>
      positive earlier after (Nat.le_succ_of_le before)
    exact (current_or_closed (List.getElem?_eq_getElem inFile) traced (.inr current)).1
      (positive _ (Nat.le_succ_of_le behind) (Nat.le_refl _))

/-- A definition is closed by the first line on which its braces balance. -/
theorem closed_mem_findAll (headed : openedAt? lines opened.openLine = some opened)
    (behind : opened.openLine ≤ index) (inFile : index < lines.length)
    (positive : ∀ earlier, opened.openLine ≤ earlier → earlier < index →
      0 < openBraces lines opened.openLine (earlier + 1))
    (balanced : openBraces lines opened.openLine (index + 1) ≤ 0) :
    opened.closed index ∈ findAll lines := by
  have traced := traced_before (Nat.le_of_lt inFile)
  have open' : openedAt? lines index = some opened ∨
      (progressBefore lines index).current = some opened := by
    rcases Nat.eq_or_lt_of_le behind with here | earlier
    · exact .inl (here ▸ headed)
    · obtain ⟨previous, rfl⟩ := Nat.exists_eq_add_one_of_ne_zero (Nat.ne_zero_of_lt earlier)
      refine .inr (current_of_positive headed (Nat.le_of_lt_succ earlier) (Nat.lt_of_succ_lt inFile) ?_)
      exact fun line after before => positive line after (Nat.lt_succ_of_le before)
  exact mem_findAll_iff.mpr
    ⟨index, inFile, (current_or_closed (List.getElem?_eq_getElem inFile) traced open').2 balanced⟩

/-- The definitions that are found lie one behind the other, and the braces of each balance on its
last line and not before. A definition that a line heads is found if and only if its braces balance
before the end of the file. -/
theorem findAll_bodies (lines : List Line) :
    (findAll lines).Pairwise (fun first second => first.closeLine < second.headerLine) ∧
      (∀ definition ∈ findAll lines, definition.Bodied lines) ∧
      ∀ opened : Opened, openedAt? lines opened.openLine = some opened →
        ((∃ closeLine, opened.closed closeLine ∈ findAll lines) ↔
          ∃ index < lines.length, opened.openLine ≤ index ∧
            openBraces lines opened.openLine (index + 1) ≤ 0) := by
  refine ⟨pairwise_findAll_closeLine lines, fun _ => bodied_of_mem_findAll, fun opened headed => ?_⟩
  constructor
  · rintro ⟨closeLine, found⟩
    have bodied := bodied_of_mem_findAll found
    exact ⟨closeLine, bodied.inFile, bodied.open_le, bodied.balanced⟩
  · rintro balances
    classical
    obtain ⟨inFile, behind, balanced⟩ := Nat.find_spec balances
    refine ⟨_, closed_mem_findAll headed behind inFile (fun earlier after before => ?_) balanced⟩
    by_contra closes
    exact Nat.find_min balances before ⟨Nat.lt_trans before inFile, after, Int.not_lt.mp closes⟩

/-- A body on the line of its head, a body on lines of its own, and a body that the file leaves
open. -/
theorem findAll_bodies_unclosed :
    let text := "int util_one(void) \x7b return 1; \x7d\nint\nutil_two(void)\n\x7b\n  return 2;\n\x7d\n".toList ++
      "void util_put(int a) \x7b\n  if (a) \x7b\n  \x7d\n".toList
    let lines := Line.ofRaws (Source.splitLines text)
    let two : FunctionDefinition := ⟨"util_two".toList, 1, 3, 5, ["void".toList]⟩
    let put : Opened := ⟨"util_put".toList, 6, 6, ["int a".toList]⟩
    (findAll lines).map (fun definition => (definition.headerLine, definition.closeLine)) =
        [(0, 0), (1, 5)] ∧
      two ∈ findAll lines ∧ two.Bodied lines ∧ openedAt? lines put.openLine = some put ∧
      (∀ index < lines.length, put.openLine ≤ index →
        0 < openBraces lines put.openLine (index + 1)) ∧
      ¬ ∃ closeLine, put.closed closeLine ∈ findAll lines := by
  intro text lines two put
  have found : findAll lines = [⟨"util_one".toList, 0, 0, 0, ["void".toList]⟩, two] := by
    decide +kernel
  have member : two ∈ findAll lines := by
    rw [found]
    exact List.mem_cons_of_mem _ (List.mem_singleton_self two)
  have headed : openedAt? lines put.openLine = some put := by decide +kernel
  have positive : ∀ index < lines.length, put.openLine ≤ index →
      0 < openBraces lines put.openLine (index + 1) := by decide +kernel
  refine ⟨by rw [found]; rfl, member, (findAll_bodies lines).2.1 two member, headed, positive, ?_⟩
  rw [(findAll_bodies lines).2.2 put headed]
  rintro ⟨index, inFile, behind, balanced⟩
  have unbalanced := positive index inFile behind
  omega

end HouseStyle.FunctionDefinition
