import HouseStyle.Proofs.Pattern.Reach
import HouseStyle.Proofs.Scan.Advance
import HouseStyle.Proofs.Scan.Run

/-!
Contract: the shape of the scan's state after every line.

Owns: the invariant of the state, its preservation by every line, and what it says about the
indentation that the state stores.
Does not own: how deep the frames are nested.

The frames are written by braces, by labels and by lists of parameters, and their values come from
the frame below, from the one-shot indentation of a body without braces, or from where a list
started many lines before. The invariant bounds each of these sources by the frame on top: an
expected indentation lies at or above it, a list of parameters started at most one step below it,
and one of a control statement at or above it.

Main statement: `wellFormed_run`.
-/

namespace HouseStyle

/-! ## Words that exclude each other -/

theorem starts_of_labelStart {text : List Char} (fits : CaseBlock.labelStart.fits text) :
    ∃ rest, text = "case".toList ++ rest ∨ text = "default".toList ++ rest := by
  obtain ⟨stop, reached⟩ := Pattern.fits_iff.mp fits
  simp only [CaseBlock.labelStart, Pattern.mem_outcomes_append, Pattern.mem_outcomes_orElse,
    Pattern.atStart, Pattern.mem_outcomes_look, Pattern.mem_outcomes_word] at reached
  obtain ⟨start, ⟨-, rfl⟩, ⟨_, ⟨rest, label, -⟩, -⟩ | ⟨_, ⟨_, ⟨rest, label, -⟩, -⟩, -⟩⟩ := reached
  · exact ⟨rest, .inl label⟩
  · exact ⟨rest, .inr label⟩

theorem starts_of_braceControl {text : List Char} (fits : Lexicon.braceControl.fits text) :
    text.head? = some '}' ∨
      ∃ word ∈ ["if", "else", "for", "while", "do", "switch"], ∃ rest,
        text = word.toList ++ rest := by
  obtain ⟨stop, reached⟩ := Pattern.fits_iff.mp fits
  simp only [Lexicon.braceControl, Pattern.mem_outcomes_append, Pattern.mem_outcomes_opt,
    Pattern.mem_outcomes_capture, Pattern.atStart, Pattern.mem_outcomes_look,
    Pattern.mem_outcomes_char, Pattern.mem_outcomes_oneOf] at reached
  obtain ⟨_, ⟨_, ⟨_, ⟨-, rfl⟩, brace | rfl⟩, _, ⟨word, member, rest, written, -⟩, -⟩, -⟩ := reached
  · obtain ⟨_, ⟨rest, braced, -⟩, -⟩ := brace
    left
    rw [show text = '}' :: rest from braced]
    rfl
  · exact .inr ⟨word, member, rest, written⟩

/-- A control statement is no label. -/
theorem not_labelStart_of_braceControl {text : List Char}
    (control : Lexicon.braceControl.fits text) : ¬ CaseBlock.labelStart.fits text := by
  intro label
  obtain ⟨labelRest, labelled⟩ := starts_of_labelStart label
  rcases starts_of_braceControl control with closing | ⟨word, member, rest, written⟩
  · rcases labelled with rfl | rfl <;> simp at closing
  · simp only [List.mem_cons, List.not_mem_nil, or_false] at member
    rcases labelled with rfl | rfl <;> rcases member with rfl | rfl | rfl | rfl | rfl | rfl <;>
      simp at written

namespace ScanState

/-! ## The invariant -/

/-- A list of parameters started where the frame on top allows: at most one step below it, and not
below it at all if the list belongs to a control statement. -/
structure BlockSound (state : ScanState) (block : ParamBlock) : Prop where
  noOverride : state.nextIndent = none
  depth : 1 ≤ block.depth
  base_even : block.baseIndent % 2 = 0
  base_nonneg : 0 ≤ block.baseIndent
  top_le : (state.top : Int) ≤ block.baseIndent + 2
  top_le_control : block.isControl → (state.top : Int) ≤ block.baseIndent
  required_even : block.requiredIndent % 2 = 0
  required_pos : 2 ≤ block.requiredIndent

/-- The invariant that every line preserves. Frames are listed from the innermost on. -/
structure Sound (state : ScanState) : Prop where
  frames_even : ∀ indent ∈ state.frames, indent % 2 = 0
  frames_sorted : state.frames.Pairwise (· ≥ ·)
  override : ∀ indent, state.nextIndent = some indent →
    indent % 2 = 0 ∧ (state.top : Int) + 2 ≤ indent
  cases_even : ∀ frame ∈ state.cases, frame.indent % 2 = 0
  block : ∀ block, state.paramBlock = some block → state.BlockSound block

theorem sound_initial : initial.Sound where
  frames_even := by simp [initial]
  frames_sorted := .nil
  override := by simp [initial]
  cases_even := by simp [initial]
  block := by simp [initial]

variable {state : ScanState}

theorem Sound.top_even (sound : state.Sound) : state.top % 2 = 0 := by
  unfold top
  cases frames : state.frames with
  | nil => rfl
  | cons indent frames' =>
    apply sound.frames_even
    rw [frames]
    exact List.mem_cons_self

theorem headD_drop_le {frames : List Nat} (sorted : frames.Pairwise (· ≥ ·)) (count : Nat) :
    (frames.drop count).headD 0 ≤ frames.headD 0 := by
  cases frames with
  | nil => simp
  | cons top frames =>
    cases count with
    | zero => exact Nat.le_refl _
    | succ count =>
      rw [List.drop_succ_cons]
      cases rest : frames.drop count with
      | nil => exact Nat.zero_le _
      | cons lower others =>
        have member : lower ∈ frames := by
          apply List.mem_of_mem_drop (i := count)
          rw [rest]
          exact List.mem_cons_self
        exact (List.pairwise_cons.mp sorted).1 lower member

/-- Leaving frames and bodies keeps the invariant. -/
theorem Sound.leave (sound : state.Sound) (frameCount caseCount : Nat) :
    Sound { state with
      frames := state.frames.drop frameCount, cases := state.cases.drop caseCount } := by
  have lower := headD_drop_le sound.frames_sorted frameCount
  constructor
  case frames_even =>
    intro indent member
    exact sound.frames_even indent (List.mem_of_mem_drop member)
  case frames_sorted => exact sound.frames_sorted.drop
  case override =>
    intro indent pending
    have bound := sound.override indent pending
    simp only [top] at bound ⊢
    omega
  case cases_even =>
    intro frame member
    exact sound.cases_even frame (List.mem_of_mem_drop member)
  case block =>
    intro block inside
    have bound := sound.block block inside
    have top_le := bound.top_le
    have top_le_control := bound.top_le_control
    simp only [top] at top_le top_le_control
    refine { bound with top_le := ?_, top_le_control := ?_ }
    · simp only [top]
      omega
    · intro control
      have below := top_le_control control
      simp only [top]
      omega

theorem Sound.pop (sound : state.Sound) : state.pop.Sound := by
  have left := sound.leave 1 0
  rwa [List.drop_one] at left

theorem Sound.popMany (sound : state.Sound) (count : Nat) : (state.popMany count).Sound :=
  sound.leave count 0

/-- Entering a frame keeps the invariant when the frame lies at or above the one on top and nothing
waits for it. -/
theorem Sound.push (sound : state.Sound) {indent : Int} (even : indent % 2 = 0)
    (above : (state.top : Int) ≤ indent) (noOverride : state.nextIndent = none)
    (noBlock : state.paramBlock = none) : (state.push indent).Sound := by
  constructor
  case frames_even =>
    intro other member
    rcases List.mem_cons.mp member with rfl | lower
    · omega
    · exact sound.frames_even other lower
  case frames_sorted =>
    refine List.Pairwise.cons ?_ sound.frames_sorted
    intro lower member
    have top_le : lower ≤ state.top := by
      unfold top
      cases frames : state.frames with
      | nil => simp [frames] at member
      | cons top others =>
        rw [frames] at member
        rcases List.mem_cons.mp member with rfl | deeper
        · exact Nat.le_refl _
        · have sorted := sound.frames_sorted
          rw [frames] at sorted
          exact (List.pairwise_cons.mp sorted).1 lower deeper
    show indent.toNat ≥ lower
    omega
  case override =>
    intro pending some
    rw [show (state.push indent).nextIndent = state.nextIndent from rfl, noOverride] at some
    cases some
  case cases_even => exact sound.cases_even
  case block =>
    intro block inside
    rw [show (state.push indent).paramBlock = state.paramBlock from rfl, noBlock] at inside
    cases inside

theorem Sound.closeFinished (sound : state.Sound) (index : Nat) :
    (CaseBlock.closeFinished index state).Sound := by
  have closes : ∀ frames cases, ∃ count,
      CaseBlock.closeFrames index frames cases = (frames.drop count, cases.drop count) := by
    intro frames cases
    induction cases generalizing frames with
    | nil => exact ⟨0, rfl⟩
    | cons frame cases inductionHypothesis =>
      rw [CaseBlock.closeFrames]
      by_cases ends : frame.endLine = index
      · obtain ⟨count, same⟩ := inductionHypothesis frames.tail
        refine ⟨count + 1, ?_⟩
        rw [if_pos ends, same, List.drop_succ_cons, List.drop_tail]
      · rw [if_neg ends]
        exact ⟨0, rfl⟩
  obtain ⟨count, same⟩ := closes state.frames state.cases
  have left := sound.leave count count
  unfold CaseBlock.closeFinished
  rw [same]
  exact left

/-! ## The lines of a list of parameters -/

theorem Sound.continued (sound : state.Sound) {block : ParamBlock}
    (inside : state.paramBlock = some block) (code : List Char) :
    (ParamBlock.continued block code state).Sound := by
  have bound := sound.block block inside
  have outside : Sound { state with paramBlock := none } :=
    { sound with block := fun _ none => nomatch none }
  have inner_even : (block.baseIndent + indentUnit) % 2 = 0 := by
    have even := bound.base_even
    simp only [indentUnit]
    omega
  unfold ParamBlock.continued
  by_cases open' : 0 < block.depth + Text.excess '(' ')' code
  · simp only [open', if_true]
    refine { sound with block := ?_ }
    intro other same
    cases same
    exact { bound with depth := open' }
  · simp only [open', if_false]
    by_cases braced : (Text.trim code).getLast? == some '{'
    · rw [if_pos braced]
      exact outside.push inner_even bound.top_le bound.noOverride rfl
    · rw [if_neg braced]
      by_cases control : block.isControl && (Text.trim code).getLast? != some ';'
      · rw [if_pos control]
        have isControl : block.isControl = true := (Bool.and_eq_true_iff.mp control).1
        refine { outside with override := ?_, block := ?_ }
        · intro indent same
          cases same
          have below := bound.top_le_control isControl
          refine ⟨inner_even, ?_⟩
          simp only [top, indentUnit] at below ⊢
          omega
        · intro other none
          cases none
      · rw [if_neg control]
        exact outside

theorem requiredIndentAt_even (paren : Nat) : ParamBlock.requiredIndentAt paren % 2 = 0 := by
  unfold ParamBlock.requiredIndentAt indentUnit
  omega

theorem requiredIndentAt_pos (paren : Nat) : 2 ≤ ParamBlock.requiredIndentAt paren := by
  unfold ParamBlock.requiredIndentAt indentUnit
  omega

/-! ## Statements -/

theorem Sound.outside (sound : state.Sound) (line : Line) : (Indent.outside line state).Sound := by
  unfold Indent.outside
  split
  · exact sound.pop
  · exact sound

theorem paramBlock_outside (line : Line) (state : ScanState) :
    (Indent.outside line state).paramBlock = state.paramBlock := by
  unfold Indent.outside
  split <;> rfl

/-- A line is expected at the frame around it or a whole number of steps above it. -/
theorem Sound.expectedAt (sound : state.Sound) (line : Line) :
    Indent.expectedAt line state % 2 = 0 ∧
      ((Indent.outside line state).top : Int) ≤ Indent.expectedAt line state := by
  have sound' := sound.outside line
  have even := sound'.top_even
  unfold Indent.expectedAt Indent.expected
  cases pending : (Indent.outside line state).nextIndent with
  | none => exact ⟨by simp only; omega, Int.le_refl _⟩
  | some indent =>
    have bound := sound'.override indent pending
    simp only
    split <;> omega

/-- What holds between the label of a statement and the rest of it. -/
structure Labelled (site : Site) (expected : Int) (state : ScanState) : Prop where
  sound : state.Sound
  noOverride : state.nextIndent = none
  noBlock : state.paramBlock = none
  expected_even : expected % 2 = 0
  expected_nonneg : 0 ≤ expected
  top_le : (state.top : Int) ≤ expected + 2
  top_le_unframed : ¬ CaseBlock.isLabel site.line.code ∨ CaseBlock.frameEnd? site = none →
    (state.top : Int) ≤ expected

/-- A statement that opens no frame for a body. -/
theorem Sound.labelled_outside (sound : state.Sound) (noBlock : state.paramBlock = none)
    (site : Site) :
    Labelled site (Indent.expectedAt site.line state)
      { Indent.outside site.line state with nextIndent := none } := by
  obtain ⟨even, above⟩ := sound.expectedAt site.line
  have noBlock' := (paramBlock_outside site.line state).trans noBlock
  exact
    { sound :=
        { sound.outside site.line with
          override := fun _ none => nomatch none
          block := fun block inside => nomatch noBlock'.symm.trans inside }
      noOverride := rfl
      noBlock := noBlock'
      expected_even := even
      expected_nonneg := by omega
      top_le := by
        simp only [top] at above ⊢
        omega
      top_le_unframed := fun _ => above }

/-- A label that opens a frame for its body, one step deeper. -/
theorem Labelled.enter {site : Site} {expected : Int} (labelled : Labelled site expected state)
    (above : (state.top : Int) ≤ expected) (isLabel : CaseBlock.isLabel site.line.code)
    {endLine : Nat} (framed : CaseBlock.frameEnd? site = some endLine) :
    Labelled site expected (CaseBlock.enter (some endLine) expected state) := by
  have even := labelled.expected_even
  have inner_even : (expected + indentUnit) % 2 = 0 := by
    simp only [indentUnit]
    omega
  have pushed := labelled.sound.push inner_even (by simp only [indentUnit]; omega)
    labelled.noOverride labelled.noBlock
  refine
    { sound := { pushed with cases_even := ?_, block := ?_ }
      noOverride := labelled.noOverride
      noBlock := labelled.noBlock
      expected_even := even
      expected_nonneg := labelled.expected_nonneg
      top_le := ?_
      top_le_unframed := ?_ }
  · intro frame member
    rcases List.mem_cons.mp member with rfl | outer
    · exact inner_even
    · exact labelled.sound.cases_even frame outer
  · intro block inside
    exact nomatch labelled.noBlock.symm.trans inside
  · have nonneg := labelled.expected_nonneg
    simp only [CaseBlock.enter, top, ScanState.push, List.headD_cons, indentUnit]
    omega
  · intro excluded
    rcases excluded with notLabel | noFrame
    · exact absurd isLabel notLabel
    · exact absurd (framed.symm.trans noFrame) (Option.some_ne_none _)

theorem Sound.labelled (sound : state.Sound) (noBlock : state.paramBlock = none) (site : Site) :
    Labelled site (Indent.expectedAt site.line state) (Indent.labelled site state) := by
  have outside := sound.labelled_outside noBlock site
  unfold Indent.labelled
  by_cases isLabel : CaseBlock.isLabel site.line.code
  · simp only [isLabel, if_true]
    cases framed : CaseBlock.frameEnd? site with
    | none => exact outside
    | some endLine => exact outside.enter (sound.expectedAt site.line).2 isLabel framed
  · simp only [isLabel]
    exact outside

/-- Before the closing brace of an empty block no body is found. -/
theorem frameEnd?_eq_none_of_empty {site : Site}
    (empty : site.nextCode?.any fun next => next.stripped == ['}']) :
    CaseBlock.frameEnd? site = none := by
  have noBody : ∀ (lines : List Line) (index : Nat) (marked : Bool),
      (lines.find? Line.hasCode).any (fun next => next.stripped == ['}']) →
      (CaseBlock.scanBody index 0 none marked lines).last = none := by
    intro lines
    induction lines with
    | nil =>
      intro index marked none
      cases none
    | cons line lines inductionHypothesis =>
      intro index marked next
      rw [CaseBlock.scanBody]
      by_cases inked : line.hasCode
      · rw [List.find?_cons_of_pos inked, Option.any_some, beq_iff_eq] at next
        simp [inked, next]
      · rw [List.find?_cons_of_neg inked] at next
        rw [if_neg inked]
        exact inductionHypothesis _ _ next
  unfold CaseBlock.frameEnd?
  cases CaseBlock.parts? site.line.code with
  | none => rfl
  | some parts =>
    simp only [Option.bind_eq_bind, Option.bind_some]
    split
    · exact noBody site.after _ _ empty
    · rfl

theorem not_isLabel_of_braceControl {line : Line} (control : Lexicon.braceControl.fits line.stripped) :
    ¬ CaseBlock.isLabel line.code := by
  intro label
  exact not_labelStart_of_braceControl control (Bool.and_eq_true_iff.mp label).1

theorem Labelled.followBraces {site : Site} {expected : Int}
    (labelled : Labelled site expected state) (startsWithClose : Bool) :
    (Indent.followBraces site expected startsWithClose state).Sound := by
  have even := labelled.expected_even
  simp only [Indent.followBraces]
  generalize Text.excess '{' '}' _ = net
  split
  · unfold Indent.blockIndent
    split
    next empty =>
      have below := labelled.top_le_unframed (.inr (frameEnd?_eq_none_of_empty empty))
      exact labelled.sound.push even below labelled.noOverride labelled.noBlock
    next =>
      have inner_even : (expected + indentUnit) % 2 = 0 := by
        simp only [indentUnit]
        omega
      exact labelled.sound.push inner_even labelled.top_le labelled.noOverride labelled.noBlock
  · split
    · exact labelled.sound.popMany _
    · split
      next braceless =>
        unfold Indent.opensBracelessBody at braceless
        have control := (Bool.and_eq_true_iff.mp (Bool.and_eq_true_iff.mp braceless).1).2
        have below := labelled.top_le_unframed (.inl (not_isLabel_of_braceControl control))
        refine { labelled.sound with override := ?_, block := ?_ }
        · intro indent same
          cases same
          simp only [top, indentUnit] at below ⊢
          omega
        · intro block inside
          exact nomatch labelled.noBlock.symm.trans inside
      next => exact labelled.sound

theorem Labelled.opened {site : Site} {expected : Int} (labelled : Labelled site expected state)
    (opens : ParamBlock.opens site.line.code) (previousCode : List Char) :
    (ParamBlock.opened site.line.code expected previousCode state).Sound := by
  refine { labelled.sound with block := ?_ }
  intro block same
  cases same
  constructor
  case noOverride => exact labelled.noOverride
  case depth =>
    unfold ParamBlock.opens at opens
    have excess : 0 < Text.excess '(' ')' site.line.code :=
      of_decide_eq_true (Bool.and_eq_true_iff.mp opens).2
    exact excess
  case base_even => exact labelled.expected_even
  case base_nonneg => exact labelled.expected_nonneg
  case top_le => exact labelled.top_le
  case top_le_control =>
    intro control
    exact labelled.top_le_unframed (.inl (not_isLabel_of_braceControl control))
  case required_even => exact requiredIndentAt_even _
  case required_pos => exact requiredIndentAt_pos _

theorem Sound.indented (sound : state.Sound) (noBlock : state.paramBlock = none) (site : Site) :
    (Indent.settled site state).Sound := by
  have labelled := sound.labelled noBlock site
  unfold Indent.settled
  split
  · exact labelled.sound
  · split
    next opens => exact labelled.opened opens _
    next => exact labelled.followBraces _

/-! ## Every line -/

/-- Types say nothing about the indentation. -/
theorem exists_typeScope_settled (index : Nat) (code : List Char) (state : ScanState) :
    ∃ types pendingType, TypeScope.settled index code state = { state with types, pendingType } := by
  have closed : ∀ state : ScanState, ∃ types pendingType,
      TypeScope.closed code state = { state with types, pendingType } := by
    intro state
    unfold TypeScope.closed
    split
    · exact ⟨_, _, rfl⟩
    · split <;> exact ⟨_, _, rfl⟩
  have openedOrClosed : ∀ state : ScanState, ∃ types pendingType,
      TypeScope.openedOrClosed index code state = { state with types, pendingType } := by
    intro state
    unfold TypeScope.openedOrClosed
    split
    · exact ⟨_, _, rfl⟩
    · split
      · split
        · split <;> exact ⟨_, _, rfl⟩
        · exact closed state
      · exact closed state
  unfold TypeScope.settled
  split
  · split
    · exact openedOrClosed state
    · simp only
      split
      · exact ⟨_, _, rfl⟩
      · exact openedOrClosed _
  · exact openedOrClosed state

theorem Sound.statementNext (sound : state.Sound) (noBlock : state.paramBlock = none)
    (site : Site) : (Scan.statementNext site state).Sound := by
  have settled := sound.indented noBlock site
  unfold Scan.statementNext
  split
  · exact settled
  · obtain ⟨types, pendingType, same⟩ :=
      exists_typeScope_settled site.index site.line.code (Indent.settled site state)
    rw [same]
    exact { settled with block := fun block inside => { settled.block block inside with } }

theorem Sound.codeNext (sound : state.Sound) (site : Site) : (Scan.codeNext site state).Sound := by
  unfold Scan.codeNext
  split
  next block inside => exact sound.continued inside _
  next outside =>
    split
    · exact { sound with block := fun block inside => { sound.block block inside with } }
    · split
      · exact sound
      · exact sound.statementNext outside site

theorem Sound.advance (sound : state.Sound) (site : Site) : (Scan.advance site state).Sound := by
  have blanks : ∀ count, Sound { state with blankRun := count } := fun count =>
    { sound with block := fun block inside => { sound.block block inside with } }
  have line : (Scan.lineNext site state).Sound := by
    unfold Scan.lineNext
    split
    · split
      · exact sound
      · exact blanks _
    · simp only
      split
      · exact blanks 0
      · exact (blanks 0).codeNext site
  have closed := line.closeFinished site.index
  exact { closed with block := fun block inside => { closed.block block inside with } }

/-! ## What the invariant says -/

/-- The indentation stored in a state: frames that start at zero and grow by whole steps, a one-shot
indentation above them, bodies of cases at whole steps, and an open list of parameters. -/
structure WellFormed (state : ScanState) : Prop where
  bottom : state.indents.head? = some 0
  indents_even : ∀ indent ∈ state.indents, indent % 2 = 0
  indents_sorted : state.indents.Pairwise (· ≤ ·)
  nextIndent : ∀ indent, state.nextIndent = some indent →
    indent % 2 = 0 ∧ ∃ top, state.indents.getLast? = some top ∧ (top : Int) + 2 ≤ indent
  cases_even : ∀ frame ∈ state.cases, frame.indent % 2 = 0
  paramBlock : ∀ block, state.paramBlock = some block →
    1 ≤ block.depth ∧ block.baseIndent % 2 = 0 ∧ 0 ≤ block.baseIndent ∧
      block.requiredIndent % 2 = 0 ∧ 2 ≤ block.requiredIndent

theorem getLast?_indents (state : ScanState) : state.indents.getLast? = some state.top := by
  unfold indents top
  rw [List.getLast?_cons, List.getLast?_reverse]
  cases state.frames <;> rfl

theorem Sound.wellFormed (sound : state.Sound) : state.WellFormed := by
  constructor
  case bottom => rfl
  case indents_even =>
    intro indent member
    rcases List.mem_cons.mp member with rfl | frame
    · rfl
    · exact sound.frames_even indent (List.mem_reverse.mp frame)
  case indents_sorted =>
    apply List.Pairwise.cons
    · intro indent member
      exact Nat.zero_le indent
    · exact List.pairwise_reverse.mpr sound.frames_sorted
  case nextIndent =>
    intro indent pending
    obtain ⟨even, above⟩ := sound.override indent pending
    exact ⟨even, state.top, getLast?_indents state, above⟩
  case cases_even => exact sound.cases_even
  case paramBlock =>
    intro block inside
    have bound := sound.block block inside
    exact ⟨bound.depth, bound.base_even, bound.base_nonneg, bound.required_even, bound.required_pos⟩

end ScanState

/-- After every line of every text, whatever the settings, the state stores well-formed
indentation. -/
theorem wellFormed_run (settings : Settings) (lines : List Line) :
    ∀ record ∈ (Scan.run settings lines).1, record.state.WellFormed := by
  intro record member
  apply ScanState.Sound.wellFormed
  have preserved : ∀ site state diagnostics next, state.Sound →
      Scan.step settings site state = .ok (diagnostics, next) → next.Sound := by
    intro site state diagnostics next sound passes
    rw [Scan.state_of_step passes]
    exact sound.advance site
  exact Scan.invariant_of_step preserved lines ScanState.sound_initial record member

/-- Inside a case body, two frames deep, before a list of arguments starts. -/
theorem wellFormed_run_case_body :
    let lines := Line.ofRaws (["switch (x) \x7b", "case 1:", "f(a,"].map String.toList)
    ∃ record ∈ (Scan.run .default lines).1,
      record.state.indents = [0, 2, 4] ∧ record.state.cases = [⟨2, 4⟩] ∧
        record.state.WellFormed := by
  intro lines
  have scanned : ((Scan.run .default lines).1[1]?.map fun record =>
      (record.state.indents, record.state.cases)) = some ([0, 2, 4], [⟨2, 4⟩]) := by
    decide +kernel
  obtain ⟨record, found, same⟩ := Option.map_eq_some_iff.mp scanned
  obtain ⟨indents, cases⟩ := Prod.mk.inj same
  have member := List.mem_of_getElem? found
  exact ⟨record, member, indents, cases, wellFormed_run .default lines record member⟩

end HouseStyle
