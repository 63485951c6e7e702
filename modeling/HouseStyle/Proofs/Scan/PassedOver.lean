import HouseStyle.Proofs.Scan.Beside

/-!
Contract: the look-ahead of labels past a directive.

Owns: when the look-ahead of the labels before a directive passes over it, and how many bodies end
before and with the directive then.
Does not own: the frames that braces enter and leave.

A look-ahead takes a directive for a line of the body. If the braces of the directive balance this
moves an end by no more than from the last line of code before it to the directive itself. The
bodies that end with that line in the file without the directive end in the other with the line or
with the directive, and those that end with the line are the inner ones: a look-ahead that gets past
the directive is inside one that began before and is still going on.

Main statements: `BodiesBeside.finished_split` and `BodiesBeside.finished_behind_label`.
-/

namespace HouseStyle

/-- A line that is a directive of its own. -/
structure Line.IsDirective (line : Line) : Prop where
  sharp : line.stripped.head? = some '#'
  single : (Text.trimRight line.raw).getLast? ≠ some '\\'

theorem Line.IsDirective.hasCode {line : Line} (directive : line.IsDirective) : line.hasCode := by
  have visible := (Text.isInfix_trim line.code).subset (List.mem_of_head? directive.sharp)
  exact List.any_eq_true.mpr ⟨'#', visible, by decide⟩

namespace CaseBlock

/-- Whether a line is a label with nothing behind its colon. -/
def isBare (code : List Char) : Bool :=
  (parts? code).any fun parts => (Text.trim parts.2.2.text).isEmpty

/-- The body of a label is left alone by a directive right behind it: the label closes at most one
brace more than it opens, and no block of its own follows the directive. -/
structure LeftAlone (rest : List Line) (label : Line) : Prop where
  closes_one : -1 ≤ Text.excess '{' '}' label.code
  unbraced : isBare label.code → ∀ next ∈ rest.find? Line.hasCode, next.stripped.head? ≠ some '{'

instance (rest : List Line) (label : Line) : Decidable (LeftAlone rest label) :=
  decidable_of_iff
    (-1 ≤ Text.excess '{' '}' label.code ∧
      (isBare label.code → ∀ next ∈ rest.find? Line.hasCode, next.stripped.head? ≠ some '{'))
    ⟨fun both => ⟨both.1, both.2⟩, fun alone => ⟨alone.closes_one, alone.unbraced⟩⟩

/-- The look-ahead of labels passes over a directive between two parts of a file: the braces of the
directive balance, unless no label is still looking for the end of its body, and the directive
leaves the body of a label right before it alone. -/
structure PassedOver (labelled : Nat → Bool) (first rest : List Line) (directive : Line) : Prop where
  balanced : Text.excess '{' '}' directive.code = 0 ∨
    ∀ start < first.length, labelled start → depthBehind? 0 (first.drop (start + 1)) = none
  apart : ∀ start < first.length, labelled start →
    (∀ line ∈ first.drop (start + 1), line.hasCode = false) →
    ∀ label ∈ first[start]?, LeftAlone rest label

instance (labelled : Nat → Bool) (first rest : List Line) (directive : Line) :
    Decidable (PassedOver labelled first rest directive) :=
  decidable_of_iff
    ((Text.excess '{' '}' directive.code = 0 ∨
        ∀ start < first.length, labelled start →
          depthBehind? 0 (first.drop (start + 1)) = none) ∧
      ∀ start < first.length, labelled start →
        (∀ line ∈ first.drop (start + 1), line.hasCode = false) →
        ∀ label ∈ first[start]?, LeftAlone rest label)
    ⟨fun both => ⟨both.1, both.2⟩, fun passed => ⟨passed.balanced, passed.apart⟩⟩

variable {first rest : List Line} {middle directive : Line} {index edge start ending otherEnding : Nat}
  {depth : Int} {labelled : Nat → Bool}

theorem PassedOver.balanced_of_behind (passed : PassedOver labelled first rest directive)
    (inside : start < first.length) (label : labelled start)
    (behind : (depthBehind? 0 (first.drop (start + 1))).isSome) :
    Text.excess '{' '}' directive.code = 0 := by
  rcases passed.balanced with balanced | none
  · exact balanced
  · rw [none start inside label] at behind
    cases behind

/-- Only the labels before a directive matter. -/
theorem PassedOver.congr (passed : PassedOver labelled first rest directive) {others : Nat → Bool}
    (same : ∀ start < first.length, others start = labelled start) :
    PassedOver others first rest directive where
  balanced := passed.balanced.imp_right fun none start inside label =>
    none start inside (same start inside ▸ label)
  apart := fun start inside label => passed.apart start inside (same start inside ▸ label)

/-! ## Ends -/

/-- A reading does not stop at a directive unless the directive's braces stop it. -/
theorem stopsAt_directive (isDirective : directive.IsDirective) (inside : 0 ≤ depth)
    (balanced : Text.excess '{' '}' directive.code = 0) : stopsAt depth directive = false := by
  have sharp := isDirective.sharp
  simp only [stopsAt, decide_eq_false_iff_not]
  rintro (⟨-, label | closer | broken⟩ | negative)
  · refine Scan.not_labelStart_of_head?_ne ?_ ?_ label <;> rw [sharp] <;> decide
  · rw [sharp] at closer
    exact absurd closer (by decide)
  · have starts := head?_of_breakStatement broken
    rw [sharp] at starts
    exact absurd starts (by decide)
  · omega

/-- A directive with balanced braces is the end of a body only if no line behind it is. -/
theorem lastLine?_directive (isDirective : directive.IsDirective) (inside : 0 ≤ depth)
    (balanced : Text.excess '{' '}' directive.code = 0) :
    lastLine? index depth (directive :: rest) =
      (lastLine? (index + 1) depth rest).or (some index) := by
  rw [lastLine?_cons_further isDirective.hasCode (stopsAt_directive isDirective inside balanced),
    balanced, Int.add_zero]

theorem lastLine?_of_codeless {lines : List Line} (codeless : ∀ line ∈ lines, line.hasCode = false) :
    lastLine? index depth lines = none := by
  cases found : lastLine? index depth lines with
  | none => rfl
  | some endLine =>
    obtain ⟨line, -, there, coded⟩ := exists_of_lastLine? found
    rw [codeless line (List.mem_of_getElem? there)] at coded
    cases coded

/-- A body ends in both files together, on the lines before the two lines or on those behind, or it
ends with the last line of code before them in one file and with the directive in the other. -/
theorem EndsBeside.ends_cases (ends : EndsBeside first rest middle directive start ending otherEnding)
    (last : LastCode first edge) (within : start ≤ edge) (codeless : middle.hasCode = false)
    (isDirective : directive.IsDirective)
    (balanced : (depthBehind? 0 (first.drop (start + 1))).isSome →
      Text.excess '{' '}' directive.code = 0) :
    (depthBehind? 0 (first.drop (start + 1)) = none ∧ ending = otherEnding ∧
        ending < first.length) ∨
      (first.length < ending ∧ ending = otherEnding) ∨
      ((depthBehind? 0 (first.drop (start + 1))).isSome ∧ start < edge ∧ ending = edge ∧
        otherEnding = first.length) := by
  have inside := last.lt_length
  obtain ⟨here, there⟩ := ends
  rw [lastLine?_append] at here there
  cases behind : depthBehind? 0 (first.drop (start + 1)) with
  | none =>
    rw [behind] at here there
    obtain ⟨line, late, among, -⟩ := exists_of_lastLine? here
    have bound := (List.getElem?_eq_some_iff.mp among).1
    rw [List.length_drop] at bound
    exact .inl ⟨rfl, Option.some.inj (here.symm.trans there), by omega⟩
  | some depth =>
    rw [behind] at here there
    dsimp only at here there
    have deep := depthBehind?_nonneg (Int.le_refl 0) behind
    rw [length_drop_succ (by omega), lastLine?_cons_codeless codeless] at here
    rw [length_drop_succ (by omega),
      lastLine?_directive isDirective deep (balanced (by rw [behind]; rfl))] at there
    cases found : lastLine? (first.length + 1) depth rest with
    | some endLine =>
      rw [found] at here there
      cases here
      cases there
      exact .inr (.inl ⟨le_of_lastLine? found, rfl⟩)
    | none =>
      rw [found] at here there
      cases there
      rcases Nat.lt_or_eq_of_le within with earlier | rfl
      · rw [last.lastLine? earlier (by rw [behind]; rfl)] at here
        cases here
        exact .inr (.inr ⟨rfl, earlier, rfl, rfl⟩)
      · rw [lastLine?_of_codeless last.codeless] at here
        cases here

/-- The next label ends a body before it. -/
theorem lastLine?_cons_label {label : Line} (coded : label.hasCode)
    (isLabel : labelStart.fits label.stripped) (lines : List Line) :
    lastLine? index 0 (label :: lines) = none := by
  rw [lastLine?, scanBody, if_pos coded]
  dsimp only
  rw [if_pos ⟨rfl, .inl isLabel⟩]

theorem lastLine?_of_next_label {next : Line} (found : rest.find? Line.hasCode = some next)
    (isLabel : labelStart.fits next.stripped) : lastLine? index 0 rest = none := by
  induction rest generalizing index with
  | nil => rfl
  | cons line rest inductionHypothesis =>
    by_cases coded : line.hasCode
    · rw [List.find?_cons_of_pos coded] at found
      cases found
      exact lastLine?_cons_label coded isLabel rest
    · rw [List.find?_cons_of_neg coded] at found
      rw [lastLine?_cons_codeless (by simpa using coded)]
      exact inductionHypothesis found

theorem of_hasBody {site : Site} {text : List Char} (opens : hasBody site text) :
    text.head? ≠ some '{' ∧ endsInBreak text = false := by
  unfold hasBody at opens
  simp only [Bool.and_eq_true, Bool.not_eq_true', beq_eq_false_iff_ne] at opens
  exact ⟨opens.1.1.2, opens.2⟩

/-- Where no body is looked for behind a label, the label opens a block, ends in a `break`, or is
bare and followed by another label or by a block. -/
theorem of_hasBody_eq_false {site : Site} {text : List Char} (none : hasBody site text = false) :
    text.head? = some '{' ∨ endsInBreak text ∨
      (text.isEmpty ∧ ∃ next, site.nextCode? = some next ∧
        (labelStart.fits next.stripped ∨ next.stripped.head? = some '{')) := by
  unfold hasBody at none
  cases found : site.nextCode? with
  | none =>
    simp [found] at none
    tauto
  | some next =>
    cases label : labelStart.fits next.stripped <;> simp [found, label] at none ⊢ <;> tauto

/-- A body that ends with the last line of code is still read behind all lines if a body inside it is
and begins before that line. -/
theorem behind_of_inner (last : LastCode first edge) {outer : Nat} (order : outer < start)
    (earlier : start < edge) (behind : (depthBehind? 0 (first.drop (start + 1))).isSome)
    {others : List Line}
    (ends : lastLine? (outer + 1) 0 (first.drop (outer + 1) ++ others) = some edge) :
    (depthBehind? 0 (first.drop (outer + 1))).isSome := by
  have inside := last.lt_length
  obtain ⟨inner, behind⟩ := Option.isSome_iff_exists.mp behind
  have split : first.drop (outer + 1) =
      (first.drop (outer + 1)).take (start - outer) ++ first.drop (start + 1) := by
    have both := (List.take_append_drop (start - outer) (first.drop (outer + 1))).symm
    rwa [List.drop_drop, show outer + 1 + (start - outer) = start + 1 by omega] at both
  cases before : depthBehind? 0 ((first.drop (outer + 1)).take (start - outer)) with
  | some depth =>
    -- the outer reading is the deeper one from the inner label on
    have deep := depthBehind?_nonneg (Int.le_refl 0) before
    rw [split, depthBehind?_append, before, Option.bind_some,
      depthBehind?_deeper (Int.le_refl 0) deep behind]
    rfl
  | none =>
    rw [split, List.append_assoc, lastLine?_append, before] at ends
    obtain ⟨line, late, among, -⟩ := exists_of_lastLine? ends
    have bound := (List.getElem?_eq_some_iff.mp among).1
    rw [List.length_take] at bound
    omega

/-- A body that ends with a label is still read behind lines without code, if the label closes at
most one brace more than it opens. -/
theorem behind_of_label (last : LastCode first edge) (earlier : start < edge) {label : Line}
    (there : first[edge]? = some label) (isLabel : labelStart.fits label.stripped)
    (closes_one : -1 ≤ Text.excess '{' '}' label.code) {others : List Line}
    (ends : lastLine? (start + 1) 0 (first.drop (start + 1) ++ others) = some edge) :
    (depthBehind? 0 (first.drop (start + 1))).isSome := by
  have inside := last.lt_length
  have coded : label.hasCode := by
    obtain ⟨line, found, coded⟩ := last.coded
    rw [there] at found
    exact Option.some.inj found ▸ coded
  -- no line before the label is the end
  have early : ∀ lines, lastLine? (start + 1) 0
      ((first.drop (start + 1)).take (edge - (start + 1))) = some lines → lines ≠ edge := by
    rintro lines found rfl
    obtain ⟨line, late, among, -⟩ := exists_of_lastLine? found
    have bound := (List.getElem?_eq_some_iff.mp among).1
    rw [List.length_take] at bound
    omega
  have split := drop_eq_take_append there earlier
  rw [split, List.append_assoc, List.cons_append, lastLine?_append] at ends
  rw [split, depthBehind?_append]
  cases before : depthBehind? 0 ((first.drop (start + 1)).take (edge - (start + 1))) with
  | none =>
    rw [before] at ends
    exact absurd rfl (early _ ends)
  | some depth =>
    rw [before] at ends
    have deep := depthBehind?_nonneg (Int.le_refl 0) before
    by_cases shallow : depth = 0
    · dsimp only at ends
      rw [shallow, lastLine?_cons_label coded isLabel, Option.none_or] at ends
      exact absurd rfl (early _ ends)
    · have further : stopsAt depth label = false := by
        simp only [stopsAt, shallow, decide_eq_false_iff_not, false_and, false_or]
        omega
      rw [Option.bind_some, depthBehind?, if_pos coded, further, if_neg Bool.false_ne_true,
        depthBehind?_of_codeless last.codeless]
      rfl

/-! ## The label before the directive -/

section Label

variable (last : LastCode first edge) (codeless : middle.hasCode = false)
include last codeless

/-- The next line of code behind the last one before a line without code is behind this line. -/
theorem nextCode?_last :
    (Site.among first (middle :: rest) edge last.lt_length).nextCode? = rest.find? Line.hasCode := by
  have none : (first.drop (edge + 1)).find? Line.hasCode = none :=
    List.find?_eq_none.mpr fun line member => by simp [last.codeless line member]
  rw [Site.nextCode?, Site.among, List.find?_append, none, Option.none_or,
    List.find?_cons_of_neg (by simp [codeless])]

omit codeless in
theorem nextCode?_last_directive (isDirective : directive.IsDirective) :
    (Site.among first (directive :: rest) edge last.lt_length).nextCode? = some directive := by
  have none : (first.drop (edge + 1)).find? Line.hasCode = none :=
    List.find?_eq_none.mpr fun line member => by simp [last.codeless line member]
  rw [Site.nextCode?, Site.among, List.find?_append, none, Option.none_or,
    List.find?_cons_of_pos isDirective.hasCode]

/-- A body is looked for behind the directive where it is looked for without it. Where it is looked
for with the directive only, there is none without it. -/
theorem opensBody_last (isDirective : directive.IsDirective) {label : Line}
    (there : first[edge]? = some label) (alone : LeftAlone rest label) :
    let site := Site.among first (middle :: rest) edge last.lt_length
    let moved := Site.among first (directive :: rest) edge last.lt_length
    (opensBody site → opensBody moved) ∧
      (opensBody moved → opensBody site = false →
        lastLine? (first.length + 1) 0 rest = none) := by
  intro site moved
  have line : site.line = label := (List.getElem?_eq_some_iff.mp there).2
  have lineToo : moved.line = label := line
  unfold opensBody
  rw [line, lineToo]
  cases parts : parts? label.code with
  | none => exact ⟨id, fun opens => nomatch opens⟩
  | some parts =>
    simp only [Option.any_some]
    constructor
    · intro opens
      obtain ⟨unbraced, further⟩ := of_hasBody opens
      by_contra none
      rcases of_hasBody_eq_false (by simpa using none) with braced | ended | ⟨-, next, found, either⟩
      · exact unbraced braced
      · rw [further] at ended
        cases ended
      · rw [nextCode?_last_directive last isDirective] at found
        cases found
        rcases either with starts | braced
        · refine Scan.not_labelStart_of_head?_ne ?_ ?_ starts <;> rw [isDirective.sharp] <;> decide
        · rw [isDirective.sharp] at braced
          exact absurd braced (by decide)
    · intro opens none
      obtain ⟨unbraced, further⟩ := of_hasBody opens
      rcases of_hasBody_eq_false none with braced | ended | ⟨bare, next, found, either⟩
      · exact absurd braced unbraced
      · rw [further] at ended
        cases ended
      · rw [nextCode?_last last codeless] at found
        rcases either with starts | braced
        · exact lastLine?_of_next_label found starts
        · have isBare : isBare label.code := by
            rw [CaseBlock.isBare, parts]
            exact bare
          exact absurd braced (alone.unbraced isBare next found)

/-- What a label before the directive finds: the same as without the directive, or the directive
itself where it finds nothing without it. -/
theorem frameEnd?_last (isDirective : directive.IsDirective)
    (balanced : Text.excess '{' '}' directive.code = 0) {label : Line}
    (there : first[edge]? = some label) (alone : LeftAlone rest label) :
    let site := Site.among first (middle :: rest) edge last.lt_length
    let moved := Site.among first (directive :: rest) edge last.lt_length
    (frameEnd? site = none ∧ frameEnd? moved = none) ∨
      (∃ ending otherEnding, frameEnd? site = some ending ∧ frameEnd? moved = some otherEnding ∧
        EndsBeside first rest middle directive edge ending otherEnding) ∨
      (frameEnd? site = none ∧ frameEnd? moved = some first.length) := by
  intro site moved
  obtain ⟨opens, none⟩ := opensBody_last last codeless isDirective there alone
  have gap := depthBehind?_of_codeless last.codeless 0
  have ends : lastLine? (edge + 1) 0 (first.drop (edge + 1) ++ middle :: rest) =
      lastLine? (first.length + 1) 0 rest := by
    rw [lastLine?_append, gap]
    dsimp only
    rw [length_drop_succ last.lt_length, lastLine?_of_codeless last.codeless, Option.or_none,
      lastLine?_cons_codeless codeless]
  have endsToo : lastLine? (edge + 1) 0 (first.drop (edge + 1) ++ directive :: rest) =
      (lastLine? (first.length + 1) 0 rest).or (some first.length) := by
    rw [lastLine?_append, gap]
    dsimp only
    rw [length_drop_succ last.lt_length, lastLine?_of_codeless last.codeless, Option.or_none,
      lastLine?_directive isDirective (Int.le_refl 0) balanced]
  have here : lastLine? (site.index + 1) 0 site.after = _ := ends
  have hereToo : lastLine? (moved.index + 1) 0 moved.after = _ := endsToo
  rw [frameEnd?_eq, frameEnd?_eq, here, hereToo]
  by_cases opensMoved : opensBody moved
  · rw [if_pos opensMoved]
    cases found : lastLine? (first.length + 1) 0 rest with
    | none => exact .inr (.inr ⟨ite_self _, rfl⟩)
    | some ending =>
      have opensHere : opensBody site := by
        by_contra opensNone
        rw [none opensMoved (by simpa using opensNone)] at found
        cases found
      rw [found] at ends endsToo
      rw [if_pos opensHere]
      exact .inr (.inl ⟨ending, ending, rfl, rfl, ends, endsToo⟩)
  · have opensNone : ¬ opensBody site := fun opensHere => opensMoved (opens opensHere)
    rw [if_neg opensMoved, if_neg opensNone]
    exact .inl ⟨rfl, rfl⟩

end Label

end CaseBlock

namespace Scan

open CaseBlock

variable {first rest : List Line} {middle directive : Line} {index edge start : Nat}
  {frames others : List CaseFrame}

/-- The bodies of two entries end with the same line, or neither ends behind a position. -/
def EndTogether (position : Nat) (frame moved : CaseFrame) : Prop :=
  frame.endLine = moved.endLine ∨ (frame.endLine ≤ position ∧ moved.endLine ≤ position)

/-- Behind the position, equally many bodies end with a line. -/
theorem finished_eq_of_endTogether {position ending : Nat}
    (together : List.Forall₂ (EndTogether position) frames others) (behind : position < ending) :
    finished ending frames = finished ending others := by
  induction together with
  | nil => rfl
  | @cons frame moved frames others ends _ inductionHypothesis =>
    by_cases here : frame.endLine = ending
    · have there : moved.endLine = ending := by
        rcases ends with same | early <;> omega
      rw [finished_cons here, finished_cons there, inductionHypothesis]
    · have apart : moved.endLine ≠ ending := by
        rcases ends with same | early <;> omega
      rw [finished_cons_of_ne here, finished_cons_of_ne apart]

section Finished

variable (last : LastCode first edge) (codeless : middle.hasCode = false)
  (isDirective : directive.IsDirective)
  (balanced : ∀ start < first.length, labelAt (first ++ middle :: rest) start →
    (depthBehind? 0 (first.drop (start + 1))).isSome → Text.excess '{' '}' directive.code = 0)
include last codeless isDirective balanced

/-- Where bodies that end with the last line of code are still read behind all lines, those that end
with it in one file are those that end with the directive in the other. -/
theorem BodiesBeside.finished_of_behind
    (bodies : BodiesBeside first rest middle directive start frames others) (within : start ≤ edge)
    (behind : ∀ outer < start,
      lastLine? (outer + 1) 0 (first.drop (outer + 1) ++ middle :: rest) = some edge →
        (depthBehind? 0 (first.drop (outer + 1))).isSome) :
    finished edge frames = finished first.length others := by
  have inside := last.lt_length
  induction bodies with
  | nil => rfl
  | @cons index outer frame moved frames others order label ends bodies inductionHypothesis =>
    have withinFirst : outer < first.length := by omega
    rcases ends.ends_cases last (by omega) codeless isDirective
        (balanced outer withinFirst label) with
      ⟨none, same, before⟩ | ⟨far, same⟩ | ⟨-, -, here, there⟩
    · have apart : frame.endLine ≠ edge := by
        intro ending
        have further := behind outer order (ending ▸ ends.ends)
        rw [none] at further
        cases further
      rw [finished_cons_of_ne apart, finished_cons_of_ne (by omega)]
    · rw [finished_cons_of_ne (by omega), finished_cons_of_ne (by omega)]
    · rw [finished_cons here, finished_cons there, inductionHypothesis (by omega) fun inner early =>
        behind inner (early.trans order)]

/-- Around a body that is still read behind all lines, the bodies that end with the last line of code
in one file are those that end with the directive in the other. -/
theorem BodiesBeside.finished_under
    (bodies : BodiesBeside first rest middle directive start frames others) (earlier : start < edge)
    (behind : (depthBehind? 0 (first.drop (start + 1))).isSome) :
    finished edge frames = finished first.length others :=
  bodies.finished_of_behind last codeless isDirective balanced earlier.le fun _ order =>
    behind_of_inner last order earlier behind

/-- The bodies that end with the last line of code in one file end in the other with this line or with
the directive. -/
theorem BodiesBeside.finished_split
    (bodies : BodiesBeside first rest middle directive index frames others)
    (within : index ≤ edge + 1) :
    finished edge frames = finished edge others +
      finished first.length (others.drop (finished edge others)) := by
  have inside := last.lt_length
  induction bodies with
  | nil => rfl
  | @cons index outer frame moved frames others order label ends bodies inductionHypothesis =>
    have withinFirst : outer < first.length := by omega
    rcases ends.ends_cases last (by omega) codeless isDirective
        (balanced outer withinFirst label) with
      ⟨-, same, before⟩ | ⟨far, same⟩ | ⟨behind, earlier, here, there⟩
    · by_cases ending : frame.endLine = edge
      · rw [finished_cons ending, finished_cons (same ▸ ending), List.drop_succ_cons,
          inductionHypothesis (by omega)]
        omega
      · rw [finished_cons_of_ne ending, finished_cons_of_ne (by omega), List.drop_zero,
          finished_cons_of_ne (by omega)]
    · rw [finished_cons_of_ne (by omega), finished_cons_of_ne (by omega), List.drop_zero,
        finished_cons_of_ne (by omega)]
    · rw [finished_cons here, finished_cons_of_ne (by omega), List.drop_zero, finished_cons there,
        bodies.finished_under last codeless isDirective balanced earlier behind]
      omega

/-- Around a label that is the last line of code, the bodies that end with the label in one file are
those that end with the directive in the other. -/
theorem BodiesBeside.finished_behind_label
    (bodies : BodiesBeside first rest middle directive edge frames others) {line : Line}
    (there : first[edge]? = some line) (isLabel : labelStart.fits line.stripped)
    (closes_one : -1 ≤ Text.excess '{' '}' line.code) :
    finished edge frames = finished first.length others :=
  bodies.finished_of_behind last codeless isDirective balanced le_rfl fun _ order =>
    behind_of_label last order there isLabel closes_one

/-- Behind the directive the bodies end together, or did so before. -/
theorem BodiesBeside.together
    (bodies : BodiesBeside first rest middle directive index frames others)
    (within : index ≤ edge + 1) : List.Forall₂ (EndTogether first.length) frames others := by
  have inside := last.lt_length
  induction bodies with
  | nil => exact .nil
  | @cons index outer frame moved frames others order label ends bodies inductionHypothesis =>
    have withinFirst : outer < first.length := by omega
    refine .cons ?_ (inductionHypothesis (by omega))
    rcases ends.ends_cases last (by omega) codeless isDirective
        (balanced outer withinFirst label) with
      ⟨-, same, -⟩ | ⟨-, same⟩ | ⟨-, -, here, there⟩
    · exact .inl same
    · exact .inl same
    · exact .inr ⟨by omega, by omega⟩

end Finished

end Scan

end HouseStyle
