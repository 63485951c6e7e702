import HouseStyle.Proofs.Indentation
import HouseStyle.Proofs.Lexing
import HouseStyle.Proofs.Pattern.Room
import HouseStyle.Proofs.Rule.Findings
import HouseStyle.Proofs.Scan.Indented

/-!
Contract: the findings of every rule lie on their line.

Owns: findings inside a line, where words, pieces and comments of a line end, and the places of the
findings of each rule.
Does not own: the findings of the state changes of a scan, which `Proofs.Scan.Spans` treats.

The views of a line keep its columns, so that a place in any of them is one on the line. A finding
about a brace on a later line names a column of that line, and is not followed here.

Main statement: `Rule.inside_of_runPhase`.
-/

namespace HouseStyle

/-! ## Places in a text -/

namespace Text

/-- A word that is found ends within the text. -/
theorem find?_add_length_le {word text : List Char} {position : Nat}
    (found : find? word text = some position) : position + word.length ≤ text.length := by
  induction text generalizing position with
  | nil =>
    rw [find?] at found
    obtain ⟨empty, same⟩ := Option.ite_none_right_eq_some.mp found
    cases same
    rw [List.isEmpty_iff.mp empty]
    exact Nat.le_refl _
  | cons c rest inductionHypothesis =>
    rw [find?] at found
    by_cases here : word.isPrefixOf (c :: rest)
    · rw [if_pos here] at found
      cases found
      rw [Nat.zero_add]
      exact (List.isPrefixOf_iff_prefix.mp here).length_le
    · rw [if_neg here, Option.map_eq_some_iff] at found
      obtain ⟨later, further, rfl⟩ := found
      have bound := inductionHypothesis further
      rw [List.length_cons]
      omega

/-- A word that is found from a position on stands behind it and ends within the text. -/
theorem findFrom?_bounds {c : Char} {word text : List Char} {start position : Nat}
    (found : findFrom? (c :: word) start text = some position) :
    start ≤ position ∧ position + (word.length + 1) ≤ text.length := by
  obtain ⟨offset, further, rfl⟩ := Option.map_eq_some_iff.mp found
  have bound := find?_add_length_le further
  rw [List.length_drop, List.length_cons] at bound
  omega

theorem index_bounds {c : Char} {word text : List Char} {start position : Nat}
    (found : index (c :: word) start text = .ok position) :
    start ≤ position ∧ position + (word.length + 1) ≤ text.length := by
  unfold index at found
  split at found
  next there =>
    cases found
    exact findFrom?_bounds there
  next => cases found

end Text

namespace Excerpt

/-- The pieces of a text that is laid out lie behind its start and within it. -/
theorem bounds_of_mem_layOut {separator : Char} {start : Nat} {texts : List (List Char)}
    {piece : Excerpt} (member : piece ∈ layOut start texts) :
    start ≤ piece.start ∧ piece.stop ≤ start + ([separator].intercalate texts).length := by
  induction texts generalizing start with
  | nil => exact absurd member List.not_mem_nil
  | cons text texts inductionHypothesis =>
    rw [layOut] at member
    rcases List.mem_cons.mp member with rfl | later
    · refine ⟨Nat.le_refl _, ?_⟩
      cases texts with
      | nil => simp [stop]
      | cons other texts =>
        simp [stop, List.intercalate_cons_cons]
    · have bounds := inductionHypothesis later
      cases texts with
      | nil => exact absurd later List.not_mem_nil
      | cons other texts =>
        rw [List.intercalate_cons_cons, List.length_append, List.length_append]
        simp only [List.length_singleton]
        omega

theorem bounds_of_mem_splitOn {excerpt piece : Excerpt} {separator : Char}
    (member : piece ∈ excerpt.splitOn separator) :
    excerpt.start ≤ piece.start ∧ piece.stop ≤ excerpt.stop := by
  have bounds : excerpt.start ≤ piece.start ∧ piece.stop ≤
      excerpt.start + ([separator].intercalate (excerpt.text.splitOn separator)).length :=
    bounds_of_mem_layOut member
  rwa [List.intercalate_splitOn] at bounds

/-- An excerpt without the blanks at its ends lies in it. -/
theorem bounds_trim (excerpt : Excerpt) :
    excerpt.start ≤ excerpt.trim.start ∧ excerpt.trim.stop ≤ excerpt.stop := by
  have shorter := Text.length_trimRight_le (Text.trimLeft excerpt.text)
  have whole := congrArg List.length
    (List.takeWhile_append_dropWhile (p := Text.isBlank) (l := excerpt.text))
  rw [List.length_append] at whole
  refine ⟨Nat.le_add_right _ _, ?_⟩
  simp only [trim, stop, Text.trim]
  unfold Text.trimLeft at shorter ⊢
  omega

end Excerpt

/-! ## Findings inside a line -/

/-- A finding that lies on a line of the given length. -/
structure Finding.InLine (size : Nat) (finding : Finding) : Prop where
  column : 0 ≤ finding.column
  length : 0 ≤ finding.length
  stop : finding.column + finding.length ≤ size

/-- Findings that lie on a line of the given length, but for those about a brace on another line. -/
def Inside (size : Nat) (findings : List Finding) : Prop :=
  ∀ finding ∈ findings, finding.kind ≠ .caseBlockBraces → finding.InLine size

namespace Inside

variable {size larger : Nat} {findings more : List Finding} {finding : Finding}

theorem nil : Inside size [] := by
  intro finding member
  exact absurd member List.not_mem_nil

theorem append (first : Inside size findings) (second : Inside size more) :
    Inside size (findings ++ more) := by
  intro finding member
  rcases List.mem_append.mp member with early | late
  · exact first finding early
  · exact second finding late

theorem singleton (inLine : finding.InLine size) : Inside size [finding] := by
  intro other member _
  rw [List.mem_singleton.mp member]
  exact inLine

theorem map {α : Type} {items : List α} {make : α → Finding}
    (each : ∀ item ∈ items, (make item).InLine size) : Inside size (items.map make) := by
  intro finding member _
  obtain ⟨item, among, rfl⟩ := List.mem_map.mp member
  exact each item among

theorem flatMap {α : Type} {items : List α} {make : α → List Finding}
    (each : ∀ item ∈ items, Inside size (make item)) : Inside size (items.flatMap make) := by
  intro finding member
  obtain ⟨item, among, found⟩ := List.mem_flatMap.mp member
  exact each item among finding found

theorem filterMap {α : Type} {items : List α} {make : α → Option Finding}
    (each : ∀ item ∈ items, ∀ finding, make item = some finding → finding.InLine size) :
    Inside size (items.filterMap make) := by
  intro finding member _
  obtain ⟨item, among, found⟩ := List.mem_filterMap.mp member
  exact each item among finding found

theorem ite {condition : Prop} [Decidable condition] (yes : condition → Inside size findings)
    (no : ¬ condition → Inside size more) : Inside size (if condition then findings else more) := by
  split
  next holds => exact yes holds
  next fails => exact no fails

theorem shift (inside : Inside size findings) {offset : Nat} (fits : offset + size ≤ larger) :
    Inside larger (findings.map fun finding => finding.shift offset) := by
  intro finding member other
  obtain ⟨unmoved, among, rfl⟩ := List.mem_map.mp member
  obtain ⟨column, length, stop⟩ := inside unmoved among other
  refine ⟨?_, length, ?_⟩
  · simp only [Finding.shift]
    omega
  · simp only [Finding.shift]
    omega

end Inside

/-- A finding about an excerpt lies where the excerpt does. -/
theorem Kind.inLine_onWith (kind : Kind) {excerpt : Excerpt} {size : Nat}
    (within : excerpt.stop ≤ size) (arguments : List Argument) :
    (kind.onWith excerpt arguments).InLine size := by
  refine ⟨Int.natCast_nonneg _, Int.natCast_nonneg _, ?_⟩
  simp only [Excerpt.stop, onWith, Excerpt.length] at within ⊢
  omega

theorem Kind.inLine_on (kind : Kind) {excerpt : Excerpt} {size : Nat}
    (within : excerpt.stop ≤ size) : (kind.on excerpt).InLine size :=
  kind.inLine_onWith within []

theorem Kind.inLine_quoting (kind : Kind) {excerpt : Excerpt} {size : Nat}
    (within : excerpt.stop ≤ size) : (kind.quoting excerpt).InLine size :=
  kind.inLine_onWith within _

theorem Finding.inLine_mk (kind : Kind) {column length size : Nat} (within : column + length ≤ size)
    (arguments : List Argument) : (Finding.mk kind column length arguments).InLine size := by
  refine ⟨Int.natCast_nonneg _, Int.natCast_nonneg _, ?_⟩
  simp only
  omega

theorem Kind.inLine_atColumn (kind : Kind) {column size : Nat} (within : column < size) :
    (kind.atColumn column).InLine size :=
  Finding.inLine_mk kind within []

/-! ## Lines and spaces -/

namespace Pattern.Matched

variable {pattern : Pattern} {text : List Char} {found : Match}

/-- The whole of a match lies in its text. -/
theorem whole_le (matched : pattern.Matched text found) : found.whole.stop ≤ text.length :=
  matched.stop_le.2

/-- What lies before the last character of a match that has one lies in the text. -/
theorem stop_sub_one_lt (matched : pattern.Matched text found) (some : 0 < pattern.least) :
    found.stop - 1 < text.length := by
  obtain ⟨least, within⟩ := matched.stop_le
  omega

end Pattern.Matched

namespace Spacing

theorem inside_lineLength {view : View} (positive : 0 ≤ view.settings.limit) :
    Inside view.line.raw.length (lineLength view) := by
  refine Inside.ite (fun long => ?_) (fun _ => Inside.nil)
  refine Inside.singleton ⟨positive, ?_, ?_⟩
  · simp only
    omega
  · simp only
    omega

theorem inside_matchFindings (kind : Kind) (pattern : Pattern) (text : List Char) :
    Inside text.length (matchFindings kind pattern text) := by
  apply Inside.map
  intro found member
  exact kind.inLine_on (Pattern.matched_of_mem_findAll member).whole_le

/-- A comment of a line ends within the line. -/
theorem stop_le_of_mem_comments {before : CommentState} {raw : List Char} {comment : Excerpt}
    (member : comment ∈ (Line.ofRaw before raw).comments) : comment.stop ≤ raw.length := by
  have whole := (Lexing.slice_of_mem_commentsFrom [] member).1
  rwa [List.nil_append, Source.flatMap_raw_segments] at whole

theorem inside_todoComment {view : View} {before : CommentState} {raw : List Char}
    (written : view.line = .ofRaw before raw) : Inside raw.length (todoComment view) := by
  apply Inside.filterMap
  intro comment member finding found
  rw [written] at member
  have early := stop_le_of_mem_comments member
  obtain ⟨marker, first, rfl⟩ := Option.map_eq_some_iff.mp found
  have within := (Pattern.matched_of_search? first).whole_le
  obtain ⟨column, length, stop⟩ := Kind.inLine_on .todoComment within
  refine ⟨?_, length, ?_⟩
  · simp only [Finding.shift]
    omega
  · simp only [Finding.shift]
    unfold Excerpt.stop at early
    omega

theorem lt_of_mem_neighbours {target : Char} {position : Nat} {previous : Option Char}
    {text : List Char} {place : Nat × Option Char × Option Char}
    (member : place ∈ neighbours target position previous text) :
    place.1 < position + text.length := by
  induction text generalizing position previous with
  | nil => exact absurd member List.not_mem_nil
  | cons c rest inductionHypothesis =>
    have further : place ∈ neighbours target (position + 1) (some c) rest →
        place.1 < position + (c :: rest).length := by
      intro later
      have bound := inductionHypothesis later
      rw [List.length_cons]
      omega
    simp only [neighbours] at member
    split at member
    · rcases List.mem_cons.mp member with rfl | later
      · rw [List.length_cons]
        omega
      · exact further later
    · exact further member

theorem inside_isolated (target : Char) (before after : Kind) (text : List Char) :
    Inside text.length (isolated target before after text) := by
  apply Inside.flatMap
  intro place member
  have within := lt_of_mem_neighbours member
  rw [Nat.zero_add] at within
  apply Inside.append
  · exact Inside.ite (fun _ => Inside.singleton (before.inLine_atColumn within)) fun _ => Inside.nil
  · exact Inside.ite (fun _ => Inside.singleton (after.inLine_atColumn within)) fun _ => Inside.nil

theorem inside_ternarySpacing (view : View) :
    Inside view.masked.length (ternarySpacing view) := by
  apply Inside.append
  · exact inside_isolated _ _ _ _
  · exact Inside.ite (fun _ => Inside.nil) fun _ => inside_isolated _ _ _ _

theorem inside_keywordSpaceBeforeParen (view : View) :
    Inside view.masked.length (keywordSpaceBeforeParen view) := by
  apply Inside.filterMap
  intro found member finding made
  obtain ⟨keyword, recorded, rfl⟩ := Option.map_eq_some_iff.mp made
  exact Kind.inLine_on _ ((Pattern.matched_of_mem_findAll member).part_le recorded)

end Spacing

/-! ## Pointers, operators and calls -/

theorem Pointer.inside_pointerFormat (view : View) :
    Inside view.masked.length (pointerFormat view) := by
  apply Inside.append
  · apply Inside.flatMap
    intro pattern _
    exact Spacing.inside_matchFindings .pointerFormat pattern view.masked
  · exact Spacing.inside_matchFindings .pointerCastDetached castApart view.masked

theorem Operator.inside_operatorSpacing (view : View) :
    Inside view.masked.length (operatorSpacing view) := by
  apply Inside.flatMap
  intro operator member
  obtain ⟨found, among, rfl⟩ := List.mem_map.mp (List.mem_filter.mp member).1
  have within := (Pattern.matched_of_mem_findAll among).whole_le
  apply Inside.append
  · exact Inside.ite (fun _ => Inside.singleton (Kind.inLine_quoting _ within)) fun _ => Inside.nil
  · exact Inside.ite (fun _ => Inside.singleton (Kind.inLine_quoting _ within)) fun _ => Inside.nil

namespace Call

theorem inside_insecureFunction (view : View) :
    Inside view.masked.length (insecureFunction view) := by
  apply Inside.filterMap
  intro call member finding made
  obtain ⟨name, recorded, made⟩ := Option.bind_eq_some_iff.mp made
  obtain ⟨advice, -, made⟩ := Option.bind_eq_some_iff.mp made
  cases made
  exact Kind.inLine_onWith _ ((Pattern.matched_of_mem_findAll member).part_le recorded) _

theorem inside_allocCast (view : View) : Inside view.masked.length (allocCast view) := by
  apply Inside.filterMap
  intro call member finding made
  obtain ⟨name, recorded, made⟩ := Option.bind_eq_some_iff.mp made
  obtain ⟨-, made⟩ := Option.ite_none_left_eq_some.mp made
  cases made
  exact Kind.inLine_quoting _ ((Pattern.matched_of_mem_findAll member).part_le recorded)

theorem inside_callSpace (view : View) : Inside view.masked.length (callSpace view) := by
  refine Inside.ite (fun _ => Inside.nil) fun _ => ?_
  apply Inside.filterMap
  intro call member finding made
  obtain ⟨name, recorded, made⟩ := Option.bind_eq_some_iff.mp made
  obtain ⟨-, made⟩ := Option.ite_none_left_eq_some.mp made
  cases made
  exact Kind.inLine_on _ ((Pattern.matched_of_mem_findAll member).part_le recorded)

theorem firstForeign?_lt {position : Nat} {raw code : List Char} {place : Nat × Char}
    (found : firstForeign? position raw code = some place) :
    place.1 < position + raw.length := by
  induction raw generalizing position code with
  | nil => cases found
  | cons c raw inductionHypothesis =>
    cases code with
    | nil => cases found
    | cons d code =>
      rw [firstForeign?] at found
      split at found
      · cases found
        simp
      · have bound := inductionHypothesis found
        rw [List.length_cons]
        omega

theorem inside_nonAscii (view : View) : Inside view.line.raw.length (nonAscii view) := by
  unfold nonAscii
  split
  next found =>
    have within := firstForeign?_lt found
    rw [Nat.zero_add] at within
    exact Inside.singleton (Finding.inLine_mk _ within _)
  next => exact Inside.nil

theorem inside_magicNumber {view : View} {findings : List Finding}
    (answers : magicNumber view = .ok findings) : Inside view.masked.length findings := by
  unfold magicNumber at answers
  split at answers
  · cases answers
    exact Inside.nil
  · obtain ⟨found?, asked, given⟩ := Answer.bind_eq_ok.mp answers
    cases given
    apply Inside.filterMap
    intro finding? among finding same
    obtain ⟨number, member, answered⟩ := Answer.exists_of_mem_mapM asked finding? among
    obtain ⟨value, -, made⟩ := Answer.bind_eq_ok.mp answered
    cases made
    obtain ⟨-, same⟩ := Option.ite_none_right_eq_some.mp same
    cases same
    exact Kind.inLine_quoting _ (Pattern.matched_of_mem_findAll member).whole_le

end Call

/-! ## Names of functions and parameters -/

/-- A name that one of the patterns records in a text. -/
def Excerpt.NamedBy (patterns : List Pattern) (text : List Char) (name : Excerpt) : Prop :=
  ∃ pattern ∈ patterns, ∃ found, pattern.Matched text found ∧ found.part? .name = some name

namespace Excerpt.NamedBy

variable {pattern : Pattern} {patterns : List Pattern} {text : List Char} {name : Excerpt}

theorem of_matchStart? (recorded : (pattern.matchStart? text).bind (fun found => found.part? .name) =
    some name) : name.NamedBy [pattern] text := by
  obtain ⟨found, fits, recorded⟩ := Option.bind_eq_some_iff.mp recorded
  exact ⟨pattern, List.mem_cons_self, found, Pattern.matched_of_matchStart? fits, recorded⟩

theorem stop_le (named : name.NamedBy patterns text) : name.stop ≤ text.length := by
  obtain ⟨pattern, -, found, matched, recorded⟩ := named
  exact matched.part_le recorded

end Excerpt.NamedBy

namespace Parameter

theorem exists_of_name? {parameter name : Excerpt} (declared : name? parameter = some name) :
    ∃ inner : Excerpt, inner.NamedBy [nameAtEnd] parameter.text ∧
      name = ⟨parameter.start + inner.start, inner.text⟩ := by
  obtain ⟨found, first, declared⟩ := Option.bind_eq_some_iff.mp declared
  obtain ⟨inner, recorded, declared⟩ := Option.bind_eq_some_iff.mp declared
  obtain ⟨-, declared⟩ := Option.ite_none_left_eq_some.mp declared
  cases declared
  exact ⟨inner, ⟨nameAtEnd, List.mem_cons_self, found, Pattern.matched_of_search? first, recorded⟩,
    rfl⟩

theorem inside_findings (text : List Char) : Inside text.length (findings text) := by
  apply Inside.filterMap
  intro piece member finding made
  have bounds := Excerpt.bounds_of_mem_splitOn member
  have trimmed := piece.bounds_trim
  unfold finding? at made
  split at made
  · obtain ⟨name, named, made⟩ := Option.bind_eq_some_iff.mp made
    obtain ⟨-, made⟩ := Option.ite_none_left_eq_some.mp made
    cases made
    obtain ⟨inner, recorded, rfl⟩ := exists_of_name? named
    have within := recorded.stop_le
    apply Kind.inLine_quoting
    simp only [Excerpt.stop] at bounds trimmed within ⊢
    omega
  · cases made

/-- The findings about parameters between two bounds lie on the line, wherever the second is. -/
theorem inside_findingsBetween {code : List Char} {start : Nat} (within : start ≤ code.length)
    (stop : Int) : Inside code.length (findingsBetween code start stop) := by
  apply (inside_findings _).shift
  simp only [Text.sliceBounds, Text.slice, List.length_drop, List.length_take, Text.boundPosition]
  split <;> split <;> omega

end Parameter

namespace Function

theorem inside_nameFindings {name : Excerpt} {gap : List Char} {size : Nat}
    (within : name.stop + gap.length ≤ size) : Inside size (nameFindings name gap) := by
  apply Inside.append
  · refine Inside.ite (fun _ => Inside.nil) fun _ => Inside.singleton ?_
    exact Finding.inLine_mk _ within _
  · refine Inside.ite (fun _ => Inside.nil) fun _ => Inside.singleton ?_
    exact Kind.inLine_quoting _ (by omega)

/-- A name and the gap behind it are recorded, and the gap starts where the name stops. -/
def GapBehindName (stop : Cursor) : Prop :=
  ∃ name gap, stop.captures.lookup .name = some name ∧ stop.captures.lookup .gap = some gap ∧
    name.start ≤ name.stop ∧ name.stop = gap.start

theorem gapBehindName_of_headPattern {start stop : Cursor}
    (member : stop ∈ Pattern.outcomes headPattern start) : GapBehindName stop := by
  simp only [headPattern, Pattern.mem_outcomes_append, Pattern.mem_outcomes_capture,
    Pattern.mem_outcomes_char] at member
  obtain ⟨_, ⟨_, ⟨first, -, second, named, rfl⟩, third, gapReached, rfl⟩, rest, -, rfl⟩ := member
  have ordered := Pattern.position_add_least_le named
  have kept : third.captures.lookup .name = some ⟨first.position, second.position⟩ :=
    Pattern.lookup_of_mem_outcomes rfl gapReached
  exact ⟨⟨first.position, second.position⟩, ⟨second.position, third.position⟩, kept, rfl,
    by simp only; omega, rfl⟩

theorem GapBehindName.keep {pattern : Pattern} {start stop : Cursor} (held : GapBehindName start)
    (member : stop ∈ Pattern.outcomes pattern start) (noName : pattern.room .name = none)
    (noGap : pattern.room .gap = none) : GapBehindName stop := by
  obtain ⟨name, gap, named, gapped, rest⟩ := held
  exact ⟨name, gap, (Pattern.lookup_of_mem_outcomes noName member).trans named,
    (Pattern.lookup_of_mem_outcomes noGap member).trans gapped, rest⟩

theorem gapBehindName_of_prototypePattern {start stop : Cursor}
    (member : stop ∈ Pattern.outcomes prototypePattern start) : GapBehindName stop := by
  simp only [prototypePattern, Pattern.mem_outcomes_append] at member
  obtain ⟨_, ⟨_, ⟨_, ⟨_, ⟨_, ⟨_, head, parameters⟩, closer⟩, blanks⟩, ending⟩, blanksToo⟩, atEnd⟩ :=
    member
  have recorded := (gapBehindName_of_headPattern head).keep parameters rfl rfl
  have ended := ((recorded.keep closer rfl rfl).keep blanks rfl rfl).keep ending rfl rfl
  exact (ended.keep blanksToo rfl rfl).keep atEnd rfl rfl

/-- The name of a function and the gap behind it end on the line. -/
theorem stop_add_length_le {pattern : Pattern} {code : List Char} {found : Match}
    {name gap : Excerpt} (fits : pattern.matchStart? code = some found)
    (behind : ∀ start stop, stop ∈ Pattern.outcomes pattern start → GapBehindName stop)
    (named : found.part? .name = some name) (gapped : found.part? .gap = some gap) :
    name.stop + gap.length ≤ code.length := by
  have within := (Pattern.matched_of_matchStart? fits).part_le gapped
  obtain ⟨stop, reached, rfl⟩ := Pattern.exists_of_matchAt? fits
  obtain ⟨nameSpan, gapSpan, looked, lookedToo, ordered, adjacent⟩ := behind _ _ reached
  rw [Cursor.part?_matched, looked] at named
  rw [Cursor.part?_matched, lookedToo] at gapped
  cases named
  cases gapped
  have early : ((Cursor.atStart code).excerpt nameSpan).stop ≤ nameSpan.stop := by
    simp only [Cursor.excerpt, Excerpt.stop, List.length_take]
    omega
  have start : ((Cursor.atStart code).excerpt gapSpan).start = gapSpan.start := rfl
  have length : ((Cursor.atStart code).excerpt gapSpan).stop =
      ((Cursor.atStart code).excerpt gapSpan).start +
        ((Cursor.atStart code).excerpt gapSpan).length := rfl
  omega

theorem exists_of_head? {code : List Char} {head : Head} (found : head? code = some head) :
    ∃ matched, headPattern.matchStart? code = some matched ∧
      matched.part? .name = some head.name ∧ matched.part? .gap = some head.gap ∧
        head.stop = matched.stop := by
  obtain ⟨matched, fits, found⟩ := Option.bind_eq_some_iff.mp found
  obtain ⟨returnType, -, found⟩ := Option.bind_eq_some_iff.mp found
  obtain ⟨name, named, found⟩ := Option.bind_eq_some_iff.mp found
  obtain ⟨gap, gapped, found⟩ := Option.bind_eq_some_iff.mp found
  obtain ⟨-, found⟩ := Option.ite_none_right_eq_some.mp found
  cases found
  exact ⟨matched, fits, named, gapped, rfl⟩

theorem exists_of_prototype? {code : List Char} {prototype : Prototype}
    (found : prototype? code = some prototype) :
    ∃ matched, prototypePattern.matchStart? code = some matched ∧
      matched.part? .name = some prototype.name ∧ matched.part? .gap = some prototype.gap ∧
        matched.part? .parameters = some prototype.parameters ∧
          prototype.ending = matched.part? .ending := by
  obtain ⟨matched, fits, found⟩ := Option.bind_eq_some_iff.mp found
  obtain ⟨returnType, -, found⟩ := Option.bind_eq_some_iff.mp found
  obtain ⟨name, named, found⟩ := Option.bind_eq_some_iff.mp found
  obtain ⟨gap, gapped, found⟩ := Option.bind_eq_some_iff.mp found
  obtain ⟨parameters, listed, found⟩ := Option.bind_eq_some_iff.mp found
  obtain ⟨-, found⟩ := Option.ite_none_right_eq_some.mp found
  cases found
  exact ⟨matched, fits, named, gapped, listed, rfl⟩

theorem bounds_of_head? {code : List Char} {head : Head} (found : head? code = some head) :
    head.name.stop + head.gap.length ≤ code.length ∧ head.stop ≤ code.length := by
  obtain ⟨matched, fits, named, gapped, stop⟩ := exists_of_head? found
  rw [stop]
  exact ⟨stop_add_length_le fits (fun _ _ => gapBehindName_of_headPattern) named gapped,
    (Pattern.matched_of_matchStart? fits).whole_le⟩

theorem bounds_of_prototype? {code : List Char} {prototype : Prototype}
    (found : prototype? code = some prototype) :
    prototype.name.stop + prototype.gap.length ≤ code.length ∧
      prototype.parameters.stop ≤ code.length ∧
      ∀ ending, prototype.ending = some ending → ending.stop ≤ code.length := by
  obtain ⟨matched, fits, named, gapped, listed, ends⟩ := exists_of_prototype? found
  rw [ends]
  exact ⟨stop_add_length_le fits (fun _ _ => gapBehindName_of_prototypePattern) named gapped,
    (Pattern.matched_of_matchStart? fits).part_le listed,
    fun ending ended => (Pattern.matched_of_matchStart? fits).part_le ended⟩

/-- The findings about a name and the text up to its parenthesis lie on the line. -/
theorem inside_nameFindings_slice {code : List Char} {name : Excerpt} {paren : Nat}
    (found : Text.index ['('] name.stop code = .ok paren) :
    Inside code.length (nameFindings name (Text.slice code name.stop paren)) := by
  have bounds := Text.index_bounds found
  apply inside_nameFindings
  simp only [Text.slice, List.length_drop, List.length_take]
  omega

end Function

namespace FunctionHead

theorem inside_prototypeFindings {code : List Char} {prototype : Function.Prototype}
    (found : Function.prototype? code = some prototype) :
    Inside code.length (prototypeFindings code prototype) := by
  obtain ⟨name, parameters, ending⟩ := Function.bounds_of_prototype? found
  refine Inside.append (Inside.append ?_ ?_) ?_
  · exact Function.inside_nameFindings name
  · exact Parameter.inside_findingsBetween
      (Nat.le_trans (Nat.le_add_right _ _) parameters) _
  · split
    next excerpt ended =>
      refine Inside.ite (fun _ => Inside.singleton ?_) fun _ => Inside.nil
      exact Kind.inLine_on _ (ending excerpt ended)
    next => exact Inside.nil

theorem inside_splitFindings {view : View} {name : Excerpt} {findings : List Finding}
    (answers : splitFindings view name = .ok findings) : Inside view.code.length findings := by
  obtain ⟨paren, found, given⟩ := Answer.bind_eq_ok.mp answers
  cases given
  have bounds := Text.index_bounds found
  refine Inside.append (Inside.append (Function.inside_nameFindings_slice found) ?_) ?_
  · split
    next close _ =>
      refine Inside.ite (fun _ => ?_) fun _ => Inside.nil
      have inside : Inside view.code.length
          (Parameter.findingsBetween view.code ((paren + 1 : Nat) : Int) close) :=
        Parameter.inside_findingsBetween bounds.2 _
      exact inside
    next => exact Inside.nil
  · refine Inside.ite (fun _ => ?_) fun _ => Inside.nil
    split
    next brace here => exact Inside.singleton (Kind.inLine_atColumn _ (Text.findLast?_lt here))
    next => exact Inside.nil

theorem inside_functionDeclaration {view : View} {findings : List Finding}
    (answers : functionDeclaration view = .ok findings) : Inside view.code.length findings := by
  unfold functionDeclaration at answers
  split at answers
  next prototype found =>
    cases answers
    exact inside_prototypeFindings found
  next =>
    split at answers
    · split at answers
      · exact inside_splitFindings answers
      · cases answers
        exact Inside.nil
    · cases answers
      exact Inside.nil

/-- Behind the spaces and tabs that a line starts with there is room for its code. -/
theorem leadingLength_add_length_stripped_le (before : CommentState) (raw : List Char) :
    Source.leadingLength raw + (Line.ofRaw before raw).stripped.length ≤ raw.length := by
  have indents := Line.indents_ofRaw before raw
  obtain ⟨indentation, all, split⟩ := indents.code
  have length := congrArg List.length split
  have whole := congrArg List.length (Source.takeWhile_append_flush raw)
  rw [List.length_append, Line.length_code_ofRaw, Line.length_code_ofRaw] at length
  rw [List.length_append] at whole
  have shorter := Text.length_trim_le (Line.ofRaw before (Source.flush raw)).code
  rw [Line.length_code_ofRaw] at shorter
  have same : (Line.ofRaw before raw).stripped =
      Text.trim (Line.ofRaw before (Source.flush raw)).code := by
    rw [Line.stripped, split, Text.trim_indented all]
  rw [same, Source.leadingLength]
  omega

theorem inside_returnTypeLine {view : View} {before : CommentState} {raw : List Char}
    (written : view.line = .ofRaw before raw) : Inside raw.length (returnTypeLine view) := by
  refine Inside.ite (fun _ => Inside.singleton ?_) fun _ => Inside.nil
  have within := leadingLength_add_length_stripped_le before raw
  have same : view.stripped = (Line.ofRaw before raw).stripped := by rw [View.stripped, written]
  rw [same, written, Line.raw_ofRaw]
  exact Finding.inLine_mk _ within _

end FunctionHead

/-! ## Braces -/

namespace Brace

theorem inside_krElse {view : View} {findings : List Finding}
    (answers : krElse view = .ok findings) : Inside view.code.length findings := by
  unfold krElse at answers
  split at answers
  · cases answers
    exact Inside.nil
  · split at answers
    · obtain ⟨column, found, given⟩ := Answer.bind_eq_ok.mp answers
      cases given
      have bounds := Text.index_bounds found
      exact Inside.singleton (Finding.inLine_mk _ bounds.2 _)
    · cases answers
      exact Inside.nil

theorem inside_krAttachedFindings (view : View) :
    Inside view.code.length (krAttachedFindings view) := by
  refine Inside.ite (fun _ => Inside.map ?_) fun _ => Inside.nil
  intro found member
  exact Kind.inLine_atColumn _
    ((Pattern.matched_of_mem_findAll member).stop_sub_one_lt (by decide))

theorem inside_krApartFindings {view : View} {findings : List Finding}
    (answers : krApartFindings view = .ok findings) : Inside view.code.length findings := by
  unfold krApartFindings at answers
  split at answers
  · cases answers
    exact Inside.nil
  · split at answers
    · split at answers
      · cases answers
        exact Inside.nil
      · split at answers
        · obtain ⟨column, found, given⟩ := Answer.bind_eq_ok.mp answers
          cases given
          have bounds := Text.index_bounds found
          exact Inside.singleton (Finding.inLine_mk _ bounds.2 _)
        · cases answers
          exact Inside.nil
    · cases answers
      exact Inside.nil

theorem inside_krBrace {view : View} {findings : List Finding}
    (answers : krBrace view = .ok findings) : Inside view.code.length findings := by
  unfold krBrace at answers
  split at answers
  · cases answers
    exact Inside.nil
  · obtain ⟨apart, found, given⟩ := Answer.bind_eq_ok.mp answers
    cases given
    exact (inside_krAttachedFindings view).append (inside_krApartFindings found)

theorem inside_allmanBrace (view : View) : Inside view.code.length (allmanBrace view) := by
  refine Inside.ite (fun _ => Inside.nil) fun _ => ?_
  split
  next keyword brace _ here =>
    exact Inside.singleton (Finding.inLine_mk _ (Text.findLast?_lt here) _)
  next => exact Inside.nil

theorem inside_closingBraceOwnLine {view : View} {findings : List Finding}
    (answers : closingBraceOwnLine view = .ok findings) : Inside view.code.length findings := by
  unfold closingBraceOwnLine at answers
  simp only at answers
  split at answers
  · cases answers
    exact Inside.nil
  · obtain ⟨column, found, given⟩ := Answer.bind_eq_ok.mp answers
    cases given
    exact Inside.singleton (Kind.inLine_atColumn _ (Text.index_bounds found).2)

end Brace

/-! ## Variables, members and aliases -/

namespace Variable

theorem inside_uninitializedDeclaration (view : View) :
    Inside view.code.length (uninitializedDeclaration view) := by
  refine Inside.ite (fun _ => Inside.nil) fun _ => ?_
  split
  next name found =>
    exact Inside.singleton (Kind.inLine_quoting _ (Excerpt.NamedBy.of_matchStart? found).stop_le)
  next => exact Inside.nil

theorem namedBy_of_declaredName? {code : List Char} {name : Excerpt}
    (found : declaredName? code = some name) : name.NamedBy [single] code := by
  obtain ⟨matched, fits, found⟩ := Option.bind_eq_some_iff.mp found
  obtain ⟨before, -, found⟩ := Option.bind_eq_some_iff.mp found
  obtain ⟨recordedName, recorded, found⟩ := Option.bind_eq_some_iff.mp found
  obtain ⟨-, found⟩ := Option.ite_none_left_eq_some.mp found
  cases found
  exact .of_matchStart? (Option.bind_eq_some_iff.mpr ⟨matched, fits, recorded⟩)

theorem inside_variableNaming (view : View) : Inside view.code.length (variableNaming view) := by
  refine Inside.ite (fun _ => Inside.nil) fun _ => ?_
  split
  · exact Inside.nil
  next name found =>
    have within := (namedBy_of_declaredName? found).stop_le
    refine Inside.ite (fun _ => Inside.singleton (Kind.inLine_quoting _ within)) fun _ => ?_
    exact Inside.ite (fun _ => Inside.nil) fun _ => Inside.singleton (Kind.inLine_quoting _ within)

theorem inside_multipleDeclarations (view : View) :
    Inside view.code.length (multipleDeclarations view) := by
  refine Inside.ite (fun _ => Inside.nil) fun _ => ?_
  split
  · exact Inside.nil
  next found fits =>
    refine Inside.ite (fun _ => Inside.nil) fun _ => Inside.singleton ?_
    exact Kind.inLine_atColumn _
      ((Pattern.matched_of_matchStart? fits).stop_sub_one_lt (by decide))

/-- A line that gives a name to a type is read by one of two patterns. -/
theorem namedBy_of_aliasName? {code : List Char} {kind : Kind} {name : Excerpt}
    (found : aliasName? code = some (kind, name)) :
    kind ∈ [.typedefFuncPtrName, .typedefAliasName] ∧
      name.NamedBy [functionAlias, plainAlias] code := by
  unfold aliasName? at found
  split at found
  next matched fits =>
    obtain ⟨recordedName, recorded, same⟩ := Option.map_eq_some_iff.mp found
    cases same
    exact ⟨List.mem_cons_self, functionAlias, List.mem_cons_self, matched,
      Pattern.matched_of_matchStart? fits, recorded⟩
  next =>
    obtain ⟨matched, fits, found⟩ := Option.bind_eq_some_iff.mp found
    obtain ⟨recordedName, recorded, same⟩ := Option.bind_eq_some_iff.mp found
    cases same
    exact ⟨List.mem_cons_of_mem _ List.mem_cons_self, plainAlias,
      List.mem_cons_of_mem _ List.mem_cons_self, matched, Pattern.matched_of_matchStart? fits,
      recorded⟩

theorem inside_typedefNames (view : View) : Inside view.code.length (typedefNames view) := by
  refine Inside.ite (fun _ => Inside.nil) fun _ => ?_
  split
  · exact Inside.nil
  next kind name found =>
    refine Inside.ite (fun _ => Inside.nil) fun _ => Inside.singleton ?_
    exact Kind.inLine_quoting _ (namedBy_of_aliasName? found).2.stop_le

end Variable

namespace Member

theorem namedBy_of_elementName? {code : List Char} {name : Excerpt}
    (found : elementName? code = some name) : name.NamedBy [element] code :=
  .of_matchStart? found

theorem namedBy_of_fieldName? {code : List Char} {name : Excerpt}
    (found : fieldName? code = some name) : name.NamedBy [field, functionPointer] code := by
  obtain ⟨matched, found, recorded⟩ := Option.bind_eq_some_iff.mp found
  rcases Option.or_eq_some_iff.mp found with fits | ⟨-, first⟩
  · exact ⟨field, List.mem_cons_self, matched, Pattern.matched_of_matchStart? fits, recorded⟩
  · exact ⟨functionPointer, List.mem_cons_of_mem _ List.mem_cons_self, matched,
      Pattern.matched_of_search? first, recorded⟩

/-- Behind the name of a field there is at least one more character, as a semicolon or a
parenthesis. -/
theorem stop_lt_of_fieldName? {code : List Char} {name : Excerpt}
    (found : fieldName? code = some name) : name.stop < code.length := by
  obtain ⟨pattern, among, found, matched, recorded⟩ := namedBy_of_fieldName? found
  have behind : ∀ pattern ∈ [field, functionPointer], pattern.room .name = some ⟨1, 1⟩ := by decide
  obtain ⟨room, known, -, within⟩ := matched.room recorded
  obtain rfl : room = ⟨1, 1⟩ := Option.some.inj (known.symm.trans (behind pattern among))
  exact within

theorem inside_findings (kind : TypeKind) (code : List Char) :
    Inside code.length (findings kind code) := by
  unfold findings
  split
  · split
    next name found =>
      refine Inside.ite (fun _ => Inside.nil) fun _ => Inside.singleton ?_
      exact Kind.inLine_quoting _ (namedBy_of_elementName? found).stop_le
    next => exact Inside.nil
  · split
    next name found =>
      refine Inside.ite (fun _ => Inside.nil) fun _ => Inside.singleton ?_
      exact Kind.inLine_onWith _ (Nat.le_of_lt (stop_lt_of_fieldName? found)) _
    next => exact Inside.nil

theorem inside_typeMembers (view : View) : Inside view.code.length (typeMembers view) := by
  unfold typeMembers
  split
  · exact Inside.nil
  · exact Inside.ite (fun _ => Inside.nil) fun _ => inside_findings _ _

end Member

/-! ## Definitions -/

namespace Definition

theorem inside_parameterFindings {list : Excerpt} {size : Nat} (within : list.stop ≤ size) :
    Inside size (parameterFindings list) := by
  apply Inside.filterMap
  intro parameter member finding made
  obtain ⟨-, made⟩ := Option.ite_none_left_eq_some.mp made
  cases made
  obtain ⟨piece, among, rfl⟩ := List.mem_map.mp (List.mem_filter.mp member).1
  have bounds := Excerpt.bounds_of_mem_splitOn among
  have trimmed := piece.bounds_trim
  exact Kind.inLine_quoting _ (by omega)

theorem inside_bodyFindings {code : List Char} {rest : Excerpt} {findings : List Finding}
    (answers : bodyFindings code rest = .ok findings) : Inside code.length findings := by
  unfold bodyFindings at answers
  simp only at answers
  split at answers
  · cases answers
    exact Inside.nil
  next written =>
    obtain ⟨position, found, given⟩ := Answer.bind_eq_ok.mp answers
    cases given
    cases body : Text.trim rest.text with
    | nil => simp [body] at written
    | cons c others =>
      rw [body] at found
      exact Inside.singleton (Finding.inLine_mk _ (Text.index_bounds found).2 _)

theorem inside_identifierFindings (name list : Excerpt) {rest : Excerpt} {size : Nat}
    (within : rest.stop ≤ size) : Inside size (identifierFindings name list rest) := by
  apply Inside.filterMap
  intro identifier member finding made
  obtain ⟨-, made⟩ := Option.ite_none_left_eq_some.mp made
  cases made
  obtain ⟨found, among, rfl⟩ := List.mem_map.mp member
  have inner := (Pattern.matched_of_mem_findAll among).whole_le
  obtain ⟨column, length, stop⟩ := Kind.inLine_quoting .macroBodyIdentNotSnake inner
  refine ⟨?_, length, ?_⟩
  · simp only [Finding.shift]
    omega
  · simp only [Finding.shift]
    unfold Excerpt.stop at within
    omega

theorem inside_bodyAndParameterFindings {code : List Char} {name list rest : Excerpt}
    {findings : List Finding} (listed : list.stop < code.length) (within : rest.stop ≤ code.length)
    (answers : bodyAndParameterFindings code name list rest = .ok findings) :
    Inside code.length findings := by
  obtain ⟨enclosing, found, given⟩ := Answer.bind_eq_ok.mp answers
  cases given
  refine Inside.append (Inside.append (Inside.append ?_ ?_) (inside_bodyFindings found)) ?_
  · exact inside_parameterFindings (Nat.le_of_lt listed)
  · exact Inside.ite (fun _ => Inside.singleton (Kind.inLine_atColumn _ listed)) fun _ => Inside.nil
  · exact inside_identifierFindings name list within

theorem inside_definitionLine {view : View} {findings : List Finding}
    (answers : definitionLine view = .ok findings) : Inside view.code.length findings := by
  simp only [definitionLine] at answers
  split at answers
  next name found =>
    have named : Inside view.code.length
        (if Naming.isScreaming name.text then [] else [Kind.macroNameNotScreaming.quoting name]) :=
      Inside.ite (fun _ => Inside.nil) fun _ => Inside.singleton
        (Kind.inLine_quoting _ (Excerpt.NamedBy.of_matchStart? found).stop_le)
    split at answers
    next whole fitsWhole =>
      split at answers
      next list listed =>
        split at answers
        next rest recordedRest =>
          obtain ⟨others, found, given⟩ := Answer.bind_eq_ok.mp answers
          cases given
          obtain ⟨room, known, -, within⟩ :=
            (Pattern.matched_of_matchStart? fitsWhole).room listed
          have behind : room = ⟨0, 1⟩ := Option.some.inj (known.symm.trans (by decide))
          subst behind
          exact named.append (inside_bodyAndParameterFindings within
            ((Pattern.matched_of_matchStart? fitsWhole).part_le recordedRest) found)
        next =>
          cases answers
          exact named
      next =>
        cases answers
        exact named
    next =>
      cases answers
      exact named
  next =>
    cases answers
    exact Inside.nil

end Definition

/-! ## All rules of a phase -/

namespace Rule

/-- The findings of the rule lie on the line. -/
def KeepsInside (view : View) (rule : Rule) : Prop :=
  ∀ findings, rule.check view = .ok findings → Inside view.line.raw.length findings

theorem keepsInside {view : View} {before : CommentState} {raw : List Char}
    (written : view.line = .ofRaw before raw) (positive : 0 ≤ view.settings.limit) :
    ∀ rule ∈ all, rule.KeepsInside view := by
  have length : view.line.raw.length = raw.length := by rw [written, Line.raw_ofRaw]
  have masked : view.masked.length = raw.length := by
    rw [View.masked, written, Line.length_masked_ofRaw]
  have code : view.code.length = raw.length := by rw [View.code, written, Line.length_code_ofRaw]
  have total : ∀ {name phase kinds} {check : View → List Finding},
      Inside raw.length (check view) → (total name phase kinds check).KeepsInside view := by
    intro name phase kinds check inside findings answers
    cases answers
    rwa [length]
  have fallible : ∀ {name phase kinds} {check : View → Except Fault (List Finding)},
      (∀ findings, check view = .ok findings → Inside raw.length findings) →
      KeepsInside view ⟨name, phase, kinds, check⟩ := by
    intro name phase kinds check inside findings answers
    rw [length]
    exact inside findings answers
  simp only [all, rawRules, contentRules, statementRules, List.cons_append, List.nil_append,
    List.forall_mem_cons]
  refine ⟨?_, ?_, ?_, ?_, ?_, ?_, ?_, ?_, ?_, ?_, ?_, ?_, ?_, ?_, ?_, ?_, ?_, ?_, ?_, ?_, ?_, ?_, ?_,
    ?_, ?_, ?_, ?_, ?_, ?_, ?_⟩
  · exact total (length ▸ Spacing.inside_lineLength positive)
  · exact total (length ▸ Spacing.inside_matchFindings _ _ _)
  · exact total (Spacing.inside_todoComment written)
  · exact total (masked ▸ Spacing.inside_matchFindings _ _ _)
  · exact total (masked ▸ Spacing.inside_matchFindings _ _ _)
  · exact total (masked ▸ Spacing.inside_matchFindings _ _ _)
  · exact total (masked ▸ Spacing.inside_matchFindings _ _ _)
  · exact total (masked ▸ Spacing.inside_matchFindings _ _ _)
  · exact total (masked ▸ Pointer.inside_pointerFormat view)
  · exact total (masked ▸ Operator.inside_operatorSpacing view)
  · exact total (masked ▸ Spacing.inside_ternarySpacing view)
  · exact total (masked ▸ Spacing.inside_keywordSpaceBeforeParen view)
  · exact fallible fun _ answers => masked ▸ Call.inside_magicNumber answers
  · exact total (masked ▸ Call.inside_insecureFunction view)
  · exact total (masked ▸ Call.inside_allocCast view)
  · exact total (masked ▸ Call.inside_callSpace view)
  · exact total (length ▸ Call.inside_nonAscii view)
  · exact fallible fun _ answers => code ▸ Definition.inside_definitionLine answers
  · exact fallible fun _ answers => code ▸ FunctionHead.inside_functionDeclaration answers
  · exact total (FunctionHead.inside_returnTypeLine written)
  · exact fallible fun _ answers => code ▸ Brace.inside_krElse answers
  · exact fallible fun _ answers => code ▸ Brace.inside_krBrace answers
  · exact total (code ▸ Brace.inside_allmanBrace view)
  · exact fallible fun _ answers => code ▸ Brace.inside_closingBraceOwnLine answers
  · exact total (code ▸ Variable.inside_uninitializedDeclaration view)
  · exact total (code ▸ Variable.inside_variableNaming view)
  · exact total (code ▸ Variable.inside_multipleDeclarations view)
  · exact total (code ▸ Variable.inside_typedefNames view)
  · exact total (code ▸ Member.inside_typeMembers view)
  · intro rule member
    exact absurd member List.not_mem_nil

/-- The findings of the rules of a phase lie on the line. -/
theorem inside_of_runPhase {phase : Phase} {view : View} {findings : List Finding}
    {before : CommentState} {raw : List Char} (written : view.line = .ofRaw before raw)
    (positive : 0 ≤ view.settings.limit) (answers : runPhase phase view = .ok findings) :
    Inside raw.length findings := by
  intro finding member
  obtain ⟨lists, asked, passes⟩ := Answer.bind_eq_ok.mp answers
  cases passes
  obtain ⟨found, among, here⟩ := List.mem_flatten.mp member
  obtain ⟨rule, inPhase, answered⟩ := Answer.exists_of_mem_mapM asked found among
  have inside := keepsInside written positive rule (mem_all_of_mem_ofPhase inPhase) found answered
  rw [written, Line.raw_ofRaw] at inside
  exact inside finding here

end Rule

end HouseStyle
