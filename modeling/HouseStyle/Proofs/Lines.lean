import HouseStyle.Source.Line
import HouseStyle.Source.Lines

/-!
Contract: a list of lines, each of which starts in the comment state that the lines before it leave.

Owns: the comment state after some lines, the lines of a list by position, the characters of their
code, and the lines of a text that is put together of lines.
Does not own: the segments of a single line.
-/

namespace HouseStyle

/-- The comment state after lines, the first of which starts in the given state. -/
def Source.stateAfter (state : CommentState) (raws : List (List Char)) : CommentState :=
  raws.foldl (fun state raw => (Source.segments state raw).2) state

/-- A text is split into the lines that it is put together of, each with a line end behind it. -/
theorem Source.splitLines_intercalate {raws : List (List Char)}
    (each : ∀ raw ∈ raws, '\n' ∉ raw ∧ dropReturn raw = raw) :
    splitLines (['\n'].intercalate (raws ++ [[]])) = raws := by
  have pieces : (['\n'].intercalate (raws ++ [[]])).splitOn '\n' = raws ++ [[]] := by
    apply List.splitOn_intercalate
    · intro raw member
      rcases List.mem_append.mp member with written | last
      · exact (each raw written).1
      · rw [List.mem_singleton.mp last]
        exact List.not_mem_nil
    · exact List.concat_ne_nil _ _
  have kept : raws.map dropReturn = raws.map id :=
    List.map_congr_left fun raw member => (each raw member).2
  rw [splitLines, pieces, List.getLast?_concat, if_pos rfl, List.dropLast_concat, kept, List.map_id]

namespace Line

@[simp] theorem before_ofRaw (before : CommentState) (raw : List Char) :
    (ofRaw before raw).before = before :=
  rfl

@[simp] theorem length_ofRawsFrom (state : CommentState) (raws : List (List Char)) :
    (ofRawsFrom state raws).length = raws.length := by
  induction raws generalizing state with
  | nil => rfl
  | cons raw raws inductionHypothesis => simp only [ofRawsFrom, List.length_cons, inductionHypothesis]

theorem map_raw_ofRawsFrom (state : CommentState) (raws : List (List Char)) :
    (ofRawsFrom state raws).map Line.raw = raws := by
  induction raws generalizing state with
  | nil => rfl
  | cons raw raws inductionHypothesis =>
    simp only [ofRawsFrom, List.map_cons, raw_ofRaw, inductionHypothesis]

theorem ofRawsFrom_append (state : CommentState) (first second : List (List Char)) :
    ofRawsFrom state (first ++ second) =
      ofRawsFrom state first ++ ofRawsFrom (Source.stateAfter state first) second := by
  induction first generalizing state with
  | nil => rfl
  | cons raw first inductionHypothesis =>
    simp only [List.cons_append, ofRawsFrom, inductionHypothesis]
    rfl

/-- The last line ends in the comment state after all of them. -/
theorem after_getLast?_ofRawsFrom (state : CommentState) (raws : List (List Char)) :
    ((ofRawsFrom state raws).getLast?.map Line.after).getD state = Source.stateAfter state raws := by
  induction raws generalizing state with
  | nil => rfl
  | cons raw raws inductionHypothesis =>
    have rest := inductionHypothesis (ofRaw state raw).after
    rw [ofRawsFrom, List.getLast?_cons]
    cases last : (ofRawsFrom (ofRaw state raw).after raws).getLast? with
    | none =>
      rw [last] at rest
      exact rest
    | some line =>
      rw [last] at rest
      exact rest

/-- A line starts in the comment state after the lines before it. -/
theorem getElem?_ofRawsFrom (state : CommentState) (raws : List (List Char)) (index : Nat) :
    (ofRawsFrom state raws)[index]? =
      raws[index]?.map (ofRaw (Source.stateAfter state (raws.take index))) := by
  induction raws generalizing state index with
  | nil => rfl
  | cons raw raws inductionHypothesis =>
    cases index with
    | zero => rfl
    | succ index =>
      simp only [ofRawsFrom, List.getElem?_cons_succ, inductionHypothesis, List.take_succ_cons]
      rfl

theorem exists_ofRaw_of_getElem? {raws : List (List Char)} {index : Nat} {line : Line}
    (found : (ofRaws raws)[index]? = some line) :
    ∃ before raw, raws[index]? = some raw ∧ line = ofRaw before raw := by
  rw [ofRaws, getElem?_ofRawsFrom, Option.map_eq_some_iff] at found
  obtain ⟨raw, there, rfl⟩ := found
  exact ⟨_, raw, there, rfl⟩

theorem exists_ofRaw_of_mem {raws : List (List Char)} {line : Line} (member : line ∈ ofRaws raws) :
    ∃ before raw, line = ofRaw before raw := by
  obtain ⟨index, found⟩ := List.mem_iff_getElem?.mp member
  obtain ⟨before, raw, -, written⟩ := exists_ofRaw_of_getElem? found
  exact ⟨before, raw, written⟩

/-- What is visible of a line is written on it, or stands for something hidden. -/
theorem mem_code_ofRaw {before : CommentState} {raw : List Char} {c : Char}
    (visible : c ∈ (ofRaw before raw).code) : c ∈ raw ∨ c = ' ' ∨ c = maskCharacter := by
  obtain ⟨piece, among, inside⟩ := List.mem_flatMap.mp visible
  cases piece with
  | code d =>
    left
    rw [← Source.flatMap_raw_segments before raw]
    exact List.mem_flatMap.mpr ⟨_, among, inside⟩
  | comment text =>
    obtain ⟨-, -, rfl⟩ := List.mem_map.mp inside
    exact .inr (.inl rfl)
  | literal text =>
    obtain ⟨-, -, rfl⟩ := List.mem_map.mp inside
    exact .inr (.inr rfl)

/-- A blank line has no code. -/
theorem hasCode_ofRaw_of_isBlank {before : CommentState} {raw : List Char}
    (blank : Text.isBlankText raw) : (ofRaw before raw).hasCode = false := by
  rw [hasCode, List.any_eq_false]
  intro c visible
  rcases mem_code_ofRaw visible with written | rfl | rfl
  · simp [List.all_eq_true.mp blank c written]
  · decide
  · decide

theorem isBlank_eq_false_of_hasCode {before : CommentState} {raw : List Char}
    (coded : (ofRaw before raw).hasCode) : (ofRaw before raw).isBlank = false := by
  rw [← Bool.not_eq_true]
  intro blank
  have codeless : (ofRaw before raw).hasCode = false := hasCode_ofRaw_of_isBlank blank
  rw [codeless] at coded
  cases coded

end Line

end HouseStyle
