import HouseStyle.Proofs.File.Heads
import HouseStyle.Proofs.Parentheses

/-!
Contract: the parameters that a list is split into.

Owns: the commas at which a list is cut, the piece that is left out, and the parentheses of a
parameter.
Does not own: where the parameters stand in the lines of a head.

The split keeps a count of open parentheses. A comma at which it is zero is told by the text before
it, which has as many parentheses of both kinds: also where the count was below zero in between.

Main statement: `parameters_split`.
-/

namespace HouseStyle.FunctionDefinition

open Text (Balanced BalancedFrom parenWeight)

/-- A character with the text before it, at which a list is cut: a comma with as many parentheses of
both kinds before it. -/
def isCut (entry : Char × List Char) : Bool :=
  entry.1 == ',' && entry.2.count '(' == entry.2.count ')'

/-- The pieces of a list between the commas at which it is cut. -/
def topLevelPieces (text : List Char) : List (List Char) :=
  ((text.zip text.inits).splitOnP isCut).map (List.map Prod.fst)

variable {depth : Int} {text : List Char}

/-- One character is cut out, or goes to the front of the first piece. -/
theorem splitTopLevel_cons (depth : Int) (c : Char) (text : List Char) :
    splitTopLevel depth (c :: text) =
      if c = ',' ∧ depth = 0 then [] :: splitTopLevel 0 text
      else (splitTopLevel (depth + parenWeight c) text).modifyHead (c :: ·) := by
  rw [splitTopLevel]
  split
  next comma => rw [comma.2]
  next =>
    have next : (if c = '(' then depth + 1 else if c = ')' then depth - 1 else depth) =
        depth + parenWeight c := by
      rw [parenWeight]
      split_ifs <;> omega
    simp only [next]
    cases pieces : splitTopLevel (depth + parenWeight c) text with
    | nil => exact absurd pieces (splitTopLevel_ne_nil _ text)
    | cons piece pieces => rfl

theorem isCut_iff {c : Char} {before : List Char} :
    isCut (c, before) ↔ c = ',' ∧ Text.excess '(' ')' before = 0 := by
  rw [isCut, Bool.and_eq_true, beq_iff_eq, beq_iff_eq, Text.excess, Int.sub_eq_zero, Int.natCast_inj]

/-- Behind a text, the count is what the text has more of opening than of closing parentheses. -/
theorem splitTopLevel_behind (before text : List Char) :
    splitTopLevel (Text.excess '(' ')' before) text =
      ((text.zip (text.inits.map (before ++ ·))).splitOnP isCut).map (List.map Prod.fst) := by
  induction text generalizing before with
  | nil => rfl
  | cons c text inductionHypothesis =>
    have onward := inductionHypothesis (before ++ [c])
    rw [Text.excess_append, Text.excess_singleton] at onward
    have entries : (c :: text).zip ((c :: text).inits.map (before ++ ·)) =
        (c, before) :: text.zip (text.inits.map (before ++ [c] ++ ·)) := by
      simp [Function.comp_def]
    rw [splitTopLevel_cons, entries, List.splitOnP_cons_eq_if_modifyHead]
    by_cases cut : c = ',' ∧ Text.excess '(' ')' before = 0
    · rw [if_pos cut, if_pos (isCut_iff.mpr cut), List.map_cons, ← onward, cut.1, cut.2]
      rfl
    · rw [if_neg cut, if_neg (mt isCut_iff.mp cut), onward]
      cases (text.zip (text.inits.map (before ++ [c] ++ ·))).splitOnP isCut <;> rfl

/-- A list is cut at the commas before which as many parentheses are closed as opened. -/
theorem splitTopLevel_eq (text : List Char) : splitTopLevel 0 text = topLevelPieces text := by
  have behind := splitTopLevel_behind [] text
  simp only [List.nil_append, List.map_id'] at behind
  exact behind

/-- The commas at which a list is cut are all that its pieces lose. -/
theorem intercalate_topLevelPieces (text : List Char) :
    [','].intercalate (topLevelPieces text) = text := by
  rw [← splitTopLevel_eq, intercalate_splitTopLevel]

/-- Of a text that closes the parentheses open before it, the first piece closes them, and the others
are balanced: no parenthesis is open where the text is cut. -/
theorem exists_balanced_pieces (balanced : BalancedFrom depth text) :
    ∃ piece pieces, splitTopLevel depth text = piece :: pieces ∧ BalancedFrom depth piece ∧
      ∀ other ∈ pieces, Balanced other := by
  induction text generalizing depth with
  | nil => exact ⟨[], [], rfl, balanced, by simp⟩
  | cons c text inductionHypothesis =>
    obtain ⟨enough, later⟩ := Text.balancedFrom_cons.mp balanced
    obtain ⟨piece, pieces, split, first, others⟩ := inductionHypothesis later
    rw [splitTopLevel_cons]
    by_cases cut : c = ',' ∧ depth = 0
    · obtain ⟨rfl, rfl⟩ := cut
      rw [if_pos ⟨rfl, rfl⟩]
      exact ⟨[], piece :: pieces, congrArg ([] :: ·) split, Text.balancedFrom_nil.mpr rfl,
        List.forall_mem_cons.mpr ⟨first, others⟩⟩
    · rw [if_neg cut, split]
      exact ⟨c :: piece, pieces, rfl, Text.balancedFrom_cons.mpr ⟨enough, first⟩, others⟩

theorem balanced_of_mem_splitTopLevel (balanced : Balanced text) {piece : List Char}
    (member : piece ∈ splitTopLevel 0 text) : Balanced piece := by
  obtain ⟨first, others, split, balancedFirst, balancedOthers⟩ := exists_balanced_pieces balanced
  rw [split] at member
  exact List.forall_mem_cons.mpr ⟨balancedFirst, balancedOthers⟩ piece member

/-- Every parameter is a piece without the blanks around it. -/
theorem mem_pieces_of_mem_splitParameters {parameter : List Char}
    (member : parameter ∈ splitParameters text) :
    ∃ piece ∈ splitTopLevel 0 text, Text.trim piece = parameter := by
  simp only [splitParameters] at member
  split at member
  · exact List.mem_map.mp (List.mem_of_mem_dropLast member)
  · exact List.mem_map.mp member

/-- The parameters are the pieces between the commas before which as many parentheses are closed as
opened, without the blanks around them. The last piece is left out if nothing else stands in it. In a
list whose parentheses are balanced, those of every parameter are. -/
theorem parameters_split (text : List Char) :
    (∃ inner last, topLevelPieces text = inner ++ [last] ∧
      splitParameters text =
        inner.map Text.trim ++ if Text.trim last = [] then [] else [Text.trim last]) ∧
    (Balanced text → ∀ parameter ∈ splitParameters text, Balanced parameter) := by
  constructor
  · obtain ⟨inner, last, pieces⟩ := (List.eq_nil_or_concat _).resolve_left (splitTopLevel_ne_nil 0 text)
    rw [List.concat_eq_append] at pieces
    refine ⟨inner, last, by rw [← splitTopLevel_eq, pieces], ?_⟩
    rw [splitParameters, pieces]
    simp only [List.map_append, List.map_cons, List.map_nil, List.getLast?_concat, Option.some.injEq,
      List.dropLast_concat]
    split
    · rw [List.append_nil]
    · rfl
  · intro balanced parameter member
    obtain ⟨piece, among, rfl⟩ := mem_pieces_of_mem_splitParameters member
    exact (balanced_of_mem_splitTopLevel balanced among).trim

-- an empty piece is left out only at the end, and a closing parenthesis too many is made up for later
example :
    splitParameters "int (*compare)(int, int), , ".toList =
        ["int (*compare)(int, int)".toList, []] ∧
      splitParameters "a), b(, c".toList = ["a), b(".toList, "c".toList] := by
  decide +kernel

end HouseStyle.FunctionDefinition
