import HouseStyle.File.FunctionDefinition

/-!
Contract: where function definitions stand.

Owns: the order of the lines of a definition, and their bound by the length of the file.
Does not own: which lines make a definition, which `File.FunctionDefinition` decides.

Main statement: `ordered_of_mem_findAll`.
-/

namespace HouseStyle.FunctionDefinition

/-- The head of a definition starts no later than its body, and its body ends no earlier than it
starts. -/
structure Ordered (definition : FunctionDefinition) : Prop where
  header_le : definition.headerLine ≤ definition.openLine
  open_le : definition.openLine ≤ definition.closeLine

/-- What is known before a line speaks of lines before it. -/
structure Progress.Behind (index : Nat) (progress : Progress) : Prop where
  header : ∀ entry ∈ progress.header, entry.1 < index
  current : ∀ opened, progress.current = some opened →
    opened.headerLine ≤ opened.openLine ∧ opened.openLine < index

theorem Progress.behind_initial : Progress.Behind 0 ⟨[], none, 0⟩ where
  header _ member := absurd member List.not_mem_nil
  current _ none := nomatch none

/-- A line leaves what speaks of lines up to it, and closes an ordered definition if it closes
one. -/
def Closes (index : Nat) (outcome : Progress × Option FunctionDefinition) : Prop :=
  outcome.1.Behind (index + 1) ∧
    ∀ definition, outcome.2 = some definition →
      definition.Ordered ∧ definition.closeLine = index

variable {index : Nat} {progress : Progress}

theorem Progress.Behind.header_succ (behind : progress.Behind index) :
    ∀ entry ∈ progress.header, entry.1 < index + 1 := by
  intro entry member
  exact Nat.lt_succ_of_lt (behind.header entry member)

theorem closes_followBraces (header : ∀ entry ∈ progress.header, entry.1 < index + 1)
    (current : ∀ opened, progress.current = some opened →
      opened.headerLine ≤ opened.openLine ∧ opened.openLine ≤ index) (stripped : List Char) :
    Closes index (followBraces index stripped progress) := by
  simp only [followBraces]
  split
  · refine ⟨⟨header, fun opened none => nomatch none⟩, ?_⟩
    intro definition closed
    obtain ⟨opened, open', rfl⟩ := Option.map_eq_some_iff.mp closed
    obtain ⟨header_le, open_le⟩ := current opened open'
    exact ⟨⟨header_le, open_le⟩, rfl⟩
  · refine ⟨⟨header, ?_⟩, fun definition none => nomatch none⟩
    intro opened open'
    obtain ⟨header_le, open_le⟩ := current opened open'
    exact ⟨header_le, Nat.lt_succ_of_le open_le⟩

theorem opened?_bounds (behind : progress.Behind index) {before : List Char} {opened : Opened}
    (heads : opened? progress.header index before = some opened) :
    opened.headerLine ≤ opened.openLine ∧ opened.openLine ≤ index := by
  obtain ⟨⟨name, parameters⟩, -, same⟩ := Option.bind_eq_some_iff.mp heads
  cases same
  refine ⟨?_, Nat.le_refl _⟩
  show (progress.header.head?.map Prod.fst).getD index ≤ index
  cases first : progress.header.head? with
  | none => exact Nat.le_refl _
  | some entry => exact Nat.le_of_lt (behind.header entry (List.mem_of_head? first))

theorem closes_fileScopeLine (behind : progress.Behind index) (line : Line) :
    Closes index (fileScopeLine index line progress) := by
  have current : ∀ opened, progress.current = some opened →
      opened.headerLine ≤ opened.openLine ∧ opened.openLine < index + 1 := by
    intro opened open'
    obtain ⟨header_le, open_lt⟩ := behind.current opened open'
    exact ⟨header_le, Nat.lt_succ_of_lt open_lt⟩
  have dropped : ∀ entry ∈ ([] : List (Nat × List Char)), entry.1 < index + 1 :=
    fun entry member => absurd member List.not_mem_nil
  unfold fileScopeLine
  simp only
  split
  · exact ⟨⟨dropped, current⟩, fun definition none => nomatch none⟩
  · split
    · split
      · exact ⟨⟨dropped, current⟩, fun definition none => nomatch none⟩
      · refine ⟨⟨?_, current⟩, fun definition none => nomatch none⟩
        intro entry member
        rcases List.mem_append.mp member with earlier | here
        · exact behind.header_succ entry earlier
        · rw [List.mem_singleton.mp here]
          exact Nat.lt_succ_self _
    · exact closes_followBraces dropped (fun opened heads => opened?_bounds behind heads) _

theorem closes_line (behind : progress.Behind index) (line : Line) :
    Closes index (FunctionDefinition.line index line progress) := by
  have current : ∀ opened, progress.current = some opened →
      opened.headerLine ≤ opened.openLine ∧ opened.openLine ≤ index := by
    intro opened open'
    obtain ⟨header_le, open_lt⟩ := behind.current opened open'
    exact ⟨header_le, Nat.le_of_lt open_lt⟩
  unfold FunctionDefinition.line
  split
  · refine ⟨⟨behind.header_succ, ?_⟩, fun definition none => nomatch none⟩
    intro opened open'
    obtain ⟨header_le, open_le⟩ := current opened open'
    exact ⟨header_le, Nat.lt_succ_of_le open_le⟩
  · split
    · exact closes_fileScopeLine behind line
    · exact closes_followBraces behind.header_succ current _

theorem ordered_of_mem_findFrom (behind : progress.Behind index) {lines : List Line}
    {definition : FunctionDefinition} (found : definition ∈ findFrom index progress lines) :
    definition.Ordered ∧ definition.closeLine < index + lines.length := by
  induction lines generalizing index progress with
  | nil => exact absurd found List.not_mem_nil
  | cons line rest inductionHypothesis =>
    obtain ⟨next, closed⟩ := closes_line behind line
    rw [List.length_cons]
    rcases List.mem_append.mp found with here | later
    · obtain ⟨ordered, close⟩ := closed definition (Option.mem_toList.mp here)
      exact ⟨ordered, by omega⟩
    · obtain ⟨ordered, close_lt⟩ := inductionHypothesis next later
      exact ⟨ordered, by omega⟩

/-- The lines of a definition are in order and in the file. -/
theorem ordered_of_mem_findAll {lines : List Line} {definition : FunctionDefinition}
    (found : definition ∈ findAll lines) :
    definition.Ordered ∧ definition.closeLine < lines.length := by
  have bounds := ordered_of_mem_findFrom Progress.behind_initial found
  rwa [Nat.zero_add] at bounds

end HouseStyle.FunctionDefinition
