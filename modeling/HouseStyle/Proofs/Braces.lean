import HouseStyle.Proofs.Scan.Course
import HouseStyle.Proofs.Text

/-!
Contract: braces by their place in the code of a file.

Owns: the code of all lines as one text, the braces that are open before a place of it, and the
braces that belong together.
Does not own: what the scan makes of a brace.

A place is the number of characters of code before it, over all lines. Two braces belong together if
the text between them closes no brace that it does not open, and leaves none open.

Main statement: the first place at which fewer than a given number of braces are open lies behind a
closing brace (`exists_drop`).
-/

namespace HouseStyle

/-- The characters of code of all lines. -/
def codeOf (lines : List Line) : List Char :=
  lines.flatMap Line.code

/-- The place at which the line of an index starts. -/
def lineStart (lines : List Line) (index : Nat) : Nat :=
  (codeOf (lines.take index)).length

/-- The braces that are open before a place. -/
def level (lines : List Line) (place : Nat) : Int :=
  Text.excess '{' '}' ((codeOf lines).take place)

/-- The text between two places opens and closes the same braces. -/
def Closed (lines : List Line) (start stop : Nat) : Prop :=
  level lines stop = level lines start ∧
    ∀ place ≤ stop, start ≤ place → level lines start ≤ level lines place

instance (lines : List Line) (start stop : Nat) : Decidable (Closed lines start stop) := by
  unfold Closed
  infer_instance

/-- Two braces that belong together. -/
structure Matched (lines : List Line) (first last : Nat) : Prop where
  opens : (codeOf lines)[first]? = some '{'
  closes : (codeOf lines)[last]? = some '}'
  before : first < last
  closed : Closed lines (first + 1) last

instance (lines : List Line) (first last : Nat) : Decidable (Matched lines first last) :=
  decidable_of_iff
    ((codeOf lines)[first]? = some '{' ∧ (codeOf lines)[last]? = some '}' ∧ first < last ∧
      Closed lines (first + 1) last)
    ⟨fun ⟨opens, closes, before, closed⟩ => ⟨opens, closes, before, closed⟩,
      fun matched => ⟨matched.opens, matched.closes, matched.before, matched.closed⟩⟩

/-- The place lies on the line of an index. -/
def OnLine (lines : List Line) (index place : Nat) : Prop :=
  lineStart lines index ≤ place ∧ place < lineStart lines (index + 1)

instance (lines : List Line) (index place : Nat) : Decidable (OnLine lines index place) := by
  unfold OnLine
  infer_instance

/-- Nothing but blanks stands before the place on the line of an index. -/
def BeginsLine (lines : List Line) (index place : Nat) : Prop :=
  ∀ earlier < place, lineStart lines index ≤ earlier →
    ∀ c ∈ (codeOf lines)[earlier]?, Text.isBlank c

instance (lines : List Line) (index place : Nat) : Decidable (BeginsLine lines index place) :=
  decidable_of_iff (∀ earlier < place, lineStart lines index ≤ earlier →
    (codeOf lines)[earlier]?.all Text.isBlank) (by simp only [BeginsLine, Option.all_eq_true]; rfl)

variable {lines : List Line} {index place first last start stop : Nat} {site : Site}

/-! ## From one place to the next -/

theorem level_succ {c : Char} (there : (codeOf lines)[place]? = some c) :
    level lines (place + 1) = level lines place + Text.excess '{' '}' [c] := by
  rw [level, List.take_add_one, there, Option.toList_some, Text.excess_append]
  rfl

theorem level_succ_of_opens (opens : (codeOf lines)[place]? = some '{') :
    level lines (place + 1) = level lines place + 1 := by
  rw [level_succ opens]
  rfl

theorem level_succ_of_closes (closes : (codeOf lines)[place]? = some '}') :
    level lines (place + 1) = level lines place - 1 := by
  rw [level_succ closes]
  rfl

/-- Only a closing brace lets fewer braces be open. -/
theorem level_le_succ (other : (codeOf lines)[place]? ≠ some '}') :
    level lines place ≤ level lines (place + 1) := by
  cases there : (codeOf lines)[place]? with
  | none =>
    rw [level, level, List.take_add_one, there]
    simp
  | some c =>
    have closer : c ≠ '}' := fun same => other (there.trans (congrArg some same))
    have noCloser : [c].count '}' = 0 :=
      List.count_eq_zero_of_not_mem fun member => closer (List.mem_singleton.mp member).symm
    rw [level_succ there, Text.excess, noCloser]
    omega

/-- Characters that are no braces leave all open braces open. -/
theorem level_eq_of_no_braces
    (none' : ∀ earlier < place, start ≤ earlier →
      (codeOf lines)[earlier]? ≠ some '{' ∧ (codeOf lines)[earlier]? ≠ some '}')
    (behind : start ≤ place) : level lines place = level lines start := by
  obtain ⟨distance, rfl⟩ := Nat.exists_eq_add_of_le behind
  clear behind
  induction distance with
  | zero => rfl
  | succ distance inductionHypothesis =>
    obtain ⟨noOpener, noCloser⟩ := none' (start + distance) (by omega) (by omega)
    rw [← inductionHypothesis fun earlier before => none' earlier (by omega), ← Nat.add_assoc]
    cases there : (codeOf lines)[start + distance]? with
    | none =>
      rw [level, level, List.take_add_one, there]
      simp
    | some c =>
      rw [there] at noOpener noCloser
      rw [level_succ there, Text.excess_of_not_mem, Int.add_zero]
      · intro member
        exact noOpener (congrArg some (List.mem_singleton.mp member).symm)
      · intro member
        exact noCloser (congrArg some (List.mem_singleton.mp member).symm)

/-- Where fewer than a number of braces are open, this is so since a closing brace. -/
theorem exists_drop {bound : Int} (within : start ≤ stop) (above : bound ≤ level lines start)
    (below : level lines stop < bound) :
    ∃ place, start ≤ place ∧ place < stop ∧ (codeOf lines)[place]? = some '}' ∧
      level lines place = bound ∧ ∀ earlier ≤ place, start ≤ earlier → bound ≤ level lines earlier := by
  obtain ⟨distance, rfl⟩ := Nat.exists_eq_add_of_le within
  clear within
  induction distance generalizing start with
  | zero => exact absurd below (by simpa using above)
  | succ distance inductionHypothesis =>
    by_cases next : bound ≤ level lines (start + 1)
    · have further : start + (distance + 1) = start + 1 + distance := by omega
      rw [further] at below ⊢
      obtain ⟨place, behind, before, closes, same, earlier⟩ := inductionHypothesis next below
      refine ⟨place, by omega, before, closes, same, ?_⟩
      intro other within from'
      by_cases here : other = start
      · rw [here]
        exact above
      · exact earlier other within (by omega)
    · have closes : (codeOf lines)[start]? = some '}' := by
        by_contra other
        have kept := level_le_succ other
        omega
      have one := level_succ_of_closes closes
      refine ⟨start, Nat.le_refl _, by omega, closes, by omega, ?_⟩
      intro other within from'
      rw [show other = start by omega]
      exact above

/-- A brace behind which no more braces are open than before it is closed on the way. -/
theorem exists_matched (opens : (codeOf lines)[first]? = some '{') (behind : first < place)
    (below : level lines place ≤ level lines first) : ∃ last < place, Matched lines first last := by
  have inside := level_succ_of_opens opens
  have drops : level lines place < level lines (first + 1) := by omega
  obtain ⟨last, from', before, closes, same, above⟩ :=
    exists_drop (show first + 1 ≤ place from behind) (Int.le_refl _) drops
  exact ⟨last, before, opens, closes, from', same, above⟩

/-! ## Lines -/

theorem codeOf_take_isPrefix (lines : List Line) (index : Nat) :
    codeOf (lines.take index) <+: codeOf lines := by
  refine ⟨codeOf (lines.drop index), ?_⟩
  rw [codeOf, codeOf, codeOf, ← List.flatMap_append, List.take_append_drop]

theorem level_lineStart (lines : List Line) (index : Nat) :
    level lines (lineStart lines index) = Text.excess '{' '}' (codeOf (lines.take index)) := by
  rw [level, lineStart, ← List.prefix_iff_eq_take.mp (codeOf_take_isPrefix lines index)]

theorem codeOf_take_succ (there : Site.at? lines index = some site) :
    codeOf (lines.take (index + 1)) = codeOf (lines.take index) ++ site.line.code := by
  rw [codeOf, Site.take_succ_of_at? there, List.flatMap_append, List.flatMap_singleton]
  rfl

theorem lineStart_succ (there : Site.at? lines index = some site) :
    lineStart lines (index + 1) = lineStart lines index + site.line.code.length := by
  rw [lineStart, codeOf_take_succ there, List.length_append]
  rfl

theorem lineStart_mono {later : Nat} (behind : index ≤ later) :
    lineStart lines index ≤ lineStart lines later := by
  have early := (codeOf_take_isPrefix (lines.take later) index).length_le
  rwa [List.take_take, Nat.min_eq_left behind] at early

/-- The code of a file around that of one of its lines. -/
theorem exists_codeOf_eq (there : Site.at? lines index = some site) :
    ∃ after, codeOf lines = codeOf (lines.take index) ++ (site.line.code ++ after) := by
  obtain ⟨after, split⟩ := codeOf_take_isPrefix lines (index + 1)
  refine ⟨after, ?_⟩
  rw [← split, codeOf_take_succ there, List.append_assoc]

/-- The level inside a line is that before it and that of the characters read. -/
theorem level_column (there : Site.at? lines index = some site) {column : Nat}
    (inside : column ≤ site.line.code.length) :
    level lines (lineStart lines index + column) =
      level lines (lineStart lines index) + Text.excess '{' '}' (site.line.code.take column) := by
  obtain ⟨after, split⟩ := exists_codeOf_eq there
  have early : site.line.code ++ after = site.line.code.take column ++
      (site.line.code.drop column ++ after) := by
    rw [← List.append_assoc, List.take_append_drop]
  have taken : (codeOf lines).take (lineStart lines index + column) =
      codeOf (lines.take index) ++ site.line.code.take column := by
    rw [split, early, lineStart, List.take_length_add_append]
    congr 1
    rw [List.take_append_of_le_length (by rw [List.length_take]; omega), List.take_take, Nat.min_self]
  rw [level, taken, Text.excess_append, level_lineStart]

theorem level_lineStart_succ (there : Site.at? lines index = some site) :
    level lines (lineStart lines (index + 1)) =
      level lines (lineStart lines index) + Text.excess '{' '}' site.line.code := by
  rw [lineStart_succ there, level_column there (Nat.le_refl _), List.take_length]

theorem getElem?_column (there : Site.at? lines index = some site) {column : Nat}
    (inside : column < site.line.code.length) :
    (codeOf lines)[lineStart lines index + column]? = site.line.code[column]? := by
  obtain ⟨after, split⟩ := exists_codeOf_eq there
  rw [split, lineStart, List.getElem?_append_right (by omega), Nat.add_sub_cancel_left,
    List.getElem?_append_left inside]

theorem OnLine.exists_column (there : Site.at? lines index = some site)
    (onLine : OnLine lines index place) : ∃ column, place = lineStart lines index + column ∧
      column < site.line.code.length ∧ (codeOf lines)[place]? = site.line.code[column]? := by
  obtain ⟨behind, before⟩ := onLine
  rw [lineStart_succ there] at before
  obtain ⟨column, rfl⟩ := Nat.exists_eq_add_of_le behind
  exact ⟨column, rfl, by omega, getElem?_column there (by omega)⟩

theorem BeginsLine.level_eq (begins : BeginsLine lines index last)
    (behind : lineStart lines index ≤ place) (before : place ≤ last) :
    level lines place = level lines (lineStart lines index) := by
  apply level_eq_of_no_braces _ behind
  intro earlier inside from'
  have blank := begins earlier (by omega) from'
  constructor
  · intro same
    exact absurd (blank _ same) (by decide)
  · intro same
    exact absurd (blank _ same) (by decide)

/-- A line starts with a character exactly if the character stands behind nothing but blanks. -/
theorem head?_stripped_iff (there : Site.at? lines index = some site) {c : Char}
    (ink : Text.isBlank c = false) : site.line.stripped.head? = some c ↔
      ∃ place, OnLine lines index place ∧ BeginsLine lines index place ∧
        (codeOf lines)[place]? = some c := by
  constructor
  · intro head
    obtain ⟨before, after, blanks, -, split⟩ := Text.exists_blanks_around_trim site.line.code
    obtain ⟨rest, starts⟩ := List.head?_eq_some_iff.mp head
    rw [show Text.trim site.line.code = _ from starts] at split
    have inside : before.length < site.line.code.length := by
      rw [split, List.length_append, List.length_append, List.length_cons]
      omega
    refine ⟨lineStart lines index + before.length, ⟨by omega, ?_⟩, ?_, ?_⟩
    · rw [lineStart_succ there]
      omega
    · intro earlier within from' d found
      obtain ⟨column, rfl⟩ := Nat.exists_eq_add_of_le from'
      have found : (codeOf lines)[lineStart lines index + column]? = some d := found
      rw [getElem?_column there (by omega), split, List.getElem?_append_left (by omega)] at found
      exact blanks d (List.mem_of_getElem? found)
    · rw [getElem?_column there inside, split, List.getElem?_append_right (Nat.le_refl _),
        Nat.sub_self]
      rfl
  · rintro ⟨place, onLine, begins, found⟩
    obtain ⟨column, rfl, inside, same⟩ := onLine.exists_column there
    rw [same] at found
    obtain ⟨_, here⟩ := List.getElem?_eq_some_iff.mp found
    have split : site.line.code = site.line.code.take column ++ c :: site.line.code.drop (column + 1) := by
      rw [← here, ← List.drop_eq_getElem_cons inside, List.take_append_drop]
    rw [Line.stripped, split]
    apply Text.head?_trim_of_blanks _ ink
    intro d member
    obtain ⟨position, found⟩ := List.mem_iff_getElem?.mp member
    rw [List.getElem?_take] at found
    split at found
    next within =>
      apply begins (lineStart lines index + position) (by omega) (by omega)
      rw [getElem?_column there (by omega), found]
      rfl
    next => cases found

end HouseStyle
