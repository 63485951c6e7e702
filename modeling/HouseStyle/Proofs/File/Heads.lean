import HouseStyle.Proofs.Excerpts
import HouseStyle.Proofs.Pattern.Captured
import HouseStyle.Proofs.File.Definitions

/-!
Contract: where the parameters of a function stand in the lines of its head.

Owns: the lines that the head of a definition is put together of, the parameters as excerpts of the
head, and the line and column of a position of the head.
Does not own: the search for a name in the lines, which `File.ConstPointer` makes.

The head of a definition is the code of its lines without blanks around them, joined by single blanks.
The definition keeps its parameters as texts only. Here the head is put together once more from the
lines, and every position of it leads back to the line that it was taken from.

Main statements: `heads_of_mem_findAll` and `exists_parameterPlace?`.
-/

namespace HouseStyle

namespace Excerpt

@[simp] theorem map_text_layOut (start : Nat) (texts : List (List Char)) :
    (layOut start texts).map Excerpt.text = texts := by
  induction texts generalizing start with
  | nil => rfl
  | cons text texts inductionHypothesis =>
    rw [layOut, List.map_cons, inductionHypothesis]

end Excerpt

namespace FunctionDefinition

/-! ## The lines of a head -/

/-- The lines with code from one index up to another, with their indices. -/
def codeLines (lines : List Line) (first last : Nat) : List (Nat × List Char) :=
  (List.range' first (last - first)).filterMap fun index =>
    lines[index]?.bind fun line => if line.hasCode then some (index, line.code) else none

theorem exists_of_codeLine {lines : List Line} {index : Nat} {entry : Nat × List Char}
    (known : (lines[index]?.bind fun line =>
      if line.hasCode then some (index, line.code) else none) = some entry) :
    entry.1 = index ∧ ∃ line, lines[index]? = some line ∧ entry.2 = line.code := by
  obtain ⟨line, there, known⟩ := Option.bind_eq_some_iff.mp known
  split at known
  · cases known
    exact ⟨rfl, line, there, rfl⟩
  · cases known

theorem exists_of_mem_codeLines {lines : List Line} {first last : Nat} {entry : Nat × List Char}
    (member : entry ∈ codeLines lines first last) :
    first ≤ entry.1 ∧ entry.1 < last ∧
      ∃ line, lines[entry.1]? = some line ∧ entry.2 = line.code := by
  obtain ⟨index, inRange, known⟩ := List.mem_filterMap.mp member
  obtain ⟨rfl, line, there, written⟩ := exists_of_codeLine known
  rw [List.mem_range'_1] at inRange
  exact ⟨inRange.1, by omega, line, there, written⟩

theorem codeLines_self (lines : List Line) (index : Nat) : codeLines lines index index = [] := by
  rw [codeLines, Nat.sub_self]
  rfl

theorem codeLines_succ {lines : List Line} {first last : Nat} (ordered : first ≤ last) {line : Line}
    (there : lines[last]? = some line) :
    codeLines lines first (last + 1) =
      codeLines lines first last ++ if line.hasCode then [(last, line.code)] else [] := by
  have split : List.range' first (last + 1 - first) = List.range' first (last - first) ++ [last] := by
    rw [show last + 1 - first = last - first + 1 by omega, List.range'_concat, Nat.one_mul,
      Nat.add_sub_cancel' ordered]
  rw [codeLines, split, List.filterMap_append, codeLines]
  congr 1
  by_cases coded : line.hasCode <;> simp [there, coded]

/-- The code of a line up to its first opening brace. -/
def codeBeforeBrace (lines : List Line) (index : Nat) : List Char :=
  let code := (lines[index]?.map Line.code).getD []
  code.take ((Text.find? ['{'] code).getD code.length)

/-- What the head of a function is put together of: the code of its lines without blanks around it,
each with the index of its line, and of the last line only the code before the brace. -/
def headPieces (lines : List Line) (first last : Nat) : List (Nat × Excerpt) :=
  (codeLines lines first last ++ [(last, codeBeforeBrace lines last)]).map fun entry =>
    (entry.1, (Excerpt.mk 0 entry.2).trim)

/-- The text of pieces, with blanks between them. -/
def joined (pieces : List (Nat × Excerpt)) : List Char :=
  [' '].intercalate (pieces.map fun piece => piece.2.text)

/-- The head of a function, in the text of its pieces. -/
def head (lines : List Line) (first last : Nat) : Excerpt :=
  (Excerpt.mk 0 (joined (headPieces lines first last))).trim

/-! ## The parameters of a head -/

/-- The parameters in a list, without blanks around them; an empty last one is none. -/
def parameterExcerpts (list : Excerpt) : List Excerpt :=
  let pieces := (Excerpt.layOut list.start (splitTopLevel 0 list.text)).map Excerpt.trim
  if pieces.getLast?.map Excerpt.text = some [] then pieces.dropLast else pieces

theorem map_text_parameterExcerpts (list : Excerpt) :
    (parameterExcerpts list).map Excerpt.text = splitParameters list.text := by
  have texts : ((Excerpt.layOut list.start (splitTopLevel 0 list.text)).map Excerpt.trim).map
      Excerpt.text = (splitTopLevel 0 list.text).map Text.trim := by
    rw [List.map_map, ← Excerpt.map_text_layOut list.start (splitTopLevel 0 list.text), List.map_map,
      Excerpt.map_text_layOut]
    rfl
  rw [parameterExcerpts, splitParameters, ← texts]
  generalize (Excerpt.layOut list.start (splitTopLevel 0 list.text)).map Excerpt.trim = pieces
  simp only [List.getLast?_map, apply_ite (List.map Excerpt.text), List.map_dropLast]

theorem splitTopLevel_ne_nil (depth : Int) (text : List Char) : splitTopLevel depth text ≠ [] := by
  cases text with
  | nil => exact List.cons_ne_nil _ _
  | cons c text =>
    rw [splitTopLevel]
    split
    · exact List.cons_ne_nil _ _
    · simp only
      split <;> exact List.cons_ne_nil _ _

/-- The commas between the pieces are all that a list loses when it is split. -/
theorem intercalate_splitTopLevel (depth : Int) (text : List Char) :
    [','].intercalate (splitTopLevel depth text) = text := by
  induction text generalizing depth with
  | nil => exact List.intercalate_singleton
  | cons c text inductionHypothesis =>
    rw [splitTopLevel]
    split
    next comma =>
      rw [List.intercalate_cons_of_ne_nil (splitTopLevel_ne_nil _ _), inductionHypothesis, comma.1]
      rfl
    next =>
      simp only
      generalize (if c = '(' then depth + 1 else if c = ')' then depth - 1 else depth) = next
      have whole := inductionHypothesis next
      cases pieces : splitTopLevel next text with
      | nil => exact absurd pieces (splitTopLevel_ne_nil next text)
      | cons piece others =>
        rw [pieces] at whole
        cases others with
        | nil => rw [← whole, List.intercalate_singleton, List.intercalate_singleton]
        | cons second others =>
          rw [← whole, List.intercalate_cons_cons, List.intercalate_cons_cons]
          rfl

/-- The parameters of the head of a function, where they stand in the pieces of the head. -/
def headParameters (lines : List Line) (first last : Nat) : List Excerpt :=
  let head := head lines first last
  match (headAtEnd.search? head.text).bind fun found => found.part? .parameters with
  | some list => parameterExcerpts ⟨head.start + list.start, list.text⟩
  | none => []

variable {lines : List Line} {first last : Nat}

/-- The parenthesis that opens a parameter list stands directly before it. -/
theorem paren_of_headAtEnd {text : List Char} {found : Match} {list : Excerpt}
    (matched : headAtEnd.Matched text found) (recorded : found.part? .parameters = some list) :
    ∃ paren, list.start = paren + 1 ∧ text[paren]? = some '(' := by
  obtain ⟨start, stop, left, -, -, reached, rfl⟩ := matched
  rw [Cursor.part?_matched, Option.map_eq_some_iff] at recorded
  obtain ⟨span, spanned, rfl⟩ := recorded
  simp only [headAtEnd, Pattern.mem_outcomes_append] at reached
  obtain ⟨_, ⟨_, ⟨listed, ⟨opened, ⟨named, early, paren⟩, parameters⟩, closing⟩, blanks⟩, ends⟩ :=
    reached
  obtain ⟨rest, split, rfl⟩ := Pattern.mem_outcomes_char.mp paren
  obtain ⟨inside, -, rfl⟩ := Pattern.mem_outcomes_capture.mp parameters
  obtain ⟨_, -, rfl⟩ := Pattern.mem_outcomes_char.mp closing
  obtain ⟨_, _, -, -, rfl⟩ := Pattern.mem_outcomes_many.mp blanks
  obtain ⟨-, rfl⟩ := Pattern.mem_outcomes_look.mp ends
  have same : span = ⟨named.position + 1, inside.position⟩ := by
    have first : some (Span.mk (named.position + 1) inside.position) = some span := spanned
    exact (Option.some.inj first).symm
  subst same
  obtain ⟨consumed, before, position⟩ :=
    Pattern.reaches_of_mem_outcomes (Pattern.mem_outcomes_append.mpr early)
  refine ⟨named.position, rfl, ?_⟩
  rw [position, ← List.getElem?_drop, left, before, List.getElem?_append_right (Nat.le_refl _), split,
    Nat.sub_self]
  rfl

/-- The parameters in a list stand in the text that the list stands in. -/
theorem standsIn_of_mem_parameterExcerpts {text : List Char} {list parameter : Excerpt}
    (stands : list.StandsIn text) (member : parameter ∈ parameterExcerpts list) :
    parameter.StandsIn text ∧ list.start ≤ parameter.start := by
  have among : parameter ∈
      (Excerpt.layOut list.start (splitTopLevel 0 list.text)).map Excerpt.trim := by
    rw [parameterExcerpts] at member
    split at member
    · exact (List.dropLast_sublist _).subset member
    · exact member
  obtain ⟨piece, laid, rfl⟩ := List.mem_map.mp among
  obtain ⟨inner, rfl, joined⟩ := @Excerpt.standsIn_of_mem_layOut _ ',' _ _ laid
  rw [intercalate_splitTopLevel] at joined
  refine ⟨(stands.within joined).trim, ?_⟩
  simp only [Excerpt.trim]
  omega

/-- Every parameter stands in what the pieces are put together to, behind an opening parenthesis. -/
theorem exists_paren_of_mem_headParameters {parameter : Excerpt}
    (member : parameter ∈ headParameters lines first last) :
    parameter.StandsIn (joined (headPieces lines first last)) ∧
      ∃ paren < parameter.start, (joined (headPieces lines first last))[paren]? = some '(' := by
  have stands : (head lines first last).StandsIn (joined (headPieces lines first last)) :=
    @Excerpt.StandsIn.trim _ ⟨0, joined (headPieces lines first last)⟩ (List.prefix_refl _)
  rw [headParameters] at member
  split at member
  next list recorded =>
    obtain ⟨found, searched, recorded⟩ := Option.bind_eq_some_iff.mp recorded
    have matched := Pattern.matched_of_search? searched
    obtain ⟨paren, behind, opens⟩ := paren_of_headAtEnd matched recorded
    obtain ⟨standsToo, ahead⟩ :=
      standsIn_of_mem_parameterExcerpts (stands.within (matched.standsIn_part recorded)) member
    refine ⟨standsToo, (head lines first last).start + paren, ?_, ?_⟩
    · simp only at ahead
      omega
    · exact Excerpt.standsIn_iff.mp stands paren '(' opens
  next => exact absurd member List.not_mem_nil

/-! ## Places in the lines -/

/-- The line index and the column at which a position of the pieces' text lies, if it lies in one of
them and not between them. -/
def placeIn? : List (Nat × Excerpt) → Nat → Option (Nat × Nat)
  | [], _ => none
  | (index, piece) :: rest, position =>
    if position < piece.length then some (index, piece.start + position)
    else if position = piece.length then none
    else placeIn? rest (position - (piece.length + 1))

/-- The text of pieces is that of the first one, and then a blank and the others' or nothing. -/
theorem exists_joined_cons (index : Nat) (piece : Excerpt) (pieces : List (Nat × Excerpt)) :
    ∃ rest, joined ((index, piece) :: pieces) = piece.text ++ rest ∧
      (∀ c, rest.head? = some c → c = ' ') ∧ rest.tail = joined pieces := by
  cases pieces with
  | nil => exact ⟨[], by simp [joined], nofun, rfl⟩
  | cons next pieces =>
    refine ⟨' ' :: joined (next :: pieces), ?_, fun c same => (Option.some.inj same).symm, rfl⟩
    rw [joined, List.map_cons, List.map_cons, List.intercalate_cons_cons, List.append_assoc]
    rfl

/-- A word without blanks that stands in the pieces' text stands in one of them. -/
theorem exists_placeIn? {pieces : List (Nat × Excerpt)} {word : Excerpt} (written : word.text ≠ [])
    (inked : ' ' ∉ word.text)
    (stands : word.StandsIn (joined pieces)) :
    ∃ index piece offset, (index, piece) ∈ pieces ∧
      placeIn? pieces word.start = some (index, piece.start + offset) ∧
      Excerpt.StandsIn piece.text ⟨offset, word.text⟩ := by
  induction pieces generalizing word with
  | nil =>
    have empty : word.text = [] := by simpa [Excerpt.StandsIn, joined] using stands
    exact absurd empty written
  | cons entry pieces inductionHypothesis =>
    obtain ⟨index, piece⟩ := entry
    obtain ⟨rest, split, behind, later⟩ := exists_joined_cons index piece pieces
    rw [split] at stands
    have length : piece.length = piece.text.length := rfl
    -- A character of the word at the end of the first piece would be that blank.
    have apart : ¬ (word.start ≤ piece.length ∧ piece.length < word.stop) := by
      rintro ⟨early, late⟩
      have inside : piece.length - word.start < word.text.length := by
        unfold Excerpt.stop at late
        omega
      obtain ⟨c, known⟩ : ∃ c, word.text[piece.length - word.start]? = some c :=
        ⟨_, List.getElem?_eq_getElem inside⟩
      have there := Excerpt.standsIn_iff.mp stands _ c known
      rw [Nat.add_sub_cancel' early, length, List.getElem?_append_right (Nat.le_refl _),
        Nat.sub_self, ← List.head?_eq_getElem?] at there
      exact inked (behind c there ▸ List.mem_of_getElem? known)
    have ends : word.start < word.stop := Nat.lt_add_of_pos_right (List.length_pos_iff.mpr written)
    rcases Nat.lt_trichotomy word.start piece.length with inFirst | between | beyond
    · refine ⟨index, piece, word.start, List.mem_cons_self, by rw [placeIn?, if_pos inFirst], ?_⟩
      exact stands.of_append (by omega)
    · exact absurd ⟨Nat.le_of_eq between, by omega⟩ apart
    · have stands' : Excerpt.StandsIn ([' '].intercalate (pieces.map fun piece => piece.2.text))
          ⟨word.start - (piece.length + 1), word.text⟩ := by
        have past : piece.text.length ≤ word.start := by omega
        have behindBoth : word.start - piece.text.length = word.start - (piece.length + 1) + 1 := by
          omega
        rw [Excerpt.StandsIn, List.drop_append, List.drop_eq_nil_of_le past, List.nil_append,
          behindBoth, ← List.drop_tail, later] at stands
        exact stands
      obtain ⟨found, other, offset, member, placed, inside⟩ :=
        @inductionHypothesis ⟨word.start - (piece.length + 1), word.text⟩ written inked stands'
      refine ⟨found, other, offset, List.mem_cons_of_mem _ member, ?_, inside⟩
      rw [placeIn?, if_neg (by omega), if_neg (by omega), placed]

/-! ## The heads of definitions -/

/-- The head of a function gives its name and its parameters. -/
def Heads (lines : List Line) (first last : Nat) (name : List Char) (parameters : List (List Char)) :
    Prop :=
  headOf? (head lines first last).text = some (name, parameters)

/-- What is known before a line: the lines that may head a function are those with code since the
first of them, and the function whose body is open is that of its head. -/
structure Progress.Reads (lines : List Line) (index : Nat) (progress : Progress) : Prop where
  header : progress.header =
    codeLines lines ((progress.header.head?.map Prod.fst).getD index) index
  ordered : (progress.header.head?.map Prod.fst).getD index ≤ index
  outside : progress.header = [] ∨ progress.depth = 0 ∧ progress.current = none
  current : ∀ opened, progress.current = some opened →
    Heads lines opened.headerLine opened.openLine opened.name opened.parameters

theorem Progress.reads_nil {index : Nat} {progress : Progress} (none : progress.header = [])
    (current : ∀ opened, progress.current = some opened →
      Heads lines opened.headerLine opened.openLine opened.name opened.parameters) :
    progress.Reads lines index where
  header := by
    rw [none]
    exact (codeLines_self lines index).symm
  ordered := by
    rw [none]
    exact Nat.le_refl index
  outside := .inl none
  current := current

/-- A line leaves what is known of the lines up to it, and the definition that it closes is that of its
head. -/
def Reads (lines : List Line) (index : Nat) (outcome : Progress × Option FunctionDefinition) : Prop :=
  outcome.1.Reads lines (index + 1) ∧ ∀ definition, outcome.2 = some definition →
    Heads lines definition.headerLine definition.openLine definition.name definition.parameters

theorem reads_followBraces {index : Nat} {progress : Progress} (none : progress.header = [])
    (current : ∀ opened, progress.current = some opened →
      Heads lines opened.headerLine opened.openLine opened.name opened.parameters)
    (stripped : List Char) : Reads lines index (followBraces index stripped progress) := by
  simp only [followBraces]
  split
  · refine ⟨Progress.reads_nil none (by simp), ?_⟩
    intro definition closed
    obtain ⟨opened, here, rfl⟩ := Option.map_eq_some_iff.mp closed
    exact current opened here
  · exact ⟨Progress.reads_nil none current, by simp⟩

theorem heads_of_opened? {index : Nat} {progress : Progress} (reads : progress.Reads lines index)
    {line : Line} (there : lines[index]? = some line) {brace : Nat}
    (found : Text.find? ['{'] line.code = some brace) {opened : Opened}
    (heads : opened? progress.header index (line.code.take brace) = some opened) :
    Heads lines opened.headerLine opened.openLine opened.name opened.parameters := by
  obtain ⟨⟨name, parameters⟩, given, same⟩ := Option.bind_eq_some_iff.mp heads
  cases same
  have before : codeBeforeBrace lines index = line.code.take brace := by
    rw [codeBeforeBrace, there, Option.map_some, Option.getD_some, found, Option.getD_some]
  have pieces : (headPieces lines ((progress.header.head?.map Prod.fst).getD index) index).map
      (fun piece => piece.2.text) =
        progress.header.map (fun entry => Text.trim entry.2) ++ [Text.trim (line.code.take brace)] := by
    rw [headPieces, ← reads.header, before, List.map_map, List.map_append]
    rfl
  rw [Heads, head, joined, pieces]
  exact given

theorem reads_fileScopeLine {index : Nat} {progress : Progress} (reads : progress.Reads lines index)
    {line : Line} (there : lines[index]? = some line) (coded : line.hasCode)
    (outside : progress.depth = 0 ∧ progress.current = none) :
    Reads lines index (fileScopeLine index line progress) := by
  unfold fileScopeLine
  simp only
  split
  · exact ⟨Progress.reads_nil rfl reads.current, fun definition absent => nomatch absent⟩
  · split
    · split
      · exact ⟨Progress.reads_nil rfl reads.current, fun definition absent => nomatch absent⟩
      · refine ⟨?_, fun definition absent => nomatch absent⟩
        have first : ((progress.header ++ [(index, line.code)]).head?.map Prod.fst).getD (index + 1) =
            (progress.header.head?.map Prod.fst).getD index := by
          cases progress.header <;> rfl
        have ordered := reads.ordered
        refine ⟨?_, ?_, .inr outside, reads.current⟩
        · rw [first, codeLines_succ ordered there, if_pos coded, ← reads.header]
        · rw [first]
          exact Nat.le_succ_of_le ordered
    next brace found =>
      exact reads_followBraces rfl (fun opened heads => heads_of_opened? reads there found heads) _

theorem reads_line {index : Nat} {progress : Progress} (reads : progress.Reads lines index)
    {line : Line} (there : lines[index]? = some line) :
    Reads lines index (FunctionDefinition.line index line progress) := by
  unfold FunctionDefinition.line
  split
  next codeless =>
    refine ⟨?_, fun definition absent => nomatch absent⟩
    cases written : progress.header with
    | nil => exact Progress.reads_nil written reads.current
    | cons entry others =>
      have plain : ¬ line.hasCode := by simpa using codeless
      have header := reads.header
      have ordered := reads.ordered
      have same : ((progress.header.head?.map Prod.fst).getD (index + 1)) =
          (progress.header.head?.map Prod.fst).getD index := by rw [written]; rfl
      refine ⟨?_, ?_, reads.outside, reads.current⟩
      · rw [same, codeLines_succ ordered there, if_neg plain, List.append_nil, ← header]
      · rw [same]
        exact Nat.le_succ_of_le ordered
  next coded =>
    split
    next outside => exact reads_fileScopeLine reads there (by simpa using coded) outside
    next inside =>
      exact reads_followBraces (reads.outside.resolve_right inside) reads.current _

theorem heads_of_mem_findFrom {index : Nat} {progress : Progress} (reads : progress.Reads lines index)
    {rest : List Line} (split : lines.drop index = rest) {definition : FunctionDefinition}
    (found : definition ∈ findFrom index progress rest) :
    Heads lines definition.headerLine definition.openLine definition.name definition.parameters := by
  induction rest generalizing index progress with
  | nil => exact absurd found List.not_mem_nil
  | cons line rest inductionHypothesis =>
    have there : lines[index]? = some line := by
      rw [← List.head?_drop, split]
      rfl
    obtain ⟨next, closed⟩ := reads_line reads there
    rcases List.mem_append.mp found with here | later
    · exact closed definition (Option.mem_toList.mp here)
    · refine inductionHypothesis next ?_ later
      rw [← List.tail_drop, split]
      rfl

/-- The name and the parameters of a definition are those of its head. -/
theorem heads_of_mem_findAll {definition : FunctionDefinition} (found : definition ∈ findAll lines) :
    Heads lines definition.headerLine definition.openLine definition.name definition.parameters :=
  heads_of_mem_findFrom (@Progress.reads_nil _ _ ⟨[], none, 0⟩ rfl
    fun _ absent => nomatch absent) rfl found

theorem map_text_headParameters {name : List Char} {parameters : List (List Char)}
    (heads : Heads lines first last name parameters) :
    (headParameters lines first last).map Excerpt.text = parameters := by
  obtain ⟨found, searched, rest⟩ := Option.bind_eq_some_iff.mp heads
  obtain ⟨called, -, rest⟩ := Option.bind_eq_some_iff.mp rest
  obtain ⟨list, recorded, rest⟩ := Option.bind_eq_some_iff.mp rest
  have given : splitParameters list.text = parameters := by
    simp only at rest
    split at rest
    · cases rest
    · cases rest
      rfl
  rw [headParameters, searched, Option.bind_some, recorded, ← given]
  exact map_text_parameterExcerpts ⟨_, list.text⟩

/-! ## The place of a parameter's name -/

/-- The line index and the column at which the last identifier of a parameter of a head stands. -/
def parameterPlace? (lines : List Line) (definition : FunctionDefinition) (position : Nat) :
    Option (Nat × Nat) := do
  let parameter ← (headParameters lines definition.headerLine definition.openLine)[position]?
  let name ← (Lexicon.ident.findAll parameter.text).getLast?
  placeIn? (headPieces lines definition.headerLine definition.openLine) (parameter.start + name.start)

theorem bounds_of_mem_headPieces {entry : Nat × Excerpt} (ordered : first ≤ last)
    (member : entry ∈ headPieces lines first last) : first ≤ entry.1 ∧ entry.1 ≤ last := by
  obtain ⟨found, among, rfl⟩ := List.mem_map.mp member
  rcases List.mem_append.mp among with earlier | atLast
  · obtain ⟨behind, before, -⟩ := exists_of_mem_codeLines earlier
    exact ⟨behind, Nat.le_of_lt before⟩
  · cases List.mem_singleton.mp atLast
    exact ⟨ordered, Nat.le_refl _⟩

/-- A piece that is not empty stands on its line. -/
theorem standsIn_of_mem_headPieces {index : Nat} {piece : Excerpt}
    (member : (index, piece) ∈ headPieces lines first last) (written : piece.text ≠ []) :
    ∃ line, lines[index]? = some line ∧ piece.StandsIn line.code := by
  obtain ⟨⟨found, code⟩, among, same⟩ := List.mem_map.mp member
  cases same
  rcases List.mem_append.mp among with earlier | atLast
  · obtain ⟨-, -, line, there, rfl⟩ := exists_of_mem_codeLines earlier
    exact ⟨line, there, @Excerpt.StandsIn.trim _ ⟨0, line.code⟩ (List.prefix_refl _)⟩
  · cases List.mem_singleton.mp atLast
    cases there : lines[last]? with
    | none =>
      rw [codeBeforeBrace, there] at written
      exact absurd rfl written
    | some line =>
      refine ⟨line, rfl, ?_⟩
      rw [codeBeforeBrace, there]
      exact @Excerpt.StandsIn.trim _ ⟨0, line.code.take _⟩ (List.take_prefix _ _)

theorem pairwise_headPieces (lines : List Line) (first last : Nat) :
    (headPieces lines first last).Pairwise fun piece other => piece.1 < other.1 := by
  rw [headPieces, List.pairwise_map, List.pairwise_append]
  refine ⟨?_, List.pairwise_singleton _ _, ?_⟩
  · rw [codeLines, List.pairwise_filterMap]
    refine (List.pairwise_lt_range' (s := first) (n := last - first)).imp ?_
    intro position other before entry known entryToo knownToo
    rw [(exists_of_codeLine known).1, (exists_of_codeLine knownToo).1]
    exact before
  · intro entry member other atLast
    rw [List.mem_singleton.mp atLast]
    exact (exists_of_mem_codeLines member).2.1

theorem exists_mem_of_placeIn? {pieces : List (Nat × Excerpt)} {position index column : Nat}
    (placed : placeIn? pieces position = some (index, column)) :
    ∃ piece, (index, piece) ∈ pieces := by
  induction pieces generalizing position with
  | nil => cases placed
  | cons entry pieces inductionHypothesis =>
    obtain ⟨other, piece⟩ := entry
    rw [placeIn?] at placed
    split at placed
    · cases placed
      exact ⟨piece, List.mem_cons_self⟩
    · split at placed
      · cases placed
      · obtain ⟨piece, member⟩ := inductionHypothesis placed
        exact ⟨piece, List.mem_cons_of_mem _ member⟩

/-- A position that lies on the first line lies in the first piece. -/
theorem first_of_placeIn? {pieces : List (Nat × Excerpt)}
    (sorted : pieces.Pairwise fun piece other => piece.1 < other.1)
    (behind : ∀ piece ∈ pieces, first ≤ piece.1) {position column : Nat}
    (placed : placeIn? pieces position = some (first, column)) :
    ∃ piece rest, pieces = (first, piece) :: rest ∧ position < piece.length ∧
      column = piece.start + position := by
  cases pieces with
  | nil => cases placed
  | cons entry pieces =>
    obtain ⟨other, piece⟩ := entry
    rw [placeIn?] at placed
    split at placed
    next inside =>
      cases placed
      exact ⟨piece, pieces, rfl, inside, rfl⟩
    next =>
      split at placed
      · cases placed
      · obtain ⟨later, member⟩ := exists_mem_of_placeIn? placed
        have after := (List.pairwise_cons.mp sorted).1 _ member
        have least := behind _ List.mem_cons_self
        simp only at after least
        omega

/-- On the first line of a head, a parenthesis that is in front of a position of the head is in front of
its place. -/
theorem exists_paren_on_first {position paren column : Nat} {line : Line} (ordered : first ≤ last)
    (there : lines[first]? = some line)
    (placed : placeIn? (headPieces lines first last) position = some (first, column))
    (opens : (joined (headPieces lines first last))[paren]? = some '(') (before : paren < position) :
    ∃ paren < column, line.code[paren]? = some '(' := by
  obtain ⟨piece, rest, split, inside, same⟩ := first_of_placeIn? (pairwise_headPieces lines _ _)
    (fun _ member => (bounds_of_mem_headPieces ordered member).1) placed
  obtain ⟨more, whole, -⟩ := exists_joined_cons first piece rest
  rw [split, whole, List.getElem?_append_left (by unfold Excerpt.length at inside; omega)] at opens
  have written : piece.text ≠ [] := by
    rintro empty
    rw [empty] at opens
    cases opens
  obtain ⟨_, known, stands⟩ :=
    standsIn_of_mem_headPieces (split ▸ List.mem_cons_self : (first, piece) ∈ _) written
  cases there.symm.trans known
  exact ⟨piece.start + paren, by omega, Excerpt.standsIn_iff.mp stands paren '(' opens⟩

/-- The last identifier of a parameter has a place in the lines of the head, and on the first of these
lines it stands behind a parenthesis. -/
theorem exists_parameterPlace? {definition : FunctionDefinition} (found : definition ∈ findAll lines)
    {position : Nat} {parameter name : List Char}
    (given : definition.parameters[position]? = some parameter)
    (named : (Lexicon.identifiers parameter).getLast? = some name) :
    ∃ index column line, parameterPlace? lines definition position = some (index, column) ∧
      definition.headerLine ≤ index ∧ index ≤ definition.openLine ∧ lines[index]? = some line ∧
      Excerpt.StandsIn line.code ⟨column, name⟩ ∧
      (index = definition.headerLine → ∃ paren < column, line.code[paren]? = some '(') := by
  have ordered := (ordered_of_mem_findAll found).1.header_le
  rw [← map_text_headParameters (heads_of_mem_findAll found), List.getElem?_map,
    Option.map_eq_some_iff] at given
  obtain ⟨excerpt, listed, rfl⟩ := given
  obtain ⟨stands, paren, before, opens⟩ :=
    exists_paren_of_mem_headParameters (List.mem_of_getElem? listed)
  rw [Lexicon.identifiers, List.getLast?_map, Option.map_eq_some_iff] at named
  obtain ⟨identifier, last, rfl⟩ := named
  have matched := Pattern.matched_of_mem_findAll (List.mem_of_getLast? last)
  have inked : ' ' ∉ identifier.whole.text := matched.not_mem_whole (by decide)
  have written : identifier.whole.text ≠ [] := matched.text_ne_nil Nat.one_pos
  obtain ⟨index, piece, offset, member, placed, inside⟩ :=
    @exists_placeIn? _ ⟨excerpt.start + identifier.start, identifier.whole.text⟩ written inked
      (stands.within matched.standsIn_whole)
  have some : piece.text ≠ [] := by
    intro empty
    rw [empty, Excerpt.StandsIn, List.drop_nil] at inside
    exact written (List.prefix_nil.mp inside)
  obtain ⟨behind, upTo⟩ := bounds_of_mem_headPieces ordered member
  obtain ⟨line, there, standsToo⟩ := standsIn_of_mem_headPieces member some
  refine ⟨index, piece.start + offset, line, ?_, behind, upTo, there, standsToo.within inside, ?_⟩
  · rw [parameterPlace?, listed]
    simp only [Option.bind_eq_bind, Option.bind_some, last]
    exact placed
  · rintro rfl
    exact exists_paren_on_first ordered there placed opens
      (Nat.lt_of_lt_of_le before (Nat.le_add_right _ _))

end FunctionDefinition

end HouseStyle
