import HouseStyle.Rule.View

/-!
Contract: what a scan remembers from line to line.

Owns: the state of a scan, its indentation frames, and the data of open types, cases and parameter
lists.
Does not own: the transitions, which the other modules under `Scan` define.

Stacks are listed from the innermost entry on. Below the indentation frames lies the file itself,
which is indented by zero and never closed.
-/

namespace HouseStyle

/-- The columns of one indentation step. -/
def indentUnit : Nat := 2

/-- How a type was opened: its kind, whether under `typedef`, and its tag with the tag's place. -/
structure TypeHead where
  kind : TypeKind
  isTypedef : Bool
  tag : Option (List Char)
  tagLine : Nat
  tagColumn : Nat
deriving DecidableEq, Repr

/-- A type whose brace has not come yet, and the index of the line that opened it. -/
structure PendingType where
  head : TypeHead
  line : Nat
deriving DecidableEq, Repr

/-- An open type, and the number of indentation frames inside it. -/
structure TypeScope where
  head : TypeHead
  depth : Nat
deriving DecidableEq, Repr

/-- The body of a case label: the index of its last line, and its indentation. -/
structure CaseFrame where
  endLine : Nat
  indent : Int
deriving DecidableEq, Repr

/-- A list of parameters or arguments that goes on over lines: where its lines start, where its
statement starts, how many parentheses are open, and what it belongs to. -/
structure ParamBlock where
  requiredIndent : Nat
  baseIndent : Int
  depth : Int
  isDefinition : Bool
  isControl : Bool
deriving DecidableEq, Repr

/-- The state of a scan between two lines. -/
structure ScanState where
  frames : List Nat
  nextIndent : Option Int
  types : List TypeScope
  pendingType : Option PendingType
  cases : List CaseFrame
  paramBlock : Option ParamBlock
  comment : CommentState
  blankRun : Nat
  inDefinition : Bool
deriving DecidableEq, Repr

namespace ScanState

/-- The state before the first line. -/
def initial : ScanState :=
  { frames := []
    nextIndent := none
    types := []
    pendingType := none
    cases := []
    paramBlock := none
    comment := .code
    blankRun := 0
    inDefinition := false }

/-- The indentation of the innermost frame. -/
def top (state : ScanState) : Nat :=
  state.frames.headD 0

def depth (state : ScanState) : Nat :=
  state.frames.length

/-- The indentation of the file and of every frame, outermost first. -/
def indents (state : ScanState) : List Nat :=
  0 :: state.frames.reverse

/-- The state inside a further frame; a negative indentation counts as zero. -/
def push (state : ScanState) (indent : Int) : ScanState :=
  { state with frames := indent.toNat :: state.frames }

/-- The state outside the innermost frame; the file itself is never left. -/
def pop (state : ScanState) : ScanState :=
  { state with frames := state.frames.tail }

/-- The state outside the given number of frames. -/
def popMany (state : ScanState) (count : Nat) : ScanState :=
  { state with frames := state.frames.drop count }

/-- A further frame puts its indentation behind the others. -/
theorem indents_push (state : ScanState) (indent : Int) :
    (state.push indent).indents = state.indents ++ [indent.toNat] := by
  rw [push, indents, List.reverse_cons]
  rfl

/-- The last indentation is dropped, unless it is the only one. -/
theorem indents_pop (state : ScanState) :
    state.pop.indents =
      if 1 < state.indents.length then state.indents.dropLast else state.indents := by
  unfold pop indents
  cases state.frames with
  | nil => rfl
  | cons indent frames =>
    rw [List.tail_cons, List.reverse_cons, ← List.cons_append, List.dropLast_concat, if_pos]
    simp

/-- One frame is left after the other. -/
theorem popMany_succ (state : ScanState) (count : Nat) :
    state.popMany (count + 1) = (state.popMany count).pop := by
  rw [popMany, popMany, pop, List.tail_drop]

/-- The last indentations are dropped, except for the first one. -/
theorem indents_popMany (state : ScanState) (count : Nat) :
    (state.popMany count).indents =
      state.indents.take (max 1 (state.indents.length - count)) := by
  have left : max 1 (state.frames.length + 1 - count) = state.frames.length - count + 1 := by omega
  rw [popMany, indents, indents, List.length_cons, List.length_reverse, left, List.take_succ_cons,
    List.reverse_drop]

/-- The kind of the innermost open type. -/
def scope (state : ScanState) : Option TypeKind :=
  state.types.head?.map fun scope => scope.head.kind

def openType (state : ScanState) (head : TypeHead) : ScanState :=
  { state with types := ⟨head, state.depth⟩ :: state.types }

/-- The state outside the innermost type. -/
def closeType (state : ScanState) : Except Fault ScanState :=
  match state.types with
  | [] => .error .noOpenType
  | _ :: types => .ok { state with types }

end ScanState

/-- A line in its file: its index, the lines before it from the nearest on, and the lines after. -/
structure Site where
  index : Nat
  before : List Line
  line : Line
  after : List Line

namespace Site

def number (site : Site) : Nat :=
  site.index + 1

def view (site : Site) (settings : Settings) (state : ScanState) : View :=
  ⟨settings, state.scope, site.before, site.line, site.after⟩

/-- The nearest line with code after the site. -/
def nextCode? (site : Site) : Option Line :=
  site.after.find? Line.hasCode

/-- The index of the nearest line with code after the site. -/
def nextCodeIndex? (site : Site) : Option Nat :=
  (site.after.findIdx? Line.hasCode).map (site.index + 1 + ·)

end Site

end HouseStyle
