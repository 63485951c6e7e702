import HouseStyle.Diagnostic.Basic
import HouseStyle.Lexicon
import HouseStyle.Source.Line
import HouseStyle.Source.Lines
import HouseStyle.Style
import HouseStyle.Text.Search

/-!
Contract: what a rule sees, and what it answers.

Owns: the view of a line in its file, the form of a rule, and the shapes of findings.
Does not own: the rules, which the other modules under `Rule` state.
-/

namespace HouseStyle

/-- The three kinds of types with members. -/
inductive TypeKind where
  | struct
  | union
  | enum
deriving DecidableEq, Repr

def TypeKind.word : TypeKind → String
  | .struct => "struct"
  | .union => "union"
  | .enum => "enum"

def TypeKind.ofWord? (word : List Char) : Option TypeKind :=
  [TypeKind.struct, .union, .enum].find? fun kind => kind.word.toList == word

/-- A line with the lines around it, the settings and the kind of the innermost open type. The lines
before are listed from the nearest on. -/
structure View where
  settings : Settings
  scope : Option TypeKind
  before : List Line
  line : Line
  after : List Line

namespace View

def code (view : View) : List Char :=
  view.line.code

def masked (view : View) : List Char :=
  view.line.masked

/-- The code view without blanks at its ends. -/
def stripped (view : View) : List Char :=
  view.line.stripped

/-- The nearest line with code before this one. -/
def previousCode? (view : View) : Option Line :=
  view.before.find? Line.hasCode

/-- The nearest line with code after this one. -/
def nextCode? (view : View) : Option Line :=
  view.after.find? Line.hasCode

/-- The code of the nearest line with code before this one, or nothing. -/
def previousCode (view : View) : List Char :=
  (view.previousCode?.map Line.code).getD []

def isDirective (view : View) : Bool :=
  view.stripped.head? == some '#'

def isDefinition (view : View) : Bool :=
  Lexicon.definition.fits view.code

end View

def Kind.on (kind : Kind) (excerpt : Excerpt) : Finding :=
  ⟨kind, excerpt.start, excerpt.length, []⟩

def Kind.onWith (kind : Kind) (excerpt : Excerpt) (arguments : List Argument) : Finding :=
  ⟨kind, excerpt.start, excerpt.length, arguments⟩

def Kind.quoting (kind : Kind) (excerpt : Excerpt) : Finding :=
  kind.onWith excerpt [.word excerpt.toString]

def Kind.atColumn (kind : Kind) (column : Nat) : Finding :=
  ⟨kind, column, 1, []⟩

def Finding.shift (finding : Finding) (offset : Int) : Finding :=
  { finding with column := offset + finding.column }

/-- The position of a word that has to be in the text at or after `start`. -/
def Text.index (word : List Char) (start : Nat) (text : List Char) : Except Fault Nat :=
  match Text.findFrom? word start text with
  | some position => .ok position
  | none => .error .wordNotFound

/-- When a rule runs: on every line that is not blank, on every line with code, or after the
scanner has settled its state for the line. -/
inductive Phase where
  | raw
  | content
  | statement
deriving DecidableEq, Repr

def Phase.name : Phase → String
  | .raw => "raw"
  | .content => "content"
  | .statement => "statement"

/-- A rule: its printed name, when it runs, the kinds it can find, and its check. -/
structure Rule where
  name : String
  phase : Phase
  kinds : List Kind
  check : View → Except Fault (List Finding)

end HouseStyle
