import HouseStyle.Diagnostic.Basic
import HouseStyle.File.Source
import HouseStyle.Rule.View

/-!
Contract: include directives and header guards.

Owns: the rules on the order of inclusions, on headers that include themselves, and on the
protection of headers.
Does not own: the indentation of directives, which the scan checks.
-/

namespace HouseStyle.Includes

open Lexicon

/-- An inclusion: its target with the brackets or quotes, the number of its line, and the line. -/
structure Inclusion where
  target : Excerpt
  number : Nat
  raw : List Char
deriving DecidableEq, Repr

/-- A target without its brackets or quotes. -/
def Inclusion.file (inclusion : Inclusion) : List Char :=
  inclusion.target.text.tail.dropLast

def Inclusion.isSystem (inclusion : Inclusion) : Bool :=
  inclusion.target.text.head? == some '<'

/-- The inclusion that a line holds, unless it stands in a comment. -/
def ofLine? (number : Nat) (line : Line) : Option Inclusion := do
  let found ← inclusion.matchStart? line.raw
  let target ← found.part? .target
  if (Text.trimLeft line.code).head? == some '#' then some ⟨target, number, line.raw⟩ else none

/-- The inclusions of lines, the first of which has the given number. -/
def fromLines (number : Nat) : List Line → List Inclusion
  | [] => []
  | line :: rest => (ofLine? number line).toList ++ fromLines (number + 1) rest

/-- The index of the first text that is smaller than the one before it. -/
def firstUnsortedFrom? (index : Nat) (previous : List Char) : List (List Char) → Option Nat
  | [] => none
  | key :: rest => if key < previous then some index else firstUnsortedFrom? (index + 1) key rest

/-- The index of the first text that is smaller than the one before it, by code points. -/
def firstUnsorted? : List (List Char) → Option Nat
  | [] => none
  | key :: rest => firstUnsortedFrom? 1 key rest

def guardName (stem : List Char) : List Char :=
  stem.map (fun c => if c.isAlphanum then c.toUpper else '_') ++ ['_', 'H']

/-- A complaint about a whole directive. -/
def directiveDiagnostic (kind : Kind) (inclusion : Inclusion) (arguments : List Argument) :
    Except Fault Diagnostic := do
  let start ← Text.index ['#'] 0 inclusion.raw
  kind.diagnostic inclusion.number start ((inclusion.raw.length : Int) - start) arguments

def recursionDiagnostics (path : Path) (inclusions : List Inclusion) :
    Except Fault (List Diagnostic) :=
  (inclusions.filter fun inclusion =>
    !inclusion.isSystem && path.isHeader && String.ofList inclusion.file == path.name).mapM
      fun inclusion =>
        Kind.recursiveInclusion.diagnostic inclusion.number (inclusion.target.start + 1)
          ((inclusion.target.length : Int) - 2) [.word (String.ofList inclusion.file)]

def mixedDiagnostics (system project : List Inclusion) : Except Fault (List Diagnostic) := do
  match project.head?, system.getLast? with
  | some first, some last =>
    if first.number < last.number then
      let diagnostic ← directiveDiagnostic .systemIncludesFirst first
        [.word (String.ofList first.file)]
      return [diagnostic]
    else return []
  | _, _ => return []

/-- The inclusion just before the first one that is out of order. -/
def beforeUnsorted? (inclusions : List Inclusion) : Option Inclusion := do
  let index ← firstUnsorted? (inclusions.map fun inclusion => inclusion.target.text)
  inclusions[index - 1]?

/-- The complaint about system headers that are not sorted. -/
def systemDiagnostics (system : List Inclusion) : Except Fault (List Diagnostic) := do
  let some inclusion := beforeUnsorted? system | return []
  let diagnostic ← directiveDiagnostic .systemIncludesUnsorted inclusion []
  return [diagnostic]

/-- The complaint about project headers that are not sorted. -/
def projectDiagnostics (project : List Inclusion) : Except Fault (List Diagnostic) := do
  let some inclusion := beforeUnsorted? project | return []
  let diagnostic ← directiveDiagnostic .projectIncludesUnsorted inclusion
    [.word (String.ofList inclusion.file)]
  return [diagnostic]

/-- The directive that asks to read a header only once. -/
def pragmaOnce : Pattern :=
  directive "pragma" ++ .gap ++ .word "once" ++ .blanks ++ .atEnd

def hasGuard (guard : List Char) (raws : List (List Char)) : Bool :=
  let directives := raws.map Text.squeeze
  directives.contains ("#ifndef ".toList ++ guard) &&
    directives.contains ("#define ".toList ++ guard) &&
    directives.any fun directive => "#endif".toList.isPrefixOf directive

/-- The complaint about a header that is protected twice or not at all. -/
def guardDiagnostics (file : SourceFile) : Except Fault (List Diagnostic) := do
  let guard := guardName file.path.stem.toList
  match hasGuard guard file.raws, file.raws.findIdx? fun raw => pragmaOnce.fits raw with
  | true, some index =>
    let length := (file.raws[index]?.getD []).length
    let diagnostic ← Kind.pragmaOnceAndGuard.diagnostic (index + 1) 0 length []
    return [diagnostic]
  | false, none =>
    let diagnostic ← Kind.missingHeaderGuard.diagnostic 1 0 0 [.word (String.ofList guard)]
    return [diagnostic]
  | _, _ => return []

/-- The complaints about the inclusions and the guard of a file. -/
def diagnostics (file : SourceFile) : Except Fault (List Diagnostic) := do
  let inclusions := fromLines 1 file.lines
  let system := inclusions.filter Inclusion.isSystem
  let project := inclusions.filter fun inclusion => !inclusion.isSystem
  let recursion ← recursionDiagnostics file.path inclusions
  let mixed ← mixedDiagnostics system project
  let systemOrder ← systemDiagnostics system
  let projectOrder ← projectDiagnostics project
  let guard ← if file.path.isHeader then guardDiagnostics file else pure []
  return recursion ++ mixed ++ systemOrder ++ projectOrder ++ guard

end HouseStyle.Includes
