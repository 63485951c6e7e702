import HouseStyle.Check
import HouseStyle.Files.Tree
import HouseStyle.Service.Environment

/-!
Contract: check requests and their answers.

Owns: the fields of a request, what is wrong with a malformed one, and the answer to a request.
Does not own: transport.
-/

namespace HouseStyle.Service

/-- A field of a request as it arrives. -/
inductive FieldValue where
  | absent
  | null
  | text (content : String)
  | other
deriving DecidableEq, Repr

/-- What is wrong with a field: it is no text, or it is none of the styles. -/
inductive FieldProblem where
  | notText
  | notStyle
deriving DecidableEq, Repr

def FieldProblem.name : FieldProblem → String
  | .notText => "string_type"
  | .notStyle => "enum"

/-- A request as it arrives. -/
structure RawRequest where
  code : FieldValue
  filename : FieldValue
  filePath : FieldValue
  style : FieldValue

/-- A request: a text with a name, or a path, and possibly a style. -/
structure Request where
  code : Option String
  filename : Option String
  filePath : Option String
  style : Option Style

/-- The text of a field, if it has one, given what stands for an absent field. -/
def FieldValue.text? (absent : Option String) : FieldValue → Option String
  | .absent => absent
  | .text content => some content
  | _ => none

/-- What is wrong with a field that has to be a text. -/
def textProblem? (name : String) : FieldValue → Option (String × FieldProblem)
  | .other => some (name, .notText)
  | _ => none

/-- The style that a text names exactly. -/
def exactStyle? (text : String) : Option Style :=
  Style.all.find? fun style => style.name == text

/-- What is wrong with a field that has to be a style. -/
def styleProblem? (name : String) : FieldValue → Option (String × FieldProblem)
  | .other => some (name, .notStyle)
  | .text content => if (exactStyle? content).isSome then none else some (name, .notStyle)
  | _ => none

/-- The fields that are wrong, in the order of the fields. -/
def RawRequest.problems (raw : RawRequest) : List (String × FieldProblem) :=
  (textProblem? "code" raw.code).toList ++ (textProblem? "filename" raw.filename).toList ++
    (textProblem? "file_path" raw.filePath).toList ++ (styleProblem? "style" raw.style).toList

/-- The name of a posted text that has none. -/
def defaultFilename : String := "input.c"

/-- The request that arrived, unless a field is wrong. -/
def RawRequest.validate (raw : RawRequest) : Except (List (String × FieldProblem)) Request :=
  if raw.problems.isEmpty then
    .ok ⟨raw.code.text? none, raw.filename.text? (some defaultFilename), raw.filePath.text? none,
      (raw.style.text? none).bind exactStyle?⟩
  else .error raw.problems

/-- Why a request is refused. -/
inductive Refusal where
  | relativePath
  | missingFile (path : String)
  | unreadable (fault : Fault)
  | nothingToCheck
  | failed (fault : Fault)

/-- The status of a refusal; a failure of the check itself has none. -/
def Refusal.status? : Refusal → Option Nat
  | .relativePath => some 400
  | .missingFile _ => some 404
  | .unreadable _ => some 400
  | .nothingToCheck => some 400
  | .failed _ => none

/-- The message of a refusal. -/
def Refusal.message : Refusal → String
  | .relativePath => "file_path must be absolute"
  | .missingFile path => "File not found: " ++ path
  | .unreadable fault => fault.message
  | .nothingToCheck => "Provide either code or file_path."
  | .failed fault => fault.message

/-- The answer to a request: the checked file's name and its diagnostics. -/
structure Answer where
  file : String
  diagnostics : List Diagnostic

/-- A failed check is a refusal. -/
def checked (result : Except Fault (List Diagnostic)) : Except Refusal (List Diagnostic) :=
  result.mapError Refusal.failed

def answerFile (tree : FileTree) (settings : Settings) (text : String) : Except Refusal Answer := do
  let path := Path.ofString text
  if !path.isAbsolute then throw .relativePath
  let found ← (tree.look path).mapError Refusal.failed
  if found.isNone then throw (.missingFile text)
  match tree.readSource path with
  | .error fault => throw (.unreadable fault)
  | .ok source =>
    let diagnostics ← checked (checkText settings path source)
    return ⟨path.toString, diagnostics⟩

def answerText (settings : Settings) (filename : Option String) (code : String) :
    Except Refusal Answer := do
  let name := (filename.filter (· != "")).getD defaultFilename
  let diagnostics ← checked (checkText settings (.ofString name) code.toList)
  return ⟨name, diagnostics⟩

/-- The answer to a request; a path goes before a text, and an empty path is none. -/
def answer (environment : Environment) (tree : FileTree) (request : Request) :
    Except Refusal Answer :=
  let settings := environment.settings request.style
  match request.filePath.filter (· != "") with
  | some path => answerFile tree settings path
  | none =>
    match request.code with
    | some code => answerText settings request.filename code
    | none => .error .nothingToCheck

def health : String := "ok"

end HouseStyle.Service
