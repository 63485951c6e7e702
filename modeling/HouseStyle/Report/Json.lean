import HouseStyle.Diagnostic.Basic
import HouseStyle.Files.Path
import HouseStyle.Style

/-!
Contract: the report on files for programs.

Owns: the records of a report, their written form, and the name of the report's file.
Does not own: writing the file.

The written form is a JSON array with one object per record, indented by two. A string escapes the
double quote, the backslash and the control characters below the space, and nothing else.
-/

namespace HouseStyle.Report

/-- The record of one diagnostic; the column counts from one. -/
structure Entry where
  number : Nat
  file : String
  level : String
  line : Int
  column : Int
  message : String
deriving DecidableEq, Repr

/-- The records of diagnostics, the first of which has the given number. -/
def entriesOf (path : Path) (number : Nat) : List Diagnostic → List Entry
  | [] => []
  | diagnostic :: rest =>
    ⟨number, path.toString, diagnostic.severity.name, diagnostic.line, diagnostic.column + 1,
      diagnostic.message⟩ :: entriesOf path (number + 1) rest

def entries (diagnostics : List Diagnostic) (path : Path) : List Entry :=
  entriesOf path 1 diagnostics

/-- The diagnostics of several files, in the order in which the files were checked. -/
abbrev Results := List (Path × List Diagnostic)

/-- The results with those of a further file; a file checked again keeps its place. -/
def Results.insert (path : Path) (diagnostics : List Diagnostic) : Results → Results
  | [] => [(path, diagnostics)]
  | (other, found) :: rest =>
    if other = path then (path, diagnostics) :: rest
    else (other, found) :: Results.insert path diagnostics rest

/-- The records of several files; each file counts from one. -/
def allEntries (results : Results) : List Entry :=
  results.flatMap fun (path, diagnostics) => entries diagnostics path

def hexDigit (value : Nat) : Char :=
  Nat.digitChar (value % 16)

def escaped (c : Char) : List Char :=
  if c == '"' then ['\\', '"']
  else if c == '\\' then ['\\', '\\']
  else if c == '\n' then ['\\', 'n']
  else if c == '\r' then ['\\', 'r']
  else if c == '\t' then ['\\', 't']
  else if c.toNat == 0x08 then ['\\', 'b']
  else if c.toNat == 0x0C then ['\\', 'f']
  else if c.toNat < 0x20 then ['\\', 'u', '0', '0', hexDigit (c.toNat / 16), hexDigit c.toNat]
  else [c]

def jsonString (text : String) : String :=
  String.ofList ('"' :: text.toList.flatMap escaped ++ ['"'])

def Entry.fields (entry : Entry) : List (String × String) :=
  [("error_num", toString entry.number), ("file", jsonString entry.file),
    ("level", jsonString entry.level), ("line", toString entry.line),
    ("column", toString entry.column), ("error_msg", jsonString entry.message)]

def Entry.written (entry : Entry) : String :=
  let fields := entry.fields.map fun (name, value) => "    " ++ jsonString name ++ ": " ++ value
  "  \x7b\n" ++ ",\n".intercalate fields ++ "\n  \x7d"

def json (entries : List Entry) : String :=
  if entries.isEmpty then "[]"
  else "[\n" ++ ",\n".intercalate (entries.map Entry.written) ++ "\n]"

/-- A moment on a clock. -/
structure Moment where
  year : Nat
  month : Nat
  day : Nat
  hour : Nat
  minute : Nat
  second : Nat
deriving DecidableEq, Repr

/-- A number with at least two digits. -/
def twoDigits (value : Nat) : String :=
  if value < 10 then "0" ++ toString value else toString value

/-- A moment as the digits of its date and of its time. -/
def Moment.stamp (moment : Moment) : String :=
  toString moment.year ++ twoDigits moment.month ++ twoDigits moment.day ++ "_" ++
    twoDigits moment.hour ++ twoDigits moment.minute ++ twoDigits moment.second

def fileName (style : Style) (stamp : String) : String :=
  "errors_" ++ style.name ++ "_" ++ stamp ++ ".json"

end HouseStyle.Report
