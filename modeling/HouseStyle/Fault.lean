/-!
Contract: the ways in which an operation of this library fails.

Owns: every cause of failure and its message.
Does not own: style violations, which are `Diagnostic`s and no failures.
-/

namespace HouseStyle

/-- Why a file cannot be read or a directory cannot be made. -/
inductive FileProblem where
  | missing
  | isDirectory
  | notDirectory
  | exists
  | nameTooLong
deriving DecidableEq, Repr

def FileProblem.reason : FileProblem → String
  | .missing => "No such file or directory"
  | .isDirectory => "Is a directory"
  | .notDirectory => "Not a directory"
  | .exists => "File exists"
  | .nameTooLong => "File name too long"

def FileProblem.code : FileProblem → Nat
  | .missing => 2
  | .exists => 17
  | .notDirectory => 20
  | .isDirectory => 21
  | .nameTooLong => 36

/-- The cause of a failed operation. -/
inductive Fault where
  /-- A numeral has more digits than may be read or written. Those of one to be read are counted. -/
  | numeralTooLong (digits : Option Nat)
  /-- A text lacks the word that was asked for. -/
  | wordNotFound
  /-- A message has more places than arguments. -/
  | missingArgument
  /-- A message has fewer places than arguments. -/
  | unusedArgument
  /-- A decimal place of a message got a word. -/
  | numberExpected
  /-- A hexadecimal place of a message got a word. -/
  | integerExpected
  /-- A style is neither of the two that exist; none stands for no text at all. -/
  | unknownStyle (text : Option String)
  /-- A type was closed where none was open. -/
  | noOpenType
  /-- A command line has a target that names nothing. -/
  | noTarget
  /-- A command line has a line length that names nothing. -/
  | noLineLength
  /-- A command line has an output directory that names nothing. -/
  | noOutputDir
  /-- A line chains too many control words. -/
  | chainTooLong
  /-- Too many nested directories have to be made. -/
  | directoriesTooDeep
  /-- A path holds a null character. -/
  | nullInPath
  /-- A width is beyond the range of positions. -/
  | widthOutOfRange
  /-- A text is too long to be held. -/
  | textTooLong
  /-- A source file cannot be read. -/
  | unreadable (path : String) (problem : FileProblem)
  /-- The system refuses a path, which is given as it is shown. -/
  | refused (quotedPath : String) (problem : FileProblem)
deriving DecidableEq, Repr

def Fault.message : Fault → String
  | .numeralTooLong digits =>
    let counted := digits.elim "" fun digits => ": value has " ++ toString digits ++ " digits"
    "Exceeds the limit (4300 digits) for integer string conversion" ++ counted ++
      "; use sys.set_int_max_str_digits() to increase the limit"
  | .wordNotFound => "substring not found"
  | .missingArgument => "not enough arguments for format string"
  | .unusedArgument => "not all arguments converted during string formatting"
  | .numberExpected => "%d format: a real number is required, not str"
  | .integerExpected => "%X format: an integer is required, not str"
  | .unknownStyle text =>
    "unknown style '" ++ text.getD "None" ++ "': expected 'kr' or 'allman'"
  | .noOpenType => "pop from empty list"
  | .noTarget => "'list' object has no attribute 'is_dir'"
  | .noLineLength => "'>' not supported between instances of 'int' and 'list'"
  | .noOutputDir => "expected str, bytes or os.PathLike object, not list"
  | .chainTooLong => "maximum recursion depth exceeded"
  | .directoriesTooDeep => "maximum recursion depth exceeded while calling a Python object"
  | .nullInPath => "embedded null byte"
  | .widthOutOfRange => "cannot fit 'int' into an index-sized integer"
  | .textTooLong => ""
  | .unreadable path problem => "Could not read " ++ path ++ ": " ++ problem.reason
  | .refused quotedPath problem =>
    "[Errno " ++ toString problem.code ++ "] " ++ problem.reason ++ ": " ++ quotedPath

end HouseStyle
