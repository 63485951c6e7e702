import HouseStyle.Files.Path
import HouseStyle.Style
import HouseStyle.Text.Numeral
import HouseStyle.Text.Quoted

/-!
Contract: the settings that come from environment variables.

Owns: the variables, their defaults, and what is logged about them at the start.
Does not own: reading the variables from the machine.

A variable that cannot be used is replaced by its default, and the log says so.
-/

namespace HouseStyle

abbrev Environment := List (String × String)

namespace Environment

/-- The text of a variable without blanks around it, or nothing. -/
def trimmed (environment : Environment) (name default : String) : String :=
  String.ofList (Text.trim ((environment.lookup name).getD default).toList)

/-- The style of requests that name none. -/
def style (environment : Environment) : Style :=
  ((environment.lookup "CSTYLE_STYLE").bind Style.parse?).getD .kr

/-- A positive number that a text spells. -/
def positive? (text : String) : Option Int :=
  (Text.readInt? text.toList).filter fun value => 0 < value

/-- The greatest line length. -/
def limit (environment : Environment) : Int :=
  ((environment.lookup "CSTYLE_MAX_LINE_LENGTH").bind positive?).getD Settings.defaultLimit

def host (environment : Environment) : String :=
  environment.trimmed "HOST" "0.0.0.0"

def port (environment : Environment) : Int :=
  ((environment.lookup "PORT").bind fun text => Text.readInt? text.toList).getD 8000

def outputDir (environment : Environment) : Path :=
  let text := environment.trimmed "CSTYLE_OUTPUT_DIR" ""
  .ofString (if text == "" then "out" else text)

def settings (environment : Environment) (requested : Option Style) : Settings :=
  .of (requested.getD environment.style) environment.limit

end Environment

/-- How grave a log message is. -/
inductive LogLevel where
  | info
  | warning
deriving DecidableEq, Repr

def LogLevel.name : LogLevel → String
  | .info => "INFO"
  | .warning => "WARNING"

namespace Environment

/-- The warning about a style that is none. -/
def styleLog (environment : Environment) : List (LogLevel × String) :=
  match environment.lookup "CSTYLE_STYLE" with
  | none => []
  | some text =>
    if (Style.parse? text).isSome then []
    else [(.warning, "CSTYLE_STYLE=" ++ Text.quoted text ++ " is not 'kr' or 'allman'; using '" ++
      environment.style.name ++ "'")]

/-- The warning about a line length that is no positive number. -/
def limitLog (environment : Environment) : List (LogLevel × String) :=
  match environment.lookup "CSTYLE_MAX_LINE_LENGTH" with
  | none => []
  | some text =>
    if (positive? text).isSome then []
    else [(.warning, "CSTYLE_MAX_LINE_LENGTH=" ++ Text.quoted text ++
      " is not a positive integer; using " ++ toString environment.limit)]

def log (environment : Environment) : List (LogLevel × String) :=
  environment.styleLog ++ environment.limitLog ++
    [(.info, "Default style '" ++ environment.style.name ++ "', max line length " ++
      toString environment.limit)]

end Environment

end HouseStyle
