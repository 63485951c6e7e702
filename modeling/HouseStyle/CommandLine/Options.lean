import HouseStyle.Files.Path
import HouseStyle.Pattern.Run
import HouseStyle.Style
import HouseStyle.Text.Numeral

/-!
Contract: reading the command line.

Owns: the options, their spellings, and the rules by which words of the command line become options
and values.
Does not own: what the program does with the options.

Options may stand anywhere. A long option may be cut short as long as it stays unique, and takes its
value after an equals sign or from the next word. Short options may be written together, and the
last of them takes the rest of the word or the next word as its value. A double dash ends the
options; written as a value in the word of its option, it is no value, and the option names nothing.
A negative number and a word with a space are values even with a dash in front.
-/

namespace HouseStyle.CommandLine

/-- The options of the program. -/
inductive Flag where
  | help
  | verbose
  | json
  | outputDir
  | maxLineLength
  | version
deriving DecidableEq, Repr

namespace Flag

def takesValue : Flag → Bool
  | outputDir | maxLineLength => true
  | _ => false

def spellings : List (List Char × Flag) :=
  [("-h", help), ("--help", help), ("-v", verbose), ("--verbose", verbose), ("-j", json),
    ("--json", json), ("-o", outputDir), ("--output-dir", outputDir),
    ("--max-line-length", maxLineLength), ("--version", version)].map
      fun (text, flag) => (text.toList, flag)

/-- The option that a word spells out. -/
def ofSpelling? (text : List Char) : Option Flag :=
  spellings.lookup text

end Flag

/-- What a word of the command line is. -/
inductive Token where
  /-- A value. -/
  | value (text : List Char)
  /-- An option, in its long or its short form, with what is written after it in the same word. -/
  | option (flag : Flag) (isLong : Bool) (attached : Option (List Char))
  /-- A word that looks like an option and is none. -/
  | unknown
  /-- The double dash that ends the options. -/
  | divider
deriving DecidableEq, Repr

/-- Why the command line is not carried out: it is malformed, or it asks for help or the version. -/
inductive Stop where
  | usage
  | help
  | version
deriving DecidableEq, Repr

/-- A negative number, whole or with a decimal point. -/
def negativeNumber : Pattern :=
  .atStart ++ .char '-' ++
    ((.several Text.isDecimal ++ .atEnd) <|>
      (.many Text.isDecimal ++ .char '.' ++ .several Text.isDecimal ++ .atEnd))

/-- A text cut at its first equals sign. -/
def cutAtEquals (text : List Char) : List Char × Option (List Char) :=
  let name := text.takeWhile (· != '=')
  match text.drop name.length with
  | [] => (name, none)
  | _ :: rest => (name, some rest)

def isLong (text : List Char) : Bool :=
  ['-', '-'].isPrefixOf text

/-- The options that a word may be meant for when it is no exact spelling. -/
def candidates (text : List Char) : List Token :=
  if isLong text then
    let (name, attached) := cutAtEquals text
    Flag.spellings.filterMap fun (spelling, flag) =>
      if name.isPrefixOf spelling then some (.option flag true attached) else none
  else
    Flag.spellings.filterMap fun (spelling, flag) =>
      if spelling == text.take 2 then some (.option flag false (some (text.drop 2)))
      else if text.isPrefixOf spelling then some (.option flag (isLong spelling) none)
      else none

/-- The token of a word that starts with a dash and is no exact spelling. -/
def classifyDashed (text : List Char) : Except Stop Token :=
  match candidates text with
  | [token] => .ok token
  | _ :: _ :: _ => .error .usage
  | [] =>
    if negativeNumber.fits text || text.contains ' ' then .ok (.value text) else .ok .unknown

def classify (text : List Char) : Except Stop Token :=
  if text.head? != some '-' then .ok (.value text)
  else
    match Flag.ofSpelling? text with
    | some flag => .ok (.option flag (isLong text) none)
    | none =>
      if text.length == 1 then .ok (.value text)
      else
        match cutAtEquals text with
        | (name, some attached) =>
          match Flag.ofSpelling? name with
          | some flag => .ok (.option flag (isLong name) (some attached))
          | none => classifyDashed text
        | (_, none) => classifyDashed text

def tokens : List (List Char) → Except Stop (List Token)
  | [] => .ok []
  | text :: rest =>
    if text == ['-', '-'] then .ok (.divider :: rest.map Token.value)
    else do
      let token ← classify text
      let others ← tokens rest
      return token :: others

/-- What the command line says so far: the style, the target (none of a target stands for one that
was lost between two double dashes), the options (none stands for one that names nothing), and
whether something was left over. -/
structure Reading where
  style : Option Style
  target : Option (Option Path)
  verbose : Bool
  json : Bool
  outputDir : Option Path
  maxLineLength : Option Int
  hasExtra : Bool

/-- The reading before the first word. -/
def Reading.initial (outputDir : Path) : Reading :=
  { style := none
    target := none
    verbose := false
    json := false
    outputDir := some outputDir
    maxLineLength := some Settings.defaultLimit
    hasExtra := false }

/-- The reading after an option without value. -/
def Reading.switch (reading : Reading) : Flag → Except Stop Reading
  | .help => .error .help
  | .version => .error .version
  | .verbose => .ok { reading with verbose := true }
  | .json => .ok { reading with json := true }
  | .outputDir | .maxLineLength => .error .usage

/-- The reading after an option with its value, if that is one. -/
def Reading.assign (reading : Reading) (flag : Flag) (value : Option (List Char)) :
    Except Stop Reading :=
  match flag, value with
  | .outputDir, value =>
    .ok { reading with outputDir := value.map fun text => .ofString (String.ofList text) }
  | .maxLineLength, none => .ok { reading with maxLineLength := none }
  | .maxLineLength, some text =>
    match Text.readInt? text with
    | some limit => .ok { reading with maxLineLength := some limit }
    | none => .error .usage
  | _, _ => .error .usage

/-- Where the value of an option is: in the next word, or in the word of the option, where a double
dash is none. -/
inductive Supply where
  | nextWord
  | sameWord (value : Option (List Char))
deriving DecidableEq, Repr

def Supply.ofText (text : List Char) : Supply :=
  .sameWord (if text == ['-', '-'] then none else some text)

/-- The options that are written together in one word: those without value, and the last one if it
has a value. -/
structure Cluster where
  switches : List Flag
  last : Option (Flag × Supply)
deriving DecidableEq, Repr

/-- The options in a word of short options, from the characters after those already read, none of
which has a value. Every character has to be an option up to the first that takes the rest of the
word as its value. -/
def expandShort (switches : List Flag) : List Char → Except Stop Cluster
  | [] => .ok ⟨switches, none⟩
  | c :: rest =>
    match Flag.ofSpelling? ['-', c] with
    | none => .error .usage
    | some flag =>
      if flag.takesValue then
        .ok ⟨switches, some (flag, if rest.isEmpty then .nextWord else .ofText rest)⟩
      else expandShort (switches ++ [flag]) rest

/-- The options in a word. What is attached to a short option without value are more short
options. -/
def expand (flag : Flag) (isLong : Bool) (attached : Option (List Char)) : Except Stop Cluster :=
  match attached with
  | none => .ok (if flag.takesValue then ⟨[], some (flag, .nextWord)⟩ else ⟨[flag], none⟩)
  | some text =>
    if flag.takesValue then .ok ⟨[], some (flag, .ofText text)⟩
    else if isLong || text.isEmpty then .error .usage
    else expandShort [flag] text

/-- The reading after a further value: the style comes first and the target second. A double dash
before the value shields it from being taken for one itself. -/
def Reading.place (reading : Reading) (text : List Char) (shielded : Bool) :
    Except Stop Reading :=
  match reading.style with
  | none =>
    match Style.all.find? fun style => style.name.toList == text with
    | some style => .ok { reading with style := some style }
    | none => .error .usage
  | some _ =>
    match reading.target with
    | some _ => .ok { reading with hasExtra := true }
    | none =>
      if text == ['-', '-'] && !shielded then .ok { reading with target := some none }
      else .ok { reading with target := some (some (.ofString (String.ofList text))) }

def Reading.wantsValue (reading : Reading) : Bool :=
  reading.target.isNone

/-- The reading after the tokens from the double dash on. When the double dash directly follows a
value that was taken, it belongs to that value. -/
def readAfterDivider (reading : Reading) (belongs : Bool) (values : List Token) :
    Except Stop Reading :=
  let shield := !belongs && reading.wantsValue && !values.isEmpty
  let start := if belongs || shield then reading else { reading with hasExtra := true }
  go start shield values
where
  /-- Takes the values after the double dash, the first of which may be shielded. -/
  go (reading : Reading) (shielded : Bool) : List Token → Except Stop Reading
    | [] => .ok reading
    | .value text :: rest => do
      let reading ← reading.place text shielded
      go reading false rest
    | _ :: rest => go { reading with hasExtra := true } false rest

/-- The reading after tokens; `afterValue` tells that the token before them was a value that was
taken. -/
def readTokens (reading : Reading) (afterValue : Bool) : List Token → Except Stop Reading
  | [] => .ok reading
  | .divider :: rest => readAfterDivider reading afterValue rest
  | .unknown :: rest => readTokens { reading with hasExtra := true } false rest
  | .value text :: rest => do
    let taken := reading.wantsValue
    let reading ← reading.place text false
    readTokens reading taken rest
  | .option flag isLong attached :: rest => do
    let cluster ← expand flag isLong attached
    match cluster.last with
    | none => do
      let reading ← cluster.switches.foldlM Reading.switch reading
      readTokens reading false rest
    | some (last, .sameWord value) => do
      let reading ← cluster.switches.foldlM Reading.switch reading
      let reading ← reading.assign last value
      readTokens reading false rest
    | some (last, .nextWord) =>
      match rest with
      | .value text :: others => do
        let reading ← cluster.switches.foldlM Reading.switch reading
        let reading ← reading.assign last (some text)
        readTokens reading false others
      | _ => .error .usage

/-- A command line that can be carried out. The target, the output directory and the line length
may name nothing. -/
structure Options where
  style : Style
  target : Option Path
  json : Bool
  outputDir : Option Path
  maxLineLength : Option Int

def Options.parse (outputDir : Path) (arguments : List String) : Except Stop Options := do
  let tokens ← tokens (arguments.map String.toList)
  let reading ← readTokens (.initial outputDir) false tokens
  match reading.style, reading.target, reading.hasExtra with
  | some style, some target, false =>
    return ⟨style, target, reading.json, reading.outputDir, reading.maxLineLength⟩
  | _, _, _ => throw .usage

end HouseStyle.CommandLine
