import HouseStyle.Pattern.Basic
import HouseStyle.Text.Excerpt

/-!
Contract: matching a pattern against a text.

Owns: the matcher with its backtracking, and search for the first match or all matches.
Does not own: the list of all ways to match, which is `Pattern.outcomes`.

The matcher hands each way to match to a continuation, in order, until the continuation accepts
one. It is total: it follows the pattern, and a repetition makes at most as many rounds as
characters are left.
-/

namespace HouseStyle

/-- A stretch of a text: the position of its first character and the position just after it. -/
structure Span where
  start : Nat
  stop : Nat
deriving DecidableEq, Repr

/-- A place in a text, with the parts recorded on the way to it, latest first. -/
structure Cursor where
  position : Nat
  previous : Option Char
  rest : List Char
  captures : List (Part × Span)
deriving DecidableEq, Repr

namespace Cursor

def atStart (text : List Char) : Cursor :=
  ⟨0, none, text, []⟩

def advance (cursor : Cursor) (c : Char) (rest : List Char) : Cursor :=
  ⟨cursor.position + 1, some c, rest, cursor.captures⟩

/-- The later place, with what lies between recorded as a part. -/
def record (start : Cursor) (part : Part) (stop : Cursor) : Cursor :=
  { stop with captures := (part, ⟨start.position, stop.position⟩) :: stop.captures }

/-- The text of a span that starts at this place or later. -/
def excerpt (cursor : Cursor) (span : Span) : Excerpt :=
  ⟨span.start, (cursor.rest.drop (span.start - cursor.position)).take (span.stop - span.start)⟩

end Cursor

/-- A match: the whole piece, and the parts recorded in it. -/
structure Match where
  whole : Excerpt
  parts : List (Part × Excerpt)
deriving DecidableEq, Repr

/-- The part of a match, if the pattern passed through it. -/
def Match.part? (found : Match) (part : Part) : Option Excerpt :=
  found.parts.lookup part

def Match.start (found : Match) : Nat :=
  found.whole.start

def Match.stop (found : Match) : Nat :=
  found.whole.stop

namespace Pattern

variable {β : Type}

/-- A way to try matches: each is handed to the continuation until one is accepted. -/
abbrev Matcher (β : Type) := Cursor → (Cursor → Option β) → Option β

/-- The first answer at the end of a run of characters that pass the test, or else at an earlier
place of the run; the run starts at the place with this position and previous character. -/
def runMany (test : Char → Bool) (captures : List (Part × Span)) (accept : Cursor → Option β) :
    Nat → Option Char → List Char → Option β
  | position, previous, [] => accept ⟨position, previous, [], captures⟩
  | position, previous, c :: rest =>
    if test c then
      match runMany test captures accept (position + 1) (some c) rest with
      | some answer => some answer
      | none => accept ⟨position, previous, c :: rest, captures⟩
    else accept ⟨position, previous, c :: rest, captures⟩

/-- Rounds of a body, as many as the fuel allows; a round that consumes nothing is refused. -/
def rounds (body : Matcher β) : Nat → Matcher β
  | 0, cursor, accept => accept cursor
  | fuel + 1, cursor, accept =>
    match body cursor fun next =>
      if cursor.position < next.position then rounds body fuel next accept else none with
    | some answer => some answer
    | none => accept cursor

/-- Rounds of a body, as few as the continuation allows. -/
def lazyRounds (body : Matcher β) : Nat → Matcher β
  | 0, cursor, accept => accept cursor
  | fuel + 1, cursor, accept =>
    match accept cursor with
    | some answer => some answer
    | none => body cursor fun next =>
      if cursor.position < next.position then lazyRounds body fuel next accept else none

/-- The first answer that the continuation gives to a way of matching the pattern here. -/
def run : Pattern → Matcher β
  | empty, cursor, accept => accept cursor
  | one test, cursor, accept =>
    match cursor.rest with
    | [] => none
    | c :: rest => if test c then accept (cursor.advance c rest) else none
  | many test, cursor, accept =>
    runMany test cursor.captures accept cursor.position cursor.previous cursor.rest
  | seq first second, cursor, accept => run first cursor fun next => run second next accept
  | alt first second, cursor, accept =>
    match run first cursor accept with
    | some answer => some answer
    | none => run second cursor accept
  | star body, cursor, accept => rounds (run body) cursor.rest.length cursor accept
  | lazyStar body, cursor, accept => lazyRounds (run body) cursor.rest.length cursor accept
  | capture part body, cursor, accept =>
    run body cursor fun next => accept (cursor.record part next)
  | look test, cursor, accept => if test cursor.previous cursor.rest then accept cursor else none

/-- The first match that starts at the cursor. -/
def matchAt? (pattern : Pattern) (cursor : Cursor) : Option Match :=
  run pattern cursor fun stop =>
    some ⟨cursor.excerpt ⟨cursor.position, stop.position⟩,
      stop.captures.map fun (part, span) => (part, cursor.excerpt span)⟩

/-- The first match that starts where the text starts. -/
def matchStart? (pattern : Pattern) (text : List Char) : Option Match :=
  matchAt? pattern (.atStart text)

/-- Whether the pattern matches where the text starts. -/
def fits (pattern : Pattern) (text : List Char) : Bool :=
  (matchStart? pattern text).isSome

/-- Whether the pattern matches the whole text. -/
def fitsWhole (pattern : Pattern) (text : List Char) : Bool :=
  (run pattern (.atStart text) fun stop => if stop.rest.isEmpty then some () else none).isSome

/-- The first match at the place with this position and previous character or after it. -/
def searchAt? (pattern : Pattern) : Nat → Option Char → List Char → Option Match
  | position, previous, [] => matchAt? pattern ⟨position, previous, [], []⟩
  | position, previous, c :: rest =>
    match matchAt? pattern ⟨position, previous, c :: rest, []⟩ with
    | some found => some found
    | none => searchAt? pattern (position + 1) (some c) rest

/-- The first match in the text. -/
def search? (pattern : Pattern) (text : List Char) : Option Match :=
  searchAt? pattern 0 none text

/-- The first match that starts at `start` or later. -/
def searchFrom? (pattern : Pattern) (start : Nat) (text : List Char) : Option Match :=
  searchAt? pattern start (if start = 0 then none else text[start - 1]?) (text.drop start)

/-- Whether the pattern matches somewhere in the text. -/
def occurs (pattern : Pattern) (text : List Char) : Bool :=
  (search? pattern text).isSome

/-- The matches from this place on, after skipping the given number of characters. -/
def findAllAt (pattern : Pattern) : Nat → Nat → Option Char → List Char → List Match
  | 0, position, previous, [] => (matchAt? pattern ⟨position, previous, [], []⟩).toList
  | _ + 1, _, _, [] => []
  | skip + 1, position, _, c :: rest => findAllAt pattern skip (position + 1) (some c) rest
  | 0, position, previous, c :: rest =>
    match matchAt? pattern ⟨position, previous, c :: rest, []⟩ with
    | some found =>
      found :: findAllAt pattern (found.whole.length - 1) (position + 1) (some c) rest
    | none => findAllAt pattern 0 (position + 1) (some c) rest

/-- All matches in the text, each starting where the one before it stopped or later. -/
def findAll (pattern : Pattern) (text : List Char) : List Match :=
  findAllAt pattern 0 0 none text

end Pattern

end HouseStyle
