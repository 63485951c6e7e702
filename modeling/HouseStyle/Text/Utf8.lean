/-!
Contract: reading octets as UTF-8 text, with a replacement character for what is malformed.

Owns: the well-formed octet sequences and the replacement of malformed ones.
Does not own: byte order marks and line ends, which stay in the text.

Malformed input gives one replacement character for each maximal part that starts a well-formed
sequence and cannot be continued, and for each octet that starts none.
-/

namespace HouseStyle.Text

/-- The character that stands for undecodable octets. -/
def replacement : Char := '\uFFFD'

/-- What a first octet announces: how many octets follow, the closed range of the next one, and the
bits that the first octet contributes. -/
structure Lead where
  tails : Nat
  low : Nat
  high : Nat
  bits : Nat

/-- The announcement of an octet that starts a sequence of more than one octet. -/
def lead? (octet : Nat) : Option Lead :=
  if 0xC2 ≤ octet && octet ≤ 0xDF then some ⟨1, 0x80, 0xBF, octet - 0xC0⟩
  else if octet == 0xE0 then some ⟨2, 0xA0, 0xBF, 0⟩
  else if octet == 0xED then some ⟨2, 0x80, 0x9F, octet - 0xE0⟩
  else if 0xE1 ≤ octet && octet ≤ 0xEF then some ⟨2, 0x80, 0xBF, octet - 0xE0⟩
  else if octet == 0xF0 then some ⟨3, 0x90, 0xBF, 0⟩
  else if 0xF1 ≤ octet && octet ≤ 0xF3 then some ⟨3, 0x80, 0xBF, octet - 0xF0⟩
  else if octet == 0xF4 then some ⟨3, 0x80, 0x8F, octet - 0xF0⟩
  else none

/-- Where the reader stands: between characters, or inside one with its announcement. -/
inductive Progress where
  | between
  | inside (lead : Lead)

/-- The characters and the place of the reader after an octet that starts a character. -/
def startOctet (octet : Nat) : List Char × Progress :=
  if octet < 0x80 then ([Char.ofNat octet], .between)
  else match lead? octet with
    | some lead => ([], .inside lead)
    | none => ([replacement], .between)

/-- The characters that one octet completes, and the place of the reader after it. -/
def readOctet (progress : Progress) (octet : Nat) : List Char × Progress :=
  match progress with
  | .between => startOctet octet
  | .inside lead =>
    if lead.low ≤ octet && octet ≤ lead.high then
      let bits := lead.bits * 64 + (octet - 0x80)
      if lead.tails ≤ 1 then ([Char.ofNat bits], .between)
      else ([], .inside ⟨lead.tails - 1, 0x80, 0xBF, bits⟩)
    else
      let (characters, next) := startOctet octet
      (replacement :: characters, next)

/-- The characters read from the place of the reader on; an unfinished one is replaced. -/
def readOctets : Progress → List UInt8 → List Char
  | .between, [] => []
  | .inside _, [] => [replacement]
  | progress, octet :: rest =>
    let (characters, next) := readOctet progress octet.toNat
    characters ++ readOctets next rest

/-- The text that octets hold. -/
def decodeUtf8 (octets : List UInt8) : List Char :=
  readOctets .between octets

end HouseStyle.Text
