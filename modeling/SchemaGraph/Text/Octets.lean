/-!
# Octets of a text

`Text.octets` writes characters in UTF-8. `Text.decodeOctets` reads octets back and puts U+FFFD in
place of each maximal part that begins no character. `Text.percentDecode` replaces each escape `%`
with two hexadecimal digits by its octet; other percent signs stay as they are.
-/

namespace SchemaGraph.Text

/-- The octets of a character. -/
def charOctets (c : Char) : List Nat :=
  let code := c.toNat
  if code < 0x80 then [code]
  else if code < 0x800 then [0xC0 + code / 64, 0x80 + code % 64]
  else if code < 0x10000 then [0xE0 + code / 4096, 0x80 + code / 64 % 64, 0x80 + code % 64]
  else [0xF0 + code / 262144, 0x80 + code / 4096 % 64, 0x80 + code / 64 % 64, 0x80 + code % 64]

/-- The octets of a text. -/
def octets (text : List Char) : List Nat :=
  text.flatMap charOctets

/-- A character of which some octets have been read: the bits so far, the number of octets still
owed, and the range of the next one. -/
structure Partial where
  bits : Nat
  owed : Nat
  low : Nat
  high : Nat

/-- What the first octet of a character leads to. -/
inductive Lead where
  | char (c : Char)
  | more (state : Partial)
  | invalid

/-- Read the first octet of a character. -/
def lead (octet : Nat) : Lead :=
  if octet < 0x80 then .char (Char.ofNat octet)
  else if octet < 0xC2 then .invalid
  else if octet < 0xE0 then .more ⟨octet - 0xC0, 1, 0x80, 0xBF⟩
  else if octet = 0xE0 then .more ⟨0, 2, 0xA0, 0xBF⟩
  else if octet = 0xED then .more ⟨0xD, 2, 0x80, 0x9F⟩
  else if octet < 0xF0 then .more ⟨octet - 0xE0, 2, 0x80, 0xBF⟩
  else if octet = 0xF0 then .more ⟨0, 3, 0x90, 0xBF⟩
  else if octet < 0xF4 then .more ⟨octet - 0xF0, 3, 0x80, 0xBF⟩
  else if octet = 0xF4 then .more ⟨4, 3, 0x80, 0x8F⟩
  else .invalid

/-- The character that stands for octets that cannot be read. -/
def replacement : Char := '\uFFFD'

/-- Start a character: what is written at once and what is still open. -/
def startChar (octet : Nat) : List Char × Option Partial :=
  match lead octet with
  | .char c => ([c], none)
  | .more state => ([], some state)
  | .invalid => ([replacement], none)

/-- Read octets after those of an open character. -/
def decodeFrom : Option Partial → List Nat → List Char
  | none, [] => []
  | some _, [] => [replacement]
  | none, octet :: rest =>
      (startChar octet).1 ++ decodeFrom (startChar octet).2 rest
  | some state, octet :: rest =>
      if state.low ≤ octet ∧ octet ≤ state.high then
        let bits := state.bits * 64 + (octet - 0x80)
        if state.owed = 1 then Char.ofNat bits :: decodeFrom none rest
        else decodeFrom (some ⟨bits, state.owed - 1, 0x80, 0xBF⟩) rest
      else replacement :: ((startChar octet).1 ++ decodeFrom (startChar octet).2 rest)

/-- The characters written by octets. -/
def decodeOctets (octets : List Nat) : List Char :=
  decodeFrom none octets

/-- The value of a hexadecimal digit given as an octet. -/
def hexOctet? (octet : Nat) : Option Nat :=
  if 0x30 ≤ octet ∧ octet ≤ 0x39 then some (octet - 0x30)
  else if 0x41 ≤ octet ∧ octet ≤ 0x46 then some (octet - 0x41 + 10)
  else if 0x61 ≤ octet ∧ octet ≤ 0x66 then some (octet - 0x61 + 10)
  else none

/-- Replace the percent escapes among octets. -/
def unescapeOctets : List Nat → List Nat
  | 0x25 :: high :: low :: rest =>
      match hexOctet? high, hexOctet? low with
      | some h, some l => (h * 16 + l) :: unescapeOctets rest
      | _, _ => 0x25 :: unescapeOctets (high :: low :: rest)
  | octet :: rest => octet :: unescapeOctets rest
  | [] => []

/-- Replace the percent escapes of a text. -/
def percentDecode (text : List Char) : List Char :=
  decodeOctets (unescapeOctets (octets text))

end SchemaGraph.Text
