import SchemaGraph.Text.Octets
import SchemaGraph.Url.Domain

/-!
# Hosts of a URL

A host is a name or an address. A name is kept in its spelling in ASCII, and an address has many
spellings: `Host.parse?` reads the number forms of IPv4 (one to four numbers, in decimal, octal or
hexadecimal) and the shortened forms of IPv6.
-/

namespace SchemaGraph.Url

/-- The host of a URL. -/
inductive Host where
  | domain (name : List Char)
  | ipv4 (address : Nat)
  | ipv6 (pieces : List Nat)
  deriving DecidableEq, Repr

/-- An octet as a percent escape. -/
def escapeOctet (octet : Nat) : List Char :=
  ['%', Text.upperHexDigit (octet / 16), Text.upperHexDigit (octet % 16)]

/-- Escape the characters beyond ASCII, the control characters and those of an extra set. -/
def escape (extra : List Char) (text : List Char) : List Char :=
  text.flatMap fun c =>
    if c.toNat < 0x20 || c.toNat ≥ 0x7F || extra.contains c then
      (Text.charOctets c).flatMap escapeOctet
    else [c]

/-- A number of an IPv4 address: hexadecimal after `0x`, octal after `0`, decimal otherwise. -/
def ipv4Number? : List Char → Option Nat
  | [] => none
  | '0' :: 'x' :: digits => Text.number? 16 digits
  | '0' :: 'X' :: digits => Text.number? 16 digits
  | '0' :: c :: digits => Text.number? 8 (c :: digits)
  | digits => Text.number? 10 digits

/-- The parts of a text between points. -/
def labels (text : List Char) : List (List Char) :=
  text.splitOnP (· = '.')

/-- The parts of a text between points, without an empty last one. -/
def labelsWithoutRoot (text : List Char) : List (List Char) :=
  let parts := labels text
  if parts.getLast? = some [] then parts.dropLast else parts

/-- Whether the last label of a name is a number, so that the name has to be an IPv4 address. -/
def endsInNumber (text : List Char) : Bool :=
  match (labelsWithoutRoot text).getLast? with
  | some last => (!last.isEmpty && last.all Char.isDigit) || (ipv4Number? last).isSome
  | none => false

/-- The IPv4 address of its numbers, the last of which fills the octets that are left. -/
def ipv4Address? (numbers : List Nat) : Option Nat :=
  match numbers.reverse with
  | [] => none
  | last :: before =>
      let octets := before.reverse
      if octets.length ≤ 3 && octets.all (· ≤ 255) && last < Nat.pow 256 (4 - octets.length) then
        let high := octets.zipIdx.foldl
          (fun acc (octet, index) => acc + octet * Nat.pow 256 (3 - index)) 0
        some (high + last)
      else none

/-- The IPv4 address that a text writes. -/
def ipv4? (text : List Char) : Option Nat := do
  let numbers ← (labelsWithoutRoot text).mapM ipv4Number?
  ipv4Address? numbers

/-- A strict decimal octet: one to three digits without a leading zero, at most 255. -/
def strictOctet? (text : List Char) : Option Nat := do
  let value ← Text.number? 10 text
  let fits := !text.isEmpty && value ≤ 255 && (text.length = 1 || text.head? ≠ some '0')
  if fits then some value else none

/-- The two pieces of an IPv6 address that a dotted IPv4 address at its end writes. -/
def dottedPieces? (text : List Char) : Option (List Nat) := do
  match ← (labels text).mapM strictOctet? with
  | [a, b, c, d] => some [a * 256 + b, c * 256 + d]
  | _ => none

/-- The pieces of one side of an IPv6 address. Only the last piece of the address may be dotted. -/
def ipv6Pieces? (mayEndDotted : Bool) : List (List Char) → Option (List Nat)
  | [] => some []
  | [last] =>
      if mayEndDotted && last.contains '.' then dottedPieces? last
      else if last.isEmpty || last.length > 4 then none
      else (Text.number? 16 last).map fun value => [value]
  | piece :: rest => do
      if piece.isEmpty || piece.length > 4 then none
      else
        let value ← Text.number? 16 piece
        let more ← ipv6Pieces? mayEndDotted rest
        some (value :: more)

/-- The parts of a text around its first double colon. -/
def aroundDoubleColon? : List Char → Option (List Char × List Char)
  | ':' :: ':' :: rest => some ([], rest)
  | c :: rest => (aroundDoubleColon? rest).map fun (before, after) => (c :: before, after)
  | [] => none

/-- The parts of one side of an IPv6 address between colons. -/
def sideParts (text : List Char) : List (List Char) :=
  if text.isEmpty then [] else text.splitOnP (· = ':')

/-- The pieces of an IPv6 address. A double colon stands for one or more zero pieces. -/
def ipv6? (text : List Char) : Option (List Nat) :=
  match aroundDoubleColon? text with
  | some (before, after) => do
      let high ← ipv6Pieces? false (sideParts before)
      let low ← ipv6Pieces? true (sideParts after)
      if high.length + low.length ≤ 7 then
        some (high ++ List.replicate (8 - high.length - low.length) 0 ++ low)
      else none
  | none => do
      let pieces ← ipv6Pieces? true (sideParts text)
      if pieces.length = 8 then some pieces else none

/-- The characters that no host of an unknown scheme holds. -/
def forbiddenInHost (c : Char) : Bool :=
  ['\x00', '\t', '\n', '\r', ' ', '#', '/', ':', '<', '>', '?', '@', '[', '\\', ']', '^',
   '|'].contains c

/-- A host in brackets. -/
def bracketedHost? (text : List Char) : Option Host :=
  match text.reverse with
  | ']' :: inner => (ipv6? inner.reverse).map .ipv6
  | _ => none

/-- The host that a text writes in a URL of a known scheme. -/
def Host.parse? (text : List Char) : Option Host :=
  match text with
  | '[' :: rest => bracketedHost? rest
  | _ => do
      let name ← Domain.ascii? (Text.percentDecode text)
      if name.isEmpty then none
      else if endsInNumber name then (ipv4? name).map .ipv4
      else some (.domain name)

/-- The host that a text writes in a URL of an unknown scheme. -/
def Host.parseOpaque? (text : List Char) : Option Host :=
  match text with
  | '[' :: rest => bracketedHost? rest
  | _ => if text.any forbiddenInHost then none else some (.domain (escape [] text))

end SchemaGraph.Url
