import SchemaGraph.Text.Punycode
import SchemaGraph.Url.Domain.Direction
import SchemaGraph.Url.Domain.Joining
import SchemaGraph.Url.Domain.Mapping

/-!
# Domain names

`Domain.ascii?` gives the one spelling in ASCII of an international domain name: the name is evened
out, its labels are checked, and each label beyond ASCII is written in ASCII after a mark.
-/

namespace SchemaGraph.Url.Domain

/-- The characters that no domain name holds. -/
def isForbidden (c : Char) : Bool :=
  c.toNat ≤ 0x20 || c.toNat = 0x7F ||
    ['#', '%', '/', ':', '<', '>', '?', '@', '[', '\\', ']', '^', '|'].contains c

/-- Whether a text is in ASCII. -/
def isAscii (text : List Char) : Bool :=
  text.all fun c => c.toNat < 0x80

/-- The mark of a label in ASCII that stands for another. -/
def asciiMark : List Char := ['x', 'n', '-', '-']

/-- The length up to which a label in ASCII is read. -/
def longestCoded : Nat := 2000

/-- The length up to which a label beyond ASCII is written. -/
def longestLabel : Nat := 1000

/-- The label that a label stands for. One with the mark must be written as only a label beyond
ASCII is, and the label that it stands for must be evened out already. -/
def shownLabel? (label : List Char) : Option (List Char) :=
  if asciiMark.isPrefixOf label then do
    let coded := label.drop asciiMark.length
    let mayStand := isAscii coded && coded.length ≤ longestCoded && coded.getLast?.any (· ≠ '-')
    let shown ← if mayStand then Text.Punycode.decode? coded else none
    let isShown := evened? shown = some shown && shown.all fun c => !isForbidden c && c ≠ '.'
    if isShown then some shown else none
  else some label

/-- Whether a label may be part of a name, whatever the others are. -/
def isLabel (shown : List Char) : Bool :=
  isAscii shown ||
    (!shown.head?.any Text.isMark && joinersInPlace shown && shown.length ≤ longestLabel)

/-- A label in ASCII. -/
def asciiLabel (label : List Char) : List Char :=
  if isAscii label then label else asciiMark ++ Text.Punycode.encode label

/-- The spelling in ASCII of a domain name. -/
def ascii? (name : List Char) : Option (List Char) := do
  let evened ← evened? name
  let labels := evened.splitOnP (· = '.')
  let shown ← labels.mapM shownLabel?
  let keepsDirection := !shown.any hasRightward || shown.all keepsDirection
  if !evened.any isForbidden && shown.all isLabel && keepsDirection then
    some (['.'].intercalate (labels.map asciiLabel))
  else none

end SchemaGraph.Url.Domain
