import SchemaGraph.Text.Case
import SchemaGraph.Url.Host

/-!
# URLs

`Url.parse?` reads an absolute URL into the parts that tell documents apart: scheme, host, port and
path. Spellings of one address come out equal: scheme and host in lower case, the default port of a
scheme left out, dot segments of the path resolved, blanks escaped.
-/

namespace SchemaGraph

/-- The parts of an absolute URL that name a document. -/
structure Url where
  scheme : List Char
  host : Option Url.Host
  port : Option Nat
  path : List Char
  deriving DecidableEq, Repr

namespace Url

/-- How the text after a scheme is read. -/
inductive SchemeKind where
  | file
  | special
  | other
  deriving DecidableEq, Repr

/-- The kind of a lowercase scheme. -/
def schemeKind (scheme : List Char) : SchemeKind :=
  if scheme = "file".toList then .file
  else if ["http", "https", "ws", "wss", "ftp"].any fun known => known.toList = scheme then .special
  else .other

/-- The port that a scheme uses when none is given. -/
def defaultPort? (scheme : List Char) : Option Nat :=
  [("http".toList, 80), ("https".toList, 443), ("ws".toList, 80), ("wss".toList, 443),
   ("ftp".toList, 21)].lookup scheme

/-- Whether a character separates path segments. -/
def isSlash (kind : SchemeKind) (c : Char) : Bool :=
  c = '/' || (c = '\\' && kind ≠ .other)

/-- Whether a character ends the path. -/
def endsPath (c : Char) : Bool :=
  c = '?' || c = '#'

/-- The text without control characters and blanks at its ends, and without tabs and line breaks. -/
def cleaned (text : List Char) : List Char :=
  let isOuter (c : Char) : Bool := c.toNat ≤ 0x20
  let inner := ((text.dropWhile isOuter).reverse.dropWhile isOuter).reverse
  inner.filter fun c => c ≠ '\t' && c ≠ '\n' && c ≠ '\r'

/-- The lowercase scheme of a URL and the text after its colon. -/
def splitScheme? (text : List Char) : Option (List Char × List Char) :=
  let isSchemeChar (c : Char) : Bool := c.isAlphanum || c = '+' || c = '-' || c = '.'
  match text.takeWhile isSchemeChar, text.dropWhile isSchemeChar with
  | first :: more, ':' :: rest =>
      if first.isAlpha then some (Text.lowerAscii (first :: more), rest) else none
  | _, _ => none

/-- The spellings of the segment that stays where it is. -/
def isHere (segment : List Char) : Bool :=
  Text.lowerAscii segment = ['.'] || Text.lowerAscii segment = ['%', '2', 'e']

/-- The spellings of the segment that goes one level up. -/
def isUp (segment : List Char) : Bool :=
  let lowered := Text.lowerAscii segment
  ["..", "%2e.", ".%2e", "%2e%2e"].any fun spelling => spelling.toList = lowered

/-- Whether a segment names a drive: a letter with a colon, or with a bar in its place. -/
def isDrive : List Char → Bool
  | [letter, mark] => letter.isAlpha && (mark = ':' || mark = '|')
  | _ => false

/-- The first segment of a path. For files, the name of a drive is written with a colon. -/
def firstSegment (kind : SchemeKind) (segment : List Char) : List Char :=
  if kind = .file && isDrive segment then segment.take 1 ++ [':'] else segment

/-- Resolve the dot segments after those already kept, which are in reverse. No segment goes up from
a drive, and a dot segment at the end leaves an empty segment. -/
def resolveSegments (kind : SchemeKind) : List (List Char) → List (List Char) → List (List Char)
  | kept, [] => kept.reverse
  | kept, segment :: rest =>
      let left :=
        if isUp segment then if kept.head?.any isDrive then kept else kept.drop 1
        else if isHere segment then kept
        else (if kept.isEmpty then firstSegment kind segment else segment) :: kept
      let isDot := isUp segment || isHere segment
      resolveSegments kind (if isDot && rest.isEmpty then [] :: left else left) rest

/-- The characters of a path, beyond controls, that are escaped. -/
def escapedInPath : List Char :=
  [' ', '"', '<', '>', '\x60', '#', '?', '\x7b', '\x7d']

/-- The segments of the path that a text writes after the slash that starts it. -/
def pathSegments (kind : SchemeKind) (text : List Char) : List (List Char) :=
  let segments := (text.takeWhile (!endsPath ·)).splitOnP (isSlash kind)
  resolveSegments kind [] (segments.map (escape escapedInPath))

/-- The path that a text writes after the slash that starts it. -/
def absolutePath (kind : SchemeKind) (text : List Char) : List Char :=
  let path := (pathSegments kind text).flatMap ('/' :: ·)
  if kind = .file then '/' :: path.dropWhile (· = '/') else path

/-- The text of a path after the slash that may start it. -/
def afterSlash (kind : SchemeKind) (text : List Char) : List Char :=
  match text with
  | c :: rest => if isSlash kind c then rest else text
  | [] => []

/-- The path of a URL with a host. Only an unknown scheme allows an empty one. -/
def pathAfterHost (kind : SchemeKind) (text : List Char) : List Char :=
  if kind = .other && text.head?.all endsPath then []
  else absolutePath kind (afterSlash kind text)

/-- The text before and after the last at sign of the authority, if there is one. -/
def splitUser? (authority : List Char) : Option (List Char × List Char) :=
  if authority.contains '@' then
    let reversed := authority.reverse
    some ((reversed.dropWhile (· ≠ '@')).drop 1 |>.reverse, (reversed.takeWhile (· ≠ '@')).reverse)
  else none

/-- The text of the host and what follows it: a colon outside brackets ends the host. -/
def splitHost : Bool → List Char → List Char × List Char
  | _, [] => ([], [])
  | inside, c :: rest =>
      if c = ':' && !inside then ([], c :: rest)
      else
        let (host, after) := splitHost (c = '[' || (inside && c ≠ ']')) rest
        (c :: host, after)

/-- The port after a host, and the text after it. The default port of the scheme counts as none. A
backslash ends the port even where it separates no segments. -/
def port? (scheme : List Char) (text : List Char) : Option (Option Nat × List Char) :=
  match text with
  | ':' :: rest =>
      let digits := rest.takeWhile Char.isDigit
      let after := rest.dropWhile Char.isDigit
      let value := Text.decimalValue digits
      if value > 65535 || after.head?.any (· ≠ '\\') then none
      else if digits.isEmpty || defaultPort? scheme = some value then some (none, after)
      else some (some value, after)
  | _ => some (none, text)

/-- Whether the text before an at sign names a user or gives a password. -/
def namesUser (user : List Char) : Bool :=
  !user.isEmpty && user ≠ [':']

/-- The URL whose authority and path follow a double slash. -/
def withAuthority? (scheme : List Char) (kind : SchemeKind) (text : List Char) : Option Url := do
  let endsAuthority (c : Char) : Bool := isSlash kind c || endsPath c
  let authority := text.takeWhile (!endsAuthority ·)
  let after := text.dropWhile (!endsAuthority ·)
  let (user, hostAndPort) := (splitUser? authority).getD ([], authority)
  if authority = ['@'] && !after.isEmpty then none
  let (hostText, portText) := splitHost false hostAndPort
  let host ←
    if kind = .other then Host.parseOpaque? hostText else Host.parse? hostText
  let isEmpty := host = .domain []
  if isEmpty && (!portText.isEmpty || namesUser user) then none
  let (port, rest) ← port? scheme portText
  pure ⟨scheme, if isEmpty then none else some host, port, pathAfterHost kind (rest ++ after)⟩

/-- The URL of a file on no host, with the text of its path after the slash that starts it. -/
def localFile (scheme : List Char) (text : List Char) : Url :=
  ⟨scheme, none, none, absolutePath .file text⟩

/-- The URL of a file whose host and path follow a double slash. The local host counts as none, and
a path on a drive needs none. The drive may also stand in the place of the host. Where no host is
given, the slash after the double one is part of the path: it starts with an empty segment. -/
def fileWithHost? (scheme : List Char) (text : List Char) : Option Url := do
  let endsHost (c : Char) : Bool := isSlash .file c || endsPath c
  let hostText := text.takeWhile (!endsHost ·)
  let after := text.dropWhile (!endsHost ·)
  if isDrive hostText then pure (localFile scheme text)
  else if hostText.isEmpty then pure (localFile scheme after)
  else
    let host ← Host.parse? hostText
    let path := afterSlash .file after
    if host = .domain "localhost".toList then pure (localFile scheme after)
    else if (pathSegments .file path).head?.any isDrive then pure (localFile scheme path)
    else pure ⟨scheme, some host, none, absolutePath .file path⟩

/-- The URL that a text writes after its scheme. -/
def afterScheme? (scheme : List Char) (text : List Char) : Option Url :=
  match schemeKind scheme with
  | .file =>
      match text with
      | a :: b :: rest =>
          if isSlash .file a && isSlash .file b then fileWithHost? scheme rest
          else some (localFile scheme (afterSlash .file text))
      | _ => some (localFile scheme (afterSlash .file text))
  | .special => withAuthority? scheme .special (text.dropWhile (isSlash .special))
  | .other =>
      match text with
      | '/' :: '/' :: rest => withAuthority? scheme .other rest
      | '/' :: rest => some ⟨scheme, none, none, absolutePath .other rest⟩
      | _ => some ⟨scheme, none, none, escape [] (text.takeWhile (!endsPath ·))⟩

/-- The URL that a text writes, if it is an absolute one. -/
def parse? (text : String) : Option Url := do
  let (scheme, rest) ← splitScheme? (cleaned text.toList)
  afterScheme? scheme rest

end Url

end SchemaGraph
