import SchemaGraph.Naming.Reserved
import SchemaGraph.Naming.Words

/-!
# Identifiers

How the names of a document become the names of generated code: packages, classes and their files,
properties, enum literals and operations. A `Namer` carries what these rules depend on, the
reserved words and the suffix of class names that collide with one.
-/

namespace SchemaGraph

namespace Naming

/-- The package name used when nothing of the given one is left. -/
def defaultPackage : String := "openapi_client"

/-- Whether a character of a lowercase package name separates two groups. -/
def isPackageSeparator (c : Char) : Bool :=
  c = ' ' || c = '-' || c = '_'

/-- Whether a character may stand in a group of a package name. -/
def isPackageChar (c : Char) : Bool :=
  c.isLower || c.isDigit

/-- The groups of a package name: runs of lowercase letters and digits between separators, other
characters being left out. -/
def packageGroups (name : List Char) : List (List Char) :=
  let kept := (Text.lower name).filter fun c => isPackageSeparator c || isPackageChar c
  (kept.splitOnP isPackageSeparator).filter fun group => !group.isEmpty

/-- Whether a text starts with an ASCII digit. -/
def startsWithDigit (text : List Char) : Bool :=
  text.head?.any Char.isDigit

/-- The groups of a package name joined by underscores, after `api` when a digit would come first.
The default name stands in when there is no group. -/
def packageName (name : Option String) : String :=
  match packageGroups (name.getD "").toList with
  | [] => defaultPackage
  | groups =>
      let joined := ['_'].intercalate groups
      String.ofList (if startsWithDigit joined then "api_".toList ++ joined else joined)

/-- Whether a text is a number with an optional sign and fraction, in the digits of any script. -/
def isNumeric (literal : List Char) : Bool :=
  let unsigned := match literal with
    | '-' :: rest => rest
    | '+' :: rest => rest
    | _ => literal
  let whole := unsigned.takeWhile Text.isDecimal
  match unsigned.dropWhile Text.isDecimal with
  | [] => !whole.isEmpty
  | '.' :: fraction => !whole.isEmpty && !fraction.isEmpty && fraction.all Text.isDecimal
  | _ => false

/-- Whether a character separates the words of a literal. -/
def isLiteralSeparator (c : Char) : Bool :=
  c = '-' || c = '_' || c = '.' || c = '/' || Text.isBlank c

/-- The letters and digits of a lowercase word. -/
def plainWord (word : List Char) : List Char :=
  word.filter Char.isAlphanum

/-- The letters and digits of a lowercase word whose first character is put in upper case. -/
def capitalWord : List Char → List Char
  | [] => []
  | c :: rest => (Text.upperAscii c).filter Char.isAlphanum ++ plainWord rest

/-- The words of a literal in lower camel case, without what is neither letter nor digit. -/
def literalWords (literal : List Char) : List Char :=
  match ((literal.splitOnP isLiteralSeparator).filter fun word => !word.isEmpty).map Text.lower with
  | [] => []
  | first :: rest => plainWord first ++ rest.flatMap capitalWord

/-- The lowercase method and the path without braces, joined by underscores. -/
def operationId (method path : String) : String :=
  let kept := path.toList.filter fun c => c ≠ '\x7b' && c ≠ '\x7d'
  let joined := kept.map fun c => if c = '/' then '_' else c
  String.ofList (Text.lower method.toList ++ '_' :: joined.dropWhile (· = '_'))

/-- The file of a class, without extension. -/
def classFile (className : String) : String :=
  snakeCase className

end Naming

/-- What identifiers depend on: the reserved words, and the suffix of a class name that differs from
one of them at most in letter case. -/
structure Namer where
  reserved : ReservedWords
  suffix : String
  deriving DecidableEq, Repr

namespace Namer

open Naming

/-- The suffix used when no other is configured. -/
def defaultSuffix : String := "Model"

/-- An identifier, followed by an underscore when it is reserved. -/
def unreserved (namer : Namer) (identifier : String) : String :=
  if namer.reserved.contains identifier then identifier.push '_' else identifier

/-- The class name of a schema before the suffix: its words capitalized and joined. -/
def plainClassName (schemaName : String) : String :=
  let joined := (words schemaName.toList).flatMap capitalize
  if joined.isEmpty then "Model"
  else String.ofList (if startsWithDigit joined then "Model".toList ++ joined else joined)

/-- The class name of a schema. -/
def className (namer : Namer) (schemaName : String) : String :=
  let plain := plainClassName schemaName
  if namer.reserved.containsIgnoringCase plain then plain ++ namer.suffix else plain

/-- The file of the class of a schema, without extension. -/
def fileName (namer : Namer) (schemaName : String) : String :=
  classFile (namer.className schemaName)

/-- The identifier of a property or parameter. -/
def propertyIdentifier (namer : Namer) (name : String) : String :=
  let joined := camelWords (words name.toList)
  namer.unreserved
    (if joined.isEmpty then "value"
     else String.ofList
      (if startsWithDigit joined then "value".toList ++ capitalize joined else joined))

/-- The identifier of an enum literal. Numbers keep their ASCII digits only. -/
def enumIdentifier (namer : Namer) (literal : String) : String :=
  let text := literal.toList
  if text.isEmpty then "empty"
  else if isNumeric text then "value" ++ String.ofList (text.filter Char.isDigit)
  else
    let joined := literalWords text
    if joined.isEmpty then "empty"
    else namer.unreserved (String.ofList
      (if startsWithDigit joined then "value".toList ++ capitalize joined else joined))

end Namer

end SchemaGraph
