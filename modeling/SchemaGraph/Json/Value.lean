import SchemaGraph.Binary64
import SchemaGraph.Keyed

/-!
# JSON values

A `Json` value keeps the fields of an object in document order and tells whole numbers from
binary floating point ones. Accessors answer `none` on a value of another kind.
-/

namespace SchemaGraph

/-- A JSON number: a whole number between `-2 ^ 63` and `2 ^ 64 - 1`, or a floating point number. -/
inductive JsonNumber where
  | whole (value : Int)
  | binary (value : Binary64)
  deriving DecidableEq, Repr, Inhabited

/-- A JSON value, with the fields of objects in document order. -/
inductive Json where
  | null
  | bool (value : Bool)
  | number (value : JsonNumber)
  | string (value : String)
  | array (items : List Json)
  | object (fields : List (String × Json))
  deriving Repr, Inhabited

namespace Json

/-- The smallest whole number that is kept exactly. -/
def leastWhole : Int := -(Int.pow 2 63)

/-- The largest whole number that is kept exactly. -/
def greatestWhole : Int := Int.pow 2 64 - 1

/-- Whether the value is `null`. -/
def isNull : Json → Bool
  | .null => true
  | _ => false

/-- The text of a string. -/
def string? : Json → Option String
  | .string value => some value
  | _ => none

/-- The truth value of a Boolean. -/
def bool? : Json → Option Bool
  | .bool value => some value
  | _ => none

/-- The items of an array. -/
def array? : Json → Option (List Json)
  | .array items => some items
  | _ => none

/-- The fields of an object. -/
def object? : Json → Option (Keyed Json)
  | .object fields => some fields
  | _ => none

/-- The value of a field of an object. -/
def field? (value : Json) (key : String) : Option Json :=
  value.object?.bind fun fields => Keyed.get? fields key

/-- A whole number that is not negative. -/
def natural? : Json → Option Nat
  | .number (.whole value) => if 0 ≤ value then some value.toNat else none
  | _ => none

/-- A natural number as a value. -/
def ofNat (value : Nat) : Json :=
  .number (.whole value)

/-- A text, or `null` when there is none. -/
def textOrNull : Option String → Json
  | some text => .string text
  | none => .null

/-- A list of texts. -/
def ofTexts (texts : List String) : Json :=
  .array (texts.map .string)

end Json

end SchemaGraph
