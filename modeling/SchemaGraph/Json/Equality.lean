import SchemaGraph.Json.Value

/-!
# Equality of JSON values

Whether two values are equal is decided by comparing them part by part.
-/

namespace SchemaGraph.Json

mutual

/-- Whether two values are the same. -/
def same : Json → Json → Bool
  | .null, .null => true
  | .bool first, .bool second => first = second
  | .number first, .number second => first = second
  | .string first, .string second => first = second
  | .array first, .array second => sameItems first second
  | .object first, .object second => sameFields first second
  | _, _ => false

/-- `same` on the items of two lists. -/
def sameItems : List Json → List Json → Bool
  | [], [] => true
  | first :: rest, second :: others => same first second && sameItems rest others
  | _, _ => false

/-- `same` on the fields of two objects, which stand in the same order. -/
def sameFields : List (String × Json) → List (String × Json) → Bool
  | [], [] => true
  | (key, first) :: rest, (name, second) :: others =>
      key = name && same first second && sameFields rest others
  | _, _ => false

end

mutual

theorem same_iff (first second : Json) : same first second ↔ first = second := by
  cases first with
  | array items =>
      cases second with
      | array others => simp [same, sameItems_iff items others]
      | null | bool | number | string | object => simp [same]
  | object fields =>
      cases second with
      | object others => simp [same, sameFields_iff fields others]
      | null | bool | number | string | array => simp [same]
  | null | bool | number | string => cases second <;> simp [same]

theorem sameItems_iff (items others : List Json) : sameItems items others ↔ items = others := by
  cases items with
  | nil => cases others <;> simp [sameItems]
  | cons item rest =>
      cases others with
      | nil => simp [sameItems]
      | cons other more => simp [sameItems, same_iff item other, sameItems_iff rest more]

theorem sameFields_iff (fields others : List (String × Json)) :
    sameFields fields others ↔ fields = others := by
  cases fields with
  | nil => cases others <;> simp [sameFields]
  | cons field rest =>
      obtain ⟨key, value⟩ := field
      cases others with
      | nil => simp [sameFields]
      | cons other more =>
          simp [sameFields, same_iff value other.2, sameFields_iff rest more, Prod.ext_iff]

end

instance : DecidableEq Json :=
  fun first second => decidable_of_iff _ (same_iff first second)

end SchemaGraph.Json
