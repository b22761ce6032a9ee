import SchemaGraph.Document.Normal
import SchemaGraph.Proofs.Document.Shape

/-!
# Passes over a document

The passes that bring a document into normal form visit objects of every meaning, schemas and maps
of named schemas alike. After the Booleans have been replaced, one pass settles the payloads and
three settle flags, constants and binary strings (`settle`). The fields of an object are settled one
by one, except for the keywords that the passes write (`keepsFields_settledFields`), and a flag may
put the object into a choice (`settle_object`). Fields that no pass looks for do not matter for the
others (`AlikeOff.settledFields`).
-/

namespace SchemaGraph.Document

open Keyed (AgreeOff)

variable {fields : Keyed Json} {key : String}

/-- Whether an object holds a flag for nullability. Only a Boolean is a flag. -/
def holdsFlag (fields : Keyed Json) : Bool :=
  flagKeys.any fun key => ((Keyed.get? fields key).bind Json.bool?).isSome

theorem holdsFlag_congr {aside : List String} {other : Keyed Json} (h : AgreeOff aside fields other)
    (haside : ∀ key ∈ flagKeys, key ∉ aside) : holdsFlag fields = holdsFlag other := by
  simp only [holdsFlag, flagKeys, List.any_cons, List.any_nil,
    h "nullable" (haside _ (by decide)), h "x-nullable" (haside _ (by decide))]

/-- Without a flag there is nothing to settle. -/
theorem settleNullable_of_not_holdsFlag (h : holdsFlag fields = false) :
    settleNullable fields = .object fields := by
  simp only [holdsFlag, flagKeys, List.any_cons, List.any_nil, Bool.or_false, Bool.or_eq_false_iff,
    Option.isSome_eq_false_iff, Option.isNone_iff_eq_none] at h
  simp [settleNullable, takeFlag, h]

/-- Without a constant there is nothing to settle. -/
theorem settleConst_of_missing (h : Keyed.get? fields "const" = none) :
    settleConst fields = .object fields := by
  rw [settleConst, h]

/-- Neither an encoding nor a media type spells out that a string is binary. -/
theorem settleBinary_of_missing
    (hencoding : (Keyed.get? fields "contentEncoding").bind Json.string? = none)
    (hmedia : (Keyed.get? fields "contentMediaType").bind Json.string? = none) :
    settleBinary fields = .object fields := by
  have hspells : spellsBinary fields = false := by
    simp only [spellsBinary, hencoding, hmedia, Option.any_none, Bool.and_false]
  rw [settleBinary, hspells]
  rfl

theorem mapObjectsItems_eq (step : Keyed Json → Json) (items : List Json) :
    mapObjectsItems step items = items.map (mapObjects step) := by
  induction items with
  | nil => rfl
  | cons item rest ih => rw [mapObjectsItems, ih, List.map_cons]

theorem normalizePayloadItems_eq (items : List Json) :
    normalizePayloadItems items = items.map normalizePayloads := by
  induction items with
  | nil => rfl
  | cons item rest ih => rw [normalizePayloadItems, ih, List.map_cons]

theorem mapObjectsFields_eq (step : Keyed Json → Json) (fields : Keyed Json) :
    mapObjectsFields step fields = fields.map fun entry =>
      (entry.1, if dataKeys.contains entry.1 then entry.2 else mapObjects step entry.2) := by
  induction fields with
  | nil => rfl
  | cons entry rest ih =>
      obtain ⟨name, value⟩ := entry
      rw [mapObjectsFields, ih, List.map_cons]

theorem normalizePayloadFields_eq (fields : Keyed Json) :
    normalizePayloadFields fields = fields.map fun entry =>
      (entry.1, if payloadKeys.contains entry.1 then normalizeBooleans entry.2
        else normalizePayloads entry.2) := by
  induction fields with
  | nil => rfl
  | cons entry rest ih =>
      obtain ⟨name, value⟩ := entry
      rw [normalizePayloadFields, ih, List.map_cons]

/-- The pass turns texts into themselves, Booleans into themselves, and nothing else into these. -/
def KeepsKinds (pass : Json → Json) : Prop :=
  ∀ value, (pass value).string? = value.string? ∧ (pass value).bool? = value.bool?

/-- A step that gives objects makes a pass that keeps texts and Booleans. -/
theorem keepsKinds_mapObjects {step : Keyed Json → Json}
    (hstep : ∀ fields, ∃ settled, step fields = .object settled) :
    KeepsKinds (mapObjects step) := by
  intro value
  cases value with
  | object fields =>
      obtain ⟨settled, hsettled⟩ := hstep (mapObjectsFields step fields)
      rw [mapObjects, hsettled]
      exact ⟨rfl, rfl⟩
  | array | null | bool | number | string => exact ⟨rfl, rfl⟩

theorem keepsKinds_normalizePayloads : KeepsKinds normalizePayloads := by
  intro value
  cases value <;> exact ⟨rfl, rfl⟩

theorem keepsKinds_normalizeNullable : KeepsKinds normalizeNullable := by
  refine keepsKinds_mapObjects fun fields => ?_
  simp only [settleNullable]
  split
  · split
    · exact ⟨_, rfl⟩
    · exact ⟨_, rfl⟩
  · exact ⟨_, rfl⟩

theorem keepsKinds_normalizeConst : KeepsKinds normalizeConst := by
  refine keepsKinds_mapObjects fun fields => ?_
  unfold settleConst
  split
  · exact ⟨_, rfl⟩
  · exact ⟨_, rfl⟩

theorem keepsKinds_normalizeBinary : KeepsKinds normalizeBinary := by
  refine keepsKinds_mapObjects fun fields => ?_
  unfold settleBinary
  split
  · exact ⟨_, rfl⟩
  · exact ⟨_, rfl⟩

/-- The passes over a document whose schemas are free of Booleans. -/
def settle (value : Json) : Json :=
  normalizeBinary (normalizeConst (normalizeNullable (normalizePayloads value)))

/-- A list is settled item by item. -/
theorem settle_array (items : List Json) : settle (.array items) = .array (items.map settle) := by
  simp only [settle, normalizePayloads, normalizePayloadItems_eq, normalizeNullable, normalizeConst,
    normalizeBinary, mapObjects, mapObjectsItems_eq, List.map_map]
  rfl

/-- A text is settled already, and nothing else becomes one. -/
theorem string?_settle (value : Json) : (settle value).string? = value.string? := by
  rw [settle, (keepsKinds_normalizeBinary _).1, (keepsKinds_normalizeConst _).1,
    (keepsKinds_normalizeNullable _).1, (keepsKinds_normalizePayloads _).1]

/-- Settling all values is passing over all values, pass by pass. -/
theorem mapValues_settle (fields : Keyed Json) :
    Keyed.mapValues fields settle =
      Keyed.mapValues (Keyed.mapValues (Keyed.mapValues (Keyed.mapValues fields normalizePayloads)
        normalizeNullable) normalizeConst) normalizeBinary := by
  simp only [Keyed.mapValues, List.map_map]
  rfl

/-- The keys that a pass may write, take out or leave unvisited. -/
def passKeys : List String := dataKeys ++ payloadKeys ++ flagKeys ++ ["type", "format"]

/-- Fields that a pass has settled: they are distinct, and those under other keys than the ones that
passes touch are the same. -/
structure KeepsFields (fields settled : Keyed Json) : Prop where
  distinct : Keyed.Distinct settled
  agree : AgreeOff passKeys settled fields

namespace KeepsFields

variable {settled : Keyed Json}

theorem refl (h : Keyed.Distinct fields) : KeepsFields fields fields :=
  ⟨h, fun _ _ => rfl⟩

theorem trans {between : Keyed Json} (h : KeepsFields fields between)
    (h' : KeepsFields between settled) : KeepsFields fields settled :=
  ⟨h'.distinct, h'.agree.trans h.agree⟩

theorem put (h : KeepsFields fields settled) (hkey : key ∈ passKeys) (value : Json) :
    KeepsFields fields (Keyed.put settled key value) :=
  ⟨h.distinct.put key value, (Keyed.agreeOff_put hkey settled value).trans h.agree⟩

theorem swapOut (h : KeepsFields fields settled) (hkey : key ∈ passKeys) :
    KeepsFields fields (Keyed.swapOut settled key) :=
  ⟨h.distinct.swapOut key, (h.distinct.agreeOff_swapOut hkey).trans h.agree⟩

theorem putIfMissing (h : KeepsFields fields settled) (hkey : key ∈ passKeys) (value : Json) :
    KeepsFields fields (putIfMissing settled key value) := by
  unfold Document.putIfMissing
  split
  · exact h
  · exact h.put hkey value

theorem takeFlag (h : KeepsFields fields settled) (hkey : key ∈ passKeys) :
    KeepsFields fields (takeFlag settled key).2 := by
  unfold Document.takeFlag
  split
  · exact h.swapOut hkey
  · exact h

/-- Passing over the values of fields is passing over the values of what they were settled from. -/
theorem mapValues (h : KeepsFields fields settled) (pass : Json → Json) :
    KeepsFields (Keyed.mapValues fields pass) (Keyed.mapValues settled pass) :=
  ⟨h.distinct.mapValues pass, h.agree.map fun _ => pass⟩

end KeepsFields

/-- A visited field is passed over. -/
theorem get?_mapObjectsFields (step : Keyed Json → Json) (fields : Keyed Json)
    (hkey : key ∉ dataKeys) :
    Keyed.get? (mapObjectsFields step fields) key =
      (Keyed.get? fields key).map (mapObjects step) := by
  rw [mapObjectsFields_eq]
  refine (Keyed.get?_map fields (fun key value =>
    if dataKeys.contains key then value else mapObjects step value) key).trans ?_
  simp [hkey]

theorem get?_normalizePayloadFields (fields : Keyed Json) (hkey : key ∉ payloadKeys) :
    Keyed.get? (normalizePayloadFields fields) key =
      (Keyed.get? fields key).map normalizePayloads := by
  rw [normalizePayloadFields_eq]
  refine (Keyed.get?_map fields (fun key value => if payloadKeys.contains key then
    normalizeBooleans value else normalizePayloads value) key).trans ?_
  simp [hkey]

theorem keepsFields_mapObjectsFields (step : Keyed Json → Json) (h : Keyed.Distinct fields) :
    KeepsFields (Keyed.mapValues fields (mapObjects step)) (mapObjectsFields step fields) := by
  constructor
  · have hkeys : Keyed.keys (mapObjectsFields step fields) = Keyed.keys fields := by
      rw [mapObjectsFields_eq]
      exact List.map_map
    rw [Keyed.Distinct, hkeys]
    exact h
  · intro key hkey
    have hdata : key ∉ dataKeys := fun hmem => hkey (by simp [passKeys, hmem])
    rw [get?_mapObjectsFields step fields hdata, Keyed.get?_mapValues]

theorem keepsFields_normalizePayloadFields (h : Keyed.Distinct fields) :
    KeepsFields (Keyed.mapValues fields normalizePayloads) (normalizePayloadFields fields) := by
  constructor
  · have hkeys : Keyed.keys (normalizePayloadFields fields) = Keyed.keys fields := by
      rw [normalizePayloadFields_eq]
      exact List.map_map
    rw [Keyed.Distinct, hkeys]
    exact h
  · intro key hkey
    have hpayload : key ∉ payloadKeys := fun hmem => hkey (by simp [passKeys, hmem])
    rw [get?_normalizePayloadFields fields hpayload, Keyed.get?_mapValues]

/-- Whether one of the flags is set. -/
def flagSet (fields : Keyed Json) : Bool :=
  (takeFlag fields "nullable").1 || (takeFlag (takeFlag fields "nullable").2 "x-nullable").1

/-- The fields without the flags. -/
def withoutFlags (fields : Keyed Json) : Keyed Json :=
  (takeFlag (takeFlag fields "nullable").2 "x-nullable").2

/-- The type of a schema once it admits `null` as well. -/
def widenedType? (fields : Keyed Json) : Option Json :=
  (Keyed.get? (withoutFlags fields) "type").bind typeOrNull?

/-- Whether a flag puts the object into a choice: one is set, and there is no type to widen. -/
def becomesChoice (fields : Keyed Json) : Bool :=
  flagSet fields && (widenedType? fields).isNone

/-- The fields with their flags settled. -/
def nullableFields (fields : Keyed Json) : Keyed Json :=
  match flagSet fields, widenedType? fields with
  | true, some type => Keyed.put (withoutFlags fields) "type" type
  | _, _ => withoutFlags fields

theorem settleNullable_eq (fields : Keyed Json) :
    settleNullable fields =
      if becomesChoice fields then orNull (.object (nullableFields fields))
      else .object (nullableFields fields) := by
  unfold settleNullable becomesChoice nullableFields flagSet widenedType? withoutFlags
  cases takeFlag fields "nullable" with
  | mk plain rest =>
      dsimp only
      cases takeFlag rest "x-nullable" with
      | mk extended rest =>
          cases plain || extended <;> cases (Keyed.get? rest "type").bind typeOrNull? <;> rfl

/-- The fields with their constant settled. -/
def constFields (fields : Keyed Json) : Keyed Json :=
  match Keyed.get? fields "const" with
  | none => fields
  | some value =>
      let rest := Keyed.swapOut fields "const"
      let typed := match typeOfValue? value with
        | some type => putIfMissing rest "type" (.string type)
        | none => rest
      putIfMissing typed "enum" (.array [value])

theorem settleConst_eq (fields : Keyed Json) :
    settleConst fields = .object (constFields fields) := by
  unfold settleConst constFields
  cases Keyed.get? fields "const" <;> rfl

/-- The fields with their encoding settled. -/
def binaryFields (fields : Keyed Json) : Keyed Json :=
  if spellsBinary fields then
    putIfMissing (Keyed.put fields "format" (.string "binary")) "type" (.string "string")
  else fields

theorem settleBinary_eq (fields : Keyed Json) :
    settleBinary fields = .object (binaryFields fields) := by
  unfold settleBinary binaryFields
  cases spellsBinary fields <;> rfl

theorem keepsFields_nullableFields (h : Keyed.Distinct fields) :
    KeepsFields fields (nullableFields fields) := by
  have hplain := (KeepsFields.refl h).takeFlag (show "nullable" ∈ passKeys by decide)
  have hrest := hplain.takeFlag (show "x-nullable" ∈ passKeys by decide)
  unfold nullableFields
  split
  · exact hrest.put (by decide) _
  · exact hrest

theorem keepsFields_constFields (h : Keyed.Distinct fields) :
    KeepsFields fields (constFields fields) := by
  unfold constFields
  split
  · exact .refl h
  · have hrest := (KeepsFields.refl h).swapOut (show "const" ∈ passKeys by decide)
    refine KeepsFields.putIfMissing ?_ (show "enum" ∈ passKeys by decide) _
    split
    · exact hrest.putIfMissing (by decide) _
    · exact hrest

theorem keepsFields_binaryFields (h : Keyed.Distinct fields) :
    KeepsFields fields (binaryFields fields) := by
  unfold binaryFields
  split
  · have hformat := (KeepsFields.refl h).put (show "format" ∈ passKeys by decide) (.string "binary")
    exact hformat.putIfMissing (by decide) _
  · exact .refl h

theorem normalizeConst_orNull (value : Json) :
    normalizeConst (orNull value) = orNull (normalizeConst value) := by
  simp [normalizeConst, orNull, mapObjects, mapObjectsFields, mapObjectsItems, dataKeys,
    settleConst, Keyed.get?]

theorem normalizeBinary_orNull (value : Json) :
    normalizeBinary (orNull value) = orNull (normalizeBinary value) := by
  simp [normalizeBinary, orNull, mapObjects, mapObjectsFields, mapObjectsItems, dataKeys,
    settleBinary, spellsBinary, Keyed.get?, Keyed.has]

/-- The fields of an object before its flags are settled. -/
def visitedFields (fields : Keyed Json) : Keyed Json :=
  mapObjectsFields settleNullable (normalizePayloadFields fields)

/-- The fields of an object after all passes. -/
def settledFields (fields : Keyed Json) : Keyed Json :=
  binaryFields (mapObjectsFields settleBinary
    (constFields (mapObjectsFields settleConst (nullableFields (visitedFields fields)))))

/-- The passes turn an object into an object or put it into a choice. -/
theorem settle_object (fields : Keyed Json) :
    settle (.object fields) =
      if becomesChoice (visitedFields fields) then orNull (.object (settledFields fields))
      else .object (settledFields fields) := by
  have hrest : normalizeBinary (normalizeConst (.object (nullableFields (visitedFields fields)))) =
      .object (settledFields fields) := by
    rw [normalizeConst, mapObjects, settleConst_eq, normalizeBinary, mapObjects, settleBinary_eq]
    rfl
  rw [settle, normalizePayloads, normalizeNullable, mapObjects, settleNullable_eq]
  unfold visitedFields at hrest ⊢
  split
  · rw [normalizeConst_orNull, normalizeBinary_orNull, hrest]
  · rw [hrest]

/-- The passes settle the fields of an object one by one, up to the keys that they touch. -/
theorem keepsFields_settledFields (h : Keyed.Distinct fields) :
    KeepsFields (Keyed.mapValues fields settle) (settledFields fields) := by
  have hpayloads := keepsFields_normalizePayloadFields h
  have hvisited := keepsFields_mapObjectsFields settleNullable hpayloads.distinct
  have hnullable := keepsFields_nullableFields hvisited.distinct
  have hconstVisited := keepsFields_mapObjectsFields settleConst hnullable.distinct
  have hconst := keepsFields_constFields hconstVisited.distinct
  have hbinaryVisited := keepsFields_mapObjectsFields settleBinary hconst.distinct
  have hbinary := keepsFields_binaryFields hbinaryVisited.distinct
  have hstart := ((hpayloads.mapValues normalizeNullable).trans hvisited).trans hnullable
  have hmiddle := ((hstart.mapValues normalizeConst).trans hconstVisited).trans hconst
  have hend := ((hmiddle.mapValues normalizeBinary).trans hbinaryVisited).trans hbinary
  rwa [← mapValues_settle] at hend

/-- An object without a flag stays an object. -/
theorem becomesChoice_visitedFields (h : holdsFlag fields = false) :
    becomesChoice (visitedFields fields) = false := by
  have hdata : ∀ key ∈ flagKeys, key ∉ dataKeys := by decide
  have hpayload : ∀ key ∈ flagKeys, key ∉ payloadKeys := by decide
  have hkept {key : String} (hkey : key ∈ flagKeys) :
      (Keyed.get? (visitedFields fields) key).bind Json.bool? =
        (Keyed.get? fields key).bind Json.bool? := by
    rw [visitedFields, get?_mapObjectsFields _ _ (hdata key hkey),
      get?_normalizePayloadFields _ (hpayload key hkey)]
    cases Keyed.get? fields key with
    | none => rfl
    | some value =>
        exact ((keepsKinds_normalizeNullable _).2).trans (keepsKinds_normalizePayloads value).2
  simp only [holdsFlag, flagKeys, List.any_cons, List.any_nil, Bool.or_false, Bool.or_eq_false_iff,
    Option.isSome_eq_false_iff, Option.isNone_iff_eq_none] at h
  rw [← hkept (show "nullable" ∈ flagKeys by decide),
    ← hkept (show "x-nullable" ∈ flagKeys by decide)] at h
  simp [becomesChoice, flagSet, takeFlag, h]

/-- The keys that the passes look for in an object. -/
def settleKeys : List String :=
  ["nullable", "x-nullable", "type", "const", "enum", "format", "contentEncoding",
   "contentMediaType"]

/-- Two lists of distinct fields that agree off some keys. -/
structure AlikeOff (aside : List String) (fields other : Keyed Json) : Prop where
  left : Keyed.Distinct fields
  right : Keyed.Distinct other
  agree : AgreeOff aside fields other

namespace AlikeOff

variable {aside : List String} {other : Keyed Json}

theorem put (h : AlikeOff aside fields other) (key : String) (value : Json) :
    AlikeOff aside (Keyed.put fields key value) (Keyed.put other key value) :=
  ⟨h.left.put key value, h.right.put key value, (h.agree.cons key).put value⟩

theorem swapOut (h : AlikeOff aside fields other) (key : String) :
    AlikeOff aside (Keyed.swapOut fields key) (Keyed.swapOut other key) :=
  ⟨h.left.swapOut key, h.right.swapOut key, (h.agree.cons key).swapOut h.left h.right⟩

theorem putIfMissing (h : AlikeOff aside fields other) (hkey : key ∉ aside) (value : Json) :
    AlikeOff aside (putIfMissing fields key value) (putIfMissing other key value) := by
  unfold Document.putIfMissing
  rw [h.agree.has_eq hkey]
  split
  · exact h
  · exact h.put key value

theorem takeFlag (h : AlikeOff aside fields other) (hkey : key ∉ aside) :
    (takeFlag fields key).1 = (takeFlag other key).1 ∧
      AlikeOff aside (takeFlag fields key).2 (takeFlag other key).2 := by
  unfold Document.takeFlag
  rw [h.agree key hkey]
  split
  · exact ⟨rfl, h.swapOut key⟩
  · exact ⟨rfl, h⟩

theorem mapObjectsFields (h : AlikeOff aside fields other) (step : Keyed Json → Json) :
    AlikeOff aside (mapObjectsFields step fields) (mapObjectsFields step other) := by
  refine ⟨(keepsFields_mapObjectsFields step h.left).distinct,
    (keepsFields_mapObjectsFields step h.right).distinct, ?_⟩
  rw [mapObjectsFields_eq, mapObjectsFields_eq]
  exact h.agree.map fun key value => if dataKeys.contains key then value else mapObjects step value

theorem normalizePayloadFields (h : AlikeOff aside fields other) :
    AlikeOff aside (normalizePayloadFields fields) (normalizePayloadFields other) := by
  refine ⟨(keepsFields_normalizePayloadFields h.left).distinct,
    (keepsFields_normalizePayloadFields h.right).distinct, ?_⟩
  rw [normalizePayloadFields_eq, normalizePayloadFields_eq]
  exact h.agree.map fun key value => if payloadKeys.contains key then normalizeBooleans value
    else normalizePayloads value

variable (haside : ∀ key ∈ settleKeys, key ∉ aside)

include haside

/-- Flags are settled alike in fields that agree off other keys. -/
theorem nullableFields (h : AlikeOff aside fields other) :
    becomesChoice fields = becomesChoice other ∧
      AlikeOff aside (nullableFields fields) (nullableFields other) := by
  obtain ⟨hplain, hfirst⟩ := h.takeFlag (haside "nullable" (by decide))
  obtain ⟨hextended, hrest⟩ := hfirst.takeFlag (haside "x-nullable" (by decide))
  have hset : flagSet fields = flagSet other := by rw [flagSet, flagSet, hplain, hextended]
  have hwidened : widenedType? fields = widenedType? other := by
    rw [widenedType?, widenedType?, withoutFlags, withoutFlags,
      hrest.agree "type" (haside "type" (by decide))]
  constructor
  · rw [becomesChoice, becomesChoice, hset, hwidened]
  · unfold Document.nullableFields
    rw [hset, hwidened]
    split
    · exact hrest.put "type" _
    · exact hrest

theorem constFields (h : AlikeOff aside fields other) :
    AlikeOff aside (constFields fields) (constFields other) := by
  unfold Document.constFields
  rw [h.agree "const" (haside "const" (by decide))]
  split
  · exact h
  · refine AlikeOff.putIfMissing ?_ (haside "enum" (by decide)) _
    split
    · exact (h.swapOut "const").putIfMissing (haside "type" (by decide)) _
    · exact h.swapOut "const"

theorem binaryFields (h : AlikeOff aside fields other) :
    AlikeOff aside (binaryFields fields) (binaryFields other) := by
  have hspells : spellsBinary fields = spellsBinary other := by
    rw [spellsBinary, spellsBinary, h.agree "type" (haside "type" (by decide)),
      h.agree "contentEncoding" (haside "contentEncoding" (by decide)),
      h.agree "contentMediaType" (haside "contentMediaType" (by decide)),
      h.agree.has_eq (haside "format" (by decide))]
  unfold Document.binaryFields
  rw [hspells]
  split
  · exact (h.put "format" _).putIfMissing (haside "type" (by decide)) _
  · exact h

/-- Objects that agree off keys which no pass looks for still do after all passes, and both become
a choice or neither does. -/
theorem settledFields (h : AlikeOff aside fields other) :
    becomesChoice (Document.visitedFields fields) = becomesChoice (Document.visitedFields other) ∧
      AlikeOff aside (settledFields fields) (settledFields other) := by
  obtain ⟨hchoice, hnullable⟩ :=
    (h.normalizePayloadFields.mapObjectsFields settleNullable).nullableFields haside
  exact ⟨hchoice, (((hnullable.mapObjectsFields settleConst).constFields haside).mapObjectsFields
    settleBinary).binaryFields haside⟩

end AlikeOff

end SchemaGraph.Document
