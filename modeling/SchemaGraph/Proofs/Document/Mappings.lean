import SchemaGraph.Proofs.Document.Passes

/-!
# Passes over mappings

A mapping from names to values is brought into normal form entry by entry, unless one of its names
is a keyword for a pass (`IsInert.settle_eq`). Only instance data and payloads are treated in
another way than the other entries, so that named schemas are settled one by one
(`NamesStructured.settle_eq`).
-/

namespace SchemaGraph.Document

variable {entries schemas : Keyed Json} {key : String}

/-- No pass takes an entry for a keyword of the mapping itself: there is neither a flag nor a
constant, and no text as encoding or media type. -/
structure IsInert (entries : Keyed Json) : Prop where
  noFlag : holdsFlag entries = false
  noConst : Keyed.get? entries "const" = none
  noEncoding : (Keyed.get? entries "contentEncoding").bind Json.string? = none
  noMedia : (Keyed.get? entries "contentMediaType").bind Json.string? = none

instance (entries : Keyed Json) : Decidable (IsInert entries) :=
  decidable_of_iff (holdsFlag entries = false ∧ Keyed.get? entries "const" = none ∧
      (Keyed.get? entries "contentEncoding").bind Json.string? = none ∧
      (Keyed.get? entries "contentMediaType").bind Json.string? = none)
    ⟨fun ⟨hflag, hconst, hencoding, hmedia⟩ => ⟨hflag, hconst, hencoding, hmedia⟩,
      fun h => ⟨h.noFlag, h.noConst, h.noEncoding, h.noMedia⟩⟩

/-- The keys by which a pass can take an entry for a keyword. -/
def markKeys : List String :=
  ["nullable", "x-nullable", "const", "contentEncoding", "contentMediaType"]

/-- Change every value in a way that depends on its name. -/
def mapNamed (entries : Keyed Json) (change : String → Json → Json) : Keyed Json :=
  entries.map fun entry => (entry.1, change entry.1 entry.2)

/-- What the pass over payloads makes of a value under a name. -/
def plainEntry (name : String) (value : Json) : Json :=
  if payloadKeys.contains name then normalizeBooleans value else normalizePayloads value

/-- What a pass makes of a value under a name. Instance data is not visited. -/
def visitEntry (pass : Json → Json) (name : String) (value : Json) : Json :=
  if dataKeys.contains name then value else pass value

/-- The normal form of a value under a name. -/
def settleEntry (name : String) (value : Json) : Json :=
  visitEntry normalizeBinary name
    (visitEntry normalizeConst name (visitEntry normalizeNullable name (plainEntry name value)))

theorem get?_mapNamed (entries : Keyed Json) (change : String → Json → Json) (key : String) :
    Keyed.get? (mapNamed entries change) key = (Keyed.get? entries key).map (change key) :=
  Keyed.get?_map entries change key

theorem keys_mapNamed (entries : Keyed Json) (change : String → Json → Json) :
    Keyed.keys (mapNamed entries change) = Keyed.keys entries :=
  List.map_map

namespace IsInert

/-- A change that keeps texts and Booleans under the keys of keywords makes no keyword. -/
theorem mapNamed (h : IsInert entries) {change : String → Json → Json}
    (hchange : ∀ key ∈ markKeys, ∀ value,
      (change key value).string? = value.string? ∧ (change key value).bool? = value.bool?) :
    IsInert (mapNamed entries change) := by
  have hstring {key : String} (hkey : key ∈ markKeys) :
      (Keyed.get? (Document.mapNamed entries change) key).bind Json.string? =
        (Keyed.get? entries key).bind Json.string? := by
    rw [get?_mapNamed]
    cases Keyed.get? entries key with
    | none => rfl
    | some value => exact (hchange key hkey value).1
  have hbool {key : String} (hkey : key ∈ markKeys) :
      (Keyed.get? (Document.mapNamed entries change) key).bind Json.bool? =
        (Keyed.get? entries key).bind Json.bool? := by
    rw [get?_mapNamed]
    cases Keyed.get? entries key with
    | none => rfl
    | some value => exact (hchange key hkey value).2
  refine ⟨?_, ?_, ?_, ?_⟩
  · have hflag := h.noFlag
    simp only [holdsFlag, flagKeys, List.any_cons, List.any_nil] at hflag ⊢
    rw [hbool (by decide), hbool (by decide)]
    exact hflag
  · rw [get?_mapNamed, h.noConst, Option.map_none]
  · rw [hstring (by decide), h.noEncoding]
  · rw [hstring (by decide), h.noMedia]

/-- The pass over payloads makes no keyword. -/
theorem plain (h : IsInert entries) : IsInert (Document.mapNamed entries plainEntry) := by
  have hnames : ∀ key ∈ markKeys, payloadKeys.contains key = false := by decide
  refine h.mapNamed fun key hkey value => ?_
  rw [plainEntry, hnames key hkey]
  exact keepsKinds_normalizePayloads value

/-- A pass that visits objects makes no keyword. -/
theorem visit (h : IsInert entries) {pass : Json → Json} (hpass : KeepsKinds pass) :
    IsInert (Document.mapNamed entries (visitEntry pass)) := by
  refine h.mapNamed fun key _ value => ?_
  unfold visitEntry
  split
  · exact ⟨rfl, rfl⟩
  · exact hpass value

/-- A pass visits a mapping entry by entry when its step leaves such mappings alone. -/
theorem mapObjects_eq (h : IsInert entries) {step : Keyed Json → Json}
    (hkinds : KeepsKinds (mapObjects step))
    (hstep : ∀ {entries}, IsInert entries → step entries = .object entries) :
    mapObjects step (.object entries) =
      .object (Document.mapNamed entries (visitEntry (mapObjects step))) := by
  rw [mapObjects, mapObjectsFields_eq]
  exact hstep (h.visit hkinds)

/-- A mapping without keywords is brought into normal form entry by entry. -/
theorem settle_eq (h : IsInert entries) :
    settle (.object entries) = .object (Document.mapNamed entries settleEntry) := by
  have hplain := h.plain
  have hnullable := hplain.visit keepsKinds_normalizeNullable
  have hconst := hnullable.visit keepsKinds_normalizeConst
  have hpayloads : normalizePayloads (.object entries) =
      .object (Document.mapNamed entries plainEntry) := by
    rw [normalizePayloads, normalizePayloadFields_eq]
    rfl
  rw [settle, hpayloads, normalizeNullable,
    hplain.mapObjects_eq keepsKinds_normalizeNullable
      fun h => settleNullable_of_not_holdsFlag h.noFlag,
    ← normalizeNullable, normalizeConst,
    hnullable.mapObjects_eq keepsKinds_normalizeConst fun h => settleConst_of_missing h.noConst,
    ← normalizeConst, normalizeBinary,
    hconst.mapObjects_eq keepsKinds_normalizeBinary
      fun h => settleBinary_of_missing h.noEncoding h.noMedia,
    ← normalizeBinary]
  simp only [Document.mapNamed, List.map_map]
  rfl

end IsInert

/-- The name is no keyword that a pass looks for, and the value is neither a text nor a Boolean. -/
structure IsNamed (name : String) (value : Json) : Prop where
  noData : name ∉ dataKeys
  noPayload : name ∉ payloadKeys
  noText : value.string? = none
  noFlag : value.bool? = none

/-- All entries are named values that are neither texts nor Booleans. -/
def NamesStructured (schemas : Keyed Json) : Prop :=
  ∀ entry ∈ schemas, IsNamed entry.1 entry.2

namespace NamesStructured

/-- Named values that are neither texts nor Booleans are no keywords. -/
theorem inert (h : NamesStructured schemas) : IsInert schemas := by
  have htext (key : String) : (Keyed.get? schemas key).bind Json.string? = none := by
    cases hvalue : Keyed.get? schemas key with
    | none => rfl
    | some value => exact (h _ (Keyed.mem_of_get? hvalue)).noText
  refine ⟨?flag, ?const, htext _, htext _⟩
  case flag =>
    rw [holdsFlag, List.any_eq_false]
    intro key _
    cases hvalue : Keyed.get? schemas key with
    | none => simp
    | some value => simp [(h _ (Keyed.mem_of_get? hvalue)).noFlag]
  case const =>
    cases hvalue : Keyed.get? schemas "const" with
    | none => rfl
    | some value =>
        have hdata : "const" ∈ dataKeys := by decide
        exact absurd hdata (h _ (Keyed.mem_of_get? hvalue)).noData

/-- A map of named schemas is settled entry by entry. -/
theorem settle_eq (h : NamesStructured schemas) :
    settle (.object schemas) = .object (Keyed.mapValues schemas settle) := by
  rw [h.inert.settle_eq, mapNamed, Keyed.mapValues]
  refine congrArg Json.object (List.map_congr_left fun entry hentry => ?_)
  have hnamed := h entry hentry
  simp [settleEntry, visitEntry, plainEntry, hnamed.noData, hnamed.noPayload, settle]

end NamesStructured

end SchemaGraph.Document
