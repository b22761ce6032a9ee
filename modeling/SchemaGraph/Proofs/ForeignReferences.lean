import Mathlib.Data.List.TakeWhile
import SchemaGraph.Proofs.Resolution
import SchemaGraph.Reference.Location

/-!
# References to other documents

A reference whose document part does not name the current document is kept as it is written. What it
leads to in the table is decided by its last segment alone, so the document part plays no role: the
reference leads to what the local pointer with its fragment leads to, and it degrades to the unknown
schema exactly when that pointer does (`Table.resolve_foreign`).
-/

namespace SchemaGraph

namespace Reference

variable {address : Option String} {reference : String}

/-- The reference has a document part, and this part does not name the current document. -/
def IsForeign (address : Option String) (reference : String) : Prop :=
  ∃ document fragment, splitFragment? reference.toList = some (document, fragment) ∧
    document ≠ [] ∧
    ∀ current, address = some current → ¬ namesDocument (String.ofList document) current

/-- The reference from its first number sign on. -/
def localPointer (reference : String) : String :=
  String.ofList (reference.toList.dropWhile (· ≠ '#'))

/-- A reference to another document is kept as it is written. -/
theorem IsForeign.localize_eq (h : IsForeign address reference) :
    localize address reference = reference := by
  obtain ⟨document, fragment, hsplit, _, hforeign⟩ := h
  cases address with
  | none => rfl
  | some current =>
      have hnames : namesDocument (String.ofList document) current = false :=
        Bool.eq_false_iff.2 (hforeign current rfl)
      simp [localize, hsplit, hnames]

/-- The last segment of a text with a slash is what follows the last slash. -/
theorem lastSegment_append {before after : List Char} (h : '/' ∈ after) :
    lastSegment (before ++ after) = lastSegment after := by
  have hstops : (after.reverse.takeWhile (· ≠ '/')).length ≠ after.reverse.length := by
    intro hlength
    have hall := (List.takeWhile_prefix (· ≠ '/')).eq_of_length hlength
    have hslash := List.takeWhile_eq_self_iff.1 hall '/' (List.mem_reverse.2 h)
    simp at hslash
  have hbefore : '/' ∈ before ++ after := List.mem_append_right before h
  simp only [lastSegment, List.contains_iff_mem, h, hbefore, if_true, List.reverse_append]
  rw [List.takeWhile_append, if_neg hstops]

/-- The name in a reference with a pointer is the name in this pointer. -/
theorem schemaName?_localPointer (h : '/' ∈ (localPointer reference).toList) :
    schemaName? (localPointer reference) = schemaName? reference := by
  have hsplit : reference.toList =
      reference.toList.takeWhile (· ≠ '#') ++ (localPointer reference).toList := by
    rw [localPointer, String.toList_ofList, List.takeWhile_append_dropWhile]
  rw [schemaName?, schemaName?, hsplit, lastSegment_append h]

end Reference

namespace Table

variable {table : Table} {subject : Option String} {reference : String}

/-- The reference is given up: it stands for the unknown schema from now on, and this is
reported. -/
def Degrades (table : Table) (subject : Option String) (reference : String) : Prop :=
  (table.resolve subject reference).value = .unknown ∧
    (table.resolve subject reference).reports ≠ []

/-- A reference is given up exactly when it leads nowhere. -/
theorem degrades_iff :
    table.Degrades subject reference ↔ ∀ name schema, ¬ table.LeadsTo reference name schema := by
  constructor
  · rintro ⟨_, hreports⟩ name schema hleads
    rw [resolve, hleads.resolve?_eq] at hreports
    exact hreports rfl
  · intro hnowhere
    cases hresolve : table.resolve? reference with
    | ok resolved => exact absurd (resolve?_eq_ok_iff.1 hresolve) (hnowhere _ _)
    | error failure =>
        unfold Degrades resolve
        rw [hresolve]
        exact ⟨rfl, List.cons_ne_nil _ _⟩

/-- References with the same name lead to the same entry. -/
theorem leadsTo_congr_name {other : String}
    (h : Reference.schemaName? reference = Reference.schemaName? other) :
    table.LeadsTo reference = table.LeadsTo other := by
  funext name schema
  rw [LeadsTo, LeadsTo, h]

/-- A reference with a pointer into another document is kept as it is written. It is resolved to the
schema that the same pointer has in the current document, without a report, and it is given up
exactly when the pointer leads nowhere there. -/
theorem resolve_foreign {address : Option String} (hforeign : Reference.IsForeign address reference)
    (hpointer : '/' ∈ (Reference.localPointer reference).toList) (table : Table)
    (subject : Option String) :
    Reference.localize address reference = reference ∧
      (∀ name schema, table.LeadsTo (Reference.localPointer reference) name schema →
        table.resolve subject reference = pure ⟨name, schema⟩) ∧
      (table.Degrades subject reference ↔
        ∀ name schema, ¬ table.LeadsTo (Reference.localPointer reference) name schema) := by
  have hsame : table.LeadsTo (Reference.localPointer reference) = table.LeadsTo reference :=
    leadsTo_congr_name (Reference.schemaName?_localPointer hpointer)
  refine ⟨hforeign.localize_eq, ?_, ?_⟩
  · intro name schema hleads
    rw [hsame] at hleads
    rw [resolve, hleads.resolve?_eq]
  · rw [hsame]
    exact degrades_iff

/-- A table with one schema, under the name that a foreign pointer writes. -/
def petTable : Table := .insert .empty "Pet" .any

/-- A pet in another document is resolved to the pet of this one, and not given up. -/
theorem petTable_resolve_foreign :
    (Reference.IsForeign (some "https://a.org/api.yaml") "https://b.org/api.yaml#/schemas/Pet" ∧
      '/' ∈ (Reference.localPointer "https://b.org/api.yaml#/schemas/Pet").toList) ∧
    Reference.localize (some "https://a.org/api.yaml") "https://b.org/api.yaml#/schemas/Pet" =
      "https://b.org/api.yaml#/schemas/Pet" ∧
    petTable.resolve none "https://b.org/api.yaml#/schemas/Pet" = pure ⟨"Pet", .any⟩ ∧
    ¬ petTable.Degrades none "https://b.org/api.yaml#/schemas/Pet" := by
  have hforeign : Reference.IsForeign (some "https://a.org/api.yaml")
      "https://b.org/api.yaml#/schemas/Pet" := by
    refine ⟨"https://b.org/api.yaml".toList, "/schemas/Pet".toList, by decide, by decide, ?_⟩
    rintro _ ⟨⟩
    decide +kernel
  have hpointer : '/' ∈ (Reference.localPointer "https://b.org/api.yaml#/schemas/Pet").toList := by
    decide
  have hleads : petTable.LeadsTo (Reference.localPointer "https://b.org/api.yaml#/schemas/Pet")
      "Pet" .any :=
    ⟨"Pet", by decide, .refl, rfl, nofun⟩
  obtain ⟨hkept, hfound, hdegrades⟩ := resolve_foreign hforeign hpointer petTable none
  exact ⟨⟨hforeign, hpointer⟩, hkept, hfound _ _ hleads, fun h => hdegrades.1 h _ _ hleads⟩

end Table
end SchemaGraph
