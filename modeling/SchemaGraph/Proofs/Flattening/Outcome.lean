import SchemaGraph.Proofs.Flattening.Order

/-!
# The flattened table

`Table.flatten_outcome` says what the flattening leaves, whether or not dependencies go round: every
`allOf` entry has become an object in its place, nothing else has changed, and the list of flattened
names holds each of these entries once. In a table without cycles it lists an entry after all those
it depends on.
-/

namespace SchemaGraph.Table

open Flattening

/-- The `allOf` names are the names of the `allOf` entries. -/
theorem mem_allOfNames {table : Table} {name : String} :
    name ∈ table.allOfNames ↔ table.HasAllOf name := by
  simp only [allOfNames, List.mem_map, List.mem_filter, Prod.exists, exists_and_right,
    exists_eq_right, ← get?_eq_some_iff]
  constructor
  · rintro ⟨schema, hget, hallOf⟩
    exact (hasAllOf_iff_isAllOf hget).2 hallOf
  · rintro ⟨parts, hallOf⟩
    exact ⟨_, hallOf.1, (hasAllOf_iff_isAllOf hallOf.1).1 ⟨parts, hallOf⟩⟩

/-- The flattened table is a stage of its own flattening. -/
theorem flatten_stage (table : Table) : Stage table table.flatten.value :=
  ((flatten_run table .empty).stage table.distinct (Stage.start table)).1

/-- The flattened names are those of the `allOf` entries. -/
theorem mem_flattened {table : Table} {name : String} :
    name ∈ table.flatten.value.flattened ↔ table.HasAllOf name := by
  constructor
  · intro hname
    obtain ⟨parts, _, hallOf, _⟩ := table.flatten_stage.done name hname
    exact ⟨parts, hallOf⟩
  · intro hallOf
    obtain ⟨parts, hparts⟩ := hallOf
    have hsettled := ((flatten_run table .empty).stage table.distinct (Stage.start table)).2.2.2
    exact hsettled name (mem_allOfNames.2 ⟨parts, hparts⟩) hparts.mem_names ⟨parts, hparts⟩

/-- Every cycle that the flattening reports is one. -/
theorem flatten_genuine (table : Table) : table.Genuine table.flatten.reports :=
  (flatten_run table .empty).genuine table.distinct (Stage.start table) rfl
    fun _ hname hidle => absurd hname hidle

/-- In a table without cycles none is reported. -/
theorem Acyclic.cycleFree_flatten {table : Table} (hacyclic : table.Acyclic) :
    table.flatten.CycleFree := by
  intro report hreport hcycle
  obtain ⟨_, _, _, hcloses⟩ := table.flatten_genuine report hreport hcycle
  exact hcloses.not_acyclic hacyclic

/-- While no cycle is reported, entries are flattened after those they depend on. -/
theorem basesFirst_flattened {table : Table} (hfree : table.flatten.CycleFree) :
    table.BasesFirst table.flatten.value.flattened := by
  refine ((flatten_run table .empty).basesFirst table.distinct (Stage.start table) hfree ?_).1
  intro before _ _ hsplit
  cases before <;> cases hsplit

/-- A dog is an animal, which it names by an alias, and has a mood. -/
def kennel : Table :=
  ⟨[("Dog", .composition ⟨.allOf, [.named "#/components/schemas/Pet",
      .named "#/components/schemas/Mood",
      .inline (.object ⟨[("bark", .inline .any)], [], [], Docs.none⟩)], none, Docs.none⟩),
    ("Pet", .alias "#/components/schemas/Animal"),
    ("Animal", .composition ⟨.allOf, [.named "#/components/schemas/Being"], none, Docs.none⟩),
    ("Being", .object ⟨[("id", .inline .any)], ["id"], [], Docs.none⟩),
    ("Mood", .composition ⟨.oneOf, [], none, Docs.none⟩)], by decide⟩

/-- The pet of a dog leads to the animal. -/
theorem kennel_leadsTo_animal :
    kennel.LeadsTo "#/components/schemas/Pet" "Animal"
      (.composition ⟨.allOf, [.named "#/components/schemas/Being"], none, Docs.none⟩) := by
  have hstep : kennel.AliasStep "Pet" "Animal" := ⟨_, rfl, by decide +kernel⟩
  exact ⟨"Pet", by decide +kernel, .single hstep, rfl, nofun⟩

/-- The mood of a dog is a choice. -/
theorem kennel_leadsTo_mood :
    kennel.LeadsTo "#/components/schemas/Mood" "Mood"
      (.composition ⟨.oneOf, [], none, Docs.none⟩) :=
  ⟨"Mood", by decide +kernel, .refl, rfl, nofun⟩

/-- An animal is a being. -/
theorem kennel_leadsTo_being :
    kennel.LeadsTo "#/components/schemas/Being" "Being"
      (.object ⟨[("id", .inline .any)], ["id"], [], Docs.none⟩) :=
  ⟨"Being", by decide +kernel, .refl, rfl, nofun⟩

/-- Dogs depend on animals, and animals on nothing that depends on others. -/
theorem kennel_acyclic : kennel.Acyclic := by
  refine .of_rank (fun name => if name = "Dog" then 2 else if name = "Animal" then 1 else 0) ?_
  rintro name base ⟨parts, ⟨hget, _⟩, member, hmember, reference, schema, rfl, hleads, _⟩
  have hentry := get?_eq_some_iff.1 hget
  simp only [kennel, List.mem_cons, Prod.mk.injEq, Schema.composition.injEq, List.not_mem_nil,
    reduceCtorEq, and_false, or_false, false_or] at hentry
  rcases hentry with ⟨rfl, rfl⟩ | ⟨rfl, rfl⟩ | ⟨rfl, rfl⟩
  · simp only [List.mem_cons, Use.named.injEq, reduceCtorEq, List.not_mem_nil, or_false] at hmember
    rcases hmember with rfl | rfl
    · obtain ⟨rfl, _⟩ := hleads.unique kennel_leadsTo_animal
      decide
    · obtain ⟨rfl, _⟩ := hleads.unique kennel_leadsTo_mood
      decide
  · simp only [List.mem_cons, Use.named.injEq, List.not_mem_nil, or_false] at hmember
    subst hmember
    obtain ⟨rfl, _⟩ := hleads.unique kennel_leadsTo_being
    decide
  · cases hmember

/-- Flattening keeps the names and their order and every entry that is no `allOf`, and puts an
object with the same title and description in the place of each `allOf` entry, so that none is left.
It lists each of them once, in a table without cycles after all those it depends on, and it only
adds to the log. -/
theorem flatten_outcome (table : Table) :
    table.flatten.value.table.names = table.names ∧
    (∀ name schema, table.get? name = some schema → schema.isAllOf = false →
      table.flatten.value.table.get? name = some schema) ∧
    (∀ name parts, table.AllOf name parts → ∃ object,
      table.flatten.value.table.get? name = some (.object object) ∧ object.docs = parts.docs) ∧
    (∀ name schema, table.flatten.value.table.get? name = some schema →
      schema.isAllOf = false) ∧
    table.flatten.value.flattened.Nodup ∧
    (∀ name, name ∈ table.flatten.value.flattened ↔ table.HasAllOf name) ∧
    (table.Acyclic → table.BasesFirst table.flatten.value.flattened) ∧
    (∀ log : Log, log.entries <+: (log.record table.flatten.reports).entries) := by
  have hstage := table.flatten_stage
  refine ⟨hstage.names, ?untouched, ?replaced, ?none, hstage.once, fun _ => mem_flattened,
    fun hacyclic => basesFirst_flattened hacyclic.cycleFree_flatten,
    fun log => log.record_prefix _⟩
  case untouched =>
    intro name schema hget hallOf
    have hopen : name ∉ table.flatten.value.flattened := by
      rw [mem_flattened, hasAllOf_iff_isAllOf hget, hallOf]
      exact Bool.false_ne_true
    exact (hstage.kept name hopen).trans hget
  case replaced =>
    intro name parts hallOf
    obtain ⟨other, object, hother, hget, hdocs⟩ :=
      hstage.done name (mem_flattened.2 ⟨parts, hallOf⟩)
    exact ⟨object, hget, hallOf.unique hother ▸ hdocs⟩
  case none =>
    intro name schema hget
    rw [← Bool.not_eq_true, ← hasAllOf_iff_isAllOf hget]
    rintro ⟨parts, hallOf⟩
    obtain ⟨hopen, hallOf⟩ := hstage.allOf_iff.1 hallOf
    exact hopen (mem_flattened.2 ⟨parts, hallOf⟩)

/-- An animal is flattened before the dog, which depends on it. -/
theorem kennel_outcome :
    kennel.Acyclic ∧ ∃ before after,
      kennel.flatten.value.flattened = before ++ "Dog" :: after ∧ "Animal" ∈ before := by
  obtain ⟨_, _, _, _, _, hflattened, hfirst, _⟩ := flatten_outcome kennel
  have hdog : "Dog" ∈ kennel.flatten.value.flattened := (hflattened "Dog").2 ⟨_, rfl, rfl⟩
  obtain ⟨before, after, hsplit⟩ := List.append_of_mem hdog
  have hdepends : kennel.DependsOn "Dog" "Animal" :=
    ⟨_, ⟨rfl, rfl⟩, _, List.mem_cons_self, _, _, rfl, kennel_leadsTo_animal, _, rfl, rfl⟩
  exact ⟨kennel_acyclic, before, after, hsplit,
    hfirst kennel_acyclic before "Dog" after hsplit "Animal" hdepends⟩

end SchemaGraph.Table
