import SchemaGraph.Proofs.Links.Claims

/-!
# Schemas in sum types

The alternatives of a sum type that name a schema are the members of its composition that refer to
one, in order, each with the class of the schema (`SumType.references_build`). Its tag selects
schemas of the table only. A schema gets its parent from a sum type that lists it, and since the
alternatives depend on the composition alone, this is still so when all of a table is discovered
(`Table.sound_discover`).
-/

namespace SchemaGraph

/-- The schema that an alternative names, with its class. -/
def Alternative.named? : Alternative → Option (String × String)
  | .reference schemaName className => some (schemaName, className)
  | .wrapped _ _ | .inline _ _ => none

/-- The schemas that the alternatives of a sum type name, with their classes. -/
def SumType.references (sumType : SumType) : List (String × String) :=
  sumType.alternatives.filterMap fun listed => listed.alternative.named?

/-- The schema that a member refers to, or the stand-in for one that cannot be found, with its
class. -/
def SchemaUse.named? (table : Table) (namer : Namer) (member : SchemaUse) :
    Option (String × String) :=
  (SchemaUse.target? member).map fun reference =>
    let resolved := (table.resolve? reference).toOption.getD .unknown
    (resolved.name, namer.className resolved.name)

/-- The schemas that members refer to have their classes. -/
theorem SchemaUse.className_of_named? {table : Table} {namer : Namer} {member : SchemaUse}
    {schemaName className : String} (h : named? table namer member = some (schemaName, className)) :
    className = namer.className schemaName := by
  obtain ⟨reference, _, hpair⟩ := Option.map_eq_some_iff.1 h
  cases hpair
  rfl

/-- A schema that a member claims is one that it refers to. -/
theorem SchemaUse.named?_of_claimed? {table : Table} {member : SchemaUse} {child : String}
    (h : claimed? table member = some child) (namer : Namer) :
    named? table namer member = some (child, namer.className child) := by
  obtain ⟨reference, htarget, hclaimed⟩ := Option.bind_eq_some_iff.1 h
  obtain ⟨_, hname⟩ := Option.ite_none_left_eq_some.1 hclaimed
  cases hname
  rw [named?, htarget, Option.map_some]

/-- The target of a tag is a schema of the table with its class. -/
def TagTarget.Linked (table : Table) (namer : Namer) (target : TagTarget) : Prop :=
  target.schemaName ∈ table.names ∧ target.className = namer.className target.schemaName

namespace SumType

variable {table : Table} {namer : Namer} {parent : String} {kind : CompositionKind}

/-- A member contributes a named alternative when it refers to a schema. -/
theorem named?_classify {position : Nat} {member : SchemaUse} {registry : Registry} :
    (classify table namer parent kind position member registry).value.1.bind Alternative.named? =
      SchemaUse.named? table namer member := by
  unfold classify SchemaUse.named?
  cases SchemaUse.target? member with
  | some reference =>
      dsimp only
      rw [Reported.value_bind, Table.value_resolve]
      split <;> rfl
  | none =>
      cases Use.schema? member with
      | none => rfl
      | some schema => cases schema <;> rfl

/-- The named alternatives of members are the schemas that they refer to, in order. -/
theorem named?_classifyAll {position : Nat} {members : List SchemaUse} {registry : Registry} :
    (classifyAll table namer parent kind position members registry).value.1.filterMap
      Alternative.named? = members.filterMap (SchemaUse.named? table namer) := by
  induction members generalizing position registry with
  | nil => rfl
  | cons member rest ih =>
      simp only [classifyAll, Reported.value_bind, Reported.value_pure, List.filterMap_append, ih]
      rw [filterMap_cons_eq_append, ← named?_classify, Option.toList_bind,
        List.filterMap_eq_flatMap_toList]
      rfl

/-- Renaming wrappers leaves the named alternatives as they are. -/
theorem named?_renameWrappers (alternatives : List Alternative) (names : List String) :
    (renameWrappers alternatives names).filterMap Alternative.named? =
      alternatives.filterMap Alternative.named? := by
  fun_induction renameWrappers alternatives names with
  | case1 kind old rest name names ih =>
      rw [List.filterMap_cons, List.filterMap_cons, ih]
      rfl
  | case2 alternative rest names hother ih => rw [List.filterMap_cons, List.filterMap_cons, ih]
  | case3 => rfl

/-- Marking the alternatives that others follow leaves them as they are. -/
theorem named?_listed (alternatives : List Alternative) :
    (listed alternatives).filterMap (fun listed => listed.alternative.named?) =
      alternatives.filterMap Alternative.named? := by
  induction alternatives with
  | nil => rfl
  | cons alternative rest ih => rw [listed, List.filterMap_cons, List.filterMap_cons, ih]

/-- Without a mapping the tag selects the named alternatives that are in the table. -/
theorem linked_implicitTargets {alternatives : List Alternative}
    (h : ∀ pair ∈ alternatives.filterMap Alternative.named?, pair.2 = namer.className pair.1) :
    ∀ target ∈ implicitTargets table alternatives, target.Linked table namer := by
  intro target htarget
  obtain ⟨alternative, hmem, htarget⟩ := List.mem_filterMap.1 htarget
  cases alternative with
  | wrapped | inline => cases htarget
  | reference schemaName className =>
      simp only at htarget
      split at htarget
      · next hcontains =>
          cases htarget
          have hpair : (schemaName, className) ∈ alternatives.filterMap Alternative.named? :=
            List.mem_filterMap.2 ⟨_, hmem, rfl⟩
          exact ⟨(table.get?_isSome_iff schemaName).1 hcontains, h _ hpair⟩
      · cases htarget

/-- Of a mapping, the tag keeps the entries that lead to a schema. -/
theorem linked_mappedTargets {entries : List MappingEntry} :
    ∀ target ∈ (mappedTargets table namer parent entries).value, target.Linked table namer := by
  induction entries with
  | nil => nofun
  | cons entry rest ih =>
      unfold mappedTargets
      split
      · next resolved hresolve =>
          have hget := (Table.resolve?_eq_ok_iff.1 hresolve).get?
          rintro target (_ | ⟨_, htarget⟩)
          · exact ⟨Table.mem_names_of_get? hget, rfl⟩
          · exact ih target htarget
      · exact ih

/-- A tag selects schemas of the table. -/
theorem linked_tagOf {parts : Composition} {alternatives : List Alternative} {tag : Tag}
    (h : ∀ pair ∈ alternatives.filterMap Alternative.named?, pair.2 = namer.className pair.1)
    (htag : (tagOf table namer parent parts alternatives).value = some tag) :
    ∀ target ∈ tag.mappings, target.Linked table namer := by
  unfold tagOf at htag
  split at htag
  · dsimp only at htag
    split at htag
    · cases htag
    · split at htag
      · cases htag
        exact linked_implicitTargets h
      · cases htag
        exact linked_mappedTargets
  · cases htag

/-- A sum type that has been discovered in a composition: its alternatives name what the members
refer to, and its tag selects schemas of the table. -/
structure Describes (table : Table) (namer : Namer) (parts : Composition) (sumType : SumType) :
    Prop where
  references : sumType.references = parts.members.filterMap (SchemaUse.named? table namer)
  tag : ∀ tag, sumType.tag = some tag → ∀ target ∈ tag.mappings, target.Linked table namer

/-- A schema that is named by an alternative is named with its class. -/
theorem Describes.mem_references {parts : Composition} {sumType : SumType}
    (h : sumType.Describes table namer parts) {schemaName : String}
    (hmem : schemaName ∈ sumType.references.map Prod.fst) :
    (schemaName, namer.className schemaName) ∈ sumType.references := by
  obtain ⟨⟨_, className⟩, hpair, rfl⟩ := List.mem_map.1 hmem
  rw [h.references] at hpair ⊢
  obtain ⟨member, hmember, hnamed⟩ := List.mem_filterMap.1 hpair
  obtain rfl := SchemaUse.className_of_named? hnamed
  exact List.mem_filterMap.2 ⟨member, hmember, hnamed⟩

/-- The alternatives of a sum type name the schemas that the members of its composition refer to. -/
theorem references_build {parts : Composition} {registry : Registry} :
    (build table namer parent parts registry).value.1.references =
      parts.members.filterMap (SchemaUse.named? table namer) := by
  simp only [build, Reported.value_bind, Reported.value_pure, references, named?_listed,
    withDistinctWrappers, named?_renameWrappers, named?_classifyAll]

/-- A composition is described by the sum type made from it. -/
theorem describes_build {parts : Composition} {registry : Registry} :
    (build table namer parent parts registry).value.1.Describes table namer parts where
  references := references_build
  tag tag htag := by
    refine linked_tagOf (fun (schemaName, className) hpair => ?_) htag
    rw [withDistinctWrappers, named?_renameWrappers, named?_classifyAll] at hpair
    obtain ⟨member, _, hnamed⟩ := List.mem_filterMap.1 hpair
    exact SchemaUse.className_of_named? hnamed

/-- The alternatives of a sum type name what its members claim. -/
theorem mem_references_build {parts : Composition} {registry : Registry} {child : String}
    (h : child ∈ parts.members.filterMap (SchemaUse.claimed? table)) :
    child ∈ (build table namer parent parts registry).value.1.references.map Prod.fst := by
  obtain ⟨member, hmember, hclaimed⟩ := List.mem_filterMap.1 h
  have hnamed := SchemaUse.named?_of_claimed? hclaimed namer
  rw [references_build]
  exact List.mem_map.2 ⟨_, List.mem_filterMap.2 ⟨member, hmember, hnamed⟩, rfl⟩

end SumType

/-- What has been discovered in a table: each sum type describes the composition of its name, and
the parent of a schema is a sum type that lists it. -/
structure Discovery.Sound (table : Table) (namer : Namer) (discovery : Discovery) : Prop where
  sumTypes : ∀ {name sumType}, Keyed.get? discovery.sumTypes name = some sumType →
    ∃ parts, table.get? name = some (.composition parts) ∧ sumType.Describes table namer parts
  parents : ∀ {child parent}, discovery.registry.parent? child = some parent →
    ∃ sumType, Keyed.get? discovery.sumTypes parent = some sumType ∧
      child ∈ sumType.references.map Prod.fst

namespace Discovery

variable {table : Table} {namer : Namer} {discovery : Discovery}

/-- Nothing has been discovered yet. -/
theorem sound_empty : Sound table namer .empty :=
  ⟨nofun, nofun⟩

/-- Discovering one more composition of the table keeps the discovery sound. -/
theorem Sound.build (hsound : discovery.Sound table namer) {name : String} {parts : Composition}
    (hget : table.get? name = some (.composition parts)) :
    let built := (SumType.build table namer name parts discovery.registry).value
    Sound table namer ⟨built.2, Keyed.put discovery.sumTypes name built.1⟩ where
  sumTypes := by
    intro other found hfound
    rw [Keyed.get?_put] at hfound
    split at hfound
    · next heq =>
        cases hfound
        exact ⟨parts, heq ▸ hget, SumType.describes_build⟩
    · exact hsound.sumTypes hfound
  parents := by
    intro child parent hparent
    simp only [Keyed.get?_put]
    rw [SumType.parent?_build] at hparent
    split at hparent
    · next hclaimed =>
        cases hparent
        exact ⟨_, if_pos rfl, SumType.mem_references_build hclaimed⟩
    · obtain ⟨found, hfound, hmem⟩ := hsound.parents hparent
      split
      · next heq =>
          -- A sum type that is replaced was made from the same composition, and lists the same.
          obtain ⟨parts', hget', hdescribes⟩ := hsound.sumTypes hfound
          cases (heq ▸ hget').symm.trans hget
          exact ⟨_, rfl, by rwa [SumType.references_build, ← hdescribes.references]⟩
      · exact ⟨found, hfound, hmem⟩

/-- Discovering compositions of the table one after the other keeps the discovery sound. -/
theorem sound_ofEntries {entries : List (String × Schema)}
    (hentries : ∀ entry ∈ entries, entry ∈ table.entries) (hsound : discovery.Sound table namer) :
    (ofEntries table namer entries discovery).value.Sound table namer := by
  induction entries generalizing discovery with
  | nil => exact hsound
  | cons entry rest ih =>
      obtain ⟨name, schema⟩ := entry
      obtain ⟨hentry, hrest⟩ := List.forall_mem_cons.1 hentries
      cases schema with
      | composition parts =>
          have hget := Table.get?_eq_some_iff.2 hentry
          rw [ofEntries]
          split
          · exact ih hrest (hsound.build hget)
          · exact ih hrest hsound
      | _ => exact ih hrest hsound

end Discovery

/-- What is discovered in a table is sound. -/
theorem Table.sound_discover (table : Table) (namer : Namer) :
    (table.discover namer).value.Sound table namer :=
  Discovery.sound_ofEntries (fun _ hentry => hentry) Discovery.sound_empty

end SchemaGraph
