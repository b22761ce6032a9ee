import SchemaGraph.Proofs.Links.Alternatives
import SchemaGraph.Proofs.Links.Parents
import SchemaGraph.Proofs.Links.SumTypes

/-!
# Stand-ins among alternatives

A member of a sum type whose reference is not resolved is shown as the stand-in. Nothing is
registered for it, since it has no schema. The tag and the imports of the record go by its name
instead: they leave it out unless the table has a schema of this very name, which is then linked in
its place. `Table.links_sumType` says what is linked in general, and when this is what the members
lead to.
-/

namespace SchemaGraph

/-- Where a function gives no more than another one, both give the same for a list when they agree
on its items. -/
theorem filterMap_eq_filterMap_iff {α β : Type} {less more : α → Option β}
    (hless : ∀ item value, less item = some value → more item = some value) {items : List α} :
    items.filterMap less = items.filterMap more ↔ ∀ item ∈ items, less item = more item := by
  refine ⟨fun heq => ?_, List.filterMap_congr⟩
  induction items with
  | nil => nofun
  | cons item rest ih =>
      rw [List.forall_mem_cons]
      cases hitem : less item with
      | some value =>
          have hsame := hless item value hitem
          rw [List.filterMap_cons_some hitem, List.filterMap_cons_some hsame] at heq
          exact ⟨hsame.symm, ih (List.cons.inj heq).2⟩
      | none =>
          rw [List.filterMap_cons_none hitem] at heq
          cases hmore : more item with
          | none =>
              rw [List.filterMap_cons_none hmore] at heq
              exact ⟨rfl, ih heq⟩
          | some value =>
              -- The rest gives no more under the first function, and one value more has no room.
              rw [List.filterMap_cons_some hmore] at heq
              have hlength : (rest.filterMap less).length ≤ (rest.filterMap more).length := by
                simp only [List.length_filterMap_eq_countP]
                refine List.countP_mono_left fun other _ hother => ?_
                obtain ⟨found, hfound⟩ := Option.isSome_iff_exists.1 hother
                rw [hless other found hfound]
                rfl
              rw [heq, List.length_cons] at hlength
              exact absurd hlength (Nat.not_succ_le_self _)

/-- The name of the entry that a reference leads to. -/
def Table.foundName? (table : Table) (reference : String) : Option String :=
  (table.resolve? reference).toOption.map Resolved.name

/-- The entry that has the name of the stand-in, if the table has one. -/
def Table.namesake? (table : Table) : Option String :=
  if table.contains Resolved.unknownName then some Resolved.unknownName else none

namespace SchemaUse

/-- The name of the entry that a member leads to, if it names a schema. -/
def foundName? (table : Table) (member : SchemaUse) : Option String :=
  (SchemaUse.target? member).bind table.foundName?

/-- The name of the entry that is linked for a member that names a schema: the one that it leads to,
or else the one that has the name of the stand-in. -/
def linkedName? (table : Table) (member : SchemaUse) : Option String :=
  (SchemaUse.target? member).bind fun reference =>
    (table.foundName? reference).or table.namesake?

end SchemaUse

namespace Table

variable {table : Table} {reference name : String}

/-- The entry that a reference leads to is the one that is found. -/
theorem foundName?_eq_some_iff :
    table.foundName? reference = some name ↔ ∃ schema, table.LeadsTo reference name schema := by
  unfold foundName?
  cases hresolve : table.resolve? reference with
  | error failure =>
      refine iff_of_false nofun ?_
      rintro ⟨schema, hleads⟩
      cases hleads.resolve?_eq.symm.trans hresolve
  | ok resolved =>
      have hleads := resolve?_eq_ok_iff.1 hresolve
      refine Option.some_inj.trans ⟨?_, ?_⟩
      · rintro rfl
        exact ⟨_, hleads⟩
      · rintro ⟨schema, hother⟩
        exact (hleads.unique hother).1

/-- No entry is found when the reference leads to none. -/
theorem foundName?_eq_none_iff : table.foundName? reference = none ↔ ¬ table.Finds reference := by
  rw [Option.eq_none_iff_forall_ne_some]
  simp only [ne_eq, foundName?_eq_some_iff, Finds, not_exists]

/-- No entry has the name of the stand-in. -/
theorem namesake?_eq_none_iff : table.namesake? = none ↔ Resolved.unknownName ∉ table.names := by
  rw [← get?_isSome_iff]
  exact ite_eq_right_iff.trans (by simp [contains, get?, Keyed.has])

/-- The name that a reference is resolved to is that of an entry when one is found, or else when an
entry has the name of the stand-in. -/
theorem filter_contains_resolve? :
    (some ((table.resolve? reference).toOption.getD .unknown).name).filter table.contains =
      (table.foundName? reference).or table.namesake? := by
  unfold foundName?
  cases hresolve : table.resolve? reference with
  | error failure => exact Option.filter_some
  | ok resolved =>
      have hget := (resolve?_eq_ok_iff.1 hresolve).get?
      exact Option.filter_some_pos ((table.get?_isSome_iff _).2 (mem_names_of_get? hget))

end Table

namespace SchemaUse

variable {table : Table} {member : SchemaUse} {name : String}

/-- A member leads to an entry when its reference does. -/
theorem foundName?_eq_some_iff :
    foundName? table member = some name ↔
      ∃ reference schema, member.Names reference ∧ table.LeadsTo reference name schema := by
  simp only [foundName?, Option.bind_eq_some_iff, target?_eq_some_iff,
    Table.foundName?_eq_some_iff, exists_and_left]

/-- The entry that a member leads to is linked. -/
theorem linkedName?_of_foundName? (h : foundName? table member = some name) :
    linkedName? table member = some name := by
  obtain ⟨reference, htarget, hfound⟩ := Option.bind_eq_some_iff.1 h
  rw [linkedName?, htarget, Option.bind_some, hfound, Option.some_or]

/-- The entry that a member leads to is the one that is linked, when it is found or no entry has the
name of the stand-in. -/
theorem foundName?_eq_linkedName?_iff :
    foundName? table member = linkedName? table member ↔
      (Resolved.unknownName ∈ table.names →
        ∀ reference, member.Names reference → table.Finds reference) := by
  unfold foundName? linkedName?
  cases htarget : SchemaUse.target? member with
  | none =>
      refine iff_of_true rfl fun _ reference hnames => ?_
      cases (target?_eq_some_iff.2 hnames).symm.trans htarget
  | some reference =>
      have hnames : ∀ other, member.Names other ↔ reference = other := fun other => by
        rw [← target?_eq_some_iff, htarget, Option.some_inj]
      simp only [Option.bind_some, hnames, forall_eq']
      cases hfound : table.foundName? reference with
      | some name =>
          rw [Option.some_or]
          refine iff_of_true rfl fun _ => ?_
          obtain ⟨schema, hleads⟩ := Table.foundName?_eq_some_iff.1 hfound
          exact ⟨name, schema, hleads⟩
      | none =>
          have hmissing := iff_false_intro (Table.foundName?_eq_none_iff.1 hfound)
          rw [Option.none_or, eq_comm, Table.namesake?_eq_none_iff]
          exact (imp_congr_right fun _ => hmissing).symm

/-- What a member claims is what it leads to. -/
theorem foundName?_of_claimed? (h : claimed? table member = some name) :
    foundName? table member = some name := by
  obtain ⟨reference, schema, hnames, hleads, _⟩ := claimed?_eq_some_iff.1 h
  exact foundName?_eq_some_iff.2 ⟨reference, schema, hnames, hleads⟩

/-- Of what members are shown as, the names in the table are linked. -/
theorem filter_named? (namer : Namer) :
    (named? table namer member).filter (fun pair => table.contains pair.1) =
      (linkedName? table member).map fun name => (name, namer.className name) := by
  unfold named? linkedName?
  cases SchemaUse.target? member with
  | none => rfl
  | some reference =>
      rw [Option.bind_some, ← Table.filter_contains_resolve?, Option.map_some, Option.filter_some,
        Option.filter_some]
      split <;> rfl

end SchemaUse

/-- Of what the alternatives of a sum type are, the names in the table are linked. -/
theorem filter_filterMap_named? (table : Table) (namer : Namer) (members : List SchemaUse) :
    (members.filterMap (SchemaUse.named? table namer)).filter
        (fun pair => table.contains pair.1) =
      (members.filterMap (SchemaUse.linkedName? table)).map fun name =>
        (name, namer.className name) := by
  rw [List.filter_filterMap, List.map_filterMap]
  exact List.filterMap_congr fun member _ => SchemaUse.filter_named? namer

/-- What a named alternative gives when its name has a property. -/
theorem Alternative.map_filter_named? {α : Type} (property : String → Bool)
    (value : String × String → α) (alternative : Alternative) :
    (alternative.named?.filter fun pair => property pair.1).map value =
      match alternative with
      | .reference schemaName className =>
          if property schemaName then some (value (schemaName, className)) else none
      | _ => none := by
  cases alternative with
  | reference schemaName className =>
      rw [named?, Option.filter_some]
      dsimp only
      split <;> rfl
  | wrapped | inline => rfl

namespace SumType

variable {table : Table} {namer : Namer} {parent name : String} {parts : Composition}

/-- The tag selects the named alternatives in the table. -/
theorem implicitTargets_eq_map (alternatives : List Alternative) :
    implicitTargets table alternatives =
      ((alternatives.filterMap Alternative.named?).filter fun pair => table.contains pair.1).map
        fun pair => ⟨pair.1, pair.1, pair.2⟩ := by
  rw [implicitTargets, List.filter_filterMap, List.map_filterMap]
  exact List.filterMap_congr fun alternative _ => (alternative.map_filter_named?
    table.contains fun pair => TagTarget.mk pair.1 pair.1 pair.2).symm

/-- Whatever the registry holds, a member becomes the same alternative. -/
theorem alternative_classify {kind : CompositionKind} {position : Nat} {member : SchemaUse}
    (registry other : Registry) :
    (classify table namer parent kind position member registry).value.1 =
      (classify table namer parent kind position member other).value.1 := by
  unfold classify
  cases SchemaUse.target? member with
  | some reference =>
      simp only [Reported.value_bind]
      split <;> rfl
  | none =>
      cases Use.schema? member with
      | none => rfl
      | some schema => cases schema <;> rfl

/-- Whatever the registry holds, members become the same alternatives. -/
theorem alternatives_classifyAll {kind : CompositionKind} {position : Nat}
    {members : List SchemaUse} (registry other : Registry) :
    (classifyAll table namer parent kind position members registry).value.1 =
      (classifyAll table namer parent kind position members other).value.1 := by
  induction members generalizing position registry other with
  | nil => rfl
  | cons member rest ih =>
      simp only [classifyAll, Reported.value_bind, Reported.value_pure]
      rw [alternative_classify registry other, ih]

/-- Whatever the registry holds, a composition becomes the same sum type. -/
theorem sumType_build (registry other : Registry) :
    (build table namer parent parts registry).value.1 =
      (build table namer parent parts other).value.1 := by
  simp only [build, Reported.value_bind, Reported.value_pure,
    alternatives_classifyAll registry other]

/-- Without a mapping the tag of a `oneOf` selects what is linked for its members. -/
theorem tag_build {discriminator : Discriminator} {registry : Registry}
    (hkind : parts.kind = .oneOf) (hdiscriminator : parts.discriminator = some discriminator)
    (hname : tagName discriminator ≠ []) (hmapping : discriminator.mapping = []) :
    (build table namer parent parts registry).value.1.tag =
      some ⟨String.ofList (tagName discriminator),
        (parts.members.filterMap (SchemaUse.linkedName? table)).map fun target =>
          ⟨target, target, namer.className target⟩⟩ := by
  simp only [build, Reported.value_bind, Reported.value_pure]
  rw [value_tagOf_oneOf hkind hdiscriminator, if_neg hname, if_pos hmapping,
    implicitTargets_eq_map, withDistinctWrappers, named?_renameWrappers, named?_classifyAll,
    filter_filterMap_named?, List.map_map]
  rfl

/-- A schema to which no member leads keeps the parent that it has. -/
theorem parent?_build_of_not_mem {registry : Registry} {child : String}
    (h : child ∉ parts.members.filterMap (SchemaUse.foundName? table)) :
    (build table namer parent parts registry).value.2.parent? child = registry.parent? child := by
  rw [parent?_build, if_neg]
  intro hclaimed
  obtain ⟨member, hmember, hclaims⟩ := List.mem_filterMap.1 hclaimed
  exact h (List.mem_filterMap.2 ⟨member, hmember, SchemaUse.foundName?_of_claimed? hclaims⟩)

end SumType

namespace Discovery

variable {table : Table} {namer : Namer} {discovery : Discovery} {name other : String}
  {schema : Schema} {entries : List (String × Schema)}

/-- Discovering an entry leaves the sum types of other names as they are. -/
theorem get?_withEntry_of_ne (hne : other ≠ name) :
    Keyed.get? (withEntry table namer name schema discovery).value.sumTypes other =
      Keyed.get? discovery.sumTypes other := by
  cases schema with
  | composition parts =>
      unfold withEntry
      dsimp only
      split
      · exact (Keyed.get?_put ..).trans (if_neg hne)
      · rfl
  | _ => rfl

/-- Discovering entries leaves the sum types of other names as they are. -/
theorem get?_ofEntries_of_not_mem (hnew : name ∉ entries.map Prod.fst) :
    Keyed.get? (ofEntries table namer entries discovery).value.sumTypes name =
      Keyed.get? discovery.sumTypes name := by
  induction entries generalizing discovery with
  | nil => rfl
  | cons entry rest ih =>
      obtain ⟨first, schema⟩ := entry
      obtain ⟨hne, hrest⟩ := not_or.1 (mt List.mem_cons.2 hnew)
      rw [ofEntries_cons, Reported.value_bind, ih hrest, get?_withEntry_of_ne hne]

/-- The sum type under a name is the one that is built from its composition. -/
theorem get?_ofEntries (hdistinct : (entries.map Prod.fst).Nodup) {parts : Composition}
    (hmem : (name, .composition parts) ∈ entries) (hsum : parts.isSum) :
    ∃ registry, Keyed.get? (ofEntries table namer entries discovery).value.sumTypes name =
      some (SumType.build table namer name parts registry).value.1 := by
  induction entries generalizing discovery with
  | nil => cases hmem
  | cons entry rest ih =>
      obtain ⟨first, schema⟩ := entry
      obtain ⟨hnew, hdistinct⟩ := List.nodup_cons.1 hdistinct
      rw [ofEntries_cons, Reported.value_bind]
      rcases List.mem_cons.1 hmem with heq | hrest
      · cases heq
        refine ⟨discovery.registry, ?_⟩
        rw [get?_ofEntries_of_not_mem hnew, withEntry, if_pos hsum]
        exact (Keyed.get?_put ..).trans (if_pos rfl)
      · exact ih hdistinct hrest

end Discovery

/-- The imports for the alternatives of a sum type are the classes of those in the table. -/
theorem Catalog.alternativeHints_eq_map (catalog : Catalog) (sumType : SumType) :
    catalog.alternativeHints sumType =
      (sumType.references.filter fun pair => catalog.table.contains pair.1).map
        fun pair => catalog.classHint pair.1 := by
  rw [alternativeHints, SumType.references, List.filter_filterMap, List.map_filterMap]
  exact List.filterMap_congr fun listed _ => (listed.alternative.map_filter_named?
    catalog.table.contains fun pair => catalog.classHint pair.1).symm

namespace Table

variable (table : Table) (namer : Namer) {name : String} {parts : Composition}

/-- The sum type that is discovered under a name is the one that is built from its composition. -/
theorem get?_discover (hget : table.get? name = some (.composition parts)) (hsum : parts.isSum)
    (registry : Registry) :
    Keyed.get? (table.discover namer).value.sumTypes name =
      some (SumType.build table namer name parts registry).value.1 := by
  have hbuilt : ∃ other, Keyed.get? (table.discover namer).value.sumTypes name =
      some (SumType.build table namer name parts other).value.1 :=
    Discovery.get?_ofEntries table.distinct (get?_eq_some_iff.1 hget) hsum
  obtain ⟨other, hother⟩ := hbuilt
  rw [hother, SumType.sumType_build other registry]

/-- The imports for the alternatives of a sum type are the classes that are linked for its
members. -/
theorem alternativeHints_build (registry : Registry) :
    (table.catalog namer).alternativeHints
        (SumType.build table namer name parts registry).value.1 =
      (parts.members.filterMap (SchemaUse.linkedName? table)).map
        (table.catalog namer).classHint := by
  rw [Catalog.alternativeHints_eq_map, SumType.references_build]
  exact (congrArg (List.map _) (filter_filterMap_named? table namer parts.members)).trans
    List.map_map

/-- The record of a sum type holds it, and imports the class of its parent and those that are linked
for its members. -/
theorem model?_sumType (hget : table.get? name = some (.composition parts)) (hsum : parts.isSum)
    (registry : Registry) :
    ∃ record, ((table.catalog namer).model? name).value = some record ∧
      record.sumType = some (SumType.build table namer name parts registry).value.1 ∧
      record.imports = (ImportHint.merge [] ((table.catalog namer).parentHints name ++
        (parts.members.filterMap (SchemaUse.linkedName? table)).map
          (table.catalog namer).classHint)).filter
        fun hint => !hint.isClass (namer.className name) := by
  have hsumType := get?_discover table namer hget hsum registry
  have hmodel : ∃ record, ((table.catalog namer).model? name).value = some record ∧
      record.sumType = Keyed.get? (table.discover namer).value.sumTypes name ∧
      record.imports = (table.catalog namer).modelImports name (namer.className name)
        (Keyed.get? (table.discover namer).value.sumTypes name) [] none := by
    unfold Catalog.model? Table.catalog
    dsimp only
    rw [hget]
    exact ⟨_, rfl, rfl, rfl⟩
  obtain ⟨record, hrecord, hholds, himports⟩ := hmodel
  refine ⟨record, hrecord, hholds.trans hsumType, himports.trans ?_⟩
  rw [hsumType, Catalog.modelImports, Option.elim_some, alternativeHints_build, List.flatMap_nil,
    Option.elim_none, List.append_nil, List.append_nil]

/-- What a composition links for its members when it becomes a sum type. The registry only changes
for schemas that members lead to. Without a mapping the tag of a `oneOf` selects what is linked by
its name, in the order of the members, and where the composition is that of an entry, the record
imports the classes of what is linked. This is what the members lead to, unless there is a schema
with the name of the stand-in and a reference that is not resolved. -/
theorem links_sumType (name : String) (parts : Composition) :
    let found := parts.members.filterMap (SchemaUse.foundName? table)
    let linked := parts.members.filterMap (SchemaUse.linkedName? table)
    let catalog := table.catalog namer
    (∀ registry,
      let built := (SumType.build table namer name parts registry).value
      (∀ child, child ∉ found → built.2.parent? child = registry.parent? child) ∧
      (∀ discriminator ∈ parts.discriminator, parts.kind = .oneOf →
        SumType.tagName discriminator ≠ [] → discriminator.mapping = [] →
          built.1.tag = some ⟨String.ofList (SumType.tagName discriminator),
            linked.map fun target => ⟨target, target, namer.className target⟩⟩) ∧
      (table.get? name = some (.composition parts) → parts.isSum →
        ∃ record, (catalog.model? name).value = some record ∧ record.sumType = some built.1 ∧
          record.imports = (ImportHint.merge [] (catalog.parentHints name ++
            linked.map catalog.classHint)).filter
              fun hint => !hint.isClass (namer.className name))) ∧
    (linked = found ↔ (Resolved.unknownName ∈ table.names →
      ∀ member ∈ parts.members, ∀ reference, SchemaUse.Names member reference →
        table.Finds reference)) := by
  intro found linked catalog
  refine ⟨fun registry => ⟨?registered, ?tag, ?record⟩, ?found⟩
  case registered => exact fun child => SumType.parent?_build_of_not_mem
  case tag =>
    intro discriminator hdiscriminator hkind hname hmapping
    exact SumType.tag_build hkind hdiscriminator hname hmapping
  case record => exact fun hget hsum => model?_sumType table namer hget hsum registry
  case found =>
    rw [eq_comm, filterMap_eq_filterMap_iff fun _ _ => SchemaUse.linkedName?_of_foundName?]
    simp only [SchemaUse.foundName?_eq_linkedName?_iff]
    exact ⟨fun h hname member hmember => h member hmember hname,
      fun h member hmember hname => h hname member hmember⟩

/-- The members are a cat, which is named through an alias, a ghost and a dog. -/
def guests : Composition :=
  ⟨.oneOf, [.named "#/components/schemas/Feline", .named "#/components/schemas/Ghost",
    .inline (.alias "#/components/schemas/Dog")], some ⟨"kind", []⟩, Docs.none⟩

/-- The schemas of cats and dogs; there is none of ghosts. -/
def hotel : Table :=
  ⟨[("Pet", .composition guests), ("Feline", .alias "#/components/schemas/Cat"),
    ("Cat", .object ObjectShape.empty), ("Dog", .object ObjectShape.empty)], by decide⟩

/-- The cat and the dog are linked, and nothing is for the ghost. -/
theorem hotel_links :
    let namer : Namer := ⟨.builtin, Namer.defaultSuffix⟩
    hotel.get? "Pet" = some (.composition guests) ∧ guests.isSum ∧
    (SumType.build hotel namer "Pet" guests .empty).value.2.parent? Resolved.unknownName = none ∧
    ∃ record, ((hotel.catalog namer).model? "Pet").value = some record ∧
      record.imports = [.model "Cat" "cat", .model "Dog" "dog"] ∧
      record.sumType.bind SumType.tag =
        some ⟨"kind", [⟨"Cat", "Cat", "Cat"⟩, ⟨"Dog", "Dog", "Dog"⟩]⟩ := by
  intro namer
  have hget : hotel.get? "Pet" = some (.composition guests) := rfl
  have hlinked : guests.members.filterMap (SchemaUse.linkedName? hotel) = ["Cat", "Dog"] := by
    decide +kernel
  obtain ⟨hbuilt, _⟩ := links_sumType hotel namer "Pet" guests
  obtain ⟨hregistered, htag, hrecord⟩ := hbuilt .empty
  obtain ⟨record, hmodel, hsumType, himports⟩ := hrecord hget rfl
  rw [hlinked] at himports htag
  refine ⟨hget, rfl, hregistered _ (by decide +kernel), record, hmodel,
    himports.trans (by decide +kernel), ?_⟩
  rw [hsumType, Option.bind_some, htag _ rfl rfl (by decide +kernel) rfl]
  decide +kernel

-- A schema that is called like the stand-in is linked for the ghost.
example :
    let haunted : Table := hotel.insert Resolved.unknownName (.object ObjectShape.empty)
    guests.members.filterMap (SchemaUse.foundName? haunted) = ["Cat", "Dog"] ∧
    guests.members.filterMap (SchemaUse.linkedName? haunted) =
      ["Cat", Resolved.unknownName, "Dog"] := by
  decide +kernel

end Table

end SchemaGraph
