import SchemaGraph.Metadata.Catalog
import SchemaGraph.Proofs.Links.Claims

/-!
# Parents of schemas

The sum types of a table are discovered in table order, and the last one that claims a schema
becomes its parent. A conflict is reported when there is an earlier one. `Table.discover_parents`
says so for whole tables; where no schema is claimed twice, the order of the table makes no
difference.
-/

namespace SchemaGraph

/-- The names of the entries that claim a schema, in their order. -/
def claimants (table : Table) (entries : List (String × Schema)) (child : String) : List String :=
  (entries.filter fun entry => child ∈ entry.2.claimed table).map Prod.fst

/-- The names of the sum types of a table in order. -/
def Table.sumTypeNames (table : Table) : List String :=
  (table.entries.filter fun entry => entry.2.isSumType).map Prod.fst

/-- What records are made from when the sum types of a table are discovered. -/
def Table.catalog (table : Table) (namer : Namer) : Catalog :=
  ⟨table, namer, (table.discover namer).value⟩

/-- The last name with a property is the one after which no other has it. -/
theorem getLast?_filter_eq_some_iff {names : List String} {property : String → Prop}
    [DecidablePred property] {name : String} :
    (names.filter property).getLast? = some name ↔
      ∃ before after, names = before ++ name :: after ∧ property name ∧
        ∀ later ∈ after, ¬ property later := by
  rw [List.getLast?_filter, List.find?_eq_some_iff_append]
  constructor
  · rintro ⟨hname, after, before, hsplit, hlater⟩
    refine ⟨before.reverse, after.reverse, ?_, by simpa using hname, by simpa using hlater⟩
    simpa using List.reverse_eq_append_iff.1 hsplit
  · rintro ⟨before, after, rfl, hname, hlater⟩
    exact ⟨by simpa using hname, after.reverse, before.reverse, by simp, by simpa using hlater⟩

/-- A list without repetition has two names or more when there are different ones. -/
theorem two_le_length_iff {names : List String} (h : names.Nodup) :
    2 ≤ names.length ↔ ∃ first second, first ≠ second ∧ first ∈ names ∧ second ∈ names := by
  constructor
  · intro hlength
    match names with
    | first :: second :: rest =>
        have hne : first ≠ second := fun heq => (List.nodup_cons.1 h).1 (heq ▸ List.mem_cons_self)
        exact ⟨first, second, hne, List.mem_cons_self,
          List.mem_cons_of_mem _ List.mem_cons_self⟩
  · rintro ⟨first, second, hne, hfirst, hsecond⟩
    match names with
    | [only] =>
        obtain rfl := List.mem_singleton.1 hfirst
        exact absurd (List.mem_singleton.1 hsecond).symm hne
    | _ :: _ :: rest => exact Nat.le_add_left 2 rest.length

namespace Discovery

variable {table : Table} {namer : Namer} {discovery : Discovery} {name child : String}
  {schema : Schema} {entries : List (String × Schema)}

/-- What has been discovered with one entry more: its sum type, if it is one, and the parents of its
alternatives. -/
def withEntry (table : Table) (namer : Namer) (name : String) (schema : Schema)
    (discovery : Discovery) : Reported Discovery :=
  match schema with
  | .composition parts =>
      if parts.isSum then do
        let (sumType, registry) ← SumType.build table namer name parts discovery.registry
        pure ⟨registry, Keyed.put discovery.sumTypes name sumType⟩
      else pure discovery
  | _ => pure discovery

/-- Entries are discovered one after the other. -/
theorem ofEntries_cons {rest : List (String × Schema)} :
    ofEntries table namer ((name, schema) :: rest) discovery =
      withEntry table namer name schema discovery >>= ofEntries table namer rest := by
  cases schema with
  | composition parts =>
      rw [ofEntries, withEntry]
      split
      · simp
      · rfl
  | _ => rfl

/-- The schemas that an entry claims get it as their parent, and the others keep theirs. -/
theorem parent?_withEntry :
    (withEntry table namer name schema discovery).value.registry.parent? child =
      if child ∈ schema.claimed table then some name else discovery.registry.parent? child := by
  cases schema with
  | composition parts =>
      unfold withEntry Schema.claimed
      dsimp only
      split
      · exact SumType.parent?_build
      · rfl
  | _ => rfl

/-- An entry is in conflict about a schema that it claims when this has another parent. -/
theorem conflict_withEntry_iff :
    (withEntry table namer name schema discovery).Conflict child ↔
      child ∈ schema.claimed table ∧ discovery.registry.HasOther child name := by
  cases schema with
  | composition parts =>
      unfold withEntry Schema.claimed
      dsimp only
      split
      · simp [SumType.conflict_build_iff]
      · simp
  | _ => simp [withEntry, Schema.claimed]

/-- An entry that is a sum type is listed among the sum types. -/
theorem keys_withEntry (hnew : name ∉ Keyed.keys discovery.sumTypes) :
    Keyed.keys (withEntry table namer name schema discovery).value.sumTypes =
      Keyed.keys discovery.sumTypes ++ if schema.isSumType then [name] else [] := by
  cases schema with
  | composition parts =>
      unfold withEntry Schema.isSumType
      dsimp only
      split
      · simp [Keyed.keys_put, hnew]
      · simp
  | _ => exact (List.append_nil _).symm

/-- A first entry is a claimant, or else it makes no difference. -/
theorem claimants_cons {rest : List (String × Schema)} :
    claimants table ((name, schema) :: rest) child =
      (if child ∈ schema.claimed table then [name] else []) ++ claimants table rest child := by
  by_cases hclaimed : child ∈ schema.claimed table <;> simp [claimants, hclaimed]

/-- The parent of a schema is the last entry that claims it, or else the one it had. -/
theorem parent?_ofEntries :
    (ofEntries table namer entries discovery).value.registry.parent? child =
      (claimants table entries child).getLast?.or (discovery.registry.parent? child) := by
  induction entries generalizing discovery with
  | nil => rfl
  | cons entry rest ih =>
      obtain ⟨name, schema⟩ := entry
      rw [ofEntries_cons, Reported.value_bind, ih, parent?_withEntry, claimants_cons]
      by_cases hclaimed : child ∈ schema.claimed table
      · simp only [if_pos hclaimed, List.getLast?_append, List.getLast?_singleton, Option.or_assoc,
          Option.some_or]
      · simp only [if_neg hclaimed, List.nil_append]

/-- A conflict is reported when a schema is claimed once more after it has a parent. The parent it
has before counts as one claim, and is none of the entries to come. -/
theorem conflict_ofEntries_iff (hdistinct : (entries.map Prod.fst).Nodup)
    (hfresh : ∀ previous, discovery.registry.parent? child = some previous →
      previous ∉ entries.map Prod.fst) :
    (ofEntries table namer entries discovery).Conflict child ↔
      2 ≤ (discovery.registry.parent? child).toList.length +
        (claimants table entries child).length := by
  induction entries generalizing discovery with
  | nil =>
      refine iff_of_false (Reported.not_conflict_pure _) ?_
      cases discovery.registry.parent? child <;> simp [claimants]
  | cons entry rest ih =>
      obtain ⟨name, schema⟩ := entry
      obtain ⟨hname, hdistinct⟩ := List.nodup_cons.1 hdistinct
      have hafter : ∀ previous, (withEntry table namer name schema discovery).value.registry.parent?
          child = some previous → previous ∉ rest.map Prod.fst := by
        intro previous hprevious
        rw [parent?_withEntry] at hprevious
        split at hprevious
        · cases hprevious
          exact hname
        · exact fun hmem => hfresh previous hprevious (List.mem_cons_of_mem _ hmem)
      -- The entry at hand is new, so any parent that is there already is another one.
      have hother : discovery.registry.HasOther child name ↔
          (discovery.registry.parent? child).isSome := by
        rw [Option.isSome_iff_exists]
        refine exists_congr fun previous => and_iff_left_of_imp ?_
        rintro hprevious rfl
        exact hfresh previous hprevious List.mem_cons_self
      rw [ofEntries_cons, Reported.conflict_bind_iff, ih hdistinct hafter, conflict_withEntry_iff,
        hother, parent?_withEntry, claimants_cons]
      by_cases hclaimed : child ∈ schema.claimed table
      · simp only [hclaimed, true_and, if_pos, Option.toList_some, List.length_append,
          List.length_cons, List.length_nil]
        cases discovery.registry.parent? child with
        | none => simp
        | some previous => exact iff_of_true (.inl rfl) (by simp; omega)
      · simp [hclaimed]

/-- The sum types are listed in the order of the entries. -/
theorem keys_ofEntries (hdistinct : (entries.map Prod.fst).Nodup)
    (hfresh : ∀ name ∈ Keyed.keys discovery.sumTypes, name ∉ entries.map Prod.fst) :
    Keyed.keys (ofEntries table namer entries discovery).value.sumTypes =
      Keyed.keys discovery.sumTypes ++
        (entries.filter fun entry => entry.2.isSumType).map Prod.fst := by
  induction entries generalizing discovery with
  | nil => exact (List.append_nil _).symm
  | cons entry rest ih =>
      obtain ⟨name, schema⟩ := entry
      obtain ⟨hname, hdistinct⟩ := List.nodup_cons.1 hdistinct
      -- The entry at hand is new, so that its sum type goes to the end.
      have hnew : name ∉ Keyed.keys discovery.sumTypes :=
        fun hmem => hfresh name hmem List.mem_cons_self
      rw [ofEntries_cons, Reported.value_bind, ih hdistinct, keys_withEntry hnew]
      · by_cases hsum : schema.isSumType <;> simp [hsum]
      · intro other hother
        rw [keys_withEntry hnew, List.mem_append] at hother
        rcases hother with hold | hthis
        · exact fun hmem => hfresh other hold (List.mem_cons_of_mem _ hmem)
        · split at hthis
          · rwa [List.mem_singleton.1 hthis]
          · cases hthis

end Discovery

namespace Table

variable {table : Table} {parent child : String}

/-- The claimants of a schema are the names that claim it. -/
theorem claimants_entries (table : Table) (child : String) :
    claimants table table.entries child = table.names.filter (table.Claims · child) := by
  rw [names, Keyed.keys, List.filter_map, claimants]
  congr 1
  refine List.filter_congr fun entry hentry => decide_eq_decide.2 ?_
  have hget : table.get? entry.1 = some entry.2 := get?_eq_some_iff.2 hentry
  simp [claims_iff, hget]

/-- The parent of a schema is the last sum type that claims it. -/
theorem parent?_discover_iff {namer : Namer} :
    (table.discover namer).value.registry.parent? child = some parent ↔
      ∃ before after, table.names = before ++ parent :: after ∧ table.Claims parent child ∧
        ∀ later ∈ after, ¬ table.Claims later child := by
  rw [discover, Discovery.parent?_ofEntries, claimants_entries]
  exact (Eq.congr_left (Option.or_none ..)).trans getLast?_filter_eq_some_iff

/-- A conflict about a schema is reported when two sum types claim it. -/
theorem conflict_discover_iff {namer : Namer} :
    (table.discover namer).Conflict child ↔
      ∃ first second, first ≠ second ∧ table.Claims first child ∧ table.Claims second child := by
  have hnodup : table.names.Nodup := table.distinct
  have hempty : Discovery.empty.registry.parent? child = none := rfl
  rw [discover, Discovery.conflict_ofEntries_iff hnodup (by simp [hempty]), hempty,
    claimants_entries, Option.toList_none, List.length_nil, Nat.zero_add,
    two_le_length_iff (hnodup.filter _)]
  refine exists₂_congr fun first second => and_congr_right fun _ => ?_
  simp only [List.mem_filter, decide_eq_true_eq]
  exact and_congr (and_iff_right_of_imp Claims.mem_names) (and_iff_right_of_imp Claims.mem_names)

/-- The parent of a schema that is claimed by one sum type alone is this sum type. -/
theorem parent?_discover_iff_claims {namer : Namer}
    (hunique : ∀ first second, table.Claims first child → table.Claims second child →
      first = second) :
    (table.discover namer).value.registry.parent? child = some parent ↔
      table.Claims parent child := by
  rw [parent?_discover_iff]
  constructor
  · rintro ⟨_, _, _, hclaims, _⟩
    exact hclaims
  · intro hclaims
    -- Whatever claims the schema after the parent would be the parent, whose name occurs once.
    obtain ⟨before, after, hsplit⟩ := List.append_of_mem hclaims.mem_names
    refine ⟨before, after, hsplit, hclaims, fun later hlater hother => ?_⟩
    obtain rfl := hunique later parent hother hclaims
    have hnodup : (before ++ later :: after).Nodup := hsplit ▸ table.distinct
    exact (List.nodup_cons.1 hnodup.of_append_right).1 hlater

/-- Where each schema is claimed by one sum type at most, parents do not depend on the order of the
table. -/
theorem parent?_discover_perm {other : Table}
    (hunique : ∀ child first second, table.Claims first child → table.Claims second child →
      first = second)
    (hperm : table.entries.Perm other.entries) (namer : Namer) :
    (other.discover namer).value.registry.parent? =
      (table.discover namer).value.registry.parent? := by
  have hclaims : other.Claims = table.Claims :=
    claims_congr (funext (table.distinct.get?_perm hperm))
  funext child
  apply Option.ext
  intro parent
  rw [parent?_discover_iff_claims (hunique child),
    parent?_discover_iff_claims (by rw [hclaims]; exact hunique child), hclaims]

/-- The class of a model's parent is that of its schema's parent. -/
theorem map_parentClass_model? {namer : Namer} {name : String} :
    ((table.catalog namer).model? name).value.map ModelRecord.parentClass =
      (table.get? name).map fun _ =>
        ((table.discover namer).value.registry.parent? name).map namer.className := by
  unfold Catalog.model? catalog
  dsimp only
  cases table.get? name <;> rfl

/-- Discovery finds the sum types of a table in table order. The parent of a schema is the last of
them with a member that names it, and a conflict about a schema is logged exactly when two of them
name it. Where this happens to no schema, a table with the same entries in another order gives the
same parents to schemas and models. -/
theorem discover_parents (table : Table) (namer : Namer) :
    Keyed.keys (table.discover namer).value.sumTypes = table.sumTypeNames ∧
    (∀ child parent, (table.discover namer).value.registry.parent? child = some parent ↔
      ∃ before after, table.names = before ++ parent :: after ∧ table.Claims parent child ∧
        ∀ later ∈ after, ¬ table.Claims later child) ∧
    (∀ child, (∃ diagnostic ∈ (Log.empty.record (table.discover namer).reports).ofKind
        .sealedParentConflict, diagnostic.subject = some child) ↔
      ∃ first second, first ≠ second ∧ table.Claims first child ∧ table.Claims second child) ∧
    ((∀ child first second, table.Claims first child → table.Claims second child →
        first = second) →
      ∀ other : Table, table.entries.Perm other.entries → ∀ name,
        (other.discover namer).value.registry.parent? name =
          (table.discover namer).value.registry.parent? name ∧
        ((other.catalog namer).model? name).value.map ModelRecord.parentClass =
          ((table.catalog namer).model? name).value.map ModelRecord.parentClass) := by
  refine ⟨?sumTypes, fun child parent => parent?_discover_iff, fun child => ?conflicts, ?orders⟩
  case sumTypes => exact Discovery.keys_ofEntries table.distinct nofun
  case conflicts => rw [← conflict_discover_iff, Log.conflict_record_iff]
  case orders =>
    intro hunique other hperm name
    have hparent := parent?_discover_perm hunique hperm namer
    refine ⟨congrFun hparent name, ?_⟩
    simp only [map_parentClass_model?, hparent, get?, table.distinct.get?_perm hperm]

/-- A pet is a cat, which the sum type names through an alias, or a ghost, which is not in the
table. -/
def menagerie : Table :=
  ⟨[("Pet", .composition ⟨.oneOf, [.named "#/components/schemas/Feline",
      .named "#/components/schemas/Ghost"], none, Docs.none⟩),
    ("Feline", .alias "#/components/schemas/Cat"),
    ("Cat", .object ObjectShape.empty)], by decide⟩

/-- The parent of a cat is the pet, and that of the cat's model, with the schemas in reverse order
as well. -/
theorem menagerie_parents :
    let reversed : Table := ⟨menagerie.entries.reverse, by decide⟩
    let namer : Namer := ⟨.builtin, Namer.defaultSuffix⟩
    menagerie.Claims "Pet" "Cat" ∧ ¬ menagerie.Claims "Pet" "Ghost" ∧
      (reversed.discover namer).value.registry.parent? "Cat" = some "Pet" ∧
      ((reversed.catalog namer).model? "Cat").value.map ModelRecord.parentClass =
        ((menagerie.catalog namer).model? "Cat").value.map ModelRecord.parentClass := by
  intro reversed namer
  obtain ⟨_, hparent, _, horders⟩ := discover_parents menagerie namer
  have hpet : ∀ name child, menagerie.Claims name child → name = "Pet" := by
    rintro name child ⟨parts, hget, _⟩
    have hmem := get?_eq_some_iff.1 hget
    simp only [menagerie, List.mem_cons, Prod.mk.injEq, reduceCtorEq, and_false, List.not_mem_nil,
      or_false] at hmem
    exact hmem.1
  have hclaims : menagerie.Claims "Pet" "Cat" := by decide +kernel
  have hsame := horders (fun child first second hfirst hsecond =>
    (hpet first child hfirst).trans (hpet second child hsecond).symm) reversed
    menagerie.entries.reverse_perm.symm "Cat"
  refine ⟨hclaims, by decide +kernel, hsame.1.trans ?_, hsame.2⟩
  refine (hparent "Cat" "Pet").2 ⟨[], ["Feline", "Cat"], rfl, hclaims, ?_⟩
  decide +kernel

example :
    let guild : Table := ⟨[
      ("Elder", .composition ⟨.oneOf, [.named "#/components/schemas/Member",
        .named "#/components/schemas/Elder", .named "#/components/schemas/Member"], none,
        Docs.none⟩),
      ("Junior", .composition ⟨.anyOf, [.inline (.alias "#/components/schemas/Member")], none,
        Docs.none⟩),
      ("Member", .object ObjectShape.empty)], by decide⟩
    let found := guild.discover ⟨.builtin, Namer.defaultSuffix⟩
    found.value.registry.parents = [("Member", "Junior"), ("Elder", "Elder")] ∧
      found.reports = [⟨some "Member", .parentConflict "Elder" "Junior"⟩] := by
  decide +kernel

end Table

end SchemaGraph
