import SchemaGraph.Proofs.Flattening.Outcome

/-!
# Merged objects

`Table.mergedObject` defines the object of an `allOf` entry by recursion along dependencies: the
members are merged in their order, each `allOf` entry among them by its own merged object. The order
of the table and the course of the flattening play no part in it. `Table.flatten_eq_mergedObject`
says that the flattening puts exactly these objects into a table without cycles.
-/

namespace SchemaGraph

namespace Table

/-- Merge one member into an object. `flat` gives the object of the `allOf` entry that the member
leads to, if it leads to one. A member that leads to no entry gives nothing. -/
def mergedMember (table : Table) (object : ObjectShape) :
    (member : SchemaUse) → ((base : String) → table.HasBase member base → ObjectShape) →
      ObjectShape
  | .inline schema, _ => object.mergedInline schema
  | .named reference, flat =>
      match hresolve : table.resolve? reference with
      | .error _ => object
      | .ok ⟨name, schema⟩ =>
          if hallOf : schema.isAllOf then
            have hleads := resolve?_eq_ok_iff.1 hresolve
            have hbase := (hasAllOf_iff_isAllOf hleads.get?).2 hallOf
            object.mergedWith (flat name ⟨reference, schema, rfl, hleads, hbase⟩)
          else object.mergedNamed reference name schema

/-- The object of an `allOf` entry: its members merged in their order into an object that has its
title and description. -/
def mergedObject (table : Table) (hacyclic : table.Acyclic) (name : String) : ObjectShape :=
  match _hget : table.get? name with
  | some (.composition parts) =>
      if _hsum : parts.isSum then .empty
      else
        parts.members.attach.foldl (fun object member =>
          table.mergedMember object member.1 fun base _hbase => table.mergedObject hacyclic base)
          ⟨[], [], [], parts.docs⟩
  | _ => .empty
termination_by hacyclic.wellFounded.wrap name
decreasing_by exact ⟨parts, ⟨_hget, by simpa using _hsum⟩, member.1, member.2, _hbase⟩

/-- Merge one member into an object, an `allOf` entry by its merged object. -/
def withMember (table : Table) (hacyclic : table.Acyclic) (object : ObjectShape)
    (member : SchemaUse) : ObjectShape :=
  table.mergedMember object member fun base _ => table.mergedObject hacyclic base

variable {table : Table} {object : ObjectShape} {reference name : String} {schema : Schema}

/-- The merged object of an `allOf` entry is the merge of its members. -/
theorem mergedObject_eq (hacyclic : table.Acyclic) {parts : Composition}
    (hallOf : table.AllOf name parts) :
    table.mergedObject hacyclic name =
      parts.members.foldl (table.withMember hacyclic) ⟨[], [], [], parts.docs⟩ := by
  rw [mergedObject]
  split
  · next other hget =>
      cases hallOf.1.symm.trans hget
      rw [dif_neg (by simp [hallOf.2])]
      exact List.foldl_attach (f := table.withMember hacyclic)
  · next hother => exact absurd hallOf.1 (hother parts)

/-- A member that leads to an `allOf` entry is merged by the object of that entry. -/
theorem withMember_of_hasBase (hacyclic : table.Acyclic) {base : String}
    (hbase : table.HasBase (.named reference) base) :
    table.withMember hacyclic object (.named reference) =
      object.mergedWith (table.mergedObject hacyclic base) := by
  obtain ⟨_, schema, heq, hleads, hallOf⟩ := hbase
  cases heq
  rw [withMember, mergedMember]
  split
  · next failure hresolve => cases hleads.resolve?_eq.symm.trans hresolve
  · next other found hresolve =>
      cases hleads.resolve?_eq.symm.trans hresolve
      rw [dif_pos ((hasAllOf_iff_isAllOf hleads.get?).1 hallOf)]

/-- A member that leads to any other entry is merged as it stands. -/
theorem withMember_of_leadsTo (hacyclic : table.Acyclic)
    (hleads : table.LeadsTo reference name schema) (hallOf : schema.isAllOf = false) :
    table.withMember hacyclic object (.named reference) =
      object.mergedNamed reference name schema := by
  rw [withMember, mergedMember]
  split
  · next failure hresolve => cases hleads.resolve?_eq.symm.trans hresolve
  · next other found hresolve =>
      cases hleads.resolve?_eq.symm.trans hresolve
      rw [dif_neg (by simp [hallOf])]

/-- A member that leads nowhere gives nothing. -/
theorem withMember_of_error (hacyclic : table.Acyclic) {failure : ResolutionFailure}
    (hresolve : table.resolve? reference = .error failure) :
    table.withMember hacyclic object (.named reference) = object := by
  rw [withMember, mergedMember]
  split
  · rfl
  · next other found hfound => cases hresolve.symm.trans hfound

/-- Tables with the same entries merge a member alike if they have the same merged objects for its
bases. -/
theorem withMember_congr {other : Table} (hsame : table.get? = other.get?)
    (hacyclic : table.Acyclic) (hacyclic' : other.Acyclic) {member : SchemaUse}
    (hbases : ∀ base, table.HasBase member base →
      table.mergedObject hacyclic base = other.mergedObject hacyclic' base) :
    table.withMember hacyclic object member = other.withMember hacyclic' object member := by
  cases member with
  | inline schema => rfl
  | named reference =>
      cases hresolve : table.resolve? reference with
      | error failure =>
          cases hresolve' : other.resolve? reference with
          | error failure' =>
              rw [withMember_of_error hacyclic hresolve, withMember_of_error hacyclic' hresolve']
          | ok resolved =>
              have hleads := leadsTo_congr hsame ▸ resolve?_eq_ok_iff.1 hresolve'
              cases hresolve.symm.trans hleads.resolve?_eq
      | ok resolved =>
          have hleads := resolve?_eq_ok_iff.1 hresolve
          cases hallOf : resolved.schema.isAllOf with
          | false =>
              rw [withMember_of_leadsTo hacyclic hleads hallOf,
                withMember_of_leadsTo hacyclic' (leadsTo_congr hsame ▸ hleads) hallOf]
          | true =>
              have hbase : table.HasBase (.named reference) resolved.name :=
                ⟨reference, resolved.schema, rfl, hleads,
                  (hasAllOf_iff_isAllOf hleads.get?).2 hallOf⟩
              rw [withMember_of_hasBase hacyclic hbase,
                withMember_of_hasBase hacyclic' (hasBase_congr hsame ▸ hbase),
                hbases resolved.name hbase]

/-- The merged object depends only on what is found under the names, not on their order. -/
theorem mergedObject_congr {other : Table} (hsame : table.get? = other.get?)
    (hacyclic : table.Acyclic) (hacyclic' : other.Acyclic) (hallOf : table.HasAllOf name) :
    table.mergedObject hacyclic name = other.mergedObject hacyclic' name := by
  induction name using hacyclic.wellFounded.induction with
  | _ name ih =>
      obtain ⟨parts, hallOf⟩ := hallOf
      have hallOf' : other.AllOf name parts := ⟨hsame ▸ hallOf.1, hallOf.2⟩
      rw [mergedObject_eq hacyclic hallOf, mergedObject_eq hacyclic' hallOf']
      refine List.foldl_ext _ _ _ fun object member hmember => ?_
      refine withMember_congr hsame hacyclic hacyclic' fun base hbase => ?_
      exact ih base ⟨parts, hallOf, member, hmember, hbase⟩ hbase.hasAllOf

end Table

namespace Flattening

/-- Every flattened name has its merged object. -/
def Exact (table : Table) (hacyclic : table.Acyclic) (state : Flattening) : Prop :=
  ∀ name ∈ state.flattened,
    state.table.get? name = some (.object (table.mergedObject hacyclic name))

/-- A task that merges members gives the object that it should. -/
def Task.Merges (table : Table) (hacyclic : table.Acyclic) (before after : ObjectShape) :
    Task → Prop
  | .member _ _ use => after = table.withMember hacyclic before use
  | .members _ _ uses => after = uses.foldl (table.withMember hacyclic) before
  | _ => True

/-- A member that is unknown at a stage gives nothing. -/
theorem Stage.withMember_of_isUnknown {table : Table} (hacyclic : table.Acyclic)
    {state : Flattening} (h : Stage table state) {subject : Option String} {reference : String}
    {object : ObjectShape}
    (hunknown : (state.table.resolve subject reference).value.isUnknown) :
    table.withMember hacyclic object (.named reference) = object := by
  cases hresolve : table.resolve? reference with
  | error failure => exact Table.withMember_of_error hacyclic hresolve
  | ok resolved =>
      have hleads := Table.resolve?_eq_ok_iff.1 hresolve
      obtain ⟨current, hcurrent, hfound⟩ := h.resolve?_of_leadsTo hleads
      simp only [Table.resolve, hfound, Reported.value_pure, Resolved.isUnknown] at hunknown
      obtain rfl := Schema.isUnknown_iff.1 hunknown
      rcases h.leadsTo_of_resolve? hfound with ⟨_, hopen⟩ | ⟨hmem, _⟩
      · exact Table.withMember_of_leadsTo hacyclic hopen rfl
      · obtain ⟨_, _, _, hobject, _⟩ := h.done _ hmem
        cases hcurrent.symm.trans hobject

/-- While no cycle is reported, every object that is put into the table is the merged object. -/
theorem Run.exact {table : Table} (hacyclic : table.Acyclic) {idle chain : List String}
    {task : Task} {before after : Progress} {reports : List Report}
    (h : Run idle chain task before after reports) (hidle : idle.Nodup)
    (hstage : Stage table before.2) (hfree : ∀ report ∈ reports, ¬ report.OfCycle)
    (hexact : Exact table hacyclic before.2) :
    Exact table hacyclic after.2 ∧ task.Merges table hacyclic before.1 after.1 := by
  induction h with
  | skipped | entriesNil => exact ⟨hexact, trivial⟩
  | membersNil => exact ⟨hexact, rfl⟩
  | inline => exact ⟨hexact, ObjectOf.value_mergeInline⟩
  | @unresolved idle chain parent reference position before hunknown =>
      exact ⟨hexact, (hstage.withMember_of_isUnknown hacyclic hunknown).symm⟩
  | cycle => exact absurd rfl (hfree _ List.mem_cons_self)
  | @named idle chain parent reference position resolved before hresolve _ hallOf =>
      have hget := (Table.resolve?_eq_ok_iff.1 hresolve).get?
      refine ⟨hexact, ?_⟩
      rw [hget, ObjectOf.value_mergeNamed]
      -- An entry that is no `allOf` at this stage was none, or has been flattened before.
      rcases hstage.leadsTo_of_resolve? hresolve with ⟨_, hleads⟩ | ⟨hmem, hbase⟩
      · exact (Table.withMember_of_leadsTo hacyclic hleads hallOf).symm
      · have hobject := Option.some.inj (hget.symm.trans (hexact _ hmem))
        rw [hobject]
        exact (Table.withMember_of_hasBase hacyclic hbase).symm
  | base hresolve hallOf hmem hentry ih =>
      -- The entry has been flattened by now, and what is merged is its merged object.
      obtain ⟨hbase, _⟩ := hstage.hasBase_of_isAllOf hresolve hallOf
      obtain ⟨_, _, _, hsettled⟩ := hentry.stage hidle hstage
      obtain ⟨hexact, _⟩ := ih hidle hstage (List.forall_mem_append.1 hfree).1 hexact
      refine ⟨hexact, ?_⟩
      rw [hexact _ (hsettled hmem hbase.hasAllOf), ObjectOf.value_mergeNamed]
      exact (Table.withMember_of_hasBase hacyclic hbase).symm
  | membersCons hmember _ ihmember ihrest =>
      obtain ⟨hfree, hfreeRest⟩ := List.forall_mem_append.1 hfree
      obtain ⟨hbetween, _⟩ := hmember.stage hidle hstage
      obtain ⟨hexact, hmerged⟩ := ihmember hidle hstage hfree hexact
      obtain ⟨hexact, hmerged'⟩ := ihrest hidle hbetween hfreeRest hexact
      exact ⟨hexact, hmerged'.trans (congrArg (List.foldl _ · _) hmerged)⟩
  | entriesCons hentry _ ihentry ihrest =>
      obtain ⟨hfree, hfreeRest⟩ := List.forall_mem_append.1 hfree
      obtain ⟨hbetween, _⟩ := hentry.stage hidle hstage
      obtain ⟨hexact, _⟩ := ihentry hidle hstage hfree hexact
      obtain ⟨hexact, _⟩ := ihrest hidle hbetween hfreeRest hexact
      exact ⟨hexact, trivial⟩
  | @entry idle chain name parts before after reports _ hallOf hmembers ih =>
      obtain ⟨_, hallOf⟩ := hstage.allOf_iff.1 hallOf
      obtain ⟨hexact, hmerged⟩ := ih (hidle.erase _) hstage hfree hexact
      refine ⟨?_, trivial⟩
      intro other hother
      by_cases heq : other = name
      · subst heq
        rw [Table.mergedObject_eq hacyclic hallOf, ← hmerged]
        simp [finish, Table.get?_insert]
      · have hold : other ∈ after.2.flattened := by simpa [finish, heq] using hother
        simpa [finish, Table.get?_insert, heq] using hexact other hold

end Flattening

namespace Table

open Flattening

/-- Flattening a table without cycles puts the merged object in the place of each `allOf` entry. -/
theorem Acyclic.exact_flatten {table : Table} (hacyclic : table.Acyclic) :
    Exact table hacyclic table.flatten.value :=
  ((flatten_run table .empty).exact hacyclic table.distinct (Stage.start table)
    hacyclic.cycleFree_flatten nofun).1

/-- What the flattening of a table without cycles finds under a name depends only on what the table
has under its names. -/
theorem Acyclic.get?_flatten_congr {table other : Table} (hacyclic : table.Acyclic)
    (hsame : table.get? = other.get?) (name : String) :
    other.flatten.value.table.get? name = table.flatten.value.table.get? name := by
  have hacyclic' : other.Acyclic := fun name => dependsOn_congr hsame ▸ hacyclic name
  by_cases hallOf : table.HasAllOf name
  · have hallOf' : other.HasAllOf name := by
      simpa only [HasAllOf, AllOf, hsame] using hallOf
    rw [hacyclic.exact_flatten name (mem_flattened.2 hallOf),
      hacyclic'.exact_flatten name (mem_flattened.2 hallOf'),
      mergedObject_congr hsame hacyclic hacyclic' hallOf]
  · have hallOf' : ¬ other.HasAllOf name := by
      simpa only [HasAllOf, AllOf, hsame] using hallOf
    rw [table.flatten_stage.kept name (mt mem_flattened.1 hallOf),
      other.flatten_stage.kept name (mt mem_flattened.1 hallOf'), hsame]

/-- Flattening a table without cycles gives each `allOf` entry its merged object, and the order of
the entries makes no difference. -/
theorem flatten_eq_mergedObject (table : Table) (hacyclic : table.Acyclic) :
    (∀ name, table.HasAllOf name →
      table.flatten.value.table.get? name = some (.object (table.mergedObject hacyclic name))) ∧
    (∀ other : Table, table.entries.Perm other.entries → ∀ name,
      other.flatten.value.table.get? name = table.flatten.value.table.get? name) := by
  constructor
  · intro name hallOf
    exact hacyclic.exact_flatten name (mem_flattened.2 hallOf)
  · intro other hperm name
    have hsame : table.get? = other.get? :=
      funext fun name => (table.distinct.get?_perm hperm name).symm
    exact hacyclic.get?_flatten_congr hsame name

/-- A dog has the properties of a being, a mood and a bark, also when the table is reversed. -/
theorem kennel_mergedObject :
    ∃ object, kennel.flatten.value.table.get? "Dog" = some (.object object) ∧
      Keyed.keys object.properties = ["id", "mood", "bark"] ∧ object.required = ["id", "mood"] ∧
      ∃ other : Table, other.names = kennel.names.reverse ∧
        other.flatten.value.table.get? "Dog" = some (.object object) := by
  obtain ⟨hexact, hreorder⟩ := flatten_eq_mergedObject kennel kennel_acyclic
  have hdog : kennel.AllOf "Dog" _ := ⟨rfl, rfl⟩
  have hanimal : kennel.AllOf "Animal" _ := ⟨rfl, rfl⟩
  have hbase : kennel.HasBase (.named "#/components/schemas/Pet") "Animal" :=
    ⟨_, _, rfl, kennel_leadsTo_animal, _, hanimal⟩
  have hobject : kennel.mergedObject kennel_acyclic "Dog" =
      ⟨[("id", .inline .any), ("mood", .named "#/components/schemas/Mood"),
        ("bark", .inline .any)], ["id", "mood"], [], Docs.none⟩ := by
    rw [mergedObject_eq kennel_acyclic hdog]
    simp only [List.foldl]
    rw [withMember_of_hasBase kennel_acyclic hbase, mergedObject_eq kennel_acyclic hanimal]
    simp only [List.foldl]
    rw [withMember_of_leadsTo kennel_acyclic kennel_leadsTo_being rfl,
      withMember_of_leadsTo kennel_acyclic kennel_leadsTo_mood rfl]
    rfl
  have hflat := hobject ▸ hexact "Dog" ⟨_, hdog⟩
  refine ⟨_, hflat, rfl, rfl, ⟨kennel.entries.reverse, by decide⟩, ?_, ?_⟩
  · exact List.map_reverse
  · exact (hreorder _ (List.reverse_perm _).symm "Dog").trans hflat

end Table

end SchemaGraph
