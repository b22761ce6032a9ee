import SchemaGraph.Graph.Resolution
import SchemaGraph.Proofs.Paths

/-!
# Where references lead

A reference leads to an entry of the table when a chain of alias entries joins the name it holds to
that entry and the entry itself is no alias. `Table.resolve?_eq_ok_iff` says that resolution finds
exactly this entry. What a reference leads to depends on the entries alone, not on their order.
-/

namespace SchemaGraph

/-- A schema that is not another name of one. -/
def Schema.IsDefinition (schema : Schema) : Prop :=
  ∀ reference, schema ≠ .alias reference

namespace Table

/-- The entry `name` is an alias, and `next` is the name that its reference holds. -/
def AliasStep (table : Table) (name next : String) : Prop :=
  ∃ reference, table.get? name = some (.alias reference) ∧
    Reference.schemaName? reference = some next

/-- The chain of aliases that starts at the name in the reference ends at the entry `name`, whose
schema is a definition. -/
def LeadsTo (table : Table) (reference name : String) (schema : Schema) : Prop :=
  ∃ start, Reference.schemaName? reference = some start ∧
    Relation.ReflTransGen table.AliasStep start name ∧
    table.get? name = some schema ∧ schema.IsDefinition

/-- Following aliases goes along alias steps and stops at a definition. -/
theorem followFrom_sound {table : Table} {reference : String} {unseen : List String}
    {name : String} {resolved : Resolved}
    (h : table.followFrom reference unseen name = .ok resolved) :
    Relation.ReflTransGen table.AliasStep name resolved.name ∧
      table.get? resolved.name = some resolved.schema ∧ resolved.schema.IsDefinition := by
  fun_induction followFrom table reference unseen name with
  | case1 => cases h
  | case2 unseen name hmem next target htarget hget ih =>
      obtain ⟨hsteps, hend⟩ := ih h
      exact ⟨.head ⟨next, hget, htarget⟩ hsteps, hend⟩
  | case3 => cases h
  | case4 unseen name schema hget hmem hdefinition =>
      cases h
      exact ⟨.refl, hget, hdefinition⟩
  | case5 => cases h

/-- An alias whose name has not been met is followed. -/
theorem followFrom_alias {table : Table} {reference name next : String} {unseen : List String}
    (hstep : table.AliasStep name next) (hmem : name ∈ unseen) :
    table.followFrom reference unseen name =
      table.followFrom reference (unseen.erase name) next := by
  obtain ⟨onward, hget, hnext⟩ := hstep
  rw [followFrom, hget]
  simp [hmem, hnext]

/-- A definition whose name has not been met is what a chain ends at. -/
theorem followFrom_definition {table : Table} {reference name : String} {schema : Schema}
    {unseen : List String} (hget : table.get? name = some schema)
    (hdefinition : schema.IsDefinition) (hmem : name ∈ unseen) :
    table.followFrom reference unseen name = .ok ⟨name, schema⟩ := by
  rw [followFrom, hget]
  simp only [hmem, dite_true]
  split
  · next onward => exact absurd rfl (hdefinition onward)
  · rfl

/-- A chain of distinct unseen names that ends at a definition is followed to its end. -/
theorem followFrom_chain {table : Table} {reference finish : String} {schema : Schema}
    (hget : table.get? finish = some schema) (hdefinition : schema.IsDefinition)
    (rest : List String) (start : String) (unseen : List String)
    (hchain : (start :: rest).IsChain table.AliasStep) (hnodup : (start :: rest).Nodup)
    (hlast : (start :: rest).getLast? = some finish)
    (hunseen : ∀ name ∈ start :: rest, name ∈ unseen) :
    table.followFrom reference unseen start = .ok ⟨finish, schema⟩ := by
  -- A chain without repetition meets each name while it is still unseen.
  induction rest generalizing start unseen with
  | nil =>
      obtain rfl : start = finish := by simpa using hlast
      exact followFrom_definition hget hdefinition (hunseen start List.mem_cons_self)
  | cons next rest ih =>
      obtain ⟨hstep, hchain⟩ := List.isChain_cons_cons.1 hchain
      obtain ⟨hnew, hnodup⟩ := List.nodup_cons.1 hnodup
      rw [followFrom_alias hstep (hunseen start List.mem_cons_self)]
      refine ih next (unseen.erase start) hchain hnodup ?_ ?_
      · rwa [List.getLast?_cons_cons] at hlast
      · intro name hname
        have hne : name ≠ start := fun heq => hnew (heq ▸ hname)
        exact (List.mem_erase_of_ne hne).2 (hunseen name (List.mem_cons_of_mem _ hname))

/-- Every name on a chain that ends at an entry is a name of the table. -/
theorem mem_names_of_aliasStep {table : Table} {name finish : String} {schema : Schema}
    (hsteps : Relation.ReflTransGen table.AliasStep name finish)
    (hget : table.get? finish = some schema) : name ∈ table.names := by
  cases hsteps.cases_head with
  | inl heq =>
      subst heq
      exact mem_names_of_get? hget
  | inr hstep =>
      obtain ⟨_, ⟨_, halias, _⟩, _⟩ := hstep
      exact mem_names_of_get? halias

/-- Resolution finds the entry that the reference leads to, and fails only when there is none. -/
theorem resolve?_eq_ok_iff {table : Table} {reference : String} {resolved : Resolved} :
    table.resolve? reference = .ok resolved ↔
      table.LeadsTo reference resolved.name resolved.schema := by
  constructor
  · intro h
    simp only [resolve?] at h
    split at h
    · next start hstart => exact ⟨start, hstart, followFrom_sound h⟩
    · cases h
  · rintro ⟨start, hstart, hsteps, hget, hdefinition⟩
    obtain ⟨rest, hchain, hnodup, hlast⟩ := exists_nodup_chain hsteps
    simp only [resolve?, hstart]
    refine followFrom_chain hget hdefinition rest start table.names hchain hnodup hlast ?_
    intro name hname
    exact mem_names_of_aliasStep (reachable_last_of_mem_chain hchain hlast hname) hget

/-- Resolution with reports gives the same entry, or else the unknown schema. -/
theorem value_resolve (table : Table) (subject : Option String) (reference : String) :
    (table.resolve subject reference).value =
      (table.resolve? reference).toOption.getD .unknown := by
  unfold resolve
  cases table.resolve? reference <;> rfl

/-- Resolution succeeds with the entry that the reference leads to. -/
theorem LeadsTo.resolve?_eq {table : Table} {reference name : String} {schema : Schema}
    (h : table.LeadsTo reference name schema) :
    table.resolve? reference = .ok ⟨name, schema⟩ :=
  resolve?_eq_ok_iff.2 h

/-- A reference leads to one entry at most. -/
theorem LeadsTo.unique {table : Table} {reference name other : String} {schema schema' : Schema}
    (h : table.LeadsTo reference name schema) (h' : table.LeadsTo reference other schema') :
    name = other ∧ schema = schema' := by
  have heq := h.resolve?_eq.symm.trans h'.resolve?_eq
  cases heq
  exact ⟨rfl, rfl⟩

/-- What a reference leads to is an entry of the table. -/
theorem LeadsTo.get? {table : Table} {reference name : String} {schema : Schema}
    (h : table.LeadsTo reference name schema) : table.get? name = some schema := by
  obtain ⟨_, _, _, hget, _⟩ := h
  exact hget

/-- What a reference leads to is no alias. -/
theorem LeadsTo.isDefinition {table : Table} {reference name : String} {schema : Schema}
    (h : table.LeadsTo reference name schema) : schema.IsDefinition := by
  obtain ⟨_, _, _, _, hdefinition⟩ := h
  exact hdefinition

/-- Two tables have the same aliases. -/
def SameAliases (table other : Table) : Prop :=
  ∀ name reference,
    table.get? name = some (.alias reference) ↔ other.get? name = some (.alias reference)

/-- In tables with the same aliases a reference leads to the same name. -/
theorem LeadsTo.transfer {table other : Table} (hsame : table.SameAliases other)
    {reference name : String} {schema schema' : Schema}
    (h : table.LeadsTo reference name schema) (hget : other.get? name = some schema') :
    other.LeadsTo reference name schema' := by
  obtain ⟨start, hstart, hsteps, hentry, hdefinition⟩ := h
  have hstep : table.AliasStep ≤ other.AliasStep := by
    rintro before after ⟨onward, halias, hnext⟩
    exact ⟨onward, (hsame before onward).1 halias, hnext⟩
  refine ⟨start, hstart, Relation.ReflTransGen.mono hstep _ _ hsteps, hget, ?_⟩
  · rintro onward rfl
    rw [(hsame name onward).2 hget] at hentry
    cases hentry
    exact hdefinition onward rfl

/-- What a reference leads to depends only on what is found under the names. -/
theorem leadsTo_congr {table other : Table} (hsame : table.get? = other.get?) :
    table.LeadsTo = other.LeadsTo := by
  funext reference name schema
  unfold LeadsTo AliasStep
  rw [hsame]

end Table
end SchemaGraph
