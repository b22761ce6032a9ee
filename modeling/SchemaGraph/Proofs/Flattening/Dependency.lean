import SchemaGraph.Proofs.Resolution

/-!
# Dependencies among compositions

An `allOf` entry depends on another one when a reference among its members leads there through
aliases. In a table where no entry depends on itself, through others or at once, going from an entry
to one it depends on comes to an end, so that definitions may recur along dependencies.
-/

namespace SchemaGraph.Table

/-- The name has an `allOf` entry with these parts. -/
def AllOf (table : Table) (name : String) (parts : Composition) : Prop :=
  table.get? name = some (.composition parts) ∧ parts.isSum = false

/-- The name has an `allOf` entry. -/
def HasAllOf (table : Table) (name : String) : Prop :=
  ∃ parts, table.AllOf name parts

/-- The member is a reference that leads to the `allOf` entry `base`. -/
def HasBase (table : Table) (member : SchemaUse) (base : String) : Prop :=
  ∃ reference schema, member = .named reference ∧ table.LeadsTo reference base schema ∧
    table.HasAllOf base

/-- Some member of the `allOf` entry `name` leads to the `allOf` entry `base`. -/
def DependsOn (table : Table) (name base : String) : Prop :=
  ∃ parts, table.AllOf name parts ∧ ∃ member ∈ parts.members, table.HasBase member base

/-- No entry depends on itself in any number of steps. -/
def Acyclic (table : Table) : Prop :=
  ∀ name, ¬ Relation.TransGen table.DependsOn name name

/-- An entry has one list of parts. -/
theorem AllOf.unique {table : Table} {name : String} {parts other : Composition}
    (h : table.AllOf name parts) (h' : table.AllOf name other) : parts = other := by
  cases h.1.symm.trans h'.1
  rfl

/-- An `allOf` entry is listed among the names. -/
theorem AllOf.mem_names {table : Table} {name : String} {parts : Composition}
    (h : table.AllOf name parts) : name ∈ table.names :=
  mem_names_of_get? h.1

/-- A base has an `allOf` entry. -/
theorem HasBase.hasAllOf {table : Table} {member : SchemaUse} {base : String}
    (h : table.HasBase member base) : table.HasAllOf base := by
  obtain ⟨_, _, _, _, hallOf⟩ := h
  exact hallOf

/-- The test for `allOf` schemas finds the `allOf` entries. -/
theorem hasAllOf_iff_isAllOf {table : Table} {name : String} {schema : Schema}
    (hget : table.get? name = some schema) : table.HasAllOf name ↔ schema.isAllOf := by
  constructor
  · rintro ⟨parts, hparts, hsum⟩
    cases hget.symm.trans hparts
    simp [Schema.isAllOf, hsum]
  · intro hallOf
    unfold Schema.isAllOf at hallOf
    split at hallOf
    · next parts => exact ⟨parts, hget, by simpa using hallOf⟩
    · cases hallOf

/-- The bases of a member depend only on what is found under the names. -/
theorem hasBase_congr {table other : Table} (hsame : table.get? = other.get?) :
    table.HasBase = other.HasBase := by
  funext member base
  unfold HasBase HasAllOf AllOf
  rw [leadsTo_congr hsame, hsame]

/-- The dependencies depend only on what is found under the names. -/
theorem dependsOn_congr {table other : Table} (hsame : table.get? = other.get?) :
    table.DependsOn = other.DependsOn := by
  funext name base
  unfold DependsOn AllOf
  rw [hasBase_congr hsame, hsame]

/-- In a table without circular dependencies they can be followed only finitely far. -/
theorem Acyclic.wellFounded {table : Table} (h : table.Acyclic) :
    WellFounded fun base name => table.DependsOn name base := by
  refine wellFounded_of_no_return table.names ?_ h
  rintro name base ⟨_, _, _, _, _, _, _, _, _, hbase⟩
  exact hbase.mem_names

/-- There is no cycle where dependencies lead from higher to lower ranks. -/
theorem Acyclic.of_rank {table : Table} (rank : String → Nat)
    (h : ∀ name base, table.DependsOn name base → rank base < rank name) : table.Acyclic := by
  have hlower : ∀ name base, Relation.TransGen table.DependsOn name base →
      rank base < rank name := by
    intro name base hpath
    induction hpath with
    | single hstep => exact h _ _ hstep
    | tail _ hstep ih => exact (h _ _ hstep).trans ih
  exact fun name hloop => lt_irrefl _ (hlower name name hloop)

end SchemaGraph.Table
