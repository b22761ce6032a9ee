import SchemaGraph.Proofs.Flattening.Merging
import SchemaGraph.Proofs.Flattening.Run

/-!
# Stages of the flattening

`Stage` is the invariant of the flattening: the names and their order stay, a flattened name has an
object in the place of its `allOf` entry, and every other entry is untouched. `Run.stage` says that
every run keeps it, whether there are cycles or not, and that a run flattens only names whose
members were not being merged when it began.
-/

namespace SchemaGraph.Flattening

/-- What is there when some `allOf` entries of a table are flattened. -/
structure Stage (table : Table) (state : Flattening) : Prop where
  /-- The names and their order are those of the table. -/
  names : state.table.names = table.names
  /-- No name is flattened twice. -/
  once : state.flattened.Nodup
  /-- A flattened name has an object with the title and description of its `allOf` entry. -/
  done : ∀ name ∈ state.flattened, ∃ parts object, table.AllOf name parts ∧
    state.table.get? name = some (.object object) ∧ object.docs = parts.docs
  /-- Every other entry is that of the table. -/
  kept : ∀ name, name ∉ state.flattened → state.table.get? name = table.get? name

/-- The later state has more names flattened, all of them among the given ones. -/
def Grows (idle : List String) (before after : Flattening) : Prop :=
  ∃ added, after.flattened = before.flattened ++ added ∧ ∀ name ∈ added, name ∈ idle

namespace Grows

variable {idle : List String} {before between after : Flattening}

theorem refl : Grows idle before before :=
  ⟨[], by simp, by simp⟩

theorem trans (h : Grows idle before between) (h' : Grows idle between after) :
    Grows idle before after := by
  obtain ⟨added, hadded, hidle⟩ := h
  obtain ⟨more, hmore, hidle'⟩ := h'
  refine ⟨added ++ more, by rw [hmore, hadded, List.append_assoc], ?_⟩
  intro name hname
  exact (List.mem_append.1 hname).elim (hidle name) (hidle' name)

/-- A name that was flattened stays flattened. -/
theorem mem (h : Grows idle before after) {name : String} (hname : name ∈ before.flattened) :
    name ∈ after.flattened := by
  obtain ⟨added, hadded, _⟩ := h
  rw [hadded]
  exact List.mem_append_left _ hname

/-- A name that is not among the given ones is flattened only if it was before. -/
theorem not_mem (h : Grows idle before after) {name : String} (hidle : name ∉ idle)
    (hname : name ∉ before.flattened) : name ∉ after.flattened := by
  obtain ⟨added, hadded, hmem⟩ := h
  rw [hadded, List.mem_append]
  exact fun h => h.elim hname fun h => hidle (hmem name h)

end Grows

namespace Stage

variable {table : Table} {state : Flattening} {name : String}

/-- The table itself is the first stage. -/
theorem start (table : Table) : Stage table ⟨table, []⟩ :=
  ⟨rfl, List.nodup_nil, nofun, fun _ _ => rfl⟩

/-- An entry is untouched, or it was an `allOf` and is now an object. -/
theorem get?_cases (h : Stage table state) (name : String) :
    (name ∉ state.flattened ∧ state.table.get? name = table.get? name) ∨
      (name ∈ state.flattened ∧ table.HasAllOf name ∧
        ∃ object, state.table.get? name = some (.object object)) := by
  by_cases hname : name ∈ state.flattened
  · obtain ⟨parts, object, hallOf, hget, _⟩ := h.done name hname
    exact .inr ⟨hname, ⟨parts, hallOf⟩, object, hget⟩
  · exact .inl ⟨hname, h.kept name hname⟩

/-- The `allOf` entries of a stage are those of the table that are not flattened. -/
theorem allOf_iff (h : Stage table state) {parts : Composition} :
    state.table.AllOf name parts ↔ name ∉ state.flattened ∧ table.AllOf name parts := by
  rcases h.get?_cases name with ⟨hname, hget⟩ | ⟨hname, _, object, hget⟩
  · simp [Table.AllOf, hget, hname]
  · simp [Table.AllOf, hget, hname]

/-- The stages of a table have its aliases. -/
theorem sameAliases (h : Stage table state) : table.SameAliases state.table := by
  intro name reference
  rcases h.get?_cases name with ⟨_, hget⟩ | ⟨_, ⟨parts, hparts, _⟩, object, hget⟩
  · rw [hget]
  · simp [hget, hparts]

/-- What a reference leads to in a stage has the name it leads to in the table, and the schema too
unless it is flattened. -/
theorem leadsTo_of_resolve? (h : Stage table state) {reference : String} {resolved : Resolved}
    (hresolve : state.table.resolve? reference = .ok resolved) :
    (resolved.name ∉ state.flattened ∧
      table.LeadsTo reference resolved.name resolved.schema) ∨
    (resolved.name ∈ state.flattened ∧ table.HasBase (.named reference) resolved.name) := by
  have hleads := Table.resolve?_eq_ok_iff.1 hresolve
  have hsame : state.table.SameAliases table := fun name onward => (h.sameAliases name onward).symm
  rcases h.get?_cases resolved.name with ⟨hopen, hget⟩ | ⟨hmem, ⟨parts, hparts⟩, _⟩
  · exact .inl ⟨hopen, hleads.transfer hsame (hget ▸ hleads.get?)⟩
  · exact .inr ⟨hmem, reference, _, rfl, hleads.transfer hsame hparts.1, parts, hparts⟩

/-- What a reference leads to in the table is found in a stage, with the schema it has there. -/
theorem resolve?_of_leadsTo (h : Stage table state) {reference : String} {schema : Schema}
    (hleads : table.LeadsTo reference name schema) :
    ∃ current, state.table.get? name = some current ∧
      state.table.resolve? reference = .ok ⟨name, current⟩ := by
  rcases h.get?_cases name with ⟨_, hget⟩ | ⟨_, _, object, hget⟩
  · rw [hleads.get?] at hget
    exact ⟨_, hget, (hleads.transfer h.sameAliases hget).resolve?_eq⟩
  · exact ⟨_, hget, (hleads.transfer h.sameAliases hget).resolve?_eq⟩

/-- A base that a member has is the entry that its reference leads to. -/
theorem eq_of_hasBase (h : Stage table state) {reference base : String} {resolved : Resolved}
    (hresolve : state.table.resolve? reference = .ok resolved)
    (hbase : table.HasBase (.named reference) base) : base = resolved.name := by
  obtain ⟨_, _, heq, hleads, _⟩ := hbase
  cases heq
  rcases h.leadsTo_of_resolve? hresolve with ⟨_, hresolved⟩ | ⟨_, _, _, heq, hresolved, _⟩
  · exact (hleads.unique hresolved).1
  · cases heq
    exact (hleads.unique hresolved).1

/-- A member that leads to an `allOf` entry of a stage has this entry as its base, and the entry is
not flattened. -/
theorem hasBase_of_isAllOf (h : Stage table state) {reference : String} {resolved : Resolved}
    (hresolve : state.table.resolve? reference = .ok resolved)
    (hallOf : resolved.schema.isAllOf) :
    table.HasBase (.named reference) resolved.name ∧ resolved.name ∉ state.flattened := by
  have hget := (Table.resolve?_eq_ok_iff.1 hresolve).get?
  obtain ⟨parts, hparts⟩ := (Table.hasAllOf_iff_isAllOf hget).2 hallOf
  obtain ⟨hopen, hparts⟩ := h.allOf_iff.1 hparts
  rcases h.leadsTo_of_resolve? hresolve with ⟨_, hleads⟩ | ⟨hmem, _⟩
  · exact ⟨⟨reference, resolved.schema, rfl, hleads, parts, hparts⟩, hopen⟩
  · exact absurd hmem hopen

/-- The base of a member is found in a stage, as an `allOf` or as the object in its place. -/
theorem resolve?_of_hasBase (h : Stage table state) {reference base : String}
    (hbase : table.HasBase (.named reference) base) :
    (base ∉ state.flattened ∧ ∃ parts, table.AllOf base parts ∧
      state.table.resolve? reference = .ok ⟨base, .composition parts⟩) ∨
    (base ∈ state.flattened ∧ ∃ object, state.table.get? base = some (.object object) ∧
      state.table.resolve? reference = .ok ⟨base, .object object⟩) := by
  obtain ⟨_, _, heq, hleads, parts, hallOf⟩ := hbase
  cases heq
  obtain ⟨current, hcurrent, hresolve⟩ := h.resolve?_of_leadsTo hleads
  rcases h.get?_cases base with ⟨hopen, hget⟩ | ⟨hmem, _, object, hget⟩
  · rw [hcurrent, hallOf.1] at hget
    cases hget
    exact .inl ⟨hopen, parts, hallOf, hresolve⟩
  · cases hcurrent.symm.trans hget
    exact .inr ⟨hmem, object, hget, hresolve⟩

/-- Putting an object in the place of an `allOf` entry leads to the next stage. -/
theorem finish {progress : Progress} {parts : Composition} (h : Stage table progress.2)
    (hallOf : table.AllOf name parts) (hnew : name ∉ progress.2.flattened)
    (hdocs : progress.1.docs = parts.docs) : Stage table (finish name progress) := by
  have hmem : name ∈ progress.2.table.names := h.names ▸ hallOf.mem_names
  refine ⟨?_, ?_, ?_, ?_⟩
  · exact (Table.names_insert_of_mem hmem _).trans h.names
  · exact List.nodup_append.2 ⟨h.once, List.nodup_singleton name, by
      rintro other hother _ hname rfl
      exact hnew (List.mem_singleton.1 hname ▸ hother)⟩
  · intro other hother
    by_cases heq : other = name
    · subst heq
      exact ⟨parts, progress.1, hallOf, by simp [Flattening.finish, Table.get?_insert], hdocs⟩
    · have hold : other ∈ progress.2.flattened := by
        simpa [Flattening.finish, heq] using hother
      obtain ⟨parts', object, hallOf', hget, hdocs'⟩ := h.done other hold
      exact ⟨parts', object, hallOf', by simp [Flattening.finish, Table.get?_insert, heq, hget],
        hdocs'⟩
  · intro other hother
    simp only [Flattening.finish, List.mem_append, List.mem_singleton, not_or] at hother
    simp [Flattening.finish, Table.get?_insert, hother.2, h.kept other hother.1]

end Stage

/-- The `allOf` entries that a task is to flatten are flattened. -/
def Task.Settled (table : Table) (idle flattened : List String) : Task → Prop
  | .entry name => name ∈ idle → table.HasAllOf name → name ∈ flattened
  | .entries names => ∀ name ∈ names, name ∈ idle → table.HasAllOf name → name ∈ flattened
  | _ => True

/-- Every run leads from a stage to a stage. It flattens what it is to flatten, and only names whose
members are not being merged, and it keeps the title and description of the object at hand. -/
theorem Run.stage {table : Table} {idle chain : List String} {task : Task}
    {before after : Progress} {reports : List Report}
    (h : Run idle chain task before after reports) (hidle : idle.Nodup)
    (hstage : Stage table before.2) :
    Stage table after.2 ∧ Grows idle before.2 after.2 ∧ after.1.docs = before.1.docs ∧
      task.Settled table idle after.2.flattened := by
  induction h with
  | membersNil | unresolved | cycle => exact ⟨hstage, .refl, rfl, trivial⟩
  | inline => exact ⟨hstage, .refl, ObjectOf.docs_mergeInline, trivial⟩
  | named => exact ⟨hstage, .refl, ObjectOf.docs_mergeNamed, trivial⟩
  | base hresolve hallOf hmem hentry ih =>
      obtain ⟨hstage, hgrows, _, _⟩ := ih hidle hstage
      exact ⟨hstage, hgrows, ObjectOf.docs_mergeNamed, trivial⟩
  | membersCons hmember hrest ihmember ihrest =>
      obtain ⟨hbetween, hgrows, hdocs, _⟩ := ihmember hidle hstage
      obtain ⟨hafter, hgrows', hdocs', _⟩ := ihrest hidle hbetween
      exact ⟨hafter, hgrows.trans hgrows', hdocs'.trans hdocs, trivial⟩
  | entriesNil => exact ⟨hstage, .refl, rfl, nofun⟩
  | entriesCons hentry hrest ihentry ihrest =>
      obtain ⟨hbetween, hgrows, hdocs, hsettled⟩ := ihentry hidle hstage
      obtain ⟨hafter, hgrows', hdocs', hsettled'⟩ := ihrest hidle hbetween
      refine ⟨hafter, hgrows.trans hgrows', hdocs'.trans hdocs, ?_⟩
      intro name hname hmem hallOf
      rcases List.mem_cons.1 hname with rfl | hname
      · exact hgrows'.mem (hsettled hmem hallOf)
      · exact hsettled' name hname hmem hallOf
  | skipped hskip =>
      -- An entry that is skipped though it was an `allOf` and idle has been flattened before.
      refine ⟨hstage, .refl, rfl, ?_⟩
      rintro hmem ⟨parts, hallOf⟩
      by_contra hopen
      exact hskip hmem ⟨parts, hstage.allOf_iff.2 ⟨hopen, hallOf⟩⟩
  | @entry idle chain name parts before after reports hmem hallOf hmembers ih =>
      obtain ⟨hopen, hallOf⟩ := hstage.allOf_iff.1 hallOf
      obtain ⟨hafter, hgrows, hdocs, _⟩ := ih (hidle.erase name) hstage
      -- No run over the members flattens the name itself, so that it is flattened here and once.
      have hbusy : name ∉ idle.erase name := fun h => (hidle.mem_erase_iff.1 h).1 rfl
      refine ⟨hafter.finish hallOf (hgrows.not_mem hbusy hopen) hdocs, ?_, rfl, ?_⟩
      · obtain ⟨added, hadded, hsub⟩ := hgrows
        refine ⟨added ++ [name], by simp [Flattening.finish, hadded], ?_⟩
        intro other hother
        rcases List.mem_append.1 hother with hother | hother
        · exact List.mem_of_mem_erase (hsub other hother)
        · exact List.mem_singleton.1 hother ▸ hmem
      · intro _ _
        exact List.mem_append_right _ List.mem_cons_self

end SchemaGraph.Flattening
