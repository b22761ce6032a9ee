import SchemaGraph.Proofs.Flattening.Stage

/-!
# Cycles and the order of the flattening

A cycle is reported only where dependencies close one (`Run.genuine`), and as long as none is
reported every entry is flattened after those it depends on (`Run.basesFirst`). So the order of
the flattening follows the dependencies of a table that has no cycle.
-/

namespace SchemaGraph

namespace Table

/-- Each name depends on the next one, and the last one stands further ahead already. -/
def ClosesCycle (table : Table) (names : List String) : Prop :=
  names.IsChain table.DependsOn ∧ ∃ before last, names = before ++ [last] ∧ last ∈ before

/-- Names that close a cycle go round. -/
theorem ClosesCycle.not_acyclic {table : Table} {names : List String}
    (h : table.ClosesCycle names) : ¬ table.Acyclic := by
  obtain ⟨hchain, before, last, rfl, hmem⟩ := h
  intro hacyclic
  obtain ⟨start, rest, rfl⟩ := List.append_of_mem hmem
  rw [List.append_assoc] at hchain
  have hloop : (last :: (rest ++ [last])).IsChain table.DependsOn := hchain.right_of_append
  cases rest with
  | nil => exact hacyclic last (.single (List.isChain_cons_cons.1 hloop).1)
  | cons next rest =>
      obtain ⟨hstep, hback⟩ := List.isChain_cons_cons.1 hloop
      have hlast : (next :: rest ++ [last]).getLast? = some last := List.getLast?_concat
      have hpath := reachable_last_of_mem_chain hback hlast List.mem_cons_self
      exact hacyclic last (.head' hstep hpath)

/-- Every cycle that is reported closes one. -/
def Genuine (table : Table) (reports : List Report) : Prop :=
  ∀ report ∈ reports, report.OfCycle →
    ∃ position names, report.finding = .allOfCycle position names ∧ table.ClosesCycle names

theorem Genuine.append {table : Table} {reports more : List Report} (h : table.Genuine reports)
    (h' : table.Genuine more) : table.Genuine (reports ++ more) := by
  intro report hreport
  exact (List.mem_append.1 hreport).elim (h report) (h' report)

theorem Genuine.of_cycleFree {α : Type} {table : Table} {result : Reported α}
    (h : result.CycleFree) : table.Genuine result.reports :=
  fun report hreport hcycle => absurd hcycle (h report hreport)

/-- Before each name stand all names it depends on. -/
def BasesFirst (table : Table) (names : List String) : Prop :=
  ∀ before name after, names = before ++ name :: after →
    ∀ base, table.DependsOn name base → base ∈ before

/-- A name may follow those it depends on. -/
theorem BasesFirst.snoc {table : Table} {names : List String} {name : String}
    (h : table.BasesFirst names) (hname : ∀ base, table.DependsOn name base → base ∈ names) :
    table.BasesFirst (names ++ [name]) := by
  intro before other after hsplit base hbase
  rcases List.eq_nil_or_concat after with rfl | ⟨after, last, rfl⟩
  · obtain ⟨rfl, heq⟩ := List.append_inj' hsplit rfl
    cases heq
    exact hname base hbase
  · rw [List.concat_eq_append, ← List.cons_append, ← List.append_assoc] at hsplit
    obtain ⟨rfl, _⟩ := List.append_inj' hsplit rfl
    exact h before other after rfl base hbase

end Table

namespace Flattening

/-- Every name of the task depends on the one before it, from the outermost of the chain on. -/
def Task.Fits (table : Table) (chain : List String) : Task → Prop
  | .entry name => (chain ++ [name]).IsChain table.DependsOn
  | .entries _ => chain = []
  | .member parent _ use => chain.IsChain table.DependsOn ∧ chain.getLast? = some parent ∧
      ∃ parts, table.AllOf parent parts ∧ use ∈ parts.members
  | .members parent _ uses => chain.IsChain table.DependsOn ∧ chain.getLast? = some parent ∧
      ∃ parts, table.AllOf parent parts ∧ ∀ use ∈ uses, use ∈ parts.members

/-- A base of a member fits behind the chain. -/
theorem Task.Fits.base {table : Table} {chain : List String} {parent base : String}
    {position : Nat} {member : SchemaUse}
    (h : (Task.member parent position member).Fits table chain)
    (hbase : table.HasBase member base) : (Task.entry base).Fits table chain := by
  obtain ⟨hchain, hlast, parts, hallOf, hmem⟩ := h
  refine List.isChain_append.2 ⟨hchain, .singleton base, ?_⟩
  intro last hmemlast first hfirst
  obtain rfl : last = parent := Option.some.inj (hmemlast.symm.trans hlast)
  obtain rfl : base = first := by simpa using hfirst
  exact ⟨parts, hallOf, member, hmem, hbase⟩

/-- Every cycle that a run reports is one. `chain` holds all names whose members are being
merged. -/
theorem Run.genuine {table : Table} {idle chain : List String} {task : Task}
    {before after : Progress} {reports : List Report}
    (h : Run idle chain task before after reports) (hidle : idle.Nodup)
    (hstage : Stage table before.2) (hfits : task.Fits table chain)
    (hbusy : ∀ name ∈ table.names, name ∉ idle → name ∈ chain) : table.Genuine reports := by
  induction h with
  | skipped | entriesNil | membersNil => exact nofun
  | inline => exact .of_cycleFree ObjectOf.warns_mergeInline.cycleFree
  | unresolved => exact .of_cycleFree Table.cycleFree_resolve
  | named => exact .of_cycleFree ObjectOf.warns_mergeNamed.cycleFree
  | base hresolve hallOf _ _ ih =>
      have hbase := (hstage.hasBase_of_isAllOf hresolve hallOf).1
      exact (ih hidle hstage (hfits.base hbase) hbusy).append
        (.of_cycleFree ObjectOf.warns_mergeNamed.cycleFree)
  | @cycle idle chain parent reference position resolved before hresolve hallOf hnot =>
      have hbase := (hstage.hasBase_of_isAllOf hresolve hallOf).1
      -- The name is not idle, so that it stands in the chain and the chain closes at it.
      obtain ⟨_, hparts⟩ := hbase.hasAllOf
      have hname : resolved.name ∈ table.names := hparts.mem_names
      intro report hreport _
      obtain rfl := List.mem_singleton.1 hreport
      exact ⟨position, _, rfl, hfits.base hbase, chain, resolved.name, rfl,
        hbusy resolved.name hname hnot⟩
  | membersCons hmember _ ihmember ihrest =>
      obtain ⟨hchain, hlast, parts, hallOf, hmem⟩ := hfits
      have hbetween := (hmember.stage hidle hstage).1
      refine (ihmember hidle hstage ⟨hchain, hlast, parts, hallOf, hmem _ List.mem_cons_self⟩
        hbusy).append (ihrest hidle hbetween ⟨hchain, hlast, parts, hallOf, ?_⟩ hbusy)
      exact fun member hmember => hmem member (List.mem_cons_of_mem _ hmember)
  | entriesCons hentry _ ihentry ihrest =>
      cases hfits
      have hbetween := (hentry.stage hidle hstage).1
      exact (ihentry hidle hstage (.singleton _) hbusy).append (ihrest hidle hbetween rfl hbusy)
  | @entry idle chain name parts before after reports hmem hallOf _ ih =>
      obtain ⟨_, hallOf⟩ := hstage.allOf_iff.1 hallOf
      refine ih (hidle.erase name) hstage ⟨hfits, by simp, parts, hallOf, fun _ h => h⟩ ?_
      intro other hother hnot
      by_cases heq : other = name
      · exact List.mem_append_right _ (List.mem_singleton.2 heq)
      · exact List.mem_append_left _
          (hbusy other hother fun h => hnot ((List.mem_erase_of_ne heq).2 h))

/-- The bases of the members that a task merges are flattened. -/
def Task.BasesIn (table : Table) (flattened : List String) : Task → Prop
  | .member _ _ use => ∀ base, table.HasBase use base → base ∈ flattened
  | .members _ _ uses => ∀ use ∈ uses, ∀ base, table.HasBase use base → base ∈ flattened
  | _ => True

/-- While no cycle is reported, entries are flattened after those they depend on. -/
theorem Run.basesFirst {table : Table} {idle chain : List String} {task : Task}
    {before after : Progress} {reports : List Report}
    (h : Run idle chain task before after reports) (hidle : idle.Nodup)
    (hstage : Stage table before.2) (hfree : ∀ report ∈ reports, ¬ report.OfCycle)
    (hfirst : table.BasesFirst before.2.flattened) :
    table.BasesFirst after.2.flattened ∧ task.BasesIn table after.2.flattened := by
  induction h with
  | skipped | entriesNil => exact ⟨hfirst, trivial⟩
  | membersNil => exact ⟨hfirst, nofun⟩
  | inline =>
      refine ⟨hfirst, ?_⟩
      rintro base ⟨_, _, heq, _⟩
      cases heq
  | @unresolved idle chain parent reference position before hunknown =>
      -- A base is found at every stage, so that a member without a schema has none.
      refine ⟨hfirst, fun base hbase => ?_⟩
      exfalso
      rcases hstage.resolve?_of_hasBase hbase with ⟨_, _, _, hresolve⟩ | ⟨_, _, _, hresolve⟩
      · simp [Table.resolve, hresolve, Resolved.isUnknown, Schema.isUnknown] at hunknown
      · simp [Table.resolve, hresolve, Resolved.isUnknown, Schema.isUnknown] at hunknown
  | cycle => exact absurd rfl (hfree _ List.mem_cons_self)
  | named hresolve _ hallOf =>
      refine ⟨hfirst, fun base hbase => ?_⟩
      rcases hstage.resolve?_of_hasBase hbase with ⟨_, parts, hparts, hresolve'⟩ | ⟨hmem, _⟩
      · cases hresolve.symm.trans hresolve'
        simp [Schema.isAllOf, hparts.2] at hallOf
      · exact hmem
  | base hresolve hallOf hmem hentry ih =>
      obtain ⟨_, _, _, hsettled⟩ := hentry.stage hidle hstage
      obtain ⟨hfirst, _⟩ := ih hidle hstage (List.forall_mem_append.1 hfree).1 hfirst
      refine ⟨hfirst, fun base hbase => ?_⟩
      obtain rfl := hstage.eq_of_hasBase hresolve hbase
      exact hsettled hmem hbase.hasAllOf
  | membersCons hmember hrest ihmember ihrest =>
      obtain ⟨hfree, hfreeRest⟩ := List.forall_mem_append.1 hfree
      obtain ⟨hbetween, _⟩ := hmember.stage hidle hstage
      obtain ⟨_, hgrows, _⟩ := hrest.stage hidle hbetween
      obtain ⟨hfirst, hin⟩ := ihmember hidle hstage hfree hfirst
      obtain ⟨hfirst, hrestIn⟩ := ihrest hidle hbetween hfreeRest hfirst
      refine ⟨hfirst, fun member hmem base hbase => ?_⟩
      rcases List.mem_cons.1 hmem with rfl | hmem
      · exact hgrows.mem (hin base hbase)
      · exact hrestIn member hmem base hbase
  | entriesCons hentry hrest ihentry ihrest =>
      obtain ⟨hfree, hfreeRest⟩ := List.forall_mem_append.1 hfree
      obtain ⟨hbetween, _⟩ := hentry.stage hidle hstage
      obtain ⟨hfirst, _⟩ := ihentry hidle hstage hfree hfirst
      obtain ⟨hfirst, _⟩ := ihrest hidle hbetween hfreeRest hfirst
      exact ⟨hfirst, trivial⟩
  | entry _ hallOf _ ih =>
      obtain ⟨_, hallOf⟩ := hstage.allOf_iff.1 hallOf
      obtain ⟨hfirst, hin⟩ := ih (hidle.erase _) hstage hfree hfirst
      -- All bases of its members are flattened when the name is put behind them.
      refine ⟨hfirst.snoc ?_, trivial⟩
      rintro base ⟨parts', hallOf', member, hmember, hbase⟩
      cases hallOf.unique hallOf'
      exact hin member hmember base hbase

end Flattening

end SchemaGraph
