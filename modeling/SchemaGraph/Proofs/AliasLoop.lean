import SchemaGraph.Proofs.Reports
import SchemaGraph.Proofs.Resolution

/-!
# Aliases that go round

Each alias leads to one name at most, so a chain of aliases either ends or comes back to one of its
links. Where resolution fails, the chain leads to the entry that is at fault
(`resolve?_error_sound`). It fails with a loop exactly where aliases go round: `resolve?_loop_sound`
finds the cycle behind such a failure, and `exists_resolve?_eq_loop` the failure behind a cycle.
-/

namespace SchemaGraph.Table

/-- Some alias leads back to itself. -/
def AliasesLoop (table : Table) : Prop :=
  ∃ name, Relation.TransGen table.AliasStep name name

/-- No alias leads on from this name. -/
def IsEnd (table : Table) (name : String) : Prop :=
  ∀ next, ¬ table.AliasStep name next

variable {table : Table} {reference name next : String}

/-- An alias leads to one name. -/
theorem AliasStep.unique {other : String} (h : table.AliasStep name next)
    (h' : table.AliasStep name other) : next = other := by
  obtain ⟨onward, hget, hnext⟩ := h
  obtain ⟨onward', hget', hother⟩ := h'
  cases hget.symm.trans hget'
  exact Option.some.inj (hnext.symm.trans hother)

theorem rightUnique_aliasStep (table : Table) : Relator.RightUnique table.AliasStep :=
  fun _ _ _ => AliasStep.unique

/-- A name from which the chain comes to an end is on no cycle. -/
theorem not_cycle_of_reaches_end {last : String}
    (hchain : Relation.ReflTransGen table.AliasStep name last)
    (hlast : table.IsEnd last) : ¬ Relation.TransGen table.AliasStep name name :=
  not_returns_of_reaches_end table.rightUnique_aliasStep hchain hlast

/-- Tables with the same aliases have the same steps along them. -/
theorem SameAliases.aliasStep_eq {other : Table} (hsame : table.SameAliases other) :
    table.AliasStep = other.AliasStep := by
  funext name next
  simp only [AliasStep, hsame name]

/-- What is wrong with the entry `last` at which following aliases fails. -/
inductive FailsAt (table : Table) (reference last : String) : ResolutionFailure → Prop where
  /-- There is no such entry. -/
  | missing (hget : table.get? last = none) : FailsAt table reference last (.missing reference)
  /-- The entry is an alias whose reference holds no name. -/
  | malformedAlias {onward : String} (hget : table.get? last = some (.alias onward))
      (hnone : Reference.schemaName? onward = none) :
      FailsAt table reference last (.malformedAlias last onward)
  /-- The entry has been met before. -/
  | loop (hcycle : Relation.TransGen table.AliasStep last last) :
      FailsAt table reference last (.loop reference last)

/-- Where following aliases fails, the chain leads to the entry that is at fault. -/
theorem followFrom_error_sound {unseen : List String} {failure : ResolutionFailure}
    (hseen : ∀ met ∈ table.names, met ∉ unseen → Relation.TransGen table.AliasStep met name)
    (h : table.followFrom reference unseen name = .error failure) :
    ∃ last, Relation.ReflTransGen table.AliasStep name last ∧
      table.FailsAt reference last failure := by
  fun_induction followFrom table reference unseen name with
  | case1 unseen name hget =>
      cases h
      exact ⟨name, .refl, .missing hget⟩
  | case2 unseen name hmem onward target htarget hget ih =>
      have hstep : table.AliasStep name target := ⟨onward, hget, htarget⟩
      have hseen' : ∀ met ∈ table.names, met ∉ unseen.erase name →
          Relation.TransGen table.AliasStep met target := by
        intro met hmet hnot
        by_cases heq : met = name
        · exact heq ▸ .single hstep
        · exact (hseen met hmet fun hin => hnot ((List.mem_erase_of_ne heq).2 hin)).tail hstep
      obtain ⟨last, hchain, hfails⟩ := ih hseen' h
      exact ⟨last, hchain.head hstep, hfails⟩
  | case3 unseen name hmem onward hnone hget =>
      cases h
      exact ⟨name, .refl, .malformedAlias hget hnone⟩
  | case4 => cases h
  | case5 unseen name schema hget hnot =>
      cases h
      exact ⟨name, .refl, .loop (hseen name (mem_names_of_get? hget) hnot)⟩

/-- Where resolution fails and the reference holds a name, the chain that starts at this name leads
to the entry that is at fault. -/
theorem resolve?_error_sound {failure : ResolutionFailure}
    (hstart : Reference.schemaName? reference = some name)
    (h : table.resolve? reference = .error failure) :
    ∃ last, Relation.ReflTransGen table.AliasStep name last ∧
      table.FailsAt reference last failure := by
  simp only [resolve?, hstart] at h
  exact followFrom_error_sound (fun _ hmem hnot => absurd hmem hnot) h

/-- Where resolution fails with a loop, a chain of aliases leads from an entry back to it. -/
theorem resolve?_loop_sound {origin entry : String}
    (h : table.resolve? reference = .error (.loop origin entry)) :
    Relation.TransGen table.AliasStep entry entry := by
  cases hstart : Reference.schemaName? reference with
  | none => simp [resolve?, hstart] at h
  | some start =>
      obtain ⟨_, _, hfails⟩ := resolve?_error_sound hstart h
      cases hfails with
      | loop hcycle => exact hcycle

/-- A chain ends at a definition. -/
theorem isEnd_of_isDefinition {schema : Schema} (hget : table.get? name = some schema)
    (hdefinition : schema.IsDefinition) : table.IsEnd name := by
  rintro next ⟨onward, halias, _⟩
  exact hdefinition onward (Option.some.inj (hget.symm.trans halias))

/-- A chain ends at a name that is not in the table. -/
theorem isEnd_of_missing (hget : table.get? name = none) : table.IsEnd name := by
  rintro next ⟨_, halias, _⟩
  cases hget.symm.trans halias

/-- A chain ends at an alias whose reference holds no name. -/
theorem isEnd_of_malformedAlias {onward : String} (hget : table.get? name = some (.alias onward))
    (hnone : Reference.schemaName? onward = none) : table.IsEnd name := by
  rintro next ⟨_, halias, hnext⟩
  cases hget.symm.trans halias
  cases hnone.symm.trans hnext

/-- The reference of an alias that leads back to itself fails with a loop. -/
theorem exists_resolve?_eq_loop (hget : table.get? name = some (.alias reference))
    (hcycle : Relation.TransGen table.AliasStep name name) :
    ∃ entry, table.resolve? reference = .error (.loop reference entry) := by
  obtain ⟨next, hstep, _⟩ := Relation.TransGen.head'_iff.1 hcycle
  obtain ⟨onward, halias, hnext⟩ := hstep
  cases hget.symm.trans halias
  -- The cycle starts at the alias itself, so that no chain from there comes to an end.
  have hnot : ∀ last, Relation.ReflTransGen table.AliasStep next last → ¬ table.IsEnd last :=
    fun last hchain hend =>
      not_cycle_of_reaches_end (hchain.head ⟨reference, hget, hnext⟩) hend hcycle
  cases hresolve : table.resolve? reference with
  | ok resolved =>
      obtain ⟨start, hstart, hchain, hfound, hdefinition⟩ := resolve?_eq_ok_iff.1 hresolve
      cases hnext.symm.trans hstart
      exact absurd (isEnd_of_isDefinition hfound hdefinition) (hnot _ hchain)
  | error failure =>
      obtain ⟨last, hchain, hfails⟩ := resolve?_error_sound hnext hresolve
      cases hfails with
      | missing hmissing => exact absurd (isEnd_of_missing hmissing) (hnot _ hchain)
      | malformedAlias halias hnone =>
          exact absurd (isEnd_of_malformedAlias halias hnone) (hnot _ hchain)
      | loop => exact ⟨last, rfl⟩

/-- Resolution reports an error only where aliases go round. -/
theorem errors_resolve {subject : Option String} :
    (table.resolve subject reference).Every (Report.ErrorOnlyIf table.AliasesLoop) := by
  unfold resolve
  cases hresolve : table.resolve? reference with
  | ok resolved => exact .pure _
  | error failure =>
      refine .bind (.note ?_) (.pure _)
      cases failure with
      | loop origin entry => exact fun _ => ⟨entry, resolve?_loop_sound hresolve⟩
      | malformed | malformedAlias | missing => nofun

end SchemaGraph.Table
