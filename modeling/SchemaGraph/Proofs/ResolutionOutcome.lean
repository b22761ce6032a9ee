import SchemaGraph.Proofs.AliasLoop

/-!
# How resolution ends

The chain of aliases that starts at the name in a reference either leads to a definition, comes back
to one of its entries, or breaks off at a name that cannot be followed.
`Table.resolve_outcome` says that resolution ends accordingly, and what is reported when it fails.
The three cases exclude one another because an alias leads to one name at most: a chain that comes
to an end has one end, and does not come back.
-/

namespace SchemaGraph.Table

/-- The chain of aliases that starts at the name in the reference goes through this name. -/
def OnChain (table : Table) (reference name : String) : Prop :=
  ∃ start, Reference.schemaName? reference = some start ∧
    Relation.ReflTransGen table.AliasStep start name

/-- The chain comes back to one of its entries. -/
def Revisits (table : Table) (reference : String) : Prop :=
  ∃ entry, table.OnChain reference entry ∧ Relation.TransGen table.AliasStep entry entry

/-- The chain breaks off. -/
inductive BreaksOff (table : Table) (reference : String) : Prop where
  /-- The reference holds no name to start from. -/
  | nameless (hnone : Reference.schemaName? reference = none)
  /-- A name on the chain is not in the table. -/
  | outside {name : String} (hchain : table.OnChain reference name)
      (hget : table.get? name = none)
  /-- An alias on the chain has a reference without a name. -/
  | namelessAlias {name onward : String} (hchain : table.OnChain reference name)
      (hget : table.get? name = some (.alias onward))
      (hnone : Reference.schemaName? onward = none)

/-- Resolution fails with a finding of this kind. -/
def FailsAs (table : Table) (reference : String) (kind : DiagnosticKind) : Prop :=
  ∃ failure, table.resolve? reference = .error failure ∧ failure.finding.kind = kind

variable {table : Table} {reference name : String} {schema : Schema}

/-- A chain has one end. -/
theorem OnChain.end_unique {other : String} (h : table.OnChain reference name)
    (hend : table.IsEnd name) (h' : table.OnChain reference other) (hend' : table.IsEnd other) :
    name = other := by
  obtain ⟨start, hstart, hchain⟩ := h
  obtain ⟨start', hstart', hchain'⟩ := h'
  cases hstart.symm.trans hstart'
  exact SchemaGraph.end_unique table.rightUnique_aliasStep hchain hend hchain' hend'

/-- A chain that comes to an end does not come back. -/
theorem OnChain.not_revisits (h : table.OnChain reference name) (hend : table.IsEnd name) :
    ¬ table.Revisits reference := by
  obtain ⟨start, hstart, hchain⟩ := h
  rintro ⟨entry, ⟨start', hstart', hentry⟩, hcycle⟩
  cases hstart.symm.trans hstart'
  exact not_returns_on_chain table.rightUnique_aliasStep hchain hend hentry hcycle

/-- The entry that a reference leads to is on its chain and ends it. -/
theorem LeadsTo.onChain (h : table.LeadsTo reference name schema) :
    table.OnChain reference name ∧ table.IsEnd name := by
  obtain ⟨start, hstart, hchain, hget, hdefinition⟩ := h
  exact ⟨⟨start, hstart, hchain⟩, isEnd_of_isDefinition hget hdefinition⟩

/-- A chain that breaks off does not come back. -/
theorem BreaksOff.not_revisits (h : table.BreaksOff reference) : ¬ table.Revisits reference := by
  cases h with
  | nameless hnone =>
      rintro ⟨_, ⟨_, hstart, _⟩, _⟩
      cases hnone.symm.trans hstart
  | outside hchain hget => exact hchain.not_revisits (isEnd_of_missing hget)
  | namelessAlias hchain hget hnone =>
      exact hchain.not_revisits (isEnd_of_malformedAlias hget hnone)

/-- A chain that breaks off leads to no definition. -/
theorem BreaksOff.not_leadsTo (h : table.BreaksOff reference) :
    ¬ table.LeadsTo reference name schema := by
  intro hleads
  obtain ⟨hchain, hend⟩ := hleads.onChain
  cases h with
  | nameless hnone =>
      obtain ⟨_, hstart, _⟩ := hleads
      cases hnone.symm.trans hstart
  | outside hother hget =>
      obtain rfl := hchain.end_unique hend hother (isEnd_of_missing hget)
      cases hget.symm.trans hleads.get?
  | namelessAlias hother hget hnone =>
      obtain rfl := hchain.end_unique hend hother (isEnd_of_malformedAlias hget hnone)
      exact hleads.isDefinition _ (Option.some.inj (hleads.get?.symm.trans hget))

/-- Where resolution fails, the chain comes back or breaks off, and the kind of the finding says
which. -/
theorem fails_cases {failure : ResolutionFailure}
    (h : table.resolve? reference = .error failure) :
    (failure.finding.kind = .referenceLoop ∧ table.Revisits reference) ∨
      (failure.finding.kind = .danglingReference ∧ table.BreaksOff reference) := by
  cases hstart : Reference.schemaName? reference with
  | none =>
      rw [resolve?, hstart] at h
      cases h
      exact .inr ⟨rfl, .nameless hstart⟩
  | some start =>
      obtain ⟨last, hreach, hfails⟩ := resolve?_error_sound hstart h
      have hchain : table.OnChain reference last := ⟨start, hstart, hreach⟩
      cases hfails with
      | missing hget => exact .inr ⟨rfl, .outside hchain hget⟩
      | malformedAlias hget hnone => exact .inr ⟨rfl, .namelessAlias hchain hget hnone⟩
      | loop hcycle => exact .inl ⟨rfl, last, hchain, hcycle⟩

/-- Resolution fails with a loop exactly where the chain comes back to one of its entries. -/
theorem failsAs_loop_iff : table.FailsAs reference .referenceLoop ↔ table.Revisits reference := by
  constructor
  · rintro ⟨failure, hresolve, hkind⟩
    rcases fails_cases hresolve with ⟨_, hrevisits⟩ | ⟨hdangling, _⟩
    · exact hrevisits
    · cases hkind.symm.trans hdangling
  · intro hrevisits
    cases hresolve : table.resolve? reference with
    | ok resolved =>
        obtain ⟨hchain, hend⟩ := (resolve?_eq_ok_iff.1 hresolve).onChain
        exact absurd hrevisits (hchain.not_revisits hend)
    | error failure =>
        rcases fails_cases hresolve with ⟨hkind, _⟩ | ⟨_, hbreaks⟩
        · exact ⟨failure, hresolve, hkind⟩
        · exact absurd hrevisits hbreaks.not_revisits

/-- Resolution fails with a dangling reference exactly where the chain breaks off. -/
theorem failsAs_dangling_iff :
    table.FailsAs reference .danglingReference ↔ table.BreaksOff reference := by
  constructor
  · rintro ⟨failure, hresolve, hkind⟩
    rcases fails_cases hresolve with ⟨hloop, _⟩ | ⟨_, hbreaks⟩
    · cases hkind.symm.trans hloop
    · exact hbreaks
  · intro hbreaks
    cases hresolve : table.resolve? reference with
    | ok resolved => exact absurd (resolve?_eq_ok_iff.1 hresolve) hbreaks.not_leadsTo
    | error failure =>
        rcases fails_cases hresolve with ⟨_, hrevisits⟩ | ⟨hkind, _⟩
        · exact absurd hrevisits hbreaks.not_revisits
        · exact ⟨failure, hresolve, hkind⟩

/-- The diagnostic that a failure is reported with. -/
def failureDiagnostic (subject : Option String) (failure : ResolutionFailure) : Diagnostic :=
  Report.diagnostic ⟨failure.subject subject, failure.finding⟩

/-- Resolution with reports succeeds silently exactly where resolution succeeds. -/
theorem resolve_eq_pure_iff {subject : Option String} {resolved : Resolved} :
    table.resolve subject reference = pure resolved ↔ table.resolve? reference = .ok resolved := by
  unfold resolve
  cases table.resolve? reference with
  | ok found =>
      constructor
      · intro h
        exact congrArg Except.ok (congrArg Reported.value h)
      · rintro ⟨⟩
        rfl
  | error failure =>
      constructor
      · intro h
        cases congrArg Reported.reports h
      · nofun

/-- Resolution of a reference ends, and how it ends is decided by the chain of aliases that starts
at the name in the reference. It gives the definition that the chain leads to, fails with a loop
when the chain comes back to one of its entries, and with a dangling reference when the chain breaks
off; there is no fourth case. With reports it gives the same definition without one, or the unknown
schema with one diagnostic, which is entered in a log that does not hold it yet. -/
theorem resolve_outcome (table : Table) (subject : Option String) (reference : String) :
    (∀ name schema,
      table.resolve? reference = .ok ⟨name, schema⟩ ↔ table.LeadsTo reference name schema) ∧
    (table.FailsAs reference .referenceLoop ↔ table.Revisits reference) ∧
    (table.FailsAs reference .danglingReference ↔ table.BreaksOff reference) ∧
    ((∃ name schema, table.LeadsTo reference name schema) ∨ table.Revisits reference ∨
      table.BreaksOff reference) ∧
    (∀ resolved, table.resolve? reference = .ok resolved ↔
      table.resolve subject reference = pure resolved) ∧
    ((∃ resolved, table.resolve? reference = .ok resolved) ↔
      (table.resolve subject reference).reports = []) ∧
    ∀ failure, table.resolve? reference = .error failure →
      (table.resolve subject reference).value = .unknown ∧
      ∀ log : Log, (log.record (table.resolve subject reference).reports).entries =
        if failureDiagnostic subject failure ∈ log.entries then log.entries
        else log.entries ++ [failureDiagnostic subject failure] := by
  refine ⟨fun _ _ => resolve?_eq_ok_iff, failsAs_loop_iff, failsAs_dangling_iff, ?cases,
    fun _ => resolve_eq_pure_iff.symm, ?silent, ?failing⟩
  case cases =>
    cases hresolve : table.resolve? reference with
    | ok resolved => exact .inl ⟨_, _, resolve?_eq_ok_iff.1 hresolve⟩
    | error failure =>
        rcases fails_cases hresolve with ⟨_, hrevisits⟩ | ⟨_, hbreaks⟩
        · exact .inr (.inl hrevisits)
        · exact .inr (.inr hbreaks)
  case silent =>
    unfold resolve
    cases table.resolve? reference with
    | ok resolved => exact ⟨fun _ => rfl, fun _ => ⟨resolved, rfl⟩⟩
    | error failure => exact ⟨nofun, nofun⟩
  case failing =>
    intro failure hfailure
    rw [resolve, hfailure]
    exact ⟨rfl, fun log => apply_ite Log.entries _ _ _⟩

/-- A boat and another name of it, two names that lead to each other, and one that leads nowhere. -/
def harbour : Table :=
  ⟨[("Boat", .object ObjectShape.empty), ("Ship", .alias "#/components/schemas/Boat"),
    ("Ebb", .alias "Flood"), ("Flood", .alias "Ebb"), ("Wreck", .alias "Abyss")], by decide⟩

/-- A ship is a boat, the tide goes round, and a wreck is not found. Each failure is entered in the
log once, the second one of a kind beside the first. -/
theorem harbour_resolve_outcome :
    harbour.LeadsTo "Ship" "Boat" (.object ObjectShape.empty) ∧
    harbour.Revisits "#/components/schemas/Ebb" ∧ harbour.BreaksOff "Wreck" ∧
    harbour.resolve? "Wreck" = .error (.missing "Wreck") ∧
    (harbour.resolve (some "Sea") "Wreck").value = .unknown ∧
    let log := Log.empty.record (harbour.resolve (some "Sea") "#/components/schemas/Ebb").reports
    log.entries.length = 1 ∧
    (log.record (harbour.resolve (some "Sea") "Wreck").reports).entries =
      log.entries ++ [failureDiagnostic (some "Sea") (.missing "Wreck")] := by
  have hloop : harbour.resolve? "#/components/schemas/Ebb" =
      .error (.loop "#/components/schemas/Ebb" "Ebb") := by
    with_unfolding_all rfl
  have hmissing : harbour.resolve? "Wreck" = .error (.missing "Wreck") := by
    with_unfolding_all rfl
  have hship : harbour.resolve? "Ship" = .ok ⟨"Boat", .object ObjectShape.empty⟩ := by
    with_unfolding_all rfl
  obtain ⟨hleads, _⟩ := resolve_outcome harbour (some "Sea") "Ship"
  obtain ⟨_, hrevisits, _, _, _, _, hfirst⟩ :=
    resolve_outcome harbour (some "Sea") "#/components/schemas/Ebb"
  obtain ⟨_, _, hbreaks, _, _, _, hsecond⟩ := resolve_outcome harbour (some "Sea") "Wreck"
  obtain ⟨hunknown, hrecord⟩ := hsecond _ hmissing
  have hlog := (hfirst _ hloop).2 .empty
  refine ⟨(hleads _ _).1 hship, hrevisits.1 ⟨_, hloop, rfl⟩, hbreaks.1 ⟨_, hmissing, rfl⟩,
    hmissing, hunknown, ?_, ?_⟩
  · rw [hlog]
    rfl
  · rw [hrecord, hlog]
    exact if_neg (by decide)

end SchemaGraph.Table
