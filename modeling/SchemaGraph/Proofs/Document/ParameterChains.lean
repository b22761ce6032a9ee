import SchemaGraph.Document.Operations
import SchemaGraph.Proofs.Paths
import SchemaGraph.Proofs.Reports

/-!
# Chains of parameter references

A reference to a parameter may lead to another reference. Which one comes next depends on how the
reference is spelled, and there are only finitely many spellings: the first one, and those that
stand in place of reusable parameters. So the walk along the chain ends although every reference is
free to name any other. Read `Root.resolveParameter_outcome` first: it says where the walk ends, and
what is reported.
-/

namespace SchemaGraph.Document.Root

/-- A reusable parameter is a reference, and `next` is the pointer that it holds. -/
def Refers (root : Root) (pointer next : String) : Prop :=
  ∃ reference, root.parameterAt? pointer = some (.reference reference) ∧
    root.localize reference = next

/-- The chain of references from a pointer leads to a parameter. -/
def LeadsTo (root : Root) (pointer : String) (parameter : ParameterObject) : Prop :=
  ∃ last, Relation.ReflTransGen root.Refers pointer last ∧
    root.parameterAt? last = some (.value parameter)

/-- The chain of references from a pointer comes back to `met`. -/
def ComesBackTo (root : Root) (pointer met : String) : Prop :=
  Relation.ReflTransGen root.Refers pointer met ∧ Relation.TransGen root.Refers met met

/-- The chain of references from a pointer leads to `last`, which points at nothing. -/
def BreaksOffAt (root : Root) (pointer last : String) : Prop :=
  Relation.ReflTransGen root.Refers pointer last ∧ root.parameterAt? last = none

/-- The walk along references, with the pointers that it has visited, and how it ends. -/
inductive Walks (root : Root) :
    List String → String → Except MissingPart ParameterObject → Prop where
  /-- A pointer is visited for the second time. -/
  | again {visited : List String} {pointer : String} (hmem : pointer ∈ visited) :
      Walks root visited pointer (.error (.loop pointer))
  /-- A pointer points at nothing. -/
  | nothing {visited : List String} {pointer : String} (hnew : pointer ∉ visited)
      (hnone : root.parameterAt? pointer = none) :
      Walks root visited pointer (.error (.missing pointer))
  /-- A pointer points at a parameter. -/
  | parameter {visited : List String} {pointer : String} {parameter : ParameterObject}
      (hnew : pointer ∉ visited) (hfound : root.parameterAt? pointer = some (.value parameter)) :
      Walks root visited pointer (.ok parameter)
  /-- A pointer points at a reference, and this is followed. -/
  | onward {visited : List String} {pointer reference : String}
      {outcome : Except MissingPart ParameterObject} (hnew : pointer ∉ visited)
      (hfound : root.parameterAt? pointer = some (.reference reference))
      (hrest : Walks root (pointer :: visited) (root.localize reference) outcome) :
      Walks root visited pointer outcome

variable {root : Root} {visited unseen : List String} {pointer next : String}
  {outcome other : Except MissingPart ParameterObject} {parameter : ParameterObject}

/-- A reference leads to one pointer. -/
theorem rightUnique_refers (root : Root) : Relator.RightUnique root.Refers := by
  rintro pointer next next' ⟨reference, hfound, rfl⟩ ⟨reference', hfound', rfl⟩
  cases hfound.symm.trans hfound'
  rfl

/-- What a reference leads to is the pointer of a reusable parameter. -/
theorem mem_parameterPointers_of_refers (h : root.Refers pointer next) :
    next ∈ root.parameterPointers := by
  obtain ⟨reference, hfound, rfl⟩ := h
  unfold parameterAt? at hfound
  split at hfound
  · cases hfound
  · obtain ⟨name, _, hget⟩ := Option.bind_eq_some_iff.1 hfound
    exact List.mem_filterMap.2 ⟨_, Keyed.mem_of_get? hget, rfl⟩

/-- The walk has one outcome. -/
theorem Walks.unique (h : root.Walks visited pointer outcome)
    (h' : root.Walks visited pointer other) : outcome = other := by
  induction h with
  | again hmem =>
      cases h' with
      | again => rfl
      | nothing hnew | parameter hnew | onward hnew => exact absurd hmem hnew
  | nothing hnew hnone =>
      cases h' with
      | again hmem => exact absurd hmem hnew
      | nothing => rfl
      | parameter _ hfound | onward _ hfound => cases hnone.symm.trans hfound
  | parameter hnew hfound =>
      cases h' with
      | again hmem => exact absurd hmem hnew
      | nothing _ hnone => cases hnone.symm.trans hfound
      | parameter _ hfound' =>
          cases hfound.symm.trans hfound'
          rfl
      | onward _ hfound' => cases hfound.symm.trans hfound'
  | onward hnew hfound _ ih =>
      cases h' with
      | again hmem => exact absurd hmem hnew
      | nothing _ hnone => cases hnone.symm.trans hfound
      | parameter _ hfound' => cases hfound.symm.trans hfound'
      | onward _ hfound' hrest =>
          cases hfound.symm.trans hfound'
          exact ih hrest

/-- Following references is the walk, as long as the pointers not yet seen are those that are not
visited. -/
theorem walks_followParameter {all : List String} (hall : root.parameterPointers ⊆ all)
    (hpointer : pointer ∈ all) (hunseen : ∀ other ∈ all, other ∈ unseen ↔ other ∉ visited) :
    root.Walks visited pointer (root.followParameter unseen pointer) := by
  induction unseen, pointer using followParameter.induct root generalizing visited with
  | case1 unseen pointer hmem parameter hfound =>
      rw [followParameter, dif_pos hmem, hfound]
      exact .parameter ((hunseen pointer hpointer).1 hmem) hfound
  | case2 unseen pointer hmem next hfound ih =>
      rw [followParameter, dif_pos hmem, hfound]
      refine .onward ((hunseen pointer hpointer).1 hmem) hfound (ih ?_ ?_)
      · exact hall (mem_parameterPointers_of_refers ⟨next, hfound, rfl⟩)
      · intro other hother
        rw [others, List.mem_filter, hunseen other hother]
        simp [and_comm]
  | case3 unseen pointer hmem hfound =>
      rw [followParameter, dif_pos hmem, hfound]
      exact .nothing ((hunseen pointer hpointer).1 hmem) hfound
  | case4 unseen pointer hmem =>
      rw [followParameter, dif_neg hmem]
      exact .again (by_contra fun hnew => hmem ((hunseen pointer hpointer).2 hnew))

/-- The walk along the references of a reference ends, and it ends as resolution says. -/
theorem walks_resolveParameter? (root : Root) (reference : String) :
    root.Walks [] (root.localize reference)
      (root.resolveParameter? (.reference reference)) := by
  refine walks_followParameter (List.subset_cons_self _ _) List.mem_cons_self ?_
  intro other hother
  simp [hother]

/-- A reference leads on from where it stands. -/
theorem refers_of_reference {reference : String}
    (hfound : root.parameterAt? pointer = some (.reference reference)) :
    root.Refers pointer (root.localize reference) :=
  ⟨reference, hfound, rfl⟩

/-- A parameter ends the chain. -/
theorem not_refers_of_value (hfound : root.parameterAt? pointer = some (.value parameter)) :
    ∀ next, ¬ root.Refers pointer next := by
  rintro next ⟨_, hreference, _⟩
  cases hfound.symm.trans hreference

/-- A pointer to nothing ends the chain. -/
theorem not_refers_of_none (hnone : root.parameterAt? pointer = none) :
    ∀ next, ¬ root.Refers pointer next := by
  rintro next ⟨_, hreference, _⟩
  cases hnone.symm.trans hreference

/-- Where a chain of references ends. -/
inductive Ends (root : Root) (pointer : String) : Except MissingPart ParameterObject → Prop where
  | parameter {parameter : ParameterObject} (h : root.LeadsTo pointer parameter) :
      Ends root pointer (.ok parameter)
  | loop {met : String} (h : root.ComesBackTo pointer met) :
      Ends root pointer (.error (.loop met))
  | nothing {last : String} (h : root.BreaksOffAt pointer last) :
      Ends root pointer (.error (.missing last))

/-- What comes behind a reference is the end of its chain too. -/
theorem Ends.head (h : root.Ends next outcome) (hstep : root.Refers pointer next) :
    root.Ends pointer outcome := by
  cases h with
  | parameter h =>
      obtain ⟨last, hchain, hfound⟩ := h
      exact .parameter ⟨last, hchain.head hstep, hfound⟩
  | loop h => exact .loop ⟨h.1.head hstep, h.2⟩
  | nothing h => exact .nothing ⟨h.1.head hstep, h.2⟩

/-- The walk ends where the chain does, as long as the chain has come from the visited pointers. -/
theorem Walks.ends (h : root.Walks visited pointer outcome)
    (hvisited : ∀ met ∈ visited, Relation.TransGen root.Refers met pointer) :
    root.Ends pointer outcome := by
  induction h with
  | again hmem => exact .loop ⟨.refl, hvisited _ hmem⟩
  | nothing _ hnone => exact .nothing ⟨.refl, hnone⟩
  | parameter _ hfound => exact .parameter ⟨_, .refl, hfound⟩
  | @onward visited pointer reference outcome _ hfound _ ih =>
      have hstep := refers_of_reference hfound
      refine (ih ?_).head hstep
      intro met hmet
      rcases List.mem_cons.1 hmet with rfl | hmem
      · exact .single hstep
      · exact (hvisited met hmem).tail hstep

/-- A chain that leads to a parameter does not come back. -/
theorem LeadsTo.not_comesBackTo {met : String} (h : root.LeadsTo pointer parameter) :
    ¬ root.ComesBackTo pointer met := by
  obtain ⟨last, hchain, hfound⟩ := h
  rintro ⟨hmet, hcycle⟩
  exact not_returns_on_chain root.rightUnique_refers hchain (not_refers_of_value hfound) hmet hcycle

/-- A chain that breaks off does not come back. -/
theorem BreaksOffAt.not_comesBackTo {last met : String} (h : root.BreaksOffAt pointer last) :
    ¬ root.ComesBackTo pointer met := by
  obtain ⟨hchain, hnone⟩ := h
  rintro ⟨hmet, hcycle⟩
  exact not_returns_on_chain root.rightUnique_refers hchain (not_refers_of_none hnone) hmet hcycle

/-- A chain that leads to a parameter does not break off. -/
theorem LeadsTo.not_breaksOffAt {last : String} (h : root.LeadsTo pointer parameter) :
    ¬ root.BreaksOffAt pointer last := by
  obtain ⟨last', hchain, hfound⟩ := h
  rintro ⟨hchain', hnone⟩
  have hsame := end_unique root.rightUnique_refers hchain (not_refers_of_value hfound) hchain'
    (not_refers_of_none hnone)
  rw [hsame, hnone] at hfound
  cases hfound

/-- A chain breaks off at one pointer. -/
theorem BreaksOffAt.unique {last last' : String} (h : root.BreaksOffAt pointer last)
    (h' : root.BreaksOffAt pointer last') : last = last' :=
  end_unique root.rightUnique_refers h.1 (not_refers_of_none h.2) h'.1 (not_refers_of_none h'.2)

/-- A chain leads to one parameter. -/
theorem LeadsTo.unique {parameter' : ParameterObject} (h : root.LeadsTo pointer parameter)
    (h' : root.LeadsTo pointer parameter') : parameter = parameter' := by
  obtain ⟨last, hchain, hfound⟩ := h
  obtain ⟨last', hchain', hfound'⟩ := h'
  obtain rfl := end_unique root.rightUnique_refers hchain (not_refers_of_value hfound) hchain'
    (not_refers_of_value hfound')
  cases hfound.symm.trans hfound'
  rfl

/-- The reference is dropped, and one diagnostic says why. -/
def DropsWith (result : Reported (Option ParameterObject)) (diagnostic : Diagnostic) : Prop :=
  result.value = none ∧ result.reports.map Report.diagnostic = [diagnostic]

/-- The error of a chain that comes back to a pointer. -/
def loopError (subject met : String) : Diagnostic :=
  ⟨.referenceLoop, .error, some subject, "parameter reference '" ++ met ++ "' loops"⟩

/-- The warning of a chain that breaks off at a pointer. -/
def danglingWarning (subject last : String) : Diagnostic :=
  ⟨.danglingReference, .warning, some subject,
    "parameter reference '" ++ last ++ "' does not resolve; dropped"⟩

/-- What is dropped is not found. -/
theorem DropsWith.ne_pure {result : Reported (Option ParameterObject)} {diagnostic : Diagnostic}
    (h : DropsWith result diagnostic) : result ≠ pure (some parameter) := by
  rintro rfl
  cases h.1

/-- The diagnostic of what is dropped is the only one. -/
theorem DropsWith.unique {result : Reported (Option ParameterObject)}
    {diagnostic diagnostic' : Diagnostic} (h : DropsWith result diagnostic)
    (h' : DropsWith result diagnostic') : diagnostic = diagnostic' :=
  List.singleton_inj.1 (h.2.symm.trans h'.2)

/-- A warning names the pointer at which the chain breaks off. -/
theorem danglingWarning_injective (subject : String) :
    Function.Injective (danglingWarning subject) := by
  intro last other h
  have hmessage := congrArg Diagnostic.message h
  exact (String.append_right_inj _).1 ((String.append_left_inj _).1 hmessage)

variable {subject reference : String}

/-- What becomes of a reference, by the end of its chain. -/
theorem resolveParameter_cases (root : Root) (subject reference : String) :
    let pointer := root.localize reference
    let result := root.resolveParameter subject (.reference reference)
    (∃ parameter, root.LeadsTo pointer parameter ∧ result = pure (some parameter)) ∨
    (∃ met, root.ComesBackTo pointer met ∧ DropsWith result (loopError subject met)) ∨
    ∃ last, root.BreaksOffAt pointer last ∧ DropsWith result (danglingWarning subject last) := by
  intro pointer result
  have hends : root.Ends pointer (root.resolveParameter? (.reference reference)) :=
    (root.walks_resolveParameter? reference).ends fun _ hmem => absurd hmem List.not_mem_nil
  simp only [result, resolveParameter]
  cases houtcome : root.resolveParameter? (.reference reference) with
  | ok parameter =>
      rw [houtcome] at hends
      cases hends with
      | parameter h => exact .inl ⟨parameter, h, rfl⟩
  | error failure =>
      rw [houtcome] at hends
      cases hends with
      | @loop met h => exact .inr (.inl ⟨met, h, rfl, rfl⟩)
      | @nothing last h => exact .inr (.inr ⟨last, h, rfl, rfl⟩)

/-- A parameter is found, and nothing reported, exactly where the chain leads to it. -/
theorem resolveParameter_eq_pure_iff :
    root.resolveParameter subject (.reference reference) = pure (some parameter) ↔
      root.LeadsTo (root.localize reference) parameter := by
  have hcases := root.resolveParameter_cases subject reference
  constructor
  · intro hresult
    obtain ⟨parameter', h', hresult'⟩ | ⟨met, _, hdrops⟩ | ⟨last, _, hdrops⟩ := hcases
    · cases hresult.symm.trans hresult'
      exact h'
    · exact absurd hresult hdrops.ne_pure
    · exact absurd hresult hdrops.ne_pure
  · intro h
    obtain ⟨parameter', h', hresult⟩ | ⟨met, h', _⟩ | ⟨last, h', _⟩ := hcases
    · rwa [h.unique h']
    · exact absurd h' h.not_comesBackTo
    · exact absurd h' h.not_breaksOffAt

/-- Following a reference to a parameter ends, and the chain of references that starts there decides
how: with the parameter that the chain leads to, and without a report; with an error when the chain
comes back to a pointer that it has met, which the error names; or with a warning that names the
pointer at which the chain breaks off. There is no other case, and no two of them come together. -/
theorem resolveParameter_outcome (root : Root) (subject reference : String) :
    let pointer := root.localize reference
    let result := root.resolveParameter subject (.reference reference)
    (∀ outcome, root.Walks [] pointer outcome ↔
      root.resolveParameter? (.reference reference) = outcome) ∧
    (∀ parameter, root.LeadsTo pointer parameter ↔ result = pure (some parameter)) ∧
    ((∃ met, root.ComesBackTo pointer met) ↔
      ∃ met, root.ComesBackTo pointer met ∧ DropsWith result (loopError subject met)) ∧
    (∀ last, root.BreaksOffAt pointer last ↔ DropsWith result (danglingWarning subject last)) ∧
    ((∃ parameter, root.LeadsTo pointer parameter) ∨ (∃ met, root.ComesBackTo pointer met) ∨
      ∃ last, root.BreaksOffAt pointer last) := by
  intro pointer result
  have hwalk := root.walks_resolveParameter? reference
  have hcases := root.resolveParameter_cases subject reference
  refine ⟨fun outcome => ⟨hwalk.unique, fun h => h ▸ hwalk⟩,
    fun _ => resolveParameter_eq_pure_iff.symm, ?loop, fun last => ?nothing, ?cases⟩
  case loop =>
    constructor
    · rintro ⟨met, h⟩
      obtain ⟨parameter, h', _⟩ | hloop | ⟨last, h', _⟩ := hcases
      · exact absurd h h'.not_comesBackTo
      · exact hloop
      · exact absurd h h'.not_comesBackTo
    · rintro ⟨met, h, _⟩
      exact ⟨met, h⟩
  case nothing =>
    constructor
    · intro h
      obtain ⟨parameter, h', _⟩ | ⟨met, h', _⟩ | ⟨last', h', hdrops⟩ := hcases
      · exact absurd h h'.not_breaksOffAt
      · exact absurd h' h.not_comesBackTo
      · rwa [h.unique h']
    · intro hdrops
      obtain ⟨parameter, _, hresult⟩ | ⟨met, _, hdrops'⟩ | ⟨last', h', hdrops'⟩ := hcases
      · exact absurd hresult hdrops.ne_pure
      · cases congrArg Diagnostic.kind (hdrops.unique hdrops')
      · rwa [danglingWarning_injective subject (hdrops.unique hdrops')]
  case cases =>
    obtain ⟨parameter, h, _⟩ | ⟨met, h, _⟩ | ⟨last, h, _⟩ := hcases
    · exact .inl ⟨parameter, h⟩
    · exact .inr (.inl ⟨met, h⟩)
    · exact .inr (.inr ⟨last, h⟩)

/-- A document whose only reusable parameter is a reference to itself in another spelling. -/
def mirror : Root :=
  ⟨none, none, none, none,
    ⟨[], [("A", .reference "#/components/parameters/%41")], []⟩, [], [], [], []⟩

/-- Both spellings lead to the same entry, and the chain comes back when the second one is met
again. -/
example : (mirror.resolveParameter "get" (.reference "#/components/parameters/A")).reports =
    [⟨some "get", .parameterLoop "#/components/parameters/%41"⟩] := by
  decide +kernel

end SchemaGraph.Document.Root
