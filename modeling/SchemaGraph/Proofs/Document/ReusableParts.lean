import SchemaGraph.Proofs.Document.ParameterChains
import SchemaGraph.Proofs.Pointers

/-!
# References to reusable parts

There are three places for reusable parts: parameters and request bodies among the components, and
the parameters at the root of a document in the older version of the format. A reference to each of
them is followed in a way of its own. Read `Root.reusable_parts` first: only the parameters among
the components are found under every spelling of their names and through every chain of references.
Those at the root are found under one spelling, and a request body is found in one step.
-/

namespace SchemaGraph.Document

/-- The part at the end of a chain of references, where `names` says which entry a reference
names. -/
inductive Yields {part : Type} (names : String → OrReference part → Prop) :
    OrReference part → part → Prop where
  | value (found : part) : Yields names (.value found) found
  | reference {reference : String} {entry : OrReference part} {found : part}
      (hnames : names reference entry) (hrest : Yields names entry found) :
      Yields names (.reference reference) found

namespace Root

/-- The reference points into a section of the components, and its last segment writes the name of
the entry. No entry is named when this name is empty. -/
def NamesEntry {part : Type} (root : Root) (area : String) (entries : Keyed (OrReference part))
    (reference : String) (entry : OrReference part) : Prop :=
  ∃ name, Reference.PointsInto area name (root.localize reference) ∧ name ≠ "" ∧
    Keyed.get? entries name = some entry

/-- The reference holds the name of a parameter at the root as it is, without an escape. -/
def NamesRootParameter (root : Root) (reference : String) (parameter : ParameterObject) : Prop :=
  ∃ key, root.localize reference = "#/parameters/" ++ key ∧
    Keyed.get? root.parameters key = some parameter

/-- The reference names a parameter at the root or among the components. -/
def NamesParameter (root : Root) (reference : String) (entry : OrReference ParameterObject) :
    Prop :=
  (∃ parameter, root.NamesRootParameter reference parameter ∧ entry = .value parameter) ∨
    root.NamesEntry "parameters" root.components.parameters reference entry

/-- The reference names a request body among the components. -/
def NamesBody (root : Root) (reference : String) (entry : OrReference BodyObject) : Prop :=
  root.NamesEntry "requestBodies" root.components.requestBodies reference entry

variable {root : Root} {pointer reference : String} {entry : OrReference ParameterObject}
  {parameter : ParameterObject}

/-- A pointer to a parameter at the root goes into no section of the components. -/
theorem not_pointsInto_rootPointer (area name key : String) :
    ¬ Reference.PointsInto area name ("#/parameters/" ++ key) := by
  rintro ⟨slashes, segment, hslashes, _, htext, _⟩
  rw [String.toList_append] at htext
  cases slashes with
  | nil => cases htext
  | cons first slashes =>
      cases slashes with
      | nil => cases htext
      | cons second slashes =>
          have hslash : second = '/' := hslashes second (by simp)
          subst hslash
          cases htext

/-- The parameter at the root that a pointer names. -/
theorem rootParameter?_rootPointer (root : Root) (key : String) :
    root.rootParameter? ("#/parameters/" ++ key) = Keyed.get? root.parameters key := by
  have htext : ("#/parameters/" ++ key).toList = "#/parameters/".toList ++ key.toList :=
    String.toList_append
  have hprefix : "#/parameters/".toList.isPrefixOf ("#/parameters/" ++ key).toList := by
    rw [htext]
    exact List.isPrefixOf_iff_prefix.2 (List.prefix_append _ _)
  unfold rootParameter?
  rw [if_pos hprefix, htext, List.drop_left, String.ofList_toList]

/-- A pointer to a parameter at the root starts like one. -/
theorem exists_key_of_rootParameter? (h : root.rootParameter? pointer = some parameter) :
    ∃ key, pointer = "#/parameters/" ++ key := by
  simp only [rootParameter?] at h
  split at h
  · next hprefix =>
      obtain ⟨rest, hrest⟩ := List.isPrefixOf_iff_prefix.1 hprefix
      refine ⟨String.ofList rest, String.toList_inj.1 ?_⟩
      rw [← hrest, String.toList_append]
      exact congrArg (_ ++ ·) String.toList_ofList.symm
  · cases h

/-- What stands at a pointer is what the reference names. -/
theorem parameterAt?_eq_some_iff :
    root.parameterAt? (root.localize reference) = some entry ↔
      root.NamesParameter reference entry := by
  have hslash : '/' ∉ "parameters".toList := by decide
  constructor
  · intro h
    unfold parameterAt? at h
    split at h
    · next parameter hfound =>
        obtain ⟨key, hkey⟩ := exists_key_of_rootParameter? hfound
        rw [hkey, rootParameter?_rootPointer] at hfound
        exact .inl ⟨parameter, ⟨key, hkey, hfound⟩, (Option.some.inj h).symm⟩
    · obtain ⟨name, hcomponent, hget⟩ := Option.bind_eq_some_iff.1 h
      obtain ⟨hpoints, hname⟩ := (Reference.componentName?_eq_some_iff hslash).1 hcomponent
      exact .inr ⟨name, hpoints, hname, hget⟩
  · rintro (⟨parameter, ⟨key, hkey, hget⟩, rfl⟩ | ⟨name, hpoints, hname, hget⟩)
    · rw [parameterAt?, hkey, rootParameter?_rootPointer, hget]
    · have hnone : root.rootParameter? (root.localize reference) = none := by
        refine Option.eq_none_iff_forall_ne_some.2 fun parameter hfound => ?_
        obtain ⟨key, hkey⟩ := exists_key_of_rootParameter? hfound
        exact not_pointsInto_rootPointer _ _ _ (hkey ▸ hpoints)
      have hcomponent := (Reference.componentName?_eq_some_iff hslash).2 ⟨hpoints, hname⟩
      rw [parameterAt?, hnone]
      exact Option.bind_eq_some_iff.2 ⟨name, hcomponent, hget⟩

/-- A chain leads to the parameter that it yields. -/
theorem leadsTo_of_yields (h : Yields root.NamesParameter (.reference reference) parameter) :
    root.LeadsTo (root.localize reference) parameter := by
  generalize hstart : OrReference.reference reference = start at h
  induction h generalizing reference with
  | value => cases hstart
  | @reference _ entry parameter hnames hrest ih =>
      cases hstart
      have hfound := parameterAt?_eq_some_iff.2 hnames
      cases entry with
      | value found =>
          cases hrest
          exact ⟨_, .refl, hfound⟩
      | reference onward =>
          obtain ⟨last, hchain, hlast⟩ := ih rfl
          exact ⟨last, hchain.head (refers_of_reference hfound), hlast⟩

/-- A chain yields the parameter that it leads to. -/
theorem yields_of_leadsTo (h : root.LeadsTo (root.localize reference) parameter) :
    Yields root.NamesParameter (.reference reference) parameter := by
  obtain ⟨last, hchain, hlast⟩ := h
  generalize hpointer : root.localize reference = pointer at hchain
  induction hchain using Relation.ReflTransGen.head_induction_on generalizing reference with
  | refl =>
      subst hpointer
      exact .reference (parameterAt?_eq_some_iff.1 hlast) (.value parameter)
  | head hstep _ ih =>
      subst hpointer
      obtain ⟨onward, hfound, hnext⟩ := hstep
      exact .reference (parameterAt?_eq_some_iff.1 hfound) (ih hnext)

/-- A parameter or a reference is resolved to the parameter that it yields. -/
theorem yields_iff {subject : String} :
    Yields root.NamesParameter entry parameter ↔
      root.resolveParameter subject entry = pure (some parameter) := by
  cases entry with
  | value found =>
      constructor
      · rintro ⟨⟩
        rfl
      · intro h
        cases h
        exact .value _
  | reference reference =>
      rw [resolveParameter_eq_pure_iff]
      exact ⟨leadsTo_of_yields, yields_of_leadsTo⟩

/-- A reference that points at nothing is dropped. -/
theorem resolveParameter_of_none {subject : String}
    (hnone : root.parameterAt? (root.localize reference) = none) :
    root.resolveParameter subject (.reference reference) =
      ⟨none, [⟨some subject, .missingParameter (root.localize reference)⟩]⟩ := by
  have hmissing : root.resolveParameter? (.reference reference) =
      .error (.missing (root.localize reference)) := by
    simp only [resolveParameter?]
    rw [followParameter, dif_pos List.mem_cons_self, hnone]
  rw [resolveParameter, hmissing]
  rfl

/-- A reference to the root is followed by the name as it is written. -/
theorem resolveParameter_rootPointer {subject key : String}
    (hpointer : root.localize reference = "#/parameters/" ++ key) :
    root.resolveParameter subject (.reference reference) =
      match Keyed.get? root.parameters key with
      | some parameter => pure (some parameter)
      | none => ⟨none, [⟨some subject, .missingParameter ("#/parameters/" ++ key)⟩]⟩ := by
  cases hget : Keyed.get? root.parameters key with
  | some parameter =>
      have hnames : root.NamesParameter reference (.value parameter) :=
        .inl ⟨parameter, ⟨key, hpointer, hget⟩, rfl⟩
      exact yields_iff.1 (.reference hnames (.value parameter))
  | none =>
      rw [← hpointer]
      refine resolveParameter_of_none (Option.eq_none_iff_forall_ne_some.2 ?_)
      intro entry hentry
      obtain ⟨parameter, ⟨key', hkey', hfound⟩, _⟩ | ⟨name, hpoints, _⟩ :=
        parameterAt?_eq_some_iff.1 hentry
      · rw [hpointer] at hkey'
        rw [← (String.append_right_inj _).1 hkey', hget] at hfound
        cases hfound
      · exact not_pointsInto_rootPointer _ _ _ (hpointer ▸ hpoints)

/-- What is found at a pointer to a request body is what the reference names. -/
theorem bodyAt_eq_some_iff {entry : OrReference BodyObject} :
    ((Reference.componentName? (root.localize reference) "requestBodies").bind fun name =>
      Keyed.get? root.components.requestBodies name) = some entry ↔
      root.NamesBody reference entry := by
  have hslash : '/' ∉ "requestBodies".toList := by decide
  simp only [Option.bind_eq_some_iff, Reference.componentName?_eq_some_iff hslash, NamesBody,
    NamesEntry, and_assoc]

/-- A request body is found behind its reference, and nothing is found behind two. -/
theorem requestBody_of_names {subject : String} {entry : OrReference BodyObject} :
    root.NamesBody reference entry →
      root.requestBody subject (.reference reference) =
        match entry with
        | .value body => root.requestBody subject (.value body)
        | .reference _ =>
            ⟨none, [⟨some subject, .missingRequestBody (root.localize reference)⟩]⟩ := by
  intro hnames
  simp only [requestBody, bodyAt_eq_some_iff.2 hnames]
  cases entry <;> rfl

/-- A reference that names no request body is dropped. -/
theorem requestBody_of_not_names {subject : String}
    (hmissing : ∀ entry, ¬ root.NamesBody reference entry) :
    root.requestBody subject (.reference reference) =
      ⟨none, [⟨some subject, .missingRequestBody (root.localize reference)⟩]⟩ := by
  have hnone : ((Reference.componentName? (root.localize reference) "requestBodies").bind
      fun name => Keyed.get? root.components.requestBodies name) = none :=
    Option.eq_none_iff_forall_ne_some.2 fun entry hentry =>
      hmissing entry (bodyAt_eq_some_iff.1 hentry)
  simp only [requestBody, hnone]
  rfl

/-- The three kinds of references to reusable parts. A parameter among the components is found under
every spelling of its name, unless this is empty, and through every chain of references. A parameter
at the root is found under its name as it is written, so that a name that needs an escape in the
pointer is missed. A request body among the components is found in one step: behind another
reference it is given up like a missing one, although the chain may yield a body. -/
theorem reusable_parts (root : Root) (subject : String) :
    (∀ entry parameter, Yields root.NamesParameter entry parameter ↔
      root.resolveParameter subject entry = pure (some parameter)) ∧
    (∀ reference key, root.localize reference = "#/parameters/" ++ key →
      root.resolveParameter subject (.reference reference) =
        match Keyed.get? root.parameters key with
        | some parameter => pure (some parameter)
        | none => ⟨none, [⟨some subject, .missingParameter ("#/parameters/" ++ key)⟩]⟩) ∧
    (∀ reference entry, root.NamesBody reference entry →
      root.requestBody subject (.reference reference) =
        match entry with
        | .value body => root.requestBody subject (.value body)
        | .reference _ =>
            ⟨none, [⟨some subject, .missingRequestBody (root.localize reference)⟩]⟩) ∧
    ∀ reference, (∀ entry, ¬ root.NamesBody reference entry) →
      root.requestBody subject (.reference reference) =
        ⟨none, [⟨some subject, .missingRequestBody (root.localize reference)⟩]⟩ :=
  ⟨fun _ _ => yields_iff, fun _ _ => resolveParameter_rootPointer,
    fun _ _ => requestBody_of_names, fun _ => requestBody_of_not_names⟩

/-- The size of a page in a query. -/
def pageSize : ParameterObject :=
  ⟨"size", "query", false, none, none, some "integer", none, none⟩

/-- A book as a body. -/
def bookBody : BodyObject :=
  ⟨none, [("application/json", some (.object [("type", .string "string")]))], true⟩

/-- A document with a parameter whose name has a space, at the root and among the components, where
two references lead to it one after the other, and with a body behind a reference. -/
def bookshop : Root :=
  ⟨none, some "2.0", none, none,
    ⟨[], [("page size", .value pageSize),
        ("per/page", .reference "#/components/parameters/page%20size"),
        ("limit", .reference "#/components/parameters/per~1page")],
      [("Draft", .reference "#/components/requestBodies/Book"), ("Book", .value bookBody)]⟩,
    [], [("page size", pageSize)], [], []⟩

/-- Among the components the page size is found through two references and three spellings, but at
the root only without an escape. The draft is given up like a novel that is not there, although it
is a reference to a book. -/
theorem bookshop_reusable_parts :
    let bookReference := "#/components/requestBodies/Book"
    let draftReference := "#/components/requestBodies/Draft"
    let novelReference := "#/components/requestBodies/Novel"
    bookshop.resolveParameter "list" (.reference "#/components/parameters/%6Cimit") =
      pure (some pageSize) ∧
    bookshop.localize "#/parameters/page size" = "#/parameters/" ++ "page size" ∧
    bookshop.resolveParameter "list" (.reference "#/parameters/page size") =
      pure (some pageSize) ∧
    bookshop.localize "#/parameters/page%20size" = "#/parameters/" ++ "page%20size" ∧
    Reference.decodeSegment "page%20size".toList = "page size".toList ∧
    bookshop.resolveParameter "list" (.reference "#/parameters/page%20size") =
      ⟨none, [⟨some "list", .missingParameter "#/parameters/page%20size"⟩]⟩ ∧
    bookshop.NamesBody bookReference (.value bookBody) ∧
    bookshop.requestBody "add" (.reference bookReference) =
      bookshop.requestBody "add" (.value bookBody) ∧
    bookshop.NamesBody draftReference (.reference bookReference) ∧
    Yields bookshop.NamesBody (.reference draftReference) bookBody ∧
    bookshop.requestBody "add" (.reference draftReference) =
      ⟨none, [⟨some "add", .missingRequestBody draftReference⟩]⟩ ∧
    (∀ entry, ¬ bookshop.NamesBody novelReference entry) ∧
    bookshop.requestBody "add" (.reference novelReference) =
      ⟨none, [⟨some "add", .missingRequestBody novelReference⟩]⟩ := by
  intro bookReference draftReference novelReference
  have hnames (name : String) {pointer : String} {entry : OrReference ParameterObject}
      (hcomponent : Reference.componentName? pointer "parameters" = some name)
      (hget : Keyed.get? bookshop.components.parameters name = some entry) :
      bookshop.NamesParameter pointer entry := by
    obtain ⟨hpoints, hname⟩ := (Reference.componentName?_eq_some_iff (by decide)).1 hcomponent
    exact .inr ⟨name, hpoints, hname, hget⟩
  have hyields : Yields bookshop.NamesParameter
      (.reference "#/components/parameters/%6Cimit") pageSize :=
    .reference (hnames "limit" (by decide) rfl) <|
    .reference (hnames "per/page" (by decide) rfl) <|
    .reference (hnames "page size" (by decide) rfl) (.value pageSize)
  have hbody (name : String) {pointer : String} {entry : OrReference BodyObject}
      (hcomponent : Reference.componentName? pointer "requestBodies" = some name)
      (hget : Keyed.get? bookshop.components.requestBodies name = some entry) :
      bookshop.NamesBody pointer entry := by
    obtain ⟨hpoints, hname⟩ := (Reference.componentName?_eq_some_iff (by decide)).1 hcomponent
    exact ⟨name, hpoints, hname, hget⟩
  have hbook : bookshop.NamesBody bookReference (.value bookBody) :=
    hbody "Book" (by decide) rfl
  have hdraft : bookshop.NamesBody draftReference (.reference bookReference) :=
    hbody "Draft" (by decide) rfl
  have hnovel : ∀ entry, ¬ bookshop.NamesBody novelReference entry := by
    have hcomponent : Reference.componentName? (bookshop.localize novelReference) "requestBodies" =
        some "Novel" := by decide
    intro entry hnames
    have hfound := bodyAt_eq_some_iff.2 hnames
    rw [hcomponent] at hfound
    cases hfound
  obtain ⟨hfound, hroot, _⟩ := bookshop.reusable_parts "list"
  obtain ⟨_, _, hbodies, hmissing⟩ := bookshop.reusable_parts "add"
  exact ⟨(hfound _ _).1 hyields, rfl, hroot _ "page size" rfl, rfl, by decide,
    hroot _ "page%20size" rfl, hbook, hbodies _ _ hbook, hdraft,
    .reference hdraft (.reference hbook (.value bookBody)), hbodies _ _ hdraft, hnovel,
    hmissing _ hnovel⟩

end Root

end SchemaGraph.Document
