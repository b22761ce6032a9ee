import SchemaGraph.Proofs.Document.BodyParameters
import SchemaGraph.Proofs.Document.Fields

/-!
# Parameters that make a form

In the older version of the format the form parameters of an operation make its body together, when
nothing else does. The body is an object with a property for each of them (`Root.body_of_form`), and
its media type is one in which they can all be sent (`Root.format_formMediaType`).
-/

namespace SchemaGraph.Document

variable {parameters : List ParameterObject} {parameter : ParameterObject}

/-- The parameters that are fields of a form. -/
def formParameters (parameters : List ParameterObject) : List ParameterObject :=
  parameters.filter fun parameter => parameter.location = "formData"

/-- A parameter whose type is a file. -/
def ParameterObject.isFile (parameter : ParameterObject) : Bool :=
  parameter.type = some fileType

/-- Of the parameters that are kept, no two form parameters have the same name. -/
theorem nodup_formParameters (parameters : List ParameterObject) :
    ((formParameters (firstOccurrences parameters)).map ParameterObject.name).Nodup := by
  have hkeys : ((formParameters (firstOccurrences parameters)).map ParameterObject.key).Nodup := by
    rw [← firstOfEach_eq]
    exact (nodup_firstOfEach [] parameters).sublist (List.filter_sublist.map _)
  -- All of them have one location, so it is by their names that their keys differ.
  have hkey : (formParameters (firstOccurrences parameters)).map ParameterObject.key =
      ((formParameters (firstOccurrences parameters)).map ParameterObject.name).map
        fun name => (name, "formData") := by
    rw [List.map_map]
    refine List.map_congr_left fun parameter hparameter => ?_
    have hlocation : parameter.location = "formData" :=
      of_decide_eq_true (List.mem_filter.1 hparameter).2
    exact congrArg (Prod.mk _) hlocation
  rw [hkey] at hkeys
  exact hkeys.of_map _

/-- The names of the parameters that are marked. -/
def markedNames (marked : ParameterObject → Bool) (parameters : List ParameterObject) : NameSet :=
  (parameters.filter marked).map ParameterObject.name

/-- A parameter with a new name adds it when it is marked. -/
theorem markedNames_concat (hnew : parameter.name ∉ parameters.map ParameterObject.name)
    (marked : ParameterObject → Bool) :
    markedNames marked (parameters ++ [parameter]) =
      if marked parameter then NameSet.add (markedNames marked parameters) parameter.name
      else markedNames marked parameters := by
  have hmissing : parameter.name ∉ markedNames marked parameters := fun hmem =>
    hnew ((List.filter_sublist.map _).subset hmem)
  rw [NameSet.add, if_neg hmissing]
  by_cases hmarked : marked parameter <;> simp [markedNames, hmarked]

/-- Among parameters with different names, the name of one is listed when it is marked itself. -/
theorem mem_markedNames {marked : ParameterObject → Bool}
    (hnames : (parameters.map ParameterObject.name).Nodup) (hmem : parameter ∈ parameters) :
    parameter.name ∈ markedNames marked parameters ↔ marked parameter := by
  rw [markedNames, List.mem_map]
  constructor
  · rintro ⟨other, hother, hname⟩
    obtain ⟨hother, hmarked⟩ := List.mem_filter.1 hother
    rwa [List.inj_on_of_nodup_map hnames hother hmem hname] at hmarked
  · exact fun hmarked => ⟨parameter, List.mem_filter.2 ⟨hmem, hmarked⟩, rfl⟩

namespace Root

/-- A form is sent as multipart when it has to carry a file. Otherwise it may be sent as a plain
form as well, and in no other way. -/
theorem format_formMediaType (consumes : List String) (hasFile : Bool) :
    BodyFormat.ofMediaType (formMediaType consumes hasFile) = .multipart ∨
      hasFile = false ∧ BodyFormat.ofMediaType (formMediaType consumes hasFile) = .form := by
  unfold formMediaType
  extract_lets suits
  cases hfound : consumes.find? suits with
  | some mediaType =>
      have hsuits : suits mediaType = true := List.find?_some hfound
      rw [Option.getD_some]
      simp only [suits] at hsuits
      split at hsuits
      · next hmultipart => exact .inl hmultipart
      · next hform => exact .inr ⟨by simpa using hsuits, hform⟩
      · cases hsuits
  | none =>
      -- The standard media types are formats of forms themselves.
      cases hasFile with
      | true => exact .inl (by decide +kernel)
      | false => exact .inr ⟨rfl, by decide +kernel⟩

/-- The parameters of an operation, with those of its path item that it does not replace. -/
def mergedParameters (root : Root) (item : PathItem) (operation : OperationObject) :
    List ParameterObject :=
  firstOccurrences (root.resolvedParameters operation.parameters ++
    root.resolvedParameters item.parameters)

/-- The object that form parameters with different names make. -/
def formShape (root : Root) (subject : String) (form : List ParameterObject) : ObjectShape :=
  ⟨form.map fun parameter =>
      (parameter.name, (root.convertParameter subject parameter).value.use),
    markedNames ParameterObject.required form,
    markedNames (fun parameter => (root.convertParameter subject parameter).value.nullable) form,
    Docs.none⟩

variable {root : Root} {subject : String}

/-- The properties of a form have the names of its parameters. -/
theorem keys_formShape (form : List ParameterObject) :
    Keyed.keys (root.formShape subject form).properties = form.map ParameterObject.name := by
  rw [formShape, Keyed.keys, List.map_map]
  rfl

/-- The loop over the form parameters holds the object of those that it has seen. -/
theorem value_formObject (form seen : List ParameterObject)
    (hnames : ((seen ++ form).map ParameterObject.name).Nodup) :
    (root.formObject subject form (root.formShape subject seen)).value =
      root.formShape subject (seen ++ form) := by
  induction form generalizing seen with
  | nil => rw [List.append_nil]; rfl
  | cons parameter rest ih =>
      have hnew : parameter.name ∉ seen.map ParameterObject.name := by
        rw [List.map_append] at hnames
        exact fun hmem => List.disjoint_of_nodup_append hnames hmem List.mem_cons_self
      have hkey : parameter.name ∉ Keyed.keys (root.formShape subject seen).properties := by
        rwa [keys_formShape]
      rw [List.append_cons] at hnames ⊢
      rw [← ih _ hnames, formObject, Reported.value_bind, Keyed.put_of_notMem hkey]
      conv_rhs => rw [formShape, markedNames_concat hnew, markedNames_concat hnew, List.map_append]
      rfl

/-- Without a request body and a parameter with a body, the form parameters make it. -/
theorem value_bodyOf_form {operation : OperationObject} {sorted : SortedParameters}
    (hbody : operation.requestBody = none) (hnone : sorted.body = none) (hform : sorted.form ≠ [])
    (hnames : (sorted.form.map ParameterObject.name).Nodup) :
    let consumes := if operation.consumes.isEmpty then root.consumes else operation.consumes
    let shape := root.formShape subject sorted.form
    (root.bodyOf subject operation sorted).value =
      some ⟨formMediaType consumes (sorted.form.any ParameterObject.isFile),
        .inline (.object shape), !shape.required.isEmpty, none⟩ := by
  intro consumes shape
  have hobject : (root.formObject subject sorted.form .empty).value = shape :=
    value_formObject sorted.form [] hnames
  have hform' : (root.bodyOf subject operation sorted).value =
      some (root.bodyOfForm subject consumes sorted.form).value := by
    rw [bodyOf, hbody, hnone]
    cases hcases : sorted.form with
    | nil => exact absurd hcases hform
    | cons first rest => rfl
  rw [hform', bodyOfForm, Reported.value_bind, hobject]
  rfl

/-- An operation without a request body, and without a parameter with a body, that has form
parameters. Its body is sent as a form with a property for each of them, and it is required when one
of them is. -/
theorem body_of_form (root : Root) (path method : String) (item : PathItem)
    {operation : OperationObject} (hbody : operation.requestBody = none)
    (hnone : bodyParameters (root.mergedParameters item operation) = [])
    (hform : formParameters (root.mergedParameters item operation) ≠ []) :
    let form := formParameters (root.mergedParameters item operation)
    let consumes := if operation.consumes.isEmpty then root.consumes else operation.consumes
    let shape := root.formShape (operationIdOf path method operation) form
    (root.operation path method item operation).value.body =
      some ⟨formMediaType consumes (form.any ParameterObject.isFile),
        .inline (.object shape), !shape.required.isEmpty, none⟩ := by
  intro form consumes shape
  rw [root.value_operation, root.value_sortParameters]
  refine value_bodyOf_form hbody ?none hform (nodup_formParameters _)
  case none => exact congrArg List.getLast? hnone

end Root

end SchemaGraph.Document
