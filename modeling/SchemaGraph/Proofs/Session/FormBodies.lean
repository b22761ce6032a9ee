import SchemaGraph.Proofs.Document.FormParameters
import SchemaGraph.Proofs.Session.FormFields

/-!
# The fields of form parameters

Form parameters make a body, the body has an object as its schema, and the fields of the body are
the properties of this object. `Document.Root.operation_of_form` follows a parameter through all of
this: each becomes one field, and one that is a file becomes a field for a file attachment, whatever
media types the operation consumes.
-/

namespace SchemaGraph

/-- The field that a property of an object becomes. -/
structure Catalog.FieldOf (catalog : Catalog) (subject : String) (payload : Payload)
    (object : ObjectShape) (property : String × SchemaUse) (field : FieldRecord) : Prop where
  name : field.name = property.1
  required : field.required = object.required.contains property.1
  nullable : field.nullable = object.nullable.contains property.1
  type : field.type = (catalog.mapper.typeOf payload (some subject) property.2).value

/-- An object in place has a field for each property, in order. -/
theorem Catalog.fieldOf_bodyFields (catalog : Catalog) (subject : String) (payload : Payload)
    (object : ObjectShape) :
    List.Forall₂ (catalog.FieldOf subject payload object) object.properties
      (catalog.bodyFields subject payload (.inline (.object object))).value := by
  have hfound : (catalog.bodyObject? subject (.inline (.object object))).value = some object := rfl
  rw [bodyFields, Reported.value_bind, hfound]
  dsimp only
  rw [Reported.value_forAll, ← catalog.map_fst_identified object, List.forall₂_map_left_iff,
    List.forall₂_map_right_iff, List.forall₂_same]
  exact fun _ _ => ⟨rfl, rfl, rfl, rfl⟩

namespace Document.Root

/-- The field that a form parameter becomes. -/
structure BecomesField (root : Root) (catalog : Catalog) (subject : String) (payload : Payload)
    (parameter : ParameterObject) (field : FieldRecord) : Prop where
  name : field.name = parameter.name
  required : field.required = parameter.required
  nullable : field.nullable = (root.convertParameter subject parameter).value.nullable
  type : field.type =
    (catalog.mapper.typeOf payload (some subject)
      (root.convertParameter subject parameter).value.use).value

variable {root : Root} {catalog : Catalog} {subject : String} {payload : Payload}
  {form : List ParameterObject} {parameter : ParameterObject} {field : FieldRecord}

/-- The field of a parameter's property is the one that the parameter becomes. -/
theorem becomesField_of_fieldOf (hnames : (form.map ParameterObject.name).Nodup)
    (hmem : parameter ∈ form)
    (hfield : catalog.FieldOf subject payload (root.formShape subject form)
      (parameter.name, (root.convertParameter subject parameter).value.use) field) :
    root.BecomesField catalog subject payload parameter field where
  name := hfield.name
  required := by
    rw [hfield.required, Bool.eq_iff_iff, List.contains_iff_mem]
    exact mem_markedNames hnames hmem
  nullable := by
    rw [hfield.nullable, Bool.eq_iff_iff, List.contains_iff_mem]
    exact mem_markedNames hnames hmem
  type := hfield.type

/-- A form has a field for each of its parameters, in order. -/
theorem becomesField_formShape (root : Root) (catalog : Catalog) (subject : String)
    (payload : Payload) (hnames : (form.map ParameterObject.name).Nodup) :
    List.Forall₂ (root.BecomesField catalog subject payload) form
      (catalog.bodyFields subject payload
        (.inline (.object (root.formShape subject form)))).value := by
  have hfields :=
    catalog.fieldOf_bodyFields subject payload (root.formShape subject form)
  rw [formShape, List.forall₂_map_left_iff] at hfields
  exact ((List.forall₂_and_left _ _).2 ⟨fun _ hmem => hmem, hfields⟩).imp fun parameter field h =>
    becomesField_of_fieldOf hnames h.1 h.2

/-- A file without a schema of its own is converted to bytes. -/
theorem use_convertParameter_of_file (root : Root) (subject : String)
    (htype : parameter.type = some fileType) (hschema : parameter.schema = none) :
    (root.convertParameter subject parameter).value.use =
      .inline (.scalar ⟨.string, some "binary", [], Docs.none⟩) := by
  rw [convertParameter, ParameterObject.schemaValue, hschema, htype]
  rfl

/-- In a multipart form, a file without a schema of its own becomes a file attachment. -/
theorem BecomesField.attachment (h : root.BecomesField catalog subject .multipart parameter field)
    (htype : parameter.type = some fileType) (hschema : parameter.schema = none) :
    field.type = .fileAttachment := by
  rw [h.type, use_convertParameter_of_file root subject htype hschema]
  rfl

/-- An operation that has form parameters, but neither a request body nor a parameter with a body.
Its body is a form, and a multipart one when a parameter is a file, whatever media types are
consumed. Its schema is an object in place with a property for each form parameter, in the order in
which they are merged. In every record of the operation the body has one field for each form
parameter, in the same order and with its name, its marks and its type, and a file without a schema
of its own is a file attachment there. -/
theorem operation_of_form (root : Root) (path method : String) (item : PathItem)
    (operation : OperationObject) (hbody : operation.requestBody = none)
    (hnone : bodyParameters (root.mergedParameters item operation) = [])
    (hform : formParameters (root.mergedParameters item operation) ≠ []) :
    let subject := operationIdOf path method operation
    let form := formParameters (root.mergedParameters item operation)
    let made := (root.operation path method item operation).value
    let shape := root.formShape subject form
    ∃ body, made.body = some body ∧
      ((∃ parameter ∈ form, parameter.type = some fileType) → body.format = .multipart) ∧
      (body.format = .multipart ∨ body.format = .form) ∧
      body.schema = .inline (.object shape) ∧
      shape.properties = (form.map fun parameter =>
        (parameter.name, (root.convertParameter subject parameter).value.use)) ∧
      ∀ catalog : Catalog, ∃ record, (catalog.operationRecord made).value.body = some record ∧
        record.format = body.format ∧
        List.Forall₂ (fun parameter field =>
          root.BecomesField catalog subject body.format.payload parameter field ∧
          (parameter.type = some fileType → parameter.schema = none →
            field.type = .fileAttachment)) form record.fields := by
  intro subject form made shape
  obtain ⟨body, hmade, hschema, hformat⟩ : ∃ body, made.body = some body ∧
      body.schema = .inline (.object shape) ∧ (body.format = .multipart ∨
        form.any ParameterObject.isFile = false ∧ body.format = .form) :=
    ⟨_, root.body_of_form path method item hbody hnone hform, rfl, format_formMediaType _ _⟩
  have hmultipart (hfile : ∃ parameter ∈ form, parameter.type = some fileType) :
      body.format = .multipart := by
    refine hformat.resolve_right fun hplain => ?_
    obtain ⟨parameter, hmem, htype⟩ := hfile
    exact List.any_eq_false.1 hplain.1 parameter hmem (decide_eq_true htype)
  have hsubject : made.operationId = subject := by
    simp only [made, root.value_operation]
    rfl
  refine ⟨body, hmade, hmultipart, hformat.imp_right And.right, hschema, rfl, fun catalog => ?_⟩
  refine ⟨(catalog.bodyRecord subject body).value, ?found, catalog.format_bodyRecord subject body,
    ?fields⟩
  case found =>
    rw [Catalog.value_operationRecord, hmade, hsubject]
    rfl
  case fields =>
    have hlisted : body.format.listsFields := by
      rcases hformat with h | ⟨_, h⟩ <;> rw [h] <;> rfl
    rw [Catalog.fields_bodyRecord hlisted, hschema]
    have hbecome := root.becomesField_formShape catalog subject body.format.payload
      (nodup_formParameters _ : (form.map ParameterObject.name).Nodup)
    refine ((List.forall₂_and_left _ _).2 ⟨fun _ hmem => hmem, hbecome⟩).imp ?_
    rintro parameter field ⟨hmem, hfield⟩
    refine ⟨hfield, fun htype hplain => ?_⟩
    rw [hmultipart ⟨parameter, hmem, htype⟩] at hfield
    exact hfield.attachment htype hplain

/-- A form parameter of a type. -/
def formField (name type : String) (required : Bool) : ParameterObject :=
  ⟨name, "formData", required, none, none, some type, none, none⟩

/-- An operation that shares an image with its caption. It only consumes other media types than
multipart. -/
def shareImage : OperationObject :=
  ⟨some "share", [.value (formField "image" "file" true),
    .value (formField "caption" "string" false)], none,
    ["application/json", "application/x-www-form-urlencoded"]⟩

/-- A path item whose operations take an album and a required caption. -/
def albumItem : PathItem :=
  ⟨[.value (formField "caption" "string" true), .value (formField "album" "integer" true)], []⟩

/-- The image is an attachment in a multipart form. The caption is that of the operation, and the
album of the path item comes last. -/
theorem shareImage_operation_of_form :
    let made := (shop.operation "/images" "POST" albumItem shareImage).value
    shareImage.requestBody = none ∧
    bodyParameters (shop.mergedParameters albumItem shareImage) = [] ∧
    formParameters (shop.mergedParameters albumItem shareImage) ≠ [] ∧
    made.body.map RequestBody.format = some .multipart ∧
    ∀ catalog : Catalog, ∃ record, (catalog.operationRecord made).value.body = some record ∧
      record.fields.map (fun field => (field.name, field.required, field.type)) =
        [("image", true, .fileAttachment), ("caption", false, .scalar .string none),
          ("album", true, .scalar .integer none)] := by
  intro made
  have hform : formParameters (shop.mergedParameters albumItem shareImage) =
      [formField "image" "file" true, formField "caption" "string" false,
        formField "album" "integer" true] := rfl
  have hbody : shareImage.requestBody = none := rfl
  have hnone : bodyParameters (shop.mergedParameters albumItem shareImage) = [] := rfl
  have hsome : formParameters (shop.mergedParameters albumItem shareImage) ≠ [] :=
    List.cons_ne_nil _ _
  obtain ⟨body, hmade, hmultipart, _, _, _, hrecords⟩ :=
    shop.operation_of_form "/images" "POST" albumItem shareImage hbody hnone hsome
  refine ⟨hbody, hnone, hsome, ?format, fun catalog => ?fields⟩
  case format =>
    rw [hmade]
    exact congrArg some (hmultipart ⟨_, List.mem_cons_self, rfl⟩)
  case fields =>
    obtain ⟨record, hrecord, _, hfields⟩ := hrecords catalog
    refine ⟨record, hrecord, ?_⟩
    rw [hform] at hfields
    generalize record.fields = fields at hfields
    obtain _ | ⟨⟨himage, hfile⟩, _ | ⟨⟨hcaption, _⟩, _ | ⟨⟨halbum, _⟩, _ | _⟩⟩⟩ := hfields
    simp only [List.map_cons, List.map_nil, himage.name, himage.required, hfile rfl rfl,
      hcaption.name, hcaption.required, hcaption.type, halbum.name, halbum.required, halbum.type]
    rfl

end Document.Root

end SchemaGraph
