import SchemaGraph.Document.Conversion
import SchemaGraph.Document.Structure
import SchemaGraph.Naming.Identifier
import SchemaGraph.Operation.Basic

/-!
# Operations of a document

`Root.operations` lists the operations of a document in order. The parameters of an operation come
first, then those of its path item that it does not replace. A request body has one media type,
selected by format; parameters that carry a body in the older version of the format become one.
-/

namespace SchemaGraph.Document

/-- Why a reference leads to no reusable part. -/
inductive MissingPart where
  /-- The chain of references comes back to this one. -/
  | loop (reference : String)
  /-- This reference points at nothing. -/
  | missing (reference : String)
  deriving DecidableEq, Repr

namespace Root

/-- A reference of a document, as a local pointer where it names the document itself. -/
def localize (root : Root) (reference : String) : String :=
  Reference.localize root.address reference

/-- The reusable parameter at the root of the document that a pointer names as it is written. -/
def rootParameter? (root : Root) (pointer : String) : Option ParameterObject :=
  let lead := "#/parameters/".toList
  if lead.isPrefixOf pointer.toList then
    Keyed.get? root.parameters (String.ofList (pointer.toList.drop lead.length))
  else none

/-- The reusable parameter, or the reference in its place, that a pointer names. -/
def parameterAt? (root : Root) (pointer : String) : Option (OrReference ParameterObject) :=
  match root.rootParameter? pointer with
  | some parameter => some (.value parameter)
  | none =>
      (Reference.componentName? pointer "parameters").bind fun name =>
        Keyed.get? root.components.parameters name

/-- The pointers that stand in place of reusable parameters. -/
def parameterPointers (root : Root) : List String :=
  root.components.parameters.filterMap fun
    | (_, .reference reference) => some (root.localize reference)
    | _ => none

/-- The pointers other than the given one. -/
def others (pointers : List String) (pointer : String) : List String :=
  pointers.filter fun other => other ≠ pointer

/-- Setting aside a pointer of a list leaves fewer. -/
theorem length_others_lt {pointers : List String} {pointer : String} (h : pointer ∈ pointers) :
    (others pointers pointer).length < pointers.length := by
  refine List.length_filter_lt_length_iff_exists.2 ⟨pointer, h, ?_⟩
  simp

/-- Follow references from a pointer to a parameter. `unseen` are the pointers that the chain has
not yet met. -/
def followParameter (root : Root) (unseen : List String) (pointer : String) :
    Except MissingPart ParameterObject :=
  if _h : pointer ∈ unseen then
    match root.parameterAt? pointer with
    | some (.value parameter) => .ok parameter
    | some (.reference next) =>
        followParameter root (others unseen pointer) (root.localize next)
    | none => .error (.missing pointer)
  else .error (.loop pointer)
termination_by unseen.length
decreasing_by exact length_others_lt _h

/-- The parameter that a parameter or a reference stands for. -/
def resolveParameter? (root : Root) : OrReference ParameterObject →
    Except MissingPart ParameterObject
  | .value parameter => .ok parameter
  | .reference reference =>
      let pointer := root.localize reference
      root.followParameter (pointer :: root.parameterPointers) pointer

/-- The parameter that a parameter or a reference stands for. One that stands for none is reported
and left out. -/
def resolveParameter (root : Root) (subject : String) (parameter : OrReference ParameterObject) :
    Reported (Option ParameterObject) :=
  match root.resolveParameter? parameter with
  | .ok found => pure (some found)
  | .error (.loop pointer) => do
      Reported.note (some subject) (.parameterLoop pointer)
      pure none
  | .error (.missing pointer) => do
      Reported.note (some subject) (.missingParameter pointer)
      pure none

/-- The parameters that a list of parameters and references stands for. -/
def resolveParameters (root : Root) (subject : String) :
    List (OrReference ParameterObject) → Reported (List ParameterObject)
  | [] => pure []
  | parameter :: rest => do
      let found ← root.resolveParameter subject parameter
      let more ← root.resolveParameters subject rest
      pure (found.toList ++ more)

end Root

/-- What tells the parameters of an operation apart. -/
def ParameterObject.key (parameter : ParameterObject) : String × String :=
  (parameter.name, parameter.location)

/-- The first parameter of each key that is not yet among the given ones. -/
def firstOfEach : List (String × String) → List ParameterObject → List ParameterObject
  | _, [] => []
  | known, parameter :: rest =>
      if parameter.key ∈ known then firstOfEach known rest
      else parameter :: firstOfEach (parameter.key :: known) rest

/-- The type of a file in the older version of the format. -/
def fileType : String := "file"

/-- The schema of a parameter: the one given, or one made of its type, format and items. -/
def ParameterObject.schemaValue (parameter : ParameterObject) : Json :=
  match parameter.schema with
  | some schema => schema
  | none =>
      if parameter.type = some fileType then
        .object [("type", .string "string"), ("format", .string "binary")]
      else
        .object ((parameter.type.map fun type => ("type", Json.string type)).toList ++
          (parameter.format.map fun format => ("format", Json.string format)).toList ++
          (parameter.items.map fun items => ("items", items)).toList)

/-- The parameters of an operation by what becomes of them. -/
structure SortedParameters where
  /-- Parameters that stay parameters. -/
  carried : List Parameter
  /-- The parameter that is the body. The last one counts. -/
  body : Option ParameterObject
  /-- The parameters that are fields of a form. -/
  form : List ParameterObject

namespace Root

/-- Convert the schema of a parameter. -/
def convertParameter (root : Root) (subject : String) (parameter : ParameterObject) :
    Reported Converted :=
  convert root.address (some subject) parameter.schemaValue

/-- Sort the parameters of an operation. One in an unknown location is reported and left out. -/
def sortParameters (root : Root) (subject : String) :
    List ParameterObject → Reported SortedParameters
  | [] => pure ⟨[], none, []⟩
  | parameter :: rest => do
      if parameter.location = "body" then
        let sorted ← root.sortParameters subject rest
        pure ⟨sorted.carried, sorted.body.or (some parameter), sorted.form⟩
      else if parameter.location = "formData" then
        let sorted ← root.sortParameters subject rest
        pure ⟨sorted.carried, sorted.body, parameter :: sorted.form⟩
      else
        match Location.parse? parameter.location with
        | some location => do
            let converted ← root.convertParameter subject parameter
            let sorted ← root.sortParameters subject rest
            pure ⟨⟨parameter.name, location, parameter.required || location = .path,
              parameter.description, converted.use, converted.nullable⟩ :: sorted.carried,
              sorted.body, sorted.form⟩
        | none => do
            Reported.note (some subject) (.unknownLocation parameter.name parameter.location)
            root.sortParameters subject rest

end Root

/-- The first item with the least rank. -/
def firstLeast? {α : Type} (rank : α → Nat) : List α → Option α
  | [] => none
  | item :: rest =>
      match firstLeast? rank rest with
      | some best => if rank best < rank item then some best else some item
      | none => some item

/-- The rank of a media type. -/
def mediaRank (mediaType : String) : Nat :=
  (BodyFormat.ofMediaType mediaType).rank

namespace Root

/-- The request body in its preferred media type, if it has any. -/
def selectBody (root : Root) (subject : String) (body : BodyObject) :
    Reported (Option RequestBody) :=
  match firstLeast? (fun entry => mediaRank entry.1) body.content with
  | none => pure none
  | some (mediaType, schema) => do
      let use ← match schema with
        | some raw => do
            let converted ← convert root.address (some subject) raw
            pure converted.use
        | none => pure (.inline .any)
      pure (some ⟨mediaType, use, body.required, body.description⟩)

/-- The request body of an operation. A reference leads to a reusable body in one step. -/
def requestBody (root : Root) (subject : String) (body : OrReference BodyObject) :
    Reported (Option RequestBody) :=
  match body with
  | .value body => root.selectBody subject body
  | .reference reference =>
      let pointer := root.localize reference
      let found := (Reference.componentName? pointer "requestBodies").bind fun name =>
        Keyed.get? root.components.requestBodies name
      match found with
      | some (.value body) => root.selectBody subject body
      | _ => do
          Reported.note (some subject) (.missingRequestBody pointer)
          pure none

/-- The body that a parameter carries. -/
def bodyOfParameter (root : Root) (subject : String) (consumes : List String)
    (parameter : ParameterObject) : Reported RequestBody := do
  let mediaType := (firstLeast? mediaRank consumes).getD "application/json"
  let converted ← root.convertParameter subject parameter
  pure ⟨mediaType, converted.use, parameter.required, parameter.description⟩

/-- The media type of a form: the first suitable one that is consumed, or the standard one. Only a
multipart form can carry a file. -/
def formMediaType (consumes : List String) (hasFile : Bool) : String :=
  let suits (mediaType : String) : Bool :=
    match BodyFormat.ofMediaType mediaType with
    | .multipart => true
    | .form => !hasFile
    | _ => false
  (consumes.find? suits).getD
    (if hasFile then "multipart/form-data" else "application/x-www-form-urlencoded")

/-- The object whose properties are the fields of a form. -/
def formObject (root : Root) (subject : String) :
    List ParameterObject → ObjectShape → Reported ObjectShape
  | [], object => pure object
  | parameter :: rest, object => do
      let converted ← root.convertParameter subject parameter
      root.formObject subject rest
        ⟨Keyed.put object.properties parameter.name converted.use,
         if parameter.required then NameSet.add object.required parameter.name
         else object.required,
         if converted.nullable then NameSet.add object.nullable parameter.name
         else object.nullable,
         object.docs⟩

/-- The body that form parameters make together. -/
def bodyOfForm (root : Root) (subject : String) (consumes : List String)
    (form : List ParameterObject) : Reported RequestBody := do
  let hasFile := form.any fun parameter => parameter.type = some fileType
  let object ← root.formObject subject form .empty
  pure ⟨formMediaType consumes hasFile, .inline (.object object), !object.required.isEmpty, none⟩

/-- The body of an operation: its request body, or else what its parameters carry. -/
def bodyOf (root : Root) (subject : String) (operation : OperationObject)
    (sorted : SortedParameters) : Reported (Option RequestBody) :=
  let consumes := if operation.consumes.isEmpty then root.consumes else operation.consumes
  match operation.requestBody, sorted.body, sorted.form with
  | some body, _, _ => root.requestBody subject body
  | none, some parameter, _ => do
      let body ← root.bodyOfParameter subject consumes parameter
      pure (some body)
  | none, none, [] => pure none
  | none, none, form => do
      let body ← root.bodyOfForm subject consumes form
      pure (some body)

/-- The identifier of an operation: the one given, unless it is blank, or one made of method and
path. -/
def operationIdOf (path method : String) (operation : OperationObject) : String :=
  match operation.operationId with
  | some given => if Text.isBlankText given.toList then Naming.operationId method path else given
  | none => Naming.operationId method path

/-- One operation of a path item. -/
def operation (root : Root) (path method : String) (item : PathItem)
    (operation : OperationObject) : Reported Operation := do
  let subject := operationIdOf path method operation
  let own ← root.resolveParameters subject operation.parameters
  let shared ← root.resolveParameters subject item.parameters
  let sorted ← root.sortParameters subject (firstOfEach [] (own ++ shared))
  let body ← root.bodyOf subject operation sorted
  pure ⟨subject, method, path, sorted.carried, body⟩

/-- The operations of a path item. -/
def itemOperations (root : Root) (path : String) (item : PathItem) :
    List (String × OperationObject) → Reported (List Operation)
  | [] => pure []
  | (method, operation) :: rest => do
      let first ← root.operation path method item operation
      let more ← root.itemOperations path item rest
      pure (first :: more)

/-- The operations of path items. Extensions are passed over, and a path item that cannot be read is
reported and left out. -/
def pathOperations (root : Root) : List (String × Json) → Reported (List Operation)
  | [] => pure []
  | (path, raw) :: rest =>
      if "x-".toList.isPrefixOf path.toList then root.pathOperations rest
      else
        match PathItem.read? raw with
        | some item => do
            let first ← root.itemOperations path item item.operations
            let more ← root.pathOperations rest
            pure (first ++ more)
        | none => do
            Reported.note (some path) (.unreadablePathItem "unexpected structure")
            root.pathOperations rest

/-- The operations of a document in order. -/
def operations (root : Root) : Reported (List Operation) :=
  root.pathOperations root.paths

end Root

end SchemaGraph.Document
