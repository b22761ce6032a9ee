import SchemaGraph.Proofs.Links.Attachments
import SchemaGraph.Proofs.Reports

/-!
# One schema under two payloads

The same schema may be used in a field of a multipart body and in any other place. Read
`TypeMapper.typeOf_payloads` first: working out a type always comes to an end, and what it comes to
under the two payloads differs in the bytes that are not below a map, and in nothing else. `Maps`
gives the rules by which a type is worked out, and `inMultipart` what another payload changes in it.
-/

namespace SchemaGraph

/-- The two ways from a type into what it is made of. -/
inductive Layer where
  /-- From a list to its items. -/
  | item
  /-- From a map to its values. -/
  | value
  deriving DecidableEq, Repr

namespace TypeRef

/-- What stands in a type at a place, given by the layers above it. -/
def part? : TypeRef → List Layer → Option TypeRef
  | type, [] => some type
  | .list item, .item :: place => item.part? place
  | .map value, .value :: place => value.part? place
  | _, _ :: _ => none

/-- The type with a buffer in place of each file attachment. -/
def withBuffers : TypeRef → TypeRef
  | .fileAttachment => .byteBuffer
  | .list item => .list item.withBuffers
  | .map value => .map value.withBuffers
  | type => type

/-- The type with a file attachment in place of each buffer that is not below a map. -/
def inMultipart : TypeRef → TypeRef
  | .byteBuffer => .fileAttachment
  | .list item => .list item.inMultipart
  | type => type

variable {part type : TypeRef} {place : List Layer}

/-- What stands at a place of a type is within it. -/
theorem within_of_part? (h : type.part? place = some part) : Within part type := by
  fun_induction part? type place with
  | case1 type =>
      cases h
      exact .self
  | case2 item place ih => exact .list (ih h)
  | case3 value place ih => exact .map (ih h)
  | case4 => cases h

/-- A type without file attachments is its own version with buffers. -/
theorem withBuffers_eq_self (h : ¬ type.HoldsFile) : type.withBuffers = type := by
  induction type with
  | fileAttachment => exact absurd .self h
  | list item ih => rw [withBuffers, ih fun hitem => h (.list hitem)]
  | map value ih => rw [withBuffers, ih fun hvalue => h (.map hvalue)]
  | model | scalar | byteBuffer | any | unknown => rfl

/-- The files that another payload brings in are buffers without it. -/
theorem withBuffers_inMultipart (h : ¬ type.HoldsFile) : type.inMultipart.withBuffers = type := by
  induction type with
  | fileAttachment => exact absurd .self h
  | list item ih => rw [inMultipart, withBuffers, ih fun hitem => h (.list hitem)]
  -- Below a map nothing is changed, and there is no file to begin with.
  | map value => exact withBuffers_eq_self h
  | model | scalar | byteBuffer | any | unknown => rfl

/-- The files that another payload brings in stand in the places of buffers, below lists only. -/
theorem part?_inMultipart_eq_file_iff (h : ¬ type.HoldsFile) :
    type.inMultipart.part? place = some .fileAttachment ↔
      type.part? place = some .byteBuffer ∧ .value ∉ place := by
  induction type generalizing place with
  | fileAttachment => exact absurd .self h
  | byteBuffer => cases place <;> simp [inMultipart, part?]
  | list item ih =>
      cases place with
      | nil => simp [inMultipart, part?]
      | cons layer place =>
          have hitem : ¬ item.HoldsFile := fun hfile => h (.list hfile)
          cases layer with
          | item => simpa [inMultipart, part?] using ih hitem
          | value => simp [inMultipart, part?]
  | map value =>
      have hnone : TypeRef.part? (.map value) place ≠ some .fileAttachment :=
        fun hpart => h (within_of_part? hpart)
      cases place with
      | nil => simp [inMultipart, part?]
      | cons layer place => cases layer <;> simp_all [inMultipart, part?]
  | model | scalar | any | unknown => cases place <;> simp [inMultipart, part?]

end TypeRef

namespace TypeMapper

variable {mapper : TypeMapper} {subject : Option String}

/-- The rules by which the type of a schema is worked out at the place where it is used, with the
reports that are made on the way. An entry that has a class is used through it, and every other one
as if it stood in place. -/
inductive Maps (mapper : TypeMapper) (subject : Option String) :
    Payload → SchemaUse → Reported TypeRef → Prop where
  | scalar (payload leaf) :
      Maps mapper subject payload (.inline (.scalar leaf)) (pure (scalarType payload leaf))
  | array (payload items result) :
      Maps mapper subject payload items result →
      Maps mapper subject payload (.inline (.array items)) (.list <$> result)
  /-- The values of a map are in no field of the body. -/
  | map (payload values result) :
      Maps mapper subject .plain values result →
      Maps mapper subject payload (.inline (.map values)) (.map <$> result)
  | alias (payload reference result) :
      Maps mapper subject payload (.named reference) result →
      Maps mapper subject payload (.inline (.alias reference)) result
  | single (payload member discriminator docs result) :
      Maps mapper subject payload member result →
      Maps mapper subject payload
        (.inline (.composition ⟨.allOf, [member], discriminator, docs⟩)) result
  | composition (payload parts) :
      (∀ member, parts.kind = .allOf → parts.members ≠ [member]) →
      Maps mapper subject payload (.inline (.composition parts)) (pure .any)
  | object (payload shape) :
      Maps mapper subject payload (.inline (.object shape)) (pure .any)
  | any (payload) : Maps mapper subject payload (.inline .any) (pure .any)
  | unknown (payload) : Maps mapper subject payload (.inline .unknown) (pure .unknown)
  | ofClass (payload reference resolved reports) :
      mapper.table.resolve subject reference = ⟨resolved, reports⟩ → resolved.schema.hasClass →
      Maps mapper subject payload (.named reference) ⟨mapper.modelType resolved.name, reports⟩
  | inPlace (payload reference resolved reports result) :
      mapper.table.resolve subject reference = ⟨resolved, reports⟩ → ¬ resolved.schema.hasClass →
      Maps mapper subject payload (.inline resolved.schema) result →
      Maps mapper subject payload (.named reference)
        ⟨result.value, reports ++ result.reports⟩

/-- A reference to an entry that has a class gives this class. -/
theorem referenceType_ofClass {payload : Payload} {reference : String} {resolved : Resolved}
    {reports : List Report}
    (hresolve : mapper.table.resolve subject reference = ⟨resolved, reports⟩)
    (hclass : resolved.schema.hasClass) :
    mapper.referenceType payload subject reference =
      ⟨mapper.modelType resolved.name, reports⟩ := by
  obtain ⟨name, schema⟩ := resolved
  have htype : mapper.resolvedType payload ⟨name, schema⟩ = mapper.modelType name := by
    cases schema with
    | scalar leaf => exact if_pos hclass
    | array | map | object | composition => rfl
    | «alias» | any | unknown => cases hclass
  rw [referenceType, hresolve]
  simp [Bind.bind, Pure.pure, htype]

/-- Resolution does not end at an alias. -/
theorem isDefinition_resolve (table : Table) (subject : Option String) (reference : String) :
    (table.resolve subject reference).value.schema.IsDefinition := by
  rw [Table.value_resolve]
  cases hresolve : table.resolve? reference with
  | ok resolved => exact (Table.resolve?_eq_ok_iff.1 hresolve).isDefinition
  | error failure => nofun

/-- A reference to an entry without a class gives the type of this entry in place. -/
theorem referenceType_inPlace {payload : Payload} {reference : String} {resolved : Resolved}
    {reports : List Report}
    (hresolve : mapper.table.resolve subject reference = ⟨resolved, reports⟩)
    (hclass : ¬ resolved.schema.hasClass) :
    mapper.referenceType payload subject reference =
      ⟨(mapper.schemaType payload subject resolved.schema).value,
        reports ++ (mapper.schemaType payload subject resolved.schema).reports⟩ := by
  have hdefinition := isDefinition_resolve mapper.table subject reference
  rw [hresolve] at hdefinition
  obtain ⟨name, schema⟩ := resolved
  have htype : mapper.schemaType payload subject schema =
      pure (mapper.resolvedType payload ⟨name, schema⟩) := by
    cases schema with
    | scalar leaf =>
        have henum : leaf.isEnum = false := Bool.eq_false_iff.2 hclass
        simp [schemaType, resolvedType, henum]
    | any | unknown => rw [schemaType, resolvedType]
    | «alias» onward => exact absurd rfl (hdefinition onward)
    | array | map | object | composition => exact absurd rfl hclass
  rw [referenceType, hresolve, htype]
  rfl

/-- An entry without a class is worked out by a rule of its own. -/
theorem maps_schema_inPlace {payload : Payload} {schema : Schema} (h : schema.IsDefinition)
    (hclass : ¬ schema.hasClass) :
    mapper.Maps subject payload (.inline schema) (mapper.schemaType payload subject schema) := by
  cases schema with
  | scalar leaf =>
      rw [schemaType]
      exact .scalar payload leaf
  | any =>
      rw [schemaType]
      exact .any payload
  | unknown =>
      rw [schemaType]
      exact .unknown payload
  | «alias» onward => exact absurd rfl (h onward)
  | array | map | object | composition => exact absurd rfl hclass

/-- The type of a reference is worked out by the rules. -/
theorem maps_referenceType (mapper : TypeMapper) (subject : Option String) (payload : Payload)
    (reference : String) :
    mapper.Maps subject payload (.named reference)
      (mapper.referenceType payload subject reference) := by
  have hdefinition := isDefinition_resolve mapper.table subject reference
  generalize hresolve : mapper.table.resolve subject reference = found at hdefinition
  obtain ⟨resolved, reports⟩ := found
  by_cases hclass : resolved.schema.hasClass
  · rw [referenceType_ofClass hresolve hclass]
    exact .ofClass payload reference resolved reports hresolve hclass
  · rw [referenceType_inPlace hresolve hclass]
    exact .inPlace payload reference resolved reports _ hresolve hclass
      (maps_schema_inPlace hdefinition hclass)

/-- Working out the type of a schema comes to an end: by induction on the schema, whose parts are
worked out first. A reference leaves the schema, and ends at once in an entry of the table. -/
theorem maps_typeOf (mapper : TypeMapper) (subject : Option String) :
    (∀ payload schema, mapper.Maps subject payload (.inline schema)
      (mapper.schemaType payload subject schema)) ∧
    ∀ payload use, mapper.Maps subject payload use (mapper.typeOf payload subject use) := by
  apply TypeMapper.schemaType.mutual_induct
  case case1 =>
    intro payload leaf
    rw [schemaType]
    exact .scalar payload leaf
  case case2 =>
    intro payload items ih
    rw [schemaType]
    exact .array payload items _ ih
  case case3 =>
    intro payload values ih
    rw [schemaType]
    exact .map payload values _ ih
  case case4 =>
    intro payload reference
    rw [schemaType]
    exact .alias payload reference _ (mapper.maps_referenceType subject payload reference)
  case case5 =>
    intro payload member discriminator docs ih
    rw [schemaType]
    exact .single payload member discriminator docs _ ih
  case case6 =>
    intro payload parts hmany
    rw [schemaType]
    · refine .composition payload parts ?_
      intro member hkind hmembers
      obtain ⟨kind, members, discriminator, docs⟩ := parts
      obtain rfl : kind = .allOf := hkind
      obtain rfl : members = [member] := hmembers
      exact hmany member discriminator docs rfl
    · exact hmany
  case case7 =>
    intro payload shape
    rw [schemaType]
    exact .object payload shape
  case case8 =>
    intro payload
    rw [schemaType]
    exact .any payload
  case case9 =>
    intro payload
    rw [schemaType]
    exact .unknown payload
  case case10 =>
    intro payload reference
    rw [typeOf]
    exact mapper.maps_referenceType subject payload reference
  case case11 =>
    intro payload schema ih
    rw [typeOf]
    exact ih

/-- Working out the type of a schema comes to one end only. -/
theorem Maps.eq_typeOf {payload : Payload} {use : SchemaUse} {result : Reported TypeRef}
    (h : mapper.Maps subject payload use result) : result = mapper.typeOf payload subject use := by
  induction h with
  | scalar payload leaf => rw [typeOf, schemaType]
  | array payload items result _ ih =>
      rw [ih, typeOf, schemaType]
      rfl
  | map payload values result _ ih =>
      rw [ih, typeOf, schemaType]
      rfl
  | «alias» payload reference result _ ih => rw [ih, typeOf, typeOf, schemaType]
  | single payload member discriminator docs result _ ih => rw [ih, typeOf, schemaType]
  | composition payload parts hmany =>
      rw [typeOf, schemaType]
      intro member discriminator docs hparts
      exact hmany member (congrArg CompositionOf.kind hparts)
        (congrArg CompositionOf.members hparts)
  | object | any | unknown => rw [typeOf, schemaType]
  | ofClass payload reference resolved reports hresolve hclass =>
      rw [typeOf, referenceType_ofClass hresolve hclass]
  | inPlace payload reference resolved reports result hresolve hclass _ ih =>
      rw [ih, typeOf, typeOf, referenceType_inPlace hresolve hclass]

/-- The payload matters for the bytes of a scalar, and for nothing else. -/
theorem scalarType_multipart (leaf : Scalar) :
    scalarType .multipart leaf = (scalarType .plain leaf).inMultipart := by
  unfold scalarType
  split <;> rfl

theorem resolvedType_multipart (mapper : TypeMapper) (resolved : Resolved) :
    mapper.resolvedType .multipart resolved =
      (mapper.resolvedType .plain resolved).inMultipart := by
  unfold resolvedType
  split
  · rfl
  · rfl
  · split
    · rfl
    · exact scalarType_multipart _
  · rfl

theorem referenceType_multipart (mapper : TypeMapper) (subject : Option String)
    (reference : String) :
    mapper.referenceType .multipart subject reference =
      TypeRef.inMultipart <$> mapper.referenceType .plain subject reference := by
  simp only [referenceType, map_bind, map_pure, resolvedType_multipart]

mutual

/-- In a field of a multipart body, a schema in place has the type that it has elsewhere, with file
attachments for the bytes that belong to the field. -/
theorem schemaType_multipart (mapper : TypeMapper) (subject : Option String) (schema : Schema) :
    mapper.schemaType .multipart subject schema =
      TypeRef.inMultipart <$> mapper.schemaType .plain subject schema := by
  cases schema with
  | scalar leaf => simp only [schemaType, scalarType_multipart, map_pure]
  | array items =>
      simp only [schemaType, typeOf_multipart mapper subject items, map_bind, map_pure,
        bind_map_left, TypeRef.inMultipart]
  | map values => simp only [schemaType, map_bind, map_pure, TypeRef.inMultipart]
  | «alias» reference => simp only [schemaType, referenceType_multipart]
  | composition parts =>
      obtain ⟨kind, members, discriminator, docs⟩ := parts
      by_cases hsingle : kind = .allOf ∧ ∃ member, members = [member]
      · obtain ⟨rfl, member, rfl⟩ := hsingle
        simp only [schemaType, typeOf_multipart mapper subject member]
      · have hmany (payload : Payload) : mapper.schemaType payload subject
            (.composition ⟨kind, members, discriminator, docs⟩) = pure .any := by
          rw [schemaType]
          rintro member _ _ ⟨⟩
          exact hsingle ⟨rfl, member, rfl⟩
        rw [hmany, hmany]
        rfl
  | object | any | unknown => simp only [schemaType, map_pure, TypeRef.inMultipart]

/-- The same at a place where a schema is used. -/
theorem typeOf_multipart (mapper : TypeMapper) (subject : Option String) (use : SchemaUse) :
    mapper.typeOf .multipart subject use =
      TypeRef.inMultipart <$> mapper.typeOf .plain subject use := by
  cases use with
  | named reference => simp only [typeOf, referenceType_multipart]
  | inline schema => simp only [typeOf, schemaType_multipart mapper subject schema]

end

/-- The type of a field of a multipart body differs from that of a schema elsewhere in the bytes
that are not below a map: they are files in the first and buffers in the second. -/
structure DifferInFiles (plain multipart : Reported TypeRef) : Prop where
  plainFree : ∀ place, plain.value.part? place ≠ some .fileAttachment
  valuesFree : ∀ place, .value ∈ place → multipart.value.part? place ≠ some .fileAttachment
  withBuffers : multipart.value.withBuffers = plain.value
  files : ∀ place, plain.value.part? place = some .byteBuffer →
    (multipart.value.part? place = some .fileAttachment ↔ .value ∉ place)
  reports : multipart.reports = plain.reports

/-- Whatever a schema is, working out its type comes to one end under each payload, and the two ends
differ in their files only. -/
theorem typeOf_payloads (mapper : TypeMapper) (subject : Option String) (use : SchemaUse) :
    (∀ payload result,
      mapper.Maps subject payload use result ↔ result = mapper.typeOf payload subject use) ∧
    DifferInFiles (mapper.typeOf .plain subject use) (mapper.typeOf .multipart subject use) := by
  have hfree := mapper.not_holdsFile_typeOf subject use
  have hmultipart := mapper.typeOf_multipart subject use
  refine ⟨fun payload result => ⟨Maps.eq_typeOf, ?ends⟩, ?plainFree, ?valuesFree, ?withBuffers,
    ?files, ?reports⟩
  case ends =>
    rintro rfl
    exact (mapper.maps_typeOf subject).2 payload use
  case plainFree => exact fun place hfile => hfree (TypeRef.within_of_part? hfile)
  case valuesFree =>
    intro place hvalue hfile
    rw [hmultipart, Reported.value_map, TypeRef.part?_inMultipart_eq_file_iff hfree] at hfile
    exact hfile.2 hvalue
  case withBuffers =>
    rw [hmultipart, Reported.value_map, TypeRef.withBuffers_inMultipart hfree]
  case files =>
    intro place hbytes
    rw [hmultipart, Reported.value_map, TypeRef.part?_inMultipart_eq_file_iff hfree]
    exact and_iff_right hbytes
  case reports => rw [hmultipart, Reported.reports_map]

end TypeMapper

end SchemaGraph
