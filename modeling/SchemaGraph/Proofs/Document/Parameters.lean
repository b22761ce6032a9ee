import Mathlib.Data.List.Nodup
import SchemaGraph.Proofs.Document.Operations

/-!
# Parameters of an operation

The parameters of an operation are those that its own list stands for, then those of its path item,
without the ones whose name and location have come before. What is left is sorted by location. Read
`Root.parameters_operation` first.
-/

namespace SchemaGraph

theorem Location.parse?_eq_some_iff {word : String} {location : Location} :
    Location.parse? word = some location ↔ word = location.label := by
  constructor
  · intro h
    rw [parse?] at h
    have hlabel := List.find?_some h
    exact (of_decide_eq_true hlabel).symm
  · rintro rfl
    cases location <;> rfl

namespace Document

/-- The parameters before which none has the same name and location. -/
def firstOccurrences (parameters : List ParameterObject) : List ParameterObject :=
  (parameters.zipIdx.filter fun (parameter, index) =>
    (parameters.take index).all fun earlier => earlier.key ≠ parameter.key).map Prod.fst

section FirstOfEach

variable {known : List (String × String)} {parameters : List ParameterObject}

/-- Behind other parameters those are kept before which none has the same key. -/
theorem firstOfEach_eq_filter (before : List ParameterObject)
    (hknown : ∀ key, key ∈ known ↔ key ∈ before.map ParameterObject.key) :
    firstOfEach known parameters =
      ((parameters.zipIdx before.length).filter fun (parameter, index) =>
        ((before ++ parameters).take index).all fun earlier =>
          earlier.key ≠ parameter.key).map Prod.fst := by
  induction parameters generalizing before known with
  | nil => rfl
  | cons parameter rest ih =>
      have hbefore : (before ++ parameter :: rest).take before.length = before := List.take_left
      have hall : before.all (fun earlier => earlier.key ≠ parameter.key) =
          decide (parameter.key ∉ known) := by
        rw [Bool.eq_iff_iff, List.all_eq_true, decide_eq_true_iff, hknown, List.mem_map]
        simp
      -- From here on the parameter counts among those that come before.
      have hlength : before.length + 1 = (before ++ [parameter]).length := by simp
      rw [List.zipIdx_cons, List.filter_cons]
      simp only [hbefore, hall]
      rw [firstOfEach, List.append_cons, hlength]
      by_cases hkey : parameter.key ∈ known
      · rw [if_pos hkey, if_neg (by simpa using hkey)]
        refine ih _ fun key => ?_
        rw [List.map_append, List.mem_append, ← hknown, List.map_singleton, List.mem_singleton]
        exact ⟨.inl, fun h => h.elim id fun heq => heq ▸ hkey⟩
      · rw [if_neg hkey, if_pos (decide_eq_true hkey), List.map_cons]
        refine congrArg _ (ih _ fun key => ?_)
        rw [List.map_append, List.mem_append, ← hknown, List.map_singleton, List.mem_singleton,
          List.mem_cons]
        exact or_comm

/-- The parameters that are kept are the first of their keys. -/
theorem firstOfEach_eq (parameters : List ParameterObject) :
    firstOfEach [] parameters = firstOccurrences parameters :=
  firstOfEach_eq_filter [] fun _ => Iff.rfl

/-- The first parameter of a key that is not known is kept, and no other. -/
theorem find?_firstOfEach (known : List (String × String)) (parameters : List ParameterObject)
    (key : String × String) :
    (firstOfEach known parameters).find? (fun parameter => parameter.key = key) =
      if key ∈ known then none else parameters.find? fun parameter => parameter.key = key := by
  induction parameters generalizing known with
  | nil => simp [firstOfEach]
  | cons parameter rest ih =>
      rw [firstOfEach]
      by_cases hknown : parameter.key ∈ known
      · rw [if_pos hknown, ih, List.find?_cons]
        split
        · rfl
        · next hkey =>
            have hne : parameter.key ≠ key := by
              rintro rfl
              exact hkey hknown
            simp [hne]
      · rw [if_neg hknown, List.find?_cons, List.find?_cons, ih]
        by_cases hkey : parameter.key = key
        · subst hkey
          simp [hknown]
        · simp [hkey, Ne.symm hkey]

/-- No key is kept twice. -/
theorem nodup_firstOfEach (known : List (String × String)) (parameters : List ParameterObject) :
    ((firstOfEach known parameters).map ParameterObject.key).Nodup := by
  induction parameters generalizing known with
  | nil => exact List.nodup_nil
  | cons parameter rest ih =>
      rw [firstOfEach]
      split
      · exact ih known
      · rw [List.map_cons, List.nodup_cons]
        refine ⟨fun hmem => ?_, ih _⟩
        obtain ⟨other, hother, hkey⟩ := List.mem_map.1 hmem
        have hfound := find?_firstOfEach (parameter.key :: known) rest parameter.key
        rw [if_pos List.mem_cons_self, List.find?_eq_none] at hfound
        exact hfound other hother (decide_eq_true hkey)

/-- Of each key that is not known one parameter is kept. -/
theorem exists_mem_firstOfEach {key : String × String} :
    (∃ parameter ∈ firstOfEach known parameters, parameter.key = key) ↔
      key ∉ known ∧ ∃ parameter ∈ parameters, parameter.key = key := by
  have hfound := congrArg Option.isSome (find?_firstOfEach known parameters key)
  rw [Bool.eq_iff_iff, List.find?_isSome] at hfound
  simp only [decide_eq_true_eq] at hfound
  rw [hfound]
  split
  · next hknown => simp [hknown]
  · next hnew => simp [hnew, List.find?_isSome]

end FirstOfEach

/-- The location is none that is known, neither of parameters nor of those that make a body. -/
def IsUnknownLocation (location : String) : Prop :=
  location ≠ "body" ∧ location ≠ "formData" ∧ Location.parse? location = none

namespace Root

variable (root : Root) (subject : String)

/-- The parameters that parameters and references stand for. References that lead to none are left
out. -/
def resolvedParameters (parameters : List (OrReference ParameterObject)) : List ParameterObject :=
  parameters.filterMap fun parameter => (root.resolveParameter? parameter).toOption

/-- A parameter that is carried in a location. -/
def carriedAt (location : Location) (parameter : ParameterObject) : Parameter :=
  let converted := (root.convertParameter subject parameter).value
  ⟨parameter.name, location, parameter.required || location = .path, parameter.description,
    converted.use, converted.nullable⟩

/-- A parameter in its location, if this is one of parameters. -/
def carried? (parameter : ParameterObject) : Option Parameter :=
  (Location.parse? parameter.location).map fun location =>
    root.carriedAt subject location parameter

theorem carried?_of_parse? {parameter : ParameterObject} {location : Location}
    (h : Location.parse? parameter.location = some location) :
    root.carried? subject parameter = some (root.carriedAt subject location parameter) := by
  rw [carried?, h, Option.map_some]

theorem carried?_eq_none {parameter : ParameterObject}
    (h : Location.parse? parameter.location = none) : root.carried? subject parameter = none := by
  rw [carried?, h, Option.map_none]

/-- References that lead to no parameter are left out. -/
theorem value_resolveParameters (parameters : List (OrReference ParameterObject)) :
    (root.resolveParameters subject parameters).value = root.resolvedParameters parameters := by
  have hfound (parameter : OrReference ParameterObject) :
      (root.resolveParameter subject parameter).value =
        (root.resolveParameter? parameter).toOption := by
    rw [resolveParameter]
    split
    · next found h => rw [h]; rfl
    · next pointer h => rw [h]; rfl
    · next pointer h => rw [h]; rfl
  induction parameters with
  | nil => rfl
  | cons parameter rest ih =>
      rw [resolveParameters, Reported.value_bind, Reported.value_bind, Reported.value_pure, ih,
        hfound, resolvedParameters, resolvedParameters, List.filterMap_cons]
      cases (root.resolveParameter? parameter).toOption <;> rfl

/-- Sorting keeps the order. The last parameter that carries a body is the one that counts. -/
theorem value_sortParameters (parameters : List ParameterObject) :
    (root.sortParameters subject parameters).value =
      ⟨parameters.filterMap (root.carried? subject),
        (parameters.filter fun parameter => parameter.location = "body").getLast?,
        parameters.filter fun parameter => parameter.location = "formData"⟩ := by
  induction parameters with
  | nil => rfl
  | cons parameter rest ih =>
      simp only [sortParameters]
      split
      · next hbody =>
          have hcarried := root.carried?_eq_none subject (by rw [hbody]; rfl)
          simp [ih, hbody, hcarried, List.getLast?_cons]
      · next hbody =>
          split
          · next hform =>
              have hcarried := root.carried?_eq_none subject (by rw [hform]; rfl)
              simp [ih, hform, hcarried]
          · next hform =>
              split
              · next location hlocation =>
                  simp [ih, hbody, hform, root.carried?_of_parse? subject hlocation, carriedAt]
              · next hlocation =>
                  simp [ih, hbody, hform, root.carried?_eq_none subject hlocation]

section Reports

variable {name location : String}

/-- A report about something else than the location of a parameter. -/
def NotOfLocation (name location : String) (report : Report) : Prop :=
  report.finding ≠ .unknownLocation name location

theorem notOfLocation_convert (address at? : Option String) (schema : Json) :
    (convert address at? schema).Every (NotOfLocation name location) := by
  rw [convert]
  split
  · exact .pure _
  · exact .bind (.note (by simp [NotOfLocation])) (.pure _)

theorem notOfLocation_resolveParameters (parameters : List (OrReference ParameterObject)) :
    (root.resolveParameters subject parameters).Every (NotOfLocation name location) := by
  induction parameters with
  | nil => exact .pure _
  | cons parameter rest ih =>
      refine .bind ?_ (.bind ih (.pure _))
      rw [resolveParameter]
      split
      · exact .pure _
      · exact .bind (.note (by simp [NotOfLocation])) (.pure _)
      · exact .bind (.note (by simp [NotOfLocation])) (.pure _)

theorem notOfLocation_selectBody (body : BodyObject) :
    (root.selectBody subject body).Every (NotOfLocation name location) := by
  rw [selectBody]
  split
  · exact .pure _
  · split
    · exact .bind (notOfLocation_convert _ _ _) (.pure _)
    · exact .pure _

theorem notOfLocation_requestBody (body : OrReference BodyObject) :
    (root.requestBody subject body).Every (NotOfLocation name location) := by
  cases body with
  | value body => exact root.notOfLocation_selectBody subject body
  | reference reference =>
      simp only [requestBody]
      split
      · exact root.notOfLocation_selectBody subject _
      · exact .bind (.note (by simp [NotOfLocation])) (.pure _)

theorem notOfLocation_formObject (form : List ParameterObject) (object : ObjectShape) :
    (root.formObject subject form object).Every (NotOfLocation name location) := by
  induction form generalizing object with
  | nil => exact .pure _
  | cons parameter rest ih => exact .bind (notOfLocation_convert _ _ _) (ih _)

theorem notOfLocation_bodyOf (operation : OperationObject) (sorted : SortedParameters) :
    (root.bodyOf subject operation sorted).Every (NotOfLocation name location) := by
  rw [bodyOf]
  split
  · exact root.notOfLocation_requestBody subject _
  · exact .bind (.bind (notOfLocation_convert _ _ _) (.pure _)) (.pure _)
  · exact .pure _
  · exact .bind (.bind (root.notOfLocation_formObject subject _ _) (.pure _)) (.pure _)

/-- One more parameter is reported when its location is unknown. -/
theorem mem_reports_sortParameters_cons (parameter : ParameterObject)
    (rest : List ParameterObject) :
    ⟨some subject, .unknownLocation name location⟩ ∈
        (root.sortParameters subject (parameter :: rest)).reports ↔
      (IsUnknownLocation parameter.location ∧ parameter.key = (name, location)) ∨
        ⟨some subject, .unknownLocation name location⟩ ∈
          (root.sortParameters subject rest).reports := by
  have hkey : parameter.key = (name, location) ↔
      parameter.name = name ∧ parameter.location = location := Prod.mk.injEq ..  |>.to_iff
  simp only [sortParameters, IsUnknownLocation]
  split
  · next hbody => simp [hbody]
  · next hbody =>
    split
    · next hform => simp [hform]
    · next hform =>
      split
      · next found hlocation =>
          have hother : ⟨some subject, .unknownLocation name location⟩ ∉
              (root.convertParameter subject parameter).reports := fun hmem =>
            notOfLocation_convert _ _ _ _ hmem rfl
          simp [hlocation, hother]
      · next hlocation =>
          simp [hbody, hform, hlocation, hkey, Reported.note, eq_comm]

/-- The parameters in unknown locations are reported, and no other. -/
theorem mem_reports_sortParameters (parameters : List ParameterObject) :
    ⟨some subject, .unknownLocation name location⟩ ∈
        (root.sortParameters subject parameters).reports ↔
      IsUnknownLocation location ∧ ∃ parameter ∈ parameters, parameter.key = (name, location) := by
  induction parameters with
  | nil => simp [sortParameters]
  | cons parameter rest ih =>
      rw [mem_reports_sortParameters_cons, ih]
      have hkey (h : parameter.key = (name, location)) : parameter.location = location :=
        congrArg Prod.snd h
      constructor
      · rintro (⟨hunknown, h⟩ | ⟨hunknown, other, hother, h⟩)
        · exact ⟨hkey h ▸ hunknown, parameter, List.mem_cons_self, h⟩
        · exact ⟨hunknown, other, List.mem_cons_of_mem _ hother, h⟩
      · rintro ⟨hunknown, other, hother, h⟩
        rcases List.mem_cons.1 hother with rfl | hrest
        · exact .inl ⟨hkey h ▸ hunknown, h⟩
        · exact .inr ⟨hunknown, other, hrest, h⟩

end Reports

/-- The parameters and the body of an operation come from the first parameters of each key. -/
theorem value_operation (path method : String) (item : PathItem) (operation : OperationObject) :
    let subject := operationIdOf path method operation
    let sorted := root.sortParameters subject
      (firstOccurrences (root.resolvedParameters operation.parameters ++
        root.resolvedParameters item.parameters))
    (root.operation path method item operation).value =
      ⟨subject, method, path, sorted.value.carried,
        (root.bodyOf subject operation sorted.value).value⟩ := by
  intro subject sorted
  simp only [Root.operation, Reported.value_bind, Reported.value_pure, value_resolveParameters,
    firstOfEach_eq]
  rfl

/-- An operation reports the parameters in unknown locations that it resolves. -/
theorem mem_reports_operation (path method : String) (item : PathItem)
    (operation : OperationObject) {name location : String} :
    ⟨some (operationIdOf path method operation), .unknownLocation name location⟩ ∈
        (root.operation path method item operation).reports ↔
      IsUnknownLocation location ∧
        ∃ parameter ∈ root.resolvedParameters operation.parameters ++
          root.resolvedParameters item.parameters, parameter.key = (name, location) := by
  have hother {α : Type} {step : Reported α} (h : step.Every (NotOfLocation name location)) :
      ⟨some (operationIdOf path method operation), .unknownLocation name location⟩ ∉
        step.reports := fun hmem => h _ hmem rfl
  simp only [Root.operation, Reported.reports_bind, Reported.reports_pure, List.append_nil,
    List.mem_append, hother (root.notOfLocation_resolveParameters _ _),
    hother (root.notOfLocation_bodyOf _ _ _), false_or, or_false, value_resolveParameters,
    mem_reports_sortParameters, exists_mem_firstOfEach, List.not_mem_nil, not_false_eq_true,
    true_and]

/-- Parameters with different names or locations stay apart when they are carried. -/
theorem nodup_carried {parameters : List ParameterObject}
    (h : (parameters.map ParameterObject.key).Nodup) :
    ((parameters.filterMap (root.carried? subject)).map fun parameter =>
      (parameter.name, parameter.location)).Nodup := by
  have hplaces : (parameters.filterMap (root.carried? subject)).map
      (fun parameter => (parameter.name, parameter.location)) =
        (parameters.map ParameterObject.key).filterMap fun key =>
          (Location.parse? key.2).map fun location => (key.1, location) := by
    rw [List.map_filterMap, List.filterMap_map]
    simp only [carried?, Option.map_map]
    rfl
  rw [hplaces]
  refine h.filterMap fun key other place hkey hother => ?_
  simp only [Option.mem_def, Option.map_eq_some_iff, Location.parse?_eq_some_iff] at hkey hother
  obtain ⟨location, hlabel, rfl⟩ := hkey
  obtain ⟨location', hlabel', heq⟩ := hother
  obtain ⟨hname, rfl⟩ := Prod.mk.inj heq
  exact Prod.ext hname.symm (hlabel.trans hlabel'.symm)

/-- The parameters in a location, by name. -/
theorem find?_carried (parameters : List ParameterObject) (name : String) (location : Location) :
    (parameters.filterMap (root.carried? subject)).find?
        (fun parameter => parameter.name = name ∧ parameter.location = location) =
      (parameters.find? fun parameter => parameter.key = (name, location.label)).map
        (root.carriedAt subject location) := by
  induction parameters with
  | nil => rfl
  | cons parameter rest ih =>
      have hkey : parameter.key = (name, location.label) ↔
          parameter.name = name ∧ Location.parse? parameter.location = some location := by
        rw [Location.parse?_eq_some_iff]
        exact Prod.mk.injEq ..  |>.to_iff
      rw [List.filterMap_cons, List.find?_cons]
      cases hlocation : Location.parse? parameter.location with
      | none =>
          have hne : parameter.key ≠ (name, location.label) := fun h => by
            rw [hkey, hlocation] at h
            cases h.2
          simp only [root.carried?_eq_none subject hlocation, hne, decide_false]
          exact ih
      | some found =>
          rw [hlocation, Option.some.injEq] at hkey
          simp only [root.carried?_of_parse? subject hlocation, List.find?_cons, ih]
          by_cases hfound : parameter.name = name ∧ found = location
          · obtain ⟨rfl, rfl⟩ := hfound
            simp [hkey, carriedAt]
          · simp [hkey, hfound, carriedAt]

end Root

/-- The parameters of an operation are the first ones of each name and location that its own list
and that of its path item stand for, in this order, as far as they are in one of the four locations.
So no name comes twice in a location. What stands under a name in a location is the operation's own
parameter, and that of the path item where the operation has none. All parameters in the path are
required, and every parameter whose location is unknown is reported. -/
theorem Root.parameters_operation (root : Root) (path method : String) (item : PathItem)
    (operation : OperationObject) :
    let subject := operationIdOf path method operation
    let own := root.resolvedParameters operation.parameters
    let shared := root.resolvedParameters item.parameters
    let result := root.operation path method item operation
    result.value.parameters =
      (firstOccurrences (own ++ shared)).filterMap (root.carried? subject) ∧
    (result.value.parameters.map fun parameter => (parameter.name, parameter.location)).Nodup ∧
    (∀ name location,
      result.value.parameters.find?
          (fun parameter => parameter.name = name ∧ parameter.location = location) =
        ((own.find? fun parameter => parameter.key = (name, location.label)).or
          (shared.find? fun parameter => parameter.key = (name, location.label))).map
            (root.carriedAt subject location)) ∧
    (∀ parameter ∈ result.value.parameters, parameter.location = .path → parameter.required) ∧
    (∀ name location,
      ⟨some subject, .unknownLocation name location⟩ ∈ result.reports ↔
        IsUnknownLocation location ∧
          ∃ parameter ∈ own ++ shared, parameter.key = (name, location)) := by
  intro subject own shared result
  have hparameters : result.value.parameters =
      (firstOccurrences (own ++ shared)).filterMap (root.carried? subject) := by
    simp only [result, root.value_operation, root.value_sortParameters]
    rfl
  refine ⟨hparameters, ?distinct, fun name location => ?found, ?required,
    fun name location => ?reported⟩
  case distinct =>
    -- Locations and the words for them are one to one, so keys that differ stay apart.
    rw [hparameters, ← firstOfEach_eq]
    exact root.nodup_carried subject (nodup_firstOfEach [] (own ++ shared))
  case found =>
    rw [hparameters, root.find?_carried, ← firstOfEach_eq, find?_firstOfEach,
      if_neg List.not_mem_nil, List.find?_append]
  case required =>
    intro parameter hparameter hpath
    rw [hparameters] at hparameter
    obtain ⟨raw, -, hcarried⟩ := List.mem_filterMap.1 hparameter
    obtain ⟨location, -, rfl⟩ := Option.map_eq_some_iff.1 hcarried
    obtain rfl : location = .path := hpath
    simp [carriedAt]
  case reported =>
    exact root.mem_reports_operation path method item operation

end Document

end SchemaGraph
