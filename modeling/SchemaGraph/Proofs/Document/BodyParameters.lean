import SchemaGraph.Proofs.Document.Parameters

/-!
# Parameters that carry the body

In the older version of the format a parameter carries the body. The parameters of the path item
count behind those of the operation, and the last of all that carry a body makes it. So a path item
decides on the body of its operations as soon as it has a parameter for it that none of theirs has
the name of. Read `Root.body_of_parameters` first.
-/

namespace SchemaGraph.Document

variable {known : List (String × String)} {parameters : List ParameterObject}
  {parameter : ParameterObject}

/-- What is kept was there, with a key that was not known. -/
theorem of_mem_firstOfEach (h : parameter ∈ firstOfEach known parameters) :
    parameter ∈ parameters ∧ parameter.key ∉ known := by
  induction parameters generalizing known with
  | nil => exact absurd h List.not_mem_nil
  | cons first rest ih =>
      rw [firstOfEach] at h
      split at h
      · exact (ih h).imp_left (List.mem_cons_of_mem _)
      · next hnew =>
          rcases List.mem_cons.1 h with rfl | hrest
          · exact ⟨List.mem_cons_self, hnew⟩
          · obtain ⟨hmem, hkey⟩ := ih hrest
            exact ⟨List.mem_cons_of_mem _ hmem, fun hknown => hkey (List.mem_cons_of_mem _ hknown)⟩

/-- Of two lists the first is kept like before, and then its keys are known. -/
theorem exists_firstOfEach_append (known : List (String × String))
    (parameters more : List ParameterObject) :
    ∃ known', (∀ key, key ∈ known' ↔ key ∈ known ∨ key ∈ parameters.map ParameterObject.key) ∧
      firstOfEach known (parameters ++ more) =
        firstOfEach known parameters ++ firstOfEach known' more := by
  induction parameters generalizing known with
  | nil => exact ⟨known, fun _ => by simp, rfl⟩
  | cons first rest ih =>
      rw [List.cons_append, firstOfEach, firstOfEach]
      by_cases hfirst : first.key ∈ known
      · obtain ⟨known', hknown, hsplit⟩ := ih known
        refine ⟨known', fun key => ?_, by rw [if_pos hfirst, if_pos hfirst, hsplit]⟩
        rw [hknown, List.map_cons, List.mem_cons, or_left_comm]
        exact (or_iff_right_of_imp fun heq => .inl (heq ▸ hfirst)).symm
      · obtain ⟨known', hknown, hsplit⟩ := ih (first.key :: known)
        refine ⟨known', fun key => ?_, ?_⟩
        · rw [hknown, List.map_cons, List.mem_cons, List.mem_cons, or_assoc, or_left_comm]
        · rw [if_neg hfirst, if_neg hfirst, hsplit, List.cons_append]

/-- The parameters that carry a body. -/
def bodyParameters (parameters : List ParameterObject) : List ParameterObject :=
  parameters.filter fun parameter => parameter.location = "body"

theorem mem_bodyParameters :
    parameter ∈ bodyParameters parameters ↔
      parameter ∈ parameters ∧ parameter.location = "body" := by
  rw [bodyParameters, List.mem_filter, decide_eq_true_eq]

/-- Where there is a parameter with a body and a new key, one with a body is kept. -/
theorem bodyParameters_firstOfEach_ne_nil (hparameter : parameter ∈ bodyParameters parameters)
    (hnew : parameter.key ∉ known) : bodyParameters (firstOfEach known parameters) ≠ [] := by
  obtain ⟨hmem, hbody⟩ := mem_bodyParameters.1 hparameter
  obtain ⟨kept, hkept, hkey⟩ := exists_mem_firstOfEach.2 ⟨hnew, parameter, hmem, rfl⟩
  have hlocation : kept.location = "body" := (congrArg Prod.snd hkey).trans hbody
  exact List.ne_nil_of_mem (mem_bodyParameters.2 ⟨hkept, hlocation⟩)

/-- The last parameter with a body of two lists that are merged. It is one of the second list
exactly when there is one with a new key. -/
theorem exists_last_bodyParameter {own : List ParameterObject} (shared : List ParameterObject)
    (hown : bodyParameters own ≠ []) :
    ∃ parameter, (bodyParameters (firstOccurrences (own ++ shared))).getLast? = some parameter ∧
      ((∀ other ∈ bodyParameters shared, ∃ mine ∈ own, mine.key = other.key) →
        parameter ∈ bodyParameters own) ∧
      ((∃ other ∈ bodyParameters shared, ∀ mine ∈ own, mine.key ≠ other.key) →
        parameter ∈ bodyParameters shared ∧ ∀ mine ∈ own, mine.key ≠ parameter.key) := by
  obtain ⟨known, hknown, hsplit⟩ := exists_firstOfEach_append [] own shared
  have hnew (key : String × String) : key ∉ known ↔ ∀ mine ∈ own, mine.key ≠ key := by
    rw [hknown]
    simp
  have hbodies : (bodyParameters (firstOccurrences (own ++ shared))).getLast? =
      (bodyParameters (firstOfEach known shared)).getLast?.or
        (bodyParameters (firstOfEach [] own)).getLast? := by
    rw [← firstOfEach_eq, hsplit, bodyParameters, List.filter_append, List.getLast?_append]
    rfl
  have hkept {known : List (String × String)} {parameters : List ParameterObject}
      {parameter : ParameterObject}
      (h : (bodyParameters (firstOfEach known parameters)).getLast? = some parameter) :
      parameter ∈ bodyParameters parameters ∧ parameter.key ∉ known := by
    obtain ⟨hmem, hbody⟩ := mem_bodyParameters.1 (List.mem_of_getLast? h)
    exact (of_mem_firstOfEach hmem).imp_left fun hmem => mem_bodyParameters.2 ⟨hmem, hbody⟩
  cases hlast : (bodyParameters (firstOfEach known shared)).getLast? with
  | some parameter =>
      -- A parameter of the second list stands behind all those of the first.
      obtain ⟨hmem, hkey⟩ := hkept hlast
      refine ⟨parameter, by rw [hbodies, hlast]; rfl, fun hsame => ?_,
        fun _ => ⟨hmem, (hnew _).1 hkey⟩⟩
      obtain ⟨mine, hmine, heq⟩ := hsame parameter hmem
      exact absurd heq ((hnew _).1 hkey mine hmine)
  | none =>
      -- Every body of the second list has given way to one of the first.
      obtain ⟨first, hfirst⟩ := List.exists_mem_of_ne_nil _ hown
      obtain ⟨parameter, hparameter⟩ := Option.isSome_iff_exists.1
        (List.getLast?_isSome.2 (bodyParameters_firstOfEach_ne_nil hfirst List.not_mem_nil))
      refine ⟨parameter, by rw [hbodies, hlast, hparameter]; rfl, fun _ => (hkept hparameter).1, ?_⟩
      rintro ⟨other, hother, hforeign⟩
      exact absurd (List.getLast?_eq_none_iff.1 hlast)
        (bodyParameters_firstOfEach_ne_nil hother ((hnew _).2 hforeign))

/-- Without a request body, the parameter with a body makes it. -/
theorem Root.value_bodyOf (root : Root) (subject : String) {operation : OperationObject}
    {sorted : SortedParameters} (hbody : operation.requestBody = none)
    (hsorted : sorted.body = some parameter) :
    (root.bodyOf subject operation sorted).value =
      some (root.bodyOfParameter subject
        (if operation.consumes.isEmpty then root.consumes else operation.consumes)
        parameter).value := by
  rw [bodyOf, hbody, hsorted]
  rfl

/-- An operation without a request body that has parameters with a body of its own. The last of all
parameters with a body makes the body, where those of the path item count behind the operation's own
and without the ones that these replace by name. So one of the operation's own makes it when they
replace all those of the path item, and otherwise one of the path item does, although the operation
has its own. -/
theorem Root.body_of_parameters (root : Root) (path method : String) (item : PathItem)
    (operation : OperationObject) (hbody : operation.requestBody = none)
    (hown : bodyParameters (root.resolvedParameters operation.parameters) ≠ []) :
    let subject := operationIdOf path method operation
    let own := root.resolvedParameters operation.parameters
    let shared := root.resolvedParameters item.parameters
    let consumes := if operation.consumes.isEmpty then root.consumes else operation.consumes
    ∃ parameter, (bodyParameters (firstOccurrences (own ++ shared))).getLast? = some parameter ∧
      (root.operation path method item operation).value.body =
        some (root.bodyOfParameter subject consumes parameter).value ∧
      ((∀ other ∈ bodyParameters shared, ∃ mine ∈ own, mine.key = other.key) →
        parameter ∈ bodyParameters own) ∧
      ((∃ other ∈ bodyParameters shared, ∀ mine ∈ own, mine.key ≠ other.key) →
        parameter ∈ bodyParameters shared ∧ ∀ mine ∈ own, mine.key ≠ parameter.key) := by
  intro subject own shared consumes
  obtain ⟨parameter, hlast, hsame, hforeign⟩ := exists_last_bodyParameter shared hown
  refine ⟨parameter, hlast, ?_, hsame, hforeign⟩
  have hsorted : (root.sortParameters subject (firstOccurrences (own ++ shared))).value.body =
      some parameter := by
    rw [value_sortParameters]
    exact hlast
  rw [root.value_operation]
  exact root.value_bodyOf subject hbody hsorted

/-- A parameter that carries a body of a type. -/
def bodyOfType (name type : String) : ParameterObject :=
  ⟨name, "body", true, none, some (.object [("type", .string type)]), none, none, none⟩

/-- A shop without reusable parts. -/
def shop : Root :=
  ⟨none, some "2.0", none, none, .empty, [], [], [], []⟩

/-- An operation of the shop that takes the number of an order. -/
def placeOrder : OperationObject :=
  ⟨none, [.value (bodyOfType "order" "integer")], none, []⟩

/-- A path item whose operations take a text. -/
def textItem (name : String) : PathItem :=
  ⟨[.value (bodyOfType name "string")], []⟩

/-- An order is placed with a number when the path item has a body of the same name, and with the
text of the path item when this has another name. -/
theorem placeOrder_body_of_parameters :
    placeOrder.requestBody = none ∧
    bodyParameters (shop.resolvedParameters placeOrder.parameters) ≠ [] ∧
    (shop.operation "/orders" "POST" (textItem "order") placeOrder).value.body.map
      RequestBody.schema = some (.inline (.scalar ⟨.integer, none, [], Docs.none⟩)) ∧
    (shop.operation "/orders" "POST" (textItem "draft") placeOrder).value.body.map
      RequestBody.schema = some (.inline (.scalar ⟨.string, none, [], Docs.none⟩)) := by
  have hbody : placeOrder.requestBody = none := rfl
  have hown : bodyParameters (shop.resolvedParameters placeOrder.parameters) ≠ [] :=
    List.cons_ne_nil _ _
  refine ⟨hbody, hown, ?replaced, ?foreign⟩
  case replaced =>
    obtain ⟨parameter, -, hmade, hsame, -⟩ :=
      shop.body_of_parameters "/orders" "POST" (textItem "order") placeOrder hbody hown
    obtain rfl : parameter = bodyOfType "order" "integer" := by
      refine List.mem_singleton.1 (hsame fun other hother => ?_)
      obtain rfl := List.mem_singleton.1 hother
      exact ⟨_, List.mem_cons_self, rfl⟩
    rw [hmade]
    rfl
  case foreign =>
    obtain ⟨parameter, -, hmade, -, hforeign⟩ :=
      shop.body_of_parameters "/orders" "POST" (textItem "draft") placeOrder hbody hown
    obtain ⟨hmem, -⟩ := hforeign ⟨bodyOfType "draft" "string", List.mem_cons_self, by
      intro mine hmine
      obtain rfl := List.mem_singleton.1 hmine
      decide⟩
    obtain rfl := List.mem_singleton.1 hmem
    rw [hmade]
    rfl

end SchemaGraph.Document
