import Mathlib.Tactic.SplitIfs
import SchemaGraph.Yaml.Value

/-!
# The keys of values that are read

Wherever an object stands in a value that is read from a text, its keys are distinct
(`keysDistinct_of_parse?`): the entries of a mapping are stored one after the other, and a key that
comes again gives way to the one that is there.
-/

namespace SchemaGraph

/-- All objects in a value have distinct keys. -/
inductive Json.KeysDistinct : Json → Prop where
  | null : KeysDistinct .null
  | bool (value : Bool) : KeysDistinct (.bool value)
  | number (value : JsonNumber) : KeysDistinct (.number value)
  | string (value : String) : KeysDistinct (.string value)
  | array {items : List Json} (hitems : ∀ item ∈ items, KeysDistinct item) :
      KeysDistinct (.array items)
  | object {fields : Keyed Json} (hdistinct : Keyed.Distinct fields)
      (hfields : ∀ entry ∈ fields, KeysDistinct entry.2) : KeysDistinct (.object fields)

/-- The value of a field has distinct keys. -/
theorem Json.KeysDistinct.of_get? {fields : Keyed Json} {key : String} {value : Json}
    (h : KeysDistinct (.object fields)) (hvalue : Keyed.get? fields key = some value) :
    value.KeysDistinct := by
  cases h with
  | object _ hfields => exact hfields _ (Keyed.mem_of_get? hvalue)

/-- The keys of an object are distinct. -/
theorem Json.KeysDistinct.distinct {fields : Keyed Json} (h : KeysDistinct (.object fields)) :
    Keyed.Distinct fields := by
  cases h with
  | object hdistinct _ => exact hdistinct

namespace Keyed

variable {α : Type} {entries more : Keyed α} {entry : String × α}

/-- Storing entries one after the other keeps the keys distinct. -/
theorem Distinct.putAll (h : Distinct entries) (more : List (String × α)) :
    Distinct (putAll entries more) := by
  induction more generalizing entries with
  | nil => exact h
  | cons first rest ih => exact ih (h.put first.1 first.2)

/-- A map that holds the entries of a list has distinct keys. -/
theorem distinct_ofList (entries : List (String × α)) : Distinct (ofList entries) :=
  Distinct.putAll (show Distinct [] from List.nodup_nil) entries

/-- An entry of a map was there or is the one that is stored. -/
theorem mem_of_mem_put {key : String} {value : α} (h : entry ∈ put entries key value) :
    entry ∈ entries ∨ entry = (key, value) := by
  induction entries with
  | nil => exact .inr (List.mem_singleton.1 h)
  | cons first rest ih =>
      rw [put] at h
      split at h
      · rcases List.mem_cons.1 h with heq | hrest
        · exact .inr heq
        · exact .inl (List.mem_cons_of_mem _ hrest)
      · rcases List.mem_cons.1 h with rfl | hrest
        · exact .inl List.mem_cons_self
        · exact (ih hrest).imp_left (List.mem_cons_of_mem _)

/-- An entry of a map was there or is one of those that are stored. -/
theorem mem_of_mem_putAll (h : entry ∈ putAll entries more) : entry ∈ entries ∨ entry ∈ more := by
  induction more generalizing entries with
  | nil => exact .inl h
  | cons first rest ih =>
      rcases ih h with hput | hrest
      · refine (mem_of_mem_put hput).imp_right fun heq => ?_
        rw [heq]
        exact List.mem_cons_self
      · exact .inr (List.mem_cons_of_mem _ hrest)

end Keyed

namespace Yaml

open Json (KeysDistinct)

section Following

variable {α β : Type} {budget : Nat}

/-- A computation of two steps succeeds when both do. -/
theorem bind_eq_some_iff {first : Following α} {next : α → Following β} {result : β × Nat} :
    (first >>= next) budget = some result ↔
      ∃ value rest, first budget = some (value, rest) ∧ next value rest = some result := by
  show (first budget).bind (fun found => next found.1 found.2) = some result ↔ _
  simp [Option.bind_eq_some_iff]

/-- A value that is given is the result. -/
theorem pure_eq_some_iff {value : α} {result : α × Nat} :
    (pure value : Following α) budget = some result ↔ (value, budget) = result := by
  show some (value, budget) = some result ↔ _
  exact Option.some_inj

/-- A value that may be missing is the result when it is there. -/
theorem elim_eq_some {found : Option α} {result : α × Nat}
    (h : (found.elim failure pure : Following α) budget = some result) :
    found = some result.1 := by
  cases found with
  | none => cases h
  | some value =>
      obtain rfl := pure_eq_some_iff.1 h
      rfl

/-- What a step gives for the items of a list, it gives for one of them. -/
theorem exists_of_mem_mapM {step : α → Following β} {items : List α} {results : List β} {rest : Nat}
    (h : items.mapM step budget = some (results, rest)) {result : β} (hresult : result ∈ results) :
    ∃ item ∈ items, ∃ before after, step item before = some (result, after) := by
  induction items generalizing budget results with
  | nil =>
      rw [List.mapM_nil] at h
      cases pure_eq_some_iff.1 h
      cases hresult
  | cons item items ih =>
      rw [List.mapM_cons] at h
      obtain ⟨first, middle, hfirst, hmore⟩ := bind_eq_some_iff.1 h
      obtain ⟨more, last, hitems, hpure⟩ := bind_eq_some_iff.1 hmore
      cases pure_eq_some_iff.1 hpure
      rcases List.mem_cons.1 hresult with rfl | hlater
      · exact ⟨item, List.mem_cons_self, budget, middle, hfirst⟩
      · obtain ⟨other, hother, hstep⟩ := ih hitems hlater
        exact ⟨other, List.mem_cons_of_mem _ hother, hstep⟩

end Following

section Scalar

variable {text : String} {found : Json}

theorem keysDistinct_wholeValue? {number : Int} (h : wholeValue? number = some found) :
    found.KeysDistinct := by
  unfold wholeValue? at h
  split at h
  · cases h
    exact .number _
  · cases h

theorem keysDistinct_floatValue? (h : floatValue? text = some found) : found.KeysDistinct := by
  unfold floatValue? at h
  split at h
  · cases h
    exact .null
  · obtain ⟨number, _, rfl⟩ := Option.map_eq_some_iff.1 h
    exact .number _

theorem keysDistinct_plainValue? (h : plainValue? text = some found) : found.KeysDistinct := by
  unfold plainValue? at h
  split at h
  · cases h
    exact .null
  · split at h
    · cases h
      exact .bool _
    · exact keysDistinct_wholeValue? h
    · split at h
      · cases h
        exact .string _
      · obtain rfl := Option.some.inj h
        cases hvalue : floatValue? text with
        | none => exact .string _
        | some number => exact keysDistinct_floatValue? hvalue

/-- A scalar holds no objects. -/
theorem keysDistinct_scalarValue? {tag : Option String} {style : ScalarStyle}
    (h : scalarValue? tag text style = some found) : found.KeysDistinct := by
  unfold scalarValue? at h
  split at h
  · split at h
    · exact keysDistinct_plainValue? h
    · cases h
      exact .string _
  · split_ifs at h
    · cases h
      exact .null
    · obtain ⟨flag, _, rfl⟩ := Option.map_eq_some_iff.1 h
      exact .bool _
    · obtain ⟨number, _, hnumber⟩ := Option.bind_eq_some_iff.1 h
      exact keysDistinct_wholeValue? hnumber
    · exact keysDistinct_floatValue? h
    · cases h
      exact .string _

end Scalar

/-- Where nothing may be nested, a node has a value when it is a scalar. -/
theorem value_zero (anchors : Anchors) (node : Node) :
    value anchors 0 node = (do
      match ← follow anchors node with
      | .scalar properties text style =>
          (scalarValue? properties.tag text style).elim failure pure
      | _ => failure) := by
  -- Which case applies is known only once the node is.
  delta value
  show (follow anchors node >>= _) = (follow anchors node >>= _)
  congr
  funext target
  cases target <;> rfl

/-- A collection that may be nested has the values of its nodes, one level deeper. -/
theorem value_succ (anchors : Anchors) (depth : Nat) (node : Node) :
    value anchors (depth + 1) node = (do
      match ← follow anchors node with
      | .scalar properties text style =>
          (scalarValue? properties.tag text style).elim failure pure
      | .sequence properties items =>
          if hasPlainTag properties then do
            let values ← items.mapM (value anchors depth)
            pure (.array values)
          else failure
      | .mapping properties entries =>
          if hasPlainTag properties then do
            let fields ← entries.mapM fun (key, content) => do
              let key ← keyText anchors key
              let content ← value anchors depth content
              pure (key, content)
            pure (.object (Keyed.ofList fields))
          else failure
      | _ => failure) := by
  -- Which case applies is known only once the node is.
  delta value
  show (follow anchors node >>= _) = (follow anchors node >>= _)
  congr
  funext target
  cases target <;> rfl

/-- The value of a node has distinct keys in all objects. -/
theorem keysDistinct_value {anchors : Anchors} {depth budget rest : Nat} {node : Node}
    {found : Json} (h : value anchors depth node budget = some (found, rest)) :
    found.KeysDistinct := by
  induction depth generalizing node budget rest found with
  | zero =>
      rw [value_zero] at h
      obtain ⟨target, middle, _, hvalue⟩ := bind_eq_some_iff.1 h
      cases target with
      | scalar properties text style => exact keysDistinct_scalarValue? (elim_eq_some hvalue)
      | «alias» | sequence | mapping => cases hvalue
  | succ depth ih =>
      rw [value_succ] at h
      obtain ⟨target, middle, _, hvalue⟩ := bind_eq_some_iff.1 h
      cases target with
      | «alias» => cases hvalue
      | scalar properties text style => exact keysDistinct_scalarValue? (elim_eq_some hvalue)
      | sequence properties items =>
          dsimp only at hvalue
          split at hvalue
          · obtain ⟨values, last, hitems, hpure⟩ := bind_eq_some_iff.1 hvalue
            cases pure_eq_some_iff.1 hpure
            refine .array fun item hitem => ?_
            obtain ⟨inner, _, before, after, hinner⟩ := exists_of_mem_mapM hitems hitem
            exact ih hinner
          · cases hvalue
      | mapping properties entries =>
          dsimp only at hvalue
          split at hvalue
          · obtain ⟨fields, last, hentries, hpure⟩ := bind_eq_some_iff.1 hvalue
            cases pure_eq_some_iff.1 hpure
            refine .object (Keyed.distinct_ofList fields) fun entry hentry => ?_
            have hfield := (Keyed.mem_of_mem_putAll hentry).resolve_left List.not_mem_nil
            obtain ⟨⟨key, content⟩, _, before, after, hfound⟩ := exists_of_mem_mapM hentries hfield
            obtain ⟨name, spent, _, hcontent⟩ := bind_eq_some_iff.1 hfound
            obtain ⟨inner, left, hinner, hpure⟩ := bind_eq_some_iff.1 hcontent
            cases pure_eq_some_iff.1 hpure
            exact ih hinner
          · cases hvalue

/-- The objects in a value that is read from a text have distinct keys. -/
theorem keysDistinct_of_parse? {text : String} {found : Json} (h : parse? text = some found) :
    found.KeysDistinct := by
  obtain ⟨document, _, hvalue⟩ := Option.bind_eq_some_iff.1 h
  unfold Document.value? at hvalue
  split at hvalue
  · cases hvalue
    exact .null
  · obtain ⟨⟨result, rest⟩, hrun, rfl⟩ := Option.map_eq_some_iff.1 hvalue
    exact keysDistinct_value hrun

end Yaml

end SchemaGraph
