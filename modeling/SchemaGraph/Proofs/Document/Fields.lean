import Mathlib.Data.List.Perm.Basic
import SchemaGraph.Keyed

/-!
# Fields of an object

What is found under the keys of an object after its fields have been changed. Two lists of fields
agree off some keys when every other key has the same value in both.
-/

namespace SchemaGraph

namespace Keyed

variable {α β : Type} {entries other : Keyed α} {key : String} {value : α}

/-- The first entry of a key stands behind entries of other keys. -/
theorem exists_split (h : key ∈ keys entries) :
    ∃ before value after, entries = before ++ (key, value) :: after ∧ key ∉ keys before := by
  induction entries with
  | nil => simp [keys] at h
  | cons entry rest ih =>
      obtain ⟨name, value⟩ := entry
      by_cases hname : name = key
      · subst hname
        exact ⟨[], value, rest, rfl, by simp [keys]⟩
      · have hrest : key ∈ keys rest := by simpa [keys, Ne.symm hname] using h
        obtain ⟨before, found, after, rfl, hnew⟩ := ih hrest
        exact ⟨(name, value) :: before, found, after, rfl,
          by simpa [keys, Ne.symm hname] using hnew⟩

/-- When keys are distinct, the entry of a key stands among entries of other keys. -/
theorem Distinct.split_of_get? (h : Distinct entries) (hvalue : get? entries key = some value) :
    ∃ before after, entries = before ++ (key, value) :: after ∧ key ∉ keys before ∧
      key ∉ keys after := by
  obtain ⟨before, after, rfl⟩ := List.append_of_mem (mem_of_get? hvalue)
  simp only [Distinct, keys, List.map_append, List.map_cons, List.nodup_append,
    List.nodup_cons] at h
  obtain ⟨-, ⟨hafter, -⟩, hbefore⟩ := h
  exact ⟨before, after, rfl, fun hmem => hbefore key hmem key List.mem_cons_self rfl, hafter⟩

/-- Storing a value under a known key replaces it in place. -/
theorem put_split {before after : Keyed α} {old : α} (h : key ∉ keys before) (value : α) :
    put (before ++ (key, old) :: after) key value = before ++ (key, value) :: after := by
  induction before with
  | nil => simp [put]
  | cons entry rest ih =>
      obtain ⟨name, found⟩ := entry
      simp only [keys, List.map_cons, List.mem_cons, not_or] at h
      simp [put, Ne.symm h.1, ih h.2]

/-- Storing a value under a new key appends it. -/
theorem put_of_notMem (h : key ∉ keys entries) (value : α) :
    put entries key value = entries ++ [(key, value)] := by
  induction entries with
  | nil => rfl
  | cons entry rest ih =>
      obtain ⟨name, found⟩ := entry
      simp only [keys, List.map_cons, List.mem_cons, not_or] at h
      simp [put, Ne.symm h.1, ih h.2]

/-- A value that is stored is there. -/
theorem put_ne_nil (entries : Keyed α) (key : String) (value : α) : put entries key value ≠ [] := by
  intro hnil
  have hkey := get?_put entries key value key
  rw [hnil, if_pos rfl] at hkey
  cases hkey

/-- Taking out a key that is not there changes nothing. -/
theorem swapOut_of_notMem (h : key ∉ keys entries) : swapOut entries key = entries := by
  have hindex : entries.findIdx? (fun entry => entry.1 = key) = none := by
    rw [List.findIdx?_eq_none_iff]
    intro entry hentry
    simp only [decide_eq_false_iff_not]
    rintro rfl
    exact h (List.mem_map_of_mem hentry)
  rw [swapOut, hindex]

/-- Taking a key out moves the last of the entries behind it into its place. -/
theorem swapOut_split {before after : Keyed α} (h : key ∉ keys before) (value : α) :
    swapOut (before ++ (key, value) :: after) key =
      before ++ (after.getLast?.toList ++ after.dropLast) := by
  have hbefore : before.findIdx? (fun entry => entry.1 = key) = none := by
    rw [List.findIdx?_eq_none_iff]
    intro entry hentry
    simp only [decide_eq_false_iff_not]
    rintro rfl
    exact h (List.mem_map_of_mem hentry)
  have hindex : (before ++ (key, value) :: after).findIdx? (fun entry => entry.1 = key) =
      some before.length := by
    simp [List.findIdx?_append, hbefore, List.findIdx?_cons]
  rw [swapOut, hindex]
  rcases after.eq_nil_or_concat' with rfl | ⟨init, last, rfl⟩
  · simp
  · have hlast : (before ++ (key, value) :: (init ++ [last])).getLast? = some last := by
      rw [← List.cons_append, ← List.append_assoc, List.getLast?_concat]
    rw [hlast]
    simp only [List.set_append_right _ _ (Nat.le_refl _), Nat.sub_self, List.set_cons_zero]
    rw [List.dropLast_append_of_ne_nil (by simp), ← List.cons_append, List.dropLast_concat]
    simp

/-- What was stored under a key goes with it. -/
theorem swapOut_put (entries : Keyed α) (key : String) (value : α) :
    swapOut (put entries key value) key = swapOut entries key := by
  by_cases h : key ∈ keys entries
  · obtain ⟨before, old, after, rfl, hnew⟩ := exists_split h
    rw [put_split hnew, swapOut_split hnew, swapOut_split hnew]
  · rw [put_of_notMem h, swapOut_split h, swapOut_of_notMem h]
    simp

/-- Removing a key that is not there changes nothing. -/
theorem drop_of_notMem (h : key ∉ keys entries) : drop entries key = entries := by
  rw [drop, List.filter_eq_self]
  intro entry hentry
  simp only [ne_eq, decide_not, Bool.not_eq_true', decide_eq_false_iff_not]
  rintro rfl
  exact h (List.mem_map_of_mem hentry)

/-- Removing a key goes through the entries one by one. -/
theorem drop_cons (key name : String) (value : α) (rest : Keyed α) :
    drop ((name, value) :: rest) key =
      if name = key then drop rest key else (name, value) :: drop rest key := by
  by_cases hname : name = key <;> simp [drop, hname]

/-- A key that is removed has no value any more, and the other keys have what they had. -/
theorem get?_drop (entries : Keyed α) (key name : String) :
    get? (drop entries key) name = if name = key then none else get? entries name := by
  induction entries with
  | nil => simp [drop, get?]
  | cons entry rest ih =>
      obtain ⟨first, value⟩ := entry
      rw [drop_cons]
      by_cases hfirst : first = key
      · subst hfirst
        by_cases hname : name = first
        · subst hname
          simp [ih]
        · simp [get?, ih, hname, Ne.symm hname]
      · by_cases hname : first = name
        · subst hname
          simp [get?, hfirst]
        · simp [get?, hfirst, hname, ih]

/-- Only keys that are kept have a value when entries are kept by their keys. -/
theorem get?_filter (keep : String → Bool) (entries : Keyed α) (key : String) :
    get? (entries.filter fun entry => keep entry.1) key =
      if keep key then get? entries key else none := by
  induction entries with
  | nil => simp [get?]
  | cons entry rest ih =>
      obtain ⟨name, value⟩ := entry
      by_cases hname : name = key
      · subst hname
        by_cases hkeep : keep name
        · simp [get?, hkeep]
        · simp [ih, hkeep]
      · by_cases hkeep : keep name
        · simp [get?, hkeep, hname, ih]
        · simp [get?, hkeep, hname, ih]

/-- There are no entries when nothing is found under any key. -/
theorem isEmpty_iff {entries : Keyed α} : entries.isEmpty ↔ ∀ key, get? entries key = none := by
  cases entries with
  | nil => simp [get?]
  | cons entry rest =>
      have hfound : get? (entry :: rest) entry.1 = some entry.2 := by simp [get?]
      refine iff_of_false (by simp) fun h => ?_
      rw [h] at hfound
      cases hfound

/-- The first of two lists of entries decides. -/
theorem get?_append (entries more : Keyed α) (key : String) :
    get? (entries ++ more) key = (get? entries key).or (get? more key) := by
  induction entries with
  | nil => rfl
  | cons entry rest ih =>
      obtain ⟨name, value⟩ := entry
      by_cases hname : name = key
      · simp [get?, hname]
      · simp [get?, hname, ih]

/-- Removing a key keeps the keys distinct. -/
theorem Distinct.drop (h : Distinct entries) (key : String) : Distinct (drop entries key) :=
  h.sublist (List.filter_sublist.map Prod.fst)

/-- Taking a key out removes its entry and changes the order of the others at most. -/
theorem Distinct.swapOut_perm (h : Distinct entries) (key : String) :
    (swapOut entries key).Perm (Keyed.drop entries key) := by
  by_cases hkey : key ∈ keys entries
  · obtain ⟨before, value, after, rfl, hbefore⟩ := exists_split hkey
    have hafter : key ∉ keys after := by
      unfold Distinct at h
      simp only [keys, List.map_append, List.map_cons, List.nodup_append, List.nodup_cons] at h
      exact h.2.1.1
    have hdrop : Keyed.drop (before ++ (key, value) :: after) key = before ++ after := by
      rw [Keyed.drop, List.filter_append, List.filter_cons_of_neg (by simp)]
      exact congrArg₂ _ (drop_of_notMem hbefore) (drop_of_notMem hafter)
    rw [swapOut_split hbefore, hdrop]
    refine List.Perm.append_left before ?_
    rcases after.eq_nil_or_concat' with rfl | ⟨init, last, rfl⟩
    · exact .refl _
    · have hmoved : ([last] ++ init).Perm (init ++ [last]) := List.perm_append_comm
      simpa using hmoved
  · rw [swapOut_of_notMem hkey, drop_of_notMem hkey]

/-- Taking a key out keeps the keys distinct. -/
theorem Distinct.swapOut (h : Distinct entries) (key : String) : Distinct (swapOut entries key) :=
  ((h.swapOut_perm key).map Prod.fst).nodup_iff.2 (h.drop key)

/-- A key that is taken out has no value any more, and the other keys have what they had. -/
theorem Distinct.get?_swapOut (h : Distinct entries) (key name : String) :
    get? (Keyed.swapOut entries key) name = if name = key then none else get? entries name := by
  rw [← get?_drop, (h.drop key).get?_perm (h.swapOut_perm key).symm]

/-- What is found under a key whose values are all mapped. -/
theorem get?_map (entries : Keyed α) (f : String → α → β) (key : String) :
    get? (entries.map fun entry => (entry.1, f entry.1 entry.2)) key =
      (get? entries key).map (f key) := by
  induction entries with
  | nil => rfl
  | cons entry rest ih =>
      obtain ⟨name, value⟩ := entry
      by_cases hname : name = key
      · subst hname
        simp [get?]
      · simp [get?, hname, ih]

theorem get?_mapValues (entries : Keyed α) (f : α → β) (key : String) :
    get? (mapValues entries f) key = (get? entries key).map f :=
  get?_map entries (fun _ => f) key

theorem keys_mapValues (entries : Keyed α) (f : α → β) :
    keys (mapValues entries f) = keys entries :=
  List.map_map

theorem Distinct.mapValues (h : Distinct entries) (f : α → β) : Distinct (mapValues entries f) := by
  rw [Distinct, keys_mapValues]
  exact h

theorem has_mapValues (entries : Keyed α) (f : α → β) (key : String) :
    has (mapValues entries f) key = has entries key := by
  rw [has, get?_mapValues, Option.isSome_map, has]

theorem mapValues_put (entries : Keyed α) (key : String) (value : α) (f : α → β) :
    mapValues (put entries key value) f = put (mapValues entries f) key (f value) := by
  induction entries with
  | nil => rfl
  | cons entry rest ih =>
      obtain ⟨name, found⟩ := entry
      simp only [mapValues, put, List.map_cons] at ih ⊢
      split
      · rfl
      · rw [List.map_cons, ih]

theorem mapValues_swapOut (entries : Keyed α) (key : String) (f : α → β) :
    mapValues (swapOut entries key) f = swapOut (mapValues entries f) key := by
  by_cases hkey : key ∈ keys entries
  · obtain ⟨before, value, after, rfl, hbefore⟩ := exists_split hkey
    have hmapped : mapValues (before ++ (key, value) :: after) f =
        mapValues before f ++ (key, f value) :: mapValues after f := by
      simp only [mapValues, List.map_append, List.map_cons]
    have hbefore' : key ∉ keys (mapValues before f) := by
      rw [keys_mapValues]
      exact hbefore
    rw [hmapped, swapOut_split hbefore, swapOut_split hbefore']
    simp only [mapValues, List.map_append, List.getLast?_map, List.map_dropLast]
    cases after.getLast? <;> rfl
  · rw [swapOut_of_notMem hkey, swapOut_of_notMem ((keys_mapValues entries f).symm ▸ hkey)]

/-- Changing a value before all values are mapped is changing its image. -/
theorem mapValues_modify {f : α → β} {change : α → α} {image : β → β}
    (h : ∀ value, f (change value) = image (f value)) (entries : Keyed α) (key : String) :
    mapValues (modify entries key change) f = modify (mapValues entries f) key image := by
  simp only [mapValues, modify, List.map_map]
  refine List.map_congr_left fun entry _ => ?_
  by_cases hname : entry.1 = key <;> simp [hname, h]

/-- The entries under other keys. -/
def renameKeys (rename : String → String) (entries : Keyed α) : Keyed α :=
  entries.map fun entry => (rename entry.1, entry.2)

theorem mapValues_renameKeys (rename : String → String) (entries : Keyed α) (f : α → β) :
    mapValues (renameKeys rename entries) f = renameKeys rename (mapValues entries f) := by
  simp only [mapValues, renameKeys, List.map_map]
  rfl

/-- Two lists of entries have the same values under every key but the given ones. -/
def AgreeOff (aside : List String) (entries other : Keyed α) : Prop :=
  ∀ key, key ∉ aside → get? entries key = get? other key

variable {aside : List String}

theorem AgreeOff.symm (h : AgreeOff aside entries other) : AgreeOff aside other entries :=
  fun key hkey => (h key hkey).symm

theorem AgreeOff.trans {third : Keyed α} (h : AgreeOff aside entries other)
    (h' : AgreeOff aside other third) : AgreeOff aside entries third :=
  fun key hkey => (h key hkey).trans (h' key hkey)

/-- Entries that agree off some keys agree off more of them. -/
theorem AgreeOff.mono {more : List String} (h : AgreeOff aside entries other)
    (hmore : aside ⊆ more) : AgreeOff more entries other :=
  fun name hname => h name fun hmem => hname (hmore hmem)

theorem AgreeOff.cons (h : AgreeOff aside entries other) (key : String) :
    AgreeOff (key :: aside) entries other :=
  h.mono (List.subset_cons_self key aside)

theorem AgreeOff.has_eq (h : AgreeOff aside entries other) (hkey : key ∉ aside) :
    has entries key = has other key := by
  rw [has, has, h key hkey]

/-- Storing one value under a key makes entries agree on it. -/
theorem AgreeOff.put (h : AgreeOff (key :: aside) entries other) (value : α) :
    AgreeOff aside (put entries key value) (put other key value) := by
  intro name hname
  rw [get?_put, get?_put]
  split
  · rfl
  · next hne => exact h name (by simp [hne, hname])

/-- Taking a key out makes entries agree on it. -/
theorem AgreeOff.swapOut (h : AgreeOff (key :: aside) entries other) (hentries : Distinct entries)
    (hother : Distinct other) : AgreeOff aside (swapOut entries key) (swapOut other key) := by
  intro name hname
  rw [hentries.get?_swapOut, hother.get?_swapOut]
  split
  · rfl
  · next hne => exact h name (by simp [hne, hname])

theorem AgreeOff.modify (h : AgreeOff aside entries other) (key : String) (change : α → α) :
    AgreeOff aside (modify entries key change) (modify other key change) := by
  intro name hname
  rw [get?_modify, get?_modify, h name hname]

theorem AgreeOff.map (h : AgreeOff aside entries other) (f : String → α → β) :
    AgreeOff aside (entries.map fun entry => (entry.1, f entry.1 entry.2))
      (other.map fun entry => (entry.1, f entry.1 entry.2)) := by
  intro name hname
  rw [get?_map, get?_map, h name hname]

/-- Storing a value changes its key only. -/
theorem agreeOff_put (hkey : key ∈ aside) (entries : Keyed α) (value : α) :
    AgreeOff aside (Keyed.put entries key value) entries := by
  intro name hname
  have hne : name ≠ key := by
    rintro rfl
    exact hname hkey
  rw [get?_put, if_neg hne]

/-- Changing a value changes its key only. -/
theorem agreeOff_modify (hkey : key ∈ aside) (entries : Keyed α) (change : α → α) :
    AgreeOff aside (Keyed.modify entries key change) entries := by
  intro name hname
  have hne : name ≠ key := by
    rintro rfl
    exact hname hkey
  rw [get?_modify, if_neg hne]

/-- Taking a key out changes its value only. -/
theorem Distinct.agreeOff_swapOut (h : Distinct entries) (hkey : key ∈ aside) :
    AgreeOff aside (Keyed.swapOut entries key) entries := by
  intro name hname
  have hne : name ≠ key := by
    rintro rfl
    exact hname hkey
  rw [h.get?_swapOut, if_neg hne]

end Keyed
end SchemaGraph
