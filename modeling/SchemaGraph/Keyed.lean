/-!
# Ordered maps and name sets

A `Keyed α` is a map from names to values that remembers the order in which its keys first
arrived, held as its list of entries. `put` replaces a value without moving its key, and two ways
of removing a key differ in what they do to the order: `drop` closes the gap, `swapOut` fills it
with the last entry. A name set is a list of names to which `NameSet.add` appends only new names.
-/

namespace SchemaGraph

section

variable {α : Type} {items : List α} {item other : α} [Decidable (item ∈ items)]

/-- Appending an item only when it is missing adds it and nothing else. -/
theorem mem_append_missing :
    other ∈ (if item ∈ items then items else items ++ [item]) ↔ other ∈ items ∨ other = item := by
  split
  · next hmem => exact ⟨.inl, fun h => h.elim id fun heq => heq ▸ hmem⟩
  · simp

/-- Appending an item only when it is missing repeats none. -/
theorem nodup_append_missing (h : items.Nodup) :
    (if item ∈ items then items else items ++ [item]).Nodup := by
  split
  · exact h
  · next hnew =>
      refine List.nodup_append.2 ⟨h, by simp, ?_⟩
      rintro other hother _ hitem rfl
      exact hnew (List.mem_singleton.1 hitem ▸ hother)

end

/-- The entries of a map in the order of their first insertion. -/
abbrev Keyed (α : Type) := List (String × α)

namespace Keyed

variable {α β : Type}

/-- The keys in order. -/
def keys (entries : Keyed α) : List String :=
  entries.map Prod.fst

/-- Each key occurs once. -/
def Distinct (entries : Keyed α) : Prop :=
  (keys entries).Nodup

instance (entries : Keyed α) : Decidable (Distinct entries) :=
  inferInstanceAs (Decidable (keys entries).Nodup)

/-- The value stored under a key. -/
def get? : Keyed α → String → Option α
  | [], _ => none
  | (name, value) :: rest, key => if name = key then some value else get? rest key

/-- Whether a key is present. -/
def has (entries : Keyed α) (key : String) : Bool :=
  (get? entries key).isSome

/-- Store a value: a known key keeps its place, a new one goes to the end. -/
def put : Keyed α → String → α → Keyed α
  | [], key, value => [(key, value)]
  | (name, old) :: rest, key, value =>
      if name = key then (key, value) :: rest else (name, old) :: put rest key value

/-- Store the entries of a list one after the other, so the last value of a repeated key wins at
the first one's place. -/
def putAll (entries : Keyed α) (more : List (String × α)) : Keyed α :=
  more.foldl (fun acc entry => put acc entry.1 entry.2) entries

/-- The map that holds the entries of a list, the last value of a repeated key winning. -/
def ofList (entries : List (String × α)) : Keyed α :=
  putAll [] entries

/-- Remove a key and keep the order of the others. -/
def drop (entries : Keyed α) (key : String) : Keyed α :=
  entries.filter fun entry => entry.1 ≠ key

/-- Remove a key and move the last entry into its place. -/
def swapOut (entries : Keyed α) (key : String) : Keyed α :=
  match entries.findIdx? (fun entry => entry.1 = key), entries.getLast? with
  | some index, some last => (entries.set index last).dropLast
  | _, _ => entries

/-- Change the value under a key, if there is one. -/
def modify (entries : Keyed α) (key : String) (change : α → α) : Keyed α :=
  entries.map fun entry => if entry.1 = key then (entry.1, change entry.2) else entry

/-- Apply a function to every value. -/
def mapValues (entries : Keyed α) (f : α → β) : Keyed β :=
  entries.map fun entry => (entry.1, f entry.2)

/-- Storing a value keeps the keys and their order, and adds a new key at the end. -/
theorem keys_put (entries : Keyed α) (key : String) (value : α) :
    keys (put entries key value) =
      if key ∈ keys entries then keys entries else keys entries ++ [key] := by
  induction entries with
  | nil => simp [put, keys]
  | cons entry rest ih =>
      obtain ⟨name, old⟩ := entry
      by_cases h : name = key
      · simp [put, keys, h]
      · have h' : key ≠ name := Ne.symm h
        simp only [keys] at ih
        simp only [put, keys, h, if_false, List.map_cons, List.mem_cons, h', false_or, ih]
        by_cases hk : key ∈ List.map Prod.fst rest <;> simp [hk]

/-- Storing a value keeps the keys distinct. -/
theorem Distinct.put {entries : Keyed α} (h : Distinct entries) (key : String) (value : α) :
    Distinct (put entries key value) := by
  unfold Distinct at h ⊢
  rw [keys_put]
  exact nodup_append_missing h

/-- Changing a value keeps the keys. -/
theorem keys_modify (entries : Keyed α) (key : String) (change : α → α) :
    keys (modify entries key change) = keys entries := by
  simp only [keys, modify, List.map_map]
  apply List.map_congr_left
  intro entry _
  simp only [Function.comp]
  split <;> rfl

/-- Changing a value keeps the keys distinct. -/
theorem Distinct.modify {entries : Keyed α} (h : Distinct entries) (key : String)
    (change : α → α) : Distinct (modify entries key change) := by
  unfold Distinct at h ⊢
  rw [keys_modify]
  exact h

/-- After storing a value, its key has it and the other keys have what they had. -/
theorem get?_put (entries : Keyed α) (key : String) (value : α) (name : String) :
    get? (put entries key value) name = if name = key then some value else get? entries name := by
  induction entries with
  | nil => simp [put, get?, eq_comm]
  | cons entry rest ih =>
      obtain ⟨first, old⟩ := entry
      by_cases hfirst : first = key
      · subst hfirst
        by_cases hname : name = first
        · simp [put, get?, hname]
        · simp [put, get?, hname, Ne.symm hname]
      · simp only [put, hfirst, if_false, get?, ih]
        by_cases hname : first = name
        · subst hname
          simp [hfirst]
        · simp [hname]

/-- After changing a value, its key has the changed value and the other keys have what they had. -/
theorem get?_modify (entries : Keyed α) (key : String) (change : α → α) (name : String) :
    get? (modify entries key change) name =
      if name = key then (get? entries name).map change else get? entries name := by
  induction entries with
  | nil => simp [modify, get?]
  | cons entry rest ih =>
      obtain ⟨first, old⟩ := entry
      simp only [modify] at ih
      by_cases hfirst : first = name
      · subst hfirst
        by_cases hname : first = key <;> simp [modify, get?, hname]
      · by_cases hkey : first = key
        · subst hkey
          simp [modify, get?, hfirst, ih, Ne.symm hfirst]
        · simp [modify, get?, hfirst, hkey, ih]

/-- A change that leaves the value under its key alone changes nothing. -/
theorem modify_eq_self {entries : Keyed α} {key : String} {change : α → α}
    (h : ∀ value, (key, value) ∈ entries → change value = value) :
    modify entries key change = entries := by
  refine (List.map_congr_left fun entry hentry => ?_).trans (List.map_id entries)
  obtain ⟨name, value⟩ := entry
  by_cases hname : name = key
  · subst hname
    simp [h value hentry]
  · simp [hname]

/-- A value is stored under a key exactly when it is one of the keys. -/
theorem get?_isSome_iff (entries : Keyed α) (key : String) :
    (get? entries key).isSome ↔ key ∈ keys entries := by
  induction entries with
  | nil => simp [get?, keys]
  | cons entry rest ih =>
      obtain ⟨name, value⟩ := entry
      by_cases hname : name = key
      · simp [get?, keys, hname]
      · have hkey : key ≠ name := Ne.symm hname
        simpa [get?, keys, hname, hkey] using ih

/-- The value found under a key is that of an entry. -/
theorem mem_of_get? {entries : Keyed α} {key : String} {value : α}
    (h : get? entries key = some value) : (key, value) ∈ entries := by
  induction entries with
  | nil => simp [get?] at h
  | cons entry rest ih =>
      obtain ⟨name, old⟩ := entry
      simp only [get?] at h
      split at h
      · next hname =>
          cases h
          simp [hname]
      · exact List.mem_cons_of_mem _ (ih h)

/-- When keys are distinct, the entries are the keys with the values found under them. -/
theorem Distinct.get?_eq_some_iff {entries : Keyed α} (hdistinct : Distinct entries)
    {key : String} {value : α} : get? entries key = some value ↔ (key, value) ∈ entries := by
  refine ⟨mem_of_get?, fun hmem => ?_⟩
  induction entries with
  | nil => simp at hmem
  | cons entry rest ih =>
      obtain ⟨name, old⟩ := entry
      obtain ⟨hnew, hrest⟩ := List.nodup_cons.1 hdistinct
      rcases List.mem_cons.1 hmem with heq | hmem
      · cases heq
        simp [get?]
      · have hname : name ≠ key := fun heq => hnew (List.mem_map.2 ⟨_, hmem, heq.symm⟩)
        simp only [get?, hname, if_false]
        exact ih hrest hmem

/-- What is found under a key does not depend on the order of the entries. -/
theorem Distinct.get?_perm {entries other : Keyed α} (hdistinct : Distinct entries)
    (hperm : entries.Perm other) (key : String) : get? other key = get? entries key := by
  have hother : Distinct other := (hperm.map Prod.fst).nodup_iff.1 hdistinct
  apply Option.ext
  intro value
  rw [hother.get?_eq_some_iff, hdistinct.get?_eq_some_iff, hperm.mem_iff]

end Keyed

/-- Names without repetition, in the order of their first insertion. -/
abbrev NameSet := List String

namespace NameSet

/-- Append a name that is not yet in the set. -/
def add (names : NameSet) (name : String) : NameSet :=
  if name ∈ names then names else names ++ [name]

/-- Add the names of a list one after the other. -/
def addAll (names : NameSet) (more : List String) : NameSet :=
  more.foldl add names

variable {names : NameSet} {name other : String} {more : List String}

/-- Adding a name adds it and nothing else. -/
theorem mem_add : other ∈ add names name ↔ other ∈ names ∨ other = name :=
  mem_append_missing

/-- Adding a name that is in the set changes nothing. -/
theorem add_eq_self (h : name ∈ names) : add names name = names :=
  if_pos h

/-- Adding a name repeats none. -/
theorem nodup_add (h : names.Nodup) : (add names name).Nodup :=
  nodup_append_missing h

/-- Adding names adds these and nothing else. -/
theorem mem_addAll : other ∈ addAll names more ↔ other ∈ names ∨ other ∈ more := by
  induction more generalizing names with
  | nil => simp [addAll]
  | cons first rest ih =>
      rw [List.mem_cons, ← or_assoc, ← mem_add]
      exact ih

/-- Adding names repeats none. -/
theorem nodup_addAll (h : names.Nodup) : (addAll names more).Nodup := by
  induction more generalizing names with
  | nil => exact h
  | cons first rest ih => exact ih (nodup_add h)

/-- Repetitions may be left out before the names are changed as well as after. -/
theorem addAll_map (change : String → String) :
    addAll [] ((addAll names more).map change) =
      addAll (addAll [] (names.map change)) (more.map change) := by
  induction more generalizing names with
  | nil => rfl
  | cons first rest ih =>
      have hstep : addAll [] ((add names first).map change) =
          add (addAll [] (names.map change)) (change first) := by
        by_cases hmem : first ∈ names
        · rw [add_eq_self hmem, add_eq_self (mem_addAll.2 (.inr (List.mem_map_of_mem hmem)))]
        · rw [add, if_neg hmem, List.map_append, addAll, List.foldl_append]
          rfl
      exact ih.trans (by rw [hstep]; rfl)

end NameSet

end SchemaGraph
