import SchemaGraph.Proofs.Naming.Collisions

/-!
# Repeated names

The names of a collection are made distinct in one pass from left to right. `Pass` describes this
pass step by step: a free name is kept, and for a taken one number after the other is tried
(`FirstFree`). Every collection has exactly one pass (`pass_iff`), so that what holds of all passes
holds of `distinct`: its names are pairwise distinct, and the numbers behind one name grow
(`distinct_pass`). A name that stands for the first time can still be lost, to a repetition of a
shorter name that got it as its numbered name before; `distinct_first_occurrence` says when.
-/

namespace SchemaGraph.Naming

variable {taken names results : List String} {counts : Keyed Nat} {base name : String}
  {count number : Nat}

/-- One number after the other is tried behind a name, from the one after `count` on, until the
name is free. -/
inductive FirstFree (taken : List String) (base : String) : Nat → Nat → Prop where
  | free {count : Nat} (hfree : numbered base (count + 1) ∉ taken) :
      FirstFree taken base count (count + 1)
  | next {count number : Nat} (htaken : numbered base (count + 1) ∈ taken)
      (hnext : FirstFree taken base (count + 1) number) : FirstFree taken base count number

/-- The names of a collection are made distinct one after the other. `taken` are the names that are
given already, and `counts` holds the last number tried for each name. -/
inductive Pass : List String → Keyed Nat → List String → List String → Prop where
  | done {taken : List String} {counts : Keyed Nat} : Pass taken counts [] []
  | keep {taken rest results : List String} {counts : Keyed Nat} {base : String}
      (hfree : base ∉ taken) (hrest : Pass (base :: taken) counts rest results) :
      Pass taken counts (base :: rest) (base :: results)
  | number {taken rest results : List String} {counts : Keyed Nat} {base : String} {number : Nat}
      (htaken : base ∈ taken)
      (hnumber : FirstFree taken base ((Keyed.get? counts base).getD 1) number)
      (hrest : Pass (numbered base number :: taken) (Keyed.put counts base number) rest results) :
      Pass taken counts (base :: rest) (numbered base number :: results)

namespace FirstFree

/-- The number at which the search stops makes the name free. -/
theorem not_mem (h : FirstFree taken base count number) : numbered base number ∉ taken := by
  induction h with
  | free hfree => exact hfree
  | next _ _ ih => exact ih

/-- The number at which the search stops is a later one. -/
theorem lt (h : FirstFree taken base count number) : count < number := by
  induction h with
  | free => exact Nat.lt_add_one _
  | next _ _ ih => exact Nat.lt_of_succ_lt ih

/-- The search stops at one number only. -/
theorem unique {other : Nat} (h : FirstFree taken base count number)
    (hother : FirstFree taken base count other) : number = other := by
  induction h with
  | free hfree =>
      cases hother with
      | free => rfl
      | next htaken => exact absurd htaken hfree
  | next htaken _ ih =>
      cases hother with
      | free hfree => exact absurd htaken hfree
      | next _ hnext => exact ih hnext

/-- The search goes past the numbers that do not make the name free. -/
theorem of_taken {offset : Nat} (hfree : numbered base (count + 1 + offset) ∉ taken)
    (hearlier : ∀ earlier < offset, numbered base (count + 1 + earlier) ∈ taken) :
    FirstFree taken base count (count + 1 + offset) := by
  induction offset generalizing count with
  | zero => exact .free hfree
  | succ offset ih =>
      have hshift : ∀ more, count + 1 + 1 + more = count + 1 + (more + 1) := by omega
      rw [← hshift] at hfree ⊢
      refine .next (hearlier 0 (Nat.succ_pos offset)) (ih hfree fun earlier hlt => ?_)
      rw [hshift]
      exact hearlier (earlier + 1) (Nat.succ_lt_succ hlt)

end FirstFree

/-- The search comes to its end, at the number that is found. -/
theorem firstFree_freeNumber (taken : List String) (base : String) (count : Nat) :
    FirstFree taken base count (freeNumber taken base count) := by
  obtain ⟨offset, heq, hfree, hearlier⟩ := exists_freeNumber_eq taken base count
  rw [heq]
  exact .of_taken hfree hearlier

/-- Making names distinct is a pass. -/
theorem pass_distinctFrom (taken : List String) (counts : Keyed Nat) (names : List String) :
    Pass taken counts names (distinctFrom taken counts names) := by
  induction names generalizing taken counts with
  | nil => exact .done
  | cons base rest ih =>
      rw [distinctFrom]
      split
      · next htaken => exact .number htaken (firstFree_freeNumber _ _ _) (ih _ _)
      · next hfree => exact .keep hfree (ih _ _)

namespace Pass

/-- There is one pass for each collection. -/
theorem unique {others : List String} (h : Pass taken counts names results)
    (hother : Pass taken counts names others) : results = others := by
  induction h generalizing others with
  | done =>
      cases hother
      rfl
  | keep hfree _ ih =>
      cases hother with
      | keep _ hrest => rw [ih hrest]
      | number htaken => exact absurd htaken hfree
  | number htaken hnumber _ ih =>
      cases hother with
      | keep hfree => exact absurd htaken hfree
      | number _ hother hrest =>
          obtain rfl := hnumber.unique hother
          rw [ih hrest]

/-- No name that a pass gives is taken before. -/
theorem not_mem_taken (h : Pass taken counts names results) :
    ∀ result ∈ results, result ∉ taken := by
  induction h with
  | done => nofun
  | keep hfree _ ih =>
      refine List.forall_mem_cons.2 ⟨hfree, fun result hresult htaken => ?_⟩
      exact ih result hresult (List.mem_cons_of_mem _ htaken)
  | number _ hnumber _ ih =>
      refine List.forall_mem_cons.2 ⟨hnumber.not_mem, fun result hresult htaken => ?_⟩
      exact ih result hresult (List.mem_cons_of_mem _ htaken)

/-- A pass gives each name once. -/
theorem nodup (h : Pass taken counts names results) : results.Nodup := by
  induction h with
  | done => exact List.nodup_nil
  | keep _ hrest ih =>
      refine List.nodup_cons.2 ⟨fun hmem => ?_, ih⟩
      exact hrest.not_mem_taken _ hmem List.mem_cons_self
  | number _ _ hrest ih =>
      refine List.nodup_cons.2 ⟨fun hmem => ?_, ih⟩
      exact hrest.not_mem_taken _ hmem List.mem_cons_self

end Pass

/-- The name itself, or the name with a number from two on. -/
def IsVariant (name result : String) : Prop :=
  result = name ∨ ∃ number, 2 ≤ number ∧ result = numbered name number

/-- A pass gives each name or a variant of it, in order. -/
theorem Pass.variants (h : Pass taken counts names results) (hcounts : CountsFromOne counts) :
    List.Forall₂ IsVariant names results := by
  induction h with
  | done => exact .nil
  | keep _ _ ih => exact .cons (.inl rfl) (ih hcounts)
  | @number _ _ _ _ base _ _ hnumber _ ih =>
      have htwo := Nat.lt_of_le_of_lt (hcounts base) hnumber.lt
      exact .cons (.inr ⟨_, htwo, rfl⟩) (ih (hcounts.put (Nat.le_of_lt htwo)))

/-- A number behind a name makes it another one. -/
theorem numbered_ne (base : String) (number : Nat) : numbered base number ≠ base := by
  intro heq
  have hdigits : toString number = "" := (String.append_right_inj base).1 (heq.trans (by simp))
  have hread := congrArg (fun digits : String => digits.toList) hdigits
  simp at hread

namespace Pass

/-- Where a name stands, a pass keeps it exactly when it is neither taken nor given before. -/
theorem getElem?_eq_iff (h : Pass taken counts names results) {i : Nat}
    (hname : names[i]? = some name) :
    results[i]? = some name ↔ name ∉ taken ∧ name ∉ results.take i := by
  induction h generalizing i with
  | done => cases hname
  | keep hfree _ ih =>
      cases i with
      | zero =>
          obtain rfl := Option.some.inj hname
          simpa using hfree
      | succ i =>
          rw [List.getElem?_cons_succ] at hname ⊢
          rw [ih hname, List.take_succ_cons, List.mem_cons, List.mem_cons]
          tauto
  | @number _ _ _ _ base number htaken _ _ ih =>
      cases i with
      | zero =>
          obtain rfl := Option.some.inj hname
          simpa [htaken] using numbered_ne base number
      | succ i =>
          rw [List.getElem?_cons_succ] at hname ⊢
          rw [ih hname, List.take_succ_cons, List.mem_cons, List.mem_cons]
          tauto

/-- Numbers behind a name are counted up from the last one tried. -/
theorem count_lt (h : Pass taken counts names results) {i : Nat} (hname : names[i]? = some name)
    (hresult : results[i]? = some (numbered name number)) :
    (Keyed.get? counts name).getD 1 < number := by
  induction h generalizing i with
  | done => cases hname
  | keep _ _ ih =>
      cases i with
      | zero =>
          obtain rfl := Option.some.inj hname
          exact absurd (Option.some.inj hresult).symm (numbered_ne _ _)
      | succ i => exact ih hname hresult
  | @number _ _ _ _ base found _ hfound _ ih =>
      cases i with
      | zero =>
          obtain rfl := Option.some.inj hname
          obtain rfl := numbered_injective _ (Option.some.inj hresult)
          exact hfound.lt
      | succ i =>
          have hlt := ih hname hresult
          rw [Keyed.get?_put] at hlt
          split at hlt
          · next heq => exact heq ▸ Nat.lt_trans hfound.lt hlt
          · exact hlt

/-- The numbers behind one name grow along a pass. -/
theorem number_lt (h : Pass taken counts names results) {i j first second : Nat} (hlt : i < j)
    (hfirst : names[i]? = some name) (hsecond : names[j]? = some name)
    (hresult : results[i]? = some (numbered name first))
    (hlater : results[j]? = some (numbered name second)) : first < second := by
  induction h generalizing i j with
  | done => cases hfirst
  | keep _ _ ih =>
      cases i with
      | zero =>
          obtain rfl := Option.some.inj hfirst
          exact absurd (Option.some.inj hresult).symm (numbered_ne _ _)
      | succ i =>
          obtain ⟨j, rfl⟩ := Nat.exists_eq_succ_of_ne_zero (Nat.ne_zero_of_lt hlt)
          exact ih (Nat.lt_of_succ_lt_succ hlt) hfirst hsecond hresult hlater
  | number _ _ hrest ih =>
      obtain ⟨j, rfl⟩ := Nat.exists_eq_succ_of_ne_zero (Nat.ne_zero_of_lt hlt)
      cases i with
      | zero =>
          obtain rfl := Option.some.inj hfirst
          obtain rfl := numbered_injective _ (Option.some.inj hresult)
          have hcount := hrest.count_lt hsecond hlater
          rwa [Keyed.get?_put, if_pos rfl] at hcount
      | succ i => exact ih (Nat.lt_of_succ_lt_succ hlt) hfirst hsecond hresult hlater

/-- A collection in which no name is taken or repeated is left as it is. -/
theorem eq_self (h : Pass taken counts names results) (hnodup : names.Nodup)
    (hfree : ∀ name ∈ names, name ∉ taken) : results = names := by
  induction h with
  | done => rfl
  | @keep _ _ _ _ base _ _ ih =>
      obtain ⟨hnew, hnodup⟩ := List.nodup_cons.1 hnodup
      rw [ih hnodup fun name hname => ?_]
      rw [List.mem_cons, not_or]
      exact ⟨fun heq => hnew (heq ▸ hname), hfree name (List.mem_cons_of_mem _ hname)⟩
  | number htaken => exact absurd htaken (hfree _ List.mem_cons_self)

end Pass

/-- A list is the outcome of a pass exactly when making the names distinct gives it. -/
theorem pass_iff : Pass taken counts names results ↔ results = distinctFrom taken counts names := by
  have hpass := pass_distinctFrom taken counts names
  constructor
  · exact fun h => h.unique hpass
  · rintro rfl
    exact hpass

/-- A digit behind a number is the last digit of a number. -/
theorem numbered_append_digit (base : String) {number digit : Nat} (hnumber : 0 < number)
    (hdigit : digit < 10) :
    numbered base number ++ toString digit = numbered base (10 * number + digit) := by
  have hdigits : toString number ++ toString digit = toString (10 * number + digit) := by
    apply String.toList_inj.1
    simp only [String.toList_append, Nat.toString_eq_repr, Nat.toList_repr]
    exact Nat.toDigits_append_toDigits (by decide) hnumber hdigit
  rw [numbered, numbered, String.append_assoc, hdigits]

/-- Two numbers behind a name are one number behind it. -/
theorem exists_numbered_numbered (base : String) {first : Nat} (hfirst : 0 < first)
    (second : Nat) :
    ∃ number, first ≤ number ∧ numbered (numbered base first) second = numbered base number := by
  induction second using Nat.strongRecOn with
  | ind second ih =>
      by_cases hdigit : second < 10
      · exact ⟨_, by omega, numbered_append_digit base hfirst hdigit⟩
      · -- The digits of the second number but the last one follow the first number already.
        obtain ⟨number, hle, heq⟩ := ih (second / 10) (by omega)
        have hlast : second % 10 < 10 := by omega
        have hsplit : 10 * (second / 10) + second % 10 = second := by omega
        refine ⟨10 * number + second % 10, by omega, ?_⟩
        rw [← numbered_append_digit base (by omega) hlast, ← heq,
          numbered_append_digit _ (by omega) hlast, hsplit]

/-- A variant of a variant is a variant. -/
theorem IsVariant.trans {other : String} (h : IsVariant base name) (hother : IsVariant name other) :
    IsVariant base other := by
  rcases h with rfl | ⟨first, hfirst, rfl⟩
  · exact hother
  · rcases hother with rfl | ⟨second, _, rfl⟩
    · exact .inr ⟨first, hfirst, rfl⟩
    · obtain ⟨number, hle, heq⟩ :=
        exists_numbered_numbered base (Nat.lt_of_succ_lt hfirst) second
      exact .inr ⟨number, Nat.le_trans hfirst hle, heq⟩

/-- Items of related lists are related place by place. -/
theorem exists_getElem?_of_forall₂ {α β : Type} {related : α → β → Prop} {items : List α}
    {others : List β} (h : List.Forall₂ related items others) {i : Nat} {item : α}
    (hitem : items[i]? = some item) : ∃ other, others[i]? = some other ∧ related item other := by
  induction h generalizing i with
  | nil => cases hitem
  | cons hhead _ ih =>
      cases i with
      | zero =>
          obtain rfl := Option.some.inj hitem
          exact ⟨_, rfl, hhead⟩
      | succ i => exact ih hitem

/-- The first items of a list are those at the earlier places. -/
theorem mem_take_iff {items : List String} {j : Nat} :
    name ∈ items.take j ↔ ∃ i < j, items[i]? = some name := by
  simp only [List.mem_iff_getElem?, List.getElem?_take, Option.ite_none_right_eq_some]

/-- A name that stands at an earlier place and before that is counted twice. -/
theorem two_le_count_take {items : List String} {i j : Nat} (hlt : j < i)
    (hname : items[j]? = some name) (hrepeated : name ∈ items.take j) :
    2 ≤ (items.take i).count name := by
  have hbefore : (items.take (j + 1)).Sublist (items.take i) := List.take_sublist_take_left hlt
  have hcount := hbefore.count_le name
  have hpositive := List.count_pos_iff.2 hrepeated
  rw [List.take_add_one, hname, Option.toList_some, List.count_append,
    List.count_singleton_self] at hcount
  omega

namespace Pass

/-- What a pass gives in the place of a name is a variant of it. -/
theorem exists_variant (h : Pass [] [] names results) {i : Nat} (hname : names[i]? = some name) :
    ∃ result, results[i]? = some result ∧ IsVariant name result :=
  exists_getElem?_of_forall₂ (h.variants countsFromOne_nil) hname

/-- Once a name has stood in the collection, it is given: to this place or to an earlier one. -/
theorem mem_take (h : Pass [] [] names results) {i j : Nat} (hlt : i < j)
    (hname : names[i]? = some name) : name ∈ results.take j := by
  by_cases hkept : results[i]? = some name
  · exact mem_take_iff.2 ⟨i, hlt, hkept⟩
  · rw [h.getElem?_eq_iff hname] at hkept
    have hgiven : name ∈ results.take i := by simpa using hkept
    exact List.take_subset_take_left results (Nat.le_of_lt hlt) hgiven

/-- A name that stands for another time gets a number. -/
theorem exists_number_of_repeated (h : Pass [] [] names results) {i j : Nat} (hlt : i < j)
    (hfirst : names[i]? = some name) (hsecond : names[j]? = some name) :
    ∃ number, results[j]? = some (numbered name number) := by
  obtain ⟨result, hresult, rfl | ⟨number, _, rfl⟩⟩ := h.exists_variant hsecond
  · have hfree := (h.getElem?_eq_iff hsecond).1 hresult
    exact absurd (h.mem_take hlt hfirst) hfree.2
  · exact ⟨number, hresult⟩

/-- A name that is not kept has been given in the place of a name before it. -/
theorem exists_owner_of_lost (h : Pass [] [] names results) {i : Nat}
    (hname : names[i]? = some name) (hlost : results[i]? ≠ some name) :
    ∃ j < i, ∃ owner, names[j]? = some owner ∧ results[j]? = some name ∧ IsVariant owner name := by
  have hgiven : name ∈ results.take i := by simpa [h.getElem?_eq_iff hname] using hlost
  obtain ⟨j, hlt, hresult⟩ := mem_take_iff.1 hgiven
  have hlength : i < names.length := (List.getElem?_eq_some_iff.1 hname).1
  have howner : names[j]? = some names[j] := List.getElem?_eq_getElem _
  obtain ⟨other, hother, hvariant⟩ := h.exists_variant howner
  obtain rfl := Option.some.inj (hother.symm.trans hresult)
  exact ⟨j, hlt, names[j], howner, hresult, hvariant⟩

/-- A name that is not kept stands for another time, or it is a number behind a name that is
repeated before. -/
theorem cases_of_lost (h : Pass [] [] names results) {i : Nat} (hname : names[i]? = some name)
    (hlost : results[i]? ≠ some name) :
    name ∈ names.take i ∨ ∃ base number, 2 ≤ (names.take i).count base ∧ 2 ≤ number ∧
      name = numbered base number := by
  induction i using Nat.strongRecOn generalizing name with
  | ind i ih =>
      obtain ⟨j, hlt, owner, howner, hresult, rfl | ⟨number, htwo, rfl⟩⟩ :=
        h.exists_owner_of_lost hname hlost
      · exact .inl (mem_take_iff.2 ⟨j, hlt, howner⟩)
      · right
        have hother : results[j]? ≠ some owner := by
          rw [hresult, ne_eq, Option.some.injEq]
          exact numbered_ne owner number
        rcases ih j hlt howner hother with hrepeated | ⟨base, first, hcount, hfirst, rfl⟩
        · exact ⟨owner, number, two_le_count_take hlt howner hrepeated, htwo, rfl⟩
        · -- The owner was lost itself, and is a number behind a name that is repeated.
          obtain ⟨joined, hle, heq⟩ :=
            exists_numbered_numbered base (Nat.lt_of_succ_lt hfirst) number
          have hbefore : (names.take j).Sublist (names.take i) :=
            List.take_sublist_take_left (Nat.le_of_lt hlt)
          exact ⟨base, joined, Nat.le_trans hcount (hbefore.count_le base),
            Nat.le_trans hfirst hle, heq⟩

end Pass

/-- Making the names of a collection distinct is a pass that starts with nothing. -/
theorem pass_distinct (names : List String) : Pass [] [] names (distinct names) :=
  pass_distinctFrom [] [] names

/-- Names that are made distinct are variants of the given ones, in order. -/
theorem variants_distinct (names : List String) : List.Forall₂ IsVariant names (distinct names) :=
  (pass_distinct names).variants countsFromOne_nil

/-- The names of a collection are made distinct in one pass, which comes to its end. It gives as
many names, each of them once. In the place of a name stands the name itself or the name with a
number from two on, and with a greater number each time that the name is repeated. Names that are
distinct already are left alone. -/
theorem distinct_pass (names : List String) :
    (∀ results, Pass [] [] names results ↔ results = distinct names) ∧
    (distinct names).length = names.length ∧
    (distinct names).Nodup ∧
    List.Forall₂ IsVariant names (distinct names) ∧
    (∀ (i j : Nat) (name : String), i < j → names[i]? = some name → names[j]? = some name →
      ∃ second, (distinct names)[j]? = some (numbered name second) ∧
        ∀ first, (distinct names)[i]? = some (numbered name first) → first < second) ∧
    (names.Nodup → distinct names = names) := by
  have hpass := pass_distinct names
  have hvariants := variants_distinct names
  refine ⟨fun results => pass_iff, hvariants.length_eq.symm, hpass.nodup, hvariants, ?numbers,
    fun hnodup => hpass.eq_self hnodup nofun⟩
  intro i j name hlt hfirst hsecond
  obtain ⟨second, hlater⟩ := hpass.exists_number_of_repeated hlt hfirst hsecond
  exact ⟨second, hlater, fun first hresult => hpass.number_lt hlt hfirst hsecond hresult hlater⟩

/-- A name that is repeated gets a number once more, and distinct names are left alone. -/
theorem distinct_pass_repeated :
    let names := ["a2", "a", "a", "a"]
    names[2]? = some "a" ∧ names[3]? = some "a" ∧ (distinct names)[2]? = some (numbered "a" 3) ∧
    (∃ second, (distinct names)[3]? = some (numbered "a" second) ∧ 3 < second) ∧
    ["a2", "a"].Nodup ∧ distinct ["a2", "a"] = ["a2", "a"] := by
  intro names
  obtain ⟨_, _, _, _, hnumbers, _⟩ := distinct_pass names
  obtain ⟨_, _, _, _, _, hunchanged⟩ := distinct_pass ["a2", "a"]
  obtain ⟨second, hsecond, hgreater⟩ := hnumbers 2 3 "a" (by decide) rfl rfl
  have hfirst : (distinct names)[2]? = some (numbered "a" 3) := by decide +kernel
  exact ⟨rfl, rfl, hfirst, ⟨second, hsecond, hgreater 3 hfirst⟩, by decide,
    hunchanged (by decide)⟩

/-- A name is kept exactly when it has not been given before. Then it stands for the first time; and
a name that stands for the first time is kept unless it is a number behind a name that is repeated
before it. -/
theorem distinct_first_occurrence (names : List String) {i : Nat} {name : String}
    (hname : names[i]? = some name) :
    ((distinct names)[i]? = some name ↔ name ∉ (distinct names).take i) ∧
    ((distinct names)[i]? = some name → name ∉ names.take i) ∧
    (name ∉ names.take i →
      (∀ base number, 2 ≤ (names.take i).count base → 2 ≤ number → name ≠ numbered base number) →
      (distinct names)[i]? = some name) := by
  have hpass := pass_distinct names
  refine ⟨by simp [hpass.getElem?_eq_iff hname], ?repeated, ?first⟩
  case repeated =>
    intro hkept hrepeated
    obtain ⟨j, hlt, hearlier⟩ := mem_take_iff.1 hrepeated
    obtain ⟨number, hresult⟩ := hpass.exists_number_of_repeated hlt hearlier hname
    exact numbered_ne name number (Option.some.inj (hresult.symm.trans hkept))
  case first =>
    intro hfirst hordinary
    by_contra hlost
    rcases hpass.cases_of_lost hname hlost with hrepeated | ⟨base, number, hcount, htwo, heq⟩
    · exact hfirst hrepeated
    · exact hordinary base number hcount htwo heq

/-- The repetition of the first literal takes the name of the third one, which is lost, while the
fourth one is kept. -/
theorem distinct_first_occurrence_literals :
    let names := ["value1", "value1", "value12", "value3"]
    names[2]? = some "value12" ∧ "value12" ∉ names.take 2 ∧
    (distinct names)[2]? ≠ some "value12" ∧
    names[3]? = some "value3" ∧ (distinct names)[3]? = some "value3" := by
  intro names
  have htwelve : names[2]? = some "value12" := rfl
  have hthree : names[3]? = some "value3" := rfl
  obtain ⟨hlost, _, _⟩ := distinct_first_occurrence names htwelve
  obtain ⟨_, _, hkept⟩ := distinct_first_occurrence names hthree
  refine ⟨htwelve, by decide, fun hresult => hlost.1 hresult (by decide +kernel), hthree,
    hkept (by decide) ?_⟩
  intro base number hcount _ heq
  have hmem : base ∈ names.take 3 := List.count_pos_iff.1 (by omega)
  have hbase : base = "value1" ∨ base = "value12" := by simpa [names] using hmem
  rcases hbase with rfl | rfl
  · have htexts := congrArg String.toList heq
    simp [numbered] at htexts
  · exact absurd hcount (by decide)

example : distinct ["a", "a", "a2"] = ["a", "a2", "a22"] := by decide +kernel

end SchemaGraph.Naming
