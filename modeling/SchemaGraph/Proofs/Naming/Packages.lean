import Mathlib.Data.List.DropRight
import SchemaGraph.Proofs.Naming.Forms
import SchemaGraph.Proofs.Text.Splitting

/-!
# Package names

A package name is made of the groups of letters and digits between the separators of a given name.
The groups joined again are what is left of the name when it is rewritten step by step
(`packageName_eq_rewritten`). A package name consists of groups and does not start with a digit
whatever is given (`packageName_mem`), and a name that is like this already is its own package name
(`packageName_eq_self`). So a package name is not changed when it is made into one again, and no
other name is left as it is (`packageName_stable`).
-/

namespace SchemaGraph.Naming

variable {text group : List Char} {groups : List (List Char)} {c : Char}

/-- The groups of a package name have the form of groups. -/
theorem mem_groupForm_of_mem_packageGroups :
    ∀ group ∈ packageGroups text, group ∈ groupForm := by
  intro group h
  obtain ⟨hgroup, hne⟩ := List.mem_filter.1 h
  refine mem_groupForm_iff.2 ⟨by simpa using hne, fun c hc => ?_⟩
  obtain ⟨hmem, hseparates⟩ := Text.of_mem_splitOnP hgroup c hc
  have hkept := (List.mem_filter.1 hmem).2
  rwa [hseparates, Bool.false_or] at hkept

/-- A group may be put before others. -/
theorem append_mem_groupsForm (hgroup : group ∈ groupForm) (htext : text ∈ groupsForm) :
    group ++ '_' :: text ∈ groupsForm := by
  obtain ⟨groups, hne, hgroups, rfl⟩ := mem_groupsForm_iff.1 htext
  refine mem_groupsForm_iff.2
    ⟨group :: groups, List.cons_ne_nil _ _, List.forall_mem_cons.2 ⟨hgroup, hgroups⟩, ?_⟩
  cases groups with
  | nil => exact absurd rfl hne
  | cons first later => rw [List.intercalate_cons_cons, List.append_assoc]; rfl

/-- The default name has the form of a package name. -/
theorem defaultPackage_mem :
    defaultPackage.toList ∈ groupsForm ∧ startsWithDigit defaultPackage.toList = false := by
  refine ⟨?_, by decide +kernel⟩
  refine mem_groupsForm_iff.2 ⟨["openapi".toList, "client".toList], List.cons_ne_nil _ _, ?_,
    by decide +kernel⟩
  simp only [List.forall_mem_cons, mem_groupForm_iff]
  exact ⟨⟨by decide +kernel, List.all_eq_true.1 (by decide +kernel)⟩,
    ⟨by decide +kernel, List.all_eq_true.1 (by decide +kernel)⟩, nofun⟩

/-- A package name consists of groups and does not start with a digit, whatever it is made of. -/
theorem packageName_mem (name : Option String) :
    (packageName name).toList ∈ groupsForm ∧
      startsWithDigit (packageName name).toList = false := by
  unfold packageName
  split
  · exact defaultPackage_mem
  · next hne =>
      have hjoined : ['_'].intercalate (packageGroups (name.getD "").toList) ∈ groupsForm :=
        mem_groupsForm_iff.2 ⟨_, hne, mem_groupForm_of_mem_packageGroups, rfl⟩
      dsimp only
      rw [String.toList_ofList]
      split
      · have hapi : ['a', 'p', 'i'] ∈ groupForm :=
          mem_groupForm_iff.2 ⟨List.cons_ne_nil _ _, List.all_eq_true.1 rfl⟩
        exact ⟨append_mem_groupsForm hapi hjoined, rfl⟩
      · next hdigit => exact ⟨hjoined, Bool.eq_false_iff.2 hdigit⟩

/-- The characters of groups are no separators. -/
theorem isPackageSeparator_eq_false (h : isPackageChar c) : isPackageSeparator c = false := by
  have hne : ∀ separator : Char, isPackageChar separator = false → c ≠ separator := by
    rintro _ hseparator rfl
    exact absurd h (Bool.eq_false_iff.1 hseparator)
  simp [isPackageSeparator, hne ' ' rfl, hne '-' rfl, hne '_' rfl]

/-- Groups and underscores stay as they are in lower case. -/
theorem not_isUpper_of_isPackageChar (h : isPackageChar c ∨ c = '_') :
    c.toNat < 0x80 ∧ c.isUpper = false := by
  rw [← Bool.not_eq_true, Text.isUpper_iff_toNat]
  rcases h with hchar | rfl
  · rcases Bool.or_eq_true_iff.1 hchar with hlower | hdigit
    · rw [Text.isLower_iff_toNat] at hlower
      omega
    · rw [Text.isDigit_iff_toNat] at hdigit
      omega
  · decide

/-- Groups that are joined have the characters of groups, and underscores. -/
theorem mem_of_mem_intercalate (hgroups : ∀ group ∈ groups, group ∈ groupForm)
    (hc : c ∈ ['_'].intercalate groups) : isPackageChar c ∨ c = '_' := by
  induction groups with
  | nil => cases hc
  | cons group later ih =>
      obtain ⟨hgroup, hlater⟩ := List.forall_mem_cons.1 hgroups
      have hfirst := (mem_groupForm_iff.1 hgroup).2
      cases later with
      | nil =>
          rw [List.intercalate_singleton] at hc
          exact .inl (hfirst c hc)
      | cons next later =>
          rw [List.intercalate_cons_cons, List.append_assoc] at hc
          rcases List.mem_append.1 hc with hmem | hmem
          · exact .inl (hfirst c hmem)
          · rcases List.mem_cons.1 hmem with rfl | hmem
            · exact .inr rfl
            · exact ih hlater hmem

/-- The groups of a text that consists of groups are these. -/
theorem packageGroups_intercalate (hne : groups ≠ [])
    (hgroups : ∀ group ∈ groups, group ∈ groupForm) :
    packageGroups (['_'].intercalate groups) = groups := by
  -- Nothing is changed by lower case and left out by the filter before the text is split.
  have hlower : Text.lower (['_'].intercalate groups) = ['_'].intercalate groups :=
    Text.lower_eq_self fun c hc => not_isUpper_of_isPackageChar (mem_of_mem_intercalate hgroups hc)
  have hkept : (['_'].intercalate groups).filter
      (fun c => isPackageSeparator c || isPackageChar c) = ['_'].intercalate groups := by
    refine List.filter_eq_self.2 fun c hc => Bool.or_eq_true_iff.2 ?_
    rcases mem_of_mem_intercalate hgroups hc with hchar | rfl
    · exact .inr hchar
    · exact .inl rfl
  have hsplit : (['_'].intercalate groups).splitOnP isPackageSeparator = groups := by
    refine Text.splitOnP_intercalate rfl hne fun group hgroup c hc => ?_
    exact isPackageSeparator_eq_false ((mem_groupForm_iff.1 (hgroups group hgroup)).2 c hc)
  rw [packageGroups, hlower, hkept, hsplit]
  refine List.filter_eq_self.2 fun group hgroup => ?_
  simpa using (mem_groupForm_iff.1 (hgroups group hgroup)).1

/-- A name that consists of groups and does not start with a digit is left as it is. -/
theorem packageName_eq_self {name : String} (h : name.toList ∈ groupsForm)
    (hdigit : startsWithDigit name.toList = false) : packageName (some name) = name := by
  obtain ⟨groups, hne, hgroups, heq⟩ := mem_groupsForm_iff.1 h
  have hsame : packageGroups name.toList = groups := by
    rw [heq, packageGroups_intercalate hne hgroups]
  rw [packageName, Option.getD_some, hsame]
  cases groups with
  | nil => exact absurd rfl hne
  | cons first later =>
      dsimp only
      rw [← heq, hdigit, if_neg Bool.false_ne_true, String.ofList_toList]

section Rewriting

variable {c d : Char}

/-- A text with an underscore in the place of each space and hyphen. -/
def underscored (text : List Char) : List Char :=
  text.map fun c => if c = ' ' || c = '-' then '_' else c

/-- A text with one underscore in the place of each run of underscores. -/
def collapsed : List Char → List Char
  | [] => []
  | c :: rest => if c = '_' ∧ rest.head? = some '_' then collapsed rest else c :: collapsed rest

/-- A text without the underscores at its ends. -/
def trimmed (text : List Char) : List Char :=
  (text.rdropWhile (· = '_')).dropWhile (· = '_')

/-- The rewriting steps for a package name: lower case, underscores in the place of spaces and
hyphens, nothing but the characters of groups and underscores, one underscore for each run, and none
at the ends. -/
def rewritten (name : List Char) : List Char :=
  trimmed (collapsed ((underscored (Text.lower name)).filter fun c => isPackageChar c || c = '_'))

/-- The groups of a text between its underscores. -/
def underscoreGroups (text : List Char) : List (List Char) :=
  (text.splitOnP (· = '_')).filter fun group => !group.isEmpty

/-- The groups of a text between its underscores, joined again. -/
def joinedGroups (text : List Char) : List Char :=
  ['_'].intercalate (underscoreGroups text)

/-- A character that is no underscore belongs to the group after it. -/
theorem splitOnP_cons_of_ne (hc : c ≠ '_') (text : List Char) :
    (c :: text).splitOnP (· = '_') = (text.splitOnP (· = '_')).modifyHead (c :: ·) := by
  rw [List.splitOnP_cons_eq_if_modifyHead, if_neg (by simpa using hc)]

/-- An underscore ends an empty group. -/
theorem splitOnP_cons_underscore (text : List Char) :
    ('_' :: text).splitOnP (· = '_') = [] :: text.splitOnP (· = '_') := by
  rw [List.splitOnP_cons_eq_if_modifyHead, if_pos (by decide)]

/-- An underscore at the start makes no difference to the groups. -/
theorem underscoreGroups_underscore (text : List Char) :
    underscoreGroups ('_' :: text) = underscoreGroups text := by
  rw [underscoreGroups, splitOnP_cons_underscore]
  rfl

/-- A character before an underscore is a group. -/
theorem underscoreGroups_cons_underscore (hc : c ≠ '_') (text : List Char) :
    underscoreGroups (c :: '_' :: text) = [c] :: underscoreGroups text := by
  rw [underscoreGroups, splitOnP_cons_of_ne hc, splitOnP_cons_underscore]
  rfl

/-- A character before another one belongs to the same group. -/
theorem underscoreGroups_cons_cons (hc : c ≠ '_') (hd : d ≠ '_') (text : List Char) :
    ∃ group groups, underscoreGroups (d :: text) = (d :: group) :: groups ∧
      underscoreGroups (c :: d :: text) = (c :: d :: group) :: groups := by
  rw [underscoreGroups, underscoreGroups, splitOnP_cons_of_ne hc, splitOnP_cons_of_ne hd]
  cases hsplit : text.splitOnP (· = '_') with
  | nil => exact absurd hsplit (List.splitOnP_ne_nil _ _)
  | cons first later => exact ⟨first, _, rfl, rfl⟩

/-- No group means nothing to join. -/
theorem joinedGroups_eq_nil_iff : joinedGroups text = [] ↔ underscoreGroups text = [] := by
  rw [joinedGroups]
  constructor
  · intro h
    cases hgroups : underscoreGroups text with
    | nil => rfl
    | cons group groups =>
        have hgroup : group ∈ underscoreGroups text := hgroups ▸ List.mem_cons_self
        rw [hgroups, intercalate_cons] at h
        have hne := (List.mem_filter.1 hgroup).2
        rw [(List.append_eq_nil_iff.1 h).1] at hne
        cases hne
  · intro h
    rw [h]
    rfl

/-- The groups of a text with another character before it, joined. The character starts the first
group, or it is a group of its own when an underscore follows it. -/
theorem joinedGroups_cons (hc : c ≠ '_') (rest : List Char) :
    joinedGroups (c :: rest) =
      c :: if rest.head? = some '_' ∧ underscoreGroups rest ≠ [] then '_' :: joinedGroups rest
        else joinedGroups rest := by
  cases rest with
  | nil => simp [joinedGroups, underscoreGroups, splitOnP_cons_of_ne hc]
  | cons d later =>
      by_cases hd : d = '_'
      · subst hd
        rw [joinedGroups, joinedGroups, underscoreGroups_cons_underscore hc,
          underscoreGroups_underscore]
        cases underscoreGroups later with
        | nil => simp
        | cons group groups => simp [List.intercalate_cons_cons]
      · obtain ⟨group, groups, hlater, hjoined⟩ := underscoreGroups_cons_cons hc hd later
        rw [joinedGroups, joinedGroups, hlater, hjoined, intercalate_cons, intercalate_cons]
        simp [hd]

/-- A character at the start is dropped from the end when everything is. -/
theorem rdropWhile_cons (p : Char → Bool) (c : Char) (text : List Char) :
    (c :: text).rdropWhile p =
      if text.rdropWhile p = [] ∧ p c then [] else c :: text.rdropWhile p := by
  rw [List.rdropWhile, List.reverse_cons, List.dropWhile_append]
  simp only [List.isEmpty_iff, List.rdropWhile, List.reverse_eq_nil_iff]
  by_cases hnil : text.reverse.dropWhile p = []
  · by_cases hc : p c <;> simp [hnil, hc]
  · simp [hnil]

/-- Collapsed and trimmed at its end, a text is its groups joined, behind an underscore if it starts
with one and has groups. -/
theorem rdropWhile_collapsed (text : List Char) :
    (collapsed text).rdropWhile (· = '_') =
      if text.head? = some '_' ∧ underscoreGroups text ≠ [] then '_' :: joinedGroups text
      else joinedGroups text := by
  induction text with
  | nil => rfl
  | cons c rest ih =>
      rw [collapsed]
      by_cases hc : c = '_'
      · subst hc
        have hsame : joinedGroups ('_' :: rest) = joinedGroups rest := by
          rw [joinedGroups, joinedGroups, underscoreGroups_underscore]
        rw [hsame, underscoreGroups_underscore]
        -- Of two underscores the first one is left out. The last of a run is kept if a group
        -- follows.
        by_cases hrest : rest.head? = some '_'
        · rw [if_pos ⟨rfl, hrest⟩, ih]
          simp [hrest]
        · have hkept : (collapsed rest).rdropWhile (· = '_') = joinedGroups rest :=
            ih.trans (if_neg fun h => hrest h.1)
          rw [if_neg fun h => hrest h.2, rdropWhile_cons, hkept]
          by_cases hnone : underscoreGroups rest = []
          · simp [hnone, joinedGroups_eq_nil_iff.2 hnone]
          · simp [hnone, joinedGroups_eq_nil_iff]
      · have hhead : ¬ ((c :: rest).head? = some '_' ∧ underscoreGroups (c :: rest) ≠ []) :=
          fun h => hc (Option.some.inj h.1)
        rw [if_neg fun h => hc h.1, if_neg hhead, rdropWhile_cons, ih, joinedGroups_cons hc]
        exact if_neg fun h => hc (of_decide_eq_true h.2)

/-- Joined groups do not start with an underscore. -/
theorem dropWhile_joinedGroups (text : List Char) :
    (joinedGroups text).dropWhile (· = '_') = joinedGroups text := by
  rw [joinedGroups]
  cases hgroups : underscoreGroups text with
  | nil => rfl
  | cons group groups =>
      obtain ⟨hsplit, hne⟩ := List.mem_filter.1 (hgroups ▸ List.mem_cons_self)
      rw [intercalate_cons]
      cases group with
      | nil => cases hne
      | cons c rest =>
          have hc := (Text.of_mem_splitOnP hsplit c List.mem_cons_self).2
          exact List.dropWhile_cons_of_neg (Bool.eq_false_iff.1 hc)

/-- Collapsed and trimmed, a text is its groups joined. -/
theorem trimmed_collapsed (text : List Char) : trimmed (collapsed text) = joinedGroups text := by
  rw [trimmed, rdropWhile_collapsed]
  split
  · rw [List.dropWhile_cons_of_pos (by decide), dropWhile_joinedGroups]
  · exact dropWhile_joinedGroups text

/-- It makes no difference whether separators are replaced before the text is split. -/
theorem splitOnP_underscored (text : List Char) :
    ((underscored text).filter fun c => isPackageChar c || c = '_').splitOnP (· = '_') =
      (text.filter fun c => isPackageSeparator c || isPackageChar c).splitOnP
        isPackageSeparator := by
  induction text with
  | nil => rfl
  | cons c rest ih =>
      rw [underscored, List.map_cons, ← underscored]
      by_cases hseparator : isPackageSeparator c
      · have hstep : (if c = ' ' || c = '-' then '_' else c) = '_' := by
          split
          · rfl
          · next hother => simpa [isPackageSeparator, hother] using hseparator
        have hkept : isPackageSeparator c || isPackageChar c := by rw [hseparator, Bool.true_or]
        rw [hstep, List.filter_cons_of_pos (by decide), List.filter_cons, if_pos hkept,
          splitOnP_cons_underscore, ih, List.splitOnP_cons_eq_if_modifyHead, if_pos hseparator]
      · have hne : c ≠ ' ' ∧ c ≠ '-' ∧ c ≠ '_' := by
          simpa [isPackageSeparator, and_assoc] using hseparator
        have hstep : (if c = ' ' || c = '-' then '_' else c) = c := by simp [hne.1, hne.2.1]
        rw [hstep]
        by_cases hchar : isPackageChar c
        · have hleft : isPackageChar c || c = '_' := by rw [hchar, Bool.true_or]
          have hright : isPackageSeparator c || isPackageChar c := by rw [hchar, Bool.or_true]
          rw [List.filter_cons, if_pos hleft, List.filter_cons, if_pos hright,
            splitOnP_cons_of_ne hne.2.2, ih, List.splitOnP_cons_eq_if_modifyHead,
            if_neg hseparator]
        · rw [List.filter_cons_of_neg (by simp [hchar, hne]),
            List.filter_cons_of_neg (by simp [hchar, hseparator]), ih]

/-- The steps join the groups of a name. -/
theorem rewritten_eq (name : List Char) :
    rewritten name = ['_'].intercalate (packageGroups name) := by
  rw [rewritten, trimmed_collapsed, joinedGroups, underscoreGroups, splitOnP_underscored]
  rfl

/-- A package name is what the steps leave of a name, after `api` when a digit would come first. The
default name stands in when nothing is left. -/
theorem packageName_eq_rewritten (name : Option String) :
    packageName name =
      let left := rewritten (name.getD "").toList
      if left = [] then defaultPackage
      else String.ofList (if startsWithDigit left then "api_".toList ++ left else left) := by
  dsimp only
  rw [rewritten_eq, packageName]
  have hgroups : ∀ group ∈ packageGroups (name.getD "").toList, group ∈ groupForm :=
    mem_groupForm_of_mem_packageGroups
  cases hnone : packageGroups (name.getD "").toList with
  | nil => rfl
  | cons group groups =>
      rw [hnone] at hgroups
      have hne := (mem_groupForm_iff.1 (hgroups group List.mem_cons_self)).1
      have hleft : ['_'].intercalate (group :: groups) ≠ [] := by
        rw [intercalate_cons]
        exact fun h => hne (List.append_eq_nil_iff.1 h).1
      rw [if_neg hleft]

end Rewriting

/-- Whatever name is given, the package name made of it consists of one or more groups of lowercase
letters and digits that are joined by single underscores, and it does not start with a digit. Making
a package name of it again leaves it as it is. Only names like this are left as they are. -/
theorem packageName_stable :
    (∀ name : Option String,
      (packageName name).toList ∈ groupsForm ∧
      startsWithDigit (packageName name).toList = false ∧
      packageName (some (packageName name)) = packageName name) ∧
    ∀ name : String, packageName (some name) = name ↔
      name.toList ∈ groupsForm ∧ startsWithDigit name.toList = false := by
  refine ⟨fun name => ?stable, fun name => ⟨fun hsame => ?left, fun h => ?kept⟩⟩
  case stable =>
    obtain ⟨hgroups, hdigit⟩ := packageName_mem name
    exact ⟨hgroups, hdigit, packageName_eq_self hgroups hdigit⟩
  case left =>
    rw [← hsame]
    exact packageName_mem (some name)
  case kept => exact packageName_eq_self h.1 h.2

example : packageName (some "My-API@2.0_Client!") = "my_api20_client" := by decide +kernel

end SchemaGraph.Naming
