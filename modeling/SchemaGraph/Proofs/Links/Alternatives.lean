import Mathlib.Data.List.Perm.Basic
import SchemaGraph.Proofs.Links.Claims
import SchemaGraph.Proofs.Naming.Repetitions

/-!
# Alternatives of sum types

A member of a sum type becomes an alternative when it names a schema or is a scalar, an object, a
list or a map in place, and is dropped with a report otherwise. `SumType.presents_build` says what
is built from a composition as a whole: the alternatives in the order of the members, the names that
are made up for those in place, the registered schemas and the tag.
-/

namespace SchemaGraph

/-- Whether a member becomes an alternative of a sum type. -/
def SchemaUse.isAlternative : SchemaUse → Bool
  | .named _ => true
  | .inline (.alias _) | .inline (.scalar _) | .inline (.object _) | .inline (.array _)
  | .inline (.map _) => true
  | .inline (.composition _) | .inline .any | .inline .unknown => false

/-- The reference leads to an entry of the table. -/
def Table.Finds (table : Table) (reference : String) : Prop :=
  ∃ name schema, table.LeadsTo reference name schema

namespace Table

variable {table : Table} {reference : String}

/-- A reference leads to an entry when it is resolved. -/
theorem finds_iff : table.Finds reference ↔ (table.resolve? reference).isOk := by
  constructor
  · rintro ⟨name, schema, hleads⟩
    rw [hleads.resolve?_eq]
    rfl
  · intro hok
    cases hresolve : table.resolve? reference with
    | ok resolved => exact ⟨_, _, resolve?_eq_ok_iff.1 hresolve⟩
    | error failure =>
        rw [hresolve] at hok
        cases hok

instance (table : Table) : DecidablePred table.Finds :=
  fun _ => decidable_of_iff _ finds_iff.symm

end Table

namespace SumType

/-- The name of the class for a scalar in place, before names are made distinct. -/
def wrapperBase (namer : Namer) (parent : String) (kind : ScalarKind) : String :=
  namer.className parent ++ kind.classWord

/-- The name of the class for another schema in place at a position. -/
def optionName (namer : Namer) (parent : String) (position : Nat) : String :=
  Naming.numbered (namer.className parent ++ "Option") position

/-- How the member at a position is shown among the alternatives of a sum type. -/
inductive Shows (table : Table) (namer : Namer) (parent : String) :
    SchemaUse × Nat → Alternative → Prop where
  /-- A reference that is resolved is shown as the entry that it leads to. -/
  | found {member : SchemaUse} {position : Nat} {reference name : String} {schema : Schema}
      (hnames : member.Names reference) (hleads : table.LeadsTo reference name schema) :
      Shows table namer parent (member, position) (.reference name (namer.className name))
  /-- A reference that is not resolved is shown as the stand-in. -/
  | missing {member : SchemaUse} {position : Nat} {reference : String}
      (hnames : member.Names reference) (hmissing : ¬ table.Finds reference) :
      Shows table namer parent (member, position)
        (.reference Resolved.unknownName (namer.className Resolved.unknownName))
  /-- A scalar is wrapped in a class named for its kind, with a number when there are several. -/
  | scalar {leaf : Scalar} {position : Nat} {name : String}
      (hname : Naming.IsVariant (wrapperBase namer parent leaf.kind) name) :
      Shows table namer parent (.inline (.scalar leaf), position) (.wrapped leaf.kind name)
  /-- An object has a class named for its position. -/
  | object (shape : ObjectShape) (position : Nat) :
      Shows table namer parent (.inline (.object shape), position)
        (.inline position (optionName namer parent position))
  /-- A list has a class named for its position. -/
  | array (items : SchemaUse) (position : Nat) :
      Shows table namer parent (.inline (.array items), position)
        (.inline position (optionName namer parent position))
  /-- A map has a class named for its position. -/
  | map (values : SchemaUse) (position : Nat) :
      Shows table namer parent (.inline (.map values), position)
        (.inline position (optionName namer parent position))

/-- The report that the member at a position is no alternative. -/
def droppedReport (parent : String) (kind : CompositionKind) (member : SchemaUse × Nat) : Report :=
  ⟨some parent, .alternativeDropped kind.keyword member.2
    (((Use.schema? member.1).map Schema.label).getD "unknown")⟩

variable {table : Table} {namer : Namer} {parent : String} {kind : CompositionKind}

/-- A member that names a schema is shown as what the reference leads to. -/
theorem shows_of_names {member : SchemaUse} {reference : String} (hnames : member.Names reference)
    (position : Nat) :
    let resolved := (table.resolve? reference).toOption.getD .unknown
    Shows table namer parent (member, position)
      (.reference resolved.name (namer.className resolved.name)) := by
  cases hresolve : table.resolve? reference with
  | ok resolved => exact .found hnames (Table.resolve?_eq_ok_iff.1 hresolve)
  | error failure =>
      refine .missing hnames fun hfinds => ?_
      rw [Table.finds_iff, hresolve] at hfinds
      cases hfinds

/-- What a member that names a schema gives is not reported as dropped. -/
theorem classify_of_names {member : SchemaUse} {reference : String}
    (hnames : member.Names reference) (position : Nat) (registry : Registry) :
    let result := classify table namer parent kind position member registry
    result.ofKind .alternativeDropped = [] ∧ ∃ alternative,
      result.value.1 = some alternative ∧
        Shows table namer parent (member, position) alternative := by
  intro result
  have htarget := SchemaUse.target?_eq_some_iff.2 hnames
  have hresolve : (table.resolve (some parent) reference).ofKind .alternativeDropped = [] :=
    (Table.every_resolve.mono fun _ h => by rcases h with h | h <;> simp [h]).ofKind_eq_nil
  have hregister : ∀ child, (registry.register child parent).ofKind .alternativeDropped = [] :=
    fun child => (Registry.every_register.mono fun _ h => by simp [h]).ofKind_eq_nil
  unfold result classify
  rw [htarget]
  refine ⟨?reports, _, ?value, shows_of_names hnames position⟩
  case value =>
    dsimp only
    rw [Reported.value_bind, Table.value_resolve]
    split <;> rfl
  case reports =>
    simp only [Reported.ofKind_bind, hresolve]
    split
    · rfl
    · rw [Reported.ofKind_bind, hregister]
      rfl

/-- A member becomes an alternative that shows it and is not reported, or else it is dropped and
reported once. -/
theorem classify_cases (table : Table) (namer : Namer) (parent : String) (kind : CompositionKind)
    (member : SchemaUse) (position : Nat) (registry : Registry) :
    let result := classify table namer parent kind position member registry
    (member.isAlternative = true ∧ result.ofKind .alternativeDropped = [] ∧
      ∃ alternative, result.value.1 = some alternative ∧
        Shows table namer parent (member, position) alternative) ∨
    (member.isAlternative = false ∧ result.value.1 = none ∧
      result.ofKind .alternativeDropped = [droppedReport parent kind (member, position)]) := by
  intro result
  cases member with
  | named reference =>
      exact .inl ⟨rfl, classify_of_names (.reference reference) position registry⟩
  | inline schema =>
      cases schema with
      | «alias» reference =>
          exact .inl ⟨rfl, classify_of_names (.inlineAlias reference) position registry⟩
      | scalar leaf => exact .inl ⟨rfl, rfl, _, rfl, .scalar (.inl rfl)⟩
      | object shape => exact .inl ⟨rfl, rfl, _, rfl, .object shape position⟩
      | array items => exact .inl ⟨rfl, rfl, _, rfl, .array items position⟩
      | map values => exact .inl ⟨rfl, rfl, _, rfl, .map values position⟩
      | composition parts => exact .inr ⟨rfl, rfl, rfl⟩
      | any => exact .inr ⟨rfl, rfl, rfl⟩
      | unknown => exact .inr ⟨rfl, rfl, rfl⟩

/-- The members of a sum type with their positions that become alternatives. -/
def shownMembers (position : Nat) (members : List SchemaUse) : List (SchemaUse × Nat) :=
  (members.zipIdx position).filter fun member => member.1.isAlternative

/-- The members of a sum type with their positions that are dropped. -/
def droppedMembers (position : Nat) (members : List SchemaUse) : List (SchemaUse × Nat) :=
  (members.zipIdx position).filter fun member => !member.1.isAlternative

/-- The alternatives show the members that become one, in order. -/
theorem shows_classifyAll (position : Nat) (members : List SchemaUse) (registry : Registry) :
    List.Forall₂ (Shows table namer parent) (shownMembers position members)
      (classifyAll table namer parent kind position members registry).value.1 := by
  induction members generalizing position registry with
  | nil => exact .nil
  | cons member rest ih =>
      rw [shownMembers, List.zipIdx_cons]
      simp only [classifyAll, Reported.value_bind, Reported.value_pure]
      rcases classify_cases table namer parent kind member position registry with
        ⟨hmember, _, alternative, hvalue, hshows⟩ | ⟨hmember, hvalue, _⟩
      · rw [List.filter_cons_of_pos (by simpa using hmember), hvalue]
        exact .cons hshows (ih _ _)
      · rw [List.filter_cons_of_neg (by simp [hmember]), hvalue]
        exact ih _ _

/-- The members that are dropped are reported, each once and in order. -/
theorem dropped_classifyAll (position : Nat) (members : List SchemaUse) (registry : Registry) :
    (classifyAll table namer parent kind position members registry).ofKind .alternativeDropped =
      (droppedMembers position members).map (droppedReport parent kind) := by
  induction members generalizing position registry with
  | nil => rfl
  | cons member rest ih =>
      rw [droppedMembers, List.zipIdx_cons]
      simp only [classifyAll, Reported.ofKind_bind, Reported.ofKind_pure, ih, List.append_nil]
      rcases classify_cases table namer parent kind member position registry with
        ⟨hmember, hreports, _⟩ | ⟨hmember, _, hreports⟩
      · rw [List.filter_cons_of_neg (by simp [hmember]), hreports]
        rfl
      · rw [List.filter_cons_of_pos (by simp [hmember]), hreports]
        rfl

/-- With distinct wrapper names the alternatives still show the members. -/
theorem shows_renameWrappers {members : List (SchemaUse × Nat)} {alternatives : List Alternative}
    {names : List String} (h : List.Forall₂ (Shows table namer parent) members alternatives)
    (hnames : List.Forall₂ Naming.IsVariant (wrapperNames alternatives) names) :
    List.Forall₂ (Shows table namer parent) members (renameWrappers alternatives names) := by
  induction h generalizing names with
  | nil => exact .nil
  | cons hshows _ ih =>
      cases hshows with
      | scalar hname =>
          cases hnames with
          | cons hfirst hrest => exact .cons (.scalar (hname.trans hfirst)) (ih hrest)
      | found hmember hleads => exact .cons (.found hmember hleads) (ih hnames)
      | missing hmember hmissing => exact .cons (.missing hmember hmissing) (ih hnames)
      | object shape position => exact .cons (.object shape position) (ih hnames)
      | array items position => exact .cons (.array items position) (ih hnames)
      | map values position => exact .cons (.map values position) (ih hnames)

/-- The new wrapper names are the given ones. -/
theorem wrapperNames_renameWrappers {alternatives : List Alternative} {names : List String}
    (h : names.length = (wrapperNames alternatives).length) :
    wrapperNames (renameWrappers alternatives names) = names := by
  induction alternatives generalizing names with
  | nil => exact (List.eq_nil_of_length_eq_zero h).symm
  | cons alternative rest ih =>
      cases alternative with
      | wrapped kind old =>
          cases names with
          | nil => cases h
          | cons name names => exact congrArg (name :: ·) (ih (Nat.succ.inj h))
      | reference schemaName className => exact ih h
      | inline position name => exact ih h

/-- The names that are made up for the alternatives that are no scalars. -/
def optionNames (alternatives : List Alternative) : List String :=
  alternatives.filterMap fun
    | .inline _ syntheticName => some syntheticName
    | _ => none

end SumType

/-- The name that is made up for an alternative in place. -/
def Alternative.syntheticName? : Alternative → Option String
  | .reference _ _ => none
  | .wrapped _ name | .inline _ name => some name

namespace SumType

variable {table : Table} {namer : Namer} {parent : String} {kind : CompositionKind}
  {members : List (SchemaUse × Nat)} {alternatives : List Alternative}

/-- The names that are made up are those of the wrappers and those of the other alternatives. -/
theorem syntheticNames_perm (alternatives : List Alternative) :
    (alternatives.filterMap Alternative.syntheticName?).Perm
      (wrapperNames alternatives ++ optionNames alternatives) := by
  induction alternatives with
  | nil => exact .refl _
  | cons alternative rest ih =>
      cases alternative with
      | reference schemaName className => exact ih
      | wrapped kind name => exact ih.cons name
      | inline position name => exact (ih.cons name).trans List.perm_middle.symm

/-- A wrapper is named for the kind of a scalar. -/
theorem exists_kind_of_mem_wrapperNames
    (h : List.Forall₂ (Shows table namer parent) members alternatives) {name : String}
    (hname : name ∈ wrapperNames alternatives) :
    ∃ kind, Naming.IsVariant (wrapperBase namer parent kind) name := by
  induction h with
  | nil => cases hname
  | cons hshows _ ih =>
      cases hshows with
      | scalar hvariant =>
          rcases List.mem_cons.1 hname with rfl | hrest
          · exact ⟨_, hvariant⟩
          · exact ih hrest
      | found | missing | object | array | map => exact ih hname

/-- The other alternatives in place are named for the positions of their members. -/
theorem optionNames_sublist
    (h : List.Forall₂ (Shows table namer parent) members alternatives) :
    (optionNames alternatives).Sublist ((members.map Prod.snd).map (optionName namer parent)) := by
  induction h with
  | nil => exact .slnil
  | cons hshows _ ih =>
      cases hshows with
      | found | missing | scalar => exact ih.cons _
      | object | array | map => exact ih.cons_cons _

/-- No wrapper is named like an alternative at a position. -/
theorem not_isVariant_optionName {scalar : ScalarKind} {position : Nat} :
    ¬ Naming.IsVariant (wrapperBase namer parent scalar) (optionName namer parent position) := by
  -- After the class of the sum type one goes on with an O, the other one with another letter.
  have hletters : ∀ tail, optionName namer parent position ≠
      wrapperBase namer parent scalar ++ tail := by
    intro tail heq
    rw [optionName, Naming.numbered, wrapperBase, String.append_assoc, String.append_assoc,
      String.append_right_inj] at heq
    have hheads := congrArg (fun text : String => text.toList.head?) heq
    cases scalar <;> simp [ScalarKind.classWord] at hheads
  rintro (heq | ⟨number, _, heq⟩)
  · exact hletters "" (by simpa using heq)
  · exact hletters (toString number) heq

/-- The names that are made up are distinct when those of the wrappers and the positions are. -/
theorem nodup_syntheticNames
    (h : List.Forall₂ (Shows table namer parent) members alternatives)
    (hpositions : (members.map Prod.snd).Nodup) (hwrappers : (wrapperNames alternatives).Nodup) :
    (alternatives.filterMap Alternative.syntheticName?).Nodup := by
  rw [(syntheticNames_perm alternatives).nodup_iff, List.nodup_append]
  have hoptions : ((members.map Prod.snd).map (optionName namer parent)).Nodup :=
    hpositions.map (Naming.numbered_injective _)
  refine ⟨hwrappers, hoptions.sublist (optionNames_sublist h), ?_⟩
  rintro name hwrapper _ hoption rfl
  obtain ⟨scalar, hvariant⟩ := exists_kind_of_mem_wrapperNames h hwrapper
  obtain ⟨position, _, rfl⟩ := List.mem_map.1 ((optionNames_sublist h).subset hoption)
  exact not_isVariant_optionName hvariant

/-- The alternatives that are listed. -/
theorem map_listed (alternatives : List Alternative) :
    (listed alternatives).map ListedAlternative.alternative = alternatives := by
  induction alternatives with
  | nil => rfl
  | cons alternative rest ih => rw [listed, List.map_cons, ih]

/-- The last alternative is the one without another one after it. -/
theorem hasNext_listed {alternatives : List Alternative} {i : Nat} {item : ListedAlternative}
    (h : (listed alternatives)[i]? = some item) :
    item.hasNext = false ↔ i + 1 = (listed alternatives).length := by
  induction alternatives generalizing i with
  | nil => cases h
  | cons alternative rest ih =>
      cases i with
      | zero =>
          obtain rfl := Option.some.inj h
          cases rest <;> simp [listed]
      | succ i =>
          rw [listed, List.length_cons, Nat.add_right_cancel_iff]
          exact ih h

/-- Positions are not repeated. -/
theorem nodup_positions (position : Nat) (members : List SchemaUse)
    (property : SchemaUse × Nat → Bool) :
    (((members.zipIdx position).filter property).map Prod.snd).Nodup := by
  refine List.Nodup.sublist (List.filter_sublist.map Prod.snd) ?_
  rw [List.zipIdx_map_snd]
  exact List.nodup_range'

/-- A number is read off a text in which a bracket follows it after a blank. -/
theorem eq_of_append_bracket {number other : Nat} {rest more : String}
    (h : toString number ++ (" (" ++ rest) = toString other ++ (" (" ++ more)) :
    number = other := by
  have hdigits : ∀ (value : Nat) (tail : String),
      (toString value ++ (" (" ++ tail)).toList.takeWhile Char.isDigit =
        (toString value).toList := by
    intro value tail
    have hbracket : " (".toList = [' ', '('] := rfl
    rw [String.toList_append, String.toList_append, hbracket, List.takeWhile_append_of_pos]
    · exact List.append_nil _
    · intro c hc
      rw [Nat.toString_eq_repr, Nat.toList_repr] at hc
      exact Nat.isDigit_of_mem_toDigits (by decide) (by decide) hc
  have hread := congrArg (fun text : String => text.toList.takeWhile Char.isDigit) h
  simp only [hdigits] at hread
  apply Naming.numbered_injective ""
  rw [Naming.numbered, Naming.numbered, String.toList_inj.1 hread]

/-- The position of a dropped member stands between fixed texts in its diagnostic. -/
theorem message_droppedReport (parent : String) (kind : CompositionKind)
    (member : SchemaUse × Nat) :
    ∃ rest, (droppedReport parent kind member).diagnostic.message =
      kind.keyword ++ " member " ++ (toString member.2 ++ (" (" ++ rest)) := by
  refine ⟨((Use.schema? member.1).map Schema.label).getD "unknown" ++
    ") has no reference or recognizable type; dropped", ?_⟩
  rw [← String.append_assoc, ← String.append_assoc, ← String.append_assoc]
  rfl

/-- Diagnostics about different positions differ. -/
theorem position_of_droppedReport {member other : SchemaUse × Nat}
    (h : (droppedReport parent kind member).diagnostic =
      (droppedReport parent kind other).diagnostic) : member.2 = other.2 := by
  obtain ⟨rest, hmember⟩ := message_droppedReport parent kind member
  obtain ⟨more, hother⟩ := message_droppedReport parent kind other
  have hmessage := congrArg Diagnostic.message h
  rw [hmember, hother, String.append_right_inj] at hmessage
  exact eq_of_append_bracket hmessage

/-- The diagnostics of dropped members are distinct. -/
theorem nodup_droppedDiagnostics (parent : String) (kind : CompositionKind) (position : Nat)
    (members : List SchemaUse) :
    (((droppedMembers position members).map (droppedReport parent kind)).map
      Report.diagnostic).Nodup := by
  have hpositions := nodup_positions position members fun member => !member.1.isAlternative
  rw [List.map_map]
  refine List.pairwise_map.2 ((List.pairwise_map.1 hpositions).imp ?_)
  intro member other hne heq
  exact hne (position_of_droppedReport heq)

end SumType

/-- The target of a tag is the schema that the entry of a mapping leads to, selected by the same
value. -/
def MappingEntry.Selects (table : Table) (namer : Namer) (entry : MappingEntry)
    (target : TagTarget) : Prop :=
  target.wireValue = entry.wireValue ∧ target.className = namer.className target.schemaName ∧
    ∃ schema, table.LeadsTo entry.target target.schemaName schema

namespace SumType

variable {table : Table} {namer : Namer} {parent : String}

/-- A tag selects what the entries of its mapping lead to, in order, and leaves out those that lead
to nothing. -/
theorem selects_mappedTargets (entries : List MappingEntry) :
    List.Forall₂ (MappingEntry.Selects table namer)
      (entries.filter fun entry => table.Finds entry.target)
      (mappedTargets table namer parent entries).value := by
  induction entries with
  | nil => exact .nil
  | cons entry rest ih =>
      unfold mappedTargets
      split
      · next resolved hresolve =>
          have hleads := Table.resolve?_eq_ok_iff.1 hresolve
          have hfinds : table.Finds entry.target := ⟨_, _, hleads⟩
          rw [List.filter_cons_of_pos (by simpa using hfinds)]
          exact .cons ⟨rfl, rfl, _, hleads⟩ ih
      · next failure hresolve =>
          have hmissing : ¬ table.Finds entry.target := by
            rw [Table.finds_iff, hresolve]
            exact Bool.false_ne_true
          rw [List.filter_cons_of_neg (by simpa using hmissing)]
          exact ih

/-- The name of the property that a tag would have. -/
def tagName (discriminator : Discriminator) : List Char :=
  Text.trim discriminator.propertyName.toList

/-- A `oneOf` has a tag when its discriminator names a property. -/
theorem value_tagOf_oneOf {parts : Composition} {alternatives : List Alternative}
    {discriminator : Discriminator} (hkind : parts.kind = .oneOf)
    (hdiscriminator : parts.discriminator = some discriminator) :
    (tagOf table namer parent parts alternatives).value =
      if tagName discriminator = [] then none
      else some ⟨String.ofList (tagName discriminator),
        if discriminator.mapping = [] then implicitTargets table alternatives
        else (mappedTargets table namer parent discriminator.mapping).value⟩ := by
  unfold tagOf tagName
  rw [hkind, hdiscriminator]
  simp only [List.isEmpty_iff]
  split
  · rfl
  · split <;> rfl

/-- Other compositions have no tag. -/
theorem value_tagOf_other {parts : Composition} {alternatives : List Alternative}
    (h : parts.kind ≠ .oneOf ∨ parts.discriminator = none) :
    (tagOf table namer parent parts alternatives).value = none := by
  unfold tagOf
  split
  · next discriminator hkind hdiscriminator =>
      rcases h with hother | hnone
      · exact absurd hkind hother
      · cases hdiscriminator.symm.trans hnone
  · rfl

/-- There is a tag for a `oneOf` whose discriminator names a property. -/
theorem isSome_tagOf_iff {parts : Composition} {alternatives : List Alternative} :
    (tagOf table namer parent parts alternatives).value.isSome ↔ parts.kind = .oneOf ∧
      ∃ discriminator ∈ parts.discriminator, tagName discriminator ≠ [] := by
  cases hdiscriminator : parts.discriminator with
  | none => simp [value_tagOf_other (.inr hdiscriminator)]
  | some discriminator =>
      by_cases hkind : parts.kind = .oneOf
      · rw [value_tagOf_oneOf hkind hdiscriminator]
        split
        · next hname => simp [hname]
        · next hname => simp [hkind, hname]
      · simp [value_tagOf_other (.inl hkind), hkind]

/-- A tag has the name of the property of a discriminator, and selects what its mapping gives, or
the alternatives themselves when it has none. -/
theorem exists_discriminator_of_tagOf {parts : Composition} {alternatives : List Alternative}
    {tag : Tag} (htag : (tagOf table namer parent parts alternatives).value = some tag) :
    ∃ discriminator ∈ parts.discriminator,
      tag.propertyName = String.ofList (tagName discriminator) ∧
      tag.mappings = if discriminator.mapping = [] then implicitTargets table alternatives
        else (mappedTargets table namer parent discriminator.mapping).value := by
  obtain ⟨hkind, discriminator, hdiscriminator, hname⟩ :=
    isSome_tagOf_iff.1 (Option.isSome_of_mem htag)
  rw [value_tagOf_oneOf hkind hdiscriminator, if_neg hname] at htag
  cases htag
  exact ⟨discriminator, hdiscriminator, rfl, rfl⟩

/-- What is built from a composition named `parent`. -/
structure Presents (table : Table) (namer : Namer) (parent : String) (parts : Composition)
    (registry : Registry) (built : Reported (SumType × Registry)) : Prop where
  kind : built.value.1.kind = parts.kind
  /-- The alternatives show the members that become one, in order. -/
  alternatives : List.Forall₂ (Shows table namer parent) (shownMembers 1 parts.members)
    (built.value.1.alternatives.map ListedAlternative.alternative)
  /-- Each of the other members is entered in the log, unless it held such entries before. -/
  dropped : ∀ log : Log,
    (∀ diagnostic ∈ log.ofKind .alternativeDropped, diagnostic.subject ≠ some parent) →
    (log.record built.reports).ofKind .alternativeDropped = log.ofKind .alternativeDropped ++
      (droppedMembers 1 parts.members).map fun member =>
        (droppedReport parent parts.kind member).diagnostic
  /-- The names that are made up are distinct. -/
  syntheticNames : (built.value.1.alternatives.filterMap fun listed =>
    listed.alternative.syntheticName?).Nodup
  /-- The last alternative is the one without another one after it. -/
  hasNext : ∀ (i : Nat) (listed : ListedAlternative),
    built.value.1.alternatives[i]? = some listed →
      (listed.hasNext = false ↔ i + 1 = built.value.1.alternatives.length)
  /-- The claimed schemas are entered with the parent, in order, and nothing else is. -/
  registered : built.value.2.parents = (parts.members.filterMap (SchemaUse.claimed? table)).foldl
    (fun entries child => Keyed.put entries child parent) registry.parents
  /-- What is claimed is what references are resolved to. -/
  claimed : ∀ child, child ∈ parts.members.filterMap (SchemaUse.claimed? table) ↔
    ∃ member ∈ parts.members, ∃ reference schema, SchemaUse.Names member reference ∧
      table.LeadsTo reference child schema ∧ schema ≠ .unknown
  /-- There is a tag for a `oneOf` whose discriminator names a property. -/
  tagged : built.value.1.tag.isSome ↔ parts.kind = .oneOf ∧
    ∃ discriminator ∈ parts.discriminator, tagName discriminator ≠ []
  /-- The tag has the name of this property and selects what the entries of a mapping lead to, in
  order. Entries that lead to nothing are left out. -/
  tag : ∀ tag ∈ built.value.1.tag, ∃ discriminator ∈ parts.discriminator,
    tag.propertyName = String.ofList (tagName discriminator) ∧
    (discriminator.mapping ≠ [] → List.Forall₂ (MappingEntry.Selects table namer)
      (discriminator.mapping.filter fun entry => table.Finds entry.target) tag.mappings)

/-- The alternatives of a composition are the classified members with distinct wrapper names. -/
theorem map_alternatives_build {parts : Composition} {registry : Registry} :
    (build table namer parent parts registry).value.1.alternatives.map
        ListedAlternative.alternative =
      withDistinctWrappers
        (classifyAll table namer parent parts.kind 1 parts.members registry).value.1 := by
  simp only [build, Reported.value_bind, Reported.value_pure, map_listed]

variable (table namer parent) (parts : Composition) (registry : Registry)

/-- The alternatives of a composition show the members that become one. -/
theorem shows_build :
    List.Forall₂ (Shows table namer parent) (shownMembers 1 parts.members)
      ((build table namer parent parts registry).value.1.alternatives.map
        ListedAlternative.alternative) := by
  rw [map_alternatives_build]
  exact shows_renameWrappers (shows_classifyAll 1 parts.members registry)
    (Naming.variants_distinct _)

/-- The wrapper names of a composition are distinct. -/
theorem nodup_wrapperNames_build :
    (wrapperNames ((build table namer parent parts registry).value.1.alternatives.map
      ListedAlternative.alternative)).Nodup := by
  have hlength := fun names => (Naming.variants_distinct names).length_eq.symm
  rw [map_alternatives_build, withDistinctWrappers, wrapperNames_renameWrappers (hlength _)]
  exact (Naming.pass_distinct _).nodup

/-- The members that are dropped are reported when a sum type is built. -/
theorem dropped_build :
    (build table namer parent parts registry).ofKind .alternativeDropped =
      (droppedMembers 1 parts.members).map (droppedReport parent parts.kind) := by
  have htag : ∀ alternatives, (tagOf table namer parent parts alternatives).ofKind
      .alternativeDropped = [] :=
    fun _ => (every_tagOf.mono fun _ h => by simp [h]).ofKind_eq_nil
  simp only [build, Reported.ofKind_bind, Reported.ofKind_pure, dropped_classifyAll, htag,
    List.append_nil]

/-- The members that are dropped are entered in a log that knows of none of the composition. -/
theorem ofKind_record_build {log : Log}
    (hlog : ∀ diagnostic ∈ log.ofKind .alternativeDropped, diagnostic.subject ≠ some parent) :
    (log.record (build table namer parent parts registry).reports).ofKind .alternativeDropped =
      log.ofKind .alternativeDropped ++ (droppedMembers 1 parts.members).map fun member =>
        (droppedReport parent parts.kind member).diagnostic := by
  have hdropped := dropped_build table namer parent parts registry
  have hdistinct := nodup_droppedDiagnostics parent parts.kind 1 parts.members
  rw [Reported.ofKind] at hdropped
  rw [Log.ofKind_record ?_ (by rwa [hdropped]), hdropped, List.map_map]
  · rfl
  · intro report hreport hkind hmem
    have hmember : report ∈
        (droppedMembers 1 parts.members).map (droppedReport parent parts.kind) := by
      rw [← hdropped]
      exact List.mem_filter.2 ⟨hreport, by simpa using hkind⟩
    obtain ⟨member, _, rfl⟩ := List.mem_map.1 hmember
    exact hlog _ (List.mem_filter.2 ⟨hmem, decide_eq_true hkind⟩) rfl

/-- What is built from a composition presents it. -/
theorem presents_build :
    Presents table namer parent parts registry (build table namer parent parts registry) where
  kind := rfl
  alternatives := shows_build table namer parent parts registry
  dropped _ hlog := ofKind_record_build table namer parent parts registry hlog
  syntheticNames := by
    have hnames := nodup_syntheticNames (shows_build table namer parent parts registry)
      (nodup_positions 1 _ _) (nodup_wrapperNames_build table namer parent parts registry)
    rwa [List.filterMap_map] at hnames
  hasNext _ _ hlisted := hasNext_listed hlisted
  registered := parents_classifyAll 1 parts.members registry
  claimed child := by simp only [List.mem_filterMap, SchemaUse.claimed?_eq_some_iff]
  tagged := isSome_tagOf_iff
  tag tag htag := by
    obtain ⟨discriminator, hdiscriminator, hname, hmappings⟩ := exists_discriminator_of_tagOf htag
    refine ⟨discriminator, hdiscriminator, hname, fun hmapping => ?_⟩
    rw [hmappings, if_neg hmapping]
    exact selects_mappedTargets discriminator.mapping

-- The member that admits any value is dropped, and the positions of the others stay.
example :
    let table : Table := ⟨[("Cat", .object ObjectShape.empty)], by decide⟩
    let text : SchemaUse := .inline (.scalar ⟨.string, none, [], Docs.none⟩)
    let parts : Composition := ⟨.oneOf, [text, .named "#/components/schemas/Cat", .inline .any,
      text, .named "#/components/schemas/Ghost", .inline (.array text)], none, Docs.none⟩
    let built := build table ⟨.builtin, Namer.defaultSuffix⟩ "Pet" parts .empty
    built.value.1.alternatives.map (fun listed =>
        (listed.alternative.typeName, listed.hasNext)) =
      [("PetString", true), ("Cat", true), ("PetString2", true), ("UnknownSchema", true),
        ("PetOption6", false)] ∧
    built.value.2.parents = [("Cat", "Pet")] := by
  decide +kernel

end SumType

end SchemaGraph
