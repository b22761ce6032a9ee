import SchemaGraph.Proofs.ForeignReferences
import SchemaGraph.Proofs.Text.PercentEncoding
import SchemaGraph.Proofs.Text.Splitting

/-!
# Pointers to names

`Reference.encodeSegment` writes a name as a segment of a fragment: a tilde as `~0`, a slash as
`~1`, and then everything but unreserved characters in percent escapes. Read
`Reference.pointerTo_names` first: whatever the name is, the pointer to it is read back as this name
and no other, and leads to the schema that a table has under it. The escapes are undone one after
the other; what is left in between is a `partlyDecoded` name.
-/

namespace SchemaGraph.Reference

/-- A name with the escapes that a pointer has for tildes and slashes. -/
def escapeSlashes (name : List Char) : List Char :=
  name.flatMap fun c => if c = '~' then ['~', '0'] else if c = '/' then ['~', '1'] else [c]

/-- The segment that names a name in a fragment. -/
def encodeSegment (name : List Char) : List Char :=
  Text.percentEncode (escapeSlashes name)

/-- The local pointer to a name in a section of the components. -/
def pointerTo (area name : String) : String :=
  String.ofList ("#/components/".toList ++ area.toList ++ '/' :: encodeSegment name.toList)

section Segments

variable {first second result c : Char} {rest text : List Char}

/-- A text without the first character of the pair is kept. -/
theorem replacePair_append (kept : List Char) (h : first ∉ kept) :
    replacePair first second result (kept ++ rest) =
      kept ++ replacePair first second result rest := by
  induction kept with
  | nil => rfl
  | cons a kept ih =>
      obtain ⟨hne, hnot⟩ := List.ne_and_not_mem_of_not_mem_cons h
      have hstep : ∀ more : List Char, replacePair first second result (a :: more) =
          a :: replacePair first second result more := by
        intro more
        cases more with
        | nil => rfl
        | cons b more => rw [replacePair, if_neg fun hpair => hne hpair.1.symm]
      rw [List.cons_append, hstep, ih hnot, List.cons_append]

/-- The pair is replaced. -/
theorem replacePair_pair :
    replacePair first second result (first :: second :: rest) =
      result :: replacePair first second result rest := by
  rw [replacePair, if_pos ⟨rfl, rfl⟩]

/-- Another pair with the same first character is kept. -/
theorem replacePair_other {other : Char} (hother : other ≠ second) (hfirst : first ≠ other) :
    replacePair first second result (first :: other :: rest) =
      first :: other :: replacePair first second result rest := by
  rw [replacePair, if_neg fun hpair => hother hpair.2]
  exact congrArg (first :: ·) (replacePair_append [other] (by simpa using hfirst))

/-- A name of which some characters stand for themselves. The others are written as in a segment. -/
def partlyDecoded (plain name : List Char) : List Char :=
  name.flatMap fun c => if c ∈ plain then [c] else encodeSegment [c]

theorem partlyDecoded_cons (plain : List Char) (c : Char) (name : List Char) :
    partlyDecoded plain (c :: name) =
      (if c ∈ plain then [c] else encodeSegment [c]) ++ partlyDecoded plain name :=
  List.flatMap_cons

/-- A segment is written character by character. -/
theorem encodeSegment_eq (name : List Char) : encodeSegment name = partlyDecoded [] name := by
  simp [encodeSegment, partlyDecoded, Text.percentEncode, Text.octets, escapeSlashes,
    List.flatMap_assoc]

/-- What is written for a character other than tilde and slash. -/
theorem encodeSegment_singleton (htilde : c ≠ '~') (hslash : c ≠ '/') :
    encodeSegment [c] = Text.percentEncode [c] := by
  simp [encodeSegment, escapeSlashes, htilde, hslash]

/-- There is a tilde in what is written for a tilde or a slash only. -/
theorem tilde_notMem_encodeSegment (htilde : c ≠ '~') (hslash : c ≠ '/') :
    '~' ∉ encodeSegment [c] := by
  rw [encodeSegment_singleton htilde hslash]
  intro hmem
  have hc := Text.tilde_mem_of_mem_percentEncode hmem
  exact htilde (List.mem_singleton.1 hc).symm

/-- The first replacement brings back the slashes. -/
theorem replacePair_slashes (name : List Char) :
    replacePair '~' '1' '/' (partlyDecoded [] name) = partlyDecoded ['/'] name := by
  induction name with
  | nil => rfl
  | cons c name ih =>
      rw [partlyDecoded_cons, partlyDecoded_cons, ← ih]
      by_cases hslash : c = '/'
      · subst hslash
        exact replacePair_pair
      by_cases htilde : c = '~'
      · subst htilde
        exact replacePair_other (by decide) (by decide)
      · rw [if_neg List.not_mem_nil, if_neg (by simpa using hslash)]
        exact replacePair_append _ (tilde_notMem_encodeSegment htilde hslash)

/-- The second replacement brings back the tildes. -/
theorem replacePair_tildes (name : List Char) :
    replacePair '~' '0' '~' (partlyDecoded ['/'] name) = partlyDecoded ['/', '~'] name := by
  induction name with
  | nil => rfl
  | cons c name ih =>
      rw [partlyDecoded_cons, partlyDecoded_cons, ← ih]
      by_cases hslash : c = '/'
      · subst hslash
        exact replacePair_append ['/'] (by decide)
      by_cases htilde : c = '~'
      · subst htilde
        exact replacePair_pair
      · rw [if_neg (by simpa using hslash), if_neg (by simpa using ⟨hslash, htilde⟩)]
        exact replacePair_append _ (tilde_notMem_encodeSegment htilde hslash)

/-- The octets of the name are read back when slashes and tildes stand for themselves. -/
theorem percentDecode_partlyDecoded (name : List Char) :
    Text.percentDecode (partlyDecoded ['/', '~'] name) = name := by
  suffices hoctets : Text.unescapeOctets (Text.octets (partlyDecoded ['/', '~'] name)) =
      Text.octets name by
    rw [Text.percentDecode, hoctets, Text.decodeOctets_octets]
  induction name with
  | nil => rfl
  | cons c name ih =>
      have hsplit : Text.octets (partlyDecoded ['/', '~'] (c :: name)) =
          Text.octets (if c ∈ ['/', '~'] then [c] else encodeSegment [c]) ++
            Text.octets (partlyDecoded ['/', '~'] name) := by
        rw [partlyDecoded_cons, Text.octets, List.flatMap_append]
        rfl
      have hname : Text.octets (c :: name) = Text.charOctets c ++ Text.octets name := rfl
      rw [hsplit, hname, ← ih]
      by_cases hslash : c = '/'
      · subst hslash
        exact Text.unescapeOctets_cons_of_ne (by decide) _
      by_cases htilde : c = '~'
      · subst htilde
        exact Text.unescapeOctets_cons_of_ne (by decide) _
      · have hoctets : Text.octets [c] = Text.charOctets c := List.flatMap_singleton ..
        rw [if_neg (by simpa using ⟨hslash, htilde⟩), encodeSegment_singleton htilde hslash,
          Text.unescapeOctets_percentEncode, hoctets]

/-- A name is read back from its segment. -/
theorem decodeSegment_encodeSegment (name : List Char) :
    decodeSegment (encodeSegment name) = name := by
  rw [decodeSegment, encodeSegment_eq, replacePair_slashes, replacePair_tildes,
    percentDecode_partlyDecoded]

/-- A segment has no slash. -/
theorem slash_notMem_encodeSegment (name : List Char) : '/' ∉ encodeSegment name :=
  Text.slash_notMem_percentEncode (escapeSlashes name)

/-- What follows the last slash. -/
theorem lastSegment_segment {before segment : List Char} (h : '/' ∉ segment) :
    lastSegment (before ++ '/' :: segment) = segment := by
  have hstop : ('/' :: segment).reverse.takeWhile (· ≠ '/') = segment.reverse := by
    rw [List.reverse_cons, List.takeWhile_append_of_pos]
    · simp
    · intro c hc
      have hne : c ≠ '/' := by
        rintro rfl
        exact h (List.mem_reverse.1 hc)
      simpa using hne
  rw [lastSegment_append List.mem_cons_self, lastSegment, if_pos (by simp), hstop,
    List.reverse_reverse]

/-- A text is split into three where it has two separators. -/
theorem splitOn_eq_triple_iff {first second third : List Char} :
    text.splitOn '/' = [first, second, third] ↔
      ('/' ∉ first ∧ '/' ∉ second ∧ '/' ∉ third) ∧
        text = first ++ '/' :: (second ++ '/' :: third) := by
  constructor
  · intro hsplit
    have hclear : ∀ segment ∈ [first, second, third], '/' ∉ segment := by
      intro segment hsegment hslash
      rw [← hsplit] at hsegment
      exact absurd (Text.of_mem_splitOnP hsegment '/' hslash).2 (by decide)
    have hjoin : ['/'].intercalate (text.splitOn '/') = text := List.intercalate_splitOn '/'
    rw [hsplit] at hjoin
    refine ⟨⟨hclear _ (by simp), hclear _ (by simp), hclear _ (by simp)⟩, ?_⟩
    rw [← hjoin]
    simp [List.intercalate, List.intersperse]
  · rintro ⟨⟨hfirst, hsecond, hthird⟩, rfl⟩
    have hclear {segment : List Char} (h : '/' ∉ segment) :
        ∀ c ∈ segment, (c == '/') = false :=
      fun c hc => beq_false_of_ne fun heq => h (heq ▸ hc)
    rw [List.splitOn, List.splitOnP_append_cons_of_forall_mem (hclear hfirst) '/' (by decide),
      List.splitOnP_append_cons_of_forall_mem (hclear hsecond) '/' (by decide),
      List.splitOnP_eq_singleton (hclear hthird)]

/-- What is left of a text without the slashes at its start. -/
theorem dropWhile_slash_eq_iff (hc : c ≠ '/') :
    text.dropWhile (· = '/') = c :: rest ↔
      ∃ slashes, (∀ slash ∈ slashes, slash = '/') ∧ text = slashes ++ c :: rest := by
  constructor
  · intro h
    refine ⟨text.takeWhile (· = '/'), fun slash hslash => ?_, ?_⟩
    · simpa using List.mem_takeWhile_imp hslash
    · rw [← h, List.takeWhile_append_dropWhile]
  · rintro ⟨slashes, hslashes, rfl⟩
    rw [List.dropWhile_append_of_pos (by simpa using hslashes),
      List.dropWhile_cons_of_neg (by simpa using hc)]

/-- Three segments are read from a local pointer with three segments, where slashes may be repeated
at the start. -/
theorem segments?_eq_some_iff {first second third : List Char} (hne : first ≠ []) :
    segments? text = some [first, second, third] ↔
      ∃ slashes, (∀ c ∈ slashes, c = '/') ∧ '/' ∉ first ∧ '/' ∉ second ∧ '/' ∉ third ∧
        text = '#' :: (slashes ++ (first ++ '/' :: (second ++ '/' :: third))) := by
  obtain ⟨c, first, rfl⟩ := List.exists_cons_of_ne_nil hne
  have hhead (hfirst : '/' ∉ c :: first) : c ≠ '/' :=
    (List.ne_and_not_mem_of_not_mem_cons hfirst).1.symm
  constructor
  · intro h
    unfold segments? at h
    split at h
    · next rest =>
        obtain ⟨⟨hfirst, hsecond, hthird⟩, htext⟩ := splitOn_eq_triple_iff.1 (Option.some.inj h)
        obtain ⟨slashes, hslashes, rfl⟩ := (dropWhile_slash_eq_iff (hhead hfirst)).1 htext
        exact ⟨slashes, hslashes, hfirst, hsecond, hthird, rfl⟩
    · cases h
  · rintro ⟨slashes, hslashes, hfirst, hsecond, hthird, rfl⟩
    refine congrArg some (splitOn_eq_triple_iff.2 ⟨⟨hfirst, hsecond, hthird⟩, ?_⟩)
    exact (dropWhile_slash_eq_iff (hhead hfirst)).2 ⟨slashes, hslashes, rfl⟩

end Segments

/-- The pointer goes into a section of the components, and its last segment writes the name. Slashes
may be repeated at the start. -/
def PointsInto (area name pointer : String) : Prop :=
  ∃ slashes segment, (∀ c ∈ slashes, c = '/') ∧ '/' ∉ segment ∧
    pointer.toList =
      '#' :: (slashes ++ ("components".toList ++ '/' :: (area.toList ++ '/' :: segment))) ∧
    decodeSegment segment = name.toList

variable {area name pointer : String}

theorem nonEmpty?_eq_some_iff {text : List Char} :
    nonEmpty? text = some name ↔ text = name.toList ∧ name ≠ "" := by
  unfold nonEmpty?
  cases text with
  | nil =>
      constructor
      · nofun
      · rintro ⟨hname, hne⟩
        exact absurd (String.toList_eq_nil_iff.1 hname.symm) hne
  | cons c text =>
      constructor
      · intro h
        obtain rfl : String.ofList (c :: text) = name := Option.some.inj h
        exact ⟨String.toList_ofList.symm, by simp⟩
      · rintro ⟨hname, _⟩
        rw [if_neg (by simp), hname, String.ofList_toList]

/-- The name is read from a pointer into the section, unless it is empty, and from nothing else. -/
theorem componentName?_eq_some_iff (harea : '/' ∉ area.toList) :
    componentName? pointer area = some name ↔ PointsInto area name pointer ∧ name ≠ "" := by
  have hne : "components".toList ≠ [] := by decide
  have hplain : '/' ∉ "components".toList := by decide
  unfold componentName?
  constructor
  · intro h
    split at h
    · next root inner segment hsegments =>
        split at h
        · next hareas =>
            obtain ⟨rfl, rfl⟩ := hareas
            obtain ⟨hdecode, hnonempty⟩ := nonEmpty?_eq_some_iff.1 h
            obtain ⟨slashes, hslashes, _, _, hsegment, htext⟩ :=
              (segments?_eq_some_iff hne).1 hsegments
            exact ⟨⟨slashes, segment, hslashes, hsegment, htext, hdecode⟩, hnonempty⟩
        · cases h
    · cases h
  · rintro ⟨⟨slashes, segment, hslashes, hsegment, htext, hdecode⟩, hnonempty⟩
    have hsegments : segments? pointer.toList =
        some ["components".toList, area.toList, segment] :=
      (segments?_eq_some_iff hne).2 ⟨slashes, hslashes, hplain, harea, hsegment, htext⟩
    rw [hsegments]
    simp only [and_self, if_true]
    exact nonEmpty?_eq_some_iff.2 ⟨hdecode, hnonempty⟩

theorem toList_pointerTo (area name : String) :
    (pointerTo area name).toList =
      "#/components/".toList ++ area.toList ++ '/' :: encodeSegment name.toList :=
  String.toList_ofList

/-- The pointer to a name goes into its section. -/
theorem pointsInto_pointerTo (area name : String) :
    PointsInto area name (pointerTo area name) := by
  have hstart : "#/components/".toList = '#' :: '/' :: ("components".toList ++ ['/']) := rfl
  refine ⟨['/'], encodeSegment name.toList, by simp, slash_notMem_encodeSegment _, ?_,
    decodeSegment_encodeSegment _⟩
  rw [toList_pointerTo, hstart]
  simp only [List.append_assoc, List.cons_append, List.nil_append]

/-- The last segment of the pointer to a name writes the name. -/
theorem decodeSegment_lastSegment_pointerTo (area name : String) :
    decodeSegment (lastSegment (pointerTo area name).toList) = name.toList := by
  rw [toList_pointerTo, lastSegment_segment (slash_notMem_encodeSegment _),
    decodeSegment_encodeSegment]

/-- No two names share a pointer. -/
theorem pointerTo_injective (area : String) : Function.Injective (pointerTo area) := by
  intro name other h
  have hnames := decodeSegment_lastSegment_pointerTo area name
  rw [h, decodeSegment_lastSegment_pointerTo] at hnames
  exact (String.toList_inj.1 hnames).symm

/-- The name of a schema is read from the pointer to it. -/
theorem schemaName?_pointerTo (hname : name ≠ "") :
    schemaName? (pointerTo area name) = some name :=
  nonEmpty?_eq_some_iff.2 ⟨decodeSegment_lastSegment_pointerTo area name, hname⟩

/-- The pointer to an alias leads to what the alias leads to. -/
theorem leadsTo_pointerTo_alias {table : Table} {onward : String} (hname : name ≠ "")
    (hget : table.get? name = some (.alias onward)) :
    table.LeadsTo (pointerTo area name) = table.LeadsTo onward := by
  funext last schema
  apply propext
  constructor
  · rintro ⟨start, hstart, hsteps, hlast, hdefinition⟩
    obtain rfl := Option.some.inj ((schemaName?_pointerTo hname).symm.trans hstart)
    rcases Relation.ReflTransGen.cases_head hsteps with rfl | ⟨next, hstep, hsteps⟩
    · exact absurd (Option.some.inj (hlast.symm.trans hget)) (hdefinition onward)
    · obtain ⟨onward', hget', hnext⟩ := hstep
      cases hget.symm.trans hget'
      exact ⟨next, hnext, hsteps, hlast, hdefinition⟩
  · rintro ⟨start, hstart, hsteps, hlast, hdefinition⟩
    exact ⟨name, schemaName?_pointerTo hname, hsteps.head ⟨onward, hget, hstart⟩, hlast,
      hdefinition⟩

/-- Whatever a name is, the pointer to it names it: it is read as the name of a schema and as a name
in its section, and no other name has this pointer. So every schema of a table can be reached: the
pointer to its name leads to the schema, or to what the schema leads to when it is an alias. -/
theorem pointerTo_names (hname : name ≠ "") :
    schemaName? (pointerTo "schemas" name) = some name ∧
    (∀ area, '/' ∉ area.toList → componentName? (pointerTo area name) area = some name) ∧
    (∀ area other, pointerTo area other = pointerTo area name → other = name) ∧
    ∀ (table : Table) (schema : Schema), table.get? name = some schema →
      (schema.IsDefinition → ∀ subject,
        table.resolve subject (pointerTo "schemas" name) = pure ⟨name, schema⟩) ∧
      (∀ onward, schema = .alias onward →
        table.LeadsTo (pointerTo "schemas" name) = table.LeadsTo onward) := by
  have hread : schemaName? (pointerTo "schemas" name) = some name := schemaName?_pointerTo hname
  refine ⟨hread, ?component, fun area other h => pointerTo_injective area h, ?table⟩
  case component =>
    intro area harea
    exact (componentName?_eq_some_iff harea).2 ⟨pointsInto_pointerTo area name, hname⟩
  case table =>
    intro table schema hget
    constructor
    · intro hdefinition subject
      have hleads : table.LeadsTo (pointerTo "schemas" name) name schema :=
        ⟨name, hread, .refl, hget, hdefinition⟩
      rw [Table.resolve, hleads.resolve?_eq]
    · rintro onward rfl
      exact leadsTo_pointerTo_alias hname hget

/-- A name that looks escaped already is escaped once more, and read back as it is. -/
theorem pointerTo_names_escaped :
    let name := "~1/%7E ü"
    let pointer := "#/components/schemas/~01~1%257E%20%C3%BC"
    name ≠ "" ∧ pointerTo "schemas" name = pointer ∧
    schemaName? pointer = some name ∧
    componentName? (pointerTo "parameters" name) "parameters" = some name ∧
    (∀ other, pointerTo "schemas" other = pointer → other = name) ∧
    (Table.insert .empty name .any).resolve none pointer = pure ⟨name, .any⟩ := by
  intro name pointer
  have hname : name ≠ "" := by decide
  have hpointer : pointerTo "schemas" name = pointer := by decide
  have hget : (Table.insert .empty name .any).get? name = some .any := rfl
  obtain ⟨hread, hsection, hunique, htable⟩ := pointerTo_names hname
  obtain ⟨hresolve, _⟩ := htable _ .any hget
  rw [hpointer] at hread hresolve
  refine ⟨hname, hpointer, hread, hsection "parameters" (by decide), ?_, hresolve nofun none⟩
  intro other hother
  exact hunique "schemas" other (hother.trans hpointer.symm)

end SchemaGraph.Reference
