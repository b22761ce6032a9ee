import SchemaGraph.Proofs.Naming.WellFormed
import SchemaGraph.Proofs.Session.Identifiers

/-!
# The forms of identifiers in the answers of a session

What is derived from a name has its form (`Proofs/Naming/WellFormed`), and the identifiers of each
collection in a record are derived from names and made distinct. So in everything that a prepared
session answers, the identifiers of one collection are distinct and fit for generated code
(`Session.names_wellFormed`).
-/

namespace SchemaGraph

open Naming

/-- The identifiers of an answer have their form, and in each collection no two are the same. -/
structure Answer.WellFormed (answer : Answer) : Prop where
  nodup : ∀ identifiers ∈ answer.nameIdentifiers ++ answer.literalIdentifiers, identifiers.Nodup
  forms : ∀ identifiers ∈ answer.nameIdentifiers ++ answer.literalIdentifiers,
    ∀ identifier ∈ identifiers, identifier.toList ∈ identifierForm

/-- What a catalog gives as identifiers is distinct and has its form. -/
theorem Answer.IdentifiedBy.wellFormed {catalog : Catalog} {answer : Answer}
    (h : answer.IdentifiedBy catalog) : answer.WellFormed := by
  have hnames : ∀ identifiers ∈ answer.nameIdentifiers ++ answer.literalIdentifiers,
      ∃ names : List String, identifiers = distinct names ∧
        ∀ name ∈ names, name.toList ∈ literalForm := by
    intro identifiers hidentifiers
    rcases List.mem_append.1 hidentifiers with hname | hliteral
    · obtain ⟨names, heq⟩ := h.names identifiers hname
      refine ⟨names.map catalog.namer.propertyIdentifier, heq, fun name hname => ?_⟩
      obtain ⟨given, _, rfl⟩ := List.mem_map.1 hname
      exact mem_literalForm_of_mem_propertyForm (catalog.namer.propertyIdentifier_mem given)
    · obtain ⟨texts, heq⟩ := h.literals identifiers hliteral
      refine ⟨texts.map catalog.namer.enumIdentifier, heq, fun name hname => ?_⟩
      obtain ⟨given, _, rfl⟩ := List.mem_map.1 hname
      exact catalog.namer.enumIdentifier_mem given
  refine ⟨fun identifiers hidentifiers => ?nodup, fun identifiers hidentifiers => ?forms⟩
  case nodup =>
    obtain ⟨names, rfl, _⟩ := hnames identifiers hidentifiers
    exact (pass_distinct names).nodup
  case forms =>
    obtain ⟨names, rfl, hforms⟩ := hnames identifiers hidentifiers
    exact mem_identifierForm_of_forall₂ (variants_distinct names) hforms

namespace Session

/-- Names derived from any text, whatever words are reserved, are well-formed ASCII: those of
properties, literals, classes and files have their forms, the class names if the suffix has letters
and digits only. So in what a prepared session answers, the identifiers of each collection are
distinct, and they are identifiers with at most an underscore and a number at the end. -/
theorem names_wellFormed :
    (∀ (namer : Namer) (text : String),
      (namer.propertyIdentifier text).toList ∈ propertyForm ∧
      (namer.enumIdentifier text).toList ∈ literalForm ∧
      ((∀ c ∈ namer.suffix.toList, c.isAlphanum) →
        (namer.className text).toList ∈ classForm) ∧
      (namer.fileName text).toList ∈ fileForm) ∧
    ∀ (config : Config) (title : Option String) (operations : List Operation) (table : Table)
      (log : Log) (calls : List Call),
      ∀ answer ∈ ((prepare config title operations table log).performAll calls).1,
        answer.WellFormed := by
  refine ⟨fun namer text => ?derived, fun config title operations table log calls => ?answers⟩
  case derived =>
    exact ⟨namer.propertyIdentifier_mem text, namer.enumIdentifier_mem text,
      fun hsuffix => namer.className_mem hsuffix text, namer.fileName_mem text⟩
  case answers =>
    intro answer hanswer
    exact (identifiedBy_performAll _ calls answer hanswer).wellFormed

/-- Figures with a size in two spellings and a rank, and grades beyond ASCII. -/
def album : Table :=
  ⟨[("2d figure", .object ⟨[("größe", .inline .any), ("GR-E", .inline .any),
      ("class", .inline .any), ("1st", .inline .any)], [], [], Docs.none⟩),
    ("grade", .scalar ⟨.string, none, [.string "٣", .string "-1.5", .string "é x",
      .string "x ﬁn", .string "late"], Docs.none⟩)], by decide⟩

/-- The names of the album. Letters beyond ASCII are left out or, like the ligature, give the
letters of their uppercase form; a number in digits beyond ASCII keeps none of them. -/
theorem album_wellFormed :
    let namer : Namer := Config.default.namer
    let answers := ((prepare .default none [] album .empty).performAll [.models]).1
    namer.className "2d figure" = "Model2dFigure" ∧
    (namer.className "2d figure").toList ∈ classForm ∧
    namer.fileName "2d figure" = "model2d_figure" ∧
    answers.map Answer.nameIdentifiers = [[["grE", "grE2", "class_", "value1st"], []]] ∧
    answers.map Answer.literalIdentifiers = [[[], ["value", "value15", "X", "xFIn", "late_"]]] ∧
    ∀ answer ∈ answers, answer.WellFormed := by
  intro namer answers
  obtain ⟨_, _, hclass, _⟩ := names_wellFormed.1 namer "2d figure"
  have hsuffix : namer.suffix.toList.all Char.isAlphanum = true := by decide +kernel
  exact ⟨by decide +kernel, hclass (List.all_eq_true.1 hsuffix), by decide +kernel,
    by decide +kernel, by decide +kernel,
    names_wellFormed.2 .default none [] album .empty [.models]⟩

end Session

end SchemaGraph
