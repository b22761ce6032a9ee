import SchemaGraph.Yaml.Lexer
import SchemaGraph.Yaml.Scalar

/-!
# YAML documents as JSON values

`Yaml.parse?` reads a text as a JSON value. Aliases are replaced by the nodes that they name, at
most a hundred times the size of the document, and collections may be nested 128 deep. The keys of a
mapping are the texts of scalars, and the last of two equal keys wins at the first one's place.
-/

namespace SchemaGraph.Yaml

/-- The greatest depth of nested collections. -/
def greatestDepth : Nat := 128

/-- A computation that may fail and that may follow only so many aliases. -/
abbrev Following := StateT Nat Option

/-- Take note of one alias followed. -/
def spendAlias : Following Unit := fun budget =>
  match budget with
  | 0 => none
  | budget + 1 => some ((), budget)

/-- The nodes that aliases name by their numbers. Of two nodes with one number the later counts. -/
abbrev Anchors := List (Nat × Node)

/-- The node that an alias names, or the node itself. -/
def follow (anchors : Anchors) : Node → Following Node
  | .alias number => do
      spendAlias
      (anchors.reverse.lookup number).elim failure pure
  | node => pure node

/-- The text of a scalar that is the key of an entry. -/
def keyText (anchors : Anchors) (node : Node) : Following String := do
  match ← follow anchors node with
  | .scalar _ text _ => pure text
  | _ => failure

/-- Whether a collection has no tag or one that says nothing. -/
def hasPlainTag (properties : Properties) : Bool :=
  !properties.tag.any isLocalTag

/-- The value of a node with collections nested at most `depth` deep. -/
def value (anchors : Anchors) : Nat → Node → Following Json
  | depth, node => do
      match ← follow anchors node, depth with
      | .scalar properties text style, _ =>
          (scalarValue? properties.tag text style).elim failure pure
      | .sequence properties items, depth + 1 =>
          if hasPlainTag properties then do
            let values ← items.mapM (value anchors depth)
            pure (.array values)
          else failure
      | .mapping properties entries, depth + 1 =>
          if hasPlainTag properties then do
            let fields ← entries.mapM fun (key, content) => do
              let key ← keyText anchors key
              let content ← value anchors depth content
              pure (key, content)
            pure (.object (Keyed.ofList fields))
          else failure
      | _, _ => failure

/-- The only document of a text. -/
def document? (text : String) : Option Document :=
  (tokens? text).bind Document.ofTokens?

/-- The value of a document. -/
def Document.value? (document : Document) : Option Json :=
  match document.root with
  | none => some .null
  | some root => (value root.anchored greatestDepth root |>.run (100 * root.weight)).map Prod.fst

/-- The value that a text holds. -/
def parse? (text : String) : Option Json :=
  (document? text).bind Document.value?

end SchemaGraph.Yaml
