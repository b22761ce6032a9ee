import SchemaGraph.Json.Reader
import SchemaGraph.Naming.Identifier
import SchemaGraph.Text.Quoted
import SchemaGraph.Yaml.Value

/-!
# Configuration

A `Config` holds the options that shape names and failures. It is read from YAML or from JSON text;
every option has a default. YAML scalars are taken by their text, so a word for null is a text
where a text is wanted.
-/

namespace SchemaGraph

/-- The options of a run. -/
structure Config where
  /-- The package name as it is given. -/
  packageName : Option String
  /-- Words reserved besides the built-in ones. -/
  reservedWords : List String
  /-- The suffix of class names that collide with a reserved word. -/
  suffix : String
  /-- Whether errors in the log make a run fail. -/
  strict : Bool
  deriving DecidableEq, Repr

/-- Why a configuration cannot be used. -/
inductive ConfigError where
  | unreadable
  | emptySuffix
  | blankWord (word : String)
  deriving DecidableEq, Repr

/-- The explanation shown to a reader. -/
def ConfigError.message : ConfigError → String
  | .unreadable => "Failed to parse config: unexpected structure"
  | .emptySuffix => "reservedModelSuffix must not be empty"
  | .blankWord word => "reservedWords contains a blank entry: " ++ Text.quoted word

namespace Config

/-- The options when none is given. -/
def default : Config := ⟨none, [], Namer.defaultSuffix, false⟩

/-- The package name in its final form. -/
def package (config : Config) : String :=
  Naming.packageName config.packageName

/-- The reserved words of a run. -/
def reserved (config : Config) : ReservedWords :=
  ReservedWords.builtin.extend config.reservedWords

/-- The rules for names that the options lead to. -/
def namer (config : Config) : Namer :=
  ⟨config.reserved, config.suffix⟩

/-- Refuse an empty suffix and blank words. -/
def validated (config : Config) : Except ConfigError Config :=
  if config.suffix.isEmpty then .error .emptySuffix
  else
    match config.reservedWords.find? fun word => Text.isBlankText word.toList with
    | some word => .error (.blankWord word)
    | none => .ok config

/-- How the values of options are read from values of a type. -/
structure OptionReader (α : Type) where
  optionalText? : α → Option (Option String)
  texts? : α → Option (List String)
  text? : α → Option String
  flag? : α → Option Bool

/-- The value of an option, which may be given once. -/
def option? {α β : Type} (fields : List (String × α)) (name : String) (read : α → Option β)
    (missing : β) : Option β :=
  match fields.filter fun field => field.1 = name with
  | [] => some missing
  | [(_, value)] => read value
  | _ => none

/-- The options given by name. Other names are passed over. -/
def ofFields? {α : Type} (reader : OptionReader α) (fields : List (String × α)) :
    Option Config := do
  let packageName ← option? fields "packageName" reader.optionalText? default.packageName
  let reservedWords ← option? fields "reservedWords" reader.texts? default.reservedWords
  let suffix ← option? fields "reservedModelSuffix" reader.text? default.suffix
  let strict ← option? fields "strict" reader.flag? default.strict
  pure ⟨packageName, reservedWords, suffix, strict⟩

/-- How options are read from JSON values. -/
def jsonReader : OptionReader Json where
  optionalText? value := if value.isNull then some none else value.string?.map some
  texts? value := value.array?.bind fun items => items.mapM Json.string?
  text? := Json.string?
  flag? := Json.bool?

/-- The names of the options in their order. -/
def optionNames : List String :=
  ["packageName", "reservedWords", "reservedModelSuffix", "strict"]

/-- The greatest depth of JSON values. -/
def greatestJsonDepth : Nat := 127

/-- Read options from JSON text: an object, or the values of the first options as a list. Only the
form of other fields of the object has to be right. -/
def readJson? (text : String) : Option Config :=
  match Json.parseFields? optionNames.contains greatestJsonDepth text with
  | some fields => ofFields? jsonReader fields
  | none =>
      match Json.parse? greatestJsonDepth text with
      | some (.array values) =>
          if values.length ≤ optionNames.length then ofFields? jsonReader (optionNames.zip values)
          else none
      | _ => none

/-- The text of a scalar. -/
def scalarText? : Yaml.Node → Option String
  | .scalar _ text _ => some text
  | _ => none

/-- Whether nothing is written for a node. -/
def isMissing : Yaml.Node → Bool
  | .scalar _ text .plain => text.isEmpty
  | _ => false

/-- A text, or none where null is written plainly. A null tag asks for a word for null. -/
def optionalNodeText? : Yaml.Node → Option (Option String)
  | .scalar properties text .plain =>
      match properties.tag with
      | none => some (if text.isEmpty || Yaml.isNullWord text then none else some text)
      | some tag =>
          if tag = Yaml.Document.coreTag "null" then
            if Yaml.isNullWord text then some none else none
          else some (some text)
  | node => (scalarText? node).map some

/-- A Boolean, written plainly or as a literal with its tag. -/
def nodeFlag? : Yaml.Node → Option Bool
  | .scalar _ text .plain => Yaml.boolWord? text
  | .scalar properties text .literal =>
      if properties.tag = some (Yaml.Document.coreTag "bool") then Yaml.boolWord? text else none
  | _ => none

/-- The node that a node stands for. -/
def standsFor (anchors : Yaml.Anchors) : Yaml.Node → Yaml.Node
  | .alias number => (anchors.reverse.lookup number).getD (.alias number)
  | node => node

/-- How options are read from YAML nodes. -/
def nodeReader (anchors : Yaml.Anchors) : OptionReader Yaml.Node where
  optionalText? node := optionalNodeText? (standsFor anchors node)
  texts? node :=
    match standsFor anchors node with
    | .sequence _ items => items.mapM fun item => scalarText? (standsFor anchors item)
    | node => if isMissing node then some [] else none
  text? node := scalarText? (standsFor anchors node)
  flag? node := nodeFlag? (standsFor anchors node)

/-- Read options from a YAML document. -/
def ofDocument? (document : Yaml.Document) : Option Config :=
  match document.root with
  | none => some default
  | some root =>
      let anchors := root.anchored
      match standsFor anchors root with
      | .mapping _ entries => do
          let fields ← entries.mapM fun (key, value) =>
            (scalarText? (standsFor anchors key)).map fun name => (name, value)
          ofFields? (nodeReader anchors) fields
      | node => if isMissing node then some default else none

/-- Read options from YAML text. A blank text gives none. -/
def ofYaml (text : String) : Except ConfigError Config :=
  if Text.isBlankText text.toList then .ok default
  else
    match (Yaml.document? text).bind ofDocument? with
    | some config => config.validated
    | none => .error .unreadable

/-- Read options from JSON text. -/
def ofJson (text : String) : Except ConfigError Config :=
  match readJson? text with
  | some config => config.validated
  | none => .error .unreadable

/-- The part of a file name after its last dot, unless that dot is its first character. -/
def extension? (fileName : String) : Option String :=
  let name := fileName.toList.reverse.takeWhile (· ≠ '/')
  match name.dropWhile (· ≠ '.') with
  | '.' :: _ :: _ => some (String.ofList (name.takeWhile (· ≠ '.')).reverse)
  | _ => none

/-- Read options from the text of a file: JSON when the name of the file says so, else YAML. -/
def ofFile (fileName text : String) : Except ConfigError Config :=
  if extension? fileName = some "json" then ofJson text else ofYaml text

end Config

end SchemaGraph
