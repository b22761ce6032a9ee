/-!
# Command line arguments

A command line names a command, its document and its options. An option is written in full with two
dashes, or with one dash and a letter; its value follows it or is joined to it. Each option may be
given once, and after two dashes nothing is an option any more. `Command.parse?` has no answer for
a command line that is not used correctly.
-/

namespace SchemaGraph

/-- The encoding of a type graph. -/
inductive OutputFormat where
  | json
  | yaml
  deriving DecidableEq, Repr

/-- The document of a command, and what overrides the configuration. -/
structure InputArguments where
  path : String
  packageName : Option String
  strict : Bool
  deriving DecidableEq, Repr

/-- What to do with a document. -/
inductive Task where
  /-- Show what was reported. -/
  | check
  /-- Show the type graph, or one model of it, on standard output or in a file. -/
  | inspect (format : OutputFormat) (model output : Option String)
  deriving DecidableEq, Repr

/-- A command line. -/
structure Command where
  /-- The path of the configuration. -/
  config : Option String
  input : InputArguments
  task : Task
  deriving DecidableEq, Repr

namespace Command

/-- An option that a command line may have. -/
structure OptionRule where
  name : String
  letter : Option Char
  takesValue : Bool

/-- The options and the other arguments of a command line. -/
structure Scanned where
  options : List (String × String)
  operands : List String

/-- Nothing scanned. -/
def Scanned.empty : Scanned := ⟨[], []⟩

/-- Add an option, unless it was given before. -/
def Scanned.addOption? (scanned : Scanned) (name value : String) : Option Scanned :=
  if (scanned.options.lookup name).isSome then none
  else some ⟨scanned.options ++ [(name, value)], scanned.operands⟩

/-- Add other arguments. -/
def Scanned.addOperands (scanned : Scanned) (operands : List String) : Scanned :=
  ⟨scanned.options, scanned.operands ++ operands⟩

/-- Whether an argument is an option. A single dash is none. -/
def isOption (argument : String) : Bool :=
  match argument.toList with
  | '-' :: _ :: _ => true
  | _ => false

/-- What an argument says as an option: its rule and the value joined to it. -/
def option? (rules : List OptionRule) (argument : String) :
    Option (OptionRule × Option String) :=
  match argument.toList with
  | '-' :: '-' :: text =>
      let name := String.ofList (text.takeWhile (· ≠ '='))
      let joined := match text.dropWhile (· ≠ '=') with
        | [] => none
        | _ :: value => some (String.ofList value)
      (rules.find? fun rule => rule.name = name).map fun rule => (rule, joined)
  | '-' :: letter :: text =>
      let joined := match text with
        | [] => none
        | '=' :: value => some (String.ofList value)
        | value => some (String.ofList value)
      (rules.find? fun rule => rule.letter = some letter).map fun rule => (rule, joined)
  | _ => none

/-- Read arguments. With `untilOperand` the first one that is no option ends the reading, and the
arguments after it are left. -/
def scan? (rules : List OptionRule) (untilOperand : Bool) :
    List String → Scanned → Option (Scanned × List String)
  | [], scanned => some (scanned, [])
  | argument :: rest, scanned =>
      if argument = "--" then
        if untilOperand then none else some (scanned.addOperands rest, [])
      else if isOption argument then
        match option? rules argument, rest with
        | some (rule, joined), rest =>
            match rule.takesValue, joined, rest with
            | true, some value, rest => do
                let scanned ← scanned.addOption? rule.name value
                scan? rules untilOperand rest scanned
            | true, none, value :: rest =>
                if isOption value then none
                else do
                  let scanned ← scanned.addOption? rule.name value
                  scan? rules untilOperand rest scanned
            | false, none, rest => do
                let scanned ← scanned.addOption? rule.name ""
                scan? rules untilOperand rest scanned
            | _, _, _ => none
        | none, _ => none
      else if untilOperand then some (scanned.addOperands [argument], rest)
      else scan? rules untilOperand rest (scanned.addOperands [argument])

/-- The option that every command has. -/
def configRule : OptionRule := ⟨"config", none, true⟩

/-- The options of a command that reads a document. -/
def inputRules : List OptionRule :=
  [configRule, ⟨"package-name", none, true⟩, ⟨"strict", none, false⟩]

/-- The further options of the command that shows a type graph. -/
def outputRules : List OptionRule :=
  [⟨"format", none, true⟩, ⟨"model", none, true⟩, ⟨"output", some 'o', true⟩]

/-- The path that an option or a variable gives, which may not be empty. -/
def path? : Option String → Option (Option String)
  | some "" => none
  | path => some path

/-- The format that a word names. -/
def format? : Option String → Option OutputFormat
  | none | some "json" => some .json
  | some "yaml" => some .yaml
  | some _ => none

/-- The only document of a command. -/
def document? : List String → Option String
  | [path] => if path.isEmpty then none else some path
  | _ => none

/-- The task that a command names, with the rules for its options. -/
def taskRules? : String → Option (List OptionRule)
  | "check" => some inputRules
  | "inspect" => some (inputRules ++ outputRules)
  | _ => none

/-- The task of a command with its options. -/
def task? (name : String) (scanned : Scanned) : Option Task :=
  if name = "check" then some .check
  else do
    let format ← format? (scanned.options.lookup "format")
    let output ← path? (scanned.options.lookup "output")
    pure (.inspect format (scanned.options.lookup "model") output)

/-- The command line with the given arguments. The path of the configuration is taken from the
options of the command, from those before the command, or from the environment, in this order. The
environment is not looked at when both other places give a path. -/
def parse? (environment : Option String) (arguments : List String) : Option Command := do
  let (before, rest) ← scan? [configRule] true arguments .empty
  let name ← before.operands.head?
  let rules ← taskRules? name
  let (scanned, _) ← scan? rules false rest .empty
  let outer ← path? (before.options.lookup configRule.name)
  let inner ← path? (scanned.options.lookup configRule.name)
  let fallback ← if inner.isSome && outer.isSome then some none else path? environment
  let document ← document? scanned.operands
  let task ← task? name scanned
  pure {
    config := (inner.or outer).or fallback
    input := ⟨document, scanned.options.lookup "package-name",
      (scanned.options.lookup "strict").isSome⟩
    task := task }

end Command

end SchemaGraph
