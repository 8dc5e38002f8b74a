import ContentFilter.Filter.Line

/-!
# Arguments

The arguments of the program: options, of which some go with every command, a command, and the options
of the command.  An option is written `--name value`, `--name=value`, `-nvalue` or `-n value`, and
switches may share a dash.
-/

namespace ContentFilter

/-- An option that may be given. -/
structure OptionSpec where
  name : String
  letter : Option Char
  /-- Options without a value are switches. -/
  takesValue : Bool
  /-- Whether the option may be given several times. -/
  isRepeatable : Bool
deriving DecidableEq, Repr

/-- An option that was given; the value of a switch is empty. -/
structure GivenOption where
  name : String
  value : String
deriving DecidableEq, Repr

/-- Why arguments make no sense, or that help is asked for. -/
inductive ArgumentFault where
  | helpRequested
  | unknownOption
  | missingValue
  | surplusValue
  | surplusArgument
  | repeated (name : String)
  | missing (name : String)
  | invalidValue (name : String)
  | unknownCommand
deriving DecidableEq, Repr

/-- What an argument is. -/
inductive ArgumentKind where
  /-- A value or a command. -/
  | plain
  /-- Two dashes, behind which there are no options. -/
  | terminator
  /-- Options, with the values of those that take one. -/
  | options (given : List GivenOption)
  /-- Options, of which the last one takes the next argument as its value. -/
  | awaiting (given : List GivenOption) (name : String)
  | faulty (fault : ArgumentFault)
deriving DecidableEq, Repr

namespace Arguments

/-- The switch that asks for help. -/
def helpSpec : OptionSpec := ⟨"help", some 'h', false, true⟩

/-- What an argument with one dash is, by the letters behind the dash. -/
def readLetters (specs : List OptionSpec) (seen : List GivenOption) : List Char → ArgumentKind
  | [] => .options seen.reverse
  | letter :: rest =>
    match (helpSpec :: specs).find? (·.letter == some letter) with
    | none => .faulty .unknownOption
    | some spec =>
      if spec.name == helpSpec.name then .faulty .helpRequested
      else if !spec.takesValue then readLetters specs (⟨spec.name, ""⟩ :: seen) rest
      else
        match rest with
        | [] => .awaiting seen.reverse spec.name
        | '=' :: value => .options (⟨spec.name, String.ofList value⟩ :: seen).reverse
        | value => .options (⟨spec.name, String.ofList value⟩ :: seen).reverse

/-- What an argument with two dashes is, by the text behind the dashes. -/
def readName (specs : List OptionSpec) (text : List Char) : ArgumentKind :=
  let name := text.takeWhile (· != '=')
  let value? := match text.drop name.length with
    | _ :: value => some (String.ofList value)
    | [] => none
  match (helpSpec :: specs).find? (·.name == String.ofList name), value? with
  | none, _ => .faulty .unknownOption
  | some spec, some value =>
    if spec.takesValue then .options [⟨spec.name, value⟩] else .faulty .surplusValue
  | some spec, none =>
    if spec.name == helpSpec.name then .faulty .helpRequested
    else if spec.takesValue then .awaiting [] spec.name
    else .options [⟨spec.name, ""⟩]

/-- What an argument is where these options may be given. -/
def classify (specs : List OptionSpec) (argument : String) : ArgumentKind :=
  match argument.toList with
  | ['-', '-'] => .terminator
  | '-' :: '-' :: text => readName specs text
  | '-' :: letter :: letters => readLetters specs [] (letter :: letters)
  | _ => .plain

/-- Whether an argument may be the value of the option before it. -/
def isPlain (argument : String) : Bool :=
  match argument.toList with
  | '-' :: _ :: _ => false
  | _ => true

/-- The options in front of the first plain argument, and the arguments from there on. -/
def readOptions (specs : List OptionSpec) :
    List String → Except ArgumentFault (List GivenOption × List String)
  | [] => .ok ([], [])
  | argument :: rest =>
    match classify specs argument with
    | .plain => .ok ([], argument :: rest)
    | .terminator => if rest.isEmpty then .ok ([], []) else .error .surplusArgument
    | .faulty fault => .error fault
    | .options given => do
      let (more, rest) ← readOptions specs rest
      pure (given ++ more, rest)
    | .awaiting given name =>
      match rest with
      | [] => .error .missingValue
      | value :: rest =>
        if isPlain value then do
          let (more, rest) ← readOptions specs rest
          pure (given ++ ⟨name, value⟩ :: more, rest)
        else .error .missingValue

/-- The first option that is given more often than it may. -/
def repeated? (specs : List OptionSpec) (given : List GivenOption) : Option String :=
  (specs.find? fun spec =>
    !spec.isRepeatable && 1 < (given.filter (·.name == spec.name)).length).map (·.name)

/-- The options in front of the first plain argument, none of them too often. -/
def readLevel (specs : List OptionSpec) (arguments : List String) :
    Except ArgumentFault (List GivenOption × List String) := do
  let (given, rest) ← readOptions specs arguments
  match repeated? specs given with
  | some name => throw (.repeated name)
  | none => pure (given, rest)

/-- The values of an option. -/
def values (given : List GivenOption) (name : String) : List String :=
  (given.filter (·.name == name)).map (·.value)

/-- The value of an option. -/
def value? (given : List GivenOption) (name : String) : Option String := (values given name).getLast?

/-- The value of an option that has to be given. -/
def requiredValue (given : List GivenOption) (name : String) : Except ArgumentFault String :=
  match value? given name with
  | some value => .ok value
  | none => .error (.missing name)

end Arguments

/-! ## The commands -/

/-- The lists and rules of the user that a command compiles. -/
structure RuleArguments where
  inputs : List String
  format : Option ListFormat
  enabled : List String
  blocks : List String
  allows : List String
  whitelist : List String
  blacklist : List String
deriving DecidableEq, Repr

/-- What the program is asked to do. -/
inductive Command where
  /-- Compiles lists into a file of declarative rules. -/
  | compile (rules : RuleArguments) (output : String)
  /-- Prints what is hidden and run on a page. -/
  | cosmetics (rules : RuleArguments) (domain : String)
  /-- Evaluates a request against a file of declarative rules. -/
  | check (rules url resourceType : String) (initiator : Option String)
  /-- Refreshes the lists of a store and compiles them. -/
  | fetch (sources : List String) (store : String) (output : Option String)
      (format : Option ListFormat)
deriving DecidableEq, Repr

/-- A command with the options that go with every command. -/
structure Invocation where
  config : Option String
  verbose : Bool
  command : Command
deriving DecidableEq, Repr

namespace Invocation

open Arguments

/-- The options that go with every command. -/
def commonSpecs : List OptionSpec :=
  [⟨"config", some 'c', true, false⟩, ⟨"verbose", some 'v', false, false⟩]

/-- The options for lists and rules of the user. -/
def ruleSpecs : List OptionSpec :=
  [⟨"input", some 'i', true, true⟩, ⟨"format", none, true, false⟩,
   ⟨"enable", some 'e', true, true⟩, ⟨"block", none, true, true⟩, ⟨"allow", none, true, true⟩,
   ⟨"whitelist", none, true, true⟩, ⟨"blacklist", none, true, true⟩]

/-- The options of `compile`. -/
def compileSpecs : List OptionSpec := ruleSpecs ++ [⟨"output", some 'o', true, false⟩]

/-- The options of `cosmetics`. -/
def cosmeticsSpecs : List OptionSpec := ruleSpecs ++ [⟨"domain", some 'd', true, false⟩]

/-- The options of `check`. -/
def checkSpecs : List OptionSpec :=
  [⟨"rules", some 'r', true, false⟩, ⟨"url", some 'u', true, false⟩,
   ⟨"type", some 't', true, false⟩, ⟨"initiator", none, true, false⟩]

/-- The options of `fetch`. -/
def fetchSpecs : List OptionSpec :=
  [⟨"source", some 's', true, true⟩, ⟨"store", none, true, false⟩, ⟨"output", some 'o', true, false⟩,
   ⟨"format", none, true, false⟩, ⟨"timeout", none, true, false⟩]

/-- The format that the options prescribe. -/
def format? (given : List GivenOption) : Except ArgumentFault (Option ListFormat) :=
  match value? given "format" with
  | none => .ok none
  | some name =>
    match ListFormat.ofName? name with
    | some format => .ok (some format)
    | none => .error (.invalidValue "format")

/-- The lists and rules of the user that the options name. -/
def ruleArguments (given : List GivenOption) : Except ArgumentFault RuleArguments := do
  let inputs := values given "input"
  if inputs.isEmpty then throw (.missing "input")
  let format ← format? given
  let enabled := (values given "enable").flatMap fun names =>
    (Text.splitOn ',' names.toList).map String.ofList
  pure {
    inputs
    format
    enabled
    blocks := values given "block"
    allows := values given "allow"
    whitelist := values given "whitelist"
    blacklist := values given "blacklist" }

/-- Whether a text is a number of 64 bits; a plus sign may stand before its digits. -/
def isNumber64 (text : String) : Bool :=
  let digits := (Text.stripStart? ['+'] text.toList).getD text.toList
  !digits.isEmpty && digits.all Char.isDigit &&
    digits.foldl (fun n d => n * 10 + (d.toNat - '0'.toNat)) 0 < UInt64.size

/-- The options of a command, by its name. -/
def specs? : String → Option (List OptionSpec)
  | "compile" => some compileSpecs
  | "cosmetics" => some cosmeticsSpecs
  | "check" => some checkSpecs
  | "fetch" => some fetchSpecs
  | _ => none

/-- The command of a name with the options that were given. -/
def commandOf (name : String) (given : List GivenOption) : Except ArgumentFault Command :=
  match name with
  | "compile" => do
    pure (.compile (← ruleArguments given) ((value? given "output").getD "rules.json"))
  | "cosmetics" => do
    pure (.cosmetics (← ruleArguments given) (← requiredValue given "domain"))
  | "check" => do
    pure (.check (← requiredValue given "rules") (← requiredValue given "url")
      ((value? given "type").getD "other") (value? given "initiator"))
  | "fetch" => do
    if !((value? given "timeout").all isNumber64) then throw (.invalidValue "timeout")
    pure (.fetch (values given "source") ((value? given "store").getD "warden-state.json")
      (value? given "output") (← format? given))
  | _ => .error .unknownCommand

/-- What the arguments of the program ask for.  An option that goes with every command may stand on
either side of the command, and counts behind it if it stands on both. -/
def parse (arguments : List String) : Except ArgumentFault Invocation := do
  let (outer, rest) ← readLevel commonSpecs arguments
  match rest with
  | [] => throw .unknownCommand
  | name :: rest =>
    if name == "help" then throw .helpRequested
    else
      match specs? name with
      | none => throw .unknownCommand
      | some specs =>
        let (given, rest) ← readLevel (specs ++ commonSpecs) rest
        if !rest.isEmpty then throw .surplusArgument
        else
          let all := outer ++ given
          pure {
            config := value? all "config"
            verbose := !(values all "verbose").isEmpty
            command := ← commandOf name given }

end Invocation

end ContentFilter
