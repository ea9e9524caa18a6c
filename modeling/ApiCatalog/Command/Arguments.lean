import ApiCatalog.Command

/-!
# Reading arguments

The arguments of the program name a command through levels of subcommands. At every level options
may be given; the value of an option is checked when the next option is met or the level ends.
-/

namespace ApiCatalog

/-- Why arguments name no command. -/
inductive UsageFailure where
  /-- Help is asked for. -/
  | helpWanted
  /-- The version of the program is asked for. -/
  | versionWanted
  /-- Nothing is given where a subcommand is needed, so that help is due. -/
  | nothingGiven
  /-- A subcommand is needed. -/
  | missingSubcommand
  /-- There is no such subcommand. -/
  | invalidSubcommand (name : String)
  /-- There is no such argument. -/
  | unknownArgument (argument : String)
  /-- An option is given twice. -/
  | repeatedOption (name : String)
  /-- A value is given for an option that takes none. -/
  | unneededValue (name : String)
  /-- The value of an option is missing or is not one that it takes. -/
  | invalidValue (name : String)
  /-- A required option is missing. -/
  | missingOption (name : String)
  deriving DecidableEq, Repr

/-- An option. -/
inductive OptionName where
  /-- When to use color. -/
  | color
  /-- Which theme to use. -/
  | theme
  /-- The path of the API description. -/
  | input
  /-- The path of the catalog. -/
  | output
  /-- Where the names of operations come from. -/
  | naming
  /-- The definitions to resolve. -/
  | only
  /-- Whether to report details. -/
  | verbose
  /-- Whether to report nothing. -/
  | quiet
  /-- Asks for help. -/
  | help
  /-- Asks for the version. -/
  | version
  deriving DecidableEq, Repr

namespace OptionName

/-- The name after two dashes. -/
def long : OptionName → String
  | .color => "color"
  | .theme => "theme"
  | .input => "input"
  | .output => "output"
  | .naming => "naming"
  | .only => "only"
  | .verbose => "verbose"
  | .quiet => "quiet"
  | .help => "help"
  | .version => "version"

/-- The letter after one dash. -/
def short? : OptionName → Option Char
  | .input => some 'i'
  | .output => some 'o'
  | .verbose => some 'v'
  | .quiet => some 'q'
  | .help => some 'h'
  | .version => some 'V'
  | .color | .theme | .naming | .only => none

/-- Whether the option takes a value. -/
def takesValue : OptionName → Bool
  | .color | .theme | .input | .output | .naming | .only => true
  | .verbose | .quiet | .help | .version => false

/-- The color mode with a name. -/
def colorMode? : String → Option ColorMode
  | "always" => some .always
  | "auto" => some .auto
  | "never" => some .never
  | _ => none

/-- The theme mode with a name. -/
def themeMode? : String → Option ThemeMode
  | "dark" => some .dark
  | "light" => some .light
  | "auto" => some .auto
  | _ => none

/-- The naming with a name. -/
def naming? : String → Option Naming
  | "path" => some .pathDerived
  | "operation-id" => some .preferOperationId
  | _ => none

/-- Whether the option takes a value. A path must not be empty. -/
def accepts (option : OptionName) (value : String) : Bool :=
  match option with
  | .color => (colorMode? value).isSome
  | .theme => (themeMode? value).isSome
  | .naming => (naming? value).isSome
  | .input | .output => !value.isEmpty
  | .only => true
  | .verbose | .quiet | .help | .version => false

end OptionName

/-- A level of subcommands. -/
inductive Level where
  /-- The program itself. -/
  | root
  /-- The subcommand for lists. -/
  | list
  /-- The subcommand that lists operations. -/
  | listOperations
  /-- The subcommand that lists models. -/
  | listModels
  /-- The subcommand that makes a catalog. -/
  | makeCatalog
  deriving DecidableEq, Repr

namespace Level

/-- The subcommands of a level. -/
def subcommands : Level → List (String × Level)
  | .root => [("list", .list), ("models", .makeCatalog)]
  | .list => [("operations", .listOperations), ("models", .listModels)]
  | .listOperations | .listModels | .makeCatalog => []

/-- Whether a level needs a subcommand. -/
def needsSubcommand (level : Level) : Bool :=
  !level.subcommands.isEmpty

/-- The options that must be given at a level. -/
def required : Level → List OptionName
  | .root | .list => []
  | .listOperations | .listModels => [.input]
  | .makeCatalog => [.input, .output]

/-- The options of a level. -/
def options (level : Level) : List OptionName :=
  [.color, .theme, .help] ++
    match level with
    | .root => [.version]
    | .list => []
    | .listOperations => [.input, .naming]
    | .listModels => [.input]
    | .makeCatalog => [.input, .output, .naming, .only, .verbose, .quiet]

/-- The option of a level with a name. -/
def long? (level : Level) (name : String) : Option OptionName :=
  level.options.find? fun option => option.long == name

/-- The option of a level with a letter. -/
def short? (level : Level) (letter : Char) : Option OptionName :=
  level.options.find? fun option => option.short? == some letter

/-- The failure of an argument that is no option. After two dashes even the name of a subcommand is
out of place. -/
def misplaced (level : Level) (afterDashes : Bool) (argument : String) : UsageFailure :=
  if level.needsSubcommand then
    let isName := argument == "help" || (level.subcommands.lookup argument).isSome
    if afterDashes && isName then .unknownArgument argument else .invalidSubcommand argument
  else .unknownArgument argument

/-- The failure that help for a subcommand ends in. The help of the subcommand for help itself can be
asked for as well. -/
def help : Level → List String → UsageFailure
  | _, [] => .helpWanted
  | level, name :: rest =>
      match level.subcommands.lookup name with
      | some sub => sub.help rest
      | none =>
          match level.needsSubcommand && name == "help", rest with
          | true, [] => .helpWanted
          | true, next :: _ => .invalidSubcommand next
          | false, _ => .invalidSubcommand name

end Level

/-- What is given at a level. -/
structure Given where
  /-- The options with their values, in order. -/
  options : List (OptionName × String) := []
  /-- An option that is not checked yet, with its value if that has been met. -/
  pending : Option (OptionName × Option String) := none
  deriving DecidableEq, Repr

namespace Given

/-- Whether an option waits for its value. -/
def isAwaiting (given : Given) : Bool :=
  match given.pending with
  | some (_, none) => true
  | _ => false

/-- The value of the option that waits for one. -/
def supply (value : String) (given : Given) : Given :=
  { given with pending := given.pending.map fun (option, _) => (option, some value) }

/-- The values of an option. -/
def values (given : Given) (option : OptionName) : List String :=
  (given.options.filter fun entry => entry.1 == option).map Prod.snd

/-- The last value of an option. -/
def value? (given : Given) (option : OptionName) : Option String :=
  (given.values option).getLast?

/-- Notes an option with its value. Only the one that selects definitions may be repeated. -/
def note (option : OptionName) (value : String) (given : Given) : Except UsageFailure Given :=
  if option != .only && (given.value? option).isSome then .error (.repeatedOption option.long)
  else if option.takesValue && !option.accepts value then .error (.invalidValue option.long)
  else .ok { given with options := given.options ++ [(option, value)] }

/-- Checks the option that is not checked yet. -/
def settle (given : Given) : Except UsageFailure Given :=
  let settled := { given with pending := none }
  match given.pending with
  | none => .ok settled
  | some (option, none) => .error (.invalidValue option.long)
  | some (option, some value) => settled.note option value

/-- Notes an option that takes no value. -/
def raise (option : OptionName) (given : Given) : Except UsageFailure Given := do
  let settled ← given.settle
  match option with
  | .help => throw .helpWanted
  | .version => throw .versionWanted
  | _ => settled.note option ""

/-- Notes an option that takes a value, which may be attached to it. -/
def openValue (option : OptionName) (attached : Option String) (given : Given) :
    Except UsageFailure Given := do
  let settled ← given.settle
  match attached with
  | some value => settled.note option value
  | none => return { settled with pending := some (option, none) }

/-- Notes the options of a cluster of letters. What follows the letter of an option that takes a value
is its value, after an equals sign if there is one. -/
def readLetters (level : Level) : List Char → Given → Except UsageFailure Given
  | [], given => .ok given
  | letter :: rest, given =>
      match level.short? letter with
      | none => .error (.unknownArgument (String.ofList ['-', letter]))
      | some option =>
          if option.takesValue then
            let attached :=
              match rest with
              | [] => none
              | '=' :: value => some (String.ofList value)
              | value => some (String.ofList value)
            given.openValue option attached
          else do readLetters level rest (← given.raise option)

/-- Notes the option of a name, which may have a value after an equals sign. -/
def readName (level : Level) (text : List Char) (given : Given) : Except UsageFailure Given :=
  let name := String.ofList (text.takeWhile (· ≠ '='))
  let attached :=
    match text.dropWhile (· ≠ '=') with
    | [] => none
    | _ :: value => some (String.ofList value)
  match level.long? name with
  | none => .error (.unknownArgument ("--" ++ name))
  | some option =>
      if option.takesValue then given.openValue option attached
      else if attached.isSome then .error (.unneededValue name)
      else given.raise option

/-- Checks a level that ends without a subcommand. -/
def complete (level : Level) (given : Given) : Except UsageFailure Given := do
  let settled ← given.settle
  if level.needsSubcommand then
    throw (if settled.options.isEmpty then .nothingGiven else .missingSubcommand)
  else
    match level.required.find? fun option => (settled.value? option).isNone with
    | some option => throw (.missingOption option.long)
    | none => return settled

end Given

namespace Arguments

/-- What is given at every level that the arguments lead through, the innermost level last. The name
of a subcommand counts unless an option waits for its value, and after two dashes nothing counts. -/
def read (level : Level) : Given → Bool → List String → Except UsageFailure (List (Level × Given))
  | given, _, [] => do return [(level, ← given.complete level)]
  | _, true, argument :: _ => throw (level.misplaced true argument)
  | given, false, argument :: rest => do
      let sub? := if given.isAwaiting then none else level.subcommands.lookup argument
      match sub?, argument.toList with
      | some sub, _ =>
          let inner ← read sub {} false rest
          return (level, ← given.settle) :: inner
      | none, ['-', '-'] => read level given true rest
      | none, '-' :: '-' :: name => read level (← given.readName level name) false rest
      | none, '-' :: letter :: letters =>
          read level (← given.readLetters level (letter :: letters)) false rest
      | none, _ =>
          if given.isAwaiting then read level (given.supply argument) false rest
          else if level.needsSubcommand && argument == "help" then throw (level.help rest)
          else throw (level.misplaced false argument)

/-- The value of an option, at the innermost level that gives one. -/
def value? (levels : List (Level × Given)) (option : OptionName) : Option String :=
  (levels.filterMap fun (_, given) => given.value? option).getLast?

/-- The path that an option gives. Where it is required, it is never missing. -/
def path (levels : List (Level × Given)) (option : OptionName) : String :=
  (value? levels option).getD ""

/-- The naming that an option gives. -/
def naming (levels : List (Level × Given)) : Naming :=
  ((value? levels .naming).bind OptionName.naming?).getD .pathDerived

/-- The definitions that options give, separated by commas. -/
def only (given : Given) : Option (List String) :=
  match given.values .only with
  | [] => none
  | texts =>
      some (texts.flatMap fun text => (Text.splitOn ',' text.toList).map String.ofList)

/-- The command that the innermost level stands for. -/
def command? (levels : List (Level × Given)) : Option Command :=
  match levels.getLast? with
  | some (.listOperations, _) => some (.listOperations (path levels .input) (naming levels))
  | some (.listModels, _) => some (.listModels (path levels .input))
  | some (.makeCatalog, given) => some <| .makeCatalog
      { input := path levels .input
        output := path levels .output
        naming := naming levels
        only := only given
        verbose := (given.value? .verbose).isSome
        quiet := (given.value? .quiet).isSome }
  | _ => none

end Arguments

/-- The invocation that arguments stand for. -/
def Invocation.ofArguments (arguments : List String) : Except UsageFailure Invocation := do
  let levels ← Arguments.read .root {} false arguments
  match Arguments.command? levels with
  | none => throw .missingSubcommand
  | some command =>
      return {
        color := ((Arguments.value? levels .color).bind OptionName.colorMode?).getD .auto
        theme := ((Arguments.value? levels .theme).bind OptionName.themeMode?).getD .auto
        command }

end ApiCatalog
