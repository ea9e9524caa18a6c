import ApiCatalog.Command.Arguments

/-!
# Usage messages

What the program says when its arguments name no command.
-/

namespace ApiCatalog

namespace UsageFailure

/-- The summary of the arguments that the program takes. -/
def help : String :=
  "\n".intercalate [
    "Resolves the models of Swagger 2.0 API descriptions",
    "",
    "Commands:",
    "  list operations --input <FILE> [--naming <NAMING>]",
    "  list models --input <FILE>",
    "  models --input <FILE> --output <FILE> [--naming <NAMING>] [--only <NAMES>]",
    "         [--verbose | --quiet]",
    "",
    "Options:",
    "  --color <always|auto|never>     When to use color",
    "  --theme <dark|light|auto>       Which theme to use",
    "  --naming <path|operation-id>    Where the names of operations come from",
    "  -h, --help                      Print help",
    "  -V, --version                   Print version"]

/-- The version of the program. -/
def version : String := "api-catalog 0.4.1"

/-- A failure in words. -/
def describe : UsageFailure → String
  | .helpWanted | .nothingGiven => help
  | .versionWanted => version
  | .missingSubcommand => "a subcommand is required"
  | .invalidSubcommand name => "unrecognized subcommand '" ++ name ++ "'"
  | .unknownArgument argument => "unexpected argument '" ++ argument ++ "' found"
  | .repeatedOption name => "the argument '--" ++ name ++ "' cannot be used multiple times"
  | .unneededValue name => "unexpected value for '--" ++ name ++ "' found"
  | .invalidValue name => "a valid value is required for '--" ++ name ++ "'"
  | .missingOption name => "the argument '--" ++ name ++ "' is required"

/-- Whether what the program says was asked for. -/
def isWanted : UsageFailure → Bool
  | .helpWanted | .versionWanted => true
  | _ => false

end UsageFailure

end ApiCatalog
