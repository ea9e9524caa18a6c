import ApiCatalog.Command.Running
import ApiCatalog.Command.Usage
import Std.Time.Format

/-!
# The program

Reads the arguments and performs the script of the command they name on the files of the computer.
-/

namespace ApiCatalog

/-- A number of at least two digits. -/
def twoDigits (number : Nat) : String :=
  (if number < 10 then "0" else "") ++ toString number

/-- The time of day. -/
def timeOfDay : IO String := do
  let now ← Std.Time.PlainTime.now
  return "[" ++ twoDigits now.hour.val.toNat ++ ":" ++ twoDigits now.minute.val.toNat ++ ":" ++
    twoDigits now.second.val.toNat ++ "]"

/-- The failure that an error of the system stands for. -/
def fileFailure? : IO.Error → Option FileFailure
  | .noFileOrDirectory _ _ _ => some .notFound
  | .alreadyExists _ _ _ => some .alreadyExists
  | .inappropriateType _ code _ => some (if code = 20 then .notDirectory else .isDirectory)
  | _ => none

/-- Reports a failure. -/
def report (message : String) : IO UInt32 := do
  IO.eprintln ("Error: " ++ message)
  return 1

/-- Stores a file. The directories on the way to it are created. -/
def storeFile (path content : String) : IO Unit := do
  let parent := "/".intercalate (FileTree.parentParts path)
  unless parent.isEmpty do IO.FS.createDirAll parent
  IO.FS.writeFile path content

namespace Script

/-- Performs a script. -/
def perform : Script → IO UInt32
  | .done => return 0
  | .fail failure => report failure.describe
  | .say line next => do
      let text := line.text (← timeOfDay)
      match line.channel with
      | .output => IO.println text
      | .errors => IO.eprintln text
      next.perform
  | .read path next => do
      match ← (IO.FS.readBinFile path).toBaseIO with
      | .ok bytes => (next bytes.toList).perform
      | .error _ => report (CommandFailure.unreadable path).describe
  | .store path content next => do
      match ← (storeFile path content).toBaseIO with
      | .ok _ => next.perform
      | .error failure =>
          report (((fileFailure? failure).map FileFailure.describe).getD (toString failure))

end Script

/-- Answers arguments that name no command. -/
def answerUsage (failure : UsageFailure) : IO UInt32 := do
  if failure.isWanted then
    IO.println failure.describe
    return 0
  else
    IO.eprintln failure.describe
    return 2

/-- Performs the command that arguments name. -/
def performArguments (arguments : List String) : IO UInt32 := do
  match Invocation.ofArguments arguments with
  | .error failure => answerUsage failure
  | .ok invocation =>
      let onTerminal ← (← IO.getStdout).isTty
      let setting ← IO.getEnv "COLORFGBG"
      (invocation.script onTerminal setting).perform

end ApiCatalog

/-- Performs the command that the arguments of the program name. -/
def main (arguments : List String) : IO UInt32 :=
  ApiCatalog.performArguments arguments
