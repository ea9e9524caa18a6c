import ApiCatalog.Document.Loading
import ApiCatalog.FileTree

/-!
# Scripts

What a command does, step by step: it writes lines, reads a file, stores a file, and succeeds or fails.
A script can be run on a file tree as well as on the files of a computer.
-/

namespace ApiCatalog

/-- Where a line goes. -/
inductive Channel where
  /-- To the output. -/
  | output
  /-- To the error output. -/
  | errors
  deriving DecidableEq, Repr

/-- A line that is written. Its text may depend on the time of day. -/
structure Line where
  /-- Where it goes. -/
  channel : Channel
  /-- Its text at a time of day. -/
  text : String → String

namespace Line

/-- A line of the output. -/
def plain (text : String) : Line :=
  ⟨.output, fun _ => text⟩

/-- A line of the error output. -/
def error (text : String) : Line :=
  ⟨.errors, fun _ => text⟩

end Line

/-- Why a command fails. -/
inductive CommandFailure where
  /-- It is asked to report details and to report nothing. -/
  | contradiction
  /-- A file cannot be read. -/
  | unreadable (path : String)
  /-- The API description is refused. -/
  | refused (failure : LoadFailure)
  /-- A file cannot be stored. -/
  | unwritable (failure : FileFailure)
  deriving DecidableEq, Repr

/-- A failure in words. -/
def CommandFailure.describe : CommandFailure → String
  | .contradiction => "--verbose and --quiet cannot be combined"
  | .unreadable path => "failed to open " ++ path
  | .refused failure => failure.describe
  | .unwritable failure => failure.describe

/-- What a command does. -/
inductive Script where
  /-- It succeeds. -/
  | done
  /-- It fails. -/
  | fail (failure : CommandFailure)
  /-- It writes a line and goes on. -/
  | say (line : Line) (next : Script)
  /-- It reads a file and goes on with its content. It fails if the file cannot be read. -/
  | read (path : String) (next : List UInt8 → Script)
  /-- It stores a file and goes on. It fails if the file cannot be stored. -/
  | store (path : String) (content : String) (next : Script)

/-- What a script leaves behind. -/
structure Aftermath where
  /-- The texts written to the output, each of one or more lines. -/
  output : List String
  /-- The texts written to the error output. -/
  errors : List String
  /-- The files. -/
  files : FileTree
  /-- The failure, if the script fails. -/
  failure : Option CommandFailure
  deriving DecidableEq, Repr

/-- What is left behind if a line is written before. -/
def Aftermath.after (time : String) (line : Line) (aftermath : Aftermath) : Aftermath :=
  match line.channel with
  | .output => { aftermath with output := line.text time :: aftermath.output }
  | .errors => { aftermath with errors := line.text time :: aftermath.errors }

namespace Script

/-- Writes lines and goes on. -/
def sayAll (lines : List Line) (next : Script) : Script :=
  lines.foldr .say next

/-- Reads an API description and goes on with it. It fails if the description is refused. -/
def load (path : String) (next : Document → Script) : Script :=
  .read path fun bytes =>
    match Document.load (Format.ofPath path) bytes with
    | .ok document => next document
    | .error failure => .fail (.refused failure)

/-- Runs a script on a file tree, where the time of day stands still. -/
def run (time : String) : Script → FileTree → Aftermath
  | .done, files => ⟨[], [], files, none⟩
  | .fail failure, files => ⟨[], [], files, some failure⟩
  | .say line next, files => (next.run time files).after time line
  | .read path next, files =>
      match files.read? path with
      | some bytes => (next bytes).run time files
      | none => ⟨[], [], files, some (.unreadable path)⟩
  | .store path content next, files =>
      match files.write path (Text.encode content.toList) with
      | .ok written => next.run time written
      | .error failure => ⟨[], [], files, some (.unwritable failure)⟩

end Script

end ApiCatalog
