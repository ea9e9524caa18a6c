import ApiCatalog.Catalog
import ApiCatalog.Command.Script
import ApiCatalog.Terminal.Table

/-!
# Listings

The tables of the operations and of the models of a description. Operations are listed by name, models
as they are defined.
-/

namespace ApiCatalog

namespace Listing

variable [Transliteration]

/-- The operations of a description in the order of their names. -/
def sortedOperations (document : Document) (naming : Naming) : List NamedOperation :=
  (Catalog.generate document { naming }).catalog.operations.mergeSort fun left right =>
    Dependencies.precedes left.name right.name

/-- The row of an operation. -/
def operationRow (operation : NamedOperation) : List String :=
  [operation.name, operation.method, operation.path]

/-- The table of the operations of a description. -/
def operations (document : Document) (naming : Naming) : Table where
  columns := [{ header := "NAME", role := .name, isBold := true },
    { header := "METHOD", role := .method, alignsRight := true },
    { header := "PATH", role := .text }]
  rows := (sortedOperations document naming).map operationRow

/-- The word for the kind of a model. -/
def kindName (model : Model) : String :=
  match model.kind with
  | .enumeration .. => "enum"
  | .array .. => "array"
  | .interface .. => "interface"
  | .primitive .. => "type"
  | .untyped => "any"

/-- The first line of the comment of a model. -/
def summary (model : Model) : String :=
  ((model.description.map Comment.lines).getD []).headD ""

/-- The row of a model. -/
def modelRow (model : Model) : List String :=
  [model.name, kindName model, model.rendered, summary model]

/-- The table of the models of a description. -/
def models (document : Document) : Table where
  columns := [{ header := "MODEL", role := .name, isBold := true },
    { header := "KIND", role := .method }, { header := "TYPE", role := .text },
    { header := "DESCRIPTION", role := .muted }]
  rows := (Catalog.generate document {}).catalog.models.map modelRow

/-- Writes a table. -/
def say [Drawing] (screen : Screen) (palette : Palette) (table : Table) : Script :=
  .say (.plain (Drawing.draw screen palette table)) .done

end Listing

end ApiCatalog
