import ApiCatalog.Catalog
import ApiCatalog.Command
import ApiCatalog.Command.Script
import ApiCatalog.Json.Printer
import ApiCatalog.Text.Blank

/-!
# Making a catalog

The steps of the order to make a catalog, and what is reported on the way. What is reported has no
influence on the catalog.
-/

namespace ApiCatalog

namespace CatalogOrder

/-- The request for the catalog. Blanks around names do not count, and neither do empty names. -/
def request (order : CatalogOrder) : Request where
  naming := order.naming
  only := order.only.map fun names =>
    (names.map fun name => String.ofList (Text.trim name.toList)).filter fun name => !name.isEmpty

/-! ## Reports -/

variable (palette : Palette)

/-- A message with the time of day. -/
def stamped (role : Role) (message : String) : Line :=
  ⟨.output, fun time => palette.paint .timestamp time ++ " " ++ palette.paint role message⟩

/-- What a model is, in a few words. -/
def detail (model : Model) : String :=
  match model.kind with
  | .interface properties parents =>
      toString properties.length ++ " properties" ++
        if parents.isEmpty then "" else ", extends " ++ ", ".intercalate parents
  | .enumeration symbols _ _ _ =>
      let allNumbers := symbols.all fun symbol => symbol.value.isNumber
      toString symbols.length ++ (if allNumbers then " numeric" else " string") ++ " values"
  | .array .. | .primitive .. => model.rendered
  | .untyped => "untyped"

/-- The lines about a model. -/
def modelLines (model : Model) : List Line :=
  .plain ("              " ++ palette.paint .name model.name ++ " " ++
    palette.paint .muted (detail model)) ::
  model.validation.toList.map fun validation =>
    .plain ("                " ++ palette.paint .muted validation)

/-- The line of a circle of definitions. -/
def cycleLine (number : Nat) (cycle : List String) : Line :=
  .plain ("              " ++ palette.paint .method ("Cycle " ++ toString number) ++ ": " ++
    palette.paint .muted (" -> ".intercalate cycle))

/-- The line of a warning. -/
def warningLine (warning : Warning) : Line :=
  .error (palette.paint .warning "Warning:" ++ " " ++ palette.paint .text warning.describe)

variable (order : CatalogOrder)

/-- A message about what is done next. -/
def announce (message : String) : List Line :=
  if order.quiet then [] else [stamped palette .text message]

/-- A number with its label. -/
def statistic (label value : String) : List Line :=
  if order.quiet then []
  else [.plain ("            " ++ palette.paint .heading label ++ " " ++ palette.paint .name value)]

/-- The report of the models. -/
def reportModels (models : List Model) : List Line :=
  if order.verbose then models.flatMap (modelLines palette) else []

/-- The report of the circles of definitions. -/
def reportCycles (statistics : Statistics) : List Line :=
  if statistics.cycles = 0 then []
  else
    statistic palette order "Cycles:" (toString statistics.cycles) ++
    if order.verbose then
      (statistics.cycleDetails.zipIdx 1).map fun (cycle, number) => cycleLine palette number cycle
    else []

/-- The report of the warnings, after an empty line if there are any to be shown. Warnings about
references always are. -/
def reportWarnings (statistics : Statistics) : List Line :=
  match statistics.warnings.filter fun warning => warning.isReferenceFailure || order.verbose with
  | [] => []
  | shown => .error "" :: shown.map (warningLine palette)

/-- The report of the numbers of a catalog, its circles and its warnings. -/
def reportStatistics (statistics : Statistics) : List Line :=
  if order.quiet then []
  else
    statistic palette order "Models resolved:" (toString statistics.models) ++
    statistic palette order "" (toString statistics.interfaces ++ " interfaces") ++
    statistic palette order "" (toString statistics.enumerations ++ " enums") ++
    statistic palette order "" (toString statistics.arrays ++ " arrays") ++
    statistic palette order "" (toString statistics.primitives ++ " type aliases") ++
    (if statistics.untyped = 0 then []
      else statistic palette order "" (toString statistics.untyped ++ " untyped")) ++
    statistic palette order "Operations named:" (toString statistics.operations) ++
    (if statistics.renamed = 0 then []
      else statistic palette order "" (toString statistics.renamed ++ " renamed")) ++
    (if statistics.warnings.isEmpty then []
      else statistic palette order "Warnings:" (toString statistics.warnings.length)) ++
    reportCycles palette order statistics ++
    reportWarnings palette order statistics

/-- The message that a catalog has been made. -/
def reportSuccess : List Line :=
  if order.quiet then []
  else [.plain "", stamped palette .success "Successfully resolved model catalog"]

/-! ## Steps -/

/-- Makes a catalog. -/
def script [Transliteration] : Script :=
  if order.verbose && order.quiet then .fail .contradiction
  else
    .sayAll (announce palette order ("Loading Swagger document from: " ++ order.input)) <|
    .load order.input fun document =>
    let generation := Catalog.generate document order.request
    let title := document.info.title ++ " " ++ document.info.version
    .sayAll (announce palette order ("Resolving models for " ++ title ++ "...")) <|
    .sayAll (reportModels palette order generation.catalog.models) <|
    .sayAll (reportStatistics palette order generation.statistics) <|
    .sayAll (announce palette order ("Writing to: " ++ order.output)) <|
    .store order.output generation.catalog.toJson.pretty <|
    .sayAll (reportSuccess palette order) .done

end CatalogOrder

end ApiCatalog
