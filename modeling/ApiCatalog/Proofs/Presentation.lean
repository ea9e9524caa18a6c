import ApiCatalog.Command.Actions
import ApiCatalog.Terminal.PlainDrawing
import ApiCatalog.Text.Spellings

/-!
# Presentation

How a catalog is reported has no influence on it. A script without the lines that it says leaves the
same files and ends the same way: `run_hushed`. What is left of the script of an order mentions no
colors and no details any more, so that two orders for the same catalog do the same:
`presentation_inert`. An order that is to report nothing says nothing to begin with.
-/

namespace ApiCatalog

/-! ## Scripts that say nothing -/

namespace Script

/-- A script without the lines that it says. -/
def hushed : Script → Script
  | .done => .done
  | .fail failure => .fail failure
  | .say _ next => next.hushed
  | .read path next => .read path fun bytes => (next bytes).hushed
  | .store path content next => .store path content next.hushed

theorem hushed_sayAll (lines : List Line) (next : Script) :
    (sayAll lines next).hushed = next.hushed := by
  induction lines with
  | nil => rfl
  | cons line lines induction => exact induction

theorem hushed_load (path : String) (next : Document → Script) :
    (load path next).hushed = load path fun document => (next document).hushed := by
  simp only [load, hushed]
  congr 1
  funext bytes
  cases Document.load (Format.ofPath path) bytes <;> rfl

/-- Neither what a script says nor the time shows in the files it leaves and in how it ends. -/
theorem run_hushed (script : Script) (time other : String) (files : FileTree) :
    script.hushed.run other files =
      ⟨[], [], (script.run time files).files, (script.run time files).failure⟩ := by
  induction script generalizing files with
  | done => rfl
  | fail failure => rfl
  | say line next induction =>
      rw [hushed, induction, run, Aftermath.after]
      cases line.channel <;> rfl
  | read path next induction =>
      rw [hushed, run, run]
      cases files.read? path with
      | none => rfl
      | some bytes => exact induction bytes files
  | store path content next induction =>
      rw [hushed, run, run]
      cases files.write path (Text.encode content.toList) with
      | error failure => rfl
      | ok written => exact induction written

/-- A script that says nothing writes nothing. -/
theorem silent_run {script : Script} (silent : script.hushed = script) (time : String)
    (files : FileTree) :
    (script.run time files).output = [] ∧ (script.run time files).errors = [] := by
  have same := run_hushed script time time files
  rw [silent] at same
  rw [same]
  exact ⟨rfl, rfl⟩

end Script

/-! ## Requests -/

namespace Catalog

/-- A catalog depends on where names come from and on which definitions are chosen. -/
theorem generate_congr [Transliteration] {left right : Request} (document : Document)
    (naming : left.naming = right.naming) (chosen : left.selects = right.selects) :
    generate document left = generate document right := by
  simp only [generate, resolveModels, modelWarnings, selected, naming, chosen]

end Catalog

/-! ## Orders -/

namespace CatalogOrder

/-- Details are asked for as well as silence. -/
def Contradictory (order : CatalogOrder) : Prop :=
  order.verbose = true ∧ order.quiet = true

/-- A name is given among the definitions to resolve. Blanks around names do not count, and neither
do empty names. -/
def Names (order : CatalogOrder) (name : String) : Prop :=
  name ≠ "" ∧ ∃ given, order.only = some given ∧
    ∃ text ∈ given, String.ofList (Text.trim text.toList) = name

/-- Two orders for the same catalog, however it is reported. -/
structure Agrees (left right : CatalogOrder) : Prop where
  input : left.input = right.input
  output : left.output = right.output
  naming : left.naming = right.naming
  absent : left.only = none ↔ right.only = none
  names : ∀ name, left.Names name ↔ right.Names name

theorem mem_only_iff {order : CatalogOrder} {names : List String} {name : String}
    (given : order.request.only = some names) : name ∈ names ↔ order.Names name := by
  obtain ⟨texts, listed, rfl⟩ := Option.map_eq_some_iff.mp given
  simp [Names, listed, and_comm]

theorem selects_iff {order : CatalogOrder} {name : String} :
    order.request.selects name = true ↔ order.only = none ∨ order.Names name := by
  cases given : order.only with
  | none => simp [Request.selects, request, given]
  | some texts =>
      obtain ⟨names, chosen⟩ : ∃ names, order.request.only = some names := by simp [request, given]
      simp [Request.selects, chosen, mem_only_iff chosen]

theorem not_and_of_consistent {order : CatalogOrder} (consistent : ¬ order.Contradictory) :
    ¬ (order.verbose && order.quiet) = true := by
  simpa [Contradictory] using consistent

variable [Transliteration] {left right : CatalogOrder}

theorem Agrees.generate (agrees : left.Agrees right) (document : Document) :
    Catalog.generate document left.request = Catalog.generate document right.request := by
  apply Catalog.generate_congr document agrees.naming
  funext name
  rw [Bool.eq_iff_iff, selects_iff, selects_iff, agrees.absent, agrees.names]

/-- What an order does to files. -/
def work (order : CatalogOrder) : Script :=
  .load order.input fun document =>
    .store order.output (Catalog.generate document order.request).catalog.toJson.pretty .done

theorem Agrees.work (agrees : left.Agrees right) : left.work = right.work := by
  simp only [CatalogOrder.work, agrees.input, agrees.output, agrees.generate]

/-- Why an order is rejected before anything is stored: it contradicts itself, or its description
cannot be opened, cannot be decoded, or is in another version of its format. -/
inductive Rejected (order : CatalogOrder) (files : FileTree) : CommandFailure → Prop
  | contradictory (contradictory : order.Contradictory) : Rejected order files .contradiction
  | unopened (consistent : ¬ order.Contradictory) (missing : files.read? order.input = none) :
      Rejected order files (.unreadable order.input)
  | undecoded {bytes : List UInt8} {failure : Failure} (consistent : ¬ order.Contradictory)
      (found : files.read? order.input = some bytes)
      (invalid : Document.decode (Format.ofPath order.input) bytes = .error failure) :
      Rejected order files (.refused (.invalid (Format.ofPath order.input) failure))
  | unsupported {bytes : List UInt8} {document : Document} (consistent : ¬ order.Contradictory)
      (found : files.read? order.input = some bytes)
      (decoded : Document.decode (Format.ofPath order.input) bytes = .ok document)
      (differs : document.swagger ≠ supportedVersion) :
      Rejected order files (.refused (.unsupportedVersion document.swagger))

variable (palette : Palette) {order : CatalogOrder}

theorem script_of_contradictory (contradictory : order.Contradictory) :
    order.script palette = .fail .contradiction := by
  rw [script, contradictory.1, contradictory.2]
  rfl

theorem hushed_script (consistent : ¬ order.Contradictory) :
    (order.script palette).hushed = order.work := by
  rw [script, if_neg (not_and_of_consistent consistent)]
  simp only [Script.hushed_sayAll, Script.hushed_load, Script.hushed, work]

theorem script_of_quiet (consistent : ¬ order.Contradictory) (quiet : order.quiet = true) :
    order.script palette = order.work := by
  -- The report of the models heeds details only, so its silence takes consistency.
  have plain : order.verbose = false :=
    Bool.eq_false_iff.mpr fun verbose => consistent ⟨verbose, quiet⟩
  rw [script, if_neg (not_and_of_consistent consistent)]
  simp only [announce, reportModels, reportStatistics, reportSuccess, quiet, plain, if_true,
    Bool.false_eq_true, if_false]
  rfl

/-- An order that is to report nothing says nothing. -/
theorem hushed_script_of_quiet (quiet : order.quiet = true) :
    (order.script palette).hushed = order.script palette := by
  by_cases contradictory : order.Contradictory
  · rw [script_of_contradictory palette contradictory, Script.hushed]
  · rw [hushed_script palette contradictory, script_of_quiet palette contradictory quiet]

/-- Without contradiction, the files and the end of a run are those of the work on them. -/
theorem run_script (consistent : ¬ order.Contradictory) (time : String) (files : FileTree) :
    ((order.script palette).run time files).files = (order.work.run "" files).files ∧
      ((order.script palette).run time files).failure = (order.work.run "" files).failure := by
  rw [← hushed_script palette consistent, Script.run_hushed _ time]
  exact ⟨rfl, rfl⟩

theorem run_work_of_refused {bytes : List UInt8} {failure : LoadFailure}
    (found : files.read? order.input = some bytes)
    (refused : Document.load (Format.ofPath order.input) bytes = .error failure) :
    order.work.run "" files = ⟨[], [], files, some (.refused failure)⟩ := by
  simp only [work, Script.load, Script.run, found, refused]

theorem run_script_of_rejected {files : FileTree} {failure : CommandFailure}
    (rejected : order.Rejected files failure) (time : String) :
    ((order.script palette).run time files).files = files ∧
      ((order.script palette).run time files).failure = some failure := by
  cases rejected with
  | contradictory contradictory =>
      rw [script_of_contradictory palette contradictory]
      exact ⟨rfl, rfl⟩
  | unopened consistent missing =>
      have run := run_script palette consistent time files
      simpa only [work, Script.load, Script.run, missing] using run
  | @undecoded bytes cause consistent found invalid =>
      have refused : Document.load (Format.ofPath order.input) bytes =
          .error (.invalid (Format.ofPath order.input) cause) := by
        rw [Document.load, invalid]
      have run := run_script palette consistent time files
      rwa [run_work_of_refused found refused] at run
  | @unsupported bytes document consistent found decoded differs =>
      have refused : Document.load (Format.ofPath order.input) bytes =
          .error (.unsupportedVersion document.swagger) := by
        rw [Document.load, decoded]
        exact if_neg differs
      have run := run_script palette consistent time files
      rwa [run_work_of_refused found refused] at run

end CatalogOrder

/-! ## Command lines -/

/-- Where and when a command is run. -/
structure Surroundings where
  /-- The time of day. -/
  time : String
  /-- Whether the output goes to a terminal. -/
  onTerminal : Bool
  /-- What the terminal tells of its colors. -/
  setting : Option String
  /-- How wide the terminal is. -/
  width : Nat

namespace Invocation

/-- Arguments stand for an invocation that orders a catalog. -/
structure Orders (arguments : List String) (invocation : Invocation) (order : CatalogOrder) :
    Prop where
  accepted : Invocation.ofArguments arguments = .ok invocation
  command : invocation.command = .makeCatalog order

section

variable [Transliteration] [Drawing]

/-- What an invocation leaves behind in a file tree. Only relative paths lead to places of the tree:
a path from the root of all files is one that names nothing. -/
def aftermath (invocation : Invocation) (surroundings : Surroundings) (files : FileTree) :
    Aftermath :=
  (invocation.script surroundings.onTerminal surroundings.setting surroundings.width).run
    surroundings.time files

variable {arguments others : List String} {left right : Invocation} {order other : CatalogOrder}

theorem Orders.script_eq (orders : Orders arguments left order) (onTerminal : Bool)
    (setting : Option String) (width : Nat) :
    left.script onTerminal setting width = order.script (left.palette onTerminal setting) := by
  rw [script, orders.command, Command.script]

/-- How a catalog is reported has no influence on it. Two command lines that order the same catalog,
each without contradiction, leave the same files and end the same way, whatever they say of details,
colors and themes, and wherever and whenever they are run. An order that is to report nothing writes
nothing. An order that contradicts itself, or whose description is not accepted, leaves the files
alone. -/
theorem presentation_inert (orders : Orders arguments left order)
    (otherOrders : Orders others right other) (here there : Surroundings) (files : FileTree) :
    (order.Agrees other → ¬ order.Contradictory → ¬ other.Contradictory →
      (left.aftermath here files).files = (right.aftermath there files).files ∧
        (left.aftermath here files).failure = (right.aftermath there files).failure) ∧
    (order.quiet = true →
      (left.aftermath here files).output = [] ∧ (left.aftermath here files).errors = []) ∧
    ∀ failure, order.Rejected files failure →
      (left.aftermath here files).files = files ∧
        (left.aftermath here files).failure = some failure := by
  rw [aftermath, orders.script_eq, aftermath, otherOrders.script_eq]
  refine ⟨?_, ?_, ?_⟩
  · intro agrees consistent otherConsistent
    have run := CatalogOrder.run_script (left.palette here.onTerminal here.setting) consistent
      here.time files
    have otherRun := CatalogOrder.run_script (right.palette there.onTerminal there.setting)
      otherConsistent there.time files
    rw [run.1, run.2, otherRun.1, otherRun.2, agrees.work]
    exact ⟨rfl, rfl⟩
  · intro quiet
    exact Script.silent_run (CatalogOrder.hushed_script_of_quiet _ quiet) _ _
  · intro failure rejected
    exact CatalogOrder.run_script_of_rejected _ rejected _

end

attribute [local instance] Text.tabulated Table.plainDrawing

/-- An order for a pet and a tag, with details. -/
def loud : CatalogOrder where
  input := "api.json"
  output := "out/models.json"
  only := some ["Pet", "Tag"]
  verbose := true

/-- An order for the same catalog in silence. -/
def mute : CatalogOrder where
  input := "api.json"
  output := "out/models.json"
  only := some [" Tag ", "", "Pet", "Pet"]
  quiet := true

/-- The only file is a description. -/
def described : FileTree :=
  ⟨[(["api.json"], Text.encode "{}".toList)], []⟩

theorem presentation_inert_loud_mute :
    Orders ["models", "-i", "api.json", "-o", "out/models.json", "--only", "Pet,Tag", "-v",
        "--color", "always"] ⟨.always, .auto, .makeCatalog loud⟩ loud ∧
      Orders ["--theme=light", "models", "-qi", "api.json", "-oout/models.json", "--only= Tag ,",
        "--only", "Pet,Pet"] ⟨.auto, .light, .makeCatalog mute⟩ mute ∧
      loud.Agrees mute ∧ ¬ loud.Contradictory ∧ ¬ mute.Contradictory ∧
      (aftermath ⟨.always, .auto, .makeCatalog loud⟩ ⟨"[09:00:00]", true, none, 120⟩
          described).files =
        (aftermath ⟨.auto, .light, .makeCatalog mute⟩ ⟨"[17:30:00]", false, some "0;15", 80⟩
          described).files ∧
      (aftermath ⟨.auto, .light, .makeCatalog mute⟩ ⟨"[17:30:00]", false, some "0;15", 80⟩
        described).output = [] ∧
      loud.Rejected ⟨[], []⟩ (.unreadable "api.json") ∧
      (aftermath ⟨.always, .auto, .makeCatalog loud⟩ ⟨"[09:00:00]", true, none, 120⟩
        ⟨[], []⟩).files = ⟨[], []⟩ := by
  have ordersLoud : Orders ["models", "-i", "api.json", "-o", "out/models.json", "--only",
      "Pet,Tag", "-v", "--color", "always"] ⟨.always, .auto, .makeCatalog loud⟩ loud := ⟨rfl, rfl⟩
  have ordersMute : Orders ["--theme=light", "models", "-qi", "api.json", "-oout/models.json",
      "--only= Tag ,", "--only", "Pet,Pet"] ⟨.auto, .light, .makeCatalog mute⟩ mute := ⟨rfl, rfl⟩
  have consistent : ¬ loud.Contradictory ∧ ¬ mute.Contradictory := by
    simp [CatalogOrder.Contradictory, loud, mute]
  have agrees : loud.Agrees mute := by
    refine ⟨rfl, rfl, rfl, by simp [loud, mute], fun name => ?_⟩
    have chosen : loud.request.only = some ["Pet", "Tag"] := rfl
    have otherChosen : mute.request.only = some ["Tag", "Pet", "Pet"] := rfl
    rw [← CatalogOrder.mem_only_iff chosen, ← CatalogOrder.mem_only_iff otherChosen]
    simp [or_comm]
  have unopened : loud.Rejected ⟨[], []⟩ (.unreadable "api.json") := .unopened consistent.1 rfl
  refine ⟨ordersLoud, ordersMute, agrees, consistent.1, consistent.2, ?_, ?_, unopened, ?_⟩
  · exact ((presentation_inert ordersLoud ordersMute _ _ _).1 agrees consistent.1 consistent.2).1
  · exact ((presentation_inert ordersMute ordersLoud _ ⟨"", false, none, 80⟩ _).2.1 rfl).1
  · exact ((presentation_inert ordersLoud ordersMute _ ⟨"", false, none, 80⟩ _).2.2 _ unopened).1

end Invocation

end ApiCatalog
