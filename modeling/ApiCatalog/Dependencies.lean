import ApiCatalog.Pointer

/-!
# Dependencies between definitions

Which definitions refer to which, and the groups of definitions that refer to each other in a circle.
-/

namespace ApiCatalog

/-- For every definition, in the order of names, the names its schema refers to. -/
structure Dependencies where
  /-- The names with the names they refer to. -/
  targets : List (String × List String)
  deriving DecidableEq, Repr

namespace Dependencies

/-- Whether a pointer is written as one into the definitions. -/
def pointsToDefinition (pointer : String) : Bool :=
  "#/definitions/".toList.isPrefixOf pointer.toList

/-- The order of names by their characters. -/
def precedes (left right : String) : Bool :=
  decide (¬ right < left)

/-- The names a schema refers to. -/
def schemaTargets (schema : Schema) : List String :=
  (schema.pointers.filter pointsToDefinition).map Pointer.targetName

/-- The dependencies between the definitions of a document. -/
def ofDocument (document : Document) : Dependencies :=
  ⟨(document.definitions.toList.map fun (name, schema) => (name, schemaTargets schema)).mergeSort
    fun left right => precedes left.1 right.1⟩

/-- The names in order. -/
def names (dependencies : Dependencies) : List String :=
  dependencies.targets.map Prod.fst

/-- The names one name refers to. -/
def next (dependencies : Dependencies) (name : String) : List String :=
  (dependencies.targets.lookup name).getD []

/-- The names that the newest names refer to and that are not visited yet. -/
def fresh (dependencies : Dependencies) (newest visited : List String) : List String :=
  ((newest.flatMap dependencies.next).filter fun name => !visited.contains name).eraseDups

/-- Adds to the visited names what can be reached from the newest ones among them. Each round but the
last visits a name that has targets, so that one round more than there are definitions suffices. -/
def expand (dependencies : Dependencies) : Nat → List String → List String → List String
  | 0, _, visited => visited
  | rounds + 1, newest, visited =>
      match dependencies.fresh newest visited with
      | [] => visited
      | first :: rest => expand dependencies rounds (first :: rest) (visited ++ first :: rest)

/-- The names that can be reached from a name by following at least one reference. -/
def reachable (dependencies : Dependencies) (name : String) : List String :=
  dependencies.expand (dependencies.targets.length + 1) [name] []

/-- The names on a circle with a name, given the names each name reaches. -/
def circle (reached : List (String × List String)) (name : String) (own : List String) :
    List String :=
  (reached.filter fun (other, targets) => own.contains other && targets.contains name).map Prod.fst

/-- The groups of names that reach each other, each listed where its first name stands. -/
def groups (reached : List (String × List String)) :
    List (String × List String) → List (List String)
  | [] => []
  | (name, own) :: rest =>
      match circle reached name own with
      | [] => groups reached rest
      | first :: others =>
          if first == name then (first :: others) :: groups reached rest
          else groups reached rest

/-- Every name with the names it reaches. -/
def reached (dependencies : Dependencies) : List (String × List String) :=
  dependencies.names.map fun name => (name, dependencies.reachable name)

/-- The groups of definitions that refer to each other in a circle. The names of a group are in
order, and so are the groups. -/
def cycles (dependencies : Dependencies) : List (List String) :=
  let reached := dependencies.reached
  groups reached reached

end Dependencies

end ApiCatalog
