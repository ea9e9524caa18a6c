import ApiCatalog.Identifier

/-!
# Validators

The expression that checks a value of a model when the rendered code runs.
-/

namespace ApiCatalog

/-- What checks the items of a list. -/
inductive ItemCheck where
  /-- The check of a built-in type. -/
  | primitive (name : String)
  /-- The check that belongs to a declared type. -/
  | named (name : String)
  /-- The check that accepts everything. -/
  | mixed
  deriving DecidableEq, Repr

/-- What checks the values of a model. -/
inductive Validator where
  /-- Accepts the listed values. -/
  | oneOf (model : String) (values : List String)
  /-- Accepts lists whose items pass a check. -/
  | arrayOf (model : String) (items : ItemCheck)
  deriving DecidableEq, Repr

/-- The check of items of a base type. -/
def ItemCheck.ofBase (base : String) : ItemCheck :=
  if ["string", "number", "boolean"].contains base then .primitive base
  else if base != "any" && Identifier.isPlain base.toList then .named base
  else .mixed

/-- The expression of an item check. -/
def ItemCheck.render : ItemCheck → String
  | .primitive name => "yup." ++ name ++ "()"
  | .named name => name ++ ".schema"
  | .mixed => "yup.mixed()"

/-- The expression of a validator. -/
def Validator.render : Validator → String
  | .oneOf model values => "yup.mixed<" ++ model ++ ">().oneOf([" ++ ", ".intercalate values ++ "])"
  | .arrayOf model items => "yup.array<" ++ model ++ ">().of(" ++ items.render ++ ")"

end ApiCatalog
