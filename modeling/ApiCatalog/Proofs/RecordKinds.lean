import ApiCatalog.Proofs.WholeTrees

/-!
# Kinds of records

The records of an API description, each with its table of fields, so that what all tables have in
common is said once. A schema is read by its table as every other record is, by `read_schema`: the
fuel of its reader is never used up.
-/

namespace ApiCatalog

open Decoder

/-! ## Schemas without fuel -/

section Fuel

variable {α : Type} (source : Source)

theorem readList_congr {read other : Nat → Node → Decoder α} {depth : Nat}
    (same : ∀ below < depth, read below = other below) :
    readList source depth read = readList source depth other := by
  funext node
  refine bind_congr fun target => ?_
  generalize target.content = content
  cases content with
  | list items ending =>
      cases depth with
      | zero => rfl
      | succ depth =>
          dsimp only
          rw [same depth (Nat.lt_succ_self depth)]
  | _ => rfl

theorem readTable_congr {read other : Nat → Node → Decoder α} {depth : Nat}
    (same : ∀ below < depth, read below = other below) :
    readTable source depth read = readTable source depth other := by
  funext node
  refine bind_congr fun target => ?_
  generalize target.content = content
  cases content with
  | table members ending =>
      cases depth with
      | zero => rfl
      | succ depth =>
          dsimp only
          rw [same depth (Nat.lt_succ_self depth)]
  | _ => rfl

theorem readRecord_congr {name : String} {empty : α} {fields others : Nat → List (Field α)}
    {depth : Nat} (same : ∀ below < depth, fields below = others below) :
    readRecord source name empty fields depth = readRecord source name empty others depth := by
  funext node
  refine bind_congr fun target => ?_
  generalize target.content = content
  cases depth with
  | zero => cases content <;> rfl
  | succ depth =>
      have here := same depth (Nat.lt_succ_self depth)
      cases content with
      | table members ending =>
          dsimp only
          rw [here]
      | list items ending =>
          dsimp only
          rw [here]
      | _ => rfl

theorem schemaFields_congr {read other : Nat → Node → Decoder Schema} {depth : Nat}
    (same : ∀ level ≤ depth, read level = other level) :
    schemaFields source read depth = schemaFields source other depth := by
  have below : ∀ level < depth, read level = other level := fun level less =>
    same level (Nat.le_of_lt less)
  simp only [schemaFields, same depth (Nat.le_refl depth), readList_congr source below,
    readTable_congr source below]

/-- Fuel beyond the depth makes no difference. -/
theorem readSchemaWith_eq {fuel other depth : Nat} (enough : depth < fuel)
    (alsoEnough : depth < other) :
    readSchemaWith source fuel depth = readSchemaWith source other depth := by
  induction fuel generalizing other depth with
  | zero => exact absurd enough (Nat.not_lt_zero depth)
  | succ fuel induction =>
      obtain ⟨other, rfl⟩ := Nat.exists_eq_add_one_of_ne_zero (Nat.ne_zero_of_lt alsoEnough)
      refine readRecord_congr source fun below shallower => ?_
      exact schemaFields_congr source fun level shallow => induction (by omega) (by omega)

/-- A schema is read by the table of its fields, whose schemas are read in the same way. -/
theorem readSchema_eq (depth : Nat) : readSchema source depth =
    readRecord source "Schema" {} (schemaFields source (readSchema source)) depth := by
  refine readRecord_congr source fun below shallower => ?_
  exact schemaFields_congr source fun level shallow =>
    readSchemaWith_eq source (by omega) (Nat.lt_succ_self level)

end Fuel

/-! ## Kinds -/

/-- The kinds of records in an API description. -/
inductive RecordKind where
  | document
  | info
  | pathItem
  | operation
  | parameter
  | response
  | schema
  deriving DecidableEq, Repr

namespace RecordKind

/-- The records of a kind. -/
abbrev Record : RecordKind → Type
  | .document => Document
  | .info => Info
  | .pathItem => PathItem
  | .operation => Operation
  | .parameter => Parameter
  | .response => Response
  | .schema => Schema

/-- The name of a kind in messages. -/
def title : RecordKind → String
  | .document => "SwaggerDocument"
  | .info => "Info"
  | .pathItem => "PathItem"
  | .operation => "Operation"
  | .parameter => "Parameter"
  | .response => "Response"
  | .schema => "Schema"

/-- The record without any field given. -/
def empty : (kind : RecordKind) → kind.Record
  | .document => ({} : Document)
  | .info => ({} : Info)
  | .pathItem => ({} : PathItem)
  | .operation => ({} : Operation)
  | .parameter => ({} : Parameter)
  | .response => ({} : Response)
  | .schema => ({} : Schema)

/-- The fields of a kind. -/
def fields (source : Source) : (kind : RecordKind) → Nat → List (Field kind.Record)
  | .document => documentFields source
  | .info => fun _ => infoFields source
  | .pathItem => pathItemFields source
  | .operation => operationFields source
  | .parameter => parameterFields source
  | .response => responseFields source
  | .schema => schemaFields source (readSchema source)

/-- Reads a record of a kind. -/
def read (source : Source) (kind : RecordKind) : Nat → Node → Decoder kind.Record :=
  readRecord source kind.title kind.empty (kind.fields source)

theorem read_schema (source : Source) : schema.read source = readSchema source :=
  funext fun depth => (readSchema_eq source depth).symm

/-! ## What all fields have in common -/

theorem stores_read {α β : Type} {name : String} {read : Node → Decoder β} {store : β → α → α}
    (settled : Settled read) : (storedField name read store).Stores :=
  ⟨β, read, store, settled, rfl⟩

theorem stores_text {α : Type} {name : String} {store : Option String → α → α} :
    (textField Json.source name store).Stores :=
  stores_read (settled_optional settled_text)

theorem stores_flag {α : Type} {name : String} {store : Bool → α → α} :
    (flagField Json.source name store).Stores :=
  stores_read settled_flag

/-- Every field stores what it reads, if the readers of the records it holds are settled. -/
theorem stores_fields (kind : RecordKind) {depth : Nat}
    (settled : ∀ kind : RecordKind, ∀ level ≤ depth, Settled (kind.read Json.source level)) :
    ∀ field ∈ kind.fields Json.source depth, field.Stores := by
  have part (kind : RecordKind) : Settled (kind.read Json.source depth) :=
    settled kind depth (Nat.le_refl depth)
  have parts (kind : RecordKind) : ∀ level < depth, Settled (kind.read Json.source level) :=
    fun level less => settled kind level (Nat.le_of_lt less)
  have schemaPart := part .schema
  have schemaParts := parts .schema
  rw [read_schema] at schemaPart schemaParts
  cases kind with
  | document =>
      simp only [fields, documentFields, List.forall_mem_cons]
      exact ⟨stores_read settled_text, stores_read (part .info), stores_text,
        stores_read (settled_table (parts .pathItem)), stores_read (settled_table schemaParts),
        stores_read (settled_table (parts .parameter)),
        stores_read (settled_table (parts .response)), List.forall_mem_nil _⟩
  | info =>
      simp only [fields, infoFields, List.forall_mem_cons]
      exact ⟨stores_read settled_text, stores_read settled_text, stores_text, List.forall_mem_nil _⟩
  | pathItem =>
      have operation := settled_optional (part .operation)
      simp only [fields, pathItemFields, List.forall_mem_cons]
      exact ⟨stores_read operation, stores_read operation, stores_read operation,
        stores_read operation, stores_read operation, stores_read operation,
        stores_read operation, stores_read (settled_list (parts .parameter)), List.forall_mem_nil _⟩
  | operation =>
      simp only [fields, operationFields, List.forall_mem_cons]
      exact ⟨stores_text, stores_text, stores_text,
        stores_read (settled_list fun _ _ => settled_text),
        stores_read (settled_list (parts .parameter)),
        stores_read (settled_table (parts .response)), stores_flag, List.forall_mem_nil _⟩
  | parameter =>
      simp only [fields, parameterFields, List.forall_mem_cons]
      exact ⟨stores_text, stores_text, stores_text, stores_text, stores_flag,
        stores_read (settled_optional schemaPart), stores_text, List.forall_mem_nil _⟩
  | response =>
      simp only [fields, responseFields, List.forall_mem_cons]
      exact ⟨stores_text, stores_read settled_text, stores_read (settled_optional schemaPart),
        List.forall_mem_nil _⟩
  | schema =>
      simp only [fields, schemaFields, List.forall_mem_cons]
      exact ⟨stores_text, stores_text, stores_text, stores_text, stores_text,
        stores_read (settled_list fun level _ => settled_value level),
        stores_read (settled_optional schemaPart),
        stores_read (settled_optional (settled_table schemaParts)),
        stores_read (settled_required depth), stores_flag, stores_read (settled_list schemaParts),
        List.forall_mem_nil _⟩

/-- The readers of all records are settled. -/
theorem settled_read (kind : RecordKind) (depth : Nat) : Settled (kind.read Json.source depth) := by
  induction depth using Nat.strongRecOn generalizing kind with
  | ind depth induction =>
      exact settled_record fun below less => kind.stores_fields fun other level shallow =>
        induction level (by omega) other

theorem stores (kind : RecordKind) (depth : Nat) :
    ∀ field ∈ kind.fields Json.source depth, field.Stores :=
  kind.stores_fields fun other level _ => other.settled_read level

end RecordKind

end ApiCatalog
