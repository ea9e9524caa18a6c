import ApiCatalog.Proofs.RecordKinds
import ApiCatalog.Proofs.RecordMembers

/-!
# Parts of records

Which parts the records of an API description have. A part is a record itself, a list of records or
a map of them, and it is read in the same way wherever it stands. Every field of a record is stored
apart from the others, by `pairwise_independent`.
-/

namespace ApiCatalog

open Decoder Json

namespace RecordKind

/-! ## Fields -/

/-- The names of the fields of a kind. -/
def names : RecordKind → List String
  | .document => ["swagger", "info", "basePath", "paths", "definitions", "parameters", "responses"]
  | .info => ["title", "version", "description"]
  | .pathItem => ["get", "put", "post", "delete", "options", "head", "patch", "parameters"]
  | .operation =>
      ["operationId", "summary", "description", "tags", "parameters", "responses", "deprecated"]
  | .parameter => ["$ref", "name", "in", "description", "required", "schema", "type"]
  | .response => ["$ref", "description", "schema"]
  | .schema => ["$ref", "type", "format", "title", "description", "enum", "items", "properties",
      "required", "readOnly", "allOf"]

theorem nodup_names (kind : RecordKind) : kind.names.Nodup := by
  cases kind <;> decide

theorem map_name_fields (source : Source) (kind : RecordKind) (depth : Nat) :
    (kind.fields source depth).map Field.name = kind.names := by
  cases kind <;> rfl

theorem fieldOf_eq_none {source : Source} {kind : RecordKind} {depth : Nat} {name : String}
    (unknown : name ∉ kind.names) : fieldOf (kind.fields source depth) name = none := by
  rw [fieldOf, List.find?_eq_none]
  intro field member same
  rw [← map_name_fields source kind depth] at unknown
  exact unknown (List.mem_map.mpr ⟨field, member, by simpa using same⟩)

theorem fieldOf_name {source : Source} {kind : RecordKind} {depth : Nat} {field : Field kind.Record}
    (member : field ∈ kind.fields source depth) :
    fieldOf (kind.fields source depth) field.name = some field := by
  obtain ⟨earlier, later, split⟩ := List.append_of_mem member
  have distinct := kind.nodup_names
  rw [← map_name_fields source kind depth, split] at distinct
  rw [split]
  exact find?_field distinct

theorem pairwise_independent (kind : RecordKind) (depth : Nat) :
    (kind.fields Json.source depth).Pairwise Field.Independent := by
  cases kind <;>
    simp only [fields, documentFields, infoFields, pathItemFields, operationFields, parameterFields,
      responseFields, schemaFields, List.pairwise_cons, List.forall_mem_cons]
  all_goals
    repeat' apply And.intro
  all_goals first
    | exact List.forall_mem_nil _
    | exact List.Pairwise.nil
    | exact independent_stored fun _ _ _ => rfl

end RecordKind

/-! ## Shapes -/

/-- What the parts of a description are. -/
inductive Shape where
  /-- A record. -/
  | record (kind : RecordKind)
  /-- A list of records. -/
  | list (kind : RecordKind)
  /-- Records by name. -/
  | map (kind : RecordKind)
  deriving DecidableEq, Repr

namespace Shape

/-- What is read from a part. -/
abbrev Content : Shape → Type
  | .record kind => kind.Record
  | .list kind => List kind.Record
  | .map kind => Entries kind.Record

/-- Reads a part. -/
def read (source : Source) : (shape : Shape) → Nat → Node → Decoder shape.Content
  | .record kind => kind.read source
  | .list kind => fun depth => readList source depth (kind.read source)
  | .map kind => fun depth => readTable source depth (kind.read source)

theorem settled_read (shape : Shape) (depth : Nat) : Settled (shape.read Json.source depth) := by
  cases shape with
  | record kind => exact kind.settled_read depth
  | list kind => exact settled_list fun level _ => kind.settled_read level
  | map kind => exact settled_table fun level _ => kind.settled_read level

end Shape

/-- A list or a table. -/
def Node.IsCompound : Node → Prop
  | .list _ _ | .table _ _ => True
  | _ => False

/-- A table with names as keys. -/
def namedTable (members : List (String × Node)) : Node :=
  .table (named members) .closed

/-- A list in brackets. -/
abbrev closedList (items : List Node) : Node :=
  .list items .closed

theorem readOptional_of_isCompound {α : Type} {source : Source} {read : Node → Decoder α}
    {node : Node} (compound : node.IsCompound) :
    readOptional source read node = some <$> read node := by
  cases node with
  | list | table => rfl
  | _ => cases compound

theorem read_namedTable_eq_pure_iff {kind : RecordKind} {depth : Nat}
    {members : List (String × Node)} {record : kind.Record} :
    kind.read Json.source depth (namedTable members) = pure record ↔
      ∃ below, depth = below + 1 ∧
        readMembers Json.source (kind.fields Json.source below) .closed [] kind.empty
          (named members) = pure record := by
  cases depth with
  | zero => exact iff_of_false fail_ne_pure (by simp)
  | succ depth => simp [RecordKind.read, readRecord, namedTable, follow, Node.content]

/-- A record may be written as the list of its fields. -/
theorem read_closedList_eq_pure_iff {kind : RecordKind} {depth : Nat} {items : List Node}
    {record : kind.Record} :
    kind.read Json.source depth (closedList items) = pure record ↔
      items.length ≤ kind.names.length ∧
        kind.read Json.source depth (namedTable (kind.names.zip items)) = pure record := by
  rw [read_namedTable_eq_pure_iff]
  cases depth with
  | zero => exact iff_of_false fail_ne_pure (by simp)
  | succ depth =>
      have names := kind.map_name_fields Json.source depth
      have positions : readPositions .closed 0 (kind.fields Json.source depth) kind.empty items =
          pure record ↔ _ :=
        readPositions_eq_pure_iff (kind.stores depth)
          (fun field member => RecordKind.fieldOf_name member) (names.symm ▸ kind.nodup_names)
          (fun _ _ => List.not_mem_nil)
      rw [names, ← List.length_map Field.name, names] at positions
      simpa [RecordKind.read, readRecord, follow, Node.content, Json.source] using positions

theorem readList_eq_pure_iff {kind : RecordKind} {depth : Nat} {items : List Node}
    {records : List kind.Record} :
    (Shape.list kind).read Json.source depth (closedList items) = pure records ↔
      ∃ below, depth = below + 1 ∧
        List.Forall₂ (fun item record => kind.read Json.source below item = pure record) items
          records := by
  cases depth with
  | zero => exact iff_of_false fail_ne_pure (by simp)
  | succ depth =>
      have read : readItems (kind.read Json.source depth) .closed 0 items = pure records ↔ _ :=
        readItems_eq_pure_iff (kind.settled_read depth)
      simp only [Nat.add_right_cancel_iff, exists_eq_left', ← read]
      rfl

theorem readTable_eq_pure_iff {kind : RecordKind} {depth : Nat} {members : List (String × Node)}
    (distinct : (members.map Prod.fst).Nodup) {entries : Entries kind.Record} :
    (Shape.map kind).read Json.source depth (namedTable members) = pure entries ↔
      ∃ below, depth = below + 1 ∧
        List.Forall₂ (ReadsEntry (kind.read Json.source below)) members entries.toList := by
  cases depth with
  | zero => exact iff_of_false fail_ne_pure (by simp)
  | succ depth =>
      have read : readEntries Json.source (kind.read Json.source depth) .closed {}
          (named members) = pure entries ↔ _ :=
        readEntries_eq_pure_iff (kind.settled_read depth) distinct
      simp only [List.nil_append, exists_eq_right'] at read
      simp only [Nat.add_right_cancel_iff, exists_eq_left', ← read]
      rfl

/-! ## Slots -/

/-- A field that holds a part. -/
structure Slot (kind : RecordKind) where
  /-- The name of the field. -/
  name : String
  /-- What the part is. -/
  shape : Shape
  /-- Stores the part in a record. -/
  store : shape.Content → kind.Record → kind.Record

/-- A field reads the part of a slot and stores it. The part may be optional. -/
def Slot.FilledBy {kind : RecordKind} (slot : Slot kind) (depth : Nat)
    (field : Field kind.Record) : Prop :=
  field = storedField slot.name (slot.shape.read Json.source depth) slot.store ∨
    ∃ store, field = storedField slot.name
        (readOptional Json.source (slot.shape.read Json.source depth)) store ∧
      ∀ part, slot.store part = store (some part)

/-- Which change a part makes to a record: it is stored. -/
theorem Slot.FilledBy.changes_iff {kind : RecordKind} {depth : Nat} {slot : Slot kind}
    {field : Field kind.Record} (filled : slot.FilledBy depth field) {node : Node}
    (compound : node.IsCompound) {change : kind.Record → kind.Record} :
    field.Changes node change ↔
      ∃ part, slot.shape.read Json.source depth node = pure part ∧ change = slot.store part := by
  have settled := slot.shape.settled_read depth node
  have reads (record : kind.Record) : field.read node record =
      (fun part => slot.store part record) <$> slot.shape.read Json.source depth node := by
    rcases filled with rfl | ⟨store, rfl, some⟩
    · exact (map_eq_pure_bind _ _).symm
    · simp only [some, readOptional_of_isCompound compound, ← map_eq_pure_bind, Functor.map_map]
  constructor
  · intro changes
    have stored := (reads kind.empty).symm.trans (changes kind.empty)
    obtain ⟨part, read, _⟩ := (map_eq_pure_iff settled).mp stored
    refine ⟨part, read, funext fun record => ?_⟩
    have here := changes record
    rw [reads, read, map_pure] at here
    exact (pure_inj here).symm
  · rintro ⟨part, read, rfl⟩ record
    rw [reads, read, map_pure]

namespace RecordKind

/-- A field that holds an operation. -/
def operationSlot (name : String) (store : Option Operation → PathItem → PathItem) :
    Slot .pathItem :=
  ⟨name, .record .operation, fun operation => store (some operation)⟩

/-- The fields of a kind that hold parts. -/
def slots : (kind : RecordKind) → List (Slot kind)
  | .document => [
      ⟨"info", .record .info, fun info document => { document with info := info }⟩,
      ⟨"paths", .map .pathItem, fun paths document => { document with paths := paths }⟩,
      ⟨"definitions", .map .schema, fun definitions document =>
        { document with definitions := definitions }⟩,
      ⟨"parameters", .map .parameter, fun parameters document =>
        { document with parameters := parameters }⟩,
      ⟨"responses", .map .response, fun responses document =>
        { document with responses := responses }⟩]
  | .info => []
  | .pathItem => [
      operationSlot "get" fun operation item => { item with get := operation },
      operationSlot "put" fun operation item => { item with put := operation },
      operationSlot "post" fun operation item => { item with post := operation },
      operationSlot "delete" fun operation item => { item with delete := operation },
      operationSlot "options" fun operation item => { item with options := operation },
      operationSlot "head" fun operation item => { item with head := operation },
      operationSlot "patch" fun operation item => { item with patch := operation },
      ⟨"parameters", .list .parameter, fun parameters item =>
        { item with parameters := parameters }⟩]
  | .operation => [
      ⟨"parameters", .list .parameter, fun parameters operation =>
        { operation with parameters := parameters }⟩,
      ⟨"responses", .map .response, fun responses operation =>
        { operation with responses := responses }⟩]
  | .parameter => [
      ⟨"schema", .record .schema, fun schema parameter => { parameter with schema := some schema }⟩]
  | .response => [
      ⟨"schema", .record .schema, fun schema response => { response with schema := some schema }⟩]
  | .schema => [
      ⟨"items", .record .schema, fun items schema => { schema with items := some items }⟩,
      ⟨"properties", .map .schema, fun properties schema =>
        { schema with properties := some properties.toList }⟩,
      ⟨"allOf", .list .schema, fun composition schema =>
        { schema with composition := composition }⟩]

/-- Every slot is filled by the field of its name. -/
theorem exists_field_of_slot (kind : RecordKind) (depth : Nat) :
    ∀ slot ∈ kind.slots, ∃ field, fieldOf (kind.fields Json.source depth) slot.name = some field ∧
      slot.FilledBy depth field := by
  cases kind with
  | document =>
      simp only [slots, List.forall_mem_cons, Slot.FilledBy, Shape.read, read_schema]
      exact ⟨⟨_, rfl, .inl rfl⟩, ⟨_, rfl, .inl rfl⟩, ⟨_, rfl, .inl rfl⟩, ⟨_, rfl, .inl rfl⟩,
        ⟨_, rfl, .inl rfl⟩, List.forall_mem_nil _⟩
  | info => exact List.forall_mem_nil _
  | pathItem =>
      simp only [slots, List.forall_mem_cons]
      have operation {name : String} {store : Option Operation → PathItem → PathItem} :
          (operationSlot name store).FilledBy depth (operationField Json.source depth name store) :=
        .inr ⟨store, rfl, fun _ => rfl⟩
      exact ⟨⟨_, rfl, operation⟩, ⟨_, rfl, operation⟩, ⟨_, rfl, operation⟩, ⟨_, rfl, operation⟩,
        ⟨_, rfl, operation⟩, ⟨_, rfl, operation⟩, ⟨_, rfl, operation⟩, ⟨_, rfl, .inl rfl⟩,
        List.forall_mem_nil _⟩
  | operation =>
      simp only [slots, List.forall_mem_cons]
      exact ⟨⟨_, rfl, .inl rfl⟩, ⟨_, rfl, .inl rfl⟩, List.forall_mem_nil _⟩
  | parameter | response =>
      simp only [slots, List.forall_mem_cons, Slot.FilledBy, Shape.read, read_schema]
      exact ⟨⟨_, rfl, .inr ⟨_, rfl, fun _ => rfl⟩⟩, List.forall_mem_nil _⟩
  | schema =>
      simp only [slots, List.forall_mem_cons, Slot.FilledBy, Shape.read, fields, read_schema]
      exact ⟨⟨_, rfl, .inr ⟨_, rfl, fun _ => rfl⟩⟩, ⟨_, rfl, .inr ⟨_, rfl, fun _ => rfl⟩⟩,
        ⟨_, rfl, .inl rfl⟩, List.forall_mem_nil _⟩

end RecordKind

end ApiCatalog
