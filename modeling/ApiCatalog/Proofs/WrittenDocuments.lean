import ApiCatalog.Document.Decoder
import ApiCatalog.Proofs.DocumentTree
import ApiCatalog.Proofs.JsonDecoding

/-!
# Documents as they are written

A document is written as a value whose numbers are those of its literals, by
`Document.whole_toJson`, and it is read back from this value, by `readDocument_toJson`. Both go
record by record, and a schema is handled together with the schemas below it.
-/

namespace ApiCatalog

open Decoder Json

/-! ## The value of a schema -/

namespace Schema

theorem listToJson_eq (schemas : List Schema) : listToJson schemas = schemas.map toJson := by
  induction schemas with
  | nil => rfl
  | cons schema rest induction => rw [listToJson, induction, List.map_cons]

theorem entriesToJson_eq (properties : List (String × Schema)) :
    entriesToJson properties = properties.map fun property => (property.1, property.2.toJson) := by
  induction properties with
  | nil => rfl
  | cons property rest induction => rw [entriesToJson, induction, List.map_cons]

theorem optionMember_eq (items : Option Schema) :
    optionMember items = optionalPart "items" toJson items := by
  cases items <;> rfl

theorem propertiesMember_map (properties : Option (Entries Schema)) :
    propertiesMember (properties.map Entries.toList) =
      optionalPart "properties"
        (fun entries => .object (entries.toList.map fun (key, schema) => (key, schema.toJson)))
        properties := by
  cases properties with
  | none => rfl
  | some properties =>
      rw [Option.map_some, propertiesMember, entriesToJson_eq]
      rfl

theorem toJson_eq_object (schema : Schema) : ∃ members, schema.toJson = .object members := by
  cases schema
  exact ⟨_, rfl⟩

end Schema

/-! ## Numbers -/

/-- Every number in the values of members is an integer. -/
def AllWhole (members : List (String × Json)) : Prop :=
  ∀ member ∈ members, member.2.Whole

section

variable {α : Type} {name : String}

theorem allWhole_append {left right : List (String × Json)} :
    AllWhole (left ++ right) ↔ AllWhole left ∧ AllWhole right :=
  List.forall_mem_append

theorem allWhole_singleton {value : Json} : AllWhole [(name, value)] ↔ value.Whole :=
  List.forall_mem_singleton

theorem allWhole_part {write : α → Json} {part : Option α}
    (whole : ∀ content ∈ part, (write content).Whole) : AllWhole (optionalPart name write part) :=
  List.forall_mem_map.mpr fun content given => whole content (Option.mem_toList.mp given)

theorem allWhole_text (text : Option String) : AllWhole (optionalText name text) :=
  allWhole_part fun content _ => whole_string content

theorem allWhole_flag (flag : Bool) : AllWhole (optionalFlag name flag) := by
  cases flag with
  | false => exact List.forall_mem_nil _
  | true => exact allWhole_singleton.mpr (whole_boolean true)

theorem allWhole_list {values : List Json} (whole : ∀ value ∈ values, value.Whole) :
    AllWhole (optionalList name values) := by
  cases values with
  | nil => exact List.forall_mem_nil _
  | cons value values => exact allWhole_singleton.mpr (whole_array.mpr whole)

theorem allWhole_entries {write : α → Json} {entries : Entries α}
    (whole : ∀ entry ∈ entries.toList, (write entry.2).Whole) :
    AllWhole (entriesPart name write entries) := by
  exact allWhole_singleton.mpr (whole_object.mpr (List.forall_mem_map.mpr whole))

end

namespace Schema

theorem whole_toJson {schema : Schema} (whole : schema.Whole) : schema.toJson.Whole := by
  induction schema using induction_on_children with
  | step schema induction =>
      obtain ⟨literals, wholeBelow⟩ := whole_iff.mp whole
      have below : ∀ child ∈ schema.children, child.toJson.Whole := fun child member =>
        induction child member (wholeBelow child member)
      obtain ⟨reference, type, format, title, description, enumeration, items, properties,
        required, readOnly, composition⟩ := schema
      refine whole_object.mpr ?_
      show AllWhole _
      simp only [allWhole_append, allWhole_text, allWhole_flag, optionMember_eq, listToJson_eq,
        true_and, and_true, and_assoc]
      refine ⟨allWhole_list literals, ?_, ?_, ?_, ?_⟩
      · exact allWhole_part fun child given => below child (items_mem_children given)
      · cases properties with
        | none => exact List.forall_mem_nil _
        | some properties =>
            rw [propertiesMember, entriesToJson_eq]
            refine allWhole_singleton.mpr (whole_object.mpr (List.forall_mem_map.mpr ?_))
            exact fun property declared => below property.2 (property_mem_children declared)
      · exact allWhole_list (List.forall_mem_map.mpr fun name _ => whole_string name)
      · exact allWhole_list (List.forall_mem_map.mpr fun child composed =>
          below child (List.mem_append_right _ composed))

end Schema

theorem Info.whole_toJson (info : Info) : info.toJson.Whole := by
  refine whole_object.mpr ?_
  show AllWhole ([("title", .string info.title)] ++ [("version", .string info.version)] ++ _)
  simp only [allWhole_append, allWhole_text, allWhole_singleton, whole_string, and_true]

theorem allWhole_schema {name : String} {schema : Option Schema}
    (whole : ∀ content ∈ schema.toList, content.Whole) :
    AllWhole (optionalPart name Schema.toJson schema) :=
  allWhole_part fun content given =>
    Schema.whole_toJson (whole content (Option.mem_toList.mpr given))

theorem Parameter.whole_toJson {parameter : Parameter}
    (whole : ∀ schema ∈ parameter.schemas, schema.Whole) : parameter.toJson.Whole := by
  refine whole_object.mpr ?_
  show AllWhole _
  simp only [allWhole_append, allWhole_text, allWhole_singleton, whole_boolean, true_and, and_true]
  exact allWhole_schema whole

theorem Response.whole_toJson {response : Response}
    (whole : ∀ schema ∈ response.schemas, schema.Whole) : response.toJson.Whole := by
  refine whole_object.mpr ?_
  show AllWhole _
  simp only [allWhole_append, allWhole_text, allWhole_singleton, whole_string, true_and, and_true]
  exact allWhole_schema whole

theorem allWhole_parameters {name : String} {parameters : List Parameter}
    (whole : ∀ parameter ∈ parameters, ∀ schema ∈ parameter.schemas, schema.Whole) :
    AllWhole (optionalList name (parameters.map Parameter.toJson)) :=
  allWhole_list (List.forall_mem_map.mpr fun parameter member =>
    Parameter.whole_toJson (whole parameter member))

theorem Operation.whole_toJson {operation : Operation}
    (whole : ∀ schema ∈ operation.schemas, schema.Whole) : operation.toJson.Whole := by
  obtain ⟨parameters, responses⟩ := forall_schemas.mp whole
  refine whole_object.mpr ?_
  show AllWhole _
  simp only [allWhole_append, allWhole_text, allWhole_flag, true_and, and_true, and_assoc]
  refine ⟨?_, allWhole_parameters parameters, ?_⟩
  · exact allWhole_list (List.forall_mem_map.mpr fun tag _ => whole_string tag)
  · exact allWhole_entries fun entry member => Response.whole_toJson (responses entry member)

theorem PathItem.whole_toJson {item : PathItem}
    (whole : ∀ schema ∈ item.schemas, schema.Whole) : item.toJson.Whole := by
  obtain ⟨operations, parameters⟩ := forall_schemas.mp whole
  have written (method : Method) (operation : Operation)
      (given : operation ∈ item.operation? method) : operation.toJson.Whole :=
    Operation.whole_toJson (operations method operation given)
  refine whole_object.mpr ?_
  show AllWhole _
  simp only [allWhole_append, and_assoc]
  exact ⟨allWhole_part (written .get), allWhole_part (written .put), allWhole_part (written .post),
    allWhole_part (written .delete), allWhole_part (written .options),
    allWhole_part (written .head), allWhole_part (written .patch), allWhole_parameters parameters⟩

theorem Document.whole_toJson {document : Document}
    (whole : ∀ schema ∈ document.schemas, schema.Whole) : document.toJson.Whole := by
  obtain ⟨paths, definitions, parameters, responses⟩ := forall_schemas.mp whole
  refine whole_object.mpr ?_
  show AllWhole ([("swagger", .string document.swagger)] ++ [("info", document.info.toJson)] ++
    _ ++ _ ++ _ ++ _ ++ _)
  simp only [allWhole_append, allWhole_text, allWhole_singleton, whole_string, Info.whole_toJson,
    true_and, and_assoc]
  refine ⟨?_, ?_, ?_, ?_⟩ <;> refine allWhole_entries fun entry member => ?_
  · exact PathItem.whole_toJson (paths entry member)
  · exact Schema.whole_toJson (definitions entry member)
  · exact Parameter.whole_toJson (parameters entry member)
  · exact Response.whole_toJson (responses entry member)

section ReadBack

variable {source : Source}

/-! ## Schemas are read back -/

theorem schemaFields_distinct (read : Nat → Node → Decoder Schema) (depth : Nat) :
    ((schemaFields source read depth).map Field.name).Nodup := by
  simp [schemaFields, textField, flagField]

theorem mapM_strings {name? : Json → Option String}
    (given : ∀ name, name? (.string name) = some name) (names : List String) :
    (names.map Json.string).mapM name? = some names := by
  induction names with
  | nil => rfl
  | cons name names induction =>
      rw [List.map_cons, List.mapM_cons, given, induction]
      rfl

theorem requiredNames_strings (names : List String) :
    requiredNames (.array (names.map .string)) = .ok names := by
  rw [requiredNames, mapM_strings (fun _ => rfl)]

theorem readRequired_strings {names : List String} {depth : Nat}
    (shallow : (Json.array (names.map .string)).nesting ≤ depth) :
    readRequired source depth (Json.array (names.map .string)).toNode = pure names := by
  have whole : (Json.array (names.map .string)).Whole :=
    whole_array.mpr (List.forall_mem_map.mpr fun name _ => whole_string name)
  have sound : (Json.array (names.map .string)).WellFormed :=
    wellFormed_array.mpr (List.forall_mem_map.mpr fun name _ => wellFormed_string name)
  have given : readOptional source (readValue source depth)
      (Json.array (names.map .string)).toNode = pure (some (.array (names.map .string))) := by
    show some <$> readValue source depth (Json.array (names.map .string)).toNode = _
    rw [readValue_toNode source whole sound shallow, map_pure]
  rw [readRequired, given, pure_bind]
  dsimp only
  rw [requiredNames_strings]
  rfl

namespace Schema

/-- A schema is written field by field, given how the schemas directly below are read. -/
theorem written_toJson {schema : Schema} {read : Nat → Node → Decoder Schema} {depth : Nat}
    (distinct : (schema.declaredProperties.map Prod.fst).Nodup)
    (whole : ∀ literal ∈ schema.enumeration, literal.Whole)
    (sound : ∀ literal ∈ schema.enumeration, literal.WellFormed)
    (back : ∀ child ∈ schema.children, ∀ level ≤ depth, child.toJson.nesting ≤ level →
      read level child.toJson.toNode = pure child) :
    ∃ members, schema.toJson = .object members ∧
      Written depth (schemaFields source read depth) {} members schema := by
  obtain ⟨reference, type, format, title, description, enumeration, items, properties, required,
    readOnly, composition⟩ := schema
  obtain ⟨properties, rfl⟩ : ∃ part : Option (Entries Schema),
      properties = part.map Entries.toList := by
    cases properties with
    | none => exact ⟨none, rfl⟩
    | some properties => exact ⟨some ⟨properties, distinct⟩, rfl⟩
  have literals : optionalList "enum" enumeration = optionalList "enum" (enumeration.map id) := by
    rw [List.map_id]
  refine ⟨_, rfl, ?_⟩
  simp only [literals, optionMember_eq, propertiesMember_map, listToJson_eq, List.append_assoc]
  -- The record is reduced now and then, since every update repeats the one before it.
  refine .field (writes_text source rfl reference) ?_
  refine .field (writes_text source rfl type) ?_
  refine .field (writes_text source rfl format) ?_
  refine .field (writes_text source rfl title) ?_
  refine .field (writes_text source rfl description) ?_
  dsimp only
  refine .field (writes_items rfl enumeration fun shallow => ?_) ?_
  · exact readList_array source (fun level _ literal member =>
      readValue_toNode source (whole literal member) (sound literal member)) shallow
  dsimp only
  refine .field (writes_part rfl items fun child given shallow => ?_) ?_
  · exact readOptional_object source (toJson_eq_object child)
      (back child (items_mem_children given) depth (Nat.le_refl depth) shallow)
  dsimp only
  refine .field (writes_part rfl properties fun entries given shallow => ?_) ?_
  · refine readOptional_object source ⟨_, rfl⟩ (readTable_object source ?_ shallow)
    intro level deeper entry member
    have declared : entry ∈ (properties.map Entries.toList).getD [] := by
      rw [given]
      exact member
    exact back _ (property_mem_children declared) level (Nat.le_of_lt deeper)
  dsimp only
  refine .field (writes_items rfl required readRequired_strings) ?_
  refine .field (writes_flag source rfl readOnly) ?_
  dsimp only
  refine .last (writes_items rfl composition fun shallow => ?_)
  refine readList_array source ?_ shallow
  intro level deeper child member
  exact back _ (List.mem_append_right _ member) level (Nat.le_of_lt deeper)

theorem readSchemaWith_toJson {schema : Schema} (whole : schema.Whole) (sound : schema.WellFormed)
    {fuel depth : Nat} (enough : depth < fuel) (shallow : schema.toJson.nesting ≤ depth) :
    readSchemaWith source fuel depth schema.toJson.toNode = pure schema := by
  induction schema using induction_on_children generalizing fuel depth with
  | step schema induction =>
      obtain ⟨fuel, rfl⟩ := Nat.exists_eq_add_one_of_ne_zero (Nat.ne_zero_of_lt enough)
      obtain ⟨members, object⟩ := toJson_eq_object schema
      rw [object] at shallow
      obtain ⟨depth, rfl, bounded⟩ := nesting_object_le shallow
      obtain ⟨wholeLiterals, whole⟩ := whole_iff.mp whole
      obtain ⟨distinct, literals, sound⟩ := wellFormed_iff.mp sound
      have back : ∀ child ∈ schema.children, ∀ level ≤ depth, child.toJson.nesting ≤ level →
          readSchemaWith source fuel level child.toJson.toNode = pure child :=
        fun child member level lower =>
          induction child member (whole child member) (sound child member) (by omega)
      obtain ⟨_, same, written⟩ := written_toJson distinct wholeLiterals literals back
      obtain rfl : members = _ := Json.object.inj (object.symm.trans same)
      rw [readSchemaWith, object]
      exact readRecord_written source bounded (schemaFields_distinct _ _) written

/-- A schema is read back from the value it is written as. -/
def ReadsBack (source : Source) (schema : Schema) : Prop :=
  ∀ depth, schema.toJson.nesting ≤ depth →
    readSchema source depth schema.toJson.toNode = pure schema

theorem readsBack {schema : Schema} (whole : schema.Whole) (sound : schema.WellFormed) :
    schema.ReadsBack source :=
  fun depth shallow => readSchemaWith_toJson whole sound (Nat.lt_succ_self depth) shallow

end Schema

/-! ## Documents are read back -/

theorem readInfo_toJson {info : Info} {depth : Nat} (shallow : info.toJson.nesting ≤ depth) :
    readInfo source depth info.toJson.toNode = pure info := by
  obtain ⟨title, version, description⟩ := info
  obtain ⟨depth, rfl, bounded⟩ := nesting_object_le shallow
  refine readRecord_written source bounded (by simp [infoFields, textField]) ?_
  show Written depth (infoFields source) {} ([("title", .string title)] ++
    ([("version", .string version)] ++ optionalText "description" description)) _
  refine .field (writes_always fun _ => rfl) ?_
  refine .field (writes_always fun _ => rfl) ?_
  exact .last (writes_text source rfl description)

theorem writes_schema {α : Type} {record : α} {depth : Nat} {store : Option Schema → α → α}
    (unset : store none record = record) (schema : Option Schema)
    (back : ∀ content ∈ schema.toList, content.ReadsBack source) :
    (storedField "schema" (readOptional source (readSchema source depth)) store).Writes depth
      (optionalPart "schema" Schema.toJson schema) record (store schema record) :=
  writes_part unset schema fun content given shallow =>
    readOptional_object source (Schema.toJson_eq_object content)
      (back content (Option.mem_toList.mpr given) depth shallow)

theorem readParameter_toJson {parameter : Parameter}
    (back : ∀ schema ∈ parameter.schemas, schema.ReadsBack source) {depth : Nat}
    (shallow : parameter.toJson.nesting ≤ depth) :
    readParameter source depth parameter.toJson.toNode = pure parameter := by
  obtain ⟨reference, name, location, description, required, schema, type⟩ := parameter
  obtain ⟨depth, rfl, bounded⟩ := nesting_object_le shallow
  refine readRecord_written source bounded (by simp [parameterFields, textField, flagField]) ?_
  simp only [List.append_assoc]
  refine .field (writes_text source rfl reference) ?_
  refine .field (writes_text source rfl name) ?_
  refine .field (writes_text source rfl location) ?_
  refine .field (writes_text source rfl description) ?_
  dsimp only
  refine .field (writes_always fun _ => rfl) ?_
  refine .field (writes_schema rfl schema back) ?_
  dsimp only
  exact .last (writes_text source rfl type)

theorem readResponse_toJson {response : Response}
    (back : ∀ schema ∈ response.schemas, schema.ReadsBack source) {depth : Nat}
    (shallow : response.toJson.nesting ≤ depth) :
    readResponse source depth response.toJson.toNode = pure response := by
  obtain ⟨reference, description, schema⟩ := response
  obtain ⟨depth, rfl, bounded⟩ := nesting_object_le shallow
  refine readRecord_written source bounded (by simp [responseFields, textField]) ?_
  simp only [List.append_assoc]
  refine .field (writes_text source rfl reference) ?_
  refine .field (writes_always fun _ => rfl) ?_
  exact .last (writes_schema rfl schema back)

theorem readOperation_toJson {operation : Operation}
    (back : ∀ schema ∈ operation.schemas, schema.ReadsBack source) {depth : Nat}
    (shallow : operation.toJson.nesting ≤ depth) :
    readOperation source depth operation.toJson.toNode = pure operation := by
  obtain ⟨inParameters, inResponses⟩ := Operation.forall_schemas.mp back
  obtain ⟨operationId, summary, description, tags, parameters, responses, deprecated⟩ := operation
  obtain ⟨depth, rfl, bounded⟩ := nesting_object_le shallow
  refine readRecord_written source bounded (by simp [operationFields, textField, flagField]) ?_
  simp only [List.append_assoc]
  refine .field (writes_text source rfl operationId) ?_
  refine .field (writes_text source rfl summary) ?_
  refine .field (writes_text source rfl description) ?_
  dsimp only
  refine .field (writes_items rfl tags fun shallow => ?_) ?_
  · exact readList_array source (fun _ _ _ _ _ => rfl) shallow
  refine .field (writes_items rfl parameters fun shallow => ?_) ?_
  · exact readList_array source (fun level _ parameter member =>
      readParameter_toJson (inParameters parameter member)) shallow
  dsimp only
  refine .field (writes_entries responses fun shallow => ?_) ?_
  · exact readTable_object source (fun level _ entry member =>
      readResponse_toJson (inResponses entry member)) shallow
  exact .last (writes_flag source rfl deprecated)

theorem writes_operation {record : PathItem} {depth : Nat} {name : String}
    {store : Option Operation → PathItem → PathItem}
    (unset : store none record = record) (operation : Option Operation)
    (back : ∀ given ∈ operation, ∀ schema ∈ given.schemas, schema.ReadsBack source) :
    (operationField source depth name store).Writes depth
      (optionalPart name Operation.toJson operation) record (store operation record) :=
  writes_part unset operation fun given isGiven shallow =>
    readOptional_object source ⟨_, rfl⟩ (readOperation_toJson (back given isGiven) shallow)

theorem readPathItem_toJson {item : PathItem}
    (back : ∀ schema ∈ item.schemas, schema.ReadsBack source) {depth : Nat}
    (shallow : item.toJson.nesting ≤ depth) :
    readPathItem source depth item.toJson.toNode = pure item := by
  obtain ⟨operations, inParameters⟩ := PathItem.forall_schemas.mp back
  obtain ⟨get, put, post, delete, options, head, patch, parameters⟩ := item
  obtain ⟨depth, rfl, bounded⟩ := nesting_object_le shallow
  refine readRecord_written source bounded (by simp [pathItemFields, operationField]) ?_
  simp only [List.append_assoc]
  refine .field (writes_operation rfl get (operations .get)) ?_
  refine .field (writes_operation rfl put (operations .put)) ?_
  refine .field (writes_operation rfl post (operations .post)) ?_
  refine .field (writes_operation rfl delete (operations .delete)) ?_
  dsimp only
  refine .field (writes_operation rfl options (operations .options)) ?_
  refine .field (writes_operation rfl head (operations .head)) ?_
  refine .field (writes_operation rfl patch (operations .patch)) ?_
  dsimp only
  refine .last (writes_items rfl parameters fun shallow => ?_)
  exact readList_array source (fun level _ parameter member =>
    readParameter_toJson (inParameters parameter member)) shallow

theorem readDocument_toJson {document : Document}
    (back : ∀ schema ∈ document.schemas, schema.ReadsBack source) {depth : Nat}
    (shallow : document.toJson.nesting ≤ depth) :
    readDocument source depth document.toJson.toNode = pure document := by
  obtain ⟨inPaths, inDefinitions, inParameters, inResponses⟩ := Document.forall_schemas.mp back
  obtain ⟨swagger, info, basePath, paths, definitions, parameters, responses⟩ := document
  obtain ⟨depth, rfl, bounded⟩ := nesting_object_le shallow
  refine readRecord_written source bounded (by simp [documentFields, textField]) ?_
  simp only [List.append_assoc]
  show Written depth (documentFields source depth) {} ([("swagger", .string swagger)] ++
    ([("info", info.toJson)] ++ _)) _
  refine .field (writes_always fun _ => rfl) ?_
  refine .field (writes_always fun shallow => readInfo_toJson shallow) ?_
  refine .field (writes_text source rfl basePath) ?_
  dsimp only
  refine .field (writes_entries paths fun shallow => ?_) ?_
  · exact readTable_object source (fun level _ entry member =>
      readPathItem_toJson (inPaths entry member)) shallow
  refine .field (writes_entries definitions fun shallow => ?_) ?_
  · exact readTable_object source (fun level _ entry member =>
      inDefinitions entry member level) shallow
  dsimp only
  refine .field (writes_entries parameters fun shallow => ?_) ?_
  · exact readTable_object source (fun level _ entry member =>
      readParameter_toJson (inParameters entry member)) shallow
  refine .last (writes_entries responses fun shallow => ?_)
  exact readTable_object source (fun level _ entry member =>
    readResponse_toJson (inResponses entry member)) shallow

end ReadBack

end ApiCatalog
