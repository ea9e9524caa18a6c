import ApiCatalog.Document.Loading
import ApiCatalog.Proofs.DecoderResults
import ApiCatalog.Proofs.Utf8
import ApiCatalog.Proofs.WrittenDocuments

/-!
# Writing and reading documents

A document that is written and read again is the same document, by `Document.load_written`. What
this asks of a document beside its limits, that its schemas are well formed, holds of every document
that has been read in either format: see `Document.sound_of_load`.
-/

namespace ApiCatalog

open Decoder

section Results

variable (source : Source)

/-! ## Schemas -/

theorem schemaFields_preserve {read : Nat → Node → Decoder Schema}
    (back : ∀ depth node, (read depth node).Yields Schema.WellFormed) (depth : Nat) :
    ∀ field ∈ schemaFields source read depth, field.Preserves Schema.Sound := by
  simp only [schemaFields, List.forall_mem_cons]
  refine ⟨preserves_other fun _ _ sound => { sound with },
    preserves_other fun _ _ sound => { sound with },
    preserves_other fun _ _ sound => { sound with },
    preserves_other fun _ _ sound => { sound with },
    preserves_other fun _ _ sound => { sound with },
    ?_, ?_, ?_,
    preserves_other fun _ _ sound => { sound with },
    preserves_other fun _ _ sound => { sound with }, ?_, List.forall_mem_nil _⟩
  · exact preserves_stored (yields_list source (yields_value source) depth)
      fun literals _ given sound => { sound with literals := given }
  · exact preserves_stored (yields_optional source (back depth))
      fun items _ given sound => { sound with items := given }
  · refine preserves_stored (yields_optional source (yields_table source back depth))
      fun properties schema given sound => ?_
    cases properties with
    | none => exact { sound with distinct := List.nodup_nil, properties := List.forall_mem_nil _ }
    | some properties =>
        exact { sound with distinct := properties.nodup, properties := given properties rfl }
  · exact preserves_stored (yields_list source back depth)
      fun composition _ given sound => { sound with composition := given }

theorem yields_schemaWith (fuel depth : Nat) (node : Node) :
    (readSchemaWith source fuel depth node).Yields Schema.WellFormed := by
  induction fuel generalizing depth node with
  | zero => exact yields_fail _
  | succ fuel induction =>
      have initially : Schema.Sound {} := ⟨List.nodup_nil, List.forall_mem_nil _,
        fun _ never => absurd never nofun, List.forall_mem_nil _, List.forall_mem_nil _⟩
      have keeps := schemaFields_preserve source induction
      intro budget schema rest read
      exact (yields_record source initially keeps depth node budget schema rest read).wellFormed

theorem yields_schema (depth : Nat) (node : Node) :
    (readSchema source depth node).Yields Schema.WellFormed :=
  yields_schemaWith source (depth + 1) depth node

/-! ## Documents -/

/-- Every schema is well formed. -/
abbrev SoundSchemas (schemas : List Schema) : Prop :=
  ∀ schema ∈ schemas, schema.WellFormed

theorem preserves_schema {α : Type} {depth : Nat} {name : String} {schemas : α → List Schema}
    {store : Option Schema → α → α}
    (stores : ∀ schema record, schemas (store schema record) = schema.toList) :
    (storedField name (readOptional source (readSchema source depth)) store).Preserves
      fun record => SoundSchemas (schemas record) := by
  refine preserves_stored (yields_optional source (yields_schema source depth))
    fun schema record given _ => ?_
  rw [stores]
  exact fun content member => given content (Option.mem_toList.mp member)

theorem yields_parameter (depth : Nat) (node : Node) :
    (readParameter source depth node).Yields fun parameter => SoundSchemas parameter.schemas := by
  refine yields_record source (List.forall_mem_nil _) (fun depth => ?_) depth node
  simp only [parameterFields, List.forall_mem_cons]
  refine ⟨preserves_other fun _ _ holds => holds, preserves_other fun _ _ holds => holds,
    preserves_other fun _ _ holds => holds, preserves_other fun _ _ holds => holds,
    preserves_other fun _ _ holds => holds, ?_, preserves_other fun _ _ holds => holds,
    List.forall_mem_nil _⟩
  exact preserves_schema source fun _ _ => rfl

theorem yields_response (depth : Nat) (node : Node) :
    (readResponse source depth node).Yields fun response => SoundSchemas response.schemas := by
  refine yields_record source (List.forall_mem_nil _) (fun depth => ?_) depth node
  simp only [responseFields, List.forall_mem_cons]
  refine ⟨preserves_other fun _ _ holds => holds, preserves_other fun _ _ holds => holds, ?_,
    List.forall_mem_nil _⟩
  exact preserves_schema source fun _ _ => rfl

theorem yields_operation (depth : Nat) (node : Node) :
    (readOperation source depth node).Yields fun operation => SoundSchemas operation.schemas := by
  simp only [SoundSchemas, Operation.forall_schemas]
  refine yields_record source ⟨List.forall_mem_nil _, List.forall_mem_nil _⟩ (fun depth => ?_)
    depth node
  simp only [operationFields, List.forall_mem_cons]
  refine ⟨preserves_other fun _ _ holds => holds, preserves_other fun _ _ holds => holds,
    preserves_other fun _ _ holds => holds, preserves_other fun _ _ holds => holds, ?_, ?_,
    preserves_other fun _ _ holds => holds, List.forall_mem_nil _⟩
  · exact preserves_stored (yields_list source (yields_parameter source) depth)
      fun _ _ given holds => ⟨given, holds.2⟩
  · exact preserves_stored (yields_table source (yields_response source) depth)
      fun _ _ given holds => ⟨holds.1, given⟩

theorem operationField_preserves {depth : Nat} {name : String}
    {store : Option Operation → PathItem → PathItem} (method : Method)
    (stores : ∀ operation item, (store operation item).parameters = item.parameters ∧
      ∀ other, (store operation item).operation? other =
        if other = method then operation else item.operation? other) :
    (operationField source depth name store).Preserves fun item => SoundSchemas item.schemas := by
  refine preserves_stored (yields_optional source (yields_operation source depth))
    fun operation item given holds => ?_
  obtain ⟨operations, shared⟩ := PathItem.forall_schemas.mp holds
  obtain ⟨kept, replaced⟩ := stores operation item
  refine PathItem.forall_schemas.mpr ⟨fun other => ?_, kept ▸ shared⟩
  rw [replaced]
  split
  · exact given
  · exact operations other

theorem yields_pathItem (depth : Nat) (node : Node) :
    (readPathItem source depth node).Yields fun item => SoundSchemas item.schemas := by
  refine yields_record source (List.forall_mem_nil _) (fun depth => ?_) depth node
  simp only [pathItemFields, List.forall_mem_cons]
  refine ⟨operationField_preserves source .get ?_, operationField_preserves source .put ?_,
    operationField_preserves source .post ?_, operationField_preserves source .delete ?_,
    operationField_preserves source .options ?_, operationField_preserves source .head ?_,
    operationField_preserves source .patch ?_, ?_, List.forall_mem_nil _⟩
  case refine_8 =>
    refine preserves_stored (yields_list source (yields_parameter source) depth)
      fun parameters item given holds => ?_
    exact PathItem.forall_schemas.mpr ⟨(PathItem.forall_schemas.mp holds).1, given⟩
  all_goals exact fun _ _ => ⟨rfl, fun other => by cases other <;> rfl⟩

theorem yields_document (depth : Nat) (node : Node) :
    (readDocument source depth node).Yields fun document => SoundSchemas document.schemas := by
  simp only [SoundSchemas, Document.forall_schemas]
  refine yields_record source ⟨List.forall_mem_nil _, List.forall_mem_nil _,
    List.forall_mem_nil _, List.forall_mem_nil _⟩ (fun depth => ?_) depth node
  simp only [documentFields, List.forall_mem_cons]
  refine ⟨preserves_other fun _ _ holds => holds, preserves_other fun _ _ holds => holds,
    preserves_other fun _ _ holds => holds, ?_, ?_, ?_, ?_, List.forall_mem_nil _⟩
  · exact preserves_stored (yields_table source (yields_pathItem source) depth)
      fun _ _ given holds => ⟨given, holds.2⟩
  · exact preserves_stored (yields_table source (yields_schema source) depth)
      fun _ _ given holds => ⟨holds.1, given, holds.2.2⟩
  · exact preserves_stored (yields_table source (yields_parameter source) depth)
      fun _ _ given holds => ⟨holds.1, holds.2.1, given, holds.2.2.2⟩
  · exact preserves_stored (yields_table source (yields_response source) depth)
      fun _ _ given holds => ⟨holds.1, holds.2.1, holds.2.2.1, given⟩

end Results

/-! ## Formats -/

namespace Document

theorem sound_of_decode {format : Format} {bytes : List UInt8} {document : Document}
    (decoded : decode format bytes = .ok document) : SoundSchemas document.schemas := by
  cases format with
  | json => exact yields_run (yields_document Json.source Json.maxDepth _) decoded
  | yaml =>
      simp only [decode, Yaml.decode] at decoded
      split at decoded
      · cases decoded
      · rename_i text _
        generalize Yaml.Stream.ofTokens (Yaml.tokens text) = stream at decoded
        cases read : readDocument ⟨stream.anchors, false⟩ Yaml.maxDepth stream.node
            stream.aliasBudget with
        | error failure => simp [read, bind, Except.bind] at decoded
        | ok outcome =>
            simp only [read, bind, Except.bind] at decoded
            split at decoded
            · obtain rfl := Except.ok.inj decoded
              exact yields_document _ _ _ _ _ _ read
            · cases decoded

/-- An accepted document has the supported version, and its schemas are well formed. -/
theorem sound_of_load {format : Format} {bytes : List UInt8} {document : Document}
    (loaded : load format bytes = .ok document) :
    document.swagger = "2.0" ∧ SoundSchemas document.schemas := by
  rw [load] at loaded
  split at loaded
  · cases loaded
  · rename_i result decoded
    split at loaded
    · rename_i version
      obtain rfl := Except.ok.inj loaded
      exact ⟨version, sound_of_decode decoded⟩
    · cases loaded

/-! ## Round trips -/

/-- A document is read back from the bytes of its compact text. -/
theorem load_written {document : Document} (version : document.swagger = "2.0")
    (sound : SoundSchemas document.schemas) (whole : ∀ schema ∈ document.schemas, schema.Whole)
    (shallow : document.toJson.nesting ≤ Json.maxDepth) :
    Document.load .json (Text.bytes document.toJson.compact) = .ok document := by
  have glyphs : Text.glyphs (Text.bytes document.toJson.compact) =
      Json.typed document.toJson.print := by
    rw [Text.bytes_eq, Text.glyphs_encode, Json.compact, String.toList_ofList]
  have back : ∀ schema ∈ document.schemas, schema.ReadsBack Json.source :=
    fun schema member => Schema.readsBack (whole schema member) (sound schema member)
  have decoded : Document.decode .json (Text.bytes document.toJson.compact) = .ok document := by
    rw [decode, glyphs, Json.decodeFirst, Json.readText_print (Document.whole_toJson whole),
      Json.Outcome.decode, Json.Outcome.node, readDocument_toJson back shallow]
    rfl
  rw [load, decoded]
  exact if_pos version

/-- Writing a document and reading it again gives the same document, and so does reading one in any
format, writing it and reading it again. The text may be nested 127 levels deep, and no literal may
hold a double-precision number. Schemas that have been read are always well formed: their properties
and the members of their literals have different names, and their integers have 64 bits. -/
theorem write_then_read :
    (∀ document : Document, document.swagger = "2.0" →
      (∀ schema ∈ document.schemas, schema.WellFormed) →
      (∀ schema ∈ document.schemas, schema.Whole) → document.toJson.nesting ≤ 127 →
      load .json (Text.bytes document.toJson.compact) = .ok document) ∧
    ∀ format bytes document, load format bytes = .ok document →
      (∀ schema ∈ document.schemas, schema.Whole) → document.toJson.nesting ≤ 127 →
      load .json (Text.bytes document.toJson.compact) = .ok document := by
  refine ⟨fun document version sound whole shallow => ?_,
    fun format bytes document loaded whole shallow => ?_⟩
  · exact load_written version sound whole shallow
  · obtain ⟨version, sound⟩ := sound_of_load loaded
    exact load_written version sound whole shallow

/-- A schema with properties that are present but empty, and with literals of several kinds. -/
def intricateSchema : Schema where
  type := some "object"
  enumeration := [.null, .string "a \"quoted\"\nline", .number (.integer (-3)),
    .object [("", .array [.boolean false])]]
  items := some { properties := some [] }
  required := ["name"]
  readOnly := true
  composition := [Schema.refer "#/definitions/Pet"]

/-- A document with that schema in a parameter and in a definition. -/
def intricate : Document where
  paths := ⟨[("/pets", { get := some {
    parameters := [{ name := some "limit", required := true, schema := some intricateSchema }],
    responses := ⟨[("200", { description := "" })], by decide⟩ } })], by decide⟩
  definitions := ⟨[("Pet", intricateSchema), ("\\u0041", {})], by decide⟩

theorem write_then_read_intricate :
    Document.load .json (Text.bytes intricate.toJson.compact) = .ok intricate := by
  have leaf : ∀ schema : Schema, schema.children = [] → schema.enumeration = [] →
      schema.declaredProperties = [] → schema.WellFormed ∧ schema.Whole := by
    intro schema noChildren noLiterals noProperties
    rw [Schema.wellFormed_iff, Schema.whole_iff, noChildren, noLiterals, noProperties]
    simp
  have below : ∀ child ∈ intricateSchema.children, child.WellFormed ∧ child.Whole := by
    show ∀ child ∈ [{ properties := some [] }, Schema.refer "#/definitions/Pet"], _
    exact List.forall_mem_cons.mpr ⟨leaf _ rfl rfl rfl,
      List.forall_mem_singleton.mpr (leaf _ rfl rfl rfl)⟩
  have nested : intricateSchema.WellFormed ∧ intricateSchema.Whole := by
    have literals : ∀ literal ∈ intricateSchema.enumeration,
        literal.WellFormed ∧ literal.Whole := by
      simp [intricateSchema, Spelling.fits]
    rw [Schema.wellFormed_iff, Schema.whole_iff]
    exact ⟨⟨List.nodup_nil, fun literal member => (literals literal member).1,
      fun child member => (below child member).1⟩, fun literal member => (literals literal member).2,
      fun child member => (below child member).2⟩
  have every : ∀ schema ∈ intricate.schemas, schema.WellFormed ∧ schema.Whole := by
    show ∀ schema ∈ [intricateSchema, intricateSchema, {}], schema.WellFormed ∧ schema.Whole
    simp only [List.forall_mem_cons]
    exact ⟨nested, nested, leaf {} rfl rfl rfl, List.forall_mem_nil _⟩
  exact write_then_read.1 intricate rfl (fun schema member => (every schema member).1)
    (fun schema member => (every schema member).2) (by decide)

end Document

end ApiCatalog
