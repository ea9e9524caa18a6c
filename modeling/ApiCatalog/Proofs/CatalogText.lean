import ApiCatalog.Catalog
import ApiCatalog.Proofs.EnumerationText
import ApiCatalog.Proofs.JsonLayout
import ApiCatalog.Proofs.SchemaForm

/-!
# Texts of catalogs

Nothing of a catalog is lost when it is written, by `texts_tell_catalogs`. The value a model is
written as has different members for different kinds and leaves out what is missing, so that all of
the model can be read off it, but for one thing: numbers and texts among the values of symbols are
written alike. They are told apart by the type of the enumeration, in which only texts are quoted.
-/

namespace ApiCatalog

namespace Json

/-! ## Reading values -/

/-- The member of an object with a name, or null. -/
def member (name : String) : Json → Json
  | .object members => (members.lookup name).getD .null
  | _ => .null

/-- The text of a value, if it is one. -/
def text? : Json → Option String
  | .string content => some content
  | _ => none

/-- The text of a value. -/
def text (value : Json) : String :=
  value.text?.getD ""

/-- Whether a value is true. -/
def isTrue : Json → Bool
  | .boolean flag => flag
  | _ => false

/-- The items of a list. -/
def items : Json → List Json
  | .array items => items
  | _ => []

@[simp]
theorem member_nil (name : String) : (object []).member name = null :=
  rfl

@[simp]
theorem member_cons (name other : String) (value : Json) (rest : List (String × Json)) :
    (object ((other, value) :: rest)).member name =
      if name = other then value else (object rest).member name := by
  by_cases same : name = other
  · simp [member, same]
  · have differs : (name == other) = false := by simpa using same
    simp [member, List.lookup_cons, differs, same]

@[simp]
theorem text?_null : null.text? = none :=
  rfl

@[simp]
theorem text?_string (content : String) : (string content).text? = some content :=
  rfl

@[simp]
theorem text_string (content : String) : (string content).text = content :=
  rfl

@[simp]
theorem text_comp_string : text ∘ string = id :=
  rfl

@[simp]
theorem isTrue_boolean (flag : Bool) : (boolean flag).isTrue = flag :=
  rfl

@[simp]
theorem items_array (values : List Json) : (array values).items = values :=
  rfl

end Json

/-- The property that is written as a value. -/
def Property.ofJson (written : Json) : Property where
  name := (written.member "name").text
  type := (written.member "type").text
  required := (written.member "required").isTrue
  nullable := (written.member "nullable").isTrue
  readOnly := (written.member "readOnly").isTrue
  description := (written.member "description").text?

/-- The symbols that are written as values, in an enumeration with a rendered type. -/
def Symbol.ofJson (written : List Json) (rendered : String) : List Symbol :=
  List.zipWith Symbol.mk (written.map fun symbol => (symbol.member "name").text)
    (Enumeration.readUnion written.length rendered.toList)

/-- The kind that is written among the members of a value. -/
def Kind.ofJson (written : Json) : Kind :=
  let rendered := (written.member "renderedType").text
  let base := (written.member "baseType").text
  let template := (written.member "template").text?
  let validation := (written.member "validation").text
  match (written.member "kind").text with
  | "enum" =>
      .enumeration (Symbol.ofJson (written.member "symbols").items rendered) rendered base
        validation
  | "array" => .array rendered base template validation
  | "interface" =>
      .interface ((written.member "properties").items.map Property.ofJson)
        ((written.member "extends").items.map Json.text)
  | "primitive" => .primitive rendered base template
  | _ => .untyped

/-- The model that is written as a value. -/
def Model.ofJson (written : Json) : Model where
  name := (written.member "name").text
  description := (written.member "description").text?
  imports := (written.member "imports").items.map Json.text
  kind := Kind.ofJson written

/-- The operation that is written as a value. -/
def NamedOperation.ofJson (written : Json) : NamedOperation where
  name := (written.member "name").text
  method := (written.member "method").text
  path := (written.member "path").text
  operationId := (written.member "operationId").text?
  summary := (written.member "summary").text?

/-- The catalog that is written as a value. -/
def Catalog.ofJson (written : Json) : Catalog where
  title := (written.member "title").text
  version := (written.member "version").text
  models := (written.member "models").items.map Model.ofJson
  operations := (written.member "operations").items.map NamedOperation.ofJson

/-! ## Reading what is written -/

theorem Property.ofJson_toJson (property : Property) : ofJson property.toJson = property := by
  obtain ⟨name, type, required, nullable, readOnly, description⟩ := property
  cases description <;> simp [ofJson, toJson, optionalText]

theorem NamedOperation.ofJson_toJson (operation : NamedOperation) :
    ofJson operation.toJson = operation := by
  obtain ⟨name, method, path, operationId, summary⟩ := operation
  cases operationId <;> cases summary <;> simp [ofJson, toJson, optionalText]

/-- The type of an enumeration is that of its symbols, which can be told from it. -/
def Kind.Legible : Kind → Prop
  | .enumeration symbols rendered _ _ =>
      Enumeration.Legible symbols ∧ rendered = Enumeration.unionType symbols
  | .array .. | .interface .. | .primitive .. | .untyped => True

theorem Symbol.ofJson_toJson {symbols : List Symbol} (legible : Enumeration.Legible symbols) :
    ofJson (symbols.map toJson) (Enumeration.unionType symbols) = symbols := by
  have names : (symbols.map toJson).map (fun symbol => (symbol.member "name").text) =
      symbols.map Symbol.name := by
    simp [toJson]
  rw [ofJson, names, List.length_map, legible.readUnion_unionType, List.zipWith_map,
    List.zipWith_self]
  exact List.map_id symbols

theorem Kind.ofJson_members {kind : Kind} (legible : kind.Legible) :
    ofJson (.object kind.members) = kind := by
  cases kind with
  | enumeration symbols rendered base validation =>
      obtain ⟨legible, rfl⟩ := legible
      simp [ofJson, members, Symbol.ofJson_toJson legible]
  | array rendered base template validation =>
      cases template <;> simp [ofJson, members, optionalText]
  | interface properties parents =>
      have read : Property.ofJson ∘ Property.toJson = id := funext Property.ofJson_toJson
      simp [ofJson, members, textsMember, read]
  | primitive rendered base template =>
      cases template <;> simp [ofJson, members, optionalText]
  | untyped => simp [ofJson, members]

/-- What a model does not write itself is written for its kind. -/
theorem Model.member_toJson (model : Model) {name : String}
    (apart : name ∉ ["name", "description", "imports"]) :
    model.toJson.member name = (Json.object model.kind.members).member name := by
  simp only [List.mem_cons, List.not_mem_nil, or_false, not_or] at apart
  obtain ⟨noName, noDescription, noImports⟩ := apart
  cases description : model.description <;>
    simp [toJson, optionalText, textsMember, description, noName, noDescription, noImports]

theorem Kind.member_description (kind : Kind) :
    (Json.object kind.members).member "description" = .null := by
  cases kind with
  | array rendered base template validation =>
      cases template <;> simp [members, optionalText]
  | primitive rendered base template => cases template <;> simp [members, optionalText]
  | enumeration | interface | untyped => simp [members, textsMember]

/-- A model can be read off the value it is written as. -/
theorem Model.ofJson_toJson {model : Model} (legible : model.kind.Legible) :
    ofJson model.toJson = model := by
  have kind : Kind.ofJson model.toJson = model.kind := by
    rw [← Kind.ofJson_members legible]
    simp [Kind.ofJson, member_toJson]
  rw [ofJson, kind]
  obtain ⟨name, description, imports, kind⟩ := model
  cases description <;> simp [toJson, optionalText, textsMember, Kind.member_description]

/-- A catalog of legible models can be read off the value it is written as. -/
theorem Catalog.ofJson_toJson {catalog : Catalog}
    (legible : ∀ model ∈ catalog.models, model.kind.Legible) :
    ofJson catalog.toJson = catalog := by
  have readModels : catalog.models.map (Model.ofJson ∘ Model.toJson) = catalog.models :=
    (List.map_congr_left fun model member => Model.ofJson_toJson (legible model member)).trans
      (List.map_id _)
  have readOperations : NamedOperation.ofJson ∘ NamedOperation.toJson = id :=
    funext NamedOperation.ofJson_toJson
  simp [ofJson, toJson, readModels, readOperations]

/-! ## Legible models -/

section

variable [Transliteration]

namespace Resolution

/-- Symbols that decide a schema come from its literals or from a description. -/
theorem symbols?_cases {schema : Schema} {symbols : List Symbol} {base : String}
    (listed : symbols? schema = some (symbols, base)) :
    symbols = Enumeration.ofLiterals schema.enumeration ∨
      ∃ description, symbols = Enumeration.ofDescription description := by
  simp only [symbols?] at listed
  split at listed
  · cases listed
    exact .inl rfl
  · split at listed
    · split at listed
      · cases listed
      · rename_i codes
        cases description : schema.description with
        | none => simp [description] at codes
        | some content =>
            cases listed
            rw [description]
            exact .inr ⟨content, rfl⟩
    · cases listed

theorem legible_of_symbols? {schema : Schema} {symbols : List Symbol} {base : String}
    (listed : symbols? schema = some (symbols, base)) : Enumeration.Legible symbols := by
  rcases symbols?_cases listed with rfl | ⟨description, rfl⟩
  · exact Enumeration.legible_ofLiterals schema.enumeration
  · exact Enumeration.legible_ofDescription description

end Resolution

theorem Schema.legible_resolveIn (document : Document) (name : String) (schema : Schema) :
    (schema.resolveIn document name).kind.Legible := by
  rw [resolveIn_eq, resolve_of_form]
  cases form : schema.form with
  | symbols symbols base =>
      have decided := form_eq_symbols_iff.mp form
      exact ⟨Resolution.legible_of_symbols? decided, rfl⟩
  | list | object | declared | unknown => trivial

theorem Catalog.legible_of_mem_generate {document : Document} {request : Request} {model : Model}
    (member : model ∈ (generate document request).catalog.models) : model.kind.Legible := by
  obtain ⟨⟨name, schema⟩, _, rfl⟩ := List.mem_map.mp member
  exact schema.legible_resolveIn document name

end

/-! ## Values without numbers -/

namespace Json

/-- The values of members hold no numbers. -/
def AllNumberless (members : List (String × Json)) : Prop :=
  ∀ member ∈ members, member.2.Numberless

@[simp]
theorem allNumberless_nil : AllNumberless [] :=
  List.forall_mem_nil _

@[simp]
theorem allNumberless_cons {name : String} {value : Json} {rest : List (String × Json)} :
    AllNumberless ((name, value) :: rest) ↔ value.Numberless ∧ AllNumberless rest :=
  List.forall_mem_cons

@[simp]
theorem allNumberless_append {left right : List (String × Json)} :
    AllNumberless (left ++ right) ↔ AllNumberless left ∧ AllNumberless right :=
  List.forall_mem_append

theorem numberless_object_iff {members : List (String × Json)} :
    (object members).Numberless ↔ AllNumberless members :=
  numberless_object

@[simp]
theorem allNumberless_optionalText (name : String) (text : Option String) :
    AllNumberless (optionalText name text) := by
  cases text <;> simp [optionalText]

@[simp]
theorem allNumberless_textsMember (name : String) (texts : List String) :
    AllNumberless (textsMember name texts) := by
  simp [textsMember]

end Json

open Json (numberless_object_iff)

theorem Symbol.numberless_toJson (symbol : Symbol) : symbol.toJson.Numberless := by
  simp [toJson]

theorem Property.numberless_toJson (property : Property) : property.toJson.Numberless :=
  numberless_object_iff.mpr (by simp)

theorem NamedOperation.numberless_toJson (operation : NamedOperation) :
    operation.toJson.Numberless :=
  numberless_object_iff.mpr (by simp)

theorem Model.numberless_toJson (model : Model) : model.toJson.Numberless := by
  refine numberless_object_iff.mpr ?_
  cases kind : model.kind <;>
    simp [Kind.members, Symbol.numberless_toJson, Property.numberless_toJson]

theorem Catalog.numberless_toJson (catalog : Catalog) : catalog.toJson.Numberless :=
  numberless_object_iff.mpr (by
    simp [Model.numberless_toJson, NamedOperation.numberless_toJson])

/-! ## Texts -/

theorem Model.readUnion_rendered {model : Model} (legible : model.kind.Legible) :
    Enumeration.readUnion model.symbols.length model.rendered.toList =
      model.symbols.map Symbol.value := by
  unfold symbols rendered
  cases kind : model.kind with
  | enumeration symbols rendered base validation =>
      rw [kind] at legible
      obtain ⟨legible, rfl⟩ := legible
      exact legible.readUnion_unionType
  | _ => rfl

theorem Model.toJson_inj {left right : Model} (leftLegible : left.kind.Legible)
    (rightLegible : right.kind.Legible) : left.toJson = right.toJson ↔ left = right := by
  refine ⟨fun same => ?_, congrArg toJson⟩
  rw [← ofJson_toJson leftLegible, same, ofJson_toJson rightLegible]

theorem Catalog.toJson_inj {left right : Catalog}
    (leftLegible : ∀ model ∈ left.models, model.kind.Legible)
    (rightLegible : ∀ model ∈ right.models, model.kind.Legible) :
    left.toJson = right.toJson ↔ left = right := by
  refine ⟨fun same => ?_, congrArg toJson⟩
  rw [← ofJson_toJson leftLegible, same, ofJson_toJson rightLegible]

/-- No two models that schemas resolve to have one text, compact or over lines, and no two catalogs
of documents have. A reader of the written values gets all of them back. In particular the type of
an enumeration tells, for every symbol, whether its value is a text or a number. -/
theorem Catalog.texts_tell_catalogs [Transliteration] :
    (∀ (leftDocument rightDocument : Document) (leftName rightName : String)
        (leftSchema rightSchema : Schema),
      let left := leftSchema.resolveIn leftDocument leftName
      let right := rightSchema.resolveIn rightDocument rightName
      (left.toJson.compact = right.toJson.compact ↔ left = right) ∧
      (left.toJson.pretty = right.toJson.pretty ↔ left = right)) ∧
    (∀ (document : Document) (name : String) (schema : Schema),
      let model := schema.resolveIn document name
      Model.ofJson model.toJson = model ∧
      Enumeration.readUnion model.symbols.length model.rendered.toList =
        model.symbols.map Symbol.value) ∧
    (∀ (leftDocument rightDocument : Document) (leftRequest rightRequest : Request),
      let left := (generate leftDocument leftRequest).catalog
      let right := (generate rightDocument rightRequest).catalog
      (left.toJson.compact = right.toJson.compact ↔ left = right) ∧
      (left.toJson.pretty = right.toJson.pretty ↔ left = right)) ∧
    ∀ (document : Document) (request : Request),
      let catalog := (generate document request).catalog
      Catalog.ofJson catalog.toJson = catalog := by
  refine ⟨?_, ?_, ?_, ?_⟩
  · intro leftDocument rightDocument leftName rightName leftSchema rightSchema left right
    have models : left.toJson = right.toJson ↔ left = right :=
      Model.toJson_inj (leftSchema.legible_resolveIn leftDocument leftName)
        (rightSchema.legible_resolveIn rightDocument rightName)
    exact ⟨(Json.compact_inj left.numberless_toJson right.numberless_toJson).trans models,
      (Json.pretty_inj left.numberless_toJson right.numberless_toJson).trans models⟩
  · intro document name schema model
    have legible : model.kind.Legible := schema.legible_resolveIn document name
    exact ⟨Model.ofJson_toJson legible, Model.readUnion_rendered legible⟩
  · intro leftDocument rightDocument leftRequest rightRequest left right
    have catalogs : left.toJson = right.toJson ↔ left = right :=
      Catalog.toJson_inj (fun _ => legible_of_mem_generate) fun _ => legible_of_mem_generate
    exact ⟨(Json.compact_inj left.numberless_toJson right.numberless_toJson).trans catalogs,
      (Json.pretty_inj left.numberless_toJson right.numberless_toJson).trans catalogs⟩
  · intro document request catalog
    exact Catalog.ofJson_toJson fun _ => legible_of_mem_generate

end ApiCatalog
