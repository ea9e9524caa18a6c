import ApiCatalog.Proofs.SchemaTree
import ApiCatalog.Resolution

/-!
# Resolution, one level at a time

A model is assembled from the type expressions of the schemas directly below its schema. This holds
of resolution with given types of references and of resolution in a document. The document is only
asked what a property without a reference stands for, and that is the property itself, so that both
resolutions give the same models: `resolveIn_eq`.
-/

namespace ApiCatalog

namespace Resolution

variable [Transliteration]

/-! ## What decides a kind -/

/-- No symbols decide the kind of a schema. -/
def Undecided (name : String) (schema : Schema) : Prop :=
  enumerated? name (schema.description.bind Comment.ofDescription?) schema = none

/-- A schema describes a list with items of a known type. -/
def IsList (schema : Schema) (element : Option TypeExpression) : Prop :=
  schema.isArray = true ∧ schema.items.isSome ∧ element.isSome

variable {name : String} {schema : Schema} {element : Option TypeExpression}
  {members : Option (List (String × Schema × TypeExpression))}

theorem combine_of_decided {model : Model}
    (decided : enumerated? name (schema.description.bind Comment.ofDescription?) schema =
      some model) : combine name schema element members = model := by
  simp only [combine, decided]

theorem combine_of_list (undecided : Undecided name schema) {items : Schema}
    {type : TypeExpression} (isArray : schema.isArray = true) (given : schema.items = some items) :
    combine name schema (some type) members =
      array name (schema.description.bind Comment.ofDescription?) items type := by
  rw [Undecided] at undecided
  simp only [combine, undecided, isArray, given]

theorem combine_of_object (undecided : Undecided name schema)
    (noList : ¬ IsList schema element) {entries : List (String × Schema × TypeExpression)}
    (isObject : schema.isObject = true) :
    combine name schema element (some entries) =
      interface name (schema.description.bind Comment.ofDescription?) schema entries := by
  rw [Undecided] at undecided
  simp only [combine, undecided, isObject]
  split
  · exact absurd ⟨‹_›, Option.isSome_of_eq_some ‹_›, rfl⟩ noList
  · rename_i same _
    rw [Option.some.inj same]
  · rename_i never
    exact absurd rfl (never entries rfl)

theorem combine_of_type (undecided : Undecided name schema) (noList : ¬ IsList schema element)
    (noObject : ¬ (schema.isObject = true ∧ members.isSome)) :
    combine name schema element members =
      declared name (schema.description.bind Comment.ofDescription?) schema.type := by
  rw [Undecided] at undecided
  simp only [combine, undecided]
  split
  · exact absurd ⟨‹_›, Option.isSome_of_eq_some ‹_›, rfl⟩ noList
  · exact absurd ⟨‹_›, rfl⟩ noObject
  · rfl

end Resolution

namespace Schema

open Resolution

variable [Transliteration]

/-! ## Assembled models -/

/-- The model of a schema, given the type expression of every schema under every name. -/
def assemble (express : String → Schema → TypeExpression) (name : String) (schema : Schema) :
    Model :=
  combine name schema
    (schema.items.map fun items => express (items.title.getD unknownItem) items)
    (schema.properties.map fun properties =>
      properties.map fun (key, property) => (key, property, express key property))

/-- Only the schemas directly below count. -/
theorem assemble_congr {express other : String → Schema → TypeExpression} {schema : Schema}
    (same : ∀ child ∈ schema.children, ∀ name, express name child = other name child)
    (name : String) : assemble express name schema = assemble other name schema := by
  have sameItems :
      (schema.items.map fun items => express (items.title.getD unknownItem) items) =
        schema.items.map fun items => other (items.title.getD unknownItem) items :=
    Option.map_congr fun items given => same items (items_mem_children given) _
  have sameProperties :
      (schema.properties.map fun properties =>
        properties.map fun (key, property) => (key, property, express key property)) =
      schema.properties.map fun properties =>
        properties.map fun (key, property) => (key, property, other key property) := by
    refine Option.map_congr fun properties given => ?_
    refine List.map_congr_left fun (key, property) declared => ?_
    have member : property ∈ schema.children :=
      property_mem_children (by rw [declaredProperties, given]; exact declared)
    simp only [same property member]
  rw [assemble, assemble, sameItems, sameProperties]

/-! ## Resolution with given types of references -/

section

variable {typeOf : String → TypeExpression}

theorem resolveMembers_eq (properties : List (String × Schema)) :
    resolveMembers typeOf properties = properties.map fun (name, member) =>
      (name, member, expression typeOf member (member.resolveWith typeOf name)) := by
  induction properties with
  | nil => rfl
  | cons property rest induction => rw [resolveMembers, induction, List.map_cons]

theorem resolveItems_eq (items : Option Schema) :
    resolveItems typeOf items = items.map fun items =>
      expression typeOf items (items.resolveWith typeOf (items.title.getD unknownItem)) := by
  cases items <;> simp [resolveItems]

theorem resolveProperties_eq (properties : Option (List (String × Schema))) :
    resolveProperties typeOf properties = properties.map fun properties =>
      properties.map fun (name, member) =>
        (name, member, expression typeOf member (member.resolveWith typeOf name)) := by
  cases properties <;> simp [resolveProperties, resolveMembers_eq]

theorem resolveWith_eq (name : String) (schema : Schema) :
    schema.resolveWith typeOf name =
      assemble (fun name child => expression typeOf child (child.resolveWith typeOf name)) name
        schema := by
  cases schema
  simp only [resolveWith, assemble, resolveItems_eq, resolveProperties_eq]

/-- The model of a schema has the type expressions of the schemas directly below it. -/
theorem resolve_eq (name : String) (schema : Schema) :
    schema.resolve name = assemble (fun name child => child.resolveInline name) name schema :=
  resolveWith_eq name schema

end

/-! ## Resolution in a document -/

section

variable (document : Document)

theorem membersIn_eq (properties : List (String × Schema)) :
    membersIn document properties = properties.map fun (name, property) =>
      (name, property,
        expression TypeExpression.ofPointer property (property.resolveIn document name)) := by
  induction properties with
  | nil => rw [membersIn, List.map_nil]
  | cons property rest induction =>
      obtain ⟨name, property⟩ := property
      rw [membersIn, List.map_cons, induction]
      split
      · rename_i pointer refers
        simp only [expression, refers]
      · rename_i inline
        rw [referent_of_inline document inline]

theorem itemsIn_eq (items : Option Schema) :
    itemsIn document items = items.map fun items =>
      expression TypeExpression.ofPointer items
        (items.resolveIn document (items.title.getD unknownItem)) := by
  cases items <;> simp [itemsIn]

theorem propertiesIn_eq (properties : Option (List (String × Schema))) :
    propertiesIn document properties = properties.map fun properties =>
      properties.map fun (name, property) =>
        (name, property,
          expression TypeExpression.ofPointer property (property.resolveIn document name)) := by
  cases properties <;> simp [propertiesIn, membersIn_eq]

theorem resolveIn_step (name : String) (schema : Schema) :
    schema.resolveIn document name =
      assemble (fun name child =>
        expression TypeExpression.ofPointer child (child.resolveIn document name)) name schema := by
  cases schema
  simp only [resolveIn, assemble, itemsIn_eq, propertiesIn_eq]

/-- The document has no part in the model of a schema. -/
theorem resolveIn_eq (name : String) (schema : Schema) :
    schema.resolveIn document name = schema.resolve name := by
  induction schema using induction_on_children generalizing name with
  | step schema induction =>
      rw [resolveIn_step, resolve_eq]
      refine assemble_congr (fun child member name => ?_) name
      rw [induction child member, resolveInline]

theorem resolveInlineIn_eq (name : String) (schema : Schema) :
    schema.resolveInlineIn document name = schema.resolveInline name := by
  rw [resolveInlineIn, resolveIn_eq, resolveInline]

end

end Schema

end ApiCatalog
