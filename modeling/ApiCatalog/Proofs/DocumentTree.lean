import ApiCatalog.Document
import ApiCatalog.Proofs.JsonTree
import ApiCatalog.Proofs.SchemaTree

/-!
# The schemas of a document

Every schema that stands directly in a document, and two things to say of all of them: that their
literals have integers only, and that they are ones a program can hold.
-/

namespace ApiCatalog

/-! ## Documents -/

/-- The schemas a parameter holds, of which there is at most one. -/
def Parameter.schemas (parameter : Parameter) : List Schema :=
  parameter.schema.toList

/-- The schemas a response holds, of which there is at most one. -/
def Response.schemas (response : Response) : List Schema :=
  response.schema.toList

/-- The schemas of the parameters and responses of an operation. -/
def Operation.schemas (operation : Operation) : List Schema :=
  operation.parameters.flatMap Parameter.schemas ++
    operation.responses.toList.flatMap fun (_, response) => response.schemas

/-- The schemas of the operations and the parameters behind a path. -/
def PathItem.schemas (item : PathItem) : List Schema :=
  item.operations.flatMap (fun (_, operation) => operation.schemas) ++
    item.parameters.flatMap Parameter.schemas

/-- The schemas that stand directly in a document. -/
def Document.schemas (document : Document) : List Schema :=
  document.paths.toList.flatMap (fun (_, item) => item.schemas) ++
    document.definitions.toList.map Prod.snd ++
    document.parameters.toList.flatMap (fun (_, parameter) => parameter.schemas) ++
    document.responses.toList.flatMap (fun (_, response) => response.schemas)

section

variable {property : Schema → Prop}

theorem Operation.forall_schemas {operation : Operation} :
    (∀ schema ∈ operation.schemas, property schema) ↔
      (∀ parameter ∈ operation.parameters, ∀ schema ∈ parameter.schemas, property schema) ∧
        ∀ entry ∈ operation.responses.toList, ∀ schema ∈ entry.2.schemas, property schema := by
  rw [schemas, List.forall_mem_append, List.forall_mem_flatMap, List.forall_mem_flatMap]

theorem PathItem.forall_schemas {item : PathItem} :
    (∀ schema ∈ item.schemas, property schema) ↔
      (∀ method, ∀ operation ∈ item.operation? method,
        ∀ schema ∈ operation.schemas, property schema) ∧
        ∀ parameter ∈ item.parameters, ∀ schema ∈ parameter.schemas, property schema := by
  rw [schemas, List.forall_mem_append, List.forall_mem_flatMap, List.forall_mem_flatMap,
    operations, List.forall_mem_filterMap]
  refine and_congr_left fun _ => ⟨fun listed method operation given => ?_, fun every => ?_⟩
  · have isMethod : method ∈ Method.all := by cases method <;> decide
    exact listed method isMethod (method, operation) (by rw [given]; rfl)
  · intro method _ entry given
    obtain ⟨operation, present, rfl⟩ := Option.map_eq_some_iff.mp given
    exact every method operation present

theorem Document.forall_schemas {document : Document} :
    (∀ schema ∈ document.schemas, property schema) ↔
      (∀ entry ∈ document.paths.toList, ∀ schema ∈ entry.2.schemas, property schema) ∧
      (∀ entry ∈ document.definitions.toList, property entry.2) ∧
      (∀ entry ∈ document.parameters.toList, ∀ schema ∈ entry.2.schemas, property schema) ∧
      ∀ entry ∈ document.responses.toList, ∀ schema ∈ entry.2.schemas, property schema := by
  simp only [schemas, List.forall_mem_append, List.forall_mem_flatMap, List.forall_mem_map,
    and_assoc]

end

/-! ## Schemas -/

namespace Schema

/-- No literal in the tree of a schema holds a number other than an integer. -/
def Whole (schema : Schema) : Prop :=
  ∀ node, Part node schema → ∀ literal ∈ node.enumeration, literal.Whole

/-- In the tree of a schema, properties have different names and literals are well formed. -/
def WellFormed (schema : Schema) : Prop :=
  ∀ node, Part node schema → (node.declaredProperties.map Prod.fst).Nodup ∧
    ∀ literal ∈ node.enumeration, literal.WellFormed

variable {schema : Schema}

theorem whole_iff : schema.Whole ↔
    (∀ literal ∈ schema.enumeration, literal.Whole) ∧
      ∀ child ∈ schema.children, child.Whole := by
  refine ⟨fun whole => ⟨whole schema .self, fun child member node part =>
    whole node (.inside member part)⟩, ?_⟩
  rintro ⟨literals, below⟩ node (_ | ⟨member, part⟩)
  · exact literals
  · exact below _ member node part

theorem wellFormed_iff : schema.WellFormed ↔
    (schema.declaredProperties.map Prod.fst).Nodup ∧
      (∀ literal ∈ schema.enumeration, literal.WellFormed) ∧
      ∀ child ∈ schema.children, child.WellFormed := by
  refine ⟨fun sound => ⟨(sound schema .self).1, (sound schema .self).2,
    fun child member node part => sound node (.inside member part)⟩, ?_⟩
  rintro ⟨distinct, literals, below⟩ node (_ | ⟨member, part⟩)
  · exact ⟨distinct, literals⟩
  · exact below _ member node part

/-- What makes a schema well formed, part by part. -/
structure Sound (schema : Schema) : Prop where
  distinct : (schema.declaredProperties.map Prod.fst).Nodup
  literals : ∀ literal ∈ schema.enumeration, literal.WellFormed
  items : ∀ child ∈ schema.items, child.WellFormed
  properties : ∀ property ∈ schema.declaredProperties, property.2.WellFormed
  composition : ∀ child ∈ schema.composition, child.WellFormed

theorem Sound.wellFormed (sound : schema.Sound) : schema.WellFormed := by
  refine wellFormed_iff.mpr ⟨sound.distinct, sound.literals, fun child member => ?_⟩
  simp only [children, List.mem_append, Option.mem_toList, List.mem_map] at member
  rcases member with (isItems | ⟨property, declared, rfl⟩) | composed
  · exact sound.items child isItems
  · exact sound.properties property declared
  · exact sound.composition child composed

end Schema

end ApiCatalog
