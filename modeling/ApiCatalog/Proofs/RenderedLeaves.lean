import ApiCatalog.Proofs.SchemaAlone
import ApiCatalog.Proofs.SchemaForm
import ApiCatalog.Proofs.TypeImports
import ApiCatalog.Text.Spellings

/-!
# Rendered leaves

The text of a schema is made of the references and declared types that its forms lead to, its leaves.
A model imports what its leaves import, in order, and nothing else: `imports_exact`. No leaf imports
a name twice, so that a model does so only if two of its leaves import the name: `nodup_imports_iff`.
-/

namespace ApiCatalog

namespace Schema

open Resolution

/-! ## Leaves -/

/-- A name in the text of a schema. -/
inductive Leaf where
  /-- The name a reference ends in. -/
  | reference (pointer : String)
  /-- A declared type. -/
  | declared (name : String)
  deriving DecidableEq

/-- The type of a leaf. -/
def Leaf.type : Leaf → TypeExpression
  | .reference pointer => TypeExpression.ofPointer pointer
  | .declared name => TypeExpression.ofName name

/-- The names that a leaf imports. -/
def Leaf.imports (leaf : Leaf) : List String :=
  leaf.type.imports

section

variable [Transliteration]

mutual

/-- The leaves of a schema in the order of its text. Symbols have none. -/
def leaves : Schema → List Leaf
  | ⟨reference, type, format, title, description, enumeration, items, properties, required,
      readOnly, composition⟩ =>
      match form ⟨reference, type, format, title, description, enumeration, items, properties,
        required, readOnly, composition⟩ with
      | .symbols _ _ => []
      | .list _ => itemsLeaves items
      | .object _ => propertiesLeaves properties
      | .declared name => [.declared name]
      | .unknown => []

/-- The leaves of the items of a list. -/
def itemsLeaves : Option Schema → List Leaf
  | none => []
  | some items =>
      match items.reference with
      | some pointer => [.reference pointer]
      | none => items.leaves

/-- The leaves of the properties of an object. -/
def propertiesLeaves : Option (List (String × Schema)) → List Leaf
  | none => []
  | some properties => membersLeaves properties

/-- The leaves of properties. -/
def membersLeaves : List (String × Schema) → List Leaf
  | [] => []
  | (_, property) :: rest =>
      (match property.reference with
        | some pointer => [.reference pointer]
        | none => property.leaves) ++ membersLeaves rest

end

/-- The leaves of a schema in place: a reference is the only one. -/
def leavesInline (schema : Schema) : List Leaf :=
  match schema.reference with
  | some pointer => [.reference pointer]
  | none => schema.leaves

theorem membersLeaves_eq (properties : List (String × Schema)) :
    membersLeaves properties = properties.flatMap fun property => property.2.leavesInline := by
  induction properties with
  | nil => rfl
  | cons property rest induction =>
      rw [membersLeaves, induction, List.flatMap_cons, leavesInline]

theorem leaves_eq (schema : Schema) :
    schema.leaves =
      match schema.form with
      | .symbols _ _ => []
      | .list items => items.leavesInline
      | .object properties => properties.flatMap fun property => property.2.leavesInline
      | .declared name => [.declared name]
      | .unknown => [] := by
  obtain ⟨reference, type, format, title, description, enumeration, items, properties, required,
    readOnly, composition⟩ := schema
  rw [leaves]
  split
  · rfl
  · rename_i list
    obtain rfl : items = some _ := (form_eq_list_iff.mp list).2.2
    rw [itemsLeaves, leavesInline]
  · rename_i object
    obtain rfl : properties = some _ := (form_eq_object_iff.mp object).2.2
    rw [propertiesLeaves, membersLeaves_eq]
  · rfl
  · rfl

/-! ## Imports -/

theorem imports_resolveInline {schema : Schema} {name : String}
    (whole : (schema.resolve name).imports = schema.leaves.flatMap Leaf.imports) :
    (schema.resolveInline name).imports = schema.leavesInline.flatMap Leaf.imports := by
  unfold resolveInline expression leavesInline
  cases schema.reference with
  | some pointer => exact (List.append_nil _).symm
  | none => exact whole

theorem imports_resolve (schema : Schema) (name : String) :
    (schema.resolve name).imports = schema.leaves.flatMap Leaf.imports := by
  induction schema using induction_on_children generalizing name with
  | step schema induction =>
      rw [resolve_of_form, leaves_eq]
      cases form : schema.form with
      | symbols symbols base => rfl
      | list items =>
          exact imports_resolveInline (induction items (mem_children_of_list form) _)
      | object properties =>
          simp only [ofForm, interface, List.flatMap_map, List.flatMap_assoc]
          refine List.flatMap_congr fun property declared => ?_
          have member : property.2 ∈ schema.children := mem_children_of_object form declared
          exact imports_resolveInline (induction property.2 member property.1)
      | declared type => exact (List.append_nil _).symm
      | unknown => rfl

/-! ## What is not rendered -/

mutual

/-- A schema with only those schemas below it that its text shows: the items of a list or the
properties of an object, references among them bare, and nothing that composes it. -/
def pruned : Schema → Schema
  | ⟨reference, type, format, title, description, enumeration, items, properties, required,
      readOnly, composition⟩ =>
      match form ⟨reference, type, format, title, description, enumeration, items, properties,
        required, readOnly, composition⟩ with
      | .list _ =>
          ⟨reference, type, format, title, description, enumeration, prunedItems items, none,
            required, readOnly, []⟩
      | .object _ =>
          ⟨reference, type, format, title, description, enumeration, none,
            prunedProperties properties, required, readOnly, []⟩
      | .symbols _ _ | .declared _ | .unknown =>
          ⟨reference, type, format, title, description, enumeration, none, none, required, readOnly,
            []⟩

/-- The pruned schema of items. -/
def prunedItems : Option Schema → Option Schema
  | none => none
  | some items => some (items.bareOr items.pruned)

/-- The pruned schemas of properties. -/
def prunedProperties : Option (List (String × Schema)) → Option (List (String × Schema))
  | none => none
  | some properties => some (prunedMembers properties)

/-- The pruned schemas of properties. -/
def prunedMembers : List (String × Schema) → List (String × Schema)
  | [] => []
  | (name, property) :: rest => (name, property.bareOr property.pruned) :: prunedMembers rest

end

/-- The pruned schema in place: a reference is bare. -/
def prunedInline (schema : Schema) : Schema :=
  schema.bareOr schema.pruned

theorem prunedMembers_eq (properties : List (String × Schema)) :
    prunedMembers properties = properties.map fun (name, property) =>
      (name, property.prunedInline) := by
  induction properties with
  | nil => rfl
  | cons property rest induction =>
      simp only [prunedMembers, induction, List.map_cons, prunedInline]

theorem pruned_eq (schema : Schema) :
    schema.pruned =
      match schema.form with
      | .list items =>
          { schema with items := some items.prunedInline, properties := none, composition := [] }
      | .object properties =>
          { schema with
            items := none
            properties := some (properties.map fun (name, property) => (name, property.prunedInline))
            composition := [] }
      | .symbols _ _ | .declared _ | .unknown =>
          { schema with items := none, properties := none, composition := [] } := by
  obtain ⟨reference, type, format, title, description, enumeration, items, properties, required,
    readOnly, composition⟩ := schema
  rw [pruned]
  split
  · rename_i list
    obtain rfl : items = some _ := (form_eq_list_iff.mp list).2.2
    simp only [prunedItems, prunedInline]
  · rename_i object
    obtain rfl : properties = some _ := (form_eq_object_iff.mp object).2.2
    simp only [prunedProperties, prunedMembers_eq]
  all_goals rfl

theorem form_pruned (schema : Schema) : schema.pruned.form = schema.form.map prunedInline := by
  rw [pruned_eq]
  cases form : schema.form with
  | symbols symbols base =>
      have decided := form_eq_symbols_iff.mp form
      exact form_eq_symbols_iff.mpr decided
  | list items =>
      obtain ⟨undecided, isArray, _⟩ := form_eq_list_iff.mp form
      exact form_eq_list_iff.mpr ⟨undecided, isArray, rfl⟩
  | object properties =>
      obtain ⟨undecided, isObject, _⟩ := form_eq_object_iff.mp form
      exact form_eq_object_iff.mpr ⟨undecided, isObject, rfl⟩
  | declared type =>
      obtain ⟨undecided, declares, _⟩ := form_eq_declared_iff.mp form
      exact form_eq_declared_iff.mpr ⟨undecided, declares, nofun, nofun⟩
  | unknown =>
      have undecided := form_eq_unknown_iff.mp form
      exact form_eq_unknown_iff.mpr undecided

theorem reference_pruned (schema : Schema) : schema.pruned.reference = schema.reference := by
  rw [pruned_eq]
  cases schema.form <;> rfl

theorem leavesInline_prunedInline {schema : Schema} (same : schema.pruned.leaves = schema.leaves) :
    schema.prunedInline.leavesInline = schema.leavesInline := by
  unfold prunedInline bareOr
  cases refers : schema.reference with
  | some pointer => simp only [leavesInline, refers, refer]
  | none => simp only [leavesInline, reference_pruned, refers, same]

theorem leaves_pruned (schema : Schema) : schema.pruned.leaves = schema.leaves := by
  induction schema using induction_on_children with
  | step schema induction =>
      rw [leaves_eq, form_pruned, leaves_eq]
      cases form : schema.form with
      | list items => exact leavesInline_prunedInline (induction items (mem_children_of_list form))
      | object properties =>
          simp only [Form.map, List.flatMap_map]
          refine List.flatMap_congr fun property declared => ?_
          have member : property.2 ∈ schema.children := mem_children_of_object form declared
          exact leavesInline_prunedInline (induction property.2 member)
      | symbols | declared | unknown => rfl

/-! ## Models -/

/-- The imports of a model are those of the leaves of its schema, in their order and with their
repetitions, and the same holds of a schema in place. Hence what the text of a schema does not show
contributes nothing, and no built-in type is imported. -/
theorem imports_exact (schema : Schema) :
    (∀ (document : Document) (name : String),
      (schema.resolveIn document name).imports = schema.leaves.flatMap Leaf.imports ∧
      (schema.resolveInlineIn document name).imports =
        schema.leavesInline.flatMap Leaf.imports) ∧
    (∀ (document : Document) (name : String),
      (schema.pruned.resolveIn document name).imports = (schema.resolveIn document name).imports ∧
      (schema.prunedInline.resolveInlineIn document name).imports =
        (schema.resolveInlineIn document name).imports) ∧
    ∀ (document : Document) (name imported : String),
      imported ∈ (schema.resolveIn document name).imports ∨
        imported ∈ (schema.resolveInlineIn document name).imports →
      TypeExpression.primitive? imported = none := by
  have whole : ∀ (schema : Schema) (document : Document) (name : String),
      (schema.resolveIn document name).imports = schema.leaves.flatMap Leaf.imports := by
    intro schema document name
    rw [resolveIn_eq, imports_resolve]
  have inPlace : ∀ (schema : Schema) (document : Document) (name : String),
      (schema.resolveInlineIn document name).imports =
        schema.leavesInline.flatMap Leaf.imports := by
    intro schema document name
    rw [resolveInlineIn_eq, imports_resolveInline (imports_resolve schema name)]
  refine ⟨fun document name => ⟨whole schema document name, inPlace schema document name⟩,
    fun document name => ⟨?_, ?_⟩, fun document name imported mentioned => ?_⟩
  · rw [whole, whole, leaves_pruned]
  · rw [inPlace, inPlace, leavesInline_prunedInline (leaves_pruned schema)]
  · have ofLeaf : ∃ leaf : Leaf, imported ∈ leaf.imports := by
      rw [whole, inPlace, List.mem_flatMap, List.mem_flatMap] at mentioned
      rcases mentioned with ⟨leaf, _, inside⟩ | ⟨leaf, _, inside⟩
      · exact ⟨leaf, inside⟩
      · exact ⟨leaf, inside⟩
    obtain ⟨leaf, inside⟩ := ofLeaf
    cases leaf <;> exact TypeExpression.primitive?_of_mem_imports inside

/-- A model imports each name once exactly if no two of the leaves of its schema import a common
name, and the same holds of a schema in place. -/
theorem nodup_imports_iff (schema : Schema) (document : Document) (name : String) :
    ((schema.resolveIn document name).imports.Nodup ↔
      schema.leaves.Pairwise fun left right => left.imports.Disjoint right.imports) ∧
    ((schema.resolveInlineIn document name).imports.Nodup ↔
      schema.leavesInline.Pairwise fun left right => left.imports.Disjoint right.imports) := by
  have apart : ∀ leaves : List Leaf, (leaves.flatMap Leaf.imports).Nodup ↔
      leaves.Pairwise fun left right => left.imports.Disjoint right.imports := by
    intro leaves
    rw [List.nodup_flatMap]
    refine and_iff_right fun leaf _ => ?_
    cases leaf <;> exact TypeExpression.nodup_imports_ofCharacters _
  rw [resolveIn_eq, resolveInlineIn_eq, imports_resolve,
    imports_resolveInline (imports_resolve schema name)]
  exact ⟨apart _, apart _⟩

end

attribute [local instance] Text.tabulated

/-- An object with two properties that refer to the same definition. -/
def couple : Schema where
  type := some "object"
  properties := some [("left", refer "#/definitions/Pet"), ("right", refer "#/definitions/Pet")]

/-- Both properties import the definition. -/
theorem couple_imports_twice :
    (couple.resolveIn {} "Couple").imports = ["Pet", "Pet"] ∧
      ¬ (couple.resolveIn {} "Couple").imports.Nodup := by
  have leaves : couple.leaves =
      [.reference "#/definitions/Pet", .reference "#/definitions/Pet"] := by
    decide
  have brought : (Leaf.reference "#/definitions/Pet").imports = ["Pet"] := by cbv
  have twice : (couple.resolveIn {} "Couple").imports = ["Pet", "Pet"] := by
    rw [resolveIn_eq, imports_resolve, leaves]
    simp only [List.flatMap_cons, List.flatMap_nil, brought]
    rfl
  rw [twice]
  decide

end Schema

end ApiCatalog
