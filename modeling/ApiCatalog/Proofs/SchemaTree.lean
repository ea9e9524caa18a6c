import ApiCatalog.Schema

/-!
# The tree of a schema

A schema with the schemas of its items, its properties and its composition, at any depth. The
recursions over a schema read this tree: `mem_pointers_iff` says that every reference in it is
collected, and `isComposed_iff` that composition is found wherever it stands, although the search
does not look into composed schemas.
-/

namespace ApiCatalog

namespace Schema

/-- The schemas directly below a schema. -/
def children (schema : Schema) : List Schema :=
  schema.items.toList ++ schema.declaredProperties.map Prod.snd ++ schema.composition

/-- A schema in the tree of another one: that one itself, or one below it. -/
inductive Part (node : Schema) : Schema → Prop
  | self : Part node node
  | inside {child schema : Schema} :
      child ∈ schema.children → Part node child → Part node schema

theorem items_mem_children {schema items : Schema} (given : schema.items = some items) :
    items ∈ schema.children := by
  simp [children, given]

theorem property_mem_children {schema : Schema} {property : String × Schema}
    (declared : property ∈ schema.declaredProperties) : property.2 ∈ schema.children := by
  have listed : property.2 ∈ schema.declaredProperties.map Prod.snd :=
    List.mem_map_of_mem declared
  simp [children, -List.mem_map, listed]

theorem sizeOf_property_lt {properties : List (String × Schema)} {property : String × Schema}
    (member : property ∈ properties) : sizeOf property.2 < sizeOf properties := by
  have entry := List.sizeOf_lt_of_mem member
  obtain ⟨name, schema⟩ := property
  simp only [Prod.mk.sizeOf_spec] at entry ⊢
  omega

theorem sizeOf_child_lt {child schema : Schema} (member : child ∈ schema.children) :
    sizeOf child < sizeOf schema := by
  obtain ⟨reference, type, format, title, description, enumeration, items, properties, required,
    readOnly, composition⟩ := schema
  simp only [children, declaredProperties, List.mem_append, Option.mem_toList, List.mem_map]
    at member
  rcases member with (isItems | ⟨property, declared, rfl⟩) | composed
  · subst isItems
    simp only [mk.sizeOf_spec, Option.some.sizeOf_spec]
    omega
  · cases properties with
    | none => simp at declared
    | some properties =>
        have smaller := sizeOf_property_lt declared
        simp only [Option.getD_some] at smaller
        simp only [mk.sizeOf_spec, Option.some.sizeOf_spec]
        omega
  · have smaller := List.sizeOf_lt_of_mem composed
    simp only [mk.sizeOf_spec]
    omega

/-- What holds of a schema whenever it holds of the schemas directly below holds of every schema. -/
theorem induction_on_children {motive : Schema → Prop} (schema : Schema)
    (step : ∀ schema : Schema, (∀ child ∈ schema.children, motive child) → motive schema) :
    motive schema :=
  step schema fun child _member => induction_on_children child step
termination_by sizeOf schema
decreasing_by exact sizeOf_child_lt _member

/-! ## References -/

theorem optionPointers_eq (items : Option Schema) :
    optionPointers items = items.toList.flatMap pointers := by
  cases items <;> simp [optionPointers]

theorem entriesPointers_eq (properties : List (String × Schema)) :
    entriesPointers properties = (properties.map Prod.snd).flatMap pointers := by
  induction properties with
  | nil => rfl
  | cons property rest induction =>
      simp only [entriesPointers, induction, List.map_cons, List.flatMap_cons]

theorem propertiesPointers_eq (properties : Option (List (String × Schema))) :
    propertiesPointers properties = ((properties.getD []).map Prod.snd).flatMap pointers := by
  cases properties with
  | none => rfl
  | some properties => exact entriesPointers_eq properties

theorem listPointers_eq (schemas : List Schema) :
    listPointers schemas = schemas.flatMap pointers := by
  induction schemas with
  | nil => rfl
  | cons schema rest induction => simp only [listPointers, induction, List.flatMap_cons]

/-- The references of a schema are its own one and those of the schemas directly below. -/
theorem pointers_eq (schema : Schema) :
    schema.pointers = schema.reference.toList ++ schema.children.flatMap pointers := by
  obtain ⟨reference, type, format, title, description, enumeration, items, properties, required,
    readOnly, composition⟩ := schema
  simp only [pointers, children, declaredProperties, optionPointers_eq, propertiesPointers_eq,
    listPointers_eq, List.flatMap_append, List.append_assoc]

theorem pointers_refer (pointer : String) : (refer pointer).pointers = [pointer] := by
  simp [pointers_eq, refer, children, declaredProperties]

/-- Every reference in the tree of a schema is collected, and no other one. -/
theorem mem_pointers_iff {schema : Schema} {pointer : String} :
    pointer ∈ schema.pointers ↔ ∃ node, Part node schema ∧ node.reference = some pointer := by
  constructor
  · induction schema using induction_on_children with
    | step schema induction =>
        intro collected
        rw [pointers_eq] at collected
        rcases List.mem_append.mp collected with own | below
        · exact ⟨schema, .self, Option.mem_toList.mp own⟩
        · obtain ⟨child, member, deeper⟩ := List.mem_flatMap.mp below
          obtain ⟨node, part, refers⟩ := induction child member deeper
          exact ⟨node, .inside member part, refers⟩
  · rintro ⟨node, part, refers⟩
    induction part with
    | self =>
        rw [pointers_eq]
        exact List.mem_append_left _ (Option.mem_toList.mpr refers)
    | @inside child schema member _ induction =>
        rw [pointers_eq]
        exact List.mem_append_right _ (List.mem_flatMap.mpr ⟨child, member, induction⟩)

/-! ## Composition -/

/-- Some schema in the tree of a schema is composed of others. -/
def Composed (schema : Schema) : Prop :=
  ∃ node, Part node schema ∧ node.composition ≠ []

theorem isOptionComposed_eq (items : Option Schema) :
    isOptionComposed items = items.toList.any isComposed := by
  cases items <;> simp [isOptionComposed]

theorem isEntriesComposed_eq (properties : List (String × Schema)) :
    isEntriesComposed properties = (properties.map Prod.snd).any isComposed := by
  induction properties with
  | nil => rfl
  | cons property rest induction =>
      simp only [isEntriesComposed, induction, List.map_cons, List.any_cons]

theorem isPropertiesComposed_eq (properties : Option (List (String × Schema))) :
    isPropertiesComposed properties = ((properties.getD []).map Prod.snd).any isComposed := by
  cases properties with
  | none => rfl
  | some properties => exact isEntriesComposed_eq properties

/-- Composition is looked for in a schema, its items and its properties, but not in the schemas it
is composed of. -/
theorem isComposed_eq (schema : Schema) :
    schema.isComposed =
      (!schema.composition.isEmpty ||
        (schema.items.toList ++ schema.declaredProperties.map Prod.snd).any isComposed) := by
  obtain ⟨reference, type, format, title, description, enumeration, items, properties, required,
    readOnly, composition⟩ := schema
  simp only [isComposed, declaredProperties, isOptionComposed_eq, isPropertiesComposed_eq,
    List.any_append, Bool.or_assoc]

/-- A schema counts as composed exactly if some schema in its tree is. The schemas it is composed of
need not be searched: if there are any, it is composed itself. -/
theorem isComposed_iff {schema : Schema} : schema.isComposed = true ↔ schema.Composed := by
  constructor
  · induction schema using induction_on_children with
    | step schema induction =>
        intro composed
        rw [isComposed_eq, Bool.or_eq_true] at composed
        rcases composed with own | below
        · exact ⟨schema, .self, by simpa using own⟩
        · obtain ⟨child, searched, deeper⟩ := List.any_eq_true.mp below
          have member : child ∈ schema.children := List.mem_append_left _ searched
          obtain ⟨node, part, nonempty⟩ := induction child member deeper
          exact ⟨node, .inside member part, nonempty⟩
  · rintro ⟨node, part, nonempty⟩
    induction part with
    | self =>
        rw [isComposed_eq, Bool.or_eq_true]
        exact Or.inl (by simpa using nonempty)
    | @inside child schema member _ induction =>
        rw [isComposed_eq, Bool.or_eq_true]
        rcases List.mem_append.mp member with searched | composing
        · exact Or.inr (List.any_eq_true.mpr ⟨child, searched, induction⟩)
        · exact Or.inl (by simpa using List.ne_nil_of_mem composing)

instance (schema : Schema) : Decidable schema.Composed :=
  decidable_of_iff (schema.isComposed = true) isComposed_iff

end Schema

end ApiCatalog
