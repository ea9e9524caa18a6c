import ApiCatalog.Node.Spelling

/-!
# The tree of a JSON value

A value with the items of lists and the values of members, at any depth, and three things to say of
it: that its numbers are integers, that it is one a program can hold, and how deep it is nested.
-/

namespace ApiCatalog.Json

/-- A value in the tree of another one: that one itself, or one below it. -/
inductive Part (node : Json) : Json → Prop
  | self : Part node node
  | item {items : List Json} {item : Json} :
      item ∈ items → Part node item → Part node (.array items)
  | member {members : List (String × Json)} {member : String × Json} :
      member ∈ members → Part node member.2 → Part node (.object members)

/-- What holds of a value whenever it holds of the values directly below holds of every value. -/
theorem induction_on_parts {motive : Json → Prop} (value : Json) (null : motive .null)
    (boolean : ∀ flag, motive (.boolean flag)) (number : ∀ number, motive (.number number))
    (string : ∀ text, motive (.string text))
    (array : ∀ items, (∀ item ∈ items, motive item) → motive (.array items))
    (object : ∀ members, (∀ member ∈ members, motive (Prod.snd member)) →
      motive (.object members)) : motive value :=
  match value with
  | .null => null
  | .boolean flag => boolean flag
  | .number value => number value
  | .string text => string text
  | .array items => array items fun item _member =>
      induction_on_parts item null boolean number string array object
  | .object members => object members fun (_, value) _present =>
      induction_on_parts value null boolean number string array object
termination_by sizeOf value
decreasing_by
  · have smaller := List.sizeOf_lt_of_mem _member
    simp only [Json.array.sizeOf_spec]
    omega
  · have smaller := List.sizeOf_lt_of_mem _present
    simp only [Prod.mk.sizeOf_spec] at smaller
    simp only [Json.object.sizeOf_spec]
    omega

/-! ## Integers only -/

/-- Every number in a value is an integer. -/
def Whole (value : Json) : Prop :=
  ∀ fraction, ¬ Part (.number (.fractional fraction)) value

@[simp]
theorem whole_null : Json.null.Whole := by
  rintro fraction ⟨⟩

@[simp]
theorem whole_boolean (flag : Bool) : (Json.boolean flag).Whole := by
  rintro fraction ⟨⟩

@[simp]
theorem whole_string (text : String) : (Json.string text).Whole := by
  rintro fraction ⟨⟩

@[simp]
theorem whole_integer (value : Int) : (Json.number (.integer value)).Whole := by
  rintro fraction ⟨⟩

theorem not_whole_fractional (value : Binary64) : ¬ (Json.number (.fractional value)).Whole :=
  fun whole => whole value .self

@[simp]
theorem whole_array {items : List Json} :
    (Json.array items).Whole ↔ ∀ item ∈ items, item.Whole := by
  refine ⟨fun whole item member fraction part => whole fraction (.item member part), ?_⟩
  rintro whole fraction (_ | ⟨member, part⟩)
  exact whole _ member fraction part

@[simp]
theorem whole_object {members : List (String × Json)} :
    (Json.object members).Whole ↔ ∀ member ∈ members, member.2.Whole := by
  refine ⟨fun whole member present fraction part => whole fraction (.member present part), ?_⟩
  rintro whole fraction (_ | _ | ⟨present, part⟩)
  exact whole _ present fraction part

/-! ## Values a program can hold -/

/-- What a program's own types say of a value at its root: an integer has 64 bits, and the members of
an object have different names. -/
def Representable : Json → Prop
  | .number (.integer value) => Spelling.fits value = true
  | .object members => (members.map Prod.fst).Nodup
  | _ => True

/-- Everything in the tree of a value is representable. -/
def WellFormed (value : Json) : Prop :=
  ∀ node, Part node value → node.Representable

@[simp]
theorem wellFormed_null : Json.null.WellFormed := by
  rintro node ⟨⟩
  trivial

@[simp]
theorem wellFormed_boolean (flag : Bool) : (Json.boolean flag).WellFormed := by
  rintro node ⟨⟩
  trivial

@[simp]
theorem wellFormed_string (text : String) : (Json.string text).WellFormed := by
  rintro node ⟨⟩
  trivial

@[simp]
theorem wellFormed_integer {value : Int} :
    (Json.number (.integer value)).WellFormed ↔ Spelling.fits value = true := by
  refine ⟨fun sound => sound _ .self, ?_⟩
  rintro fits node ⟨⟩
  exact fits

@[simp]
theorem wellFormed_fractional (value : Binary64) :
    (Json.number (.fractional value)).WellFormed := by
  rintro node ⟨⟩
  trivial

@[simp]
theorem wellFormed_array {items : List Json} :
    (Json.array items).WellFormed ↔ ∀ item ∈ items, item.WellFormed := by
  refine ⟨fun sound item member node part => sound node (.item member part), ?_⟩
  rintro sound node (_ | ⟨member, part⟩)
  · trivial
  · exact sound _ member node part

@[simp]
theorem wellFormed_object {members : List (String × Json)} :
    (Json.object members).WellFormed ↔
      (members.map Prod.fst).Nodup ∧ ∀ member ∈ members, member.2.WellFormed := by
  refine ⟨fun sound => ⟨sound _ .self, fun member present node part =>
    sound node (.member present part)⟩, ?_⟩
  rintro ⟨distinct, sound⟩ node (_ | _ | ⟨present, part⟩)
  · exact distinct
  · exact sound _ present node part

/-! ## Nesting -/

mutual

/-- How many levels of lists and objects a value is nested. -/
def nesting : Json → Nat
  | .array items => itemsNesting items + 1
  | .object members => membersNesting members + 1
  | .null | .boolean _ | .number _ | .string _ => 0

/-- The most levels that items are nested. -/
def itemsNesting : List Json → Nat
  | [] => 0
  | item :: rest => max item.nesting (itemsNesting rest)

/-- The most levels that the values of members are nested. -/
def membersNesting : List (String × Json) → Nat
  | [] => 0
  | (_, value) :: rest => max value.nesting (membersNesting rest)

end

theorem itemsNesting_le_iff {items : List Json} {depth : Nat} :
    itemsNesting items ≤ depth ↔ ∀ item ∈ items, item.nesting ≤ depth := by
  induction items with
  | nil => simp [itemsNesting]
  | cons item rest induction =>
      rw [itemsNesting, Nat.max_le, induction, List.forall_mem_cons]

theorem membersNesting_le_iff {members : List (String × Json)} {depth : Nat} :
    membersNesting members ≤ depth ↔ ∀ member ∈ members, member.2.nesting ≤ depth := by
  induction members with
  | nil => simp [membersNesting]
  | cons member rest induction =>
      rw [membersNesting, Nat.max_le, induction, List.forall_mem_cons]

/-- The items of a list are nested less deep than the list. -/
theorem nesting_array_le {items : List Json} {depth : Nat}
    (shallow : (Json.array items).nesting ≤ depth) :
    ∃ below, depth = below + 1 ∧ ∀ item ∈ items, item.nesting ≤ below := by
  rw [nesting] at shallow
  obtain ⟨below, rfl⟩ := Nat.exists_eq_add_one_of_ne_zero (n := depth) (by omega)
  exact ⟨below, rfl, itemsNesting_le_iff.mp (Nat.le_of_succ_le_succ shallow)⟩

/-- The values of members are nested less deep than the object. -/
theorem nesting_object_le {members : List (String × Json)} {depth : Nat}
    (shallow : (Json.object members).nesting ≤ depth) :
    ∃ below, depth = below + 1 ∧ ∀ member ∈ members, member.2.nesting ≤ below := by
  rw [nesting] at shallow
  obtain ⟨below, rfl⟩ := Nat.exists_eq_add_one_of_ne_zero (n := depth) (by omega)
  exact ⟨below, rfl, membersNesting_le_iff.mp (Nat.le_of_succ_le_succ shallow)⟩

end ApiCatalog.Json
