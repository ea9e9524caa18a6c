import ApiCatalog.Proofs.TypeImports

/-!
# Bases of types

The text of a type starts with its base. What follows shows how the name was read: nothing if it has
no arguments, angle brackets if the base is applied to arguments, and something else if the name, or
a name it is made of, stands for a collection: `shape`. A base is imported unless it is a built-in
type: `base_mem_imports`.
-/

namespace ApiCatalog.TypeExpression

open Text

/-! ## Imported bases -/

/-- The texts of built-in types. -/
def builtIns : List String :=
  ["File", "any", "any[]", "boolean", "number", "string", "void", "null"]

theorem mem_builtIns {name builtIn : String} (found : primitive? name = some builtIn) :
    builtIn ∈ builtIns := by
  unfold primitive? at found
  split at found
  all_goals
    cases found
  all_goals decide

theorem base_mem_imports (text : List Char) :
    (ofCharacters text).base ∈ (ofCharacters text).imports ∨
      (ofCharacters text).base ∈ "" :: builtIns := by
  refine ofCharacters_induction (motive := fun type =>
    type.base ∈ type.imports ∨ type.base ∈ "" :: builtIns) ?_ ?_ ?_ text
  · exact .inr (by decide)
  · intro name
    unfold ofPlainName
    split
    · rename_i builtIn found
      exact .inr (List.mem_cons_of_mem _ (mem_builtIns found))
    · exact .inl List.mem_cons_self
  · intro outerName outer arguments ofOuter ofArguments
    simp only [apply]
    split
    · cases arguments with
      | nil => exact .inr List.mem_cons_self
      | cons first others =>
          refine (ofArguments first List.mem_cons_self).imp_left fun inFirst => ?_
          exact List.mem_eraseDups.mpr (List.mem_flatMap.mpr ⟨first, List.mem_cons_self, inFirst⟩)
    · refine ofOuter.imp_left fun inOuter => ?_
      exact List.mem_eraseDups.mpr (List.mem_append_left _ inOuter)

/-! ## What follows a base -/

/-- The name of a collection, whose arguments are its items. -/
def Collects (name : List Char) : Prop :=
  (ofCharacters name).rendered = "any[]" ∨ String.ofList (trim name) ∈ collections

/-- A name whose base is applied to arguments, in the text of the name or at the start of it. -/
inductive AppliesBase : List Char → Prop
  | base {text outer inner : List Char} (split : split? (trim text) = some (outer, inner))
      (single : ¬ Collects outer) (whole : split? (trim outer) = none) : AppliesBase text
  | outer {text outer inner : List Char} (split : split? (trim text) = some (outer, inner))
      (single : ¬ Collects outer) (applies : AppliesBase outer) : AppliesBase text
  | item {text outer inner first : List Char} {others : List (List Char)}
      (split : split? (trim text) = some (outer, inner)) (collects : Collects outer)
      (items : arguments inner = first :: others) (applies : AppliesBase first) : AppliesBase text

section

variable {text outer inner : List Char} (split : split? (trim text) = some (outer, inner))

include split

theorem appliesBase_of_not_collects (single : ¬ Collects outer) :
    AppliesBase text ↔ split? (trim outer) = none ∨ AppliesBase outer := by
  constructor
  · intro applies
    cases applies with
    | base otherSplit _ whole =>
        cases split.symm.trans otherSplit
        exact .inl whole
    | outer otherSplit _ applies =>
        cases split.symm.trans otherSplit
        exact .inr applies
    | item otherSplit collects =>
        cases split.symm.trans otherSplit
        exact absurd collects single
  · rintro (whole | applies)
    · exact .base split single whole
    · exact .outer split single applies

theorem appliesBase_of_collects (collects : Collects outer) :
    AppliesBase text ↔ ∃ first ∈ (arguments inner).head?, AppliesBase first := by
  constructor
  · intro applies
    cases applies with
    | base otherSplit single | outer otherSplit single =>
        cases split.symm.trans otherSplit
        exact absurd collects single
    | item otherSplit _ items applies =>
        cases split.symm.trans otherSplit
        exact ⟨_, List.head?_eq_some_iff.mpr ⟨_, items⟩, applies⟩
  · rintro ⟨first, isFirst, applies⟩
    obtain ⟨others, items⟩ := List.head?_eq_some_iff.mp isFirst
    exact .item split collects items applies

end

section

variable {outerName : List Char} (arguments : List TypeExpression)

theorem apply_of_collects (collects : Collects outerName) :
    (apply outerName (ofCharacters outerName) arguments).rendered =
        ", ".intercalate (arguments.map rendered) ++ "[]" ∧
      (apply outerName (ofCharacters outerName) arguments).base =
        (arguments.head?.map base).getD "" := by
  have chosen : ((ofCharacters outerName).rendered == "any[]" ||
      collections.contains (String.ofList (trim outerName))) = true := by
    simpa [Collects] using collects
  rw [apply, if_pos chosen]
  exact ⟨rfl, rfl⟩

theorem apply_of_not_collects (single : ¬ Collects outerName) :
    (apply outerName (ofCharacters outerName) arguments).rendered =
        (ofCharacters outerName).rendered ++ "<" ++ ", ".intercalate (arguments.map rendered) ++
          ">" ∧
      (apply outerName (ofCharacters outerName) arguments).base =
        (ofCharacters outerName).base := by
  have chosen : ¬ ((ofCharacters outerName).rendered == "any[]" ||
      collections.contains (String.ofList (trim outerName))) = true := by
    simpa [Collects] using single
  rw [apply, if_neg chosen]
  exact ⟨rfl, rfl⟩

end

/-- What follows the base in the text of a type tells how its name was read. -/
structure Shape (text suffix : List Char) : Prop where
  written : (ofCharacters text).rendered.toList = (ofCharacters text).base.toList ++ suffix
  whole : suffix = [] ↔ split? (trim text) = none
  applies : suffix.head? = some '<' ↔ AppliesBase text
  single : ∀ outer inner, split? (trim text) = some (outer, inner) →
    (suffix.getLast? = some '>' ↔ ¬ Collects outer)

theorem shape_of_whole {text : List Char} (whole : split? (trim text) = none) : Shape text [] where
  written := by
    rcases ofCharacters_of_whole whole with same | same
    · rw [same]
      rfl
    · rw [same, ofPlainName, List.append_nil]
      split <;> rfl
  whole := iff_of_true rfl whole
  applies := by
    refine iff_of_false (by simp) fun applies => ?_
    cases applies with
    | base split | outer split | item split =>
        rw [whole] at split
        cases split
  single outer inner split := by
    rw [whole] at split
    cases split

/-- The text of a list of items goes on with a comma or a bracket after the first one. -/
theorem rendered_items (first : List Char) (others : List (List Char)) :
    ∃ mark rest, mark ≠ '<' ∧
      (", ".intercalate (((first :: others).map ofCharacters).map rendered) ++ "[]").toList =
        (ofCharacters first).rendered.toList ++ (mark :: rest ++ [']']) := by
  rw [String.toList_append, String.toList_intercalate]
  cases others with
  | nil => exact ⟨'[', [], by decide, by simp⟩
  | cons second more =>
      refine ⟨',', ' ' :: ", ".toList.intercalate
        ((((second :: more).map ofCharacters).map rendered).map String.toList) ++ ['['],
        by decide, ?_⟩
      simp [List.intercalate_cons_cons]

/-- The items of a collection come first in its text, and with them their base. -/
theorem shape_of_collects {text outer inner : List Char}
    (split : split? (trim text) = some (outer, inner)) (collects : Collects outer)
    (shapes : ∀ argument ∈ arguments inner, ∃ suffix, Shape argument suffix) :
    ∃ suffix, Shape text suffix := by
  have single (suffix : List Char) : ∀ other inner, split? (trim text) = some (other, inner) →
      ((suffix ++ [']']).getLast? = some '>' ↔ ¬ Collects other) := by
    intro other _ otherSplit
    cases split.symm.trans otherSplit
    exact iff_of_false (by simp) (not_not_intro collects)
  obtain ⟨rendered, base⟩ := apply_of_collects ((arguments inner).map ofCharacters) collects
  rw [← ofCharacters_of_applied split] at rendered base
  cases items : arguments inner with
  | nil =>
      rw [items] at rendered base
      refine ⟨['['] ++ [']'], ?_, ?_, ?_, single ['[']⟩
      · rw [rendered, base]
        rfl
      · rw [split]
        exact iff_of_false nofun nofun
      · rw [appliesBase_of_collects split collects, items]
        exact iff_of_false nofun nofun
  | cons first others =>
      obtain ⟨suffix, shape⟩ := shapes first (items ▸ List.mem_cons_self)
      obtain ⟨mark, rest, unlike, continued⟩ := rendered_items first others
      rw [items] at rendered base
      rw [← rendered] at continued
      refine ⟨suffix ++ mark :: rest ++ [']'], ?_, ?_, ?_, single _⟩
      · rw [continued, base, shape.written]
        simp
      · rw [split]
        simp
      · rw [appliesBase_of_collects split collects, items]
        simp only [List.head?_cons, Option.mem_some, exists_eq_left', ← shape.applies]
        cases suffix with
        | nil => simpa using unlike
        | cons => simp

/-- An application goes on after its outer name. -/
theorem shape_of_not_collects {text outer inner : List Char}
    (split : split? (trim text) = some (outer, inner)) (single : ¬ Collects outer)
    (shape : ∃ suffix, Shape outer suffix) : ∃ suffix, Shape text suffix := by
  obtain ⟨suffix, shape⟩ := shape
  let template := ", ".intercalate (((arguments inner).map ofCharacters).map rendered)
  refine ⟨suffix ++ '<' :: template.toList ++ ['>'], ?_, ?_, ?_, ?_⟩
  · obtain ⟨rendered, base⟩ := apply_of_not_collects ((arguments inner).map ofCharacters) single
    rw [ofCharacters_of_applied split, rendered, base]
    simp [shape.written, template]
  · rw [split]
    simp
  · rw [appliesBase_of_not_collects split single, ← shape.whole, ← shape.applies]
    cases suffix <;> simp
  · intro other _ otherSplit
    cases split.symm.trans otherSplit
    exact iff_of_true (List.getLast?_concat ..) single

theorem shape (text : List Char) : ∃ suffix, Shape text suffix := by
  induction text using induction_on_parts with
  | whole text whole => exact ⟨[], shape_of_whole whole⟩
  | applied text outer inner split ofOuter ofArguments =>
      by_cases collects : Collects outer
      · exact shape_of_collects split collects ofArguments
      · exact shape_of_not_collects split collects ofOuter

/-- A name that stands for its base applied to arguments: a generic one that is not a collection and
whose base is applied at the start of its text. -/
def IsApplied (text : List Char) : Prop :=
  AppliesBase text ∧ ∃ outer inner, split? (trim text) = some (outer, inner) ∧ ¬ Collects outer

theorem split?_eq_none_iff {name : List Char} : split? name = none ↔ ¬ IsGeneric name := by
  rw [← isSome_split?_iff, Option.not_isSome_iff_eq_none]

theorem rendered_eq_base_iff {text : List Char} :
    (ofCharacters text).rendered = (ofCharacters text).base ↔ ¬ IsGeneric (trim text) := by
  obtain ⟨suffix, shape⟩ := shape text
  rw [← split?_eq_none_iff, ← shape.whole, ← String.toList_inj, shape.written,
    List.append_right_eq_self]

/-- The text of a type is its base with arguments in angle brackets exactly if its name stands for
that. -/
theorem rendered_eq_applied_iff {text : List Char} :
    (∃ arguments : String, (ofCharacters text).rendered =
      (ofCharacters text).base ++ "<" ++ arguments ++ ">") ↔ IsApplied text := by
  obtain ⟨suffix, shape⟩ := shape text
  have inside (arguments : String) : (ofCharacters text).rendered =
      (ofCharacters text).base ++ "<" ++ arguments ++ ">" ↔
        suffix = '<' :: arguments.toList ++ ['>'] := by
    rw [← String.toList_inj, shape.written]
    simp
  simp only [inside]
  constructor
  · rintro ⟨arguments, rfl⟩
    have applies := shape.applies.mp rfl
    cases split : split? (trim text) with
    | none => exact absurd (shape.whole.mpr split) nofun
    | some parts =>
        obtain ⟨outer, inner⟩ := parts
        have single := (shape.single outer inner split).mp (List.getLast?_concat ..)
        exact ⟨applies, outer, inner, split, single⟩
  · rintro ⟨applies, outer, inner, split, single⟩
    have first := shape.applies.mpr applies
    have last := (shape.single outer inner split).mpr single
    obtain ⟨rest, rfl⟩ := List.head?_eq_some_iff.mp first
    -- The first and the last mark differ, so that they enclose something, if only nothing.
    obtain ⟨front, ends⟩ := List.getLast?_eq_some_iff.mp last
    cases front with
    | nil => cases ends
    | cons other arguments =>
        obtain ⟨rfl, rfl⟩ := List.cons.inj ends
        exact ⟨String.ofList arguments, by simp⟩

/-- The text of a generic name ends in a bracket. -/
theorem not_isPlain_rendered {text : List Char} (generic : IsGeneric (trim text)) :
    ¬ Identifier.isPlain (ofCharacters text).rendered.toList = true := by
  obtain ⟨⟨outer, inner⟩, split⟩ :=
    Option.isSome_iff_exists.mp (isSome_split?_iff.mpr generic)
  rw [ofCharacters_of_applied split]
  by_cases collects : Collects outer
  · rw [(apply_of_collects _ collects).1]
    exact Identifier.not_isPlain_of_mem (by simp : ']' ∈ _) (by decide)
  · rw [(apply_of_not_collects _ collects).1]
    exact Identifier.not_isPlain_of_mem (by simp : '>' ∈ _) (by decide)

end ApiCatalog.TypeExpression
