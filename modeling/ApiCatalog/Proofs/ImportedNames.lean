import ApiCatalog.Proofs.TypeImports

/-!
# Imported names

Whatever a text looks like, it is rendered as a type. A generic name is taken apart into texts that
are shorter parts of it, however its brackets and commas stand, and so on until none of them is
generic: `isInfix_of_mem_constituents`. The names that remain are what the type imports, unless they
are built in. All of this is `ofName_well_behaved`.
-/

namespace ApiCatalog.TypeExpression

open Text

/-! ## Constituents -/

theorem isInfix_of_split? {name outer inner : List Char}
    (split : split? name = some (outer, inner)) : outer <:+: name ∧ inner <:+: name := by
  rw [split?] at split
  split at split
  · cases split
  · obtain ⟨last, _, found⟩ := Option.bind_eq_some_iff.mp split
    obtain ⟨opening, final, _, _, _, whole⟩ := splitAt?_sound found
    rw [List.reverse_nil, List.nil_append] at whole
    rw [whole]
    exact ⟨(List.prefix_append _ _).isInfix, outer ++ [opening], [final], by simp⟩

/-- The first part stands at the start of the text, and the others stand behind it. -/
theorem isInfix_of_splitCommas {depth : Nat} {text first : List Char} {others : List (List Char)}
    (split : splitCommas depth text = first :: others) :
    first <+: text ∧ ∀ part ∈ others, part <:+: text := by
  induction text generalizing depth first others with
  | nil =>
      obtain ⟨rfl, rfl⟩ := List.cons.inj split
      exact ⟨List.prefix_refl [], List.forall_mem_nil _⟩
  | cons character rest induction =>
      have behind {part : List Char} (inside : part <:+: rest) : part <:+: character :: rest :=
        inside.trans (List.suffix_cons character rest).isInfix
      rw [splitCommas] at split
      split at split
      · obtain ⟨rfl, rfl⟩ := List.cons.inj split
        refine ⟨List.nil_prefix, fun part member => behind ?_⟩
        cases later : splitCommas 0 rest with
        | nil => simp [later] at member
        | cons next more =>
            obtain ⟨starts, inside⟩ := induction later
            rw [later] at member
            rcases List.mem_cons.mp member with rfl | member
            · exact starts.isInfix
            · exact inside part member
      · split at split
        · obtain ⟨rfl, rfl⟩ := List.cons.inj split
          exact ⟨List.prefix_append [character] rest, List.forall_mem_nil _⟩
        · rename_i next more later
          obtain ⟨rfl, rfl⟩ := List.cons.inj split
          obtain ⟨starts, inside⟩ := induction later
          exact ⟨List.cons_prefix_cons.mpr ⟨rfl, starts⟩, fun part member =>
            behind (inside part member)⟩

theorem isInfix_of_mem_arguments {inner argument : List Char}
    (member : argument ∈ arguments inner) : argument <:+: inner := by
  simp only [arguments, List.mem_filter, List.mem_map] at member
  obtain ⟨⟨part, found, rfl⟩, _⟩ := member
  refine (isInfix_trim part).trans ?_
  cases split : splitCommas 0 inner with
  | nil => simp [split] at found
  | cons first others =>
      obtain ⟨starts, inside⟩ := isInfix_of_splitCommas split
      rw [split] at found
      rcases List.mem_cons.mp found with rfl | member
      · exact starts.isInfix
      · exact inside part member

/-- The texts that are rendered to render a text: the outer name and the arguments of a generic
one, and none of any other. -/
def constituents (text : List Char) : List (List Char) :=
  match split? (trim text) with
  | some (outer, inner) => outer :: arguments inner
  | none => []

theorem ofCharacters_eq_constituents (text : List Char) :
    ofCharacters text =
      if trim text = [] then any
      else
        match constituents text with
        | outer :: others => apply outer (ofCharacters outer) (others.map ofCharacters)
        | [] => ofPlainName (String.ofList (trim text)) := by
  rw [ofCharacters_eq, constituents]
  cases split? (trim text) <;> rfl

/-- Constituents are shorter parts of the text. -/
theorem isInfix_of_mem_constituents {text part : List Char} (member : part ∈ constituents text) :
    part <:+: text ∧ part.length < text.length := by
  unfold constituents at member
  split at member
  · rename_i outer inner split
    obtain ⟨outerInside, innerInside⟩ := isInfix_of_split? split
    have shorter := lengths_of_split? split
    have trimmed := length_trim_le text
    rcases List.mem_cons.mp member with rfl | member
    · exact ⟨outerInside.trans (isInfix_trim text), by omega⟩
    · have within := length_le_of_mem_arguments member
      exact ⟨(isInfix_of_mem_arguments member).trans (innerInside.trans (isInfix_trim text)),
        by omega⟩
  · cases member

/-! ## Imports -/

/-- A name as it stands in a text, with nothing around it and nothing to take apart. -/
structure Importable (text : List Char) (imported : String) : Prop where
  nonempty : imported ≠ ""
  trimmed : trim imported.toList = imported.toList
  part : imported.toList <:+: text
  whole : ¬ IsGeneric imported.toList

theorem importable_ofPlainName {text : List Char} {imported : String} (nonempty : trim text ≠ [])
    (whole : split? (trim text) = none)
    (mentioned : imported ∈ (ofPlainName (String.ofList (trim text))).imports) :
    Importable text imported := by
  unfold ofPlainName at mentioned
  split at mentioned
  · cases mentioned
  · obtain rfl := List.mem_singleton.mp mentioned
    have same : (String.ofList (trim text)).toList = trim text := String.toList_ofList
    refine ⟨?_, ?_, ?_, ?_⟩
    · intro empty
      rw [empty] at same
      exact nonempty same.symm
    · rw [same, trim_trim]
    · rw [same]
      exact isInfix_trim text
    · rw [same, ← isSome_split?_iff, whole]
      nofun

theorem Importable.of_isInfix {text part : List Char} {imported : String} (inside : part <:+: text)
    (importable : Importable part imported) : Importable text imported :=
  { importable with part := importable.part.trans inside }

/-- Every import is a name as it stands in the text. -/
theorem importable_of_mem_imports {text : List Char} {imported : String}
    (mentioned : imported ∈ (ofCharacters text).imports) : Importable text imported := by
  induction text using induction_on_parts with
  | whole text whole =>
      rw [ofCharacters_eq, whole] at mentioned
      split at mentioned
      · cases mentioned
      · rename_i nonempty
        exact importable_ofPlainName nonempty whole mentioned
  | applied text outer inner split ofOuter ofArguments =>
      have inside {part : List Char} (member : part ∈ outer :: arguments inner) :
          part <:+: text := by
        apply And.left
        apply isInfix_of_mem_constituents
        rwa [constituents, split]
      rw [ofCharacters_of_applied split] at mentioned
      rcases mem_imports_apply mentioned with inOuter | ⟨type, member, inType⟩
      · exact (ofOuter inOuter).of_isInfix (inside List.mem_cons_self)
      · obtain ⟨argument, isArgument, rfl⟩ := List.mem_map.mp member
        exact (ofArguments argument isArgument inType).of_isInfix
          (inside (List.mem_cons_of_mem outer isArgument))

/-! ## Templates -/

/-- Rendered arguments stand in angle brackets at the end of the type. -/
theorem rendered_of_template {text : List Char} {template : String}
    (applied : (ofCharacters text).template = some template) :
    ∃ before, (ofCharacters text).rendered = before ++ "<" ++ template ++ ">" := by
  revert applied
  refine ofCharacters_induction (motive := fun type =>
    type.template = some template → ∃ before, type.rendered = before ++ "<" ++ template ++ ">")
    nofun ?_ ?_ text
  · intro name applied
    unfold ofPlainName at applied
    split at applied <;> cases applied
  · intro outerName outer arguments _ _ applied
    simp only [apply] at applied ⊢
    split at applied
    · cases applied
    · rename_i single
      obtain rfl := Option.some.inj applied
      rw [if_neg single]
      exact ⟨outer.rendered, rfl⟩

/-- Every text has a type: it takes the types of its constituents to make it, and those are shorter
than the text. An imported name is a part of the text, without blanks around it, that is neither
built in nor generic, and it is imported once. The template of a type is what stands in angle
brackets at its end. -/
theorem ofName_well_behaved (name : String) :
    (∀ text,
      ofCharacters text =
        (if trim text = [] then any
        else
          match constituents text with
          | outer :: others => apply outer (ofCharacters outer) (others.map ofCharacters)
          | [] => ofPlainName (String.ofList (trim text))) ∧
      ∀ part ∈ constituents text, part.length < text.length) ∧
    (∀ imported ∈ (ofName name).imports,
      imported ≠ "" ∧ trim imported.toList = imported.toList ∧ imported.toList <:+: name.toList ∧
        primitive? imported = none ∧ ¬ IsGeneric imported.toList) ∧
    (ofName name).imports.Nodup ∧
    ∀ template, (ofName name).template = some template →
      ∃ before, (ofName name).rendered = before ++ "<" ++ template ++ ">" := by
  refine ⟨fun text => ⟨ofCharacters_eq_constituents text, ?_⟩, ?_, ?_, ?_⟩
  · exact fun part member => (isInfix_of_mem_constituents member).2
  · intro imported mentioned
    have importable : Importable name.toList imported := importable_of_mem_imports mentioned
    exact ⟨importable.nonempty, importable.trimmed, importable.part,
      primitive?_of_mem_imports mentioned, importable.whole⟩
  · exact nodup_imports_ofCharacters name.toList
  · exact fun template applied => rendered_of_template applied

end ApiCatalog.TypeExpression
