import ApiCatalog.Proofs.Repetitions
import ApiCatalog.Proofs.TypeNames

/-!
# Imports of types

A type imports the names that its text mentions, each of them once and none of them built in. This
holds of plain names and is kept when a name is applied to arguments.
-/

namespace ApiCatalog.TypeExpression

open Text

/-- Induction on the parts of a name: a generic one has an outer name and arguments, which are
shorter. -/
theorem induction_on_parts {motive : List Char → Prop}
    (whole : ∀ text, split? (trim text) = none → motive text)
    (applied : ∀ text outer inner, split? (trim text) = some (outer, inner) → motive outer →
      (∀ argument ∈ arguments inner, motive argument) → motive text)
    (text : List Char) : motive text := by
  induction size : text.length using Nat.strongRecOn generalizing text with
  | ind length induction =>
      cases split : split? (trim text) with
      | none => exact whole text split
      | some parts =>
          obtain ⟨outer, inner⟩ := parts
          have shorter := lengths_of_split? split
          have trimmed := length_trim_le text
          apply applied text outer inner split
          · exact induction outer.length (by omega) outer rfl
          · intro argument isPart
            have within := length_le_of_mem_arguments isPart
            exact induction argument.length (by omega) argument rfl

/-- What holds of plain names and is kept by application holds of the type of every name. -/
theorem ofCharacters_induction {motive : TypeExpression → Prop} (blank : motive any)
    (plain : ∀ name, motive (ofPlainName name))
    (applied : ∀ outerName outer arguments, motive outer → (∀ argument ∈ arguments, motive argument) →
      motive (apply outerName outer arguments))
    (text : List Char) : motive (ofCharacters text) := by
  induction text using induction_on_parts with
  | whole text whole =>
      rcases ofCharacters_of_whole whole with same | same
      · exact same ▸ blank
      · exact same ▸ plain _
  | applied text outer inner split ofOuter ofArguments =>
      rw [ofCharacters_of_applied split]
      exact applied _ _ _ ofOuter (List.forall_mem_map.mpr ofArguments)

theorem mem_imports_apply {outerName : List Char} {outer : TypeExpression}
    {arguments : List TypeExpression} {imported : String}
    (mentioned : imported ∈ (apply outerName outer arguments).imports) :
    imported ∈ outer.imports ∨ ∃ argument ∈ arguments, imported ∈ argument.imports := by
  rw [← List.mem_flatMap, ← List.mem_append]
  simp only [apply] at mentioned
  split at mentioned
  · exact List.mem_append_right _ (List.mem_eraseDups.mp mentioned)
  · exact List.mem_eraseDups.mp mentioned

/-- No built-in type is imported. -/
theorem primitive?_of_mem_imports {text : List Char} {imported : String}
    (mentioned : imported ∈ (ofCharacters text).imports) : primitive? imported = none := by
  revert mentioned
  refine ofCharacters_induction (motive := fun type =>
    imported ∈ type.imports → primitive? imported = none) ?_ ?_ ?_ text
  · exact fun mentioned => absurd mentioned List.not_mem_nil
  · intro name mentioned
    unfold ofPlainName at mentioned
    split at mentioned
    · exact absurd mentioned List.not_mem_nil
    · rename_i unlisted
      rw [List.mem_singleton.mp mentioned, unlisted]
  · intro outerName outer arguments ofOuter ofArguments mentioned
    rcases mem_imports_apply mentioned with inOuter | ⟨argument, member, inside⟩
    · exact ofOuter inOuter
    · exact ofArguments argument member inside

/-- No name is imported twice. -/
theorem nodup_imports_ofCharacters (text : List Char) : (ofCharacters text).imports.Nodup := by
  refine ofCharacters_induction (motive := fun type => type.imports.Nodup) ?_ ?_ ?_ text
  · exact List.nodup_nil
  · intro name
    unfold ofPlainName
    split
    · exact List.nodup_nil
    · exact List.nodup_singleton _
  · intro outerName outer arguments _ _
    simp only [apply]
    split <;> exact nodup_eraseDups _

end ApiCatalog.TypeExpression
