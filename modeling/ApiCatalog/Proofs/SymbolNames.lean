import ApiCatalog.Proofs.DistinctNames
import ApiCatalog.Proofs.EnumerationText
import ApiCatalog.Text.Spellings

/-!
# Symbols of enumerations

An enumeration keeps every value that its literals, or the codes of its description, have: once, and
in the order in which they come first. The symbols take their names in turn, each the name that its
value would have alone unless an earlier symbol has taken it. Different values are rendered
differently, so that every symbol allows a value of its own: `symbols_exact`.
-/

namespace ApiCatalog

namespace Literal

/-- The value that a literal of a list stands for, if it can be a value of an enumeration. Truth
values count as texts. -/
def ofJson? : Json → Option Literal
  | .string content => some (.text content)
  | .boolean true => some (.text "true")
  | .boolean false => some (.text "false")
  | .number value => some (.number (String.ofList value.render))
  | .null | .array _ | .object _ => none

/-- The name of a value that no other one has. -/
def baseName [Transliteration] : Literal → String
  | .text content => String.ofList (Identifier.symbolName content.toList)
  | .number numeral => Enumeration.numberName numeral.toList

end Literal

namespace Enumeration

open Identifier

/-- The value that an entry of a description stands for, if its code is one. -/
def Entry.value? (entry : Entry) : Option Literal :=
  (codeValue? entry.code).map fun value => .number (String.ofList (Number.integer value).render)

/-! ## Values -/

/-- Of the values that are not known yet, each is kept once. -/
theorem map_value_distinguish (values : List Literal) (names : List String)
    (symbols : List Symbol) :
    (distinguish values names symbols).map Symbol.value =
      ((symbols.map Symbol.value).filter fun value => !values.contains value).eraseDups := by
  induction symbols generalizing values names with
  | nil => rfl
  | cons first rest induction =>
      rw [distinguish, List.map_cons]
      split
      · rename_i known
        rw [induction, List.filter_cons_of_neg (by simpa using known)]
      · rename_i new
        rw [List.map_cons, induction, List.filter_cons_of_pos (by simpa using new),
          List.eraseDups_cons, List.filter_filter]
        congr 3
        funext value
        rw [List.contains_cons, Bool.not_or]

/-! ## Names -/

/-- What is handed out at one place: the first symbol with the value is named beside those before. -/
theorem distinguished_of_split {values : List Literal} {names : List String}
    {symbols earlier later : List Symbol} {symbol : Symbol}
    (split : distinguish values names symbols = earlier ++ symbol :: later) :
    ∃ first, symbols.find? (fun other => other.value == symbol.value) = some first ∧
      Distinguished first.name (earlier.map Symbol.name ++ names) symbol.name := by
  have fresh : symbol.value ∉ values :=
    (mem_distinguish (split ▸ List.mem_append_right _ List.mem_cons_self)).1
  induction symbols generalizing values names earlier with
  | nil => simp [distinguish] at split
  | cons first rest induction =>
      rw [distinguish] at split
      split at split
      · rename_i known
        obtain ⟨candidate, found, distinguished⟩ := induction split fresh
        have differs : first.value ≠ symbol.value := fun same =>
          fresh (same ▸ List.contains_iff_mem.mp known)
        exact ⟨candidate, by simpa [differs] using found, distinguished⟩
      · cases earlier with
        | nil =>
            obtain ⟨rfl, -⟩ := List.cons.inj split
            exact ⟨first, List.find?_cons_of_pos (beq_self_eq_true _),
              distinguished_distinguish first.name names⟩
        | cons taken earlier =>
            rw [List.cons_append] at split
            obtain ⟨rfl, tail⟩ := List.cons.inj split
            have unseen : symbol.value ∉ first.value :: values :=
              (mem_distinguish (tail ▸ List.mem_append_right _ List.mem_cons_self)).1
            have differs : first.value ≠ symbol.value := fun same =>
              unseen (same ▸ List.mem_cons_self)
            obtain ⟨candidate, found, distinguished⟩ := induction tail unseen
            refine ⟨candidate, by simpa [differs] using found, ?_⟩
            -- The name just taken is a used one for the rest, so the lists agree as sets only.
            refine distinguished.congr fun other => ?_
            simp only [List.map_cons, List.cons_append, List.mem_append, List.mem_cons]
            tauto

theorem nodup_names_distinguish (values : List Literal) (names : List String)
    (symbols : List Symbol) : ((distinguish values names symbols).map Symbol.name).Nodup := by
  induction symbols generalizing values names with
  | nil => exact List.nodup_nil
  | cons first rest induction =>
      rw [distinguish]
      split
      · exact induction values names
      · refine List.nodup_cons.mpr ⟨fun later => ?_, induction _ _⟩
        obtain ⟨symbol, member, same⟩ := List.mem_map.mp later
        obtain ⟨earlier, others, split⟩ := List.append_of_mem member
        obtain ⟨_, _, distinguished⟩ := distinguished_of_split split
        exact distinguished.not_mem (List.mem_append_right _ (same ▸ List.mem_cons_self))

/-! ## Symbols -/

section

variable [Transliteration]

/-- The name of an entry that no other one has. -/
def Entry.baseName (entry : Entry) : String :=
  String.ofList (symbolName entry.meaning)

theorem literalSymbol?_eq (literal : Json) :
    literalSymbol? literal =
      (Literal.ofJson? literal).map fun value => ⟨value.baseName, value⟩ := by
  cases literal with
  | boolean flag => cases flag <;> rfl
  | number value =>
      rw [literalSymbol?, Literal.ofJson?, Option.map_some, Literal.baseName, String.toList_ofList]
  | null | string | array | object => rfl

theorem entrySymbol?_eq (entry : Entry) :
    entrySymbol? entry = entry.value?.map fun value => ⟨entry.baseName, value⟩ := by
  rw [entrySymbol?, Entry.value?, Option.map_map]
  rfl

theorem values_ofLiterals (literals : List Json) :
    (ofLiterals literals).map Symbol.value = (literals.filterMap Literal.ofJson?).eraseDups := by
  have values : (literals.filterMap literalSymbol?).map Symbol.value =
      literals.filterMap Literal.ofJson? := by
    rw [List.map_filterMap]
    refine List.filterMap_congr fun literal _ => ?_
    rw [literalSymbol?_eq, Option.map_map]
    exact Option.map_id'
  rw [ofLiterals, map_value_distinguish, values]
  simp

theorem values_ofDescription (description : String) :
    (ofDescription description).map Symbol.value =
      ((entries description.toList).filterMap Entry.value?).eraseDups := by
  have values : ((entries description.toList).filterMap entrySymbol?).map Symbol.value =
      (entries description.toList).filterMap Entry.value? := by
    rw [List.map_filterMap]
    refine List.filterMap_congr fun entry _ => ?_
    rw [entrySymbol?_eq, Option.map_map]
    exact Option.map_id'
  rw [ofDescription, map_value_distinguish, values]
  simp

/-- A symbol of a literal has the name of its value beside the symbols before it. -/
theorem distinguished_ofLiterals {literals : List Json} {earlier later : List Symbol}
    {symbol : Symbol} (split : ofLiterals literals = earlier ++ symbol :: later) :
    Distinguished symbol.value.baseName (earlier.map Symbol.name) symbol.name := by
  obtain ⟨first, found, distinguished⟩ := distinguished_of_split split
  have same : first.value = symbol.value := by simpa using List.find?_some found
  obtain ⟨literal, _, made⟩ := List.mem_filterMap.mp (List.mem_of_find?_eq_some found)
  rw [literalSymbol?_eq] at made
  obtain ⟨value, _, rfl⟩ := Option.map_eq_some_iff.mp made
  rw [List.append_nil] at distinguished
  exact same ▸ distinguished

/-- A symbol of a description has the name of the first entry with its code. -/
theorem distinguished_ofDescription {description : String} {earlier later : List Symbol}
    {symbol : Symbol} (split : ofDescription description = earlier ++ symbol :: later) :
    ∃ entry, (entries description.toList).find? (fun entry => entry.value? == some symbol.value) =
        some entry ∧
      Distinguished entry.baseName (earlier.map Symbol.name) symbol.name := by
  obtain ⟨first, found, distinguished⟩ := distinguished_of_split split
  rw [List.append_nil] at distinguished
  have test : (fun entry => (entrySymbol? entry).any fun other => other.value == symbol.value) =
      fun entry => entry.value? == some symbol.value := by
    funext entry
    rw [entrySymbol?_eq]
    cases entry.value? <;> rfl
  rw [List.find?_filterMap, test] at found
  obtain ⟨entry, located, made⟩ := Option.bind_eq_some_iff.mp found
  rw [entrySymbol?_eq] at made
  obtain ⟨value, _, rfl⟩ := Option.map_eq_some_iff.mp made
  exact ⟨entry, located, distinguished⟩

/-- The symbols of literals, and those of a description: their values are the ones found, each once
and in order, their names are distinct, each of them the name of its value unless an earlier symbol
has taken it, and they allow one rendered value each, all of them different. In a description the
first entry with a code gives the name. -/
theorem symbols_exact :
    (∀ literals : List Json,
      let symbols := ofLiterals literals
      symbols.map Symbol.value = (literals.filterMap Literal.ofJson?).eraseDups ∧
      (symbols.map Symbol.name).Nodup ∧
      (∀ earlier symbol later, symbols = earlier ++ symbol :: later →
        Distinguished symbol.value.baseName (earlier.map Symbol.name) symbol.name) ∧
      allowedValues symbols = symbols.map (fun symbol => symbol.value.render) ∧
      (allowedValues symbols).Nodup) ∧
    ∀ description : String,
      let symbols := ofDescription description
      let found := entries description.toList
      symbols.map Symbol.value = (found.filterMap Entry.value?).eraseDups ∧
      (symbols.map Symbol.name).Nodup ∧
      (∀ earlier symbol later, symbols = earlier ++ symbol :: later →
        ∃ entry, found.find? (fun entry => entry.value? == some symbol.value) = some entry ∧
          Distinguished entry.baseName (earlier.map Symbol.name) symbol.name) ∧
      allowedValues symbols = symbols.map (fun symbol => symbol.value.render) ∧
      (allowedValues symbols).Nodup := by
  constructor
  · intro literals
    exact ⟨values_ofLiterals literals, nodup_names_distinguish _ _ _,
      fun _ _ _ split => distinguished_ofLiterals split,
      (legible_ofLiterals literals).allowedValues, Text.nodup_eraseDups _⟩
  · intro description
    exact ⟨values_ofDescription description, nodup_names_distinguish _ _ _,
      fun _ _ _ split => distinguished_ofDescription split,
      (legible_ofDescription description).allowedValues, Text.nodup_eraseDups _⟩

end

attribute [local instance] Text.tabulated

/-- A suffix that an earlier value has as its own name, and a truth value that is listed as a
text before. -/
example :
    (ofLiterals [.string "a", .string "A", .string "A2", .boolean true, .string "true"]).map
      Symbol.name = ["A", "A2", "A22", "TRUE"] := by
  decide +kernel

end Enumeration

end ApiCatalog
