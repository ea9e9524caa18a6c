import ApiCatalog.Number.Numeral

/-!
# JSON values

Values with members in the order in which they were first written.
-/

namespace ApiCatalog

/-- Named entries in order. Every name stands once. -/
structure Entries (α : Type) where
  /-- The entries. -/
  toList : List (String × α) := []
  /-- Their names differ. -/
  nodup : (toList.map Prod.fst).Nodup := by exact List.nodup_nil
  deriving Repr

namespace Entries

/-- The entry of a name. -/
def find? {α : Type} (entries : Entries α) (name : String) : Option α :=
  entries.toList.lookup name

theorem lookup_eq_some_iff_mem {α : Type} {entries : List (String × α)} {name : String} {value : α}
    (distinct : (entries.map Prod.fst).Nodup) :
    entries.lookup name = some value ↔ (name, value) ∈ entries := by
  induction entries with
  | nil => simp
  | cons entry rest induction =>
      obtain ⟨other, first⟩ := entry
      obtain ⟨absent, distinct⟩ := List.nodup_cons.mp distinct
      by_cases same : name = other
      · subst same
        have onlyFirst : (name, value) ∉ rest := fun later =>
          absent (List.mem_map.mpr ⟨(name, value), later, rfl⟩)
        simp [onlyFirst, eq_comm]
      · have differs : (name == other) = false := by simpa using same
        simp [List.lookup_cons, differs, same, induction distinct]

theorem find?_eq_some_iff {α : Type} {entries : Entries α} {name : String} {value : α} :
    entries.find? name = some value ↔ (name, value) ∈ entries.toList :=
  lookup_eq_some_iff_mem entries.nodup

/-- Sets an entry in a list: a name that is present keeps its place, a new one goes to the end. -/
def setIn {α : Type} (name : String) (value : α) : List (String × α) → List (String × α)
  | [] => [(name, value)]
  | (other, old) :: rest =>
      if other == name then (other, value) :: rest
      else (other, old) :: setIn name value rest

theorem names_setIn {α : Type} (name : String) (value : α) (entries : List (String × α)) :
    (setIn name value entries).map Prod.fst =
      if name ∈ entries.map Prod.fst then entries.map Prod.fst
      else entries.map Prod.fst ++ [name] := by
  induction entries with
  | nil => simp [setIn]
  | cons entry rest induction =>
      obtain ⟨other, old⟩ := entry
      by_cases same : other = name
      · simp [setIn, same]
      · have different : ¬ name = other := fun equal => same equal.symm
        simp only [setIn, beq_iff_eq, if_neg same, List.map_cons, induction, List.mem_cons,
          different, false_or]
        split <;> rfl

theorem nodup_setIn {α : Type} {name : String} {value : α} {entries : List (String × α)}
    (distinct : (entries.map Prod.fst).Nodup) :
    ((setIn name value entries).map Prod.fst).Nodup := by
  rw [names_setIn]
  split
  · exact distinct
  · rename_i absent
    refine List.nodup_append.mpr ⟨distinct, by simp, ?_⟩
    intro other present last isLast equal
    rw [List.mem_singleton.mp isLast] at equal
    exact absent (equal ▸ present)

/-- Sets an entry: a name that is present keeps its place, a new one goes to the end. -/
def set {α : Type} (name : String) (value : α) (entries : Entries α) : Entries α :=
  ⟨setIn name value entries.toList, nodup_setIn entries.nodup⟩

end Entries

/-- A JSON value. -/
inductive Json where
  /-- The null value. -/
  | null
  /-- A truth value. -/
  | boolean (flag : Bool)
  /-- A number. -/
  | number (value : Number)
  /-- A text. -/
  | string (text : String)
  /-- A list of values. -/
  | array (items : List Json)
  /-- Named values in order. -/
  | object (members : List (String × Json))
  deriving Repr

end ApiCatalog
