import ApiCatalog.Proofs.PointerReading
import ApiCatalog.Proofs.TypeNames

/-!
# Types of references

A reference renders as the name it ends in, whatever it leads to. The name is not looked up in the
document but read as the name of a type. So a definition is known by its name unless a built-in type
has the same name, which then takes its place: `ofPointer_of_leadsTo`.
-/

namespace ApiCatalog

namespace Pointer

/-- The name at a place. -/
def Place.name : Place → String
  | .definition name | .parameter name | .response name => name

/-- A reference ends in the name at the place it points to. -/
theorem targetName_of_place {pointer : String} {place : Place}
    (named : Pointer.place pointer = .ok place) : targetName pointer = place.name := by
  unfold Pointer.place at named
  split at named
  · cases named
  · rename_i part name names
    have ends : targetName pointer = String.ofList name := by
      rw [targetName, names]
      rfl
    rw [ends]
    split at named
    · cases named
      rfl
    · split at named
      · cases named
        rfl
      · split at named
        · cases named
          rfl
        · cases named
  · cases named

end Pointer

namespace TypeExpression

theorem ofPointer_of_place {pointer : String} {place : Pointer.Place}
    (named : Pointer.place pointer = .ok place) : ofPointer pointer = ofName place.name := by
  rw [ofPointer, Pointer.targetName_of_place named]

theorem ofPlainName_eq_iff {name : String} :
    ofPlainName name = ⟨name, name, none, [name]⟩ ↔ primitive? name = none := by
  unfold ofPlainName
  cases primitive? name with
  | none => simp
  | some builtIn => simp

/-- A reference to a definition whose name is a plain identifier renders as the definition, which it
imports, exactly if no built-in type has this name. Otherwise it renders as the built-in type. -/
theorem ofPointer_of_leadsTo {document : Document} {pointer name : String}
    (leads : Pointer.LeadsTo document pointer name)
    (plain : Identifier.isPlain name.toList = true) :
    (ofPointer pointer = ⟨name, name, none, [name]⟩ ↔ primitive? name = none) ∧
      ∀ builtIn, primitive? name = some builtIn →
        ofPointer pointer = ⟨builtIn, builtIn, none, []⟩ := by
  have read : ofPointer pointer = ofName name := ofPointer_of_place leads.1
  constructor
  · rw [read, (simple_of_isPlain plain).ofName_eq]
    exact ofPlainName_eq_iff
  · intro builtIn found
    rw [read]
    exact ofName_of_primitive? found

/-- Two definitions, one with the name of a built-in type. -/
def uploads : Document where
  definitions := ⟨[("Upload", {}), ("File", {})], by decide⟩

theorem ofPointer_of_leadsTo_upload :
    Pointer.LeadsTo uploads "#/definitions/Upload" "Upload" ∧
      Identifier.isPlain "Upload".toList = true ∧
      ofPointer "#/definitions/Upload" = ⟨"Upload", "Upload", none, ["Upload"]⟩ := by
  have leads : Pointer.LeadsTo uploads "#/definitions/Upload" "Upload" :=
    (Pointer.leadsTo_iff (by decide)).mpr (by decide)
  have plain : Identifier.isPlain "Upload".toList = true := by decide
  exact ⟨leads, plain, (ofPointer_of_leadsTo leads plain).1.mpr (by decide)⟩

/-- The built-in type takes the place of a definition of its name. -/
theorem built_in_hides_definition :
    Pointer.LeadsTo uploads "#/definitions/File" "File" ∧
      Identifier.isPlain "File".toList = true ∧
      ofPointer "#/definitions/File" ≠ ⟨"File", "File", none, ["File"]⟩ := by
  have leads : Pointer.LeadsTo uploads "#/definitions/File" "File" :=
    (Pointer.leadsTo_iff (by decide)).mpr (by decide)
  have builtIn : ofPointer "#/definitions/File" = ⟨"File", "File", none, []⟩ := by
    rw [ofPointer_of_place leads.1]
    exact ofName_of_primitive? rfl
  refine ⟨leads, by decide, ?_⟩
  rw [builtIn]
  decide

end TypeExpression

end ApiCatalog
