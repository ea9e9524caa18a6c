import ApiCatalog.Proofs.CamelCase
import ApiCatalog.Proofs.OperationNames
import ApiCatalog.Text.Spellings

/-!
# Plain names of operations

A name made of a path starts with its method and goes on with letters and digits, and the number that
sets a taken name apart adds digits only. So a name is a plain identifier unless the authors of the
description gave it and its first letter or digit is a digit: `isPlain_name_iff`.
-/

namespace ApiCatalog

namespace Identifier

/-- Letters and digits form a plain identifier unless a digit comes first. -/
theorem isPlain_iff_of_isAlphanumeric {name : List Char}
    (alphanumeric : ∀ character ∈ name, isAlphanumeric character = true) :
    isPlain name = true ↔ name ≠ [] ∧ name.head?.any Char.isDigit = false := by
  cases name with
  | nil => simp [isPlain]
  | cons first rest =>
      have parts : rest.all isPlainPart = true :=
        List.all_eq_true.mpr fun character member =>
          isPlainPart_of_isAlphanumeric (alphanumeric character (List.mem_cons_of_mem first member))
      rw [isPlain, parts, Bool.and_true,
        isPlainStart_of_isAlphanumeric (alphanumeric first List.mem_cons_self)]
      simp

theorem isPlain_append {name rest : List Char} (nonempty : name ≠ [])
    (parts : ∀ character ∈ rest, isPlainPart character = true) :
    isPlain (name ++ rest) = isPlain name := by
  obtain ⟨first, others, rfl⟩ := List.exists_cons_of_ne_nil nonempty
  rw [List.cons_append, isPlain, List.all_append, List.all_eq_true.mpr parts, Bool.and_true,
    isPlain]

/-- A number at its end does not make a text a plain identifier, and does not keep it from being
one. -/
theorem isPlain_append_toDigits (name : List Char) (number : Nat) :
    isPlain (name ++ Nat.toDigits 10 number) = isPlain name := by
  have digits : ∀ character ∈ Nat.toDigits 10 number, character.isDigit = true :=
    fun _ member => Nat.isDigit_of_mem_toDigits (by decide) (by decide) member
  have alphanumeric : ∀ character ∈ Nat.toDigits 10 number, isAlphanumeric character = true := by
    intro character member
    rw [isAlphanumeric, digits character member, Bool.or_true]
  cases name with
  | cons first rest =>
      apply isPlain_append (List.cons_ne_nil first rest)
      intro character member
      exact isPlainPart_of_isAlphanumeric (alphanumeric character member)
  | nil =>
      obtain ⟨first, rest, equation⟩ :=
        List.exists_cons_of_ne_nil (Nat.toDigits_ne_nil (n := number) (b := 10))
      have digit : first.isDigit = true := digits first (equation ▸ List.mem_cons_self)
      have unplain : ¬ isPlain (Nat.toDigits 10 number) = true := by
        rw [isPlain_iff_of_isAlphanumeric alphanumeric, equation]
        simp [digit]
      rw [List.nil_append, Bool.eq_false_iff.mpr unplain, isPlain]

/-- A name that is handed out is a plain identifier exactly if the requested one is. -/
theorem Distinguished.isPlain_eq {base name : String} {used : List String}
    (distinguished : Distinguished base used name) :
    isPlain name.toList = isPlain base.toList := by
  cases distinguished with
  | free _ => rfl
  | @numbered number _ _ _ _ =>
      have written : (base ++ toString number).toList = base.toList ++ Nat.toDigits 10 number := by
        simp
      rw [written, isPlain_append_toDigits]

end Identifier

namespace OperationName

open Identifier

/-! ## Parts of names -/

theorem mem_of_mem_significant {words : List (List Char)} {word : List Char}
    (member : word ∈ significant words) : word ∈ words := by
  unfold significant at member
  split at member
  · exact List.mem_cons_of_mem _ member
  · exact member

theorem forall_mem_intercalate {property : Char → Prop} {separator : List Char}
    {parts : List (List Char)} (between : ∀ character ∈ separator, property character)
    (inside : ∀ part ∈ parts, ∀ character ∈ part, property character) :
    ∀ character ∈ separator.intercalate parts, property character := by
  cases parts with
  | nil => simp
  | cons part rest =>
      obtain ⟨first, later⟩ := List.forall_mem_cons.mp inside
      rw [Text.intercalate_cons]
      intro character member
      rcases List.mem_append.mp member with inFirst | inRest
      · exact first character inFirst
      · obtain ⟨other, inside, member⟩ := List.mem_flatMap.mp inRest
        rcases List.mem_append.mp member with inSeparator | inOther
        · exact between character inSeparator
        · exact later other inside character inOther

theorem isAlphanumeric_of_mem_parameterSuffix {parameters : List (List Char)}
    (alphanumeric : ∀ parameter ∈ parameters, ∀ character ∈ parameter,
      isAlphanumeric character = true) :
    ∀ character ∈ parameterSuffix parameters, isAlphanumeric character = true := by
  have capitalized : ∀ part ∈ parameters.map Text.capitalize, ∀ character ∈ part,
      isAlphanumeric character = true := by
    intro part member
    obtain ⟨parameter, found, rfl⟩ := List.mem_map.mp member
    exact isAlphanumeric_of_mem_capitalize (alphanumeric parameter found)
  have opening : ∀ character ∈ ['B', 'y'], isAlphanumeric character = true :=
    List.all_eq_true.mp rfl
  have between : ∀ character ∈ ['A', 'n', 'd'], isAlphanumeric character = true :=
    List.all_eq_true.mp rfl
  unfold parameterSuffix
  split
  · simp
  · exact List.forall_mem_append.mpr ⟨opening, forall_mem_intercalate between capitalized⟩

/-! ## Requested names -/

variable [Transliteration]

theorem isAlphanumeric_of_mem_literals {path literal : List Char}
    (member : literal ∈ literals path) :
    ∀ character ∈ literal, isAlphanumeric character = true := by
  obtain ⟨segment, _, made⟩ := List.mem_filterMap.mp member
  cases segment with
  | literal text =>
      obtain ⟨same, _⟩ := Option.filter_eq_some_iff.mp made
      rw [← Option.some.inj same]
      exact isAlphanumeric_of_mem_camelCase text
  | parameter name => cases made

theorem isAlphanumeric_of_mem_parameters {path parameter : List Char}
    (member : parameter ∈ parameters path) :
    ∀ character ∈ parameter, isAlphanumeric character = true := by
  obtain ⟨segment, _, made⟩ := List.mem_filterMap.mp member
  cases segment with
  | literal text => cases made
  | parameter name =>
      obtain ⟨same, _⟩ := Option.filter_eq_some_iff.mp made
      rw [← Option.some.inj same]
      exact isAlphanumeric_of_mem_camelCase name

/-- The name made of a path is a plain identifier. -/
theorem isPlain_ofPath (path : String) (method : Method) :
    isPlain (ofPath path method.name).toList = true := by
  have literals : ∀ character ∈ (significant (literals path.toList)).flatMap Text.capitalize,
      isAlphanumeric character = true := by
    intro character member
    obtain ⟨literal, found, inside⟩ := List.mem_flatMap.mp member
    have plain := isAlphanumeric_of_mem_literals (mem_of_mem_significant found)
    exact isAlphanumeric_of_mem_capitalize plain character inside
  have parameters : ∀ character ∈ parameterSuffix (parameters path.toList),
      isAlphanumeric character = true :=
    isAlphanumeric_of_mem_parameterSuffix fun _ => isAlphanumeric_of_mem_parameters
  have start : Text.lowerCase method.name.toList ≠ [] ∧
      isPlain (Text.lowerCase method.name.toList) = true := by
    cases method <;> decide
  rw [ofPath, String.toList_ofList, List.append_assoc, isPlain_append start.1]
  · exact start.2
  · intro character member
    rcases List.mem_append.mp member with inLiterals | inParameters
    · exact isPlainPart_of_isAlphanumeric (literals character inLiterals)
    · exact isPlainPart_of_isAlphanumeric (parameters character inParameters)

/-- The name that an operation asks for is a plain identifier unless its authors gave it and its
first letter or digit is a digit. -/
theorem isPlain_requested_iff (naming : Naming) (path : String) (method : Method)
    (operationId : Option String) :
    isPlain (requested naming path method.name operationId).toList = true ↔
      ¬ (naming = .preferOperationId ∧
        ∃ given, operationId = some given ∧ startsNumeric given.toList = true) := by
  unfold requested
  split
  · rename_i first rest made
    obtain ⟨given, rfl, same⟩ := Option.map_eq_some_iff.mp made
    have alphanumeric := isAlphanumeric_of_mem_camelCase given.toList
    rw [same] at alphanumeric
    rw [String.toList_ofList, isPlain_iff_of_isAlphanumeric alphanumeric, ← same,
      any_isDigit_head?_camelCase, same]
    simp
  · rename_i unnamed
    rw [iff_true_left (isPlain_ofPath path method)]
    rintro ⟨rfl, given, rfl, numeric⟩
    rw [← any_isDigit_head?_camelCase] at numeric
    cases made : camelCase given.toList with
    | nil => simp [made] at numeric
    | cons first rest => exact unnamed first rest rfl (by rw [Option.map_some, made])

end OperationName

namespace Catalog

/-! ## Assigned names -/

section

variable [Transliteration]

/-- An operation gets a name that is distinguished from the names of earlier ones. -/
theorem distinguished_of_mem {document : Document} {naming : Naming} {operation : NamedOperation}
    (member : operation ∈ nameOperations document naming) :
    ∃ used, Identifier.Distinguished (asksFor naming operation) used operation.name := by
  obtain ⟨earlier, later, split⟩ := List.append_of_mem member
  have pairs := zip_nameOperations document naming
  rw [split, List.map_append, List.map_cons] at pairs
  exact ⟨_, Identifier.distinguished_of_zip pairs.symm⟩

theorem method_of_mem {document : Document} {naming : Naming} {operation : NamedOperation}
    (member : operation ∈ nameOperations document naming) :
    ∃ method : Method, operation.method = method.name := by
  rw [nameOperations_eq] at member
  obtain ⟨⟨endpoint, assigned⟩, _, rfl⟩ := List.mem_map.mp member
  exact ⟨endpoint.method, rfl⟩

/-- The name of an operation is a plain identifier, whatever its path is and whether it got a number
or not, unless the name comes from its authors and the first letter or digit they wrote is a
digit. -/
theorem isPlain_name_iff {document : Document} {request : Request} {operation : NamedOperation}
    (member : operation ∈ (generate document request).catalog.operations) :
    Identifier.isPlain operation.name.toList = true ↔
      ¬ (request.naming = .preferOperationId ∧ ∃ given, operation.operationId = some given ∧
        Identifier.startsNumeric given.toList = true) := by
  have named : operation ∈ nameOperations document request.naming := member
  obtain ⟨used, distinguished⟩ := distinguished_of_mem named
  obtain ⟨method, same⟩ := method_of_mem named
  rw [distinguished.isPlain_eq, asksFor, same]
  exact OperationName.isPlain_requested_iff request.naming operation.path method operation.operationId

end

attribute [local instance] Text.tabulated

/-- Two operations that ask for one name, and one whose authors named it with a leading digit. -/
def colliding : Document where
  paths := ⟨[("/users", { get := some {} }), ("/Users", { get := some {} }),
    ("/codes", { get := some { operationId := some "2fa" } })], by decide⟩

theorem isPlain_name_iff_colliding :
    (⟨"getUsers2", "GET", "/Users", none, none⟩ : NamedOperation) ∈
        (generate colliding {}).catalog.operations ∧
      Identifier.isPlain "getUsers2".toList = true := by
  have member : (⟨"getUsers2", "GET", "/Users", none, none⟩ : NamedOperation) ∈
      (generate colliding {}).catalog.operations := by
    change _ ∈ nameOperations colliding .pathDerived
    decide
  refine ⟨member, (isPlain_name_iff member).mpr ?_⟩
  rintro ⟨never, _⟩
  cases never

/-- A name that starts with a digit stays as it is. -/
theorem numeric_name_not_plain :
    (⟨"2Fa", "GET", "/codes", some "2fa", none⟩ : NamedOperation) ∈
        (generate colliding { naming := .preferOperationId }).catalog.operations ∧
      Identifier.isPlain "2Fa".toList = false := by
  constructor
  · change _ ∈ nameOperations colliding .preferOperationId
    decide
  · decide

end Catalog

end ApiCatalog
