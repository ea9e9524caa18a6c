import ApiCatalog.Proofs.CamelCase
import ApiCatalog.Proofs.SymbolNames
import ApiCatalog.Text.Spellings
import ApiCatalog.Text.Split

/-!
# Constant names of symbols

The symbol of a text is named with capitals, digits and underscores, and its name does not start
with a digit. The number that sets a taken name apart adds digits only. A number is named with what
is written of it, and the only letter in the text of a number is the mark of its exponent, which
stays small. So every symbol has a constant name unless it is a number with an exponent:
`isConstant_name_iff`.
-/

namespace ApiCatalog

namespace Identifier

open Text

/-- Whether a character may start a constant name. -/
def isConstantStart (character : Char) : Bool :=
  character.isUpper || character == '_'

/-- Whether a character may stand in a constant name. -/
def isConstantPart (character : Char) : Bool :=
  isConstantStart character || character.isDigit

/-- Whether a name is written as constants are. -/
def isConstant : List Char → Bool
  | [] => false
  | first :: rest => isConstantStart first && rest.all isConstantPart

theorem isConstant_append {name : List Char} (nonempty : name ≠ []) (rest : List Char) :
    isConstant (name ++ rest) = (isConstant name && rest.all isConstantPart) := by
  obtain ⟨first, others, rfl⟩ := List.exists_cons_of_ne_nil nonempty
  rw [List.cons_append, isConstant, isConstant, List.all_append, Bool.and_assoc]

theorem isConstantPart_of_isDigit {character : Char} (digit : character.isDigit = true) :
    isConstantPart character = true := by
  rw [isConstantPart, digit, Bool.or_true]

/-- A name that is handed out is a constant name exactly if the requested one is. -/
theorem Distinguished.isConstant_eq {base name : String} {used : List String}
    (distinguished : Distinguished base used name) (nonempty : base.toList ≠ []) :
    isConstant name.toList = isConstant base.toList := by
  cases distinguished with
  | free _ => rfl
  | @numbered number _ _ _ _ =>
      have written : (base ++ toString number).toList = base.toList ++ Nat.toDigits 10 number := by
        simp
      have digits : (Nat.toDigits 10 number).all isConstantPart = true :=
        List.all_eq_true.mpr fun _ member =>
          isConstantPart_of_isDigit (Nat.isDigit_of_mem_toDigits (by decide) (by decide) member)
      rw [written, isConstant_append nonempty, digits, Bool.and_true]

/-! ## Characters of names -/

/-- Joined parts hold what the parts hold, and the separator between them. -/
theorem mem_intercalate_iff {separator : List Char} {character : Char}
    (absent : character ∉ separator) (parts : List (List Char)) :
    character ∈ separator.intercalate parts ↔ character ∈ parts.flatten := by
  cases parts with
  | nil => simp
  | cons part rest =>
      rw [intercalate_cons, List.flatten_cons, List.mem_append, List.mem_append, List.mem_flatMap,
        List.mem_flatten]
      simp only [List.mem_append, absent, false_or]

theorem mem_markCapitals {text : List Char} {character : Char}
    (member : character ∈ markCapitals text) : character = '_' ∨ character ∈ text := by
  fun_induction markCapitals text with
  | case1 first second rest marked induction => grind
  | case2 first second rest unmarked induction => grind
  | case3 short => exact .inr member

theorem isConstantPart_toUpper {character : Char} (alphanumeric : isAlphanumeric character = true) :
    isConstantPart character.toUpper = true := by
  have small : character.toNat < 128 := toNat_lt_of_isAlphanumeric alphanumeric
  revert alphanumeric
  refine of_ascii character small ?_
  decide

theorem toNat_lt_of_isPart {character : Char} (part : Number.isPart character = true) :
    character.toNat < 128 := by
  rcases Bool.or_eq_true_iff.mp part with digit | mark
  · exact toNat_lt_of_isAlphanumeric (by rw [isAlphanumeric, digit, Bool.or_true])
  · revert mark
    simp only [List.contains_iff_mem, List.mem_cons, List.not_mem_nil, or_false]
    rintro (rfl | rfl | rfl | rfl) <;> decide

/-- Of the letters and digits in the text of a number, only the mark of the exponent cannot stand in
a constant name. -/
theorem isConstantPart_of_isPart {character : Char} (part : Number.isPart character = true)
    (alphanumeric : isAlphanumeric character = true) :
    isConstantPart character = true ↔ character ≠ 'e' := by
  have small : character.toNat < 128 := toNat_lt_of_isPart part
  revert part alphanumeric
  refine of_ascii character small ?_
  decide

/-! ## Names of texts -/

variable [Transliteration]

/-- Letters and digits are kept, and nothing is added but underscores. -/
theorem mem_sanitize_iff {text : List Char} {character : Char} (visible : character ≠ '_') :
    character ∈ sanitize text ↔ character ∈ alphanumerics text := by
  rw [sanitize, mem_intercalate_iff (by simpa using visible), runs, flatten_runsOf, alphanumerics]

theorem isConstantPart_of_mem_marked {text : List Char} {character : Char}
    (member : character ∈ (markCapitals (sanitize text)).map Char.toUpper) :
    isConstantPart character = true := by
  obtain ⟨plain, found, rfl⟩ := List.mem_map.mp member
  by_cases visible : plain = '_'
  · rw [visible]
    rfl
  · have inside := (mem_markCapitals found).resolve_left visible
    have kept := (mem_sanitize_iff visible).mp inside
    exact isConstantPart_toUpper (List.mem_filter.mp kept).2

/-- The name of a text is a constant name, whatever the text is. -/
theorem isConstant_symbolName (text : List Char) : isConstant (symbolName text) = true := by
  have parts : ∀ character ∈ (markCapitals (sanitize text)).map Char.toUpper,
      isConstantPart character = true := fun _ => isConstantPart_of_mem_marked
  unfold symbolName
  split
  · rfl
  · rename_i first rest marked
    rw [marked] at parts
    split
    · exact List.all_eq_true.mpr parts
    · rename_i letter
      obtain ⟨here, later⟩ := List.forall_mem_cons.mp parts
      rw [isConstantPart, Bool.eq_false_iff.mpr letter, Bool.or_false] at here
      rw [isConstant, here, List.all_eq_true.mpr later, Bool.and_true]

theorem symbolName_ne_nil (text : List Char) : symbolName text ≠ [] := by
  intro empty
  have constant := isConstant_symbolName text
  rw [empty] at constant
  cases constant

/-! ## Names of numbers -/

theorem all_isConstantPart_sanitize_iff {numeral : List Char} (parts : Number.AllParts numeral) :
    (sanitize numeral).all isConstantPart = true ↔ 'e' ∉ numeral := by
  have same : transliterate numeral = numeral :=
    transliterate_of_ascii fun character member => toNat_lt_of_isPart (parts character member)
  rw [List.all_eq_true]
  constructor
  · intro constant marked
    have kept : 'e' ∈ sanitize numeral := by
      rw [mem_sanitize_iff (by decide), alphanumerics, same]
      exact List.mem_filter.mpr ⟨marked, rfl⟩
    exact absurd (constant 'e' kept) (by decide)
  · intro unmarked character member
    by_cases visible : character = '_'
    · rw [visible]
      rfl
    · rw [mem_sanitize_iff visible, alphanumerics, same] at member
      obtain ⟨inside, alphanumeric⟩ := List.mem_filter.mp member
      refine (isConstantPart_of_isPart (parts character inside) alphanumeric).mpr ?_
      exact fun mark => unmarked (mark ▸ inside)

end Identifier

/-- Whether a value is a number that is written with an exponent. -/
def Literal.hasExponent : Literal → Bool
  | .text _ => false
  | .number numeral => numeral.toList.contains 'e'

namespace Enumeration

open Identifier

section

variable [Transliteration]

theorem isConstant_numberName_iff {numeral : List Char} (parts : Number.AllParts numeral) :
    isConstant (numberName numeral).toList = true ↔ 'e' ∉ numeral := by
  have named (start : String) (size : List Char) (nonempty : start.toList ≠ [])
      (constant : isConstant start.toList = true) (parts : Number.AllParts size) :
      isConstant (start ++ String.ofList (sanitize size)).toList = true ↔ 'e' ∉ size := by
    rw [String.toList_append, String.toList_ofList, isConstant_append nonempty, constant,
      Bool.true_and, all_isConstantPart_sanitize_iff parts]
  unfold numberName
  split
  · rename_i size
    have unsigned : Number.AllParts size := (Number.allParts_cons.mp parts).2
    rw [named "NUM_MINUS_" size (by decide) (by decide) unsigned]
    simp
  · exact named "NUM_" numeral (by decide) (by decide) parts

theorem numberName_ne_nil (numeral : List Char) : (numberName numeral).toList ≠ [] := by
  unfold numberName
  split <;> simp

theorem baseName_ne_nil (value : Literal) : value.baseName.toList ≠ [] := by
  cases value with
  | text content =>
      rw [Literal.baseName, String.toList_ofList]
      exact symbolName_ne_nil content.toList
  | number numeral =>
      exact numberName_ne_nil numeral.toList

theorem isConstant_baseName_iff {value : Literal} (sound : value.WellFormed) :
    isConstant value.baseName.toList = true ↔ value.hasExponent = false := by
  cases value with
  | text content =>
      rw [Literal.baseName, String.toList_ofList, isConstant_symbolName, Literal.hasExponent]
      simp
  | number numeral =>
      have parts : Number.AllParts numeral.toList := sound rfl
      rw [Literal.baseName, isConstant_numberName_iff parts, Literal.hasExponent]
      simp

/-- Every symbol has a constant name, with a number that sets it apart or without, unless it is a
number of a list of literals and is written with an exponent. -/
theorem isConstant_name_iff (literals : List Json) (description : String) :
    (∀ symbol ∈ ofLiterals literals,
      isConstant symbol.name.toList = true ↔ symbol.value.hasExponent = false) ∧
    ∀ symbol ∈ ofDescription description, isConstant symbol.name.toList = true := by
  constructor
  · intro symbol member
    obtain ⟨earlier, later, split⟩ := List.append_of_mem member
    have distinguished := distinguished_ofLiterals split
    have sound := (legible_ofLiterals literals).sound symbol member
    rw [distinguished.isConstant_eq (baseName_ne_nil symbol.value), isConstant_baseName_iff sound]
  · intro symbol member
    obtain ⟨earlier, later, split⟩ := List.append_of_mem member
    obtain ⟨entry, _, distinguished⟩ := distinguished_ofDescription split
    have written : entry.baseName.toList = symbolName entry.meaning := String.toList_ofList
    rw [distinguished.isConstant_eq (written ▸ symbolName_ne_nil entry.meaning), written]
    exact isConstant_symbolName entry.meaning

end

attribute [local instance] Text.tabulated

/-- A text and ten to the sixteenth, the least power of ten that is written with an exponent. -/
def stockAndLarge : List Json :=
  [.string "in stock", .number (.fractional ⟨false, ⟨5000000000000000, 1⟩⟩)]

theorem ofLiterals_stockAndLarge :
    ofLiterals stockAndLarge =
      [⟨"IN_STOCK", .text "in stock"⟩, ⟨"NUM_1e_16", .number "1e+16"⟩] := by
  decide +kernel

theorem isConstant_name_iff_stock :
    (⟨"IN_STOCK", .text "in stock"⟩ : Symbol) ∈ ofLiterals stockAndLarge ∧
      isConstant "IN_STOCK".toList = true := by
  have member : (⟨"IN_STOCK", .text "in stock"⟩ : Symbol) ∈ ofLiterals stockAndLarge := by
    rw [ofLiterals_stockAndLarge]
    exact List.mem_cons_self
  exact ⟨member, ((isConstant_name_iff stockAndLarge "").1 _ member).mpr rfl⟩

/-- The mark of an exponent is a small letter in a name. -/
theorem exponent_name_not_constant :
    (⟨"NUM_1e_16", .number "1e+16"⟩ : Symbol) ∈ ofLiterals stockAndLarge ∧
      isConstant "NUM_1e_16".toList = false := by
  rw [ofLiterals_stockAndLarge]
  exact ⟨List.mem_cons_of_mem _ List.mem_cons_self, rfl⟩

end Enumeration

end ApiCatalog
