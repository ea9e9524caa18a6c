import ApiCatalog.Enumeration
import ApiCatalog.Proofs.Repetitions
import ApiCatalog.Proofs.StrippedTexts
import Mathlib.Data.List.Nodup

/-!
# Texts of enumerations

A rendered literal can be read back: a quote opens a text that ends at the first quote without a
backslash, and anything else is a number. The symbols of an enumeration have different values, so
that its type lists the literals of all of them, and `readUnion_unionType` gives the values back
from the type. In particular it tells texts from numbers that are written alike.
-/

namespace ApiCatalog

/-! ## Numerals -/

namespace Number

/-- Whether a character may stand in the text of a number. -/
def isPart (character : Char) : Bool :=
  character.isDigit || ['-', '+', '.', 'e'].contains character

/-- A text of characters that may stand in the text of a number. -/
def AllParts (text : List Char) : Prop :=
  ∀ character ∈ text, isPart character = true

theorem allParts_append {front back : List Char} :
    AllParts (front ++ back) ↔ AllParts front ∧ AllParts back :=
  List.forall_mem_append

theorem allParts_cons {first : Char} {rest : List Char} :
    AllParts (first :: rest) ↔ isPart first = true ∧ AllParts rest :=
  List.forall_mem_cons

theorem allParts_nil : AllParts [] :=
  List.forall_mem_nil _

theorem AllParts.take {text : List Char} (parts : AllParts text) (count : Nat) :
    AllParts (text.take count) :=
  fun character member => parts character (List.mem_of_mem_take member)

theorem AllParts.drop {text : List Char} (parts : AllParts text) (count : Nat) :
    AllParts (text.drop count) :=
  fun character member => parts character (List.mem_of_mem_drop member)

theorem allParts_toDigits (number : Nat) : AllParts (Nat.toDigits 10 number) := by
  intro digit member
  have decimal := Nat.isDigit_of_mem_toDigits (by decide) (by decide) member
  rw [isPart, decimal, Bool.true_or]

theorem allParts_zeros (count : Nat) : AllParts (List.replicate count '0') := by
  intro zero member
  rw [List.eq_of_mem_replicate member]
  rfl

theorem allParts_decimal (decimal : Decimal) : AllParts decimal.render := by
  have digits := allParts_toDigits decimal.digits
  have zero : AllParts ['0'] := allParts_zeros 1
  unfold Decimal.render
  simp only
  split
  · have padded : AllParts (Nat.toDigits 10 decimal.digits ++
        List.replicate decimal.exponent.toNat '0') :=
      allParts_append.mpr ⟨digits, allParts_zeros _⟩
    refine allParts_append.mpr ⟨padded.take _, allParts_cons.mpr ⟨rfl, ?_⟩⟩
    split
    · exact zero
    · exact padded.drop _
  · split
    · exact allParts_cons.mpr ⟨rfl, allParts_append.mpr
        ⟨allParts_cons.mpr ⟨rfl, allParts_zeros _⟩, digits⟩⟩
    · refine allParts_append.mpr ⟨allParts_append.mpr ⟨digits.take 1, ?_⟩,
        allParts_cons.mpr ⟨rfl, allParts_cons.mpr ⟨?_, allParts_toDigits _⟩⟩⟩
      · split
        · exact allParts_nil
        · exact allParts_cons.mpr ⟨rfl, digits.drop 1⟩
      · split <;> rfl

/-- Numbers are written with digits, signs, a point and the mark of an exponent. -/
theorem allParts_render (number : Number) : AllParts number.render := by
  have signed : ∀ {text}, AllParts text → AllParts ('-' :: text) := fun parts =>
    allParts_cons.mpr ⟨rfl, parts⟩
  cases number with
  | integer value =>
      have digits := allParts_toDigits value.natAbs
      rw [render]
      split
      · exact signed digits
      · exact digits
  | fractional value =>
      have magnitude : AllParts (if value.magnitude.significand = 0 then ['0', '.', '0']
          else (Decimal.stripZeros 17 value.magnitude.shortest).render) := by
        split
        · exact allParts_cons.mpr ⟨rfl, allParts_cons.mpr ⟨rfl, allParts_zeros 1⟩⟩
        · exact allParts_decimal _
      rw [render, Binary64.render]
      split
      · exact signed magnitude
      · exact magnitude

/-- A text that starts with a digit. -/
def StartsDigit (text : List Char) : Prop :=
  ∃ first rest, text = first :: rest ∧ first.isDigit = true

theorem startsDigit_toDigits (number : Nat) : StartsDigit (Nat.toDigits 10 number) := by
  have digits : ∀ digit ∈ Nat.toDigits 10 number, digit.isDigit = true := fun _ member =>
    Nat.isDigit_of_mem_toDigits (by decide) (by decide) member
  cases written : Nat.toDigits 10 number with
  | nil => exact absurd written Nat.toDigits_ne_nil
  | cons first rest => exact ⟨first, rest, rfl, digits first (written ▸ List.mem_cons_self)⟩

theorem startsDigit_decimal (decimal : Decimal) : StartsDigit decimal.render := by
  obtain ⟨first, rest, digits, isDigit⟩ := startsDigit_toDigits decimal.digits
  rw [Decimal.render, digits]
  simp only
  split
  · rename_i positive
    obtain ⟨before, point⟩ := Nat.exists_eq_succ_of_ne_zero
      (show (((first :: rest).length : Int) + decimal.exponent).toNat ≠ 0 by omega)
    rw [point]
    exact ⟨first, _, rfl, isDigit⟩
  · split
    · exact ⟨'0', _, rfl, by decide⟩
    · exact ⟨first, _, rfl, isDigit⟩

/-- The text of a number starts with its sign or with a digit. -/
theorem render_eq_cons (number : Number) :
    ∃ first rest, number.render = first :: rest ∧ (first = '-' ∨ first.isDigit = true) := by
  have signed (text : List Char) : ∃ first rest, '-' :: text = first :: rest ∧
      (first = '-' ∨ first.isDigit = true) :=
    ⟨'-', text, rfl, .inl rfl⟩
  have unsigned {text : List Char} (starts : StartsDigit text) : ∃ first rest,
      text = first :: rest ∧ (first = '-' ∨ first.isDigit = true) := by
    obtain ⟨first, rest, written, isDigit⟩ := starts
    exact ⟨first, rest, written, .inr isDigit⟩
  cases number with
  | integer value =>
      rw [render]
      split
      · exact signed _
      · exact unsigned (startsDigit_toDigits _)
  | fractional value =>
      rw [render, Binary64.render]
      split
      · exact signed _
      · refine unsigned ?_
        split
        · exact ⟨'0', _, rfl, by decide⟩
        · exact startsDigit_decimal _

end Number

namespace Literal

/-! ## Literals -/

/-- The numeral of a number is written as numbers are. -/
def WellFormed (literal : Literal) : Prop :=
  literal.isNumber = true → Number.AllParts literal.content.toList

/-- The content of a quoted text after its opening quote, and what follows its closing one. -/
def unquote : List Char → List Char × List Char
  | [] => ([], [])
  | '\'' :: rest => ([], rest)
  | '\\' :: character :: rest => (character :: (unquote rest).1, (unquote rest).2)
  | character :: rest => (character :: (unquote rest).1, (unquote rest).2)

/-- The literal at the start of a text, and what follows it. -/
def read (written : List Char) : Literal × List Char :=
  if written.head? = some '\'' then
    (.text (String.ofList (unquote written.tail).1), (unquote written.tail).2)
  else
    (.number (String.ofList (written.takeWhile Number.isPart)),
      written.dropWhile Number.isPart)

theorem unquote_plain {character : Char} (unescaped : character ≠ '\\')
    (unquoted : character ≠ '\'') (rest : List Char) :
    unquote (character :: rest) = (character :: (unquote rest).1, (unquote rest).2) := by
  rw [unquote.eq_def]
  split <;> simp_all

theorem unquote_escape (content rest : List Char) :
    unquote (content.flatMap escape ++ '\'' :: rest) = (content, rest) := by
  induction content with
  | nil => rfl
  | cons character content induction =>
      rw [List.flatMap_cons, List.append_assoc]
      by_cases special : (character == '\\' || character == '\'') = true
      · rw [escape, if_pos special, List.cons_append, List.singleton_append, unquote, induction]
      · simp only [Bool.or_eq_true, beq_iff_eq, not_or] at special
        rw [escape, if_neg (by simpa using special), List.singleton_append,
          unquote_plain special.1 special.2, induction]

/-- No literal goes on with a text. -/
def Ends (rest : List Char) : Prop :=
  ∀ next ∈ rest.head?, Number.isPart next = false ∧ next ≠ '\''

theorem ends_nil : Ends [] := by
  simp [Ends]

/-- A rendered literal is read back. -/
theorem read_render {literal : Literal} (sound : literal.WellFormed) {rest : List Char}
    (ends : Ends rest) : read (literal.render.toList ++ rest) = (literal, rest) := by
  cases literal with
  | text content => simp [render, read, unquote_escape]
  | number numeral =>
      have parts : ∀ character ∈ numeral.toList, Number.isPart character = true := sound rfl
      have unquoted : (numeral.toList ++ rest).head? ≠ some '\'' := by
        intro quoted
        rw [List.head?_append, Option.or_eq_some_iff] at quoted
        rcases quoted with inside | ⟨_, after⟩
        · exact absurd (parts _ (List.mem_of_head? inside)) (by decide)
        · exact (ends _ after).2 rfl
      obtain ⟨taken, left⟩ :=
        Text.takeWhile_dropWhile_append parts fun next member => (ends next member).1
      rw [render, read, if_neg unquoted, taken, left, String.ofList_toList]

/-- Different literals are rendered differently. -/
theorem eq_of_render_eq {left right : Literal} (leftSound : left.WellFormed)
    (rightSound : right.WellFormed) (same : left.render = right.render) : left = right := by
  have leftRead := read_render leftSound ends_nil
  have rightRead := read_render rightSound ends_nil
  rw [same, rightRead] at leftRead
  exact (Prod.ext_iff.mp leftRead).1.symm

end Literal

namespace Enumeration

/-! ## Unions -/

/-- As many literals as counted, from a text in which ` | ` stands between them. -/
def readUnion : Nat → List Char → List Literal
  | 0, _ => []
  | count + 1, written =>
      let (literal, rest) := Literal.read written
      literal :: readUnion count (rest.drop " | ".length)

theorem readUnion_intercalate {values : List Literal}
    (sound : ∀ value ∈ values, value.WellFormed) :
    readUnion values.length
      (" | ".toList.intercalate (values.map fun value => value.render.toList)) = values := by
  induction values with
  | nil => rfl
  | cons value rest induction =>
      obtain ⟨here, later⟩ := List.forall_mem_cons.mp sound
      have remaining := induction later
      cases rest with
      | nil =>
          have read := Literal.read_render here Literal.ends_nil
          rw [List.append_nil] at read
          simp [readUnion, read]
      | cons next others =>
          have ends : Literal.Ends (" | ".toList ++ " | ".toList.intercalate
              ((next :: others).map fun value => value.render.toList)) := by
            simp [Literal.Ends, Number.isPart]
          rw [List.map_cons] at ends remaining
          rw [List.map_cons, List.map_cons, List.intercalate_cons_cons, List.append_assoc,
            List.length_cons, readUnion, Literal.read_render here ends]
          exact congrArg (value :: ·) remaining

/-! ## Symbols -/

/-- Symbols with different values, whose numbers are written as numbers are. -/
structure Legible (symbols : List Symbol) : Prop where
  distinct : (symbols.map Symbol.value).Nodup
  sound : ∀ symbol ∈ symbols, symbol.value.WellFormed

theorem mem_distinguish {values : List Literal} {names : List String} {symbols : List Symbol}
    {symbol : Symbol} (member : symbol ∈ distinguish values names symbols) :
    symbol.value ∉ values ∧ symbol.value ∈ symbols.map Symbol.value := by
  induction symbols generalizing values names with
  | nil => simp [distinguish] at member
  | cons first rest induction =>
      rw [List.map_cons]
      rw [distinguish] at member
      split at member
      · exact ⟨(induction member).1, List.mem_cons_of_mem _ (induction member).2⟩
      · rename_i new
        rcases List.mem_cons.mp member with rfl | later
        · exact ⟨by simpa using new, List.mem_cons_self⟩
        · obtain ⟨fresh, present⟩ := induction later
          exact ⟨fun old => fresh (List.mem_cons_of_mem _ old), List.mem_cons_of_mem _ present⟩

theorem nodup_distinguish (values : List Literal) (names : List String) (symbols : List Symbol) :
    ((distinguish values names symbols).map Symbol.value).Nodup := by
  induction symbols generalizing values names with
  | nil => exact List.nodup_nil
  | cons first rest induction =>
      rw [distinguish]
      split
      · exact induction values names
      · refine List.nodup_cons.mpr ⟨fun later => ?_, induction _ _⟩
        obtain ⟨symbol, member, same⟩ := List.mem_map.mp later
        exact (mem_distinguish member).1 (same ▸ List.mem_cons_self)

theorem legible_distinguish {symbols : List Symbol}
    (sound : ∀ symbol ∈ symbols, symbol.value.WellFormed) :
    Legible (distinguish [] [] symbols) := by
  refine ⟨nodup_distinguish [] [] symbols, fun symbol member => ?_⟩
  obtain ⟨other, present, same⟩ := List.mem_map.mp (mem_distinguish member).2
  exact same ▸ sound other present

theorem wellFormed_number (number : Number) :
    (Literal.number (String.ofList number.render)).WellFormed := by
  intro _
  rw [Literal.content, String.toList_ofList]
  exact number.allParts_render

theorem wellFormed_text (content : String) : (Literal.text content).WellFormed := by
  rintro ⟨⟩

theorem legible_ofLiterals [Transliteration] (literals : List Json) :
    Legible (ofLiterals literals) := by
  apply legible_distinguish
  intro symbol member
  obtain ⟨literal, _, made⟩ := List.mem_filterMap.mp member
  cases literal with
  | string content => exact Option.some.inj made ▸ wellFormed_text _
  | boolean flag => exact Option.some.inj made ▸ wellFormed_text _
  | number value => exact Option.some.inj made ▸ wellFormed_number value
  | null | array | object => cases made

theorem legible_ofDescription [Transliteration] (description : String) :
    Legible (ofDescription description) := by
  apply legible_distinguish
  intro symbol member
  obtain ⟨entry, _, made⟩ := List.mem_filterMap.mp member
  obtain ⟨value, _, rfl⟩ := Option.map_eq_some_iff.mp made
  exact wellFormed_number (.integer value)

/-- Every symbol allows one value of its own. -/
theorem Legible.allowedValues {symbols : List Symbol} (legible : Legible symbols) :
    allowedValues symbols = symbols.map fun symbol => symbol.value.render := by
  have distinct : ((symbols.map Symbol.value).map Literal.render).Nodup := by
    refine legible.distinct.map_on fun left leftMember right rightMember same => ?_
    obtain ⟨leftSymbol, leftPresent, rfl⟩ := List.mem_map.mp leftMember
    obtain ⟨rightSymbol, rightPresent, rfl⟩ := List.mem_map.mp rightMember
    exact Literal.eq_of_render_eq (legible.sound _ leftPresent) (legible.sound _ rightPresent) same
  rw [List.map_map] at distinct
  exact Text.eraseDups_of_nodup distinct

/-- The allowed values in a text are the rendered values of the symbols. -/
theorem Legible.toList_intercalate {symbols : List Symbol} (legible : Legible symbols)
    (separator : String) :
    (separator.intercalate (Enumeration.allowedValues symbols)).toList =
      separator.toList.intercalate
        ((symbols.map Symbol.value).map fun value => value.render.toList) := by
  rw [legible.allowedValues, String.toList_intercalate, List.map_map, List.map_map]
  rfl

theorem Legible.sound_values {symbols : List Symbol} (legible : Legible symbols) :
    ∀ value ∈ symbols.map Symbol.value, value.WellFormed :=
  List.forall_mem_map.mpr legible.sound

/-- The type of an enumeration gives the values of its symbols back. -/
theorem Legible.readUnion_unionType {symbols : List Symbol} (legible : Legible symbols) :
    readUnion symbols.length (unionType symbols).toList = symbols.map Symbol.value := by
  have read := readUnion_intercalate legible.sound_values
  rw [List.length_map] at read
  rw [unionType, legible.toList_intercalate]
  exact read

/-- A text and a number with the same content. -/
example : unionType [⟨"_1", .text "1"⟩, ⟨"NUM_1", .number "1"⟩] = "'1' | 1" := by
  decide +kernel

end Enumeration

end ApiCatalog
