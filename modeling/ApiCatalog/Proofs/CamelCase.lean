import ApiCatalog.Proofs.Runs
import Mathlib

/-!
# Camel-case names

Cutting a text into words loses none of its letters and digits, and joining the words changes only
the case of letters. So a camel-case name holds the letters and digits of the transliterated text,
in their order: `toLower_camelCase`. It starts with a digit exactly if they do.
-/

namespace ApiCatalog.Identifier

open Text

/-! ## Letters and digits -/

theorem toNat_lt_of_isAlphanumeric {character : Char}
    (alphanumeric : isAlphanumeric character = true) : character.toNat < 128 := by
  simp only [isAlphanumeric, Char.isAlpha, Char.isUpper, Char.isLower, Char.isDigit,
    Bool.or_eq_true, Bool.and_eq_true, decide_eq_true_eq, ge_iff_le, UInt32.le_iff_toNat_le]
    at alphanumeric
  change character.val.toNat < 128
  have bounds : 'Z'.val.toNat = 90 ∧ 'z'.val.toNat = 122 ∧ '9'.val.toNat = 57 := by decide
  omega

theorem isAlphanumeric_of_isLower {character : Char} (lower : character.isLower = true) :
    isAlphanumeric character = true := by
  rw [isAlphanumeric, Char.isAlpha, lower, Bool.or_true, Bool.true_or]

@[elab_as_elim]
theorem of_ascii {property : Char → Prop} (character : Char) (small : character.toNat < 128)
    (checked : ∀ code < 128, property (Char.ofNat code)) : property character := by
  have here := checked character.toNat small
  rwa [Char.ofNat_toNat] at here

theorem isPlainPart_of_isAlphanumeric {character : Char}
    (alphanumeric : isAlphanumeric character = true) : isPlainPart character = true := by
  simp only [isAlphanumeric, Bool.or_eq_true] at alphanumeric
  simp only [isPlainPart, isPlainStart, Bool.or_eq_true]
  tauto

theorem isPlainStart_of_isAlphanumeric {character : Char}
    (alphanumeric : isAlphanumeric character = true) :
    isPlainStart character = !character.isDigit := by
  have small : character.toNat < 128 := toNat_lt_of_isAlphanumeric alphanumeric
  revert alphanumeric
  refine of_ascii character small ?_
  decide

theorem isDigit_toLower (character : Char) : character.toLower.isDigit = character.isDigit := by
  by_cases capital : character.isUpper = true
  · have small : character.toNat < 128 :=
      toNat_lt_of_isAlphanumeric (by simp [isAlphanumeric, Char.isAlpha, capital])
    refine of_ascii character small ?_
    decide
  · rw [Char.toLower_eq_of_not_isUpper capital]

theorem isAlphanumeric_toLower (character : Char) :
    isAlphanumeric character.toLower = isAlphanumeric character := by
  rw [isAlphanumeric, Char.isAlpha_toLower_eq_isAlpha, isDigit_toLower, isAlphanumeric]

/-- The upper case of a letter or digit is one character. -/
theorem upperCase_of_isAlphanumeric {character : Char}
    (alphanumeric : isAlphanumeric character = true) :
    upperCase character = [character.toUpper] := by
  rw [upperCase, if_pos (toNat_lt_of_isAlphanumeric alphanumeric)]

theorem toLower_capitalize {word : List Char}
    (alphanumeric : ∀ character ∈ word, isAlphanumeric character = true) :
    (capitalize word).map Char.toLower = word.map Char.toLower := by
  cases word with
  | nil => rfl
  | cons first rest =>
      rw [capitalize, upperCase_of_isAlphanumeric (alphanumeric first List.mem_cons_self),
        List.singleton_append, List.map_cons, List.map_cons, Char.toLower_toUpper_eq_toLower]

theorem isAlphanumeric_of_toLower_eq {text other : List Char}
    (same : text.map Char.toLower = other.map Char.toLower)
    (alphanumeric : ∀ character ∈ other, isAlphanumeric character = true) :
    ∀ character ∈ text, isAlphanumeric character = true := by
  intro character member
  have lowered : character.toLower ∈ other.map Char.toLower := same ▸ List.mem_map_of_mem member
  obtain ⟨counterpart, found, equal⟩ := List.mem_map.mp lowered
  rw [← isAlphanumeric_toLower, ← equal, isAlphanumeric_toLower]
  exact alphanumeric counterpart found

theorem isAlphanumeric_of_mem_capitalize {word : List Char}
    (alphanumeric : ∀ character ∈ word, isAlphanumeric character = true) :
    ∀ character ∈ capitalize word, isAlphanumeric character = true :=
  isAlphanumeric_of_toLower_eq (toLower_capitalize alphanumeric) alphanumeric

/-! ## Words -/

theorem flatten_wordsOfRun (run : List Char) : (wordsOfRun run).flatten = run := by
  induction run with
  | nil => rfl
  | cons first rest induction =>
      cases rest with
      | nil => rfl
      | cons second more =>
          rw [wordsOfRun]
          split
          · rename_i none
            rw [none] at induction
            cases induction
          · rename_i word words equation
            rw [equation] at induction
            rw [← induction]
            split <;> rfl

/-- The words of a text that is spelled in ASCII. -/
def wordsOf (spelled : List Char) : List (List Char) :=
  (runsOf isAlphanumeric spelled).flatMap wordsOfRun

/-- Words hold the letters and digits of what they are cut from. -/
theorem flatten_wordsOf (spelled : List Char) :
    (wordsOf spelled).flatten = spelled.filter isAlphanumeric := by
  rw [← flatten_runsOf, wordsOf]
  induction runsOf isAlphanumeric spelled with
  | nil => rfl
  | cons run rest induction =>
      rw [List.flatMap_cons, List.flatten_append, flatten_wordsOfRun, induction, List.flatten_cons]

theorem isAlphanumeric_of_mem_wordsOf {spelled word : List Char} (member : word ∈ wordsOf spelled) :
    ∀ character ∈ word, isAlphanumeric character = true := by
  intro character inside
  have found : character ∈ spelled.filter isAlphanumeric := by
    rw [← flatten_wordsOf]
    exact List.mem_flatten.mpr ⟨word, member, inside⟩
  exact (List.mem_filter.mp found).2

/-! ## Joined words -/

theorem map_toLower_toLower (text : List Char) :
    (text.map Char.toLower).map Char.toLower = text.map Char.toLower := by
  simp only [List.map_map, Function.comp_def, Char.toLower_toLower_eq_toLower]

theorem map_toLower_flatMap_capitalize {words : List (List Char)}
    (alphanumeric : ∀ word ∈ words, ∀ character ∈ word, isAlphanumeric character = true) :
    (words.flatMap fun word => capitalize (word.map Char.toLower)).map Char.toLower =
      words.flatten.map Char.toLower := by
  rw [List.map_flatMap, List.map_flatten, ← List.flatMap_def]
  refine List.flatMap_congr fun word member => ?_
  have lowered : ∀ character ∈ word.map Char.toLower, isAlphanumeric character = true :=
    isAlphanumeric_of_toLower_eq (map_toLower_toLower word) (alphanumeric word member)
  rw [toLower_capitalize lowered, map_toLower_toLower]

/-- Words as one camel-case identifier. -/
def joinWords (words : List (List Char)) : List Char :=
  match words.map (·.map Char.toLower) with
  | [] => []
  | first :: rest => first ++ rest.flatMap capitalize

/-- Up to the case of letters, joined words are the letters and digits they are made of. -/
theorem toLower_joinWords (spelled : List Char) :
    (joinWords (wordsOf spelled)).map Char.toLower =
      (spelled.filter isAlphanumeric).map Char.toLower := by
  have alphanumeric : ∀ word ∈ wordsOf spelled, ∀ character ∈ word,
      isAlphanumeric character = true :=
    fun _ => isAlphanumeric_of_mem_wordsOf
  rw [← flatten_wordsOf, joinWords]
  cases cut : wordsOf spelled with
  | nil => rfl
  | cons first rest =>
      rw [cut] at alphanumeric
      have later := map_toLower_flatMap_capitalize fun word member =>
        alphanumeric word (List.mem_cons_of_mem first member)
      rw [List.map_cons, List.map_append, List.flatMap_map, map_toLower_toLower, later,
        List.flatten_cons, List.map_append]

theorem isAlphanumeric_of_mem_joinWords (spelled : List Char) :
    ∀ character ∈ joinWords (wordsOf spelled), isAlphanumeric character = true :=
  isAlphanumeric_of_toLower_eq (toLower_joinWords spelled) fun _ member =>
    (List.mem_filter.mp member).2

/-- Nothing is joined exactly if there are no letters and digits. -/
theorem joinWords_eq_nil_iff {spelled : List Char} :
    joinWords (wordsOf spelled) = [] ↔ spelled.filter isAlphanumeric = [] := by
  rw [← List.map_eq_nil_iff (f := Char.toLower), toLower_joinWords, List.map_eq_nil_iff]

/-! ## Camel case -/

variable [Transliteration]

/-- The letters and digits in the transliteration of a text. -/
def alphanumerics (text : List Char) : List Char :=
  (transliterate text).filter isAlphanumeric

theorem words_eq (text : List Char) : words text = wordsOf (transliterate text) :=
  rfl

theorem camelCase_eq (text : List Char) :
    camelCase text = joinWords (wordsOf (transliterate text)) :=
  rfl

/-- Up to the case of letters, a camel-case name is the letters and digits of its text. -/
theorem toLower_camelCase (text : List Char) :
    (camelCase text).map Char.toLower = (alphanumerics text).map Char.toLower :=
  toLower_joinWords (transliterate text)

theorem isAlphanumeric_of_mem_camelCase (text : List Char) :
    ∀ character ∈ camelCase text, isAlphanumeric character = true :=
  isAlphanumeric_of_mem_joinWords (transliterate text)

/-- Whether the first letter or digit of a text is a digit. -/
def startsNumeric (text : List Char) : Bool :=
  ((transliterate text).find? isAlphanumeric).any Char.isDigit

/-- A camel-case name starts with a digit exactly if the letters and digits of its text do. -/
theorem any_isDigit_head?_camelCase (text : List Char) :
    (camelCase text).head?.any Char.isDigit = startsNumeric text := by
  have lowered : ∀ text : List Char,
      text.head?.any Char.isDigit = (text.map Char.toLower).head?.any Char.isDigit := by
    intro text
    rw [List.head?_map, Option.any_map]
    cases text.head? with
    | none => rfl
    | some first => exact (isDigit_toLower first).symm
  rw [lowered, toLower_camelCase, ← lowered, alphanumerics, List.head?_filter, startsNumeric]

end ApiCatalog.Identifier
