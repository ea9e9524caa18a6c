/-!
# Transliteration to ASCII

Every character is spelled on its own with characters of ASCII, and the characters of ASCII stay as
they are. How the other characters are spelled is left open.
-/

namespace ApiCatalog

/-- A way to spell every character in ASCII. -/
class Transliteration where
  /-- The spelling of a character. -/
  spell : Char → List Char
  /-- A character of ASCII stays as it is. -/
  spell_ascii (character : Char) (ascii : character.toNat < 128) : spell character = [character]
  /-- Every spelling is in ASCII. -/
  ascii_spell (character : Char) : ∀ part ∈ spell character, part.toNat < 128

namespace Text

variable [Transliteration]

/-- A text with every character replaced by its ASCII spelling. -/
def transliterate (text : List Char) : List Char :=
  text.flatMap Transliteration.spell

theorem transliterate_append (text rest : List Char) :
    transliterate (text ++ rest) = transliterate text ++ transliterate rest :=
  List.flatMap_append

theorem transliterate_of_ascii {text : List Char}
    (ascii : ∀ character ∈ text, character.toNat < 128) : transliterate text = text := by
  induction text with
  | nil => rfl
  | cons first rest induction =>
      obtain ⟨here, later⟩ := List.forall_mem_cons.mp ascii
      have spelled := Transliteration.spell_ascii first here
      rw [transliterate, List.flatMap_cons, spelled, List.singleton_append]
      exact congrArg (first :: ·) (induction later)

end Text

end ApiCatalog
