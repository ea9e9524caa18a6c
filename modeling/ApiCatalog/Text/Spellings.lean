import ApiCatalog.Text.Transliteration

/-!
# Spellings of characters

The transliteration the program runs with. It spells the letters of the Latin, Greek and Cyrillic
scripts, the signs that go with them and a few more characters; any other character disappears. What
is proved of names is proved of every transliteration, and uses none of these spellings.
-/

namespace ApiCatalog.Text

/-- Consecutive code points, from the first one on, with their spellings. -/
def spellings : List (Nat × List String) := [
    (0x85, [
      ""]),
    (0xA0, [
      " ", "!", "c", "GBP", "$", "Y", "|", "S", "\"", "(C)", "a", "<<", "!", "", "(R)", "-",
      "deg", "+-", "2", "3", "'", "u", "P", "-", ",", "1", "o", ">>", "1/4", "1/2", "3/4", "?",
      "A", "A", "A", "A", "A", "A", "Ae", "C", "E", "E", "E", "E", "I", "I", "I", "I", "D",
      "N", "O", "O", "O", "O", "O", "*", "O", "U", "U", "U", "U", "Y", "Th", "ss", "a", "a",
      "a", "a", "a", "a", "ae", "c", "e", "e", "e", "e", "i", "i", "i", "i", "d", "n", "o",
      "o", "o", "o", "o", "/", "o", "u", "u", "u", "u", "y", "th", "y", "A", "a", "A", "a",
      "A", "a", "C", "c", "C", "c", "C", "c", "C", "c", "D", "d", "D", "d", "E", "e", "E", "e",
      "E", "e", "E", "e", "E", "e", "G", "g", "G", "g", "G", "g", "G", "g", "H", "h", "H", "h",
      "I", "i", "I", "i", "I", "i", "I", "i", "I", "i", "IJ", "ij", "J", "j", "K", "k", "q",
      "L", "l", "L", "l", "L", "l", "L", "l", "L", "l", "N", "n", "N", "n", "N", "n", "'n",
      "Ng", "ng", "O", "o", "O", "o", "O", "o", "Oe", "oe", "R", "r", "R", "r", "R", "r", "S",
      "s", "S", "s", "S", "s", "S", "s", "T", "t", "T", "t", "T", "t", "U", "u", "U", "u", "U",
      "u", "U", "u", "U", "u", "U", "u", "W", "w", "Y", "y", "Y", "Z", "z", "Z", "z", "Z", "z",
      "s", "b", "B", "B", "b", "6", "6", "O", "C", "c", "D", "D", "D", "d", "z", "E", "E", "E",
      "F", "f", "G", "G", "hw", "I", "I", "K", "k", "l", "l", "W", "N", "n", "O", "O", "o",
      "Gh", "gh", "P", "p", "R", "2", "2", "Sh", "sh", "t", "T", "t", "T", "U", "u", "U", "V",
      "Y", "y", "Z", "z", "Zh", "`", "`", "zh", "dz", "5", "5", "ts", "w", "c", "x", "qc", "q",
      "DZ", "Dz", "dz", "LJ", "Lj", "lj", "NJ", "Nj", "nj", "A", "a", "I", "i", "O", "o", "U",
      "u", "U", "u", "U", "u", "U", "u", "U", "u", "e", "A", "a", "A", "a", "Ae", "ae", "G",
      "g", "G", "g", "K", "k", "O", "o", "O", "o", "Zh", "zh", "j", "DZ", "Dz", "dz", "G", "g",
      "Hw", "W", "N", "n", "A", "a", "Ae", "ae", "O", "o", "A", "a", "A", "a", "E", "e", "E",
      "e", "I", "i", "I", "i", "O", "o", "O", "o", "R", "r", "R", "r", "U", "u", "U", "u", "S",
      "s", "T", "t", "Y", "y", "H", "h", "N", "d", "Ou", "ou", "Z", "z", "A", "a", "E", "e",
      "O", "o", "O", "o", "O", "o", "O", "o", "Y", "y", "l", "n", "t", "j", "db", "qp", "A",
      "C", "c", "L", "T", "s", "z", "'", "'", "B", "U", "A", "E", "e", "J", "j", "Q", "q", "R",
      "r", "Y", "y"]),
    (0x301, [
      ""]),
    (0x370, [
      "H", "h", "S", "s", "'", ",", "W", "w", "", "", "i", "s", "s.", "s.", ";", "J", "", "",
      "", "", "'", "\"'", "A", ";", "E", "I", "I", "", "O", "", "Y", "O", "i", "A", "V", "G",
      "D", "E", "Z", "I", "Th", "I", "K", "L", "M", "N", "X", "O", "P", "R", "", "S", "T", "Y",
      "F", "Ch", "Ps", "O", "I", "Y", "a", "e", "i", "i", "y", "a", "v", "g", "d", "e", "z",
      "i", "th", "i", "k", "l", "m", "n", "x", "o", "p", "r", "s", "s", "t", "y", "f", "ch",
      "ps", "o", "i", "y", "o", "y", "o", "&", "b", "th", "Y", "Y", "Y", "ph", "p", "&", "Q",
      "q", "St", "st", "W", "w", "Q", "q", "S", "s", "Sh", "sh", "F", "f", "X", "x", "H", "h",
      "J", "j", "C", "c", "Ti", "ti", "k", "r", "s", "j", "Th", "e", "e", "Sh", "sh", "S", "S",
      "s", "r.", "S", "S.", "S.", "E", "E", "Dj", "G", "Ie", "Dz", "I", "I", "J", "Lj", "Nj",
      "C", "K", "I", "U", "Dzh", "A", "B", "V", "G", "D", "E", "Zh", "Z", "I", "Y", "K", "L",
      "M", "N", "O", "P", "R", "S", "T", "U", "F", "Kh", "Ts", "Ch", "Sh", "Shch", "'", "Y",
      "'", "E", "Yu", "Ya", "a", "b", "v", "g", "d", "e", "zh", "z", "i", "y", "k", "l", "m",
      "n", "o", "p", "r", "s", "t", "u", "f", "kh", "ts", "ch", "sh", "shch", "'", "y", "'",
      "e", "yu", "ya", "e", "e", "dj", "g", "ie", "dz", "i", "i", "j", "lj", "nj", "c", "k",
      "i", "u", "dzh"]),
    (0x661, [
      "1", "2"]),
    (0x1680, [
      " "]),
    (0x180E, [
      ""]),
    (0x1E00, [
      "A", "a", "B", "b", "B", "b", "B", "b", "C", "c", "D", "d", "D", "d", "D", "d", "D", "d",
      "D", "d", "E", "e", "E", "e", "E", "e", "E", "e", "E", "e", "F", "f", "G", "g", "H", "h",
      "H", "h", "H", "h", "H", "h", "H", "h", "I", "i", "I", "i", "K", "k", "K", "k", "K", "k",
      "L", "l", "L", "l", "L", "l", "L", "l", "M", "m", "M", "m", "M", "m", "N", "n", "N", "n",
      "N", "n", "N", "n", "O", "o", "O", "o", "O", "o", "O", "o", "P", "p", "P", "p", "R", "r",
      "R", "r", "R", "r", "R", "r", "S", "s", "S", "s", "S", "s", "S", "s", "S", "s", "T", "t",
      "T", "t", "T", "t", "T", "t", "U", "u", "U", "u", "U", "u", "U", "u", "U", "u", "V", "v",
      "V", "v", "W", "w", "W", "w", "W", "w", "W", "w", "W", "w", "X", "x", "X", "x", "Y", "y",
      "Z", "z", "Z", "z", "Z", "z", "h", "t", "w", "y", "a'", "s", "s.", "s.", "Ss", "d", "A",
      "a", "A", "a", "A", "a", "A", "a", "A", "a", "A", "a", "A", "a", "A", "a", "A", "a", "A",
      "a", "A", "a", "A", "a", "E", "e", "E", "e", "E", "e", "E", "e", "E", "e", "E", "e", "E",
      "e", "E", "e", "I", "i", "I", "i", "O", "o", "O", "o", "O", "o", "O", "o", "O", "o", "O",
      "o", "O", "o", "O", "o", "O", "o", "O", "o", "O", "o", "O", "o", "U", "u", "U", "u", "U",
      "u", "U", "u", "U", "u", "U", "u", "U", "u", "Y", "y", "Y", "y", "Y", "y", "Y", "y",
      "Ll", "ll", "V", "v", "Y", "y"]),
    (0x2000, [
      " ", " ", " ", " ", " ", " ", " ", " ", " ", " ", " ", "", "", "", "", "", "-", "-", "-",
      "-", "-", "-", "||", "_", "'", "'", "'", "'", "\"", "\"", "\"", "\"", "+", "++", "*",
      "*", ".", "..", "...", "-", " ", " ", "", "", "", "", "", " ", "%0", "%00", "'", "''",
      "'''", "`", "``", "```", "^", "<", ">", "*", "!!", "!?", "-", "_", "-", "^", "***", "-",
      "/", "[", "]", "??", "?!", "!?", "&", "P", "<", ">", "*", ";", "_", "**", "./.", "~",
      "_", "*", ":", "''''", ":", "*", ":", ":", "+", ":", ":", " "]),
    (0x20A0, [
      "CE", "C", "Cr", "F", "L", "m", "N", "Pts", "Rs", "W", "NIS", "d", "EUR", "K", "T", "Dr",
      "Pf", "P", "G", "A", "HRN", "C", "lt", "Sm", "T", "Rs", "TL", "M", "Manat", "Rb", "Lari",
      "BTC"]),
    (0x2122, [
      "TM"]),
    (0x2150, [
      "1/7", "1/9", "1/10", "1/3", "2/3", "1/5", "2/5", "3/5", "4/5", "1/6", "5/6", "1/8",
      "3/8", "5/8", "7/8", "1/"]),
    (0x2192, [
      ">"]),
    (0x2212, [
      "-"]),
    (0x3000, [
      " "]),
    (0x4E2D, [
      "Zhong"]),
    (0x56FD, [
      "Guo"]),
    (0x6587, [
      "Wen"]),
    (0x65E5, [
      "Ri"]),
    (0x672C, [
      "Ben"]),
    (0x6F22, [
      "Han"]),
    (0x8A9E, [
      "Yu"]),
    (0xAD6D, [
      "Gug"]),
    (0xD55C, [
      "Han"]),
    (0xFB00, [
      "ff", "fi", "", "ffi"]),
    (0xFEFF, [
      "", "", "!", "\"", "#", "$", "%", "&", "'", "(", ")", "*", "+", ",", "-", ".", "/", "0",
      "1", "2", "3", "4", "5", "6", "7", "8", "9", ":", ";", "<", "=", ">", "?", "@", "A", "B",
      "C", "D", "E", "F", "G", "H", "I", "J", "K", "L", "M", "N", "O", "P", "Q", "R", "S", "T",
      "U", "V", "W", "X", "Y", "Z", "[", "\\", "]", "^", "_", "`", "a", "b", "c", "d", "e",
      "f", "g", "h", "i", "j", "k", "l", "m", "n", "o", "p", "q", "r", "s", "t", "u", "v", "w",
      "x", "y", "z", "\x7b", "|", "\x7d", "~"]),
    (0xFFFD, [
      "?"]),
    (0x1F3FD, [
      ""]),
    (0x1F44D, [
      ":thumbsup:"]),
    (0x1F600, [
      ":grinning:"])]

/-- The spelling of a code point in blocks of spellings, empty when there is none. -/
def spellingIn : List (Nat × List String) → Nat → String
  | [], _ => ""
  | (first, block) :: rest, code =>
      if code < first then ""
      else match block[code - first]? with
        | some spelling => spelling
        | none => spellingIn rest code

/-- The ASCII spelling of a character. -/
def spellingOf (character : Char) : List Char :=
  if character.toNat < 128 then [character]
  else (spellingIn spellings character.toNat).toList

theorem mem_spellingIn {blocks : List (Nat × List String)} {code : Nat} {part : Char}
    (member : part ∈ (spellingIn blocks code).toList) :
    ∃ block ∈ blocks, ∃ spelling ∈ block.2, part ∈ spelling.toList := by
  induction blocks with
  | nil => simp [spellingIn] at member
  | cons block rest induction =>
      obtain ⟨first, listed⟩ := block
      simp only [spellingIn] at member
      split at member
      · simp at member
      · split at member
        · rename_i spelling found
          exact ⟨_, List.mem_cons_self, spelling, List.mem_of_getElem? found, member⟩
        · obtain ⟨later, inside, spelled⟩ := induction member
          exact ⟨later, List.mem_cons_of_mem _ inside, spelled⟩

theorem ascii_spellings :
    ∀ block ∈ spellings, ∀ spelling ∈ block.2, ∀ part ∈ spelling.toList, part.toNat < 128 := by
  -- The test in `Bool` stops at each entry; deciding the statement nests one entry in the other.
  have tested : (spellings.all fun block => block.2.all fun spelling =>
      spelling.toList.all fun part => part.toNat < 128) = true := by
    decide +kernel
  simpa using tested

/-- The transliteration by the table. -/
@[reducible]
def tabulated : Transliteration where
  spell := spellingOf
  spell_ascii _ ascii := if_pos ascii
  ascii_spell character part member := by
    unfold spellingOf at member
    split at member
    · rename_i ascii
      rwa [List.mem_singleton.mp member]
    · obtain ⟨block, listed, spelling, found, inside⟩ := mem_spellingIn member
      exact ascii_spellings block listed spelling found part inside

end ApiCatalog.Text
