import ApiCatalog.Proofs.CodeEntries
import ApiCatalog.Proofs.SymbolNames
import ApiCatalog.Text.Spellings

/-!
# Listings of codes

A description that lists codes with their meanings, after prose that ends in a colon or without it,
is read completely. A colon separates a code from its meaning or one item from the next, and a
hyphen may also be a sign, but no entry takes away the delimiter that the next one needs:
`entries_listing`. The symbols have the listed codes, each once, under the names of their meanings:
`ofDescription_listing`.
-/

namespace ApiCatalog

namespace Enumeration

open Text Identifier

/-! ## Codes -/

theorem digitsValue_eq (digits : List Char) :
    digitsValue 10 digitValue digits = Nat.ofDigitChars 10 digits 0 := by
  have fold (total : Nat) :
      digits.foldl (fun total digit => total * 10 + digitValue digit) total =
        Nat.ofDigitChars 10 digits total := by
    induction digits generalizing total with
    | nil => rfl
    | cons digit digits induction =>
        rw [List.foldl_cons, induction, Nat.ofDigitChars_cons, Nat.mul_comm]
        rfl
  exact fold 0

/-- The sign of an integer as it is written. -/
def signOf (value : Int) : List Char :=
  if value < 0 then ['-'] else []

theorem signOf_cases (value : Int) : signOf value = [] ∨ signOf value = ['-'] := by
  unfold signOf
  split
  · exact .inr rfl
  · exact .inl rfl

theorem render_integer (value : Int) :
    (Number.integer value).render = signOf value ++ Nat.toDigits 10 value.natAbs := by
  rw [Number.render, signOf]
  split <;> rfl

theorem isDecimalDigit_of_isDigit {character : Char} (digit : character.isDigit = true) :
    isDecimalDigit character = true := by
  have small : character.toNat < 128 :=
    toNat_lt_of_isAlphanumeric (by rw [isAlphanumeric, digit, Bool.or_true])
  revert digit
  refine of_ascii character small ?_
  decide

theorem isDigit_toDigits (size : Nat) : ∀ digit ∈ Nat.toDigits 10 size, digit.isDigit = true :=
  fun _ member => Nat.isDigit_of_mem_toDigits (by decide) (by decide) member

/-- An integer of 64 bits is read back from its text. -/
theorem codeValue?_render {value : Int} (low : -2 ^ 63 ≤ value) (high : value < 2 ^ 63) :
    codeValue? (Number.integer value).render = some value := by
  have digits := isDigit_toDigits value.natAbs
  have parts : takeMinus (Number.integer value).render =
      (signOf value, Nat.toDigits 10 value.natAbs) := by
    rw [render_integer]
    refine takeMinus_sign (signOf_cases value) fun next first => ?_
    have digit := isDecimalDigit_of_isDigit (digits next (List.mem_of_head? first))
    exact ne_minus_of_isDecimalDigit digit
  have size : digitsValue 10 digitValue (Nat.toDigits 10 value.natAbs) = value.natAbs := by
    rw [digitsValue_eq, Nat.ofDigitChars_ten_toDigits]
  have signed :
      (if (signOf value).isEmpty then (value.natAbs : Int) else -value.natAbs) = value := by
    unfold signOf
    by_cases negative : value < 0
    · rw [if_pos negative]
      change -(value.natAbs : Int) = value
      omega
    · rw [if_neg negative]
      change (value.natAbs : Int) = value
      omega
  simp only [codeValue?, parts, List.all_eq_true.mpr digits, if_true, size, signed]
  exact if_pos ⟨low, high⟩

/-- The value of a code. -/
def valueOf (code : Int) : Literal :=
  .number (String.ofList (Number.integer code).render)

/-! ## Listings -/

/-- A code of 64 bits with the ASCII word for its meaning, and what stands between them. -/
structure Item where
  /-- The code. -/
  code : Int
  /-- The blanks before the separator. -/
  gap : List Char
  /-- The separator. -/
  separator : Char
  /-- The blanks after the separator. -/
  space : List Char
  /-- The first character of the word. -/
  first : Char
  /-- The other characters of the word. -/
  others : List Char
  low : -2 ^ 63 ≤ code
  high : code < 2 ^ 63
  blankGap : ∀ character ∈ gap, isBlank character = true
  separates : isSeparator separator = true
  blankSpace : ∀ character ∈ space, isBlank character = true
  starts : (first.isAlpha || first == '_') = true
  continues : ∀ character ∈ others, (character.isAlphanum || character == '_') = true

namespace Item

/-- The word for the meaning. -/
def word (item : Item) : List Char :=
  item.first :: item.others

/-- The item as it is written. -/
def text (item : Item) : List Char :=
  (Number.integer item.code).render ++ item.gap ++ item.separator :: item.space ++ item.word

/-- The entry that the item is read as. -/
def entry (item : Item) : Entry :=
  ⟨(Number.integer item.code).render, item.word⟩

theorem isWordCharacter_of_ascii {character : Char}
    (part : (character.isAlphanum || character == '_') = true) :
    isWordCharacter character = true := by
  have small := toNat_lt_of_isAlphanum part
  revert part
  refine of_ascii character small ?_
  decide

/-- The item part by part. -/
def written (item : Item) : EntryText where
  sign := signOf item.code
  digits := Nat.toDigits 10 item.code.natAbs
  gap := item.gap
  separator := item.separator
  space := item.space
  first := item.first
  others := item.others
  isSign := signOf_cases item.code
  nonempty := Nat.toDigits_ne_nil
  areDigits := fun digit member => isDecimalDigit_of_isDigit (isDigit_toDigits _ digit member)
  blankGap := item.blankGap
  separates := item.separates
  blankSpace := item.blankSpace
  starts := item.starts
  continues := fun character member => isWordCharacter_of_ascii (item.continues character member)

theorem toList_written (item : Item) : item.written.toList = item.text := by
  simp only [EntryText.toList, EntryText.entry, EntryText.afterCode, written, text, word,
    render_integer, List.append_assoc, List.cons_append]

theorem entry_written (item : Item) : item.written.entry = item.entry := by
  rw [entry, render_integer]
  rfl

theorem value?_entry (item : Item) : item.entry.value? = some (valueOf item.code) := by
  rw [Entry.value?, entry, codeValue?_render item.low item.high]
  rfl

theorem valueOf_inj {item other : Item} :
    valueOf item.code = valueOf other.code ↔ item.code = other.code := by
  constructor
  · intro same
    have written : (Number.integer item.code).render = (Number.integer other.code).render :=
      String.ofList_injective (Literal.number.inj same)
    have read := codeValue?_render item.low item.high
    rw [written, codeValue?_render other.low other.high] at read
    exact (Option.some.inj read).symm
  · exact congrArg valueOf

end Item

/-- What stands between two items: an opener, and blanks around it. -/
structure Delimiter where
  /-- The blanks before the opener. -/
  before : List Char
  /-- The opener. -/
  opener : Char
  /-- The blanks after the opener. -/
  after : List Char
  blankBefore : ∀ character ∈ before, isBlank character = true
  opens : isOpener opener = true
  blankAfter : ∀ character ∈ after, isBlank character = true

/-- The delimiter as it is written. -/
def Delimiter.text (delimiter : Delimiter) : List Char :=
  delimiter.before ++ delimiter.opener :: delimiter.after

/-- A description that lists items, at least one. -/
structure Listing where
  /-- The prose before the items, which ends in a colon, if there is any. -/
  prose : Option (List Char)
  /-- The blanks before the first item. -/
  indent : List Char
  /-- The first item. -/
  first : Item
  /-- The other items, with the delimiters before them. -/
  others : List (Delimiter × Item)
  noDigits : ∀ text ∈ prose, ∀ character ∈ text, isDecimalDigit character = false
  blankIndent : ∀ character ∈ indent, isBlank character = true

namespace Listing

/-- The items. -/
def items (listing : Listing) : List Item :=
  listing.first :: listing.others.map Prod.snd

/-- Items as they are written. -/
def itemsText (first : Item) (others : List (Delimiter × Item)) : List Char :=
  first.text ++ others.flatMap fun (delimiter, item) => delimiter.text ++ item.text

/-- The description as it is written. -/
def text (listing : Listing) : List Char :=
  match listing.prose with
  | some prose => prose ++ ':' :: (listing.indent ++ itemsText listing.first listing.others)
  | none => listing.indent ++ itemsText listing.first listing.others

end Listing

/-! ## Reading a listing -/

theorem readFrom_prose {prose : List Char} (opened : Bool) (rest : List Char)
    (noDigits : ∀ character ∈ prose, isDecimalDigit character = false) :
    readFrom opened (prose ++ ':' :: rest) = readFrom true rest := by
  induction prose generalizing opened with
  | nil => exact readFrom_opener opened rest (by decide)
  | cons first prose induction =>
      obtain ⟨here, later⟩ := List.forall_mem_cons.mp noDigits
      have nothing : entryAt? (first :: (prose ++ ':' :: rest)) = none := by
        refine entryAt?_eq_none here fun _ next after => ?_
        cases prose with
        | nil => exact Option.some.inj after ▸ by decide
        | cons other prose => exact later next (Option.some.inj after ▸ List.mem_cons_self)
      rw [List.cons_append, readFrom_cons_of_none opened nothing, induction _ later]

theorem readFrom_delimiter (delimiter : Delimiter) (opened : Bool) (rest : List Char) :
    readFrom opened (delimiter.text ++ rest) = readFrom true rest := by
  rw [Delimiter.text, List.append_assoc, readFrom_blanks _ _ delimiter.blankBefore,
    List.cons_append, readFrom_opener _ _ delimiter.opens, readFrom_blanks _ _ delimiter.blankAfter,
    Bool.true_or]

theorem endsWord_delimiter (delimiter : Delimiter) (rest : List Char) :
    EndsWord (delimiter.text ++ rest) := by
  obtain ⟨before, opener, after, blankBefore, opens, -⟩ := delimiter
  intro next first
  cases before with
  | nil =>
      obtain rfl : opener = next := Option.some.inj first
      rcases isOpener_iff.mp opens with rfl | rfl | rfl | rfl <;> decide
  | cons blank before =>
      obtain rfl : blank = next := Option.some.inj first
      exact isWordCharacter_of_isBlank (blankBefore blank List.mem_cons_self)

theorem readFrom_itemsText (first : Item) (others : List (Delimiter × Item)) :
    readFrom true (Listing.itemsText first others) =
      (first :: others.map Prod.snd).map Item.entry := by
  rw [Listing.itemsText, ← first.toList_written]
  induction others generalizing first with
  | nil =>
      rw [List.flatMap_nil, readFrom_written first.written (by simp [EndsWord]),
        first.entry_written]
      rfl
  | cons pair others induction =>
      obtain ⟨delimiter, next⟩ := pair
      have ends := endsWord_delimiter delimiter
      rw [List.flatMap_cons, List.append_assoc, readFrom_written first.written (ends _),
        readFrom_delimiter, ← next.toList_written, induction next, first.entry_written]
      rfl

/-- All items of a listing are read, and nothing else. -/
theorem entries_listing (listing : Listing) :
    entries listing.text = listing.items.map Item.entry := by
  rw [entries_eq, Listing.text]
  split
  · rename_i prose written
    rw [readFrom_prose _ _ (listing.noDigits prose written),
      readFrom_blanks _ _ listing.blankIndent, Bool.true_or, readFrom_itemsText]
    rfl
  · rw [readFrom_blanks _ _ listing.blankIndent, Bool.true_or, readFrom_itemsText]
    rfl

/-! ## Symbols of a listing -/

theorem filterMap_value?_items (items : List Item) :
    (items.map Item.entry).filterMap Entry.value? = (items.map Item.code).map valueOf := by
  rw [List.filterMap_map, List.map_map, ← List.filterMap_eq_map]
  exact List.filterMap_congr fun item _ => item.value?_entry

/-- The symbols of a listing have its codes, each once and in order, under different names: each the
name of the first meaning of its code, unless an earlier symbol has taken it. -/
theorem ofDescription_listing [Transliteration] (listing : Listing) :
    let symbols := ofDescription (String.ofList listing.text)
    symbols.map Symbol.value = (listing.items.map Item.code).eraseDups.map valueOf ∧
      (symbols.map Symbol.name).Nodup ∧
      ∀ earlier symbol later, symbols = earlier ++ symbol :: later →
        ∃ item, listing.items.find? (fun other => other.code == item.code) = some item ∧
          symbol.value = valueOf item.code ∧
          Distinguished (String.ofList (symbolName item.word)) (earlier.map Symbol.name)
            symbol.name := by
  have read : entries (String.ofList listing.text).toList = listing.items.map Item.entry := by
    rw [String.toList_ofList, entries_listing]
  refine ⟨?_, nodup_names_distinguish _ _ _, fun earlier symbol later split => ?_⟩
  · have apart : ∀ left ∈ listing.items.map Item.code, ∀ right ∈ listing.items.map Item.code,
        valueOf left = valueOf right → left = right := by
      simp only [List.forall_mem_map]
      exact fun _ _ _ _ => Item.valueOf_inj.mp
    rw [values_ofDescription, read, filterMap_value?_items, eraseDups_map apart]
  · obtain ⟨entry, found, distinguished⟩ := distinguished_ofDescription split
    rw [read, List.find?_map] at found
    obtain ⟨item, located, rfl⟩ := Option.map_eq_some_iff.mp found
    have value : valueOf item.code = symbol.value := by
      simpa [item.value?_entry] using List.find?_some located
    refine ⟨item, ?_, value.symm, distinguished⟩
    rw [← located]
    congr 1
    funext other
    rw [Function.comp, other.value?_entry, ← value, Bool.eq_iff_iff]
    simpa using Item.valueOf_inj.symm

/-- A word after a code, with a separator between them and blanks around it. -/
def Item.ofWord (code : Int) (separator : Char) (blanks : List Char) (first : Char)
    (others : List Char)
    (sound : (-2 ^ 63 ≤ code ∧ code < 2 ^ 63) ∧ isSeparator separator = true ∧
      blanks.all isBlank = true ∧ (first.isAlpha || first == '_') = true ∧
      (others.all fun character => character.isAlphanum || character == '_') = true) : Item where
  code := code
  gap := blanks
  separator := separator
  space := blanks
  first := first
  others := others
  low := sound.1.1
  high := sound.1.2
  blankGap := List.all_eq_true.mp sound.2.2.1
  separates := sound.2.1
  blankSpace := List.all_eq_true.mp sound.2.2.1
  starts := sound.2.2.2.1
  continues := List.all_eq_true.mp sound.2.2.2.2

/-- A mark between items with blanks around it. -/
def Delimiter.ofMark (before : List Char) (opener : Char) (after : List Char)
    (sound : before.all isBlank = true ∧ isOpener opener = true ∧ after.all isBlank = true) :
    Delimiter where
  before := before
  opener := opener
  after := after
  blankBefore := List.all_eq_true.mp sound.1
  opens := sound.2.1
  blankAfter := List.all_eq_true.mp sound.2.2

/-- Colons after the prose, between items and in them, and hyphens in items and as a sign. -/
def mixedListing : Listing where
  prose := some "Codes".toList
  indent := [' ']
  first := .ofWord 1 '-' [] 'O' "pen".toList (by decide)
  others :=
    [(.ofMark [] ',' [] (by decide), .ofWord (-2) '-' [' '] 'C' "losed".toList (by decide)),
      (.ofMark [] ':' [' '] (by decide), .ofWord 1 '=' [] 'A' "gain".toList (by decide)),
      (.ofMark [' '] ':' [] (by decide), .ofWord 3 ':' [] 'o' "pen".toList (by decide))]
  noDigits := by
    have none : "Codes".toList.any isDecimalDigit = false := by decide
    rintro _ ⟨⟩ character member
    exact Bool.eq_false_iff.mpr (List.any_eq_false.mp none character member)
  blankIndent := List.all_eq_true.mp (by decide)

attribute [local instance] Text.tabulated

theorem ofDescription_listing_mixed :
    String.ofList mixedListing.text = "Codes: 1-Open,-2 - Closed: 1=Again :3:open" ∧
      (ofDescription (String.ofList mixedListing.text)).map Symbol.value =
        [valueOf 1, valueOf (-2), valueOf 3] :=
  ⟨by decide +kernel, (ofDescription_listing mixedListing).1.trans (by decide +kernel)⟩

/-- The second of two codes for one name has a number in its name. -/
example :
    (ofDescription (String.ofList mixedListing.text)).map Symbol.name =
      ["OPEN", "CLOSED", "OPEN2"] := by
  decide +kernel

end Enumeration

end ApiCatalog
