import ApiCatalog.Proofs.CamelCase
import ApiCatalog.Proofs.EnumerationText

/-!
# Codes in descriptions

An entry of a description is a code, a separator and a word, with blanks between them:
`entry?_eq_some_iff`. Reading goes on after an entry, and still each place of a description can be
judged on its own: an entry is read wherever one starts at the start of the text or, but for blanks,
after an opener. Whatever opens an entry is followed by a digit or a sign, so that no entry starts
inside another one: `entries_eq`.
-/

namespace ApiCatalog

namespace Text

/-! ## Characters -/

/-- Whether no code point of one set is in another one. -/
def CodePoints.apart (points others : CodePoints) : Bool :=
  points.all fun (first, last) =>
    (List.range' first (last + 1 - first)).all fun code => !others.covers code

theorem CodePoints.exists_range_of_covers {points : CodePoints} {code : Nat}
    (covered : points.covers code = true) :
    ∃ range ∈ points, range.1 ≤ code ∧ code ≤ range.2 := by
  induction points with
  | nil => cases covered
  | cons range rest induction =>
      obtain ⟨first, last⟩ := range
      rw [covers] at covered
      split at covered
      · cases covered
      · rename_i reached
        rcases Bool.or_eq_true_iff.mp covered with inside | later
        · exact ⟨(first, last), List.mem_cons_self, Nat.not_lt.mp reached, of_decide_eq_true inside⟩
        · obtain ⟨range, member, bounds⟩ := induction later
          exact ⟨range, List.mem_cons_of_mem _ member, bounds⟩

theorem CodePoints.covers_of_apart {points others : CodePoints} {code : Nat}
    (apart : points.apart others = true) (covered : points.covers code = true) :
    others.covers code = false := by
  obtain ⟨⟨first, last⟩, member, low, high⟩ := exists_range_of_covers covered
  have inside : code ∈ List.range' first (last + 1 - first) :=
    List.mem_range'_1.mpr ⟨low, by dsimp only at high; omega⟩
  have outside := List.all_eq_true.mp (List.all_eq_true.mp apart _ member) code inside
  simpa using outside

theorem isWordCharacter_of_isBlank {character : Char} (blank : isBlank character = true) :
    isWordCharacter character = false :=
  CodePoints.covers_of_apart (by decide +kernel) blank

theorem isDecimalDigit_of_isBlank {character : Char} (blank : isBlank character = true) :
    isDecimalDigit character = false :=
  CodePoints.covers_of_apart (by decide +kernel) blank

end Text

namespace Enumeration

open Text Identifier

/-- A character that neither opens an entry nor stands between the parts of one. -/
def IsInner (character : Char) : Prop :=
  isBlank character = false ∧ isOpener character = false

theorem isOpener_iff {character : Char} :
    isOpener character = true ↔
      character = ',' ∨ character = ';' ∨ character = ':' ∨ character = '\n' := by
  simp [isOpener]

theorem isSeparator_iff {character : Char} :
    isSeparator character = true ↔
      character = '=' ∨ character = ':' ∨ character = '-' ∨ character = '–' ∨ character = '—' := by
  simp [isSeparator]

/-- The characters of a class without blanks and openers are inner ones. -/
theorem isInner_of {inClass : Char → Bool} {character : Char}
    (visible : ∀ blank, isBlank blank = true → inClass blank = false)
    (closed : [',', ';', ':', '\n'].all fun opener => !inClass opener)
    (kept : inClass character = true) : IsInner character := by
  constructor
  · by_contra blank
    rw [visible character (Bool.not_eq_false _ ▸ blank)] at kept
    cases kept
  · by_contra opener
    have member : character ∈ [',', ';', ':', '\n'] :=
      List.contains_iff_mem.mp (Bool.not_eq_false _ ▸ opener)
    have outside := List.all_eq_true.mp closed character member
    rw [kept] at outside
    cases outside

theorem isInner_of_isWordCharacter {character : Char} (inWord : isWordCharacter character = true) :
    IsInner character :=
  isInner_of (fun _ => isWordCharacter_of_isBlank) (by decide) inWord

theorem isInner_of_isDecimalDigit {character : Char} (digit : isDecimalDigit character = true) :
    IsInner character :=
  isInner_of (fun _ => isDecimalDigit_of_isBlank) (by decide) digit

theorem ne_minus_of_isDecimalDigit {character : Char} (digit : isDecimalDigit character = true) :
    character ≠ '-' := by
  rintro rfl
  exact absurd digit (by decide)

/-- What a separator is not. -/
theorem plain_of_isSeparator {character : Char} (separator : isSeparator character = true) :
    isBlank character = false ∧ isDecimalDigit character = false := by
  rcases isSeparator_iff.mp separator with rfl | rfl | rfl | rfl | rfl <;> decide

/-- What an opener is not. -/
theorem plain_of_isOpener {opener : Char} (opens : isOpener opener = true) :
    isDecimalDigit opener = false ∧ opener ≠ '-' := by
  rcases isOpener_iff.mp opens with rfl | rfl | rfl | rfl <;> decide

/-- Letters, digits and underscores are ASCII characters. -/
theorem toNat_lt_of_isAlphanum {character : Char}
    (part : (character.isAlphanum || character == '_') = true) : character.toNat < 128 := by
  rcases Bool.or_eq_true_iff.mp part with alphanumeric | line
  · exact toNat_lt_of_isAlphanumeric alphanumeric
  · rw [eq_of_beq line]
    decide

theorem plain_of_isMeaningStart {character : Char} (starts : isMeaningStart character = true) :
    isWordCharacter character = true ∧ isDecimalDigit character = false ∧ character ≠ '-' := by
  have part : (character.isAlphanum || character == '_') = true := by
    rw [isMeaningStart] at starts
    rw [Char.isAlphanum, Bool.or_right_comm, starts, Bool.true_or]
  have small := toNat_lt_of_isAlphanum part
  revert starts
  refine of_ascii character small ?_
  decide +kernel

/-! ## Entries -/

/-- The text of an entry, part by part. -/
structure EntryText where
  /-- The sign of the code, if it is negative. -/
  sign : List Char
  /-- The digits of the code. -/
  digits : List Char
  /-- The blanks before the separator. -/
  gap : List Char
  /-- The separator. -/
  separator : Char
  /-- The blanks after the separator. -/
  space : List Char
  /-- The first character of the meaning. -/
  first : Char
  /-- The other characters of the meaning. -/
  others : List Char
  isSign : sign = [] ∨ sign = ['-']
  nonempty : digits ≠ []
  areDigits : ∀ character ∈ digits, isDecimalDigit character = true
  blankGap : ∀ character ∈ gap, isBlank character = true
  separates : isSeparator separator = true
  blankSpace : ∀ character ∈ space, isBlank character = true
  starts : isMeaningStart first = true
  continues : ∀ character ∈ others, isWordCharacter character = true

namespace EntryText

/-- The entry that is written. -/
def entry (written : EntryText) : Entry :=
  ⟨written.sign ++ written.digits, written.first :: written.others⟩

/-- The text of the entry after its code. -/
def afterCode (written : EntryText) : List Char :=
  written.gap ++ written.separator :: (written.space ++ written.first :: written.others)

/-- The text of the entry. -/
def toList (written : EntryText) : List Char :=
  written.entry.code ++ written.afterCode

theorem isInner_of_mem_code (written : EntryText) :
    ∀ character ∈ written.entry.code, IsInner character := by
  intro character member
  rcases List.mem_append.mp member with inSign | inDigits
  · rcases written.isSign with none | minus
    · rw [none] at inSign
      cases inSign
    · rw [minus] at inSign
      obtain rfl := List.mem_singleton.mp inSign
      exact ⟨by decide, by decide⟩
  · exact isInner_of_isDecimalDigit (written.areDigits character inDigits)

/-- The code starts with a digit, or with a minus sign before a digit. -/
theorem exists_code_eq (written : EntryText) :
    ∃ first rest, written.entry.code = first :: rest ∧ (isDecimalDigit first = true ∨
      first = '-' ∧ ∃ digit more, rest = digit :: more ∧ isDecimalDigit digit = true) := by
  obtain ⟨digit, more, digits⟩ := List.exists_cons_of_ne_nil written.nonempty
  have isDigit : isDecimalDigit digit = true :=
    written.areDigits digit (digits ▸ List.mem_cons_self)
  rcases written.isSign with none | minus
  · exact ⟨digit, more, by rw [entry, none, digits, List.nil_append], .inl isDigit⟩
  · exact ⟨'-', digit :: more, by rw [entry, minus, digits, List.singleton_append],
      .inr ⟨rfl, digit, more, rfl, isDigit⟩⟩

end EntryText

/-- No word goes on with a text. -/
def EndsWord (text : List Char) : Prop :=
  ∀ next ∈ text.head?, isWordCharacter next = false

theorem takeMinus_cases (text : List Char) :
    text = (takeMinus text).1 ++ (takeMinus text).2 ∧
      ((takeMinus text).1 = [] ∨ (takeMinus text).1 = ['-']) := by
  unfold takeMinus
  split
  · exact ⟨rfl, .inr rfl⟩
  · exact ⟨rfl, .inl rfl⟩

theorem takeMinus_sign {sign digits : List Char} (isSign : sign = [] ∨ sign = ['-'])
    (unsigned : ∀ next ∈ digits.head?, next ≠ '-') :
    takeMinus (sign ++ digits) = (sign, digits) := by
  rcases isSign with rfl | rfl
  · rw [List.nil_append]
    unfold takeMinus
    split
    · exact absurd rfl (unsigned '-' rfl)
    · rfl
  · rfl

theorem dropWhile_blanks {blanks : List Char} {next : Char} (rest : List Char)
    (blank : ∀ character ∈ blanks, isBlank character = true) (visible : isBlank next = false) :
    (blanks ++ next :: rest).dropWhile isBlank = next :: rest := by
  have stops : ∀ other ∈ (next :: rest).head?, isBlank other = false := fun _ first =>
    Option.some.inj first ▸ visible
  exact (takeWhile_dropWhile_append blank stops).2

/-- A written entry is read after blanks, if its word ends where the rest starts. -/
theorem entry?_written {blanks remaining : List Char} (written : EntryText)
    (blank : ∀ character ∈ blanks, isBlank character = true) (ends : EndsWord remaining) :
    entry? (blanks ++ (written.toList ++ remaining)) = some (written.entry, remaining) := by
  obtain ⟨start, code, isCode, -⟩ := written.exists_code_eq
  have visible : isBlank start = false :=
    (written.isInner_of_mem_code start (isCode ▸ List.mem_cons_self)).1
  have body : (blanks ++ (written.toList ++ remaining)).dropWhile isBlank =
      written.toList ++ remaining := by
    rw [EntryText.toList, isCode]
    exact dropWhile_blanks _ blank visible
  obtain ⟨sign, digits, gap, separator, space, first, others, isSign, nonempty, areDigits, blankGap,
    separates, blankSpace, starts, continues⟩ := written
  obtain ⟨separatorVisible, noDigit⟩ := plain_of_isSeparator separates
  have inWord : IsInner first := isInner_of_isWordCharacter (plain_of_isMeaningStart starts).1
  have unsigned (rest : List Char) :
      takeMinus (sign ++ (digits ++ rest)) = (sign, digits ++ rest) :=
    takeMinus_sign isSign fun next after => by
      obtain ⟨digit, more, rfl⟩ := List.exists_cons_of_ne_nil nonempty
      exact ne_minus_of_isDecimalDigit
        (areDigits next (Option.some.inj after ▸ List.mem_cons_self))
  have stops : ∀ next ∈ (gap ++ separator :: (space ++ first :: (others ++ remaining))).head?,
      isDecimalDigit next = false := by
    intro next after
    cases gap with
    | nil => exact Option.some.inj after ▸ noDigit
    | cons blank more =>
        exact isDecimalDigit_of_isBlank
          (blankGap next (Option.some.inj after ▸ List.mem_cons_self))
  obtain ⟨taken, left⟩ := takeWhile_dropWhile_append areDigits stops
  have gapped :=
    dropWhile_blanks (space ++ first :: (others ++ remaining)) blankGap separatorVisible
  have spaced := dropWhile_blanks (others ++ remaining) blankSpace inWord.1
  obtain ⟨word, after⟩ := takeWhile_dropWhile_append continues ends
  simp only [EntryText.toList, EntryText.entry, EntryText.afterCode, List.append_assoc,
    List.cons_append] at body ⊢
  unfold entry?
  simp [body, unsigned, taken, left, gapped, spaced, word, after, separates, starts, nonempty]

theorem exists_written_of_entry? {text remaining : List Char} {entry : Entry}
    (found : entry? text = some (entry, remaining)) :
    ∃ blanks, ∃ written : EntryText, (∀ character ∈ blanks, isBlank character = true) ∧
      written.entry = entry ∧ EndsWord remaining ∧
      text = blanks ++ (written.toList ++ remaining) := by
  obtain ⟨signed, isSign⟩ := takeMinus_cases (text.dropWhile isBlank)
  unfold entry? at found
  simp only [Option.ite_none_left_eq_some, Bool.not_eq_true'] at found
  generalize takeMinus (text.dropWhile isBlank) = parts at signed isSign found
  obtain ⟨sign, unsigned⟩ := parts
  obtain ⟨nonempty, found⟩ := found
  split at found
  · cases found
  · rename_i separator afterSeparator gapped
    obtain ⟨separates, found⟩ := Option.ite_none_left_eq_some.mp found
    split at found
    · cases found
    · rename_i first rest spaced
      obtain ⟨starts, found⟩ := Option.ite_none_left_eq_some.mp found
      obtain ⟨rfl, rfl⟩ := Prod.ext_iff.mp (Option.some.inj found)
      let written : EntryText :=
        { sign, separator, first, isSign
          digits := unsigned.takeWhile isDecimalDigit
          gap := (unsigned.dropWhile isDecimalDigit).takeWhile isBlank
          space := afterSeparator.takeWhile isBlank
          others := rest.takeWhile isWordCharacter
          nonempty := fun empty => nonempty (List.isEmpty_iff.mpr empty)
          areDigits := fun _ => List.mem_takeWhile_imp
          blankGap := fun _ => List.mem_takeWhile_imp
          separates := Bool.not_eq_false _ ▸ separates
          blankSpace := fun _ => List.mem_takeWhile_imp
          starts := Bool.not_eq_false _ ▸ starts
          continues := fun _ => List.mem_takeWhile_imp }
      have ends : EndsWord (rest.dropWhile isWordCharacter) := fun next after => by
        have stopped := List.head?_dropWhile_not isWordCharacter rest
        rw [Option.mem_def.mp after] at stopped
        exact stopped
      refine ⟨text.takeWhile isBlank, written, fun _ => List.mem_takeWhile_imp, rfl, ends, ?_⟩
      have whole : written.toList ++ rest.dropWhile isWordCharacter = text.dropWhile isBlank := by
        simp only [written, EntryText.toList, EntryText.entry, EntryText.afterCode,
          List.append_assoc, List.cons_append]
        rw [List.takeWhile_append_dropWhile, ← spaced, List.takeWhile_append_dropWhile, ← gapped,
          List.takeWhile_append_dropWhile, List.takeWhile_append_dropWhile, signed]
      rw [whole, List.takeWhile_append_dropWhile]

theorem entry?_eq_some_iff {text remaining : List Char} {entry : Entry} :
    entry? text = some (entry, remaining) ↔
      ∃ blanks, ∃ written : EntryText, (∀ character ∈ blanks, isBlank character = true) ∧
        written.entry = entry ∧ EndsWord remaining ∧
        text = blanks ++ (written.toList ++ remaining) := by
  constructor
  · exact exists_written_of_entry?
  · rintro ⟨blanks, written, blank, rfl, ends, rfl⟩
    exact entry?_written written blank ends

/-! ## Places -/

/-- The entry that a text starts with, without blanks before it. -/
def entryAt? : List Char → Option Entry
  | [] => none
  | first :: rest =>
      if isBlank first then none else Option.map Prod.fst <| entry? (first :: rest)

/-- Whether an entry may start after one more character. Blanks do not count, but for line feeds. -/
def opensAfter (opened : Bool) (character : Char) : Bool :=
  isOpener character || (opened && isBlank character)

/-- The entries of a text at every place where one may start, given whether one may start at its
first character. -/
def readFrom (opened : Bool) : List Char → List Entry
  | [] => []
  | character :: rest =>
      (if opened then (entryAt? (character :: rest)).toList else []) ++
        readFrom (opensAfter opened character) rest

theorem entryAt?_eq_some_iff {text : List Char} {entry : Entry} :
    entryAt? text = some entry ↔
      ∃ written : EntryText, ∃ remaining, written.entry = entry ∧ EndsWord remaining ∧
        text = written.toList ++ remaining := by
  constructor
  · intro found
    cases text with
    | nil => cases found
    | cons first rest =>
        rw [entryAt?] at found
        split at found
        · cases found
        · rename_i visible
          obtain ⟨⟨_, remaining⟩, read, rfl⟩ := Option.map_eq_some_iff.mp found
          obtain ⟨blanks, written, blank, same, ends, split⟩ := entry?_eq_some_iff.mp read
          cases blanks with
          | nil => exact ⟨written, remaining, same, ends, split⟩
          | cons other blanks =>
              obtain ⟨rfl, -⟩ := List.cons.inj split
              exact absurd (blank first List.mem_cons_self) visible
  · rintro ⟨written, remaining, rfl, ends, rfl⟩
    obtain ⟨start, code, isCode, -⟩ := written.exists_code_eq
    have visible : isBlank start = false :=
      (written.isInner_of_mem_code start (isCode ▸ List.mem_cons_self)).1
    have found : entry? ([] ++ (written.toList ++ remaining)) = some (written.entry, remaining) :=
      entry?_written written (List.forall_mem_nil _) ends
    rw [List.nil_append, EntryText.toList, isCode, List.cons_append, List.cons_append] at found
    rw [EntryText.toList, isCode, List.cons_append, List.cons_append, entryAt?, visible, found]
    rfl

/-- No entry starts with a character that is neither a digit nor the sign of one. -/
theorem entryAt?_eq_none {first : Char} {rest : List Char} (noDigit : isDecimalDigit first = false)
    (noSign : first = '-' → ∀ next ∈ rest.head?, isDecimalDigit next = false) :
    entryAt? (first :: rest) = none := by
  rw [Option.eq_none_iff_forall_ne_some]
  intro entry found
  obtain ⟨written, remaining, -, -, split⟩ := entryAt?_eq_some_iff.mp found
  obtain ⟨start, code, isCode, starts⟩ := written.exists_code_eq
  rw [EntryText.toList, isCode] at split
  obtain ⟨rfl, tail⟩ := List.cons.inj split
  rcases starts with digit | ⟨minus, digit, more, rfl, isDigit⟩
  · rw [digit] at noDigit
    cases noDigit
  · have next := noSign minus digit (tail ▸ rfl)
    rw [isDigit] at next
    cases next

theorem entryAt?_of_isBlank {first : Char} (rest : List Char) (blank : isBlank first = true) :
    entryAt? (first :: rest) = none := by
  rw [entryAt?, if_pos blank]

theorem opensAfter_of_not_isBlank {character : Char} (visible : isBlank character = false)
    (opened : Bool) : opensAfter opened character = isOpener character := by
  rw [opensAfter, visible, Bool.and_false, Bool.or_false]

theorem readFrom_cons_of_none {first : Char} {rest : List Char} (opened : Bool)
    (none : entryAt? (first :: rest) = none) :
    readFrom opened (first :: rest) = readFrom (opensAfter opened first) rest := by
  rw [readFrom, none]
  cases opened <;> rfl

theorem readFrom_opener {opener : Char} (opened : Bool) (rest : List Char)
    (opens : isOpener opener = true) : readFrom opened (opener :: rest) = readFrom true rest := by
  obtain ⟨noDigit, noMinus⟩ := plain_of_isOpener opens
  have nothing : entryAt? (opener :: rest) = none :=
    entryAt?_eq_none noDigit fun minus => absurd minus noMinus
  rw [readFrom_cons_of_none opened nothing, opensAfter, opens, Bool.true_or]

theorem readFrom_blanks {blanks : List Char} (opened : Bool) (rest : List Char)
    (blank : ∀ character ∈ blanks, isBlank character = true) :
    readFrom opened (blanks ++ rest) = readFrom (opened || blanks.any isOpener) rest := by
  induction blanks generalizing opened with
  | nil => simp
  | cons first blanks induction =>
      obtain ⟨here, later⟩ := List.forall_mem_cons.mp blank
      have nothing := entryAt?_of_isBlank (blanks ++ rest) here
      rw [List.cons_append, readFrom_cons_of_none opened nothing, induction _ later, opensAfter,
        here, Bool.and_true, List.any_cons]
      congr 1
      grind

theorem readFrom_inner {inner : List Char} (rest : List Char)
    (isInner : ∀ character ∈ inner, IsInner character) :
    readFrom false (inner ++ rest) = readFrom false rest := by
  induction inner with
  | nil => rfl
  | cons first inner induction =>
      obtain ⟨⟨visible, closed⟩, later⟩ := List.forall_mem_cons.mp isInner
      rw [List.cons_append, readFrom, opensAfter_of_not_isBlank visible, closed, induction later]
      rfl

/-- No entry starts inside another one, after its first character. -/
theorem readFrom_afterCode (written : EntryText) (opened : Bool) (remaining : List Char) :
    readFrom opened (written.afterCode ++ remaining) = readFrom false remaining := by
  obtain ⟨sign, digits, gap, separator, space, first, others, isSign, nonempty, areDigits, blankGap,
    separates, blankSpace, starts, continues⟩ := written
  obtain ⟨separatorVisible, noDigit⟩ := plain_of_isSeparator separates
  obtain ⟨inWord, firstNoDigit, noMinus⟩ := plain_of_isMeaningStart starts
  have innerFirst : IsInner first := isInner_of_isWordCharacter inWord
  have innerOthers : ∀ character ∈ others, IsInner character := fun character member =>
    isInner_of_isWordCharacter (continues character member)
  have noneAtSeparator :
      entryAt? (separator :: (space ++ first :: (others ++ remaining))) = none := by
    refine entryAt?_eq_none noDigit fun _ next after => ?_
    cases space with
    | nil => exact Option.some.inj after ▸ firstNoDigit
    | cons blank more =>
        exact isDecimalDigit_of_isBlank
          (blankSpace next (Option.some.inj after ▸ List.mem_cons_self))
  have noneAtFirst : entryAt? (first :: (others ++ remaining)) = none :=
    entryAt?_eq_none firstNoDigit fun minus => absurd minus noMinus
  simp only [EntryText.afterCode, List.append_assoc, List.cons_append]
  rw [readFrom_blanks opened _ blankGap, readFrom_cons_of_none _ noneAtSeparator,
    readFrom_blanks _ _ blankSpace, readFrom_cons_of_none _ noneAtFirst,
    opensAfter_of_not_isBlank innerFirst.1, innerFirst.2, readFrom_inner remaining innerOthers]

theorem readFrom_written (written : EntryText) {remaining : List Char}
    (ends : EndsWord remaining) :
    readFrom true (written.toList ++ remaining) = written.entry :: readFrom false remaining := by
  have found : entryAt? (written.toList ++ remaining) = some written.entry :=
    entryAt?_eq_some_iff.mpr ⟨written, remaining, rfl, ends, rfl⟩
  obtain ⟨start, code, isCode, -⟩ := written.exists_code_eq
  have inner := written.isInner_of_mem_code
  rw [isCode] at inner
  obtain ⟨⟨visible, closed⟩, later⟩ := List.forall_mem_cons.mp inner
  rw [EntryText.toList, isCode] at found ⊢
  simp only [List.cons_append, List.append_assoc] at found ⊢
  rw [readFrom, found, opensAfter_of_not_isBlank visible, closed, readFrom_inner _ later,
    readFrom_afterCode]
  rfl

theorem readFrom_of_some {text remaining : List Char} {entry : Entry}
    (found : entry? text = some (entry, remaining)) :
    readFrom true text = entry :: readFrom false remaining := by
  obtain ⟨blanks, written, blank, rfl, ends, rfl⟩ := entry?_eq_some_iff.mp found
  rw [readFrom_blanks true _ blank, Bool.true_or, readFrom_written written ends]

/-- If no entry starts after the blanks of a text, it does not matter whether one may. -/
theorem readFrom_of_none {text : List Char} (none : entry? text = none) :
    readFrom true text = readFrom false text := by
  induction text with
  | nil => rfl
  | cons first rest induction =>
      by_cases blank : isBlank first = true
      · have later : entry? rest = Option.none := by
          unfold entry? at none ⊢
          simpa only [List.dropWhile_cons_of_pos blank] using none
        have nothing := entryAt?_of_isBlank rest blank
        rw [readFrom_cons_of_none true nothing, readFrom_cons_of_none false nothing, opensAfter,
          opensAfter, blank, Bool.true_and, Bool.or_true, Bool.false_and, Bool.or_false,
          induction later]
        cases isOpener first with
        | false => rfl
        | true => exact (induction later).symm
      · have nothing : entryAt? (first :: rest) = Option.none := by
          rw [entryAt?, if_neg blank, none, Option.map_none]
        have visible : isBlank first = false := Bool.eq_false_iff.mpr blank
        rw [readFrom_cons_of_none true nothing, readFrom_cons_of_none false nothing,
          opensAfter_of_not_isBlank visible, opensAfter_of_not_isBlank visible]

theorem length_remaining_le {text remaining : List Char} {entry : Entry}
    (found : entry? text = some (entry, remaining)) : remaining.length ≤ text.length := by
  obtain ⟨blanks, written, -, -, -, rfl⟩ := entry?_eq_some_iff.mp found
  simp only [List.length_append]
  omega

theorem entriesAfter_eq {fuel : Nat} {text : List Char} (enough : text.length ≤ fuel) :
    entriesAfter fuel text = readFrom false text := by
  induction fuel generalizing text with
  | zero =>
      rw [List.length_eq_zero_iff.mp (Nat.le_zero.mp enough)]
      rfl
  | succ fuel induction =>
      cases text with
      | nil => rfl
      | cons first rest =>
          have fits : rest.length ≤ fuel := Nat.le_of_succ_le_succ enough
          have step : readFrom false (first :: rest) = readFrom (isOpener first) rest := by
            rw [readFrom, opensAfter, Bool.false_and, Bool.or_false]
            rfl
          rw [entriesAfter, step]
          split
          · rename_i opener
            rw [opener]
            split
            · rename_i entry remaining found
              rw [induction (Nat.le_trans (length_remaining_le found) fits), readFrom_of_some found]
            · rename_i none
              rw [induction fits, readFrom_of_none none]
          · rename_i closed
            rw [induction fits, Bool.eq_false_iff.mpr closed]

/-- The entries of a description are those at every place where one may start. -/
theorem entries_eq (description : List Char) : entries description = readFrom true description := by
  rw [entries]
  split
  · rename_i entry remaining found
    rw [entriesAfter_eq (Nat.le_refl _), readFrom_of_some found]
  · rename_i none
    rw [entriesAfter_eq (Nat.le_refl _), readFrom_of_none none]

end Enumeration

end ApiCatalog
