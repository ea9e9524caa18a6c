import ApiCatalog.Proofs.CamelCase

/-!
# Cuts between words

A text is read letter by letter: behind each letter or digit its word ends or goes on, and which of
the two is told by the next two characters. Words so cut are numbers, acronyms, or lower-case
letters with at most one capital before them, and the cuts tell where separators and changes of the
kind of letters are: `words_exact`.
-/

namespace ApiCatalog.Identifier

open Text

/-! ## Kinds of letters -/

/-- A letter or digit is of one kind. -/
theorem kinds_of_isAlphanumeric {character : Char}
    (alphanumeric : isAlphanumeric character = true) :
    (character.isDigit = true ∧ character.isUpper = false ∧ character.isLower = false) ∨
      (character.isDigit = false ∧ character.isUpper = true ∧ character.isLower = false) ∨
      (character.isDigit = false ∧ character.isUpper = false ∧ character.isLower = true) := by
  have small : character.toNat < 128 := toNat_lt_of_isAlphanumeric alphanumeric
  revert alphanumeric
  refine of_ascii character small ?_
  decide

/-! ## Reading words -/

/-- Whether a word ends behind a letter or digit, given what follows it in the text. -/
def endsWord (last : Char) : List Char → Bool
  | [] => true
  | next :: rest => !isAlphanumeric next || isWordEdge last next rest.head?

/-- A character more for the first of some words. -/
def extendFirst (character : Char) : List (List Char) → List (List Char)
  | [] => [[character]]
  | word :: words => (character :: word) :: words

theorem extendFirst_append (character : Char) {words : List (List Char)} (nonempty : words ≠ [])
    (others : List (List Char)) :
    extendFirst character (words ++ others) = extendFirst character words ++ others := by
  obtain ⟨word, words, rfl⟩ := List.exists_cons_of_ne_nil nonempty
  rfl

theorem wordsOfRun_ne_nil (first : Char) (rest : List Char) : wordsOfRun (first :: rest) ≠ [] := by
  intro none
  have flat := flatten_wordsOfRun (first :: rest)
  rw [none] at flat
  cases flat

theorem wordsOfRun_cons (first next : Char) (rest : List Char) :
    wordsOfRun (first :: next :: rest) =
      if isWordEdge first next rest.head? then [first] :: wordsOfRun (next :: rest)
      else extendFirst first (wordsOfRun (next :: rest)) := by
  obtain ⟨word, words, cut⟩ := List.exists_cons_of_ne_nil (wordsOfRun_ne_nil next rest)
  rw [wordsOfRun, cut]
  rfl

theorem wordsOf_separator {separator : Char} (separates : isAlphanumeric separator = false)
    (rest : List Char) : wordsOf (separator :: rest) = wordsOf rest := by
  simp [wordsOf, runsOf, separates]

/-- What is behind a run does not count for its edges. -/
theorem isWordEdge_takeWhile (previous current : Char) (rest : List Char) :
    isWordEdge previous current (rest.takeWhile isAlphanumeric).head? =
      isWordEdge previous current rest.head? := by
  cases rest with
  | nil => rfl
  | cons next more =>
      by_cases continues : isAlphanumeric next = true
      · rw [List.takeWhile_cons_of_pos continues]
        rfl
      · have capital : next.isLower = false := by
          rw [← Bool.not_eq_true]
          exact mt isAlphanumeric_of_isLower continues
        rw [List.takeWhile_cons_of_neg continues]
        simp [isWordEdge, capital]

/-- Words are read from the front: a letter or digit is a word of its own if its word ends behind
it, and else belongs to the first word behind it. -/
theorem wordsOf_cons {first : Char} (alphanumeric : isAlphanumeric first = true)
    (rest : List Char) :
    wordsOf (first :: rest) =
      if endsWord first rest then [first] :: wordsOf rest
      else extendFirst first (wordsOf rest) := by
  rw [wordsOf, runsOf_cons alphanumeric, List.flatMap_cons]
  cases rest with
  | nil => rfl
  | cons next more =>
      by_cases continues : isAlphanumeric next = true
      · have ends : endsWord first (next :: more) = isWordEdge first next more.head? := by
          rw [endsWord, continues, Bool.not_true, Bool.false_or]
        rw [List.takeWhile_cons_of_pos continues, List.dropWhile_cons_of_pos continues,
          wordsOfRun_cons, isWordEdge_takeWhile, ends, wordsOf, runsOf_cons continues,
          List.flatMap_cons]
        split
        · rw [List.cons_append]
        · rw [extendFirst_append first (wordsOfRun_ne_nil _ _)]
      · rw [List.takeWhile_cons_of_neg continues, List.dropWhile_cons_of_neg continues, endsWord]
        simp [continues, wordsOfRun, wordsOf]

/-- The first word starts with the first letter and goes on with what follows it. -/
theorem exists_first_word {first : Char} (alphanumeric : isAlphanumeric first = true)
    (rest : List Char) :
    ∃ more others, wordsOf (first :: rest) = (first :: more) :: others ∧ more <+: rest := by
  induction rest generalizing first with
  | nil => exact ⟨[], [], by rw [wordsOf_cons alphanumeric]; rfl, List.prefix_refl []⟩
  | cons next rest induction =>
      rw [wordsOf_cons alphanumeric]
      split
      · exact ⟨[], _, rfl, List.nil_prefix⟩
      · rename_i goesOn
        have continues : isAlphanumeric next = true := by
          rw [endsWord, Bool.or_eq_true, not_or] at goesOn
          simpa using goesOn.1
        obtain ⟨more, others, cut, inside⟩ := induction continues
        rw [cut]
        exact ⟨next :: more, others, rfl, List.cons_prefix_cons.mpr ⟨rfl, inside⟩⟩

/-! ## Words -/

/-- A word is a number, an acronym, or lower-case letters with at most one capital before them. -/
inductive IsWord : List Char → Prop
  | digits {word : List Char} (nonempty : word ≠ [])
      (digits : ∀ character ∈ word, character.isDigit = true) : IsWord word
  | capitals {word : List Char} (nonempty : word ≠ [])
      (capitals : ∀ character ∈ word, character.isUpper = true) : IsWord word
  | lower {lead word : List Char} (single : lead.length ≤ 1)
      (capital : ∀ character ∈ lead, character.isUpper = true) (nonempty : word ≠ [])
      (lower : ∀ character ∈ word, character.isLower = true) : IsWord (lead ++ word)

theorem isWord_singleton {character : Char} (alphanumeric : isAlphanumeric character = true) :
    IsWord [character] := by
  have nonempty : [character] ≠ [] := List.cons_ne_nil character []
  rcases kinds_of_isAlphanumeric alphanumeric with ⟨digit, _⟩ | ⟨_, upper, _⟩ | ⟨_, _, lower⟩
  · exact .digits nonempty (by simpa using digit)
  · exact .capitals nonempty (by simpa using upper)
  · exact @IsWord.lower [] _ (Nat.zero_le 1) (List.forall_mem_nil _) nonempty (by simpa using lower)

/-- What goes on with a character: a digit with a digit, a capital with a capital before no
lower-case letter, and a lower-case letter with any letter. -/
theorem kinds_of_joined {first next : Char} {after : Option Char}
    (alphanumeric : isAlphanumeric first = true) (continues : isAlphanumeric next = true)
    (joined : isWordEdge first next after = false) :
    (next.isDigit = true → first.isDigit = true) ∧
      (next.isUpper = true → first.isUpper = true ∧ after.any Char.isLower = false) ∧
      (next.isLower = true → first.isUpper = true ∨ first.isLower = true) := by
  rcases kinds_of_isAlphanumeric alphanumeric with ⟨digit, upper, lower⟩ | ⟨digit, upper, lower⟩ |
    ⟨digit, upper, lower⟩ <;>
  rcases kinds_of_isAlphanumeric continues with ⟨nextDigit, nextUpper, nextLower⟩ |
    ⟨nextDigit, nextUpper, nextLower⟩ | ⟨nextDigit, nextUpper, nextLower⟩ <;>
  simp_all [isWordEdge]

/-- A character that no edge parts from a word makes a longer word with it. -/
theorem IsWord.cons {first next : Char} {more : List Char} {after : Option Char}
    (alphanumeric : isAlphanumeric first = true) (continues : isAlphanumeric next = true)
    (joined : isWordEdge first next after = false)
    (follows : ∀ second ∈ more.head?, after = some second) (word : IsWord (next :: more)) :
    IsWord (first :: next :: more) := by
  obtain ⟨ofDigit, ofUpper, ofLower⟩ := kinds_of_joined alphanumeric continues joined
  have nonempty : first :: next :: more ≠ [] := List.cons_ne_nil first (next :: more)
  generalize whole : next :: more = text at word
  cases word with
  | digits _ digits =>
      subst whole
      have digit := ofDigit (digits next List.mem_cons_self)
      exact .digits nonempty (List.forall_mem_cons.mpr ⟨digit, digits⟩)
  | capitals _ capitals =>
      subst whole
      have upper := (ofUpper (capitals next List.mem_cons_self)).1
      exact .capitals nonempty (List.forall_mem_cons.mpr ⟨upper, capitals⟩)
  | @lower lead word single capital small lower =>
      cases lead with
      | nil =>
          rw [List.nil_append] at whole ⊢
          rcases ofLower (lower next (whole ▸ List.mem_cons_self)) with upper | firstLower
          · exact @IsWord.lower [first] word (Nat.le_refl 1) (by simpa using upper) small lower
          · exact @IsWord.lower [] (first :: word) (Nat.zero_le 1) (List.forall_mem_nil _)
              (List.cons_ne_nil first word) (List.forall_mem_cons.mpr ⟨firstLower, lower⟩)
      | cons capitalLetter rest =>
          -- A capital before the last one of an acronym would have been cut off.
          obtain rfl : rest = [] := List.eq_nil_of_length_eq_zero (by simpa using single)
          obtain ⟨second, others, rfl⟩ := List.exists_cons_of_ne_nil small
          obtain ⟨rfl, rfl⟩ := List.cons.inj whole
          have unlike := (ofUpper (capital next List.mem_cons_self)).2
          rw [follows second rfl, Option.any_some, lower second List.mem_cons_self] at unlike
          cases unlike

theorem isWord_of_mem_wordsOf {spelled word : List Char} (member : word ∈ wordsOf spelled) :
    IsWord word := by
  induction spelled generalizing word with
  | nil => cases member
  | cons first rest induction =>
      by_cases alphanumeric : isAlphanumeric first = true
      · rw [wordsOf_cons alphanumeric] at member
        split at member
        · rcases List.mem_cons.mp member with rfl | member
          · exact isWord_singleton alphanumeric
          · exact induction member
        · rename_i goesOn
          cases rest with
          | nil => exact absurd rfl goesOn
          | cons next rest =>
              obtain ⟨continues, joined⟩ : isAlphanumeric next = true ∧
                  isWordEdge first next rest.head? = false := by
                simpa [endsWord] using goesOn
              obtain ⟨more, others, cut, inside⟩ := exists_first_word continues rest
              rw [cut] at member induction
              rcases List.mem_cons.mp member with rfl | member
              · refine IsWord.cons alphanumeric continues joined ?_ (induction List.mem_cons_self)
                obtain ⟨behind, rfl⟩ := inside
                intro second isSecond
                rw [List.head?_append, Option.mem_def.mp isSecond, Option.some_or]
              · exact induction (List.mem_cons_of_mem _ member)
      · rw [wordsOf_separator (by simpa using alphanumeric)] at member
        exact induction member

/-! ## Cuts -/

/-- Words are cut behind some letters and digits: the first words hold these and no others. -/
def CutBehind (words : List (List Char)) (letters : List Char) : Prop :=
  ∃ before after, words = before ++ after ∧ before.flatten = letters

theorem cutBehind_singleton_cons {first : Char} {words : List (List Char)} {letters : List Char} :
    CutBehind ([first] :: words) (first :: letters) ↔ CutBehind words letters := by
  constructor
  · rintro ⟨before, after, whole, held⟩
    cases before with
    | nil => cases held
    | cons word before =>
        obtain ⟨rfl, rfl⟩ := List.cons.inj whole
        exact ⟨before, after, rfl, (List.cons.inj held).2⟩
  · rintro ⟨before, after, rfl, rfl⟩
    exact ⟨[first] :: before, after, rfl, rfl⟩

theorem cutBehind_extendFirst {first : Char} {words : List (List Char)} {letters : List Char}
    (more : letters ≠ []) :
    CutBehind (extendFirst first words) (first :: letters) ↔ CutBehind words letters := by
  constructor
  · rintro ⟨before, after, whole, held⟩
    cases before with
    | nil => cases held
    | cons word before =>
        cases words with
        | nil =>
            obtain ⟨rfl, none⟩ := List.cons.inj whole
            obtain ⟨rfl, _⟩ := List.append_eq_nil_iff.mp none.symm
            exact absurd (List.cons.inj held).2.symm more
        | cons firstWord words =>
            obtain ⟨rfl, rfl⟩ := List.cons.inj whole
            exact ⟨firstWord :: before, after, rfl, (List.cons.inj held).2⟩
  · rintro ⟨before, after, rfl, held⟩
    cases before with
    | nil => exact absurd held.symm more
    | cons word before => exact ⟨(first :: word) :: before, after, rfl, by rw [← held]; rfl⟩

variable {first : Char} (alphanumeric : isAlphanumeric first = true) (rest : List Char)

include alphanumeric

/-- Whether there is a cut further on does not depend on the first letter. -/
theorem cutBehind_cons {letters : List Char} (more : letters ≠ []) :
    CutBehind (wordsOf (first :: rest)) (first :: letters) ↔ CutBehind (wordsOf rest) letters := by
  rw [wordsOf_cons alphanumeric]
  split
  · exact cutBehind_singleton_cons
  · exact cutBehind_extendFirst more

/-- There is a cut behind the first letter exactly if its word ends there. -/
theorem cutBehind_first :
    CutBehind (wordsOf (first :: rest)) [first] ↔ endsWord first rest = true := by
  constructor
  · rintro ⟨before, after, whole, held⟩
    by_contra goesOn
    cases rest with
    | nil => exact goesOn rfl
    | cons next rest =>
        obtain ⟨continues, _⟩ : isAlphanumeric next = true ∧
            isWordEdge first next rest.head? = false := by
          simpa [endsWord] using goesOn
        obtain ⟨more, others, cut, _⟩ := exists_first_word continues rest
        rw [wordsOf_cons alphanumeric, if_neg goesOn, cut] at whole
        cases before with
        | nil => cases held
        | cons word before =>
            obtain ⟨rfl, _⟩ := List.cons.inj whole
            cases held
  · intro ends
    rw [wordsOf_cons alphanumeric, if_pos ends]
    exact ⟨[[first]], wordsOf rest, rfl, rfl⟩

/-- Words are cut behind a letter or digit exactly if its word ends there. -/
theorem cutBehind_iff (front : List Char) :
    CutBehind (wordsOf (front ++ first :: rest)) ((front ++ [first]).filter isAlphanumeric) ↔
      endsWord first rest = true := by
  induction front with
  | nil =>
      rw [List.nil_append, List.nil_append, List.filter_cons_of_pos alphanumeric]
      exact cutBehind_first alphanumeric rest
  | cons earlier front induction =>
      rw [List.cons_append, List.cons_append, ← induction]
      by_cases kept : isAlphanumeric earlier = true
      · have more : (front ++ [first]).filter isAlphanumeric ≠ [] :=
          List.ne_nil_of_mem (List.mem_filter.mpr ⟨by simp, alphanumeric⟩)
        rw [List.filter_cons_of_pos kept, cutBehind_cons kept _ more]
      · rw [List.filter_cons_of_neg kept, wordsOf_separator (by simpa using kept)]

omit alphanumeric

/-- A word ends behind a character, given what follows it in the text. -/
inductive WordEnds (last : Char) : List Char → Prop
  | atEnd : WordEnds last []
  | atSeparator {next : Char} {rest : List Char} (separates : isAlphanumeric next = false) :
      WordEnds last (next :: rest)
  /-- A number ends or starts. -/
  | atDigits {next : Char} {rest : List Char} (differ : next.isDigit ≠ last.isDigit) :
      WordEnds last (next :: rest)
  /-- Lower-case letters end before a capital. -/
  | atCapital {next : Char} {rest : List Char} (lower : last.isLower = true)
      (upper : next.isUpper = true) : WordEnds last (next :: rest)
  /-- An acronym ends before the capital of a word. -/
  | atAcronym {next after : Char} {rest : List Char} (upper : last.isUpper = true)
      (capital : next.isUpper = true) (lower : after.isLower = true) :
      WordEnds last (next :: after :: rest)

theorem endsWord_iff {last : Char} {rest : List Char} :
    endsWord last rest = true ↔ WordEnds last rest := by
  constructor
  · intro ends
    cases rest with
    | nil => exact .atEnd
    | cons next rest =>
        simp only [endsWord, isWordEdge, Bool.or_eq_true, Bool.not_eq_true', bne_iff_ne,
          Bool.and_eq_true] at ends
        rcases ends with separates | (differ | ⟨upper, lower⟩) | ⟨⟨capital, upper⟩, followed⟩
        · exact .atSeparator separates
        · exact .atDigits differ
        · exact .atCapital lower upper
        · cases rest with
          | nil => cases followed
          | cons after rest => exact .atAcronym upper capital followed
  · intro ends
    cases ends with
    | atEnd => rfl
    | atSeparator separates => simp [endsWord, separates]
    | atDigits differ => simp [endsWord, isWordEdge, differ]
    | atCapital lower upper => simp [endsWord, isWordEdge, lower, upper]
    | atAcronym upper capital lower => simp [endsWord, isWordEdge, upper, capital, lower]

/-! ## Joined words -/

theorem IsWord.ne_nil {word : List Char} (isWord : IsWord word) : word ≠ [] := by
  cases isWord with
  | digits nonempty _ => exact nonempty
  | capitals nonempty _ => exact nonempty
  | lower _ _ nonempty _ => exact List.append_ne_nil_of_right_ne_nil _ nonempty

/-- The first of joined words has no capital. -/
theorem isUpper_head?_joinWords (spelled : List Char) :
    ∀ first ∈ (joinWords (wordsOf spelled)).head?, first.isUpper = false := by
  intro first isFirst
  cases cut : wordsOf spelled with
  | nil =>
      rw [cut] at isFirst
      cases isFirst
  | cons word words =>
      have member : word ∈ wordsOf spelled := cut ▸ List.mem_cons_self
      obtain ⟨start, rest, rfl⟩ := List.exists_cons_of_ne_nil (isWord_of_mem_wordsOf member).ne_nil
      rw [cut] at isFirst
      obtain rfl : start.toLower = first := Option.some.inj isFirst
      exact Char.isUpper_toLower_eq_false start

/-- Cutting a text into words is exact. Nothing is lost but separators, and each word is a number,
an acronym, or lower-case letters with at most one capital before them. There is a cut behind a
letter or digit exactly where the text ends, where a separator or a change from or to digits
follows, where a capital follows a lower-case letter, and before the last capital of an acronym that
a lower-case letter follows. So the camel-case name holds the same letters and digits up to their
case, starts with no capital, and is empty only if there are none. This holds of any spelling, and
the words of a text are those of its transliteration. -/
theorem words_exact [Transliteration] (spelled : List Char) :
    (wordsOf spelled).flatten = spelled.filter isAlphanumeric ∧
    (∀ word ∈ wordsOf spelled, IsWord word) ∧
    (∀ front last rest, spelled = front ++ last :: rest → isAlphanumeric last = true →
      (CutBehind (wordsOf spelled) ((front ++ [last]).filter isAlphanumeric) ↔
        WordEnds last rest)) ∧
    (∀ character ∈ joinWords (wordsOf spelled), isAlphanumeric character = true) ∧
    (∀ first ∈ (joinWords (wordsOf spelled)).head?, first.isUpper = false) ∧
    (joinWords (wordsOf spelled)).map Char.toLower =
      (spelled.filter isAlphanumeric).map Char.toLower ∧
    (joinWords (wordsOf spelled) = [] ↔ spelled.filter isAlphanumeric = []) ∧
    ∀ text, words text = wordsOf (transliterate text) ∧
      camelCase text = joinWords (wordsOf (transliterate text)) := by
  refine ⟨flatten_wordsOf spelled, fun _ => isWord_of_mem_wordsOf, ?_,
    isAlphanumeric_of_mem_joinWords spelled, isUpper_head?_joinWords spelled,
    toLower_joinWords spelled, joinWords_eq_nil_iff, fun text => ⟨words_eq text, camelCase_eq text⟩⟩
  rintro front last rest rfl alphanumeric
  rw [cutBehind_iff alphanumeric, endsWord_iff]

example : wordsOf "user2Id HTTPServer".toList =
    ["user".toList, "2".toList, "Id".toList, "HTTP".toList, "Server".toList] := by
  decide

end ApiCatalog.Identifier
