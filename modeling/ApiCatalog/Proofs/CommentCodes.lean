import ApiCatalog.Proofs.CommentEntries
import ApiCatalog.Text.Spellings

/-!
# Codes in descriptions and in their comments

The codes of a description are read from it as it is written, not from its comment. A carriage
return without a line feed and an escaped line feed break a line of the comment, but do not open an
entry in the description. An entry of the description is one of the comment as well, and the two
have the same entries exactly if the description misses none: `entries_comment_eq_iff`. It misses
none if its lines end in line feeds, with or without a carriage return before them.
-/

namespace ApiCatalog

namespace Enumeration

open Text Identifier Comment

/-! ## Breaks -/

theorem unifyBreaks_feed {rest : List Char} :
    unifyBreaks ('\r' :: '\n' :: rest) = '\n' :: unifyBreaks rest :=
  rfl

theorem unifyBreaks_return {rest : List Char} (noFeed : rest.head? ≠ some '\n') :
    unifyBreaks ('\r' :: rest) = '\n' :: unifyBreaks rest := by
  cases rest with
  | nil => rfl
  | cons next rest =>
      refine unifyBreaks.eq_2 _ fun others same => noFeed ?_
      rw [same]
      rfl

theorem unifyBreaks_escape {rest : List Char} :
    unifyBreaks ('\\' :: 'n' :: rest) = '\n' :: unifyBreaks rest :=
  rfl

theorem unifyBreaks_cons {character : Char} {rest : List Char} (noReturn : character ≠ '\r')
    (noEscape : character = '\\' → rest.head? ≠ some 'n') :
    unifyBreaks (character :: rest) = character :: unifyBreaks rest := by
  refine unifyBreaks.eq_4 character rest (fun _ same _ => noReturn same) noReturn
    fun others same escaped => noEscape same ?_
  rw [escaped]
  rfl

/-- Whether unifying the breaks leaves a character alone, whatever follows it. -/
def IsPlain (character : Char) : Prop :=
  character ≠ '\r' ∧ character ≠ '\\'

theorem unifyBreaks_cons_of_isPlain {character : Char} (rest : List Char)
    (plain : IsPlain character) : unifyBreaks (character :: rest) = character :: unifyBreaks rest :=
  unifyBreaks_cons plain.1 fun escape => absurd escape plain.2

theorem unifyBreaks_append_of_isPlain {front : List Char} (rest : List Char)
    (plain : ∀ character ∈ front, IsPlain character) :
    unifyBreaks (front ++ rest) = front ++ unifyBreaks rest := by
  induction front with
  | nil => rfl
  | cons first front induction =>
      obtain ⟨here, later⟩ := List.forall_mem_cons.mp plain
      rw [List.cons_append, unifyBreaks_cons_of_isPlain _ here, induction later, List.cons_append]

/-- The characters of a class that starts no break are plain. -/
theorem isPlain_of {inClass : Char → Bool} {character : Char}
    (apart : inClass '\r' = false ∧ inClass '\\' = false) (kept : inClass character = true) :
    IsPlain character := by
  constructor
  · rintro rfl
    rw [apart.1] at kept
    cases kept
  · rintro rfl
    rw [apart.2] at kept
    cases kept

theorem isPlain_of_isWordCharacter {character : Char}
    (inWord : isWordCharacter character = true) : IsPlain character :=
  isPlain_of (by decide) inWord

/-- Blanks stay blanks, and what follows them is not affected. -/
theorem unifyBreaks_blanks {blanks : List Char} {next : Char} (rest : List Char)
    (blank : ∀ character ∈ blanks, isBlank character = true) (visible : isBlank next = false) :
    ∃ others, (∀ character ∈ others, isBlank character = true) ∧
      unifyBreaks (blanks ++ next :: rest) = others ++ unifyBreaks (next :: rest) := by
  have feed : isBlank '\n' = true := by decide
  induction blanks using unifyBreaks.induct with
  | case1 blanks induction =>
      obtain ⟨others, areBlank, unified⟩ := induction (List.forall_mem_cons.mp
        (List.forall_mem_cons.mp blank).2).2
      refine ⟨'\n' :: others, List.forall_mem_cons.mpr ⟨feed, areBlank⟩, ?_⟩
      rw [List.cons_append, List.cons_append, unifyBreaks_feed, unified, List.cons_append]
  | case2 blanks noFeed induction =>
      obtain ⟨others, areBlank, unified⟩ := induction (List.forall_mem_cons.mp blank).2
      have noFeedNext : (blanks ++ next :: rest).head? ≠ some '\n' := by
        cases blanks with
        | nil =>
            rintro ⟨⟩
            exact absurd feed (visible ▸ Bool.false_ne_true)
        | cons first blanks =>
            rintro ⟨⟩
            exact noFeed blanks rfl
      refine ⟨'\n' :: others, List.forall_mem_cons.mpr ⟨feed, areBlank⟩, ?_⟩
      rw [List.cons_append, unifyBreaks_return noFeedNext, unified, List.cons_append]
  | case3 blanks induction =>
      exact absurd (blank '\\' List.mem_cons_self) (by decide)
  | case4 first blanks noFeed noReturn noEscape induction =>
      obtain ⟨here, later⟩ := List.forall_mem_cons.mp blank
      obtain ⟨others, areBlank, unified⟩ := induction later
      have plain : IsPlain first := by
        refine ⟨noReturn, ?_⟩
        rintro rfl
        exact absurd here (by decide)
      refine ⟨first :: others, List.forall_mem_cons.mpr ⟨here, areBlank⟩, ?_⟩
      rw [List.cons_append, unifyBreaks_cons_of_isPlain _ plain, unified, List.cons_append]
  | case5 => exact ⟨[], List.forall_mem_nil _, rfl⟩

theorem endsWord_unifyBreaks {text : List Char} (ends : EndsWord text) :
    EndsWord (unifyBreaks text) := by
  have feed : isWordCharacter '\n' = false := by decide
  unfold unifyBreaks
  split
  · exact fun next same => Option.some.inj same ▸ feed
  · exact fun next same => Option.some.inj same ▸ feed
  · exact fun next same => Option.some.inj same ▸ feed
  · exact fun next same => ends next same
  · exact ends

/-- An entry is still read at its place when the breaks are unified. -/
theorem entryAt?_unifyBreaks {text : List Char} {entry : Entry}
    (found : entryAt? text = some entry) : entryAt? (unifyBreaks text) = some entry := by
  obtain ⟨written, remaining, rfl, ends, rfl⟩ := entryAt?_eq_some_iff.mp found
  have plainCode : ∀ character ∈ written.entry.code, IsPlain character := by
    intro character member
    rcases List.mem_append.mp member with inSign | inDigits
    · rcases written.isSign with none | minus
      · rw [none] at inSign
        cases inSign
      · rw [minus] at inSign
        obtain rfl := List.mem_singleton.mp inSign
        exact ⟨by decide, by decide⟩
    · exact isPlain_of (by decide) (written.areDigits character inDigits)
  have wordFirst := (plain_of_isMeaningStart written.starts).1
  obtain ⟨space, blankSpace, spaceUnified⟩ := unifyBreaks_blanks (written.others ++ remaining)
    written.blankSpace (isInner_of_isWordCharacter wordFirst).1
  obtain ⟨gap, blankGap, gapUnified⟩ := unifyBreaks_blanks
    (written.space ++ written.first :: (written.others ++ remaining)) written.blankGap
    (plain_of_isSeparator written.separates).1
  let unified : EntryText := { written with gap, space, blankGap, blankSpace }
  refine entryAt?_eq_some_iff.mpr
    ⟨unified, unifyBreaks remaining, rfl, endsWord_unifyBreaks ends, ?_⟩
  simp only [unified, EntryText.toList, EntryText.afterCode, List.append_assoc, List.cons_append]
  rw [unifyBreaks_append_of_isPlain _ plainCode, gapUnified,
    unifyBreaks_cons_of_isPlain _ (isPlain_of (by decide) written.separates), spaceUnified,
    unifyBreaks_cons_of_isPlain _ (isPlain_of_isWordCharacter wordFirst),
    unifyBreaks_append_of_isPlain _ fun character member =>
      isPlain_of_isWordCharacter (written.continues character member)]
  rfl

/-! ## Missed entries -/

/-- Whether an entry may start after a text: it ends with blanks, if any, after an opener or at its
start. -/
def MayStart (before : List Char) : Prop :=
  ∃ front blanks, before = front ++ blanks ∧ (∀ character ∈ blanks, isBlank character = true) ∧
    ∀ last ∈ front.getLast?, isOpener last = true

/-- Whether an entry starts between two parts of a text. -/
def StartsEntry (before after : List Char) : Prop :=
  MayStart before ∧ (entryAt? after).isSome

/-- Whether a text misses an entry that starts in it once the breaks are unified. -/
def MissesEntry (text : List Char) : Prop :=
  ∃ before after, text = before ++ after ∧
    StartsEntry (unifyBreaks before) (unifyBreaks after) ∧ ¬ StartsEntry before after

/-- Whether an entry may start after a text, given whether one may start before it. -/
def openedAfter (opened : Bool) (text : List Char) : Bool :=
  text.foldl opensAfter opened

theorem openedAfter_append (opened : Bool) (front back : List Char) :
    openedAfter opened (front ++ back) = openedAfter (openedAfter opened front) back :=
  List.foldl_append

theorem openedAfter_true_iff {before : List Char} :
    openedAfter true before = true ↔ MayStart before := by
  induction before using List.reverseRecOn with
  | nil =>
      exact iff_of_true rfl ⟨[], [], rfl, List.forall_mem_nil _, by simp⟩
  | append_singleton before last induction =>
      have step : openedAfter true (before ++ [last]) =
          (isOpener last || (openedAfter true before && isBlank last)) :=
        openedAfter_append true before [last]
      rw [step, Bool.or_eq_true, Bool.and_eq_true, induction]
      constructor
      · rintro (opener | ⟨⟨front, blanks, rfl, blank, opens⟩, lastBlank⟩)
        · exact ⟨before ++ [last], [], by simp, List.forall_mem_nil _, by simpa using opener⟩
        · refine ⟨front, blanks ++ [last], List.append_assoc _ _ _, ?_, opens⟩
          exact List.forall_mem_append.mpr ⟨blank, List.forall_mem_singleton.mpr lastBlank⟩
      · rintro ⟨front, blanks, split, blank, opens⟩
        rcases List.eq_nil_or_concat blanks with rfl | ⟨others, final, rfl⟩
        · rw [List.append_nil] at split
          subst split
          exact .inl (opens last (by simp))
        · rw [List.concat_eq_append, ← List.append_assoc] at split
          obtain ⟨rfl, same⟩ := List.append_inj' split rfl
          obtain rfl := List.singleton_inj.mp same
          rw [List.concat_eq_append] at blank
          obtain ⟨othersBlank, lastBlank⟩ := List.forall_mem_append.mp blank
          exact .inr ⟨⟨front, others, rfl, othersBlank, opens⟩, lastBlank last List.mem_cons_self⟩

/-- Whether a text misses an entry at its first character, given whether one may start there as it
is written and with the breaks unified. -/
def MissesHere (opened unified : Bool) (text : List Char) : Prop :=
  (unified = true ∧ (entryAt? (unifyBreaks text)).isSome) ∧
    ¬ (opened = true ∧ (entryAt? text).isSome)

/-- Whether a text misses an entry, given whether one may start at its first character as it is
written and with the breaks unified. -/
def MissesFrom (opened unified : Bool) (text : List Char) : Prop :=
  ∃ before after, text = before ++ after ∧
    MissesHere (openedAfter opened before) (openedAfter unified (unifyBreaks before)) after

theorem missesFrom_true_iff {text : List Char} :
    MissesFrom true true text ↔ MissesEntry text := by
  simp only [MissesFrom, MissesHere, MissesEntry, StartsEntry, openedAfter_true_iff]

/-! ## Breaks of a text -/

/-- A spelling of the line break, and what follows it. -/
inductive IsBreak : List Char → List Char → Prop
  | feed (rest : List Char) : IsBreak ['\r', '\n'] rest
  | lone {rest : List Char} (noFeed : rest.head? ≠ some '\n') : IsBreak ['\r'] rest
  | escape (rest : List Char) : IsBreak ['\\', 'n'] rest

theorem IsBreak.unifyBreaks_append {mark rest : List Char} (isBreak : IsBreak mark rest) :
    unifyBreaks (mark ++ rest) = '\n' :: unifyBreaks rest := by
  cases isBreak with
  | feed => exact unifyBreaks_feed
  | lone noFeed => exact unifyBreaks_return noFeed
  | escape => exact unifyBreaks_escape

theorem IsBreak.of_append {mark front back : List Char} (isBreak : IsBreak mark (front ++ back)) :
    IsBreak mark front := by
  cases isBreak with
  | feed => exact .feed front
  | lone noFeed =>
      refine .lone fun feed => noFeed ?_
      rw [List.head?_append, feed]
      rfl
  | escape => exact .escape front

/-- No entry starts in a break. -/
theorem IsBreak.entryAt?_eq_none {mark rest : List Char} (isBreak : IsBreak mark rest)
    {after : List Char} (part : after <:+ mark) (inside : after ≠ []) :
    entryAt? (unifyBreaks (after ++ rest)) = none := by
  have whole : after = mark → entryAt? (unifyBreaks (after ++ rest)) = none := by
    rintro rfl
    rw [isBreak.unifyBreaks_append, entryAt?_of_isBlank _ (by decide)]
  -- What is left is the second character of a break of two.
  cases isBreak with
  | feed =>
      obtain equal | rfl : after = ['\r', '\n'] ∨ after = ['\n'] := by
        simpa [List.suffix_cons_iff, inside] using part
      · exact whole equal
      · rw [List.singleton_append, unifyBreaks_cons_of_isPlain rest ⟨by decide, by decide⟩,
          entryAt?_of_isBlank _ (by decide)]
  | lone => exact whole (by simpa [List.suffix_cons_iff, inside] using part)
  | escape =>
      obtain equal | rfl : after = ['\\', 'n'] ∨ after = ['n'] := by
        simpa [List.suffix_cons_iff, inside] using part
      · exact whole equal
      · rw [List.singleton_append, unifyBreaks_cons_of_isPlain rest ⟨by decide, by decide⟩]
        exact Enumeration.entryAt?_eq_none (by decide) fun minus => absurd minus (by decide)

theorem readFrom_append_of_none {front rest : List Char} (opened : Bool)
    (nothing : ∀ after, after <:+ front → after ≠ [] → entryAt? (after ++ rest) = none) :
    readFrom opened (front ++ rest) = readFrom (openedAfter opened front) rest := by
  induction front generalizing opened with
  | nil => rfl
  | cons first front induction =>
      have here := nothing (first :: front) (List.suffix_refl _) (List.cons_ne_nil _ _)
      rw [List.cons_append] at here ⊢
      rw [readFrom_cons_of_none opened here, induction]
      · rfl
      · exact fun after part => nothing after (part.trans (List.suffix_cons first front))

/-! ## Both readings -/

theorem append_eq_append_iff_of_sublist {α : Type} {front others back more : List α}
    (first : front.Sublist others) (second : back.Sublist more) :
    front ++ back = others ++ more ↔ front = others ∧ back = more := by
  constructor
  · intro same
    have lengths := congrArg List.length same
    rw [List.length_append, List.length_append] at lengths
    have short := first.length_le
    have shortBack := second.length_le
    exact ⟨first.eq_of_length (by omega), second.eq_of_length (by omega)⟩
  · rintro ⟨rfl, rfl⟩
    rfl

/-- The entries of a text are some of those with the breaks unified, and all of them exactly if the
text misses none. -/
def Agrees (opened unified : Bool) (text : List Char) : Prop :=
  (readFrom opened text).Sublist (readFrom unified (unifyBreaks text)) ∧
    (readFrom opened text = readFrom unified (unifyBreaks text) ↔ ¬ MissesFrom opened unified text)

theorem IsBreak.readFrom_append {mark rest : List Char} (isBreak : IsBreak mark rest)
    (opened : Bool) : readFrom opened (mark ++ rest) = readFrom (openedAfter opened mark) rest := by
  refine readFrom_append_of_none opened fun after part inside => ?_
  rw [Option.eq_none_iff_forall_ne_some]
  intro entry found
  have kept := entryAt?_unifyBreaks found
  rw [isBreak.entryAt?_eq_none part inside] at kept
  cases kept

/-- What is missed is missed after a break. -/
theorem IsBreak.missesFrom_append_iff {mark rest : List Char} (isBreak : IsBreak mark rest)
    {opened unified : Bool} :
    MissesFrom opened unified (mark ++ rest) ↔ MissesFrom (openedAfter opened mark) true rest := by
  constructor
  · rintro ⟨before, after, split, misses⟩
    rcases List.append_eq_append_iff.mp split with ⟨middle, rfl, rfl⟩ | ⟨middle, inMark, rfl⟩
    · rw [isBreak.of_append.unifyBreaks_append, openedAfter_append] at misses
      exact ⟨middle, after, rfl, misses⟩
    · by_cases inside : middle = []
      · subst inside
        rw [List.append_nil] at inMark
        subst inMark
        exact ⟨[], rest, rfl, ⟨rfl, misses.1.2⟩, misses.2⟩
      · have found := misses.1.2
        rw [isBreak.entryAt?_eq_none ⟨before, inMark.symm⟩ inside] at found
        cases found
  · rintro ⟨before, after, rfl, misses⟩
    refine ⟨mark ++ before, after, (List.append_assoc _ _ _).symm, ?_⟩
    rw [isBreak.of_append.unifyBreaks_append, openedAfter_append]
    exact misses

theorem IsBreak.agrees {mark rest : List Char} {opened : Bool} (isBreak : IsBreak mark rest)
    (unified : Bool) (later : Agrees (openedAfter opened mark) true rest) :
    Agrees opened unified (mark ++ rest) := by
  rw [Agrees, isBreak.missesFrom_append_iff, isBreak.readFrom_append, isBreak.unifyBreaks_append,
    readFrom_feed]
  exact later

/-- What is missed of a text is missed at its first character or after it. -/
theorem missesFrom_cons_iff {character : Char} {rest : List Char} {opened unified : Bool}
    (noReturn : character ≠ '\r') (noEscape : character = '\\' → rest.head? ≠ some 'n') :
    MissesFrom opened unified (character :: rest) ↔
      MissesHere opened unified (character :: rest) ∨
        MissesFrom (opensAfter opened character) (opensAfter unified character) rest := by
  have unifiedFront {front : List Char} (isFront : front <+: rest) :
      unifyBreaks (character :: front) = character :: unifyBreaks front := by
    refine unifyBreaks_cons noReturn fun escape next => noEscape escape ?_
    obtain ⟨back, rfl⟩ := isFront
    rw [List.head?_append, next]
    rfl
  constructor
  · rintro ⟨before, after, split, misses⟩
    cases before with
    | nil =>
        rw [List.nil_append] at split
        subst split
        exact .inl misses
    | cons first before =>
        obtain ⟨rfl, rfl⟩ := List.cons.inj split
        rw [unifiedFront (List.prefix_append _ _)] at misses
        exact .inr ⟨before, after, rfl, misses⟩
  · rintro (misses | ⟨before, after, rfl, misses⟩)
    · exact ⟨[], character :: rest, rfl, misses⟩
    · refine ⟨character :: before, after, rfl, ?_⟩
      rw [unifiedFront (List.prefix_append _ _)]
      exact misses

/-- The entry that starts with a text, if one may. -/
def entriesHere (opened : Bool) (text : List Char) : List Entry :=
  if opened then (entryAt? text).toList else []

theorem readFrom_cons (opened : Bool) (character : Char) (rest : List Char) :
    readFrom opened (character :: rest) =
      entriesHere opened (character :: rest) ++ readFrom (opensAfter opened character) rest :=
  rfl

theorem entriesHere_unifyBreaks {opened unified : Bool} (stays : opened = true → unified = true)
    (text : List Char) :
    (entriesHere opened text).Sublist (entriesHere unified (unifyBreaks text)) ∧
      (entriesHere opened text = entriesHere unified (unifyBreaks text) ↔
        ¬ MissesHere opened unified text) := by
  cases opened with
  | false =>
      cases unified <;> cases entryAt? (unifyBreaks text) <;> simp [entriesHere, MissesHere, *]
  | true =>
      obtain rfl := stays rfl
      cases found : entryAt? text with
      | none => cases entryAt? (unifyBreaks text) <;> simp [entriesHere, MissesHere, *]
      | some entry => simp [entriesHere, MissesHere, found, entryAt?_unifyBreaks found]

theorem agrees_cons {character : Char} {rest : List Char} {opened unified : Bool}
    (noReturn : character ≠ '\r') (noEscape : character = '\\' → rest.head? ≠ some 'n')
    (stays : opened = true → unified = true)
    (later : Agrees (opensAfter opened character) (opensAfter unified character) rest) :
    Agrees opened unified (character :: rest) := by
  have first := entriesHere_unifyBreaks stays (character :: rest)
  rw [unifyBreaks_cons noReturn noEscape] at first
  rw [Agrees, missesFrom_cons_iff noReturn noEscape, not_or, unifyBreaks_cons noReturn noEscape,
    readFrom_cons, readFrom_cons]
  exact ⟨first.1.append later.1,
    (append_eq_append_iff_of_sublist first.1 later.1).trans (and_congr first.2 later.2)⟩

theorem agrees_of_imp {opened unified : Bool} (stays : opened = true → unified = true)
    (text : List Char) : Agrees opened unified text := by
  induction text using unifyBreaks.induct generalizing opened unified with
  | case1 rest induction => exact (IsBreak.feed rest).agrees unified (induction fun _ => rfl)
  | case2 rest noFeed induction =>
      have noFeed : rest.head? ≠ some '\n' := by
        intro feed
        obtain ⟨others, rfl⟩ := List.head?_eq_some_iff.mp feed
        exact noFeed others rfl
      exact (IsBreak.lone noFeed).agrees unified (induction fun _ => rfl)
  | case3 rest induction => exact (IsBreak.escape rest).agrees unified (induction fun _ => rfl)
  | case4 character rest _ noReturn noEscape induction =>
      refine agrees_cons noReturn (fun escape next => ?_) stays (induction fun opens => ?_)
      · obtain ⟨others, rfl⟩ := List.head?_eq_some_iff.mp next
        exact noEscape others escape rfl
      · cases opened with
        | true => rwa [stays rfl]
        | false =>
            rw [opensAfter, Bool.false_and, Bool.or_false] at opens
            rw [opensAfter, opens, Bool.true_or]
  | case5 =>
      refine ⟨.slnil, iff_of_true rfl ?_⟩
      rintro ⟨before, after, split, ⟨_, found⟩, _⟩
      rw [(List.append_eq_nil_iff.mp split.symm).2] at found
      cases found

/-! ## Line feeds -/

/-- Whether a line feed ends each line, with or without a carriage return before it. -/
def BreaksAtFeeds (text : List Char) : Prop :=
  (∀ front back, text = front ++ '\r' :: back → back.head? = some '\n') ∧
    ∀ front back, text ≠ front ++ '\\' :: 'n' :: back

theorem BreaksAtFeeds.of_append (front : List Char) {back : List Char}
    (feeds : BreaksAtFeeds (front ++ back)) : BreaksAtFeeds back := by
  refine ⟨fun before after split => feeds.1 (front ++ before) after ?_,
    fun before after split => feeds.2 (front ++ before) after ?_⟩ <;>
    rw [split, List.append_assoc]

theorem BreaksAtFeeds.readAlike {text : List Char} (feeds : BreaksAtFeeds text) :
    ReadAlike text (unifyBreaks text) := by
  induction text using unifyBreaks.induct with
  | case1 rest induction =>
      have returned : ReadAlike (['\r'] ++ '\n' :: rest) ('\n' :: rest) :=
        readAlike_blanks_feed rest (List.forall_mem_singleton.mpr (by decide))
      have later := induction (BreaksAtFeeds.of_append ['\r', '\n'] feeds)
      exact returned.trans (later.append ['\n'])
  | case2 rest noFeed =>
      obtain ⟨others, rfl⟩ := List.head?_eq_some_iff.mp (feeds.1 [] rest rfl)
      exact absurd rfl (noFeed others)
  | case3 rest => exact absurd rfl (feeds.2 [] rest)
  | case4 character rest _ noReturn noEscape induction =>
      have later := induction (BreaksAtFeeds.of_append [character] feeds)
      have whole : unifyBreaks (character :: rest) = character :: unifyBreaks rest := by
        refine unifyBreaks_cons noReturn fun escape next => ?_
        obtain ⟨others, rfl⟩ := List.head?_eq_some_iff.mp next
        exact noEscape others escape rfl
      rw [whole]
      exact later.append [character]
  | case5 => exact .refl []

/-! ## Descriptions and comments -/

/-- The entries of a description are some of those of its comment, in the same order. They are the
same exactly if the description misses none, and then so are the symbols. It misses none if a line
feed ends each of its lines. -/
theorem entries_comment_eq_iff [Transliteration] {description comment : String}
    (made : Comment.ofDescription? description = some comment) :
    (entries description.toList).Sublist (entries comment.toList) ∧
      (entries description.toList = entries comment.toList ↔ ¬ MissesEntry description.toList) ∧
      (¬ MissesEntry description.toList → ofDescription description = ofDescription comment) ∧
      (BreaksAtFeeds description.toList → ¬ MissesEntry description.toList) := by
  obtain ⟨some, all⟩ := agrees_of_imp (fun _ => rfl : true = true → true = true) description.toList
  rw [missesFrom_true_iff] at all
  rw [← entries_eq, ← entries_eq, ← entries_comment made] at some all
  refine ⟨some, all, fun none => ?_, fun feeds => all.mp ?_⟩
  · rw [ofDescription, ofDescription, all.mpr none]
  · rw [entries_comment made, entries_eq, entries_eq]
    exact feeds.readAlike.readFrom_eq true

attribute [local instance] Text.tabulated

theorem entries_comment_eq_iff_returned :
    Comment.ofDescription? "Codes:\r\n 1 = Open\r2 = Closed" =
        some "Codes:\n1 = Open\n2 = Closed" ∧
      MissesEntry "Codes:\r\n 1 = Open\r2 = Closed".toList := by
  have made : Comment.ofDescription? "Codes:\r\n 1 = Open\r2 = Closed" =
      some "Codes:\n1 = Open\n2 = Closed" := by
    decide +kernel
  refine ⟨made, ?_⟩
  by_contra none
  exact absurd ((entries_comment_eq_iff made).2.1.mpr none) (by decide +kernel)

/-- A carriage return alone, and an escaped line feed, hide the second code of a description. -/
theorem returned_code_missed :
    Comment.ofDescription? "1 = Open\r2 = Closed" = some "1 = Open\n2 = Closed" ∧
      Comment.ofDescription? "1 = Open\\n2 = Closed" = some "1 = Open\n2 = Closed" ∧
      ofDescription "1 = Open\n2 = Closed" =
        [⟨"OPEN", .number "1"⟩, ⟨"CLOSED", .number "2"⟩] ∧
      ofDescription "1 = Open\r2 = Closed" = [⟨"OPEN", .number "1"⟩] ∧
      ofDescription "1 = Open\\n2 = Closed" = [⟨"OPEN", .number "1"⟩] := by
  decide +kernel

end Enumeration

end ApiCatalog
