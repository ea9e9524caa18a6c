import ApiCatalog.Proofs.ConstantNames
import ApiCatalog.Proofs.Runs
import ApiCatalog.Text.Spellings

/-!
# Sanitized texts

A text can be sanitized pass by pass: what may not stand in a name becomes underscores, underscores
in a row become one, and the underscores at the ends go. No pass touches a run of letters and
digits, and what the passes leave is tidy: its underscores stand alone between two runs. A tidy text
is its runs joined by underscores, so the passes give what `sanitize` gives, and give it again when
repeated. Setting capitals apart and writing all letters as capitals leaves a text tidy, so the name
of a symbol has single underscores too: `sanitize_exact`.
-/

namespace ApiCatalog.Identifier

open Text

/-! ## Passes -/

/-- Whether a character may stand in a sanitized text. -/
def isNamePart (character : Char) : Bool :=
  isAlphanumeric character || character == '_'

/-- Every run of characters with a property replaced by one underscore. -/
def replaceRuns (drops : Char → Bool) : List Char → List Char
  | [] => []
  | character :: rest =>
      if drops character then
        if rest.head?.any drops then replaceRuns drops rest else '_' :: replaceRuns drops rest
      else
        character :: replaceRuns drops rest

/-- A text that is spelled in ASCII, sanitized in three passes. -/
def condense (spelled : List Char) : List Char :=
  let replaced := replaceRuns (fun character => !isNamePart character) spelled
  stripped (· == '_') (replaceRuns (· == '_') replaced)

section

variable {keep drops : Char → Bool}

/-- If nothing of a run is replaced, a text starts with one as it did before. -/
theorem any_head?_replaceRuns (apart : ∀ character, drops character = true → keep character = false)
    (mark : keep '_' = false) (text : List Char) :
    (replaceRuns drops text).head?.any keep = text.head?.any keep := by
  induction text with
  | nil => rfl
  | cons character rest induction =>
      rw [replaceRuns]
      split
      · rename_i dropped
        have here := apart character dropped
        split
        · rename_i continues
          rw [induction]
          cases rest with
          | nil => cases continues
          | cons next more =>
              have there := apart next (by simpa using continues)
              simp [here, there]
        · simp [here, mark]
      · rfl

/-- If nothing of a run is replaced, the runs stay. -/
theorem runsOf_replaceRuns (apart : ∀ character, drops character = true → keep character = false)
    (mark : keep '_' = false) (text : List Char) :
    runsOf keep (replaceRuns drops text) = runsOf keep text := by
  induction text with
  | nil => rfl
  | cons character rest induction =>
      rw [replaceRuns]
      split
      · rename_i dropped
        rw [runsOf_cons_of_not (apart character dropped)]
        split
        · exact induction
        · rw [runsOf_cons_of_not mark, induction]
      · exact runsOf_cons_congr induction (any_head?_replaceRuns apart mark rest)

end

/-! ## Tidy texts -/

/-- Two characters that may stand side by side: not two underscores. -/
def Apart (first second : Char) : Prop :=
  ¬(first = '_' ∧ second = '_')

/-- Letters, digits and single underscores between them. -/
structure Tidy (text : List Char) : Prop where
  parts : ∀ character ∈ text, isNamePart character = true
  apart : text.IsChain Apart
  opens : text.head? ≠ some '_'
  closes : text.getLast? ≠ some '_'

theorem isAlphanumeric_of_isNamePart {character : Char} (part : isNamePart character = true)
    (visible : character ≠ '_') : isAlphanumeric character = true := by
  simpa [isNamePart, visible] using part

/-- The joined runs of a text that starts with one. -/
theorem intercalate_runsOf_cons {keep : Char → Bool} {first : Char} (kept : keep first = true)
    (rest : List Char) :
    ['_'].intercalate (runsOf keep (first :: rest)) =
      if rest.head?.any keep = true ∨ runsOf keep rest = [] then
        first :: ['_'].intercalate (runsOf keep rest)
      else
        first :: '_' :: ['_'].intercalate (runsOf keep rest) := by
  rw [runsOf_cons_eq kept]
  cases runsOf keep rest with
  | nil => simp
  | cons run runs =>
      by_cases continues : rest.head?.any keep = true
      · simp only [continues, if_true, true_or, intercalate_cons, List.cons_append]
      · simp only [continues, Bool.false_eq_true, reduceCtorEq, or_self, if_false,
          List.intercalate_cons_cons, List.cons_append, List.nil_append]

/-- A text of single underscores, none of them at the end, is its runs joined by them, but for an
underscore at its start. -/
theorem intercalate_runsOf_of_apart {text : List Char}
    (parts : ∀ character ∈ text, isNamePart character = true) (apart : text.IsChain Apart)
    (closes : text.getLast? ≠ some '_') :
    ['_'].intercalate (runsOf isAlphanumeric text) =
      if text.head? = some '_' then text.tail else text := by
  -- Texts with an underscore at the start are what the induction meets behind a run.
  induction text with
  | nil => rfl
  | cons first rest induction =>
      obtain ⟨here, later⟩ := List.forall_mem_cons.mp parts
      obtain ⟨follows, chain⟩ := List.isChain_cons.mp apart
      cases rest with
      | nil =>
          have visible : first ≠ '_' := by simpa using closes
          simp [runsOf, visible, isAlphanumeric_of_isNamePart here visible]
      | cons next more =>
          rw [List.getLast?_cons_cons] at closes
          have read := induction later chain closes
          by_cases mark : first = '_'
          · have opens : next ≠ '_' := fun again => follows next rfl ⟨mark, again⟩
            rw [mark, runsOf_cons_of_not (by decide), read, if_neg (by simpa using opens)]
            simp
          · rw [intercalate_runsOf_cons (isAlphanumeric_of_isNamePart here mark)]
            by_cases gap : next = '_'
            · subst gap
              rw [List.head?_cons, if_pos rfl, List.tail_cons] at read
              have goesOn : runsOf isAlphanumeric ('_' :: more) ≠ [] := by
                intro none
                rw [none, List.intercalate_nil] at read
                exact closes (read ▸ rfl)
              rw [if_neg (by simpa [isAlphanumeric] using goesOn), read]
              simp [mark]
            · have continues := isAlphanumeric_of_isNamePart (later next List.mem_cons_self) gap
              rw [if_pos (.inl (by simpa using continues)), read]
              simp [mark, gap]

theorem Tidy.intercalate_runsOf {text : List Char} (tidy : Tidy text) :
    ['_'].intercalate (runsOf isAlphanumeric text) = text := by
  rw [intercalate_runsOf_of_apart tidy.parts tidy.apart tidy.closes, if_neg tidy.opens]

/-! ## What the passes leave -/

theorem mem_replaceRuns {drops : Char → Bool} {text : List Char} {character : Char}
    (member : character ∈ replaceRuns drops text) :
    character = '_' ∨ character ∈ text ∧ drops character = false := by
  induction text with
  | nil => cases member
  | cons first rest induction =>
      have later (member : character ∈ replaceRuns drops rest) :
          character = '_' ∨ character ∈ first :: rest ∧ drops character = false :=
        (induction member).imp_right (And.imp_left (List.mem_cons_of_mem first))
      rw [replaceRuns] at member
      split at member
      · split at member
        · exact later member
        · exact (List.mem_cons.mp member).elim .inl later
      · rename_i kept
        rcases List.mem_cons.mp member with rfl | member
        · exact .inr ⟨List.mem_cons_self, Bool.eq_false_iff.mpr kept⟩
        · exact later member

theorem head?_replaceRuns {drops : Char → Bool} {text : List Char}
    (opens : text.head?.any drops = false) : (replaceRuns drops text).head? = text.head? := by
  cases text with
  | nil => rfl
  | cons first rest =>
      have kept : drops first = false := opens
      simp [replaceRuns, kept]

/-- No two underscores stand side by side once their runs are replaced. -/
theorem isChain_replaceRuns (text : List Char) :
    (replaceRuns (· == '_') text).IsChain Apart := by
  induction text with
  | nil => exact .nil
  | cons first rest induction =>
      rw [replaceRuns]
      split
      · split
        · exact induction
        · rename_i stops
          have opens := head?_replaceRuns (Bool.eq_false_iff.mpr stops)
          refine List.isChain_cons.mpr ⟨fun next isNext => ?_, induction⟩
          rintro ⟨-, rfl⟩
          rw [opens] at isNext
          rw [Option.mem_def.mp isNext] at stops
          exact stops rfl
      · rename_i visible
        refine List.isChain_cons.mpr ⟨fun _ _ both => ?_, induction⟩
        exact visible (by simpa using both.1)

theorem tidy_condense (spelled : List Char) : Tidy (condense spelled) := by
  let replaced := replaceRuns (fun character => !isNamePart character) spelled
  let collapsed := replaceRuns (· == '_') replaced
  obtain ⟨before, after, whole, -, -⟩ := stripped_eq_append (· == '_') collapsed
  obtain ⟨opens, closes⟩ := ends_stripped (· == '_') collapsed
  have chain : collapsed.IsChain Apart := isChain_replaceRuns replaced
  have inside : ∀ character ∈ condense spelled, character ∈ collapsed := by
    intro character member
    rw [whole]
    exact List.mem_append_right before (List.mem_append_left after member)
  refine ⟨fun character member => ?_, ?_, ?_, ?_⟩
  · rcases mem_replaceRuns (inside character member) with rfl | ⟨left, -⟩
    · rfl
    · rcases mem_replaceRuns left with rfl | ⟨-, part⟩
      · rfl
      · simpa using part
  · rw [whole] at chain
    exact chain.right_of_append.left_of_append
  · exact fun mark => absurd (opens '_' mark) (by decide)
  · exact fun mark => absurd (closes '_' mark) (by decide)

/-- No pass touches a run. -/
theorem runsOf_condense (spelled : List Char) :
    runsOf isAlphanumeric (condense spelled) = runsOf isAlphanumeric spelled := by
  let replaced := replaceRuns (fun character => !isNamePart character) spelled
  let collapsed := replaceRuns (· == '_') replaced
  obtain ⟨before, after, whole, dropsBefore, dropsAfter⟩ := stripped_eq_append (· == '_') collapsed
  have separates (character : Char) (mark : (character == '_') = true) :
      isAlphanumeric character = false := by
    rw [beq_iff_eq.mp mark]
    rfl
  have excludes (character : Char) (unpart : (!isNamePart character) = true) :
      isAlphanumeric character = false := by
    rw [Bool.not_eq_true', isNamePart, Bool.or_eq_false_iff] at unpart
    exact unpart.1
  calc runsOf isAlphanumeric (condense spelled)
      = runsOf isAlphanumeric collapsed := by
        rw [whole, runsOf_gap_append fun character member =>
          separates character (dropsBefore character member),
          runsOf_append_gap fun character member =>
          separates character (dropsAfter character member)]
        rfl
    _ = runsOf isAlphanumeric replaced := runsOf_replaceRuns separates rfl replaced
    _ = runsOf isAlphanumeric spelled := runsOf_replaceRuns excludes rfl spelled

/-- The passes join the runs of a text: they leave it tidy, and its runs as they are. -/
theorem condense_eq (spelled : List Char) :
    condense spelled = ['_'].intercalate (runsOf isAlphanumeric spelled) := by
  rw [← runsOf_condense, (tidy_condense spelled).intercalate_runsOf]

theorem Tidy.condense_eq {text : List Char} (tidy : Tidy text) : condense text = text := by
  rw [Identifier.condense_eq, tidy.intercalate_runsOf]

/-! ## Capitals set apart -/

/-- Where a capital is set apart, there is no underscore yet. -/
theorem ne_underscore_of_edge {first second : Char}
    (edge : ((first.isLower || first.isDigit) && second.isUpper) = true) :
    first ≠ '_' ∧ second ≠ '_' := by
  obtain ⟨small, capital⟩ := Bool.and_eq_true_iff.mp edge
  constructor
  · rintro rfl
    cases small
  · rintro rfl
    cases capital

theorem head?_markCapitals (text : List Char) : (markCapitals text).head? = text.head? := by
  fun_induction markCapitals text <;> rfl

theorem getLast?_markCapitals (text : List Char) :
    (markCapitals text).getLast? = text.getLast? := by
  fun_induction markCapitals text with
  | case1 first second rest edge induction =>
      rw [List.getLast?_cons, List.getLast?_cons, induction, List.getLast?_cons_cons]
      simp [List.getLast?_cons]
  | case2 first second rest noEdge induction =>
      rw [List.getLast?_cons, induction, List.getLast?_cons_cons]
      simp [List.getLast?_cons]
  | case3 => rfl

/-- Nothing is lost, and nothing is added but underscores. -/
theorem filter_markCapitals (text : List Char) :
    (markCapitals text).filter (· != '_') = text.filter (· != '_') := by
  fun_induction markCapitals text with
  | case1 first second rest edge induction =>
      simp [List.filter_cons, induction]
  | case2 first second rest noEdge induction =>
      simp [List.filter_cons, induction]
  | case3 => rfl

theorem isChain_markCapitals {text : List Char} (apart : text.IsChain Apart) :
    (markCapitals text).IsChain Apart := by
  fun_induction markCapitals text with
  | case1 first second rest edge induction =>
      obtain ⟨here, next⟩ := ne_underscore_of_edge edge
      have follows : ∀ next ∈ (markCapitals (second :: rest)).head?, Apart '_' next := by
        rw [head?_markCapitals]
        rintro _ ⟨⟩ ⟨-, mark⟩
        exact next mark
      refine List.isChain_cons_cons.mpr ⟨fun both => here both.1, ?_⟩
      exact List.isChain_cons.mpr ⟨follows, induction apart.tail⟩
  | case2 first second rest noEdge induction =>
      obtain ⟨here, later⟩ := List.isChain_cons.mp apart
      refine List.isChain_cons.mpr ⟨?_, induction later⟩
      rwa [head?_markCapitals]
  | case3 => exact apart

theorem Tidy.markCapitals {text : List Char} (tidy : Tidy text) : Tidy (markCapitals text) where
  parts character member := by
    rcases mem_markCapitals member with rfl | member
    · rfl
    · exact tidy.parts character member
  apart := isChain_markCapitals tidy.apart
  opens := by
    rw [head?_markCapitals]
    exact tidy.opens
  closes := by
    rw [getLast?_markCapitals]
    exact tidy.closes

/-! ## Upper case -/

/-- A test that small letters pass as their capitals do does not depend on the case. -/
theorem test_toUpper (test : Char → Bool)
    (checked : ∀ code < 128, test (Char.ofNat code).toUpper = test (Char.ofNat code))
    (character : Char) : test character.toUpper = test character := by
  by_cases lower : character.isLower = true
  · have small := toNat_lt_of_isAlphanumeric (isAlphanumeric_of_isLower lower)
    exact of_ascii character small checked
  · rw [Char.toUpper_eq_of_not_isLower lower]

theorem toUpper_eq_underscore_iff {character : Char} :
    character.toUpper = '_' ↔ character = '_' := by
  have same := test_toUpper (· == '_') (by decide) character
  rw [← beq_iff_eq, same, beq_iff_eq]

theorem Tidy.map_toUpper {text : List Char} (tidy : Tidy text) : Tidy (text.map Char.toUpper) where
  parts := by
    refine List.forall_mem_map.mpr fun character member => ?_
    rw [test_toUpper isNamePart (by decide), tidy.parts character member]
  apart := by
    refine (List.isChain_map Char.toUpper).mpr (tidy.apart.imp fun first second apart both => ?_)
    exact apart (both.imp toUpper_eq_underscore_iff.mp toUpper_eq_underscore_iff.mp)
  opens := by
    rw [List.head?_map]
    simpa [toUpper_eq_underscore_iff] using tidy.opens
  closes := by
    rw [List.getLast?_map]
    simpa [toUpper_eq_underscore_iff] using tidy.closes

theorem filter_map_toUpper (text : List Char) :
    (text.map Char.toUpper).filter (· != '_') = (text.filter (· != '_')).map Char.toUpper := by
  have same : (· != '_') ∘ Char.toUpper = (· != '_') := by
    funext character
    exact test_toUpper (· != '_') (by decide) character
  rw [List.filter_map, same]

/-! ## Names -/

/-- The constant-case name of a sanitized text. -/
def constantName (sanitized : List Char) : List Char :=
  match (markCapitals sanitized).map Char.toUpper with
  | [] => ['E', 'M', 'P', 'T', 'Y']
  | first :: rest => if first.isDigit then '_' :: first :: rest else first :: rest

theorem constantName_eq {sanitized : List Char} (nonempty : sanitized ≠ []) :
    constantName sanitized =
      (if sanitized.head?.any Char.isDigit then ['_'] else []) ++
        (markCapitals sanitized).map Char.toUpper := by
  obtain ⟨first, rest, rfl⟩ := List.exists_cons_of_ne_nil nonempty
  obtain ⟨marked, split⟩ : ∃ marked, markCapitals (first :: rest) = first :: marked :=
    List.head?_eq_some_iff.mp (head?_markCapitals (first :: rest))
  have digit := test_toUpper Char.isDigit (by decide) first
  rw [constantName, split, List.map_cons]
  by_cases numeric : first.isDigit = true <;> simp [digit, numeric]

/-- In a tidy text the letters and digits are all but the underscores. -/
theorem Tidy.filter_eq {text : List Char} (tidy : Tidy text) :
    text.filter (· != '_') = text.filter isAlphanumeric := by
  refine List.filter_congr fun character member => ?_
  have part := tidy.parts character member
  by_cases mark : character = '_'
  · subst mark
    rfl
  · rw [isAlphanumeric_of_isNamePart part mark]
    simpa using mark

/-- A sanitized text starts with the first letter or digit. -/
theorem head?_condense (spelled : List Char) :
    (condense spelled).head? = spelled.find? isAlphanumeric := by
  have tidy := tidy_condense spelled
  rw [← List.head?_filter, ← flatten_runsOf, ← runsOf_condense, flatten_runsOf]
  cases split : condense spelled with
  | nil => rfl
  | cons first rest =>
      rw [split] at tidy
      have visible : first ≠ '_' := by simpa using tidy.opens
      have kept := isAlphanumeric_of_isNamePart (tidy.parts first List.mem_cons_self) visible
      rw [List.filter_cons_of_pos kept]
      rfl

theorem condense_eq_nil_iff {spelled : List Char} :
    condense spelled = [] ↔ runsOf isAlphanumeric spelled = [] := by
  constructor
  · intro none
    rw [← runsOf_condense, none]
    rfl
  · intro none
    rw [condense_eq, none]
    rfl

theorem toNat_lt_of_isNamePart {character : Char} (part : isNamePart character = true) :
    character.toNat < 128 := by
  by_cases mark : character = '_'
  · subst mark
    decide
  · exact toNat_lt_of_isAlphanumeric (isAlphanumeric_of_isNamePart part mark)

/-! ## Names of sanitized texts -/

/-- What stands in a name behind the underscore before a digit. -/
theorem tidy_marked (spelled : List Char) :
    Tidy ((markCapitals (condense spelled)).map Char.toUpper) :=
  (tidy_condense spelled).markCapitals.map_toUpper

section

variable {spelled : List Char} (runs : runsOf isAlphanumeric spelled ≠ [])

include runs

theorem constantName_condense :
    constantName (condense spelled) =
      (if (spelled.find? isAlphanumeric).any Char.isDigit then ['_'] else []) ++
        (markCapitals (condense spelled)).map Char.toUpper := by
  rw [constantName_eq (mt condense_eq_nil_iff.mp runs), head?_condense]

theorem filter_constantName :
    (constantName (condense spelled)).filter (· != '_') =
      (runsOf isAlphanumeric spelled).flatten.map Char.toUpper := by
  have opening (digit : Bool) : (if digit then ['_'] else []).filter (· != '_') = [] := by
    cases digit <;> rfl
  rw [constantName_condense runs, List.filter_append, opening, List.nil_append, filter_map_toUpper,
    filter_markCapitals, (tidy_condense spelled).filter_eq, ← flatten_runsOf, runsOf_condense]

theorem isChain_constantName : (constantName (condense spelled)).IsChain Apart := by
  have marked := tidy_marked spelled
  rw [constantName_condense runs]
  split
  · refine List.isChain_cons.mpr ⟨fun next isNext both => ?_, marked.apart⟩
    exact marked.opens (both.2 ▸ isNext)
  · exact marked.apart

theorem getLast?_constantName : (constantName (condense spelled)).getLast? ≠ some '_' := by
  have nonempty : (markCapitals (condense spelled)).map Char.toUpper ≠ [] := by
    rw [Ne, List.map_eq_nil_iff, ← List.head?_eq_none_iff, head?_markCapitals,
      List.head?_eq_none_iff, condense_eq_nil_iff]
    exact runs
  rw [constantName_condense runs, List.getLast?_append_of_ne_nil _ nonempty]
  exact (tidy_marked spelled).closes

theorem head?_constantName :
    (constantName (condense spelled)).head? = some '_' ↔
      ∃ digit, spelled.find? isAlphanumeric = some digit ∧ digit.isDigit = true := by
  rw [constantName_condense runs, ← Option.any_eq_true]
  split
  · rename_i numeric
    exact iff_of_true rfl numeric
  · rename_i literal
    exact iff_of_false (tidy_marked spelled).opens literal

end

/-- Sanitizing keeps exactly the runs of letters and digits. The three passes leave the maximal runs
of a text, joined by single underscores; nothing is left exactly if there are none, and sanitizing
once more, with any transliteration that keeps ASCII, changes nothing. A text without runs is named
`EMPTY`. The name of any other text, read without underscores, is its runs in upper case; no two of
its underscores stand side by side, none stands at its end, and one stands at its start exactly if
the first letter or digit is a digit. This holds of any spelling, and what is sanitized and named is
the transliteration of a text. -/
theorem sanitize_exact [Transliteration] (spelled : List Char) :
    let runs := runsOf isAlphanumeric spelled
    let sanitized := condense spelled
    let name := constantName sanitized
    (∀ others, MaximalRuns isAlphanumeric spelled others ↔ others = runs) ∧
    sanitized = ['_'].intercalate runs ∧
    (sanitized = [] ↔ ∀ character ∈ spelled, isAlphanumeric character = false) ∧
    (∀ transliteration : List Char → List Char,
      (∀ ascii : List Char, (∀ character ∈ ascii, character.toNat < 128) →
        transliteration ascii = ascii) →
      condense (transliteration sanitized) = sanitized) ∧
    (runs = [] → name = "EMPTY".toList) ∧
    (runs ≠ [] →
      name.filter (· != '_') = runs.flatten.map Char.toUpper ∧
      name.IsChain Apart ∧
      name.getLast? ≠ some '_' ∧
      (name.head? = some '_' ↔
        ∃ digit, spelled.find? isAlphanumeric = some digit ∧ digit.isDigit = true)) ∧
    ∀ text, sanitize text = condense (transliterate text) ∧
      sanitize (sanitize text) = sanitize text ∧
      symbolName text = constantName (condense (transliterate text)) := by
  have tidy := tidy_condense spelled
  refine ⟨fun _ => maximalRuns_iff, condense_eq spelled,
    condense_eq_nil_iff.trans runsOf_eq_nil_iff, ?_, ?_, ?_, ?_⟩
  · intro transliteration keepsAscii
    rw [keepsAscii _ fun character member => toNat_lt_of_isNamePart (tidy.parts character member),
      tidy.condense_eq]
  · intro none
    rw [condense_eq_nil_iff.mpr none]
    rfl
  · intro runs
    exact ⟨filter_constantName runs, isChain_constantName runs, getLast?_constantName runs,
      head?_constantName runs⟩
  · intro text
    have same (text : List Char) : sanitize text = condense (transliterate text) :=
      (condense_eq (transliterate text)).symm
    have again := tidy_condense (transliterate text)
    refine ⟨same text, ?_, ?_⟩
    · rw [same, same, transliterate_of_ascii fun character member =>
        toNat_lt_of_isNamePart (again.parts character member), again.condense_eq]
    · rw [← same]
      rfl

attribute [local instance] Text.tabulated

/-- A text with a digit in front and underscores of its own. -/
def numbered : List Char :=
  "__1st camelCase!".toList

theorem sanitize_exact_numbered :
    (∀ ascii : List Char, (∀ character ∈ ascii, character.toNat < 128) →
        transliterate ascii = ascii) ∧
      condense (transliterate (condense numbered)) = condense numbered ∧
      runsOf isAlphanumeric numbered ≠ [] ∧
      (constantName (condense numbered)).filter (· != '_') = "1STCAMELCASE".toList ∧
      (constantName (condense numbered)).head? = some '_' ∧
      runsOf isAlphanumeric "!_!".toList = [] ∧
      constantName (condense "!_!".toList) = "EMPTY".toList := by
  obtain ⟨-, -, -, again, -, named, -⟩ := sanitize_exact numbered
  obtain ⟨-, -, -, -, unnamed, -, -⟩ := sanitize_exact "!_!".toList
  have keepsAscii (ascii : List Char) : (∀ character ∈ ascii, character.toNat < 128) →
      transliterate ascii = ascii := transliterate_of_ascii
  have runs : runsOf isAlphanumeric numbered ≠ [] := by decide
  have none : runsOf isAlphanumeric "!_!".toList = [] := by decide
  obtain ⟨letters, -, -, opens⟩ := named runs
  refine ⟨keepsAscii, again transliterate keepsAscii, runs, ?_, ?_, none, unnamed none⟩
  · rw [letters]
    decide
  · exact opens.mpr ⟨'1', by decide, by decide⟩

example : symbolName "2nd inProgress".toList = "_2ND_IN_PROGRESS".toList := by
  decide

end ApiCatalog.Identifier
