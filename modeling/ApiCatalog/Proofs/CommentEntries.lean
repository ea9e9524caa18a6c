import ApiCatalog.Comment
import ApiCatalog.Proofs.CodeEntries
import ApiCatalog.Proofs.StrippedTexts

/-!
# Entries of comments

A comment is a description with one spelling of the line break, trimmed lines and no blank lines at
its ends. Trimming costs no codes: what is read of a text does not depend on how many blanks stand
at one place of it, as long as some do, so that blanks beside a line feed and further line feeds do
not count. A comment has the entries of its description with the breaks unified:
`entries_comment`.
-/

namespace ApiCatalog

namespace Enumeration

open Text Identifier Comment

/-! ## Texts that read alike -/

/-- A text that is empty or starts with a blank. -/
def Spaced (text : List Char) : Prop :=
  ∀ next ∈ text.head?, isBlank next = true

/-- Texts that differ at one place at most, and only in how many blanks stand there. -/
def SameInk (left right : List Char) : Prop :=
  ∃ front leftRest rightRest, left = front ++ leftRest ∧ right = front ++ rightRest ∧
    Spaced leftRest ∧ Spaced rightRest ∧
      leftRest.dropWhile isBlank = rightRest.dropWhile isBlank

theorem SameInk.refl (text : List Char) : SameInk text text :=
  ⟨text, [], [], by simp, by simp, by simp [Spaced], by simp [Spaced], rfl⟩

/-- Without the blanks before them, both texts end or start with the same character. -/
theorem SameInk.dropWhile_isBlank {left right : List Char} (same : SameInk left right) :
    (left.dropWhile isBlank = [] ∧ right.dropWhile isBlank = []) ∨
      ∃ next leftRest rightRest, left.dropWhile isBlank = next :: leftRest ∧
        right.dropWhile isBlank = next :: rightRest ∧ SameInk leftRest rightRest := by
  obtain ⟨front, leftRest, rightRest, rfl, rfl, leftSpaced, rightSpaced, equal⟩ := same
  induction front with
  | nil =>
      rw [List.nil_append, List.nil_append, equal]
      cases rightRest.dropWhile isBlank with
      | nil => exact .inl ⟨rfl, rfl⟩
      | cons next rest => exact .inr ⟨next, rest, rest, rfl, rfl, .refl rest⟩
  | cons first front induction =>
      by_cases blank : isBlank first = true
      · rw [List.cons_append, List.cons_append, List.dropWhile_cons_of_pos blank,
          List.dropWhile_cons_of_pos blank]
        exact induction
      · rw [List.cons_append, List.cons_append, List.dropWhile_cons_of_neg blank,
          List.dropWhile_cons_of_neg blank]
        exact .inr ⟨first, _, _, rfl, rfl, front, leftRest, rightRest, rfl, rfl, leftSpaced,
          rightSpaced, equal⟩

theorem Spaced.takeWhile_dropWhile {text : List Char} {keep : Char → Bool} (spaced : Spaced text)
    (visible : ∀ character, isBlank character = true → keep character = false) :
    text.takeWhile keep = [] ∧ text.dropWhile keep = text := by
  cases text with
  | nil => exact ⟨rfl, rfl⟩
  | cons first rest =>
      have stops : keep first ≠ true := by
        rw [visible first (spaced first rfl)]
        decide
      exact ⟨List.takeWhile_cons_of_neg stops, List.dropWhile_cons_of_neg stops⟩

/-- Characters that are no blanks are taken from both texts alike. -/
theorem SameInk.takeWhile_dropWhile {left right : List Char} {keep : Char → Bool}
    (same : SameInk left right)
    (visible : ∀ character, isBlank character = true → keep character = false) :
    left.takeWhile keep = right.takeWhile keep ∧
      SameInk (left.dropWhile keep) (right.dropWhile keep) := by
  obtain ⟨front, leftRest, rightRest, rfl, rfl, leftSpaced, rightSpaced, equal⟩ := same
  induction front with
  | nil =>
      obtain ⟨leftTaken, leftKept⟩ := leftSpaced.takeWhile_dropWhile visible
      obtain ⟨rightTaken, rightKept⟩ := rightSpaced.takeWhile_dropWhile visible
      rw [List.nil_append, List.nil_append, leftTaken, rightTaken, leftKept, rightKept]
      exact ⟨rfl, [], leftRest, rightRest, rfl, rfl, leftSpaced, rightSpaced, equal⟩
  | cons first front induction =>
      by_cases kept : keep first = true
      · simp only [List.cons_append, List.takeWhile_cons_of_pos kept,
          List.dropWhile_cons_of_pos kept]
        exact ⟨congrArg _ induction.1, induction.2⟩
      · simp only [List.cons_append, List.takeWhile_cons_of_neg kept,
          List.dropWhile_cons_of_neg kept]
        exact ⟨trivial, first :: front, leftRest, rightRest, rfl, rfl, leftSpaced, rightSpaced,
          equal⟩

theorem SameInk.takeMinus {left right : List Char} (same : SameInk left right) (next : Char) :
    (takeMinus (next :: left)).1 = (takeMinus (next :: right)).1 ∧
      SameInk (takeMinus (next :: left)).2 (takeMinus (next :: right)).2 := by
  by_cases minus : next = '-'
  · subst minus
    exact ⟨rfl, same⟩
  · have unsigned (rest : List Char) : Enumeration.takeMinus (next :: rest) = ([], next :: rest) :=
      takeMinus_sign (.inl rfl) fun other first => Option.some.inj first ▸ minus
    obtain ⟨front, leftRest, rightRest, rfl, rfl, spaces⟩ := same
    rw [unsigned, unsigned]
    exact ⟨rfl, next :: front, leftRest, rightRest, rfl, rfl, spaces⟩

/-- Both texts start with the same entry, or with none. -/
theorem SameInk.map_fst_eq {left right : List Char} (same : SameInk left right) :
    (Option.map Prod.fst <| entry? left) = (Option.map Prod.fst <| entry? right) := by
  unfold entry?
  rcases same.dropWhile_isBlank with ⟨leftEnds, rightEnds⟩ | ⟨next, _, _, leftNext, rightNext, same⟩
  · rw [leftEnds, rightEnds]
  rw [leftNext, rightNext]
  obtain ⟨sign, same⟩ := same.takeMinus next
  obtain ⟨digits, same⟩ := same.takeWhile_dropWhile fun _ => isDecimalDigit_of_isBlank
  simp only [sign, digits]
  split
  · rfl
  rcases same.dropWhile_isBlank with ⟨leftEnds, rightEnds⟩ |
    ⟨separator, _, _, leftNext, rightNext, same⟩
  · rw [leftEnds, rightEnds]
  simp only [leftNext, rightNext]
  split
  · rfl
  rcases same.dropWhile_isBlank with ⟨leftEnds, rightEnds⟩ |
    ⟨first, _, _, leftNext, rightNext, same⟩
  · rw [leftEnds, rightEnds]
  simp only [leftNext, rightNext]
  split
  · rfl
  obtain ⟨word, -⟩ := same.takeWhile_dropWhile fun _ => isWordCharacter_of_isBlank
  rw [word, Option.map_some, Option.map_some]

theorem entryAt?_of_spaced {text : List Char} (spaced : Spaced text) : entryAt? text = none := by
  cases text with
  | nil => rfl
  | cons first rest => exact entryAt?_of_isBlank rest (spaced first rfl)

theorem entryAt?_append_congr {left right : List Char} (front : List Char)
    (leftSpaced : Spaced left) (rightSpaced : Spaced right)
    (equal : left.dropWhile isBlank = right.dropWhile isBlank) :
    entryAt? (front ++ left) = entryAt? (front ++ right) := by
  cases front with
  | nil => exact (entryAt?_of_spaced leftSpaced).trans (entryAt?_of_spaced rightSpaced).symm
  | cons first front =>
      have same : SameInk (first :: front ++ left) (first :: front ++ right) :=
        ⟨first :: front, left, right, rfl, rfl, leftSpaced, rightSpaced, equal⟩
      simp only [List.cons_append] at same ⊢
      rw [entryAt?, entryAt?, same.map_fst_eq]

/-- Whether the same entries are read with either text, whatever stands before it. -/
def ReadAlike (left right : List Char) : Prop :=
  ∀ front opened, readFrom opened (front ++ left) = readFrom opened (front ++ right)

theorem ReadAlike.refl (text : List Char) : ReadAlike text text :=
  fun _ _ => rfl

theorem ReadAlike.readFrom_eq {left right : List Char} (alike : ReadAlike left right)
    (opened : Bool) : readFrom opened left = readFrom opened right :=
  alike [] opened

theorem ReadAlike.trans {left middle right : List Char} (first : ReadAlike left middle)
    (second : ReadAlike middle right) : ReadAlike left right :=
  fun front opened => (first front opened).trans (second front opened)

theorem ReadAlike.append {left right : List Char} (alike : ReadAlike left right)
    (before : List Char) : ReadAlike (before ++ left) (before ++ right) := by
  intro front opened
  rw [← List.append_assoc, ← List.append_assoc]
  exact alike (front ++ before) opened

/-- Texts that differ in the blanks at their starts only read alike if they do so alone. -/
theorem readAlike_of_spaced {left right : List Char} (leftSpaced : Spaced left)
    (rightSpaced : Spaced right) (equal : left.dropWhile isBlank = right.dropWhile isBlank)
    (alone : ∀ opened, readFrom opened left = readFrom opened right) : ReadAlike left right := by
  intro front
  induction front with
  | nil => exact alone
  | cons first front induction =>
      intro opened
      have here := entryAt?_append_congr (first :: front) leftSpaced rightSpaced equal
      simp only [List.cons_append] at here ⊢
      rw [readFrom, readFrom, here, induction]

/-! ## Lines -/

/-- Lines with a line feed before each of them and one at the end. -/
def linesText (lines : List (List Char)) : List Char :=
  lines.flatMap (['\n'] ++ ·) ++ ['\n']

theorem linesText_cons (line : List Char) (lines : List (List Char)) :
    linesText (line :: lines) = ['\n'] ++ (line ++ linesText lines) := by
  simp only [linesText, List.flatMap_cons, List.append_assoc]

theorem exists_linesText_eq (lines : List (List Char)) :
    ∃ rest, linesText lines = '\n' :: rest := by
  cases lines with
  | nil => exact ⟨[], rfl⟩
  | cons line lines => exact ⟨_, linesText_cons line lines⟩

theorem readFrom_feed (opened : Bool) (rest : List Char) :
    readFrom opened ('\n' :: rest) = readFrom true rest :=
  readFrom_opener opened rest (by decide)

theorem spaced_feed (rest : List Char) : Spaced ('\n' :: rest) :=
  fun _ same => Option.some.inj same ▸ by decide

theorem spaced_append {blanks rest : List Char}
    (blank : ∀ character ∈ blanks, isBlank character = true) (spaced : Spaced rest) :
    Spaced (blanks ++ rest) := by
  cases blanks with
  | nil => exact spaced
  | cons first blanks =>
      exact fun next same => Option.some.inj same ▸ blank first List.mem_cons_self

/-- Blanks before a line feed do not count. -/
theorem readAlike_blanks_feed {blanks : List Char} (rest : List Char)
    (blank : ∀ character ∈ blanks, isBlank character = true) :
    ReadAlike (blanks ++ '\n' :: rest) ('\n' :: rest) := by
  refine readAlike_of_spaced (spaced_append blank (spaced_feed rest)) (spaced_feed rest)
    (List.dropWhile_append_of_pos blank) fun opened => ?_
  rw [readFrom_blanks opened _ blank, readFrom_feed, readFrom_feed]

/-- Blanks after a line feed do not count. -/
theorem readAlike_feed_blanks {blanks : List Char} (rest : List Char)
    (blank : ∀ character ∈ blanks, isBlank character = true) :
    ReadAlike ('\n' :: (blanks ++ rest)) ('\n' :: rest) := by
  have feed : isBlank '\n' = true := by decide
  refine readAlike_of_spaced (spaced_feed _) (spaced_feed _) ?_ fun opened => ?_
  · rw [List.dropWhile_cons_of_pos feed, List.dropWhile_cons_of_pos feed,
      List.dropWhile_append_of_pos blank]
  · rw [readFrom_feed, readFrom_feed, readFrom_blanks true rest blank, Bool.true_or]

/-- A line feed at the end does not count. -/
theorem readAlike_feed_nil : ReadAlike ['\n'] [] :=
  readAlike_of_spaced (spaced_feed []) (by simp [Spaced]) (by decide) fun opened =>
    readFrom_feed opened []

theorem readAlike_map_trim (lines : List (List Char)) :
    ReadAlike (linesText lines) (linesText (lines.map trim)) := by
  induction lines with
  | nil => exact .refl _
  | cons line lines induction =>
      obtain ⟨before, after, whole, blankBefore, blankAfter⟩ := trim_eq_append line
      obtain ⟨rest, feed⟩ := exists_linesText_eq (lines.map trim)
      rw [List.map_cons, linesText_cons, linesText_cons]
      have lead : ReadAlike (['\n'] ++ (line ++ linesText (lines.map trim)))
          (['\n'] ++ (trim line ++ (after ++ linesText (lines.map trim)))) := by
        conv in line ++ _ => rw [whole]
        rw [List.append_assoc, List.append_assoc]
        exact readAlike_feed_blanks _ blankBefore
      have trail :
          ReadAlike (after ++ linesText (lines.map trim)) (linesText (lines.map trim)) := by
        rw [feed]
        exact readAlike_blanks_feed rest blankAfter
      exact ((induction.append line).append ['\n']).trans
        (lead.trans ((trail.append (trim line)).append ['\n']))

/-- Empty lines do not count. -/
theorem readAlike_filter (lines : List (List Char)) :
    ReadAlike (linesText lines) (linesText (lines.filter fun line => !line.isEmpty)) := by
  induction lines with
  | nil => exact .refl _
  | cons line lines induction =>
      cases line with
      | nil =>
          obtain ⟨rest, feed⟩ := exists_linesText_eq lines
          rw [List.filter_cons_of_neg (by decide), linesText_cons]
          refine ReadAlike.trans ?_ induction
          rw [List.nil_append, feed]
          exact readAlike_blanks_feed rest (List.forall_mem_singleton.mpr (by decide))
      | cons first rest =>
          rw [List.filter_cons_of_pos rfl, linesText_cons, linesText_cons]
          exact (induction.append _).append _

theorem filter_dropOuterEmpty (lines : List (List Char)) :
    (dropOuterEmpty lines).filter (fun line => !line.isEmpty) =
      lines.filter fun line => !line.isEmpty := by
  have front (lines : List (List Char)) :
      (lines.dropWhile List.isEmpty).filter (fun line => !line.isEmpty) =
        lines.filter fun line => !line.isEmpty := by
    induction lines with
    | nil => rfl
    | cons line lines induction => cases line <;> simp [induction]
  rw [dropOuterEmpty, List.filter_reverse, front, List.filter_reverse, List.reverse_reverse, front]

theorem entries_intercalate {lines : List (List Char)} (nonempty : lines ≠ []) :
    entries (['\n'].intercalate lines) = readFrom false (linesText lines) := by
  obtain ⟨first, rest, rfl⟩ := List.exists_cons_of_ne_nil nonempty
  have whole :
      linesText (first :: rest) = '\n' :: (['\n'].intercalate (first :: rest) ++ ['\n']) := by
    rw [linesText_cons, intercalate_cons, linesText, List.append_assoc]
    rfl
  rw [entries_eq, whole, readFrom_feed, readAlike_feed_nil, List.append_nil]

/-- A comment has the entries of its description with one spelling of the line break. -/
theorem entries_comment {description comment : String}
    (made : Comment.ofDescription? description = some comment) :
    entries comment.toList = entries (unifyBreaks description.toList) := by
  rw [Comment.ofDescription?] at made
  split at made
  · cases made
  · rename_i body nonempty
    obtain rfl := Option.some.inj made
    let lines := splitOn '\n' (unifyBreaks description.toList)
    have kept : (bodyLines description.toList).filter (fun line => !line.isEmpty) =
        (lines.map trim).filter fun line => !line.isEmpty := filter_dropOuterEmpty _
    calc
      entries (String.ofList (['\n'].intercalate (bodyLines description.toList))).toList
        = readFrom false (linesText (bodyLines description.toList)) := by
          rw [String.toList_ofList, entries_intercalate nonempty]
      _ = readFrom false (linesText ((lines.map trim).filter fun line => !line.isEmpty)) := by
          rw [← kept]
          exact (readAlike_filter _).readFrom_eq false
      _ = readFrom false (linesText (lines.map trim)) :=
          ((readAlike_filter _).readFrom_eq false).symm
      _ = readFrom false (linesText lines) := ((readAlike_map_trim _).readFrom_eq false).symm
      _ = entries (unifyBreaks description.toList) := by
          rw [← entries_intercalate (splitOn_ne_nil _ _), intercalate_splitOn]

end Enumeration

end ApiCatalog
