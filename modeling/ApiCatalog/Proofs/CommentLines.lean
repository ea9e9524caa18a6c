import ApiCatalog.Proofs.CommentCodes

/-!
# The normal form of comments

A description becomes a comment by three replacements, which leave one spelling of the line break,
and by trimming: the lines of the comment are the trimmed lines of the description from the first to
the last that is not blank. Neither brings characters together that make a new break, so that a
comment is its own comment. All of this is `ofDescription?_exact`.
-/

namespace ApiCatalog

namespace Text

/-! ## Replacing -/

/-- A text with a replacement in place of every occurrence of a pattern, taken from left to right. -/
def replaceAll (pattern replacement : List Char) : List Char → List Char
  | [] => []
  | character :: rest =>
      if pattern <+: character :: rest then
        replacement ++ replaceAll pattern replacement (rest.drop (pattern.length - 1))
      else character :: replaceAll pattern replacement rest
termination_by text => text.length
decreasing_by
  all_goals simp only [List.length_drop, List.length_cons]
  all_goals omega

theorem replaceAll_occurrence (first : Char) (pattern replacement rest : List Char) :
    replaceAll (first :: pattern) replacement (first :: pattern ++ rest) =
      replacement ++ replaceAll (first :: pattern) replacement rest := by
  have found : first :: pattern <+: first :: (pattern ++ rest) := List.prefix_append _ rest
  rw [List.cons_append, replaceAll, if_pos found, List.length_cons, Nat.add_sub_cancel,
    List.drop_left]

theorem replaceAll_cons {pattern rest : List Char} {character : Char} (replacement : List Char)
    (differs : ¬ pattern <+: character :: rest) :
    replaceAll pattern replacement (character :: rest) =
      character :: replaceAll pattern replacement rest := by
  rw [replaceAll, if_neg differs]

/-- Only the replacement may bring a character to the start of a text. -/
theorem head?_of_head?_replaceAll {pattern text : List Char} {first replaced : Char}
    (differs : first ≠ replaced)
    (starts : (replaceAll pattern [replaced] text).head? = some first) :
    text.head? = some first := by
  cases text with
  | nil => rwa [replaceAll] at starts
  | cons character rest =>
      rw [replaceAll] at starts
      split at starts
      · exact absurd (Option.some.inj starts).symm differs
      · exact starts

/-! ## Trimmed lines -/

/-- Whether all characters of a line are blank. -/
abbrev Blank (line : List Char) : Prop :=
  ∀ character ∈ line, isBlank character = true

theorem trim_eq_nil_iff {line : List Char} : trim line = [] ↔ Blank line := by
  constructor
  · intro nothing
    obtain ⟨before, after, whole, blankBefore, blankAfter⟩ := trim_eq_append line
    rw [whole, nothing, List.nil_append]
    exact List.forall_mem_append.mpr ⟨blankBefore, blankAfter⟩
  · intro blank
    rw [trim, List.dropWhile_eq_nil_iff.mpr blank]
    rfl

theorem infix_of_mem_splitOn {separator : Char} {text part : List Char}
    (member : part ∈ splitOn separator text) : part <:+: text := by
  rw [← intercalate_splitOn separator text]
  obtain ⟨before, after, whole⟩ := List.append_of_mem member
  rw [whole]
  cases before with
  | nil =>
      rw [List.nil_append, intercalate_cons]
      exact (List.prefix_append _ _).isInfix
  | cons first before =>
      rw [List.cons_append, intercalate_cons, List.flatMap_append, List.flatMap_cons]
      exact ⟨first ++ before.flatMap ([separator] ++ ·) ++ [separator],
        after.flatMap ([separator] ++ ·), by simp⟩

end Text

namespace Comment

open Text Enumeration

/-- A text with one spelling of the line break, made by replacing the other spellings in turn. -/
def withFeeds (text : List Char) : List Char :=
  replaceAll ['\\', 'n'] ['\n'] (replaceAll ['\r'] ['\n'] (replaceAll ['\r', '\n'] ['\n'] text))

theorem withFeeds_feed (rest : List Char) :
    withFeeds (['\r', '\n'] ++ rest) = '\n' :: withFeeds rest := by
  rw [withFeeds, replaceAll_occurrence, List.singleton_append, replaceAll_cons _ (by simp),
    replaceAll_cons _ (by simp), withFeeds]

theorem withFeeds_return {rest : List Char} (noFeed : rest.head? ≠ some '\n') :
    withFeeds ('\r' :: rest) = '\n' :: withFeeds rest := by
  have alone : ¬ ['\r', '\n'] <+: '\r' :: rest := by
    rintro ⟨others, same⟩
    exact noFeed (by rw [← (List.cons.inj same).2]; rfl)
  have lone := replaceAll_occurrence '\r' [] ['\n'] (replaceAll ['\r', '\n'] ['\n'] rest)
  rw [List.singleton_append, List.singleton_append] at lone
  rw [withFeeds, replaceAll_cons _ alone, lone, replaceAll_cons _ (by simp), withFeeds]

theorem withFeeds_escape (rest : List Char) :
    withFeeds ('\\' :: 'n' :: rest) = '\n' :: withFeeds rest := by
  have kept (pattern rest : List Char) :
      replaceAll ('\r' :: pattern) ['\n'] ('\\' :: 'n' :: rest) =
        ['\\', 'n'] ++ replaceAll ('\r' :: pattern) ['\n'] rest := by
    rw [replaceAll_cons _ (by simp), replaceAll_cons _ (by simp)]
    rfl
  rw [withFeeds, kept, List.cons_append, List.singleton_append, kept, replaceAll_occurrence,
    List.singleton_append, withFeeds]

theorem withFeeds_cons {character : Char} {rest : List Char} (noReturn : character ≠ '\r')
    (noEscape : character = '\\' → rest.head? ≠ some 'n') :
    withFeeds (character :: rest) = character :: withFeeds rest := by
  have escapeless : ¬ ['\\', 'n'] <+: character ::
      replaceAll ['\r'] ['\n'] (replaceAll ['\r', '\n'] ['\n'] rest) := by
    intro escape
    obtain ⟨same, more⟩ := List.cons_prefix_cons.mp escape
    obtain ⟨others, starts⟩ := more
    have noFeed : 'n' ≠ '\n' := by decide
    exact noEscape same.symm (head?_of_head?_replaceAll noFeed
      (head?_of_head?_replaceAll noFeed (by rw [← starts]; rfl)))
  rw [withFeeds, replaceAll_cons _ (by simp [Ne.symm noReturn]),
    replaceAll_cons _ (by simp [Ne.symm noReturn]), replaceAll_cons _ escapeless, withFeeds]

/-- One pass over a text replaces all spellings of the line break at once. -/
theorem unifyBreaks_eq (text : List Char) : unifyBreaks text = withFeeds text := by
  induction text using unifyBreaks.induct with
  | case1 rest induction => rw [unifyBreaks_feed, induction]; exact (withFeeds_feed rest).symm
  | case2 rest noFeed induction =>
      have alone : rest.head? ≠ some '\n' := by
        cases rest with
        | nil => simp
        | cons first rest =>
            rintro ⟨⟩
            exact noFeed rest rfl
      rw [unifyBreaks_return alone, induction, withFeeds_return alone]
  | case3 rest induction => rw [unifyBreaks_escape, induction, withFeeds_escape]
  | case4 character rest noFeed noReturn noEscape induction =>
      have plain : character = '\\' → rest.head? ≠ some 'n' := by
        rintro rfl
        cases rest with
        | nil => simp
        | cons first rest =>
            rintro ⟨⟩
            exact noEscape rest rfl rfl
      rw [unifyBreaks_cons noReturn plain, induction, withFeeds_cons noReturn plain]
  | case5 => simp [unifyBreaks, withFeeds, replaceAll]

/-! ## Texts without other breaks -/

/-- A text whose only line breaks are line feeds. -/
structure Clean (text : List Char) : Prop where
  /-- It has no carriage return. -/
  noReturn : '\r' ∉ text
  /-- It has no escaped line feed. -/
  noEscape : ¬ ['\\', 'n'] <:+: text

theorem Clean.of_infix {part text : List Char} (clean : Clean text) (inside : part <:+: text) :
    Clean part where
  noReturn member := clean.noReturn (inside.subset member)
  noEscape escape := clean.noEscape (escape.trans inside)

theorem clean_unifyBreaks (text : List Char) : Clean (unifyBreaks text) := by
  have feed {rest : List Char} (clean : Clean rest) : Clean ('\n' :: rest) := by
    refine ⟨by simp [clean.noReturn], fun escape => ?_⟩
    rcases List.infix_cons_iff.mp escape with starts | later
    · simp at starts
    · exact clean.noEscape later
  induction text using unifyBreaks.induct with
  | case1 rest induction => exact feed induction
  | case2 rest noFeed induction =>
      rw [unifyBreaks.eq_2 rest noFeed]
      exact feed induction
  | case3 rest induction => exact feed induction
  | case4 character rest noFeed noReturn noEscape induction =>
      rw [unifyBreaks.eq_4 character rest noFeed noReturn noEscape]
      refine ⟨by simp [induction.noReturn, Ne.symm noReturn], fun escape => ?_⟩
      rcases List.infix_cons_iff.mp escape with starts | later
      · obtain ⟨same, others, starts⟩ := List.cons_prefix_cons.mp starts
        have first : (withFeeds rest).head? = some 'n' := by
          rw [← unifyBreaks_eq, ← starts]
          rfl
        have noFeed : 'n' ≠ '\n' := by decide
        have next := head?_of_head?_replaceAll noFeed (head?_of_head?_replaceAll noFeed
          (head?_of_head?_replaceAll noFeed first))
        obtain ⟨more, rfl⟩ := List.head?_eq_some_iff.mp next
        exact noEscape more same.symm rfl
      · exact induction.noEscape later
  | case5 => exact ⟨List.not_mem_nil, by simp [unifyBreaks]⟩

/-- A text without other breaks has one spelling of the line break already. -/
theorem Clean.unifyBreaks_eq {text : List Char} (clean : Clean text) : unifyBreaks text = text := by
  induction text with
  | nil => rfl
  | cons character rest induction =>
      have later := induction (clean.of_infix (List.suffix_cons character rest).isInfix)
      have noReturn : character ≠ '\r' := by
        rintro rfl
        exact clean.noReturn List.mem_cons_self
      have noEscape : character = '\\' → rest.head? ≠ some 'n' := by
        rintro rfl starts
        obtain ⟨others, rfl⟩ := List.head?_eq_some_iff.mp starts
        exact clean.noEscape ⟨[], others, rfl⟩
      rw [unifyBreaks_cons noReturn noEscape, later]

/-- A line feed between two texts makes no other break. -/
theorem Clean.append_feed {line rest : List Char} (here : Clean line) (later : Clean rest) :
    Clean (line ++ '\n' :: rest) := by
  refine ⟨by simp [here.noReturn, later.noReturn], ?_⟩
  induction line with
  | nil =>
      rw [List.nil_append, List.infix_cons_iff]
      simp [later.noEscape]
  | cons first line induction =>
      have shorter := induction (here.of_infix (List.suffix_cons first line).isInfix)
      rw [List.cons_append, List.infix_cons_iff]
      rintro (starts | inside)
      · obtain ⟨rfl, more⟩ := List.cons_prefix_cons.mp starts
        cases line with
        | nil => simp at more
        | cons second line =>
            obtain ⟨rfl, _⟩ := List.cons_prefix_cons.mp more
            exact here.noEscape ⟨[], line, rfl⟩
      · exact shorter inside

theorem clean_intercalate {lines : List (List Char)} (clean : ∀ line ∈ lines, Clean line) :
    Clean (['\n'].intercalate lines) := by
  induction lines with
  | nil => exact ⟨List.not_mem_nil, by simp⟩
  | cons line lines induction =>
      obtain ⟨here, later⟩ := List.forall_mem_cons.mp clean
      cases lines with
      | nil =>
          rw [List.intercalate_singleton]
          exact here
      | cons next lines =>
          rw [List.intercalate_cons_cons, List.append_assoc]
          exact here.append_feed (induction later)

/-! ## Comments -/

/-- The lines of a description, with every spelling of the line break taken for one. -/
def rawLines (description : String) : List (List Char) :=
  splitOn '\n' (withFeeds description.toList)

theorem bodyLines_eq (description : String) :
    bodyLines description.toList = stripped List.isEmpty ((rawLines description).map trim) := by
  rw [bodyLines, dropOuterEmpty, unifyBreaks_eq, rawLines]

/-- The comment has the lines of the description from the first to the last that is not blank. -/
theorem exists_bodyLines_eq (description : String) :
    ∃ before body after, rawLines description = before ++ body ++ after ∧
      (∀ line ∈ before ++ after, Blank line) ∧ bodyLines description.toList = body.map trim := by
  obtain ⟨before, after, whole, emptyBefore, emptyAfter⟩ :=
    stripped_eq_append List.isEmpty ((rawLines description).map trim)
  obtain ⟨first, others, split, rfl, more⟩ := List.map_eq_append_iff.mp whole
  obtain ⟨body, last, rfl, trimmed, rfl⟩ := List.map_eq_append_iff.mp more
  refine ⟨first, body, last, by rw [split, List.append_assoc], ?_, ?_⟩
  · refine List.forall_mem_append.mpr ⟨fun line member => ?_, fun line member => ?_⟩
    · exact trim_eq_nil_iff.mp (List.isEmpty_iff.mp (emptyBefore _ (List.mem_map_of_mem member)))
    · exact trim_eq_nil_iff.mp (List.isEmpty_iff.mp (emptyAfter _ (List.mem_map_of_mem member)))
  · rw [bodyLines_eq, trimmed]

theorem bodyLines_eq_nil_iff {description : String} :
    bodyLines description.toList = [] ↔ ∀ line ∈ rawLines description, Blank line := by
  constructor
  · intro nothing
    obtain ⟨before, body, after, whole, blank, trimmed⟩ := exists_bodyLines_eq description
    obtain rfl : body = [] := List.map_eq_nil_iff.mp (trimmed.symm.trans nothing)
    rwa [whole, List.append_nil]
  · intro blank
    have empty : ∀ line ∈ (rawLines description).map trim, line.isEmpty = true := by
      refine List.forall_mem_map.mpr fun line member => ?_
      exact List.isEmpty_iff.mpr (trim_eq_nil_iff.mpr (blank line member))
    rw [bodyLines_eq, stripped, List.dropWhile_eq_nil_iff.mpr empty]
    rfl

/-- A line of the comment is a trimmed part of the description without any break. -/
theorem of_mem_bodyLines {description : String} {line : List Char}
    (member : line ∈ bodyLines description.toList) :
    trim line = line ∧ '\n' ∉ line ∧ Clean line := by
  obtain ⟨before, body, after, whole, _, trimmed⟩ := exists_bodyLines_eq description
  rw [trimmed] at member
  obtain ⟨raw, inBody, rfl⟩ := List.mem_map.mp member
  have isRaw : raw ∈ rawLines description := by
    rw [whole]
    exact List.mem_append_left _ (List.mem_append_right _ inBody)
  have clean := clean_unifyBreaks description.toList
  rw [unifyBreaks_eq] at clean
  exact ⟨trim_trim raw, fun feed => not_mem_of_mem_splitOn isRaw ((isInfix_trim raw).subset feed),
    clean.of_infix ((isInfix_trim raw).trans (infix_of_mem_splitOn isRaw))⟩

section

variable {description comment : String}

theorem ofDescription?_eq_some_iff :
    ofDescription? description = some comment ↔ bodyLines description.toList ≠ [] ∧
      comment.toList = ['\n'].intercalate (bodyLines description.toList) := by
  rw [ofDescription?]
  split
  · simp_all
  · rename_i nonempty
    rw [Option.some.injEq, ← String.toList_inj, String.toList_ofList]
    exact ⟨fun same => ⟨nonempty, same.symm⟩, fun text => text.2.symm⟩

/-- The lines of a comment are those it is made of. -/
theorem splitOn_comment (made : ofDescription? description = some comment) :
    splitOn '\n' comment.toList = bodyLines description.toList := by
  obtain ⟨nonempty, text⟩ := ofDescription?_eq_some_iff.mp made
  rw [text]
  exact splitOn_intercalate nonempty fun line member => (of_mem_bodyLines member).2.1

theorem clean_comment (made : ofDescription? description = some comment) :
    Clean comment.toList := by
  rw [(ofDescription?_eq_some_iff.mp made).2]
  exact clean_intercalate fun line member => (of_mem_bodyLines member).2.2

/-- A comment has no blank line at its ends. -/
theorem ends_bodyLines (description : String) :
    (∀ line ∈ (bodyLines description.toList).head?, ¬ Blank line) ∧
      ∀ line ∈ (bodyLines description.toList).getLast?, ¬ Blank line := by
  have visible {line : List Char} (member : line ∈ bodyLines description.toList)
      (nonempty : line.isEmpty = false) : ¬ Blank line := by
    intro blank
    rw [← (of_mem_bodyLines member).1, trim_eq_nil_iff.mpr blank] at nonempty
    cases nonempty
  have ends := ends_stripped List.isEmpty ((rawLines description).map trim)
  rw [← bodyLines_eq] at ends
  exact ⟨fun line first => visible (List.mem_of_mem_head? first) (ends.1 line first),
    fun line last => visible (List.mem_of_mem_getLast? last) (ends.2 line last)⟩

/-- The lines of a comment are the lines of the comment it becomes. -/
theorem bodyLines_comment (made : ofDescription? description = some comment) :
    bodyLines comment.toList = bodyLines description.toList := by
  have trimmed : (bodyLines description.toList).map trim = bodyLines description.toList := by
    rw [List.map_congr_left fun line member => (of_mem_bodyLines member).1]
    exact List.map_id _
  have ends := ends_stripped List.isEmpty ((rawLines description).map trim)
  rw [← bodyLines_eq] at ends
  rw [bodyLines, (clean_comment made).unifyBreaks_eq, splitOn_comment made, trimmed]
  exact stripped_of_ends ends.1 ends.2

/-- The lines of a comment, joined, are the comment. -/
theorem lines_joined (description : String) :
    "\n".intercalate (lines description) = (ofDescription? description).getD "" := by
  have text : ("\n".intercalate (lines description)).toList =
      ['\n'].intercalate (bodyLines description.toList) := by
    have readBack : String.toList ∘ String.ofList = id := funext fun _ => String.toList_ofList
    rw [String.toList_intercalate, lines, List.map_map, readBack, List.map_id]
    rfl
  cases made : ofDescription? description with
  | none =>
      have blank : bodyLines description.toList = [] := by
        rw [ofDescription?] at made
        split at made
        · assumption
        · cases made
      rw [lines, blank]
      rfl
  | some comment =>
      rw [Option.getD_some, ← String.toList_inj, text, (ofDescription?_eq_some_iff.mp made).2]

end

/-- A description has no comment exactly if all its lines are blank. Otherwise the comment has one
spelling of the line break, its lines are the trimmed lines of the description from the first to the
last that is not blank, and it is the comment it becomes itself. In both cases the lines of the
comment, joined, are the comment. -/
theorem ofDescription?_exact (description : String) :
    (ofDescription? description = none ↔ ∀ line ∈ rawLines description, Blank line) ∧
      (∀ comment, ofDescription? description = some comment →
        ('\r' ∉ comment.toList ∧ ¬ ['\\', 'n'] <:+: comment.toList) ∧
        (∃ before body after, rawLines description = before ++ body ++ after ∧
          (∀ line ∈ before ++ after, Blank line) ∧
          splitOn '\n' comment.toList = body.map trim) ∧
        (∀ line ∈ splitOn '\n' comment.toList, trim line = line) ∧
        (∀ line ∈ (splitOn '\n' comment.toList).head?, ¬ Blank line) ∧
        (∀ line ∈ (splitOn '\n' comment.toList).getLast?, ¬ Blank line) ∧
        ofDescription? comment = some comment ∧ lines comment = lines description) ∧
      "\n".intercalate (lines description) = (ofDescription? description).getD "" := by
  refine ⟨?_, fun comment made => ?_, lines_joined description⟩
  · rw [← bodyLines_eq_nil_iff, ofDescription?]
    split <;> simp_all
  · have same := bodyLines_comment made
    have clean := clean_comment made
    rw [splitOn_comment made]
    refine ⟨⟨clean.noReturn, clean.noEscape⟩, exists_bodyLines_eq description,
      fun line member => (of_mem_bodyLines member).1, (ends_bodyLines description).1,
      (ends_bodyLines description).2, ?_, by rw [lines, same, lines]⟩
    obtain ⟨nonempty, text⟩ := ofDescription?_eq_some_iff.mp made
    exact ofDescription?_eq_some_iff.mpr (by rw [same]; exact ⟨nonempty, text⟩)

theorem ofDescription?_exact_escaped :
    ofDescription? "\r\n First\\n\tSecond\r \n" = some "First\nSecond" ∧
      ofDescription? "First\nSecond" = some "First\nSecond" ∧
      lines "First\nSecond" = lines "\r\n First\\n\tSecond\r \n" := by
  have made : ofDescription? "\r\n First\\n\tSecond\r \n" = some "First\nSecond" := by
    decide +kernel
  obtain ⟨_, _, _, _, _, again, same⟩ := (ofDescription?_exact _).2.1 _ made
  exact ⟨made, again, same⟩

end Comment

end ApiCatalog
