import ApiCatalog.Proofs.EnumerationText

/-!
# Bars in type texts

The text of a type nests by brackets, and its literals are quoted. A bar that stands outside all of
them parts the alternatives of a union, and a suffix applies to the last alternative only. A balanced
text keeps to the place it is put in, so that no bar inside brackets parts anything:
`not_hasBar_enclosed`.
-/

namespace ApiCatalog.TypeText

/-! ## Places -/

/-- Where a character of a text stands, with the number of open brackets. -/
inductive Place where
  /-- Outside literals. -/
  | outside (depth : Nat)
  /-- In a literal. -/
  | quoted (depth : Nat)
  /-- In a literal, after a backslash. -/
  | escaped (depth : Nat)
  deriving DecidableEq

/-- The marks that open brackets. -/
def openings : List Char := ['(', '{', '<', '[']

/-- The marks that close brackets. -/
def closings : List Char := [')', '}', '>', ']']

/-- The marks that are read outside literals. -/
def marks : List Char := '\'' :: (openings ++ closings)

namespace Place

/-- The number of open brackets. -/
def depth : Place → Nat
  | outside depth | quoted depth | escaped depth => depth

/-- The place after a character. -/
def next : Place → Char → Place
  | outside depth, character =>
      if character = '\'' then quoted depth
      else if character ∈ openings then outside (depth + 1)
      else if character ∈ closings then outside (depth - 1)
      else outside depth
  | quoted depth, character =>
      if character = '\\' then escaped depth
      else if character = '\'' then outside depth
      else quoted depth
  | escaped depth, _ => quoted depth

/-- The place after a text. -/
def after (place : Place) (text : List Char) : Place :=
  text.foldl next place

variable (place : Place)

@[simp]
theorem after_nil : place.after [] = place :=
  rfl

@[simp]
theorem after_cons (character : Char) (rest : List Char) :
    place.after (character :: rest) = (place.next character).after rest :=
  rfl

@[simp]
theorem after_append (front back : List Char) :
    place.after (front ++ back) = (place.after front).after back :=
  List.foldl_append

theorem next_opening {character : Char} (opens : character ∈ openings) (depth : Nat) :
    (outside depth).next character = outside (depth + 1) := by
  have noQuote : character ≠ '\'' := by
    rintro rfl
    exact absurd opens (by decide)
  rw [next, if_neg noQuote, if_pos opens]

theorem next_closing {character : Char} (closes : character ∈ closings) (depth : Nat) :
    (outside (depth + 1)).next character = outside depth := by
  have noQuote : character ≠ '\'' := by
    rintro rfl
    exact absurd closes (by decide)
  have apart : openings.any closings.contains = false := by decide
  have noOpening : character ∉ openings := fun opens =>
    List.any_eq_false.mp apart character opens (List.contains_iff_mem.mpr closes)
  rw [next, if_neg noQuote, if_neg noOpening, if_pos closes, Nat.add_sub_cancel]

theorem next_unmarked {character : Char} (unmarked : character ∉ marks) (depth : Nat) :
    (outside depth).next character = outside depth := by
  simp only [marks, List.mem_cons, List.mem_append, not_or] at unmarked
  rw [next, if_neg unmarked.1, if_neg unmarked.2.1, if_neg unmarked.2.2]

end Place

open Place

/-! ## Balanced texts -/

/-- A text ends where it starts, and closes no bracket that it has not opened. -/
def Balanced (text : List Char) : Prop :=
  ∀ depth, (outside depth).after text = outside depth ∧
    ∀ before, before <+: text → depth ≤ ((outside depth).after before).depth

theorem balanced_nil : Balanced [] := by
  refine fun depth => ⟨rfl, fun before part => ?_⟩
  rw [List.prefix_nil.mp part]
  exact Nat.le_refl _

theorem Balanced.append {front back : List Char} (frontBalanced : Balanced front)
    (backBalanced : Balanced back) : Balanced (front ++ back) := by
  intro depth
  obtain ⟨frontEnds, frontKeeps⟩ := frontBalanced depth
  obtain ⟨backEnds, backKeeps⟩ := backBalanced depth
  refine ⟨by rw [after_append, frontEnds, backEnds], fun before part => ?_⟩
  rcases List.prefix_or_prefix_of_prefix part (List.prefix_append front back) with inside | longer
  · exact frontKeeps before inside
  · obtain ⟨rest, rfl⟩ := longer
    rw [after_append, frontEnds]
    exact backKeeps rest ((List.prefix_append_right_inj front).mp part)

theorem balanced_unmarked {text : List Char} (unmarked : text.any marks.contains = false) :
    Balanced text := by
  intro depth
  have stays : ∀ {text : List Char}, text.any marks.contains = false →
      (outside depth).after text = outside depth := by
    intro text unmarked
    induction text with
    | nil => rfl
    | cons first rest induction =>
        rw [List.any_cons, Bool.or_eq_false_iff] at unmarked
        have firstUnmarked : first ∉ marks := fun marked =>
          Bool.false_ne_true (unmarked.1.symm.trans (List.contains_iff_mem.mpr marked))
        rw [after_cons, next_unmarked firstUnmarked, induction unmarked.2]
  refine ⟨stays unmarked, fun before part => ?_⟩
  have within : before.any marks.contains = false :=
    List.any_eq_false.mpr fun character member =>
      List.any_eq_false.mp unmarked character (part.subset member)
  rw [stays within]
  exact Nat.le_refl _

theorem balanced_intercalate {separator : List Char} {parts : List (List Char)}
    (between : Balanced separator) (inside : ∀ part ∈ parts, Balanced part) :
    Balanced (separator.intercalate parts) := by
  induction parts with
  | nil => exact balanced_nil
  | cons part rest induction =>
      obtain ⟨first, later⟩ := List.forall_mem_cons.mp inside
      cases rest with
      | nil => simpa using first
      | cons next more =>
          rw [List.intercalate_cons_cons]
          exact (first.append between).append (induction later)

section

variable {opening closing : Char} {inner : List Char}

/-- Inside brackets around a balanced text, no place is outside all brackets. -/
theorem depth_pos_inside (opens : opening ∈ openings) (balanced : Balanced inner) {depth : Nat}
    {before : List Char} (part : before <+: inner) :
    depth < ((outside depth).after (opening :: before)).depth := by
  rw [after_cons, next_opening opens]
  exact (balanced (depth + 1)).2 before part

theorem Balanced.enclosed (balanced : Balanced inner) (opens : opening ∈ openings)
    (closes : closing ∈ closings) : Balanced (opening :: inner ++ [closing]) := by
  intro depth
  have ends : (outside depth).after (opening :: inner ++ [closing]) = outside depth := by
    rw [List.cons_append, after_cons, after_append, next_opening opens, (balanced (depth + 1)).1,
      after_cons, next_closing closes, after_nil]
  refine ⟨ends, fun before part => ?_⟩
  rcases List.prefix_concat_iff.mp part with rfl | shorter
  · rw [ends]
    exact Nat.le_refl _
  · rcases List.prefix_cons_iff.mp shorter with rfl | ⟨rest, rfl, inside⟩
    · exact Nat.le_refl _
    · exact Nat.le_of_lt (depth_pos_inside opens balanced inside)

end

/-! ## Literals -/

theorem after_escape (depth : Nat) (character : Char) :
    (quoted depth).after (Literal.escape character) = quoted depth := by
  unfold Literal.escape
  split
  · rfl
  · rename_i plain
    simp only [Bool.or_eq_true, beq_iff_eq, not_or] at plain
    rw [after_cons, after_nil, next, if_neg plain.1, if_neg plain.2]

theorem after_flatMap_escape (depth : Nat) (content : List Char) :
    (quoted depth).after (content.flatMap Literal.escape) = quoted depth := by
  induction content with
  | nil => rfl
  | cons first rest induction => rw [List.flatMap_cons, after_append, after_escape, induction]

/-- A place before the closing quote of a literal. -/
def Place.IsInside (place : Place) (depth : Nat) : Prop :=
  place = quoted depth ∨ place = escaped depth

theorem Place.IsInside.depth_eq {place : Place} {depth : Nat} (inside : place.IsInside depth) :
    place.depth = depth := by
  rcases inside with rfl | rfl <;> rfl

theorem Place.IsInside.ne_outside {place : Place} {depth : Nat} (inside : place.IsInside depth) :
    place ≠ outside depth := by
  rcases inside with rfl | rfl <;> nofun

theorem isInside_escape (depth : Nat) {character : Char} {before : List Char}
    (part : before <+: Literal.escape character) : ((quoted depth).after before).IsInside depth := by
  have whole : (quoted depth).after (Literal.escape character) = quoted depth :=
    after_escape depth character
  unfold Literal.escape at part whole
  split at part
  · rename_i special
    rw [if_pos special] at whole
    rcases List.prefix_cons_iff.mp part with rfl | ⟨rest, rfl, inside⟩
    · exact .inl rfl
    · rcases List.prefix_cons_iff.mp inside with rfl | ⟨others, rfl, ends⟩
      · exact .inr rfl
      · rw [List.prefix_nil.mp ends]
        exact .inl whole
  · rename_i plain
    rw [if_neg plain] at whole
    rcases List.prefix_cons_iff.mp part with rfl | ⟨others, rfl, ends⟩
    · exact .inl rfl
    · rw [List.prefix_nil.mp ends]
      exact .inl whole

theorem isInside_flatMap_escape (depth : Nat) {content before : List Char}
    (part : before <+: content.flatMap Literal.escape) :
    ((quoted depth).after before).IsInside depth := by
  induction content generalizing before with
  | nil =>
      rw [List.prefix_nil.mp part]
      exact .inl rfl
  | cons first rest induction =>
      rw [List.flatMap_cons] at part
      rcases List.prefix_or_prefix_of_prefix part (List.prefix_append _ _) with inside | longer
      · exact isInside_escape depth inside
      · obtain ⟨others, rfl⟩ := longer
        rw [after_append, after_escape]
        exact induction ((List.prefix_append_right_inj _).mp part)

/-- A text in quotes. -/
def literal (content : List Char) : List Char :=
  '\'' :: content.flatMap Literal.escape ++ ['\'']

theorem after_literal (depth : Nat) (content : List Char) :
    (outside depth).after (literal content) = outside depth := by
  rw [literal, List.cons_append, after_cons, after_append]
  exact congrArg (Place.after · ['\'']) (after_flatMap_escape depth content)

/-- What starts a literal is nothing, all of it, or ends inside. -/
theorem prefix_literal_cases {content before : List Char} (part : before <+: literal content) :
    before = [] ∨ before = literal content ∨
      ∀ depth, ((outside depth).after before).IsInside depth := by
  rcases List.prefix_concat_iff.mp part with whole | shorter
  · exact .inr (.inl whole)
  · rcases List.prefix_cons_iff.mp shorter with rfl | ⟨rest, rfl, inside⟩
    · exact .inl rfl
    · exact .inr (.inr fun depth => isInside_flatMap_escape depth inside)

theorem balanced_literal (content : List Char) : Balanced (literal content) := by
  refine fun depth => ⟨after_literal depth content, fun before part => ?_⟩
  rcases prefix_literal_cases part with rfl | rfl | inside
  · exact Nat.le_refl _
  · rw [after_literal]
    exact Nat.le_refl _
  · exact Nat.le_of_eq (inside depth).depth_eq.symm

/-! ## Bars -/

/-- The bar between alternatives. -/
def bar : List Char := [' ', '|', ' ']

/-- A bar stands outside literals and brackets. -/
def HasBar (text : List Char) : Prop :=
  ∃ before after, text = before ++ bar ++ after ∧ (outside 0).after before = outside 0

theorem not_hasBar_of_not_mem {text : List Char} (unspaced : ' ' ∉ text) : ¬ HasBar text := by
  rintro ⟨before, after, rfl, _⟩
  simp [bar] at unspaced

theorem hasBar_append {front : List Char} (returns : (outside 0).after front = outside 0)
    (back : List Char) : HasBar (front ++ (bar ++ back)) :=
  ⟨front, back, (List.append_assoc ..).symm, returns⟩

/-- A suffix without blanks neither brings a bar nor takes one away. -/
theorem hasBar_append_iff {text suffix : List Char} (unspaced : ' ' ∉ suffix) :
    HasBar (text ++ suffix) ↔ HasBar text := by
  constructor
  · rintro ⟨before, after, split, reached⟩
    rcases List.append_eq_append_iff.mp split with ⟨middle, within, rest⟩ | ⟨middle, within, rest⟩
    · -- The bar would end inside the suffix, with a blank.
      rcases List.eq_nil_or_concat middle with rfl | ⟨shorter, last, rfl⟩
      · rw [List.append_nil] at within
        exact ⟨before, [], by rw [List.append_nil, within], reached⟩
      · have ends : last = ' ' := by
          have lasts := congrArg List.getLast? within
          simpa [bar] using lasts.symm
        rw [rest, ends] at unspaced
        simp at unspaced
    · exact ⟨before, middle, within, reached⟩
  · rintro ⟨before, after, rfl, reached⟩
    exact ⟨before, after ++ suffix, by simp only [List.append_assoc], reached⟩

theorem not_hasBar_literal (content : List Char) : ¬ HasBar (literal content) := by
  rintro ⟨before, after, split, reached⟩
  have part : before <+: literal content := ⟨bar ++ after, by rw [split, List.append_assoc]⟩
  rcases prefix_literal_cases part with rfl | rfl | inside
  · exact absurd (List.cons.inj split).1 (by decide)
  · simp [bar] at split
  · exact (inside 0).ne_outside reached

/-- No bar stands outside the brackets around a balanced text. -/
theorem not_hasBar_enclosed {opening closing : Char} {inner : List Char}
    (opens : opening ∈ openings) (balanced : Balanced inner) :
    ¬ HasBar (opening :: inner ++ [closing]) := by
  rintro ⟨before, after, split, reached⟩
  have part : before <+: opening :: inner ++ [closing] :=
    ⟨bar ++ after, by rw [split, List.append_assoc]⟩
  rcases List.prefix_concat_iff.mp part with rfl | shorter
  · simp [bar] at split
  · rcases List.prefix_cons_iff.mp shorter with rfl | ⟨rest, rfl, inside⟩
    · obtain rfl : opening = ' ' := (List.cons.inj split).1
      exact absurd opens (by decide)
    · have positive : 0 < ((outside 0).after (opening :: rest)).depth :=
        depth_pos_inside opens balanced inside
      rw [reached] at positive
      exact absurd positive (Nat.lt_irrefl 0)

/-! ## Values of enumerations -/

section

variable {value : Literal}

theorem toList_render_text (content : String) :
    (Literal.text content).render.toList = literal content.toList :=
  String.toList_ofList

theorem balanced_render (sound : value.WellFormed) : Balanced value.render.toList := by
  cases value with
  | text content =>
      rw [toList_render_text]
      exact balanced_literal content.toList
  | number numeral =>
      have noMark : marks.any Number.isPart = false := by decide
      refine balanced_unmarked (List.any_eq_false.mpr fun character member marked => ?_)
      exact List.any_eq_false.mp noMark character (List.contains_iff_mem.mp marked)
        (sound rfl character member)

theorem balanced_values {separator : List Char} {values : List Literal}
    (between : Balanced separator) (sound : ∀ value ∈ values, value.WellFormed) :
    Balanced (separator.intercalate (values.map fun value => value.render.toList)) :=
  balanced_intercalate between
    (List.forall_mem_map.mpr fun value member => balanced_render (sound value member))

theorem not_hasBar_render (sound : value.WellFormed) : ¬ HasBar value.render.toList := by
  cases value with
  | text content =>
      rw [toList_render_text]
      exact not_hasBar_literal content.toList
  | number numeral =>
      exact not_hasBar_of_not_mem fun blank => absurd (sound rfl ' ' blank) (by decide)

end

section

variable {symbols : List Symbol}

theorem balanced_unionType (legible : Enumeration.Legible symbols) :
    Balanced (Enumeration.unionType symbols).toList := by
  rw [Enumeration.unionType, legible.toList_intercalate]
  exact balanced_values (balanced_unmarked (by decide)) legible.sound_values

/-- The text of a union has a bar as soon as it has two alternatives. -/
theorem hasBar_unionType_iff (legible : Enumeration.Legible symbols) :
    HasBar (Enumeration.unionType symbols).toList ↔ 2 ≤ symbols.length := by
  have written : (Enumeration.unionType symbols).toList =
      bar.intercalate (symbols.map fun symbol => symbol.value.render.toList) := by
    rw [Enumeration.unionType, legible.toList_intercalate, List.map_map]
    rfl
  rw [written]
  cases symbols with
  | nil => simpa using not_hasBar_of_not_mem List.not_mem_nil
  | cons first others =>
      have sound := legible.sound first List.mem_cons_self
      cases others with
      | nil => simpa using not_hasBar_render sound
      | cons second rest =>
          have returns := (balanced_render sound 0).1
          simp only [List.map_cons, List.intercalate_cons_cons, List.append_assoc,
            List.length_cons, Nat.le_add_left, iff_true]
          exact hasBar_append returns _

end

end ApiCatalog.TypeText
