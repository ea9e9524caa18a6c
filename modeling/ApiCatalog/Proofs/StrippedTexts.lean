import ApiCatalog.Text.Blank
import Mathlib.Data.List.TakeWhile

/-!
# Stripped texts

What is dropped at the two ends of a list, and what is left: a stripped list starts and ends with
items that are kept, and a list that does so is left as it is. Trimming a text strips it of blanks.
-/

namespace ApiCatalog.Text

/-! ## Lists -/

/-- A list without what is dropped at its two ends. -/
abbrev stripped {α : Type} (drops : α → Bool) (list : List α) : List α :=
  ((list.dropWhile drops).reverse.dropWhile drops).reverse

section

variable {α : Type} {drops : α → Bool}

theorem dropWhile_of_head? {list : List α} (starts : ∀ first ∈ list.head?, drops first = false) :
    list.dropWhile drops = list := by
  cases list with
  | nil => rfl
  | cons first rest => exact List.dropWhile_cons_of_neg (by simp [starts first rfl])

theorem head?_dropWhile (list : List α) :
    ∀ first ∈ (list.dropWhile drops).head?, drops first = false := by
  intro first isFirst
  have kept := List.head?_dropWhile_not drops list
  rw [isFirst] at kept
  exact Bool.eq_false_iff.mpr (by simpa using kept)

/-- Items that are dropped are taken off in front of one that is not. -/
theorem takeWhile_dropWhile_append {front rest : List α}
    (inside : ∀ item ∈ front, drops item = true)
    (ends : ∀ next ∈ rest.head?, drops next = false) :
    (front ++ rest).takeWhile drops = front ∧ (front ++ rest).dropWhile drops = rest := by
  rw [List.takeWhile_append_of_pos inside, List.dropWhile_append_of_pos inside]
  cases rest with
  | nil => simp
  | cons next more => simp [ends next rfl]

theorem stripped_eq_append (drops : α → Bool) (list : List α) :
    ∃ before after, list = before ++ (stripped drops list ++ after) ∧
      (∀ item ∈ before, drops item = true) ∧ ∀ item ∈ after, drops item = true := by
  let body := list.dropWhile drops
  refine ⟨list.takeWhile drops, (body.reverse.takeWhile drops).reverse, ?_,
    fun _ => List.mem_takeWhile_imp,
    fun _ member => List.mem_takeWhile_imp (List.mem_reverse.mp member)⟩
  have whole : stripped drops list ++ (body.reverse.takeWhile drops).reverse = body := by
    rw [stripped, ← List.reverse_append, List.takeWhile_append_dropWhile, List.reverse_reverse]
  rw [whole, List.takeWhile_append_dropWhile]

/-- Neither end of what is left would be dropped. -/
theorem ends_stripped (drops : α → Bool) (list : List α) :
    (∀ first ∈ (stripped drops list).head?, drops first = false) ∧
      ∀ last ∈ (stripped drops list).getLast?, drops last = false := by
  let body := list.dropWhile drops
  have opens : stripped drops list <+: body := by
    have suffix := List.dropWhile_suffix drops (l := body.reverse)
    rwa [← List.reverse_prefix, List.reverse_reverse] at suffix
  constructor
  · intro first isFirst
    obtain ⟨after, whole⟩ := opens
    have here : body.head? = some first := by
      rw [← whole, List.head?_append, isFirst]
      rfl
    exact head?_dropWhile list first here
  · rw [stripped, List.getLast?_reverse]
    exact head?_dropWhile body.reverse

theorem stripped_of_ends {list : List α} (starts : ∀ first ∈ list.head?, drops first = false)
    (ends : ∀ last ∈ list.getLast?, drops last = false) : stripped drops list = list := by
  rw [stripped, dropWhile_of_head? starts, dropWhile_of_head? (by rwa [List.head?_reverse]),
    List.reverse_reverse]

end

/-! ## Texts -/

/-- No blank stands at an end of a text. -/
def Bare (text : List Char) : Prop :=
  (∀ first ∈ text.head?, isBlank first = false) ∧ ∀ last ∈ text.getLast?, isBlank last = false

theorem bare_trim (text : List Char) : Bare (trim text) :=
  ends_stripped isBlank text

theorem trim_of_bare {text : List Char} (bare : Bare text) : trim text = text :=
  stripped_of_ends bare.1 bare.2

theorem trim_trim (text : List Char) : trim (trim text) = trim text :=
  trim_of_bare (bare_trim text)

theorem trim_eq_append (text : List Char) :
    ∃ before after, text = before ++ (trim text ++ after) ∧
      (∀ character ∈ before, isBlank character = true) ∧
        ∀ character ∈ after, isBlank character = true :=
  stripped_eq_append isBlank text

theorem isInfix_trim (text : List Char) : trim text <:+: text := by
  obtain ⟨before, after, whole, _, _⟩ := trim_eq_append text
  exact ⟨before, after, by rw [List.append_assoc, ← whole]⟩

/-- Trimming removes blanks around a text that has none at its ends. -/
theorem trim_padded {before text after : List Char} (bare : Bare text) (nonempty : text ≠ [])
    (blankBefore : ∀ character ∈ before, isBlank character = true)
    (blankAfter : ∀ character ∈ after, isBlank character = true) :
    trim (before ++ text ++ after) = text := by
  have front : (text ++ after).dropWhile isBlank = text ++ after := by
    apply dropWhile_of_head?
    obtain ⟨first, rest, rfl⟩ := List.exists_cons_of_ne_nil nonempty
    exact bare.1
  have back : text.reverse.dropWhile isBlank = text.reverse := by
    apply dropWhile_of_head?
    rw [List.head?_reverse]
    exact bare.2
  have blankReversed : ∀ character ∈ after.reverse, isBlank character = true :=
    fun character member => blankAfter character (List.mem_reverse.mp member)
  rw [trim, List.append_assoc, List.dropWhile_append_of_pos blankBefore, front, trimEnd,
    List.reverse_append, List.dropWhile_append_of_pos blankReversed, back, List.reverse_reverse]

end ApiCatalog.Text
