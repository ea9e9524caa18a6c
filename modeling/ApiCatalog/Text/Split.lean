/-!
# Splitting

A text as the parts between its separators. Main statement: the parts, joined by the separator, are
the text, and the parts of a joined text are those it is joined of, if they have no separators.
-/

namespace ApiCatalog.Text

/-- The parts of a text between separators, one more than it has separators. -/
def splitOn (separator : Char) : List Char → List (List Char)
  | [] => [[]]
  | character :: rest =>
      if character = separator then [] :: splitOn separator rest
      else
        match splitOn separator rest with
        | [] => [[character]]
        | part :: parts => (character :: part) :: parts

/-- Each part of a joined text but the first one stands after a separator. -/
theorem intercalate_cons (separator part : List Char) (later : List (List Char)) :
    separator.intercalate (part :: later) = part ++ later.flatMap (separator ++ ·) := by
  induction later generalizing part with
  | nil => simp
  | cons next more induction =>
      rw [List.intercalate_cons_cons, induction, List.flatMap_cons]
      simp only [List.append_assoc]

theorem splitOn_ne_nil (separator : Char) (text : List Char) : splitOn separator text ≠ [] := by
  cases text with
  | nil => simp [splitOn]
  | cons character rest =>
      simp only [splitOn]
      split
      · simp
      · split <;> simp

theorem intercalate_splitOn (separator : Char) (text : List Char) :
    [separator].intercalate (splitOn separator text) = text := by
  induction text with
  | nil => rfl
  | cons character rest induction =>
      have parts := splitOn_ne_nil separator rest
      by_cases equal : character = separator
      · cases split : splitOn separator rest with
        | nil => exact absurd split parts
        | cons part others =>
            rw [split] at induction
            simp [splitOn, equal, split, List.intercalate_cons_cons, induction]
      · cases split : splitOn separator rest with
        | nil => exact absurd split parts
        | cons part others =>
            rw [split] at induction
            cases others with
            | nil => simpa [splitOn, equal, split] using induction
            | cons next more =>
                simp only [List.intercalate_cons_cons] at induction
                simp only [splitOn, equal, split, List.intercalate_cons_cons, if_false]
                simpa using induction

theorem splitOn_of_not_mem {separator : Char} {text : List Char} (absent : separator ∉ text) :
    splitOn separator text = [text] := by
  induction text with
  | nil => rfl
  | cons character rest induction =>
      obtain ⟨differs, absent⟩ := not_or.mp (mt List.mem_cons.mpr absent)
      simp only [splitOn, induction absent, if_neg (Ne.symm differs)]

theorem splitOn_append {separator : Char} {part : List Char} (rest : List Char)
    (absent : separator ∉ part) :
    splitOn separator (part ++ separator :: rest) = part :: splitOn separator rest := by
  induction part with
  | nil => simp only [List.nil_append, splitOn, if_true]
  | cons character part induction =>
      obtain ⟨differs, absent⟩ := not_or.mp (mt List.mem_cons.mpr absent)
      simp only [List.cons_append, splitOn, induction absent, if_neg (Ne.symm differs)]

theorem not_mem_of_mem_splitOn {separator : Char} {text part : List Char}
    (member : part ∈ splitOn separator text) : separator ∉ part := by
  induction text generalizing part with
  | nil =>
      rw [List.mem_singleton.mp member]
      exact List.not_mem_nil
  | cons character rest induction =>
      by_cases equal : character = separator
      · rw [splitOn, if_pos equal] at member
        rcases List.mem_cons.mp member with rfl | later
        · exact List.not_mem_nil
        · exact induction later
      · obtain ⟨first, others, split⟩ := List.exists_cons_of_ne_nil (splitOn_ne_nil separator rest)
        rw [splitOn, if_neg equal, split] at member
        rw [split] at induction
        rcases List.mem_cons.mp member with rfl | later
        · intro inside
          rcases List.mem_cons.mp inside with same | deeper
          · exact equal same.symm
          · exact induction List.mem_cons_self deeper
        · exact induction (List.mem_cons_of_mem first later)

/-- Parts without separators are the parts of the text they are joined to. -/
theorem splitOn_intercalate {separator : Char} {parts : List (List Char)} (nonempty : parts ≠ [])
    (absent : ∀ part ∈ parts, separator ∉ part) :
    splitOn separator ([separator].intercalate parts) = parts := by
  induction parts with
  | nil => exact absurd rfl nonempty
  | cons part rest induction =>
      obtain ⟨here, later⟩ := List.forall_mem_cons.mp absent
      cases rest with
      | nil => rw [List.intercalate_singleton, splitOn_of_not_mem here]
      | cons next more =>
          rw [List.intercalate_cons_cons, List.append_assoc, List.singleton_append,
            splitOn_append _ here, induction (List.cons_ne_nil next more) later]

end ApiCatalog.Text
