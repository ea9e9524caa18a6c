import ApiCatalog.Identifier
import ApiCatalog.Proofs.StrippedTexts

/-!
# Runs of characters

The runs of a text are read from its front: a character without the property is passed over, and a
run goes on as long as the property holds. So the runs are the maximal ones, and no other list is:
`maximalRuns_iff`.
-/

namespace ApiCatalog.Identifier

open Text

variable {keep : Char → Bool}

/-! ## Reading runs -/

theorem runsOf_cons_of_not {character : Char} (dropped : keep character = false)
    (rest : List Char) : runsOf keep (character :: rest) = runsOf keep rest := by
  simp [runsOf, dropped]

/-- The run a text starts with, and the runs behind it. -/
theorem runsOf_cons {first : Char} (kept : keep first = true) (rest : List Char) :
    runsOf keep (first :: rest) =
      (first :: rest.takeWhile keep) :: runsOf keep (rest.dropWhile keep) := by
  induction rest generalizing first with
  | nil => simp [runsOf, kept]
  | cons next more induction =>
      rw [runsOf.eq_def]
      by_cases continues : keep next = true
      · simp [kept, continues, induction continues]
      · rw [List.takeWhile_cons_of_neg continues, List.dropWhile_cons_of_neg continues]
        cases found : runsOf keep (next :: more) <;> simp [kept, continues, found]

/-- A character goes on with the run behind it if one starts there. -/
theorem runsOf_cons_eq {first : Char} (kept : keep first = true) (rest : List Char) :
    runsOf keep (first :: rest) =
      match runsOf keep rest with
      | [] => [[first]]
      | run :: runs =>
          if rest.head?.any keep then (first :: run) :: runs else [first] :: run :: runs := by
  cases rest with
  | nil => simp [runsOf, kept]
  | cons next more =>
      rw [runsOf.eq_def]
      simp only [kept, if_true]
      cases runsOf keep (next :: more) <;> rfl

/-- The runs of a text depend on what follows its first character only by the runs there and by
whether one of them starts at once. -/
theorem runsOf_cons_congr {first : Char} {rest other : List Char}
    (same : runsOf keep rest = runsOf keep other)
    (sameHead : rest.head?.any keep = other.head?.any keep) :
    runsOf keep (first :: rest) = runsOf keep (first :: other) := by
  by_cases kept : keep first = true
  · rw [runsOf_cons_eq kept, runsOf_cons_eq kept, same, sameHead]
  · have dropped : keep first = false := Bool.eq_false_iff.mpr kept
    rw [runsOf_cons_of_not dropped, runsOf_cons_of_not dropped, same]

theorem runsOf_append_of_not {character : Char} (dropped : keep character = false)
    (text : List Char) : runsOf keep (text ++ [character]) = runsOf keep text := by
  induction text with
  | nil => exact runsOf_cons_of_not dropped []
  | cons first rest induction =>
      refine runsOf_cons_congr induction ?_
      cases rest with
      | nil => simp [dropped]
      | cons next more => rfl

/-- What is dropped before a text leaves no run. -/
theorem runsOf_gap_append {gap : List Char} (dropped : ∀ character ∈ gap, keep character = false)
    (rest : List Char) : runsOf keep (gap ++ rest) = runsOf keep rest := by
  induction gap with
  | nil => rfl
  | cons first gap induction =>
      obtain ⟨here, later⟩ := List.forall_mem_cons.mp dropped
      rw [List.cons_append, runsOf_cons_of_not here, induction later]

/-- What is dropped behind a text leaves no run. -/
theorem runsOf_append_gap {gap : List Char} (dropped : ∀ character ∈ gap, keep character = false)
    (text : List Char) : runsOf keep (text ++ gap) = runsOf keep text := by
  induction gap generalizing text with
  | nil => rw [List.append_nil]
  | cons first gap induction =>
      obtain ⟨here, later⟩ := List.forall_mem_cons.mp dropped
      rw [List.append_cons, induction later, runsOf_append_of_not here]

/-- The runs of a text hold the characters with the property. -/
theorem flatten_runsOf (keep : Char → Bool) (text : List Char) :
    (runsOf keep text).flatten = text.filter keep := by
  induction text with
  | nil => rfl
  | cons first rest induction =>
      by_cases kept : keep first = true
      · rw [runsOf_cons_eq kept, List.filter_cons_of_pos kept, ← induction]
        cases runsOf keep rest with
        | nil => rfl
        | cons run runs =>
            simp only
            split <;> rfl
      · rw [runsOf_cons_of_not (Bool.eq_false_iff.mpr kept), List.filter_cons_of_neg kept, induction]

theorem runsOf_eq_nil_iff {text : List Char} :
    runsOf keep text = [] ↔ ∀ character ∈ text, keep character = false := by
  constructor
  · intro none
    have held := flatten_runsOf keep text
    rw [none, List.flatten_nil, eq_comm, List.filter_eq_nil_iff] at held
    exact fun character member => Bool.eq_false_iff.mpr (held character member)
  · intro dropped
    rw [← List.append_nil text, runsOf_gap_append dropped]
    rfl

/-! ## Maximal runs -/

/-- The maximal runs of the characters of a text with a property: nothing else of the text has the
property, and each run ends where the text does or before a character without it. -/
inductive MaximalRuns (keep : Char → Bool) : List Char → List (List Char) → Prop
  | none {gap : List Char} (dropped : ∀ character ∈ gap, keep character = false) :
      MaximalRuns keep gap []
  | run {gap run rest : List Char} {runs : List (List Char)}
      (dropped : ∀ character ∈ gap, keep character = false) (nonempty : run ≠ [])
      (kept : ∀ character ∈ run, keep character = true)
      (ends : ∀ next ∈ rest.head?, keep next = false) (later : MaximalRuns keep rest runs) :
      MaximalRuns keep (gap ++ (run ++ rest)) (run :: runs)

theorem MaximalRuns.cons_of_not {character : Char} {rest : List Char} {runs : List (List Char)}
    (dropped : keep character = false) (maximal : MaximalRuns keep rest runs) :
    MaximalRuns keep (character :: rest) runs := by
  cases maximal with
  | none others => exact .none (List.forall_mem_cons.mpr ⟨dropped, others⟩)
  | run others nonempty kept ends later =>
      exact .run (List.forall_mem_cons.mpr ⟨dropped, others⟩) nonempty kept ends later

theorem maximalRuns_runsOf (keep : Char → Bool) :
    (text : List Char) → MaximalRuns keep text (runsOf keep text)
  | [] => .none (List.forall_mem_nil _)
  | first :: rest => by
      by_cases kept : keep first = true
      · have later := maximalRuns_runsOf keep (rest.dropWhile keep)
        have whole : first :: rest =
            [] ++ (first :: rest.takeWhile keep ++ rest.dropWhile keep) := by
          rw [List.nil_append, List.cons_append, List.takeWhile_append_dropWhile]
        rw [runsOf_cons kept, whole]
        refine .run (List.forall_mem_nil _) (List.cons_ne_nil _ _) ?_ (head?_dropWhile rest) later
        exact List.forall_mem_cons.mpr ⟨kept, fun _ => List.mem_takeWhile_imp⟩
      · have dropped : keep first = false := Bool.eq_false_iff.mpr kept
        rw [runsOf_cons_of_not dropped]
        exact (maximalRuns_runsOf keep rest).cons_of_not dropped
termination_by text => text.length
decreasing_by
  · exact Nat.lt_succ_of_le (List.length_dropWhile_le keep rest)
  · exact Nat.lt_succ_self rest.length

/-- The runs that are read are the maximal ones. -/
theorem maximalRuns_iff {text : List Char} {runs : List (List Char)} :
    MaximalRuns keep text runs ↔ runs = runsOf keep text := by
  constructor
  · intro maximal
    induction maximal with
    | none dropped => exact (runsOf_eq_nil_iff.mpr dropped).symm
    | @run gap run rest runs dropped nonempty kept ends _ induction =>
        obtain ⟨first, more, rfl⟩ := List.exists_cons_of_ne_nil nonempty
        obtain ⟨here, others⟩ := List.forall_mem_cons.mp kept
        obtain ⟨taken, left⟩ := takeWhile_dropWhile_append others ends
        rw [runsOf_gap_append dropped, List.cons_append, runsOf_cons here, taken, left, induction]
  · rintro rfl
    exact maximalRuns_runsOf keep text

end ApiCatalog.Identifier
