import ApiCatalog.Identifier
import Mathlib.Data.List.Nodup
import Mathlib.Data.List.Perm.Subperm
import Mathlib.Data.Nat.Find
import Mathlib.Tactic.Tauto

/-!
# Distinct names

A name is handed out as it is requested if it is free, and otherwise with the least number from two
on that frees it. Numbers write different texts, so that the used names take at most as many numbers
as there are used names, and the search ends. Names handed out in turn are distinct, each of them
distinguished from all earlier ones.
-/

namespace ApiCatalog.Identifier

/-- A name that may be handed out for a requested one beside used ones. -/
inductive Distinguished (base : String) (used : List String) : String → Prop
  /-- The requested name, if it is free. -/
  | free : base ∉ used → Distinguished base used base
  /-- The requested name with the least number that frees it, if the name itself is used. -/
  | numbered {number : Nat} : base ∈ used → 2 ≤ number → base ++ toString number ∉ used →
      (∀ smaller, 2 ≤ smaller → smaller < number → base ++ toString smaller ∈ used) →
      Distinguished base used (base ++ toString number)

theorem Distinguished.not_mem {base name : String} {used : List String}
    (distinguished : Distinguished base used name) : name ∉ used := by
  cases distinguished with
  | free free => exact free
  | numbered _ _ free _ => exact free

theorem Distinguished.congr {base name : String} {used others : List String}
    (same : ∀ other, other ∈ used ↔ other ∈ others)
    (distinguished : Distinguished base used name) : Distinguished base others name := by
  cases distinguished with
  | free free => exact .free (mt (same base).mpr free)
  | numbered taken large free least =>
      exact .numbered ((same base).mp taken) large (mt (same _).mpr free)
        fun smaller low high => (same _).mp (least smaller low high)

theorem numbered_injective (base : String) :
    Function.Injective fun number : Nat => base ++ toString number := by
  intro left right same
  have digits : Nat.toDigits 10 left = Nat.toDigits 10 right := by
    simpa [← String.toList_inj] using same
  calc
    left = Nat.ofDigitChars 10 (Nat.toDigits 10 left) 0 := Nat.ofDigitChars_ten_toDigits.symm
    _ = Nat.ofDigitChars 10 (Nat.toDigits 10 right) 0 := by rw [digits]
    _ = right := Nat.ofDigitChars_ten_toDigits

/-- The used names cannot take all of one number more than there are used names. -/
theorem exists_free (base : String) (used : List String) (number : Nat) :
    ∃ free, number ≤ free ∧ free ≤ number + used.length ∧ base ++ toString free ∉ used := by
  -- If no number in the range were free, they would give more used names than there are.
  by_contra none
  have taken : (List.range' number (used.length + 1)).map (fun free => base ++ toString free) ⊆
      used := by
    intro name member
    obtain ⟨free, within, rfl⟩ := List.mem_map.mp member
    obtain ⟨low, high⟩ := List.mem_range'_1.mp within
    by_contra untaken
    exact none ⟨free, low, by omega, untaken⟩
  have distinct :
      ((List.range' number (used.length + 1)).map fun free => base ++ toString free).Nodup :=
    List.Nodup.map (numbered_injective base) List.nodup_range'
  have fits := (List.subperm_of_subset distinct taken).length_le
  rw [List.length_map, List.length_range'] at fits
  omega

/-- The search stops at the least free number if there is one within its tries. -/
theorem firstFree_eq {base : String} {used : List String} {tries number free : Nat}
    (low : number ≤ free) (high : free ≤ number + tries) (untaken : base ++ toString free ∉ used)
    (least : ∀ smaller, number ≤ smaller → smaller < free → base ++ toString smaller ∈ used) :
    firstFree base used tries number = base ++ toString free := by
  induction tries generalizing number with
  | zero =>
      have same : number = free := by omega
      rw [firstFree, same]
  | succ tries induction =>
      rw [firstFree]
      by_cases found : number = free
      · rw [found, if_neg (mt List.contains_iff_mem.mp untaken)]
      · have taken := least number (Nat.le_refl number) (by omega)
        rw [if_pos (List.contains_iff_mem.mpr taken)]
        exact induction (by omega) (by omega) fun smaller lower => least smaller (by omega)

/-- Handing out one name: the search for a number always ends, with the least one that is free. -/
theorem distinguished_distinguish (base : String) (used : List String) :
    Distinguished base used (distinguish base used) := by
  unfold distinguish
  by_cases taken : base ∈ used
  · have found : ∃ number, 2 ≤ number ∧ base ++ toString number ∉ used := by
      obtain ⟨number, low, _, free⟩ := exists_free base used 2
      exact ⟨number, low, free⟩
    obtain ⟨low, free⟩ := Nat.find_spec found
    have least : ∀ smaller, 2 ≤ smaller → smaller < Nat.find found →
        base ++ toString smaller ∈ used := by
      intro smaller large before
      by_contra untaken
      exact Nat.find_min found before ⟨large, untaken⟩
    have high : Nat.find found ≤ 2 + used.length := by
      obtain ⟨number, large, bound, untaken⟩ := exists_free base used 2
      exact Nat.le_trans (Nat.find_min' found ⟨large, untaken⟩) bound
    rw [if_pos (List.contains_iff_mem.mpr taken), firstFree_eq low high free least]
    exact .numbered taken low free least
  · rw [if_neg (mt List.contains_iff_mem.mp taken)]
    exact .free taken

/-! ## Names handed out in turn -/

theorem length_distinguishAll (used names : List String) :
    (distinguishAll used names).length = names.length := by
  induction names generalizing used with
  | nil => rfl
  | cons name rest induction => rw [distinguishAll, List.length_cons, induction, List.length_cons]

theorem not_mem_of_mem_distinguishAll {used names : List String} {name : String}
    (member : name ∈ distinguishAll used names) : name ∉ used := by
  induction names generalizing used with
  | nil => simp [distinguishAll] at member
  | cons first rest induction =>
      rcases List.mem_cons.mp member with rfl | later
      · exact (distinguished_distinguish first used).not_mem
      · exact fun old => induction later (List.mem_cons_of_mem _ old)

/-- Names handed out in turn are distinct. -/
theorem nodup_distinguishAll (used names : List String) : (distinguishAll used names).Nodup := by
  induction names generalizing used with
  | nil => exact List.nodup_nil
  | cons name rest induction =>
      refine List.nodup_cons.mpr ⟨fun later => ?_, induction _⟩
      exact not_mem_of_mem_distinguishAll later List.mem_cons_self

/-- Each name is distinguished from those used at first and those handed out before it. -/
theorem distinguished_of_zip {used names : List String} {earlier later : List (String × String)}
    {base name : String}
    (split : names.zip (distinguishAll used names) = earlier ++ (base, name) :: later) :
    Distinguished base (earlier.map Prod.snd ++ used) name := by
  induction earlier generalizing used names with
  | nil =>
      cases names with
      | nil => simp at split
      | cons first rest =>
          rw [distinguishAll, List.zip_cons_cons, List.nil_append] at split
          obtain ⟨rfl, rfl⟩ := Prod.ext_iff.mp (List.cons.inj split).1
          exact distinguished_distinguish _ used
  | cons pair earlier induction =>
      cases names with
      | nil => simp at split
      | cons first rest =>
          rw [distinguishAll, List.zip_cons_cons, List.cons_append] at split
          obtain ⟨rfl, tail⟩ := List.cons.inj split
          -- A name handed out first is a used one for the rest, so the two lists agree as sets only.
          refine (induction tail).congr fun other => ?_
          simp only [List.map_cons, List.cons_append, List.mem_append, List.mem_cons]
          tauto

end ApiCatalog.Identifier
