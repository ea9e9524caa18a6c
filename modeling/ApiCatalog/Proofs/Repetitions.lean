/-!
# Repetitions

Erasing duplicates leaves a list without repetitions, and leaves such a list as it is. It commutes
with functions that tell the items apart.
-/

namespace ApiCatalog.Text

theorem nodup_eraseDups (texts : List String) : texts.eraseDups.Nodup := by
  induction size : texts.length using Nat.strongRecOn generalizing texts with
  | ind length induction =>
      cases texts with
      | nil => simp
      | cons first rest =>
          rw [List.eraseDups_cons, List.nodup_cons]
          have shorter : (rest.filter fun text => !text == first).length < length := by
            have kept := List.length_filter_le (fun text => !text == first) rest
            rw [← size, List.length_cons]
            omega
          exact ⟨by simp [List.mem_eraseDups], induction _ shorter _ rfl⟩

theorem eraseDups_of_nodup {texts : List String} (distinct : texts.Nodup) :
    texts.eraseDups = texts := by
  induction texts with
  | nil => rfl
  | cons first rest induction =>
      obtain ⟨new, distinct⟩ := List.nodup_cons.mp distinct
      have kept : rest.filter (fun text => !text == first) = rest := by
        refine List.filter_eq_self.mpr fun text member => ?_
        have differs : text ≠ first := fun same => new (same ▸ member)
        simpa using differs
      rw [List.eraseDups_cons, kept, induction distinct]

/-- A function that tells items of a list apart may as well be applied after erasing duplicates. -/
theorem eraseDups_map {α β : Type} [BEq α] [LawfulBEq α] [BEq β] [LawfulBEq β] {image : α → β}
    {items : List α}
    (apart : ∀ left ∈ items, ∀ right ∈ items, image left = image right → left = right) :
    (items.map image).eraseDups = items.eraseDups.map image := by
  induction size : items.length using Nat.strongRecOn generalizing items with
  | ind length induction =>
      cases items with
      | nil => rfl
      | cons first rest =>
          have shorter : (rest.filter fun item => !item == first).length < length := by
            have kept := List.length_filter_le (fun item => !item == first) rest
            rw [← size, List.length_cons]
            omega
          have others : (rest.map image).filter (fun item => !item == image first) =
              (rest.filter fun item => !item == first).map image := by
            rw [List.filter_map]
            refine congrArg _ (List.filter_congr fun item member => ?_)
            have same : image item = image first ↔ item = first :=
              ⟨apart item (List.mem_cons_of_mem _ member) first List.mem_cons_self, congrArg image⟩
            rw [Function.comp, Bool.eq_iff_iff]
            simpa using not_congr same
          have apartOthers : ∀ left ∈ rest.filter (fun item => !item == first),
              ∀ right ∈ rest.filter (fun item => !item == first),
                image left = image right → left = right :=
            fun left inLeft right inRight =>
              apart left (List.mem_cons_of_mem _ (List.mem_filter.mp inLeft).1)
                right (List.mem_cons_of_mem _ (List.mem_filter.mp inRight).1)
          rw [List.map_cons, List.eraseDups_cons, List.eraseDups_cons, List.map_cons, others,
            induction _ shorter apartOthers rfl]

end ApiCatalog.Text
