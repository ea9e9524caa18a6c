import ApiCatalog.Dependencies
import Mathlib.Logic.Relation

/-!
# Reachability between definitions

The search from a name finds exactly the names that can be reached by following one reference or
more. The central invariant is `Explored`: only the newest names may refer to names that are not
visited. The search ends with no newest names left, since every round that finds a name with
references leaves fewer such names unvisited.
-/

namespace ApiCatalog.Dependencies

/-- One name refers to another one. -/
def Edge (dependencies : Dependencies) (source target : String) : Prop :=
  target ∈ dependencies.next source

/-- One name leads to another one over one reference or more. -/
def Leads (dependencies : Dependencies) : String → String → Prop :=
  Relation.TransGen dependencies.Edge

variable (dependencies : Dependencies)

theorem name_mem_of_edge {source target : String} (edge : dependencies.Edge source target) :
    source ∈ dependencies.names := by
  unfold Edge next at edge
  cases found : dependencies.targets.lookup source with
  | none => simp [found] at edge
  | some targets =>
      obtain ⟨front, rest, equation, _⟩ := List.lookup_eq_some_iff.mp found
      simp [names, equation]

theorem name_mem_of_leads {source target : String} (leads : dependencies.Leads source target) :
    source ∈ dependencies.names := by
  obtain ⟨middle, edge, _⟩ := Relation.TransGen.head'_iff.mp leads
  exact dependencies.name_mem_of_edge edge

theorem mem_fresh_iff {newest visited : List String} {name : String} :
    name ∈ dependencies.fresh newest visited ↔
      (∃ source ∈ newest, dependencies.Edge source name) ∧ name ∉ visited := by
  simp [fresh, Edge, List.mem_eraseDups]

/-! ## What the search finds can be reached -/

theorem leads_of_mem_expand {start : String} {rounds : Nat} {newest visited : List String}
    (newest_reached : ∀ name ∈ newest, name = start ∨ dependencies.Leads start name)
    (visited_reached : ∀ name ∈ visited, dependencies.Leads start name) :
    ∀ name ∈ dependencies.expand rounds newest visited, dependencies.Leads start name := by
  induction rounds generalizing newest visited with
  | zero => exact visited_reached
  | succ rounds induction =>
      have fresh_reached : ∀ name ∈ dependencies.fresh newest visited,
          dependencies.Leads start name := by
        intro name found
        obtain ⟨⟨source, recent, edge⟩, _⟩ := dependencies.mem_fresh_iff.mp found
        rcases newest_reached source recent with rfl | earlier
        · exact .single edge
        · exact .tail earlier edge
      rw [expand]
      split
      · exact visited_reached
      · rename_i first rest equation
        rw [equation] at fresh_reached
        apply induction
        · exact fun name recent => Or.inr (fresh_reached name recent)
        · intro name member
          rcases List.mem_append.mp member with old | recent
          · exact visited_reached name old
          · exact fresh_reached name recent

/-! ## What can be reached is found -/

/-- Only the newest names may still refer to names that are not visited. -/
def Explored (start : String) (newest visited : List String) : Prop :=
  ∀ source ∈ start :: visited, source ∉ newest →
    ∀ target, dependencies.Edge source target → target ∈ visited

/-- The names with references that are not visited. -/
def unvisited (visited : List String) : List String :=
  dependencies.names.filter fun name => !visited.contains name

theorem length_unvisited_append_lt {visited found : List String} {name : String}
    (named : name ∈ dependencies.names) (new : name ∈ found) (old : name ∉ visited) :
    (dependencies.unvisited (visited ++ found)).length <
      (dependencies.unvisited visited).length := by
  have split : dependencies.unvisited (visited ++ found) =
      (dependencies.unvisited visited).filter fun other => !found.contains other := by
    simp [unvisited, List.filter_filter, Bool.and_comm]
  rw [split, List.length_filter_lt_length_iff_exists]
  exact ⟨name, by simp [unvisited, named, old], by simp [new]⟩

theorem explored_step {start : String} {newest visited : List String}
    (explored : dependencies.Explored start newest visited) :
    dependencies.Explored start (dependencies.fresh newest visited)
      (visited ++ dependencies.fresh newest visited) := by
  intro source member settled target edge
  have known : source ∈ start :: visited := by
    rcases List.mem_cons.mp member with rfl | later
    · exact List.mem_cons_self
    · rcases List.mem_append.mp later with old | recent
      · exact List.mem_cons_of_mem _ old
      · exact absurd recent settled
  by_cases recent : source ∈ newest
  · by_cases old : target ∈ visited
    · exact List.mem_append_left _ old
    · exact List.mem_append_right _
        (dependencies.mem_fresh_iff.mpr ⟨⟨source, recent, edge⟩, old⟩)
  · exact List.mem_append_left _ (explored source known recent target edge)

theorem explored_of_fresh_nil {start : String} {newest visited : List String}
    (explored : dependencies.Explored start newest visited)
    (exhausted : dependencies.fresh newest visited = []) :
    dependencies.Explored start [] visited := by
  have step := dependencies.explored_step explored
  rw [exhausted, List.append_nil] at step
  exact step

/-- As long as a round is left for every unvisited name with references, the search ends with
nothing left to explore. The last round may find names without references only. -/
theorem explored_expand {start : String} {rounds : Nat} {newest visited : List String}
    (explored : dependencies.Explored start newest visited)
    (enough : (dependencies.unvisited visited).length < rounds ∨
      ∀ source ∈ newest, source ∉ dependencies.names) :
    dependencies.Explored start [] (dependencies.expand rounds newest visited) := by
  induction rounds generalizing newest visited with
  | zero =>
      have leaves : ∀ source ∈ newest, source ∉ dependencies.names :=
        enough.resolve_left (Nat.not_lt_zero _)
      intro source member _ target edge
      apply explored source member _ target edge
      exact fun recent => leaves source recent (dependencies.name_mem_of_edge edge)
  | succ rounds induction =>
      rw [expand]
      split
      · rename_i exhausted
        exact dependencies.explored_of_fresh_nil explored exhausted
      · rename_i first rest equation
        have step := dependencies.explored_step explored
        rw [equation] at step
        refine induction step ?_
        have recent_source : ∃ source ∈ newest, source ∈ dependencies.names := by
          have found : first ∈ dependencies.fresh newest visited := by simp [equation]
          obtain ⟨⟨source, recent, edge⟩, _⟩ := dependencies.mem_fresh_iff.mp found
          exact ⟨source, recent, dependencies.name_mem_of_edge edge⟩
        have fewer : (dependencies.unvisited visited).length < rounds + 1 := by
          refine enough.resolve_right fun leaves => ?_
          obtain ⟨source, recent, named⟩ := recent_source
          exact leaves source recent named
        by_cases deeper : ∃ name ∈ first :: rest, name ∈ dependencies.names
        · obtain ⟨name, found, named⟩ := deeper
          have old : name ∉ visited := by
            rw [← equation] at found
            exact (dependencies.mem_fresh_iff.mp found).2
          have smaller := dependencies.length_unvisited_append_lt named found old
          exact Or.inl (by omega)
        · exact Or.inr fun name found named => deeper ⟨name, found, named⟩

theorem mem_of_leads {start target : String} {visited : List String}
    (explored : dependencies.Explored start [] visited)
    (leads : dependencies.Leads start target) : target ∈ visited := by
  induction leads with
  | single edge => exact explored start List.mem_cons_self (by simp) _ edge
  | tail _ edge induction =>
      exact explored _ (List.mem_cons_of_mem _ induction) (by simp) _ edge

/-- The search from a name finds exactly the names that the name leads to. -/
theorem mem_reachable_iff {start target : String} :
    target ∈ dependencies.reachable start ↔ dependencies.Leads start target := by
  constructor
  · exact dependencies.leads_of_mem_expand (by simp) (by simp) target
  · apply dependencies.mem_of_leads
    apply dependencies.explored_expand
    · intro source member settled
      exact absurd member settled
    · left
      have bound : (dependencies.unvisited []).length ≤ dependencies.names.length :=
        List.length_filter_le _ _
      simp only [names, List.length_map] at bound
      omega

end ApiCatalog.Dependencies
