import ApiCatalog.Proofs.CamelCase
import ApiCatalog.Proofs.StrippedTexts
import ApiCatalog.TypeExpression

/-!
# Names of types

How a name is taken apart before it is rendered. A name is generic if it is written on one line and
ends in a bracket that closes a notation opened after its first character: `isSome_split?_iff`. Any
other name without blanks around it is rendered as a whole, a plain identifier in particular.
-/

namespace ApiCatalog

namespace TypeExpression

open Text

/-! ## Generic names -/

/-- A generic name: on one line, an outer name and, in one of the two notations, its arguments. -/
def IsGeneric (name : List Char) : Prop :=
  '\n' ∉ name ∧ ∃ outer opening inner closing, closing? opening = some closing ∧ outer ≠ [] ∧
    inner ≠ [] ∧ name = outer ++ opening :: (inner ++ [closing])

theorem getLast?_generic {outer inner : List Char} {opening closing : Char} :
    (outer ++ opening :: (inner ++ [closing])).getLast? = some closing := by
  rw [← List.cons_append, ← List.append_assoc, List.getLast?_concat]

theorem splitAt?_sound {last : Char} {before text outer inner : List Char}
    (split : splitAt? last before text = some (outer, inner)) :
    ∃ opening final, closing? opening = some last ∧ outer ≠ [] ∧ inner ≠ [] ∧
      before.reverse ++ text = outer ++ opening :: (inner ++ [final]) := by
  induction text generalizing before with
  | nil => cases split
  | cons character rest induction =>
      rw [splitAt?] at split
      split at split
      · rename_i found
        simp only [Bool.and_eq_true, Bool.not_eq_true', List.isEmpty_eq_false_iff, beq_iff_eq,
          decide_eq_true_eq] at found
        obtain ⟨⟨started, closes⟩, long⟩ := found
        obtain ⟨rfl, rfl⟩ := Prod.ext_iff.mp (Option.some.inj split)
        have nonempty : rest ≠ [] := List.ne_nil_of_length_pos (by omega)
        refine ⟨character, rest.getLast nonempty, closes, by simpa using started, ?_, ?_⟩
        · apply List.ne_nil_of_length_pos
          rw [List.length_dropLast]
          omega
        · rw [List.dropLast_concat_getLast nonempty]
      · obtain ⟨opening, final, closes, outerSome, innerSome, same⟩ := induction split
        refine ⟨opening, final, closes, outerSome, innerSome, ?_⟩
        rw [← same, List.reverse_cons, List.append_assoc, List.singleton_append]

/-- Characters that do not open the notation belong to the outer name. -/
theorem splitAt?_append {last : Char} (before : List Char) {front : List Char} (rest : List Char)
    (unopened : ∀ character ∈ front, closing? character ≠ some last) :
    splitAt? last before (front ++ rest) = splitAt? last (front.reverse ++ before) rest := by
  induction front generalizing before with
  | nil => rfl
  | cons character front induction =>
      obtain ⟨skipped, unopened⟩ := List.forall_mem_cons.mp unopened
      have passed : (closing? character == some last) = false := by simpa using skipped
      rw [List.cons_append, splitAt?, passed, Bool.and_false, Bool.false_and,
        if_neg Bool.false_ne_true, induction _ unopened, List.reverse_cons, List.append_assoc,
        List.singleton_append]

theorem splitAt?_opening {opening closing : Char} {before inner : List Char}
    (closes : closing? opening = some closing) (started : before ≠ []) (nonempty : inner ≠ []) :
    splitAt? closing before (opening :: (inner ++ [closing])) = some (before.reverse, inner) := by
  have long : 2 ≤ (inner ++ [closing]).length := by
    have positive := List.length_pos_iff.mpr nonempty
    rw [List.length_append, List.length_singleton]
    omega
  have given : before.isEmpty = false := List.isEmpty_eq_false_iff.mpr started
  rw [splitAt?, given, closes, beq_self_eq_true, decide_eq_true long, List.dropLast_concat]
  rfl

/-- A notation that is opened after the first character is found. -/
theorem isSome_splitAt? {last opening : Char} {before outer rest : List Char}
    (closes : closing? opening = some last) (started : before ≠ [] ∨ outer ≠ [])
    (long : 2 ≤ rest.length) : (splitAt? last before (outer ++ opening :: rest)).isSome = true := by
  induction outer generalizing before with
  | nil =>
      have given : before.isEmpty = false :=
        List.isEmpty_eq_false_iff.mpr (started.resolve_right fun absent => absent rfl)
      rw [List.nil_append, splitAt?, given, closes, beq_self_eq_true, decide_eq_true long]
      rfl
  | cons character outer induction =>
      rw [List.cons_append, splitAt?]
      split
      · rfl
      · exact induction (Or.inl (List.cons_ne_nil character before))

/-- The names that are taken apart are the generic ones. -/
theorem isSome_split?_iff {name : List Char} : (split? name).isSome = true ↔ IsGeneric name := by
  unfold split?
  constructor
  · intro found
    split at found
    · cases found
    · rename_i oneLine
      obtain ⟨⟨outer, inner⟩, equation⟩ := Option.isSome_iff_exists.mp found
      obtain ⟨last, isLast, split⟩ := Option.bind_eq_some_iff.mp equation
      obtain ⟨opening, final, closes, outerSome, innerSome, same⟩ := splitAt?_sound split
      rw [List.reverse_nil, List.nil_append] at same
      rw [same, getLast?_generic] at isLast
      obtain rfl := Option.some.inj isLast
      refine ⟨?_, outer, opening, inner, final, closes, outerSome, innerSome, same⟩
      simpa using oneLine
  · rintro ⟨oneLine, outer, opening, inner, closing, closes, outerSome, innerSome, rfl⟩
    have positive := List.length_pos_iff.mpr innerSome
    rw [if_neg (by simpa using oneLine), getLast?_generic]
    apply isSome_splitAt? closes (Or.inr outerSome)
    rw [List.length_append, List.length_singleton]
    omega

/-! ## Rendering -/

/-- A generic name renders as its outer name applied to its arguments, and any other one as such. -/
theorem ofCharacters_eq (text : List Char) :
    ofCharacters text =
      if trim text = [] then any
      else
        match split? (trim text) with
        | some (outer, inner) =>
            apply outer (ofCharacters outer) ((arguments inner).map ofCharacters)
        | none => ofPlainName (String.ofList (trim text)) := by
  rw [ofCharacters]
  simp only [List.isEmpty_iff]
  split
  · rfl
  · split <;> rename_i equation
    · rw [equation]
      simp only [List.map_attach_eq_pmap, List.pmap_eq_map]
    · rw [equation]

theorem ofCharacters_of_bare {name : List Char} (bare : Bare name) (nonempty : name ≠ [])
    (plain : ¬ IsGeneric name) : ofCharacters name = ofPlainName (String.ofList name) := by
  have whole : split? name = none := by
    rw [← Option.not_isSome_iff_eq_none, isSome_split?_iff]
    exact plain
  rw [ofCharacters_eq, trim_of_bare bare, if_neg nonempty, whole]

theorem ofCharacters_of_whole {text : List Char} (whole : split? (trim text) = none) :
    ofCharacters text = any ∨ ofCharacters text = ofPlainName (String.ofList (trim text)) := by
  rw [ofCharacters_eq, whole]
  split
  · exact .inl rfl
  · exact .inr rfl

theorem ofCharacters_of_applied {text outer inner : List Char}
    (split : split? (trim text) = some (outer, inner)) :
    ofCharacters text = apply outer (ofCharacters outer) ((arguments inner).map ofCharacters) := by
  have nonempty : trim text ≠ [] := by
    intro empty
    rw [empty] at split
    cases split
  rw [ofCharacters_eq, if_neg nonempty, split]

theorem ofCharacters_of_split? {name outer inner : List Char} (bare : Bare name)
    (split : split? name = some (outer, inner)) :
    ofCharacters name = apply outer (ofCharacters outer) ((arguments inner).map ofCharacters) := by
  rw [← trim_of_bare bare] at split
  exact ofCharacters_of_applied split

/-! ## Simple names -/

/-- The marks that have a meaning in the name of a type. -/
def marks : List Char :=
  ['[', ']', '«', '»', '<', '>', ',', '\n']

/-- A name that can stand in a notation: it has no blanks at its ends and no marks inside. -/
structure Simple (name : List Char) : Prop where
  nonempty : name ≠ []
  bare : Bare name
  unmarked : ∀ character ∈ name, character ∉ marks

theorem closing?_eq_none {character : Char} (unmarked : character ∉ marks) :
    closing? character = none := by
  unfold closing?
  split
  · exact absurd (by decide) unmarked
  · exact absurd (by decide) unmarked
  · rfl

theorem Simple.not_isGeneric {name : List Char} (simple : Simple name) : ¬ IsGeneric name := by
  rintro ⟨_, outer, opening, inner, closing, closes, _, _, rfl⟩
  rw [closing?_eq_none (simple.unmarked opening (by simp))] at closes
  cases closes

theorem Simple.ofCharacters_eq {name : List Char} (simple : Simple name) :
    ofCharacters name = ofPlainName (String.ofList name) :=
  ofCharacters_of_bare simple.bare simple.nonempty simple.not_isGeneric

theorem Simple.ofName_eq {name : String} (simple : Simple name.toList) :
    ofName name = ofPlainName name := by
  rw [ofName, simple.ofCharacters_eq, String.ofList_toList]

theorem simple_of_visible {name : List Char} (nonempty : name ≠ [])
    (visible : ∀ character ∈ name, isBlank character = false ∧ character ∉ marks) :
    Simple name where
  nonempty := nonempty
  bare := by
    constructor
    · intro first isFirst
      exact (visible first (List.mem_of_head? isFirst)).1
    · intro last isLast
      exact (visible last (List.mem_of_getLast? isLast)).1
  unmarked := fun character member => (visible character member).2

/-! ## Plain identifiers and built-in types -/

theorem toNat_lt_of_isPlainPart {character : Char}
    (part : Identifier.isPlainPart character = true) : character.toNat < 128 := by
  simp only [Identifier.isPlainPart, Identifier.isPlainStart, Bool.or_eq_true, beq_iff_eq] at part
  rcases part with ((letter | rfl) | rfl) | digit
  · apply Identifier.toNat_lt_of_isAlphanumeric
    rw [Identifier.isAlphanumeric, letter, Bool.true_or]
  · decide
  · decide
  · apply Identifier.toNat_lt_of_isAlphanumeric
    rw [Identifier.isAlphanumeric, digit, Bool.or_true]

theorem visible_of_isPlainPart {character : Char}
    (part : Identifier.isPlainPart character = true) :
    isBlank character = false ∧ character ∉ marks := by
  have small : character.toNat < 128 := toNat_lt_of_isPlainPart part
  revert part
  refine Identifier.of_ascii character small ?_
  decide

/-- A plain identifier is simple. -/
theorem simple_of_isPlain {name : List Char} (plain : Identifier.isPlain name = true) :
    Simple name := by
  have nonempty : name ≠ [] := by
    rintro rfl
    cases plain
  exact simple_of_visible nonempty fun character member =>
    visible_of_isPlainPart (Identifier.isPlainPart_of_isPlain plain character member)

/-- The name of a built-in type is simple. -/
theorem simple_of_primitive? {name : String} (builtIn : (primitive? name).isSome = true) :
    Simple name.toList := by
  have checked : name.toList ≠ [] ∧ name.toList.all (fun character =>
      !isBlank character && !marks.contains character) = true := by
    unfold primitive? at builtIn
    split at builtIn
    all_goals first | decide | cases builtIn
  apply simple_of_visible checked.1
  intro character member
  simpa using List.all_eq_true.mp checked.2 character member

theorem ofName_of_primitive? {name builtIn : String} (found : primitive? name = some builtIn) :
    ofName name = ⟨builtIn, builtIn, none, []⟩ := by
  have simple : Simple name.toList := simple_of_primitive? (Option.isSome_of_eq_some found)
  rw [simple.ofName_eq, ofPlainName, found]

end TypeExpression

end ApiCatalog
