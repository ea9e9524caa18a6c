import ApiCatalog.Proofs.CatalogText
import ApiCatalog.Proofs.TypeBars
import ApiCatalog.Text.Spellings

/-!
# Lists of literals

The type of an enumeration and its check list the literals of its values. A reader who knows where
literals begin and end finds the separators, and the end of the list, by passing over literals: what a
text contains is never outside of it. Each part that is left is read back as the value of its symbol:
`literals_read_back`.
-/

namespace ApiCatalog

namespace TypeText

open Place

/-! ## Splitting -/

/-- Whether a place is outside literals. -/
def Place.isOutside : Place → Bool
  | outside _ => true
  | quoted _ | escaped _ => false

/-- The parts of a text between the separators that stand outside literals. -/
def splitOutside (separator : List Char) (place : Place) : List Char → List (List Char)
  | [] => [[]]
  | character :: rest =>
      if place.isOutside && separator.isPrefixOf (character :: rest) then
        [] :: splitOutside separator place (rest.drop (separator.length - 1))
      else
        (splitOutside separator (place.next character) rest).modifyHead (character :: ·)
termination_by text => text.length
decreasing_by
  · simp only [List.length_drop, List.length_cons]
    omega
  · simp

/-- A mark does not stand outside literals in a text that starts at a place. -/
def Avoids (mark : Char) : Place → List Char → Prop
  | _, [] => True
  | place, character :: rest =>
      (character = mark → place.isOutside = false) ∧ Avoids mark (place.next character) rest

section

variable {mark : Char} {place : Place}

theorem avoids_append {front back : List Char} :
    Avoids mark place (front ++ back) ↔
      Avoids mark place front ∧ Avoids mark (place.after front) back := by
  induction front generalizing place with
  | nil => simp [Avoids]
  | cons character front induction =>
      rw [List.cons_append, Avoids, Avoids, after_cons, induction, and_assoc]

theorem avoids_of_not_mem {text : List Char} (absent : mark ∉ text) : Avoids mark place text := by
  induction text generalizing place with
  | nil => trivial
  | cons character rest induction =>
      rw [List.mem_cons, not_or] at absent
      exact ⟨fun same => absurd same.symm absent.1, induction absent.2⟩

/-- A text is passed over as long as no separator can start in it. -/
theorem splitOutside_append {others text : List Char} (avoids : Avoids mark place text)
    (rest : List Char) :
    splitOutside (mark :: others) place (text ++ rest) =
      (splitOutside (mark :: others) (place.after text) rest).modifyHead (text ++ ·) := by
  induction text generalizing place with
  | nil => exact (congrFun List.modifyHead_id _).symm
  | cons character text induction =>
      obtain ⟨here, later⟩ := avoids
      have passed : (place.isOutside &&
          (mark :: others).isPrefixOf (character :: (text ++ rest))) = false := by
        by_cases same : character = mark
        · rw [here same, Bool.false_and]
        · have differs : (mark == character) = false := by simpa using Ne.symm same
          rw [List.isPrefixOf, differs, Bool.false_and, Bool.and_false]
      rw [List.cons_append, splitOutside, passed, if_neg Bool.false_ne_true, induction later,
        List.modifyHead_modifyHead]
      rfl

theorem splitOutside_separator (others rest : List Char) (outer : place.isOutside = true) :
    splitOutside (mark :: others) place (mark :: others ++ rest) =
      [] :: splitOutside (mark :: others) place rest := by
  have found : (mark :: others).isPrefixOf (mark :: (others ++ rest)) = true :=
    List.isPrefixOf_iff_prefix.mpr (List.prefix_append (mark :: others) rest)
  rw [List.cons_append, splitOutside, outer, found]
  simp

end

/-! ## Literals in a list -/

section

variable {mark : Char} (unpart : Number.isPart mark = false) (unquoted : mark ≠ '\'')

include unpart unquoted

/-- A rendered value has no other mark outside its quotes than those of numbers. -/
theorem avoids_render {value : Literal} (sound : value.WellFormed) (depth : Nat) :
    Avoids mark (outside depth) value.render.toList := by
  have content_avoids (content : List Char) :
      Avoids mark (quoted depth) (content.flatMap Literal.escape) := by
    induction content with
    | nil => trivial
    | cons first rest induction =>
        rw [List.flatMap_cons, avoids_append, after_escape]
        refine ⟨?_, induction⟩
        unfold Literal.escape
        split
        · exact ⟨fun _ => rfl, fun _ => rfl, trivial⟩
        · exact ⟨fun _ => rfl, trivial⟩
  cases value with
  | text content =>
      rw [toList_render_text, literal, List.cons_append]
      refine ⟨fun same => absurd same.symm unquoted, ?_⟩
      change Avoids mark (quoted depth) _
      rw [avoids_append, after_flatMap_escape]
      exact ⟨content_avoids content.toList, fun _ => rfl, trivial⟩
  | number numeral =>
      refine avoids_of_not_mem fun member => ?_
      have part : Number.isPart mark = true := sound rfl mark member
      rw [unpart] at part
      cases part

/-- Splitting gives the rendered values back. -/
theorem splitOutside_intercalate {others : List Char} {values : List Literal}
    (nonempty : values ≠ []) (sound : ∀ value ∈ values, value.WellFormed) (depth : Nat) :
    splitOutside (mark :: others) (outside depth)
      ((mark :: others).intercalate (values.map fun value => value.render.toList)) =
        values.map fun value => value.render.toList := by
  induction values with
  | nil => exact absurd rfl nonempty
  | cons value rest induction =>
      obtain ⟨here, later⟩ := List.forall_mem_cons.mp sound
      have avoids := avoids_render unpart unquoted here depth
      have returns : (outside depth).after value.render.toList = outside depth :=
        (balanced_render here depth).1
      cases rest with
      | nil =>
          rw [List.map_singleton, List.intercalate_singleton, ← List.append_nil value.render.toList,
            splitOutside_append avoids, splitOutside]
          simp
      | cons next more =>
          have remaining := induction (List.cons_ne_nil next more) later
          rw [List.map_cons] at remaining ⊢
          rw [List.map_cons, List.intercalate_cons_cons, List.append_assoc,
            splitOutside_append avoids, returns, splitOutside_separator others _ rfl, remaining]
          simp

/-- A list of rendered values avoids a mark that its separator avoids. -/
theorem avoids_intercalate {separator : List Char} {values : List Literal} {depth : Nat}
    (between : Balanced separator) (avoids : Avoids mark (outside depth) separator)
    (sound : ∀ value ∈ values, value.WellFormed) :
    Avoids mark (outside depth)
      (separator.intercalate (values.map fun value => value.render.toList)) := by
  induction values with
  | nil => trivial
  | cons value rest induction =>
      obtain ⟨here, later⟩ := List.forall_mem_cons.mp sound
      have first := avoids_render unpart unquoted here depth
      cases rest with
      | nil => simpa using first
      | cons next more =>
          have remaining := induction later
          rw [List.map_cons] at remaining
          rw [List.map_cons, List.map_cons, List.intercalate_cons_cons, avoids_append, avoids_append,
            after_append, (balanced_render here depth).1, (between depth).1]
          exact ⟨⟨first, avoids⟩, remaining⟩

end

end TypeText

namespace Enumeration

open TypeText TypeText.Place

theorem Legible.map_read {symbols : List Symbol} (legible : Legible symbols) :
    ((symbols.map Symbol.value).map fun value => value.render.toList).map Literal.read =
      symbols.map fun symbol => (symbol.value, []) := by
  rw [List.map_map, List.map_map]
  refine List.map_congr_left fun symbol member => ?_
  have read := Literal.read_render (legible.sound symbol member) Literal.ends_nil
  rwa [List.append_nil] at read

/-- However the allowed values are separated, they are found and read back. -/
theorem Legible.read_splitOutside {symbols : List Symbol} (legible : Legible symbols)
    (nonempty : symbols ≠ []) (separator : String) (mark : Char) (others : List Char)
    (starts : separator.toList = mark :: others) (unpart : Number.isPart mark = false)
    (unquoted : mark ≠ '\'') :
    (splitOutside separator.toList (outside 0)
      (separator.intercalate (Enumeration.allowedValues symbols)).toList).map Literal.read =
        symbols.map fun symbol => (symbol.value, []) := by
  have some_value : symbols.map Symbol.value ≠ [] := by simpa using nonempty
  rw [legible.toList_intercalate, starts,
    splitOutside_intercalate unpart unquoted some_value legible.sound_values, legible.map_read]

/-- A list of the allowed values ends at the first bracket that is outside literals. -/
theorem Legible.splitOutside_bracket {symbols : List Symbol} (legible : Legible symbols)
    (rest : List Char) :
    splitOutside "]".toList (outside 0)
      ((", ".intercalate (Enumeration.allowedValues symbols)).toList ++ ']' :: rest) =
        (", ".intercalate (Enumeration.allowedValues symbols)).toList ::
          splitOutside "]".toList (outside 0) rest := by
  rw [legible.toList_intercalate]
  have between : Balanced ", ".toList := balanced_unmarked (by decide)
  have unbracketed : Avoids ']' (outside 0) ", ".toList := avoids_of_not_mem (by decide)
  have avoids := avoids_intercalate (by decide) (by decide) between unbracketed legible.sound_values
  have returns := (balanced_values between legible.sound_values 0).1
  have ends : splitOutside [']'] (outside 0) (']' :: rest) =
      [] :: splitOutside [']'] (outside 0) rest :=
    splitOutside_separator [] rest rfl
  have bracket : "]".toList = [']'] := rfl
  rw [bracket, splitOutside_append avoids, returns, ends, List.modifyHead_cons, List.append_nil]

end Enumeration

namespace Schema

open Resolution TypeText TypeText.Place

/-- A reader who splits the type of an enumeration at bars outside literals finds one literal for
each symbol, and reads its value off it, whether a text or a number. The same holds of the values in
its check, which are split at commas and end before the first bracket that is outside literals. -/
theorem literals_read_back [Transliteration] {document : Document} {schema : Schema}
    {name rendered base validation : String} {symbols : List Symbol}
    (enumerated : (schema.resolveIn document name).kind =
      .enumeration symbols rendered base validation) :
    (splitOutside " | ".toList (outside 0) rendered.toList).map Literal.read =
        symbols.map (fun symbol => (symbol.value, [])) ∧
      ∃ listed : String, validation = "yup.mixed<" ++ name ++ ">().oneOf([" ++ listed ++ "])" ∧
        splitOutside "]".toList (outside 0) (listed ++ "])").toList = [listed.toList, [')']] ∧
        (splitOutside ", ".toList (outside 0) listed.toList).map Literal.read =
          symbols.map fun symbol => (symbol.value, []) := by
  rw [resolveIn_eq, resolve_of_form] at enumerated
  cases form : schema.form with
  | symbols decided decidedBase =>
      rw [form] at enumerated
      obtain ⟨rfl, rfl, rfl, rfl⟩ := Kind.enumeration.inj enumerated
      have choice := form_eq_symbols_iff.mp form
      have legible : Enumeration.Legible decided := legible_of_symbols? choice
      have nonempty : decided ≠ [] := ne_nil_of_symbols? choice
      refine ⟨legible.read_splitOutside nonempty " | " ' ' ['|', ' '] rfl (by decide) (by decide),
        ", ".intercalate (Enumeration.allowedValues decided), rfl, ?_,
        legible.read_splitOutside nonempty ", " ',' [' '] rfl (by decide) (by decide)⟩
      rw [String.toList_append]
      refine (legible.splitOutside_bracket [')']).trans ?_
      simp [splitOutside]
  | list | object | declared | unknown =>
      rw [form] at enumerated
      cases enumerated

attribute [local instance] Text.tabulated

/-- Values with quotes, separators, a bracket and a backslash in them, and a number. -/
def signs : Schema where
  enumeration := [.string "'a' | 'b'", .string "x, y])", .string "\\", .number (.integer 1)]

/-- The symbols of the values. -/
def signSymbols : List Symbol :=
  [⟨"A_B", .text "'a' | 'b'"⟩, ⟨"X_Y", .text "x, y])"⟩, ⟨"EMPTY", .text "\\"⟩,
    ⟨"NUM_1", .number "1"⟩]

theorem literals_read_back_signs :
    (signs.resolveIn {} "Sign").kind =
        .enumeration signSymbols "'\\'a\\' | \\'b\\'' | 'x, y])' | '\\\\' | 1" "string"
          "yup.mixed<Sign>().oneOf(['\\'a\\' | \\'b\\'', 'x, y])', '\\\\', 1])" ∧
      (splitOutside " | ".toList (outside 0)
        "'\\'a\\' | \\'b\\'' | 'x, y])' | '\\\\' | 1".toList).map Literal.read =
          signSymbols.map fun symbol => (symbol.value, []) := by
  have enumerated : (signs.resolveIn {} "Sign").kind =
      .enumeration signSymbols "'\\'a\\' | \\'b\\'' | 'x, y])' | '\\\\' | 1" "string"
        "yup.mixed<Sign>().oneOf(['\\'a\\' | \\'b\\'', 'x, y])', '\\\\', 1])" := by
    rw [resolveIn_eq]
    decide +kernel
  exact ⟨enumerated, (literals_read_back enumerated).1⟩

end Schema

end ApiCatalog
