import ApiCatalog.Proofs.TypeNames

/-!
# Written generic names

A type term is a name or a name applied to terms. It can be written with either notation at each
application and with spaces around each argument. However it is written, it renders as the type it
stands for: `ofName_written`. Two facts carry this. A written term keeps its commas inside its own
brackets, so only the commas between arguments split them: `wellWritten`. And a name has no brackets,
so the first bracket of a written application is the one that its last character closes.
-/

namespace ApiCatalog

/-! ## Terms -/

/-- A name in a type term. -/
structure TypeTerm.Name where
  characters : List Char
  simple : TypeExpression.Simple characters

mutual

/-- A type term. -/
inductive TypeTerm where
  | leaf (name : TypeTerm.Name)
  | applied (outer : TypeTerm.Name) (arguments : TypeTerms)

/-- The arguments of a type term, at least one. -/
inductive TypeTerms where
  | last (argument : TypeTerm)
  | more (argument : TypeTerm) (others : TypeTerms)

end

namespace TypeTerm

/-- The two notations, by the marks that open and close them. -/
inductive Brackets : Char → Char → Prop
  | square : Brackets '[' ']'
  | pointed : Brackets '«' '»'

/-- A text with spaces before and after it. -/
def spaced (before : Nat) (text : List Char) (after : Nat) : List Char :=
  List.replicate before ' ' ++ text ++ List.replicate after ' '

end TypeTerm

mutual

/-- A text is a way to write a term. -/
inductive TypeTerm.Written : TypeTerm → List Char → Prop
  | leaf (name : TypeTerm.Name) : TypeTerm.Written (.leaf name) name.characters
  | applied {outer : TypeTerm.Name} {arguments : TypeTerms} {opening closing : Char}
      {inner : List Char} (brackets : TypeTerm.Brackets opening closing)
      (written : TypeTerms.Written arguments inner) :
      TypeTerm.Written (.applied outer arguments)
        (outer.characters ++ opening :: (inner ++ [closing]))

/-- A text is a way to write arguments one after the other. -/
inductive TypeTerms.Written : TypeTerms → List Char → Prop
  | last {argument : TypeTerm} {text : List Char} (before after : Nat)
      (written : TypeTerm.Written argument text) :
      TypeTerms.Written (.last argument) (TypeTerm.spaced before text after)
  | more {argument : TypeTerm} {others : TypeTerms} {text inner : List Char} (before after : Nat)
      (written : TypeTerm.Written argument text) (following : TypeTerms.Written others inner) :
      TypeTerms.Written (.more argument others)
        (TypeTerm.spaced before text after ++ ',' :: inner)

end

namespace TypeTerm

/-- The text of a name. -/
def Name.text (name : Name) : String :=
  String.ofList name.characters

/-- A name alone renders as the built-in type of that name, if there is one, and else as itself. -/
def Name.type (name : Name) : TypeExpression :=
  match TypeExpression.primitive? name.text with
  | some builtIn => ⟨builtIn, builtIn, none, []⟩
  | none => ⟨name.text, name.text, none, [name.text]⟩

/-- The names whose applications are arrays of their arguments. -/
def arrays : List String := ["array", "Array", "Collection", "List", "Set"]

/-- The type of an applied name, from the types of its arguments. -/
def Name.typeApplied (outer : Name) (first : TypeExpression) (others : List TypeExpression) :
    TypeExpression :=
  let joined := ", ".intercalate ((first :: others).map TypeExpression.rendered)
  let imports := (first :: others).flatMap TypeExpression.imports
  if outer.text ∈ arrays then ⟨joined ++ "[]", first.base, none, imports.eraseDups⟩
  else
    ⟨outer.type.rendered ++ "<" ++ joined ++ ">", outer.type.base, some joined,
      (outer.type.imports ++ imports).eraseDups⟩

end TypeTerm

mutual

/-- The type a term stands for. -/
def TypeTerm.type : TypeTerm → TypeExpression
  | .leaf name => name.type
  | .applied outer arguments => outer.typeApplied arguments.types.1 arguments.types.2

/-- The types of arguments, the first and the others. -/
def TypeTerms.types : TypeTerms → TypeExpression × List TypeExpression
  | .last argument => (argument.type, [])
  | .more argument others => (argument.type, others.types.1 :: others.types.2)

end

/-! ## Commas inside brackets -/

namespace TypeExpression

open Text

/-- A text is passed over when arguments are split, and leaves the depth of brackets as it is. -/
def Passed (depth : Nat) (text : List Char) : Prop :=
  ∀ rest part parts, splitCommas depth rest = part :: parts →
    splitCommas depth (text ++ rest) = (text ++ part) :: parts

theorem splitCommas_cons {depth : Nat} {character : Char} {rest part : List Char}
    {parts : List (List Char)} (kept : ¬ (character = ',' ∧ depth = 0))
    (split : splitCommas (depthAfter depth character) rest = part :: parts) :
    splitCommas depth (character :: rest) = (character :: part) :: parts := by
  rw [splitCommas, if_neg (by simpa using kept), split]

theorem passed_append {depth : Nat} {front back : List Char} (passedFront : Passed depth front)
    (passedBack : Passed depth back) : Passed depth (front ++ back) := by
  intro rest part parts split
  rw [List.append_assoc, List.append_assoc]
  exact passedFront _ _ _ (passedBack _ _ _ split)

theorem passed_plain {depth : Nat} {text : List Char}
    (plain : ∀ character ∈ text, character ∉ ['[', ']', '«', '»', '<', '>', ',']) :
    Passed depth text := by
  induction text with
  | nil => exact fun _ _ _ split => split
  | cons character text induction =>
      obtain ⟨unmarked, plain⟩ := List.forall_mem_cons.mp plain
      intro rest part parts split
      have level : depthAfter depth character = depth := by
        simp only [List.mem_cons, not_or] at unmarked
        simp [depthAfter, unmarked]
      apply splitCommas_cons
      · rintro ⟨rfl, _⟩
        exact unmarked (by decide)
      · rw [level]
        exact induction plain rest part parts split

theorem passed_comma (depth : Nat) : Passed (depth + 1) [','] := by
  intro rest part parts split
  exact splitCommas_cons (by simp) split

/-- What is passed over inside brackets is passed over together with them. -/
theorem passed_enclosed {depth : Nat} {opening closing : Char} {inner : List Char}
    (brackets : TypeTerm.Brackets opening closing) (passed : Passed (depth + 1) inner) :
    Passed depth (opening :: (inner ++ [closing])) := by
  intro rest part parts split
  have opens : opening ≠ ',' ∧ depthAfter depth opening = depth + 1 := by
    cases brackets <;> exact ⟨by decide, rfl⟩
  have closes : closing ≠ ',' ∧ depthAfter (depth + 1) closing = depth := by
    cases brackets <;> exact ⟨by decide, rfl⟩
  have closed : splitCommas (depth + 1) (closing :: rest) = (closing :: part) :: parts :=
    splitCommas_cons (fun comma => closes.1 comma.1) (by rw [closes.2, split])
  -- The rest of the text, as seen from inside the brackets, starts with the closing one.
  have inside := passed (closing :: rest) (closing :: part) parts closed
  have enclosed : splitCommas depth (opening :: (inner ++ closing :: rest)) =
      (opening :: (inner ++ closing :: part)) :: parts :=
    splitCommas_cons (fun comma => opens.1 comma.1) (by rw [opens.2, inside])
  simpa using enclosed

theorem arguments_of_splitCommas {text part argument : List Char} {parts : List (List Char)}
    (split : splitCommas 0 text = part :: parts) (trimmed : trim part = argument)
    (nonempty : argument ≠ []) :
    arguments text = argument :: (parts.map trim).filter (!·.isEmpty) := by
  have kept : (!argument.isEmpty) = true := by simpa using nonempty
  rw [arguments, split, List.map_cons, trimmed, List.filter_cons, if_pos kept]

theorem arguments_passed {part argument : List Char} (passed : Passed 0 part)
    (trimmed : trim part = argument) (nonempty : argument ≠ []) :
    arguments part = [argument] := by
  have split := passed [] [] [] rfl
  rw [List.append_nil] at split
  exact arguments_of_splitCommas split trimmed nonempty

theorem arguments_passed_append {part argument : List Char} (rest : List Char)
    (passed : Passed 0 part) (trimmed : trim part = argument) (nonempty : argument ≠ []) :
    arguments (part ++ ',' :: rest) = argument :: arguments rest := by
  have comma : splitCommas 0 (',' :: rest) = [] :: splitCommas 0 rest := rfl
  have split := passed _ _ _ comma
  rw [List.append_nil] at split
  exact arguments_of_splitCommas split trimmed nonempty

end TypeExpression

namespace TypeTerm

open Text TypeExpression

theorem Brackets.closing?_eq {opening closing : Char} (brackets : Brackets opening closing) :
    closing? opening = some closing := by
  cases brackets <;> rfl

theorem Brackets.visible {opening closing : Char} (brackets : Brackets opening closing) :
    isBlank closing = false ∧ opening ≠ '\n' ∧ closing ≠ '\n' := by
  cases brackets <;> decide

/-! ## Well-written texts -/

/-- What the text of a term is like: not empty, without blanks at its ends, on one line, and passed
over when arguments are split. -/
structure WellWritten (text : List Char) : Prop where
  nonempty : text ≠ []
  bare : Bare text
  oneLine : '\n' ∉ text
  passed : ∀ depth, Passed depth text

/-- What the text of arguments is like. Its own commas are passed over inside brackets only. -/
structure WellEnclosed (inner : List Char) : Prop where
  nonempty : inner ≠ []
  oneLine : '\n' ∉ inner
  passed : ∀ depth, Passed (depth + 1) inner

theorem Name.wellWritten (name : Name) : WellWritten name.characters where
  nonempty := name.simple.nonempty
  bare := name.simple.bare
  oneLine := fun member => name.simple.unmarked _ member (by decide)
  passed := fun _ => passed_plain fun character member marked =>
    name.simple.unmarked character member (List.mem_append_left ['\n'] marked)

theorem WellWritten.applied {outer opening closing inner}
    (brackets : Brackets opening closing) (name : WellWritten outer) (inside : WellEnclosed inner) :
    WellWritten (outer ++ opening :: (inner ++ [closing])) where
  nonempty := List.append_ne_nil_of_left_ne_nil name.nonempty _
  bare := by
    constructor
    · obtain ⟨first, rest, rfl⟩ := List.exists_cons_of_ne_nil name.nonempty
      exact name.bare.1
    · rw [getLast?_generic]
      intro last isLast
      obtain rfl := Option.some.inj isLast
      exact brackets.visible.1
  oneLine := by
    have visible := brackets.visible
    simp [name.oneLine, inside.oneLine, visible.2.1.symm, visible.2.2.symm]
  passed := fun depth =>
    passed_append (name.passed depth) (passed_enclosed brackets (inside.passed depth))

theorem trim_spaced {text : List Char} (written : WellWritten text) (before after : Nat) :
    trim (spaced before text after) = text := by
  have blank : ∀ count, ∀ character ∈ List.replicate count ' ', isBlank character = true := by
    intro count character member
    rw [List.eq_of_mem_replicate member]
    rfl
  exact trim_padded written.bare written.nonempty (blank before) (blank after)

theorem passed_spaced {text : List Char} (written : WellWritten text) (before after depth : Nat) :
    Passed depth (spaced before text after) := by
  have spaces : ∀ count, Passed depth (List.replicate count ' ') := by
    intro count
    apply passed_plain
    intro character member
    rw [List.eq_of_mem_replicate member]
    decide
  exact passed_append (passed_append (spaces before) (written.passed depth)) (spaces after)

theorem WellWritten.spaced {text : List Char} (written : WellWritten text) (before after : Nat) :
    WellEnclosed (spaced before text after) where
  nonempty := by simp [TypeTerm.spaced, written.nonempty]
  oneLine := by simp [TypeTerm.spaced, written.oneLine, List.mem_replicate]
  passed := fun depth => passed_spaced written before after (depth + 1)

theorem WellEnclosed.append {front back : List Char} (first : WellEnclosed front)
    (others : WellEnclosed back) : WellEnclosed (front ++ ',' :: back) where
  nonempty := List.append_ne_nil_of_left_ne_nil first.nonempty _
  oneLine := by simp [first.oneLine, others.oneLine]
  passed := fun depth =>
    passed_append (first.passed depth) (passed_append (passed_comma depth) (others.passed depth))

-- By recursion on the term, since a text does not show where the parts of its term end.
mutual

theorem wellWritten : ∀ (term : TypeTerm) {text : List Char}, term.Written text → WellWritten text
  | .leaf name, _, .leaf _ => name.wellWritten
  | .applied outer arguments, _, .applied brackets written =>
      .applied brackets outer.wellWritten (wellEnclosed arguments written)

theorem wellEnclosed :
    ∀ (arguments : TypeTerms) {inner : List Char}, arguments.Written inner → WellEnclosed inner
  | .last argument, _, .last before after written =>
      (wellWritten argument written).spaced before after
  | .more argument others, _, .more before after written following =>
      ((wellWritten argument written).spaced before after).append (wellEnclosed others following)

end

/-! ## Rendering what is written -/

theorem Name.ofCharacters_eq (name : Name) : ofCharacters name.characters = name.type :=
  name.simple.ofCharacters_eq

theorem split?_applied {outer : Name} {opening closing : Char} {inner : List Char}
    (brackets : Brackets opening closing) (inside : WellEnclosed inner) :
    split? (outer.characters ++ opening :: (inner ++ [closing])) =
      some (outer.characters, inner) := by
  have written := WellWritten.applied brackets outer.wellWritten inside
  have started : outer.characters.reverse ++ [] ≠ [] := by simp [outer.simple.nonempty]
  have unopened : ∀ character ∈ outer.characters, closing? character ≠ some closing := by
    intro character member
    simp [closing?_eq_none (outer.simple.unmarked character member)]
  rw [split?, if_neg (by simpa using written.oneLine), getLast?_generic, Option.bind_some,
    splitAt?_append [] _ unopened,
    splitAt?_opening brackets.closing?_eq started inside.nonempty, List.append_nil,
    List.reverse_reverse]

theorem primitive?_eq_array_iff {name : String} :
    primitive? name = some "any[]" ↔ name = "array" := by
  constructor
  · intro found
    unfold primitive? at found
    split at found <;> simp_all
  · rintro rfl
    rfl

theorem Name.rendered_type_iff (name : Name) :
    name.type.rendered = "any[]" ↔ name.text = "array" := by
  rw [← primitive?_eq_array_iff, Name.type]
  cases builtIn : primitive? name.text with
  | some rendered => simp
  | none =>
      have unmarked : '[' ∉ name.characters := fun member =>
        name.simple.unmarked _ member (by decide)
      constructor
      · intro same
        have characters : name.characters = "any[]".toList := by
          rw [← show name.text = "any[]" from same, Name.text, String.toList_ofList]
        rw [characters] at unmarked
        exact absurd (by decide) unmarked
      · intro same
        cases same

theorem Name.apply_eq (outer : Name) (first : TypeExpression) (others : List TypeExpression) :
    apply outer.characters outer.type (first :: others) = outer.typeApplied first others := by
  have isArray : (outer.type.rendered == "any[]" ||
      collections.contains (String.ofList (trim outer.characters))) = true ↔
        outer.text ∈ arrays := by
    rw [trim_of_bare outer.simple.bare, Bool.or_eq_true, beq_iff_eq, outer.rendered_type_iff,
      List.contains_iff_mem, arrays, List.mem_cons]
    rfl
  rw [apply, Name.typeApplied]
  simp only [isArray]
  rfl

mutual

theorem ofCharacters_written :
    ∀ (term : TypeTerm) {text : List Char}, term.Written text → ofCharacters text = term.type
  | .leaf name, _, .leaf _ => name.ofCharacters_eq
  | .applied outer arguments, _, .applied brackets written => by
      have inside := wellEnclosed arguments written
      have whole := WellWritten.applied brackets outer.wellWritten inside
      rw [ofCharacters_of_split? whole.bare (split?_applied brackets inside), outer.ofCharacters_eq,
        map_arguments_written arguments written, outer.apply_eq, TypeTerm.type]

theorem map_arguments_written :
    ∀ (arguments : TypeTerms) {inner : List Char}, arguments.Written inner →
      (TypeExpression.arguments inner).map ofCharacters = arguments.types.1 :: arguments.types.2
  | .last argument, _, .last before after written => by
      have text := wellWritten argument written
      rw [arguments_passed (passed_spaced text before after 0) (trim_spaced text before after)
        text.nonempty, List.map_singleton, ofCharacters_written argument written, TypeTerms.types]
  | .more argument others, _, .more before after written following => by
      have text := wellWritten argument written
      rw [arguments_passed_append _ (passed_spaced text before after 0)
        (trim_spaced text before after) text.nonempty, List.map_cons,
        ofCharacters_written argument written, map_arguments_written others following,
        TypeTerms.types]

end

/-- However a term is written, it renders as the type it stands for. -/
theorem ofName_written {term : TypeTerm} {text : List Char} (written : term.Written text) :
    ofName (String.ofList text) = term.type := by
  rw [ofName, String.toList_ofList]
  exact ofCharacters_written term written

/-- A plain identifier as a name in a type term. -/
def Name.ofPlain (name : List Char) (plain : Identifier.isPlain name = true) : Name :=
  ⟨name, simple_of_isPlain plain⟩

/-- A map from texts to pages of lists of pets and of pets. -/
def mixed : TypeTerm :=
  let pet := leaf (.ofPlain "Pet".toList rfl)
  let pets := applied (.ofPlain "List".toList rfl) (.last pet)
  let page := applied (.ofPlain "Page".toList rfl) (.more pets (.last pet))
  applied (.ofPlain "Map".toList rfl) (.more (leaf (.ofPlain "string".toList rfl)) (.last page))

theorem ofName_written_mixed :
    mixed.Written "Map[string , Page«List[Pet],Pet»]".toList ∧
      ofName "Map[string , Page«List[Pet],Pet»]" =
        ⟨"Map<string, Page<Pet[], Pet>>", "Map", some "string, Page<Pet[], Pet>",
          ["Map", "Page", "Pet"]⟩ := by
  have written : mixed.Written "Map[string , Page«List[Pet],Pet»]".toList :=
    Written.applied .square (.more 0 1 (.leaf _) (.last 1 0 (Written.applied .pointed
      (.more 0 0 (Written.applied .square (.last 0 0 (.leaf _))) (.last 0 0 (.leaf _))))))
  refine ⟨written, ?_⟩
  rw [← String.ofList_toList (s := "Map[string , Page«List[Pet],Pet»]"), ofName_written written]
  decide

end TypeTerm

end ApiCatalog
