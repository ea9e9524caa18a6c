import ApiCatalog.Pointer
import ApiCatalog.Text.Blank

/-!
# Type expressions

How the name of a type is rendered. Generic names have two notations, `Outer[Inner]` and
`Outer«Inner»`, and names of collections render as arrays of their argument.
-/

namespace ApiCatalog

/-- A rendered type. -/
structure TypeExpression where
  /-- The rendered text. -/
  rendered : String
  /-- The type without its arguments, or the element type of an array. -/
  base : String
  /-- The rendered arguments of a generic type. -/
  template : Option String := none
  /-- The names of declared types that the text mentions. -/
  imports : List String := []
  deriving DecidableEq, Repr

namespace TypeExpression

open Text

/-- The type of any value. -/
def any : TypeExpression := ⟨"any", "any", none, []⟩

/-- The rendered form of a built-in type. -/
def primitive? (name : String) : Option String :=
  match name with
  | "File" | "file" => some "File"
  | "any" | "object" => some "any"
  | "array" => some "any[]"
  | "boolean" => some "boolean"
  | "byte" | "int" | "int32" | "int64" | "integer" | "float" | "double" | "short" | "long"
  | "number" => some "number"
  | "char" | "date" | "date-time" | "password" | "string" => some "string"
  | "void" => some "void"
  | "null" => some "null"
  | _ => none

/-- Names of collections, whose arguments are their items. -/
def collections : List String := ["Array", "Collection", "List", "Set"]

/-- The closing mark of a generic notation that opens with a mark. -/
def closing? : Char → Option Char
  | '[' => some ']'
  | '«' => some '»'
  | _ => none

/-- Splits a text at the first mark after its first character that opens the notation which the last
character closes, if there is something in between. -/
def splitAt? (last : Char) (before : List Char) : List Char → Option (List Char × List Char)
  | [] => none
  | character :: rest =>
      if !before.isEmpty && closing? character == some last && 2 ≤ rest.length then
        some (before.reverse, rest.dropLast)
      else
        splitAt? last (character :: before) rest

/-- The outer name and the arguments of a generic name, which is written on one line. -/
def split? (name : List Char) : Option (List Char × List Char) :=
  if name.contains '\n' then none
  else name.getLast?.bind fun last => splitAt? last [] name

/-- How many brackets are open after a character. A bracket that closes none is ignored. -/
def depthAfter (depth : Nat) (character : Char) : Nat :=
  if ['[', '«', '<'].contains character then depth + 1
  else if [']', '»', '>'].contains character then depth - 1
  else depth

/-- The parts of a text between the commas that stand outside all brackets, given how many brackets
are open. -/
def splitCommas (depth : Nat) : List Char → List (List Char)
  | [] => [[]]
  | character :: rest =>
      if character == ',' && depth == 0 then [] :: splitCommas 0 rest
      else
        match splitCommas (depthAfter depth character) rest with
        | [] => [[character]]
        | part :: parts => (character :: part) :: parts

/-- The arguments of a generic name. Empty ones do not count. -/
def arguments (inner : List Char) : List (List Char) :=
  ((splitCommas 0 inner).map trim).filter (!·.isEmpty)

theorem lengths_of_splitAt? {last : Char} {before text outer inner : List Char}
    (split : splitAt? last before text = some (outer, inner)) :
    outer.length < before.length + text.length ∧
      inner.length < before.length + text.length := by
  induction text generalizing before with
  | nil => simp [splitAt?] at split
  | cons character rest induction =>
      rw [splitAt?] at split
      split at split
      · cases split
        simp only [List.length_reverse, List.length_dropLast, List.length_cons]
        omega
      · have bounds := induction split
        simp only [List.length_cons] at bounds ⊢
        omega

theorem lengths_of_split? {name outer inner : List Char} (split : split? name = some (outer, inner)) :
    outer.length < name.length ∧ inner.length < name.length := by
  rw [split?] at split
  split at split
  · cases split
  · obtain ⟨last, _, found⟩ := Option.bind_eq_some_iff.mp split
    simpa using lengths_of_splitAt? found

theorem length_le_of_mem_splitCommas {depth : Nat} {text part : List Char}
    (member : part ∈ splitCommas depth text) : part.length ≤ text.length := by
  induction text generalizing depth part with
  | nil => simp_all [splitCommas]
  | cons character rest induction =>
      rw [splitCommas] at member
      split at member
      · rcases List.mem_cons.mp member with rfl | later
        · simp
        · exact Nat.le_succ_of_le (induction later)
      · split at member
        · simp only [List.mem_singleton] at member
          simp [member]
        · rename_i first others equation
          rcases List.mem_cons.mp member with rfl | later
          · have bound := induction (equation ▸ List.mem_cons_self : first ∈ _)
            simpa using bound
          · exact Nat.le_succ_of_le
              (induction (equation ▸ List.mem_cons_of_mem _ later : part ∈ _))

theorem length_le_of_mem_arguments {inner argument : List Char}
    (member : argument ∈ arguments inner) : argument.length ≤ inner.length := by
  simp only [arguments, List.mem_filter, List.mem_map] at member
  obtain ⟨⟨part, found, rfl⟩, _⟩ := member
  exact Nat.le_trans (length_trim_le part) (length_le_of_mem_splitCommas found)

/-- Renders a generic type from its outer name, the rendered outer type and its arguments. -/
def apply (outerName : List Char) (outer : TypeExpression) (arguments : List TypeExpression) :
    TypeExpression :=
  let template := ", ".intercalate (arguments.map rendered)
  let inner := arguments.flatMap imports
  if outer.rendered == "any[]" || collections.contains (String.ofList (trim outerName)) then
    ⟨template ++ "[]", (arguments.head?.map base).getD "", none, inner.eraseDups⟩
  else
    ⟨outer.rendered ++ "<" ++ template ++ ">", outer.base, some template,
      (outer.imports ++ inner).eraseDups⟩

/-- The type of a name without arguments. -/
def ofPlainName (name : String) : TypeExpression :=
  match primitive? name with
  | some rendered => ⟨rendered, rendered, none, []⟩
  | none => ⟨name, name, none, [name]⟩

/-- The type that a name renders as. -/
def ofCharacters (text : List Char) : TypeExpression :=
  let name := trim text
  if name.isEmpty then any
  else
    match _found : split? name with
    | some (outer, inner) =>
        apply outer (ofCharacters outer)
          ((arguments inner).attach.map fun ⟨argument, _⟩ => ofCharacters argument)
    | none => ofPlainName (String.ofList name)
termination_by text.length
decreasing_by
  · exact Nat.lt_of_lt_of_le (lengths_of_split? _found).1 (length_trim_le text)
  · rename_i member
    exact Nat.lt_of_le_of_lt (length_le_of_mem_arguments member)
      (Nat.lt_of_lt_of_le (lengths_of_split? _found).2 (length_trim_le text))

/-- The type that a name renders as. -/
def ofName (name : String) : TypeExpression :=
  ofCharacters name.toList

/-- The type of a reference: that of the name it ends in. -/
def ofPointer (pointer : String) : TypeExpression :=
  ofName (Pointer.targetName pointer)

end TypeExpression

end ApiCatalog
