import ApiCatalog.Json.Printer
import ApiCatalog.Proofs.JsonGrammar
import ApiCatalog.Proofs.JsonTree

/-!
# Texts of JSON values

The compact text of a value is a value of the grammar and describes the tree of the value, by
`value_print`, so that it is read back as this tree, by `readText_print`.
-/

namespace ApiCatalog.Json

open Text

/-! ## Strings -/

/-- A piece that stands for a character. -/
def Piece.Spells (piece : Piece) (character : Char) : Prop :=
  ∀ ending rest, joinPieces ending (piece :: rest) = (character :: ·) <$> joinPieces ending rest

theorem spells_char (character : Char) : (Piece.char character).Spells character := by
  intro ending rest
  rw [joinPieces]

theorem spells_unit {character : Char} (control : character.toNat < 0x20) :
    (Piece.unit character.toNat).Spells character := by
  intro ending rest
  have notLow : isLow character.toNat = false := by simp [isLow]; omega
  have notHigh : isHigh character.toNat = false := by simp [isHigh]; omega
  rw [joinPieces.eq_def]
  simp only [notLow, notHigh, Char.ofNat_toNat, Bool.false_eq_true, if_false]

theorem unit?_hexDigits {code : Nat} (small : code < 0x20) :
    unit? (.char '0') (.char '0') (.char (hexDigit (code / 16))) (.char (hexDigit (code % 16))) =
      some code := by
  have zero : hexValue? '0' = some 0 := by decide
  have high : hexValue? (hexDigit (code / 16)) = some (code / 16) :=
    hexValue?_hexDigit _ (by omega)
  have low : hexValue? (hexDigit (code % 16)) = some (code % 16) := hexValue?_hexDigit _ (by omega)
  simp only [unit?, zero, high, low, Option.pure_def, Option.bind_eq_bind, Option.bind_some]
  congr 1
  omega

theorem inside_escape (character : Char) :
    ∃ piece : Piece, piece.Spells character ∧ ∀ {rest pieces}, Inside rest pieces →
      Inside (typed (escape character) ++ rest) (piece :: pieces) := by
  unfold escape
  split
  case h_8 _ noQuote noBackslash _ _ _ _ _ =>
    split
    case isTrue control =>
      exact ⟨.unit character.toNat, spells_unit control, .unit (unit?_hexDigits control)⟩
    case isFalse printable =>
      exact ⟨.char character, spells_char character,
        .plain noQuote noBackslash (Nat.le_of_not_lt printable)⟩
  all_goals exact ⟨_, spells_char _, .escape rfl⟩

theorem inside_string (text : List Char) :
    ∃ pieces, Inside (typed (text.flatMap escape)) pieces ∧ joinPieces none pieces = .ok text := by
  induction text with
  | nil => exact ⟨[], .empty, rfl⟩
  | cons character text induction =>
      obtain ⟨pieces, inside, joined⟩ := induction
      obtain ⟨piece, spells, first⟩ := inside_escape character
      refine ⟨piece :: pieces, ?_, ?_⟩
      · rw [List.flatMap_cons, typed, List.map_append]
        exact first inside
      · rw [spells none pieces, joined]
        rfl

/-- The pieces of a string spell its text. -/
theorem exists_spelled (text : String) :
    ∃ pieces, Inside (typed (text.toList.flatMap escape)) pieces ∧
      spelled pieces = .text (.ok text) := by
  obtain ⟨pieces, inside, joined⟩ := inside_string text.toList
  refine ⟨pieces, inside, ?_⟩
  rw [spelled, joined]
  exact congrArg (fun content => Scalar.text (.ok content)) (String.ofList_toList (s := text))

/-- A string as it is written after its opening quote, with what follows it. -/
abbrev quoted (text : String) (rest : List Glyph) : List Glyph :=
  typed (text.toList.flatMap escape) ++ .char '"' :: rest

theorem readString_quoted (text : String) (rest : List Glyph) :
    readString (quoted text rest) = .ok (.text (.ok text), rest) := by
  obtain ⟨pieces, inside, spells⟩ := exists_spelled text
  rw [← spells]
  exact inside.readString rest

/-! ## Integers -/

/-- The digits of a positive number start with another one than zero. -/
theorem toDigits_eq_cons {number : Nat} (positive : 0 < number) :
    ∃ first digits, Nat.toDigits 10 number = first :: digits ∧ first ≠ '0' := by
  induction number using Nat.strongRecOn with
  | ind number induction =>
      by_cases small : number < 10
      · have nonzero : ∀ digit < 10, 0 < digit → digit.digitChar ≠ '0' := by decide
        exact ⟨number.digitChar, [], Nat.toDigits_of_lt_base small,
          nonzero number small positive⟩
      · obtain ⟨first, digits, shorter, nonzero⟩ :=
          induction (number / 10) (by omega) (by omega)
        refine ⟨first, digits ++ [(number % 10).digitChar], ?_, nonzero⟩
        rw [Nat.toDigits_of_base_le (by decide) (by omega), shorter, List.cons_append]

theorem isDigit_of_mem_toDigits (number : Nat) :
    ∀ digit ∈ Nat.toDigits 10 number, digit.isDigit = true :=
  fun _ member => Nat.isDigit_of_mem_toDigits (by decide) (by decide) member

/-- The numeral of an integer. -/
def numeralOf (value : Int) : Numeral :=
  ⟨decide (value < 0), Nat.toDigits 10 value.natAbs, [], none⟩

theorem numeralText_integer (value : Int) :
    NumeralText (Nat.toDigits 10 value.natAbs) (numeralOf value) := by
  have nonzero : (Nat.toDigits 10 value.natAbs).head? = some '0' →
      Nat.toDigits 10 value.natAbs = ['0'] := by
    intro zero
    rcases Nat.eq_zero_or_pos value.natAbs with none | positive
    · rw [none, Nat.toDigits_zero]
    · obtain ⟨first, digits, equation, nonzero⟩ := toDigits_eq_cons positive
      rw [equation] at zero
      exact absurd (Option.some.inj zero) nonzero
  have parts : NumeralText (Nat.toDigits 10 value.natAbs ++ [] ++ []) (numeralOf value) :=
    .parts ⟨Nat.toDigits_ne_nil, isDigit_of_mem_toDigits value.natAbs⟩ nonzero .absent .absent
  rwa [List.append_nil, List.append_nil] at parts

theorem token_integer (value : Int) :
    Token (typed (Number.integer value).render) (.numeral (numeralOf value)) := by
  have token := Token.numeral (numeralText_integer value)
  by_cases negative : value < 0
  · rw [Number.render, if_pos negative]
    simpa [numeralOf, negative] using token
  · rw [Number.render, if_neg negative]
    simpa [numeralOf, negative] using token

/-! ## Values -/

mutual

/-- The tree of the text of a value. -/
def toNode : Json → Node
  | .null => .scalar .null
  | .boolean flag => .scalar (.boolean flag)
  | .number value => (readText (typed value.render)).node
  | .string text => .scalar (.text (.ok text))
  | .array items => .list (itemNodes items) .closed
  | .object members => .table (memberNodes members) .closed

/-- The trees of the texts of values. -/
def itemNodes : List Json → List Node
  | [] => []
  | item :: rest => item.toNode :: itemNodes rest

/-- The trees of the texts of named values, with those of the names. -/
def memberNodes : List (String × Json) → List (Node × Node)
  | [] => []
  | (name, value) :: rest => (.scalar (.text (.ok name)), value.toNode) :: memberNodes rest

end

theorem toNode_integer (value : Int) :
    (Json.number (.integer value)).toNode = .scalar (.numeral (numeralOf value)) := by
  have read := (Value.scalar (token_integer value)).reads
    (3 * (typed (Number.integer value).render).length + 1) [] [] gap_nil
    (fun _ _ => endsNumeral_nil) (by omega)
  rw [List.append_nil, List.nil_append] at read
  rw [toNode, readText, read, Outcome.node]

theorem itemNodes_eq (items : List Json) : itemNodes items = items.map toNode := by
  induction items with
  | nil => rfl
  | cons item items induction => rw [itemNodes, induction, List.map_cons]

theorem printMoreItems_eq (items : List Json) :
    printMoreItems items = items.flatMap (fun item => ',' :: item.print) ++ [']'] := by
  induction items with
  | nil => rfl
  | cons item rest induction => simp [printMoreItems, induction]

theorem printMoreMembers_eq (members : List (String × Json)) :
    printMoreMembers members =
      members.flatMap (fun (name, value) => ',' :: printString name ++ ':' :: value.print) ++
        ['}'] := by
  induction members with
  | nil => rfl
  | cons member rest induction => simp [printMoreMembers, induction]

/-- An item as it is printed, without blanks. -/
def printedItem (item : Json) : Padded :=
  ⟨[], typed item.print, [], item.toNode, gap_nil, gap_nil⟩

/-- The text of a member as it is printed. -/
def memberText (member : String × Json) : List Glyph :=
  typed (printString member.1 ++ ':' :: member.2.print)

theorem exists_printedMember (name : String) (value : Json) :
    ∃ member : Member, member.written = memberText (name, value) ∧
      member.node = (.scalar (.text (.ok name)), value.toNode) ∧
      member.value = printedItem value := by
  obtain ⟨pieces, inside, spells⟩ := exists_spelled name
  refine ⟨⟨[], _, pieces, [], printedItem value, gap_nil, inside, gap_nil⟩, ?_, ?_, rfl⟩
  · simp [Member.written, Member.fromKey, Padded.written, printedItem, memberText, printString,
      typed]
  · rw [Member.node, spells]
    rfl

theorem exists_printedMembers (members : List (String × Json)) :
    ∃ parts : List Member,
      parts.map Member.written = members.map memberText ∧
      parts.map Member.node = memberNodes members ∧
      ∀ part ∈ parts, ∃ member ∈ members, part.value = printedItem member.2 := by
  induction members with
  | nil => exact ⟨[], rfl, rfl, List.forall_mem_nil _⟩
  | cons member members induction =>
      obtain ⟨name, value⟩ := member
      obtain ⟨part, written, node, same⟩ := exists_printedMember name value
      obtain ⟨parts, allWritten, nodes, allSame⟩ := induction
      refine ⟨part :: parts, ?_, ?_, List.forall_mem_cons.mpr
        ⟨⟨_, List.mem_cons_self, same⟩, fun other present => ?_⟩⟩
      · rw [List.map_cons, written, allWritten, List.map_cons]
      · rw [List.map_cons, node, nodes, memberNodes]
      · obtain ⟨origin, isMember, same⟩ := allSame other present
        exact ⟨origin, List.mem_cons_of_mem _ isMember, same⟩

/-- A printed list is made of the texts of its items. -/
theorem exists_separatedItems (items : List Json) :
    ∃ inside, Separated ((items.map printedItem).map Padded.written) inside ∧
      typed (Json.array items).print = .char '[' :: inside ++ [.char ']'] := by
  cases items with
  | nil => exact ⟨[], .none gap_nil, rfl⟩
  | cons item items =>
      refine ⟨_, .some _ _, ?_⟩
      simp [print, printItems, printMoreItems_eq, Padded.written, printedItem, typed,
        List.flatMap_map, List.map_flatMap]

/-- A printed table is made of the texts of its members. -/
theorem exists_separatedMembers (members : List (String × Json)) :
    ∃ inside, Separated (members.map memberText) inside ∧
      typed (Json.object members).print = .char '{' :: inside ++ [.char '}'] := by
  cases members with
  | nil => exact ⟨[], .none gap_nil, rfl⟩
  | cons member members =>
      refine ⟨_, .some _ _, ?_⟩
      simp [print, printMembers, printMoreMembers_eq, memberText, typed, List.flatMap_map,
        List.map_flatMap]

/-- The text of a value describes its tree. -/
theorem value_print {value : Json} (whole : value.Whole) :
    Value (typed value.print) value.toNode := by
  induction value using induction_on_parts with
  | null => exact .scalar .null
  | boolean flag =>
      cases flag with
      | true => exact .scalar .isTrue
      | false => exact .scalar .isFalse
  | number number =>
      cases number with
      | integer number =>
          rw [toNode_integer]
          exact .scalar (token_integer number)
      | fractional fraction => exact absurd whole (not_whole_fractional fraction)
  | string text =>
      obtain ⟨pieces, inside, spells⟩ := exists_spelled text
      have token := Token.string inside
      rw [spells] at token
      exact .scalar (by simpa [print, printString, typed] using token)
  | array items induction =>
      have values : ∀ item ∈ items.map printedItem, Value item.text item.node :=
        List.forall_mem_map.mpr fun item member =>
          induction item member (whole_array.mp whole item member)
      have nodes : (items.map printedItem).map Padded.node = itemNodes items := by
        rw [itemNodes_eq, List.map_map]
        rfl
      obtain ⟨inside, separated, text⟩ := exists_separatedItems items
      rw [text, toNode, ← nodes]
      exact .list separated values
  | object members induction =>
      obtain ⟨parts, written, nodes, same⟩ := exists_printedMembers members
      have values : ∀ part ∈ parts, Value part.value.text part.value.node := by
        intro part present
        obtain ⟨member, isMember, ofMember⟩ := same part present
        rw [ofMember]
        exact induction member isMember (whole_object.mp whole member isMember)
      obtain ⟨inside, separated, text⟩ := exists_separatedMembers members
      rw [← written] at separated
      rw [text, toNode, ← nodes]
      exact .table separated values

/-- The text of a value is read as its tree. -/
theorem readText_print {value : Json} (whole : value.Whole) :
    readText (typed value.print) = .done value.toNode [] := by
  have read := (value_print whole).reads (3 * (typed value.print).length + 1) [] [] gap_nil
    (fun _ _ => endsNumeral_nil) (by omega)
  rwa [List.nil_append, List.append_nil] at read

end ApiCatalog.Json
