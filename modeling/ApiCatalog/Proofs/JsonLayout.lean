import ApiCatalog.Proofs.JsonText

/-!
# Layouts of JSON values

The compact text of a value and its text over indented lines are laid out alike: they differ in what
stands before items and members, and between a name and its value. A value without numbers can be
told from its text in such a layout, whatever follows it, by `Layout.tells_text`. So neither text
stands for two values: `compact_inj` and `pretty_inj`.
-/

namespace ApiCatalog.Json

open Text

/-! ## Values without numbers -/

/-- No number is in the tree of a value. -/
def Numberless (value : Json) : Prop :=
  ∀ number, ¬ Part (.number number) value

@[simp]
theorem numberless_null : Json.null.Numberless := by
  rintro number ⟨⟩

@[simp]
theorem numberless_string (text : String) : (Json.string text).Numberless := by
  rintro number ⟨⟩

@[simp]
theorem numberless_boolean (flag : Bool) : (Json.boolean flag).Numberless := by
  rintro number ⟨⟩

theorem not_numberless_number (value : Number) : ¬ (Json.number value).Numberless :=
  fun numberless => numberless value .self

@[simp]
theorem numberless_array {items : List Json} :
    (Json.array items).Numberless ↔ ∀ item ∈ items, item.Numberless := by
  refine ⟨fun numberless item member number part => numberless number (.item member part), ?_⟩
  rintro numberless number (_ | ⟨member, part⟩)
  exact numberless _ member number part

@[simp]
theorem numberless_object {members : List (String × Json)} :
    (Json.object members).Numberless ↔ ∀ member ∈ members, member.2.Numberless := by
  refine ⟨fun numberless member present number part => numberless number (.member present part), ?_⟩
  rintro numberless number (_ | _ | ⟨present, part⟩)
  exact numberless _ present number part

/-! ## Layouts -/

/-- Pieces with commas between them, each piece and the end after a gap. -/
def enclosed (gap : Nat → List Char) (level : Nat) : List (List Char) → List Char
  | [] => []
  | first :: rest =>
      gap (level + 1) ++ first ++ rest.flatMap (fun piece => ',' :: gap (level + 1) ++ piece) ++
        gap level

/-- A way to lay out values: blanks before pieces and after the last one, what stands after names,
and the texts of values at every level. -/
structure Layout where
  gap : Nat → List Char
  colon : List Char
  text : Nat → Json → List Char
  blank : ∀ level, ∀ character ∈ gap level, character ∈ blanks
  null : ∀ level, text level .null = "null".toList
  boolean : ∀ level flag, text level (.boolean flag) = (toString flag).toList
  string : ∀ level content, text level (.string content) = printString content
  array : ∀ level items, text level (.array items) =
    '[' :: enclosed gap level (items.map (text (level + 1))) ++ [']']
  object : ∀ level members, text level (.object members) =
    '{' :: enclosed gap level (members.map fun (name, value) =>
      printString name ++ colon ++ text (level + 1) value) ++ ['}']

theorem printMoreItemLines_eq (level : Nat) (items : List Json) :
    printMoreItemLines level items =
      items.flatMap (fun item => ',' :: newLine (level + 1) ++ item.printLines (level + 1)) ++
        newLine level ++ [']'] := by
  induction items with
  | nil => rfl
  | cons item rest induction => simp [printMoreItemLines, induction]

theorem printMoreMemberLines_eq (level : Nat) (members : List (String × Json)) :
    printMoreMemberLines level members =
      members.flatMap (fun (name, value) => ',' :: newLine (level + 1) ++ printString name ++
        ':' :: ' ' :: value.printLines (level + 1)) ++ newLine level ++ ['}'] := by
  induction members with
  | nil => rfl
  | cons member rest induction => simp [printMoreMemberLines, induction]

/-- The compact layout. -/
def compactLayout : Layout where
  gap _ := []
  colon := [':']
  text _ := print
  blank := by simp
  null _ := rfl
  boolean _ flag := by cases flag <;> rfl
  string _ _ := rfl
  array level items := by
    cases items with
    | nil => rfl
    | cons item rest => simp [print, printItems, printMoreItems_eq, enclosed, List.flatMap_map]
  object level members := by
    cases members with
    | nil => rfl
    | cons member rest =>
        simp [print, printMembers, printMoreMembers_eq, enclosed, List.flatMap_map]

/-- The layout over indented lines. -/
def prettyLayout : Layout where
  gap := newLine
  colon := [':', ' ']
  text := printLines
  blank := by simp [newLine, blanks]
  null level := by rw [printLines]; rfl
  boolean level flag := by cases flag <;> rw [printLines] <;> rfl
  string level content := by rw [printLines]
  array level items := by
    cases items with
    | nil => rw [printLines]; rfl
    | cons item rest => simp [printLines, printMoreItemLines_eq, enclosed, List.flatMap_map]
  object level members := by
    cases members with
    | nil => rw [printLines]; rfl
    | cons member rest =>
        simp [printLines, printMoreMemberLines_eq, enclosed, List.flatMap_map]

/-! ## Texts that tell what is written -/

/-- A text of an item, with something after it, tells the item from those of a kind and ends where
theirs ends. -/
def Tells {α : Type} (write : α → List Char) (kind : α → Prop) (item : α) : Prop :=
  ∀ other rest otherRest, kind other → write item ++ rest = write other ++ otherRest →
    item = other ∧ rest = otherRest

theorem typed_injective {left right : List Char} (same : typed left = typed right) :
    left = right :=
  (List.map_inj_right fun _ _ equal => Glyph.char.inj equal).mp same

theorem tells_printString (text : String) : Tells printString (fun _ => True) text := by
  intro other rest otherRest _ same
  have glyphs : quoted text (typed rest) = quoted other (typed otherRest) := by
    simpa [printString, typed] using congrArg (fun written => typed written.tail) same
  have read := readString_quoted text (typed rest)
  rw [glyphs, readString_quoted] at read
  simp only [Except.ok.injEq, Prod.mk.injEq, Scalar.text.injEq] at read
  exact ⟨read.1.symm, typed_injective read.2.symm⟩

section

variable {α : Type} {write : α → List Char} {kind : α → Prop} {items others : List α}
  {rest otherRest : List Char}

theorem tells_more {gap finish : List Char} (noComma : ∀ rest, (finish ++ rest).head? ≠ some ',')
    (tells : ∀ item ∈ items, Tells write kind item) (sound : ∀ other ∈ others, kind other)
    (same : items.flatMap (fun item => ',' :: gap ++ write item) ++ (finish ++ rest) =
      others.flatMap (fun other => ',' :: gap ++ write other) ++ (finish ++ otherRest)) :
    items = others ∧ rest = otherRest := by
  -- A comma stands before every piece that is left, and none where the pieces end.
  induction items generalizing others with
  | nil =>
      cases others with
      | nil => exact ⟨rfl, List.append_cancel_left same⟩
      | cons => exact absurd (congrArg List.head? same) (noComma rest)
  | cons item more induction =>
      cases others with
      | nil => exact absurd (congrArg List.head? same).symm (noComma otherRest)
      | cons other otherMore =>
          obtain ⟨here, later⟩ := List.forall_mem_cons.mp tells
          obtain ⟨soundHere, soundLater⟩ := List.forall_mem_cons.mp sound
          simp only [List.flatMap_cons, List.cons_append, List.append_assoc, List.cons.injEq,
            true_and] at same
          obtain ⟨rfl, after⟩ := here other _ _ soundHere (List.append_cancel_left same)
          obtain ⟨rfl, rfl⟩ := induction later soundLater after
          exact ⟨rfl, rfl⟩

/-- A gap hides no visible character. -/
theorem head?_gap_append_ne (layout : Layout) (level : Nat) {first : Char}
    (visible : first ∉ blanks) (starts : rest.head? ≠ some first) :
    (layout.gap level ++ rest).head? ≠ some first := by
  cases gap : layout.gap level with
  | nil => exact starts
  | cons blank more =>
      have isBlank := layout.blank level blank (gap ▸ List.mem_cons_self)
      rintro ⟨⟩
      exact visible isBlank

/-- Enclosed pieces do not start with what stands after all of them. -/
theorem head?_enclosed_ne (layout : Layout) (level : Nat) {closing : Char}
    (visible : closing ∉ blanks) {piece : List Char}
    (starts : ∃ first ≠ closing, piece.head? = some first) (pieces : List (List Char)) :
    (enclosed layout.gap level (piece :: pieces) ++ rest).head? ≠ some closing := by
  obtain ⟨first, differs, head⟩ := starts
  simp only [enclosed, List.append_assoc]
  apply head?_gap_append_ne layout (level + 1) visible
  simpa [List.head?_append, head] using differs

theorem tells_enclosed (layout : Layout) (level : Nat) (closing : Char)
    (visible : closing ∉ ',' :: blanks)
    (starts : ∀ item, kind item → ∃ first ≠ closing, (write item).head? = some first)
    (tells : ∀ item ∈ items, Tells write kind item) (soundItems : ∀ item ∈ items, kind item)
    (sound : ∀ other ∈ others, kind other)
    (same : enclosed layout.gap level (items.map write) ++ closing :: rest =
      enclosed layout.gap level (others.map write) ++ closing :: otherRest) :
    items = others ∧ rest = otherRest := by
  rw [List.mem_cons, not_or] at visible
  obtain ⟨noComma, visible⟩ := visible
  -- With an empty gap, only the first character of a piece tells some pieces from none.
  cases items with
  | nil =>
      cases others with
      | nil => exact ⟨rfl, (List.cons.inj same).2⟩
      | cons other more =>
          have opened := starts other (sound other List.mem_cons_self)
          exact absurd (congrArg List.head? same).symm
            (head?_enclosed_ne layout level visible opened _)
  | cons item more =>
      cases others with
      | nil =>
          have opened := starts item (soundItems item List.mem_cons_self)
          exact absurd (congrArg List.head? same) (head?_enclosed_ne layout level visible opened _)
      | cons other otherMore =>
          have finish : ∀ rest, ((layout.gap level ++ [closing]) ++ rest).head? ≠ some ',' := by
            intro rest
            rw [List.append_assoc]
            exact head?_gap_append_ne layout level (by decide) (by simpa using noComma)
          simp only [List.map_cons, enclosed, List.flatMap_map, List.append_assoc] at same
          obtain ⟨here, later⟩ := List.forall_mem_cons.mp tells
          obtain ⟨soundHere, soundLater⟩ := List.forall_mem_cons.mp sound
          obtain ⟨rfl, after⟩ := here other _ _ soundHere (List.append_cancel_left same)
          obtain ⟨rfl, rfl⟩ := tells_more finish later soundLater (by simpa using after)
          exact ⟨rfl, rfl⟩

end

/-! ## Values -/

/-- The first character of the text of a value without numbers. -/
def opening : Json → Char
  | .null => 'n'
  | .boolean flag => if flag then 't' else 'f'
  | .number _ => '0'
  | .string _ => '"'
  | .array _ => '['
  | .object _ => '\x7b'

theorem opening_ne_bracket (value : Json) : value.opening ≠ ']' := by
  cases value <;> grind [opening]

namespace Layout

variable (layout : Layout)

theorem head?_text {value : Json} (numberless : value.Numberless) (level : Nat) (rest : List Char) :
    (layout.text level value ++ rest).head? = some value.opening := by
  cases value with
  | null => rw [layout.null]; rfl
  | boolean flag => cases flag <;> rw [layout.boolean] <;> rfl
  | number value => exact absurd numberless (not_numberless_number value)
  | string content => rw [layout.string]; rfl
  | array items => rw [layout.array]; rfl
  | object members => rw [layout.object]; rfl

/-- Where texts agree, values start alike. -/
theorem opening_eq {left right : Json} (leftNumberless : left.Numberless)
    (rightNumberless : right.Numberless) {level : Nat} {rest otherRest : List Char}
    (same : layout.text level left ++ rest = layout.text level right ++ otherRest) :
    left.opening = right.opening := by
  have heads := congrArg List.head? same
  rw [layout.head?_text leftNumberless, layout.head?_text rightNumberless] at heads
  exact Option.some.inj heads

theorem tells_member {member : String × Json} {level : Nat}
    (tells : Tells (layout.text level) Numberless member.2) :
    Tells (fun (member : String × Json) =>
        printString member.1 ++ layout.colon ++ layout.text level member.2)
      (fun member => member.2.Numberless) member := by
  intro other rest otherRest numberless same
  simp only [List.append_assoc] at same
  obtain ⟨sameName, after⟩ := tells_printString member.1 other.1 _ _ trivial same
  obtain ⟨sameValue, sameRest⟩ := tells other.2 _ _ numberless (List.append_cancel_left after)
  exact ⟨Prod.ext sameName sameValue, sameRest⟩

theorem tells_items {items others : List Json} {level : Nat} {rest otherRest : List Char}
    (tells : ∀ item ∈ items, Tells (layout.text (level + 1)) Numberless item)
    (numberless : (Json.array items).Numberless) (otherNumberless : (Json.array others).Numberless)
    (same : layout.text level (.array items) ++ rest =
      layout.text level (.array others) ++ otherRest) : items = others ∧ rest = otherRest := by
  rw [numberless_array] at numberless otherNumberless
  have starts : ∀ item : Json, item.Numberless →
      ∃ first ≠ ']', (layout.text (level + 1) item).head? = some first := by
    intro item itemNumberless
    have head := layout.head?_text itemNumberless (level + 1) []
    rw [List.append_nil] at head
    exact ⟨item.opening, item.opening_ne_bracket, head⟩
  rw [layout.array, layout.array] at same
  exact tells_enclosed layout level ']' (by decide) starts tells numberless otherNumberless
    (by simpa using same)

theorem tells_members {members others : List (String × Json)} {level : Nat}
    {rest otherRest : List Char}
    (tells : ∀ member ∈ members, Tells (layout.text (level + 1)) Numberless (Prod.snd member))
    (numberless : (Json.object members).Numberless)
    (otherNumberless : (Json.object others).Numberless)
    (same : layout.text level (.object members) ++ rest =
      layout.text level (.object others) ++ otherRest) : members = others ∧ rest = otherRest := by
  rw [numberless_object] at numberless otherNumberless
  rw [layout.object, layout.object] at same
  exact tells_enclosed layout level '\x7d' (by decide) (fun member _ => ⟨'"', by decide, rfl⟩)
    (fun member present => layout.tells_member (tells member present)) numberless otherNumberless
    (by simpa using same)

/-- The text of a value without numbers tells the value, whatever follows it. -/
theorem tells_text {value : Json} (numberless : value.Numberless) (level : Nat) :
    Tells (layout.text level) Numberless value := by
  induction value using induction_on_parts generalizing level with
  | null =>
      intro other rest otherRest otherNumberless same
      have opened := layout.opening_eq numberless otherNumberless same
      cases other with
      | null => exact ⟨rfl, List.append_cancel_left same⟩
      | _ => grind [opening]
  | boolean flag =>
      intro other rest otherRest otherNumberless same
      have opened := layout.opening_eq numberless otherNumberless same
      cases other with
      | boolean otherFlag =>
          obtain rfl : flag = otherFlag := by cases flag <;> cases otherFlag <;> simp_all [opening]
          exact ⟨rfl, List.append_cancel_left same⟩
      | _ => grind [opening]
  | number value => exact absurd numberless (not_numberless_number value)
  | string content =>
      intro other rest otherRest otherNumberless same
      have opened := layout.opening_eq numberless otherNumberless same
      cases other with
      | string otherContent =>
          rw [layout.string, layout.string] at same
          obtain ⟨rfl, sameRest⟩ := tells_printString content otherContent _ _ trivial same
          exact ⟨rfl, sameRest⟩
      | _ => grind [opening]
  | array items induction =>
      intro other rest otherRest otherNumberless same
      have opened := layout.opening_eq numberless otherNumberless same
      cases other with
      | array others =>
          have below := numberless_array.mp numberless
          obtain ⟨rfl, sameRest⟩ := layout.tells_items
            (fun item member => induction item member (below item member) (level + 1))
            numberless otherNumberless same
          exact ⟨rfl, sameRest⟩
      | _ => grind [opening]
  | object members induction =>
      intro other rest otherRest otherNumberless same
      have opened := layout.opening_eq numberless otherNumberless same
      cases other with
      | object others =>
          have below := numberless_object.mp numberless
          obtain ⟨rfl, sameRest⟩ := layout.tells_members
            (fun member present => induction member present (below member present) (level + 1))
            numberless otherNumberless same
          exact ⟨rfl, sameRest⟩
      | _ => grind [opening]

/-- A layout gives different values without numbers different texts. -/
theorem text_inj {left right : Json} (leftNumberless : left.Numberless)
    (rightNumberless : right.Numberless) (level : Nat) :
    layout.text level left = layout.text level right ↔ left = right := by
  refine ⟨fun same => ?_, congrArg (layout.text level)⟩
  exact (layout.tells_text leftNumberless level right [] [] rightNumberless
    (congrArg (· ++ []) same)).1

end Layout

theorem compact_inj {left right : Json} (leftNumberless : left.Numberless)
    (rightNumberless : right.Numberless) : left.compact = right.compact ↔ left = right := by
  rw [compact, compact, String.ofList_inj]
  exact compactLayout.text_inj leftNumberless rightNumberless 0

theorem pretty_inj {left right : Json} (leftNumberless : left.Numberless)
    (rightNumberless : right.Numberless) : left.pretty = right.pretty ↔ left = right := by
  rw [pretty, pretty, String.ofList_inj]
  exact prettyLayout.text_inj leftNumberless rightNumberless 0

end ApiCatalog.Json
