import ApiCatalog.Proofs.JsonTokens
import Mathlib.Data.List.Forall2

/-!
# The grammar of JSON

Which texts are values, and which trees they describe. The reader follows the grammar: the tree it
reads is described by the text it takes, or breaks off so that it cannot even be skipped, by
`describes_readNode`. And it reads every value from its text, whatever follows it, by `Value.reads`.
-/

namespace ApiCatalog.Json

open Text

/-! ## Values -/

/-- A text of blanks. -/
def Gap (text : List Glyph) : Prop :=
  ∀ glyph ∈ text, ∃ character ∈ blanks, glyph = .char character

/-- A text of a tree between blanks. -/
structure Padded where
  before : List Glyph
  text : List Glyph
  after : List Glyph
  node : Node
  gapBefore : Gap before
  gapAfter : Gap after

/-- The text with its blanks. -/
def Padded.written (part : Padded) : List Glyph :=
  part.before ++ (part.text ++ part.after)

/-- A key and a value, as they are written in a table. -/
structure Member where
  before : List Glyph
  key : List Glyph
  pieces : List Piece
  after : List Glyph
  value : Padded
  gapBefore : Gap before
  inside : Inside key pieces
  gapAfter : Gap after

/-- The text of a member after the opening quote of its key. -/
def Member.fromKey (member : Member) : List Glyph :=
  member.key ++ .char '"' :: (member.after ++ .char ':' :: member.value.written)

/-- The text of a member. -/
def Member.written (member : Member) : List Glyph :=
  member.before ++ .char '"' :: member.fromKey

/-- The trees of the key and the value. -/
def Member.node (member : Member) : Node × Node :=
  (.scalar (spelled member.pieces), member.value.node)

/-- Parts with commas between them. There may be blanks if there are no parts. -/
inductive Separated : List (List Glyph) → List Glyph → Prop
  | none {gap : List Glyph} : Gap gap → Separated [] gap
  | some (first : List Glyph) (rest : List (List Glyph)) :
      Separated (first :: rest) (first ++ rest.flatMap (.char ',' :: ·))

/-- A text of a value, with the tree it describes. -/
inductive Value : List Glyph → Node → Prop
  | scalar {text : List Glyph} {scalar : Scalar} : Token text scalar → Value text (.scalar scalar)
  | list {inside : List Glyph} {items : List Padded} :
      Separated (items.map Padded.written) inside → (∀ item ∈ items, Value item.text item.node) →
      Value (.char '[' :: inside ++ [.char ']']) (.list (items.map Padded.node) .closed)
  | table {inside : List Glyph} {members : List Member} :
      Separated (members.map Member.written) inside →
      (∀ member ∈ members, Value member.value.text member.value.node) →
      Value (.char '{' :: inside ++ [.char '}']) (.table (members.map Member.node) .closed)

theorem listSkipFault?_eq_none {items : List Node}
    (whole : ∀ item ∈ items, item.skipFault? = none) : listSkipFault? items = none := by
  induction items with
  | nil => rfl
  | cons item items induction =>
      obtain ⟨here, later⟩ := List.forall_mem_cons.mp whole
      rw [listSkipFault?, here, induction later]
      rfl

theorem tableSkipFault?_eq_none {members : List (Node × Node)}
    (whole : ∀ member ∈ members, member.1.skipFault? = none ∧ member.2.skipFault? = none) :
    tableSkipFault? members = none := by
  induction members with
  | nil => rfl
  | cons member members induction =>
      obtain ⟨⟨key, value⟩, later⟩ := List.forall_mem_cons.mp whole
      rw [tableSkipFault?, key, value, induction later]
      rfl

/-- The tree of a value can be skipped. -/
theorem Value.skipFault? {text : List Glyph} {node : Node} (value : Value text node) :
    node.skipFault? = none := by
  induction value with
  | scalar => rfl
  | list _ _ whole =>
      rw [Node.skipFault?, listSkipFault?_eq_none (List.forall_mem_map.mpr whole)]
      rfl
  | table _ _ whole =>
      rw [Node.skipFault?, tableSkipFault?_eq_none (List.forall_mem_map.mpr fun member present =>
        ⟨rfl, whole member present⟩)]
      rfl

/-! ## Blanks -/

theorem skipBlanks_of_visible {first : Char} (visible : first ∉ blanks) (rest : List Glyph) :
    skipBlanks (.char first :: rest) = .char first :: rest := by
  simp only [blanks, List.mem_cons, not_or] at visible
  rw [skipBlanks.eq_def]
  split <;> simp_all

theorem gap_nil : Gap [] :=
  List.forall_mem_nil _

theorem Gap.append {first second : List Glyph} (left : Gap first) (right : Gap second) :
    Gap (first ++ second) :=
  List.forall_mem_append.mpr ⟨left, right⟩

theorem skipBlanks_gap {gap : List Glyph} (blank : Gap gap) (rest : List Glyph) :
    skipBlanks (gap ++ rest) = skipBlanks rest := by
  induction gap with
  | nil => rfl
  | cons glyph gap induction =>
      obtain ⟨⟨character, member, rfl⟩, later⟩ := List.forall_mem_cons.mp blank
      rw [← induction later]
      simp only [blanks, List.mem_cons, List.not_mem_nil, or_false] at member
      rcases member with rfl | rfl | rfl | rfl <;> rfl

theorem exists_gap (text : List Glyph) : ∃ gap, Gap gap ∧ text = gap ++ skipBlanks text := by
  induction text using skipBlanks.induct with
  | case5 text =>
      refine ⟨[], gap_nil, ?_⟩
      rw [skipBlanks.eq_5 _ ‹_› ‹_› ‹_› ‹_›]
      rfl
  | _ text induction =>
      obtain ⟨gap, blank, split⟩ := induction
      exact ⟨_ :: gap, List.forall_mem_cons.mpr ⟨⟨_, by decide, rfl⟩, blank⟩,
        congrArg (_ :: ·) split⟩

theorem endsNumeral_gap {gap rest : List Glyph} (blank : Gap gap) (ends : EndsNumeral rest) :
    EndsNumeral (gap ++ rest) := by
  cases gap with
  | nil => exact ends
  | cons glyph gap =>
      obtain ⟨character, member, rfl⟩ := blank glyph List.mem_cons_self
      simp only [blanks, List.mem_cons, List.not_mem_nil, or_false] at member
      rcases member with rfl | rfl | rfl | rfl <;> exact ⟨rfl, rfl, rfl⟩

/-! ## The reader follows the grammar -/

/-- What a tree read from a text has to do with it: a whole tree is described by the text before the
rest, and one that breaks off cannot even be skipped. -/
def Outcome.Describes (text : List Glyph) : Outcome → Prop
  | .done node rest => ∃ gap value, Gap gap ∧ Value value node ∧ text = gap ++ (value ++ rest)
  | .cut node => node.skipFault? ≠ none

/-- How a list or table is written in parts. -/
structure Form (β : Type) where
  /-- Its opening mark. -/
  opening : Char
  /-- Its closing mark. -/
  close : Char
  /-- The tree of its parts. -/
  build : List β → Ending → Node
  /-- Whether a text describes a part. -/
  IsPart : List Glyph → β → Prop
  /-- Blanks may stand before a part. -/
  widen {gap text : List Glyph} {part : β} : Gap gap → IsPart text part → IsPart (gap ++ text) part
  /-- A tree that breaks off after its parts cannot be skipped. -/
  cut {ending : Ending} (parts : List β) : ending.skipFault? ≠ none →
    (build parts ending).skipFault? ≠ none
  /-- What cannot be skipped cannot be skipped after another part. -/
  cons {parts : List β} {ending : Ending} (part : β) : (build parts ending).skipFault? ≠ none →
    (build (part :: parts) ending).skipFault? ≠ none
  /-- Separate parts between the marks are a value. -/
  whole {texts : List (List Glyph)} {inside : List Glyph} {parts : List β} :
    List.Forall₂ IsPart texts parts → Separated texts inside →
    Value (.char opening :: inside ++ [.char close]) (build parts .closed)

section Form

variable {β : Type} {form : Form β} {text : List Glyph}

/-- What parts read from a text have to do with it. There is one part at least. -/
def Form.Describes (form : Form β) (text : List Glyph) (parts : Parts β) : Prop :=
  match parts.ending with
  | .ok rest => ∃ first others, List.Forall₂ form.IsPart (first :: others) parts.parts ∧
      text = first ++ (others.flatMap (.char ',' :: ·) ++ .char form.close :: rest)
  | .error ending => (form.build parts.parts ending).skipFault? ≠ none

theorem Form.describes_skipBlanks {parts : Parts β}
    (describes : form.Describes (skipBlanks text) parts) : form.Describes text parts := by
  obtain ⟨gap, blank, split⟩ := exists_gap text
  obtain ⟨parts, ending⟩ := parts
  cases ending with
  | error ending => exact describes
  | ok rest =>
      obtain ⟨first, others, areParts, written⟩ := describes
      cases areParts with
      | cons isPart areParts =>
          exact ⟨gap ++ first, others, .cons (form.widen blank isPart) areParts, by
            rw [split, written, List.append_assoc]⟩

theorem Form.describes_cut (parts : List β) {ending : Ending}
    (breaks : ending.skipFault? ≠ none) : form.Describes text ⟨parts, .error ending⟩ :=
  form.cut parts breaks

theorem Form.describes_last {part : β} {after rest : List Glyph} (isPart : form.IsPart text part)
    (split : after = text ++ .char form.close :: rest) :
    form.Describes after ⟨[part], .ok rest⟩ :=
  ⟨text, [], .cons isPart .nil, split⟩

theorem Form.describes_cons {part : β} {after rest : List Glyph} {parts : Parts β}
    (isPart : form.IsPart text part) (split : after = text ++ .char ',' :: rest)
    (more : form.Describes rest parts) : form.Describes after (.cons part parts) := by
  obtain ⟨parts, ending⟩ := parts
  cases ending with
  | error ending => exact form.cons part more
  | ok rest =>
      obtain ⟨next, others, areParts, rfl⟩ := more
      exact ⟨text, next :: others, .cons isPart areParts, by simp [split]⟩

theorem Form.describes_finish {parts : Parts β} (describes : form.Describes text parts) :
    Outcome.Describes (.char form.opening :: text) (parts.finish form.build) := by
  obtain ⟨parts, ending⟩ := parts
  cases ending with
  | error ending => exact describes
  | ok rest =>
      obtain ⟨first, others, areParts, rfl⟩ := describes
      exact ⟨[], _, gap_nil, form.whole areParts (.some first others), by simp⟩

theorem Form.describes_nothing {gap rest : List Glyph} (blank : Gap gap) :
    Outcome.Describes (.char form.opening :: (gap ++ .char form.close :: rest))
      (Parts.finish form.build ⟨[], .ok rest⟩) :=
  ⟨[], _, gap_nil, form.whole .nil (.none blank), by simp⟩

end Form

/-- A text describes an item of a list. -/
def IsItem (text : List Glyph) (node : Node) : Prop :=
  ∃ item : Padded, item.written = text ∧ item.node = node ∧ Value item.text item.node

theorem exists_items {texts : List (List Glyph)} {nodes : List Node}
    (areItems : List.Forall₂ IsItem texts nodes) :
    ∃ items : List Padded, texts = items.map Padded.written ∧ nodes = items.map Padded.node ∧
      ∀ item ∈ items, Value item.text item.node := by
  induction areItems with
  | nil => exact ⟨[], rfl, rfl, List.forall_mem_nil _⟩
  | cons isItem _ induction =>
      obtain ⟨item, rfl, rfl, isValue⟩ := isItem
      obtain ⟨items, rfl, rfl, areValues⟩ := induction
      exact ⟨item :: items, rfl, rfl, List.forall_mem_cons.mpr ⟨isValue, areValues⟩⟩

/-- The form of a list. -/
def listForm : Form Node where
  opening := '['
  close := ']'
  build := .list
  IsPart := IsItem
  widen blank isItem := by
    obtain ⟨item, rfl, rfl, isValue⟩ := isItem
    exact ⟨{ item with before := _ ++ item.before, gapBefore := blank.append item.gapBefore },
      by simp [Padded.written], rfl, isValue⟩
  cut parts breaks := by
    simp [Node.skipFault?, breaks]
  cons part breaks := by
    simp_all [Node.skipFault?, listSkipFault?]
  whole areItems separated := by
    obtain ⟨items, rfl, rfl, areValues⟩ := exists_items areItems
    exact .list separated areValues

theorem describes_unreached_item {text : List Glyph} {node : Node}
    (breaks : node.skipFault? ≠ none) : listForm.Describes text ⟨[node], .error .unreached⟩ := by
  show (Node.list [node] .unreached).skipFault? ≠ none
  simpa [Node.skipFault?, listSkipFault?, Ending.skipFault?] using breaks

/-- A text describes a member of a table. -/
def IsMember (text : List Glyph) (pair : Node × Node) : Prop :=
  ∃ member : Member, member.written = text ∧ member.node = pair ∧
    Value member.value.text member.value.node

theorem exists_members {texts : List (List Glyph)} {pairs : List (Node × Node)}
    (areMembers : List.Forall₂ IsMember texts pairs) :
    ∃ members : List Member, texts = members.map Member.written ∧ pairs = members.map Member.node ∧
      ∀ member ∈ members, Value member.value.text member.value.node := by
  induction areMembers with
  | nil => exact ⟨[], rfl, rfl, List.forall_mem_nil _⟩
  | cons isMember _ induction =>
      obtain ⟨member, rfl, rfl, isValue⟩ := isMember
      obtain ⟨members, rfl, rfl, areValues⟩ := induction
      exact ⟨member :: members, rfl, rfl, List.forall_mem_cons.mpr ⟨isValue, areValues⟩⟩

/-- The form of a table. -/
def tableForm : Form (Node × Node) where
  opening := '{'
  close := '}'
  build := .table
  IsPart := IsMember
  widen blank isMember := by
    obtain ⟨member, rfl, rfl, isValue⟩ := isMember
    exact ⟨{ member with before := _ ++ member.before, gapBefore := blank.append member.gapBefore },
      by simp [Member.written, Member.fromKey], rfl, isValue⟩
  cut parts breaks := by
    simp [Node.skipFault?, breaks]
  cons part breaks := by
    simp_all [Node.skipFault?, tableSkipFault?]
  whole areMembers separated := by
    obtain ⟨members, rfl, rfl, areValues⟩ := exists_members areMembers
    exact .table separated areValues

theorem describes_unreached_member {text : List Glyph} {key : Scalar} {node : Node}
    (breaks : node.skipFault? ≠ none) :
    tableForm.Describes text ⟨[(.scalar key, node)], .error .unreached⟩ := by
  show (Node.table [(.scalar key, node)] .unreached).skipFault? ≠ none
  simpa [Node.skipFault?, tableSkipFault?, Ending.skipFault?] using breaks

theorem skipFault?_cut (fault : Fault) : (Ending.cut (.ofFault fault)).skipFault? ≠ none :=
  Option.some_ne_none _

theorem skipFault?_dangling (fault : Fault) :
    (Ending.dangling (.ofFault fault)).skipFault? ≠ none :=
  Option.some_ne_none _

/-- A value that is read is described by the text up to the next mark. -/
theorem exists_padded {text rest : List Glyph} {node : Node}
    (describes : Outcome.Describes text (.done node rest)) :
    ∃ item : Padded, item.node = node ∧ Value item.text item.node ∧
      text = item.written ++ skipBlanks rest := by
  obtain ⟨before, value, blankBefore, isValue, written⟩ := describes
  obtain ⟨after, blankAfter, split⟩ := exists_gap rest
  refine ⟨⟨before, value, after, node, blankBefore, blankAfter⟩, rfl, isValue, ?_⟩
  rw [written]
  nth_rewrite 1 [split]
  simp [Padded.written]

theorem describes_readItem {fuel : Nat}
    (back : ∀ smaller < fuel, ∀ text, (readNode smaller text).Describes text)
    (text : List Glyph) : listForm.Describes text (readItem fuel text) := by
  induction fuel generalizing text with
  | zero => exact Form.describes_cut [] (skipFault?_cut _)
  | succ fuel induction =>
      have later := induction fun smaller less => back smaller (Nat.lt_succ_of_lt less)
      have here := back fuel (Nat.lt_succ_self fuel) text
      rw [readItem]
      cases read : readNode fuel text with
      | cut node =>
          rw [read] at here
          exact describes_unreached_item here
      | done node rest =>
          rw [read] at here
          obtain ⟨item, rfl, isValue, written⟩ := exists_padded here
          have isItem : IsItem item.written item.node := ⟨item, rfl, rfl, isValue⟩
          dsimp only
          split
          · exact Form.describes_cut [_] (skipFault?_cut _)
          · rename_i closes
            exact Form.describes_last isItem (closes ▸ written)
          · rename_i comma
            rw [comma] at written
            split
            · exact Form.describes_cut [_] (skipFault?_dangling _)
            · exact Form.describes_cut [_] (skipFault?_dangling _)
            · exact Form.describes_cons isItem written (Form.describes_skipBlanks (later _))
          · exact Form.describes_cut [_] (skipFault?_cut _)

theorem describes_readMember {fuel : Nat}
    (back : ∀ smaller < fuel, ∀ text, (readNode smaller text).Describes text)
    (text : List Glyph) : tableForm.Describes (.char '"' :: text) (readMember fuel text) := by
  induction fuel generalizing text with
  | zero => exact Form.describes_cut [] (skipFault?_cut _)
  | succ fuel induction =>
      have later := induction fun smaller less => back smaller (Nat.lt_succ_of_lt less)
      rw [readMember]
      cases readKey : readString text with
      | error place => exact Form.describes_cut [] (Option.some_ne_none _)
      | ok named =>
          obtain ⟨scalar, unread⟩ := named
          obtain ⟨key, pieces, inside, rfl, rfl⟩ := exists_readString readKey
          obtain ⟨gap, blank, split⟩ := exists_gap unread
          dsimp only
          split
          · exact describes_unreached_member (Option.some_ne_none _)
          · rename_i after colon
            rw [colon] at split
            have here := back fuel (Nat.lt_succ_self fuel) after
            cases read : readNode fuel after with
            | cut node =>
                rw [read] at here
                exact describes_unreached_member here
            | done node rest =>
                rw [read] at here
                obtain ⟨value, rfl, isValue, written⟩ := exists_padded here
                let member : Member := ⟨[], key, pieces, gap, value, gap_nil, inside, blank⟩
                have isMember : IsMember member.written member.node :=
                  ⟨member, rfl, rfl, isValue⟩
                have whole {more : List Glyph} (next : skipBlanks rest = more) :
                    .char '"' :: (key ++ .char '"' :: unread) = member.written ++ more := by
                  rw [split, written, next]
                  simp [member, Member.written, Member.fromKey]
                dsimp only
                split
                · exact Form.describes_cut [_] (skipFault?_cut _)
                · exact Form.describes_last isMember (whole ‹_›)
                · have comma := whole ‹_›
                  split
                  · exact Form.describes_cut [_] (skipFault?_dangling _)
                  · rename_i quote
                    refine Form.describes_cons isMember comma (Form.describes_skipBlanks ?_)
                    rw [quote]
                    exact later _
                  · exact Form.describes_cut [_] (skipFault?_dangling _)
                · exact Form.describes_cut [_] (skipFault?_cut _)
          · exact describes_unreached_member (Option.some_ne_none _)

theorem describes_readItems {fuel : Nat}
    (back : ∀ smaller < fuel, ∀ text, (readNode smaller text).Describes text)
    (text : List Glyph) :
    Outcome.Describes (.char '[' :: text) ((readItems fuel text).finish .list) := by
  cases fuel with
  | zero => exact listForm.describes_finish (Form.describes_cut [] (skipFault?_cut _))
  | succ fuel =>
      have items := describes_readItem fun smaller less => back smaller (Nat.lt_succ_of_lt less)
      obtain ⟨gap, blank, split⟩ := exists_gap text
      rw [readItems]
      split
      · exact listForm.describes_finish (Form.describes_cut [] (skipFault?_cut _))
      · rename_i rest closes
        rw [split, closes]
        exact listForm.describes_nothing blank
      · exact listForm.describes_finish (Form.describes_skipBlanks (items _))

theorem describes_readMembers {fuel : Nat}
    (back : ∀ smaller < fuel, ∀ text, (readNode smaller text).Describes text)
    (text : List Glyph) :
    Outcome.Describes (.char '{' :: text) ((readMembers fuel text).finish .table) := by
  cases fuel with
  | zero => exact tableForm.describes_finish (Form.describes_cut [] (skipFault?_cut _))
  | succ fuel =>
      have members := describes_readMember fun smaller less => back smaller (Nat.lt_succ_of_lt less)
      obtain ⟨gap, blank, split⟩ := exists_gap text
      rw [readMembers]
      split
      · exact tableForm.describes_finish (Form.describes_cut [] (skipFault?_cut _))
      · rename_i rest closes
        rw [split, closes]
        exact tableForm.describes_nothing blank
      · rename_i rest quote
        refine tableForm.describes_finish (Form.describes_skipBlanks ?_)
        rw [quote]
        exact members _
      · exact tableForm.describes_finish (Form.describes_cut [] (skipFault?_cut _))

theorem describes_skipBlanks {text : List Glyph} {outcome : Outcome}
    (describes : outcome.Describes (skipBlanks text)) : outcome.Describes text := by
  obtain ⟨gap, blank, split⟩ := exists_gap text
  cases outcome with
  | cut node => exact describes
  | done node rest =>
      obtain ⟨before, value, blankBefore, isValue, written⟩ := describes
      exact ⟨gap ++ before, value, blank.append blankBefore, isValue, by
        rw [split, written, List.append_assoc]⟩

/-- The reader follows the grammar: the tree it reads is described by what it takes from the text,
or breaks off. -/
theorem describes_readNode (fuel : Nat) (text : List Glyph) :
    (readNode fuel text).Describes text := by
  induction fuel using Nat.strongRecOn generalizing text with
  | ind fuel induction =>
  cases fuel with
  | zero => exact Option.some_ne_none _
  | succ fuel =>
      have back : ∀ smaller < fuel, ∀ text, (readNode smaller text).Describes text :=
        fun smaller less => induction smaller (Nat.lt_succ_of_lt less)
      rw [readNode]
      refine describes_skipBlanks ?_
      generalize skipBlanks text = text
      split
      · exact Option.some_ne_none _
      · exact Option.some_ne_none _
      · exact describes_readItems back _
      · exact describes_readMembers back _
      · split
        · rename_i read
          obtain ⟨token, isToken, written⟩ := exists_token read
          exact ⟨[], token, gap_nil, .scalar isToken, written⟩
        · exact Option.some_ne_none _

/-! ## The reader reads every value -/

/-- The text of a value starts with a visible mark that closes nothing. -/
theorem Value.visible {text : List Glyph} {node : Node} (value : Value text node) :
    ∃ first more, text = .char first :: more ∧ first ∉ ']' :: blanks := by
  cases value with
  | scalar token =>
      obtain ⟨first, more, rfl, visible, _⟩ := token.readScalar endsNumeral_nil
      simp only [List.mem_cons, not_or] at visible
      exact ⟨first, more, rfl, by simp [visible]⟩
  | list => exact ⟨_, _, rfl, by decide⟩
  | table => exact ⟨_, _, rfl, by decide⟩

/-- The reader reads a value, whatever follows it. Only a numeral may be continued. -/
def ReadsValue (text : List Glyph) (node : Node) : Prop :=
  ∀ fuel gap rest, Gap gap → (∀ scalar, node = .scalar scalar → EndsNumeral rest) →
    3 * text.length ≤ fuel → readNode fuel (gap ++ (text ++ rest)) = .done node rest

/-- Parts that follow others, with the closing mark and what comes after it. -/
def moreParts (close : Char) (parts : List (List Glyph)) (rest : List Glyph) : List Glyph :=
  parts.flatMap (.char ',' :: ·) ++ .char close :: rest

theorem moreParts_cons (close : Char) (part : List Glyph) (parts : List (List Glyph))
    (rest : List Glyph) :
    moreParts close (part :: parts) rest = .char ',' :: (part ++ moreParts close parts rest) := by
  simp [moreParts]

/-- The same part without blanks before its text. -/
def Padded.bare (part : Padded) : Padded :=
  { part with before := [], gapBefore := gap_nil }

theorem Padded.skipBlanks_written {part : Padded} (value : Value part.text part.node)
    (more : List Glyph) : ∃ mark rest, skipBlanks (part.written ++ more) = .char mark :: rest ∧
      part.bare.written ++ more = .char mark :: rest ∧ mark ≠ ']' := by
  obtain ⟨mark, letters, text, visible⟩ := value.visible
  simp only [List.mem_cons, not_or] at visible
  refine ⟨mark, letters ++ (part.after ++ more), ?_, by simp [written, bare, text], visible.1⟩
  rw [written, List.append_assoc, skipBlanks_gap part.gapBefore, text]
  simpa using skipBlanks_of_visible visible.2 (letters ++ (part.after ++ more))

theorem Member.fromKey_append (member : Member) (more : List Glyph) :
    member.fromKey ++ more = member.key ++ .char '"' ::
      (member.after ++ .char ':' :: (member.value.written ++ more)) := by
  simp [fromKey]

theorem Member.skipBlanks_after (member : Member) (more : List Glyph) :
    skipBlanks (member.after ++ .char ':' :: more) = .char ':' :: more := by
  rw [skipBlanks_gap member.gapAfter]
  exact skipBlanks_of_visible (by decide) more

theorem Member.skipBlanks_written (member : Member) (more : List Glyph) :
    skipBlanks (member.written ++ more) = .char '"' :: (member.fromKey ++ more) := by
  rw [written, List.append_assoc, skipBlanks_gap member.gapBefore]
  exact skipBlanks_of_visible (by decide) _

/-- A value before a comma or a closing mark is read up to this mark. -/
theorem readNode_padded {item : Padded} (reads : ReadsValue item.text item.node) {close : Char}
    (closes : close = ']' ∨ close = '}') (parts : List (List Glyph)) (rest : List Glyph)
    (fuel : Nat) (enough : 3 * item.text.length ≤ fuel) :
    ∃ after, readNode fuel (item.written ++ moreParts close parts rest) = .done item.node after ∧
      skipBlanks after = moreParts close parts rest := by
  have ends : EndsNumeral (moreParts close parts rest) := by
    cases parts with
    | nil =>
        rcases closes with rfl | rfl
        · exact endsNumeral_bracket rest
        · exact endsNumeral_brace rest
    | cons part parts => exact endsNumeral_comma _
  have visible : skipBlanks (moreParts close parts rest) = moreParts close parts rest := by
    cases parts with
    | nil => rcases closes with rfl | rfl <;> exact skipBlanks_of_visible (by decide) _
    | cons part parts => exact skipBlanks_of_visible (by decide) _
  refine ⟨item.after ++ moreParts close parts rest, ?_, ?_⟩
  · rw [Padded.written, List.append_assoc, List.append_assoc]
    exact reads fuel item.before _ item.gapBefore (fun _ _ => endsNumeral_gap item.gapAfter ends)
      enough
  · rw [skipBlanks_gap item.gapAfter, visible]

section Steps

variable {fuel : Nat} {text after later rest : List Glyph} {node : Node}

theorem readItem_last (read : readNode fuel text = .done node after)
    (closes : skipBlanks after = .char ']' :: rest) :
    readItem (fuel + 1) text = ⟨[node], .ok rest⟩ := by
  simp only [readItem, read, closes]
  rfl

theorem readItem_more {first : Char} (read : readNode fuel text = .done node after)
    (comma : skipBlanks after = .char ',' :: later)
    (opens : skipBlanks later = .char first :: rest) (noEnd : first ≠ ']') :
    readItem (fuel + 1) text = .cons node (readItem fuel (.char first :: rest)) := by
  simp only [readItem, read, comma, opens]
  split <;> simp_all

theorem readMember_last {key between : List Glyph} {pieces : List Piece}
    (inside : Inside key pieces) (colon : skipBlanks between = .char ':' :: text)
    (read : readNode fuel text = .done node after)
    (closes : skipBlanks after = .char '}' :: rest) :
    readMember (fuel + 1) (key ++ .char '"' :: between) =
      ⟨[(.scalar (spelled pieces), node)], .ok rest⟩ := by
  simp only [readMember, inside.readString, colon, read, closes]
  rfl

theorem readMember_more {key between : List Glyph} {pieces : List Piece}
    (inside : Inside key pieces) (colon : skipBlanks between = .char ':' :: text)
    (read : readNode fuel text = .done node after)
    (comma : skipBlanks after = .char ',' :: later)
    (opens : skipBlanks later = .char '"' :: rest) :
    readMember (fuel + 1) (key ++ .char '"' :: between) =
      .cons (.scalar (spelled pieces), node) (readMember fuel rest) := by
  simp only [readMember, inside.readString, colon, read, comma, opens]

end Steps

/-- The items of a list are read up to its closing mark. -/
theorem readItem_written {first : Padded} {others : List Padded}
    (here : ReadsValue first.text first.node)
    (later : ∀ item ∈ others, Value item.text item.node ∧ ReadsValue item.text item.node)
    (fuel : Nat) (rest : List Glyph)
    (enough : 3 * (first.written ++ moreParts ']' (others.map Padded.written) []).length < fuel) :
    readItem fuel (first.written ++ moreParts ']' (others.map Padded.written) rest) =
      ⟨(first :: others).map Padded.node, .ok rest⟩ := by
  obtain ⟨fuel, rfl⟩ := Nat.exists_eq_add_one_of_ne_zero (Nat.ne_zero_of_lt enough)
  induction others generalizing first fuel with
  | nil =>
      simp only [Padded.written, List.length_append] at enough
      obtain ⟨after, read, closes⟩ := readNode_padded here (.inl rfl) [] rest fuel
        (by omega)
      exact readItem_last read closes
  | cons next others induction =>
      obtain ⟨⟨isValue, readsNext⟩, later⟩ := List.forall_mem_cons.mp later
      simp only [List.map_cons, moreParts_cons, Padded.written, List.length_append,
        List.length_cons] at enough
      obtain ⟨after, read, comma⟩ := readNode_padded here (.inl rfl)
        ((next :: others).map Padded.written) rest fuel (by omega)
      -- The reader skips the blanks before the next item on its own, before it reads the item.
      obtain ⟨fuel, rfl⟩ := Nat.exists_eq_add_one_of_ne_zero (n := fuel) (by omega)
      have bareReads : ReadsValue next.bare.text next.bare.node := readsNext
      have more := induction bareReads later fuel (by
        simp only [Padded.written, Padded.bare, List.length_append, List.length_nil]
        omega)
      obtain ⟨mark, letters, opens, text, visible⟩ := Padded.skipBlanks_written isValue
        (moreParts ']' (others.map Padded.written) rest)
      rw [List.map_cons, moreParts_cons] at comma
      rw [text] at more
      exact (readItem_more read comma opens visible).trans (congrArg (Parts.cons _) more)

/-- The members of a table are read up to its closing mark, from the first key on. -/
theorem readMember_written {first : Member} {others : List Member}
    (reads : ∀ member ∈ first :: others, ReadsValue member.value.text member.value.node)
    (fuel : Nat) (rest : List Glyph)
    (enough : 3 * (first.fromKey ++ moreParts '}' (others.map Member.written) []).length < fuel) :
    readMember fuel (first.fromKey ++ moreParts '}' (others.map Member.written) rest) =
      ⟨(first :: others).map Member.node, .ok rest⟩ := by
  obtain ⟨fuel, rfl⟩ := Nat.exists_eq_add_one_of_ne_zero (Nat.ne_zero_of_lt enough)
  rw [Member.fromKey_append]
  induction others generalizing first fuel with
  | nil =>
      simp only [Member.fromKey, Padded.written, List.length_append, List.length_cons] at enough
      obtain ⟨after, read, closes⟩ := readNode_padded
        (reads first List.mem_cons_self) (.inr rfl) [] rest fuel (by omega)
      exact readMember_last first.inside (first.skipBlanks_after _) read closes
  | cons next others induction =>
      obtain ⟨here, later⟩ := List.forall_mem_cons.mp reads
      simp only [List.map_cons, moreParts_cons, Member.written, Member.fromKey, Padded.written,
        List.length_append, List.length_cons] at enough
      obtain ⟨after, read, comma⟩ := readNode_padded here (.inr rfl)
        ((next :: others).map Member.written) rest fuel (by omega)
      obtain ⟨fuel, rfl⟩ := Nat.exists_eq_add_one_of_ne_zero (n := fuel) (by omega)
      have more := induction later fuel (by
        simp only [Member.fromKey, Padded.written, List.length_append, List.length_cons]
        omega)
      rw [List.map_cons, moreParts_cons] at comma
      rw [← Member.fromKey_append] at more
      exact (readMember_more first.inside (first.skipBlanks_after _) read comma
        (next.skipBlanks_written _)).trans (congrArg (Parts.cons _) more)

theorem readItems_written {items : List Padded} {inside : List Glyph}
    (separated : Separated (items.map Padded.written) inside)
    (values : ∀ item ∈ items, Value item.text item.node ∧ ReadsValue item.text item.node)
    (fuel : Nat) (rest : List Glyph) (enough : 3 * (inside.length + 1) < fuel) :
    readItems (fuel + 1) (inside ++ .char ']' :: rest) = ⟨items.map Padded.node, .ok rest⟩ := by
  cases items with
  | nil =>
      cases separated with
      | none blank =>
          rw [readItems, skipBlanks_gap blank]
          rfl
  | cons first others =>
      cases separated with
      | some =>
          obtain ⟨⟨isValue, here⟩, later⟩ := List.forall_mem_cons.mp values
          obtain ⟨mark, letters, opens, text, visible⟩ := Padded.skipBlanks_written isValue
            (moreParts ']' (others.map Padded.written) rest)
          have bareReads : ReadsValue first.bare.text first.bare.node := here
          have read := readItem_written bareReads later fuel rest (by
            simp only [moreParts, Padded.written, Padded.bare, List.length_append, List.length_cons,
              List.length_nil] at enough ⊢
            omega)
          rw [List.append_assoc]
          show readItems (fuel + 1)
            (first.written ++ moreParts ']' (others.map Padded.written) rest) = _
          rw [text] at read
          rw [readItems, opens]
          split <;> simp_all [Padded.bare]

theorem readMembers_written {members : List Member} {inside : List Glyph}
    (separated : Separated (members.map Member.written) inside)
    (reads : ∀ member ∈ members, ReadsValue member.value.text member.value.node)
    (fuel : Nat) (rest : List Glyph) (enough : 3 * (inside.length + 1) < fuel) :
    readMembers (fuel + 1) (inside ++ .char '}' :: rest) =
      ⟨members.map Member.node, .ok rest⟩ := by
  cases members with
  | nil =>
      cases separated with
      | none blank =>
          rw [readMembers, skipBlanks_gap blank]
          rfl
  | cons first others =>
      cases separated with
      | some =>
          have read := readMember_written reads fuel rest (by
            simp only [moreParts, Member.written, List.length_append, List.length_cons,
              List.length_nil] at enough ⊢
            omega)
          rw [List.append_assoc]
          show readMembers (fuel + 1)
            (first.written ++ moreParts '}' (others.map Member.written) rest) = _
          rw [readMembers, first.skipBlanks_written]
          exact read

theorem readNode_of_scalar {first : Char} {rest after : List Glyph} {scalar : Scalar}
    (plain : first ∉ '[' :: '{' :: blanks) (read : readScalar first rest = .ok (scalar, after))
    (fuel : Nat) : readNode (fuel + 1) (.char first :: rest) = .done (.scalar scalar) after := by
  simp only [List.mem_cons, not_or] at plain
  rw [readNode, skipBlanks_of_visible plain.2.2]
  split <;> simp_all

theorem readNode_gap {gap : List Glyph} (blank : Gap gap) (fuel : Nat) (text : List Glyph) :
    readNode fuel (gap ++ text) = readNode fuel text := by
  cases fuel with
  | zero => rfl
  | succ fuel => rw [readNode, readNode, skipBlanks_gap blank]

/-- A value is read from its text, whatever follows it. -/
theorem Value.reads {text : List Glyph} {node : Node} (value : Value text node) :
    ReadsValue text node := by
  induction value with
  | scalar token =>
      intro fuel gap rest blank ends enough
      obtain ⟨first, more, rfl, visible, read⟩ := token.readScalar (ends _ rfl)
      simp only [List.length_cons] at enough
      obtain ⟨fuel, rfl⟩ := Nat.exists_eq_add_one_of_ne_zero (n := fuel) (by omega)
      rw [readNode_gap blank]
      exact readNode_of_scalar (List.not_mem_of_not_mem_cons visible) read fuel
  | @list inside items separated values induction =>
      intro fuel gap rest blank _ enough
      simp only [List.length_cons, List.length_append, List.length_nil] at enough
      obtain ⟨fuel, rfl⟩ := Nat.exists_eq_add_of_le' (show 2 ≤ fuel by omega)
      have read := readItems_written separated
        (fun item member => ⟨values item member, induction item member⟩) fuel rest (by omega)
      rw [readNode_gap blank, List.append_assoc, List.cons_append, List.singleton_append, readNode,
        skipBlanks_of_visible (by decide)]
      show (readItems (fuel + 1) (inside ++ .char ']' :: rest)).finish .list = _
      rw [read]
      rfl
  | @table inside members separated values induction =>
      intro fuel gap rest blank _ enough
      simp only [List.length_cons, List.length_append, List.length_nil] at enough
      obtain ⟨fuel, rfl⟩ := Nat.exists_eq_add_of_le' (show 2 ≤ fuel by omega)
      have read := readMembers_written separated induction fuel rest (by omega)
      rw [readNode_gap blank, List.append_assoc, List.cons_append, List.singleton_append, readNode,
        skipBlanks_of_visible (by decide)]
      show (readMembers (fuel + 1) (inside ++ .char '}' :: rest)).finish .table = _
      rw [read]
      rfl

end ApiCatalog.Json
