import ApiCatalog.Yaml.Layout

/-!
# Trees

The tree that the tokens of the first document of a text describe. Where they break off, or do not fit
together, the tree breaks off.
-/

namespace ApiCatalog.Yaml

/-- What has been read of a document. -/
structure Reader where
  /-- The tokens that are left. -/
  tokens : List Token
  /-- What the handles of tags stand for. -/
  handles : Handles := Handles.common
  /-- The number that each anchor name refers to. -/
  names : List (String × Nat) := []
  /-- The nodes with anchors, in the order in which they start. -/
  anchors : List (Nat × Node) := []

/-- A place where the text cannot be read on. -/
def brokenOff : Break :=
  Break.ofFault .malformed

/-- What stands where nothing is written. -/
def emptyWord : Node :=
  .scalar (.word "" .plain none)

/-- The outcome of reading a node. -/
inductive Outcome where
  /-- The node is there. -/
  | whole (node : Node) (after : Reader)
  /-- The node breaks off. -/
  | cut (node : Node) (after : Reader)
  /-- The text breaks off before the node. -/
  | missing (after : Reader)

/-- The parts of a list or table, its ending, and what is left. -/
structure Parts (α : Type) where
  /-- The parts. -/
  parts : List α
  /-- The ending. -/
  ending : Ending
  /-- What has been read. -/
  after : Reader

namespace Parts

variable {α : Type}

/-- No parts before the closing mark. -/
def closed (after : Reader) : Parts α :=
  ⟨[], .closed, after⟩

/-- No parts before the text breaks off. -/
def cut (after : Reader) : Parts α :=
  ⟨[], .cut brokenOff, after⟩

/-- A last part that breaks off. -/
def last (part : α) (after : Reader) : Parts α :=
  ⟨[part], .unreached, after⟩

/-- A part and those that follow it. -/
def cons (part : α) (rest : Parts α) : Parts α :=
  { rest with parts := part :: rest.parts }

/-- An item and those that follow it. -/
def item (outcome : Outcome) (rest : Reader → Parts Node) : Parts Node :=
  match outcome with
  | .whole node after => cons node (rest after)
  | .cut node after => last node after
  | .missing after => cut after

/-- A member and those that follow it. -/
def member (key : Outcome) (value : Reader → Outcome) (rest : Reader → Parts (Node × Node)) :
    Parts (Node × Node) :=
  match key with
  | .missing after => cut after
  | .cut key after => last (key, .broken brokenOff) after
  | .whole key after =>
      match value after with
      | .missing after => last (key, .broken brokenOff) after
      | .cut value after => last (key, value) after
      | .whole value after => cons (key, value) (rest after)

/-- The outcome for a node that is made of parts. -/
def outcome (make : List α → Ending → Node) (parts : Parts α) : Outcome :=
  let node := make parts.parts parts.ending
  match parts.ending with
  | .closed => .whole node parts.after
  | _ => .cut node parts.after

end Parts

/-- Changes the node of an outcome and what has been read. -/
def Outcome.map (node : Node → Node) (after : Node → Reader → Reader) : Outcome → Outcome
  | .whole old reader => .whole (node old) (after old reader)
  | .cut old reader => .cut (node old) (after old reader)
  | .missing reader => .missing reader

/-- What stands before a node: an anchor and a tag. -/
structure Properties where
  /-- The anchor. -/
  anchor : Option String := none
  /-- The tag. -/
  tag : Option TagText := none
  deriving DecidableEq, Repr

/-- Where a node stands. -/
inductive Context where
  /-- In a flow collection. -/
  | flow
  /-- In a block. -/
  | block
  /-- In a block table, whose lists need not be indented. -/
  | member
  deriving DecidableEq, Repr

namespace Reader

/-- The reader after a token. -/
def drop (reader : Reader) : Reader :=
  { reader with tokens := reader.tokens.drop 1 }

/-- Whether one of some tokens is next. -/
def sees (reader : Reader) (tokens : List Token) : Bool :=
  reader.tokens.head?.any tokens.contains

/-- Whether a tag can be expanded. -/
def expand? (reader : Reader) : Option WrittenTag → Option (Option TagText)
  | none => some none
  | some tag => (tag.expand? reader.handles).map some

/-- The anchor and the tag that stand before a node, in either order. -/
def readProperties? (reader : Reader) : Option (Properties × Reader) := do
  let (anchor, tag, count) : Option String × Option WrittenTag × Nat :=
    match reader.tokens with
    | .anchor name :: .tag tag :: _ => (some name, some tag, 2)
    | .tag tag :: .anchor name :: _ => (some name, some tag, 2)
    | .anchor name :: _ => (some name, none, 1)
    | .tag tag :: _ => (none, some tag, 1)
    | _ => (none, none, 0)
  return (⟨anchor, ← reader.expand? tag⟩, { reader with tokens := reader.tokens.drop count })

/-- Notes that a node with an anchor starts. Its number is that of the names before it. -/
def openAnchor (name : String) (reader : Reader) : Reader :=
  let number := reader.names.length
  { reader with
    names := (name, number) :: reader.names.filter fun other => other.1 != name
    anchors := reader.anchors ++ [(number, .broken brokenOff)] }

/-- Notes the node of the anchor at a position. -/
def setAnchor (position : Nat) (node : Node) (reader : Reader) : Reader :=
  { reader with anchors := reader.anchors.modify position fun anchor => (anchor.1, node) }

/-- Reads a node with an anchor, if it has one. -/
def withAnchor (properties : Properties) (reader : Reader) (read : Reader → Outcome) : Outcome :=
  match properties.anchor with
  | none => read reader
  | some name =>
      (read (reader.openAnchor name)).map id fun node after =>
        after.setAnchor reader.anchors.length node

/-- Reads a list or table with an anchor and a tag, if it has any. -/
def withProperties (properties : Properties) (reader : Reader) (read : Reader → Outcome) :
    Outcome :=
  let mark (node : Node) : Node :=
    if properties.tag.map TagText.type = some .application then .tagged node else node
  withAnchor properties reader fun reader => (read reader).map mark fun _ after => after

/-- Nothing written where a node may stand. -/
def leave (reader : Reader) : Outcome :=
  .whole emptyWord reader

mutual

/-- Reads a node. -/
def readNode : Nat → Context → Reader → Outcome
  | 0, _, reader => .missing reader
  | fuel + 1, context, reader =>
      match reader.tokens with
      | .alias name :: _ =>
          match reader.names.lookup name with
          | some number => .whole (.alias number) reader.drop
          | none => .missing reader
      | _ =>
          match reader.readProperties? with
          | none => .missing reader
          | some (properties, next) => readContent fuel context properties next

/-- Reads a node after its anchor and its tag. -/
def readContent : Nat → Context → Properties → Reader → Outcome
  | 0, _, _, reader => .missing reader
  | fuel + 1, context, properties, reader =>
      let collect (read : Reader → Outcome) : Outcome := reader.withProperties properties read
      let word (content : String) (style : Style) (tag : Option TagText) (after : Reader) :
          Outcome :=
        after.withAnchor properties fun after =>
          .whole (.scalar (.word content style (tag.map TagText.type))) after
      let absent : Outcome :=
        if properties = {} then .missing reader else word "" .plain properties.tag reader
      match reader.tokens with
      | .word content style :: _ =>
          let bare := properties.tag = some (Text.encode ['!'])
          word content style (if bare then none else properties.tag) reader.drop
      | .flowListStart :: _ =>
          collect fun reader => (readFlowItems fuel true reader.drop).outcome Node.list
      | .flowTableStart :: _ =>
          collect fun reader => (readFlowMembers fuel true reader.drop).outcome Node.table
      | .blockListStart :: _ =>
          if context = .flow then absent
          else collect fun reader => (readBlockItems fuel reader.drop).outcome Node.list
      | .blockTableStart :: _ =>
          if context = .flow then absent
          else collect fun reader => (readBlockMembers fuel reader.drop).outcome Node.table
      | .blockEntry :: _ =>
          if context = .member then
            collect fun reader => (readOpenItems fuel reader).outcome Node.list
          else absent
      | _ => absent

/-- Reads the items of an indented list. -/
def readBlockItems : Nat → Reader → Parts Node
  | 0, reader => .cut reader
  | fuel + 1, reader =>
      if reader.sees [.blockEntry] then
        let next := reader.drop
        let outcome :=
          if next.sees [.blockEntry, .blockEnd] then next.leave else readNode fuel .block next
        .item outcome (readBlockItems fuel)
      else if reader.sees [.blockEnd] then .closed reader.drop
      else .cut reader

/-- Reads the items of a list that is not indented and ends before another token. -/
def readOpenItems : Nat → Reader → Parts Node
  | 0, reader => .cut reader
  | fuel + 1, reader =>
      if reader.sees [.blockEntry] then
        let next := reader.drop
        let outcome :=
          if next.sees [.blockEntry, .key, .value, .blockEnd] then next.leave
          else readNode fuel .block next
        .item outcome (readOpenItems fuel)
      else if reader.tokens.isEmpty then .cut reader
      else .closed reader

/-- Reads the members of an indented table. -/
def readBlockMembers : Nat → Reader → Parts (Node × Node)
  | 0, reader => .cut reader
  | fuel + 1, reader =>
      if reader.sees [.key] then
        .member (readBlockPart fuel reader.drop) (readBlockValue fuel) (readBlockMembers fuel)
      else if reader.sees [.blockEnd] then .closed reader.drop
      else .cut reader

/-- Reads the value of a member of an indented table. -/
def readBlockValue : Nat → Reader → Outcome
  | 0, reader => .missing reader
  | fuel + 1, reader =>
      if reader.sees [.value] then readBlockPart fuel reader.drop
      else if reader.tokens.isEmpty then .missing reader
      else reader.leave

/-- Reads a key or a value in an indented table, after its mark. -/
def readBlockPart : Nat → Reader → Outcome
  | 0, reader => .missing reader
  | fuel + 1, reader =>
      if reader.sees [.key, .value, .blockEnd] then reader.leave
      else readNode fuel .member reader

/-- Reads the items of a list between brackets. A comma stands before every item but the first. -/
def readFlowItems : Nat → Bool → Reader → Parts Node
  | 0, _, reader => .cut reader
  | fuel + 1, first, reader =>
      if reader.sees [.flowListEnd] then .closed reader.drop
      else if first || reader.sees [.flowEntry] then
        let next := if first then reader else reader.drop
        if next.sees [.flowListEnd] then .closed next.drop
        else
          let outcome :=
            if next.sees [.key] then readFlowPair fuel next.drop else readNode fuel .flow next
          .item outcome (readFlowItems fuel false)
      else .cut reader

/-- Reads a table of one member that is an item between brackets. A mark in place of its key is
lost. -/
def readFlowPair : Nat → Reader → Outcome
  | 0, reader => .missing reader
  | fuel + 1, reader =>
      let key :=
        if reader.sees [.value, .flowEntry, .flowListEnd] then reader.drop.leave
        else readNode fuel .flow reader
      (Parts.member key (readFlowValue fuel .flowListEnd) fun after =>
        if after.tokens.isEmpty then .cut after else .closed after).outcome Node.table

/-- Reads the members of a table between braces. A comma stands before every member but the first. -/
def readFlowMembers : Nat → Bool → Reader → Parts (Node × Node)
  | 0, _, reader => .cut reader
  | fuel + 1, first, reader =>
      if reader.sees [.flowTableEnd] then .closed reader.drop
      else if first || reader.sees [.flowEntry] then
        let next := if first then reader else reader.drop
        if next.sees [.flowTableEnd] then .closed next.drop
        else if next.sees [.key] then
          .member (readFlowPart fuel next.drop) (readFlowValue fuel .flowTableEnd)
            (readFlowMembers fuel false)
        else
          .member (readNode fuel .flow next)
            (fun after => if after.tokens.isEmpty then .missing after else after.leave)
            (readFlowMembers fuel false)
      else .cut reader

/-- Reads the value of a member between brackets or braces, of which the closing one is given. -/
def readFlowValue : Nat → Token → Reader → Outcome
  | 0, _, reader => .missing reader
  | fuel + 1, closing, reader =>
      if reader.sees [.value] then
        let next := reader.drop
        if next.sees [.flowEntry, closing] then next.leave
        else readNode fuel .flow next
      else if reader.tokens.isEmpty then .missing reader
      else reader.leave

/-- Reads a key between braces, after its mark. -/
def readFlowPart : Nat → Reader → Outcome
  | 0, reader => .missing reader
  | fuel + 1, reader =>
      if reader.sees [.value, .flowEntry, .flowTableEnd] then reader.leave
      else readNode fuel .flow reader

end

/-! ## Documents -/

/-- Notes what the directives before a document say. Each may be given once, and only the first
version of the format is understood. -/
def readDirectives? : Bool → List (String × TagText) → List Token → Option (Handles × List Token)
  | versioned, handles, .directive (.version major minor) :: rest =>
      if versioned || major ≠ 1 || (minor ≠ 1 && minor ≠ 2) then none
      else readDirectives? true handles rest
  | versioned, handles, .directive (.handle name expansion) :: rest =>
      if (handles.lookup name).isSome then none
      else readDirectives? versioned ((name, expansion) :: handles) rest
  | _, handles, rest => some (handles ++ Handles.common, rest)

/-- Reads the content of a document. After the mark of its start there need not be any. -/
def readDocument (reader : Reader) : Outcome :=
  let readRoot (reader : Reader) : Outcome := readNode (4 * reader.tokens.length + 4) .block reader
  match reader.tokens with
  | .streamEnd :: _ => reader.leave
  | .directive _ :: _ | .documentStart :: _ =>
      match readDirectives? false [] reader.tokens with
      | some (handles, .documentStart :: rest) =>
          let next : Reader := { tokens := rest, handles }
          match rest with
          | .directive _ :: _ | .documentStart :: _ | .documentEnd :: _ | .streamEnd :: _ =>
              next.leave
          | _ => readRoot next
      | _ => .missing reader
  | _ => readRoot reader

end Reader

/-- The first document of a text. -/
structure Stream where
  /-- The tree of the document. -/
  node : Node
  /-- The nodes that aliases refer to, the latest first. -/
  anchors : List (Nat × Node)
  /-- Whether the text can be read to its end and holds no other document. -/
  isComplete : Bool

/-- The first document that tokens describe. -/
def Stream.ofTokens (tokens : List Token) : Stream :=
  let endsHere (after : Reader) : Bool :=
    (after.tokens.dropWhile (· == .documentEnd)).head? == some .streamEnd
  match Reader.readDocument { tokens } with
  | .whole node after => ⟨node, after.anchors.reverse, endsHere after⟩
  | .cut node after => ⟨node, after.anchors.reverse, false⟩
  | .missing after => ⟨.broken brokenOff, after.anchors.reverse, false⟩

end ApiCatalog.Yaml
