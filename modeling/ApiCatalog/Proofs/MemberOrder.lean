import ApiCatalog.Proofs.LeadingValues
import ApiCatalog.Proofs.RecordParts
import Mathlib.Logic.Relation

/-!
# The order of members

The members of a record may stand in any order, with unknown members between them, wherever the
record stands in a text. The members of a map may stand in any order too, and then its entries are
in that order and nothing else changes. Both are changes of one part of a tree: what is read changes
in the same part only, by `TreesAt.read`.
-/

namespace ApiCatalog

open Decoder Json

/-! ## One part of a tree -/

/-- Two trees differ in one part only, at the end of a path through records, lists and maps. The
maps on the path repeat no key. -/
inductive TreesAt (change : Shape → Node → Node → Prop) : Shape → List Step → Node → Node → Prop
  | here {shape : Shape} {node other : Node} : change shape node other →
      TreesAt change shape [] node other
  | member {kind : RecordKind} {slot : Slot kind} {path : List Step} {node other : Node}
      (before after : List (String × Node)) : slot ∈ kind.slots →
      TreesAt change slot.shape path node other →
      TreesAt change (.record kind) (.key slot.name :: path)
        (namedTable (before ++ (slot.name, node) :: after))
        (namedTable (before ++ (slot.name, other) :: after))
  | position {kind : RecordKind} {slot : Slot kind} {path : List Step} {node other : Node}
      (before after : List Node) : slot ∈ kind.slots →
      kind.names[before.length]? = some slot.name →
      TreesAt change slot.shape path node other →
      TreesAt change (.record kind) (.key slot.name :: path) (closedList (before ++ node :: after))
        (closedList (before ++ other :: after))
  | item {kind : RecordKind} {path : List Step} {node other : Node} (before after : List Node) :
      TreesAt change (.record kind) path node other →
      TreesAt change (.list kind) (.index before.length :: path)
        (closedList (before ++ node :: after)) (closedList (before ++ other :: after))
  | entry {kind : RecordKind} {path : List Step} {name : String} {node other : Node}
      (before after : List (String × Node)) :
      ((before ++ (name, node) :: after).map Prod.fst).Nodup →
      TreesAt change (.record kind) path node other →
      TreesAt change (.map kind) (.key name :: path) (namedTable (before ++ (name, node) :: after))
        (namedTable (before ++ (name, other) :: after))

/-- Two values differ in one part only, at the end of a path. -/
inductive ContentsAt (change : (shape : Shape) → shape.Content → shape.Content → Prop) :
    (shape : Shape) → List Step → shape.Content → shape.Content → Prop
  | here {shape : Shape} {content other : shape.Content} : change shape content other →
      ContentsAt change shape [] content other
  | member {kind : RecordKind} {slot : Slot kind} {path : List Step}
      {part other : slot.shape.Content} (record : kind.Record) : slot ∈ kind.slots →
      ContentsAt change slot.shape path part other →
      ContentsAt change (.record kind) (.key slot.name :: path) (slot.store part record)
        (slot.store other record)
  | item {kind : RecordKind} {path : List Step} {part other : kind.Record}
      (before after : List kind.Record) :
      ContentsAt change (.record kind) path part other →
      ContentsAt change (.list kind) (.index before.length :: path) (before ++ part :: after)
        (before ++ other :: after)
  | entry {kind : RecordKind} {path : List Step} {name : String} {part other : kind.Record}
      {entries others : Entries kind.Record} (before after : List (String × kind.Record)) :
      entries.toList = before ++ (name, part) :: after →
      others.toList = before ++ (name, other) :: after →
      ContentsAt change (.record kind) path part other →
      ContentsAt change (.map kind) (.key name :: path) entries others

section Reading

variable {change : Shape → Node → Node → Prop}
  {changed : (shape : Shape) → shape.Content → shape.Content → Prop}

theorem TreesAt.isCompound {shape : Shape} {path : List Step} {node other : Node}
    (compound : ∀ shape node other, change shape node other → node.IsCompound ∧ other.IsCompound)
    (trees : TreesAt change shape path node other) : node.IsCompound ∧ other.IsCompound := by
  cases trees with
  | here changes => exact compound _ _ _ changes
  | _ => exact ⟨trivial, trivial⟩

/-- The part behind a member is read apart from the other members. -/
theorem exists_of_read_member {kind : RecordKind} {slot : Slot kind} (isSlot : slot ∈ kind.slots)
    {depth : Nat} {before after : List (String × Node)} {node other : Node} {record : kind.Record}
    (compound : node.IsCompound) (otherCompound : other.IsCompound)
    (read : kind.read Json.source depth (namedTable (before ++ (slot.name, node) :: after)) =
      pure record) :
    ∃ below part rest, slot.shape.read Json.source below node = pure part ∧
      slot.store part rest = record ∧
      ∀ otherPart, slot.shape.read Json.source below other = pure otherPart →
        kind.read Json.source depth (namedTable (before ++ (slot.name, other) :: after)) =
          pure (slot.store otherPart rest) := by
  obtain ⟨below, rfl, members⟩ := read_namedTable_eq_pure_iff.mp read
  obtain ⟨field, found, filled⟩ := kind.exists_field_of_slot below slot isSlot
  obtain ⟨_, rest, changes, stored, replace⟩ := exists_of_readMembers (kind.stores below)
    (kind.pairwise_independent below) found members
  obtain ⟨part, read, rfl⟩ := (filled.changes_iff compound).mp changes
  refine ⟨below, part, rest, read, stored, fun otherPart otherRead => ?_⟩
  exact read_namedTable_eq_pure_iff.mpr ⟨below, rfl,
    replace other _ ((filled.changes_iff otherCompound).mpr ⟨otherPart, otherRead, rfl⟩)⟩

/-- The names of the items of a list, up to one of them. -/
theorem zip_append_cons {names : List String} {name : String} {before after : List Node}
    (named : names[before.length]? = some name) (node : Node) :
    names.zip (before ++ node :: after) = (names.take before.length).zip before ++
      (name, node) :: (names.drop (before.length + 1)).zip after := by
  obtain ⟨inside, named⟩ := List.getElem?_eq_some_iff.mp named
  have split : names = names.take before.length ++ name :: names.drop (before.length + 1) := by
    rw [← named, List.getElem_cons_drop, List.take_append_drop]
  have length : (names.take before.length).length = before.length := by
    rw [List.length_take]
    omega
  conv_lhs => rw [split, List.zip_append length, List.zip_cons_cons]

/-- An item of a list is read apart from the other items. -/
theorem exists_of_readList {kind : RecordKind} {depth : Nat} {before after : List Node}
    {node : Node} {records : List kind.Record}
    (read : (Shape.list kind).read Json.source depth (closedList (before ++ node :: after)) =
      pure records) :
    ∃ below first part rest, kind.read Json.source below node = pure part ∧
      records = first ++ part :: rest ∧ before.length = first.length ∧
      ∀ other otherPart, kind.read Json.source below other = pure otherPart →
        (Shape.list kind).read Json.source depth (closedList (before ++ other :: after)) =
          pure (first ++ otherPart :: rest) := by
  obtain ⟨below, rfl, items⟩ := readList_eq_pure_iff.mp read
  obtain ⟨first, _, start, onward, rfl⟩ := forall₂_append_iff.mp items
  obtain ⟨part, rest, partRead, more, rfl⟩ := List.forall₂_cons_left_iff.mp onward
  refine ⟨below, first, part, rest, partRead, rfl, start.length_eq, fun other otherPart read => ?_⟩
  exact readList_eq_pure_iff.mpr ⟨below, rfl, List.rel_append start (.cons read more)⟩

/-- An entry of a map that repeats no key is read apart from the other entries. -/
theorem exists_of_readTable {kind : RecordKind} {depth : Nat} {before after : List (String × Node)}
    {name : String} {node : Node} {entries : Entries kind.Record}
    (distinct : ((before ++ (name, node) :: after).map Prod.fst).Nodup)
    (read : (Shape.map kind).read Json.source depth (namedTable (before ++ (name, node) :: after)) =
      pure entries) :
    ∃ below first part rest, kind.read Json.source below node = pure part ∧
      entries.toList = first ++ (name, part) :: rest ∧
      ∀ other otherPart, kind.read Json.source below other = pure otherPart →
        ∃ others : Entries kind.Record, others.toList = first ++ (name, otherPart) :: rest ∧
          (Shape.map kind).read Json.source depth
            (namedTable (before ++ (name, other) :: after)) = pure others := by
  obtain ⟨below, rfl, members⟩ := (readTable_eq_pure_iff distinct).mp read
  obtain ⟨first, _, start, onward, same⟩ := forall₂_append_iff.mp members
  obtain ⟨⟨written, part⟩, rest, ⟨sameName, partRead⟩, more, rfl⟩ :=
    List.forall₂_cons_left_iff.mp onward
  obtain rfl : written = name := sameName
  refine ⟨below, first, part, rest, partRead, same, fun other otherPart otherRead => ?_⟩
  have otherDistinct : ((first ++ (written, otherPart) :: rest).map Prod.fst).Nodup := by
    have nodup := entries.nodup
    rw [same] at nodup
    rwa [List.map_append, List.map_cons] at nodup ⊢
  refine ⟨⟨_, otherDistinct⟩, rfl, (readTable_eq_pure_iff ?_).mpr ⟨below, rfl, ?_⟩⟩
  · rwa [List.map_append, List.map_cons] at distinct ⊢
  · exact List.rel_append start (.cons ⟨rfl, otherRead⟩ more)

/-- What is read changes in the same part as the tree, if that is so for the part alone. -/
theorem TreesAt.read (compound : ∀ shape node other, change shape node other →
      node.IsCompound ∧ other.IsCompound)
    (reads : ∀ shape depth node other content, change shape node other →
      shape.read Json.source depth node = pure content →
      ∃ otherContent, shape.read Json.source depth other = pure otherContent ∧
        changed shape content otherContent)
    {shape : Shape} {path : List Step} {node other : Node}
    (trees : TreesAt change shape path node other) {depth : Nat} {content : shape.Content}
    (read : shape.read Json.source depth node = pure content) :
    ∃ otherContent, shape.read Json.source depth other = pure otherContent ∧
      ContentsAt changed shape path content otherContent := by
  -- On the path to the part. What stands beside it on the way is read as before.
  induction trees generalizing depth with
  | here changes =>
      obtain ⟨otherContent, otherRead, related⟩ := reads _ depth _ _ content changes read
      exact ⟨otherContent, otherRead, .here related⟩
  | member before after isSlot trees induction =>
      obtain ⟨isCompound, otherCompound⟩ := trees.isCompound compound
      obtain ⟨below, part, rest, partRead, rfl, replace⟩ :=
        exists_of_read_member isSlot isCompound otherCompound read
      obtain ⟨otherPart, otherRead, related⟩ := induction partRead
      exact ⟨_, replace otherPart otherRead, .member rest isSlot related⟩
  | position before after isSlot named trees induction =>
      -- A list of fields is read as the table of the fields with their names.
      obtain ⟨isCompound, otherCompound⟩ := trees.isCompound compound
      obtain ⟨short, tableRead⟩ := read_closedList_eq_pure_iff.mp read
      rw [zip_append_cons named] at tableRead
      obtain ⟨below, part, rest, partRead, rfl, replace⟩ :=
        exists_of_read_member isSlot isCompound otherCompound tableRead
      obtain ⟨otherPart, otherRead, related⟩ := induction partRead
      refine ⟨_, read_closedList_eq_pure_iff.mpr ⟨?_, ?_⟩, .member rest isSlot related⟩
      · simpa using short
      · rw [zip_append_cons named]
        exact replace otherPart otherRead
  | item before after trees induction =>
      obtain ⟨below, first, part, rest, partRead, rfl, sameLength, replace⟩ :=
        exists_of_readList read
      obtain ⟨otherPart, otherRead, related⟩ := induction partRead
      rw [sameLength]
      exact ⟨_, replace _ otherPart otherRead, .item first rest related⟩
  | entry before after distinct trees induction =>
      obtain ⟨below, first, part, rest, partRead, same, replace⟩ :=
        exists_of_readTable distinct read
      obtain ⟨otherPart, otherRead, related⟩ := induction partRead
      obtain ⟨others, otherSame, othersRead⟩ := replace _ otherPart otherRead
      exact ⟨others, othersRead, .entry first rest same otherSame related⟩

end Reading

/-! ## Other orders -/

/-- The members of a record stand in another order, with further members between them. The record
does not know their names, and their values are JSON values. -/
inductive Restated : Shape → Node → Node → Prop
  | members {kind : RecordKind} {members others extra : List (String × Node)} :
      others.Perm (members ++ extra) →
      (∀ member ∈ extra, member.1 ∉ kind.names ∧ ∃ text, Value text member.2) →
      Restated (.record kind) (namedTable members) (namedTable others)

/-- The members of a map stand in another order. No key is repeated. -/
inductive Rearranged (order : List String) : Shape → Node → Node → Prop
  | members {kind : RecordKind} {members others : List (String × Node)} :
      others.Perm members → others.map Prod.fst = order → order.Nodup →
      Rearranged order (.map kind) (namedTable members) (namedTable others)

/-- The entries of a map stand in another order. -/
def EntriesRearranged (order : List String) : (shape : Shape) → shape.Content → shape.Content → Prop
  | .map _, entries, others =>
      others.toList.Perm entries.toList ∧ others.toList.map Prod.fst = order
  | .record _, _, _ | .list _, _, _ => False

theorem Restated.isCompound {shape : Shape} {node other : Node}
    (restated : Restated shape node other) : node.IsCompound ∧ other.IsCompound := by
  cases restated
  exact ⟨trivial, trivial⟩

theorem Rearranged.isCompound {order : List String} {shape : Shape} {node other : Node}
    (rearranged : Rearranged order shape node other) : node.IsCompound ∧ other.IsCompound := by
  cases rearranged
  exact ⟨trivial, trivial⟩

theorem Restated.read {shape : Shape} {node other : Node} (restated : Restated shape node other)
    {depth : Nat} {content : shape.Content}
    (read : shape.read Json.source depth node = pure content) :
    shape.read Json.source depth other = pure content := by
  cases restated with
  | @members kind members others extra perm unknown =>
      obtain ⟨below, rfl, membersRead⟩ := read_namedTable_eq_pure_iff.mp read
      refine read_namedTable_eq_pure_iff.mpr ⟨below, rfl, ?_⟩
      refine readMembers_perm (kind.stores below) (kind.pairwise_independent below) perm
        (fun member present => ?_) membersRead
      obtain ⟨stranger, text, value⟩ := unknown member present
      exact ⟨RecordKind.fieldOf_eq_none stranger, value.skipFault?⟩

theorem Rearranged.read {order : List String} {shape : Shape} {node other : Node}
    (rearranged : Rearranged order shape node other) {depth : Nat} {content : shape.Content}
    (read : shape.read Json.source depth node = pure content) :
    ∃ otherContent, shape.read Json.source depth other = pure otherContent ∧
      EntriesRearranged order shape content otherContent := by
  cases rearranged with
  | @members kind members others perm inOrder distinct =>
      rw [← inOrder] at distinct
      have names := perm.map Prod.fst
      obtain ⟨below, rfl, entries⟩ := (readTable_eq_pure_iff (names.nodup_iff.mp distinct)).mp read
      obtain ⟨entries, reads, permEntries⟩ := List.perm_comp_forall₂ perm entries
      have sameNames := names_of_readsEntry reads
      refine ⟨⟨entries, sameNames ▸ distinct⟩,
        (readTable_eq_pure_iff distinct).mpr ⟨below, rfl, reads⟩, permEntries, ?_⟩
      rw [sameNames, inOrder]

/-- Values that differ nowhere are the same. -/
theorem ContentsAt.eq {shape : Shape} {path : List Step} {content other : shape.Content}
    (contents : ContentsAt (fun _ => Eq) shape path content other) : content = other := by
  induction contents with
  | here same => exact same
  | member record _ _ same => rw [same]
  | item before after _ same => rw [same]
  | @entry kind path name part other entries others before after here there _ same =>
      obtain ⟨entries, _⟩ := entries
      obtain ⟨others, _⟩ := others
      obtain rfl : entries = before ++ (name, part) :: after := here
      obtain rfl : others = before ++ (name, other) :: after := there
      simp only [same]

/-- Two descriptions have the same version. -/
def SameVersion : (shape : Shape) → shape.Content → shape.Content → Prop
  | .record .document, document, other => other.swagger = document.swagger
  | _, _, _ => True

/-- A change of a part keeps the version of the description. -/
theorem ContentsAt.sameVersion {changed : (shape : Shape) → shape.Content → shape.Content → Prop}
    (keeps : ∀ shape content other, changed shape content other → SameVersion shape content other)
    {shape : Shape} {path : List Step} {content other : shape.Content}
    (contents : ContentsAt changed shape path content other) : SameVersion shape content other := by
  cases contents with
  | here changes => exact keeps _ _ _ changes
  | @member kind slot path part other record isSlot _ =>
      cases kind with
      | document =>
          simp only [RecordKind.slots, List.mem_cons, List.not_mem_nil, or_false] at isSlot
          rcases isSlot with rfl | rfl | rfl | rfl | rfl <;> rfl
      | _ => trivial
  | _ => trivial

theorem EntriesRearranged.sameVersion {order : List String} {shape : Shape}
    {content other : shape.Content} (rearranged : EntriesRearranged order shape content other) :
    SameVersion shape content other := by
  cases shape with
  | map => trivial
  | _ => cases rearranged

/-! ## Texts -/

namespace Json

/-- A text starts with a list or a table, after blanks. -/
def Holds (bytes : List UInt8) (node : Node) : Prop :=
  ∃ leading, leading <+: bytes ∧ Leading leading node

theorem Holds.readText {bytes : List UInt8} {node : Node} (holds : Holds bytes node) :
    (readText (Text.glyphs bytes)).node = node := by
  obtain ⟨leading, ⟨rest, rfl⟩, leads⟩ := holds
  rw [leads.readText]
  rfl

/-- The text of a value holds its tree. -/
theorem holds_print {value : Json} (whole : value.Whole)
    (noScalar : ∀ scalar, value.toNode ≠ .scalar scalar) :
    Holds (Text.encode value.print) value.toNode :=
  ⟨_, List.prefix_rfl, [], _, gap_nil, value_print whole, Text.glyphs_encode _, noScalar⟩

end Json

namespace Document

theorem load_eq_ok_iff_of_holds {bytes : List UInt8} {node : Node} (holds : Holds bytes node)
    {document : Document} : load .json bytes = .ok document ↔
      document.swagger = supportedVersion ∧
        (Shape.record .document).read Json.source Json.maxDepth node = pure document := by
  rw [load_eq_ok_iff, holds.readText]
  rfl

/-- The order of members does not matter, nor do unknown members. An accepted text holds a tree, and
every text that holds the tree with restated records, however many of them, is accepted as the same
description. A text that holds the tree with a rearranged map is accepted as the description with the
entries of that map in the other order. -/
theorem load_reordered {bytes : List UInt8} {document : Document}
    (accepted : load .json bytes = .ok document) :
    ∃ node, Holds bytes node ∧ ∀ otherBytes other, Holds otherBytes other →
      (Relation.ReflTransGen
          (fun node other => ∃ path, TreesAt Restated (.record .document) path node other)
          node other →
        load .json otherBytes = .ok document) ∧
      ∀ order path, TreesAt (Rearranged order) (.record .document) path node other →
        ∃ otherDocument, load .json otherBytes = .ok otherDocument ∧
          ContentsAt (EntriesRearranged order) (.record .document) path document otherDocument := by
  obtain ⟨node, rest, read, noScalar⟩ := exists_done accepted
  have holds : Holds bytes node := exists_leading read noScalar
  obtain ⟨version, given⟩ := (load_eq_ok_iff_of_holds holds).mp accepted
  refine ⟨node, holds, fun otherBytes other otherHolds => ⟨fun restated => ?_,
    fun order path rearranged => ?_⟩⟩
  · refine (load_eq_ok_iff_of_holds otherHolds).mpr ⟨version, ?_⟩
    clear otherHolds
    induction restated with
    | refl => exact given
    | tail _ step given =>
        obtain ⟨path, trees⟩ := step
        obtain ⟨otherContent, otherRead, same⟩ := trees.read (fun _ _ _ => Restated.isCompound)
          (fun _ _ _ _ _ restated read => ⟨_, restated.read read, rfl⟩) given
        rwa [same.eq]
  · obtain ⟨otherDocument, otherRead, contents⟩ := rearranged.read
      (fun _ _ _ => Rearranged.isCompound) (fun _ _ _ _ _ rearranged read => rearranged.read read)
      given
    have sameVersion := contents.sameVersion fun _ _ _ => EntriesRearranged.sameVersion
    exact ⟨otherDocument,
      (load_eq_ok_iff_of_holds otherHolds).mpr ⟨sameVersion.trans version, otherRead⟩, contents⟩

/-- A description with some definitions. -/
def defining (definitions : List (String × Json)) : Json :=
  .object [("swagger", .string "2.0"), ("definitions", .object definitions)]

/-- A schema. -/
def titled : Json :=
  .object [("type", .string "object"), ("title", .string "first")]

/-- The same schema in another order, with a member that it does not know. -/
def retitled : Json :=
  .object [("title", .string "first"), ("x-note", .array [.null]), ("type", .string "object")]

theorem treesAt_definitions {change : Shape → Node → Node → Prop} {path : List Step}
    {definitions others : List (String × Json)}
    (trees : TreesAt change (.map .schema) path (Json.object definitions).toNode
      (Json.object others).toNode) :
    TreesAt change (.record .document) (.key "definitions" :: path) (defining definitions).toNode
      (defining others).toNode := by
  have isSlot : (⟨"definitions", .map .schema, fun definitions document =>
      { document with definitions := definitions }⟩ : Slot .document) ∈ RecordKind.document.slots :=
    .tail _ (.tail _ (.head _))
  exact .member [("swagger", nameNode "2.0")] [] isSlot trees

theorem restated_titled : Restated (.record .schema) titled.toNode retitled.toNode := by
  have perm (type title note : String × Node) :
      [title, note, type].Perm ([type, title] ++ [note]) :=
    (List.perm_append_comm : ([title, note] ++ [type]).Perm ([type] ++ [title, note]))
  have note : Value _ (Json.array [.null]).toNode := value_print (by simp)
  have unknown : "x-note" ∉ RecordKind.schema.names := by decide
  exact .members (perm ("type", nameNode "object") ("title", nameNode "first") ("x-note", _))
    (List.forall_mem_singleton.mpr ⟨unknown, _, note⟩)

theorem load_reordered_definitions :
    ∃ document otherDocument,
      load .json (Text.encode (defining [("A", titled), ("B", .object [])]).print) =
        .ok document ∧
      load .json (Text.encode (defining [("A", retitled), ("B", .object [])]).print) =
        .ok document ∧
      load .json (Text.encode (defining [("B", .object []), ("A", titled)]).print) =
        .ok otherDocument ∧
      ContentsAt (EntriesRearranged ["B", "A"]) (.record .document) [.key "definitions"] document
        otherDocument := by
  have accepted : (load .json (Text.encode
      (defining [("A", titled), ("B", .object [])]).print)).isOk = true := by
    decide +kernel
  cases result : load .json (Text.encode (defining [("A", titled), ("B", .object [])]).print) with
  | error failure =>
      rw [result] at accepted
      cases accepted
  | ok document =>
      have holds (definitions : List (String × Json)) (whole : (defining definitions).Whole) :
          Holds (Text.encode (defining definitions).print) (defining definitions).toNode :=
        holds_print whole nofun
      obtain ⟨node, held, reordered⟩ := load_reordered result
      obtain rfl : _ = node :=
        (holds _ (by simp [defining, titled])).readText.symm.trans held.readText
      have entry : TreesAt Restated (.map .schema) [.key "A"]
          (Json.object [("A", titled), ("B", .object [])]).toNode
          (Json.object [("A", retitled), ("B", .object [])]).toNode :=
        .entry [] [("B", namedTable [])] (by decide) (.here restated_titled)
      have swapped : Rearranged ["B", "A"] (.map .schema)
          (Json.object [("A", titled), ("B", .object [])]).toNode
          (Json.object [("B", .object []), ("A", titled)]).toNode :=
        .members (.swap ("A", titled.toNode) ("B", namedTable []) []) rfl (by decide)
      have first := reordered _ _ (holds [("A", retitled), ("B", .object [])]
        (by simp [defining, retitled]))
      have second := reordered _ _ (holds [("B", .object []), ("A", titled)]
        (by simp [defining, titled]))
      obtain ⟨otherDocument, loaded, contents⟩ :=
        second.2 _ _ (treesAt_definitions (.here swapped))
      exact ⟨document, otherDocument, rfl, first.1 (.single ⟨_, treesAt_definitions entry⟩), loaded,
        contents⟩

end Document

end ApiCatalog
