import ApiCatalog.Proofs.JsonGrammar
import ApiCatalog.Proofs.RecordKinds
import ApiCatalog.Proofs.Utf8

/-!
# The leading value of a JSON text

A text is decoded from its leading list or table alone, which is found by the grammar: no shorter
text is accepted, and what follows makes no difference, by `load_leading`. A text that is cut breaks
off the tree that is read from it, and no reader accepts such a tree.
-/

namespace ApiCatalog

namespace Json

open Text

/-- The bytes of a list or a table, after blanks. -/
def Leading (bytes : List UInt8) (node : Node) : Prop :=
  ∃ gap text, Gap gap ∧ Value text node ∧ glyphs bytes = gap ++ text ∧
    ∀ scalar, node ≠ .scalar scalar

/-- A closing mark ends the text of a list or a table. -/
theorem Value.ends {text : List Glyph} {node : Node} (value : Value text node)
    (noScalar : ∀ scalar, node ≠ .scalar scalar) :
    ∃ before close, text = before ++ [.char close] := by
  cases value with
  | scalar => exact absurd rfl (noScalar _)
  | list => exact ⟨_, _, rfl⟩
  | table => exact ⟨_, _, rfl⟩

/-- The reader takes the leading list or table from bytes, whatever follows. -/
theorem Leading.readText {bytes : List UInt8} {node : Node} (leading : Leading bytes node)
    (more : List UInt8) : readText (glyphs (bytes ++ more)) = .done node (glyphs more) := by
  obtain ⟨gap, text, blank, value, written, noScalar⟩ := leading
  obtain ⟨before, close, ends⟩ := value.ends noScalar
  have split : glyphs (bytes ++ more) = gap ++ (text ++ glyphs more) := by
    have last : glyphs bytes = (gap ++ before) ++ [.char close] := by
      rw [written, ends, List.append_assoc]
    rw [glyphs_append last, written, List.append_assoc]
  rw [Json.readText, split]
  refine value.reads _ gap _ blank (fun scalar same => absurd same (noScalar scalar)) ?_
  simp only [List.length_append]
  omega

theorem exists_leading {bytes : List UInt8} {node : Node} {rest : List Glyph}
    (read : readText (glyphs bytes) = .done node rest) (noScalar : ∀ scalar, node ≠ .scalar scalar) :
    ∃ leading, leading <+: bytes ∧ Leading leading node := by
  have describes := describes_readNode (3 * (glyphs bytes).length + 1) (glyphs bytes)
  rw [← readText, read] at describes
  obtain ⟨gap, text, blank, value, written⟩ := describes
  obtain ⟨before, close, rfl⟩ := value.ends noScalar
  have split : glyphs bytes = (gap ++ before) ++ .char close :: rest := by
    rw [written]
    simp
  obtain ⟨first, second, rfl, front⟩ := exists_append_of_glyphsFrom split
  refine ⟨first, List.prefix_append first second, gap, _, blank, value, ?_, noScalar⟩
  have alone := front []
  rw [List.append_nil] at alone
  rw [glyphs, alone, List.append_assoc]
  rfl

/-- No leading list or table is the start of another one. -/
theorem Leading.eq_of_prefix {shorter longer : List UInt8} {node other : Node}
    (leading : Leading shorter node) (leadingToo : Leading longer other)
    (starts : shorter <+: longer) : shorter = longer := by
  obtain ⟨more, rfl⟩ := starts
  have whole := leadingToo.readText []
  rw [List.append_nil, leading.readText, Outcome.done.injEq] at whole
  obtain ⟨_, rfl⟩ := glyphsFrom_eq_nil whole.2
  rw [List.append_nil]

theorem Token.isNothing {text : List Glyph} {scalar : Scalar} (token : Token text scalar) :
    scalar.isNothing = false := by
  cases token <;> rfl

end Json

namespace Document

open Text Json

theorem load_eq_ok_iff {bytes : List UInt8} {document : Document} :
    load .json bytes = .ok document ↔ document.swagger = supportedVersion ∧
      readDocument Json.source Json.maxDepth (Json.readText (glyphs bytes)).node =
        pure document := by
  rw [load, decode, decodeFirst, Outcome.decode]
  constructor
  · intro accepted
    cases result : readDocument Json.source Json.maxDepth (Json.readText (glyphs bytes)).node 0 with
    | error failure =>
        rw [result] at accepted
        cases accepted
    | ok outcome =>
        obtain ⟨other, left⟩ := outcome
        rw [result] at accepted
        change (if other.swagger = supportedVersion then Except.ok other else _) = _ at accepted
        split at accepted
        · obtain rfl := Except.ok.inj accepted
          exact ⟨‹_›, (RecordKind.document.settled_read Json.maxDepth _ _ _ _ result).2⟩
        · cases accepted
  · rintro ⟨version, given⟩
    rw [given]
    exact if_pos version

/-- An accepted text holds a whole list or table. -/
theorem exists_done {bytes : List UInt8} {document : Document}
    (accepted : load .json bytes = .ok document) :
    ∃ node rest, Json.readText (glyphs bytes) = .done node rest ∧
      ∀ scalar, node ≠ .scalar scalar := by
  obtain ⟨_, given⟩ := load_eq_ok_iff.mp accepted
  have describes := describes_readNode (3 * (glyphs bytes).length + 1) (glyphs bytes)
  rw [← Json.readText] at describes
  cases read : Json.readText (glyphs bytes) with
  | cut node =>
      rw [read] at describes given
      have run : readDocument Json.source Json.maxDepth node 0 = .ok (document, 0) := by
        rw [Outcome.node] at given
        rw [given]
        rfl
      exact absurd (RecordKind.document.settled_read Json.maxDepth _ _ _ _ run).1 describes
  | done node rest =>
      rw [read] at describes given
      refine ⟨node, rest, rfl, ?_⟩
      rintro scalar rfl
      obtain ⟨_, text, _, value, _⟩ := describes
      cases value with
      | scalar token =>
          have refused : (pure document : Decoder Document) =
              (Node.scalar scalar).mismatch "struct SwaggerDocument" := by
            rw [← given]
            show (if scalar.isNothing then _ else _) = _
            rw [token.isNothing]
            rfl
          have run : (Node.scalar scalar).mismatch "struct SwaggerDocument" 0 =
              .ok (document, 0) := by
            rw [← refused]
            rfl
          have never : ((Node.scalar scalar).mismatch "struct SwaggerDocument" :
              Decoder Document).Settles False := settles_mismatch _ _
          exact (never _ _ _ run).1

/-- An accepted text has exactly one leading list or table, with blanks before it. Nothing shorter is
accepted, and whatever follows it makes no difference. -/
theorem load_leading {bytes : List UInt8} {document : Document}
    (accepted : load .json bytes = .ok document) :
    ∃ leading, (leading <+: bytes ∧ ∃ node, Leading leading node) ∧
      (∀ other, other <+: bytes → (∃ node, Leading other node) → other = leading) ∧
      (∀ shorter, shorter <+: leading → shorter ≠ leading →
        ∃ failure, load .json shorter = .error failure) ∧
      ∀ more, load .json (leading ++ more) = .ok document := by
  obtain ⟨node, rest, read, noScalar⟩ := exists_done accepted
  obtain ⟨leading, isPrefix, leads⟩ := exists_leading read noScalar
  have unique {other : List UInt8} (otherPrefix : other <+: bytes) {otherNode : Node}
      (otherLeads : Leading other otherNode) : other = leading := by
    rcases List.prefix_or_prefix_of_prefix otherPrefix isPrefix with shorter | longer
    · exact otherLeads.eq_of_prefix leads shorter
    · exact (leads.eq_of_prefix otherLeads longer).symm
  refine ⟨leading, ⟨isPrefix, node, leads⟩, fun other otherPrefix ⟨otherNode, otherLeads⟩ =>
    unique otherPrefix otherLeads, fun shorter starts differs => ?_, fun more => ?_⟩
  · cases result : load .json shorter with
    | error failure => exact ⟨failure, rfl⟩
    | ok other =>
        obtain ⟨otherNode, otherRest, otherRead, otherNoScalar⟩ := exists_done result
        obtain ⟨shortest, shortestStarts, shortestLeads⟩ := exists_leading otherRead otherNoScalar
        obtain rfl := unique ((shortestStarts.trans starts).trans isPrefix) shortestLeads
        exact absurd (starts.eq_of_length_le shortestStarts.length_le) differs
  · rw [load_eq_ok_iff, read] at accepted
    rw [load_eq_ok_iff, leads.readText]
    exact accepted

theorem load_leading_bracket :
    ∃ document leading,
      load .json (encode " \x7b\"swagger\":\"2.0\"\x7d]".toList) = .ok document ∧
        leading <+: encode " \x7b\"swagger\":\"2.0\"\x7d]".toList ∧
        (∃ node, Leading leading node) ∧ ∀ more, load .json (leading ++ more) = .ok document := by
  have accepted : (load .json (encode " \x7b\"swagger\":\"2.0\"\x7d]".toList)).isOk = true := by
    decide +kernel
  cases result : load .json (encode " \x7b\"swagger\":\"2.0\"\x7d]".toList) with
  | error failure =>
      rw [result] at accepted
      cases accepted
  | ok document =>
      obtain ⟨leading, ⟨starts, leads⟩, _, _, extended⟩ := load_leading result
      exact ⟨document, leading, rfl, starts, leads, extended⟩

end Document

end ApiCatalog
