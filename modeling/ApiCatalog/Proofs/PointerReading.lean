import ApiCatalog.Proofs.Circles

/-!
# Two readings of a pointer

A lookup takes a pointer apart and compares its names. The dependencies compare the start of its
text and take the name it ends in. The readings agree on pointers that start like one into the
definitions and hold one more name. With no name more, or with several, such a pointer leads nowhere,
but counts as a reference to the name it ends in. A pointer with another spelling of the same start
leads to a definition, but does not count. `edge_agrees_iff` says when this makes a difference.
-/

namespace ApiCatalog

namespace Pointer

theorem names?_of_prefix {pointer : String}
    (written : "#/definitions/".toList <+: pointer.toList) :
    ∃ rest, names? pointer.toList = some ("definitions".toList :: rest) := by
  obtain ⟨rest, equation⟩ := written
  refine ⟨((Text.splitOn '/' rest).filter (!·.isEmpty)).map decodeSegment, ?_⟩
  rw [← equation]
  rfl

/-- A pointer that starts like one into the definitions names the definition it ends in, or no
place. -/
theorem place_of_prefix {pointer : String}
    (written : "#/definitions/".toList <+: pointer.toList) :
    place pointer = .ok (.definition (targetName pointer)) ∨
      place pointer = .error (.unsupported pointer) := by
  obtain ⟨rest, equation⟩ := names?_of_prefix written
  cases rest with
  | nil => exact Or.inr (by simp [place, equation])
  | cons name more =>
      cases more with
      | nil => exact Or.inl (by simp [place, targetName, equation])
      | cons next others => exact Or.inr (by simp [place, equation])

/-- A pointer leads to the entry of a definition. -/
def LeadsTo (document : Document) (pointer name : String) : Prop :=
  place pointer = .ok (.definition name) ∧
    ∃ schema, lookup document pointer = .ok schema ∧ (name, schema) ∈ document.definitions.toList

theorem leadsTo_iff {document : Document} {pointer name : String}
    (declared : name ∈ document.definitions.toList.map Prod.fst) :
    LeadsTo document pointer name ↔ place pointer = .ok (.definition name) := by
  refine ⟨And.left, fun named => ⟨named, ?_⟩⟩
  obtain ⟨⟨_, schema⟩, member, rfl⟩ := List.mem_map.mp declared
  have found := Entries.find?_eq_some_iff.mpr member
  exact ⟨schema, by simp [lookup, named, schemaAt?, found], member⟩

theorem lookup_eq_unsupported_iff {document : Document} {pointer : String} :
    lookup document pointer = .error (.unsupported pointer) ↔
      place pointer = .error (.unsupported pointer) := by
  cases named : place pointer with
  | error failure => simp [lookup, named]
  | ok place => cases found : schemaAt? document place <;> simp [lookup, named, found]

end Pointer

namespace Document

/-- Some reference inside a definition leads to the entry of another one. -/
def Resolves (document : Document) (source target : String) : Prop :=
  ∃ pointer, document.Mentions source pointer ∧ Pointer.LeadsTo document pointer target

/-- Some reference inside a definition that starts like one into the definitions leads to the entry
of another one. -/
def ResolvesPlainly (document : Document) (source target : String) : Prop :=
  ∃ pointer, document.Mentions source pointer ∧ "#/definitions/".toList <+: pointer.toList ∧
    Pointer.LeadsTo document pointer target

/-- Some reference inside a definition starts like one into the definitions and ends in a name, but
points to a part of the document without named schemas. -/
def Strays (document : Document) (source target : String) : Prop :=
  ∃ pointer, document.Mentions source pointer ∧ "#/definitions/".toList <+: pointer.toList ∧
    Pointer.lookup document pointer = .error (.unsupported pointer) ∧
    Pointer.targetName pointer = target

theorem refers_iff {document : Document} {source target : String}
    (declared : target ∈ document.definitions.toList.map Prod.fst) :
    document.Refers source target ↔
      document.ResolvesPlainly source target ∨ document.Strays source target := by
  constructor
  · rintro ⟨pointer, mentioned, written, rfl⟩
    rcases Pointer.place_of_prefix written with named | unsupported
    · exact Or.inl ⟨pointer, mentioned, written, (Pointer.leadsTo_iff declared).mpr named⟩
    · exact Or.inr ⟨pointer, mentioned, written,
        Pointer.lookup_eq_unsupported_iff.mpr unsupported, rfl⟩
  · rintro (⟨pointer, mentioned, written, named, _⟩ | ⟨pointer, mentioned, written, _, ends⟩)
    · refine ⟨pointer, mentioned, written, ?_⟩
      rcases Pointer.place_of_prefix written with same | unsupported
      · rw [named] at same
        cases same
        rfl
      · rw [named] at unsupported
        cases unsupported
    · exact ⟨pointer, mentioned, written, ends⟩

theorem ResolvesPlainly.resolves {document : Document} {source target : String}
    (plain : document.ResolvesPlainly source target) : document.Resolves source target := by
  obtain ⟨pointer, mentioned, _, leads⟩ := plain
  exact ⟨pointer, mentioned, leads⟩

end Document

namespace Dependencies

/-! ## A definition that only refers -/

/-- The document with one definition, which only refers. -/
def referring (name pointer : String) : Document :=
  { definitions := ⟨[(name, Schema.refer pointer)], List.nodup_singleton name⟩ }

theorem mentions_referring_iff {name pointer source mentioned : String} :
    (referring name pointer).Mentions source mentioned ↔ source = name ∧ mentioned = pointer := by
  simp [Document.mentions_iff, referring, Schema.pointers_refer]

theorem declared_referring (name pointer : String) :
    name ∈ (referring name pointer).definitions.toList.map Prod.fst := by
  simp [referring]

theorem resolves_referring_iff {name pointer : String} :
    (referring name pointer).Resolves name name ↔
      Pointer.place pointer = .ok (.definition name) := by
  simp [Document.Resolves, mentions_referring_iff,
    Pointer.leadsTo_iff (declared_referring name pointer)]

theorem edge_referring_iff {name pointer : String} :
    (ofDocument (referring name pointer)).Edge name name ↔
      "#/definitions/".toList <+: pointer.toList ∧ Pointer.targetName pointer = name := by
  simp [edge_iff_refers, Document.Refers, mentions_referring_iff]

theorem strays_referring_iff {name pointer : String} :
    (referring name pointer).Strays name name ↔ "#/definitions/".toList <+: pointer.toList ∧
      Pointer.place pointer = .error (.unsupported pointer) ∧
      Pointer.targetName pointer = name := by
  simp [Document.Strays, mentions_referring_iff, Pointer.lookup_eq_unsupported_iff]

/-! ## When the readings agree -/

/-- The dependencies have a reference of one definition to another exactly if some reference that
starts like one into the definitions leads there, or strays and ends in its name. Hence they agree
with lookups unless there is no such reference that leads there, and either one strays although no
reference with another spelling leads there, or none strays although one with another spelling leads
there. -/
theorem edge_agrees_iff {document : Document} {source target : String}
    (declared : target ∈ document.definitions.toList.map Prod.fst) :
    ((ofDocument document).Edge source target ↔
      document.ResolvesPlainly source target ∨ document.Strays source target) ∧
    (((ofDocument document).Edge source target ↔ document.Resolves source target) ↔
      document.ResolvesPlainly source target ∨
        (document.Strays source target ↔ document.Resolves source target)) := by
  have edge : (ofDocument document).Edge source target ↔
      document.ResolvesPlainly source target ∨ document.Strays source target :=
    edge_iff_refers.trans (Document.refers_iff declared)
  refine ⟨edge, ?_⟩
  rw [edge]
  by_cases plain : document.ResolvesPlainly source target
  · simp [plain, plain.resolves]
  · simp [plain]

theorem straying_disagrees :
    "Pet" ∈ (referring "Pet" "#/definitions/Owner/properties/Pet").definitions.toList.map Prod.fst ∧
      ¬ ((ofDocument (referring "Pet" "#/definitions/Owner/properties/Pet")).Edge "Pet" "Pet" ↔
        (referring "Pet" "#/definitions/Owner/properties/Pet").Resolves "Pet" "Pet") := by
  have declared := declared_referring "Pet" "#/definitions/Owner/properties/Pet"
  have unresolved :
      ¬ (referring "Pet" "#/definitions/Owner/properties/Pet").Resolves "Pet" "Pet" := by
    rw [resolves_referring_iff]
    decide
  refine ⟨declared, ?_⟩
  rw [(edge_agrees_iff declared).2, strays_referring_iff]
  rintro (plain | same)
  · exact unresolved plain.resolves
  · exact unresolved (same.mp (by decide))

/-- A definition that refers below another one counts as referring to what the reference ends in. A
definition that refers to itself with another spelling does not count as doing so. -/
theorem readings_differ :
    ((ofDocument (referring "Pet" "#/definitions/Owner/properties/Pet")).Edge "Pet" "Pet" ∧
      ¬ (referring "Pet" "#/definitions/Owner/properties/Pet").Resolves "Pet" "Pet") ∧
    (referring "Pet" "#//definitions/Pet").Resolves "Pet" "Pet" ∧
      ¬ (ofDocument (referring "Pet" "#//definitions/Pet")).Edge "Pet" "Pet" := by
  rw [edge_referring_iff, edge_referring_iff, resolves_referring_iff, resolves_referring_iff]
  decide

end Dependencies

end ApiCatalog
