import ApiCatalog.Proofs.ArraySuffix
import ApiCatalog.Proofs.SymbolNames
import ApiCatalog.Proofs.TypeBases
import ApiCatalog.Text.Spellings

/-!
# Checks of items

The check of a list is chosen by the base of its items. It fits the element of the list if it is the
check of that very built-in type, or the one of a declared type that is imported and that the element
is or applies to arguments. The check misses what the base does not show: `fits_iff`.
-/

namespace ApiCatalog

namespace ItemCheck

/-- The built-in types with a check of their own. -/
def checkedTypes : List String :=
  ["string", "number", "boolean"]

/-- The built-in types that are checked as if they were declared. -/
def uncheckedTypes : List String :=
  ["File", "void", "null"]

/-- A check, as it is written, fits the element of a list that imports names. -/
structure Fits (imports : List String) (element check : String) : Prop where
  builtIn : ∀ type ∈ checkedTypes, check = "yup." ++ type ++ "()" → element = type
  named : ∀ type, check = type ++ ".schema" →
    type ∈ imports ∧ (element = type ∨ ∃ arguments, element = type ++ "<" ++ arguments ++ ">")
  otherwise : (∀ type ∈ checkedTypes, check ≠ "yup." ++ type ++ "()") →
    (∀ type, check ≠ type ++ ".schema") → check = "yup.mixed()"

section

variable {imports : List String} {element base : String}

theorem schema_ne_call (name called : String) : name ++ ".schema" ≠ called ++ "()" := by
  intro same
  have lasts := congrArg (fun text => text.toList.getLast?) same
  simp at lasts

theorem fits_mixed : Fits imports element mixed.render where
  builtIn type member same := by
    exfalso
    revert same
    revert type
    decide
  named type same := absurd same.symm (schema_ne_call type "yup.mixed")
  otherwise _ _ := rfl

theorem fits_primitive_iff (checked : base ∈ checkedTypes) :
    Fits imports element (primitive base).render ↔ element = base := by
  constructor
  · intro fits
    exact fits.builtIn base checked rfl
  · rintro rfl
    refine ⟨fun type _ same => ?_, fun type same => ?_, fun different _ => ?_⟩
    · exact (String.append_right_inj _).mp ((String.append_left_inj _).mp same)
    · exact absurd same.symm (schema_ne_call type _)
    · exact absurd rfl (different _ checked)

theorem fits_named_iff :
    Fits imports element (named base).render ↔
      base ∈ imports ∧ (element = base ∨ ∃ arguments, element = base ++ "<" ++ arguments ++ ">") := by
  constructor
  · intro fits
    exact fits.named base rfl
  · intro fit
    refine ⟨fun type _ same => ?_, fun type same => ?_, fun _ different => ?_⟩
    · exact absurd same (schema_ne_call base _)
    · rwa [← (String.append_left_inj _).mp same]
    · exact absurd rfl (different base)

theorem ofBase_of_checked (checked : base ∈ checkedTypes) : ofBase base = primitive base :=
  if_pos (List.contains_iff_mem.mpr checked)

theorem ofBase_of_not_checked (unchecked : base ∉ checkedTypes) :
    ofBase base =
      if base != "any" && Identifier.isPlain base.toList then named base else mixed :=
  if_neg (mt List.contains_iff_mem.mp unchecked)

/-- A base that is checked as a declared type. -/
structure Declared (base : String) : Prop where
  unchecked : base ∉ checkedTypes
  typed : base ≠ "any"
  plain : Identifier.isPlain base.toList = true

theorem Declared.ofBase_eq (declared : Declared base) : ofBase base = named base := by
  have typed : (base != "any") = true := bne_iff_ne.mpr declared.typed
  rw [ofBase_of_not_checked declared.unchecked, typed, declared.plain]
  rfl

theorem ofBase_cases (base : String) :
    base ∈ checkedTypes ∨ Declared base ∨ ofBase base = mixed := by
  by_cases checked : base ∈ checkedTypes
  · exact .inl checked
  · refine .inr ?_
    rw [ofBase_of_not_checked checked]
    split
    · rename_i named
      obtain ⟨typed, plain⟩ := Bool.and_eq_true_iff.mp named
      exact .inl ⟨checked, bne_iff_ne.mp typed, plain⟩
    · exact .inr rfl

theorem render_ofBase_eq_mixed_iff (base : String) :
    (ofBase base).render = "yup.mixed()" ↔ ofBase base = mixed := by
  refine ⟨fun same => ?_, fun accepts => accepts ▸ rfl⟩
  rcases ofBase_cases base with checked | declared | accepts
  · rw [ofBase_of_checked checked] at same
    revert same
    revert base
    decide
  · rw [declared.ofBase_eq] at same
    exact absurd same (schema_ne_call base "yup.mixed")
  · exact accepts

theorem not_mem_uncheckedTypes (checked : base ∈ checkedTypes) : base ∉ uncheckedTypes := by
  revert checked
  revert base
  decide

end

end ItemCheck

open ItemCheck

/-! ## Types of names -/

namespace TypeExpression

open Text

/-- A base that is checked as a declared type is one, and imported, unless it is built in. -/
theorem base_mem_imports_iff {text : List Char} (declared : Declared (ofCharacters text).base) :
    (ofCharacters text).base ∈ (ofCharacters text).imports ↔
      (ofCharacters text).base ∉ uncheckedTypes := by
  constructor
  · intro imported
    have unlisted := primitive?_of_mem_imports imported
    have listed : ∀ type ∈ uncheckedTypes, primitive? type ≠ none := by decide
    exact fun builtIn => listed _ builtIn unlisted
  · intro fresh
    refine (base_mem_imports text).resolve_right fun builtIn => ?_
    obtain ⟨unchecked, typed, plain⟩ := declared
    have others : ∀ type ∈ "" :: builtIns, type ∈ checkedTypes ∨ type = "any" ∨
        type ∈ uncheckedTypes ∨ Identifier.isPlain type.toList = false := by decide
    rcases others _ builtIn with checked | untyped | unfit | unplain
    · exact unchecked checked
    · exact typed untyped
    · exact fresh unfit
    · exact Bool.false_ne_true (unplain.symm.trans plain)

/-- The check by the base of a name fits its type unless it takes a built-in type for a declared
one, or the name says more than the base. -/
theorem fits_base_iff (text : List Char) :
    Fits (ofCharacters text).imports (ofCharacters text).rendered
        (ofBase (ofCharacters text).base).render ↔
      ofBase (ofCharacters text).base = .mixed ∨ (ofCharacters text).base ∉ uncheckedTypes ∧
        (¬ IsGeneric (trim text) ∨ (ofCharacters text).base ∉ checkedTypes ∧ IsApplied text) := by
  rcases ofBase_cases (ofCharacters text).base with checked | declared | mixed
  · rw [ofBase_of_checked checked, fits_primitive_iff checked, rendered_eq_base_iff]
    simp [checked, not_mem_uncheckedTypes checked]
  · rw [declared.ofBase_eq, fits_named_iff, base_mem_imports_iff declared, rendered_eq_base_iff,
      rendered_eq_applied_iff]
    simp [declared.unchecked]
  · rw [mixed]
    exact iff_of_true fits_mixed (.inl rfl)

end TypeExpression

/-! ## Items in place -/

namespace Enumeration

variable [Transliteration]

/-- Values are texts, which are rendered in quotes, or numbers as they are written. -/
theorem value_cases {symbols : List Symbol} {symbol : Symbol} {literals : List Json}
    (made : symbols = ofLiterals literals ∨ ∃ description, symbols = ofDescription description)
    (member : symbol ∈ symbols) :
    (∃ content, symbol.value = .text content) ∨
      ∃ number : Number, symbol.value = .number (String.ofList number.render) := by
  have listed : symbol.value ∈ symbols.map Symbol.value := List.mem_map_of_mem member
  rcases made with rfl | ⟨description, rfl⟩
  · rw [values_ofLiterals, List.mem_eraseDups] at listed
    obtain ⟨literal, _, stands⟩ := List.mem_filterMap.mp listed
    cases literal with
    | string content => exact .inl ⟨content, (Option.some.inj stands).symm⟩
    | boolean flag =>
        cases flag with
        | true => exact .inl ⟨"true", (Option.some.inj stands).symm⟩
        | false => exact .inl ⟨"false", (Option.some.inj stands).symm⟩
    | number value => exact .inr ⟨value, (Option.some.inj stands).symm⟩
    | null | array | object => cases stands
  · rw [values_ofDescription, List.mem_eraseDups] at listed
    obtain ⟨entry, _, stands⟩ := List.mem_filterMap.mp listed
    obtain ⟨value, _, same⟩ := Option.map_eq_some_iff.mp stands
    exact .inr ⟨.integer value, same.symm⟩

theorem not_isPlain_unionType {schema : Schema} {symbols : List Symbol} {base : String}
    (decided : Resolution.symbols? schema = some (symbols, base)) :
    ¬ Identifier.isPlain (unionType symbols).toList = true := by
  obtain ⟨first, others, rfl⟩ :=
    List.exists_cons_of_ne_nil (Schema.ne_nil_of_symbols? decided)
  have legible := Resolution.legible_of_symbols? decided
  obtain ⟨mark, rest, written, unlike⟩ : ∃ mark rest, first.value.render.toList = mark :: rest ∧
      Identifier.isPlainStart mark = false := by
    rcases value_cases (Resolution.symbols?_cases decided) List.mem_cons_self with
      ⟨content, text⟩ | ⟨number, numeral⟩
    · rw [text]
      exact ⟨'\'', _, TypeText.toList_render_text content, by decide⟩
    · obtain ⟨mark, rest, starts, signed⟩ := number.render_eq_cons
      rw [numeral, Literal.render, String.toList_ofList]
      refine ⟨mark, rest, starts, ?_⟩
      rcases signed with rfl | digit
      · decide
      · have alphanumeric : Identifier.isAlphanumeric mark = true := by
          rw [Identifier.isAlphanumeric, digit, Bool.or_true]
        rw [Identifier.isPlainStart_of_isAlphanumeric alphanumeric, digit, Bool.not_true]
  obtain ⟨more, starts⟩ : ∃ more, (unionType (first :: others)).toList = mark :: more := by
    rw [unionType, legible.toList_intercalate, List.map_cons, List.map_cons,
      Text.intercalate_cons, written]
    exact ⟨_, rfl⟩
  rw [starts, Identifier.isPlain, unlike, Bool.false_and]
  exact Bool.false_ne_true

end Enumeration

namespace Schema

open Resolution TypeExpression Text

section

variable [Transliteration]

/-- Only a declared type that is not generic is written in place as an identifier. -/
theorem declared_of_isPlain {schema : Schema} (inline : schema.reference = none)
    (typed : schema.inlineText ≠ "any")
    (plain : Identifier.isPlain schema.inlineText.toList = true) :
    ∃ type, schema.form = .declared type ∧ ¬ IsGeneric (trim type.toList) := by
  rw [inlineText_of_inline inline] at typed plain
  cases form : schema.form with
  | symbols symbols base =>
      rw [form] at plain
      exact absurd plain (Enumeration.not_isPlain_unionType (form_eq_symbols_iff.mp form))
  | list items =>
      rw [form, Form.text] at plain
      exact absurd plain (Identifier.not_isPlain_of_mem (by simp : ']' ∈ _) (by decide))
  | object properties =>
      rw [form, Form.text, inlineObject] at plain
      refine absurd plain (Identifier.not_isPlain_of_mem (?_ : '{' ∈ _) (by decide))
      split <;> simp
  | declared type =>
      rw [form] at plain
      exact ⟨type, rfl, fun generic => not_isPlain_rendered generic plain⟩
  | unknown =>
      rw [form] at typed
      exact absurd rfl typed

/-- The check by the text of a type in place fits it unless it takes a built-in type for a declared
one. -/
theorem fits_inlineText_iff {schema : Schema} (inline : schema.reference = none) (name : String) :
    Fits (schema.resolveInline name).imports schema.inlineText
        (ofBase schema.inlineText).render ↔
      ofBase schema.inlineText = .mixed ∨ schema.inlineText ∉ uncheckedTypes := by
  rcases ofBase_cases schema.inlineText with checked | declared | mixed
  · rw [ofBase_of_checked checked, fits_primitive_iff checked]
    exact iff_of_true rfl (.inr (not_mem_uncheckedTypes checked))
  · obtain ⟨type, form, whole⟩ := declared_of_isPlain inline declared.typed declared.plain
    have text : schema.inlineText = (ofName type).base := by
      rw [inlineText_of_inline inline, form, Form.text]
      exact rendered_eq_base_iff.mpr whole
    have imports : (schema.resolveInline name).imports = (ofName type).imports := by
      rw [resolveInline_of_inline inline, form]
      rfl
    rw [declared.ofBase_eq, fits_named_iff, imports]
    rw [text, ofName] at declared ⊢
    rw [base_mem_imports_iff declared]
    simp only [true_or, and_true, reduceCtorEq, false_or]
  · rw [mixed]
    exact iff_of_true fits_mixed (.inl rfl)

/-! ## Lists -/

/-- The check of a list fits its element exactly if it accepts everything, or if the base of the
items is no built-in type taken for a declared one and the base shows the whole element: the items
are no reference, or one to a name that is not generic or that stands for a base applied to
arguments, other than a base with a check of its own. -/
theorem fits_iff {schema : Schema} {document : Document} {name rendered base validation : String}
    {template : Option String}
    (list : (schema.resolveIn document name).kind = .array rendered base template validation) :
    ∃ (items : Schema) (element check : String), schema.form = .list items ∧
      rendered = element ++ "[]" ∧
      validation = "yup.array<" ++ name ++ ">().of(" ++ check ++ ")" ∧
      (Fits (schema.resolveIn document name).imports element check ↔
        check = "yup.mixed()" ∨ base ∉ uncheckedTypes ∧
          ∀ pointer, items.reference = some pointer →
            ¬ IsGeneric (trim (Pointer.targetName pointer).toList) ∨
              base ∉ checkedTypes ∧ IsApplied (Pointer.targetName pointer).toList) := by
  rw [resolveIn_eq, resolve_of_form] at list ⊢
  cases form : schema.form with
  | list items =>
      rw [form] at list
      obtain ⟨rfl, rfl, -, rfl⟩ := Kind.array.inj list
      refine ⟨items, _, _, rfl, rfl, rfl, ?_⟩
      rw [render_ofBase_eq_mixed_iff]
      change Fits (items.resolveInline _).imports _ _ ↔ _
      cases refers : items.reference with
      | some pointer =>
          rw [resolveInline_of_reference refers]
          simp only [Option.isSome_some, if_true, Option.some.injEq, forall_eq']
          exact fits_base_iff (Pointer.targetName pointer).toList
      | none =>
          simp only [Option.isSome_none, Bool.false_eq_true, if_false, rendered_resolveInline]
          simpa using fits_inlineText_iff refers _
  | symbols | object | declared | unknown =>
      rw [form] at list
      cases list

end

attribute [local instance] Text.tabulated

/-- A list of references to a definition. -/
def listOf (name : String) : Schema where
  type := some "array"
  items := some (refer ("#/definitions/" ++ name))

theorem isApplied_page : IsApplied "Page[Pet]".toList := by
  have split : split? (trim "Page[Pet]".toList) = some ("Page".toList, "Pet".toList) := by decide
  have single : ¬ Collects "Page".toList := by
    have outer : (ofCharacters "Page".toList).rendered = "Page" := by cbv
    rw [Collects, outer]
    decide
  exact ⟨.base split single (by decide), _, _, split, single⟩

theorem fits_pages :
    ((listOf "Page[Pet]").resolveIn {} "Pages").kind =
        .array ("Page<Pet>" ++ "[]") "Page" (some "Pet")
          ("yup.array<" ++ "Pages" ++ ">().of(" ++ "Page.schema" ++ ")") ∧
      Fits ((listOf "Page[Pet]").resolveIn {} "Pages").imports "Page<Pet>" "Page.schema" := by
  have list : ((listOf "Page[Pet]").resolveIn {} "Pages").kind =
      .array ("Page<Pet>" ++ "[]") "Page" (some "Pet")
        ("yup.array<" ++ "Pages" ++ ">().of(" ++ "Page.schema" ++ ")") := by
    rw [resolveIn_eq]
    cbv
  obtain ⟨items, element, check, form, written, validates, fits⟩ := fits_iff list
  obtain rfl := (String.append_left_inj _).mp written
  obtain rfl := (String.append_right_inj _).mp ((String.append_left_inj _).mp validates)
  obtain rfl : refer "#/definitions/Page[Pet]" = items :=
    Option.some.inj (form_eq_list_iff.mp form).2.2
  refine ⟨list, fits.mpr (.inr ⟨by decide, fun pointer refers => .inr ⟨by decide, ?_⟩⟩)⟩
  have ends : Pointer.targetName pointer = "Page[Pet]" := by
    rw [← Option.some.inj refers]
    cbv
  rw [ends]
  exact isApplied_page

/-- A list of uploads. -/
def uploads : Schema where
  type := some "array"
  items := some { type := some "file" }

/-- The check of a list of lists of pets is that of a pet, and a list of uploads is checked by a
definition that is not imported. -/
theorem rows_and_uploads_misfit :
    ((listOf "List[Pet]").resolveIn {} "Rows").kind =
        .array ("Pet[]" ++ "[]") "Pet" none
          ("yup.array<" ++ "Rows" ++ ">().of(" ++ "Pet.schema" ++ ")") ∧
      ¬ Fits ((listOf "List[Pet]").resolveIn {} "Rows").imports "Pet[]" "Pet.schema" ∧
      (uploads.resolveIn {} "Uploads").kind =
        .array ("File" ++ "[]") "File" none
          ("yup.array<" ++ "Uploads" ++ ">().of(" ++ "File.schema" ++ ")") ∧
      ¬ Fits (uploads.resolveIn {} "Uploads").imports "File" "File.schema" := by
  have nothing : (uploads.resolveIn {} "Uploads").imports = [] := by
    rw [resolveIn_eq]
    cbv
  refine ⟨?_, fun fits => ?_, ?_, fun fits => ?_⟩
  · rw [resolveIn_eq]
    cbv
  · rcases (fits.named "Pet" rfl).2 with same | ⟨arguments, same⟩
    · exact absurd same (by decide)
    · have ends : "Pet[]".toList.getLast? = some '>' := by
        rw [same, String.toList_append]
        exact List.getLast?_concat ..
      exact absurd ends (by decide)
  · rw [resolveIn_eq]
    cbv
  · have imported := (fits.named "File" rfl).1
    rw [nothing] at imported
    cases imported

end Schema

end ApiCatalog
