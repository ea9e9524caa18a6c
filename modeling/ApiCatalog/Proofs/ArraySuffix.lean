import ApiCatalog.Proofs.CatalogText
import ApiCatalog.Proofs.SchemaForm
import ApiCatalog.Proofs.TypeBars
import ApiCatalog.Text.Spellings

/-!
# The suffix of lists

A list is written as its element with a suffix. The suffix belongs to the whole element unless the
element has a bar outside literals and brackets, and then it belongs to what follows the last bar.
The element has such a bar exactly if its items are divided: `hasBar_element_iff`.
-/

namespace ApiCatalog

namespace Resolution

open TypeText

/-! ## Inline objects -/

theorem flatMap_quote_eq {content : List Char} (unescaped : '\\' ∉ content) :
    (content.flatMap fun character => if character == '\'' then ['\\', '\''] else [character]) =
      content.flatMap Literal.escape := by
  refine List.flatMap_congr fun character member => ?_
  have noBackslash : (character == '\\') = false := by
    rw [beq_eq_false_iff_ne]
    rintro rfl
    exact unescaped member
  rw [Literal.escape, noBackslash, Bool.false_or]
  split
  · rename_i quote
    rw [beq_iff_eq.mp quote]
  · rfl

/-- The key of a member is balanced unless a backslash in its name escapes a mark. -/
theorem balanced_memberKey {name : String} (unescaped : '\\' ∉ name.toList) :
    Balanced (memberKey name) := by
  unfold memberKey
  split
  · rename_i plain
    have noMark : marks.any Identifier.isPlainPart = false := by decide
    refine balanced_unmarked (List.any_eq_false.mpr fun character member marked => ?_)
    exact List.any_eq_false.mp noMark character (List.contains_iff_mem.mp marked)
      (Identifier.isPlainPart_of_isPlain plain character member)
  · rw [flatMap_quote_eq unescaped]
    exact balanced_literal name.toList

theorem balanced_inlineMember {property : Property} (unescaped : '\\' ∉ property.name.toList)
    (balanced : Balanced property.type.toList) : Balanced (inlineMember property).toList := by
  have modifier : Balanced (if property.readOnly then "readonly " else "").toList := by
    split <;> exact balanced_unmarked (by decide)
  have mark : Balanced (if property.required then "" else "?").toList := by
    split <;> exact balanced_unmarked (by decide)
  have colon : Balanced ": ".toList := balanced_unmarked (by decide)
  simp only [inlineMember, String.toList_append, String.toList_ofList]
  exact (((modifier.append (balanced_memberKey unescaped)).append mark).append colon).append balanced

/-- An inline object type is in braces. -/
theorem inlineObject_enclosed {properties : List Property}
    (members : ∀ property ∈ properties, Balanced (inlineMember property).toList) :
    ∃ inner, (inlineObject properties).toList = '{' :: inner ++ ['}'] ∧ Balanced inner := by
  unfold inlineObject
  split
  · exact ⟨[], by decide, balanced_nil⟩
  · let written := (properties.map inlineMember).map String.toList
    have separated : Balanced ("; ".toList.intercalate written) := by
      refine balanced_intercalate (balanced_unmarked (by decide)) fun part member => ?_
      simp only [written, List.map_map, List.mem_map, Function.comp_apply] at member
      obtain ⟨property, declared, rfl⟩ := member
      exact members property declared
    have blank : Balanced [' '] := balanced_unmarked (by decide)
    refine ⟨[' '] ++ "; ".toList.intercalate written ++ [' '], ?_,
      (blank.append separated).append blank⟩
    have opening : "\x7b ".toList = ['{', ' '] := by decide
    have closing : " \x7d".toList = [' ', '}'] := by decide
    rw [String.toList_append, String.toList_append, String.toList_intercalate, opening, closing]
    simp only [written, List.cons_append, List.nil_append, List.append_assoc]

end Resolution

namespace Schema

open Resolution TypeText

/-! ## Suffixes -/

theorem balanced_suffixed {text : String} (balanced : Balanced text.toList) :
    Balanced (text ++ "[]").toList := by
  rw [String.toList_append]
  exact balanced.append (balanced_nil.enclosed (by decide) (by decide))

theorem hasBar_suffixed_iff {text : String} :
    HasBar (text ++ "[]").toList ↔ HasBar text.toList := by
  rw [String.toList_append]
  exact hasBar_append_iff (by decide)

section

variable [Transliteration]

/-! ## Texts in place -/

/-- The text of a form in place. -/
def Form.text (schema : Schema) : Form → String
  | .symbols values _ => Enumeration.unionType values
  | .list items => (items.resolveInline (items.title.getD unknownItem)).rendered ++ "[]"
  | .object properties =>
      inlineObject (properties.map fun (key, member) =>
        property schema key member (member.resolveInline key))
  | .declared type => (TypeExpression.ofName type).rendered
  | .unknown => "any"

/-- The text of a schema in place. -/
def inlineText (schema : Schema) : String :=
  match schema.reference with
  | some pointer => (TypeExpression.ofPointer pointer).rendered
  | none => schema.form.text schema

theorem inlineText_of_reference {schema : Schema} {pointer : String}
    (refers : schema.reference = some pointer) :
    schema.inlineText = (TypeExpression.ofPointer pointer).rendered := by
  rw [inlineText, refers]

theorem inlineText_of_inline {schema : Schema} (inline : schema.reference = none) :
    schema.inlineText = schema.form.text schema := by
  rw [inlineText, inline]

theorem rendered_resolveInline (schema : Schema) (name : String) :
    (schema.resolveInline name).rendered = schema.inlineText := by
  cases refers : schema.reference with
  | some pointer => rw [resolveInline_of_reference refers, inlineText_of_reference refers]
  | none =>
      rw [resolveInline_of_inline refers, inlineText_of_inline refers]
      cases schema.form with
      | object properties =>
          simp only [ofForm, interface, inlineType, List.map_map, Form.text]
          rfl
      | symbols | list | declared | unknown => rfl

/-! ## Tidy schemas -/

/-- A schema whose text in place is balanced because the names in it are. -/
inductive Tidy : Schema → Prop
  | reference {schema : Schema} {pointer : String} (refers : schema.reference = some pointer)
      (balanced : Balanced (TypeExpression.ofPointer pointer).rendered.toList) : Tidy schema
  | symbols {schema : Schema} {symbols : List Symbol} {base : String}
      (inline : schema.reference = none) (form : schema.form = .symbols symbols base) : Tidy schema
  | list {schema items : Schema} (inline : schema.reference = none)
      (form : schema.form = .list items) (below : Tidy items) : Tidy schema
  | object {schema : Schema} {properties : List (String × Schema)}
      (inline : schema.reference = none) (form : schema.form = .object properties)
      (keys : ∀ property ∈ properties, '\\' ∉ property.1.toList)
      (below : ∀ property ∈ properties, Tidy property.2) : Tidy schema
  | declared {schema : Schema} {type : String} (inline : schema.reference = none)
      (form : schema.form = .declared type)
      (balanced : Balanced (TypeExpression.ofName type).rendered.toList) : Tidy schema
  | unknown {schema : Schema} (inline : schema.reference = none)
      (form : schema.form = .unknown) : Tidy schema

theorem object_enclosed {schema : Schema} {properties : List (String × Schema)}
    (keys : ∀ property ∈ properties, '\\' ∉ property.1.toList)
    (types : ∀ property ∈ properties, Balanced property.2.inlineText.toList) :
    ∃ inner, ((Form.object properties).text schema).toList = '{' :: inner ++ ['}'] ∧
      Balanced inner := by
  refine inlineObject_enclosed fun written member => ?_
  obtain ⟨property, declared, rfl⟩ := List.mem_map.mp member
  refine balanced_inlineMember (keys property declared) ?_
  change Balanced (property.2.resolveInline property.1).rendered.toList
  rw [rendered_resolveInline]
  exact types property declared

theorem Tidy.balanced {schema : Schema} (tidy : schema.Tidy) :
    Balanced schema.inlineText.toList := by
  induction tidy with
  | reference refers balanced =>
      rw [inlineText_of_reference refers]
      exact balanced
  | symbols inline form =>
      rw [inlineText_of_inline inline, form]
      exact balanced_unionType (legible_of_symbols? (form_eq_symbols_iff.mp form))
  | list inline form _ induction =>
      rw [inlineText_of_inline inline, form, Form.text, rendered_resolveInline]
      exact balanced_suffixed induction
  | object inline form keys _ induction =>
      rw [inlineText_of_inline inline, form]
      obtain ⟨inner, written, balanced⟩ := object_enclosed keys induction
      rw [written]
      exact balanced.enclosed (by decide) (by decide)
  | declared inline form balanced =>
      rw [inlineText_of_inline inline, form]
      exact balanced
  | unknown inline form =>
      rw [inlineText_of_inline inline, form, Form.text]
      exact balanced_unmarked (by decide)

/-! ## Divided schemas -/

/-- A schema whose text in place has a bar outside literals and brackets: an enumeration with at
least two symbols, a list of such a schema, or else a name that has one or that takes one out of the
braces around it. -/
inductive Divided : Schema → Prop
  | reference {schema : Schema} {pointer : String} (refers : schema.reference = some pointer)
      (bar : HasBar (TypeExpression.ofPointer pointer).rendered.toList) : Divided schema
  | symbols {schema : Schema} {symbols : List Symbol} {base : String}
      (inline : schema.reference = none) (form : schema.form = .symbols symbols base)
      (several : 2 ≤ symbols.length) : Divided schema
  | list {schema items : Schema} (inline : schema.reference = none)
      (form : schema.form = .list items) (below : Divided items) : Divided schema
  | object {schema : Schema} {properties : List (String × Schema)}
      (inline : schema.reference = none) (form : schema.form = .object properties)
      (untidy : ¬ schema.Tidy) (bar : HasBar ((Form.object properties).text schema).toList) :
      Divided schema
  | declared {schema : Schema} {type : String} (inline : schema.reference = none)
      (form : schema.form = .declared type)
      (bar : HasBar (TypeExpression.ofName type).rendered.toList) : Divided schema

/-- A tidy object keeps its bars in braces. -/
theorem Tidy.not_hasBar {schema : Schema} {properties : List (String × Schema)}
    (tidy : schema.Tidy) (inline : schema.reference = none)
    (form : schema.form = .object properties) :
    ¬ HasBar ((Form.object properties).text schema).toList := by
  cases tidy with
  | object _ sameForm keys below =>
      obtain rfl : properties = _ := Form.object.inj (form.symm.trans sameForm)
      obtain ⟨inner, written, balanced⟩ :=
        object_enclosed keys fun property declared => (below property declared).balanced
      rw [written]
      exact not_hasBar_enclosed (by decide) balanced
  | reference refers =>
      rw [inline] at refers
      cases refers
  | symbols _ otherForm | list _ otherForm | declared _ otherForm | unknown _ otherForm =>
      rw [form] at otherForm
      cases otherForm

theorem Divided.hasBar {schema : Schema} (divided : schema.Divided) :
    HasBar schema.inlineText.toList := by
  induction divided with
  | reference refers bar =>
      rw [inlineText_of_reference refers]
      exact bar
  | symbols inline form several =>
      rw [inlineText_of_inline inline, form]
      exact (hasBar_unionType_iff (legible_of_symbols? (form_eq_symbols_iff.mp form))).mpr several
  | list inline form _ induction =>
      rw [inlineText_of_inline inline, form, Form.text, rendered_resolveInline]
      exact hasBar_suffixed_iff.mpr induction
  | object inline form _ bar =>
      rw [inlineText_of_inline inline, form]
      exact bar
  | declared inline form bar =>
      rw [inlineText_of_inline inline, form]
      exact bar

theorem divided_of_hasBar {schema : Schema} (bar : HasBar schema.inlineText.toList) :
    schema.Divided := by
  induction schema using induction_on_children with
  | step schema induction =>
      cases refers : schema.reference with
      | some pointer =>
          rw [inlineText_of_reference refers] at bar
          exact .reference refers bar
      | none =>
          rw [inlineText_of_inline refers] at bar
          cases form : schema.form with
          | symbols symbols base =>
              rw [form] at bar
              have legible := legible_of_symbols? (form_eq_symbols_iff.mp form)
              exact .symbols refers form ((hasBar_unionType_iff legible).mp bar)
          | list items =>
              rw [form, Form.text, rendered_resolveInline] at bar
              have below : items.Divided :=
                induction items (mem_children_of_list form) (hasBar_suffixed_iff.mp bar)
              exact .list refers form below
          | object properties =>
              rw [form] at bar
              exact .object refers form (fun tidy => tidy.not_hasBar refers form bar) bar
          | declared type =>
              rw [form] at bar
              exact .declared refers form bar
          | unknown =>
              rw [form, Form.text] at bar
              exact absurd bar (not_hasBar_of_not_mem (by decide))

theorem hasBar_inlineText_iff {schema : Schema} :
    HasBar schema.inlineText.toList ↔ schema.Divided :=
  ⟨divided_of_hasBar, Divided.hasBar⟩

/-! ## Lists -/

/-- A list is written as its element with a suffix, in place too. The element has a bar outside
literals and brackets exactly if the items are divided. -/
theorem hasBar_element_iff {schema : Schema} {document : Document}
    {name rendered base validation : String} {template : Option String}
    (list : (schema.resolveIn document name).kind = .array rendered base template validation) :
    ∃ (items : Schema) (element : String), schema.form = .list items ∧ rendered = element ++ "[]" ∧
      (∀ other, (items.resolveInlineIn document other).rendered = element) ∧
      (schema.reference = none →
        ∀ other, (schema.resolveInlineIn document other).rendered = rendered) ∧
      (HasBar element.toList ↔ items.Divided) := by
  rw [resolveIn_eq, resolve_of_form] at list
  cases form : schema.form with
  | list items =>
      rw [form] at list
      obtain ⟨written, -, -, -⟩ := Kind.array.inj list
      rw [rendered_resolveInline] at written
      refine ⟨items, items.inlineText, rfl, written.symm, fun other => ?_, fun inline other => ?_,
        hasBar_inlineText_iff⟩
      · rw [resolveInlineIn_eq, rendered_resolveInline]
      · rw [resolveInlineIn_eq, rendered_resolveInline, inlineText_of_inline inline, form, Form.text,
          rendered_resolveInline, written]
  | symbols | object | declared | unknown =>
      rw [form] at list
      cases list

end

attribute [local instance] Text.tabulated

/-- An object whose only property is an enumeration. -/
def sized : Schema where
  type := some "object"
  properties := some [("size", { enumeration := [.string "s", .string "m"] })]

theorem form_sized :
    sized.form = .object [("size", { enumeration := [.string "s", .string "m"] })] :=
  form_eq_object_iff.mpr ⟨by decide +kernel, rfl, rfl⟩

theorem tidy_sized : sized.Tidy := by
  refine .object rfl form_sized (by decide) fun property declared => ?_
  rw [List.mem_singleton.mp declared]
  have values : symbols? { enumeration := [.string "s", .string "m"] } =
      some ([⟨"S", .text "s"⟩, ⟨"M", .text "m"⟩], "string") := by
    decide +kernel
  exact .symbols rfl (form_eq_symbols_iff.mpr values)

/-- A list of such objects. -/
def sizes : Schema where
  type := some "array"
  items := some sized

/-- The bar of the enumeration stands in the braces of the object. -/
theorem sizes_element_not_hasBar :
    (sizes.resolveIn {} "Sizes").kind =
        .array ("\x7b size?: 's' | 'm' \x7d" ++ "[]") "\x7b size?: 's' | 'm' \x7d" none
          "yup.array<Sizes>().of(yup.mixed())" ∧
      ¬ HasBar "\x7b size?: 's' | 'm' \x7d".toList := by
  have list : (sizes.resolveIn {} "Sizes").kind =
      .array ("\x7b size?: 's' | 'm' \x7d" ++ "[]") "\x7b size?: 's' | 'm' \x7d" none
        "yup.array<Sizes>().of(yup.mixed())" := by
    rw [resolveIn_eq]
    decide +kernel
  refine ⟨list, fun bar => ?_⟩
  obtain ⟨items, element, form, written, -, -, divides⟩ := hasBar_element_iff list
  obtain rfl : sized = items := Option.some.inj (form_eq_list_iff.mp form).2.2
  rw [← (String.append_left_inj "[]").mp written] at divides
  cases divides.mp bar with
  | object _ _ untidy => exact untidy tidy_sized
  | reference refers => cases refers
  | symbols _ otherForm | list _ otherForm | declared _ otherForm =>
      rw [form_sized] at otherForm
      cases otherForm

/-- A list of an enumeration. -/
def tags : Schema where
  type := some "array"
  items := some { type := some "string", enumeration := [.string "a", .string "b"] }

/-- The suffix applies to the last value only. -/
theorem tags_element_hasBar :
    (tags.resolveIn {} "Tags").kind =
        .array ("'a' | 'b'" ++ "[]") "'a' | 'b'" none "yup.array<Tags>().of(yup.mixed())" ∧
      HasBar "'a' | 'b'".toList := by
  refine ⟨?_, "'a'".toList, "'b'".toList, by decide, by decide⟩
  rw [resolveIn_eq]
  decide +kernel

end Schema

end ApiCatalog
