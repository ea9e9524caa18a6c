import ApiCatalog.OperationName
import ApiCatalog.Proofs.CamelCase
import ApiCatalog.Text.Spellings
import ApiCatalog.Text.Split

/-!
# Names made of paths

A path is read piece by piece between its slashes. Pieces between braces are parameters, all others
are literals, and only pieces with letters or digits leave a trace in the name: `ofPath_exact` says
which name a path gets, and that two paths with the same words in literals and in parameters get the
same one.
-/

namespace ApiCatalog

namespace Identifier

open Text

/-! ## Camel case in context -/

variable [Transliteration]

/-- Braces around a text do not change its words. -/
theorem camelCase_braced (text : List Char) :
    camelCase ('\x7b' :: (text ++ ['\x7d'])) = camelCase text := by
  have opening : transliterate ['\x7b'] = ['\x7b'] :=
    transliterate_of_ascii (List.forall_mem_singleton.mpr (by decide))
  have closing : transliterate ['\x7d'] = ['\x7d'] :=
    transliterate_of_ascii (List.forall_mem_singleton.mpr (by decide))
  have spelled : transliterate ('\x7b' :: (text ++ ['\x7d'])) =
      '\x7b' :: (transliterate text ++ ['\x7d']) := by
    rw [← List.singleton_append, transliterate_append, transliterate_append, opening, closing,
      List.singleton_append]
  have same : runs ('\x7b' :: (text ++ ['\x7d'])) = runs text := by
    rw [runs, spelled, runsOf_cons_of_not (by decide), runsOf_append_of_not (by decide), runs]
  rw [camelCase, words, same, camelCase, words]

/-- A text has no words exactly if its transliteration has no letters and digits. -/
theorem camelCase_eq_nil_iff {text : List Char} :
    camelCase text = [] ↔ alphanumerics text = [] :=
  joinWords_eq_nil_iff

end Identifier

namespace OperationName

open Identifier

/-! ## Pieces of a path -/

/-- The pieces of a path, between which its slashes stand. -/
structure Divided (path : String) (pieces : List (List Char)) : Prop where
  /-- The pieces with slashes between them are the path. -/
  joined : ['/'].intercalate pieces = path.toList
  /-- No piece has a slash. -/
  slashless : ∀ piece ∈ pieces, '/' ∉ piece

theorem divided_splitOn (path : String) : Divided path (Text.splitOn '/' path.toList) where
  joined := Text.intercalate_splitOn '/' path.toList
  slashless _ := Text.not_mem_of_mem_splitOn

/-- Only empty pieces depend on how a path is divided. -/
theorem Divided.splitOn_eq {path : String} {pieces : List (List Char)}
    (divided : Divided path pieces) :
    pieces = [] ∨ Text.splitOn '/' path.toList = pieces := by
  by_cases empty : pieces = []
  · exact .inl empty
  · rw [← divided.joined]
    exact .inr (Text.splitOn_intercalate empty divided.slashless)

/-- Whether a piece is a place for a value: it starts with an opening brace and ends with a closing
one. -/
def isParameter (piece : List Char) : Bool :=
  2 ≤ piece.length && piece.head? == some '\x7b' && piece.getLast? == some '\x7d'

/-! ## Segments -/

theorem isParameter_braced (name : List Char) :
    isParameter ('\x7b' :: (name ++ ['\x7d'])) = true := by
  rw [isParameter, ← List.cons_append, List.getLast?_concat]
  simp

theorem exists_braced_of_isParameter {piece : List Char} (parameter : isParameter piece = true) :
    ∃ name, piece = '\x7b' :: (name ++ ['\x7d']) := by
  simp only [isParameter, Bool.and_eq_true, decide_eq_true_eq, beq_iff_eq] at parameter
  obtain ⟨⟨long, opens⟩, closes⟩ := parameter
  cases piece with
  | nil => cases opens
  | cons first rest =>
      obtain rfl : first = '\x7b' := Option.some.inj opens
      rcases List.eq_nil_or_concat rest with rfl | ⟨name, last, rfl⟩
      · simp at long
      · rw [List.concat_eq_append, ← List.cons_append, List.getLast?_concat] at closes
        obtain rfl : last = '\x7d' := Option.some.inj closes
        exact ⟨name, by rw [List.concat_eq_append]⟩

theorem ofText_braced (name : List Char) :
    Segment.ofText ('\x7b' :: (name ++ ['\x7d'])) = .parameter name := by
  simp [Segment.ofText]

theorem ofText_of_not_isParameter {piece : List Char} (literal : isParameter piece = false) :
    Segment.ofText piece = .literal piece := by
  rw [Segment.ofText.eq_def]
  split
  · rename_i rest
    split
    · rename_i closes
      have last : rest.getLast? = some '\x7d' := beq_iff_eq.mp closes
      obtain ⟨name, rfl⟩ := List.getLast?_eq_some_iff.mp last
      rw [isParameter_braced] at literal
      cases literal
    · rfl
  · rfl

theorem significant_eq (words : List (List Char)) :
    significant words = if 2 ≤ words.length then words.drop 1 else words := by
  match words with
  | [] | [_] => rfl
  | _ :: _ :: _ => simp [significant]

/-! ## Forms -/

section

variable [Transliteration]

/-- The camel-case forms of pieces, without the empty ones. -/
def forms (pieces : List (List Char)) : List (List Char) :=
  (pieces.map camelCase).filter (!·.isEmpty)

/-- The camel-case forms of the pieces of a path that are literals. -/
def literalForms (pieces : List (List Char)) : List (List Char) :=
  forms (pieces.filter fun piece => !piece.isEmpty && !isParameter piece)

/-- The camel-case forms of the pieces of a path that are parameters. -/
def parameterForms (pieces : List (List Char)) : List (List Char) :=
  forms (pieces.filter fun piece => !piece.isEmpty && isParameter piece)

/-- What segments show of their pieces, if it is the words of the wanted ones. -/
theorem filterMap_ofText {view : Segment → Option (List Char)} {wanted : List Char → Bool}
    (shown : ∀ piece, view (Segment.ofText piece) =
      if wanted piece then (some (camelCase piece)).filter (!·.isEmpty) else none)
    (pieces : List (List Char)) :
    ((pieces.filter (!·.isEmpty)).map Segment.ofText).filterMap view =
      forms (pieces.filter fun piece => !piece.isEmpty && wanted piece) := by
  induction pieces with
  | nil => rfl
  | cons piece pieces induction =>
      cases piece with
      | nil => exact induction
      | cons first rest =>
          simp only [forms] at induction
          by_cases chosen : wanted (first :: rest) = true
          · by_cases wordless : camelCase (first :: rest) = [] <;>
              simp [forms, shown, chosen, wordless, induction, Option.filter]
          · simp [forms, shown, chosen, induction]

/-- The literals of a path are the forms of its literal pieces. -/
theorem literals_eq (path : List Char) :
    literals path = literalForms (Text.splitOn '/' path) := by
  refine filterMap_ofText (fun piece => ?_) _
  cases parameter : isParameter piece with
  | false => rw [ofText_of_not_isParameter parameter]; rfl
  | true =>
      obtain ⟨name, rfl⟩ := exists_braced_of_isParameter parameter
      rw [ofText_braced]
      rfl

/-- The parameters of a path are the forms of its pieces between braces. -/
theorem parameters_eq (path : List Char) :
    parameters path = parameterForms (Text.splitOn '/' path) := by
  refine filterMap_ofText (fun piece => ?_) _
  cases parameter : isParameter piece with
  | false => rw [ofText_of_not_isParameter parameter]; rfl
  | true =>
      obtain ⟨name, rfl⟩ := exists_braced_of_isParameter parameter
      rw [ofText_braced, camelCase_braced]
      rfl

/-! ## Names -/

variable {path other : String} {pieces others : List (List Char)}

theorem Divided.literals_eq (divided : Divided path pieces) :
    literals path.toList = literalForms pieces := by
  rw [OperationName.literals_eq]
  rcases divided.splitOn_eq with rfl | same
  · rw [← divided.joined]
    rfl
  · rw [same]

theorem Divided.parameters_eq (divided : Divided path pieces) :
    parameters path.toList = parameterForms pieces := by
  rw [OperationName.parameters_eq]
  rcases divided.splitOn_eq with rfl | same
  · rw [← divided.joined]
    rfl
  · rw [same]

/-- The name a path gets, from its pieces. -/
theorem Divided.toList_ofPath (divided : Divided path pieces) (method : String) :
    (ofPath path method).toList =
      Text.lowerCase method.toList ++
      (if 2 ≤ (literalForms pieces).length then (literalForms pieces).drop 1
        else literalForms pieces).flatMap Text.capitalize ++
      if parameterForms pieces = [] then []
        else ['B', 'y'] ++ ['A', 'n', 'd'].intercalate
          ((parameterForms pieces).map Text.capitalize) := by
  rw [ofPath, String.toList_ofList, divided.literals_eq, divided.parameters_eq, significant_eq,
    parameterSuffix]
  simp only [List.isEmpty_iff]

theorem Divided.ofPath_eq (divided : Divided path pieces) (otherDivided : Divided other others)
    (literals : literalForms pieces = literalForms others)
    (parameters : parameterForms pieces = parameterForms others) (method : String) :
    ofPath path method = ofPath other method := by
  rw [← String.toList_inj, divided.toList_ofPath, otherDivided.toList_ofPath, literals, parameters]

theorem forms_append (front back : List (List Char)) :
    forms (front ++ back) = forms front ++ forms back := by
  simp only [forms, List.map_append, List.filter_append]

/-- Pieces without letters and digits have no form. -/
theorem forms_eq_nil (wordless : ∀ piece ∈ pieces, alphanumerics piece = []) :
    forms pieces = [] := by
  rw [forms, List.filter_eq_nil_iff]
  intro form member
  obtain ⟨piece, listed, rfl⟩ := List.mem_map.mp member
  simp [camelCase_eq_nil_iff.mpr (wordless piece listed)]

/-- Pieces without letters and digits leave no trace among others. -/
theorem forms_filter_insert {extra : List (List Char)}
    (wordless : ∀ piece ∈ extra, alphanumerics piece = []) (wanted : List Char → Bool)
    (before after : List (List Char)) :
    forms ((before ++ extra ++ after).filter wanted) = forms ((before ++ after).filter wanted) := by
  have none : forms (extra.filter wanted) = [] :=
    forms_eq_nil fun piece member => wordless piece (List.mem_filter.mp member).1
  simp only [List.filter_append, forms_append, none, List.append_nil]

/-- The name of a path is made of its method in lower case, the words of its literals, of which the
first are left out if there are others, and the words of its parameters after `By` with `And` between
them. So paths that agree in the words of their literals and in the words of their parameters have
the same name, however literals and parameters alternate, and pieces without letters and digits make
no difference: among them are empty pieces, empty braces and pieces of separators. -/
theorem ofPath_exact (method : String) :
    (∀ path, ∃ pieces, Divided path pieces) ∧
    (∀ path pieces, Divided path pieces →
      (ofPath path method).toList =
        Text.lowerCase method.toList ++
        (if 2 ≤ (literalForms pieces).length then (literalForms pieces).drop 1
          else literalForms pieces).flatMap Text.capitalize ++
        if parameterForms pieces = [] then []
          else ['B', 'y'] ++ ['A', 'n', 'd'].intercalate
            ((parameterForms pieces).map Text.capitalize)) ∧
    (∀ path other pieces others, Divided path pieces → Divided other others →
      literalForms pieces = literalForms others → parameterForms pieces = parameterForms others →
      ofPath path method = ofPath other method) ∧
    ∀ path other before extra after, Divided path (before ++ extra ++ after) →
      Divided other (before ++ after) → (∀ piece ∈ extra, alphanumerics piece = []) →
      ofPath path method = ofPath other method := by
  refine ⟨fun path => ⟨_, divided_splitOn path⟩, fun path pieces divided =>
    divided.toList_ofPath method, fun path other pieces others divided otherDivided literals
    parameters => divided.ofPath_eq otherDivided literals parameters method, ?_⟩
  intro path other before extra after divided otherDivided wordless
  exact divided.ofPath_eq otherDivided (forms_filter_insert wordless _ before after)
    (forms_filter_insert wordless _ before after) method

end

attribute [local instance] Text.tabulated

/-- Slashes, empty braces and a dash more, and a parameter before the literals. -/
theorem ofPath_exact_shuffled :
    ofPath "/api/user-pets/{petId}" "GET" = ofPath "{petId}//{}/api/-/user-pets/" "GET" := by
  have divided : Divided "/api/user-pets/{petId}"
      ["".toList, "api".toList, "user-pets".toList, "{petId}".toList] :=
    ⟨by decide, by decide⟩
  have shuffled : Divided "{petId}//{}/api/-/user-pets/"
      ["{petId}".toList, [], "{}".toList, "api".toList, "-".toList, "user-pets".toList, []] :=
    ⟨by decide, by decide⟩
  exact (ofPath_exact "GET").2.2.1 _ _ _ _ divided shuffled (by decide) (by decide)

end OperationName

end ApiCatalog
