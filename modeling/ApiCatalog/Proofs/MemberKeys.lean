import ApiCatalog.Proofs.ArraySuffix

/-!
# Keys of inline objects

A member of an inline object is written under its name if that is a plain identifier, and else under
the name in quotes. Quotes in the name are escaped and backslashes are not, so that a reader takes a
backslash for an escape. Keys tell names apart nevertheless, but they are read back as the names
exactly if no quoted name has a backslash: `readKey_memberKey_iff`.
-/

namespace ApiCatalog

namespace Resolution

open Literal (unquote)

/-! ## Quoted keys -/

/-- One character of a quoted key: only quotes are escaped. -/
def escapeQuote (character : Char) : List Char :=
  if character == '\'' then ['\\', '\''] else [character]

theorem memberKey_of_isPlain {name : String} (plain : Identifier.isPlain name.toList = true) :
    memberKey name = name.toList :=
  if_pos plain

theorem memberKey_of_not_isPlain {name : String} (quoted : ¬ Identifier.isPlain name.toList = true) :
    memberKey name = '\'' :: name.toList.flatMap escapeQuote ++ ['\''] :=
  if_neg quoted

/-- Any character but a backslash is read as itself. -/
theorem unquote_escapeQuote {character : Char} (unescaped : character ≠ '\\') (rest : List Char) :
    unquote (escapeQuote character ++ rest) = (character :: (unquote rest).1, (unquote rest).2) := by
  by_cases quote : character = '\''
  · rw [quote]
    rfl
  · rw [escapeQuote, if_neg (by simpa using quote)]
    exact Literal.unquote_plain unescaped quote rest

/-- A backslash before another character is lost, unless that is a quote, which then ends the key. -/
theorem unquote_lone_ne {second : Char} (single : second ≠ '\\') (behind : Nat)
    (more rest : List Char) :
    (unquote (('\\' :: second :: more).flatMap escapeQuote ++ rest)).1 ≠
      List.replicate (behind + 1) '\\' ++ second :: more := by
  by_cases quote : second = '\''
  · subst quote
    intro same
    have ends : ([] : List Char) = List.replicate behind '\\' ++ '\'' :: more :=
      (List.cons.inj same).2
    simp at ends
  · have read : ('\\' :: second :: more).flatMap escapeQuote =
        '\\' :: second :: more.flatMap escapeQuote := by
      simp [escapeQuote, quote]
    rw [read]
    intro same
    exact single (List.cons.inj same).1

/-- A quoted key with a backslash is misread, whatever follows it. Each pair of backslashes is read
as one, so that what is read falls behind the name by as many backslashes as pairs have been read. -/
theorem unquote_ne (rest : List Char) {name : List Char} {behind : Nat}
    (escaped : 0 < behind ∨ '\\' ∈ name) :
    (unquote (name.flatMap escapeQuote ++ '\'' :: rest)).1 ≠
      List.replicate behind '\\' ++ name := by
  induction size : name.length using Nat.strongRecOn generalizing name behind with
  | ind length induction =>
      match name with
      | [] =>
          have late : 0 < behind := escaped.resolve_right List.not_mem_nil
          obtain ⟨fewer, rfl⟩ := Nat.exists_eq_succ_of_ne_zero (Nat.ne_of_gt late)
          nofun
      | first :: others =>
          rw [List.length_cons] at size
          by_cases backslash : first = '\\'
          · -- The reader takes what follows as it is, so that it lacks one backslash more.
            subst backslash
            have lacking (text : List Char) : List.replicate behind '\\' ++ '\\' :: text =
                List.replicate (behind + 1) '\\' ++ text := by
              rw [List.replicate_succ', List.append_assoc, List.singleton_append]
            rw [lacking]
            match others with
            | [] => nofun
            | second :: more =>
                by_cases pair : second = '\\'
                · subst pair
                  have later : (unquote (more.flatMap escapeQuote ++ '\'' :: rest)).1 ≠
                      List.replicate (behind + 1) '\\' ++ more :=
                    induction more.length (by rw [List.length_cons] at size; omega)
                      (.inl (Nat.succ_pos behind)) rfl
                  rw [← lacking] at later
                  exact fun same => later (List.cons.inj same).2
                · exact unquote_lone_ne pair behind more _
          · rw [List.flatMap_cons, List.append_assoc, unquote_escapeQuote backslash]
            cases behind with
            | zero =>
                have remaining : '\\' ∈ others := by
                  simpa [Ne.symm backslash] using escaped
                have later : (unquote (others.flatMap escapeQuote ++ '\'' :: rest)).1 ≠
                    List.replicate 0 '\\' ++ others :=
                  induction others.length (by omega) (.inr remaining) rfl
                exact fun same => later (List.cons.inj same).2
            | succ fewer => exact fun same => backslash (List.cons.inj same).1

/-- A quoted key is read back exactly if its name has no backslash. -/
theorem unquote_quoted_iff {name rest : List Char} :
    unquote (name.flatMap escapeQuote ++ '\'' :: rest) = (name, rest) ↔ '\\' ∉ name := by
  constructor
  · intro read escaped
    have misread : (unquote (name.flatMap escapeQuote ++ '\'' :: rest)).1 ≠
        List.replicate 0 '\\' ++ name :=
      unquote_ne rest (.inr escaped)
    exact misread (Prod.ext_iff.mp read).1
  · intro unescaped
    rw [show name.flatMap escapeQuote = name.flatMap Literal.escape from
      flatMap_quote_eq unescaped]
    exact Literal.unquote_escape name rest

/-! ## Distinct keys -/

theorem escapeQuote_of_ne {character : Char} (plain : character ≠ '\'') :
    escapeQuote character = [character] :=
  if_neg (by simpa using plain)

theorem head?_flatMap_escapeQuote (name : List Char) :
    (name.flatMap escapeQuote).head? ≠ some '\'' := by
  cases name with
  | nil => nofun
  | cons first rest =>
      by_cases quote : first = '\''
      · rw [quote]
        nofun
      · rw [List.flatMap_cons, escapeQuote_of_ne quote]
        simpa using quote

theorem flatMap_escapeQuote_cons_ne {first : Char} (plain : first ≠ '\'') (rest other : List Char) :
    (first :: rest).flatMap escapeQuote ≠ ('\'' :: other).flatMap escapeQuote := by
  intro same
  rw [List.flatMap_cons, escapeQuote_of_ne plain] at same
  have next : rest.flatMap escapeQuote = '\'' :: other.flatMap escapeQuote :=
    (List.cons.inj same).2
  exact head?_flatMap_escapeQuote rest (congrArg List.head? next)

/-- The backslash before a quote is never one of the name, so that a quoted key has one name. -/
theorem flatMap_escapeQuote_inj {left right : List Char}
    (same : left.flatMap escapeQuote = right.flatMap escapeQuote) : left = right := by
  have nonempty {first : Char} {rest : List Char} : (first :: rest).flatMap escapeQuote ≠ [] := by
    intro empty
    obtain ⟨nothing, -⟩ := List.append_eq_nil_iff.mp empty
    rw [escapeQuote] at nothing
    split at nothing <;> cases nothing
  induction left generalizing right with
  | nil =>
      cases right with
      | nil => rfl
      | cons second more => exact absurd same.symm nonempty
  | cons first rest induction =>
      cases right with
      | nil => exact absurd same nonempty
      | cons second more =>
          by_cases firstQuote : first = '\''
          · subst firstQuote
            by_cases secondQuote : second = '\''
            · subst secondQuote
              rw [induction (List.append_cancel_left same)]
            · exact absurd same.symm (flatMap_escapeQuote_cons_ne secondQuote more rest)
          · by_cases secondQuote : second = '\''
            · subst secondQuote
              exact absurd same (flatMap_escapeQuote_cons_ne firstQuote rest more)
            · rw [List.flatMap_cons, List.flatMap_cons, escapeQuote_of_ne firstQuote,
                escapeQuote_of_ne secondQuote] at same
              obtain ⟨rfl, tail⟩ := List.cons.inj same
              rw [induction tail]

/-- Different names have different keys. -/
theorem memberKey_inj {left right : String} (same : memberKey left = memberKey right) :
    left = right := by
  have apart {plain quoted : String} (isPlain : Identifier.isPlain plain.toList = true)
      (isQuoted : ¬ Identifier.isPlain quoted.toList = true) :
      memberKey plain ≠ memberKey quoted := by
    intro same
    rw [memberKey_of_isPlain isPlain, memberKey_of_not_isPlain isQuoted, List.cons_append] at same
    have quote : '\'' ∈ plain.toList := same ▸ List.mem_cons_self
    exact Identifier.not_isPlain_of_mem quote (by decide) isPlain
  by_cases leftPlain : Identifier.isPlain left.toList = true
  · by_cases rightPlain : Identifier.isPlain right.toList = true
    · rw [memberKey_of_isPlain leftPlain, memberKey_of_isPlain rightPlain] at same
      exact String.toList_inj.mp same
    · exact absurd same (apart leftPlain rightPlain)
  · by_cases rightPlain : Identifier.isPlain right.toList = true
    · exact absurd same.symm (apart rightPlain leftPlain)
    · rw [memberKey_of_not_isPlain leftPlain, memberKey_of_not_isPlain rightPlain] at same
      have content := List.append_cancel_right (List.cons.inj same).2
      exact String.toList_inj.mp (flatMap_escapeQuote_inj content)

/-! ## Keys in a text -/

/-- The name that a key at the start of a text is read as, and what follows the key. -/
def readKey (written : List Char) : List Char × List Char :=
  if written.head? = some '\'' then unquote written.tail
  else (written.takeWhile Identifier.isPlainPart, written.dropWhile Identifier.isPlainPart)

/-- Where a key ends, its name is read back exactly if the name is a plain identifier or has no
backslash. -/
theorem readKey_memberKey_iff {name : String} {rest : List Char}
    (ends : ∀ next ∈ rest.head?, Identifier.isPlainPart next = false) :
    readKey (memberKey name ++ rest) = (name.toList, rest) ↔
      Identifier.isPlain name.toList = true ∨ '\\' ∉ name.toList := by
  by_cases plain : Identifier.isPlain name.toList = true
  · have parts := Identifier.isPlainPart_of_isPlain plain
    have unquoted : (name.toList ++ rest).head? ≠ some '\'' := by
      intro quoted
      have part : Identifier.isPlainPart '\'' = true := by
        rw [List.head?_append, Option.or_eq_some_iff] at quoted
        rcases quoted with inside | ⟨empty, -⟩
        · exact parts _ (List.mem_of_head? inside)
        · rw [List.head?_eq_none_iff.mp empty] at plain
          cases plain
      exact absurd part (by decide)
    obtain ⟨taken, left⟩ := Text.takeWhile_dropWhile_append parts ends
    rw [memberKey_of_isPlain plain, readKey, if_neg unquoted, taken, left]
    simp [plain]
  · rw [memberKey_of_not_isPlain plain, List.append_assoc, List.cons_append, readKey,
      if_pos List.head?_cons, List.tail_cons, List.singleton_append, unquote_quoted_iff]
    exact (or_iff_right plain).symm

/-! ## Inline objects -/

/-- What stands before the key of a property, given the properties before it. -/
def beforeKey (earlier : List Property) (property : Property) : List Char :=
  "\x7b ".toList ++ earlier.flatMap (fun other => (inlineMember other).toList ++ "; ".toList) ++
    (if property.readOnly then "readonly " else "").toList

/-- What stands after the key of a property, given the properties after it. -/
def afterKey (property : Property) (later : List Property) : List Char :=
  (if property.required then "" else "?").toList ++ ": ".toList ++ property.type.toList ++
    later.flatMap (fun other => "; ".toList ++ (inlineMember other).toList) ++ " \x7d".toList

/-- Each part of a joined text stands between separators. -/
theorem intercalate_split (separator : List Char) (earlier : List (List Char)) (part : List Char)
    (later : List (List Char)) :
    separator.intercalate (earlier ++ part :: later) =
      earlier.flatMap (· ++ separator) ++ part ++ later.flatMap (separator ++ ·) := by
  induction earlier with
  | nil => rw [List.nil_append, List.flatMap_nil, List.nil_append, Text.intercalate_cons]
  | cons first rest induction =>
      obtain ⟨next, more, listed⟩ : ∃ next more, rest ++ part :: later = next :: more :=
        List.exists_cons_of_ne_nil (by simp)
      rw [List.cons_append, listed, List.intercalate_cons_cons, ← listed, induction,
        List.flatMap_cons]
      simp only [List.append_assoc]

/-- The key of each property has its place in the text of an inline object. -/
theorem toList_inlineObject (earlier : List Property) (property : Property)
    (later : List Property) :
    (inlineObject (earlier ++ property :: later)).toList =
      beforeKey earlier property ++ (memberKey property.name ++ afterKey property later) := by
  have listed : (earlier ++ property :: later).isEmpty = false :=
    List.isEmpty_eq_false_iff.mpr (by simp)
  rw [inlineObject, listed, if_neg Bool.false_ne_true, String.toList_append, String.toList_append,
    String.toList_intercalate, List.map_append, List.map_append, List.map_cons, List.map_cons,
    intercalate_split]
  simp [inlineMember, beforeKey, afterKey, List.flatMap_map]

theorem head?_afterKey (property : Property) (later : List Property) :
    (afterKey property later).head? = some (if property.required then ':' else '?') := by
  cases required : property.required <;> simp [afterKey, required]

theorem not_isPlainPart_afterKey (property : Property) (later : List Property) :
    ∀ next ∈ (afterKey property later).head?, Identifier.isPlainPart next = false := by
  intro next member
  rw [head?_afterKey] at member
  obtain rfl := Option.some.inj member
  split <;> decide

/-- In the text of an inline object, the key of each property is its name if that is a plain
identifier, and a literal in quotes otherwise. A reader who is at the key gets the name back and ends
where the key ends exactly if the name is a plain identifier or has no backslash. Other names have
other keys in any case. -/
theorem readKey_inlineObject_iff (earlier : List Property) (property : Property)
    (later : List Property) :
    (inlineObject (earlier ++ property :: later)).toList =
        beforeKey earlier property ++ (memberKey property.name ++ afterKey property later) ∧
      (if Identifier.isPlain property.name.toList then memberKey property.name = property.name.toList
        else ∃ content, memberKey property.name = '\'' :: content ++ ['\'']) ∧
      (readKey (memberKey property.name ++ afterKey property later) =
          (property.name.toList, afterKey property later) ↔
        Identifier.isPlain property.name.toList = true ∨ '\\' ∉ property.name.toList) ∧
      ∀ other : String, memberKey property.name = memberKey other → property.name = other := by
  refine ⟨toList_inlineObject earlier property later, ?_,
    readKey_memberKey_iff (not_isPlainPart_afterKey property later), fun other => memberKey_inj⟩
  split
  · rename_i plain
    exact memberKey_of_isPlain plain
  · rename_i quoted
    exact ⟨_, memberKey_of_not_isPlain quoted⟩

/-- A backslash is lost, and one at the end of a name takes the rest of the object into the key. -/
theorem backslash_key_misread :
    inlineObject [⟨"a\\b", "number", true, false, false, none⟩] = "\x7b 'a\\b': number \x7d" ∧
      readKey "'a\\b': number \x7d".toList = ("ab".toList, ": number \x7d".toList) ∧
      inlineObject [⟨"a\\", "number", true, false, false, none⟩,
          ⟨"b", "string", true, false, false, none⟩] = "\x7b 'a\\': number; b: string \x7d" ∧
      readKey "'a\\': number; b: string \x7d".toList =
        ("a': number; b: string \x7d".toList, []) := by
  decide +kernel

end Resolution

end ApiCatalog
