import Gatehouse.Text.Json

/-!
# What a body says

A reader of JSON, made from the grammar and not from the writer: it knows the escapes that a
string may hold, in either case of the digits, and refuses what the grammar refuses. Numbers,
blanks between the tokens and pairs of surrogates are unknown to it, as no body has any. What
it reads in a body is what the body says, so that a statement about a body need not go by the
letters that the writer puts down.

Whatever is written is read back (`readJson?_render`). This goes by the constructors of a
value, and in a list or an object by its members, each of which is read up to the place where
the text of the next one begins. The reader is bounded, so that it can be defined at all, and
the length of a text is always bound enough (`readValue?_charsOf`).
-/

namespace Gatehouse.Proofs

open Gatehouse Text

/-! ## Strings -/

/-- The value of a hexadecimal digit. -/
def hexDigit? (c : Char) : Option Nat :=
  if '0' ≤ c ∧ c ≤ '9' then some (c.toNat - 48)
  else if 'a' ≤ c ∧ c ≤ 'f' then some (c.toNat - 87)
  else if 'A' ≤ c ∧ c ≤ 'F' then some (c.toNat - 55)
  else none

/-- The character with this number in four digits; half of a pair of surrogates is none. -/
def codePoint? (a b c d : Char) : Option Char := do
  let n := ((← hexDigit? a) * 16 + (← hexDigit? b)) * 256 + (← hexDigit? c) * 16 + (← hexDigit? d)
  if n.isValidChar then some (Char.ofNat n) else none

/-- What a letter stands for behind a backslash. -/
def escaped? (c : Char) : Option Char :=
  match c with
  | '"' => some '"'
  | '\\' => some '\\'
  | '/' => some '/'
  | 'b' => some '\x08'
  | 'f' => some '\x0c'
  | 'n' => some '\n'
  | 'r' => some '\r'
  | 't' => some '\t'
  | _ => none

/-- Reads a string behind its opening quote, up to the closing one. -/
def readChars? : List Char → Option (List Char × List Char)
  | [] => none
  | c :: rest =>
    if c = '"' then some ([], rest)
    else if c = '\\' then
      match rest with
      | 'u' :: a :: b :: c :: d :: rest => do
        let char ← codePoint? a b c d
        let (chars, rest) ← readChars? rest
        return (char :: chars, rest)
      | c :: rest => do
        let char ← escaped? c
        let (chars, rest) ← readChars? rest
        return (char :: chars, rest)
      | [] => none
    else if c.toNat < 0x20 then none
    else do
      let (chars, rest) ← readChars? rest
      return (c :: chars, rest)

/-! ## Values -/

/-- Reads one of the three words. -/
def readWord? : List Char → Option (Json × List Char)
  | 'n' :: 'u' :: 'l' :: 'l' :: rest => some (.null, rest)
  | 't' :: 'r' :: 'u' :: 'e' :: rest => some (.bool true, rest)
  | 'f' :: 'a' :: 'l' :: 's' :: 'e' :: rest => some (.bool false, rest)
  | _ => none

mutual

/-- Reads a value, and leaves what stands behind it. -/
def readValue? : Nat → List Char → Option (Json × List Char)
  | bound + 1, c :: rest =>
    if c = '"' then do
      let (chars, rest) ← readChars? rest
      return (.text (String.ofList chars), rest)
    else if c = '[' then
      if rest.head? = some ']' then some (.list [], rest.tail)
      else do
        let (items, rest) ← readItems? bound (',' :: rest)
        return (.list items, rest)
    else if c = '\x7b' then
      if rest.head? = some '\x7d' then some (.object [], rest.tail)
      else do
        let (fields, rest) ← readFields? bound (',' :: rest)
        return (.object fields, rest)
    else readWord? (c :: rest)
  | _, _ => none

/-- Reads items, each behind a comma, up to the bracket that closes a list. -/
def readItems? : Nat → List Char → Option (List Json × List Char)
  | bound + 1, c :: rest =>
    if c = ',' then do
      let (item, rest) ← readValue? bound rest
      let (items, rest) ← readItems? bound rest
      return (item :: items, rest)
    else if c = ']' then some ([], rest)
    else none
  | _, _ => none

/-- Reads fields, each behind a comma, up to the brace that closes an object. -/
def readFields? : Nat → List Char → Option (List (String × Json) × List Char)
  | bound + 1, c :: rest =>
    if c = ',' then
      if rest.head? = some '"' then do
        let (name, rest) ← readChars? rest.tail
        if rest.head? = some ':' then
          let (value, rest) ← readValue? bound rest.tail
          let (fields, rest) ← readFields? bound rest
          return ((String.ofList name, value) :: fields, rest)
        else none
      else none
    else if c = '\x7d' then some ([], rest)
    else none
  | _, _ => none

end

/-- The value that a text says, if it is the text of a value and nothing more. -/
def readJson? (text : String) : Option Json :=
  match readValue? (text.length + 1) text.toList with
  | some (value, []) => some value
  | _ => none

/-! ## A string is read back -/

/-- The characters below the space are numbered by two digits. -/
theorem codePoint?_of_control :
    ∀ n < 0x20, codePoint? '0' '0' (Nat.digitChar (n / 16)) (Nat.digitChar (n % 16)) =
      some (Char.ofNat n) := by
  decide

theorem readChars?_quote (rest : List Char) : readChars? ('"' :: rest) = some ([], rest) := by
  rw [readChars?.eq_def]
  rfl

/-- Most characters stand for themselves. -/
theorem readChars?_plain {c : Char} (hquote : c ≠ '"') (hbackslash : c ≠ '\\')
    (hhigh : ¬ c.toNat < 0x20) (rest : List Char) :
    readChars? (c :: rest) = (readChars? rest).bind (fun read => some (c :: read.1, read.2)) := by
  rw [readChars?.eq_def]
  dsimp only
  rw [if_neg hquote, if_neg hbackslash, if_neg hhigh]
  rfl

theorem readChars?_escapeChar (c : Char) (rest : List Char) :
    readChars? ((Json.escapeChar c).toList ++ rest) =
      (readChars? rest).bind (fun read => some (c :: read.1, read.2)) := by
  unfold Json.escapeChar
  split
  · simp [readChars?, escaped?]
  · simp [readChars?, escaped?]
  · simp [readChars?, escaped?]
  · simp [readChars?, escaped?]
  · simp [readChars?, escaped?]
  · simp [readChars?, escaped?]
  · simp [readChars?, escaped?]
  · rename_i hquote hbackslash _ _ _ _ _
    split
    · rename_i hlow
      have hpoint := codePoint?_of_control c.toNat hlow
      rw [Char.ofNat_toNat] at hpoint
      simp [readChars?, hpoint]
    · rename_i hhigh
      rw [String.toList_singleton]
      exact readChars?_plain hquote hbackslash hhigh rest

/-- A quoted text is read up to its closing quote. -/
theorem readChars?_quoted (chars rest : List Char) :
    readChars? ((String.join (chars.map Json.escapeChar)).toList ++ '"' :: rest) =
      some (chars, rest) := by
  induction chars with
  | nil => simp [readChars?_quote]
  | cons c chars ih =>
      rw [List.map_cons, String.join_cons, String.toList_append, List.append_assoc,
        readChars?_escapeChar, ih]
      rfl

/-! ## A value is read back -/

/-- The text of a value, character by character. -/
def charsOf (value : Json) : List Char := value.render.toList

/-- The text of a string. -/
theorem toList_quote (text : String) :
    (Json.quote text).toList =
      '"' :: ((String.join (text.toList.map Json.escapeChar)).toList ++ ['"']) := by
  simp [Json.quote]

/-- The items of a list, each behind a comma. -/
def itemsText (items : List Json) : List Char := items.flatMap (fun item => ',' :: charsOf item)

/-- One field of an object. -/
def fieldText (field : String × Json) : List Char :=
  (Json.quote field.1).toList ++ ':' :: charsOf field.2

/-- The fields of an object, each behind a comma. -/
def fieldsText (fields : List (String × Json)) : List Char :=
  fields.flatMap (fun field => ',' :: fieldText field)

theorem renderItems_eq (items : List Json) : Json.renderItems items = items.map Json.render := by
  induction items with
  | nil => rfl
  | cons item items ih => rw [Json.renderItems, ih, List.map_cons]

theorem renderFields_eq (fields : List (String × Json)) :
    (Json.renderFields fields).map String.toList = fields.map fieldText := by
  induction fields with
  | nil => rfl
  | cons field fields ih =>
      obtain ⟨name, value⟩ := field
      rw [Json.renderFields, List.map_cons, ih, List.map_cons, fieldText]
      simp [charsOf]

/-- Between commas is what stands behind one each, but for the first. -/
theorem comma_intercalate (piece : List Char) (pieces : List (List Char)) :
    ',' :: [','].intercalate (piece :: pieces) = (piece :: pieces).flatMap (',' :: ·) := by
  induction pieces generalizing piece with
  | nil => simp
  | cons next pieces ih =>
      rw [List.intercalate_cons_cons, List.flatMap_cons, ← ih next]
      simp

theorem charsOf_list (item : Json) (items : List Json) :
    ∃ text, charsOf (.list (item :: items)) = '[' :: (text ++ [']'])
      ∧ ',' :: text = itemsText (item :: items) := by
  refine ⟨[','].intercalate ((item :: items).map charsOf), ?_, ?_⟩
  · have htexts : (Json.renderItems (item :: items)).map String.toList =
        (item :: items).map charsOf := by
      rw [renderItems_eq, List.map_map]
      rfl
    simp [charsOf, Json.render, htexts]
  · rw [List.map_cons, comma_intercalate, itemsText, ← List.map_cons, List.flatMap_map]

theorem charsOf_object (field : String × Json) (fields : List (String × Json)) :
    ∃ text, charsOf (.object (field :: fields)) = '\x7b' :: (text ++ ['\x7d'])
      ∧ ',' :: text = fieldsText (field :: fields) := by
  refine ⟨[','].intercalate ((field :: fields).map fieldText), ?_, ?_⟩
  · simp [charsOf, Json.render, renderFields_eq]
  · rw [List.map_cons, comma_intercalate, fieldsText, ← List.map_cons, List.flatMap_map]

theorem length_charsOf_list (item : Json) (items : List Json) :
    (charsOf (.list (item :: items))).length = (itemsText (item :: items)).length + 1 := by
  obtain ⟨text, htext, hitems⟩ := charsOf_list item items
  rw [htext, ← hitems]
  simp

theorem length_charsOf_object (field : String × Json) (fields : List (String × Json)) :
    (charsOf (.object (field :: fields))).length = (fieldsText (field :: fields)).length + 1 := by
  obtain ⟨text, htext, hfields⟩ := charsOf_object field fields
  rw [htext, ← hfields]
  simp

theorem itemsText_cons (item : Json) (items : List Json) :
    itemsText (item :: items) = ',' :: (charsOf item ++ itemsText items) := List.flatMap_cons

theorem fieldsText_cons (name : String) (value : Json) (fields : List (String × Json)) :
    fieldsText ((name, value) :: fields) =
      ',' :: ((Json.quote name).toList ++ ':' :: (charsOf value ++ fieldsText fields)) := by
  simp [fieldsText, fieldText]

/-- No value begins like the end of a list. -/
theorem head?_charsOf_ne (value : Json) (rest : List Char) :
    (charsOf value ++ rest).head? ≠ some ']' := by
  cases value with
  | null => simp [charsOf, Json.render]
  | bool b => cases b <;> simp [charsOf, Json.render]
  | text s => simp [charsOf, Json.render, toList_quote]
  | list items => simp [charsOf, Json.render]
  | object fields => simp [charsOf, Json.render]

section Steps

variable (bound : Nat) {rest : List Char}

theorem readValue?_text (s : String) (rest : List Char) :
    readValue? (bound + 1) (charsOf (.text s) ++ rest) = some (.text s, rest) := by
  have hread := readChars?_quoted s.toList rest
  rw [charsOf, Json.render, toList_quote, List.cons_append, List.append_assoc,
    List.singleton_append, readValue?, if_pos rfl, hread]
  simp

theorem readValue?_list (h : rest.head? ≠ some ']') :
    readValue? (bound + 1) ('[' :: rest) =
      (readItems? bound (',' :: rest)).bind (fun read => some (.list read.1, read.2)) := by
  rw [readValue?, if_neg (by decide), if_pos rfl, if_neg h]
  rfl

theorem readValue?_object (h : rest.head? ≠ some '\x7d') :
    readValue? (bound + 1) ('\x7b' :: rest) =
      (readFields? bound (',' :: rest)).bind (fun read => some (.object read.1, read.2)) := by
  rw [readValue?, if_neg (by decide), if_neg (by decide), if_pos rfl, if_neg h]
  rfl

theorem readItems?_cons {item : Json} {items : List Json} {behind last : List Char}
    (hitem : readValue? bound rest = some (item, behind))
    (hitems : readItems? bound behind = some (items, last)) :
    readItems? (bound + 1) (',' :: rest) = some (item :: items, last) := by
  rw [readItems?, if_pos rfl, hitem]
  simp [hitems]

theorem readFields?_cons {name : String} {value : Json} {fields : List (String × Json)}
    {behind last : List Char} (hvalue : readValue? bound rest = some (value, behind))
    (hfields : readFields? bound behind = some (fields, last)) :
    readFields? (bound + 1) (',' :: ((Json.quote name).toList ++ ':' :: rest)) =
      some ((name, value) :: fields, last) := by
  have hname := readChars?_quoted name.toList (':' :: rest)
  rw [readFields?, if_pos rfl, toList_quote]
  simp only [List.cons_append, List.append_assoc, List.nil_append, List.head?_cons, if_true,
    List.tail_cons, hname, Option.bind_eq_bind, Option.bind_some, hvalue, hfields,
    String.ofList_toList]
  rfl

end Steps

mutual

theorem readValue?_charsOf : ∀ (value : Json) (bound : Nat) (rest : List Char),
    (charsOf value).length < bound →
    readValue? bound (charsOf value ++ rest) = some (value, rest)
  | _, 0, _, h => absurd h (Nat.not_lt_zero _)
  | .null, bound + 1, rest, _ => rfl
  | .bool true, bound + 1, rest, _ => rfl
  | .bool false, bound + 1, rest, _ => rfl
  | .text s, bound + 1, rest, _ => readValue?_text bound s rest
  | .list [], bound + 1, rest, _ => rfl
  | .object [], bound + 1, rest, _ => rfl
  | .list (item :: items), bound + 1, rest, h => by
    rw [length_charsOf_list] at h
    have hread := readItems?_itemsText (item :: items) bound rest (by omega)
    obtain ⟨text, htext, hitems⟩ := charsOf_list item items
    rw [← hitems, List.cons_append] at hread
    -- behind the bracket stands the first item, and not the end of the list
    have hhead : (text ++ ']' :: rest).head? ≠ some ']' := by
      rw [itemsText_cons] at hitems
      rw [(List.cons.inj hitems).2, List.append_assoc]
      exact head?_charsOf_ne item _
    rw [htext, List.cons_append, List.append_assoc, List.singleton_append,
      readValue?_list bound hhead, hread]
    rfl
  | .object ((name, value) :: fields), bound + 1, rest, h => by
    rw [length_charsOf_object] at h
    have hread := readFields?_fieldsText ((name, value) :: fields) bound rest (by omega)
    obtain ⟨text, htext, hfields⟩ := charsOf_object (name, value) fields
    rw [← hfields, List.cons_append] at hread
    have hhead : (text ++ '\x7d' :: rest).head? ≠ some '\x7d' := by
      rw [fieldsText_cons, toList_quote] at hfields
      rw [(List.cons.inj hfields).2]
      simp
    rw [htext, List.cons_append, List.append_assoc, List.singleton_append,
      readValue?_object bound hhead, hread]
    rfl

theorem readItems?_itemsText : ∀ (items : List Json) (bound : Nat) (rest : List Char),
    (itemsText items).length < bound →
    readItems? bound (itemsText items ++ ']' :: rest) = some (items, rest)
  | _, 0, _, h => absurd h (Nat.not_lt_zero _)
  | [], bound + 1, rest, _ => rfl
  | item :: items, bound + 1, rest, h => by
    rw [itemsText_cons, List.length_cons, List.length_append] at h
    rw [itemsText_cons, List.cons_append, List.append_assoc]
    exact readItems?_cons bound (readValue?_charsOf item bound _ (by omega))
      (readItems?_itemsText items bound rest (by omega))

theorem readFields?_fieldsText : ∀ (fields : List (String × Json)) (bound : Nat)
    (rest : List Char), (fieldsText fields).length < bound →
    readFields? bound (fieldsText fields ++ '\x7d' :: rest) = some (fields, rest)
  | _, 0, _, h => absurd h (Nat.not_lt_zero _)
  | [], bound + 1, rest, _ => rfl
  | (name, value) :: fields, bound + 1, rest, h => by
    rw [fieldsText_cons, List.length_cons, List.length_append, List.length_cons,
      List.length_append] at h
    rw [fieldsText_cons, List.cons_append, List.append_assoc, List.cons_append, List.append_assoc]
    exact readFields?_cons bound (readValue?_charsOf value bound _ (by omega))
      (readFields?_fieldsText fields bound rest (by omega))

end

/-- **What is written is read back.** So a text says no more than one value. -/
theorem readJson?_render (value : Json) : readJson? value.render = some value := by
  have hlength : (charsOf value).length < value.render.length + 1 :=
    Nat.lt_succ_of_le (Nat.le_of_eq String.length_toList)
  have hread := readValue?_charsOf value (value.render.length + 1) [] hlength
  rw [List.append_nil, charsOf] at hread
  rw [readJson?, hread]

/-- The reader knows more spellings than the writer has. -/
example : readJson? "[\"\\u0041\\/\",null]" = some (.list [.text "A/", .null]) := by cbv

/-- A body that says this: it is the text of the value, and the value is what is read in it. -/
structure Conveys (body : String) (value : Json) : Prop where
  text : body = value.render
  read : readJson? body = some value

theorem conveys_render (value : Json) : Conveys value.render value := ⟨rfl, readJson?_render value⟩

theorem render_injective {value other : Json} (h : value.render = other.render) :
    value = other := by
  have hread := readJson?_render value
  rw [h, readJson?_render other] at hread
  exact (Option.some.inj hread).symm

end Gatehouse.Proofs
