/-!
The compact text of a JSON value, and that it determines the value. How numbers are kept
and written is left open; the rest is written in ASCII as `ensure_ascii` does.
-/

inductive JsonValue (Number : Type)
  | null
  | boolean (value : Bool)
  | number (value : Number)
  | text (value : String)
  | list (items : List (JsonValue Number))
  | dict (entries : List (String × JsonValue Number))

namespace JsonText

def hexDigit (value : Nat) : Char := Nat.digitChar value

def unicodeEscape (unit : Nat) : List Char :=
  ['\\', 'u', hexDigit (unit / 4096 % 16), hexDigit (unit / 256 % 16), hexDigit (unit / 16 % 16), hexDigit (unit % 16)]

def escaped (character : Char) : List Char :=
  if character = '\\' then ['\\', '\\']
  else if character = '"' then ['\\', '"']
  else if character = '\n' then ['\\', 'n']
  else if character = '\r' then ['\\', 'r']
  else if character = '\t' then ['\\', 't']
  else if character.toNat = 8 then ['\\', 'b']
  else if character.toNat = 12 then ['\\', 'f']
  else if 0x20 ≤ character.toNat ∧ character.toNat < 0x7F then [character]
  else if character.toNat < 0x10000 then unicodeEscape character.toNat
  else
    unicodeEscape (0xD800 + (character.toNat - 0x10000) / 0x400) ++
      unicodeEscape (0xDC00 + (character.toNat - 0x10000) % 0x400)

def quotedText (value : String) : List Char :=
  '"' :: value.toList.flatMap escaped ++ ['"']

/-- Texts of numbers end where a value may end, and begin unlike every other value. -/
structure NumberFormat (Number : Type) where
  digits : Number → List Char
  injective : ∀ first second, digits first = digits second → first = second
  unpunctuated : ∀ number, ∀ character ∈ digits number, character ∉ [',', ']', '\x7d']
  opening : ∀ number, ∃ first rest, digits number = first :: rest ∧ first ∉ ['n', 't', 'f', '"', '[', '\x7b']

section

variable {Number : Type} (format : NumberFormat Number)

mutual

def dumps : JsonValue Number → List Char
  | .null => "null".toList
  | .boolean value => if value then "true".toList else "false".toList
  | .number value => format.digits value
  | .text value => quotedText value
  | .list items => '[' :: dumpsItems true items
  | .dict entries => '\x7b' :: dumpsEntries true entries

def dumpsItems (first : Bool) : List (JsonValue Number) → List Char
  | [] => [']']
  | item :: rest => (if first then [] else [',']) ++ dumps item ++ dumpsItems false rest

def dumpsEntries (first : Bool) : List (String × JsonValue Number) → List Char
  | [] => ['\x7d']
  | (key, value) :: rest =>
      (if first then [] else [',']) ++ quotedText key ++ ':' :: dumps value ++ dumpsEntries false rest

end

end

def hexValue (character : Char) : Nat :=
  if character.isDigit then character.toNat - '0'.toNat else character.toNat - 'a'.toNat + 10

def unitOf (first second third fourth : Char) : Nat :=
  hexValue first * 4096 + hexValue second * 256 + hexValue third * 16 + hexValue fourth

def unescaped : List Char → Option (Char × List Char)
  | '\\' :: 'u' :: first :: second :: third :: fourth :: rest =>
      let unit := unitOf first second third fourth
      if 0xD800 ≤ unit ∧ unit < 0xDC00 then
        match rest with
        | '\\' :: 'u' :: fifth :: sixth :: seventh :: eighth :: rest =>
            some (Char.ofNat (0x10000 + (unit - 0xD800) * 0x400 + (unitOf fifth sixth seventh eighth - 0xDC00)), rest)
        | _ => none
      else some (Char.ofNat unit, rest)
  | '\\' :: '\\' :: rest => some ('\\', rest)
  | '\\' :: '"' :: rest => some ('"', rest)
  | '\\' :: 'n' :: rest => some ('\n', rest)
  | '\\' :: 'r' :: rest => some ('\r', rest)
  | '\\' :: 't' :: rest => some ('\t', rest)
  | '\\' :: 'b' :: rest => some (Char.ofNat 8, rest)
  | '\\' :: 'f' :: rest => some (Char.ofNat 12, rest)
  | '\\' :: _ => none
  | '"' :: _ => none
  | character :: rest => some (character, rest)
  | [] => none

theorem hexValue_hexDigit : ∀ value < 16, hexValue (hexDigit value) = value := by
  decide

theorem unitOf_unicodeEscape (unit : Nat) (bounded : unit < 0x10000) :
    unitOf (hexDigit (unit / 4096 % 16)) (hexDigit (unit / 256 % 16)) (hexDigit (unit / 16 % 16))
      (hexDigit (unit % 16)) = unit := by
  unfold unitOf
  rw [hexValue_hexDigit _ (by omega), hexValue_hexDigit _ (by omega), hexValue_hexDigit _ (by omega),
    hexValue_hexDigit _ (by omega)]
  omega

theorem toNat_scalar (character : Char) :
    character.toNat < 0xD800 ∨ (0xDFFF < character.toNat ∧ character.toNat < 0x110000) :=
  character.valid

theorem unescaped_plain {character : Char} (noBackslash : character ≠ '\\') (noQuote : character ≠ '"')
    (rest : List Char) : unescaped (character :: rest) = some (character, rest) := by
  rw [unescaped.eq_def]
  split <;> simp_all

theorem unescaped_unicodeEscape {unit : Nat} (bounded : unit < 0x10000) (single : unit < 0xD800 ∨ 0xDFFF < unit)
    (rest : List Char) : unescaped (unicodeEscape unit ++ rest) = some (Char.ofNat unit, rest) := by
  have noPair : ¬ (0xD800 ≤ unit ∧ unit < 0xDC00) := by omega
  simp only [unicodeEscape, List.cons_append, List.nil_append, unescaped, unitOf_unicodeEscape unit bounded]
  rw [if_neg noPair]

theorem unescaped_surrogates {high low : Nat} (highBounded : high < 0x400) (lowBounded : low < 0x400)
    (rest : List Char) :
    unescaped (unicodeEscape (0xD800 + high) ++ unicodeEscape (0xDC00 + low) ++ rest) =
      some (Char.ofNat (0x10000 + high * 0x400 + low), rest) := by
  have isPair : 0xD800 ≤ 0xD800 + high ∧ 0xD800 + high < 0xDC00 := by omega
  have highUnit := unitOf_unicodeEscape (0xD800 + high) (by omega)
  have lowUnit := unitOf_unicodeEscape (0xDC00 + low) (by omega)
  simp only [unicodeEscape, List.cons_append, List.nil_append, unescaped, highUnit, lowUnit]
  rw [if_pos isPair]
  simp

theorem unescaped_escaped (character : Char) (rest : List Char) :
    unescaped (escaped character ++ rest) = some (character, rest) := by
  have self : Char.ofNat character.toNat = character := Char.ofNat_toNat character
  have scalar := toNat_scalar character
  unfold escaped
  by_cases backslash : character = '\\'
  · rw [if_pos backslash, backslash]
    rfl
  by_cases quote : character = '"'
  · rw [if_neg backslash, if_pos quote, quote]
    rfl
  by_cases newline : character = '\n'
  · rw [if_neg backslash, if_neg quote, if_pos newline, newline]
    rfl
  by_cases carriage : character = '\r'
  · rw [if_neg backslash, if_neg quote, if_neg newline, if_pos carriage, carriage]
    rfl
  by_cases tab : character = '\t'
  · rw [if_neg backslash, if_neg quote, if_neg newline, if_neg carriage, if_pos tab, tab]
    rfl
  rw [if_neg backslash, if_neg quote, if_neg newline, if_neg carriage, if_neg tab]
  by_cases backspace : character.toNat = 8
  · rw [if_pos backspace, ← self, backspace]
    rfl
  by_cases feed : character.toNat = 12
  · rw [if_neg backspace, if_pos feed, ← self, feed]
    rfl
  rw [if_neg backspace, if_neg feed]
  by_cases printable : 0x20 ≤ character.toNat ∧ character.toNat < 0x7F
  · rw [if_pos printable]
    exact unescaped_plain backslash quote rest
  rw [if_neg printable]
  by_cases plane : character.toNat < 0x10000
  · rw [if_pos plane, unescaped_unicodeEscape plane (by omega), self]
  · rw [if_neg plane, unescaped_surrogates (by omega) (by omega)]
    have whole : 0x10000 + (character.toNat - 0x10000) / 0x400 * 0x400 + (character.toNat - 0x10000) % 0x400 =
        character.toNat := by omega
    rw [whole, self]

/-! A text determines its value, whatever follows. -/

theorem escaped_cancel {first second : Char} {rest other : List Char}
    (same : escaped first ++ rest = escaped second ++ other) : first = second ∧ rest = other := by
  have read := congrArg unescaped same
  rw [unescaped_escaped, unescaped_escaped, Option.some.injEq, Prod.mk.injEq] at read
  exact read

theorem escaped_ne_quote {character : Char} {rest other : List Char} :
    escaped character ++ rest ≠ '"' :: other := by
  intro same
  have read := congrArg unescaped same
  rw [unescaped_escaped] at read
  simp [unescaped] at read

theorem characters_cancel {first second : List Char} {rest other : List Char}
    (same : first.flatMap escaped ++ '"' :: rest = second.flatMap escaped ++ '"' :: other) :
    first = second ∧ rest = other := by
  induction first generalizing second with
  | nil =>
      cases second with
      | nil => exact ⟨rfl, by simpa using same⟩
      | cons character later =>
          rw [List.flatMap_cons, List.append_assoc] at same
          exact (escaped_ne_quote same.symm).elim
  | cons character earlier ih =>
      cases second with
      | nil =>
          rw [List.flatMap_cons, List.append_assoc] at same
          exact (escaped_ne_quote same).elim
      | cons matching later =>
          rw [List.flatMap_cons, List.flatMap_cons, List.append_assoc, List.append_assoc] at same
          obtain ⟨sameHead, sameTail⟩ := escaped_cancel same
          obtain ⟨sameRest, sameEnd⟩ := ih sameTail
          exact ⟨by rw [sameHead, sameRest], sameEnd⟩

theorem quotedText_cancel {first second : String} {rest other : List Char}
    (same : quotedText first ++ rest = quotedText second ++ other) : first = second ∧ rest = other := by
  simp only [quotedText, List.cons_append, List.append_assoc, List.nil_append, List.cons.injEq, true_and] at same
  obtain ⟨characters, sameRest⟩ := characters_cancel same
  exact ⟨String.toList_injective characters, sameRest⟩

def Delimited (rest : List Char) : Prop :=
  ∀ character, rest.head? = some character → character ∈ [',', ']', '\x7d']

theorem Delimited.nil : Delimited [] := by
  intro character isHead
  cases isHead

theorem Delimited.cons {character : Char} (rest : List Char) (punctuation : character ∈ [',', ']', '\x7d']) :
    Delimited (character :: rest) := by
  intro other isHead
  rw [List.head?_cons, Option.some.injEq] at isHead
  rw [← isHead]
  exact punctuation

theorem unpunctuated_cancel {first second rest other : List Char}
    (plainFirst : ∀ character ∈ first, character ∉ [',', ']', '\x7d'])
    (plainSecond : ∀ character ∈ second, character ∉ [',', ']', '\x7d'])
    (delimited : Delimited rest) (delimitedOther : Delimited other) (same : first ++ rest = second ++ other) :
    first = second ∧ rest = other := by
  induction first generalizing second with
  | nil =>
      cases second with
      | nil => exact ⟨rfl, same⟩
      | cons character later =>
          have punctuation := delimited character (by rw [← List.nil_append rest, same]; rfl)
          exact (plainSecond character (by simp) punctuation).elim
  | cons character earlier ih =>
      cases second with
      | nil =>
          have punctuation := delimitedOther character (by rw [← List.nil_append other, ← same]; rfl)
          exact (plainFirst character (by simp) punctuation).elim
      | cons matching later =>
          simp only [List.cons_append, List.cons.injEq] at same
          obtain ⟨sameRest, sameEnd⟩ := ih (fun other member => plainFirst other (by simp [member]))
            (fun other member => plainSecond other (by simp [member])) same.2
          exact ⟨by rw [same.1, sameRest], sameEnd⟩

section

variable {Number : Type} {format : NumberFormat Number}

theorem digits_cancel {first second : Number} {rest other : List Char} (delimited : Delimited rest)
    (delimitedOther : Delimited other) (same : format.digits first ++ rest = format.digits second ++ other) :
    first = second ∧ rest = other := by
  obtain ⟨digits, sameRest⟩ := unpunctuated_cancel (format.unpunctuated first) (format.unpunctuated second)
    delimited delimitedOther same
  exact ⟨format.injective first second digits, sameRest⟩

theorem dumpsItems_delimited (items : List (JsonValue Number)) (rest : List Char) :
    Delimited (dumpsItems format false items ++ rest) := by
  cases items with
  | nil => exact .cons rest (by decide)
  | cons item later =>
      simp only [dumpsItems, Bool.false_eq_true, ↓reduceIte, List.cons_append, List.append_assoc]
      exact .cons _ (by decide)

theorem dumpsEntries_delimited (entries : List (String × JsonValue Number)) (rest : List Char) :
    Delimited (dumpsEntries format false entries ++ rest) := by
  cases entries with
  | nil => exact .cons rest (by decide)
  | cons entry later =>
      simp only [dumpsEntries, Bool.false_eq_true, ↓reduceIte, List.cons_append, List.append_assoc]
      exact .cons _ (by decide)

def JsonValue.opening : JsonValue Number → Option Char
  | .null => some 'n'
  | .boolean value => some (if value then 't' else 'f')
  | .number _ => none
  | .text _ => some '"'
  | .list _ => some '['
  | .dict _ => some '\x7b'

def readOpening : List Char → Option Char
  | [] => none
  | character :: _ => if character ∈ ['n', 't', 'f', '"', '[', '\x7b'] then some character else none

theorem readOpening_dumps (format : NumberFormat Number) (value : JsonValue Number) (rest : List Char) :
    readOpening (dumps format value ++ rest) = JsonValue.opening value := by
  cases value with
  | null => rfl
  | boolean value => cases value <;> rfl
  | number value =>
      obtain ⟨first, later, digits, unlike⟩ := format.opening value
      simp only [dumps, digits, List.cons_append, readOpening, JsonValue.opening]
      exact if_neg unlike
  | text value => rfl
  | list items => simp [dumps, readOpening, JsonValue.opening]
  | dict entries => simp [dumps, readOpening, JsonValue.opening]

theorem dumps_unpunctuated {value : JsonValue Number} {character : Char} {rest other : List Char}
    (punctuation : character ∈ [',', ']', '\x7d']) : dumps format value ++ rest ≠ character :: other := by
  intro same
  have opening := readOpening_dumps format value rest
  cases value with
  | number value =>
      obtain ⟨first, later, digits, _⟩ := format.opening value
      simp only [dumps, digits, List.cons_append, List.cons.injEq] at same
      have plain := format.unpunctuated value first (by rw [digits]; exact List.mem_cons_self)
      rw [same.1] at plain
      exact plain punctuation
  | _ =>
      rw [same] at opening
      have plain : readOpening (character :: other) = none := by
        simp only [List.mem_cons, List.not_mem_nil, or_false] at punctuation
        rcases punctuation with rfl | rfl | rfl <;> rfl
      rw [plain] at opening
      cases opening

theorem dumpsItems_ended {isFirst : Bool} {item : JsonValue Number} {items : List (JsonValue Number)}
    {rest other : List Char} :
    dumpsItems format isFirst (item :: items) ++ rest ≠ dumpsItems format isFirst [] ++ other := by
  intro same
  cases isFirst with
  | false => simp [dumpsItems] at same
  | true =>
      simp only [dumpsItems, ↓reduceIte, List.nil_append, List.append_assoc, List.cons_append] at same
      exact dumps_unpunctuated (by decide) same

theorem dumpsEntries_ended {isFirst : Bool} {entry : String × JsonValue Number}
    {entries : List (String × JsonValue Number)} {rest other : List Char} :
    dumpsEntries format isFirst (entry :: entries) ++ rest ≠ dumpsEntries format isFirst [] ++ other := by
  intro same
  cases isFirst <;> simp [dumpsEntries, quotedText] at same

mutual

theorem dumps_cancel {first second : JsonValue Number} {rest other : List Char} (delimited : Delimited rest)
    (delimitedOther : Delimited other) (same : dumps format first ++ rest = dumps format second ++ other) :
    first = second ∧ rest = other := by
  have opening : JsonValue.opening first = JsonValue.opening second := by
    rw [← readOpening_dumps format first rest, same, readOpening_dumps]
  cases first with
  | null =>
      cases second with
      | null => exact ⟨rfl, List.append_cancel_left same⟩
      | _ => grind [JsonValue.opening]
  | boolean value =>
      cases second with
      | boolean matching =>
          have sameValue : value = matching := by
            cases value <;> cases matching <;> simp [JsonValue.opening] at opening ⊢
          subst sameValue
          exact ⟨rfl, List.append_cancel_left same⟩
      | _ => grind [JsonValue.opening]
  | number value =>
      cases second with
      | number matching =>
          simp only [dumps] at same
          obtain ⟨sameValue, sameRest⟩ := digits_cancel delimited delimitedOther same
          exact ⟨by rw [sameValue], sameRest⟩
      | _ => simp [JsonValue.opening] at opening
  | text value =>
      cases second with
      | text matching =>
          simp only [dumps] at same
          obtain ⟨sameValue, sameRest⟩ := quotedText_cancel same
          exact ⟨by rw [sameValue], sameRest⟩
      | _ => grind [JsonValue.opening]
  | list items =>
      cases second with
      | list others =>
          simp only [dumps, List.cons_append, List.cons.injEq, true_and] at same
          obtain ⟨sameItems, sameRest⟩ := dumpsItems_cancel delimited delimitedOther same
          exact ⟨by rw [sameItems], sameRest⟩
      | _ => grind [JsonValue.opening]
  | dict entries =>
      cases second with
      | dict others =>
          simp only [dumps, List.cons_append, List.cons.injEq, true_and] at same
          obtain ⟨sameEntries, sameRest⟩ := dumpsEntries_cancel delimited delimitedOther same
          exact ⟨by rw [sameEntries], sameRest⟩
      | _ => grind [JsonValue.opening]

theorem dumpsItems_cancel {isFirst : Bool} {items others : List (JsonValue Number)} {rest other : List Char}
    (delimited : Delimited rest) (delimitedOther : Delimited other)
    (same : dumpsItems format isFirst items ++ rest = dumpsItems format isFirst others ++ other) :
    items = others ∧ rest = other := by
  match items, others with
  | [], [] => exact ⟨rfl, List.append_cancel_left same⟩
  | [], matching :: later => exact (dumpsItems_ended same.symm).elim
  | item :: earlier, [] => exact (dumpsItems_ended same).elim
  | item :: earlier, matching :: later =>
      simp only [dumpsItems, List.append_assoc, List.append_cancel_left_eq] at same
      obtain ⟨sameItem, sameLater⟩ := dumps_cancel (dumpsItems_delimited earlier rest)
        (dumpsItems_delimited later other) same
      obtain ⟨sameItems, sameRest⟩ := dumpsItems_cancel delimited delimitedOther sameLater
      exact ⟨by rw [sameItem, sameItems], sameRest⟩

theorem dumpsEntries_cancel {isFirst : Bool} {entries others : List (String × JsonValue Number)}
    {rest other : List Char} (delimited : Delimited rest) (delimitedOther : Delimited other)
    (same : dumpsEntries format isFirst entries ++ rest = dumpsEntries format isFirst others ++ other) :
    entries = others ∧ rest = other := by
  match entries, others with
  | [], [] => exact ⟨rfl, List.append_cancel_left same⟩
  | [], (key, value) :: later => exact (dumpsEntries_ended same.symm).elim
  | (key, value) :: earlier, [] => exact (dumpsEntries_ended same).elim
  | (key, value) :: earlier, (otherKey, matching) :: later =>
      simp only [dumpsEntries, List.append_assoc, List.cons_append, List.append_cancel_left_eq] at same
      obtain ⟨sameKey, sameValue⟩ := quotedText_cancel same
      rw [List.cons.injEq] at sameValue
      obtain ⟨sameItem, sameLater⟩ := dumps_cancel (dumpsEntries_delimited earlier rest)
        (dumpsEntries_delimited later other) sameValue.2
      obtain ⟨sameEntries, sameRest⟩ := dumpsEntries_cancel delimited delimitedOther sameLater
      exact ⟨by rw [sameKey, sameItem, sameEntries], sameRest⟩

end

theorem dumps_injective {first second : JsonValue Number} (same : dumps format first = dumps format second) :
    first = second := by
  have extended : dumps format first ++ [] = dumps format second ++ [] := by rw [same]
  exact (dumps_cancel .nil .nil extended).1

end

end JsonText
