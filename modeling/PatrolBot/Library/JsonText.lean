import Mathlib.Data.List.Sort
import Mathlib.Data.String.Basic
import Mathlib.Algebra.GroupWithZero.Nat
import Mathlib.Algebra.Order.BigOperators.Group.List

/-!
# Compact JSON texts

The text a serializer writes for a JSON value with no blanks in it and every
character outside printable ASCII escaped, and the reader of such texts.  The
reader gives back the value a text was written from.  How a floating-point
number is written is a parameter.
-/

namespace PatrolBot.JsonText

/-- A JSON value; `F` is the type of its floating-point numbers. -/
inductive Value (F : Type) where
  | null
  | bool (value : Bool)
  | int (value : Int)
  | real (value : F)
  | str (value : String)
  | list (items : List (Value F))
  | obj (fields : List (String × Value F))

variable {F : Type}

/-! ### Characters of strings -/

/-- `\uXXXX`. -/
def escapedUnit (n : Nat) : List Char :=
  ['\\', 'u', Nat.digitChar (n / 4096 % 16), Nat.digitChar (n / 256 % 16),
    Nat.digitChar (n / 16 % 16), Nat.digitChar (n % 16)]

/-- A character inside a string; outside the basic plane it takes two units. -/
def escape (c : Char) : List Char :=
  if c = '"' then ['\\', '"']
  else if c = '\\' then ['\\', '\\']
  else if c = '\n' then ['\\', 'n']
  else if c = '\r' then ['\\', 'r']
  else if c = '\t' then ['\\', 't']
  else if c = '\x0c' then ['\\', 'f']
  else if c = '\x08' then ['\\', 'b']
  else if ' ' ≤ c ∧ c ≤ '~' then [c]
  else if c.toNat < 0x10000 then escapedUnit c.toNat
  else
    escapedUnit (0xd800 + (c.toNat - 0x10000) / 1024) ++
      escapedUnit (0xdc00 + (c.toNat - 0x10000) % 1024)

def hexValue (c : Char) : Option Nat :=
  if '0' ≤ c ∧ c ≤ '9' then some (c.toNat - 48)
  else if 'a' ≤ c ∧ c ≤ 'f' then some (c.toNat - 87)
  else none

/-- Four hexadecimal digits. -/
def readUnit : List Char → Option (Nat × List Char)
  | a :: b :: c :: d :: rest =>
    match hexValue a, hexValue b, hexValue c, hexValue d with
    | some a, some b, some c, some d => some (4096 * a + 256 * b + 16 * c + d, rest)
    | _, _, _, _ => none
  | _ => none

/-- What follows `\u`; a unit of the upper half waits for its lower half. -/
def readEscapedUnit (text : List Char) : Option (Char × List Char) :=
  match readUnit text with
  | none => none
  | some (high, rest) =>
    if 0xd800 ≤ high ∧ high < 0xdc00 then
      match rest with
      | '\\' :: 'u' :: rest =>
        match readUnit rest with
        | some (low, rest) =>
          some (Char.ofNat (0x10000 + 1024 * (high - 0xd800) + (low - 0xdc00)), rest)
        | none => none
      | _ => none
    else some (Char.ofNat high, rest)

/-- The character a one-letter escape stands for. -/
def unescape (c : Char) : Option Char :=
  if c = '"' then some '"'
  else if c = '\\' then some '\\'
  else if c = '/' then some '/'
  else if c = 'n' then some '\n'
  else if c = 'r' then some '\r'
  else if c = 't' then some '\t'
  else if c = 'f' then some '\x0c'
  else if c = 'b' then some '\x08'
  else none

/-- One character of a string. -/
def readChar : List Char → Option (Char × List Char)
  | [] => none
  | c :: rest =>
    if c = '\\' then
      match rest with
      | [] => none
      | mark :: rest =>
        if mark = 'u' then readEscapedUnit rest
        else (unescape mark).map fun c => (c, rest)
    else some (c, rest)

/-- The characters up to the closing quote. -/
def readChars : Nat → List Char → Option (List Char × List Char)
  | 0, _ => none
  | _ + 1, [] => none
  | fuel + 1, c :: rest =>
    if c = '"' then some ([], rest)
    else match readChar (c :: rest) with
      | none => none
      | some (c, rest) =>
        (readChars fuel rest).map fun (characters, rest) => (c :: characters, rest)

/-- A string without its opening quote. -/
def stringBody (characters : List Char) : List Char := characters.flatMap escape ++ ['"']

def readString (text : List Char) : Option (String × List Char) :=
  (readChars text.length text).map fun (characters, rest) => (String.ofList characters, rest)

theorem hexValue_digitChar : ∀ d < 16, hexValue (Nat.digitChar d) = some d := by decide

theorem readUnit_escapedUnit {n : Nat} (h : n < 0x10000) (rest : List Char) :
    readUnit ((escapedUnit n).drop 2 ++ rest) = some (n, rest) := by
  have h₁ := hexValue_digitChar (n / 4096 % 16) (by omega)
  have h₂ := hexValue_digitChar (n / 256 % 16) (by omega)
  have h₃ := hexValue_digitChar (n / 16 % 16) (by omega)
  have h₄ := hexValue_digitChar (n % 16) (by omega)
  simp only [escapedUnit, List.drop_succ_cons, List.drop_zero, List.cons_append, List.nil_append,
    readUnit, h₁, h₂, h₃, h₄, Option.some.injEq, Prod.mk.injEq, and_true]
  omega

theorem escapedUnit_append (n : Nat) (rest : List Char) :
    escapedUnit n ++ rest = '\\' :: 'u' :: ((escapedUnit n).drop 2 ++ rest) := rfl

/-- A character of the basic plane is no half of a pair. -/
theorem not_surrogate (c : Char) : ¬(0xd800 ≤ c.toNat ∧ c.toNat < 0xdc00) := by
  intro h
  rcases c.valid with hlow | hhigh
  · have hlow : c.toNat < 0xd800 := hlow
    omega
  · have hhigh : 0xdfff < c.toNat := hhigh.1
    omega

theorem toNat_lt (c : Char) : c.toNat < 0x110000 := by
  rcases c.valid with hlow | hhigh
  · have hlow : c.toNat < 0xd800 := hlow
    omega
  · exact hhigh.2

theorem readEscapedUnit_basic {n : Nat} (h : n < 0x10000) (hpair : ¬(0xd800 ≤ n ∧ n < 0xdc00))
    (rest : List Char) :
    readEscapedUnit ((escapedUnit n).drop 2 ++ rest) = some (Char.ofNat n, rest) := by
  simp only [readEscapedUnit, readUnit_escapedUnit h, if_neg hpair]

/-- The upper half carries ten bits and the lower half ten. -/
theorem readEscapedUnit_pair {high low : Nat} (hhigh : high < 0x400) (hlow : low < 0x400)
    (rest : List Char) :
    readEscapedUnit ((escapedUnit (0xd800 + high)).drop 2 ++
      (escapedUnit (0xdc00 + low) ++ rest)) =
      some (Char.ofNat (0x10000 + 1024 * high + low), rest) := by
  have hpair : 0xd800 ≤ 0xd800 + high ∧ 0xd800 + high < 0xdc00 := by omega
  simp only [readEscapedUnit, readUnit_escapedUnit (show 0xd800 + high < 0x10000 by omega),
    if_pos hpair, escapedUnit_append (0xdc00 + low),
    readUnit_escapedUnit (show 0xdc00 + low < 0x10000 by omega), Nat.add_sub_cancel_left]

theorem readChar_escape (c : Char) (rest : List Char) :
    readChar (escape c ++ rest) = some (c, rest) := by
  unfold escape
  split_ifs with hquote hslash hn hr ht hf hb hplain hbasic
  · subst hquote
    simp [readChar, unescape]
  · subst hslash
    simp [readChar, unescape]
  · subst hn
    simp [readChar, unescape]
  · subst hr
    simp [readChar, unescape]
  · subst ht
    simp [readChar, unescape]
  · subst hf
    simp [readChar, unescape]
  · subst hb
    simp [readChar, unescape]
  · simp [readChar, hslash]
  · rw [escapedUnit_append]
    simp only [readChar, if_true, readEscapedUnit_basic hbasic (not_surrogate c), Char.ofNat_toNat]
  · have hlt := toNat_lt c
    have hhigh : (c.toNat - 0x10000) / 1024 < 0x400 := by omega
    have hlow : (c.toNat - 0x10000) % 1024 < 0x400 := by omega
    have hvalue : 0x10000 + 1024 * ((c.toNat - 0x10000) / 1024) + (c.toNat - 0x10000) % 1024 =
        c.toNat := by omega
    rw [List.append_assoc, escapedUnit_append]
    simp only [readChar, if_true, readEscapedUnit_pair hhigh hlow, hvalue, Char.ofNat_toNat]

/-- An escaped character never looks like the closing quote. -/
theorem escape_head (c : Char) : ∃ first tail, escape c = first :: tail ∧ first ≠ '"' := by
  unfold escape
  split_ifs with hquote
  all_goals first
    | exact ⟨_, _, rfl, by decide⟩
    | exact ⟨_, _, rfl, hquote⟩

theorem readChars_stringBody (characters rest : List Char) (fuel : Nat)
    (h : characters.length < fuel) :
    readChars fuel (stringBody characters ++ rest) = some (characters, rest) := by
  induction characters generalizing fuel with
  | nil =>
    cases fuel with
    | zero => simp at h
    | succ fuel => simp [stringBody, readChars]
  | cons c characters ih =>
    cases fuel with
    | zero => simp at h
    | succ fuel =>
      obtain ⟨first, tail, hescape, hfirst⟩ := escape_head c
      have hread := readChar_escape c (stringBody characters ++ rest)
      have hsplit : stringBody (c :: characters) ++ rest =
          first :: (tail ++ (stringBody characters ++ rest)) := by
        simp [stringBody, hescape]
      rw [hescape, List.cons_append] at hread
      rw [hsplit]
      simp only [readChars, if_neg hfirst, hread]
      rw [ih fuel (by simpa using h)]
      rfl

theorem length_escape_pos (c : Char) : 0 < (escape c).length := by
  obtain ⟨first, tail, h, -⟩ := escape_head c
  simp [h]

theorem length_le_stringBody (characters : List Char) :
    characters.length < (stringBody characters).length := by
  induction characters with
  | nil => simp [stringBody]
  | cons c characters ih =>
    have hpos := length_escape_pos c
    simp only [stringBody, List.flatMap_cons, List.length_append, List.length_cons] at ih ⊢
    omega

@[simp] theorem readString_stringBody (text : String) (rest : List Char) :
    readString (stringBody text.toList ++ rest) = some (text, rest) := by
  have hlength := length_le_stringBody text.toList
  simp only [readString]
  rw [readChars_stringBody _ _ _ (by rw [List.length_append]; omega)]
  simp

/-! ### Numbers -/

/-- A character of a number's text. -/
def isToken (c : Char) : Bool :=
  c.isDigit || c == '-' || c == '+' || c == '.' || c == 'e' || c == 'E'

/-- What tells the text of a floating-point number from that of an integer. -/
def isMark (c : Char) : Bool := c == '.' || c == 'e' || c == 'E'

/-- How numbers are written: the most digits an integer may have, and how
    floating-point numbers are written and read back; `accepts` are those the
    writer does not refuse. -/
structure Numbers (F : Type) where
  digits : Nat
  text : F → List Char
  read : List Char → Option F
  accepts : F → Bool
  token_of_mem : ∀ x, accepts x = true → ∀ c ∈ text x, isToken c = true
  marked : ∀ x, accepts x = true → (text x).any isMark = true
  read_text : ∀ x, accepts x = true → read (text x) = some x

def intText (n : Int) : List Char :=
  if n < 0 then '-' :: Nat.toDigits 10 n.natAbs else Nat.toDigits 10 n.natAbs

def readInt : List Char → Int
  | '-' :: digits => -(Nat.ofDigitChars 10 digits 0 : Nat)
  | digits => (Nat.ofDigitChars 10 digits 0 : Nat)

variable (numbers : Numbers F)

def readNumber (text : List Char) : Option (Value F × List Char) :=
  let token := text.takeWhile isToken
  let rest := text.dropWhile isToken
  if token = [] then none
  else if token.any isMark then (numbers.read token).map fun x => (.real x, rest)
  else some (.int (readInt token), rest)

/-- A text that no number runs on into. -/
def Ends (rest : List Char) : Prop := ∀ c ∈ rest.head?, isToken c = false

@[simp] theorem ends_nil : Ends [] := by simp [Ends]

@[simp] theorem ends_cons {c : Char} {rest : List Char} :
    Ends (c :: rest) ↔ isToken c = false := by simp [Ends]

theorem takeWhile_token {token rest : List Char} (htoken : ∀ c ∈ token, isToken c = true)
    (hrest : Ends rest) :
    (token ++ rest).takeWhile isToken = token ∧ (token ++ rest).dropWhile isToken = rest := by
  induction token with
  | nil =>
    cases rest with
    | nil => simp
    | cons c rest => simp [ends_cons.mp hrest]
  | cons c token ih =>
    obtain ⟨htake, hdrop⟩ := ih fun d hd => htoken d (List.mem_cons_of_mem _ hd)
    have hc := htoken c List.mem_cons_self
    simp [hc, htake, hdrop]

theorem isToken_of_isDigit {c : Char} (h : c.isDigit = true) : isToken c = true := by
  simp [isToken, h]

theorem isMark_of_isDigit {c : Char} (h : c.isDigit = true) : isMark c = false := by
  have hne : c ≠ '.' ∧ c ≠ 'e' ∧ c ≠ 'E' := by
    refine ⟨?_, ?_, ?_⟩
    all_goals
      rintro rfl
      revert h
      decide
  simp [isMark, hne]

theorem digit_of_mem {n : Nat} {c : Char} (h : c ∈ Nat.toDigits 10 n) : c.isDigit = true :=
  Nat.isDigit_of_mem_toDigits (by decide) (by decide) h

theorem token_of_mem_intText {n : Int} {c : Char} (h : c ∈ intText n) : isToken c = true := by
  unfold intText at h
  split at h
  · rcases List.mem_cons.mp h with rfl | h
    · decide
    · exact isToken_of_isDigit (digit_of_mem h)
  · exact isToken_of_isDigit (digit_of_mem h)

theorem not_marked_intText (n : Int) : (intText n).any isMark = false := by
  have hdigits : (Nat.toDigits 10 n.natAbs).any isMark = false := by
    rw [List.any_eq_false]
    intro c hc
    simp [isMark_of_isDigit (digit_of_mem hc)]
  unfold intText
  split
  · rw [List.any_cons, hdigits]
    decide
  · exact hdigits

theorem intText_ne_nil (n : Int) : intText n ≠ [] := by
  unfold intText
  split
  · simp
  · exact Nat.toDigits_ne_nil

theorem readInt_intText (n : Int) : readInt (intText n) = n := by
  unfold intText
  split
  · simp only [readInt, Nat.ofDigitChars_ten_toDigits]
    omega
  · rename_i hn
    have hvalue : ((Nat.ofDigitChars 10 (Nat.toDigits 10 n.natAbs) 0 : Nat) : Int) = n := by
      rw [Nat.ofDigitChars_ten_toDigits]
      omega
    cases hdigits : Nat.toDigits 10 n.natAbs with
    | nil => exact absurd hdigits Nat.toDigits_ne_nil
    | cons d digits =>
      have hd : d.isDigit = true := digit_of_mem (hdigits ▸ List.mem_cons_self)
      have hne : d ≠ '-' := by
        rintro rfl
        revert hd
        decide
      rw [hdigits] at hvalue
      unfold readInt
      split
      · simp_all
      · exact hvalue

theorem readNumber_intText {n : Int} {rest : List Char} (hrest : Ends rest) :
    readNumber numbers (intText n ++ rest) = some (.int n, rest) := by
  obtain ⟨htake, hdrop⟩ := takeWhile_token (fun c hc => @token_of_mem_intText n _ hc) hrest
  simp only [readNumber, htake, hdrop, if_neg (intText_ne_nil n), not_marked_intText,
    readInt_intText]
  simp

theorem text_ne_nil {x : F} (h : numbers.accepts x = true) : numbers.text x ≠ [] := by
  intro hnil
  have hmarked := numbers.marked x h
  simp [hnil] at hmarked

theorem readNumber_text {x : F} {rest : List Char} (h : numbers.accepts x = true)
    (hrest : Ends rest) :
    readNumber numbers (numbers.text x ++ rest) = some (.real x, rest) := by
  obtain ⟨htake, hdrop⟩ := takeWhile_token (numbers.token_of_mem x h) hrest
  simp only [readNumber, htake, hdrop, if_neg (text_ne_nil numbers h), numbers.marked x h,
    numbers.read_text x h]
  simp

/-! ### Values -/

mutual

/-- The text of a value. -/
def text : Value F → List Char
  | .null => ['n', 'u', 'l', 'l']
  | .bool true => ['t', 'r', 'u', 'e']
  | .bool false => ['f', 'a', 'l', 's', 'e']
  | .int n => intText n
  | .real x => numbers.text x
  | .str value => '"' :: stringBody value.toList
  | .list [] => ['[', ']']
  | .list (item :: items) => '[' :: (text item ++ moreItems items)
  | .obj [] => ['{', '}']
  | .obj ((key, value) :: fields) =>
    '{' :: '"' :: (stringBody key.toList ++ ':' :: (text value ++ moreFields fields))

/-- The items after the first one, and the closing bracket. -/
def moreItems : List (Value F) → List Char
  | [] => [']']
  | item :: items => ',' :: (text item ++ moreItems items)

/-- The fields after the first one, and the closing brace. -/
def moreFields : List (String × Value F) → List Char
  | [] => ['}']
  | (key, value) :: fields =>
    ',' :: '"' :: (stringBody key.toList ++ ':' :: (text value ++ moreFields fields))

end

mutual

/-- A value the writer does not refuse. -/
def writable : Value F → Bool
  | .int n => decide (n.natAbs < 10 ^ numbers.digits)
  | .real x => numbers.accepts x
  | .list items => writableItems items
  | .obj fields => writableFields fields
  | _ => true

def writableItems : List (Value F) → Bool
  | [] => true
  | item :: items => writable item && writableItems items

def writableFields : List (String × Value F) → Bool
  | [] => true
  | (_, value) :: fields => writable value && writableFields fields

end

/-- `word`, if the text begins with it. -/
def readWord (word : List Char) (value : Value F) (text : List Char) :
    Option (Value F × List Char) :=
  if word.isPrefixOf text then some (value, text.drop word.length) else none

mutual

/-- A value at the head of a text, and what follows it. -/
def readValue : Nat → List Char → Option (Value F × List Char)
  | 0, _ => none
  | _ + 1, [] => none
  | fuel + 1, c :: rest =>
    if c = 'n' then readWord ['n', 'u', 'l', 'l'] .null (c :: rest)
    else if c = 't' then readWord ['t', 'r', 'u', 'e'] (.bool true) (c :: rest)
    else if c = 'f' then readWord ['f', 'a', 'l', 's', 'e'] (.bool false) (c :: rest)
    else if c = '"' then (readString rest).map fun (value, rest) => (.str value, rest)
    else if c = '[' then
      if rest.head? = some ']' then some (.list [], rest.tail)
      else match readValue fuel rest with
        | none => none
        | some (item, rest) =>
          (readItems fuel rest).map fun (items, rest) => (.list (item :: items), rest)
    else if c = '{' then
      if rest.head? = some '}' then some (.obj [], rest.tail)
      else match readField fuel rest with
        | none => none
        | some (field, rest) =>
          (readFields fuel rest).map fun (fields, rest) => (.obj (field :: fields), rest)
    else readNumber numbers (c :: rest)

/-- The items after the first one. -/
def readItems : Nat → List Char → Option (List (Value F) × List Char)
  | 0, _ => none
  | _ + 1, [] => none
  | fuel + 1, c :: rest =>
    if c = ']' then some ([], rest)
    else if c = ',' then match readValue fuel rest with
      | none => none
      | some (item, rest) => (readItems fuel rest).map fun (items, rest) => (item :: items, rest)
    else none

/-- One field. -/
def readField : Nat → List Char → Option ((String × Value F) × List Char)
  | 0, _ => none
  | _ + 1, [] => none
  | fuel + 1, c :: rest =>
    if c = '"' then match readString rest with
      | none => none
      | some (key, rest) =>
        if rest.head? = some ':' then
          (readValue fuel rest.tail).map fun (value, rest) => ((key, value), rest)
        else none
    else none

/-- The fields after the first one. -/
def readFields : Nat → List Char → Option (List (String × Value F) × List Char)
  | 0, _ => none
  | _ + 1, [] => none
  | fuel + 1, c :: rest =>
    if c = '}' then some ([], rest)
    else if c = ',' then match readField fuel rest with
      | none => none
      | some (field, rest) =>
        (readFields fuel rest).map fun (fields, rest) => (field :: fields, rest)
    else none

end

/-- The value a whole text holds. -/
def read (text : List Char) : Option (Value F) :=
  match readValue numbers (text.length + 1) text with
  | some (value, []) => some value
  | _ => none

/-! ### Reading back what was written -/

mutual

/-- The fuel a value takes. -/
def size : Value F → Nat
  | .list items => sizeItems items
  | .obj fields => sizeFields fields
  | _ => 1

def sizeItems : List (Value F) → Nat
  | [] => 1
  | item :: items => 1 + size item + sizeItems items

def sizeFields : List (String × Value F) → Nat
  | [] => 1
  | (_, value) :: fields => 2 + size value + sizeFields fields

end

theorem size_pos (value : Value F) : 0 < size value := by
  cases value with
  | list items => cases items <;> simp [size, sizeItems]
  | obj fields =>
    cases fields with
    | nil => simp [size, sizeFields]
    | cons field fields => simp [size, sizeFields]
  | _ => simp [size]

theorem readValue_number {fuel : Nat} {token rest : List Char} (hne : token ≠ [])
    (htoken : ∀ c ∈ token, isToken c = true) :
    readValue numbers (fuel + 1) (token ++ rest) = readNumber numbers (token ++ rest) := by
  cases token with
  | nil => exact absurd rfl hne
  | cons c token =>
    have hc := htoken c List.mem_cons_self
    have hne : c ≠ 'n' ∧ c ≠ 't' ∧ c ≠ 'f' ∧ c ≠ '"' ∧ c ≠ '[' ∧ c ≠ '{' := by
      refine ⟨?_, ?_, ?_, ?_, ?_, ?_⟩
      all_goals
        rintro rfl
        revert hc
        decide
    obtain ⟨hn, ht, hf, hquote, hlist, hobj⟩ := hne
    simp only [List.cons_append, readValue, if_neg hn, if_neg ht, if_neg hf, if_neg hquote,
      if_neg hlist, if_neg hobj]

/-- No value's text begins like the end of an array. -/
theorem text_head {value : Value F} (h : writable numbers value = true) :
    ∃ c tail, text numbers value = c :: tail ∧ c ≠ ']' := by
  have hnumber : ∀ {token : List Char}, token ≠ [] → (∀ c ∈ token, isToken c = true) →
      ∃ c tail, token = c :: tail ∧ c ≠ ']' := by
    intro token hne htoken
    cases token with
    | nil => exact absurd rfl hne
    | cons c token =>
      refine ⟨c, token, rfl, ?_⟩
      rintro rfl
      have hbracket := htoken ']' List.mem_cons_self
      revert hbracket
      decide
  cases value with
  | null => exact ⟨_, _, rfl, by decide⟩
  | bool value => cases value <;> exact ⟨_, _, rfl, by decide⟩
  | int n =>
    rw [text]
    exact hnumber (intText_ne_nil n) fun c hc => token_of_mem_intText hc
  | real x =>
    rw [text]
    exact hnumber (text_ne_nil numbers h) (numbers.token_of_mem x h)
  | str value =>
    rw [text]
    exact ⟨_, _, rfl, by decide⟩
  | list items => cases items <;> (rw [text]; exact ⟨_, _, rfl, by decide⟩)
  | obj fields =>
    cases fields with
    | nil =>
      rw [text]
      exact ⟨_, _, rfl, by decide⟩
    | cons field fields =>
      rw [text]
      exact ⟨_, _, rfl, by decide⟩

theorem readField_text (key : String) {fuel : Nat} {value : Value F} {body rest : List Char}
    (h : readValue numbers fuel (body ++ rest) = some (value, rest)) :
    readField numbers (fuel + 1) ('"' :: (stringBody key.toList ++ ':' :: (body ++ rest))) =
      some ((key, value), rest) := by
  simp only [readField, if_true, readString_stringBody, List.head?_cons, List.tail_cons, h,
    Option.map_some]

theorem moreItems_ends (items : List (Value F)) (rest : List Char) :
    Ends (moreItems numbers items ++ rest) := by
  cases items <;> simp [moreItems, isToken]

theorem moreFields_ends (fields : List (String × Value F)) (rest : List Char) :
    Ends (moreFields numbers fields ++ rest) := by
  cases fields with
  | nil => simp [moreFields, isToken]
  | cons field fields => simp [moreFields, isToken]

mutual

/-- A value is read back from its text, whatever follows it. -/
theorem readValue_text : ∀ (value : Value F) (fuel : Nat) (rest : List Char),
    writable numbers value = true → size value ≤ fuel → Ends rest →
      readValue numbers fuel (text numbers value ++ rest) = some (value, rest)
  | value, 0, rest, _, hfuel, _ => absurd (size_pos value) (by omega)
  | .null, fuel + 1, rest, _, _, _ => by simp [text, readValue, readWord]
  | .bool true, fuel + 1, rest, _, _, _ => by simp [text, readValue, readWord]
  | .bool false, fuel + 1, rest, _, _, _ => by simp [text, readValue, readWord]
  | .int n, fuel + 1, rest, _, _, hrest => by
    rw [text, readValue_number numbers (intText_ne_nil n) fun c hc => token_of_mem_intText hc]
    exact readNumber_intText numbers hrest
  | .real x, fuel + 1, rest, hwrite, _, hrest => by
    rw [text, readValue_number numbers (text_ne_nil numbers hwrite) (numbers.token_of_mem x hwrite)]
    exact readNumber_text numbers hwrite hrest
  | .str value, fuel + 1, rest, _, _, _ => by
    simp [text, readValue]
  | .list [], fuel + 1, rest, _, _, _ => by simp [text, readValue]
  | .list (item :: items), fuel + 1, rest, hwrite, hfuel, _ => by
    simp only [writable, writableItems, Bool.and_eq_true] at hwrite
    simp only [size, sizeItems] at hfuel
    have hitem := readValue_text item fuel (moreItems numbers items ++ rest) hwrite.1 (by omega)
      (moreItems_ends numbers items rest)
    have hitems := readItems_text items fuel rest hwrite.2 (by omega)
    obtain ⟨first, tail, hhead, hfirst⟩ := text_head numbers hwrite.1
    have hbracket : (text numbers item ++ (moreItems numbers items ++ rest)).head? ≠ some ']' := by
      simp [hhead, hfirst]
    simp only [text, List.cons_append, List.append_assoc, readValue, Char.reduceEq, if_false,
      if_true, if_neg hbracket, hitem, hitems, Option.map_some]
  | .obj [], fuel + 1, rest, _, _, _ => by simp [text, readValue]
  | .obj ((key, value) :: fields), fuel + 1, rest, hwrite, hfuel, _ => by
    simp only [writable, writableFields, Bool.and_eq_true] at hwrite
    simp only [size, sizeFields] at hfuel
    obtain ⟨fuel, rfl⟩ : ∃ less, fuel = less + 1 := ⟨fuel - 1, by omega⟩
    have hvalue := readValue_text value fuel (moreFields numbers fields ++ rest) hwrite.1 (by omega)
      (moreFields_ends numbers fields rest)
    have hfield := readField_text numbers key hvalue
    have hfields := readFields_text fields (fuel + 1) rest hwrite.2 (by omega)
    simp only [text, List.cons_append, List.append_assoc, readValue, Char.reduceEq, if_false,
      if_true, List.head?_cons, Option.some.injEq, hfield, hfields, Option.map_some]

theorem readItems_text : ∀ (items : List (Value F)) (fuel : Nat) (rest : List Char),
    writableItems numbers items = true → sizeItems items ≤ fuel →
      readItems numbers fuel (moreItems numbers items ++ rest) = some (items, rest)
  | items, 0, rest, _, hfuel => by cases items <;> simp [sizeItems] at hfuel
  | [], fuel + 1, rest, _, _ => by simp [moreItems, readItems]
  | item :: items, fuel + 1, rest, hwrite, hfuel => by
    simp only [writableItems, Bool.and_eq_true] at hwrite
    simp only [sizeItems] at hfuel
    have hitem := readValue_text item fuel (moreItems numbers items ++ rest) hwrite.1 (by omega)
      (moreItems_ends numbers items rest)
    have hitems := readItems_text items fuel rest hwrite.2 (by omega)
    simp only [moreItems, List.cons_append, List.append_assoc, readItems, Char.reduceEq, if_false,
      if_true, hitem, hitems, Option.map_some]

theorem readFields_text : ∀ (fields : List (String × Value F)) (fuel : Nat) (rest : List Char),
    writableFields numbers fields = true → sizeFields fields ≤ fuel →
      readFields numbers fuel (moreFields numbers fields ++ rest) = some (fields, rest)
  | fields, 0, rest, _, hfuel => by
    cases fields with
    | nil => simp [sizeFields] at hfuel
    | cons field fields => simp [sizeFields] at hfuel
  | [], fuel + 1, rest, _, _ => by simp [moreFields, readFields]
  | (key, value) :: fields, fuel + 1, rest, hwrite, hfuel => by
    simp only [writableFields, Bool.and_eq_true] at hwrite
    simp only [sizeFields] at hfuel
    obtain ⟨fuel, rfl⟩ : ∃ less, fuel = less + 1 := ⟨fuel - 1, by omega⟩
    have hvalue := readValue_text value fuel (moreFields numbers fields ++ rest) hwrite.1 (by omega)
      (moreFields_ends numbers fields rest)
    have hfield := readField_text numbers key hvalue
    have hfields := readFields_text fields (fuel + 1) rest hwrite.2 (by omega)
    simp only [moreFields, List.cons_append, List.append_assoc, readFields, Char.reduceEq, if_false,
      if_true, hfield, hfields, Option.map_some]

end

mutual

theorem size_le_text : ∀ value : Value F, writable numbers value = true →
    size value ≤ (text numbers value).length
  | .null, _ => by simp [size, text]
  | .bool true, _ => by simp [size, text]
  | .bool false, _ => by simp [size, text]
  | .int n, _ => by
    simp only [size, text]
    exact List.length_pos_iff.mpr (intText_ne_nil n)
  | .real x, hwrite => by
    simp only [size, text]
    exact List.length_pos_iff.mpr (text_ne_nil numbers hwrite)
  | .str value, _ => by simp [size, text]
  | .list [], _ => by simp [size, sizeItems, text]
  | .list (item :: items), hwrite => by
    simp only [writable, writableItems, Bool.and_eq_true] at hwrite
    have hitem := size_le_text item hwrite.1
    have hitems := sizeItems_le_text items hwrite.2
    simp only [size, sizeItems, text, List.length_cons, List.length_append]
    omega
  | .obj [], _ => by simp [size, sizeFields, text]
  | .obj ((key, value) :: fields), hwrite => by
    simp only [writable, writableFields, Bool.and_eq_true] at hwrite
    have hvalue := size_le_text value hwrite.1
    have hfields := sizeFields_le_text fields hwrite.2
    simp only [size, sizeFields, text, List.length_cons, List.length_append]
    omega

theorem sizeItems_le_text : ∀ items : List (Value F), writableItems numbers items = true →
    sizeItems items ≤ (moreItems numbers items).length
  | [], _ => by simp [sizeItems, moreItems]
  | item :: items, hwrite => by
    simp only [writableItems, Bool.and_eq_true] at hwrite
    have hitem := size_le_text item hwrite.1
    have hitems := sizeItems_le_text items hwrite.2
    simp only [sizeItems, moreItems, List.length_cons, List.length_append]
    omega

theorem sizeFields_le_text : ∀ fields : List (String × Value F),
    writableFields numbers fields = true → sizeFields fields ≤ (moreFields numbers fields).length
  | [], _ => by simp [sizeFields, moreFields]
  | (key, value) :: fields, hwrite => by
    simp only [writableFields, Bool.and_eq_true] at hwrite
    have hvalue := size_le_text value hwrite.1
    have hfields := sizeFields_le_text fields hwrite.2
    simp only [sizeFields, moreFields, List.length_cons, List.length_append]
    omega

end

/-- Reading undoes writing. -/
theorem read_text {value : Value F} (h : writable numbers value = true) :
    read numbers (text numbers value) = some value := by
  have hread := readValue_text numbers value ((text numbers value).length + 1) [] h
    (Nat.le_succ_of_le (size_le_text numbers value h)) ends_nil
  simp only [List.append_nil] at hread
  simp only [read, hread]

/-! ### Sorted keys -/

/-- The order of the keys. -/
def KeyLe (left right : String × Value F) : Prop := left.1 ≤ right.1

instance : DecidableRel (KeyLe (F := F)) := fun left right =>
  inferInstanceAs (Decidable (left.1 ≤ right.1))

instance : Std.Total (KeyLe (F := F)) := ⟨fun left right => le_total left.1 right.1⟩

instance : IsTrans (String × Value F) KeyLe := ⟨fun _ _ _ hleft hright => le_trans hleft hright⟩

mutual

/-- The value with the fields of every object in the order of their keys. -/
def sorted : Value F → Value F
  | .list items => .list (sortedItems items)
  | .obj fields => .obj ((sortedFields fields).insertionSort KeyLe)
  | value => value

def sortedItems : List (Value F) → List (Value F)
  | [] => []
  | item :: items => sorted item :: sortedItems items

def sortedFields : List (String × Value F) → List (String × Value F)
  | [] => []
  | (key, value) :: fields => (key, sorted value) :: sortedFields fields

end

theorem sortedFields_eq_map (fields : List (String × Value F)) :
    sortedFields fields = fields.map fun field => (field.1, sorted field.2) := by
  induction fields with
  | nil => rfl
  | cons field fields ih => simp [sortedFields, ih]

/-- Sorting what hangs below the fields does not disturb their order. -/
theorem sortedFields_insertionSort (fields : List (String × Value F)) :
    sortedFields (fields.insertionSort KeyLe) = (sortedFields fields).insertionSort KeyLe := by
  rw [sortedFields_eq_map, sortedFields_eq_map]
  exact List.map_insertionSort _ _ _ _ fun _ _ _ _ => Iff.rfl

mutual

/-- A sorted value is left as it is. -/
theorem sorted_sorted : ∀ value : Value F, sorted (sorted value) = sorted value
  | .null => rfl
  | .bool _ => rfl
  | .int _ => rfl
  | .real _ => rfl
  | .str _ => rfl
  | .list items => by simp only [sorted, sortedItems_sortedItems items]
  | .obj fields => by
    have hsorted := List.pairwise_insertionSort KeyLe (sortedFields fields)
    simp only [sorted, sortedFields_insertionSort, sortedFields_sortedFields fields,
      hsorted.insertionSort_eq]

theorem sortedItems_sortedItems : ∀ items : List (Value F),
    sortedItems (sortedItems items) = sortedItems items
  | [] => rfl
  | item :: items => by
    simp only [sortedItems, sorted_sorted item, sortedItems_sortedItems items]

theorem sortedFields_sortedFields : ∀ fields : List (String × Value F),
    sortedFields (sortedFields fields) = sortedFields fields
  | [] => rfl
  | (_, value) :: fields => by
    simp only [sortedFields, sorted_sorted value, sortedFields_sortedFields fields]

end

theorem writableFields_eq_all (fields : List (String × Value F)) :
    writableFields numbers fields = fields.all fun field => writable numbers field.2 := by
  induction fields with
  | nil => rfl
  | cons field fields ih => simp [writableFields, ih]

theorem writableFields_insertionSort (fields : List (String × Value F)) :
    writableFields numbers (fields.insertionSort KeyLe) = writableFields numbers fields := by
  rw [writableFields_eq_all, writableFields_eq_all]
  exact (List.perm_insertionSort KeyLe fields).all_eq

mutual

theorem writable_sorted :
    ∀ value : Value F, writable numbers (sorted value) = writable numbers value
  | .null => rfl
  | .bool _ => rfl
  | .int _ => rfl
  | .real _ => rfl
  | .str _ => rfl
  | .list items => by simp only [sorted, writable, writableItems_sortedItems items]
  | .obj fields => by
    simp only [sorted, writable, writableFields_insertionSort, writableFields_sortedFields fields]

theorem writableItems_sortedItems : ∀ items : List (Value F),
    writableItems numbers (sortedItems items) = writableItems numbers items
  | [] => rfl
  | item :: items => by
    simp only [sortedItems, writableItems, writable_sorted item, writableItems_sortedItems items]

theorem writableFields_sortedFields : ∀ fields : List (String × Value F),
    writableFields numbers (sortedFields fields) = writableFields numbers fields
  | [] => rfl
  | (_, value) :: fields => by
    simp only [sortedFields, writableFields, writable_sorted value,
      writableFields_sortedFields fields]

end

/-- The text with the keys in order. -/
def canonical (value : Value F) : List Char := text numbers (sorted value)

theorem read_canonical {value : Value F} (h : writable numbers value = true) :
    read numbers (canonical numbers value) = some (sorted value) :=
  read_text numbers ((writable_sorted numbers value).trans h)

@[simp] theorem canonical_sorted (value : Value F) :
    canonical numbers (sorted value) = canonical numbers value := by
  simp only [canonical, sorted_sorted]

theorem lookup_orderedInsert (key : String) (field : String × Value F)
    (fields : List (String × Value F)) :
    (fields.orderedInsert KeyLe field).lookup key = (field :: fields).lookup key := by
  induction fields with
  | nil => rfl
  | cons other fields ih =>
    rw [List.orderedInsert_cons]
    split
    · rfl
    · rename_i hlt
      have hne : field.1 ≠ other.1 := fun heq => hlt (le_of_eq heq)
      obtain ⟨name, value⟩ := field
      obtain ⟨otherName, otherValue⟩ := other
      simp only [List.lookup_cons] at ih ⊢
      by_cases hkey : key = otherName
      · subst hkey
        have hfalse : (key == name) = false := by
          rw [beq_eq_false_iff_ne]
          exact fun heq => hne heq.symm
        simp only [hfalse, beq_self_eq_true]
      · simp only [beq_eq_false_iff_ne.mpr hkey, ih]

/-- Sorting keeps what each key stands for. -/
theorem lookup_insertionSort (key : String) (fields : List (String × Value F)) :
    (fields.insertionSort KeyLe).lookup key = fields.lookup key := by
  induction fields with
  | nil => rfl
  | cons field fields ih =>
    rw [List.insertionSort_cons, lookup_orderedInsert]
    obtain ⟨name, value⟩ := field
    simp only [List.lookup_cons, ih]

theorem lookup_sortedFields (key : String) (fields : List (String × Value F)) :
    (sortedFields fields).lookup key = (fields.lookup key).map sorted := by
  induction fields with
  | nil => rfl
  | cons field fields ih =>
    obtain ⟨name, value⟩ := field
    simp only [sortedFields, List.lookup_cons, ih]
    split <;> rfl

/-! ### Room -/

/-- The room a field takes among others. -/
def fieldRoom (field : String × Value F) : Nat :=
  (stringBody field.1.toList).length + (text numbers field.2).length + 3

theorem length_moreItems (items : List (Value F)) :
    (moreItems numbers items).length =
      1 + (items.map fun item => (text numbers item).length + 1).sum := by
  induction items with
  | nil => rfl
  | cons item items ih =>
    simp only [moreItems, List.length_cons, List.length_append, ih, List.map_cons, List.sum_cons]
    omega

theorem length_moreFields (fields : List (String × Value F)) :
    (moreFields numbers fields).length = 1 + (fields.map (fieldRoom numbers)).sum := by
  induction fields with
  | nil => rfl
  | cons field fields ih =>
    obtain ⟨key, value⟩ := field
    simp only [moreFields, List.length_cons, List.length_append, ih, List.map_cons, List.sum_cons,
      fieldRoom]
    omega

theorem length_text_list (items : List (Value F)) :
    (text numbers (.list items)).length = max 2 (moreItems numbers items).length := by
  cases items with
  | nil => rfl
  | cons item items =>
    simp only [text, moreItems, List.length_cons, List.length_append, length_moreItems]
    omega

theorem length_text_obj (fields : List (String × Value F)) :
    (text numbers (.obj fields)).length = max 2 (moreFields numbers fields).length := by
  cases fields with
  | nil => rfl
  | cons field fields =>
    obtain ⟨key, value⟩ := field
    simp only [text, moreFields, List.length_cons, List.length_append, length_moreFields]
    omega

mutual

/-- The order of the keys does not change the room a value takes. -/
theorem length_text_sorted : ∀ value : Value F,
    (text numbers (sorted value)).length = (text numbers value).length
  | .null => rfl
  | .bool _ => rfl
  | .int _ => rfl
  | .real _ => rfl
  | .str _ => rfl
  | .list items => by
    simp only [sorted, length_text_list, length_moreItems, length_sortedItems items]
  | .obj fields => by
    have hperm := ((List.perm_insertionSort KeyLe (sortedFields fields)).map
      (fieldRoom numbers)).sum_eq
    simp only [sorted, length_text_obj, length_moreFields, hperm, length_sortedFields fields]

theorem length_sortedItems : ∀ items : List (Value F),
    ((sortedItems items).map fun item => (text numbers item).length + 1).sum =
      (items.map fun item => (text numbers item).length + 1).sum
  | [] => rfl
  | item :: items => by
    simp only [sortedItems, List.map_cons, List.sum_cons, length_text_sorted item,
      length_sortedItems items]

theorem length_sortedFields : ∀ fields : List (String × Value F),
    ((sortedFields fields).map (fieldRoom numbers)).sum = (fields.map (fieldRoom numbers)).sum
  | [] => rfl
  | (key, value) :: fields => by
    simp only [sortedFields, List.map_cons, List.sum_cons, fieldRoom, length_text_sorted value,
      length_sortedFields fields]

end

/-- A value that can be written, in that much room. -/
def Fits (room : Nat) (value : Value F) : Prop :=
  writable numbers value = true ∧ (text numbers value).length ≤ room

theorem Fits.mono {room more : Nat} {value : Value F} (h : Fits numbers room value)
    (hle : room ≤ more) : Fits numbers more value := ⟨h.1, le_trans h.2 hle⟩

theorem fits_sorted {room : Nat} {value : Value F} (h : Fits numbers room value) :
    Fits numbers room (sorted value) :=
  ⟨(writable_sorted numbers value).trans h.1, (length_text_sorted numbers value).trans_le h.2⟩

theorem length_escape_le (c : Char) : (escape c).length ≤ 12 := by
  unfold escape
  split_ifs <;> simp [escapedUnit]

theorem length_stringBody_le (characters : List Char) :
    (stringBody characters).length ≤ 12 * characters.length + 1 := by
  induction characters with
  | nil => simp [stringBody]
  | cons c characters ih =>
    have hc := length_escape_le c
    simp only [stringBody, List.flatMap_cons, List.length_append, List.length_cons,
      List.length_nil] at ih ⊢
    omega

theorem fits_str (value : String) : Fits numbers (12 * value.length + 2) (.str value) := by
  have hbody := length_stringBody_le value.toList
  rw [String.length_toList] at hbody
  refine ⟨rfl, ?_⟩
  simp only [text, List.length_cons]
  omega

/-- Characters that stand for themselves. -/
def isPlain (c : Char) : Bool := escape c == [c]

theorem length_stringBody_plain {characters : List Char} (h : characters.all isPlain = true) :
    (stringBody characters).length = characters.length + 1 := by
  induction characters with
  | nil => rfl
  | cons c characters ih =>
    simp only [List.all_cons, Bool.and_eq_true, isPlain, beq_iff_eq] at h
    have hrest := ih h.2
    simp only [stringBody, List.flatMap_cons, List.length_append, h.1, List.length_cons,
      List.length_nil] at hrest ⊢
    omega

theorem fits_plain {value : String} (h : value.toList.all isPlain = true) :
    Fits numbers (value.length + 2) (.str value) := by
  have hbody := length_stringBody_plain h
  rw [String.length_toList] at hbody
  refine ⟨rfl, ?_⟩
  simp only [text, List.length_cons]
  omega

theorem fits_bool (value : Bool) : Fits numbers 5 (.bool value) := by
  cases value <;> exact ⟨rfl, by simp [text]⟩

theorem fits_int {digits : Nat} {n : Int} (hn : n.natAbs < 10 ^ digits) (hpos : 0 < digits)
    (hdigits : digits ≤ numbers.digits) : Fits numbers (digits + 1) (.int n) := by
  have hlength : (Nat.toDigits 10 n.natAbs).length ≤ digits :=
    (Nat.length_toDigits_le_iff (by decide) hpos).mpr hn
  refine ⟨?_, ?_⟩
  · simp only [writable, decide_eq_true_eq]
    exact lt_of_lt_of_le hn (Nat.pow_le_pow_right (by decide) hdigits)
  · simp only [text, intText]
    split
    · simp only [List.length_cons]
      omega
    · omega

theorem fits_list {room : Nat} {items : List (Value F)}
    (h : ∀ item ∈ items, Fits numbers room item) :
    Fits numbers (2 + items.length * (room + 1)) (.list items) := by
  have hwritable : writableItems numbers items = true := by
    induction items with
    | nil => rfl
    | cons item items ih =>
      simp only [writableItems, Bool.and_eq_true]
      exact ⟨(h item List.mem_cons_self).1, ih fun i hi => h i (List.mem_cons_of_mem _ hi)⟩
  have hsum : (items.map fun item => (text numbers item).length + 1).sum ≤
      items.length * (room + 1) := by
    have hle := List.sum_le_card_nsmul (items.map fun item => (text numbers item).length + 1)
      (room + 1) (by
        intro size hsize
        obtain ⟨item, hitem, rfl⟩ := List.mem_map.mp hsize
        exact Nat.succ_le_succ (h item hitem).2)
    simpa using hle
  refine ⟨hwritable, ?_⟩
  rw [length_text_list, length_moreItems]
  omega

/-- An object with distinct keys takes no more room than all the keys it may
    have. -/
theorem fits_obj {fields : List (String × Value F)} {keys : List String} {room : String → Nat}
    (hnodup : (fields.map Prod.fst).Nodup) (hkeys : ∀ field ∈ fields, field.1 ∈ keys)
    (h : ∀ field ∈ fields, Fits numbers (room field.1) field.2) :
    Fits numbers (2 + (keys.map fun key => (stringBody key.toList).length + room key + 3).sum)
      (.obj fields) := by
  have hwritable : writableFields numbers fields = true := by
    rw [writableFields_eq_all, List.all_eq_true]
    exact fun field hfield => (h field hfield).1
  have hrooms : (fields.map (fieldRoom numbers)).sum ≤
      ((fields.map Prod.fst).map fun key =>
        (stringBody key.toList).length + room key + 3).sum := by
    rw [List.map_map]
    apply List.sum_le_sum
    intro field hfield
    have hfits := (h field hfield).2
    simp only [fieldRoom, Function.comp_apply]
    omega
  have hsubperm : (fields.map Prod.fst).Subperm keys := by
    apply List.subperm_of_subset hnodup
    intro key hkey
    obtain ⟨field, hfield, rfl⟩ := List.mem_map.mp hkey
    exact hkeys field hfield
  have hkeysum : ((fields.map Prod.fst).map fun key =>
      (stringBody key.toList).length + room key + 3).sum ≤
      (keys.map fun key => (stringBody key.toList).length + room key + 3).sum := by
    obtain ⟨chosen, hperm, hsub⟩ := hsubperm
    rw [← (hperm.map _).sum_eq]
    exact (hsub.map _).sum_le_sum fun _ _ => Nat.zero_le _
  refine ⟨hwritable, ?_⟩
  rw [length_text_obj, length_moreFields]
  omega

/-! ### ASCII -/

theorem ascii_escape {c d : Char} (h : d ∈ escape c) : d.toNat < 128 := by
  have hdigit : ∀ n, (Nat.digitChar (n % 16)).toNat < 128 := by
    have hall : ∀ n < 16, (Nat.digitChar n).toNat < 128 := by decide
    exact fun n => hall _ (Nat.mod_lt n (by decide))
  have hunit : ∀ n, ∀ d ∈ escapedUnit n, d.toNat < 128 := by
    intro n d hd
    simp only [escapedUnit, List.mem_cons, List.not_mem_nil, or_false] at hd
    rcases hd with rfl | rfl | rfl | rfl | rfl | rfl
    · decide
    · decide
    · exact hdigit _
    · exact hdigit _
    · exact hdigit _
    · exact hdigit _
  have hpair : ∀ e : Char, e.toNat < 128 → ∀ d ∈ ['\\', e], d.toNat < 128 := by
    intro e he d hd
    rcases List.mem_cons.mp hd with rfl | hd
    · decide
    · rw [List.mem_singleton.mp hd]
      exact he
  unfold escape at h
  split at h
  · exact hpair '"' (by decide) d h
  split at h
  · exact hpair '\\' (by decide) d h
  split at h
  · exact hpair 'n' (by decide) d h
  split at h
  · exact hpair 'r' (by decide) d h
  split at h
  · exact hpair 't' (by decide) d h
  split at h
  · exact hpair 'f' (by decide) d h
  split at h
  · exact hpair 'b' (by decide) d h
  split at h
  · rename_i hprintable
    rw [List.mem_singleton.mp h]
    exact Nat.lt_of_le_of_lt hprintable.2 (by decide)
  split at h
  · exact hunit _ d h
  · rcases List.mem_append.mp h with h | h
    · exact hunit _ d h
    · exact hunit _ d h

theorem ascii_stringBody {characters : List Char} {d : Char} (h : d ∈ stringBody characters) :
    d.toNat < 128 := by
  rcases List.mem_append.mp h with h | h
  · obtain ⟨c, -, hd⟩ := List.mem_flatMap.mp h
    exact ascii_escape hd
  · rw [List.mem_singleton.mp h]
    decide

theorem ascii_intText {n : Int} {d : Char} (h : d ∈ intText n) : d.toNat < 128 := by
  have hdigit : ∀ d ∈ Nat.toDigits 10 n.natAbs, d.toNat < 128 := by
    intro d hd
    have hle : d.toNat ≤ 57 := (Char.isDigit_iff_toNat.mp (digit_of_mem hd)).2
    omega
  unfold intText at h
  split at h
  · rcases List.mem_cons.mp h with rfl | h
    · decide
    · exact hdigit d h
  · exact hdigit d h

def Ascii (text : List Char) : Prop := ∀ c ∈ text, c.toNat < 128

theorem ascii_of_all {text : List Char} (h : text.all (fun c => decide (c.toNat < 128)) = true) :
    Ascii text :=
  fun c hc => of_decide_eq_true (List.all_eq_true.mp h c hc)

theorem ascii_cons {c : Char} {text : List Char} (hc : c.toNat < 128) (h : Ascii text) :
    Ascii (c :: text) := by
  intro d hd
  rcases List.mem_cons.mp hd with rfl | hd
  · exact hc
  · exact h d hd

theorem ascii_append {left right : List Char} (hleft : Ascii left) (hright : Ascii right) :
    Ascii (left ++ right) := by
  intro d hd
  rcases List.mem_append.mp hd with hd | hd
  · exact hleft d hd
  · exact hright d hd

mutual

/-- A text is ASCII if its numbers are. -/
theorem ascii_text (hnumbers : ∀ x, Ascii (numbers.text x)) :
    ∀ value : Value F, Ascii (text numbers value)
  | .null => by simp only [text]; exact ascii_of_all (by decide)
  | .bool true => by simp only [text]; exact ascii_of_all (by decide)
  | .bool false => by simp only [text]; exact ascii_of_all (by decide)
  | .int n => fun _ => ascii_intText
  | .real x => hnumbers x
  | .str value => ascii_cons (by decide) fun _ => ascii_stringBody
  | .list [] => by simp only [text]; exact ascii_of_all (by decide)
  | .list (item :: items) => by
    rw [text]
    exact ascii_cons (by decide)
      (ascii_append (ascii_text hnumbers item) (ascii_moreItems hnumbers items))
  | .obj [] => by simp only [text]; exact ascii_of_all (by decide)
  | .obj ((key, value) :: fields) => by
    rw [text]
    exact ascii_cons (by decide) (ascii_cons (by decide) (ascii_append
      (fun _ => ascii_stringBody) (ascii_cons (by decide)
        (ascii_append (ascii_text hnumbers value) (ascii_moreFields hnumbers fields)))))

theorem ascii_moreItems (hnumbers : ∀ x, Ascii (numbers.text x)) :
    ∀ items : List (Value F), Ascii (moreItems numbers items)
  | [] => by simp only [moreItems]; exact ascii_of_all (by decide)
  | item :: items => by
    rw [moreItems]
    exact ascii_cons (by decide)
      (ascii_append (ascii_text hnumbers item) (ascii_moreItems hnumbers items))

theorem ascii_moreFields (hnumbers : ∀ x, Ascii (numbers.text x)) :
    ∀ fields : List (String × Value F), Ascii (moreFields numbers fields)
  | [] => by simp only [moreFields]; exact ascii_of_all (by decide)
  | (key, value) :: fields => by
    rw [moreFields]
    exact ascii_cons (by decide) (ascii_cons (by decide) (ascii_append
      (fun _ => ascii_stringBody) (ascii_cons (by decide)
        (ascii_append (ascii_text hnumbers value) (ascii_moreFields hnumbers fields)))))

end
end PatrolBot.JsonText
