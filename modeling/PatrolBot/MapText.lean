import Mathlib.Data.List.DropRight
import PatrolBot.PyArithmetic

/-!
# Texts of map files

What Python makes of the texts in the two files of a map: lines, white space, numbers in
decimal digits, and the header of a binary PGM.
-/

namespace PatrolBot.Maps

/-- What `str` knows of characters; beyond ASCII it is the Unicode database's word. -/
structure Unicode where
  space : Char → Bool
  digit : Char → Option Nat
  space_ascii : ∀ c, c.toNat < 128 → space c = isSpace c
  digit_ascii : ∀ c, c.toNat < 128 → digit c = if c.isDigit then some (c.toNat - 48) else none
  not_space_of_digit : ∀ c, (digit c).isSome → space c = false

namespace Unicode

def isDigit (unicode : Unicode) (c : Char) : Bool := (unicode.digit c).isSome

/-- ASCII alone. -/
def ascii : Unicode where
  space := isSpace
  digit c := if c.isDigit then some (c.toNat - 48) else none
  space_ascii _ _ := rfl
  digit_ascii _ _ := rfl
  not_space_of_digit c h := by
    have hdigit : c.isDigit = true := by
      by_contra hnot
      simp [hnot] at h
    simp only [Char.isDigit, Bool.and_eq_true, decide_eq_true_eq] at hdigit
    have hlow : 48 ≤ c.toNat := hdigit.1
    have hhigh : c.toNat ≤ 57 := hdigit.2
    have hblank : c ≠ ' ' := by
      rintro rfl
      exact absurd hlow (by decide)
    simp [isSpace, hblank]
    omega

end Unicode

variable (unicode : Unicode)

/-! ### Lines and white space -/

/-- The characters at which `splitlines` ends a line. -/
def isLineEnd (c : Char) : Bool :=
  (10 ≤ c.toNat && c.toNat ≤ 13) || (28 ≤ c.toNat && c.toNat ≤ 30) ||
    c.toNat == 0x85 || c.toNat == 0x2028 || c.toNat == 0x2029

/-- `text.splitlines()`, with the line that has begun. -/
def linesFrom (line : List Char) : List Char → List (List Char)
  | [] => if line = [] then [] else [line]
  | '\r' :: '\n' :: text => line :: linesFrom [] text
  | c :: text => if isLineEnd c then line :: linesFrom [] text else linesFrom (line ++ [c]) text

def splitlines (text : List Char) : List (List Char) := linesFrom [] text

/-- `text.strip()`. -/
def strip (text : List Char) : List Char :=
  (text.dropWhile unicode.space).rdropWhile unicode.space

/-- `text.partition(mark)`: what stands before the mark, and what stands behind it if
    there is one. -/
def partition (mark : Char) (text : List Char) : List Char × Option (List Char) :=
  (text.takeWhile (· ≠ mark),
    match text.dropWhile (· ≠ mark) with
    | [] => none
    | _ :: rest => some rest)

/-! ### Numbers -/

/-- Digits with single underscores between them, and what follows. -/
def digitPart : List Char → List Nat × List Char
  | [] => ([], [])
  | c :: text =>
    match unicode.digit c with
    | none => ([], c :: text)
    | some value =>
      match text with
      | '_' :: next :: rest =>
        if unicode.isDigit next then
          let more := digitPart (next :: rest)
          (value :: more.1, more.2)
        else ([value], text)
      | text =>
        let more := digitPart text
        (value :: more.1, more.2)

/-- A number's sign, and what follows. -/
def signed : List Char → Bool × List Char
  | '-' :: text => (true, text)
  | '+' :: text => (false, text)
  | text => (false, text)

def numberOf (digits : List Nat) : Nat := digits.foldl (fun number digit => 10 * number + digit) 0

/-- The digits that `int` reads at most. -/
def maxStrDigits : Nat := 4300

/-- `int(text)` of a text without white space at its ends. -/
def integer (text : List Char) : Option Int :=
  let (negative, digits) := signed text
  match digitPart unicode digits with
  | (value :: values, []) =>
    if maxStrDigits < values.length + 1 then none
    else if negative then some (-(numberOf (value :: values) : Int))
    else some (numberOf (value :: values) : Int)
  | _ => none

/-- `int(text)`. -/
def int (text : List Char) : Option Int := integer unicode (strip unicode text)

/-- The double that a decimal number becomes. -/
def double (negative : Bool) (digits : List Nat) (exponent : Int) : PyFloat :=
  let magnitude := (numberOf digits : ℚ) * 10 ^ exponent
  PyFloat.rounded (.finite (if negative then -magnitude else magnitude))

/-- The digits after a point, if there is one, and what follows. -/
def fractionPart : List Char → List Nat × List Char
  | '.' :: text => digitPart unicode text
  | text => ([], text)

/-- The exponent that ends a number, 0 if there is none. -/
def exponentPart : List Char → Option Int
  | [] => some 0
  | c :: text =>
    if c = 'e' ∨ c = 'E' then
      let (below, text) := signed text
      match digitPart unicode text with
      | (value :: values, []) =>
        if below then some (-(numberOf (value :: values) : Int))
        else some (numberOf (value :: values) : Int)
      | _ => none
    else none

/-- A decimal number without its sign. -/
def decimal (negative : Bool) (text : List Char) : Option PyFloat :=
  let (whole, text) := digitPart unicode text
  let (fraction, text) := fractionPart unicode text
  if whole = [] ∧ fraction = [] then none
  else
    (exponentPart unicode text).map fun exponent =>
      double negative (whole ++ fraction) (exponent - fraction.length)

/-- `float(text)`. -/
def float (text : List Char) : Option PyFloat :=
  let (negative, text) := signed (strip unicode text)
  let word := text.map Char.toLower
  if word = "inf".toList ∨ word = "infinity".toList then some (.inf negative)
  else if word = "nan".toList then some .nan
  else decimal unicode negative text

/-! ### The header of a PGM -/

/-- `\s` in a pattern for bytes. -/
def isBlank (byte : UInt8) : Bool := byte == 32 || (9 ≤ byte && byte ≤ 13)

/-- `\S+` from a byte that is not blank, and what follows. -/
def word (data : List UInt8) : List UInt8 × List UInt8 :=
  (data.takeWhile fun byte => !isBlank byte, data.dropWhile fun byte => !isBlank byte)

/-- A match of `\s*(?:#[^\n]*\n\s*)*(\S+)`: its group, and what follows.  Inside a comment
    the flag is set.  Where only blanks follow the last comment, the pattern goes back to
    it and takes its first word. -/
def tokenFrom (comment : Bool) (last : Option (List UInt8)) :
    List UInt8 → Option (List UInt8 × List UInt8)
  | [] => last.map word
  | byte :: data =>
    if comment then tokenFrom (byte != 10) last data
    else if isBlank byte then tokenFrom false last data
    else if byte = 35 ∧ 10 ∈ data then tokenFrom true (some (byte :: data)) data
    else some (word (byte :: data))

/-- The four tokens of a header, and what follows the last. -/
def header (data : List UInt8) :
    Option ((List UInt8 × List UInt8 × List UInt8 × List UInt8) × List UInt8) := do
  let (magic, data) ← tokenFrom false none data
  let (width, data) ← tokenFrom false none data
  let (height, data) ← tokenFrom false none data
  let (maxval, data) ← tokenFrom false none data
  pure ((magic, width, height, maxval), data)

/-- `int(token)`; a token has no white space. -/
def intOfToken (token : List UInt8) : Option Int :=
  integer Unicode.ascii (token.map fun byte => Char.ofNat byte.toNat)

example : header ("P5\n# by hand\n2 1 255\n".toList.map fun c => c.toNat.toUInt8) =
    some (("P5".toList.map fun c => c.toNat.toUInt8, [50], [49], [50, 53, 53]), [10]) := by
  decide +kernel

end PatrolBot.Maps
