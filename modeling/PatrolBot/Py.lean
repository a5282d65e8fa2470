import Mathlib.Algebra.Order.Ring.Rat
import Mathlib.Algebra.Order.AbsoluteValue.Basic

/-!
# Python values

The wire carries JSON, and the code under verification is Python: a number may
be an `int` of any size or a `float`, and a `float` may be an infinity or a
NaN.  Finite floats are taken as the exact rationals they are; rounding is kept
where the code converts an `int` of any size (`float(n)`), because that is the
one conversion that can fail.
-/

namespace PatrolBot

/-- A Python `float`. -/
inductive PyFloat where
  | finite (value : ℚ)
  | inf (negative : Bool)
  | nan
deriving DecidableEq

namespace PyFloat

def isFinite : PyFloat → Bool
  | .finite _ => true
  | _ => false

/-- `x <= y`; every comparison with a NaN is false. -/
def le : PyFloat → PyFloat → Bool
  | .nan, _ => false
  | _, .nan => false
  | .finite x, .finite y => decide (x ≤ y)
  | .inf negative, .finite _ => negative
  | .finite _, .inf negative => !negative
  | .inf left, .inf right => left || !right

/-- `x < y`. -/
def lt (x y : PyFloat) : Bool :=
  le x y && !le y x

/-- `x + y`. -/
def add : PyFloat → PyFloat → PyFloat
  | .finite x, .finite y => .finite (x + y)
  | .nan, _ => .nan
  | _, .nan => .nan
  | .inf negative, .finite _ => .inf negative
  | .finite _, .inf negative => .inf negative
  | .inf left, .inf right => if left = right then .inf left else .nan

end PyFloat

/-- `float(n)` for an `int` of any size: exact up to `2^53`, rounded to the
    nearest double (ties to even) above, and an `OverflowError` (`none`) from
    halfway past the largest double. -/
def floatOfInt (n : Int) : Option ℚ :=
  if n.natAbs ≤ 2 ^ 53 then some (n : ℚ)
  else if n.natAbs < 2 ^ 1024 - 2 ^ 970 then
    let unit := 2 ^ (n.natAbs.log2 - 52)
    let low := n.natAbs / unit
    let rest := n.natAbs % unit
    let rounded := if 2 * rest > unit ∨ (2 * rest = unit ∧ low % 2 = 1) then low + 1 else low
    some ((n.sign * (rounded * unit : Nat) : Int) : ℚ)
  else none

theorem floatOfInt_of_small {n : Int} (h : n.natAbs ≤ 2 ^ 53) : floatOfInt n = some (n : ℚ) := by
  simp only [floatOfInt, if_pos h]

/-- A decoded JSON value. -/
inductive Json where
  | null
  | bool (value : Bool)
  | int (value : Int)
  | float (value : PyFloat)
  | str (value : String)
  | list (items : List Json)
  | obj (fields : List (String × Json))

namespace Json

/-- Look a key up among the fields of an object. -/
def lookup (key : String) : List (String × Json) → Option Json
  | [] => none
  | (name, value) :: fields => if name = key then some value else lookup key fields

/-- `data.get(key)` for an object `data`, with `None` for a missing key. -/
def get (fields : List (String × Json)) (key : String) : Json :=
  (lookup key fields).getD .null

/-- `set(data) == set(keys)`. -/
def hasExactly (fields : List (String × Json)) (keys : List String) : Bool :=
  fields.all (fun field => keys.contains field.1) &&
    keys.all (fun key => (lookup key fields).isSome)

/-- `type(value) in (int, float)`: a `bool` is neither. -/
def isNumber : Json → Bool
  | .int _ => true
  | .float _ => true
  | _ => false

end Json

/-- A piece of a formatted message: fixed text, a value shown with `!r`, or a
    set of names shown sorted. -/
inductive Piece where
  | text (text : String)
  | repr (value : Json)
  | names (names : List String)

instance : Coe String Piece := ⟨.text⟩

/-- The text of an error, before its values are formatted. -/
abbrev Message := List Piece

/-- The answer of `math.isfinite` together with the number it was asked about:
    an `int` too large for a `float` makes it raise. -/
inductive Finite where
  | finite (value : ℚ)
  | notFinite
  | overflow
deriving DecidableEq

/-- `math.isfinite(value)` for a value of type `int` or `float`. -/
def isfinite : Json → Finite
  | .int n => if (floatOfInt n).isSome then .finite n else .overflow
  | .float (.finite q) => .finite q
  | _ => .notFinite

/-- `_finite_number`: a number as a finite `float`, or `None` for everything
    else, an overflowing `int` included. -/
def finiteNumber : Json → Option ℚ
  | .int n => floatOfInt n
  | .float (.finite q) => some q
  | _ => none

/-- `bool(value)`. -/
def Json.truthy : Json → Bool
  | .null => false
  | .bool value => value
  | .int value => decide (value ≠ 0)
  | .float (.finite value) => decide (value ≠ 0)
  | .float _ => true
  | .str value => decide (value ≠ "")
  | .list items => !items.isEmpty
  | .obj fields => !fields.isEmpty

/-- `value is True`. -/
def Json.isTrue : Json → Bool
  | .bool value => value
  | _ => false

mutual

/-- `left == right` of decoded values: numbers by value, a `bool` being one,
    and dictionaries whatever the order of their keys. -/
def Json.equal : Json → Json → Bool
  | .str left, .str right => left == right
  | .null, .null => true
  | .list left, .list right => Json.equalItems left right
  | .obj left, .obj right => left.length == right.length && Json.equalFields left right
  | .bool left, right => Json.equalNumber (if left then 1 else 0) right
  | .int left, right => Json.equalNumber left right
  | .float (.finite left), right => Json.equalNumber left right
  | .float (.inf left), .float (.inf right) => left == right
  | _, _ => false

/-- A number against a value. -/
def Json.equalNumber (left : ℚ) : Json → Bool
  | .bool right => decide (left = if right then 1 else 0)
  | .int right => decide (left = right)
  | .float (.finite right) => decide (left = right)
  | _ => false

def Json.equalItems : List Json → List Json → Bool
  | [], [] => true
  | left :: lefts, right :: rights => Json.equal left right && Json.equalItems lefts rights
  | _, _ => false

def Json.equalFields : List (String × Json) → List (String × Json) → Bool
  | [], _ => true
  | (key, left) :: lefts, rights =>
    (match Json.lookup key rights with
      | some right => Json.equal left right
      | none => false) && Json.equalFields lefts rights

end

/-- `f"{value}"`; what a float, a list or a dictionary shows as is a parameter. -/
def Json.shown (repr : Json → String) : Json → String
  | .str value => value
  | .int value => toString value
  | .bool true => "True"
  | .bool false => "False"
  | .null => "None"
  | value => repr value

/-- `text.removeprefix(start)`. -/
def removeStart (start text : String) : String :=
  if start.toList.isPrefixOf text.toList then String.ofList (text.toList.drop start.length)
  else text

/-- `c.isspace()` of an ASCII character: the separators of records are white space
    too. -/
def isSpace (c : Char) : Bool :=
  c == ' ' || (9 ≤ c.toNat && c.toNat ≤ 13) || (28 ≤ c.toNat && c.toNat ≤ 31)

/-- `text.strip()`, for ASCII white space. -/
def strip (text : String) : String :=
  String.ofList ((text.toList.dropWhile isSpace).reverse.dropWhile isSpace).reverse

/-- `text.upper()`, for ASCII letters. -/
def upper (text : String) : String := text.map Char.toUpper

/-- `text.lower()`, for ASCII letters. -/
def lower (text : String) : String := text.map Char.toLower

end PatrolBot
