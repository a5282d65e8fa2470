import PatrolBot.StaticMap

/-!
# The map catalogue

`describe_map` of `map_catalog.py` reads the same two files as `static_map.py`, and is
stricter.  The two agree on everything but the origin: it is JSON here, and the numbers
that a pattern finds there.  A raised error is `none`.
-/

namespace PatrolBot.Maps

/-! ### The origin as JSON -/

/-- The groups of the pattern for numbers: `(-?(?:0|[1-9]\d*))(\.\d+)?([eE][-+]?\d+)?`. -/
structure NumberToken where
  integer : List Char
  frac : List Char
  exp : List Char
deriving DecidableEq

namespace NumberToken

def text (token : NumberToken) : List Char := token.integer ++ (token.frac ++ token.exp)

end NumberToken

/-- A coordinate of an origin: `isfinite` takes Booleans as well. -/
inductive Coordinate where
  | number (token : NumberToken)
  | bool (value : Bool)
deriving DecidableEq

/-- The group of an integer, and what follows. -/
def integerGroup (text : List Char) : Option (List Char × List Char) :=
  let (minus, text) := minusAt text
  match text with
  | [] => none
  | c :: rest =>
    if c = '0' then some (minus ++ ['0'], rest)
    else if c.isDigit then
      some (minus ++ (c :: rest).takeWhile Char.isDigit, (c :: rest).dropWhile Char.isDigit)
    else none

/-- The group of a fraction, if there is one, and what follows. -/
def fracGroup : List Char → List Char × List Char
  | '.' :: text =>
    let digits := text.takeWhile Char.isDigit
    if digits = [] then ([], '.' :: text) else ('.' :: digits, text.dropWhile Char.isDigit)
  | text => ([], text)

/-- `[-+]?` at the front of a text, and what follows. -/
def signAt : List Char → List Char × List Char
  | '-' :: text => (['-'], text)
  | '+' :: text => (['+'], text)
  | text => ([], text)

/-- The group of an exponent, if there is one, and what follows. -/
def expGroup : List Char → List Char × List Char
  | [] => ([], [])
  | c :: text =>
    if c = 'e' ∨ c = 'E' then
      let (sign, rest) := signAt text
      let digits := rest.takeWhile Char.isDigit
      if digits = [] then ([], c :: text)
      else (c :: (sign ++ digits), rest.dropWhile Char.isDigit)
    else ([], c :: text)

/-- A coordinate at the front of a text, and what follows. -/
def coordinateAt (text : List Char) : Option (Coordinate × List Char) :=
  if "true".toList <+: text then some (.bool true, text.drop 4)
  else if "false".toList <+: text then some (.bool false, text.drop 5)
  else do
    let (integer, text) ← integerGroup text
    let (frac, text) := fracGroup text
    let (exp, text) := expGroup text
    pure (.number ⟨integer, frac, exp⟩, text)

/-- White space of JSON. -/
def isJsonBlank (c : Char) : Bool := c == ' ' || c == '\t' || c == '\n' || c == '\r'

/-- `mark`, after white space, and what follows. -/
def expect (mark : Char) (text : List Char) : Option (List Char) :=
  match text.dropWhile isJsonBlank with
  | [] => none
  | c :: text => if c = mark then some text else none

/-- A coordinate, after white space, and what follows. -/
def nextCoordinate (text : List Char) : Option (Coordinate × List Char) :=
  coordinateAt (text.dropWhile isJsonBlank)

/-- `json.loads` of an origin: a list of three numbers or Booleans.  Any other document
    fails the checks on its length and its items, or is refused as JSON. -/
def loadsOrigin (text : List Char) : Option (List Coordinate) := do
  let text ← expect '[' text
  let (x, text) ← nextCoordinate text
  let text ← expect ',' text
  let (y, text) ← nextCoordinate text
  let text ← expect ',' text
  let (yaw, text) ← nextCoordinate text
  let text ← expect ']' text
  if text.dropWhile isJsonBlank = [] then pure [x, y, yaw] else none

variable (unicode : Unicode)

/-- The number that a coordinate is; an integer of too many digits is refused. -/
def Coordinate.value : Coordinate → Option Number
  | .bool value => some (.int (if value then 1 else 0))
  | .number token =>
    if token.frac = [] ∧ token.exp = [] then (int unicode token.integer).map .int
    else (float unicode token.text).map .float

/-- `math.isfinite(v)`, which raises for an integer that is too large. -/
def isFinite : Number → Bool
  | .int n => (floatOfInt n).isSome
  | .float x => x.isFinite

/-! ### `describe_map` -/

/-- One line of the YAML. -/
def describeLine (fields : Fields) (line : List Char) : Fields :=
  match partition ':' (line.takeWhile (· ≠ '#')) with
  | (key, some value) => (strip unicode key, strip unicode value) :: fields
  | (_, none) => fields

def describeFields (text : List Char) : Fields :=
  (splitlines text).foldl (describeLine unicode) []

/-- The fields of `meta` that come from the YAML. -/
structure Geometry where
  resolution : PyFloat
  origin : List Number
  negate : Int
  occupiedThresh : PyFloat
  freeThresh : PyFloat
deriving DecidableEq

/-- The check of geometry and thresholds. -/
def Geometry.valid (geometry : Geometry) : Bool :=
  geometry.origin.all isFinite && geometry.resolution.isFinite &&
    !geometry.resolution.le (.finite 0) && (geometry.negate == 0 || geometry.negate == 1) &&
    (PyFloat.finite 0).le geometry.freeThresh &&
    geometry.freeThresh.lt geometry.occupiedThresh && geometry.occupiedThresh.le (.finite 1)

/-- `describe_map` on the fields of the YAML. -/
def geometryOf (fields : Fields) : Option Geometry := do
  let coordinates ← (fields.get "origin").bind loadsOrigin
  let origin ← coordinates.mapM (Coordinate.value unicode)
  let resolution ← (fields.get "resolution").bind (float unicode)
  let negate ← (fields.get "negate").bind (int unicode)
  let occupiedThresh ← (fields.get "occupied_thresh").bind (float unicode)
  let freeThresh ← (fields.get "free_thresh").bind (float unicode)
  let geometry : Geometry := ⟨resolution, origin, negate, occupiedThresh, freeThresh⟩
  if geometry.valid then pure geometry else none

/-- `describe_map` on the bytes of the PGM. -/
def rasterOf (data : List UInt8) : Option Pgm := do
  let ((magic, width, height, maxval), data) ← header data
  let width ← intOfToken width
  let height ← intOfToken height
  if magic = [80, 53] ∧ maxval = [50, 53, 53] ∧ 0 < width ∧ 0 < height ∧
      ((data.drop 1).length : Int) = width * height then
    pure ⟨width, height, data.drop 1⟩
  else none

/-- What `describe_map` learns of a map: its geometry, and the raster that its revision is
    taken over. -/
structure Description where
  geometry : Geometry
  raster : Pgm
deriving DecidableEq

/-- `describe_map`, from the text of the YAML; the image has to be beside it. -/
def describeMap (directory : Directory) (text : List Char) : Option Description := do
  let fields := describeFields unicode text
  let image ← fields.get "image"
  let geometry ← geometryOf unicode fields
  let data ← directory.read image
  let raster ← rasterOf data
  if directory.beside image then pure ⟨geometry, raster⟩ else none

end PatrolBot.Maps
