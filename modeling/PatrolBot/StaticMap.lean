import PatrolBot.Library.RunLength
import PatrolBot.MapText

/-!
# The static map

`static_map.py` reads the YAML and the PGM of a map and codes its cells by their runs, as
`encode_rle` does on both ends of the wire.  A raised error is `none`.
-/

namespace PatrolBot.Maps

/-! ### Coding of cells -/

/-- `encode_rle` of `messages.py`. -/
def encodeRle (cells : List Int) : List (Int × Int) := RunLength.encode cells

/-- `encode_rle` of `normalizers.py`, whose runs grow in place. -/
def bridgeEncodeRle (cells : List Int) : List (Int × Int) := RunLength.encode cells

/-- `decode_rle`. -/
def decodeRle (runs : List (Int × Int)) : List Int := RunLength.decode runs

/-! ### The two files -/

/-- A directory, as far as its maps go: the bytes that a name leads to, and whether the
    file stands in the directory itself. -/
structure Directory where
  read : List Char → Option (List UInt8)
  beside : List Char → Bool

variable (unicode : Unicode)

/-- `-?` at the front of a text, and what follows. -/
def minusAt : List Char → List Char × List Char
  | '-' :: text => (['-'], text)
  | text => ([], text)

/-- `\.?` at the front of a text, and what follows. -/
def pointAt : List Char → List Char × List Char
  | '.' :: text => (['.'], text)
  | text => ([], text)

/-- `(?:[eE]-?\d+)?` at the front of a text. -/
def exponentAt : List Char → List Char
  | [] => []
  | c :: text =>
    if c = 'e' ∨ c = 'E' then
      let (minus, text) := minusAt text
      let digits := text.takeWhile unicode.isDigit
      if digits = [] then [] else c :: (minus ++ digits)
    else []

/-- The number at the front of a text: `-?\d+\.?\d*(?:[eE]-?\d+)?`.  Every part takes what
    it can; none gets more by giving something back. -/
def numberAt (text : List Char) : Option (List Char) :=
  let (minus, text) := minusAt text
  let whole := text.takeWhile unicode.isDigit
  if whole = [] then none
  else
    let (point, text) := pointAt (text.dropWhile unicode.isDigit)
    let fraction := text.takeWhile unicode.isDigit
    let exponent := exponentAt unicode (text.dropWhile unicode.isDigit)
    some (minus ++ (whole ++ (point ++ (fraction ++ exponent))))

/-- `re.findall` of that pattern; the characters of the last number are skipped. -/
def numbersFrom : Nat → List Char → List (List Char)
  | _, [] => []
  | skip + 1, _ :: text => numbersFrom skip text
  | 0, c :: text =>
    match numberAt unicode (c :: text) with
    | some number => number :: numbersFrom (number.length - 1) text
    | none => numbersFrom 0 text

/-- The fields of the YAML, the last one first. -/
abbrev Fields := List (List Char × List Char)

/-- `fields[key]`. -/
def Fields.get (fields : Fields) (key : String) : Option (List Char) := fields.lookup key.toList

/-- One line of `_parse_map_yaml`. -/
def readLine (fields : Fields) (line : List Char) : Fields :=
  let line := strip unicode (line.takeWhile (· ≠ '#'))
  match partition ':' line with
  | (key, some value) => (strip unicode key, strip unicode value) :: fields
  | (_, none) => fields

structure Meta where
  image : List Char
  resolution : PyFloat
  origin : List PyFloat
  negate : Int
  occupiedThresh : PyFloat
  freeThresh : PyFloat

/-- `_parse_map_yaml`. -/
def parseMapYaml (text : List Char) : Option Meta := do
  let fields := (splitlines text).foldl (readLine unicode) []
  let origin ← (numbersFrom unicode 0 ((fields.get "origin").getD "[0, 0, 0]".toList)).mapM
    (float unicode)
  let image ← fields.get "image"
  let resolution ← (fields.get "resolution").bind (float unicode)
  let negate ← match fields.get "negate" with
    | some value => int unicode value
    | none => some 0
  let occupiedThresh ← match fields.get "occupied_thresh" with
    | some value => float unicode value
    | none => some (double false [0, 6, 5] (-2))
  let freeThresh ← match fields.get "free_thresh" with
    | some value => float unicode value
    | none => some (double false [0, 1, 9, 6] (-3))
  pure ⟨image, resolution, (origin ++ List.replicate 3 (PyFloat.finite 0)).take 3, negate,
    occupiedThresh, freeThresh⟩

/-- A raster as it is read: its pixels row by row from the top. -/
structure Pgm where
  width : Int
  height : Int
  pixels : List UInt8
deriving DecidableEq

/-- `_read_pgm`. -/
def readPgm (data : List UInt8) : Option Pgm := do
  let ((magic, width, height, maxval), data) ← header data
  let width ← intOfToken width
  let height ← intOfToken height
  let maxval ← intOfToken maxval
  if magic ≠ [80, 53] ∨ maxval ≠ 255 then none
  else
    -- A negative count of pixels is never the length of what is read.
    if width * height < 0 then none
    else
      let pixels := (data.drop 1).take (width * height).toNat
      if (pixels.length : Int) ≠ width * height then none else pure ⟨width, height, pixels⟩

/-! ### Cells -/

/-- The probability `p` that a pixel stands for. -/
def probability (yaml : Meta) (pixel : UInt8) : PyFloat :=
  PyFloat.rounded (.finite
    (if yaml.negate ≠ 0 then (pixel.toNat : ℚ) / 255 else (255 - pixel.toNat : ℚ) / 255))

/-- The entries of `table`; an unknown cell is carried as 255. -/
def translate (yaml : Meta) (pixel : UInt8) : UInt8 :=
  let p := probability yaml pixel
  if yaml.occupiedThresh.lt p then 100 else if p.lt yaml.freeThresh then 0 else 255

/-- The cell of a byte. -/
def cellOf (byte : UInt8) : Int := if byte = 255 then -1 else byte.toNat

structure MapData where
  mapVersion : Int
  name : List Char
  resolution : PyFloat
  width : Int
  height : Int
  x : PyFloat
  y : PyFloat
  yaw : PyFloat
  rle : List (Int × Int)

/-- The rows of the raster, translated. -/
def rowsOf (yaml : Meta) (pgm : Pgm) : List (List UInt8) :=
  let translated := pgm.pixels.map (translate yaml)
  (List.range pgm.height.toNat).map fun row =>
    (translated.drop (row * pgm.width.toNat)).take pgm.width.toNat

/-- `load_static_map`, from the text of the YAML. -/
def loadStaticMap (directory : Directory) (text name : List Char) : Option MapData := do
  let yaml ← parseMapYaml unicode text
  let data ← directory.read yaml.image
  let pgm ← readPgm data
  let flipped := (rowsOf yaml pgm).reverse.flatten
  let rle := (RunLength.runs flipped).map fun run => (cellOf run.1, run.2)
  pure {
    mapVersion := 0
    name := name
    resolution := yaml.resolution
    width := pgm.width
    height := pgm.height
    x := yaml.origin.getD 0 (.finite 0)
    y := yaml.origin.getD 1 (.finite 0)
    yaw := yaml.origin.getD 2 (.finite 0)
    rle := rle }

/-! ### The map that is drawn -/

/-- The occupancy of a pixel: occupied, free or unknown. -/
def occupancy (yaml : Meta) (pixel : UInt8) : Int :=
  if yaml.occupiedThresh.lt (probability yaml pixel) then 100
  else if (probability yaml pixel).lt yaml.freeThresh then 0
  else -1

/-- A map whose cells are those of a raster by their occupancy, turned upside down. -/
structure Draws (yaml : Meta) (pgm : Pgm) (map : MapData) : Prop where
  width : map.width = pgm.width
  height : map.height = pgm.height
  length : ((decodeRle map.rle).length : Int) = map.width * map.height
  cell : ∀ row column : Nat, row < map.height → column < map.width →
    ∃ pixel, pgm.pixels[(pgm.height.toNat - 1 - row) * pgm.width.toNat + column]? = some pixel ∧
      (decodeRle map.rle)[row * map.width.toNat + column]? = some (occupancy yaml pixel)

variable {unicode} {directory : Directory} {text name : List Char} {yaml : Meta} {pgm : Pgm}
  {map : MapData} {data : List UInt8}

theorem cellOf_translate (yaml : Meta) (pixel : UInt8) :
    cellOf (translate yaml pixel) = occupancy yaml pixel := by
  unfold translate occupancy
  simp only
  split
  · rfl
  · split
    · rfl
    · rfl

/-- A cell of rows of one width. -/
theorem getElem?_flatten_rows {α : Type*} {rows : List (List α)} {width column : Nat}
    (hrows : ∀ row ∈ rows, row.length = width) (hcolumn : column < width) (index : Nat) :
    rows.flatten[index * width + column]? = rows[index]?.bind fun row => row[column]? := by
  induction rows generalizing index with
  | nil => rfl
  | cons row rows ih =>
    have hrow : row.length = width := hrows row List.mem_cons_self
    cases index with
    | zero =>
      rw [Nat.zero_mul, Nat.zero_add, List.flatten_cons,
        List.getElem?_append_left (by omega)]
      rfl
    | succ index =>
      have hskip : (index + 1) * width + column - row.length = index * width + column := by
        rw [Nat.succ_mul, hrow]
        omega
      have hpast : row.length ≤ (index + 1) * width + column := by
        rw [Nat.succ_mul, hrow]
        omega
      rw [List.flatten_cons, List.getElem?_append_right hpast, hskip,
        ih fun row hmem => hrows row (List.mem_cons_of_mem _ hmem)]
      rfl

theorem length_flatten_rows {α : Type*} {rows : List (List α)} {width : Nat}
    (hrows : ∀ row ∈ rows, row.length = width) : rows.flatten.length = rows.length * width := by
  induction rows with
  | nil => simp
  | cons row rows ih =>
    rw [List.flatten_cons, List.length_append, hrows row List.mem_cons_self,
      ih fun row hmem => hrows row (List.mem_cons_of_mem _ hmem), List.length_cons, Nat.succ_mul,
      Nat.add_comm]

/-- An accepted raster has as many pixels as its header says. -/
theorem length_pixels (h : readPgm data = some pgm) :
    (pgm.pixels.length : Int) = pgm.width * pgm.height := by
  unfold readPgm at h
  simp only [Option.bind_eq_bind, Option.bind_eq_some_iff] at h
  obtain ⟨⟨⟨magic, width, height, maxval⟩, rest⟩, -, width, -, height, -, maxval, -, h⟩ := h
  simp only at h
  split at h
  · cases h
  · split at h
    · cases h
    · split at h
      · cases h
      · rename_i hlength
        obtain rfl := Option.some.inj h
        exact not_not.mp hlength

theorem length_of_mem_rowsOf {width height : Nat} (hwidth : pgm.width = width)
    (hheight : pgm.height = height) (hpixels : pgm.pixels.length = width * height) :
    ∀ row ∈ rowsOf yaml pgm, row.length = width := by
  intro row hrow
  obtain ⟨index, hindex, rfl⟩ := List.mem_map.mp hrow
  rw [hheight, Int.toNat_natCast, List.mem_range] at hindex
  have hlast : (index + 1) * width ≤ height * width := Nat.mul_le_mul_right width hindex
  rw [List.length_take, List.length_drop, List.length_map, hpixels, hwidth, Int.toNat_natCast,
    Nat.mul_comm width height]
  rw [Nat.succ_mul] at hlast
  omega

theorem getElem?_rowsOf {width height : Nat} (hwidth : pgm.width = width)
    (hheight : pgm.height = height) {row column : Nat} (hrow : row < height)
    (hcolumn : column < width) :
    ((rowsOf yaml pgm)[row]?.bind fun cells => cells[column]?) =
      pgm.pixels[row * width + column]?.map (translate yaml) := by
  have hat : (rowsOf yaml pgm)[row]? =
      some (((pgm.pixels.map (translate yaml)).drop (row * width)).take width) := by
    simp [rowsOf, hwidth, hheight, hrow]
  rw [hat, Option.bind_some, List.getElem?_take_of_lt hcolumn, List.getElem?_drop,
    List.getElem?_map]

/-- The runs of the flipped raster decode to its cells. -/
theorem draws_of_raster (hpixels : (pgm.pixels.length : Int) = pgm.width * pgm.height)
    (hwidth : 0 < pgm.width) (hheight : 0 < pgm.height) (hw : map.width = pgm.width)
    (hh : map.height = pgm.height)
    (hrle : map.rle = (RunLength.runs (rowsOf yaml pgm).reverse.flatten).map
      fun run => (cellOf run.1, run.2)) : Draws yaml pgm map := by
  obtain ⟨width, hwide⟩ := Int.eq_ofNat_of_zero_le hwidth.le
  obtain ⟨height, hhigh⟩ := Int.eq_ofNat_of_zero_le hheight.le
  have hcount : pgm.pixels.length = width * height := by
    rw [hwide, hhigh] at hpixels
    exact_mod_cast hpixels
  have hrows : ∀ row ∈ (rowsOf yaml pgm).reverse, row.length = width := by
    intro row hrow
    exact length_of_mem_rowsOf hwide hhigh hcount row (List.mem_reverse.mp hrow)
  have hheights : (rowsOf yaml pgm).length = height := by simp [rowsOf, hhigh]
  have hcells : decodeRle map.rle = (rowsOf yaml pgm).reverse.flatten.map cellOf := by
    rw [decodeRle, hrle, RunLength.decode_map, RunLength.decode_runs]
  constructor
  · exact hw
  · exact hh
  · rw [hcells, List.length_map, length_flatten_rows hrows, List.length_reverse, hheights, hw, hh,
      hwide, hhigh, mul_comm]
    push_cast
    rfl
  · intro row column hrow hcolumn
    rw [hh, hhigh, Nat.cast_lt] at hrow
    rw [hw, hwide, Nat.cast_lt] at hcolumn
    have hturned : height - 1 - row < height := by omega
    have hlast : (height - 1 - row + 1) * width ≤ height * width :=
      Nat.mul_le_mul_right width hturned
    have hindex : (height - 1 - row) * width + column < pgm.pixels.length := by
      rw [hcount, Nat.mul_comm width height]
      rw [Nat.succ_mul] at hlast
      omega
    have hpixel := List.getElem?_eq_getElem hindex
    refine ⟨pgm.pixels[(height - 1 - row) * width + column], ?_, ?_⟩
    · rw [hwide, hhigh]
      exact hpixel
    · have hrow' : row < (rowsOf yaml pgm).length := by omega
      rw [hcells, hw, hwide, List.getElem?_map]
      simp only [Int.toNat_natCast]
      rw [getElem?_flatten_rows hrows hcolumn row, List.getElem?_reverse hrow', hheights,
        getElem?_rowsOf hwide hhigh hturned hcolumn, hpixel]
      simp only [Option.map_some]
      rw [cellOf_translate]

/-- What coding the cells of a map promises: the two encoders and the decoder invert each
    other, and the map that is loaded shows the raster it is loaded from. -/
structure CodesCells (encode : List Int → List (Int × Int)) : Prop where
  decode_encode : ∀ cells, decodeRle (encode cells) = cells
  compact : ∀ cells, RunLength.Compact (encode cells)
  encode_decode : ∀ runs, RunLength.Compact runs → encode (decodeRle runs) = runs

/-- Cells survive their coding, and a loaded map shows its raster. -/
theorem codes_cells (unicode : Unicode) (directory : Directory) (text name : List Char) :
    CodesCells encodeRle ∧ CodesCells bridgeEncodeRle ∧
      ∀ map, loadStaticMap unicode directory text name = some map →
        ∃ yaml data pgm, parseMapYaml unicode text = some yaml ∧
          directory.read yaml.image = some data ∧ readPgm data = some pgm ∧
          (0 < pgm.width → 0 < pgm.height → Draws yaml pgm map) := by
  refine ⟨⟨RunLength.decode_encode, RunLength.compact_encode, fun _ => RunLength.encode_decode⟩,
    ⟨RunLength.decode_encode, RunLength.compact_encode, fun _ => RunLength.encode_decode⟩, ?_⟩
  intro map hmap
  unfold loadStaticMap at hmap
  simp only [Option.bind_eq_bind, Option.bind_eq_some_iff] at hmap
  obtain ⟨yaml, hyaml, data, hdata, pgm, hpgm, hmap⟩ := hmap
  obtain rfl := Option.some.inj hmap
  refine ⟨yaml, data, pgm, hyaml, hdata, hpgm, ?_⟩
  intro hwidth hheight
  exact draws_of_raster (length_pixels hpgm) hwidth hheight rfl rfl rfl

/-- A map of two rows of two pixels. -/
example :
    let files : Directory :=
      ⟨fun _ => some ("P5 2 2 255\n".toList.map (fun c => c.toNat.toUInt8) ++ [0, 254, 128, 0]),
        fun _ => true⟩
    let yaml := ("image: a.pgm\nresolution: 1\norigin: [0, 0, 0]\n" ++
      "occupied_thresh: 1e-1\nfree_thresh: 0.05").toList
    (loadStaticMap Unicode.ascii files yaml []).map (fun map => decodeRle map.rle) =
      some [100, 100, 100, 0] := by decide +kernel

end PatrolBot.Maps
