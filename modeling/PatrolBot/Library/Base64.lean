import Mathlib.Data.List.Basic

/-!
# Base64 for addresses

Bytes as characters in groups of four, in the alphabet that is safe in an address, and the
lenient reader: it passes over what is not in the alphabet, stops at the padding, and takes
both spellings of the last two digits.  The reader gives back the bytes that were written.
-/

namespace PatrolBot.Base64

def alphabet : List Char :=
  "ABCDEFGHIJKLMNOPQRSTUVWXYZabcdefghijklmnopqrstuvwxyz0123456789-_".toList

def digit (n : Nat) : Char := alphabet.getD n '='

def sextet (c : Char) : Option Nat :=
  if c = '+' then some 62 else if c = '/' then some 63 else alphabet.idxOf? c

def encode : List UInt8 → List Char
  | [] => []
  | [a] => [digit (a.toNat / 4), digit (a.toNat % 4 * 16), '=', '=']
  | [a, b] =>
    [digit (a.toNat / 4), digit (a.toNat % 4 * 16 + b.toNat / 16), digit (b.toNat % 16 * 4), '=']
  | a :: b :: c :: rest =>
    digit (a.toNat / 4) :: digit (a.toNat % 4 * 16 + b.toNat / 16) ::
      digit (b.toNat % 16 * 4 + c.toNat / 64) :: digit (c.toNat % 64) :: encode rest

/-- The bytes of a text from inside a group: how many digits of it were read, what is left
    of the last one, and how many padding characters came after it. -/
def decodeFrom (quad left pads : Nat) : List Char → Option (List Nat)
  | [] => if quad = 0 then some [] else none
  | c :: rest =>
    if c = '=' then
      if 2 ≤ quad then
        if 4 ≤ quad + (pads + 1) then some [] else decodeFrom quad left (pads + 1) rest
      else decodeFrom quad left pads rest
    else match sextet c with
      | none => decodeFrom quad left pads rest
      | some n => match quad with
        | 0 => decodeFrom 1 n 0 rest
        | 1 => (decodeFrom 2 (n % 16) 0 rest).map fun bytes => (left * 4 + n / 16) :: bytes
        | 2 => (decodeFrom 3 (n % 4) 0 rest).map fun bytes => (left * 16 + n / 4) :: bytes
        | _ => (decodeFrom 0 0 0 rest).map fun bytes => (left * 64 + n) :: bytes

def decode (text : List Char) : Option (List UInt8) :=
  (decodeFrom 0 0 0 text).map fun bytes => bytes.map UInt8.ofNat

theorem sextet_digit : ∀ n < 64, sextet (digit n) = some n := by decide +kernel

theorem digit_ne_pad : ∀ n < 64, digit n ≠ '=' := by decide +kernel

theorem digit_mem : ∀ n < 64, digit n ∈ alphabet := by decide +kernel

variable {n left pads : Nat} {rest : List Char}

theorem decodeFrom_first (h : n < 64) :
    decodeFrom 0 left pads (digit n :: rest) = decodeFrom 1 n 0 rest := by
  simp only [decodeFrom, if_neg (digit_ne_pad n h), sextet_digit n h]

theorem decodeFrom_second (h : n < 64) :
    decodeFrom 1 left pads (digit n :: rest) =
      (decodeFrom 2 (n % 16) 0 rest).map fun bytes => (left * 4 + n / 16) :: bytes := by
  simp only [decodeFrom, if_neg (digit_ne_pad n h), sextet_digit n h]

theorem decodeFrom_third (h : n < 64) :
    decodeFrom 2 left pads (digit n :: rest) =
      (decodeFrom 3 (n % 4) 0 rest).map fun bytes => (left * 16 + n / 4) :: bytes := by
  simp only [decodeFrom, if_neg (digit_ne_pad n h), sextet_digit n h]

theorem decodeFrom_fourth (h : n < 64) :
    decodeFrom 3 left pads (digit n :: rest) =
      (decodeFrom 0 0 0 rest).map fun bytes => (left * 64 + n) :: bytes := by
  simp only [decodeFrom, if_neg (digit_ne_pad n h), sextet_digit n h]

theorem decodeFrom_encode (bytes : List UInt8) :
    decodeFrom 0 0 0 (encode bytes) = some (bytes.map UInt8.toNat) := by
  induction bytes using encode.induct with
  | case1 => rfl
  | case2 a =>
    have ha := a.toNat_lt
    rw [encode, decodeFrom_first (by omega), decodeFrom_second (by omega)]
    have hbyte : a.toNat / 4 * 4 + a.toNat % 4 * 16 / 16 = a.toNat := by omega
    simp only [decodeFrom, hbyte]
    rfl
  | case3 a b =>
    have ha := a.toNat_lt
    have hb := b.toNat_lt
    rw [encode, decodeFrom_first (by omega), decodeFrom_second (by omega),
      decodeFrom_third (by omega)]
    have hfirst : a.toNat / 4 * 4 + (a.toNat % 4 * 16 + b.toNat / 16) / 16 = a.toNat := by omega
    have hsecond : (a.toNat % 4 * 16 + b.toNat / 16) % 16 * 16 + b.toNat % 16 * 4 / 4 =
        b.toNat := by omega
    simp only [decodeFrom, hfirst, hsecond]
    rfl
  | case4 a b c rest ih =>
    have ha := a.toNat_lt
    have hb := b.toNat_lt
    have hc := c.toNat_lt
    rw [encode, decodeFrom_first (by omega), decodeFrom_second (by omega),
      decodeFrom_third (by omega), decodeFrom_fourth (by omega), ih]
    have hfirst : a.toNat / 4 * 4 + (a.toNat % 4 * 16 + b.toNat / 16) / 16 = a.toNat := by omega
    have hsecond : (a.toNat % 4 * 16 + b.toNat / 16) % 16 * 16 +
        (b.toNat % 16 * 4 + c.toNat / 64) / 4 = b.toNat := by omega
    have hthird : (b.toNat % 16 * 4 + c.toNat / 64) % 4 * 64 + c.toNat % 64 = c.toNat := by omega
    simp only [Option.map_some, hfirst, hsecond, hthird, List.map_cons]

/-- What was written is read back. -/
theorem decode_encode (bytes : List UInt8) : decode (encode bytes) = some bytes := by
  rw [decode, decodeFrom_encode, Option.map_some, List.map_map]
  congr 1
  exact List.map_id'' (fun byte => UInt8.ofNat_toNat) bytes

theorem mem_encode {bytes : List UInt8} {c : Char} (h : c ∈ encode bytes) :
    c ∈ alphabet ∨ c = '=' := by
  have hdigit : ∀ n < 64, c = digit n → c ∈ alphabet ∨ c = '=' := by
    rintro n hn rfl
    exact Or.inl (digit_mem n hn)
  induction bytes using encode.induct with
  | case1 => simp [encode] at h
  | case2 a =>
    have ha := a.toNat_lt
    simp only [encode, List.mem_cons, List.not_mem_nil, or_false, or_self] at h
    rcases h with h | h | h
    · exact hdigit _ (by omega) h
    · exact hdigit _ (by omega) h
    · exact Or.inr h
  | case3 a b =>
    have ha := a.toNat_lt
    have hb := b.toNat_lt
    simp only [encode, List.mem_cons, List.not_mem_nil, or_false] at h
    rcases h with h | h | h | h
    · exact hdigit _ (by omega) h
    · exact hdigit _ (by omega) h
    · exact hdigit _ (by omega) h
    · exact Or.inr h
  | case4 a b c' rest ih =>
    have ha := a.toNat_lt
    have hb := b.toNat_lt
    have hc := c'.toNat_lt
    simp only [encode, List.mem_cons] at h
    rcases h with h | h | h | h | h
    · exact hdigit _ (by omega) h
    · exact hdigit _ (by omega) h
    · exact hdigit _ (by omega) h
    · exact hdigit _ (by omega) h
    · exact ih h

theorem ascii_encode {bytes : List UInt8} {c : Char} (h : c ∈ encode bytes) :
    c.toNat < 128 ∧ c ≠ '.' := by
  have halphabet : alphabet.all (fun c => decide (c.toNat < 128 ∧ c ≠ '.')) = true := by
    decide +kernel
  rcases mem_encode h with hmem | rfl
  · exact of_decide_eq_true (List.all_eq_true.mp halphabet c hmem)
  · decide

end PatrolBot.Base64
