import PatrolBot.TuningValidation
import PatrolBot.Library.JsonText
import Mathlib.Data.Set.Function

/-!
# Signed tuning mutations

`tuning/authorization.py`: a mutation leaves the server under a signature over
its canonical JSON text, with the robot it is for and the half minute in which
it may be used.  The digest is a parameter, a keyed function of the text.
-/

namespace PatrolBot

open JsonText (Value Numbers)

/-! ### JSON texts of Python values -/

mutual

/-- A decoded value as the JSON value it is. -/
def Json.toValue : Json → Value PyFloat
  | .null => .null
  | .bool value => .bool value
  | .int value => .int value
  | .float value => .real value
  | .str value => .str value
  | .list items => .list (Json.toItems items)
  | .obj fields => .obj (Json.toFields fields)

def Json.toItems : List Json → List (Value PyFloat)
  | [] => []
  | item :: items => Json.toValue item :: Json.toItems items

def Json.toFields : List (String × Json) → List (String × Value PyFloat)
  | [] => []
  | (key, value) :: fields => (key, Json.toValue value) :: Json.toFields fields

end

mutual

def Json.ofValue : Value PyFloat → Json
  | .null => .null
  | .bool value => .bool value
  | .int value => .int value
  | .real value => .float value
  | .str value => .str value
  | .list items => .list (Json.ofItems items)
  | .obj fields => .obj (Json.ofFields fields)

def Json.ofItems : List (Value PyFloat) → List Json
  | [] => []
  | item :: items => Json.ofValue item :: Json.ofItems items

def Json.ofFields : List (String × Value PyFloat) → List (String × Json)
  | [] => []
  | (key, value) :: fields => (key, Json.ofValue value) :: Json.ofFields fields

end

mutual

@[simp] theorem Json.toValue_ofValue : ∀ value : Value PyFloat,
    Json.toValue (Json.ofValue value) = value
  | .null => rfl
  | .bool _ => rfl
  | .int _ => rfl
  | .real _ => rfl
  | .str _ => rfl
  | .list items => by simp only [Json.ofValue, Json.toValue, Json.toItems_ofItems items]
  | .obj fields => by simp only [Json.ofValue, Json.toValue, Json.toFields_ofFields fields]

theorem Json.toItems_ofItems : ∀ items : List (Value PyFloat),
    Json.toItems (Json.ofItems items) = items
  | [] => rfl
  | item :: items => by
    simp only [Json.ofItems, Json.toItems, Json.toValue_ofValue item, Json.toItems_ofItems items]

theorem Json.toFields_ofFields : ∀ fields : List (String × Value PyFloat),
    Json.toFields (Json.ofFields fields) = fields
  | [] => rfl
  | (_, value) :: fields => by
    simp only [Json.ofFields, Json.toFields, Json.toValue_ofValue value,
      Json.toFields_ofFields fields]

end

namespace Json

theorem lookup_ofFields (key : String) (fields : List (String × Value PyFloat)) :
    lookup key (ofFields fields) = (fields.lookup key).map ofValue := by
  induction fields with
  | nil => rfl
  | cons field fields ih =>
    obtain ⟨name, value⟩ := field
    simp only [ofFields, lookup, List.lookup_cons, ih]
    by_cases hkey : name = key
    · simp [hkey]
    · simp [hkey, beq_eq_false_iff_ne.mpr (Ne.symm hkey)]

theorem lookup_toFields (key : String) (fields : List (String × Json)) :
    (toFields fields).lookup key = (lookup key fields).map toValue := by
  induction fields with
  | nil => rfl
  | cons field fields ih =>
    obtain ⟨name, value⟩ := field
    simp only [toFields, lookup, List.lookup_cons, ih]
    by_cases hkey : name = key
    · simp [hkey]
    · simp [hkey, beq_eq_false_iff_ne.mpr (Ne.symm hkey)]

/-- The value with the keys of every dictionary in order. -/
def sortKeys (value : Json) : Json := ofValue (JsonText.sorted value.toValue)

/-- Two values that differ at most in the order of keys: `==` of dictionaries
    does not look at it. -/
def Alike (left right : Json) : Prop := left.sortKeys = right.sortKeys

@[simp] theorem sortKeys_sortKeys (value : Json) : value.sortKeys.sortKeys = value.sortKeys := by
  simp only [sortKeys, toValue_ofValue, JsonText.sorted_sorted]

theorem alike_sortKeys (value : Json) : Alike value.sortKeys value := sortKeys_sortKeys value

@[simp] theorem toValue_sortKeys (value : Json) :
    value.sortKeys.toValue = JsonText.sorted value.toValue :=
  toValue_ofValue _

/-- The fields of a dictionary, sorted. -/
def sortFields (fields : List (String × Json)) : List (String × Json) :=
  ofFields ((JsonText.sortedFields (toFields fields)).insertionSort JsonText.KeyLe)

theorem sortKeys_obj (fields : List (String × Json)) :
    sortKeys (.obj fields) = .obj (sortFields fields) := rfl

theorem lookup_sortFields (key : String) (fields : List (String × Json)) :
    lookup key (sortFields fields) = (lookup key fields).map sortKeys := by
  rw [sortFields, lookup_ofFields, JsonText.lookup_insertionSort, JsonText.lookup_sortedFields,
    lookup_toFields]
  rw [Option.map_map, Option.map_map]
  rfl

theorem get_sortFields (key : String) (fields : List (String × Json)) :
    get (sortFields fields) key = sortKeys (get fields key) := by
  rw [get, get, lookup_sortFields]
  cases lookup key fields <;> rfl

end Json

/-- How the interpreter writes a `float` and reads it back: the doubles it
    holds, `repr`, and `float` of a text. -/
structure FloatTexts where
  held : ℚ → Bool
  repr : ℚ → List Char
  parse : List Char → Option ℚ
  token_of_mem : ∀ q, held q = true → ∀ c ∈ repr q, JsonText.isToken c = true
  marked : ∀ q, held q = true → (repr q).any JsonText.isMark = true
  parse_repr : ∀ q, held q = true → parse (repr q) = some q
  length_repr : ∀ q, held q = true → (repr q).length ≤ 24

namespace FloatTexts

/-- `sys.get_int_max_str_digits()`. -/
def maxStrDigits : Nat := 4300

def text (floats : FloatTexts) : PyFloat → List Char
  | .finite q => floats.repr q
  | _ => []

/-- `allow_nan=False` refuses what is not finite. -/
def accepts (floats : FloatTexts) : PyFloat → Bool
  | .finite q => floats.held q
  | _ => false

/-- The numbers of `json.dumps` and `json.loads`. -/
def numbers (floats : FloatTexts) : Numbers PyFloat where
  digits := maxStrDigits
  text := floats.text
  read text := (floats.parse text).map PyFloat.finite
  accepts := floats.accepts
  token_of_mem
    | .finite q, h => floats.token_of_mem q h
  marked
    | .finite q, h => floats.marked q h
  read_text
    | .finite q, h => by
      change (floats.parse (floats.repr q)).map PyFloat.finite = _
      rw [floats.parse_repr q h]
      rfl

/-- `json.dumps(value, sort_keys=True, separators=(",", ":"), allow_nan=False)`,
    or `none` where it raises. -/
def dumpsSorted (floats : FloatTexts) (value : Json) : Option (List Char) :=
  if JsonText.writable floats.numbers value.toValue then
    some (JsonText.canonical floats.numbers value.toValue)
  else none

/-- `json.dumps(value, separators=(",", ":"), allow_nan=False)`. -/
def dumps (floats : FloatTexts) (value : Json) : Option (List Char) :=
  if JsonText.writable floats.numbers value.toValue then
    some (JsonText.text floats.numbers value.toValue)
  else none

/-- `json.loads(text)`. -/
def loads (floats : FloatTexts) (text : List Char) : Option Json :=
  (JsonText.read floats.numbers text).map Json.ofValue

variable {floats : FloatTexts} {value left right : Json} {raw : List Char}

theorem loads_dumpsSorted (h : floats.dumpsSorted value = some raw) :
    floats.loads raw = some value.sortKeys := by
  unfold dumpsSorted at h
  split at h
  · rename_i hwritable
    cases h
    simp only [loads, JsonText.read_canonical floats.numbers hwritable]
    rfl
  · exact absurd h (by simp)

@[simp] theorem dumpsSorted_sortKeys (floats : FloatTexts) (value : Json) :
    floats.dumpsSorted value.sortKeys = floats.dumpsSorted value := by
  simp only [dumpsSorted, Json.toValue_sortKeys, JsonText.writable_sorted,
    JsonText.canonical_sorted]

theorem alike_of_dumpsSorted (hleft : floats.dumpsSorted left = some raw)
    (hright : floats.dumpsSorted right = some raw) : left.Alike right := by
  have hl := loads_dumpsSorted hleft
  rw [loads_dumpsSorted hright] at hl
  exact (Option.some.inj hl).symm

end FloatTexts

namespace Tuning

/-! ### Constants -/

/-- `DOMAIN`. -/
def domain : List Char := "patrolbot-tuning-authorization-v1\n".toList

/-- `MAX_BYTES`. -/
def maxBytes : Nat := 20 * 1024

/-- `MAX_LIFETIME_MS`. -/
def maxLifetimeMs : Int := 30000

/-- `CLOCK_SKEW_MS`. -/
def clockSkewMs : Int := 5000

/-! ### Signing -/

/-- What `sign` and `verify` raise. -/
inductive AuthFailure where
  /-- `AuthorizationError`. -/
  | refused (detail : String)
  /-- `TypeError` of a membership test on a list or a dictionary. -/
  | unhashable
  /-- `ValueError` of `json.loads`. -/
  | undecodable
deriving DecidableEq

abbrev Signing (α : Type) := Except AuthFailure α

/-- `if not c: raise AuthorizationError(detail)`. -/
def demand (c : Prop) [Decidable c] (detail : String) : Signing Unit :=
  if c then .ok () else .error (.refused detail)

@[simp] theorem demand_eq_ok {c : Prop} [Decidable c] {detail : String} {u : Unit} :
    demand c detail = .ok u ↔ c := by
  unfold demand
  split <;> simp_all

/-- `_key`. -/
def checkKey (key : List UInt8) : Signing Unit :=
  demand (32 ≤ key.length ∧ key.length ≤ 4096) "tuning authorization key is unavailable"

/-- `_clock_ms`, of a reading of the clock in seconds. -/
def clockMs : PyFloat → Signing Int
  | .finite seconds =>
    if 0 ≤ seconds ∧ seconds ≤ (2 ^ 53 - 1) / 1000 then .ok (seconds * 1000).floor
    else .error (.refused "invalid authorization clock")
  | _ => .error (.refused "invalid authorization clock")

/-- `value in OPERATIONS`. -/
def isMutation : Json → Signing Bool
  | .str operation => .ok (mutationOperations.contains operation)
  | .list _ => .error .unhashable
  | .obj _ => .error .unhashable
  | _ => .ok false

/-- The fields of a `dict`. -/
def entries : Json → Option (List (String × Json))
  | .obj fields => some fields
  | _ => none

/-- The actor and the request of `_subject`. -/
def subjectParties (actor request : Json) : Signing Unit :=
  match entries actor, entries request with
  | some actor, some request =>
    if isText (Json.get actor "role") "administrator" then do
      let mutation ← isMutation (Json.get request "operation")
      demand mutation "administrator mutation required"
    else .error (.refused "administrator mutation required")
  | _, _ => .error (.refused "administrator mutation required")

/-- `_subject`, which answers with the fields of the wrapper. -/
def subject (wrapper : Json) (robotId : String) : Signing (List (String × Json)) := do
  demand (1 ≤ robotId.length ∧ robotId.length ≤ 128) "invalid robot authorization subject"
  match entries wrapper with
  | none => .error (.refused "invalid authorization envelope")
  | some fields =>
    demand ((Json.lookup "request" fields).isSome ∧ (Json.lookup "actor" fields).isSome)
      "invalid authorization envelope"
    subjectParties (Json.get fields "actor") (Json.get fields "request")
    pure fields

section

variable (floats : FloatTexts) (hmac : List UInt8 → List Char → String)

/-- `_canonical`; the text is ASCII, so its characters are its bytes. -/
def canonical (value : Json) : Signing (List Char) :=
  match floats.dumpsSorted value with
  | none => .error (.refused "invalid authorization payload")
  | some raw =>
    if raw.length > maxBytes then .error (.refused "authorization payload too large") else .ok raw

/-- `json.loads(_canonical(value))`. -/
def reread (value : Json) : Signing Json := do
  let raw ← canonical floats value
  match floats.loads raw with
  | none => .error .undecodable
  | some value => pure value

/-- The hexadecimal digest of a body. -/
def digest (key : List UInt8) (body : Json) : Signing String := do
  checkKey key
  let raw ← canonical floats body
  pure (hmac key (domain ++ raw))

/-- `dict(wrapper, authorization=claims)`. -/
def withAuthorization (fields claims : List (String × Json)) : Json :=
  .obj (insertAt "authorization" (.obj claims) fields)

/-- The claims `sign` makes. -/
def issuedClaims (robotId : String) (issued : Int) : List (String × Json) :=
  [("version", .int 1), ("robot_id", .str robotId), ("issued_at_ms", .int issued),
    ("expires_at_ms", .int (issued + maxLifetimeMs))]

/-- `body["authorization"]["signature"] = signature`. -/
def attachSignature (body : Json) (signature : String) : Json :=
  match entries body with
  | none => body
  | some fields => match entries (Json.get fields "authorization") with
    | none => body
    | some claims => withAuthorization fields (insertAt "signature" (.str signature) claims)

/-- `sign`. -/
def sign (wrapper : Json) (key : List UInt8) (robotId : String) (now : PyFloat) :
    Signing Json := do
  let fields ← subject wrapper robotId
  demand (Json.hasExactly fields ["actor", "request"]) "unexpected authorization envelope fields"
  let issued ← clockMs now
  let body := withAuthorization fields (issuedClaims robotId issued)
  let signature ← digest floats hmac key body
  let body ← reread floats body
  pure (attachSignature body signature)

/-! ### Verifying -/

def claimKeys : List String :=
  ["version", "robot_id", "issued_at_ms", "expires_at_ms", "signature"]

/-- The claims of a wrapper, with the times they hold. -/
structure Claims where
  fields : List (String × Json)
  issued : Int
  expires : Int

/-- The checks of `verify` on the claims that need no clock. -/
def checkedClaims (robotId : String) (authorization : Json) : Signing Claims :=
  match entries authorization with
  | none => .error (.refused "invalid tuning authorization claims")
  | some claims => do
    demand (Json.hasExactly claims claimKeys) "invalid tuning authorization claims"
    match strictInt (Json.get claims "issued_at_ms"),
        strictInt (Json.get claims "expires_at_ms") with
    | some issued, some expires =>
      demand (strictInt (Json.get claims "version") = some 1 ∧
          isText (Json.get claims "robot_id") robotId ∧
          0 ≤ issued ∧ issued < expires ∧ expires ≤ jsSafeInt ∧
          0 < expires - issued ∧ expires - issued ≤ maxLifetimeMs)
        "invalid tuning authorization binding"
      pure ⟨claims, issued, expires⟩
    | _, _ => .error (.refused "invalid tuning authorization binding")

/-- `re.fullmatch("[0-9a-f]{64}", signature)`. -/
def isDigest (signature : String) : Bool :=
  decide (signature.length = 64) && signature.toList.all lowerHex

/-- The claims that were signed. -/
def unsigned (claims : List (String × Json)) : List (String × Json) :=
  claims.filter fun claim => claim.1 != "signature"

/-- The checks of `verify` on the signature. -/
def checkSignature (key : List UInt8) (fields claims : List (String × Json)) : Signing Unit :=
  match asText (Json.get claims "signature") with
  | none => .error (.refused "invalid tuning authorization signature")
  | some signature => do
    demand (isDigest signature) "invalid tuning authorization signature"
    let expected ← digest floats hmac key (withAuthorization fields (unsigned claims))
    demand (expected = signature) "invalid tuning authorization signature"

/-- `verify`. -/
def verify (wrapper : Json) (key : List UInt8) (robotId : String) (now : PyFloat) :
    Signing Json := do
  let fields ← subject wrapper robotId
  demand (Json.hasExactly fields ["actor", "request", "authorization"])
    "signed tuning authorization required"
  let claims ← checkedClaims robotId (Json.get fields "authorization")
  let current ← clockMs now
  demand (¬(claims.issued > current + clockSkewMs ∨ claims.expires ≤ current))
    "expired or future tuning authorization"
  checkSignature floats hmac key fields claims.fields
  reread floats (.obj [("request", Json.get fields "request"), ("actor", Json.get fields "actor")])

end

end Tuning

end PatrolBot
