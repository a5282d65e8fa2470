import Mathlib.Algebra.Group.Prod
import Mathlib.Algebra.BigOperators.Group.List.Basic
import PatrolBot.Library.Worklist
import PatrolBot.TuningValidation

/-!
# The bounded scan and its stack

`_scan` of `tuning/validation.py` as the loop it is, over any tree of Python values: texts
may hold surrogates, keys need not be texts, and a value may be of a type that JSON does
not have.  `Tuning.scan` is the same walk over the values of JSON.
-/

namespace PatrolBot.Tuning

open Worklist

/-! ### Python values -/

/-- A Python `str`: its code points, lone surrogates among them. -/
abbrev PyText := List (Fin 0x110000)

/-- The bytes of a code point in UTF-8; a surrogate has none. -/
def encodeWidth (c : Fin 0x110000) : Option Nat :=
  if c.val < 0x80 then some 1
  else if c.val < 0x800 then some 2
  else if 0xD800 ≤ c.val ∧ c.val < 0xE000 then none
  else if c.val < 0x10000 then some 3
  else some 4

/-- `len(text.encode("utf-8"))`, or nothing for a `UnicodeError`. -/
def encodeLength : PyText → Option Nat
  | [] => some 0
  | c :: text => do
    let width ← encodeWidth c
    let length ← encodeLength text
    some (width + length)

/-- A key of a dictionary. -/
inductive PyKey where
  | text (key : PyText)
  | other

inductive PyValue where
  | none
  | bool (value : Bool)
  | float (value : PyFloat)
  | int (n : Int)
  | str (text : PyText)
  | dict (fields : List (PyKey × PyValue))
  -- a list or a tuple
  | list (items : List PyValue)
  | other (typeName : String)

namespace PyValue

def children : PyValue → List PyValue
  | dict fields => fields.map Prod.snd
  | list items => items
  | _ => []

mutual

/-- The number of nodes. -/
def size : PyValue → Nat
  | dict fields => sizeFields fields + 1
  | list items => sizeItems items + 1
  | _ => 1

def sizeItems : List PyValue → Nat
  | [] => 0
  | item :: items => item.size + sizeItems items

def sizeFields : List (PyKey × PyValue) → Nat
  | [] => 0
  | (_, value) :: fields => value.size + sizeFields fields

end

theorem sizeItems_eq (items : List PyValue) : sizeItems items = (items.map size).sum := by
  induction items with
  | nil => rfl
  | cons item items ih => rw [sizeItems, List.map_cons, List.sum_cons, ih]

theorem sizeFields_eq (fields : List (PyKey × PyValue)) :
    sizeFields fields = ((fields.map Prod.snd).map size).sum := by
  induction fields with
  | nil => rfl
  | cons field fields ih =>
    obtain ⟨key, value⟩ := field
    rw [sizeFields, List.map_cons, List.map_cons, List.sum_cons, ih]

theorem sum_children_lt (value : PyValue) : (value.children.map size).sum < value.size := by
  cases value with
  | dict fields =>
    rw [size, children, sizeFields_eq]
    exact Nat.lt_succ_self _
  | list items =>
    rw [size, children, sizeItems_eq]
    exact Nat.lt_succ_self _
  | _ => exact Nat.one_pos

end PyValue

/-- Values with the depths they lie at. -/
def valueForest : Forest (PyValue × Nat) where
  children node := node.1.children.map fun child => (child, node.2 + 1)
  size node := node.1.size
  sum_lt node := by
    rw [List.map_map]
    exact node.1.sum_children_lt

/-! ### The scan -/

section

variable (maxBytes : Int)

/-- `len(text) > max_bytes`, then the bytes of the text. -/
def visitText (problem : String) (text : PyText) (count : ScanCount) : Checked ScanCount :=
  if maxBytes < text.length then .error tooLarge
  else match encodeLength text with
    | none => .error ⟨[problem], "bad_type"⟩
    | some length => .ok { count with total := count.total + length }

/-- The loop over the entries of a dictionary. -/
def visitFields : List (PyKey × PyValue) → ScanCount → Checked ScanCount
  | [], count => .ok count
  | (key, _) :: fields, count =>
    if maxItems < count.items + 1 then
      .error ⟨["The request has too many fields."], "payload_too_large"⟩
    else match key with
      | .other => .error ⟨["Object keys must be strings."], "bad_type"⟩
      | .text key => do
        let count ← visitText maxBytes "Invalid Unicode key." key
          { count with items := count.items + 1 }
        visitFields fields count

/-- The loop over the items of a list. -/
def visitItems : List PyValue → ScanCount → Checked ScanCount
  | [], count => .ok count
  | _ :: items, count =>
    if maxItems < count.items + 1 then
      .error ⟨["The request has too many items."], "payload_too_large"⟩
    else visitItems items { count with items := count.items + 1 }

/-- The branch of a value. -/
def visitValue (value : PyValue) (count : ScanCount) : Checked ScanCount :=
  let eight : ScanCount := { count with total := count.total + 8 }
  match value with
  | .none | .bool _ => .ok eight
  | .float value =>
    if value.isFinite then .ok eight
    else .error ⟨["Non-finite numbers are not allowed."], "non_finite_number"⟩
  | .int n =>
    if maxInt < n.natAbs then .error ⟨["Integer value out of range."], "integer_too_large"⟩
    else .ok eight
  | .str text => visitText maxBytes "Invalid Unicode text." text count
  | .dict fields => visitFields maxBytes fields eight
  | .list items => visitItems items eight
  | .other typeName => .error ⟨["Unsupported value type " ++ typeName ++ "."], "bad_type"⟩

/-- An iteration of the loop, once the node is popped. -/
def visit (node : PyValue × Nat) (count : ScanCount) : Checked ScanCount :=
  if maxDepth < node.2 then .error ⟨["The request is nested too deeply."], "payload_too_deep"⟩
  else do
    let count ← visitValue maxBytes node.1 count
    if maxBytes < count.total then .error tooLarge else .ok count

/-- `_scan`. -/
def scanLoop (value : PyValue) : Checked ScanCount :=
  valueForest.loop (visit maxBytes) [(value, 0)] {}

end

/-! ### What the scan is to refuse -/

/-- The value and everything in it, with their depths. -/
def PyValue.nodes (value : PyValue) : List (PyValue × Nat) := valueForest.nodes (value, 0)

/-- The number of child entries of all containers. -/
def PyValue.entries (value : PyValue) : Nat :=
  (value.nodes.map fun node => node.1.children.length).sum

/-- The length of a key or a text in UTF-8. -/
def textCost (text : PyText) : Nat := (encodeLength text).getD 0

def keyCost : PyKey → Nat
  | .text key => textCost key
  | .other => 0

/-- What a node costs: 8 for a container and for a scalar that is not a text; texts and
    keys cost their bytes. -/
def PyValue.ownCost : PyValue → Nat
  | .str text => textCost text
  | .dict fields => 8 + (fields.map fun field => keyCost field.1).sum
  | .none | .bool _ | .float _ | .int _ | .list _ | .other _ => 8

def PyValue.cost (value : PyValue) : Nat := (value.nodes.map fun node => node.1.ownCost).sum

/-- Surrogates are not encoded. -/
def EncodableText (text : PyText) : Prop := ∀ c ∈ text, ¬ (0xD800 ≤ c.val ∧ c.val < 0xE000)

instance : DecidablePred EncodableText := fun text => inferInstanceAs (Decidable (∀ c ∈ text, _))

def GoodKey : PyKey → Prop
  | .text key => EncodableText key
  | .other => False

instance : DecidablePred GoodKey
  | .text key => inferInstanceAs (Decidable (EncodableText key))
  | .other => inferInstanceAs (Decidable False)

/-- A number, text, dictionary or type that is admissible by itself. -/
def PyValue.Proper : PyValue → Prop
  | .float value => value.isFinite = true
  | .int n => n.natAbs ≤ maxInt
  | .str text => EncodableText text
  | .dict fields => ∀ field ∈ fields, GoodKey field.1
  | .other _ => False
  | .none | .bool _ | .list _ => True

instance : DecidablePred PyValue.Proper
  | .float value => inferInstanceAs (Decidable (value.isFinite = true))
  | .int n => inferInstanceAs (Decidable (n.natAbs ≤ maxInt))
  | .str text => inferInstanceAs (Decidable (EncodableText text))
  | .dict fields => inferInstanceAs (Decidable (∀ field ∈ fields, GoodKey field.1))
  | .other _ => inferInstanceAs (Decidable False)
  | .none | .bool _ | .list _ => inferInstanceAs (Decidable True)

/-! ### Texts, fields and items -/

variable {maxBytes : Int}

theorem encodeLength_of_encodable {text : PyText} (h : EncodableText text) :
    ∃ length, encodeLength text = some length ∧ text.length ≤ length := by
  induction text with
  | nil => exact ⟨0, rfl, Nat.le_refl 0⟩
  | cons c text ih =>
    obtain ⟨hc, htext⟩ := List.forall_mem_cons.mp h
    obtain ⟨length, hlength, hle⟩ := ih htext
    have hwidth : ∃ width, encodeWidth c = some width ∧ 1 ≤ width := by
      unfold encodeWidth
      repeat' split
      all_goals exact ⟨_, rfl, by decide⟩
    obtain ⟨width, hwidth, hpos⟩ := hwidth
    refine ⟨width + length, ?_, ?_⟩
    · simp [encodeLength, hwidth, hlength]
    · rw [List.length_cons]
      omega

theorem encodeLength_of_not_encodable {text : PyText} (h : ¬ EncodableText text) :
    encodeLength text = none := by
  induction text with
  | nil => exact absurd (fun c hc => absurd hc List.not_mem_nil) h
  | cons c text ih =>
    by_cases hc : 0xD800 ≤ c.val ∧ c.val < 0xE000
    · have hwidth : encodeWidth c = none := by
        unfold encodeWidth
        rw [if_neg (by omega), if_neg (by omega), if_pos hc]
      simp [encodeLength, hwidth]
    · have htext : ¬ EncodableText text := by
        intro htext
        exact h (List.forall_mem_cons.mpr ⟨hc, htext⟩)
      cases hwidth : encodeWidth c <;> simp [encodeLength, hwidth, ih htext]

/-- A text is charged, or it is refused for its characters or for its length. -/
theorem visitText_cases (problem : String) (text : PyText) (count : ScanCount) :
    EncodableText text ∧ visitText maxBytes problem text count =
        .ok { count with total := count.total + textCost text } ∨
      (∃ reason, visitText maxBytes problem text count = .error reason) ∧
        (EncodableText text → maxBytes < (count.total + textCost text : Nat)) := by
  unfold visitText
  by_cases htext : EncodableText text
  · obtain ⟨length, hlength, hle⟩ := encodeLength_of_encodable htext
    have hcost : textCost text = length := by rw [textCost, hlength, Option.getD_some]
    split
    · refine Or.inr ⟨⟨_, rfl⟩, ?_⟩
      intro _
      omega
    · rw [hlength, hcost]
      exact Or.inl ⟨htext, rfl⟩
  · rw [encodeLength_of_not_encodable htext]
    refine Or.inr ⟨?_, fun h => absurd h htext⟩
    split <;> exact ⟨_, rfl⟩

/-- The fields are charged, or they are refused for a key, for their number or for their
    length. -/
theorem visitFields_cases (fields : List (PyKey × PyValue)) (count : ScanCount) :
    (∀ field ∈ fields, GoodKey field.1) ∧ (fields ≠ [] → count.items + fields.length ≤ maxItems) ∧
        visitFields maxBytes fields count = .ok ⟨count.items + fields.length,
          count.total + (fields.map fun field => keyCost field.1).sum⟩ ∨
      (∃ reason, visitFields maxBytes fields count = .error reason) ∧
        ((∀ field ∈ fields, GoodKey field.1) → maxItems < count.items + fields.length ∨
          maxBytes <
            (count.total + (fields.map fun field => keyCost field.1).sum : Nat)) := by
  induction fields generalizing count with
  | nil => exact Or.inl ⟨fun _ h => absurd h List.not_mem_nil, fun h => absurd rfl h, rfl⟩
  | cons field fields ih =>
    obtain ⟨key, value⟩ := field
    rw [List.length_cons, List.map_cons, List.sum_cons, List.forall_mem_cons]
    by_cases hmany : maxItems < count.items + 1
    · refine Or.inr ⟨?_, fun _ => Or.inl (by omega)⟩
      cases key <;> exact ⟨_, if_pos hmany⟩
    · cases key with
      | other =>
        refine Or.inr ⟨⟨_, if_neg hmany⟩, ?_⟩
        intro hkeys
        exact hkeys.1.elim
      | text key =>
        have hcost : keyCost (.text key) = textCost key := rfl
        rw [visitFields, if_neg hmany, hcost]
        rcases @visitText_cases maxBytes "Invalid Unicode key." key
          { count with items := count.items + 1 } with ⟨hkey, hok⟩ | ⟨⟨reason, herror⟩, hlong⟩
        · rw [hok]
          rcases ih ⟨count.items + 1, count.total + textCost key⟩ with
            ⟨hkeys, hitems, hrest⟩ | ⟨⟨reason, herror⟩, hover⟩
          · refine Or.inl ⟨⟨hkey, hkeys⟩, ?_, ?_⟩
            · intro _
              cases fields with
              | nil => simpa using hmany
              | cons field fields =>
                have hbound := hitems (List.cons_ne_nil field fields)
                dsimp only at hbound
                omega
            · refine hrest.trans (congrArg Except.ok ?_)
              simp only [ScanCount.mk.injEq]
              omega
          · refine Or.inr ⟨⟨reason, herror⟩, ?_⟩
            intro hkeys
            have hrest := hover hkeys.2
            dsimp only at hrest
            omega
        · rw [herror]
          refine Or.inr ⟨⟨reason, rfl⟩, ?_⟩
          intro hkeys
          have htotal := hlong hkeys.1
          dsimp only at htotal
          omega

theorem visitItems_cases (items : List PyValue) (count : ScanCount) :
    (items ≠ [] → count.items + items.length ≤ maxItems) ∧
        visitItems items count = .ok ⟨count.items + items.length, count.total⟩ ∨
      (∃ reason, visitItems items count = .error reason) ∧
        maxItems < count.items + items.length := by
  induction items generalizing count with
  | nil => exact Or.inl ⟨fun h => absurd rfl h, rfl⟩
  | cons item items ih =>
    rw [visitItems, List.length_cons]
    split
    · rename_i hmany
      exact Or.inr ⟨⟨_, rfl⟩, by omega⟩
    · rename_i hmany
      rcases ih ⟨count.items + 1, count.total⟩ with ⟨hitems, hrest⟩ | ⟨herror, hover⟩
      · refine Or.inl ⟨?_, ?_⟩
        · intro _
          cases items with
          | nil => simpa using hmany
          | cons item items =>
            have hbound := hitems (List.cons_ne_nil item items)
            dsimp only at hbound
            omega
        · refine hrest.trans (congrArg Except.ok ?_)
          simp only [ScanCount.mk.injEq, and_true]
          omega
      · refine Or.inr ⟨herror, ?_⟩
        dsimp only at hover
        omega

/-! ### A visit -/

/-- A node is charged its entries and its cost, or it is refused for what it is, for the
    entries or for the cost. -/
theorem visitValue_cases (value : PyValue) (count : ScanCount) :
    value.Proper ∧
        (value.children ≠ [] → count.items + value.children.length ≤ maxItems) ∧
        visitValue maxBytes value count =
          .ok ⟨count.items + value.children.length, count.total + value.ownCost⟩ ∨
      (∃ reason, visitValue maxBytes value count = .error reason) ∧
        (value.Proper → maxItems < count.items + value.children.length ∨
          maxBytes < (count.total + value.ownCost : Nat)) := by
  have hleaf : ([] : List PyValue) ≠ [] →
      count.items + ([] : List PyValue).length ≤ maxItems := fun h => absurd rfl h
  cases value with
  | none => exact Or.inl ⟨trivial, hleaf, rfl⟩
  | bool value => exact Or.inl ⟨trivial, hleaf, rfl⟩
  | float value =>
    by_cases hfinite : value.isFinite = true
    · exact Or.inl ⟨hfinite, hleaf, if_pos hfinite⟩
    · exact Or.inr ⟨⟨_, if_neg hfinite⟩, fun h => absurd h hfinite⟩
  | int n =>
    by_cases hlarge : maxInt < n.natAbs
    · exact Or.inr ⟨⟨_, if_pos hlarge⟩, fun h => absurd h (Nat.not_le.mpr hlarge)⟩
    · exact Or.inl ⟨Nat.not_lt.mp hlarge, hleaf, if_neg hlarge⟩
  | str text =>
    rcases @visitText_cases maxBytes "Invalid Unicode text." text count with
      ⟨htext, hok⟩ | ⟨herror, hlong⟩
    · exact Or.inl ⟨htext, hleaf, hok⟩
    · exact Or.inr ⟨herror, fun htext => Or.inr (hlong htext)⟩
  | dict fields =>
    have hlength : (PyValue.dict fields).children.length = fields.length := List.length_map _
    have hcost : (PyValue.dict fields).ownCost =
        8 + (fields.map fun field => keyCost field.1).sum := rfl
    rw [hlength, hcost, ← Nat.add_assoc]
    rcases @visitFields_cases maxBytes fields { count with total := count.total + 8 } with
      ⟨hkeys, hitems, hok⟩ | ⟨herror, hover⟩
    · refine Or.inl ⟨hkeys, ?_, hok⟩
      intro hchildren
      apply hitems
      rintro rfl
      exact hchildren rfl
    · exact Or.inr ⟨herror, hover⟩
  | list items =>
    rcases visitItems_cases items { count with total := count.total + 8 } with
      ⟨hitems, hok⟩ | ⟨herror, hover⟩
    · exact Or.inl ⟨trivial, hitems, hok⟩
    · exact Or.inr ⟨herror, fun _ => Or.inl hover⟩
  | other typeName => exact Or.inr ⟨⟨_, rfl⟩, fun h => h.elim⟩

/-- Entries, bytes and faults: what the limits allow. -/
def allowed (maxBytes : Int) (spent : Nat × Nat × Nat) : Prop :=
  spent.1 ≤ maxItems ∧ spent.2.1 ≤ maxBytes ∧ spent.2.2 = 0

/-- A node that is too deep or improper. -/
def Faulty (node : PyValue × Nat) : Prop := maxDepth < node.2 ∨ ¬ node.1.Proper

instance : DecidablePred Faulty := fun _ => inferInstanceAs (Decidable (_ ∨ _))

/-- The entries, the bytes and the faults of a node. -/
def charge (node : PyValue × Nat) : Nat × Nat × Nat :=
  (node.1.children.length, node.1.ownCost, if Faulty node then 1 else 0)

theorem allowed_charge_iff {count : ScanCount} {node : PyValue × Nat} :
    allowed maxBytes ((count.items, count.total, 0) + charge node) ↔
      count.items + node.1.children.length ≤ maxItems ∧
        (count.total + node.1.ownCost : Nat) ≤ maxBytes ∧ ¬ Faulty node := by
  have hfault : (if Faulty node then 1 else 0) = 0 ↔ ¬ Faulty node := by
    by_cases h : Faulty node <;> simp [h]
  simp only [allowed, charge, Prod.mk_add_mk, Nat.zero_add, hfault]

/-- The visits of the scan charge the nodes against the limits. -/
theorem charges_visit (maxBytes : Int) :
    Forest.Charges (visit maxBytes) (allowed maxBytes) charge
      (fun count => (count.items, count.total, 0)) := by
  constructor
  · rintro ⟨items, total, faults⟩ ⟨items', total', faults'⟩ ⟨hitems, htotal, hfaults⟩
    simp only [Prod.mk_add_mk] at hitems htotal hfaults
    exact ⟨by dsimp only; omega, by dsimp only; omega, by dsimp only; omega⟩
  · intro node count hallowed
    obtain ⟨hitems, htotal, hfault⟩ := allowed_charge_iff.mp hallowed
    rw [Faulty, not_or, Classical.not_not] at hfault
    obtain ⟨hdepth, hproper⟩ := hfault
    rcases @visitValue_cases maxBytes node.1 count with ⟨-, -, hok⟩ | ⟨-, hover⟩
    · refine ⟨⟨count.items + node.1.children.length, count.total + node.1.ownCost⟩, ?_, ?_⟩
      · rw [visit, if_neg hdepth, hok]
        exact if_neg (Int.not_lt.mpr htotal)
      · have hgood : ¬ Faulty node := not_or.mpr ⟨hdepth, not_not_intro hproper⟩
        simp only [charge, Prod.mk_add_mk, if_neg hgood]
    · have hlimits := hover hproper
      omega
  · intro node count hcount hrefused
    by_cases hdepth : maxDepth < node.2
    · exact ⟨_, if_pos hdepth⟩
    · rw [visit, if_neg hdepth]
      rcases @visitValue_cases maxBytes node.1 count with ⟨hproper, hitems, hok⟩ | ⟨herror, -⟩
      · have htotal : maxBytes < (count.total + node.1.ownCost : Nat) := by
          by_contra hwithin
          apply hrefused
          refine allowed_charge_iff.mpr ⟨?_, Int.not_lt.mp hwithin, ?_⟩
          · by_cases hchildren : node.1.children = []
            · rw [hchildren]
              exact hcount.1
            · exact hitems hchildren
          · rw [Faulty, not_or, Classical.not_not]
            exact ⟨hdepth, hproper⟩
        rw [hok]
        exact ⟨_, if_pos htotal⟩
      · obtain ⟨reason, hreason⟩ := herror
        rw [hreason]
        exact ⟨reason, rfl⟩

/-! ### The scan as a whole -/

theorem spent_sum (nodes : List (PyValue × Nat)) :
    (nodes.map charge).sum =
      ((nodes.map fun node => node.1.children.length).sum,
        (nodes.map fun node => node.1.ownCost).sum,
        (nodes.map fun node => (charge node).2.2).sum) := by
  induction nodes with
  | nil => rfl
  | cons node nodes ih =>
    simp only [List.map_cons, List.sum_cons, ih]
    rfl

theorem faults_eq_zero_iff (nodes : List (PyValue × Nat)) :
    (nodes.map fun node => (charge node).2.2).sum = 0 ↔ ∀ node ∈ nodes, ¬ Faulty node := by
  rw [List.sum_eq_zero_iff, List.forall_mem_map]
  refine forall₂_congr ?_
  intro node _
  by_cases h : Faulty node <;> simp [charge, h]

/-- What the scan refuses: a node deeper than the limit, more entries or bytes than the
    limits, or something that is not admissible by itself. -/
def Refusable (maxBytes : Int) (value : PyValue) : Prop :=
  (∃ node ∈ value.nodes, maxDepth < node.2) ∨ maxItems < value.entries ∨
    maxBytes < value.cost ∨ ∃ node ∈ value.nodes, ¬ node.1.Proper

theorem refusable_iff {value : PyValue} :
    ¬ allowed maxBytes ((0, 0, 0) + ((valueForest.pending [(value, 0)]).map charge).sum) ↔
      Refusable maxBytes value := by
  have hpending : valueForest.pending [(value, 0)] = value.nodes := List.flatMap_singleton _ _
  rw [hpending, spent_sum, allowed]
  simp only [Prod.mk_add_mk, Nat.zero_add, faults_eq_zero_iff]
  rw [Refusable, PyValue.entries, PyValue.cost]
  constructor
  · intro h
    by_contra hnot
    simp only [not_or, not_exists, not_and, Nat.not_lt, Int.not_lt, Classical.not_not] at hnot
    obtain ⟨hdepth, hitems, htotal, hproper⟩ := hnot
    apply h
    refine ⟨hitems, htotal, ?_⟩
    rintro node hnode (hdeep | himproper)
    · exact absurd (hdepth node hnode) (Nat.not_le.mpr hdeep)
    · exact himproper (hproper node hnode)
  · rintro (⟨node, hnode, hdeep⟩ | hitems | htotal | ⟨node, hnode, himproper⟩)
      ⟨hitems', htotal', hfaults⟩
    · exact hfaults node hnode (Or.inl hdeep)
    · omega
    · omega
    · exact hfaults node hnode (Or.inr himproper)

/-- A negative limit refuses the first node. -/
theorem visit_negative (hneg : maxBytes < 0) {node : PyValue × Nat} {count count' : ScanCount} :
    visit maxBytes node count ≠ .ok count' := by
  intro hok
  unfold visit at hok
  split at hok
  · cases hok
  · obtain ⟨counted, -, hok⟩ := bind_eq_ok.mp hok
    split at hok
    · cases hok
    · omega

/-- The loop ends, in any order of the stack, and in any order it raises exactly where
    the value is refusable. -/
theorem scan_raises_iff (maxBytes : Int) (value : PyValue) :
    (WellFounded fun after before => valueForest.Step (visit maxBytes) before after) ∧
      ((∃ reason, scanLoop maxBytes value = .error reason) ↔ Refusable maxBytes value) ∧
      ∀ outcome, valueForest.Walk (visit maxBytes) ([(value, 0)], {}) outcome →
        ((∃ reason, outcome = .error reason) ↔ Refusable maxBytes value) := by
  have hany : ∀ outcome, valueForest.Walk (visit maxBytes) ([(value, 0)], {}) outcome →
      ((∃ reason, outcome = .error reason) ↔ Refusable maxBytes value) := by
    intro outcome hwalk
    by_cases hneg : maxBytes < 0
    · refine iff_of_true ?_ (Or.inr (Or.inr (Or.inl (by omega))))
      cases hwalk with
      | refused hperm hvisit => exact ⟨_, rfl⟩
      | next hstep hwalk =>
        obtain ⟨node, rest, -, hvisit, -⟩ := hstep
        exact absurd hvisit (visit_negative hneg)
    · rw [(charges_visit maxBytes).walk_refused_iff hwalk
        ⟨Nat.zero_le _, Int.not_lt.mp hneg, rfl⟩]
      exact refusable_iff
  exact ⟨valueForest.wellFounded_step _, hany _ (valueForest.walk_loop _ _ _), hany⟩

/-! ### Values of JSON -/

def codePoint (c : Char) : Fin 0x110000 :=
  ⟨c.toNat, by
    rcases c.valid with h | ⟨-, h⟩
    · exact Nat.lt_trans h (by decide)
    · exact h⟩

def PyText.ofString (text : String) : PyText := text.toList.map codePoint

mutual

/-- A decoded value as a value of Python. -/
def PyValue.ofJson : Json → PyValue
  | .null => .none
  | .bool value => .bool value
  | .int n => .int n
  | .float value => .float value
  | .str text => .str (.ofString text)
  | .list items => .list (PyValue.ofItems items)
  | .obj fields => .dict (PyValue.ofFields fields)

def PyValue.ofItems : List Json → List PyValue
  | [] => []
  | item :: items => PyValue.ofJson item :: PyValue.ofItems items

def PyValue.ofFields : List (String × Json) → List (PyKey × PyValue)
  | [] => []
  | (key, value) :: fields =>
    (.text (.ofString key), PyValue.ofJson value) :: PyValue.ofFields fields

end

theorem encodeWidth_codePoint (c : Char) : encodeWidth (codePoint c) = some c.utf8Size := by
  have hsize : c.utf8Size = if c.toNat < 0x80 then 1 else if c.toNat < 0x800 then 2
      else if c.toNat < 0x10000 then 3 else 4 := by
    unfold Char.utf8Size
    simp only [UInt32.le_iff_toNat_le, Char.toNat, ← Nat.lt_succ_iff]
    rfl
  have hvalid : ¬ (0xD800 ≤ c.toNat ∧ c.toNat < 0xE000) := by
    rcases c.valid with h | ⟨h, -⟩
    · have hlow : c.toNat < 55296 := h
      omega
    · have hhigh : 57343 < c.toNat := h
      omega
  have hwidth : encodeWidth (codePoint c) = if c.toNat < 0x80 then some 1
      else if c.toNat < 0x800 then some 2
      else if 0xD800 ≤ c.toNat ∧ c.toNat < 0xE000 then none
      else if c.toNat < 0x10000 then some 3 else some 4 := rfl
  rw [hwidth, hsize, if_neg hvalid]
  split_ifs <;> rfl

/-- Every text of JSON is encoded, in the bytes that it has. -/
theorem encodeLength_ofString (text : String) :
    encodeLength (.ofString text) = some text.utf8ByteSize := by
  have hlist : ∀ characters : List Char, encodeLength (characters.map codePoint) =
      some (String.ofList characters).utf8ByteSize := by
    intro characters
    induction characters with
    | nil => rfl
    | cons c characters ih =>
      rw [List.map_cons, encodeLength, encodeWidth_codePoint, ih, String.ofList_cons,
        String.utf8ByteSize_append, String.utf8ByteSize_singleton]
      rfl
  rw [PyText.ofString, hlist, String.ofList_toList]

section

variable {maxBytes : Nat}

theorem visitText_ofString (problem text : String) (count : ScanCount) :
    visitText maxBytes problem (.ofString text) count = scanText maxBytes text count := by
  have hlength : (PyText.ofString text).length = text.length := by
    rw [PyText.ofString, List.length_map, String.length_toList]
  rw [visitText, scanText, encodeLength_ofString, hlength]
  by_cases hlong : maxBytes < text.length
  · rw [if_pos (Int.ofNat_lt.mpr hlong), if_pos hlong]
  · rw [if_neg (mt Int.ofNat_lt.mp hlong), if_neg hlong]

theorem visitFields_ofFields (fields : List (String × Json)) (count : ScanCount) :
    visitFields maxBytes (PyValue.ofFields fields) count =
      scanKeys maxBytes (fields.map Prod.fst) count := by
  induction fields generalizing count with
  | nil => rfl
  | cons field fields ih =>
    obtain ⟨key, value⟩ := field
    rw [PyValue.ofFields, visitFields, List.map_cons, scanKeys, visitText_ofString]
    simp only [ih]

theorem visitItems_eq (items : List PyValue) (count : ScanCount) :
    visitItems items count = scanItems items.length count := by
  induction items generalizing count with
  | nil => rfl
  | cons item items ih =>
    rw [visitItems, ih, scanItems, scanItems, List.length_cons, if_neg (Nat.succ_ne_zero _)]
    by_cases hfirst : maxItems < count.items + 1
    · rw [if_pos hfirst, if_pos (by omega)]
    · rw [if_neg hfirst]
      by_cases hempty : items.length = 0
      · rw [if_pos hempty, if_neg (by omega), hempty]
      · rw [if_neg hempty]
        by_cases hmany : maxItems < count.items + 1 + items.length
        · rw [if_pos hmany, if_pos (by omega)]
        · rw [if_neg hmany, if_neg (by omega)]
          simp only [Except.ok.injEq, ScanCount.mk.injEq, and_true]
          omega

theorem length_ofItems (items : List Json) : (PyValue.ofItems items).length = items.length := by
  induction items with
  | nil => rfl
  | cons item items ih => rw [PyValue.ofItems, List.length_cons, ih, List.length_cons]

/-- What has been counted, unless it is over the limit. -/
def capped (maxBytes : Nat) (counted : Checked ScanCount) : Checked ScanCount :=
  match counted with
  | .error reason => .error reason
  | .ok count => if count.total > maxBytes then .error tooLarge else .ok count

theorem checked_eq_capped (counted : Checked ScanCount) :
    (counted >>= fun count =>
      if (maxBytes : Int) < count.total then .error tooLarge else .ok count) =
      capped maxBytes counted := by
  cases counted with
  | error reason => rfl
  | ok count =>
    by_cases hlong : maxBytes < count.total
    · exact (if_pos (Int.ofNat_lt.mpr hlong)).trans (if_pos hlong).symm
    · exact (if_neg (mt Int.ofNat_lt.mp hlong)).trans (if_neg hlong).symm

/-- A node of JSON is visited as `Tuning.scan` does it. -/
theorem visit_ofJson (node : Json) (depth : Nat) (count : ScanCount) :
    visit maxBytes (PyValue.ofJson node, depth) count = scanNode maxBytes depth node count := by
  rw [visit, scanNode]
  by_cases hdeep : maxDepth < depth
  · rw [if_pos hdeep, if_pos hdeep]
  · rw [if_neg hdeep, if_neg hdeep, checked_eq_capped]
    cases node with
    | str text => exact congrArg (capped maxBytes) (visitText_ofString _ text count)
    | obj fields => exact congrArg (capped maxBytes) (visitFields_ofFields fields _)
    | list items =>
      have hitems := visitItems_eq (PyValue.ofItems items) { count with total := count.total + 8 }
      rw [length_ofItems] at hitems
      exact congrArg (capped maxBytes) hitems
    | _ => rfl

/-- The children of a list or a dictionary on the stack, the last on top. -/
def pushed (depth : Nat) (children : List PyValue) : List (PyValue × Nat) :=
  (children.map fun child => (child, depth)).reverse

theorem loop_node (node : PyValue) (depth : Nat) (stack : List (PyValue × Nat))
    (count : ScanCount) :
    valueForest.loop (visit maxBytes) ((node, depth) :: stack) count =
      (visit maxBytes (node, depth) count >>= fun count =>
        valueForest.loop (visit maxBytes) (pushed (depth + 1) node.children ++ stack) count) := by
  rw [Forest.loop]
  cases visit maxBytes (node, depth) count <;> rfl

theorem pushed_cons (depth : Nat) (child : PyValue) (children : List PyValue)
    (stack : List (PyValue × Nat)) :
    pushed depth (child :: children) ++ stack =
      pushed depth children ++ (child, depth) :: stack := by
  rw [pushed, List.map_cons, List.reverse_cons, List.append_assoc, List.singleton_append, pushed]

mutual

/-- The loop takes what hangs below a node before the rest of the stack. -/
theorem loop_ofJson (node : Json) (depth : Nat) (stack : List (PyValue × Nat))
    (count : ScanCount) :
    valueForest.loop (visit maxBytes) ((PyValue.ofJson node, depth) :: stack) count =
      (scanValue maxBytes depth node count >>= valueForest.loop (visit maxBytes) stack) := by
  rw [loop_node, visit_ofJson]
  cases node with
  | list items =>
    rw [scanValue, bind_assoc]
    refine bind_congr ?_
    intro counted
    exact loop_ofItems items (depth + 1) stack counted
  | obj fields =>
    rw [scanValue, bind_assoc]
    refine bind_congr ?_
    intro counted
    exact loop_ofFields fields (depth + 1) stack counted
  | null => rfl
  | bool value => rfl
  | int n => rfl
  | float value => rfl
  | str text => rfl

theorem loop_ofItems (items : List Json) (depth : Nat) (stack : List (PyValue × Nat))
    (count : ScanCount) :
    valueForest.loop (visit maxBytes) (pushed depth (PyValue.ofItems items) ++ stack) count =
      (scanList maxBytes depth items count >>= valueForest.loop (visit maxBytes) stack) := by
  cases items with
  | nil => rfl
  | cons item items =>
    rw [PyValue.ofItems, pushed_cons, loop_ofItems items, scanList, bind_assoc]
    refine bind_congr ?_
    intro counted
    exact loop_ofJson item depth stack counted

theorem loop_ofFields (fields : List (String × Json)) (depth : Nat)
    (stack : List (PyValue × Nat)) (count : ScanCount) :
    valueForest.loop (visit maxBytes)
        (pushed depth ((PyValue.ofFields fields).map Prod.snd) ++ stack) count =
      (scanFields maxBytes depth fields count >>= valueForest.loop (visit maxBytes) stack) := by
  cases fields with
  | nil => rfl
  | cons field fields =>
    obtain ⟨key, value⟩ := field
    rw [PyValue.ofFields, List.map_cons, pushed_cons, loop_ofFields fields, scanFields, bind_assoc]
    refine bind_congr ?_
    intro counted
    exact loop_ofJson value depth stack counted

end

/-- Over the values of JSON, the loop and `Tuning.scan` have the same outcome. -/
theorem scanLoop_ofJson (value : Json) :
    scanLoop maxBytes (PyValue.ofJson value) = scan maxBytes value := by
  rw [scanLoop, loop_ofJson, scan]
  have hend : ∀ counted : Checked ScanCount,
      (counted >>= valueForest.loop (visit maxBytes) []) = counted := by
    intro counted
    cases counted with
    | error reason => rfl
    | ok count =>
      refine Eq.trans (show _ = valueForest.loop (visit maxBytes) [] count from rfl) ?_
      rw [Forest.loop]
  exact hend _

end

end PatrolBot.Tuning
