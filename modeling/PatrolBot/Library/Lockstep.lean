import Mathlib.Order.Lattice
import Mathlib.Data.List.Basic

/-!
# Loops in step

Two loops over the same elements, each of which may raise: where a step keeps the states
related and raises the same exception on both sides, so does the whole loop.  A loop that
passes over some elements is the loop over the others.
-/

namespace PatrolBot.Lockstep

variable {α β ε : Type}

/-- Related states, or the same exception. -/
inductive Matched (related : β → β → Prop) : Except ε β → Except ε β → Prop where
  | ok {left right : β} : related left right → Matched related (.ok left) (.ok right)
  | error (e : ε) : Matched related (.error e) (.error e)

theorem Matched.imp {related related' : β → β → Prop} {left right : Except ε β}
    (h : Matched related left right)
    (himp : ∀ left right, related left right → related' left right) :
    Matched related' left right := by
  cases h with
  | ok hrelated => exact .ok (himp _ _ hrelated)
  | error e => exact .error e

section

variable {step : β → α → Except ε β}

theorem foldlM_matched {related : β → β → Prop}
    (hstep : ∀ left right item, related left right →
      Matched related (step left item) (step right item))
    {left right : β} (h : related left right) (items : List α) :
    Matched related (items.foldlM step left) (items.foldlM step right) := by
  induction items generalizing left right with
  | nil => exact .ok h
  | cons item items ih =>
    rw [List.foldlM_cons, List.foldlM_cons]
    have hone := hstep left right item h
    generalize step left item = first at hone
    generalize step right item = second at hone
    cases hone with
    | ok hrelated => exact ih hrelated
    | error e => exact .error e

/-- Elements that leave the state as it is can be left out. -/
theorem foldlM_filter (inv : β → Prop) {keep : α → Bool}
    (hskip : ∀ state item, inv state → keep item = false → step state item = .ok state)
    (hinv : ∀ state item state', inv state → step state item = .ok state' → inv state')
    {state : β} (h : inv state) (items : List α) :
    (items.filter keep).foldlM step state = items.foldlM step state := by
  induction items generalizing state with
  | nil => rfl
  | cons item items ih =>
    rw [List.foldlM_cons]
    cases hkeep : keep item with
    | false =>
      rw [List.filter_cons_of_neg (by rw [hkeep]; exact Bool.false_ne_true),
        hskip state item h hkeep]
      exact ih h
    | true =>
      rw [List.filter_cons_of_pos hkeep, List.foldlM_cons]
      cases hstep : step state item with
      | error e => rfl
      | ok state' => exact ih (hinv state item state' h hstep)

end

/-! ### The least element -/

/-- The first of the least elements, by a comparison. -/
def minimum (less : α → α → Bool) : List α → Option α
  | [] => none
  | first :: rest =>
    some (rest.foldl (fun least item => if less item least then item else least) first)

theorem minimum_isSome {less : α → α → Bool} {items : List α} {item : α} (h : item ∈ items) :
    ∃ least, minimum less items = some least := by
  cases items with
  | nil => cases h
  | cons first rest => exact ⟨_, rfl⟩

theorem minimum_mem {less : α → α → Bool} {items : List α} {least : α}
    (h : minimum less items = some least) : least ∈ items := by
  cases items with
  | nil => cases h
  | cons first rest =>
    obtain rfl := Option.some.inj h
    clear h
    induction rest generalizing first with
    | nil => exact List.mem_singleton_self first
    | cons item rest ih =>
      rw [List.foldl_cons]
      rcases List.mem_cons.mp (ih (if less item first then item else first)) with heq | hmem
      · rw [heq]
        split
        · exact List.mem_cons_of_mem first List.mem_cons_self
        · exact List.mem_cons_self
      · exact List.mem_cons_of_mem first (List.mem_cons_of_mem item hmem)

theorem minimum_le {κ : Type} [LinearOrder κ] {key : α → κ} {items : List α} {least : α}
    (h : minimum (fun left right => decide (key left < key right)) items = some least) :
    ∀ item ∈ items, key least ≤ key item := by
  cases items with
  | nil => cases h
  | cons first rest =>
    obtain rfl := Option.some.inj h
    clear h
    induction rest generalizing first with
    | nil =>
      intro item hitem
      rw [List.mem_singleton.mp hitem]
      exact le_refl (key first)
    | cons second rest ih =>
      intro item hitem
      rw [List.foldl_cons]
      by_cases hless : key second < key first
      · rw [if_pos (decide_eq_true hless)]
        rcases List.mem_cons.mp hitem with rfl | hitem
        · exact (ih second second List.mem_cons_self).trans hless.le
        · exact ih second item hitem
      · rw [if_neg (by simpa using hless)]
        rcases List.mem_cons.mp hitem with rfl | hitem
        · exact ih item item List.mem_cons_self
        · rcases List.mem_cons.mp hitem with rfl | hitem
          · exact (ih first first List.mem_cons_self).trans (not_lt.mp hless)
          · exact ih first item (List.mem_cons_of_mem first hitem)

end PatrolBot.Lockstep
