import Mathlib.Data.List.Basic

/-!
# Queues that shed

A bounded queue in arrival order.  A full one makes room by shedding its oldest item that
is not spared, and refuses the newcomer if it spares all it holds.
-/

namespace PatrolBot.Shedding

variable {α : Type*}

/-- The queue after `item` was offered, or `none` if it was refused. -/
def offer (limit : Nat) (spared : α → Bool) (queue : List α) (item : α) : Option (List α) :=
  if queue.length < limit then some (queue ++ [item])
  else if queue.all spared then none
  else some (queue.eraseP (fun held => !spared held) ++ [item])

variable {limit : Nat} {spared : α → Bool} {queue queue' : List α} {item : α}

/-- What an offer can do. -/
theorem offer_cases :
    (queue.length < limit ∧ offer limit spared queue item = some (queue ++ [item])) ∨
    (limit ≤ queue.length ∧ ∃ before shed after, queue = before ++ shed :: after ∧
      (∀ held ∈ before, spared held = true) ∧ spared shed = false ∧
      offer limit spared queue item = some (before ++ after ++ [item])) ∨
    (limit ≤ queue.length ∧ (∀ held ∈ queue, spared held = true) ∧
      offer limit spared queue item = none) := by
  by_cases hroom : queue.length < limit
  · exact Or.inl ⟨hroom, if_pos hroom⟩
  have hfull : limit ≤ queue.length := Nat.le_of_not_lt hroom
  by_cases hall : queue.all spared = true
  · right
    right
    constructor
    · exact hfull
    · constructor
      · exact List.all_eq_true.mp hall
      · rw [offer, if_neg hroom, if_pos hall]
  · right
    left
    obtain ⟨held, hheld, hshed⟩ : ∃ held ∈ queue, (!spared held) = true := by
      simpa [List.all_eq_true] using hall
    obtain ⟨shed, before, after, hbefore, hnot, hqueue, herased⟩ :=
      @List.exists_of_eraseP _ (fun held => !spared held) _ _ hheld hshed
    refine ⟨hfull, before, shed, after, hqueue, ?_, ?_, ?_⟩
    · intro other hother
      simpa using hbefore other hother
    · simpa using hnot
    · rw [offer, if_neg hroom, if_neg hall, herased]

theorem length_offer_le (hbound : queue.length ≤ limit)
    (h : offer limit spared queue item = some queue') : queue'.length ≤ limit := by
  rcases offer_cases with ⟨hroom, hoffer⟩ | ⟨hfull, before, shed, after, hqueue, -, -, hoffer⟩ |
    ⟨-, -, hoffer⟩
  · obtain rfl := Option.some.inj (hoffer.symm.trans h)
    rw [List.length_append, List.length_singleton]
    omega
  · obtain rfl := Option.some.inj (hoffer.symm.trans h)
    rw [hqueue, List.length_append, List.length_cons] at hbound
    simp only [List.length_append, List.length_singleton]
    omega
  · rw [hoffer] at h
    cases h

/-- Nothing is added but the newcomer, and the order is kept. -/
theorem sublist_of_offer (h : offer limit spared queue item = some queue') :
    queue'.Sublist (queue ++ [item]) := by
  rcases offer_cases with ⟨-, hoffer⟩ | ⟨-, before, shed, after, hqueue, -, -, hoffer⟩ |
    ⟨-, -, hoffer⟩
  · obtain rfl := Option.some.inj (hoffer.symm.trans h)
    exact List.Sublist.refl _
  · obtain rfl := Option.some.inj (hoffer.symm.trans h)
    rw [hqueue]
    apply List.Sublist.append _ (List.Sublist.refl _)
    exact (List.Sublist.refl before).append (List.sublist_cons_self shed after)
  · rw [hoffer] at h
    cases h

/-- No spared item is lost. -/
theorem filter_offer (h : offer limit spared queue item = some queue') :
    queue'.filter spared = (queue ++ [item]).filter spared := by
  rcases offer_cases with ⟨-, hoffer⟩ | ⟨-, before, shed, after, hqueue, -, hshed, hoffer⟩ |
    ⟨-, -, hoffer⟩
  · obtain rfl := Option.some.inj (hoffer.symm.trans h)
    rfl
  · obtain rfl := Option.some.inj (hoffer.symm.trans h)
    simp [hqueue, hshed]
  · rw [hoffer] at h
    cases h

end PatrolBot.Shedding
