import PatrolBot.Library.Machine

/-!
# What goes through a machine

A machine that holds items in the order they arrive: events bring items, the outputs
of a step take items away, and the state holds those in between.  If exactly the
guarded steps lose nothing, a run hands on every item once and in the order of arrival
exactly if it is guarded.
-/

/-- The items a state holds, those an event brings to a state, and those an output is
    the end of. -/
structure ItemFlow (State Event Output Item : Type*) where
  content : State → List Item
  arrivals : State → Event → List Item
  departures : Output → List Item

namespace ItemFlow

variable {State Event Output Item : Type*} (flow : ItemFlow State Event Output Item)
  (m : Machine State Event Output)

/-- Everything the events of a run bring. -/
def arrived (s : State) : List Event → List Item
  | [] => []
  | e :: es => flow.arrivals s e ++ arrived (m.step s e).1 es

/-- Everything the outputs of a run take away. -/
def departed (s : State) : List Event → List Item
  | [] => []
  | e :: es => (m.step s e).2.flatMap flow.departures ++ departed (m.step s e).1 es

/-- What leaves in a step, with what is held after it, is what was held with what came. -/
def Conserves (s : State) (e : Event) : Prop :=
  (m.step s e).2.flatMap flow.departures ++ flow.content (m.step s e).1 =
    flow.content s ++ flow.arrivals s e

/-- A step that ends with fewer items than it began with. -/
def Loses (s : State) (e : Event) : Prop :=
  ((m.step s e).2.flatMap flow.departures ++ flow.content (m.step s e).1).length <
    (flow.content s ++ flow.arrivals s e).length

variable {flow m} {guard : State → Event → Prop}

theorem conserved (conserves : ∀ s e, guard s e → flow.Conserves m s e) {s : State}
    {es : List Event} (along : m.Along guard s es) :
    flow.departed m s es ++ flow.content (m.run s es) = flow.content s ++ flow.arrived m s es := by
  induction es generalizing s with
  | nil => simp [departed, arrived]
  | cons e es ih =>
    have hfirst := conserves s e along.1
    have hrest := ih along.2
    unfold Conserves at hfirst
    simp only [departed, arrived, Machine.run_cons]
    rw [List.append_assoc, hrest, ← List.append_assoc, hfirst, List.append_assoc]

theorem departed_length_le (conserves : ∀ s e, guard s e → flow.Conserves m s e)
    (loses : ∀ s e, ¬guard s e → flow.Loses m s e) (s : State) (es : List Event) :
    (flow.departed m s es).length + (flow.content (m.run s es)).length ≤
      (flow.content s).length + (flow.arrived m s es).length := by
  induction es generalizing s with
  | nil => simp [departed, arrived]
  | cons e es ih =>
    have hrest := ih (m.step s e).1
    have hfirst : ((m.step s e).2.flatMap flow.departures ++ flow.content (m.step s e).1).length ≤
        (flow.content s ++ flow.arrivals s e).length := by
      by_cases hguard : guard s e
      · exact Nat.le_of_eq (congrArg List.length (conserves s e hguard))
      · exact Nat.le_of_lt (loses s e hguard)
    simp only [departed, arrived, Machine.run_cons, List.length_append] at *
    omega

/-- **Flow rule.**  A run conserves its items exactly if it is guarded. -/
theorem conserved_iff (conserves : ∀ s e, guard s e → flow.Conserves m s e)
    (loses : ∀ s e, ¬guard s e → flow.Loses m s e) {s : State} {es : List Event} :
    flow.departed m s es ++ flow.content (m.run s es) = flow.content s ++ flow.arrived m s es ↔
      m.Along guard s es := by
  constructor
  · intro h
    have hlength := congrArg List.length h
    simp only [List.length_append] at hlength
    clear h
    induction es generalizing s with
    | nil => trivial
    | cons e es ih =>
      have hrest := departed_length_le conserves loses (m.step s e).1 es
      simp only [departed, arrived, Machine.run_cons, List.length_append] at hlength
      by_cases hguard : guard s e
      · have hfirst := congrArg List.length (conserves s e hguard)
        simp only [List.length_append] at hfirst
        exact ⟨hguard, ih (by omega)⟩
      · have hfirst := loses s e hguard
        unfold Loses at hfirst
        simp only [List.length_append] at hfirst
        omega
  · exact conserved conserves

end ItemFlow
