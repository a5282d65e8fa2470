import Mathlib.Data.List.Basic

/-!
# Event-driven machines and their runs

A machine reacts to one event at a time: it moves to a new state and emits a
list of outputs.  A run keeps, for every event, the outputs of that step, so a
property may speak about what had been emitted before a given output as well
as about the state.  The two induction rules below are the only ones the
developments over machines need: a plain invariant, and an invariant that
relates the state to the whole history.  Both are relative to a guard on the
steps (`Machine.Along`), which is `True` for an unrestricted run.
-/

structure Machine (State Event Output : Type*) where
  step : State → Event → State × List Output

namespace Machine

variable {State Event Output : Type*} (m : Machine State Event Output)

/-- The state a run ends in. -/
def run (s : State) : List Event → State
  | [] => s
  | e :: es => run (m.step s e).1 es

/-- The history of a run: every event with the outputs of its step. -/
def trace (s : State) : List Event → List (Event × List Output)
  | [] => []
  | e :: es => (e, (m.step s e).2) :: trace (m.step s e).1 es

/-- Every step of the run meets the guard in the state it starts from. -/
def Along (guard : State → Event → Prop) (s : State) : List Event → Prop
  | [] => True
  | e :: es => guard s e ∧ Along guard (m.step s e).1 es

instance decidableAlong {guard : State → Event → Prop} [h : ∀ s e, Decidable (guard s e)]
    (s : State) : (es : List Event) → Decidable (m.Along guard s es)
  | [] => inferInstanceAs (Decidable True)
  | e :: es => @instDecidableAnd _ _ (h s e) (decidableAlong (m.step s e).1 es)

@[simp] theorem run_nil (s : State) : m.run s [] = s := rfl

@[simp] theorem run_cons (s : State) (e : Event) (es : List Event) :
    m.run s (e :: es) = m.run (m.step s e).1 es := rfl

@[simp] theorem trace_nil (s : State) : m.trace s [] = [] := rfl

@[simp] theorem trace_cons (s : State) (e : Event) (es : List Event) :
    m.trace s (e :: es) = (e, (m.step s e).2) :: m.trace (m.step s e).1 es := rfl

theorem run_append (s : State) (es fs : List Event) :
    m.run s (es ++ fs) = m.run (m.run s es) fs := by
  induction es generalizing s with
  | nil => rfl
  | cons e es ih => exact ih (m.step s e).1

theorem trace_append (s : State) (es fs : List Event) :
    m.trace s (es ++ fs) = m.trace s es ++ m.trace (m.run s es) fs := by
  induction es generalizing s with
  | nil => rfl
  | cons e es ih =>
    simp only [List.cons_append, trace_cons, run_cons, ih]

theorem along_append {guard : State → Event → Prop} {s : State} {es fs : List Event} :
    m.Along guard s (es ++ fs) ↔ m.Along guard s es ∧ m.Along guard (m.run s es) fs := by
  induction es generalizing s with
  | nil => simp [Along]
  | cons e es ih =>
    simp only [List.cons_append, Along, run_cons, ih, and_assoc]

theorem along_iff {guard : State → Event → Prop} {s : State} {es : List Event} :
    m.Along guard s es ↔ ∀ fs e gs, es = fs ++ e :: gs → guard (m.run s fs) e := by
  constructor
  · rintro halong fs e gs rfl
    exact (m.along_append.mp halong).2.1
  · intro h
    induction es generalizing s with
    | nil => trivial
    | cons e es ih =>
      constructor
      · exact h [] e es rfl
      · apply ih
        intro fs e' gs hes
        exact h (e :: fs) e' gs (by rw [hes, List.cons_append])

theorem along_true (s : State) (es : List Event) : m.Along (fun _ _ => True) s es := by
  induction es generalizing s with
  | nil => trivial
  | cons e es ih => exact ⟨trivial, ih _⟩

theorem along_mono {guard guard' : State → Event → Prop} (h : ∀ s e, guard s e → guard' s e)
    {s : State} {es : List Event} (along : m.Along guard s es) : m.Along guard' s es := by
  induction es generalizing s with
  | nil => trivial
  | cons e es ih => exact ⟨h s e along.1, ih along.2⟩

theorem along_of_mem {p : Event → Prop} {s : State} {es : List Event} (h : ∀ e ∈ es, p e) :
    m.Along (fun _ e => p e) s es := by
  induction es generalizing s with
  | nil => trivial
  | cons e es ih =>
    exact ⟨h e List.mem_cons_self, ih fun e' he' => h e' (List.mem_cons_of_mem _ he')⟩

/-- A cut through a log that has grown by one entry is at that entry or in the old log. -/
theorem cut_concat {α : Type*} {log before after : List α} {last entry : α}
    (h : log ++ [last] = before ++ entry :: after) :
    (before = log ∧ entry = last ∧ after = []) ∨
      ∃ rest, after = rest ++ [last] ∧ log = before ++ entry :: rest := by
  rcases List.eq_nil_or_concat after with rfl | ⟨rest, other, rfl⟩
  · obtain ⟨hbefore, hentry⟩ := List.append_inj' h rfl
    exact Or.inl ⟨hbefore.symm, (List.cons.inj hentry).1.symm, rfl⟩
  · right
    have hcut : log ++ [last] = (before ++ entry :: rest) ++ [other] := by simpa using h
    obtain ⟨hlog, hlast⟩ := List.append_inj' hcut rfl
    exact ⟨rest, by rw [(List.cons.inj hlast).1, List.concat_eq_append], hlog⟩

/-- A segment of a history is the step of some event of the run, taken from
    the state that the events before it lead to. -/
theorem exists_of_trace_eq {s : State} {es : List Event}
    {before after : List (Event × List Output)} {segment : Event × List Output}
    (h : m.trace s es = before ++ segment :: after) :
    ∃ fs e gs, es = fs ++ e :: gs ∧ before = m.trace s fs ∧
      segment = (e, (m.step (m.run s fs) e).2) := by
  induction before generalizing s es with
  | nil =>
    cases es with
    | nil => simp at h
    | cons e es =>
      simp only [trace_cons, List.nil_append, List.cons.injEq] at h
      exact ⟨[], e, es, rfl, rfl, h.1.symm⟩
  | cons head before ih =>
    cases es with
    | nil => simp at h
    | cons e es =>
      simp only [trace_cons, List.cons_append, List.cons.injEq] at h
      obtain ⟨fs, e', gs, hes, hbefore, hsegment⟩ := ih h.2
      refine ⟨e :: fs, e', gs, ?_, ?_, ?_⟩
      · simp [hes]
      · simp [← h.1, hbefore]
      · simpa using hsegment

/-- **History invariant rule.**  What holds of the empty history and is kept
    by every guarded step holds of the history of every guarded run. -/
theorem history_invariant {guard : State → Event → Prop}
    (inv : List (Event × List Output) → State → Prop)
    (step : ∀ history s e, guard s e → inv history s →
      inv (history ++ [(e, (m.step s e).2)]) (m.step s e).1)
    {s : State} (init : inv [] s) {es : List Event} (along : m.Along guard s es) :
    inv (m.trace s es) (m.run s es) := by
  suffices key : ∀ history s es, m.Along guard s es → inv history s →
      inv (history ++ m.trace s es) (m.run s es) by
    simpa using key [] s es along init
  intro history s es
  induction es generalizing history s with
  | nil => intro _ h; simpa using h
  | cons e es ih =>
    intro halong h
    have hnext := ih (history ++ [(e, (m.step s e).2)]) (m.step s e).1 halong.2
      (step history s e halong.1 h)
    simpa using hnext

/-- **Invariant rule.**  The case of `history_invariant` that looks at the
    state alone. -/
theorem invariant {guard : State → Event → Prop} (inv : State → Prop)
    (step : ∀ s e, guard s e → inv s → inv (m.step s e).1)
    {s : State} (init : inv s) {es : List Event} (along : m.Along guard s es) :
    inv (m.run s es) :=
  m.history_invariant (fun _ s => inv s)
    (fun _ s e hguard h => step s e hguard h) init along

/-- **Exact guard rule.**  If from a state of the invariant exactly the guarded steps
    keep a property, and they keep the invariant too, then the guarded runs are those
    along which the property holds. -/
theorem property_iff {guard : State → Event → Prop} (inv property : State → Prop)
    (exact : ∀ s e, inv s → property s → (property (m.step s e).1 ↔ guard s e))
    (keep : ∀ s e, inv s → property s → guard s e → inv (m.step s e).1)
    {s : State} (init : inv s) (holds : property s) {es : List Event} :
    (∀ fs gs, es = fs ++ gs → property (m.run s fs)) ↔ m.Along guard s es := by
  constructor
  · intro h
    induction es generalizing s with
    | nil => trivial
    | cons e es ih =>
      have hfirst : property (m.step s e).1 := h [e] es rfl
      have hguard := (exact s e init holds).mp hfirst
      refine ⟨hguard, ih (keep s e init holds hguard) hfirst ?_⟩
      intro fs gs hes
      exact h (e :: fs) gs (by rw [hes, List.cons_append])
  · rintro halong fs gs rfl
    refine (m.invariant (fun s => inv s ∧ property s) ?_ ⟨init, holds⟩
      (m.along_append.mp halong).1).2
    intro s e hguard h
    exact ⟨keep s e h.1 h.2 hguard, (exact s e h.1 h.2).mpr hguard⟩

/-- The case of `property_iff` that needs no other invariant. -/
theorem invariant_iff {guard : State → Event → Prop} (inv : State → Prop)
    (step : ∀ s e, inv s → (inv (m.step s e).1 ↔ guard s e)) {s : State} (init : inv s)
    {es : List Event} :
    (∀ fs gs, es = fs ++ gs → inv (m.run s fs)) ↔ m.Along guard s es :=
  m.property_iff (fun _ => True) inv (fun s e _ => step s e) (fun _ _ _ _ _ => trivial)
    trivial init

end Machine
