import Mathlib.Logic.Function.Basic
import PatrolBot.Library.Coroutine

/-!
# Facts that hold between the stretches

A task that runs alone may break a fact for a moment and restore it before it
suspends.  `Upkeep` is such a fact about the two ends of a stretch, with a
memory of the replies each task got and what the runs under consideration
promise of a reply.  `Keeps` is checked along the text of one task on top of a
discipline that the task obeys; the fact may be relied on wherever the task is
resumed, and holds again wherever it is suspended or ends.
-/

namespace Coroutine

variable {State Answer Op Job Mark α β : Type}

/-- What is remembered of a task: a mark that may change whenever it is resumed. -/
structure Memory (State Op Job Mark : Type) where
  blank : Mark
  note : Nat → Job → Mark → State → Op → Option Interrupt → Mark

/-- The loop with the marks of its tasks. -/
structure Observed (State Answer Op Job Mark : Type) where
  world : World State Answer Op Job
  mark : Nat → Mark

namespace System

variable (sys : System State Answer Op Job) (memory : Memory State Op Job Mark)

/-- The marks after an event: that of the task it resumes is brought up to date. -/
def remember (w : Observed State Answer Op Job Mark) : Event Answer Job → Nat → Mark
  | .start .. => w.mark
  | .resume id reply _ =>
    match w.world.tasks.find? (·.id = id) with
    | none => w.mark
    | some task =>
      if sys.replies w.world.shared id task.job task.op reply then
        Function.update w.mark id
          (memory.note id task.job (w.mark id) w.world.shared task.op reply)
      else w.mark

/-- The observed loop as a machine. -/
def observed : Machine (Observed State Answer Op Job Mark) (Event Answer Job) Empty where
  step w e := (⟨sys.next w.world e, sys.remember memory w e⟩, [])

/-- Observing the loop does not change it. -/
theorem observed_run (w : Observed State Answer Op Job Mark) (es : List (Event Answer Job)) :
    ((sys.observed memory).run w es).world = sys.loop.run w.world es := by
  induction es generalizing w with
  | nil => rfl
  | cons e es ih => exact ih _

end System

namespace Discipline

/-- A fact to be kept by every stretch, between the state it begins in and the state
    it ends in, and what a task may rely on when it is resumed with a reply. -/
structure Upkeep (State Op Job Mark : Type) where
  memory : Memory State Op Job Mark
  Allows : Nat → Job → Mark → State → Op → Option Interrupt → Prop
  Fact : State → State → Prop
  settled : ∀ a b, Fact a b → Fact b b

variable (D : Discipline State Answer Op Job) (K : Upkeep State Op Job Mark)

/-- No stretch of a task other than `id` ends what `P` says. -/
def Endures (id : Nat) (P : State → Prop) : Prop :=
  ∀ other, other ≠ id → ∀ job a b, D.Inv a → D.Updates other job a b → K.Fact a b → P a → P b

/-- Among tasks that obey the discipline, the fact holds wherever the task is
    suspended, and `Q` where it ends.  The stretch began in the first state. -/
def Keeps (id : Nat) (job : Job) : Prog State Answer Op α → Mark → State → State →
    (Except Interrupt α → Mark → State → State → Prop) → Prop
  | .ret v, g, a, s, Q => Q (.ok v) g a s
  | .raise x, g, a, s, Q => Q (.error x) g a s
  | .get k, g, a, s, Q => Keeps id job (k s) g a s Q
  | .set s' p, g, a, s, Q => D.May id job s s' → D.Inv s' → Keeps id job p g a s' Q
  | .ask k, g, a, s, Q => ∀ v, D.Answers v → Keeps id job (k v) g a s Q
  | .await op k, g, a, s, Q => K.Fact a s ∧ ∃ P : State → Prop, P s ∧ D.Endures K id P ∧
      ∀ s', D.Inv s' → K.Fact s' s' → P s' → ∀ reply, D.Resumes id job s' op reply →
        K.Allows id job g s' op reply →
          Keeps id job (k reply) (K.memory.note id job g s' op reply) s' s' Q

variable {D K} {id : Nat} {job : Job} {g : Mark} {a s : State}

theorem Stable.endures {P : State → Prop} (h : D.Stable id P) : D.Endures K id P :=
  fun _ hne _ _ _ _ hupdates _ hP => h.updates hne hupdates hP

theorem Endures.and {P Q : State → Prop} (hP : D.Endures K id P) (hQ : D.Endures K id Q) :
    D.Endures K id fun s => P s ∧ Q s := fun other hne job a b hinv hupdates hfact h =>
  ⟨hP other hne job a b hinv hupdates hfact h.1, hQ other hne job a b hinv hupdates hfact h.2⟩

namespace Keeps

variable {p : Prog State Answer Op α} {f : α → Prog State Answer Op β}
  {Q R : Except Interrupt α → Mark → State → State → Prop}
  {T : Except Interrupt β → Mark → State → State → Prop}

theorem post (hinv : D.Inv s) (h : D.Keeps K id job p g a s Q)
    (hQ : ∀ r g a s, D.Inv s → Q r g a s → R r g a s) : D.Keeps K id job p g a s R := by
  induction p generalizing g a s with
  | ret v => exact hQ _ _ _ _ hinv h
  | raise x => exact hQ _ _ _ _ hinv h
  | get k ih => exact ih s hinv h
  | set s' p ih => exact fun hmay hinv' => ih hinv' (h hmay hinv')
  | ask k ih => exact fun v hv => ih v hinv (h v hv)
  | await op k ih =>
    obtain ⟨hfact, P, hP, hendures, hnext⟩ := h
    exact ⟨hfact, P, hP, hendures, fun s' hinv' hfact' hP' reply hreply hallows =>
      ih reply hinv' (hnext s' hinv' hfact' hP' reply hreply hallows)⟩

/-- **Sequencing rule.** -/
theorem bind (hinv : D.Inv s) (h : D.Keeps K id job p g a s Q)
    (hok : ∀ v g a s, D.Inv s → Q (.ok v) g a s → D.Keeps K id job (f v) g a s T)
    (hraise : ∀ x g a s, D.Inv s → Q (.error x) g a s → T (.error x) g a s) :
    D.Keeps K id job (p >>= f) g a s T := by
  induction p generalizing g a s with
  | ret v => exact hok v g a s hinv h
  | raise x => exact hraise x g a s hinv h
  | get k ih => exact ih s hinv h
  | set s' p ih => exact fun hmay hinv' => ih hinv' (h hmay hinv')
  | ask k ih => exact fun v hv => ih v hinv (h v hv)
  | await op k ih =>
    obtain ⟨hfact, P, hP, hendures, hnext⟩ := h
    exact ⟨hfact, P, hP, hendures, fun s' hinv' hfact' hP' reply hreply hallows =>
      ih reply hinv' (hnext s' hinv' hfact' hP' reply hreply hallows)⟩

/-- **Handler rule.** -/
theorem tryCatch {handle : Interrupt → Prog State Answer Op α} (hinv : D.Inv s)
    (h : D.Keeps K id job p g a s Q)
    (hok : ∀ v g a s, D.Inv s → Q (.ok v) g a s → R (.ok v) g a s)
    (hraise : ∀ x g a s, D.Inv s → Q (.error x) g a s → D.Keeps K id job (handle x) g a s R) :
    D.Keeps K id job (p.tryCatch handle) g a s R := by
  induction p generalizing g a s with
  | ret v => exact hok v g a s hinv h
  | raise x => exact hraise x g a s hinv h
  | get k ih => exact ih s hinv h
  | set s' p ih => exact fun hmay hinv' => ih hinv' (h hmay hinv')
  | ask k ih => exact fun v hv => ih v hinv (h v hv)
  | await op k ih =>
    obtain ⟨hfact, P, hP, hendures, hnext⟩ := h
    exact ⟨hfact, P, hP, hendures, fun s' hinv' hfact' hP' reply hreply hallows =>
      ih reply hinv' (hnext s' hinv' hfact' hP' reply hreply hallows)⟩

/-- **Frame rule.**  A stable fact that the task's own updates keep is still there
    at its end. -/
theorem frame {F : State → Prop} (hstable : D.Stable id F)
    (hkeep : ∀ a b, D.Inv a → D.May id job a b → F a → F b) (hinv : D.Inv s) (hF : F s)
    (h : D.Keeps K id job p g a s Q) :
    D.Keeps K id job p g a s fun r g a s => Q r g a s ∧ F s := by
  induction p generalizing g a s with
  | ret v => exact ⟨h, hF⟩
  | raise x => exact ⟨h, hF⟩
  | get k ih => exact ih s hinv hF h
  | set s' p ih =>
    exact fun hmay hinv' => ih hinv' (hkeep _ _ hinv hmay hF) (h hmay hinv')
  | ask k ih => exact fun v hv => ih v hinv hF (h v hv)
  | await op k ih =>
    obtain ⟨hfact, P, hP, hendures, hnext⟩ := h
    exact ⟨hfact, fun s => P s ∧ F s, ⟨hP, hF⟩, hendures.and hstable.endures,
      fun s' hinv' hfact' hP' reply hreply hallows =>
        ih reply hinv' hP'.2 (hnext s' hinv' hfact' hP'.1 reply hreply hallows)⟩

theorem modify {u : State → State} {Q : Except Interrupt Unit → Mark → State → State → Prop}
    (h : D.May id job s (u s) → D.Inv (u s) → Q (.ok ()) g a (u s)) :
    D.Keeps K id job (Prog.modify u : Prog State Answer Op Unit) g a s Q := h

theorem readThen {f : State → Prog State Answer Op β} (h : D.Keeps K id job (f s) g a s T) :
    D.Keeps K id job (Prog.read >>= f) g a s T := h

theorem modifyThen {u : State → State} {f : Unit → Prog State Answer Op β}
    (h : D.May id job s (u s) → D.Inv (u s) → D.Keeps K id job (f ()) g a (u s) T) :
    D.Keeps K id job (Prog.modify u >>= f) g a s T := h

theorem answerThen {f : Answer → Prog State Answer Op β}
    (h : ∀ v, D.Answers v → D.Keeps K id job (f v) g a s T) :
    D.Keeps K id job (Prog.answer >>= f) g a s T := h

theorem wait {op : Op} {Q : Except Interrupt Unit → Mark → State → State → Prop}
    (P : State → Prop) (hfact : K.Fact a s) (hP : P s) (hendures : D.Endures K id P)
    (hok : ∀ s', D.Inv s' → K.Fact s' s' → P s' → D.Resumes id job s' op none →
      K.Allows id job g s' op none → Q (.ok ()) (K.memory.note id job g s' op none) s' s')
    (hraise : ∀ x s', D.Inv s' → K.Fact s' s' → P s' → D.Resumes id job s' op (some x) →
      K.Allows id job g s' op (some x) →
        Q (.error x) (K.memory.note id job g s' op (some x)) s' s') :
    D.Keeps K id job (Prog.wait op : Prog State Answer Op Unit) g a s Q := by
  refine ⟨hfact, P, hP, hendures, fun s' hinv' hfact' hP' reply hreply hallows => ?_⟩
  cases reply with
  | none => exact hok s' hinv' hfact' hP' hreply hallows
  | some x => exact hraise x s' hinv' hfact' hP' hreply hallows

end Keeps

/-! ### Soundness -/

/-- A suspended task will keep the fact. -/
def Upheld (D : Discipline State Answer Op Job) (K : Upkeep State Op Job Mark)
    (task : Task State Answer Op Job) (g : Mark) (s : State) : Prop :=
  ∃ P : State → Prop, P s ∧ D.Endures K task.id P ∧ ∀ s', D.Inv s' → K.Fact s' s' → P s' →
    ∀ reply, D.Resumes task.id task.job s' task.op reply →
      K.Allows task.id task.job g s' task.op reply →
        D.Keeps K task.id task.job (task.next reply)
          (K.memory.note task.id task.job g s' task.op reply) s' s' fun _ _ a s => K.Fact a s

theorem Upheld.stretch {task : Task State Answer Op Job} {other : Nat} (hne : other ≠ task.id)
    {a b : State} (hinv : D.Inv a) (h : D.Updates other job a b) (hfact : K.Fact a b)
    (hupheld : D.Upheld K task g a) : D.Upheld K task g b := by
  obtain ⟨P, hP, hendures, hnext⟩ := hupheld
  exact ⟨P, hendures other hne job a b hinv h hfact hP, hendures, hnext⟩

/-- What a guard of the observed loop has to promise. -/
structure Upholds (D : Discipline State Answer Op Job) (K : Upkeep State Op Job Mark)
    (sys : System State Answer Op Job) (Final : Nat → State → Prop)
    (guard : Observed State Answer Op Job Mark → Event Answer Job → Prop) : Prop where
  allows : ∀ w task reply answers, guard w (.resume task.id reply answers) →
    task ∈ w.world.tasks → sys.replies w.world.shared task.id task.job task.op reply →
      K.Allows task.id task.job (w.mark task.id) w.world.shared task.op reply
  body : ∀ id job s, D.Inv s → Final id s → K.Fact s s → D.Starts id job s →
    D.Keeps K id job (sys.body id job) K.memory.blank s s fun _ _ a s => K.Fact a s

/-- What every world of a guarded run keeps. -/
structure Upkept (D : Discipline State Answer Op Job) (K : Upkeep State Op Job Mark)
    (w : Observed State Answer Op Job Mark) : Prop where
  fact : K.Fact w.world.shared w.world.shared
  upheld : ∀ task ∈ w.world.tasks, D.Upheld K task (w.mark task.id) w.world.shared
  blank : ∀ id, w.world.started ≤ id → w.mark id = K.memory.blank

variable {sys : System State Answer Op Job} {Final : Nat → State → Prop}
  {guard : World State Answer Op Job → Event Answer Job → Prop}
  {watch : Observed State Answer Op Job Mark → Event Answer Job → Prop}

/-- One stretch of a task that obeys the discipline. -/
theorem Keeps.stretch {p : Prog State Answer Op Unit} {Q : Except Interrupt Unit → State → Prop}
    (step : ∀ id job a b, D.Inv a → D.May id job a b → D.Inv b) (hinv : D.Inv s)
    (hsafe : D.Safe (D.May id job) id job p s Q)
    (h : D.Keeps K id job p g a s fun _ _ a s => K.Fact a s) (answers : Nat → Answer)
    (hanswers : ∀ i, D.Answers (answers i)) :
    K.Fact a (segment p s answers).1 ∧
      ∀ task ∈ System.leftover id job (segment p s answers).2,
        D.Upheld K task g (segment p s answers).1 := by
  induction p generalizing s answers with
  | ret v => exact ⟨h, fun task htask => absurd htask List.not_mem_nil⟩
  | raise x => exact ⟨h, fun task htask => absurd htask List.not_mem_nil⟩
  | get k ih => exact ih s hinv hsafe h answers hanswers
  | set s' p ih =>
    have hinv' := step id job s s' hinv hsafe.1
    exact ih hinv' (hsafe.2 hinv') (h hsafe.1 hinv') answers hanswers
  | ask k ih =>
    exact ih _ hinv (hsafe _ (hanswers 0)) (h _ (hanswers 0)) _ fun i => hanswers (i + 1)
  | await op k ih =>
    refine ⟨h.1, fun task htask => ?_⟩
    obtain rfl := List.mem_singleton.mp htask
    exact h.2

/-- **Step lemma.** -/
theorem Upholds.next (upholds : Upholds D K sys Final watch) (sound : Sound D sys guard Final)
    {w : Observed State Answer Op Job Mark} (horderly : Orderly D Final w.world)
    (h : Upkept D K w) {e : Event Answer Job} (hguard : guard w.world e) (hwatch : watch w e) :
    Upkept D K ((sys.observed K.memory).step w e).1 := by
  have hstep := (sound.next horderly hguard).2
  cases e with
  | start job answers =>
    show Upkept D K ⟨sys.next w.world (.start job answers), w.mark⟩
    simp only [System.next] at hstep ⊢
    split
    · rename_i hadmits
      rw [if_pos hadmits] at hstep
      have hfresh : ∀ task ∈ w.world.tasks, task.id ≠ w.world.started := fun task htask =>
        Nat.ne_of_lt (horderly.carried task htask).1
      obtain ⟨hstarts, hanswers⟩ := sound.starts w.world job answers hguard hadmits
      have hfinal := horderly.final _ hfresh
      obtain ⟨hfact, hleft⟩ := Keeps.stretch sound.step horderly.inv
        (sound.body w.world.started job w.world.shared horderly.inv hfinal hstarts)
        (upholds.body w.world.started job w.world.shared horderly.inv hfinal h.fact hstarts)
        answers hanswers
      refine ⟨K.settled _ _ hfact, fun task htask => ?_,
        fun id hid => h.blank id (Nat.le_of_succ_le hid)⟩
      rcases List.mem_append.mp htask with htask | htask
      · exact (h.upheld task htask).stretch (Ne.symm (hfresh task htask)) horderly.inv hstep hfact
      · have hmark : w.mark task.id = K.memory.blank :=
          h.blank _ (Nat.le_of_eq (System.leftover_id htask).symm)
        exact (congrArg (D.Upheld K task · _) hmark).mpr (hleft task htask)
    · exact h
  | resume id reply answers =>
    show Upkept D K ⟨sys.next w.world (.resume id reply answers),
      sys.remember K.memory w (.resume id reply answers)⟩
    simp only [System.next, System.remember] at hstep ⊢
    cases hfind : w.world.tasks.find? (·.id = id) with
    | none => exact h
    | some task =>
      have hmem := List.mem_of_find?_eq_some hfind
      obtain rfl : task.id = id := by simpa using List.find?_some hfind
      simp only [hfind] at hstep ⊢
      split
      · rename_i hreplies
        rw [if_pos hreplies] at hstep
        obtain ⟨hlt, P, hP, -, hnext⟩ := horderly.carried task hmem
        obtain ⟨hresumes, hanswers⟩ :=
          sound.resumes w.world task reply answers hguard hmem hreplies
        obtain ⟨P', hP', -, hnext'⟩ := h.upheld task hmem
        obtain ⟨hfact, hleft⟩ := Keeps.stretch sound.step horderly.inv
          (hnext w.world.shared horderly.inv hP reply hresumes)
          (hnext' w.world.shared horderly.inv h.fact hP' reply hresumes
            (upholds.allows w task reply answers hwatch hmem hreplies)) answers hanswers
        have hchain : D.Updates task.id task.job w.world.shared
            (segment (task.next reply) w.world.shared answers).1 := by
          rcases hstep with hsame | ⟨found, hfound, hchain⟩
          · have hstill : (segment (task.next reply) w.world.shared answers).1 =
                w.world.shared := hsame
            rw [hstill]
            exact .refl
          · obtain rfl := Option.some.inj hfound
            exact hchain
        refine ⟨K.settled _ _ hfact, fun other hother => ?_, fun id hid => ?_⟩
        · rcases List.mem_append.mp hother with hother | hother
          · obtain ⟨hother, hne⟩ := List.mem_filter.mp hother
            have hne : other.id ≠ task.id := by simpa using hne
            have hmark := Function.update_of_ne hne (K.memory.note task.id task.job
              (w.mark task.id) w.world.shared task.op reply) w.mark
            exact (congrArg (D.Upheld K other · _) hmark).mpr
              ((h.upheld other hother).stretch (Ne.symm hne) horderly.inv hchain hfact)
          · have hmark : Function.update w.mark task.id (K.memory.note task.id task.job
                (w.mark task.id) w.world.shared task.op reply) other.id =
                K.memory.note task.id task.job (w.mark task.id) w.world.shared task.op reply := by
              rw [System.leftover_id hother, Function.update_self]
            exact (congrArg (D.Upheld K other · _) hmark).mpr (hleft other hother)
        · exact (Function.update_of_ne (Nat.ne_of_gt (Nat.lt_of_lt_of_le hlt hid)) _ _).trans
            (h.blank id hid)
      · exact h

/-- **Run theorem.**  The fact holds in every world a guarded run leads to. -/
theorem Upholds.run (upholds : Upholds D K sys Final watch) (sound : Sound D sys guard Final)
    (hguard : ∀ w e, watch w e → guard w.world e) {w : Observed State Answer Op Job Mark}
    (horderly : Orderly D Final w.world) (h : Upkept D K w) {es : List (Event Answer Job)}
    (along : (sys.observed K.memory).Along watch w es) :
    K.Fact (sys.loop.run w.world es).shared (sys.loop.run w.world es).shared := by
  rw [← sys.observed_run K.memory]
  refine ((sys.observed K.memory).invariant
    (fun w => Orderly D Final w.world ∧ Upkept D K w) ?_ ⟨horderly, h⟩ along).2.fact
  intro w e hwatch hw
  exact ⟨(sound.next hw.1 (hguard w e hwatch)).1,
    upholds.next sound hw.1 hw.2 (hguard w e hwatch) hwatch⟩

end Discipline

end Coroutine
