import Mathlib.Data.Nat.Find
import Mathlib.Data.Nat.Init
import Mathlib.Logic.Relation
import PatrolBot.Library.Machine

/-!
# Coroutines on one event loop

Cooperative tasks share one state.  Between two suspension points a task runs
alone; at a suspension point any other task may run, and the surroundings
decide when and with what the suspended one is resumed.  `Prog` is such a task
written out, `World` the loop with its suspended tasks, and `Discipline` the
rely-guarantee method for it: what every task may do to the shared state in
one update, and for each suspension the facts that survive the updates of the
others.  `Safe` is checked along the text of one task; `Discipline.Sound`
turns the checks of all tasks into facts about every run of the loop.
-/

namespace Coroutine

/-- How an awaited operation ends when it does not return.  A cancellation is
    no exception: a handler for exceptions lets it pass. -/
inductive Interrupt where
  | exception
  | cancelled
deriving DecidableEq

/-- A task over the shared state.  `ask` is a value the surroundings choose. -/
inductive Prog (State Answer Op α : Type) where
  | ret (value : α)
  | raise (interrupt : Interrupt)
  | get (next : State → Prog State Answer Op α)
  | set (s : State) (next : Prog State Answer Op α)
  | ask (next : Answer → Prog State Answer Op α)
  | await (op : Op) (next : Option Interrupt → Prog State Answer Op α)

variable {State Answer Op Job α β : Type}

namespace Prog

def bind (p : Prog State Answer Op α) (f : α → Prog State Answer Op β) :
    Prog State Answer Op β :=
  match p with
  | ret a => f a
  | raise x => raise x
  | get k => get fun s => (k s).bind f
  | set s p => set s (p.bind f)
  | ask k => ask fun a => (k a).bind f
  | await op k => await op fun reply => (k reply).bind f

instance : Monad (Prog State Answer Op) where
  pure := ret
  bind := bind

def read : Prog State Answer Op State := get ret

def modify (f : State → State) : Prog State Answer Op Unit := get fun s => set (f s) (ret ())

def answer : Prog State Answer Op Answer := ask ret

/-- Suspend; an interrupt is raised where the task was suspended. -/
def wait (op : Op) : Prog State Answer Op Unit :=
  await op fun
    | none => ret ()
    | some x => raise x

/-- `if c: p`. -/
def given (c : Prop) [Decidable c] (p : Prog State Answer Op Unit) : Prog State Answer Op Unit :=
  if c then p else ret ()

/-- `try: p` with a handler for what `p` raises. -/
def tryCatch (p : Prog State Answer Op α) (handle : Interrupt → Prog State Answer Op α) :
    Prog State Answer Op α :=
  match p with
  | ret a => ret a
  | raise x => handle x
  | get k => get fun s => (k s).tryCatch handle
  | set s p => set s (p.tryCatch handle)
  | ask k => ask fun a => (k a).tryCatch handle
  | await op k => await op fun reply => (k reply).tryCatch handle

/-- `try: p finally: cleanup`. -/
def andFinally (p : Prog State Answer Op α) (cleanup : Prog State Answer Op Unit) :
    Prog State Answer Op α := do
  let a ← p.tryCatch fun x => cleanup >>= fun _ => raise x
  cleanup
  ret a

end Prog

/-- How a stretch of a task up to its next suspension ends. -/
inductive Stop (State Answer Op α : Type) where
  | finished (result : Except Interrupt α)
  | suspended (op : Op) (next : Option Interrupt → Prog State Answer Op α)

/-- Run a task up to its next suspension. -/
def segment : Prog State Answer Op α → State → (Nat → Answer) → State × Stop State Answer Op α
  | .ret a, s, _ => (s, .finished (.ok a))
  | .raise x, s, _ => (s, .finished (.error x))
  | .get k, s, answers => segment (k s) s answers
  | .set s p, _, answers => segment p s answers
  | .ask k, s, answers => segment (k (answers 0)) s fun i => answers (i + 1)
  | .await op k, s, _ => (s, .suspended op k)

structure Task (State Answer Op Job : Type) where
  id : Nat
  job : Job
  op : Op
  next : Option Interrupt → Prog State Answer Op Unit

structure World (State Answer Op Job : Type) where
  shared : State
  tasks : List (Task State Answer Op Job)
  started : Nat

/-- A job comes in, or a suspended task is resumed. -/
inductive Event (Answer Job : Type) where
  | start (job : Job) (answers : Nat → Answer)
  | resume (task : Nat) (reply : Option Interrupt) (answers : Nat → Answer)

/-- What the surroundings answer in the stretch that the event runs. -/
def Event.answers : Event Answer Job → Nat → Answer
  | .start _ answers | .resume _ _ answers => answers

/-- The jobs, when one may come in, and which replies a suspended task may get. -/
structure System (State Answer Op Job : Type) where
  body : Nat → Job → Prog State Answer Op Unit
  admits : State → Job → Bool
  replies : State → Nat → Job → Op → Option Interrupt → Bool

namespace System

variable (sys : System State Answer Op Job)

/-- The task that is left of a stretch, if it was suspended. -/
def leftover (id : Nat) (job : Job) : Stop State Answer Op Unit → List (Task State Answer Op Job)
  | .finished _ => []
  | .suspended op next => [⟨id, job, op, next⟩]

def next (w : World State Answer Op Job) : Event Answer Job → World State Answer Op Job
  | .start job answers =>
    if sys.admits w.shared job then
      let result := segment (sys.body w.started job) w.shared answers
      ⟨result.1, w.tasks ++ leftover w.started job result.2, w.started + 1⟩
    else w
  | .resume id reply answers =>
    match w.tasks.find? (·.id = id) with
    | none => w
    | some task =>
      if sys.replies w.shared id task.job task.op reply then
        let result := segment (task.next reply) w.shared answers
        ⟨result.1, w.tasks.filter (·.id ≠ id) ++ leftover id task.job result.2, w.started⟩
      else w

/-- The loop as a machine. -/
def loop : Machine (World State Answer Op Job) (Event Answer Job) Empty where
  step w e := (sys.next w e, [])

@[simp] theorem loop_step (w : World State Answer Op Job) (e : Event Answer Job) :
    (sys.loop.step w e).1 = sys.next w e := rfl

theorem leftover_id {id : Nat} {job : Job} {stop : Stop State Answer Op Unit}
    {task : Task State Answer Op Job} (h : task ∈ leftover id job stop) : task.id = id := by
  cases stop with
  | finished result => simp [leftover] at h
  | suspended op next =>
    simp only [leftover, List.mem_singleton] at h
    rw [h]

theorem started_le_next (w : World State Answer Op Job) (e : Event Answer Job) :
    w.started ≤ (sys.next w e).started := by
  cases e with
  | start job answers =>
    simp only [next]
    split
    · exact Nat.le_succ _
    · exact Nat.le_refl _
  | resume id reply answers =>
    simp only [next]
    split
    · exact Nat.le_refl _
    · split <;> exact Nat.le_refl _

theorem started_le_run (w : World State Answer Op Job) (es : List (Event Answer Job)) :
    w.started ≤ (sys.loop.run w es).started := by
  induction es generalizing w with
  | nil => exact Nat.le_refl _
  | cons e es ih => exact Nat.le_trans (sys.started_le_next w e) (ih _)

/-- The tasks are numbered as they come in. -/
def Numbered (w : World State Answer Op Job) : Prop := ∀ task ∈ w.tasks, task.id < w.started

theorem numbered_next {w : World State Answer Op Job} (h : Numbered w) (e : Event Answer Job) :
    Numbered (sys.next w e) := by
  intro task htask
  cases e with
  | start job answers =>
    simp only [next] at htask ⊢
    split at htask
    · rename_i hadmits
      simp only [hadmits, if_true]
      rcases List.mem_append.mp htask with hmem | hmem
      · exact Nat.lt_succ_of_lt (h task hmem)
      · rw [leftover_id hmem]
        exact Nat.lt_succ_self _
    · rename_i hadmits
      simp only [hadmits]
      exact h task htask
  | resume id reply answers =>
    simp only [next] at htask ⊢
    cases hfind : w.tasks.find? (·.id = id) with
    | none =>
      rw [hfind] at htask
      exact h task htask
    | some found =>
      rw [hfind] at htask
      dsimp only at htask ⊢
      have hfound : found.id = id := by simpa using List.find?_some hfind
      split at htask
      · rename_i hreplies
        simp only [hreplies, if_true]
        rcases List.mem_append.mp htask with hmem | hmem
        · exact h task (List.mem_filter.mp hmem).1
        · rw [leftover_id hmem, ← hfound]
          exact h found (List.mem_of_find?_eq_some hfind)
      · rename_i hreplies
        simp only [hreplies]
        exact h task htask

/-- What a guard asks of the task `id` alone holds of a run that ends before it comes in. -/
theorem along_before {guard guard' : World State Answer Op Job → Event Answer Job → Prop}
    (id : Nat) (h : ∀ w e, Numbered w → w.started ≤ id → (∀ job answers, e = .start job answers →
      sys.admits w.shared job = true → w.started < id) → guard' w e → guard w e)
    {w : World State Answer Op Job} (hw : Numbered w) {es : List (Event Answer Job)}
    (hlast : (sys.loop.run w es).started ≤ id) (along : sys.loop.Along guard' w es) :
    sys.loop.Along guard w es := by
  induction es generalizing w with
  | nil => trivial
  | cons e es ih =>
    have hnext := Nat.le_trans (sys.started_le_run (sys.next w e) es) hlast
    refine ⟨h w e hw (Nat.le_trans (sys.started_le_next w e) hnext) ?_ along.1,
      ih (sys.numbered_next hw e) hlast along.2⟩
    rintro job answers rfl hadmits
    have : (sys.next w (.start job answers)).started = w.started + 1 := by
      simp [next, hadmits]
    omega

/-- What a guard asks of how the task `id` comes in holds of a run from then on. -/
theorem along_after {guard guard' : World State Answer Op Job → Event Answer Job → Prop} (id : Nat)
    (h : ∀ w e, id < w.started → guard' w e → guard w e) {w : World State Answer Op Job}
    (hw : id < w.started) {es : List (Event Answer Job)} (along : sys.loop.Along guard' w es) :
    sys.loop.Along guard w es := by
  induction es generalizing w with
  | nil => trivial
  | cons e es ih =>
    exact ⟨h w e hw along.1, ih (Nat.lt_of_lt_of_le hw (sys.started_le_next w e)) along.2⟩

/-- The worlds of an endless run. -/
def nth (w : World State Answer Op Job) (σ : Nat → Event Answer Job) :
    Nat → World State Answer Op Job
  | 0 => w
  | n + 1 => sys.next (nth w σ n) (σ n)

theorem nth_eq_run (w : World State Answer Op Job) (σ : Nat → Event Answer Job) (n : Nat) :
    sys.nth w σ n = sys.loop.run w ((List.range n).map σ) := by
  induction n with
  | zero => rfl
  | succ n ih =>
    rw [List.range_succ, List.map_append, Machine.run_append, ← ih]
    rfl

theorem along_nth {guard : World State Answer Op Job → Event Answer Job → Prop}
    (w : World State Answer Op Job) (σ : Nat → Event Answer Job) (n : Nat)
    (h : ∀ i, i < n → guard (sys.nth w σ i) (σ i)) :
    sys.loop.Along guard w ((List.range n).map σ) := by
  induction n with
  | zero => trivial
  | succ n ih =>
    rw [List.range_succ, List.map_append, Machine.along_append]
    refine ⟨ih fun i hi => h i (Nat.lt_succ_of_lt hi), ?_, trivial⟩
    rw [← nth_eq_run]
    exact h n (Nat.lt_succ_self n)

/-- The event resumes the task with a reply it may get. -/
def Resumed (id : Nat) (w : World State Answer Op Job) (e : Event Answer Job) : Prop :=
  ∃ task reply answers, e = .resume id reply answers ∧
    w.tasks.find? (·.id = id) = some task ∧
    sys.replies w.shared id task.job task.op reply = true

theorem resumed_iff {id other : Nat} {w : World State Answer Op Job} {reply : Option Interrupt}
    {answers : Nat → Answer} : sys.Resumed id w (.resume other reply answers) ↔ other = id ∧
      ((w.tasks.find? (·.id = id)).any fun task =>
        sys.replies w.shared id task.job task.op reply) = true := by
  constructor
  · rintro ⟨task, reply', answers', heq, hfind, hreplies⟩
    injection heq with hid hreply _
    exact ⟨hid, by simp [hfind, hreply, hreplies]⟩
  · rintro ⟨rfl, h⟩
    obtain ⟨task, hfind, hreplies⟩ := (Option.any_eq_true _ _).mp h
    exact ⟨task, reply, answers, rfl, hfind, hreplies⟩

/-- Whenever the task is suspended, it is resumed some time later. -/
def Fair (id : Nat) (w : World State Answer Op Job) (σ : Nat → Event Answer Job) : Prop :=
  ∀ n, (∃ task ∈ (sys.nth w σ n).tasks, task.id = id) →
    ∃ k, n ≤ k ∧ sys.Resumed id (sys.nth w σ k) (σ k)

/-- A suspended task stays as it is until it is resumed. -/
theorem mem_of_not_resumed {id : Nat} {w : World State Answer Op Job} {e : Event Answer Job}
    (hid : id < w.started) (h : ¬sys.Resumed id w e) {task : Task State Answer Op Job}
    (htask : task ∈ (sys.next w e).tasks) (heq : task.id = id) : task ∈ w.tasks := by
  cases e with
  | start job answers =>
    simp only [next] at htask
    split at htask
    · rcases List.mem_append.mp htask with hmem | hmem
      · exact hmem
      · exact absurd ((leftover_id hmem).symm.trans heq) (Nat.ne_of_gt hid)
    · exact htask
  | resume other reply answers =>
    simp only [next] at htask
    cases hfind : w.tasks.find? (·.id = other) with
    | none =>
      rw [hfind] at htask
      exact htask
    | some found =>
      rw [hfind] at htask
      dsimp only at htask
      split at htask
      · rename_i hreplies
        rcases List.mem_append.mp htask with hmem | hmem
        · exact (List.mem_filter.mp hmem).1
        · obtain rfl : other = id := (leftover_id hmem).symm.trans heq
          exact absurd ⟨found, reply, answers, rfl, hfind, hreplies⟩ h
      · exact htask

/-- What is left of a task when it has been resumed. -/
theorem mem_of_resumed {id : Nat} {w : World State Answer Op Job} {e : Event Answer Job}
    (h : sys.Resumed id w e) : ∃ found ∈ w.tasks, found.id = id ∧ ∃ reply answers,
      ∀ task ∈ (sys.next w e).tasks, task.id = id →
        task ∈ leftover id found.job (segment (found.next reply) w.shared answers).2 := by
  obtain ⟨found, reply, answers, rfl, hfind, hreplies⟩ := h
  refine ⟨found, List.mem_of_find?_eq_some hfind, by simpa using List.find?_some hfind, reply,
    answers, ?_⟩
  intro task htask heq
  simp only [next, hfind, hreplies, if_true] at htask
  rcases List.mem_append.mp htask with hmem | hmem
  · exact absurd heq (by simpa using (List.mem_filter.mp hmem).2)
  · exact hmem

/-- A task that has ended does not come back. -/
theorem ended_next {id : Nat} {w : World State Answer Op Job} (hid : id < w.started)
    (h : ∀ task ∈ w.tasks, task.id ≠ id) (e : Event Answer Job) :
    ∀ task ∈ (sys.next w e).tasks, task.id ≠ id := by
  intro task htask heq
  have hnot : ¬sys.Resumed id w e := by
    intro hresumed
    obtain ⟨found, hfound, hfoundId, -⟩ := sys.mem_of_resumed hresumed
    exact h found hfound hfoundId
  exact h task (sys.mem_of_not_resumed hid hnot htask heq) heq

theorem ended_nth {id : Nat} {w : World State Answer Op Job} {σ : Nat → Event Answer Job}
    (hid : id < w.started) {n : Nat} (h : ∀ task ∈ (sys.nth w σ n).tasks, task.id ≠ id) {k : Nat}
    (hk : n ≤ k) : ∀ task ∈ (sys.nth w σ k).tasks, task.id ≠ id := by
  induction k, hk using Nat.le_induction with
  | base => exact h
  | succ k _ ih =>
    apply sys.ended_next _ ih
    rw [nth_eq_run]
    exact Nat.lt_of_lt_of_le hid (sys.started_le_run w _)

/-- A task that is resumed at once every time until it has ended is resumed fairly. -/
theorem fair_of_ended {id : Nat} {w : World State Answer Op Job} {σ : Nat → Event Answer Job}
    (hid : id < w.started) (n : Nat) (h : ∀ task ∈ (sys.nth w σ n).tasks, task.id ≠ id)
    (hresumed : ∀ i, i < n → sys.Resumed id (sys.nth w σ i) (σ i)) : sys.Fair id w σ := by
  intro k hsuspended
  by_cases hk : k < n
  · exact ⟨k, Nat.le_refl k, hresumed k hk⟩
  · obtain ⟨task, htask, heq⟩ := hsuspended
    exact absurd heq (sys.ended_nth hid h (Nat.le_of_not_lt hk) task htask)

/-- **A task that is always resumed again ends.** -/
theorem Fair.ends {id : Nat} {w : World State Answer Op Job} {σ : Nat → Event Answer Job}
    (fair : sys.Fair id w σ) (hid : id < w.started) (p : Prog State Answer Op Unit) (n : Nat)
    (job : Job) (s : State) (answers : Nat → Answer)
    (h : ∀ task ∈ (sys.nth w σ n).tasks, task.id = id →
      task ∈ leftover id job (segment p s answers).2) :
    ∃ k, ∀ task ∈ (sys.nth w σ k).tasks, task.id ≠ id := by
  have hstarted : ∀ k, id < (sys.nth w σ k).started := by
    intro k
    rw [nth_eq_run]
    exact Nat.lt_of_lt_of_le hid (sys.started_le_run w _)
  induction p generalizing n job s answers with
  | ret a => exact ⟨n, fun task htask heq => by simpa [segment, leftover] using h task htask heq⟩
  | raise x => exact ⟨n, fun task htask heq => by simpa [segment, leftover] using h task htask heq⟩
  | get k ih => exact ih s n job s answers h
  | set s' p ih => exact ih n job s' answers h
  | ask k ih => exact ih _ n job s _ h
  | await op next ih =>
    by_cases hended : ∀ task ∈ (sys.nth w σ n).tasks, task.id ≠ id
    · exact ⟨n, hended⟩
    · have hended' : ∃ task ∈ (sys.nth w σ n).tasks, task.id = id := by
        by_contra hnone
        exact hended fun task htask heq => hnone ⟨task, htask, heq⟩
      -- Until it is resumed next, the task waits at this await.
      have hsame : ∀ k, n ≤ k → (∀ i, n ≤ i → i < k → ¬sys.Resumed id (sys.nth w σ i) (σ i)) →
          ∀ task ∈ (sys.nth w σ k).tasks, task.id = id → task = ⟨id, job, op, next⟩ := by
        intro k hk
        induction k, hk using Nat.le_induction with
        | base =>
          intro _ task htask heq
          simpa [segment, leftover] using h task htask heq
        | succ k hk ihk =>
          intro hnot task htask heq
          have hmem := sys.mem_of_not_resumed (hstarted k) (hnot k hk (Nat.lt_succ_self k)) htask
            heq
          exact ihk (fun i hi hik => hnot i hi (Nat.lt_succ_of_lt hik)) task hmem heq
      classical
      have hexists := fair n hended'
      obtain ⟨hle, hresumed⟩ := Nat.find_spec hexists
      have hfirst : ∀ i, n ≤ i → i < Nat.find hexists →
          ¬sys.Resumed id (sys.nth w σ i) (σ i) :=
        fun i hi hlt hi' => Nat.find_min hexists hlt ⟨hi, hi'⟩
      obtain ⟨found, hfound, hfoundId, reply, answers', hleft⟩ := sys.mem_of_resumed hresumed
      obtain rfl := hsame _ hle hfirst found hfound hfoundId
      exact ih reply (Nat.find hexists + 1) job _ answers' hleft

/-- The event runs a task that does the job. -/
def Runs (w : World State Answer Op Job) (job : Job) : Event Answer Job → Prop
  | .start job' _ => job' = job
  | .resume id _ _ => ∃ task, w.tasks.find? (·.id = id) = some task ∧ task.job = job

/-- An event runs one task. -/
theorem Runs.same {w : World State Answer Op Job} {e : Event Answer Job} {job job' : Job}
    (h : Runs w job e) (h' : Runs w job' e) : job = job' := by
  cases e with
  | start => exact Eq.trans (Eq.symm h) h'
  | resume id reply answers =>
    obtain ⟨task, htask, rfl⟩ := h
    obtain ⟨task', htask', rfl⟩ := h'
    rw [Option.some.inj (htask.symm.trans htask')]

/-- The loop before any job has come in. -/
def initial (s : State) : World State Answer Op Job := ⟨s, [], 0⟩

end System

/-! ### The rely-guarantee method -/

/-- `May id job a b`: the task `id`, doing `job`, may take the state from `a` to
    `b` in one update.  `Starts`, `Resumes` and `Answers` say which starts,
    replies and answers the runs under consideration have. -/
structure Discipline (State Answer Op Job : Type) where
  Inv : State → Prop
  May : Nat → Job → State → State → Prop
  Starts : Nat → Job → State → Prop
  Resumes : Nat → Job → State → Op → Option Interrupt → Prop
  Answers : Answer → Prop

namespace Discipline

variable (D : Discipline State Answer Op Job)

/-- No update of a task other than `id` ends the fact. -/
def Stable (id : Nat) (P : State → Prop) : Prop :=
  ∀ other, other ≠ id → ∀ job a b, D.Inv a → D.May other job a b → P a → P b

/-- Every update of the task is in `U`, and `Q` holds where it ends.  At a
    suspension some stable fact has to carry the task over. -/
def Safe (U : State → State → Prop) (id : Nat) (job : Job) :
    Prog State Answer Op α → State → (Except Interrupt α → State → Prop) → Prop
  | .ret a, s, Q => Q (.ok a) s
  | .raise x, s, Q => Q (.error x) s
  | .get k, s, Q => Safe U id job (k s) s Q
  | .set s' p, s, Q => U s s' ∧ (D.Inv s' → Safe U id job p s' Q)
  | .ask k, s, Q => ∀ a, D.Answers a → Safe U id job (k a) s Q
  | .await op k, s, Q => ∃ P : State → Prop, P s ∧ D.Stable id P ∧
      ∀ s', D.Inv s' → P s' → ∀ reply, D.Resumes id job s' op reply →
        Safe U id job (k reply) s' Q

variable {D} {U V : State → State → Prop} {id : Nat} {job : Job} {s : State}

theorem Stable.and {P Q : State → Prop} (hP : D.Stable id P) (hQ : D.Stable id Q) :
    D.Stable id fun s => P s ∧ Q s := fun other hne job a b hinv hmay h =>
  ⟨hP other hne job a b hinv hmay h.1, hQ other hne job a b hinv hmay h.2⟩

namespace Safe

variable {p : Prog State Answer Op α} {f : α → Prog State Answer Op β}
  {Q R : Except Interrupt α → State → Prop} {T : Except Interrupt β → State → Prop}

theorem mono (hU : ∀ a b, U a b → V a b) (hQ : ∀ r s, D.Inv s → Q r s → R r s)
    (hinv : D.Inv s) (h : D.Safe U id job p s Q) : D.Safe V id job p s R := by
  induction p generalizing s with
  | ret a => exact hQ _ _ hinv h
  | raise x => exact hQ _ _ hinv h
  | get k ih => exact ih s hinv h
  | set s' p ih => exact ⟨hU _ _ h.1, fun hinv' => ih hinv' (h.2 hinv')⟩
  | ask k ih => exact fun a ha => ih a hinv (h a ha)
  | await op k ih =>
    obtain ⟨P, hP, hstable, hnext⟩ := h
    exact ⟨P, hP, hstable, fun s' hinv' hP' reply hreply =>
      ih reply hinv' (hnext s' hinv' hP' reply hreply)⟩

theorem post (hinv : D.Inv s) (h : D.Safe U id job p s Q)
    (hQ : ∀ r s, D.Inv s → Q r s → R r s) : D.Safe U id job p s R :=
  mono (fun _ _ h => h) hQ hinv h

/-- **Sequencing rule.** -/
theorem bind (hinv : D.Inv s) (h : D.Safe U id job p s Q)
    (hok : ∀ a s, D.Inv s → Q (.ok a) s → D.Safe U id job (f a) s T)
    (hraise : ∀ x s, D.Inv s → Q (.error x) s → T (.error x) s) :
    D.Safe U id job (p >>= f) s T := by
  induction p generalizing s with
  | ret a => exact hok a s hinv h
  | raise x => exact hraise x s hinv h
  | get k ih => exact ih s hinv h
  | set s' p ih => exact ⟨h.1, fun hinv' => ih hinv' (h.2 hinv')⟩
  | ask k ih => exact fun a ha => ih a hinv (h a ha)
  | await op k ih =>
    obtain ⟨P, hP, hstable, hnext⟩ := h
    exact ⟨P, hP, hstable, fun s' hinv' hP' reply hreply =>
      ih reply hinv' (hnext s' hinv' hP' reply hreply)⟩

/-- **Handler rule.** -/
theorem tryCatch {handle : Interrupt → Prog State Answer Op α} (hinv : D.Inv s)
    (h : D.Safe U id job p s Q) (hok : ∀ a s, D.Inv s → Q (.ok a) s → R (.ok a) s)
    (hraise : ∀ x s, D.Inv s → Q (.error x) s → D.Safe U id job (handle x) s R) :
    D.Safe U id job (p.tryCatch handle) s R := by
  induction p generalizing s with
  | ret a => exact hok a s hinv h
  | raise x => exact hraise x s hinv h
  | get k ih => exact ih s hinv h
  | set s' p ih => exact ⟨h.1, fun hinv' => ih hinv' (h.2 hinv')⟩
  | ask k ih => exact fun a ha => ih a hinv (h a ha)
  | await op k ih =>
    obtain ⟨P, hP, hstable, hnext⟩ := h
    exact ⟨P, hP, hstable, fun s' hinv' hP' reply hreply =>
      ih reply hinv' (hnext s' hinv' hP' reply hreply)⟩

/-- **Frame rule.**  A stable fact that the task's own updates keep is still
    there at its end. -/
theorem frame {F : State → Prop} (hstable : D.Stable id F)
    (hkeep : ∀ a b, D.Inv a → U a b → F a → F b) (hinv : D.Inv s) (hF : F s)
    (h : D.Safe U id job p s Q) : D.Safe U id job p s fun r s => Q r s ∧ F s := by
  induction p generalizing s with
  | ret a => exact ⟨h, hF⟩
  | raise x => exact ⟨h, hF⟩
  | get k ih => exact ih s hinv hF h
  | set s' p ih => exact ⟨h.1, fun hinv' => ih hinv' (hkeep _ _ hinv h.1 hF) (h.2 hinv')⟩
  | ask k ih => exact fun a ha => ih a hinv hF (h a ha)
  | await op k ih =>
    obtain ⟨P, hP, hstable', hnext⟩ := h
    exact ⟨fun s => P s ∧ F s, ⟨hP, hF⟩, hstable'.and hstable,
      fun s' hinv' hP' reply hreply =>
        ih reply hinv' hP'.2 (hnext s' hinv' hP'.1 reply hreply)⟩

theorem ret {a : α} (h : Q (.ok a) s) :
    D.Safe U id job (Prog.ret a : Prog State Answer Op α) s Q := h

theorem raise {x : Interrupt} (h : Q (.error x) s) :
    D.Safe U id job (Prog.raise x : Prog State Answer Op α) s Q := h

theorem modify {g : State → State} {Q : Except Interrupt Unit → State → Prop} (hU : U s (g s))
    (h : D.Inv (g s) → Q (.ok ()) (g s)) :
    D.Safe U id job (Prog.modify g : Prog State Answer Op Unit) s Q := ⟨hU, h⟩

theorem readThen {f : State → Prog State Answer Op β} (h : D.Safe U id job (f s) s T) :
    D.Safe U id job (Prog.read >>= f) s T := h

theorem modifyThen {g : State → State} {f : Unit → Prog State Answer Op β} (hU : U s (g s))
    (h : D.Inv (g s) → D.Safe U id job (f ()) (g s) T) :
    D.Safe U id job (Prog.modify g >>= f) s T := ⟨hU, h⟩

theorem answerThen {f : Answer → Prog State Answer Op β}
    (h : ∀ a, D.Answers a → D.Safe U id job (f a) s T) :
    D.Safe U id job (Prog.answer >>= f) s T := h

theorem wait {op : Op} {Q : Except Interrupt Unit → State → Prop} (P : State → Prop) (hP : P s)
    (hstable : D.Stable id P)
    (hok : ∀ s', D.Inv s' → P s' → D.Resumes id job s' op none → Q (.ok ()) s')
    (hraise : ∀ x s', D.Inv s' → P s' → D.Resumes id job s' op (some x) → Q (.error x) s') :
    D.Safe U id job (Prog.wait op : Prog State Answer Op Unit) s Q := by
  refine ⟨P, hP, hstable, fun s' hinv' hP' reply hreply => ?_⟩
  cases reply with
  | none => exact hok s' hinv' hP' hreply
  | some x => exact hraise x s' hinv' hP' hreply

/-- **Transfer rule.**  What is safe among tasks that may do more is safe among
    tasks that may do less. -/
theorem transfer {E : Discipline State Answer Op Job} (hinvs : ∀ s, E.Inv s → D.Inv s)
    (hmay : ∀ other, other ≠ id → ∀ job a b, E.May other job a b → D.May other job a b)
    (hresumes : ∀ s op reply, E.Resumes id job s op reply → D.Resumes id job s op reply)
    (hanswers : ∀ a, E.Answers a → D.Answers a) (hU : ∀ a b, U a b → V a b)
    (h : D.Safe U id job p s Q) : E.Safe V id job p s Q := by
  induction p generalizing s with
  | ret a => exact h
  | raise x => exact h
  | get k ih => exact ih s h
  | set s' p ih => exact ⟨hU _ _ h.1, fun hinv' => ih (h.2 (hinvs _ hinv'))⟩
  | ask k ih => exact fun a ha => ih a (h a (hanswers a ha))
  | await op k ih =>
    obtain ⟨P, hP, hstable, hnext⟩ := h
    refine ⟨P, hP, ?_, fun s' hinv' hP' reply hreply =>
      ih reply (hnext s' (hinvs _ hinv') hP' reply (hresumes _ _ _ hreply))⟩
    intro other hne job' a b hinv hact hPa
    exact hstable other hne job' a b (hinvs _ hinv) (hmay other hne job' a b hact) hPa

/-- **Cleanup rule.** -/
theorem andFinally {cleanup : Prog State Answer Op Unit} (hinv : D.Inv s)
    (h : D.Safe U id job p s Q)
    (hclean : ∀ r s, D.Inv s → Q r s → D.Safe U id job cleanup s fun c s =>
      match c with
      | .ok _ => R r s
      | .error x => R (.error x) s) :
    D.Safe U id job (p.andFinally cleanup) s R := by
  have hcatch : D.Safe U id job
      (p.tryCatch fun x => cleanup >>= fun _ => .raise x) s fun r s =>
        match r with
        | .ok a => Q (.ok a) s
        | .error x => R (.error x) s := by
    refine tryCatch hinv h (fun _ _ _ h => h) fun x s hinv hQ => ?_
    exact bind (f := fun _ => Prog.raise x) hinv (hclean _ s hinv hQ) (fun _ _ _ h => h)
      (fun _ _ _ h => h)
  refine bind hinv hcatch ?_ (fun _ _ _ h => h)
  intro a s hinv hQ
  exact bind (f := fun _ => Prog.ret a) hinv (hclean _ s hinv hQ) (fun _ _ _ h => h)
    (fun _ _ _ h => h)

end Safe

/-! ### Soundness -/

/-- A chain of updates of one task, each from a state that keeps the invariant. -/
def Updates (D : Discipline State Answer Op Job) (id : Nat) (job : Job) : State → State → Prop :=
  Relation.ReflTransGen fun a b => D.Inv a ∧ D.May id job a b

/-- A chain of updates of any tasks. -/
def Moves (D : Discipline State Answer Op Job) : State → State → Prop :=
  Relation.ReflTransGen fun a b => D.Inv a ∧ ∃ id job, D.May id job a b

/-- A suspended task is carried by a stable fact. -/
def Carried (D : Discipline State Answer Op Job) (Final : Nat → State → Prop)
    (task : Task State Answer Op Job) (s : State) : Prop :=
  ∃ P : State → Prop, P s ∧ D.Stable task.id P ∧ ∀ s', D.Inv s' → P s' → ∀ reply,
    D.Resumes task.id task.job s' task.op reply →
      D.Safe (D.May task.id task.job) task.id task.job (task.next reply) s'
        fun _ s => Final task.id s

theorem Stable.updates {P : State → Prop} {other : Nat} (hne : other ≠ id)
    (hstable : D.Stable id P) {a b : State} (h : D.Updates other job a b) (hP : P a) : P b := by
  induction h with
  | refl => exact hP
  | tail _ hstep ih => exact hstable other hne job _ _ hstep.1 hstep.2 ih

theorem Carried.updates {Final : Nat → State → Prop} {task : Task State Answer Op Job} {other : Nat}
    (hne : other ≠ task.id) {a b : State} (h : D.Updates other job a b)
    (hcarried : D.Carried Final task a) : D.Carried Final task b := by
  obtain ⟨P, hP, hstable, hnext⟩ := hcarried
  exact ⟨P, hstable.updates hne h hP, hstable, hnext⟩

/-- What every update of the task keeps holds after a chain of them. -/
theorem Updates.keeps {P : State → Prop} (hP : ∀ a b, D.Inv a → D.May id job a b → P a → P b)
    {a b : State} (h : D.Updates id job a b) (ha : P a) : P b := by
  induction h with
  | refl => exact ha
  | tail _ hstep ih => exact hP _ _ hstep.1 hstep.2 ih

/-- A fact that a chain of updates ends is ended by one of them. -/
theorem Updates.exists_end {P : State → Prop} {a b : State} (h : D.Updates id job a b) (ha : P a)
    (hb : ¬P b) : ∃ c d, D.Updates id job a c ∧ D.Inv c ∧ D.May id job c d ∧ P c ∧ ¬P d ∧
      D.Updates id job d b := by
  induction h with
  | refl => exact absurd ha hb
  | @tail c d hchain hstep ih =>
    by_cases hc : P c
    · exact ⟨c, d, hchain, hstep.1, hstep.2, hc, hb, .refl⟩
    · obtain ⟨c', d', hbefore, hinv, hmay, hc', hd', hafter⟩ := ih hc
      exact ⟨c', d', hbefore, hinv, hmay, hc', hd', hafter.tail hstep⟩

theorem Updates.moves {a b : State} (h : D.Updates id job a b) : D.Moves a b :=
  Relation.ReflTransGen.mono (fun _ _ (h : _ ∧ _) => ⟨h.1, id, job, h.2⟩) _ _ h

/-- What the discipline asks of a system. -/
structure Sound (D : Discipline State Answer Op Job) (sys : System State Answer Op Job)
    (guard : World State Answer Op Job → Event Answer Job → Prop)
    (Final : Nat → State → Prop) : Prop where
  step : ∀ id job a b, D.Inv a → D.May id job a b → D.Inv b
  final : ∀ id, D.Stable id (Final id)
  starts : ∀ w job answers, guard w (.start job answers) → sys.admits w.shared job →
    D.Starts w.started job w.shared ∧ ∀ i, D.Answers (answers i)
  resumes : ∀ w task reply answers, guard w (.resume task.id reply answers) →
    task ∈ w.tasks → sys.replies w.shared task.id task.job task.op reply →
    D.Resumes task.id task.job w.shared task.op reply ∧ ∀ i, D.Answers (answers i)
  body : ∀ id job s, D.Inv s → Final id s → D.Starts id job s →
    D.Safe (D.May id job) id job (sys.body id job) s fun _ s => Final id s

/-- What every reachable world keeps.  A task that is not suspended has ended
    or has not come in yet, and its final fact holds. -/
structure Orderly (D : Discipline State Answer Op Job) (Final : Nat → State → Prop)
    (w : World State Answer Op Job) : Prop where
  inv : D.Inv w.shared
  carried : ∀ task ∈ w.tasks, task.id < w.started ∧ D.Carried Final task w.shared
  final : ∀ id, (∀ task ∈ w.tasks, task.id ≠ id) → Final id w.shared

variable {sys : System State Answer Op Job} {Final : Nat → State → Prop}
  {guard : World State Answer Op Job → Event Answer Job → Prop}

/-- One stretch of a safe task. -/
theorem Safe.stretch {p : Prog State Answer Op α} {Q : Except Interrupt α → State → Prop}
    (step : ∀ id job a b, D.Inv a → D.May id job a b → D.Inv b) (hinv : D.Inv s)
    (h : D.Safe (D.May id job) id job p s Q) (answers : Nat → Answer)
    (hanswers : ∀ i, D.Answers (answers i)) :
    D.Updates id job s (segment p s answers).1 ∧ D.Inv (segment p s answers).1 ∧
      match (segment p s answers).2 with
      | .finished result => Q result (segment p s answers).1
      | .suspended op next => ∃ P : State → Prop, P (segment p s answers).1 ∧
          D.Stable id P ∧ ∀ s', D.Inv s' → P s' → ∀ reply, D.Resumes id job s' op reply →
            D.Safe (D.May id job) id job (next reply) s' Q := by
  induction p generalizing s answers with
  | ret a => exact ⟨.refl, hinv, h⟩
  | raise x => exact ⟨.refl, hinv, h⟩
  | get k ih => exact ih s hinv h answers hanswers
  | set s' p ih =>
    have hinv' := step id job s s' hinv h.1
    obtain ⟨hupdates, hrest⟩ := ih hinv' (h.2 hinv') answers hanswers
    exact ⟨.head ⟨hinv, h.1⟩ hupdates, hrest⟩
  | ask k ih => exact ih _ hinv (h _ (hanswers 0)) _ fun i => hanswers (i + 1)
  | await op k ih => exact ⟨.refl, hinv, h⟩

/-- The task of a stretch that began in an orderly world, and the other tasks
    that were suspended meanwhile, are again orderly. -/
theorem Orderly.stretch {w : World State Answer Op Job} (hw : Orderly D Final w)
    (sound : Sound D sys guard Final) {others : List (Task State Answer Op Job)} {started : Nat}
    (hid : id < started) (hstarted : w.started ≤ started)
    (hothers : ∀ task ∈ others, task ∈ w.tasks ∧ task.id ≠ id)
    (hleft : ∀ task ∈ w.tasks, task.id ≠ id → task ∈ others)
    {p : Prog State Answer Op Unit}
    (h : D.Safe (D.May id job) id job p w.shared fun _ s => Final id s)
    (answers : Nat → Answer) (hanswers : ∀ i, D.Answers (answers i)) :
    Orderly D Final ⟨(segment p w.shared answers).1,
      others ++ System.leftover id job (segment p w.shared answers).2, started⟩ ∧
    D.Updates id job w.shared (segment p w.shared answers).1 := by
  obtain ⟨hupdates, hinv, hstop⟩ := Safe.stretch sound.step hw.inv h answers hanswers
  refine ⟨⟨hinv, ?_, ?_⟩, hupdates⟩
  · intro task htask
    rcases List.mem_append.mp htask with htask | htask
    · obtain ⟨hmem, hne⟩ := hothers task htask
      obtain ⟨hlt, hcarried⟩ := hw.carried task hmem
      exact ⟨Nat.lt_of_lt_of_le hlt hstarted, hcarried.updates (Ne.symm hne) hupdates⟩
    · generalize segment p w.shared answers = result at hstop htask
      obtain ⟨s, stop⟩ := result
      cases stop with
      | finished result => simp [System.leftover] at htask
      | suspended op next =>
        simp only [System.leftover, List.mem_singleton] at htask
        subst htask
        exact ⟨hid, hstop⟩
  · intro other hother
    by_cases hne : other = id
    · subst hne
      generalize segment p w.shared answers = result at hstop hother
      obtain ⟨s, stop⟩ := result
      cases stop with
      | finished result => exact hstop
      | suspended op next =>
        exact absurd rfl (hother ⟨other, job, op, next⟩ (by simp [System.leftover]))
    · refine (sound.final other).updates (Ne.symm hne) hupdates (hw.final other ?_)
      intro task htask heq
      exact hother task (List.mem_append_left _ (hleft task htask (heq ▸ hne))) heq

/-- **Step lemma.**  A guarded step of an orderly world is a chain of updates of
    one task, and leaves it orderly. -/
theorem Sound.next (sound : Sound D sys guard Final) {w : World State Answer Op Job}
    (hw : Orderly D Final w) {e : Event Answer Job} (hguard : guard w e) :
    Orderly D Final (sys.next w e) ∧
      match e with
      | .start job _ => D.Updates w.started job w.shared (sys.next w e).shared
      | .resume id _ _ => (sys.next w e).shared = w.shared ∨
          ∃ task, w.tasks.find? (·.id = id) = some task ∧
            D.Updates id task.job w.shared (sys.next w e).shared := by
  cases e with
  | start job answers =>
    simp only [System.next]
    split
    · rename_i hadmits
      have hfresh : ∀ task ∈ w.tasks, task.id ≠ w.started := fun task htask heq =>
        absurd (hw.carried task htask).1 (by omega)
      obtain ⟨hstarts, hanswers⟩ := sound.starts w job answers hguard hadmits
      have hbody := sound.body w.started job w.shared hw.inv (hw.final _ hfresh) hstarts
      exact hw.stretch sound (Nat.lt_succ_self _) (Nat.le_succ _)
        (fun task htask => ⟨htask, hfresh task htask⟩) (fun task htask _ => htask) hbody answers
        hanswers
    · exact ⟨hw, .refl⟩
  | resume id reply answers =>
    simp only [System.next]
    cases hfind : w.tasks.find? (·.id = id) with
    | none => exact ⟨hw, .inl rfl⟩
    | some task =>
      have hmem := List.mem_of_find?_eq_some hfind
      have hid : task.id = id := by simpa using List.find?_some hfind
      subst hid
      simp only
      split
      · rename_i hreplies
        obtain ⟨hlt, P, hP, -, hnext⟩ := hw.carried task hmem
        obtain ⟨hresumes, hanswers⟩ := sound.resumes w task reply answers hguard hmem hreplies
        have hrest := hnext w.shared hw.inv hP reply hresumes
        have hothers : ∀ other ∈ w.tasks.filter (·.id ≠ task.id),
            other ∈ w.tasks ∧ other.id ≠ task.id := fun other hother => by simpa using hother
        obtain ⟨horderly, hupdates⟩ := hw.stretch sound hlt (Nat.le_refl _) hothers
          (fun other hother hne => by simp [hother, hne]) hrest answers hanswers
        exact ⟨horderly, .inr ⟨task, rfl, hupdates⟩⟩
      · exact ⟨hw, .inl rfl⟩

/-- A guarded step is a chain of updates of the task it runs, or changes nothing. -/
theorem Sound.updates (sound : Sound D sys guard Final) {w : World State Answer Op Job}
    (hw : Orderly D Final w) {e : Event Answer Job} (hguard : guard w e) :
    (sys.next w e).shared = w.shared ∨
      ∃ id job, System.Runs w job e ∧ D.Updates id job w.shared (sys.next w e).shared := by
  have hstep := (sound.next hw hguard).2
  cases e with
  | start job answers => exact .inr ⟨w.started, job, rfl, hstep⟩
  | resume id reply answers =>
    rcases hstep with hsame | ⟨task, hfind, hupdates⟩
    · exact .inl hsame
    · exact .inr ⟨id, task.job, ⟨task, hfind, rfl⟩, hupdates⟩

/-- **Run theorem.**  Every world a guarded run leads to is orderly. -/
theorem Sound.run (sound : Sound D sys guard Final) {w : World State Answer Op Job}
    (hw : Orderly D Final w) {es : List (Event Answer Job)} (along : sys.loop.Along guard w es) :
    Orderly D Final (sys.loop.run w es) :=
  sys.loop.invariant (Orderly D Final) (fun _ _ hguard h => (sound.next h hguard).1) hw
    along

/-- A guarded run is a chain of updates. -/
theorem Sound.moves (sound : Sound D sys guard Final) {w : World State Answer Op Job}
    (hw : Orderly D Final w) {es : List (Event Answer Job)} (along : sys.loop.Along guard w es) :
    D.Moves w.shared (sys.loop.run w es).shared := by
  induction es generalizing w with
  | nil => exact .refl
  | cons e es ih =>
    obtain ⟨horderly, hstep⟩ := sound.next hw along.1
    refine Relation.ReflTransGen.trans ?_ (ih horderly along.2)
    cases e with
    | start job answers => exact hstep.moves
    | resume id reply answers =>
      rcases hstep with hstep | ⟨task, -, hstep⟩
      · exact hstep ▸ .refl
      · exact hstep.moves

/-! ### One task of a run -/

/-- A fact that no task but `id` can end holds for as long as `id` has not come in. -/
theorem Sound.keeps (sound : Sound D sys guard Final) {P : State → Prop} (hP : D.Stable id P)
    {w : World State Answer Op Job} (hw : Orderly D Final w) {es : List (Event Answer Job)}
    (along : sys.loop.Along guard w es) (hlast : (sys.loop.run w es).started ≤ id)
    (h : P w.shared) : P (sys.loop.run w es).shared := by
  induction es generalizing w with
  | nil => exact h
  | cons e es ih =>
    obtain ⟨horderly, hstep⟩ := sound.next hw along.1
    have hfirst := Nat.le_trans (sys.started_le_run (sys.next w e) es) hlast
    refine ih horderly along.2 hlast ?_
    cases e with
    | start job answers =>
      by_cases hadmits : sys.admits w.shared job
      · have hlt : w.started < id := by
          have : (sys.next w (.start job answers)).started = w.started + 1 := by
            simp [System.next, hadmits]
          omega
        exact hP.updates (Nat.ne_of_lt hlt) hstep h
      · simpa [System.next, hadmits] using h
    | resume other reply answers =>
      rcases hstep with hsame | ⟨task, hfind, hupdates⟩
      · exact (congrArg P hsame).mpr h
      · have hmem := List.mem_of_find?_eq_some hfind
        obtain rfl : task.id = other := by simpa using List.find?_some hfind
        have hlt := Nat.lt_of_lt_of_le (hw.carried task hmem).1
          (Nat.le_trans (sys.started_le_next w _) hfirst)
        exact hP.updates (Nat.ne_of_lt hlt) hupdates h

/-- The task has come in, and when it has ended `Q` holds. -/
structure Pursues (D : Discipline State Answer Op Job) (Q : State → Prop) (id : Nat)
    (w : World State Answer Op Job) : Prop where
  started : id < w.started
  carried : ∀ task ∈ w.tasks, task.id = id → D.Carried (fun _ => Q) task w.shared
  ended : (∀ task ∈ w.tasks, task.id ≠ id) → Q w.shared

variable {Q : State → Prop} {w : World State Answer Op Job}

/-- The updates of another task leave the pursuit as it is. -/
theorem Pursues.updates (hQ : D.Stable id Q) (h : Pursues D Q id w) {other : Nat}
    (hne : other ≠ id) {s : State} (hupdates : D.Updates other job w.shared s)
    {tasks : List (Task State Answer Op Job)} {started : Nat} (hstarted : w.started ≤ started)
    (hsame : ∀ task, task.id = id → (task ∈ tasks ↔ task ∈ w.tasks)) :
    Pursues D Q id ⟨s, tasks, started⟩ where
  started := Nat.lt_of_lt_of_le h.started hstarted
  carried task htask heq :=
    (h.carried task ((hsame task heq).mp htask) heq).updates (heq ▸ hne) hupdates
  ended hended := hQ.updates hne hupdates
    (h.ended fun task htask heq => hended task ((hsame task heq).mpr htask) heq)

theorem pursues_stretch (sound : Sound D sys guard Final) (hw : Orderly D Final w)
    {p : Prog State Answer Op Unit} (h : D.Safe (D.May id job) id job p w.shared fun _ s => Q s)
    (answers : Nat → Answer) (hanswers : ∀ i, D.Answers (answers i))
    {others : List (Task State Answer Op Job)} {started : Nat} (hid : id < started)
    (hothers : ∀ task ∈ others, task.id ≠ id) :
    Pursues D Q id ⟨(segment p w.shared answers).1,
      others ++ System.leftover id job (segment p w.shared answers).2, started⟩ := by
  obtain ⟨-, -, hstop⟩ := Safe.stretch sound.step hw.inv h answers hanswers
  generalize segment p w.shared answers = result at hstop ⊢
  obtain ⟨s, stop⟩ := result
  cases stop with
  | finished result =>
    refine ⟨hid, fun task htask heq => ?_, fun _ => hstop⟩
    simp only [System.leftover, List.append_nil] at htask
    exact absurd heq (hothers task htask)
  | suspended op next =>
    refine ⟨hid, fun task htask heq => ?_, fun hended => ?_⟩
    · rcases List.mem_append.mp htask with htask | htask
      · exact absurd heq (hothers task htask)
      · simp only [System.leftover, List.mem_singleton] at htask
        subst htask
        exact hstop
    · exact absurd rfl (hended ⟨id, job, op, next⟩ (by simp [System.leftover]))

/-- A step of the loop keeps the pursuit. -/
theorem Pursues.next (sound : Sound D sys guard Final) (hQ : D.Stable id Q)
    (hw : Orderly D Final w) (h : Pursues D Q id w) {e : Event Answer Job} (hguard : guard w e) :
    Pursues D Q id (sys.next w e) := by
  have hstep := (sound.next hw hguard).2
  cases e with
  | start job answers =>
    simp only [System.next] at hstep ⊢
    split
    · rename_i hadmits
      rw [if_pos hadmits] at hstep
      have hne : w.started ≠ id := Nat.ne_of_gt h.started
      refine h.updates hQ hne hstep (Nat.le_succ _) fun task heq => ?_
      have hnot : task ∉ System.leftover w.started job
          (segment (sys.body w.started job) w.shared answers).2 := fun hmem =>
        hne ((System.leftover_id hmem).symm.trans heq)
      simp [hnot]
    · exact h
  | resume other reply answers =>
    simp only [System.next] at hstep ⊢
    cases hfind : w.tasks.find? (·.id = other) with
    | none => exact h
    | some task =>
      have hmem := List.mem_of_find?_eq_some hfind
      obtain rfl : task.id = other := by simpa using List.find?_some hfind
      simp only [hfind] at hstep ⊢
      split
      · rename_i hreplies
        obtain ⟨hresumes, hanswers⟩ := sound.resumes w task reply answers hguard hmem hreplies
        by_cases heq : task.id = id
        · subst heq
          obtain ⟨P, hP, -, hnext⟩ := h.carried task hmem rfl
          exact pursues_stretch sound hw (hnext w.shared hw.inv hP reply hresumes) answers
            hanswers h.started (by simp)
        · obtain ⟨-, P, hP, -, hnext⟩ := hw.carried task hmem
          have hupdates := (Safe.stretch sound.step hw.inv
            (hnext w.shared hw.inv hP reply hresumes) answers hanswers).1
          refine h.updates hQ heq hupdates (Nat.le_refl _) fun other hother => ?_
          have hnot : other ∉ System.leftover task.id task.job
              (segment (task.next reply) w.shared answers).2 := fun hmem =>
            heq ((System.leftover_id hmem).symm.trans hother)
          simp only [List.mem_append, hnot, or_false, List.mem_filter, and_iff_left_iff_imp]
          exact fun _ => by simpa using fun h => heq (h.symm.trans hother)
      · exact h

/-- **Task theorem.**  When a task that is safe for a lasting `Q` has ended, `Q` holds. -/
theorem Sound.pursues (sound : Sound D sys guard Final) (hQ : D.Stable w.started Q)
    (hw : Orderly D Final w) {answers : Nat → Answer} {es : List (Event Answer Job)}
    (hadmits : sys.admits w.shared job)
    (hsafe : D.Starts w.started job w.shared →
      D.Safe (D.May w.started job) w.started job (sys.body w.started job) w.shared fun _ s => Q s)
    (along : sys.loop.Along guard w (.start job answers :: es)) :
    Pursues D Q w.started (sys.loop.run w (.start job answers :: es)) := by
  obtain ⟨hguard, along⟩ := along
  obtain ⟨hstarts, hanswers⟩ := sound.starts w job answers hguard hadmits
  have hnext := (sound.next hw hguard).1
  have hfirst : Pursues D Q w.started (sys.next w (.start job answers)) := by
    simp only [System.next, hadmits, if_true]
    exact pursues_stretch sound hw (hsafe hstarts) answers hanswers (Nat.lt_succ_self _)
      fun task htask => Nat.ne_of_lt (hw.carried task htask).1
  exact (sys.loop.invariant (fun w' => Orderly D Final w' ∧ Pursues D Q w.started w')
    (fun _ _ hguard h => ⟨(sound.next h.1 hguard).1, h.2.next sound hQ h.1 hguard⟩)
    ⟨hnext, hfirst⟩ along).2

end Discipline

/-! ### Locks -/

/-- A first-come lock.  A waiter is known by its task and by what it waits to
    do; nobody passes a waiter, also when the lock is free for its turn. -/
structure Lock (Label : Type) where
  holder : Option Nat := none
  waiters : List (Nat × Label) := []

namespace Lock

variable {Label : Type}

def free (l : Lock Label) : Bool := l.holder.isNone && l.waiters.isEmpty

def enter (l : Lock Label) (id : Nat) : Lock Label := { l with holder := some id }

def queue (l : Lock Label) (id : Nat) (label : Label) : Lock Label :=
  { l with waiters := l.waiters ++ [(id, label)] }

/-- The waiter is next and the lock is free. -/
def turn [DecidableEq Label] (l : Lock Label) (id : Nat) (label : Label) : Bool :=
  l.holder.isNone && decide (l.waiters.head? = some (id, label))

def take (l : Lock Label) (id : Nat) : Lock Label :=
  { holder := some id, waiters := l.waiters.tail }

/-- The waiters of a task give up. -/
def leave (l : Lock Label) (id : Nat) : Lock Label :=
  { l with waiters := l.waiters.filter (·.1 ≠ id) }

def release (l : Lock Label) : Lock Label := { l with holder := none }

end Lock

end Coroutine
