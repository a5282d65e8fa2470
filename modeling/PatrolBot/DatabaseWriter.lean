import Mathlib.Data.List.Nodup
import Mathlib.Data.List.Perm.Basic
import PatrolBot.Library.Machine

/-!
# The background writer

`BackgroundWriter` of `database/writer.py`, over the queue and the tasks of `asyncio`: any
number of workers, calls of `flush` and `stop` that wait for the queue, writes that
succeed, raise or are cancelled, in any order.  Writes are numbered as they are accepted.
-/

namespace PatrolBot.DatabaseWriter

/-- How a write ends. -/
inductive Outcome where
  | success
  | exception
  | cancelled
deriving DecidableEq

/-- A call that waits in `join`: a `flush`, or a `stop` with the worker it is to cancel. -/
structure Join where
  id : Nat
  worker : Option Nat
deriving DecidableEq

structure Writer where
  -- `_task`, by the number of the worker
  task : Option Nat := none
  dropped : Nat := 0
  failed : Nat := 0
  -- `_queue`, with `_unfinished_tasks`
  queue : List Nat := []
  unfinished : Nat := 0
  -- the workers that wait for a write, and those that run one; the others have ended
  waiting : List Nat := []
  writing : List (Nat × Nat) := []
  -- the workers with a `cancel` on its way
  cancelled : List Nat := []
  -- the calls that wait for the queue, and those that the queue has woken
  joining : List Join := []
  released : List Join := []
  -- the numbers of the next worker, write and call
  workers : Nat := 0
  accepted : Nat := 0
  calls : Nat := 0

inductive Event where
  | submit
  | start
  | flush
  | stop (drain : Bool)
  -- a worker takes the next write of the queue
  | work (worker : Nat)
  -- a cancelled worker ends while it waits for a write
  | interrupt (worker : Nat)
  -- the write of a worker ends
  | ended (worker : Nat) (outcome : Outcome)
  -- a woken call goes on
  | resume (call : Nat)
  -- the ten seconds of a `stop` are over
  | timeout (call : Nat)

/-- What can be seen of a step. -/
inductive Entry where
  | accepted (write : Nat)
  | dropped
  | started (worker write : Nat)
  | ended (write : Nat) (outcome : Outcome)
  -- `task_done`
  | marked (write : Nat)
  -- a call of `flush`, or of `stop` with `drain`, and the end of its `join`
  | called (call : Nat)
  | joined (call : Nat)
deriving DecidableEq

namespace Writer

variable (s : Writer)

/-- The task is there and not done. -/
def running : Bool :=
  s.task.any fun worker => s.waiting.contains worker || s.writing.any fun entry => entry.1 == worker

/-- `start`. -/
def start : Writer :=
  if s.running then s
  else { s with
    task := some s.workers, waiting := s.workers :: s.waiting, workers := s.workers + 1 }

/-- `submit`; a queue with the bound 0 has none. -/
def submit (maxsize : Nat) : Writer × List Entry :=
  let s := if s.task = none then s.start else s
  if 0 < maxsize ∧ maxsize ≤ s.queue.length then ({ s with dropped := s.dropped + 1 }, [.dropped])
  else
    ({ s with
        queue := s.queue ++ [s.accepted], unfinished := s.unfinished + 1,
        accepted := s.accepted + 1 },
      [.accepted s.accepted])

/-- `flush`. -/
def flush : Writer × List Entry :=
  let next := { s with calls := s.calls + 1 }
  if s.task = none ∨ s.unfinished = 0 then (next, [.called s.calls, .joined s.calls])
  else ({ next with joining := s.joining ++ [⟨s.calls, none⟩] }, [.called s.calls])

/-- `task.cancel()`. -/
def cancel (worker : Nat) : Writer := { s with cancelled := worker :: s.cancelled }

/-- `stop`, up to the wait for the cancelled worker. -/
def stop (drain : Bool) : Writer × List Entry :=
  match s.task with
  | none => (s, [])
  | some worker =>
    let s := { s with task := none }
    if drain then
      let next := { s with calls := s.calls + 1 }
      if s.unfinished = 0 then (next.cancel worker, [.called s.calls, .joined s.calls])
      else ({ next with joining := s.joining ++ [⟨s.calls, some worker⟩] }, [.called s.calls])
    else (s.cancel worker, [])

/-- `write, args = await self._queue.get()`. -/
def work (worker : Nat) : Writer × List Entry :=
  if worker ∈ s.waiting then
    match s.queue with
    | [] => (s, [])
    | write :: queue =>
      ({ s with
          queue := queue, waiting := s.waiting.erase worker,
          writing := (worker, write) :: s.writing },
        [.started worker write])
  else (s, [])

def interrupt (worker : Nat) : Writer :=
  if worker ∈ s.waiting ∧ worker ∈ s.cancelled then
    { s with waiting := s.waiting.erase worker }
  else s

/-- `task_done`: the last one wakes whoever waits for the queue. -/
def taskDone : Writer :=
  let s := { s with unfinished := s.unfinished - 1 }
  if s.unfinished = 0 then { s with joining := [], released := s.released ++ s.joining } else s

/-- The end of a write: only a cancelled one ends the worker. -/
def ended (worker : Nat) (outcome : Outcome) : Writer × List Entry :=
  match s.writing.find? fun entry => entry.1 == worker with
  | none => (s, [])
  | some entry =>
    let s := { s with writing := s.writing.erase entry }
    let s := match outcome with
      | .success => { s with waiting := worker :: s.waiting }
      | .exception => { s with waiting := worker :: s.waiting, failed := s.failed + 1 }
      | .cancelled => s
    (s.taskDone, [.ended entry.2 outcome, .marked entry.2])

/-- The rest of a `flush` or of a `stop` whose `join` is over. -/
def leave (join : Join) : Writer :=
  match join.worker with
  | none => s
  | some worker => s.cancel worker

def resume (call : Nat) : Writer × List Entry :=
  match s.released.find? fun join => join.id == call with
  | none => (s, [])
  | some join => ({ s with released := s.released.erase join }.leave join, [.joined call])

/-- `TimeoutError` in `stop`; a `flush` has no timeout. -/
def timeout (call : Nat) : Writer :=
  match s.joining.find? fun join => join.id == call && join.worker.isSome with
  | none => s
  | some join => { s with joining := s.joining.erase join }.leave join

end Writer

/-- The writer as a machine. -/
def backgroundWriter (maxsize : Nat) : Machine Writer Event Entry where
  step s
    | .submit => s.submit maxsize
    | .start => (s.start, [])
    | .flush => s.flush
    | .stop drain => s.stop drain
    | .work worker => s.work worker
    | .interrupt worker => (s.interrupt worker, [])
    | .ended worker outcome => s.ended worker outcome
    | .resume call => s.resume call
    | .timeout call => (s.timeout call, [])

/-! ### What is to be accounted for -/

@[simp] def Entry.acceptedWrite : Entry → Option Nat
  | .accepted write => some write
  | _ => none

@[simp] def Entry.startedWrite : Entry → Option Nat
  | .started _ write => some write
  | _ => none

@[simp] def Entry.endedWrite : Entry → Option Nat
  | .ended write _ => some write
  | _ => none

@[simp] def Entry.markedWrite : Entry → Option Nat
  | .marked write => some write
  | _ => none

def acceptedOf (log : List Entry) : List Nat := log.filterMap Entry.acceptedWrite

def startedOf (log : List Entry) : List Nat := log.filterMap Entry.startedWrite

def endedOf (log : List Entry) : List Nat := log.filterMap Entry.endedWrite

def markedOf (log : List Entry) : List Nat := log.filterMap Entry.markedWrite

/-- The number of writes with an outcome. -/
def endedWith (outcome : Outcome) (log : List Entry) : Nat :=
  log.countP fun entry =>
    match entry with
    | .ended _ outcome' => outcome' == outcome
    | _ => false

/-- Every write accepted before a call has ended. -/
def Settled (log : List Entry) (call : Nat) : Prop :=
  ∀ before after, log = before ++ .called call :: after →
    ∀ write ∈ acceptedOf before, write ∈ endedOf log

/-- The accounts of a writer and of what has been seen of it. -/
structure Accounted (s : Writer) (log : List Entry) : Prop where
  -- writes start in the order in which they were accepted, each at most once
  order : startedOf log <+: acceptedOf log
  once : (startedOf log).Nodup
  -- and never two at the same time
  alone : s.writing.length ≤ 1
  balance : (acceptedOf log).length =
    endedWith .success log + endedWith .exception log + endedWith .cancelled log +
      s.writing.length + s.queue.length
  -- what was taken from the queue is marked once, as soon as it has ended
  marked : ∀ write ∈ startedOf log,
    (markedOf log).count write = if write ∈ s.writing.map Prod.snd then 0 else 1
  joins : ∀ before after call, log = before ++ .joined call :: after → Settled before call

/-- A worker is started only when every earlier one has ended, and `flush` without a task
    is called only when nothing is unfinished. -/
def Orderly (s : Writer) : Event → Prop
  | .submit => s.task = none → s.waiting = [] ∧ s.writing = []
  | .start => s.running = false → s.waiting = [] ∧ s.writing = []
  | .flush => s.task = none → s.unfinished = 0
  | _ => True

instance (s : Writer) : (e : Event) → Decidable (Orderly s e)
  | .submit => inferInstanceAs (Decidable (_ → _))
  | .start => inferInstanceAs (Decidable (_ → _))
  | .flush => inferInstanceAs (Decidable (_ → _))
  | .stop _ | .work _ | .interrupt _ | .ended _ _ | .resume _ | .timeout _ =>
    inferInstanceAs (Decidable True)

/-! ### Logs -/

section Logs

variable {log more : List Entry} {entry : Entry} {call : Nat}

@[simp] theorem acceptedOf_concat (log : List Entry) (entry : Entry) :
    acceptedOf (log ++ [entry]) = acceptedOf log ++ entry.acceptedWrite.toList := by
  cases entry <;> exact List.filterMap_append

@[simp] theorem startedOf_concat (log : List Entry) (entry : Entry) :
    startedOf (log ++ [entry]) = startedOf log ++ entry.startedWrite.toList := by
  cases entry <;> exact List.filterMap_append

@[simp] theorem endedOf_concat (log : List Entry) (entry : Entry) :
    endedOf (log ++ [entry]) = endedOf log ++ entry.endedWrite.toList := by
  cases entry <;> exact List.filterMap_append

@[simp] theorem markedOf_concat (log : List Entry) (entry : Entry) :
    markedOf (log ++ [entry]) = markedOf log ++ entry.markedWrite.toList := by
  cases entry <;> exact List.filterMap_append

/-- The outcomes count the writes that have ended. -/
theorem length_endedOf (log : List Entry) :
    (endedOf log).length =
      endedWith .success log + endedWith .exception log + endedWith .cancelled log := by
  induction log with
  | nil => rfl
  | cons entry log ih =>
    simp only [endedOf, endedWith] at ih
    cases entry with
    | ended write outcome =>
      simp only [endedOf, endedWith, List.filterMap_cons, Entry.endedWrite, List.length_cons, ih,
        List.countP_cons]
      cases outcome <;> simp <;> omega
    | _ =>
      simp only [endedOf, endedWith, List.filterMap_cons, Entry.endedWrite, ih, List.countP_cons,
        Bool.false_eq_true, if_false, Nat.add_zero]

theorem settled_concat (h : Settled log call) (hentry : entry ≠ .called call) :
    Settled (log ++ [entry]) call := by
  intro before after hcut write hwrite
  rcases Machine.cut_concat hcut with ⟨-, hcalled, -⟩ | ⟨rest, -, hlog⟩
  · exact absurd hcalled.symm hentry
  · rw [endedOf_concat]
    exact List.mem_append_left _ (h before rest hlog write hwrite)

/-- Where everything accepted has ended, every call is settled. -/
theorem settled_of_ended (h : ∀ write ∈ acceptedOf log, write ∈ endedOf log) (call : Nat) :
    Settled log call := by
  rintro before after rfl write hwrite
  apply h
  rw [acceptedOf, List.filterMap_append]
  exact List.mem_append_left _ hwrite

/-- A call returns from its `join` only when it is settled. -/
def Joins (log : List Entry) : Prop :=
  ∀ before after call, log = before ++ .joined call :: after → Settled before call

theorem joins_concat (h : Joins log) (hentry : ∀ call, entry = .joined call → Settled log call) :
    Joins (log ++ [entry]) := by
  intro before after call hcut
  rcases Machine.cut_concat hcut with ⟨rfl, hjoined, -⟩ | ⟨rest, -, hlog⟩
  · exact hentry call hjoined.symm
  · exact h before rest call hlog

end Logs

/-! ### What every run keeps -/

/-- The books of the writer against the log. -/
structure Kept (s : Writer) (log : List Entry) : Prop where
  ids : acceptedOf log = List.range s.accepted
  order : startedOf log ++ s.queue = acceptedOf log
  ended : (startedOf log).Perm (endedOf log ++ s.writing.map Prod.snd)
  marks : markedOf log = endedOf log
  unfinished : s.unfinished = s.queue.length + s.writing.length
  calls : ∀ call, .called call ∈ log → call < s.calls
  joining : ∀ join ∈ s.joining, join.id < s.calls
  released : ∀ join ∈ s.released, join.id < s.calls ∧ Settled log join.id
  joins : Joins log

namespace Kept

variable {s s' : Writer} {log : List Entry} {maxsize : Nat}

theorem initial : Kept {} [] where
  ids := rfl
  order := rfl
  ended := List.Perm.refl _
  marks := rfl
  unfinished := rfl
  calls call h := absurd h List.not_mem_nil
  joining join h := absurd h List.not_mem_nil
  released join h := absurd h List.not_mem_nil
  joins before after call h := by
    cases before <;> cases h

/-- The tasks and their cancellations are in no book. -/
theorem start (h : Kept s log) : Kept s.start log := by
  unfold Writer.start
  split
  · exact h
  · exact ⟨h.ids, h.order, h.ended, h.marks, h.unfinished, h.calls, h.joining, h.released, h.joins⟩

theorem cancel (h : Kept s log) (worker : Nat) : Kept (s.cancel worker) log :=
  ⟨h.ids, h.order, h.ended, h.marks, h.unfinished, h.calls, h.joining, h.released, h.joins⟩

theorem leave (h : Kept s log) (join : Join) : Kept (s.leave join) log := by
  unfold Writer.leave
  split
  · exact h
  · exact h.cancel _

theorem interrupt (h : Kept s log) (worker : Nat) : Kept (s.interrupt worker) log := by
  unfold Writer.interrupt
  split
  · exact ⟨h.ids, h.order, h.ended, h.marks, h.unfinished, h.calls, h.joining, h.released, h.joins⟩
  · exact h

theorem dropped (h : Kept s log) :
    Kept { s with dropped := s.dropped + 1 } (log ++ [.dropped]) where
  ids := by simpa using h.ids
  order := by simpa using h.order
  ended := by simpa using h.ended
  marks := by simpa using h.marks
  unfinished := h.unfinished
  calls := by simpa using h.calls
  joining := h.joining
  released join hjoin :=
    ⟨(h.released join hjoin).1, settled_concat (h.released join hjoin).2 (by simp)⟩
  joins := joins_concat h.joins (by simp)

theorem accept (h : Kept s log) :
    Kept { s with
      queue := s.queue ++ [s.accepted], unfinished := s.unfinished + 1, accepted := s.accepted + 1 }
      (log ++ [.accepted s.accepted]) where
  ids := by simp [h.ids, List.range_succ]
  order := by simp [← h.order]
  ended := by simpa using h.ended
  marks := by simpa using h.marks
  unfinished := by
    have hsum := h.unfinished
    simp only [List.length_append, List.length_singleton]
    omega
  calls := by simpa using h.calls
  joining := h.joining
  released join hjoin :=
    ⟨(h.released join hjoin).1, settled_concat (h.released join hjoin).2 (by simp)⟩
  joins := joins_concat h.joins (by simp)

theorem submit (h : Kept s log) :
    Kept (s.submit maxsize).1 (log ++ (s.submit maxsize).2) := by
  have hstart : Kept (if s.task = none then s.start else s) log := by
    split
    · exact h.start
    · exact h
  generalize hs : (if s.task = none then s.start else s) = started at hstart
  rw [Writer.submit, hs]
  split
  · exact hstart.dropped
  · exact hstart.accept

/-- With nothing unfinished, everything accepted has ended. -/
theorem all_ended (h : Kept s log) (hunfinished : s.unfinished = 0) :
    ∀ write ∈ acceptedOf log, write ∈ endedOf log := by
  have hsum := h.unfinished
  have hqueue : s.queue = [] := List.eq_nil_of_length_eq_zero (by omega)
  have hwriting : s.writing = [] := List.eq_nil_of_length_eq_zero (by omega)
  have hstarted := h.order
  have hended := h.ended
  rw [hqueue, List.append_nil] at hstarted
  rw [hwriting, List.map_nil, List.append_nil, hstarted] at hended
  intro write hwrite
  exact hended.mem_iff.mp hwrite

/-- A call takes its number. -/
theorem called (h : Kept s log) :
    Kept { s with calls := s.calls + 1 } (log ++ [.called s.calls]) where
  ids := by simpa using h.ids
  order := by simpa using h.order
  ended := by simpa using h.ended
  marks := by simpa using h.marks
  unfinished := h.unfinished
  calls call hcall := by
    rcases List.mem_append.mp hcall with hold | hnew
    · exact Nat.lt_succ_of_lt (h.calls call hold)
    · rw [Entry.called.inj (List.mem_singleton.mp hnew)]
      exact Nat.lt_succ_self _
  joining join hjoin := Nat.lt_succ_of_lt (h.joining join hjoin)
  released join hjoin := by
    obtain ⟨hlt, hsettled⟩ := h.released join hjoin
    refine ⟨Nat.lt_succ_of_lt hlt, settled_concat hsettled ?_⟩
    intro hcalled
    have hsame := Entry.called.inj hcalled
    omega
  joins := joins_concat h.joins (by simp)

/-- A call that is settled leaves its `join`. -/
theorem joined (h : Kept s log) {call : Nat} (hsettled : Settled log call) :
    Kept s (log ++ [.joined call]) where
  ids := by simpa using h.ids
  order := by simpa using h.order
  ended := by simpa using h.ended
  marks := by simpa using h.marks
  unfinished := h.unfinished
  calls := by simpa using h.calls
  joining := h.joining
  released join hjoin :=
    ⟨(h.released join hjoin).1, settled_concat (h.released join hjoin).2 (by simp)⟩
  joins := joins_concat h.joins fun call' hcall' => Entry.joined.inj hcall' ▸ hsettled

/-- `flush`, where it is called with a task or with nothing unfinished. -/
theorem flush (h : Kept s log) (horderly : s.task = none → s.unfinished = 0) :
    Kept s.flush.1 (log ++ s.flush.2) := by
  unfold Writer.flush
  split
  · rename_i hdone
    have hunfinished : s.unfinished = 0 := hdone.elim horderly id
    rw [List.append_cons]
    refine h.called.joined ?_
    apply settled_of_ended
    simpa using h.all_ended hunfinished
  · have hcalled := h.called
    refine ⟨hcalled.ids, hcalled.order, hcalled.ended, hcalled.marks, hcalled.unfinished,
      hcalled.calls, ?_, hcalled.released, hcalled.joins⟩
    intro join hjoin
    rcases List.mem_append.mp hjoin with hold | hnew
    · exact hcalled.joining join hold
    · rw [List.mem_singleton.mp hnew]
      exact Nat.lt_succ_self _

theorem stop (h : Kept s log) (drain : Bool) :
    Kept (s.stop drain).1 (log ++ (s.stop drain).2) := by
  have hstopped : Kept { s with task := none } log :=
    ⟨h.ids, h.order, h.ended, h.marks, h.unfinished, h.calls, h.joining, h.released, h.joins⟩
  unfold Writer.stop
  split
  · rw [List.append_nil]
    exact h
  · rename_i worker _
    cases drain with
    | false =>
      simp only [Bool.false_eq_true, if_false, List.append_nil]
      exact hstopped.cancel worker
    | true =>
      simp only [if_true]
      have hcalled := hstopped.called
      by_cases hunfinished : s.unfinished = 0
      · rw [if_pos hunfinished, List.append_cons]
        refine (hcalled.joined ?_).cancel worker
        apply settled_of_ended
        simpa using h.all_ended hunfinished
      · rw [if_neg hunfinished]
        refine ⟨hcalled.ids, hcalled.order, hcalled.ended, hcalled.marks, hcalled.unfinished,
          hcalled.calls, ?_, hcalled.released, hcalled.joins⟩
        intro join hjoin
        rcases List.mem_append.mp hjoin with hold | hnew
        · exact hcalled.joining join hold
        · rw [List.mem_singleton.mp hnew]
          exact Nat.lt_succ_self _

theorem work (h : Kept s log) (worker : Nat) :
    Kept (s.work worker).1 (log ++ (s.work worker).2) := by
  unfold Writer.work
  split
  · split
    · rw [List.append_nil]
      exact h
    · rename_i write queue hqueue
      have hsum := h.unfinished
      rw [hqueue, List.length_cons] at hsum
      constructor
      · simpa using h.ids
      · simpa [hqueue] using h.order
      · have hended := h.ended.append_right [write]
        simp only [startedOf_concat, endedOf_concat, Entry.startedWrite, Entry.endedWrite,
          Option.toList_some, Option.toList_none, List.append_nil, List.map_cons]
        refine hended.trans ?_
        rw [List.append_assoc]
        exact (List.perm_append_singleton write _).append_left _
      · simpa using h.marks
      · simp only [List.length_cons]
        omega
      · simpa using h.calls
      · exact h.joining
      · intro join hjoin
        obtain ⟨hlt, hsettled⟩ := h.released join hjoin
        exact ⟨hlt, settled_concat hsettled (by simp)⟩
      · exact joins_concat h.joins (by simp)
  · rw [List.append_nil]
    exact h

/-- The last `task_done` settles the calls that wait. -/
theorem woken (h : Kept s log) (hunfinished : s.unfinished = 0) :
    Kept { s with joining := [], released := s.released ++ s.joining } log := by
  refine ⟨h.ids, h.order, h.ended, h.marks, h.unfinished, h.calls, ?_, ?_, h.joins⟩
  · intro join hjoin
    cases hjoin
  · intro join hjoin
    rcases List.mem_append.mp hjoin with hold | hnew
    · exact h.released join hold
    · exact ⟨h.joining join hnew, settled_of_ended (h.all_ended hunfinished) join.id⟩

/-- A write that ends is marked. -/
theorem done (h : Kept s log) {entry : Nat × Nat} (hentry : entry ∈ s.writing)
    (outcome : Outcome) :
    Kept { s with writing := s.writing.erase entry, unfinished := s.unfinished - 1 }
      (log ++ [.ended entry.2 outcome, .marked entry.2]) := by
  have hlength := List.length_erase_add_one hentry
  have hsum := h.unfinished
  rw [List.append_cons]
  constructor
  · simpa [-List.append_assoc] using h.ids
  · simpa [-List.append_assoc] using h.order
  · have hwriting : (s.writing.map Prod.snd).Perm
        (entry.2 :: (s.writing.erase entry).map Prod.snd) :=
      (List.perm_cons_erase hentry).map Prod.snd
    have hended := h.ended.trans (hwriting.append_left (endedOf log))
    rw [List.append_cons] at hended
    simpa [-List.append_assoc] using hended
  · simpa [-List.append_assoc] using h.marks
  · dsimp only
    omega
  · simpa using h.calls
  · exact h.joining
  · intro join hjoin
    obtain ⟨hlt, hsettled⟩ := h.released join hjoin
    exact ⟨hlt, settled_concat (settled_concat hsettled (by simp)) (by simp)⟩
  · exact joins_concat (joins_concat h.joins (by simp)) (by simp)

theorem finish (h : Kept s log) (worker : Nat) (outcome : Outcome) :
    Kept (s.ended worker outcome).1 (log ++ (s.ended worker outcome).2) := by
  unfold Writer.ended
  split
  · rw [List.append_nil]
    exact h
  · rename_i entry hfind
    have hdone := h.done (List.mem_of_find?_eq_some hfind) outcome
    have hbooks : ∀ waiting failed, Kept { s with
        writing := s.writing.erase entry, unfinished := s.unfinished - 1,
        waiting := waiting, failed := failed }
        (log ++ [.ended entry.2 outcome, .marked entry.2]) := by
      intro waiting failed
      exact ⟨hdone.ids, hdone.order, hdone.ended, hdone.marks, hdone.unfinished, hdone.calls,
        hdone.joining, hdone.released, hdone.joins⟩
    unfold Writer.taskDone
    cases outcome with
    | success =>
      dsimp only
      split
      · rename_i hunfinished
        exact (hbooks (worker :: s.waiting) s.failed).woken hunfinished
      · exact hbooks (worker :: s.waiting) s.failed
    | exception =>
      dsimp only
      split
      · rename_i hunfinished
        exact (hbooks (worker :: s.waiting) (s.failed + 1)).woken hunfinished
      · exact hbooks (worker :: s.waiting) (s.failed + 1)
    | cancelled =>
      dsimp only
      split
      · rename_i hunfinished
        exact (hbooks s.waiting s.failed).woken hunfinished
      · exact hbooks s.waiting s.failed

theorem resume (h : Kept s log) (call : Nat) :
    Kept (s.resume call).1 (log ++ (s.resume call).2) := by
  unfold Writer.resume
  split
  · rw [List.append_nil]
    exact h
  · rename_i join hfind
    obtain ⟨-, hsettled⟩ := h.released join (List.mem_of_find?_eq_some hfind)
    have hid : join.id = call := by simpa using List.find?_some hfind
    have hjoined := h.joined (hid ▸ hsettled)
    refine Kept.leave ?_ join
    refine ⟨hjoined.ids, hjoined.order, hjoined.ended, hjoined.marks, hjoined.unfinished,
      hjoined.calls, hjoined.joining, ?_, hjoined.joins⟩
    intro join' hjoin'
    exact hjoined.released join' (List.mem_of_mem_erase hjoin')

theorem timeout (h : Kept s log) (call : Nat) : Kept (s.timeout call) log := by
  unfold Writer.timeout
  split
  · exact h
  · rename_i join _
    refine Kept.leave ?_ join
    refine ⟨h.ids, h.order, h.ended, h.marks, h.unfinished, h.calls, ?_, h.released, h.joins⟩
    intro join' hjoin'
    exact h.joining join' (List.mem_of_mem_erase hjoin')

/-- Every step keeps the books; a `flush` without a task needs nothing unfinished. -/
theorem step (h : Kept s log) (e : Event) (horderly : Orderly s e) :
    Kept ((backgroundWriter maxsize).step s e).1
      (log ++ ((backgroundWriter maxsize).step s e).2) := by
  cases e with
  | submit => exact h.submit
  | start => exact (List.append_nil log).symm ▸ h.start
  | flush => exact h.flush horderly
  | stop drain => exact h.stop drain
  | work worker => exact h.work worker
  | interrupt worker => exact (List.append_nil log).symm ▸ h.interrupt worker
  | ended worker outcome => exact h.finish worker outcome
  | resume call => exact h.resume call
  | timeout call => exact (List.append_nil log).symm ▸ h.timeout call

end Kept

/-! ### One worker at a time -/

/-- At most one worker has not ended. -/
def Lone (s : Writer) : Prop := s.waiting.length + s.writing.length ≤ 1

namespace Lone

variable {s : Writer} {maxsize : Nat}

theorem start (h : Lone s) (horderly : s.running = false → s.waiting = [] ∧ s.writing = []) :
    Lone s.start := by
  unfold Writer.start
  split
  · exact h
  · rename_i hrunning
    obtain ⟨hwaiting, hwriting⟩ := horderly (Bool.not_eq_true _ ▸ hrunning)
    simp [Lone, hwaiting, hwriting]

theorem interrupt (h : Lone s) (worker : Nat) : Lone (s.interrupt worker) := by
  unfold Writer.interrupt
  split
  · rename_i hmem
    have hlength := List.length_erase_add_one hmem.1
    simp only [Lone] at h ⊢
    omega
  · exact h

/-- A worker that takes a write goes on to write it. -/
theorem work (h : Lone s) (worker : Nat) : Lone (s.work worker).1 := by
  unfold Writer.work
  split
  · rename_i hmem
    split
    · exact h
    · have hlength := List.length_erase_add_one hmem
      simp only [Lone, List.length_cons] at h ⊢
      omega
  · exact h

theorem taskDone (h : Lone s) : Lone s.taskDone := by
  unfold Writer.taskDone
  dsimp only
  split <;> exact h

/-- A worker whose write ends waits again or ends. -/
theorem ended (h : Lone s) (worker : Nat) (outcome : Outcome) :
    Lone (s.ended worker outcome).1 := by
  unfold Writer.ended
  split
  · exact h
  · rename_i entry hfind
    have hlength := List.length_erase_add_one (List.mem_of_find?_eq_some hfind)
    refine taskDone ?_
    cases outcome with
    | success =>
      simp only [Lone, List.length_cons] at h ⊢
      omega
    | exception =>
      simp only [Lone, List.length_cons] at h ⊢
      omega
    | cancelled =>
      simp only [Lone] at h ⊢
      omega

theorem leave (h : Lone s) (join : Join) : Lone (s.leave join) := by
  unfold Writer.leave
  split <;> exact h

theorem step (h : Lone s) (e : Event) (horderly : Orderly s e) :
    Lone ((backgroundWriter maxsize).step s e).1 := by
  cases e with
  | submit =>
    have hstart : Lone (if s.task = none then s.start else s) := by
      split
      · rename_i htask
        exact h.start fun _ => horderly htask
      · exact h
    generalize hs : (if s.task = none then s.start else s) = started at hstart
    simp only [backgroundWriter, Writer.submit, hs]
    split <;> exact hstart
  | start => exact h.start horderly
  | flush =>
    simp only [backgroundWriter, Writer.flush]
    split <;> exact h
  | stop drain =>
    simp only [backgroundWriter, Writer.stop]
    repeat' split
    all_goals exact h
  | work worker => exact h.work worker
  | interrupt worker => exact h.interrupt worker
  | ended worker outcome => exact h.ended worker outcome
  | resume call =>
    simp only [backgroundWriter, Writer.resume]
    split
    · exact h
    · refine leave ?_ _
      exact h
  | timeout call =>
    simp only [backgroundWriter, Writer.timeout]
    split
    · exact h
    · refine leave ?_ _
      exact h

end Lone

/-! ### The accounts -/

variable {s : Writer} {log : List Entry}

theorem Kept.accounts (h : Kept s log) (hlone : Lone s) : Accounted s log := by
  have hstarted : (startedOf log).Nodup := by
    have hids : (startedOf log ++ s.queue).Nodup := by
      rw [h.order, h.ids]
      exact List.nodup_range
    exact (List.nodup_append.mp hids).1
  constructor
  · exact ⟨s.queue, h.order⟩
  · exact hstarted
  · exact Nat.le_trans (Nat.le_add_left _ _) hlone
  · have hended := h.ended.length_eq
    rw [List.length_append, List.length_map] at hended
    rw [← length_endedOf, ← h.order, List.length_append, hended]
  · intro write hwrite
    have hcount := h.ended.count_eq write
    rw [List.count_eq_one_of_mem hstarted hwrite, List.count_append] at hcount
    rw [h.marks]
    split
    · rename_i hwriting
      have hpos := List.count_pos_iff.mpr hwriting
      omega
    · rename_i hwriting
      have hzero := List.count_eq_zero.mpr hwriting
      omega
  · exact h.joins

/-- What has been seen in a run. -/
def logOf (maxsize : Nat) (es : List Event) : List Entry :=
  ((backgroundWriter maxsize).trace {} es).flatMap Prod.snd

/-- Along orderly steps the accounts of the writer are in order. -/
theorem accounted (maxsize : Nat) {es : List Event}
    (horderly : (backgroundWriter maxsize).Along Orderly {} es) :
    Accounted ((backgroundWriter maxsize).run {} es) (logOf maxsize es) := by
  have hkept := (backgroundWriter maxsize).history_invariant
    (fun history s => Kept s (history.flatMap Prod.snd) ∧ Lone s) ?_
    ⟨Kept.initial, Nat.zero_le 1⟩ horderly
  · exact hkept.1.accounts hkept.2
  · intro history s e horderly h
    rw [List.flatMap_append, List.flatMap_singleton]
    exact ⟨h.1.step e horderly, h.2.step e horderly⟩

/-- A write, the writer stopped, and another write. -/
def drained : List Event :=
  [.start, .submit, .work 0, .ended 0 .success, .stop true, .interrupt 0, .submit, .work 1]

theorem accounted_drained :
    Accounted ((backgroundWriter 256).run {} drained) (logOf 256 drained) :=
  accounted 256 (by decide)

/-- A second write is submitted while the writer drains the first. -/
def overlapping : List Event := [.start, .submit, .work 0, .stop true, .submit, .work 1]

/-- Two writes run at the same time. -/
theorem not_accounted_overlapping :
    ¬ Accounted ((backgroundWriter 256).run {} overlapping) (logOf 256 overlapping) := by
  intro h
  have halone := h.alone
  revert halone
  decide

end PatrolBot.DatabaseWriter
