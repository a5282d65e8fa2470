import PatrolBot.ServerForwarding

/-!
# A start that is revoked while it is admitted

The admission of a `teleop_start` crosses the admission lock, the audit and
`prepare`.  Whatever ends manual input meanwhile counts the robot's revision
up; the request compares the revision it was received at when it prepares the
session and again when it hands over the frame, so a revoked start is never
sent.  It is rejected then, unless the database raises while that is recorded.
-/

namespace PatrolBot.Server

open Coroutine Coroutine.Discipline

theorem Lasting.moves {m : Mode} {F : Dashboard → Prop} (hF : Lasting m F) {a b : Dashboard}
    (h : (discipline m).Moves a b) (ha : F a) : F b := by
  induction h with
  | refl => exact ha
  | tail _ hstep ih =>
    obtain ⟨hinv, id, job, hact⟩ := hstep
    exact hF _ _ _ _ _ hinv hact ih

/-! ### The frames and the tasks that handed them over -/

/-- The request of a frame. -/
def FrameBody.payload : FrameBody → Option CommandRequest
  | .request payload => some payload
  | _ => none

/-- The request frames on the wire are the forwarded ones, in their order. -/
def WireForwarded (s : Dashboard) : Prop :=
  s.wire.filterMap (fun f => f.1.body.payload) =
    s.forwarded.map fun p => { p.2 with operatorAuthorized := true }

theorem lasting_wireForwarded {m : Mode} : Lasting m WireForwarded := by
  intro pw t job a b _ hact h
  cases hact with
  | cancel robotId websocket commandId =>
    simpa [WireForwarded, Dashboard.write, FrameBody.payload] using h
  | drive o frame _ => simpa [WireForwarded, Dashboard.write, FrameBody.payload] using h
  | request r websocket _ _ _ _ =>
    simp only [WireForwarded, Dashboard.forward, Dashboard.write, List.filterMap_append,
      List.map_append] at h ⊢
    rw [h]
    rfl
  | _ => exact h

/-- **The wire.**  A request frame on the wire has been forwarded by a task. -/
theorem wireForwarded_run (audit : String → Option AuditRow) (es : List ServerEvent) :
    WireForwarded (runServer audit es).shared :=
  lasting_wireForwarded.moves
    (guards_any.sound.moves (orderly_started _ audit) (server.loop.along_true _ es)) rfl

/-! ### Requests that come in -/

/-- A request and when it comes in. -/
structure Arrival where
  audit : String → Option AuditRow
  before : List ServerEvent
  client : BrowserClient
  robotId : String
  payload : CommandRequest
  answers : Nat → Answer

namespace Arrival

variable (x : Arrival)

/-- The world in which the request comes in. -/
def world : ServerWorld := runServer x.audit x.before

/-- The number of its task. -/
def task : Nat := x.world.started

/-- The robot's revision when it comes in. -/
def revision : Nat := x.world.shared.revisions x.robotId

def job : Job := .request x.client x.robotId x.payload

/-- The world after the request came in and `es` followed. -/
def after (es : List ServerEvent) : ServerWorld :=
  runServer x.audit (x.before ++ .start x.job x.answers :: es)

/-- The handling of the request has ended. -/
def Ended (w : ServerWorld) : Prop := ∀ task ∈ w.tasks, task.id ≠ x.task

instance (w : ServerWorld) : Decidable (x.Ended w) :=
  inferInstanceAs (Decidable (∀ task ∈ w.tasks, task.id ≠ x.task))

theorem after_eq (es : List ServerEvent) :
    x.after es = server.loop.run x.world (.start x.job x.answers :: es) :=
  runServer_append _ _ _

theorem after_append (es es' : List ServerEvent) :
    x.after (es ++ es') = server.loop.run (x.after es) es' := by
  rw [after_eq, after_eq, ← List.cons_append, Machine.run_append]

/-- The event is an exception of the database in the handling of the request. -/
def Fails (w : ServerWorld) : ServerEvent → Prop
  | .resume id (some .exception) _ =>
    id = x.task ∧ ∃ task ∈ w.tasks, task.id = id ∧ task.op.isDatabase = true
  | _ => False

instance (w : ServerWorld) (e : ServerEvent) : Decidable (x.Fails w e) :=
  match e with
  | .start _ _ => .isFalse id
  | .resume _ none _ => .isFalse id
  | .resume _ (some .cancelled) _ => .isFalse id
  | .resume id (some .exception) _ => inferInstanceAs (Decidable
      (id = x.task ∧ ∃ task ∈ w.tasks, task.id = id ∧ task.op.isDatabase = true))

/-- The runs in which the request is received where it is, and, if `steady`, the
    database does not fail it. -/
def mode (steady : Prop) : Mode :=
  { Mode.any with
    sturdy := fun t => steady ∧ t = x.task
    received := fun t robotId revision =>
      t = x.task ∧ robotId = x.robotId ∧ revision = x.revision
    sturdy_of_calm := False.elim }

def Receives (steady : Prop) (w : ServerWorld) (e : ServerEvent) : Prop :=
  (steady → ¬x.Fails w e) ∧ ∀ job answers, e = .start job answers →
    admits w.shared job = true → w.started = x.task →
      job = x.job ∧ w.shared.revisions x.robotId = x.revision

variable {x : Arrival} {steady : Prop}

theorem guards_mode : Guards (x.mode steady) (x.Receives steady) where
  starts w job answers hguard hadmits := by
    refine ⟨⟨hadmits, False.elim, False.elim, fun _ _ _ => False.elim, ?_⟩, fun _ _ => id⟩
    cases job with
    | request client robotId payload =>
      rintro - robotId' revision ⟨ht, rfl, rfl⟩
      obtain ⟨hjob, hrevision⟩ := hguard.2 _ _ rfl hadmits ht
      injection hjob with _ hrobot _
      exact ⟨hrobot.symm, hrobot ▸ hrevision.symm⟩
    | _ => trivial
  resumes w task reply answers hguard hmem hreplies := by
    refine ⟨⟨hreplies, False.elim, False.elim, ?_, False.elim, False.elim, False.elim, trivial⟩,
      fun _ _ => id⟩
    rintro ⟨hsteady, ht⟩ hdatabase rfl
    exact hguard.1 hsteady ⟨ht, task, hmem, rfl, hdatabase⟩

/-- The database cannot fail a request that has not come in. -/
theorem not_fails_before {w : ServerWorld} (hnumbered : System.Numbered w)
    (hle : w.started ≤ x.task) (e : ServerEvent) : ¬x.Fails w e := by
  intro hfails
  cases e with
  | start => exact hfails
  | resume id reply answers =>
    rcases reply with _ | _ | _
    · exact hfails
    · obtain ⟨rfl, task, htask, hid, -⟩ := hfails
      have hlt := hnumbered task htask
      omega
    · exact hfails

/-- Before the request comes in nothing is asked of the run. -/
theorem receives_before (x : Arrival) (steady : Prop) :
    server.loop.Along (x.Receives steady) (System.initial (started x.audit)) x.before := by
  refine server.along_before x.task (fun w e hnumbered hle hstarts _ => ⟨?_, ?_⟩)
    (by simp [System.Numbered, System.initial]) le_rfl (server.loop.along_true _ _)
  · exact fun _ => not_fails_before hnumbered hle e
  · intro job answers hevent hadmits hstarted
    exact absurd hstarted (Nat.ne_of_lt (hstarts job answers hevent hadmits))

/-- From then on nothing but what the database does to it. -/
theorem receives_start (x : Arrival) (steady : Prop) {es : List ServerEvent}
    (along : server.loop.Along (fun w e => steady → ¬x.Fails w e) x.world
      (.start x.job x.answers :: es)) :
    server.loop.Along (x.Receives steady) x.world (.start x.job x.answers :: es) := by
  refine ⟨⟨along.1, ?_⟩, ?_⟩
  · rintro job answers hevent - -
    injection hevent with hjob _
    exact ⟨hjob.symm, rfl⟩
  · refine server.along_after x.task (fun _ _ hlt hspares => ⟨hspares, ?_⟩)
      (Nat.lt_succ_self _) along.2
    intro _ _ _ _ hstarted
    exact absurd hstarted (Nat.ne_of_gt hlt)

/-- The task is new. -/
theorem ended_world (x : Arrival) : x.Ended x.world := fun task htask =>
  Nat.ne_of_lt ((orderly_run x.audit x.before).carried task htask).1

theorem orderly_world (x : Arrival) (steady : Prop) :
    Orderly (discipline (x.mode steady)) (Idle (x.mode steady)) x.world :=
  guards_mode.orderly (x.receives_before steady)

/-! ### Revoked starts -/

/-- The robot's manual input was ended since the request came in, and its frame
    has not been handed over. -/
def Revoked (x : Arrival) (s : Dashboard) : Prop :=
  x.revision < s.revisions x.robotId ∧ (x.task, x.payload) ∉ s.forwarded

/-- A start is handed over only at the revision it was received at. -/
theorem lasting_revoked (hstart : x.payload.command = .teleopStart) :
    Lasting (x.mode steady) x.Revoked := by
  rintro pw t job a b _ hact ⟨hrevised, hunsent⟩
  cases hact with
  | aside _ _ _ _ _ _ revisions _ _ hrevisions _ =>
    exact ⟨Nat.lt_of_lt_of_le hrevised (hrevisions x.robotId), hunsent⟩
  | request r websocket _ _ _ hreceived =>
    refine ⟨hrevised, fun hmem => ?_⟩
    rcases List.mem_append.mp hmem with hmem | hmem
    · exact hunsent hmem
    · obtain ⟨ht, hpayload⟩ := Prod.mk.inj (List.mem_singleton.mp hmem)
      have hrevision := hreceived (hpayload ▸ hstart) x.robotId x.revision ⟨ht.symm, rfl, rfl⟩
      exact absurd hrevised (by simp [hrevision])
  | _ => exact ⟨hrevised, hunsent⟩

/-- **A revoked start is never handed over**, whatever the database does. -/
theorem revoked_run (hstart : x.payload.command = .teleopStart) (during after : List ServerEvent)
    (h : x.Revoked (x.after during).shared) : x.Revoked (x.after (during ++ after)).shared := by
  have along := x.receives_start False
    (server.loop.along_mono (fun _ _ _ => False.elim)
      (server.loop.along_true x.world (.start x.job x.answers :: (during ++ after))))
  rw [← List.cons_append, Machine.along_append] at along
  have hduring := guards_mode.sound.run (x.orderly_world False) along.1
  have hmoves := guards_mode.sound.moves hduring along.2
  rw [← after_eq] at hmoves
  rw [after_append]
  exact (lasting_revoked hstart).moves hmoves h

/-- What the broker knows of the request. -/
def incoming (x : Arrival) : Incoming := ⟨x.client, x.robotId, x.payload, x.revision⟩

/-- **A start is handled**, when the database does not fail it: at its end it is
    rejected or its frame has been handed over. -/
theorem handled_run {es : List ServerEvent}
    (along : server.loop.Along (fun w e => ¬x.Fails w e) x.world (.start x.job x.answers :: es))
    (hended : x.Ended (x.after es)) :
    StartHandled x.task x.incoming x.world.shared.published.length (x.after es).shared := by
  have along' := x.receives_start True
    (server.loop.along_mono (fun _ _ h _ => h) along)
  have hsafe : (discipline (x.mode True)).Starts x.task x.job x.world.shared →
      Checks (x.mode True) (.full x.task) x.task x.job (body x.task x.job) x.world.shared
        fun _ s => StartHandled x.task x.incoming x.world.shared.published.length s := by
    intro hstarts
    exact (safe_request (x.orderly_world True).inv False.elim hstarts).post
      (x.orderly_world True).inv fun _ _ _ h => h.2 ⟨trivial, rfl⟩
  have hpursues := guards_mode.sound.pursues (lasting_startHandled _ _ _).stable
    (x.orderly_world True) rfl hsafe along'
  rw [after_eq] at hended ⊢
  exact hpursues.ended hended

/-- What becomes of a canceled start: its frame is never handed over, and when
    its handling has ended it has been rejected. -/
structure Canceled (x : Arrival) (w : ServerWorld) : Prop where
  unsent : (x.task, x.payload) ∉ w.shared.forwarded
  rejected : x.Ended w → ∃ reason,
    Publication.reply x.robotId (.ack x.payload.commandId false reason) ∈
      w.shared.published.drop x.world.shared.published.length

/-- A start is canceled when it is revoked before its frame is handed over. -/
def CancelsStart (x : Arrival) (es : List ServerEvent) : Prop :=
  ∀ during after, es = during ++ after → x.Revoked (x.after during).shared →
    x.Canceled (x.after es)

/-- **Cancellation during admission.** -/
theorem cancelsStart_run (hstart : x.payload.command = .teleopStart) {es : List ServerEvent}
    (along : server.loop.Along (fun w e => ¬x.Fails w e) x.world
      (.start x.job x.answers :: es)) : x.CancelsStart es := by
  rintro during after rfl hrevoked
  have hunsent := (revoked_run hstart during after hrevoked).2
  refine ⟨hunsent, fun hended => ?_⟩
  rcases handled_run along hended hstart with hrejected | hsent
  · exact hrejected
  · exact absurd hsent hunsent

end Arrival

/-! ### A database that fails -/

/-- The answers of a database that loses the statement. -/
def losing : Nat → Answer := fun _ => { calmly 0 with statement := .lost }

/-- A start that comes in when the robot is ready to be driven. -/
def startArrival : Arrival where
  audit _ := none
  before := [.start (.connected "robot" 7) calmly, .start (.message 1 (.baseState 1)) calmly]
  client := operator
  robotId := "robot"
  payload := { commandId := "start", command := .teleopStart }
  answers := calmly

/-- A stop comes in while the start is looked up, and goes through. -/
def stopDuringStart : List ServerEvent := requested 3 "halt" .stop

/-- The start goes on; the database loses its rejection and raises. -/
def failedStart : List ServerEvent :=
  stopDuringStart ++ [.resume 2 none losing, .resume 2 (some .exception) calmly]

/-- The publication rejects the command. -/
def Publication.rejects (commandId : String) : Publication → Bool
  | .reply _ (.ack commandId' false _) => commandId' == commandId
  | _ => false

theorem not_cancelsStart_of_failure : ¬startArrival.CancelsStart failedStart := by
  have hrevoked : startArrival.Revoked (startArrival.after stopDuringStart).shared := by
    constructor <;> decide +kernel
  have hended : startArrival.Ended (startArrival.after failedStart) := by decide +kernel
  have hsilent : ∀ p ∈ (startArrival.after failedStart).shared.published,
      p.rejects "start" = false := by decide +kernel
  intro h
  obtain ⟨reason, hmem⟩ := (h stopDuringStart _ rfl hrevoked).rejected hended
  have hrejects := hsilent _ (List.mem_of_mem_drop hmem)
  simp [Publication.rejects, startArrival] at hrejects

/-- The start is revoked and rejected. -/
theorem cancelsStart_of_stop : startArrival.CancelsStart (stopDuringStart ++ resumed 2 2) := by
  refine Arrival.cancelsStart_run rfl ?_
  refine ⟨?_, ?_, ?_, ?_, ?_, ?_, ?_, ?_, trivial⟩ <;> decide +kernel

end PatrolBot.Server
