import PatrolBot.ServerStart

/-!
# Stops go through

A `stop` or `teleop_stop` passes every check of admission, whatever state the
broker is in, as long as its id is new and its robot stays connected.  Manual
input is revoked first, which may request another `teleop_stop` under an id of
the server's own; that request is checked among tasks that may not use the id
of the stop at all, and the facts it keeps are then carried over.
-/

namespace PatrolBot.Server

open Coroutine Coroutine.Prog Coroutine.Discipline

/-! ### Reserved ids -/

section

variable {m : Mode} {pw : Power} {t : Nat} {job : Job} {s a b : Dashboard}

/-- The runs under consideration, with other reserved ids. -/
abbrev Mode.reserving (m : Mode) (reserved : String → Nat → Prop) : Mode :=
  { m with reserved := reserved }

variable {reserved : String → Nat → Prop}

theorem Inv.reserving (h : Inv m s) : Inv (m.reserving reserved) s :=
  ⟨h.active, h.timers, h.robots, h.sessions, h.owners, h.live, h.ended, h.exclusive, h.drives,
    h.seqs, h.undriven, h.unique, h.barrier, h.closeOuts, h.awaited, h.generations⟩

theorem Settles.reserving {commandId robotId : String}
    (h : Settles m job a commandId robotId) :
    Settles (m.reserving reserved) job a commandId robotId := by
  cases h with
  | rejected session reason job_eq robot => exact .rejected session reason job_eq robot
  | answered session outcome detail job_eq known robot =>
    exact .answered session outcome detail job_eq known robot
  | unsent client payload job_eq start same unsent =>
    exact .unsent client payload job_eq start same unsent

theorem Closable.reserving {e : Nat} (h : Closable m job a e) :
    Closable (m.reserving reserved) job a e := by
  cases h with
  | ordinary ordinary => exact .ordinary ordinary
  | settled settles manual => exact .settled settles.reserving manual
  | superseded supersedes unknown => exact .superseded supersedes unknown

theorem Waits.reserving {x y : ManualOwner} (h : Waits m job a x y) :
    Waits (m.reserving reserved) job a x y where
  stops := h.stops
  stopped i hi := (h.stopped i hi).imp id Settles.reserving
  start hy := (h.start hy).imp id Settles.reserving
  started := h.started

theorem Registers.reserving {r : Incoming} (h : Registers m pw t r a) :
    Registers (m.reserving reserved) pw t r a :=
  ⟨h.admission, h.exclusive, h.session, h.fresh, h.reset⟩

/-- Where the task may use no fewer ids it may do no less. -/
theorem Act.reserving (hspares : ∀ id, m.Spares id t → (m.reserving reserved).Spares id t)
    (h : Act m pw t job a b) : Act (m.reserving reserved) pw t job a b := by
  cases h with
  | aside _ _ _ _ _ _ _ _ hseen hrevisions hsockets =>
    exact .aside _ _ _ _ _ _ _ _ (fun id hid => (hseen id hid).imp_right (hspares id))
      hrevisions hsockets
  | presence r state hhosts h => exact .presence r state hhosts h
  | connection r state hhosts h => exact .connection r state hhosts h
  | opens r websocket generation hhosts hjob h => exact .opens r websocket generation hhosts hjob h
  | clear session hhosts => exact .clear session hhosts
  | track connecting leaving hhosts hconnecting hleaving =>
    exact .track connecting leaving hhosts hconnecting hleaving
  | announce p h hconnection => exact .announce p h hconnection
  | report p e hp h => exact .report p e hp h
  | closed e h => exact .closed e h
  | cancel robotId websocket commandId => exact .cancel robotId websocket commandId
  | admission r lock hlocks h => exact .admission r lock hlocks h
  | lookUp commandId => exact .lookUp commandId
  | lookedUp => exact .lookedUp
  | insert commandId row h => exact .insert commandId row (hspares _ h)
  | admitRow commandId row hspare h => exact .admitRow commandId row (hspares _ hspare) h
  | complete commandId outcome detail h => exact .complete commandId outcome detail h
  | mark entry timers h htimers => exact .mark entry timers h htimers
  | register r session hissues h => exact .register r session hissues h.reserving
  | request r websocket hissues hfresh hreset hreceived =>
    exact .request r websocket hissues hfresh hreset hreceived
  | pop e outcome hcloses hentry hactive hclosable hreleased =>
    exact .pop e outcome hcloses hentry hactive hclosable.reserving hreleased
  | manual owner h hwaits => exact .manual owner h fun o => (hwaits o).reserving
  | wait o frame h => exact .wait o frame h
  | prepare owner hholds hfree hidle hlock hstart hstops hfresh =>
    exact .prepare owner hholds hfree hidle hlock hstart hstops hfresh
  | disown r h hdone => exact .disown r h hdone
  | drive o frame h => exact .drive o frame h

/-- What the task does without the id that is its own is safe where it has it. -/
theorem Checks.reserving {id : String} (hown : ∀ id' n, m.reserved id' n ↔ id' = id ∧ n = t)
    {p : Handler Unit} {Q : Except Interrupt Unit → Dashboard → Prop}
    (h : Checks (m.reserving fun id' _ => id' = id) pw t job p s Q) : Checks m pw t job p s Q := by
  refine Safe.transfer (fun s hinv => Inv.reserving hinv) ?_ ?_ ?_ ?_ h
  · intro other hne job' a b hact
    apply Act.reserving _ hact
    intro id' hspares n hid
    exact absurd (hspares t ((hown id' t).mpr ⟨hid, rfl⟩)).symm hne
  · intro s op reply hr
    exact ⟨hr.replies, hr.distinct, hr.named, hr.sturdy, hr.calm, hr.serial, hr.prompt,
      hr.attended⟩
  · intro answer hanswer n hid
    exact hanswer t ((hown _ t).mpr ⟨hid, rfl⟩)
  · intro a b hact
    apply Act.reserving (m := m.reserving fun id' _ => id' = id) _ hact
    intro id' _ n hid
    exact ((hown id' n).mp hid).2

/-! ### What a stop counts on -/

/-- The id has not been used. -/
def Unused (id : String) (s : Dashboard) : Prop := id ∉ s.seen ∧ s.audit id = none

theorem Act.unused {id : String} (h : Act m pw t job a b) (hid : ¬m.Spares id t)
    (hunused : Unused id a) : Unused id b := by
  obtain ⟨hseen, haudit⟩ := hunused
  have hinsert : ∀ commandId row, m.Spares commandId t →
      (a.insertAudit commandId row).audit id = none := by
    intro commandId row hspares
    have hne : id ≠ commandId := fun heq => hid (heq ▸ hspares)
    unfold Dashboard.insertAudit
    split
    · exact haudit
    · simpa [hne] using haudit
  cases h with
  | aside _ _ _ _ _ seen _ _ hseen' _ _ =>
    exact ⟨fun hmem => (hseen' id hmem).elim hseen hid, haudit⟩
  | insert commandId row hspares => exact ⟨hseen, hinsert commandId row hspares⟩
  | admitRow commandId row hspares _ => exact ⟨hseen, hinsert commandId row hspares⟩
  | complete commandId outcome detail _ =>
    refine ⟨hseen, ?_⟩
    by_cases heq : id = commandId
    · subst heq
      simp [Dashboard.completeAudit, haudit]
    · simpa [Dashboard.completeAudit, heq] using haudit
  | _ => exact ⟨hseen, haudit⟩

/-- The robot's session is installed with that socket, and the robot is online. -/
def Attended (robotId : String) (session websocket : Nat) (s : Dashboard) : Prop :=
  s.robots robotId = some session ∧ (s.session session).websocket = some websocket ∧
    (s.robotState robotId).connection = .online

instance (robotId : String) (session websocket : Nat) (s : Dashboard) :
    Decidable (Attended robotId session websocket s) :=
  inferInstanceAs (Decidable (_ ∧ _ ∧ _))

theorem framed_attended {robotId : String} {session websocket : Nat} (hhosts : ¬pw.hosts)
    (hm : ∀ s, m.attended t s → Attended robotId session websocket s) :
    Framed m pw t job (Attended robotId session websocket) := by
  constructor
  · exact ⟨fun _ => True, fun _ _ _ _ _ _ _ _ => trivial, fun _ _ => trivial,
      fun s op reply _ _ hr => hm s hr.attended⟩
  · intro a b _ hact h
    cases hact with
    | presence r state hhosts' _ => exact absurd hhosts' hhosts
    | opens r websocket generation hhosts' _ _ => exact absurd hhosts' hhosts
    | clear session hhosts' => exact absurd hhosts' hhosts
    | _ => exact h

/-! ### The way of a stop through admission -/

/-- A `stop` or `teleop_stop` of a user who may command. -/
structure Stops (r : Incoming) (user : User) : Prop where
  command : r.payload.command = .stop ∨ r.payload.command = .teleopStop
  operator : r.client.user = some user
  allowed : user.canCommand = true

variable {r : Incoming} {user : User}

theorem Stops.endsInput (h : Stops r user) : r.payload.command.endsInput = true := by
  rcases h.command with hc | hc <;> simp [hc, Command.endsInput]

theorem Stops.emergency (h : Stops r user) : r.payload.command.emergency = true := by
  simp [Command.emergency, h.endsInput]

theorem Stops.allowedWhileLidarPending (h : Stops r user) :
    r.payload.command.allowedWhileLidarPending = true := by
  simp [Command.allowedWhileLidarPending, h.emergency]

theorem Stops.ne_start (h : Stops r user) : r.payload.command ≠ .teleopStart := by
  rcases h.command with hc | hc <;> simp [hc]

/-- No goal and no gate stands between a stop and its robot. -/
theorem Stops.validated (h : Stops r user) (s : State) (a : Answer) :
    r.validateGoal a = none ∧ r.validateMap a = none ∧ r.validateRobotState s a = none := by
  rcases h.command with hc | hc <;>
    simp [Incoming.validateGoal, Incoming.validateMap, Incoming.validateRobotState, hc,
      Command.goalRequired, Command.gated]

/-- Admission relies on no lock for a stop. -/
theorem Stops.path (h : Stops r user) (t : Nat) (K : Dashboard → Prop) (s : Dashboard) :
    Path t r K s := fun hends => absurd hends (by simp [h.endsInput])

/-- Unless an exception ends the handler, it hands the frame to that socket. -/
abbrev Delivers (m : Mode) (pw : Power) (t : Nat) (job : Job) (r : Incoming) (websocket : Nat)
    (p : Handler Unit) (s : Dashboard) : Prop :=
  Checks m pw t job p s fun x s' =>
    Within (m.sturdy t) job x ∧ (x = .ok () → Sent t r websocket s')

/-- A stop on its way through admission, and the socket it is for. -/
structure Stopping (m : Mode) (pw : Power) (t : Nat) (job : Job)
    (revoke : String → Bool → Handler Unit) (r : Incoming) (user : User)
    (session websocket : Nat) : Prop where
  stops : Stops r user
  serving : Serving m pw t job (Attended r.robotId session websocket) revoke 0 r

variable {revoke : String → Bool → Handler Unit} {session websocket : Nat}

theorem delivers_audit (hS : Stopping m pw t job revoke r user session websocket) (hinv : Inv m s)
    (hs : Attended r.robotId session websocket s) (hidle : Unclosing m pw t s)
    (hpassed : Passed m t r s) :
    Delivers m pw t job r websocket (Incoming.audit t revoke r session) s := by
  apply Safe.post hinv (publishes_audit hS.serving hinv hs hidle hpassed (hS.stops.path t _ s))
  rintro x s' - ⟨⟨-, -, hx⟩, hsent⟩
  refine ⟨hx, fun hok => ?_⟩
  obtain ⟨s₁, hs₁, hsocket⟩ := (hsent hok).2 hS.stops.ne_start
  exact hsocket websocket hs₁.2.1

theorem delivers_validate (hS : Stopping m pw t job revoke r user session websocket)
    (hs : Attended r.robotId session websocket s) (hidle : Unclosing m pw t s)
    (hlooked : Looked m t r s) :
    Delivers m pw t job r websocket (Incoming.validate t revoke r) s := by
  have hact : ∀ {pw}, Act m pw t job s (s.remember r.payload.commandId) :=
    .remember hS.serving.admits
  obtain ⟨seen, hseen⟩ : ∃ seen, s.remember r.payload.commandId = { s with seen := seen } :=
    ⟨_, rfl⟩
  apply Safe.modifyThen hact
  intro hinv'
  rw [hseen] at hinv' ⊢
  have hs' : Attended r.robotId session websocket { s with seen := seen } := hs
  have hidle' : Unclosing m pw t { s with seen := seen } := hidle
  have hpassed : Passed m t r { s with seen := seen } := by
    constructor
    · exact hS.stops.path t _ _
    · exact Option.isSome_of_eq_some hs.1
    · exact hlooked.fresh
  generalize { s with seen := seen } = s at hinv' hs' hidle' hpassed ⊢
  refine Safe.readThen (Safe.answerThen fun a _ => ?_)
  obtain ⟨hgoal, hmap, hstate⟩ := hS.stops.validated s.toState a
  have hsession : ((s.robots r.robotId).bind fun ref =>
      (s.session ref).websocket.map fun websocket => (ref, websocket)) =
        some (session, websocket) := by
    rw [hs'.1]
    simp [hs'.2.1]
  have hprepare : Incoming.prepareStart t revoke r session websocket =
      Incoming.audit t revoke r session := if_neg hS.stops.ne_start
  simp only [hgoal, hsession, hs'.2.2, hmap, hstate, hprepare, ne_eq, not_true_eq_false, if_false]
  exact delivers_audit hS hinv' hs' hidle' hpassed

theorem delivers_protect (hS : Stopping m pw t job revoke r user session websocket)
    (hinv : Inv m s) (hs : Attended r.robotId session websocket s) (hidle : Unclosing m pw t s)
    (hunused : Unused r.payload.commandId s) :
    Delivers m pw t job r websocket (Incoming.protect t revoke r) s := by
  have hseen : s.seen.contains r.payload.commandId = false := by simpa using hunused.1
  have hrecorded : s.recorded r.payload.commandId = false := by
    simp [State.recorded, hunused.2]
  apply Safe.readThen
  simp only [hseen, Bool.false_eq_true, if_false]
  have hG : Framed m .still t job fun s' =>
      Attended r.robotId session websocket s' ∧ Unclosing m pw t s' :=
    (hS.serving.framed.mono Power.still_le).and (framed_unclosing id)
  refine Safe.bind hinv (Checks.weaken Power.still_le hinv
    (checks_commandRecorded hG hinv ⟨hs, hidle⟩ _) fun _ _ _ h => h) ?_
    (fun _ _ _ h => ⟨h.2.1.error, by simp⟩)
  rintro found s₁ hinv₁ ⟨⟨hs₁, hidle₁⟩, -, halone, hfound⟩
  obtain rfl : found = false := (hfound found rfl).trans hrecorded
  simp only [Bool.false_eq_true, if_false]
  exact delivers_validate hS hs₁ hidle₁ ⟨hS.stops.path t _ s₁, halone rfl⟩

/-- Neither the rate limit nor the lease is asked. -/
theorem delivers_limitRate (hS : Stopping m pw t job revoke r user session websocket)
    (hinv : Inv m s) (hs : Attended r.robotId session websocket s) (hidle : Unclosing m pw t s)
    (hunused : Unused r.payload.commandId s) :
    Delivers m pw t job r websocket (Incoming.limitRate t revoke r user) s := by
  apply Safe.answerThen
  intro a _
  have hlease : Incoming.takeLease t revoke r user = Incoming.protect t revoke r :=
    if_pos hS.stops.emergency
  simp only [hS.stops.emergency, not_true_eq_false, false_and, if_false, hlease]
  exact delivers_protect hS hinv hs hidle hunused

/-- Manual input is revoked by a handler that has no other use for the id. -/
theorem delivers_endManual (hS : Stopping m pw t job revoke r user session websocket)
    (hown : ∀ id n, m.reserved id n ↔ id = r.payload.commandId ∧ n = t)
    (hm : ∀ s, m.attended t s → Attended r.robotId session websocket s)
    (hrevoke : Revokes (m.reserving fun id _ => id = r.payload.commandId) t job revoke)
    (hinv : Inv m s) (hs : Attended r.robotId session websocket s) (hidle : Unclosing m pw t s)
    (hunused : Unused r.payload.commandId s) :
    Delivers m pw t job r websocket (Incoming.endManual t revoke r user) s := by
  apply Safe.readThen
  simp only [hS.stops.emergency, if_true]
  have hunspared : ∀ t', ¬(m.reserving fun id _ => id = r.payload.commandId).Spares
      r.payload.commandId t' := fun t' hspares => absurd (hspares (t' + 1) rfl) (by omega)
  have hlasting : Lasting (m.reserving fun id _ => id = r.payload.commandId)
      (Unused r.payload.commandId) :=
    fun pw t' job a b _ hact => hact.unused (hunspared t')
  have hframed : Framed (m.reserving fun id _ => id = r.payload.commandId) .plain t job
      fun s' => (Attended r.robotId session websocket s' ∧ Unclosing m pw t s') ∧
        Unused r.payload.commandId s' :=
    ((framed_attended (m := m.reserving fun id _ => id = r.payload.commandId) id hm).and
      (framed_unclosing id)).and hlasting.framed
  have hrevoked := Checks.reserving hown
    ((hrevoke r.robotId (r.payload.command ≠ .teleopStop)).plain _ hframed hinv.reserving
      ⟨⟨hs, hidle⟩, hunused⟩)
  refine Safe.bind hinv (Checks.weaken (Power.plain_le hS.serving.admits.issues) hinv hrevoked
    fun _ _ _ h => h) ?_ (fun _ _ _ h => ⟨h.2.error, by simp⟩)
  rintro ⟨⟩ s₁ hinv₁ ⟨⟨⟨hs₁, hidle₁⟩, hunused₁⟩, -⟩
  exact delivers_limitRate hS hinv₁ hs₁ hidle₁ hunused₁

/-- **A stop passes admission.** -/
theorem delivers_handle (hS : Stopping m pw t job revoke r user session websocket)
    (hown : ∀ id n, m.reserved id n ↔ id = r.payload.commandId ∧ n = t)
    (hm : ∀ s, m.attended t s → Attended r.robotId session websocket s)
    (hrevoke : Revokes (m.reserving fun id _ => id = r.payload.commandId) t job revoke)
    (hinv : Inv m s) (hs : Attended r.robotId session websocket s) (hidle : Unclosing m pw t s)
    (hunused : Unused r.payload.commandId s) :
    Delivers m pw t job r websocket (Incoming.handle t revoke r) s := by
  apply Safe.readThen
  simp only [hS.stops.operator, hS.stops.allowed, hS.stops.ne_start, hS.stops.endsInput,
    hS.stops.allowedWhileLidarPending, not_true_eq_false, false_and, and_false, if_false]
  exact delivers_endManual hS hown hm hrevoke hinv hs hidle hunused

/-- A stop that comes in while its robot is online. -/
theorem safe_stop {client : BrowserClient} {robotId : String} {payload : CommandRequest}
    (hstops : Stops ⟨client, robotId, payload, s.revisions robotId⟩ user)
    (hown : ∀ id n, m.reserved id n ↔ id = payload.commandId ∧ n = t) (hsturdy : m.sturdy t)
    (hm : ∀ s, m.attended t s → Attended robotId session websocket s)
    (hinv : Inv m s) (hidle : Idle m t s) (hs : Attended robotId session websocket s)
    (hunused : Unused payload.commandId s)
    (hstarts : Starts m t (.request client robotId payload) s) :
    Checks m (.full t) t (.request client robotId payload)
      (handleBrowserRequest t client robotId payload) s fun _ s' =>
        Sent t ⟨client, robotId, payload, s.revisions robotId⟩ websocket s' := by
  have hrevoke : ∀ {m : Mode}, Revokes m t (.request client robotId payload)
      fun robotId issue => revoke t robotId issue false := fun _ _ => ends_revoke _ _ _
  have hS : Stopping m (.admitted t) t (.request client robotId payload)
      (fun robotId issue => revoke t robotId issue false)
      ⟨client, robotId, payload, s.revisions robotId⟩ user session websocket :=
    ⟨hstops, ⟨hstarts.request, framed_attended id hm, hrevoke, fun _ _ => Nat.zero_le _⟩⟩
  have hends : payload.command.endsInput = true := hstops.endsInput
  apply Safe.readThen
  simp only [hends, if_true]
  apply Checks.weaken (Power.le_full fun _ _ h => h) hinv
    (delivers_handle hS hown hm hrevoke hinv hs (fun _ => hidle) hunused)
  rintro x s' - ⟨hx, hsent⟩
  -- A request is not cancelled, and the database does not fail it.
  cases x with
  | ok => exact hsent rfl
  | error x =>
    cases x with
    | exception => exact absurd hsturdy hx
    | cancelled => simp [Within, Job.isTimer] at hx

end

/-! ### Runs -/

/-- The event brings the id in, with a job or as one that the server mints. -/
def Brings (commandId : String) (e : ServerEvent) : Prop :=
  (∃ job answers, e = .start job answers ∧ job.Names commandId) ∨
    ∃ i, (e.answers i).uuid = commandId

namespace Arrival

variable (x : Arrival)

/-- The id of the request is no other's. -/
structure Fresh : Prop where
  audit : x.audit x.payload.commandId = none
  before : ∀ e ∈ x.before, ¬Brings x.payload.commandId e
  answers : ∀ i, (x.answers i).uuid ≠ x.payload.commandId

/-- The event leaves the request its id, its robot and its database. -/
structure Spares (session websocket : Nat) (w : ServerWorld) (e : ServerEvent) : Prop where
  attended : Attended x.robotId session websocket w.shared
  database : ¬x.Fails w e
  fresh : ¬Brings x.payload.commandId e

/-- The runs in which the request has its id for itself, the database does not
    fail it, and its robot stays with that session and socket. -/
def stopMode (session websocket : Nat) : Mode :=
  { Mode.any with
    sturdy := fun t => t = x.task
    reserved := fun id t => id = x.payload.commandId ∧ t = x.task
    attended := fun t s => t = x.task → Attended x.robotId session websocket s
    sturdy_of_calm := False.elim }

structure Leaves (session websocket : Nat) (w : ServerWorld) (e : ServerEvent) : Prop where
  attended : ¬x.Ended w → Attended x.robotId session websocket w.shared
  database : ¬x.Fails w e
  names : ∀ job answers, e = .start job answers → job.Names x.payload.commandId →
    w.started = x.task
  mints : ∀ i, (e.answers i).uuid ≠ x.payload.commandId

variable {x : Arrival} {session websocket : Nat}

theorem guards_stopMode :
    Guards (x.stopMode session websocket) (x.Leaves session websocket) where
  starts w job answers hguard hadmits := by
    refine ⟨⟨hadmits, False.elim, False.elim, ?_, ?_⟩, fun i n h => hguard.mints i h.1⟩
    · rintro id hnames n ⟨rfl, rfl⟩
      exact (hguard.names job answers rfl hnames).symm
    · cases job with
      | request => exact fun _ _ _ => False.elim
      | _ => trivial
  resumes w task reply answers hguard hmem hreplies := by
    refine ⟨⟨hreplies, False.elim, False.elim, ?_, False.elim, False.elim, False.elim, ?_⟩,
      fun i n h => hguard.mints i h.1⟩
    · rintro ht hdatabase rfl
      exact hguard.database ⟨ht, task, hmem, rfl, hdatabase⟩
    · intro ht
      exact hguard.attended fun hended => hended task hmem ht

/-- Before the request comes in only its id matters. -/
theorem Fresh.leaves_before (h : x.Fresh) :
    server.loop.Along (x.Leaves session websocket) (System.initial (started x.audit))
      x.before := by
  have hstep : ∀ w e, System.Numbered w → w.started ≤ x.task → (∀ job answers,
      e = .start job answers → server.admits w.shared job = true → w.started < x.task) →
      ¬Brings x.payload.commandId e → x.Leaves session websocket w e := by
    intro w e hnumbered hle _ hbrings
    constructor
    · intro hended
      exact absurd (fun task htask heq => by have := hnumbered task htask; omega) hended
    · exact not_fails_before hnumbered hle e
    · exact fun job answers heq hnames => absurd (.inl ⟨job, answers, heq, hnames⟩) hbrings
    · exact fun i heq => hbrings (.inr ⟨i, heq⟩)
  exact server.along_before x.task hstep (by simp [System.Numbered, System.initial]) le_rfl
    (server.loop.along_of_mem h.before)

theorem Fresh.orderly_world (h : x.Fresh) : Orderly (discipline (x.stopMode session websocket))
    (Idle (x.stopMode session websocket)) x.world :=
  guards_stopMode.orderly h.leaves_before

/-- Nobody has used the id when the request comes in. -/
theorem Fresh.unused (h : x.Fresh) : Unused x.payload.commandId x.world.shared := by
  have hstable : (discipline (x.stopMode 0 0)).Stable x.task (Unused x.payload.commandId) := by
    intro other hne job a b _ hact
    apply hact.unused
    exact fun hspares => hne (hspares x.task ⟨rfl, rfl⟩).symm
  refine guards_stopMode.sound.keeps hstable (orderly_started _ x.audit) h.leaves_before le_rfl ?_
  exact ⟨List.not_mem_nil, h.audit⟩

/-- The request itself, and the run that follows it. -/
theorem Fresh.leaves_start (h : x.Fresh) {es : List ServerEvent}
    (along : server.loop.Along (x.Spares session websocket) (x.after []) es) :
    server.loop.Along (x.Leaves session websocket) x.world (.start x.job x.answers :: es) := by
  refine ⟨⟨?_, id, fun _ _ _ _ => rfl, h.answers⟩, ?_⟩
  · intro hended
    exact absurd x.ended_world hended
  · rw [after_eq] at along
    apply server.loop.along_mono _ along
    intro w e hspares
    constructor
    · exact fun _ => hspares.attended
    · exact hspares.database
    · exact fun job answers heq hnames => absurd (.inl ⟨job, answers, heq, hnames⟩) hspares.fresh
    · exact fun i heq => hspares.fresh (.inr ⟨i, heq⟩)

/-- When the handling of the stop has ended, it has been written to the socket. -/
theorem sent_of_ended {user : User} (hstops : Stops x.incoming user) (hfresh : x.Fresh)
    (hattended : Attended x.robotId session websocket x.world.shared) {es : List ServerEvent}
    (along : server.loop.Along (x.Spares session websocket) (x.after []) es)
    (hended : x.Ended (x.after es)) :
    Sent x.task x.incoming websocket (x.after es).shared := by
  have horderly : Orderly (discipline (x.stopMode session websocket))
    (Idle (x.stopMode session websocket)) x.world := hfresh.orderly_world
  have hidle : Idle (x.stopMode session websocket) x.task x.world.shared :=
    fun hcalm => False.elim hcalm
  have hsafe : (discipline (x.stopMode session websocket)).Starts x.task x.job x.world.shared →
      Checks (x.stopMode session websocket) (.full x.task) x.task x.job (body x.task x.job)
        x.world.shared fun _ s => Sent x.task x.incoming websocket s :=
    fun hstarts => safe_stop hstops (fun _ _ => Iff.rfl) rfl (fun _ h => h rfl) horderly.inv hidle
      hattended hfresh.unused hstarts
  have hpursues := guards_stopMode.sound.pursues (lasting_sent _ _ _).stable horderly rfl hsafe
    (hfresh.leaves_start along)
  rw [after_eq] at hended ⊢
  exact hpursues.ended hended

/-- **Stop availability.**  A stop whose id is its own, that the loop resumes
    again and again, is written to the socket of its robot, whatever state the
    broker was in, if the robot stays connected and online until then. -/
theorem sent_of_fair {user : User} (hstops : Stops x.incoming user) (hfresh : x.Fresh)
    (hattended : Attended x.robotId session websocket x.world.shared) {σ : Nat → ServerEvent}
    (fair : server.Fair x.task (x.after []) σ)
    (hspares : ∀ n, ¬x.Ended (server.nth (x.after []) σ n) →
      x.Spares session websocket (server.nth (x.after []) σ n) (σ n)) :
    ∃ n, Sent x.task x.incoming websocket (server.nth (x.after []) σ n).shared := by
  have hstarted : x.task < (x.after []).started := by
    rw [after_eq]
    exact Nat.lt_succ_self _
  have hends : ∃ n, x.Ended (server.nth (x.after []) σ n) := by
    apply System.Fair.ends server fair hstarted (body x.task x.job) 0 x.job x.world.shared
      x.answers
    intro task htask heq
    rw [System.nth, after_eq] at htask
    rcases List.mem_append.mp htask with hmem | hmem
    · exact absurd heq (x.ended_world task hmem)
    · exact hmem
  refine ⟨Nat.find hends, ?_⟩
  have hended := Nat.find_spec hends
  have along := server.along_nth (x.after []) σ (Nat.find hends) fun i hi =>
    hspares i (Nat.find_min hends hi)
  rw [System.nth_eq_run, ← after_append] at hended ⊢
  exact sent_of_ended hstops hfresh hattended along hended

end Arrival

/-- A stop that comes in while a reset is pending. -/
def stopArrival : Arrival where
  audit _ := none
  before := .start (.connected "robot" 7) calmly :: requested 1 "again" .softwareReset
  client := operator
  robotId := "robot"
  payload := { commandId := "halt", command := .stop }
  answers := calmly

/-- The request is resumed until it has ended; then nothing but the watchdog runs. -/
def stopRun (n : Nat) : ServerEvent :=
  if n < 4 then .resume stopArrival.task none calmly else .start .watchdog calmly

theorem stopRun_spares {n : Nat} : ¬Brings "halt" (stopRun n) := by
  have hwatchdog : ¬Job.watchdog.Names "halt" := id
  rintro (⟨job, answers, heq, hnames⟩ | ⟨i, heq⟩)
  · unfold stopRun at heq
    split at heq
    · simp at heq
    · injection heq with hjob _
      exact hwatchdog (hjob ▸ hnames)
  · unfold stopRun at heq
    split at heq <;> simp [Event.answers, calmly] at heq

/-- The stop goes through while the reset is pending. -/
theorem sent_while_resetPending : ∃ n, Sent stopArrival.task stopArrival.incoming 7
    (server.nth (stopArrival.after []) stopRun n).shared := by
  have hstarted : stopArrival.task < (stopArrival.after []).started := by decide +kernel
  have hended : stopArrival.Ended (server.nth (stopArrival.after []) stopRun 4) := by
    decide +kernel
  have hresumed : ∀ i, i < 4 → server.Resumed stopArrival.task
      (server.nth (stopArrival.after []) stopRun i) (stopRun i) := by
    intro i hi
    rw [stopRun, if_pos hi, System.resumed_iff]
    revert i
    decide +kernel
  have hspared : ∀ i, i < 4 →
      Attended "robot" 1 7 (server.nth (stopArrival.after []) stopRun i).shared ∧
        ¬stopArrival.Fails (server.nth (stopArrival.after []) stopRun i) (stopRun i) := by
    decide +kernel
  have hstops : Stops stopArrival.incoming ⟨1, "operator", true⟩ := ⟨.inl rfl, rfl, rfl⟩
  have hfresh : stopArrival.Fresh := by
    constructor
    · rfl
    · intro e he
      simp only [stopArrival, requested, resumed, requestOf, List.replicate, List.mem_cons,
        List.not_mem_nil, or_false, or_self] at he
      rcases he with rfl | rfl | rfl
      all_goals simp [Brings, Event.answers, calmly, Job.Names, stopArrival]
    · simp [stopArrival, calmly]
  have hattended : Attended "robot" 1 7 stopArrival.world.shared := by decide +kernel
  refine Arrival.sent_of_fair hstops hfresh hattended
    (server.fair_of_ended hstarted 4 hended hresumed) fun n hn => ?_
  have hlt : n < 4 := by
    by_contra hge
    exact hn (server.ended_nth hstarted hended (Nat.le_of_not_lt hge))
  exact ⟨(hspared n hlt).1, (hspared n hlt).2, stopRun_spares⟩

end PatrolBot.Server
