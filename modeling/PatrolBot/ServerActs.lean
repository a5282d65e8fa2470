import PatrolBot.ServerHub

/-!
# What a handler may do to the server in one update

`Act` lists the updates of all handlers, each with what its handler has made
sure of before it.  `Inv` is what every update keeps: the manual session and
the commands exclude each other, drive frames are covered by their session,
and, in the runs where no two requests look up one id at once, a command id
names one command and a manual session waits for commands that are still
there.  The handlers are checked against `Act` in `ServerSafety`.
-/

namespace PatrolBot.Server

open Coroutine

/-! ### Observations -/

/-- The commands that must not be under way together with a manual session. -/
def Command.autonomous : Command → Bool
  | .navigateToPose | .setInitialPose | .undock | .chargeRelease | .motorEnable
  | .setLidarPower | .dockReset => true
  | _ => false

/-- The commands whose outcome is never guessed: all but these close at a timeout. -/
def Command.held (c : Command) : Bool := c.manual || c == .softwareReset || c == .setLidarPower

def FrameBody.requestId : FrameBody → Option String
  | .request payload => some payload.commandId
  | _ => none

/-- The ids of the commands handed to robots. -/
def requestIds (wire : List (Frame × State)) : List String :=
  wire.filterMap fun f => f.1.body.requestId

/-- The sequence number of a deadman frame of the owner. -/
def FrameBody.driveSeq (o : Nat) : FrameBody → Option Int
  | .velocity o' frame => if o' = o ∧ frame.deadman then some frame.seq else none
  | _ => none

def driveSeqs (wire : List (Frame × State)) (o : Nat) : List Int :=
  wire.filterMap fun f => f.1.body.driveSeq o

/-- The deadman frames that wait for the send lock. -/
def waitingSeqs (lock : Lock Velocity) : List Int :=
  lock.waiters.filterMap fun w => if w.2.deadman then some w.2.seq else none

/-- The command whose end a publication reports as an event. -/
def Publication.closes : Publication → Option Nat
  | .event _ _ _ _ closes => closes
  | .reply .. | .connection .. => none

def Publication.isConnection : Publication → Bool
  | .connection .. => true
  | _ => false

def reports (published : List Publication) (e : Nat) : Nat :=
  published.countP fun p => decide (p.closes = some e)

/-- The ids that are being looked up and will not be found. -/
def unfound (s : State) : List String := (s.lookups.filter fun l => !l.2.2).map (·.2.1)

theorem mem_unfound {s : State} {t : Nat} {id : String} (h : (t, id, false) ∈ s.lookups) :
    id ∈ unfound s :=
  List.mem_map.mpr ⟨_, List.mem_filter.mpr ⟨h, rfl⟩, rfl⟩

/-- Some command was registered under the id. -/
def Issued (s : State) (commandId : String) : Prop :=
  ∃ e, e < s.entries ∧ (s.entry e).commandId = commandId

/-- A command that is still in `active`. -/
def Open (s : State) (e : Nat) : Prop := ∃ i, (i, e) ∈ s.active

/-- A `software_reset` of the robot that is still in `active`. -/
def OpenReset (s : State) (robotId : String) (e : Nat) : Prop :=
  Open s e ∧ (s.entry e).command = .softwareReset ∧ (s.entry e).robotId = robotId

/-- No manual session of the robot is pending or active. -/
def NotDriven (s : State) (robotId : String) : Prop :=
  ∀ o, s.owners.lookup robotId = some o → (s.owner o).phase.live = false

/-- The close-out of a command with that outcome is done. -/
def Complete (s : State) (e : Nat) (outcome : Outcome) : Prop :=
  (∃ row, s.audit (s.entry e).commandId = some row ∧ row.outcome = some outcome) ∧
    (outcome ≠ .succeeded → reports s.published e = 1)

/-- A drive frame when it was handed to the socket: its session was the active
    one of the robot, still bound to what it captured, and under its lease. -/
def DriveCovered (f : Frame × State) : Prop :=
  ∀ o frame, f.1.body = .velocity o frame → frame.deadman = true →
    f.2.owners.lookup f.1.robotId = some o ∧ (f.2.owner o).phase = .active ∧
      f.2.bound o = true ∧ f.2.ownsLease o = true ∧
      f.1.websocket = (f.2.owner o).websocket

/-- A command frame when it was handed to the socket, against the pending reset. -/
def ResetAllows (f : Frame × State) : Prop :=
  ∀ payload, f.1.body = .request payload → payload.command.endsInput = true ∨
    f.2.resetPending f.1.robotId = none ∨
    (payload.command = .softwareReset ∧ f.2.resetPending f.1.robotId = some payload.commandId)

/-! ### Updates -/

/-- The runs under consideration. -/
structure Mode where
  /-- No two requests look up one new id at once. -/
  distinct : Prop
  /-- No reset is under way under the empty id. -/
  named : Prop
  /-- The database does not fail the task. -/
  sturdy : Nat → Prop
  /-- No ordinary command is closed by its own timer. -/
  calm : Prop
  /-- No session is replaced by another connection than the one that closes it. -/
  serial : Prop
  /-- No session is replaced while a task is about to take its robot offline. -/
  prompt : Prop
  /-- The id belongs to the task. -/
  reserved : String → Nat → Prop
  /-- The task received its request for the robot at that revision. -/
  received : Nat → String → Nat → Prop
  /-- What the task finds whenever it is resumed. -/
  attended : Nat → Dashboard → Prop
  distinct_of_named : named → distinct
  distinct_of_calm : calm → distinct
  sturdy_of_calm : calm → ∀ t, sturdy t

/-- The id belongs to no other task. -/
def Mode.Spares (m : Mode) (commandId : String) (t : Nat) : Prop :=
  ∀ n, m.reserved commandId n → n = t

/-- What never changes of a registered command, and what only grows. -/
structure SameCommand (x y : ActiveCommand) : Prop where
  commandId : y.commandId = x.commandId
  command : y.command = x.command
  robotId : y.robotId = x.robotId
  uncertain : x.uncertain = true → y.uncertain = true

/-- What never changes of a manual session, and what goes one way. -/
structure Carries (x y : ManualOwner) : Prop where
  commandId : y.commandId = x.commandId
  client : y.client = x.client
  robotId : y.robotId = x.robotId
  session : y.session = x.session
  websocket : y.websocket = x.websocket
  generation : y.generation = x.generation
  baseGeneration : y.baseGeneration = x.baseGeneration
  phase : y.phase.live = true → x.phase.live = true
  seq : x.seq ≤ y.seq
  waiting : (waitingSeqs y.sendLock).Sublist (waitingSeqs x.sendLock)
  terminal : y.startTerminal = true → x.startTerminal = true ∨ y.phase.live = false

/-- What a handler is allowed at some point of its text: to rely on an admission
    lock, to take and return such locks, to issue a command, to close one, and
    to change the robots' sessions and presence. -/
structure Power where
  holds : Dashboard → String → Prop
  locks : Prop
  issues : Prop
  closes : Prop
  hosts : Prop

section

variable (m : Mode) (pw : Power) (t : Nat) (job : Job)

/-- Why the job knows the end of a command of the robot: its robot has rejected
    it or sent its result, or the job is its own request and never sent it. -/
inductive Settles (a : Dashboard) (commandId robotId : String) : Prop where
  | rejected (session : Nat) (reason : Option String)
      (job_eq : job = .reply session (.ack commandId false reason))
      (robot : session < a.sessions ∧ (a.session session).robotId = robotId)
  | answered (session : Nat) (outcome : Outcome) (detail : Option String)
      (job_eq : job = .reply session (.result commandId outcome detail))
      (known : outcome ≠ .timeout)
      (robot : session < a.sessions ∧ (a.session session).robotId = robotId)
  | unsent (client : BrowserClient) (payload : CommandRequest)
      (job_eq : job = .request client robotId payload)
      (start : payload.command = .teleopStart) (same : payload.commandId = commandId)
      (unsent : m.distinct → commandId ∉ requestIds a.wire)

/-- The job is an admitted reset of the robot. -/
def Supersedes (a : Dashboard) (robotId : String) : Prop :=
  ∃ client payload, job = .request client robotId payload ∧
    payload.command = .softwareReset ∧ payload.commandId ∈ a.admitted.map Prod.fst

/-- Why the job may take the command out of `active`. -/
inductive Closable (a : Dashboard) (e : Nat) : Prop where
  | ordinary (ordinary : (a.entry e).command.held = false)
  | settled (settles : Settles m job a (a.entry e).commandId (a.entry e).robotId)
      (manual : job.isRequest = true → (a.entry e).command.manual = true)
  | superseded (supersedes : Supersedes job a (a.entry e).robotId)
      (unknown : m.named → (a.entry e).command = .softwareReset → (a.entry e).uncertain = true)

/-- The manual session waits no longer for the command. -/
def Released (a : Dashboard) (x : ActiveCommand) : Prop :=
  ∀ o, a.owners.lookup x.robotId = some o →
    x.commandId ∉ (a.owner o).stopIds ∧
      (x.commandId = (a.owner o).commandId → (a.owner o).startTerminal = true)

/-- What a manual session waits for, and no longer waits for. -/
structure Waits (a : Dashboard) (x y : ManualOwner) : Prop where
  stops : m.distinct → ∀ i ∈ y.stopIds, i ∈ x.stopIds ∨ ∃ e, (i, e) ∈ a.active ∧
    (a.entry e).command = .teleopStop ∧ (a.entry e).robotId = x.robotId
  stopped : ∀ i ∈ x.stopIds, i ∈ y.stopIds ∨ Settles m job a i x.robotId
  start : y.startTerminal = true →
    x.startTerminal = true ∨ Settles m job a x.commandId x.robotId
  started : x.startTerminal = true → y.startTerminal = true

/-- What admission has made sure of when a command is registered. -/
structure Registers (r : Incoming) (a : Dashboard) : Prop where
  admission : r.payload.command.endsInput = false → pw.holds a r.robotId
  exclusive : r.payload.command.autonomous = true → NotDriven a.toState r.robotId
  session : (a.robots r.robotId).isSome = true
  fresh : m.distinct → (r.payload.commandId, t) ∈ a.admitted ∧
    ¬Issued a.toState r.payload.commandId ∧ r.payload.commandId ∉ requestIds a.wire
  reset : m.named → r.payload.command = .softwareReset → ∀ e, ¬OpenReset a.toState r.robotId e

/-- A stale disconnect may not touch the robot. -/
def Attends (a : Dashboard) (robotId : String) : Prop :=
  m.prompt → ∀ session websocket, job = .disconnected session websocket →
    a.robots robotId = some session

/-- The updates of task `t` where it has that power. -/
inductive Act : Dashboard → Dashboard → Prop where
  | aside {a : Dashboard} (baseGeneration : String → Option Int)
      (connected : BrowserClient → Bool) (holders : String → Option LeaseHolder)
      (lidarRecoveryRequired : String → Bool) (lidarStateAfter : String → Bool)
      (seen : List String) (revisions : String → Nat) (closedSockets : List Nat)
      (hseen : ∀ id ∈ seen, id ∈ a.seen ∨ m.Spares id t)
      (hrevisions : ∀ r, a.revisions r ≤ revisions r)
      (hsockets : ∀ websocket ∈ a.closedSockets, websocket ∈ closedSockets) :
      Act a { a with
        baseGeneration := baseGeneration, connected := connected, holders := holders
        lidarRecoveryRequired := lidarRecoveryRequired, lidarStateAfter := lidarStateAfter
        seen := seen, revisions := revisions, closedSockets := closedSockets }
  | presence {a : Dashboard} (r : String) (state : RobotState) (hhosts : pw.hosts)
      (h : Attends m job a r) : Act a (a.setRobotState r state)
  | connection {a : Dashboard} (r : String) (state : Connection) (hhosts : pw.hosts)
      (h : Attends m job a r) : Act a (a.publish (.connection r state))
  | opens {a : Dashboard} (r : String) (websocket : Option Nat) (generation : Nat)
      (hhosts : pw.hosts) (hjob : ∃ websocket, job = .connected r websocket)
      (h : m.serial → ∀ previous, a.robots r = some previous →
        generation = (a.session previous).generation + 1 ∧
        ∀ websocket, (a.session previous).websocket = some websocket →
          websocket ∈ a.closedSockets) :
      Act a { a with
        session := Function.update a.session a.sessions ⟨r, websocket, generation⟩
        sessions := a.sessions + 1
        robots := Function.update a.robots r (some a.sessions) }
  | clear {a : Dashboard} (session : Nat) (hhosts : pw.hosts) : Act a (clearWebsocket session a)
  | track {a : Dashboard} (connecting : List (Nat × String × Nat)) (leaving : List (Nat × Nat))
      (hhosts : pw.hosts) (hconnecting : ∀ x, x.1 ≠ t → x ∈ a.connecting → x ∈ connecting)
      (hleaving : ∀ x, x.1 ≠ t → x ∈ a.leaving → x ∈ leaving) :
      Act a { a with connecting := connecting, leaving := leaving }
  | announce {a : Dashboard} (p : Publication) (h : p.closes = none)
      (hconnection : p.isConnection = false) : Act a (a.publish p)
  | report {a : Dashboard} (p : Publication) (e : Nat) (hp : p.closes = some e)
      (h : m.calm → (e, t) ∈ a.closing ∧ reports a.published e = 0) : Act a (a.publish p)
  | closed {a : Dashboard} (e : Nat)
      (h : m.calm → ∀ outcome, (e, outcome) ∈ a.closed → Complete a.toState e outcome) :
      Act a { a with closing := a.closing.filter (· ≠ (e, t)) }
  | cancel {a : Dashboard} (robotId : String) (websocket : Nat) (commandId : String) :
      Act a (a.write ⟨robotId, websocket, .cancel commandId⟩)
  | admission {a : Dashboard} (r : String) (lock : Lock Unit) (hlocks : pw.locks)
      (h : ∀ k, k ≠ t → (a.admissionLock r).holder = some k → lock.holder = some k) :
      Act a { a with admissionLock := Function.update a.admissionLock r lock }
  | lookUp {a : Dashboard} (commandId : String) :
      Act a { a with lookups := a.lookups ++ [(t, commandId, a.recorded commandId)] }
  | lookedUp {a : Dashboard} : Act a { a with lookups := a.lookups.filter (·.1 ≠ t) }
  | insert {a : Dashboard} (commandId : String) (row : AuditRow)
      (hspares : m.Spares commandId t) : Act a (a.insertAudit commandId row)
  | admitRow {a : Dashboard} (commandId : String) (row : AuditRow) (hspares : m.Spares commandId t)
      (h : m.distinct → commandId ∉ a.admitted.map Prod.fst ∧
        commandId ∉ unfound a.toState) :
      Act a { a.insertAudit commandId row with admitted := a.admitted ++ [(commandId, t)] }
  | complete {a : Dashboard} (commandId : String) (outcome : Outcome) (detail : String)
      (h : m.calm → a.isActive commandId = true ∨
        ∃ e, (e, t) ∈ a.closing ∧ (e, outcome) ∈ a.closed ∧
          (a.entry e).commandId = commandId) :
      Act a (a.completeAudit commandId outcome detail)
  | mark {a : Dashboard} (entry : Nat → ActiveCommand) (timers : List Timer)
      (h : ∀ e, SameCommand (a.entry e) (entry e))
      (htimers : ∀ timer ∈ timers, timer.entry < a.entries) :
      Act a { a with entry := entry, timers := timers }
  | register {a : Dashboard} (r : Incoming) (session : Nat) (hissues : pw.issues)
      (h : Registers m pw t r a) : Act a (r.register session a)
  | request {a : Dashboard} (r : Incoming) (websocket : Nat) (hissues : pw.issues)
      (hfresh : m.distinct → (r.payload.commandId, t) ∈ a.admitted ∧
        Issued a.toState r.payload.commandId ∧ r.payload.commandId ∉ requestIds a.wire)
      (hreset : m.named → ResetAllows (r.frame websocket, a.toState))
      (hreceived : r.payload.command = .teleopStart → ∀ robotId revision,
        m.received t robotId revision → a.revisions robotId = revision) :
      Act a (a.forward t (r.frame websocket) r.payload)
  | pop {a : Dashboard} (e : Nat) (outcome : Outcome) (hcloses : pw.closes)
      (hentry : e < a.entries) (hactive : a.isActive (a.entry e).commandId = true)
      (hclosable : Closable m job a e)
      (hreleased : (a.entry e).command.manual = true → Released a (a.entry e)) :
      Act a (popActive t e outcome a)
  | manual {a : Dashboard} (owner : Nat → ManualOwner)
      (h : ∀ o, Carries (a.owner o) (owner o))
      (hwaits : ∀ o, Waits m job a (a.owner o) (owner o)) : Act a { a with owner := owner }
  | wait {a : Dashboard} (o : Nat) (frame : Velocity)
      (h : frame.deadman = true → o < a.ownerCount ∧ frame.seq ≤ (a.owner o).seq ∧
        ∀ q ∈ driveSeqs a.wire o ++ waitingSeqs (a.owner o).sendLock, q < frame.seq) :
      Act a (a.setSendLock o ((a.owner o).sendLock.queue t frame))
  | prepare {a : Dashboard} (owner : ManualOwner) (hholds : pw.holds a owner.robotId)
      (hfree : a.owners.lookup owner.robotId = none)
      (hidle : ∀ e, Open a.toState e → (a.entry e).robotId ≠ owner.robotId)
      (hlock : owner.sendLock = {}) (hstart : owner.startTerminal = false)
      (hstops : owner.stopIds = [])
      (hfresh : m.distinct → ¬Issued a.toState owner.commandId) :
      Act a { a with
        owner := Function.update a.owner a.ownerCount owner
        ownerCount := a.ownerCount + 1
        owners := dictSet a.owners owner.robotId a.ownerCount }
  | disown {a : Dashboard} (r : String) (h : NotDriven a.toState r)
      (hdone : ∀ o, a.owners.lookup r = some o →
        ((a.owner o).startTerminal = true ∧ (a.owner o).stopIds = []) ∨ Supersedes job a r) :
      Act a { a with owners := dictPop a.owners r }
  | drive {a : Dashboard} (o : Nat) (frame : Velocity)
      (h : frame.deadman = true → o < a.ownerCount ∧ (a.owner o).phase = .active ∧
        a.bound o = true ∧ a.ownsLease o = true ∧ frame.seq ≤ (a.owner o).seq ∧
        (∀ q ∈ driveSeqs a.wire o, q < frame.seq) ∧
        ∀ q ∈ waitingSeqs (a.owner o).sendLock, frame.seq < q) :
      Act a (a.write ⟨(a.owner o).robotId, (a.owner o).websocket, .velocity o frame⟩)

end

/-! ### The invariant -/

/-- A command id names one command, in the audit, among the commands and on the wire. -/
structure Unique (s : Dashboard) : Prop where
  admitted : (s.admitted.map Prod.fst).Nodup
  recorded : ∀ p ∈ s.admitted, (s.audit p.1).isSome = true
  lookups : ∀ l ∈ s.lookups, l.2.2 = false → l.2.1 ∉ s.admitted.map Prod.fst
  entries : ∀ e e', e < s.entries → e' < s.entries →
    (s.entry e).commandId = (s.entry e').commandId → e = e'
  issued : ∀ e, e < s.entries → (s.entry e).commandId ∈ s.admitted.map Prod.fst
  wire : (requestIds s.wire).Nodup
  sent : ∀ id ∈ requestIds s.wire, Issued s.toState id

/-- The pending reset is the only open one of its robot. -/
structure Barrier (s : Dashboard) : Prop where
  pending : ∀ r i, s.resetPending r = some i → ∃ e, (i, e) ∈ s.active ∧
    (s.entry e).command = .softwareReset ∧ (s.entry e).robotId = r
  reset : ∀ i e, (i, e) ∈ s.active → (s.entry e).command = .softwareReset →
    s.resetPending (s.entry e).robotId = some i
  wire : ∀ f ∈ s.wire, ResetAllows f

/-- Every closed command is complete, or the task that closed it is at it. -/
structure CloseOuts (s : Dashboard) : Prop where
  closed : ∀ e o, (e, o) ∈ s.closed → e < s.entries ∧ ¬Open s.toState e ∧
    ((∃ t, (e, t) ∈ s.closing) ∨ Complete s.toState e o)
  once : ∀ e o o', (e, o) ∈ s.closed → (e, o') ∈ s.closed → o = o'
  left : ∀ e, e < s.entries → Open s.toState e ∨ ∃ o, (e, o) ∈ s.closed
  reports : ∀ e, reports s.published e ≠ 0 → ∃ o, (e, o) ∈ s.closed
  closing : ∀ e t, (e, t) ∈ s.closing → ∃ o, (e, o) ∈ s.closed
  closer : ∀ e t t', (e, t) ∈ s.closing → (e, t') ∈ s.closing → t = t'

/-- A manual session waits for commands that are still there. -/
structure Awaited (s : Dashboard) : Prop where
  stops : ∀ r o, s.owners.lookup r = some o → ∀ i ∈ (s.owner o).stopIds, ∃ e, (i, e) ∈ s.active ∧
    (s.entry e).command = .teleopStop ∧ (s.entry e).robotId = r
  start : ∀ r o, s.owners.lookup r = some o → (s.owner o).startTerminal = false →
    ∀ e, e < s.entries → (s.entry e).commandId = (s.owner o).commandId →
      (s.entry e).command = .teleopStart → (s.entry e).robotId = r →
        ((s.owner o).commandId, e) ∈ s.active

/-- The sessions of one robot replace each other in order. -/
structure Generations (s : Dashboard) : Prop where
  increasing : ∀ i j, i < j → j < s.sessions → (s.session i).robotId = (s.session j).robotId →
    (s.session i).generation < (s.session j).generation
  installed : ∀ i, i < s.sessions → ∃ ref, s.robots (s.session i).robotId = some ref ∧ i ≤ ref
  closed : ∀ i, i < s.sessions → s.robots (s.session i).robotId ≠ some i →
    ∀ websocket, (s.session i).websocket = some websocket → websocket ∈ s.closedSockets

structure Inv (m : Mode) (s : Dashboard) : Prop where
  active : ∀ i e, (i, e) ∈ s.active → e < s.entries ∧ (s.entry e).commandId = i
  timers : ∀ timer ∈ s.timers, timer.entry < s.entries
  robots : ∀ r ref, s.robots r = some ref → ref < s.sessions ∧ (s.session ref).robotId = r
  sessions : ∀ e, e < s.entries → (s.robots (s.entry e).robotId).isSome = true
  owners : ∀ r o, s.owners.lookup r = some o → o < s.ownerCount ∧ (s.owner o).robotId = r
  live : ∀ o, o < s.ownerCount → (s.owner o).phase.live = true →
    s.owners.lookup (s.owner o).robotId = some o
  ended : ∀ o, o < s.ownerCount → (s.owner o).startTerminal = true →
    (s.owner o).phase.live = false
  exclusive : ∀ e, Open s.toState e → (s.entry e).command.autonomous = true →
    NotDriven s.toState (s.entry e).robotId
  drives : ∀ f ∈ s.wire, DriveCovered f
  seqs : ∀ o, o < s.ownerCount →
    (driveSeqs s.wire o ++ waitingSeqs (s.owner o).sendLock).Pairwise (· < ·) ∧
      ∀ q ∈ driveSeqs s.wire o ++ waitingSeqs (s.owner o).sendLock, q ≤ (s.owner o).seq
  undriven : ∀ o, s.ownerCount ≤ o → driveSeqs s.wire o = []
  unique : m.distinct → Unique s
  barrier : m.named → Barrier s
  closeOuts : m.calm → CloseOuts s
  awaited : m.distinct → Awaited s
  generations : m.serial → Generations s

end PatrolBot.Server
