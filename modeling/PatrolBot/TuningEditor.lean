import PatrolBot.TuningStore

/-!
# The tuning editor

The rest of `stores/tuningStore.ts`: the actions that apply and deploy what is saved, and
the loss of the connection.  With them the store of the drafts is the whole editor, and
the saved revision it shows is moved by the answers to all of its requests.
-/

namespace PatrolBot.Tuning

namespace TuningStore

/-- The saved revision the store shows. -/
def revision (s : TuningStore) : Option Nat := s.snapshot.bind (·.desiredRevision)

/-- `connectionLost`: no draft survives a reconnect unreviewed. -/
def connectionLost (s : TuningStore) : TuningStore :=
  let ids := s.dirty.filter fun id => s.savePhase id != .unknown && s.savePhase id != .saving
  if ids.isEmpty then s
  else { s with
    conflictIds := s.withConflicts ids
    savePhase := withPhase s.savePhase ids .conflict }

/-- The store takes the answer's snapshot, or goes back to the one the request was sent on. -/
def answeredWith (s : TuningStore) (reply : TuningReply) (sentOn : Snapshot) : TuningStore :=
  { s with snapshot := some (reply.snapshot.getD sentOn) }

end TuningStore

/-- `OperationState`. -/
structure OperationState where
  phase : SavePhase := .idle
  requestId : Option RequestId := none

/-- An `apply` or a `redeploy` request. -/
structure DeployRequest where
  sessionId : String
  requestId : RequestId
  expectedRevision : Nat
deriving DecidableEq

/-- A `confirmRedeploy` that awaits its answer, with the snapshot it acts on. -/
structure AwaitedRedeploy where
  request : DeployRequest
  snapshot : Snapshot

structure TuningEditor where
  store : TuningStore := {}
  reviewedRevision : Option Nat := none
  reviewedDigest : Option String := none
  apply : OperationState := {}
  redeploy : OperationState := {}
  /-- The snapshots that `applyLive` awaits an answer on. -/
  applies : List Snapshot := []
  redeploys : List AwaitedRedeploy := []

inductive EditorEvent where
  | store (event : StoreEvent)
  | connectionLost
  | applyLive (ambient : Ambient)
  | applyAnswered (index : Nat) (answer : PostAnswer)
  | openRedeploy
  | confirmRedeploy (ambient : Ambient)
  | redeployAnswered (index : Nat) (answer : PostAnswer)

inductive EditorSent where
  | store (sent : Sent)
  | apply (request : DeployRequest)
  | redeploy (request : DeployRequest)
deriving DecidableEq

namespace TuningEditor

/-- `newRequestId`. -/
def mint (e : TuningEditor) : TuningStore := { e.store with minted := e.store.minted + 1 }

/-- Neither an apply nor a redeploy may start. -/
def barred (snapshot : Snapshot) (ambient : Ambient) : Bool :=
  !ambient.isAdministrator || !ambient.wsConnected || !snapshot.activationSupported ||
    !snapshot.safeApplyAllowed

/-- `applyLive`, up to its request. -/
def applyLive (e : TuningEditor) (ambient : Ambient) : TuningEditor × List EditorSent :=
  match e.store.snapshot with
  | none => (e, [])
  | some snapshot =>
    match snapshot.sessionId, snapshot.desiredRevision with
    | some sessionId, some desiredRevision =>
      if !snapshot.available then (e, [])
      else if barred snapshot ambient || e.apply.phase == .saving || e.apply.phase == .unknown then
        (e, [])
      else
        ({ e with
          store := e.mint
          apply := ⟨.saving, none⟩
          applies := e.applies ++ [snapshot] },
          [.apply ⟨sessionId, e.store.minted, desiredRevision⟩])
    | _, _ => (e, [])

/-- `applyLive`, from the answer on. -/
def applyAnswered (e : TuningEditor) (index : Nat) (answer : PostAnswer) : TuningEditor :=
  match e.applies[index]? with
  | none => e
  | some snapshot =>
    let e := { e with applies := e.applies.eraseIdx index }
    match answer with
    | .reply reply => { e with
        store := e.store.answeredWith reply snapshot
        apply := ⟨TuningStore.outcomePhase reply.outcome, reply.requestId⟩ }
    | _ => { e with apply := ⟨.unknown, none⟩ }

/-- `openRedeploy`: what is reviewed is taken from the snapshot; without one the reviewed
    revision counts as another. -/
def openRedeploy (e : TuningEditor) : TuningEditor :=
  let moved := e.store.snapshot.all fun snapshot =>
    e.reviewedRevision != snapshot.desiredRevision
  { e with
    reviewedRevision := e.store.revision
    reviewedDigest := e.store.snapshot.bind (·.desiredDigest)
    redeploy := if moved && e.redeploy.phase != .unknown then {} else e.redeploy }

/-- `confirmRedeploy`, up to its request. -/
def confirmRedeploy (e : TuningEditor) (ambient : Ambient) : TuningEditor × List EditorSent :=
  match e.store.snapshot with
  | none => (e, [])
  | some snapshot =>
    match snapshot.sessionId, e.reviewedRevision with
    | some sessionId, some reviewed =>
      if !snapshot.available then (e, [])
      else if barred snapshot ambient || e.redeploy.phase == .saving ||
          e.redeploy.phase == .unknown || e.redeploy.phase == .saved then (e, [])
      -- The reviewed revision is immutable: if it moved, "latest" is not deployed.
      else if snapshot.desiredRevision ≠ some reviewed ∨
          e.reviewedDigest.isSome ∧ snapshot.desiredDigest ≠ e.reviewedDigest then
        ({ e with redeploy := { e.redeploy with phase := .conflict } }, [])
      else
        let requestId := e.redeploy.requestId.getD e.store.minted
        let request : DeployRequest := ⟨sessionId, requestId, reviewed⟩
        ({ e with
          store := if e.redeploy.requestId.isSome then e.store else e.mint
          redeploy := ⟨.saving, some requestId⟩
          redeploys := e.redeploys ++ [⟨request, snapshot⟩] }, [.redeploy request])
    | _, _ => (e, [])

/-- `confirmRedeploy`, from the answer on. -/
def redeployAnswered (e : TuningEditor) (index : Nat) (answer : PostAnswer) : TuningEditor :=
  match e.redeploys[index]? with
  | none => e
  | some awaited =>
    let e := { e with redeploys := e.redeploys.eraseIdx index }
    match answer with
    | .reply reply => { e with
        store := e.store.answeredWith reply awaited.snapshot
        redeploy := ⟨TuningStore.outcomePhase reply.outcome, some awaited.request.requestId⟩ }
    | _ => { e with redeploy := ⟨.unknown, some awaited.request.requestId⟩ }

end TuningEditor

/-! ### The editor as a machine -/

/-- One action, or one answer. -/
def editorStep (bundled : Registry) (number : String → PyFloat) (e : TuningEditor) :
    EditorEvent → TuningEditor × List EditorSent
  | .store event =>
    let (store, sent) := tuningStep bundled number e.store event
    ({ e with store := store }, sent.map .store)
  | .connectionLost => ({ e with store := e.store.connectionLost }, [])
  | .applyLive ambient => e.applyLive ambient
  | .applyAnswered index answer => (e.applyAnswered index answer, [])
  | .openRedeploy => (e.openRedeploy, [])
  | .confirmRedeploy ambient => e.confirmRedeploy ambient
  | .redeployAnswered index answer => (e.redeployAnswered index answer, [])

def tuningEditor (bundled : Registry) (number : String → PyFloat) :
    Machine TuningEditor EditorEvent EditorSent where
  step := editorStep bundled number

end PatrolBot.Tuning
