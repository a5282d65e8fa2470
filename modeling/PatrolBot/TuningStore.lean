import PatrolBot.Library.Machine
import PatrolBot.TuningBatch

/-!
# The browser's tuning store

`stores/tuningStore.ts`: drafts are typed against a snapshot, committed group
by group, and every save or restore carries an idempotency key that is kept
for a retry.  An action runs alone up to the request it sends; the answer is
an event of its own, and any other action may come in between.  A key is a
number here: `newRequestId` never repeats, so a fresh one is the next number.
-/

namespace PatrolBot.Tuning

/-! ### Numbers an operator types -/

def dropSign : List Char → List Char
  | '+' :: rest => rest
  | '-' :: rest => rest
  | text => text

/-- `([eE][+-]?\d+)?` up to the end of the text. -/
def exponentEnds : List Char → Bool
  | [] => true
  | c :: rest =>
    (c == 'e' || c == 'E') && !(dropSign rest).isEmpty && (dropSign rest).all Char.isDigit

/-- `COMPLETE_NUMBER`. -/
def completeNumber (text : List Char) : Bool :=
  let unsigned := dropSign text
  let whole := unsigned.takeWhile Char.isDigit
  match unsigned.dropWhile Char.isDigit with
  | '.' :: rest =>
    !(rest.takeWhile Char.isDigit).isEmpty && exponentEnds (rest.dropWhile Char.isDigit)
  | rest => !whole.isEmpty && exponentEnds rest

/-- The bounds as the browser reads them. -/
def withinBounds (bounds : Bounds) (value : ℚ) : Bool :=
  (match bounds.lower with
    | none => true
    | some lower =>
      if bounds.lowerInclusive then decide (lower ≤ value) else decide (lower < value)) &&
  (match bounds.upper with
    | none => true
    | some upper =>
      if bounds.upperInclusive then decide (value ≤ upper) else decide (value < upper))

/-! ### What the store holds -/

abbrev RequestId := Nat

/-- `NormalizedSnapshot`, as far as the actions read it. -/
structure Snapshot where
  available : Bool := true
  sessionId : Option String := none
  desiredRevision : Option Nat := none
  desiredDigest : Option String := none
  lastKnownGoodRevision : Option Nat := none
  writable : Bool := false
  activationSupported : Bool := false
  safeApplyAllowed : Bool := false
  activeKnown : Bool := false
  desired : String → Option TuningValue := fun _ => none
  active : String → Option TuningValue := fun _ => none
  committedActive : Option (String → Option TuningValue) := none
  pendingKeys : List String := []
  pendingKeysKnown : Bool := false
  pendingKeysTrustworthy : Bool := false
  entries : Registry := []
  catalogFromServer : Bool := false

/-- `SavePhase`. -/
inductive SavePhase where
  | idle
  | saving
  | saved
  | savedPending
  | conflict
  | failed
  | unknown
deriving DecidableEq

/-- A `save` request. -/
structure SaveRequest where
  sessionId : String
  requestId : RequestId
  baseRevision : Nat
  changes : List BatchChange
deriving DecidableEq

/-- A `restore` request. -/
structure RestoreRequest where
  sessionId : String
  requestId : RequestId
  expectedRevision : Nat
  restoreRevision : Nat
deriving DecidableEq

/-- A `post` whose answer is awaited, with the fields it was sent for. -/
structure AwaitedSave where
  request : SaveRequest
  ids : List String

/-- A `confirmRestore` that awaits its answer, with the snapshot it acts on. -/
structure AwaitedRestore where
  request : RestoreRequest
  snapshot : Snapshot

/-- A `load` that awaits its snapshot. -/
structure AwaitedLoad where
  number : Nat
  robotId : String
  started : ℚ

/-- A `resolveUnknownSave` that awaits the durable job, or the load after it. -/
inductive Resolving where
  | job (group : String)
  | load (group : String) (confirms : Bool) (number : Nat)

/-- `RestoreState`: the phase and the key of the last restore. -/
structure RestoreState where
  phase : SavePhase := .idle
  requestId : Option RequestId := none

structure TuningStore where
  snapshot : Option Snapshot := none
  receivedAt : Option ℚ := none
  drafts : List (String × String) := []
  savePhase : String → SavePhase := fun _ => .idle
  saveRequestIds : String → Option RequestId := fun _ => none
  draftBaseRevision : Option Nat := none
  conflictIds : List String := []
  restore : RestoreState := {}
  restoreTarget : Option Nat := none
  restoreBase : Option Nat := none
  restoreSession : Option String := none
  saves : List AwaitedSave := []
  restores : List AwaitedRestore := []
  loads : List AwaitedLoad := []
  resolving : List Resolving := []
  minted : Nat := 0
  loaded : Nat := 0

/-! ### Answers and actions -/

/-- `TuningOutcome`. -/
inductive TuningOutcome where
  | ok
  | conflict
  | refused
  | failed
  | unknown
deriving DecidableEq

/-- `TuningResponse`; the id it names need not be a key of this browser. -/
structure TuningReply where
  requestId : Option RequestId
  outcome : TuningOutcome
  snapshot : Option Snapshot := none

/-- How a request that was posted ends. -/
inductive PostAnswer where
  | reply (reply : TuningReply)
  | refused (status : Nat)
  | unreachable

/-- What the action reads of the other stores and of the clock. -/
structure Ambient where
  robotId : String := "robot"
  isAdministrator : Bool := true
  wsConnected : Bool := true
  now : ℚ := 0

/-- The durable job of `fetchTuningJob`, or the failure to fetch it. -/
inductive JobAnswer where
  | record (done : Bool) (outcome : TuningOutcome)
  | failed

inductive StoreEvent where
  | setDraft (id text : String)
  | clearDraft (id : String)
  | discardAllDrafts
  | load (ambient : Ambient)
  | loaded (number : Nat) (snapshot : Snapshot) (ambient : Ambient)
  | commitGroup (group : String) (ambient : Ambient)
  | answered (index : Nat) (answer : PostAnswer) (ambient : Ambient)
  | resolveUnknownSave (group : String)
  | jobFetched (index : Nat) (answer : JobAnswer) (ambient : Ambient)
  | resolved (index : Nat)
  | openRestore
  | confirmRestore (ambient : Ambient)
  | restoreAnswered (index : Nat) (answer : PostAnswer)

/-- The requests that leave the browser. -/
inductive Sent where
  | save (request : SaveRequest)
  | restore (request : RestoreRequest)
deriving DecidableEq

namespace TuningStore

/-! ### Helpers -/

/-- `Object.keys(drafts)`. -/
def dirty (s : TuningStore) : List String := s.drafts.map Prod.fst

/-- `withPhase`. -/
def withPhase (current : String → SavePhase) (ids : List String) (phase : SavePhase) :
    String → SavePhase := fun id => if id ∈ ids then phase else current id

/-- `[...new Set([...conflictIds, ...ids])]`. -/
def withConflicts (s : TuningStore) (ids : List String) : List String :=
  (s.conflictIds ++ ids).foldl (fun held id => if id ∈ held then held else held ++ [id]) []

/-- `delete drafts[id]` for every id. -/
def dropDrafts (drafts : List (String × String)) (ids : List String) : List (String × String) :=
  drafts.filter fun draft => !ids.contains draft.1

/-- `fail`: the outcome of the fields is unknown. -/
def fail (s : TuningStore) (ids : List String) : TuningStore :=
  { s with savePhase := withPhase s.savePhase ids .unknown }

section Bundled

-- The bundled catalog, and `Number` on a complete numeral.
variable (bundled : Registry) (number : String → PyFloat)

/-- `entries.find(...) ?? registryEntry(id)`. -/
def entryFor (entries : Registry) (id : String) : Option Parameter :=
  (entries.find? (·.id = id)).or (bundled.find? (·.id = id))

/-- `parseNumericInput`. -/
def parseNumericInput (text : String) (entry : Parameter) : Option ℚ :=
  let trimmed := strip text
  if trimmed = "" then none
  else if !completeNumber trimmed.toList then none
  else match number trimmed with
  | .finite value =>
    if entry.type = .integer ∧ value.den ≠ 1 then none
    else if withinBounds entry.bounds value then some value else none
  | _ => none

/-- `parameterPending`. -/
def parameterPending (snapshot : Snapshot) (entry : Parameter) : Bool :=
  if !snapshot.available || snapshot.desiredRevision.isNone || !entry.acceptsEdits ||
      entry.isProtected || entry.notApplicable then false
  else if snapshot.pendingKeysKnown && snapshot.pendingKeysTrustworthy then
    snapshot.pendingKeys.contains entry.id
  else
    let baseline := snapshot.committedActive.or
      (if snapshot.activeKnown then some snapshot.active else none)
    match baseline.bind fun values => values entry.id with
    | none => false
    | some before =>
      (snapshot.desired entry.id).isSome && snapshot.desired entry.id != some before

/-- `savedPhaseFor`. -/
def savedPhaseFor (snapshot : Snapshot) (entry : Parameter) : SavePhase :=
  if !snapshot.available || snapshot.desiredRevision.isNone then .idle
  else if parameterPending snapshot entry then .savedPending else .saved

/-! ### Composing a batch -/

/-- The drafts of a group, in the order they were begun. -/
def groupIds (s : TuningStore) (entries : Registry) (group : String) : List String :=
  s.dirty.filter fun id => (entryFor bundled entries id).any fun entry => entry.group == group

/-- The loop over the drafts of `commitGroup`: the changes, or the field that
    is invalid. -/
def composeChanges (s : TuningStore) (entries : Registry) :
    List String → Except String (List BatchChange)
  | [] => .ok []
  | id :: ids =>
    match entryFor bundled entries id with
    | none => .error id
    | some entry =>
      if !entry.acceptsEdits || entry.isProtected || entry.notApplicable then .error id
      else match parseNumericInput number ((s.drafts.lookup id).getD "") entry with
      | none => .error id
      | some value => match composeChanges s entries ids with
        | .error invalid => .error invalid
        | .ok changes => .ok (⟨id, .number (.finite value)⟩ :: changes)

/-- What `commitGroup` would send for a group: its changes and the revision they
    are based on. -/
def batch (s : TuningStore) (group : String) : Option (List BatchChange × Nat) :=
  match s.snapshot with
  | none => none
  | some snapshot =>
    match composeChanges bundled number s snapshot.entries
        (groupIds bundled s snapshot.entries group), snapshot.desiredRevision with
    | .ok changes, some baseRevision => some (changes, baseRevision)
    | _, _ => none

/-! ### Actions -/

/-- `commitGroup`. -/
def commitGroup (s : TuningStore) (group : String) (ambient : Ambient) :
    TuningStore × List Sent :=
  match s.snapshot with
  | none => (s, [])
  | some snapshot =>
    if !ambient.isAdministrator || !ambient.wsConnected || !snapshot.writable then (s, [])
    else
      let ids := groupIds bundled s snapshot.entries group
      match snapshot.sessionId with
      | none => (s, [])
      | some sessionId =>
        if !snapshot.available || ids.isEmpty then (s, [])
        else if ids.any fun id => s.conflictIds.contains id || s.savePhase id == .unknown ||
            s.savePhase id == .saving then (s, [])
        else match composeChanges bundled number s snapshot.entries ids with
        -- A batch is validated as a whole; nothing is sent.
        | .error invalid => ({ s with savePhase := withPhase s.savePhase [invalid] .failed }, [])
        | .ok changes =>
          match validateBatch changes (effectiveValues snapshot.entries snapshot.desired)
              snapshot.entries with
          | some problem =>
            ({ s with savePhase := withPhase s.savePhase problem.ids .failed }, [])
          | none => match snapshot.desiredRevision with
            | none => ({ s with savePhase := withPhase s.savePhase ids .failed }, [])
            | some baseRevision =>
              let requestId := (s.saveRequestIds group).getD s.minted
              let request : SaveRequest := ⟨sessionId, requestId, baseRevision, changes⟩
              ({ s with
                saveRequestIds := fun other =>
                  if other = group then some requestId else s.saveRequestIds other
                minted := if (s.saveRequestIds group).isSome then s.minted else s.minted + 1
                draftBaseRevision := some baseRevision
                savePhase := withPhase s.savePhase ids .saving
                saves := s.saves ++ [⟨request, ids⟩] }, [.save request])

/-- `absorb`. -/
def absorb (s : TuningStore) (reply : TuningReply) (ids : List String) (now : ℚ) : TuningStore :=
  let snapshot := reply.snapshot.or s.snapshot
  match reply.outcome with
  | .ok =>
    let pending := ids.any fun id => snapshot.any fun snapshot =>
      (entryFor bundled snapshot.entries id).any (parameterPending snapshot)
    let phase := if reply.snapshot.isNone then .unknown
      else if pending then .savedPending else .saved
    let s := { s with
      snapshot := snapshot, receivedAt := some now, savePhase := withPhase s.savePhase ids phase }
    if reply.snapshot.isNone then s
    else { s with
      drafts := dropDrafts s.drafts ids
      draftBaseRevision := (snapshot.bind (·.desiredRevision)).or s.draftBaseRevision
      saveRequestIds := fun _ => none }
  | .conflict => { s with
      snapshot := snapshot, savePhase := withPhase s.savePhase ids .conflict
      conflictIds := s.withConflicts ids }
  | .unknown => { s with snapshot := snapshot, savePhase := withPhase s.savePhase ids .unknown }
  | .refused | .failed =>
    { s with snapshot := snapshot, savePhase := withPhase s.savePhase ids .failed }

/-- The reply confirms this exact request. -/
def confirms (request : SaveRequest) (reply : TuningReply) : Bool :=
  decide (reply.requestId = some request.requestId) &&
    (decide (reply.outcome ≠ .ok) || reply.snapshot.any fun snapshot =>
      snapshot.available &&
        request.changes.all fun change => snapshot.desired change.id == some change.value)

/-- `post`, from the answer on. -/
def answered (s : TuningStore) (index : Nat) (answer : PostAnswer) (ambient : Ambient) :
    TuningStore :=
  match s.saves[index]? with
  | none => s
  | some save =>
    let s := { s with saves := s.saves.eraseIdx index }
    match answer with
    | .reply reply =>
      if confirms save.request reply then absorb bundled s reply save.ids ambient.now
      else s.fail save.ids
    | .refused status =>
      -- A 4xx is a definite refusal; a 5xx is an unknown state.
      if 400 ≤ status ∧ status < 500 then
        { s with savePhase := withPhase s.savePhase save.ids .failed }
      else s.fail save.ids
    | .unreachable => s.fail save.ids

/-- `load`, up to its request: a pending load of the same robot is shared. -/
def beginLoad (s : TuningStore) (ambient : Ambient) : TuningStore × Nat :=
  match s.loads.find? (·.robotId = ambient.robotId) with
  | some pending => (s, pending.number)
  | none =>
    ({ s with loads := s.loads ++ [⟨s.loaded, ambient.robotId, ambient.now⟩]
              loaded := s.loaded + 1 }, s.loaded)

/-- `load`, from its snapshot on. -/
def finishLoad (s : TuningStore) (pending : AwaitedLoad) (snapshot : Snapshot)
    (ambient : Ambient) : TuningStore :=
  if pending.robotId ≠ ambient.robotId ∨
      (s.receivedAt.any fun received => decide (received > pending.started)) then s
  else match snapshot.available, s.snapshot.filter (·.catalogFromServer) with
  | false, some previous =>
    -- Confirmed targets stay visible; all writes stay off.
    { s with snapshot := some { previous with
        available := false, writable := false, activationSupported := false,
        safeApplyAllowed := false } }
  | _, _ =>
    let moved := !s.dirty.isEmpty &&
      ((s.draftBaseRevision.any fun base =>
          snapshot.desiredRevision.any fun revision => revision != base) ||
        (s.snapshot.bind (·.sessionId)).any fun session => snapshot.sessionId != some session)
    let phases : String → SavePhase := fun id =>
      if s.savePhase id = .saved ∨ s.savePhase id = .savedPending then
        match entryFor bundled snapshot.entries id with
        | none => .idle
        | some entry => savedPhaseFor snapshot entry
      else s.savePhase id
    { s with
      snapshot := some snapshot
      receivedAt := some ambient.now
      draftBaseRevision := s.draftBaseRevision.or snapshot.desiredRevision
      conflictIds := if moved then s.withConflicts s.dirty else s.conflictIds
      savePhase := if moved then withPhase phases s.dirty .conflict else phases }

/-- The awaited load answers. -/
def loadAnswered (s : TuningStore) (index : Nat) (snapshot : Snapshot) (ambient : Ambient) :
    TuningStore :=
  match s.loads.find? (·.number = index) with
  | none => s
  | some pending =>
    finishLoad bundled { s with loads := s.loads.filter (·.number ≠ index) } pending snapshot
      ambient

/-- `resolveUnknownSave`, from the durable job on. -/
def jobFetched (s : TuningStore) (index : Nat) (answer : JobAnswer) (ambient : Ambient) :
    TuningStore :=
  match s.resolving[index]? with
  | some (.job group) =>
    let s := { s with resolving := s.resolving.eraseIdx index }
    match answer with
    | .record true outcome =>
      if outcome = .unknown then s
      else
        let (s, number) := s.beginLoad ambient
        { s with resolving := s.resolving ++ [.load group (decide (outcome = .ok)) number] }
    -- A query failure is never permission to replay.
    | _ => s
  | _ => s

/-- `resolveUnknownSave`, from the load on. -/
def resolved (s : TuningStore) (index : Nat) : TuningStore :=
  match s.resolving[index]? with
  | some (.load group positive awaited) =>
    if s.loads.any fun pending => pending.number == awaited then s
    else
      let s := { s with resolving := s.resolving.eraseIdx index }
      let ids := s.dirty.filter fun id =>
        (bundled.find? (·.id = id)).any fun entry => entry.group == group
      let confirmed := positive && s.snapshot.any fun snapshot => snapshot.available &&
        ids.all fun id => ((bundled.find? (·.id = id)).bind
          (parseNumericInput number ((s.drafts.lookup id).getD ""))).any fun value =>
            snapshot.desired id == some (.number (.finite value))
      if confirmed then { s with
        drafts := dropDrafts s.drafts ids
        savePhase := withPhase s.savePhase ids .savedPending
        saveRequestIds := fun _ => none }
      else { s with
        savePhase := withPhase s.savePhase ids .conflict
        conflictIds := s.withConflicts ids }
  | _ => s

end Bundled

/-- `setDraft`: an edited draft keeps its place. -/
def setDraft (s : TuningStore) (id text : String) : TuningStore :=
  { s with
    drafts := insertAt id text s.drafts
    savePhase := fun other => if other = id then .idle else s.savePhase other }

/-- `clearDraft`. -/
def clearDraft (s : TuningStore) (id : String) : TuningStore :=
  { s with
    drafts := dropDrafts s.drafts [id]
    conflictIds := s.conflictIds.filter (· ≠ id) }

/-- `discardAllDrafts`. -/
def discardAllDrafts (s : TuningStore) : TuningStore :=
  { s with drafts := [], conflictIds := [], savePhase := fun _ => .idle }

/-- `openRestore`: what is reviewed is taken from the snapshot. -/
def openRestore (s : TuningStore) : TuningStore :=
  { s with
    restoreTarget := s.snapshot.bind (·.lastKnownGoodRevision)
    restoreBase := s.snapshot.bind (·.desiredRevision)
    restoreSession := s.snapshot.bind (·.sessionId) }

/-- `confirmRestore`, up to its request. -/
def confirmRestore (s : TuningStore) (ambient : Ambient) : TuningStore × List Sent :=
  match s.snapshot with
  | none => (s, [])
  | some snapshot =>
    match snapshot.sessionId, snapshot.desiredRevision, s.restoreTarget with
    | some sessionId, some desiredRevision, some target =>
      if !snapshot.available then (s, [])
      else if !ambient.isAdministrator || !ambient.wsConnected || !snapshot.activationSupported ||
          !snapshot.safeApplyAllowed || s.restore.phase == .saving ||
          s.restore.phase == .unknown || s.restore.phase == .saved then (s, [])
      else if some sessionId ≠ s.restoreSession ∨ some desiredRevision ≠ s.restoreBase ∨
          snapshot.lastKnownGoodRevision ≠ some target then
        ({ s with restore := { s.restore with phase := .conflict } }, [])
      else
        let requestId := s.restore.requestId.getD s.minted
        let request : RestoreRequest := ⟨sessionId, requestId, desiredRevision, target⟩
        ({ s with
          restore := ⟨.saving, some requestId⟩
          minted := if s.restore.requestId.isSome then s.minted else s.minted + 1
          restores := s.restores ++ [⟨request, snapshot⟩] }, [.restore request])
    | _, _, _ => (s, [])

/-- The phase an outcome of a restore is shown as. -/
def outcomePhase : TuningOutcome → SavePhase
  | .ok => .saved
  | .conflict => .conflict
  | .unknown => .unknown
  | .refused | .failed => .failed

/-- `confirmRestore`, from the answer on. -/
def restoreAnswered (s : TuningStore) (index : Nat) (answer : PostAnswer) : TuningStore :=
  match s.restores[index]? with
  | none => s
  | some restore =>
    let s := { s with restores := s.restores.eraseIdx index }
    match answer with
    | .reply reply => { s with
        snapshot := some (reply.snapshot.getD restore.snapshot)
        restore := ⟨outcomePhase reply.outcome, some restore.request.requestId⟩ }
    | _ => { s with restore := ⟨.unknown, some restore.request.requestId⟩ }

end TuningStore

/-! ### The store as a machine -/

open TuningStore in
/-- One action, or one answer. -/
def tuningStep (bundled : Registry) (number : String → PyFloat) (s : TuningStore) :
    StoreEvent → TuningStore × List Sent
  | .setDraft id text => (s.setDraft id text, [])
  | .clearDraft id => (s.clearDraft id, [])
  | .discardAllDrafts => (s.discardAllDrafts, [])
  | .load ambient => ((s.beginLoad ambient).1, [])
  | .loaded index snapshot ambient => (loadAnswered bundled s index snapshot ambient, [])
  | .commitGroup group ambient => commitGroup bundled number s group ambient
  | .answered index answer ambient => (answered bundled s index answer ambient, [])
  | .resolveUnknownSave group =>
    -- Without a key there is no job to ask for.
    if (s.saveRequestIds group).isSome then
      ({ s with resolving := s.resolving ++ [.job group] }, [])
    else (s, [])
  | .jobFetched index answer ambient => (s.jobFetched index answer ambient, [])
  | .resolved index => (resolved bundled number s index, [])
  | .openRestore => (s.openRestore, [])
  | .confirmRestore ambient => s.confirmRestore ambient
  | .restoreAnswered index answer => (s.restoreAnswered index answer, [])

def tuningStore (bundled : Registry) (number : String → PyFloat) :
    Machine TuningStore StoreEvent Sent where
  step := tuningStep bundled number

end PatrolBot.Tuning
