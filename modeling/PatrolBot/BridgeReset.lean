import PatrolBot.Library.Machine
import PatrolBot.Py

/-!
# The bridge's client of the host supervisor

`patrolbot_web_bridge/system_reset.py`: the requests that come from the dashboard,
the thread that hands them to the supervisor and polls its status, and the hold on
ordinary commands that stands from a request until its outcome is known.
-/

namespace PatrolBot.Bridge

/-! ### Identifiers -/

def isHex (c : Char) : Bool :=
  ('0' ≤ c && c ≤ '9') || ('a' ≤ c && c ≤ 'f') || ('A' ≤ c && c ≤ 'F')

/-- `text.replace(pattern, "")`; the number is what is left to skip of a match. -/
def without (pattern : List Char) : Nat → List Char → List Char
  | _, [] => []
  | skip + 1, _ :: text => without pattern skip text
  | 0, c :: text =>
    if pattern.isPrefixOf (c :: text) then without pattern (pattern.length - 1) text
    else c :: without pattern 0 text

/-- `text.strip(dropped)`. -/
def trimmed (dropped : Char → Bool) (text : List Char) : List Char :=
  ((text.dropWhile dropped).reverse.dropWhile dropped).reverse

/-- Hexadecimal digits, with single underscores between them. -/
def hexDigits : List Char → Bool
  | [] => false
  | [c] => isHex c
  | c :: '_' :: text => isHex c && hexDigits text
  | c :: text => isHex c && hexDigits text

/-- Whether `int(text, 16)` returns, for ASCII text without a minus sign. -/
def hexNumber (text : List Char) : Bool :=
  let unsigned := match trimmed isSpace text with
    | '+' :: text => text
    | text => text
  match unsigned with
  | '0' :: x :: '_' :: text => if x = 'x' ∨ x = 'X' then hexDigits text else hexDigits unsigned
  | '0' :: x :: text => if x = 'x' ∨ x = 'X' then hexDigits text else hexDigits unsigned
  | text => hexDigits text

/-- Whether `UUID(text)` returns. -/
def isUuid (text : String) : Bool :=
  let bare := without "uuid:".toList 0 (without "urn:".toList 0 text.toList)
  let hex := (trimmed (fun c => c == '{' || c == '}') bare).filter (· != '-')
  hex.length == 32 && hexNumber hex

/-! ### Replies of the supervisor -/

/-- The states of a request, the terminal ones last. -/
inductive ResetPhase where
  | accepted
  | running
  | succeeded
  | failed
  | uncertain
deriving DecidableEq

namespace ResetPhase

def ofText : String → Option ResetPhase
  | "accepted" => some accepted
  | "running" => some running
  | "succeeded" => some succeeded
  | "failed" => some failed
  | "uncertain" => some uncertain
  | _ => none

/-- The phases of `TERMINAL`. -/
def terminal : ResetPhase → Bool
  | accepted => false
  | running => false
  | succeeded => true
  | failed => true
  | uncertain => true

/-- The outcome a terminal phase is told as. -/
def outcome : ResetPhase → String
  | accepted => "accepted"
  | running => "running"
  | succeeded => "succeeded"
  | failed => "failed"
  | uncertain => "timeout"

/-- The phases that settle a request. -/
def settled (phase : ResetPhase) : Bool :=
  phase = succeeded || phase = failed

end ResetPhase

abbrev Fields := List (String × Json)

/-- What a status reply says. -/
inductive ResetStatus where
  | idle
  | of (id : String) (phase : ResetPhase)

/-- The reading of a status reply; `none` is a `ValueError` or a `TypeError`. -/
def statusOf (reply : Fields) : Option ResetStatus :=
  match Json.get reply "state", Json.get reply "request_id" with
  | .str "idle", _ => some .idle
  | .str state, .str id => if isUuid id then (ResetPhase.ofText state).map (.of id) else none
  | _, _ => none

/-- The last check of `exchange`; `none` also stands for every failure before it. -/
def exchange : Option Json → Option Fields
  | some (.obj reply) =>
    match Json.get reply "ok" with
    | .bool _ => some reply
    | _ => none
  | _ => none

/-- `reply['ok'] is True`. -/
def replyOk (reply : Fields) : Bool :=
  (Json.get reply "ok").isTrue

/-- `reply.get('request_id') == command_id`. -/
def repliesTo (reply : Fields) (id : String) : Bool :=
  match Json.get reply "request_id" with
  | .str other => other == id
  | _ => false

/-! ### The client -/

/-- A frame to the server, or the exception of a full queue. -/
inductive ResetOutput where
  | ack (id : String) (accepted : Bool) (reason : Json)
  | progress (id stage detail : String)
  | result (id outcome detail : String)
  | full

/-- Where the status thread stands. -/
inductive StatusThread where
  | idle
  /-- `_submit` waits for the supervisor's answer. -/
  | submitting (id : String)
  /-- `poll` has an answer it has not reported yet. -/
  | reporting (reply : Fields)

/-- What `_last_status` remembers. -/
structure StatusKey where
  id : String
  phase : ResetPhase
  message : Json
  connection : ℚ

/-- `key == self._last_status`. -/
def StatusKey.same (left right : StatusKey) : Bool :=
  left.id == right.id && left.phase == right.phase && Json.equal left.message right.message &&
    left.connection == right.connection

/-- The client's connection: `ws.connected` and `ws.stats["last_connect_mono"]`. -/
structure Link where
  connected : Bool
  connection : ℚ

structure SystemResetClient where
  path : String
  available : Bool := false
  busy : Bool := true
  uncertain : Bool := false
  pendingId : Option String := none
  /-- The queue of at most one request. -/
  requests : Option String := none
  lastStatus : Option StatusKey := none
  thread : StatusThread := .idle

/-- A call of `request`, or a step of the status thread. -/
inductive ResetEvent where
  | request (data : Fields)
  /-- The thread takes the queued request. -/
  | take
  /-- The supervisor's answer to the request taken, or the lack of it. -/
  | submitted (answer : Option Json) (link : Link)
  /-- The supervisor's answer to a poll, or the lack of it. -/
  | polled (answer : Option Json)
  /-- The thread reports the answer to its poll. -/
  | reported (link : Link)

namespace SystemResetClient

section

variable (repr : Json → String) (client : SystemResetClient)

def commandsBlocked : Bool :=
  client.busy || client.uncertain

/-- `str(data.get('command_id', ''))`. -/
def commandId (data : Fields) : String :=
  match Json.lookup "command_id" data with
  | some value => value.shown repr
  | none => ""

/-- The reason a request is turned away for, in the order of the checks. -/
def refusal (data : Fields) : Option String :=
  if isUuid (commandId repr data) = false then some "Invalid reset request identifier."
  else if (Json.get data "operator_authorized").isTrue = false then
    some "Operator authorization is required."
  else if client.available = false ∨ client.path = "" then
    some "Software reset is not commissioned or the supervisor is unavailable."
  else if client.busy = true ∧ client.uncertain = false then
    some "A software reset is already running. Wait for it to finish."
  else none

def request (data : Fields) : SystemResetClient × List ResetOutput :=
  match client.refusal repr data with
  | some reason => (client, [.ack (commandId repr data) false (.str reason)])
  | none =>
    let held := { client with
      busy := true, uncertain := false, pendingId := some (commandId repr data) }
    match client.requests with
    | none => ({ held with requests := some (commandId repr data) }, [])
    | some _ => (held, [.full])

/-- A report of a phase that is not about another request than the pending one. -/
def settle (phase : ResetPhase) : SystemResetClient :=
  { client with
    busy := !phase.terminal
    uncertain := decide (phase = .uncertain)
    pendingId := if phase.terminal then none else client.pendingId }

/-- What is told of a phase, once a connection. -/
def announce (id : String) (phase : ResetPhase) (message : Json) (link : Link) :
    SystemResetClient × List ResetOutput :=
  let key : StatusKey := ⟨id, phase, message, link.connection⟩
  if client.lastStatus.any key.same = true ∨ link.connected = false then (client, [])
  else
    let text := if message.truthy then message.shown repr else "Software reset in progress."
    let detail := String.ofList (text.toList.take 1024)
    ({ client with lastStatus := some key },
      [if phase.terminal then .result id phase.outcome detail
       else .progress id "restarting" detail])

/-- `_report`; `none` is the exception of an invalid status. -/
def report (reply : Fields) (link : Link) : Option (SystemResetClient × List ResetOutput) :=
  match statusOf reply with
  | none => none
  | some .idle =>
    if client.uncertain = false ∧ client.pendingId = none ∧ client.requests = none then
      some ({ client with busy := false }, [])
    else some (client, [])
  | some (.of id phase) =>
    if client.pendingId.any (· != id) then some (client, [])
    else some ((client.settle phase).announce repr id phase (Json.get reply "message") link)

/-- The outcome of a submission is not known. -/
def lose (id : String) : SystemResetClient × List ResetOutput :=
  ({ client with available := false, uncertain := true },
    [.progress id "reset_outcome_unknown" ("Reset outcome unknown. No automatic retry; " ++
      "confirm a new reset to try again.")])

/-- `_submit`, once the supervisor has answered. -/
def submit (id : String) (answer : Option Json) (link : Link) :
    SystemResetClient × List ResetOutput :=
  match exchange answer with
  | none => client.lose id
  | some reply =>
    let ack := .ack id (replyOk reply) (Json.get reply "message")
    if replyOk reply = false then ({ client with pendingId := none }, [ack])
    else if repliesTo reply id = false then client.lose id
    else match client.report repr reply link with
      | some (client, outputs) => (client, ack :: outputs)
      | none =>
        let (client, outputs) := client.lose id
        (client, ack :: outputs)

/-- One event; a step of the thread out of its turn does nothing. -/
def step : ResetEvent → SystemResetClient × List ResetOutput
  | .request data => client.request repr data
  | .take =>
    match client.thread, client.requests with
    | .idle, some id => ({ client with requests := none, thread := .submitting id }, [])
    | _, _ => (client, [])
  | .submitted answer link =>
    match client.thread with
    | .submitting id => { client with thread := .idle }.submit repr id answer link
    | _ => (client, [])
  | .polled answer =>
    match client.thread with
    | .idle =>
      match exchange answer with
      | some reply =>
        if replyOk reply then ({ client with available := true, thread := .reporting reply }, [])
        else ({ client with available := false }, [])
      | none => ({ client with available := false }, [])
    | _ => (client, [])
  | .reported link =>
    match client.thread with
    | .reporting reply =>
      let idle := { client with thread := .idle }
      (idle.report repr reply link).getD ({ idle with available := false }, [])
    | _ => (client, [])

end

/-! ### The requests the hold stands for -/

/-- The reply an event reports. -/
def reportedBy (client : SystemResetClient) : ResetEvent → Option Fields
  | .submitted answer _ =>
    match client.thread, exchange answer with
    | .submitting id, some reply =>
      if replyOk reply && repliesTo reply id then some reply else none
    | _, _ => none
  | .reported _ =>
    match client.thread with
    | .reporting reply => some reply
    | _ => none
  | _ => none

/-- The request the supervisor refuses with an event. -/
def refusedBy (client : SystemResetClient) : ResetEvent → Option String
  | .submitted answer _ =>
    match client.thread, exchange answer with
    | .submitting id, some reply => if replyOk reply then none else some id
    | _, _ => none
  | _ => none

/-- A report settles the request it names; one that says the outcome of a request is
    uncertain makes the hold stand for it too, unless it is about another request than
    the pending one. -/
def noted (client : SystemResetClient) (held : List String) (reply : Fields) : List String :=
  match statusOf reply with
  | some (.of id phase) =>
    if phase.settled then held.filter (· != id)
    else if phase = .uncertain ∧ (client.pendingId.any (· != id)) = false then held.insert id
    else held
  | _ => held

/-- The requests without an outcome: the one accepted last, until the supervisor has
    refused it or a report has settled it, and those reported uncertain, until a report
    has settled them. -/
def unsettled (repr : Json → String) (client : SystemResetClient) (held : List String) :
    ResetEvent → List String
  | .request data =>
    if client.refusal repr data = none ∧ client.requests = none then [commandId repr data] else held
  | event =>
    match client.refusedBy event, client.reportedBy event with
    | some id, _ => held.filter (· != id)
    | none, some reply => client.noted held reply
    | none, none => held

/-- The client, beside the requests without an outcome. -/
def watched (repr : Json → String) :
    Machine (SystemResetClient × List String) ResetEvent ResetOutput where
  step state event :=
    (((state.1.step repr event).1, state.1.unsettled repr state.2 event),
      (state.1.step repr event).2)

/-- The hold stands while a request is without an outcome, and no request finds the
    queue full. -/
def Stands (repr : Json → String) (client : SystemResetClient) (held : List String) : Prop :=
  (held ≠ [] → client.commandsBlocked = true) ∧
    ∀ data, .full ∉ (client.request repr data).2

/-- What a report must not say: when the client has no pending request, that another
    request than those held is settled, or that there is none while the hold is not an
    uncertain one; and, of a request still queued, that it has ended. -/
structure Steady (client : SystemResetClient) (held : List String) (event : ResetEvent) :
    Prop where
  idle : ∀ reply, client.reportedBy event = some reply → statusOf reply = some .idle →
    client.pendingId = none → client.uncertain = false → held = []
  settled : ∀ reply id phase, client.reportedBy event = some reply →
    statusOf reply = some (.of id phase) → phase.settled = true → client.pendingId = none →
    ∀ other ∈ held, other = id
  queued : ∀ reply id phase, client.reportedBy event = some reply →
    statusOf reply = some (.of id phase) → phase.terminal = true → client.requests ≠ some id

/-! ### One step -/

/-- Where a request can be.  One that is queued or with the supervisor is the pending
    one, and the hold is a running one; a pending request is the only one held. -/
structure Kept (client : SystemResetClient) (held : List String) : Prop where
  pending : ∀ id, client.pendingId = some id → held = [id] ∧ client.busy = true
  queued : ∀ id, client.requests = some id → client.pendingId = some id ∧
    client.uncertain = false ∧ client.path ≠ "" ∧ ∀ other, client.thread ≠ .submitting other
  submitting : ∀ id, client.thread = .submitting id → client.pendingId = some id ∧
    client.uncertain = false ∧ client.requests = none
  reporting : ∀ reply, client.thread = .reporting reply → client.available = true

section

variable {repr : Json → String} {client : SystemResetClient} {held : List String}

theorem refusal_eq_none {data : Fields} :
    client.refusal repr data = none ↔
      isUuid (commandId repr data) = true ∧
      (Json.get data "operator_authorized").isTrue = true ∧
      (client.available = true ∧ client.path ≠ "") ∧
      (client.busy = true → client.uncertain = true) := by
  simp only [refusal]
  split
  · simp_all
  · split
    · simp_all
    · split
      · rename_i hpath
        simp only [reduceCtorEq, false_iff]
        rintro ⟨_, _, ⟨havailable, hnamed⟩, _⟩
        rcases hpath with hpath | hpath
        · rw [havailable] at hpath
          cases hpath
        · exact hnamed hpath
      · split <;> simp_all

theorem full_mem_request {data : Fields} :
    .full ∈ (client.request repr data).2 ↔
      client.refusal repr data = none ∧ client.requests ≠ none := by
  simp only [request]
  cases client.refusal repr data with
  | some reason => simp
  | none => cases client.requests <;> simp

/-- With an empty queue only the hold matters. -/
theorem stands_iff_of_empty (h : client.requests = none) :
    Stands repr client held ↔ (held ≠ [] → client.commandsBlocked = true) := by
  simp [Stands, full_mem_request, h]

/-- Under a running hold every request is turned away before the queue. -/
theorem stands_of_running (hbusy : client.busy = true) (hcertain : client.uncertain = false) :
    Stands repr client held := by
  constructor
  · intro _
    simp [commandsBlocked, hbusy]
  · intro data hfull
    have hfree := (refusal_eq_none.mp (full_mem_request.mp hfull).1).2.2.2 hbusy
    rw [hcertain] at hfree
    cases hfree

/-- Otherwise the next request finds a queue that is not empty full. -/
theorem not_stands_of_ended {id : String} (hqueued : client.requests = some id)
    (hid : isUuid id = true) (havailable : client.available = true) (hpath : client.path ≠ "")
    (hended : client.busy = true → client.uncertain = true) : ¬Stands repr client held := by
  intro hstands
  have hcommand : commandId repr [("command_id", .str id), ("operator_authorized", .bool true)]
      = id := by simp [commandId, Json.lookup, Json.shown]
  apply hstands.2 [("command_id", .str id), ("operator_authorized", .bool true)]
  rw [full_mem_request, refusal_eq_none, hcommand, hqueued]
  exact ⟨⟨hid, by simp [Json.get, Json.lookup, Json.isTrue], ⟨havailable, hpath⟩, hended⟩, by simp⟩

theorem isUuid_of_statusOf {reply : Fields} {id : String} {phase : ResetPhase}
    (h : statusOf reply = some (.of id phase)) : isUuid id = true := by
  unfold statusOf at h
  split at h
  · cases h
  · split at h
    · rename_i hid
      obtain ⟨_, _, hphase⟩ := Option.map_eq_some_iff.mp h
      cases hphase
      exact hid
    · cases h
  · cases h

@[simp] theorem kept_lastStatus (key : Option StatusKey) :
    Kept { client with lastStatus := key } held ↔ Kept client held :=
  ⟨fun h => ⟨h.pending, h.queued, h.submitting, h.reporting⟩,
    fun h => ⟨h.pending, h.queued, h.submitting, h.reporting⟩⟩

@[simp] theorem stands_lastStatus (key : Option StatusKey) :
    Stands repr { client with lastStatus := key } held ↔ Stands repr client held := by
  simp only [Stands, full_mem_request, refusal_eq_none, commandsBlocked]

/-- An announcement changes nothing but what was announced last. -/
theorem exists_announce (id : String) (phase : ResetPhase) (message : Json) (link : Link) :
    ∃ key, (client.announce repr id phase message link).1 = { client with lastStatus := key } := by
  simp only [announce]
  split
  · exact ⟨client.lastStatus, rfl⟩
  · exact ⟨_, rfl⟩

/-- What a report must not say of the phase of a request. -/
def Fitting (client : SystemResetClient) (held : List String) (id : String)
    (phase : ResetPhase) : Prop :=
  (phase.settled = true → client.pendingId = none → ∀ other ∈ held, other = id) ∧
    (phase.terminal = true → client.requests ≠ some id)

/-- What `noted` makes of a phase that is not about another request than the pending one. -/
def notedPhase (held : List String) (id : String) (phase : ResetPhase) : List String :=
  if phase.settled then held.filter (· != id)
  else if phase = .uncertain then held.insert id
  else held

/-- After a terminal report the hold is an uncertain one, or there is none. -/
theorem stands_settle_of_terminal (hkept : Kept client held) {id : String} {phase : ResetPhase}
    (hterminal : phase.terminal = true) (hsame : client.pendingId.any (· != id) = false)
    (hempty : client.requests = none) :
    Stands repr (client.settle phase) (notedPhase held id phase) ↔
      (phase.settled = true → client.pendingId = none → ∀ other ∈ held, other = id) := by
  have hnone : (client.settle phase).requests = none := hempty
  rw [stands_iff_of_empty hnone]
  have hfilter : (held.filter (· != id) = []) ↔ ∀ other ∈ held, other = id := by
    simp [List.filter_eq_nil_iff]
  have hsettled : (client.pendingId = none → ∀ other ∈ held, other = id) ↔
      ∀ other ∈ held, other = id := by
    constructor
    · intro h
      cases hpending : client.pendingId with
      | none => exact h hpending
      | some pending =>
        obtain ⟨rfl, -⟩ := hkept.pending pending hpending
        simpa [hpending] using hsame
    · intro h _
      exact h
  have hclear (hfree : (client.settle phase).commandsBlocked = false)
      (hphase : phase.settled = true) :
      (notedPhase held id phase ≠ [] → (client.settle phase).commandsBlocked = true) ↔
        (phase.settled = true → client.pendingId = none → ∀ other ∈ held, other = id) := by
    have hnoted : notedPhase held id phase = held.filter (· != id) := by
      simp [notedPhase, hphase]
    rw [hfree, hnoted]
    constructor
    · intro h _
      apply hsettled.mpr
      apply hfilter.mp
      by_contra hleft
      cases h hleft
    · intro h hleft
      exact absurd (hfilter.mpr (hsettled.mp (h hphase))) hleft
  cases phase with
  | accepted => cases hterminal
  | running => cases hterminal
  | succeeded => exact hclear rfl rfl
  | failed => exact hclear rfl rfl
  | uncertain => simp [commandsBlocked, settle, ResetPhase.settled]

/-- A report of a request keeps the hold and the queue exactly if it is a fitting one. -/
theorem stands_settle (hkept : Kept client held) {id : String} {phase : ResetPhase}
    (hid : isUuid id = true) (hsame : client.pendingId.any (· != id) = false)
    (havailable : client.requests ≠ none → client.available = true) :
    Stands repr (client.settle phase) (notedPhase held id phase) ↔
      Fitting client held id phase := by
  cases hterminal : phase.terminal with
  | false =>
    have hsettled : phase.settled = false := by
      cases phase <;> simp_all [ResetPhase.terminal, ResetPhase.settled]
    have hphase : phase ≠ .uncertain := by rintro rfl; cases hterminal
    apply iff_of_true
    · apply stands_of_running
      · simp [settle, hterminal]
      · simp [settle, hphase]
    · simp [Fitting, hsettled, hterminal]
  | true =>
    cases hqueued : client.requests with
    | none =>
      simp [stands_settle_of_terminal hkept hterminal hsame hqueued, Fitting, hqueued]
    | some queued =>
      obtain ⟨hpending, -, hpath, -⟩ := hkept.queued queued hqueued
      obtain rfl : queued = id := by simpa [hpending] using hsame
      have hstill : (client.settle phase).requests = some queued := hqueued
      apply iff_of_false
      · apply not_stands_of_ended hstill hid (havailable (by simp [hqueued])) hpath
        simp [settle, hterminal]
      · intro hfitting
        exact hfitting.2 hterminal hqueued

theorem kept_settle (hkept : Kept client held) {id : String} {phase : ResetPhase}
    (hsame : client.pendingId.any (· != id) = false)
    (hturn : ∀ other, client.thread ≠ .submitting other)
    (hfitting : Fitting client held id phase) :
    Kept (client.settle phase) (notedPhase held id phase) := by
  cases hterminal : phase.terminal with
  | false =>
    have hnoted : notedPhase held id phase = held := by
      cases phase <;> simp_all [ResetPhase.terminal, notedPhase, ResetPhase.settled]
    have hphase : phase ≠ .uncertain := by rintro rfl; cases hterminal
    rw [hnoted]
    constructor
    · intro pending hpending
      simp only [settle, hterminal] at hpending ⊢
      exact ⟨(hkept.pending pending (by simpa using hpending)).1, rfl⟩
    · intro queued hqueued
      obtain ⟨hpending, -, hpath, hthread⟩ := hkept.queued queued hqueued
      exact ⟨by simpa [settle, hterminal] using hpending, by simp [settle, hphase], hpath, hthread⟩
    · intro other hother
      exact absurd hother (hturn other)
    · exact hkept.reporting
  | true =>
    have hempty : client.requests = none := by
      cases hqueued : client.requests with
      | none => rfl
      | some queued =>
        have hpending := (hkept.queued queued hqueued).1
        obtain rfl : queued = id := by simpa [hpending] using hsame
        exact absurd hqueued (hfitting.2 hterminal)
    constructor
    · intro pending hpending
      simp [settle, hterminal] at hpending
    · intro queued hqueued
      simp [settle, hempty] at hqueued
    · intro other hother
      exact absurd hother (hturn other)
    · exact hkept.reporting

/-- What a reply must not say. -/
def FittingReply (client : SystemResetClient) (held : List String) (reply : Fields) : Prop :=
  (statusOf reply = some .idle → client.pendingId = none → client.uncertain = false → held = []) ∧
    ∀ id phase, statusOf reply = some (.of id phase) → Fitting client held id phase

theorem steady_iff {event : ResetEvent} :
    Steady client held event ↔
      ∀ reply, client.reportedBy event = some reply → FittingReply client held reply := by
  constructor
  · rintro ⟨hidle, hsettled, hqueued⟩ reply hreply
    exact ⟨hidle reply hreply, fun id phase hstatus =>
      ⟨hsettled reply id phase hreply hstatus, hqueued reply id phase hreply hstatus⟩⟩
  · intro h
    exact ⟨fun reply hreply => (h reply hreply).1,
      fun reply id phase hreply hstatus => ((h reply hreply).2 id phase hstatus).1,
      fun reply id phase hreply hstatus => ((h reply hreply).2 id phase hstatus).2⟩

/-- A report that does not raise keeps the hold and the queue exactly if it is a fitting
    one, and a fitting one keeps the rest. -/
theorem report_exact (hkept : Kept client held) (hstands : Stands repr client held)
    (hturn : ∀ other, client.thread ≠ .submitting other)
    (havailable : client.requests ≠ none → client.available = true) {reply : Fields}
    {link : Link} {next : SystemResetClient × List ResetOutput}
    (hreport : client.report repr reply link = some next) :
    (Stands repr next.1 (client.noted held reply) ↔ FittingReply client held reply) ∧
      (FittingReply client held reply → Kept next.1 (client.noted held reply)) := by
  unfold report at hreport
  cases hstatus : statusOf reply with
  | none => simp [hstatus] at hreport
  | some status =>
    cases status with
    | idle =>
      have hnoted : client.noted held reply = held := by simp [noted, hstatus]
      simp only [hstatus] at hreport
      rw [hnoted]
      split at hreport
      · rename_i hfree
        obtain ⟨hcertain, hpending, hempty⟩ := hfree
        obtain rfl := Option.some.inj hreport
        have hnone : ({ client with busy := false } : SystemResetClient).requests = none := hempty
        constructor
        · rw [stands_iff_of_empty hnone]
          simp [FittingReply, hstatus, hpending, hcertain, commandsBlocked]
        · intro _
          refine ⟨?_, hkept.queued, hkept.submitting, hkept.reporting⟩
          intro id hid
          rw [hpending] at hid
          cases hid
      · rename_i hbound
        obtain rfl := Option.some.inj hreport
        refine ⟨iff_of_true hstands ⟨?_, by simp [hstatus]⟩, fun _ => hkept⟩
        intro _ hpending hcertain
        have hempty : client.requests = none := by
          cases hqueued : client.requests with
          | none => rfl
          | some queued =>
            have hother := (hkept.queued queued hqueued).1
            rw [hpending] at hother
            cases hother
        exact absurd ⟨hcertain, hpending, hempty⟩ hbound
    | of id phase =>
      simp only [hstatus] at hreport
      cases hsame : client.pendingId.any (· != id) with
      | true =>
        simp only [hsame, if_true] at hreport
        obtain rfl := Option.some.inj hreport
        cases hpending : client.pendingId with
        | none => simp [hpending] at hsame
        | some pending =>
          have hother : pending ≠ id := by simpa [hpending] using hsame
          obtain ⟨hheld, -⟩ := hkept.pending pending hpending
          have hnoted : client.noted held reply = held := by
            simp [noted, hstatus, hheld, hpending, hother]
          rw [hnoted]
          refine ⟨iff_of_true hstands ⟨by simp [hstatus], ?_⟩, fun _ => hkept⟩
          intro id' phase' hstatus'
          obtain ⟨rfl, rfl⟩ : id = id' ∧ phase = phase' := by simpa [hstatus] using hstatus'
          refine ⟨by simp [hpending], ?_⟩
          intro _ hqueued
          have hqueued := (hkept.queued id hqueued).1
          rw [hpending] at hqueued
          exact hother (Option.some.inj hqueued)
      | false =>
        have hnoted : client.noted held reply = notedPhase held id phase := by
          simp [noted, notedPhase, hstatus, hsame]
        have hfitting : FittingReply client held reply ↔ Fitting client held id phase := by
          simp [FittingReply, hstatus]
        simp only [hsame] at hreport
        obtain rfl := Option.some.inj hreport
        obtain ⟨key, hkey⟩ := @exists_announce repr (client.settle phase) id phase
          (Json.get reply "message") link
        rw [hkey, hnoted, hfitting, stands_lastStatus, kept_lastStatus]
        exact ⟨stands_settle hkept (isUuid_of_statusOf hstatus) hsame havailable,
          kept_settle hkept hsame hturn⟩

/-- An invalid reply says nothing about any request. -/
theorem invalid_of_report {reply : Fields} {link : Link}
    (hreport : client.report repr reply link = none) :
    FittingReply client held reply ∧ client.noted held reply = held := by
  have hstatus : statusOf reply = none := by
    unfold report at hreport
    split at hreport
    · assumption
    · split at hreport <;> cases hreport
    · split at hreport <;> cases hreport
  exact ⟨⟨by simp [hstatus], by simp [hstatus]⟩, by simp [noted, hstatus]⟩

theorem kept_turn (hkept : Kept client held) : Kept { client with thread := .idle } held := by
  refine ⟨hkept.pending, ?_, nofun, nofun⟩
  intro id hid
  obtain ⟨hpending, hcertain, hpath, -⟩ := hkept.queued id hid
  exact ⟨hpending, hcertain, hpath, nofun⟩

theorem stands_turn :
    Stands repr { client with thread := .idle } held ↔ Stands repr client held := by
  simp only [Stands, full_mem_request, refusal_eq_none, commandsBlocked]

/-- A request in the queue is there under a running hold. -/
theorem stands_iff_of_kept (hkept : Kept client held) :
    Stands repr client held ↔ (held ≠ [] → client.commandsBlocked = true) := by
  cases hqueued : client.requests with
  | none => exact stands_iff_of_empty hqueued
  | some id =>
    obtain ⟨hpending, hcertain, -⟩ := hkept.queued id hqueued
    have hbusy := (hkept.pending id hpending).2
    exact iff_of_true (stands_of_running hbusy hcertain) fun _ => by simp [commandsBlocked, hbusy]

theorem kept_unavailable (hkept : Kept client held) (hthread : client.thread = .idle) :
    Kept { client with available := false } held := by
  refine ⟨hkept.pending, hkept.queued, hkept.submitting, ?_⟩
  intro reply hreply
  rw [hthread] at hreply
  cases hreply

theorem kept_answered (hkept : Kept client held) (reply : Fields) :
    Kept { client with available := true, thread := .reporting reply } held := by
  refine ⟨hkept.pending, ?_, nofun, fun _ _ => rfl⟩
  intro id hid
  obtain ⟨hpending, hcertain, hpath, -⟩ := hkept.queued id hid
  exact ⟨hpending, hcertain, hpath, nofun⟩

theorem stands_lose (id : String) (hempty : client.requests = none) :
    Stands repr (client.lose id).1 held := by
  have hnone : (client.lose id).1.requests = none := hempty
  rw [stands_iff_of_empty hnone]
  intro _
  simp [lose, commandsBlocked]

theorem kept_lose (id : String) (hkept : Kept client held) (hempty : client.requests = none)
    (hthread : client.thread = .idle) : Kept (client.lose id).1 held := by
  constructor
  · exact hkept.pending
  · intro queued hqueued
    simp [lose, hempty] at hqueued
  · intro other hother
    simp [lose, hthread] at hother
  · intro reply hreply
    simp [lose, hthread] at hreply

theorem request_exact (hkept : Kept client held) (hstands : Stands repr client held)
    (data : Fields) :
    Stands repr (client.request repr data).1 (client.unsettled repr held (.request data)) ∧
      Kept (client.request repr data).1 (client.unsettled repr held (.request data)) := by
  cases hrefusal : client.refusal repr data with
  | some reason =>
    simp only [request, unsettled, hrefusal]
    exact ⟨by simpa using hstands, by simpa using hkept⟩
  | none =>
    have hempty : client.requests = none := by
      by_contra hqueued
      exact hstands.2 data (full_mem_request.mpr ⟨hrefusal, hqueued⟩)
    obtain ⟨-, -, ⟨-, hpath⟩, hfree⟩ := refusal_eq_none.mp hrefusal
    simp only [request, unsettled, hrefusal, hempty, true_and, if_true]
    refine ⟨stands_of_running rfl rfl, ?_, ?_, ?_, hkept.reporting⟩
    · intro id hid
      obtain rfl := Option.some.inj hid
      exact ⟨rfl, rfl⟩
    · intro id hid
      refine ⟨hid, rfl, hpath, ?_⟩
      intro other hother
      obtain ⟨hpending, hcertain, -⟩ := hkept.submitting other hother
      have huncertain := hfree (hkept.pending other hpending).2
      rw [hcertain] at huncertain
      cases huncertain
    · intro other hother
      obtain ⟨hpending, hcertain, -⟩ := hkept.submitting other hother
      have huncertain := hfree (hkept.pending other hpending).2
      rw [hcertain] at huncertain
      cases huncertain

theorem submitted_exact (hkept : Kept client held) (hstands : Stands repr client held)
    {id : String} (hthread : client.thread = .submitting id) (answer : Option Json) (link : Link) :
    (Stands repr ({ client with thread := .idle }.submit repr id answer link).1
        (client.unsettled repr held (.submitted answer link)) ↔
      Steady client held (.submitted answer link)) ∧
    (Steady client held (.submitted answer link) →
      Kept ({ client with thread := .idle }.submit repr id answer link).1
        (client.unsettled repr held (.submitted answer link))) := by
  obtain ⟨hpending, -, hempty⟩ := hkept.submitting id hthread
  have hidle := kept_turn hkept
  have hlost : Stands repr ({ client with thread := .idle }.lose id).1 held ∧
      Kept ({ client with thread := .idle }.lose id).1 held :=
    ⟨stands_lose id hempty, kept_lose id hidle hempty rfl⟩
  rw [steady_iff]
  cases hexchange : exchange answer with
  | none =>
    simp only [submit, unsettled, refusedBy, reportedBy, hthread, hexchange]
    exact ⟨iff_of_true hlost.1 nofun, fun _ => hlost.2⟩
  | some reply =>
    cases hok : replyOk reply with
    | false =>
      have hnothing : held.filter (· != id) = [] := by simp [(hkept.pending id hpending).1]
      simp only [submit, unsettled, refusedBy, reportedBy, hthread, hexchange, hok, hnothing,
        Bool.false_and, Bool.false_eq_true, if_true, if_false]
      refine ⟨iff_of_true ?_ nofun, fun _ => ⟨nofun, ?_, nofun, nofun⟩⟩
      · apply (stands_iff_of_empty ?_).mpr
        · intro h
          cases h rfl
        · exact hempty
      · intro queued hqueued
        rw [hempty] at hqueued
        cases hqueued
    | true =>
      cases hto : repliesTo reply id with
      | false =>
        simp only [submit, unsettled, refusedBy, reportedBy, hthread, hexchange, hok, hto,
          Bool.and_false, Bool.false_eq_true, Bool.true_eq_false, if_true, if_false]
        exact ⟨iff_of_true hlost.1 nofun, fun _ => hlost.2⟩
      | true =>
        simp only [submit, unsettled, refusedBy, reportedBy, hthread, hexchange, hok, hto,
          Bool.and_true, Bool.true_eq_false, if_true, if_false, Option.some.injEq, forall_eq']
        cases hreport : report repr { client with thread := .idle } reply link with
        | none =>
          obtain ⟨hfitting, hnoted⟩ := @invalid_of_report repr _ held reply link hreport
          have hleft : client.noted held reply = held := hnoted
          rw [hleft]
          exact ⟨iff_of_true hlost.1 hfitting, fun _ => hlost.2⟩
        | some next =>
          have hexact := report_exact hidle (stands_turn.mpr hstands) nofun (by simp [hempty])
            hreport
          exact hexact

theorem reported_exact (hkept : Kept client held) (hstands : Stands repr client held)
    (link : Link) :
    (Stands repr (client.step repr (.reported link)).1
        (client.unsettled repr held (.reported link)) ↔ Steady client held (.reported link)) ∧
    (Steady client held (.reported link) →
      Kept (client.step repr (.reported link)).1
        (client.unsettled repr held (.reported link))) := by
  rw [steady_iff]
  cases hthread : client.thread with
  | idle =>
    simp only [step, unsettled, refusedBy, reportedBy, hthread]
    exact ⟨iff_of_true hstands nofun, fun _ => hkept⟩
  | submitting id =>
    simp only [step, unsettled, refusedBy, reportedBy, hthread]
    exact ⟨iff_of_true hstands nofun, fun _ => hkept⟩
  | reporting reply =>
    have hidle := kept_turn hkept
    simp only [step, unsettled, refusedBy, reportedBy, hthread, Option.some.injEq, forall_eq']
    cases hreport : report repr { client with thread := .idle } reply link with
    | none =>
      obtain ⟨hfitting, hnoted⟩ := @invalid_of_report repr _ held reply link hreport
      have hleft : client.noted held reply = held := hnoted
      rw [hleft]
      have hstill := kept_unavailable hidle rfl
      exact ⟨iff_of_true ((stands_iff_of_kept hstill).mpr hstands.1) hfitting, fun _ => hstill⟩
    | some next =>
      exact report_exact hidle (stands_turn.mpr hstands) nofun
        (fun _ => hkept.reporting reply hthread) hreport

/-- A step that reports nothing and leaves the requests held as they were. -/
theorem exact_of_kept {event : ResetEvent} {next : SystemResetClient}
    (hstep : (client.step repr event).1 = next)
    (hheld : client.unsettled repr held event = held)
    (hsilent : ∀ reply, client.reportedBy event ≠ some reply) (hkept : Kept next held)
    (hblocked : held ≠ [] → next.commandsBlocked = true) :
    (Stands repr (client.step repr event).1 (client.unsettled repr held event) ↔
      Steady client held event) ∧
    (Steady client held event →
      Kept (client.step repr event).1 (client.unsettled repr held event)) := by
  rw [hstep, hheld, steady_iff]
  have hstands : Stands repr next held := (stands_iff_of_kept hkept).mpr hblocked
  exact ⟨iff_of_true hstands fun reply hreply => absurd hreply (hsilent reply), fun _ => hkept⟩

theorem step_exact (hkept : Kept client held) (hstands : Stands repr client held)
    (event : ResetEvent) :
    (Stands repr (client.step repr event).1 (client.unsettled repr held event) ↔
      Steady client held event) ∧
    (Steady client held event →
      Kept (client.step repr event).1 (client.unsettled repr held event)) := by
  cases event with
  | request data =>
    obtain ⟨hnext, hstill⟩ := request_exact hkept hstands data
    exact ⟨iff_of_true hnext ⟨nofun, nofun, nofun⟩, fun _ => hstill⟩
  | take =>
    cases hthread : client.thread with
    | submitting id =>
      exact exact_of_kept (by simp [step, hthread]) rfl nofun hkept hstands.1
    | reporting reply =>
      exact exact_of_kept (by simp [step, hthread]) rfl nofun hkept hstands.1
    | idle =>
      cases hqueued : client.requests with
      | none => exact exact_of_kept (by simp [step, hthread, hqueued]) rfl nofun hkept hstands.1
      | some id =>
        obtain ⟨hpending, hcertain, -⟩ := hkept.queued id hqueued
        have htaken : Kept { client with requests := none, thread := .submitting id } held := by
          refine ⟨hkept.pending, nofun, ?_, nofun⟩
          intro other hother
          obtain rfl := StatusThread.submitting.inj hother
          exact ⟨hpending, hcertain, rfl⟩
        exact exact_of_kept (by simp [step, hthread, hqueued]) rfl nofun htaken hstands.1
  | submitted answer link =>
    cases hthread : client.thread with
    | submitting id =>
      simp only [step, hthread]
      exact submitted_exact hkept hstands hthread answer link
    | idle =>
      exact exact_of_kept (by simp [step, hthread])
        (by simp [unsettled, refusedBy, reportedBy, hthread])
        (by simp [reportedBy, hthread]) hkept hstands.1
    | reporting reply =>
      exact exact_of_kept (by simp [step, hthread])
        (by simp [unsettled, refusedBy, reportedBy, hthread])
        (by simp [reportedBy, hthread]) hkept hstands.1
  | polled answer =>
    cases hthread : client.thread with
    | submitting id =>
      exact exact_of_kept (by simp [step, hthread]) rfl nofun hkept hstands.1
    | reporting reply =>
      exact exact_of_kept (by simp [step, hthread]) rfl nofun hkept hstands.1
    | idle =>
      have hunavailable := kept_unavailable hkept hthread
      cases hexchange : exchange answer with
      | none =>
        exact exact_of_kept (by simp [step, hthread, hexchange]) rfl nofun hunavailable hstands.1
      | some reply =>
        cases hok : replyOk reply with
        | false =>
          exact exact_of_kept (by simp [step, hthread, hexchange, hok]) rfl nofun hunavailable
            hstands.1
        | true =>
          exact exact_of_kept (by simp [step, hthread, hexchange, hok]) rfl nofun
            (kept_answered hkept reply) hstands.1
  | reported link => exact reported_exact hkept hstands link

end

end SystemResetClient

open SystemResetClient

/-- In every run of requests and status replies the hold on commands stands in every
    state while a request is without an outcome, and no request ever finds the queue
    full, exactly if every reply the client reports is a steady one. -/
theorem hold_run (repr : Json → String) (path : String) (events : List ResetEvent) :
    (∀ earlier later, events = earlier ++ later →
      let state := (watched repr).run ({ path := path }, []) earlier
      Stands repr state.1 state.2) ↔
    (watched repr).Along (fun state event => Steady state.1 state.2 event)
      ({ path := path }, []) events := by
  apply (watched repr).property_iff (fun state => Kept state.1 state.2)
    (fun state => Stands repr state.1 state.2)
  · intro state event hkept hstands
    exact (step_exact hkept hstands event).1
  · intro state event hkept hstands
    exact (step_exact hkept hstands event).2
  · exact ⟨nofun, nofun, nofun, nofun⟩
  · exact (stands_iff_of_empty rfl).mpr fun h => absurd rfl h

/-- The request `A` is accepted and its outcome reported uncertain; then a success of
    another request is reported. -/
def otherSuccess : List ResetEvent :=
  let link : Link := ⟨true, 1⟩
  let first := "11111111-1111-4111-8111-111111111111"
  let second := "22222222-2222-4222-8222-222222222222"
  let reply (id state : String) : Option Json := some (.obj
    [("ok", .bool true), ("request_id", .str id), ("state", .str state)])
  [.polled (some (.obj [("ok", .bool true), ("state", .str "idle")])), .reported link,
    .request [("command_id", .str first), ("operator_authorized", .bool true)], .take,
    .submitted (reply first "accepted") link, .polled (reply first "uncertain"), .reported link,
    .polled (reply second "succeeded"), .reported link]

/-- The hold of the uncertain request is gone, and nothing has settled it. -/
theorem not_hold :
    let state := (watched fun _ => "").run ({ path := "/run/supervisor" }, []) otherSuccess
    state.1.commandsBlocked = false ∧ state.2 = ["11111111-1111-4111-8111-111111111111"] := by
  decide +kernel

end PatrolBot.Bridge
