import PatrolBot.Library.Upkeep
import PatrolBot.ServerForwarding

/-!
# Results, between the stretches of the handlers

Whoever publishes a `command.result` takes the command out of `active` before
it suspends, so between the stretches no result has been published for an
ordinary command that is still open; and whoever takes it out cancels its
timers.  `Calm` is a handler that keeps this in every state; here are those
that publish no result of an ordinary command.
-/

namespace PatrolBot.Server

open Coroutine Coroutine.Prog Coroutine.Discipline

/-! ### What has been answered -/

/-- The command whose result a publication is. -/
def Publication.resultId : Publication → Option String
  | .reply _ (.result commandId ..) => some commandId
  | .reply _ (.ack ..) | .reply _ (.progress ..) | .event .. | .connection .. => none

/-- How many results were published under the id. -/
def results (published : List Publication) (commandId : String) : Nat :=
  published.countP fun p => decide (p.resultId = some commandId)

@[simp] theorem results_append (published more : List Publication) (commandId : String) :
    results (published ++ more) commandId = results published commandId + results more commandId :=
  List.countP_append

theorem results_singleton (p : Publication) (commandId : String) :
    results [p] commandId = if p.resultId = some commandId then 1 else 0 := by
  by_cases h : p.resultId = some commandId <;> simp [results, h]

/-- An ordinary command: its outcome may be closed by the server itself. -/
def Ordinary (s : State) (e : Nat) : Prop := (s.entry e).command.held = false

/-- The results of the ordinary commands, between two stretches. -/
structure Answered (s : Dashboard) : Prop where
  once : ∀ e, e < s.entries → Ordinary s.toState e →
    results s.published (s.entry e).commandId ≤ 1
  opened : ∀ e, Open s.toState e → Ordinary s.toState e →
    results s.published (s.entry e).commandId = 0
  unissued : ∀ id, ¬Issued s.toState id → results s.published id = 0

/-- The update publishes results of commands with an unknown outcome only. -/
def Quiet (a b : Dashboard) : Prop :=
  ∀ id, results b.published id = results a.published id ∨
    ∃ e, e < a.entries ∧ (a.entry e).commandId = id ∧ (a.entry e).command.held = true

theorem Quiet.of_published {a b : Dashboard} (h : b.published = a.published) : Quiet a b :=
  fun _ => .inl (by rw [h])

theorem Quiet.publish {a : Dashboard} {p : Publication} (h : p.resultId = none) :
    Quiet a (a.publish p) :=
  fun id => .inl (by simp [Dashboard.publish, results_singleton, h])

section

variable {m : Mode} {pw : Power} {t : Nat} {job : Job} {a b : Dashboard}

/-- The commands after an update: those before it, or one under a new id. -/
theorem Act.entry_cases (h : Act m pw t job a b) (hd : m.distinct) {e : Nat} (he : e < b.entries) :
    (e < a.entries ∧ SameCommand (a.entry e) (b.entry e)) ∨
      ¬Issued a.toState (b.entry e).commandId := by
  cases h with
  | mark entry timers hsame _ => exact .inl ⟨he, hsame e⟩
  | register r session _ hregisters =>
    rcases Nat.lt_succ_iff_lt_or_eq.mp he with he | rfl
    · rw [register_entry he]
      exact .inl ⟨he, .refl _⟩
    · rw [register_entry_self]
      exact .inr (hregisters.fresh hd).2.1
  | _ => exact .inl ⟨he, .refl _⟩

theorem Act.open_cases (h : Act m pw t job a b) (hd : m.distinct) {e : Nat}
    (he : Open b.toState e) : Open a.toState e ∨ ¬Issued a.toState (b.entry e).commandId := by
  cases h with
  | register r session _ hregisters =>
    obtain ⟨i, hi⟩ := he
    rcases register_active hi with ⟨-, rfl⟩ | hi
    · rw [register_entry_self]
      exact .inr (hregisters.fresh hd).2.1
    · exact .inl ⟨i, hi⟩
  | pop e' outcome _ _ _ _ => exact .inl (he.imp fun i hi => (popActive_active_subset hi).1)
  | _ => exact .inl he

theorem Act.issued (h : Act m pw t job a b) {id : String} (hid : Issued a.toState id) :
    Issued b.toState id := by
  cases h with
  | mark entry timers hsame _ =>
    obtain ⟨e, he, rfl⟩ := hid
    exact ⟨e, he, (hsame e).commandId⟩
  | register r session _ _ => exact issued_register hid
  | _ => exact hid

/-- A quiet update answers nothing. -/
theorem Answered.act (hans : Answered a) (hinv : Inv m a) (hd : m.distinct)
    (h : Act m pw t job a b) (hquiet : Quiet a b) : Answered b := by
  have hu := hinv.unique hd
  have hunissued : ∀ id, ¬Issued a.toState id → results b.published id = 0 := by
    intro id hid
    rcases hquiet id with hsame | ⟨e, he, hcommand, -⟩
    · rw [hsame]
      exact hans.unissued id hid
    · exact absurd ⟨e, he, hcommand⟩ hid
  have hordinary : ∀ e, e < a.entries → SameCommand (a.entry e) (b.entry e) →
      Ordinary b.toState e → Ordinary a.toState e ∧
        results b.published (b.entry e).commandId = results a.published (a.entry e).commandId := by
    intro e he hsame hheld
    have hheld' : Ordinary a.toState e := by
      rw [Ordinary, hsame.command] at hheld
      exact hheld
    refine ⟨hheld', ?_⟩
    rw [hsame.commandId]
    rcases hquiet (a.entry e).commandId with hresults | ⟨e', he', hid, hheld''⟩
    · exact hresults
    · obtain rfl := hu.entries e' e he' he hid
      rw [Ordinary] at hheld'
      simp [hheld'] at hheld''
  refine ⟨?_, ?_, fun id hid => hunissued id fun hissued => hid (h.issued hissued)⟩
  · intro e he hheld
    rcases h.entry_cases hd he with ⟨hlt, hsame⟩ | hnew
    · obtain ⟨hheld', heq⟩ := hordinary e hlt hsame hheld
      rw [heq]
      exact hans.once e hlt hheld'
    · rw [hunissued _ hnew]
      exact Nat.zero_le 1
  · intro e hopen hheld
    obtain ⟨i, hi⟩ := hopen
    have he := (h.inv hinv).active i e hi |>.1
    rcases h.entry_cases hd he with ⟨hlt, hsame⟩ | hnew
    · obtain ⟨hheld', heq⟩ := hordinary e hlt hsame hheld
      rcases h.open_cases hd ⟨i, hi⟩ with hopen | hnew
      · rw [heq]
        exact hans.opened e hopen hheld'
      · exact hunissued _ hnew
    · exact hunissued _ hnew

/-- What is known of a command that an update registers. -/
theorem Act.registered (h : Act m pw t job a b) (hd : m.distinct) (hlt : a.entries < b.entries) :
    ((b.entry a.entries).commandId, t) ∈ a.admitted ∧
      (b.entry a.entries).commandId ∉ requestIds a.wire := by
  cases h with
  | register r session _ hregisters =>
    rw [register_entry_self]
    exact ⟨(hregisters.fresh hd).1, (hregisters.fresh hd).2.2⟩
  | _ => exact absurd hlt (Nat.lt_irrefl _)

end

/-! ### Timers -/

/-- A timer is listed with its command, and cancelled when that is closed. -/
def Timed (s : Dashboard) : Prop :=
  ∀ (i : Nat) (x : Timer), s.timers[i]? = some x →
    i ∈ (s.entry x.entry).timers ∧ (Open s.toState x.entry ∨ x.cancelled = true)

/-- A timer stays that of its command. -/
def Assigns (a b : Dashboard) : Prop :=
  ∀ (i : Nat) (x : Timer), a.timers[i]? = some x →
    ∃ y : Timer, b.timers[i]? = some y ∧ y.entry = x.entry

theorem Assigns.of_eq {a b : Dashboard} (h : b.timers = a.timers) : Assigns a b :=
  fun _ x hx => ⟨x, by rw [h]; exact hx, rfl⟩

theorem Assigns.trans {a b c : Dashboard} (h : Assigns a b) (h' : Assigns b c) : Assigns a c := by
  intro i x hx
  obtain ⟨y, hy, heq⟩ := h i x hx
  obtain ⟨z, hz, heq'⟩ := h' i y hy
  exact ⟨z, hz, heq'.trans heq⟩

theorem cancelTimers_getElem? {timers : List Timer} {refs : List Nat} {i : Nat} {y : Timer}
    (h : (cancelTimers timers refs)[i]? = some y) : ∃ x, timers[i]? = some x ∧
      y = if i ∈ refs then { x with cancelled := true } else x := by
  simp only [cancelTimers, List.getElem?_map, List.getElem?_zipIdx, Option.map_map,
    Option.map_eq_some_iff, Function.comp_apply, Nat.zero_add] at h
  obtain ⟨x, hx, rfl⟩ := h
  exact ⟨x, hx, rfl⟩

section

variable {m : Mode} {pw : Power} {t : Nat} {job : Job} {a b : Dashboard}

theorem Timed.pop (h : Timed a) (hinv : Inv m a) (hd : m.distinct) {e : Nat} (he : e < a.entries)
    (outcome : Outcome) : Timed (popActive t e outcome a) := by
  intro i y hy
  obtain ⟨x, hx, rfl⟩ := cancelTimers_getElem? hy
  obtain ⟨hlisted, hopen⟩ := h i x hx
  have hlt := hinv.timers x (List.mem_of_getElem? hx)
  by_cases hi : i ∈ (a.entry e).timers
  · simp only [hi, if_true]
    exact ⟨hlisted, by simp⟩
  · simp only [hi, if_false]
    refine ⟨hlisted, hopen.imp_left ?_⟩
    rintro ⟨id, hid⟩
    refine ⟨id, ?_⟩
    simp only [popActive, mem_dictPop]
    refine ⟨hid, fun heq => hi ?_⟩
    obtain rfl := (hinv.unique hd).entries x.entry e hlt he
      ((hinv.active id x.entry hid).2.trans heq)
    exact hlisted

theorem Assigns.pop (e : Nat) (outcome : Outcome) : Assigns a (popActive t e outcome a) := by
  intro i x hx
  refine ⟨if i ∈ (a.entry e).timers then { x with cancelled := true } else x, ?_, ?_⟩
  · simp [popActive, cancelTimers, hx]
  · split <;> rfl

/-- A command that an update closes has been registered. -/
theorem Act.popped (h : Act m pw t job a b) {e : Nat} {outcome : Outcome}
    (hclosed : b.closed = a.closed ++ [(e, outcome)]) : e < a.entries := by
  cases h with
  | pop e' outcome' _ he _ _ =>
    obtain ⟨rfl, -⟩ : e' = e ∧ outcome' = outcome := by simpa [popActive] using hclosed
    exact he
  | _ => exact absurd hclosed (by
      simp [Dashboard.setRobotState, Dashboard.publish, clearWebsocket, Dashboard.write,
        Dashboard.insertAudit, Dashboard.completeAudit, Incoming.register, Dashboard.forward,
        Dashboard.setSendLock, Dashboard.setOwner])

/-- An update that leaves the timers and their lists as they are. -/
theorem Timed.act (ht : Timed a) (hinv : Inv m a) (hd : m.distinct) (h : Act m pw t job a b)
    (htimers : b.timers = a.timers)
    (hlists : ∀ e, e < a.entries → (b.entry e).timers = (a.entry e).timers) : Timed b := by
  have hkeep : (∀ e, Open a.toState e → Open b.toState e) → Timed b := by
    intro hopen i x hx
    rw [htimers] at hx
    obtain ⟨hlisted, hdone⟩ := ht i x hx
    rw [hlists _ (hinv.timers x (List.mem_of_getElem? hx))]
    exact ⟨hlisted, hdone.imp_left (hopen _)⟩
  cases h with
  | register r session _ hregisters =>
    refine hkeep ?_
    rintro e ⟨i, hi⟩
    exact ⟨i, mem_dictSet_of_ne hi fun heq => (hregisters.fresh hd).2.1
      ⟨e, (hinv.active i e hi).1, (hinv.active i e hi).2.trans heq⟩⟩
  | pop e outcome _ he _ _ => exact ht.pop hinv hd he outcome
  | _ => exact hkeep fun _ hopen => hopen

end

/-! ### Keeping it -/

/-- The task has admitted its map transaction, and the transaction was not handed
    to the robot or its socket raised: all that is left to the task is to close it. -/
def GivesUp (t : Nat) (payload : CommandRequest) (raised : Bool) (s : Dashboard) : Prop :=
  payload.command = .setInitialPose ∧ (payload.commandId, t) ∈ s.admitted ∧
    (raised = true ∨ payload.commandId ∉ requestIds s.wire)

instance (t : Nat) (payload : CommandRequest) (raised : Bool) (s : Dashboard) :
    Decidable (GivesUp t payload raised s) := inferInstanceAs (Decidable (_ ∧ _ ∧ _))

/-- The socket raised under the frame of the task's own request. -/
def sendRaised (t : Nat) (job : Job) (s : Dashboard) (op : Await) (reply : Option Interrupt) :
    Bool :=
  match job with
  | .request _ _ payload => decide (op = .socket) && decide (reply = some .exception) &&
      decide ((payload.commandId, t) ∈ s.admitted) &&
      decide (payload.commandId ∈ requestIds s.wire)
  | _ => false

/-- A task is marked when its send has raised. -/
def sendMemory : Memory Dashboard Await Job Bool where
  blank := false
  note t job raised s op reply := raised || sendRaised t job s op reply

/-- The command that a request closes when it comes back from telling the robot to
    cancel its map transaction. -/
def returning (t : Nat) (job : Job) (raised : Bool) (s : Dashboard) : Option String :=
  match job with
  | .request _ _ payload =>
    if GivesUp t payload raised s then some payload.commandId else none
  | _ => none

/-- A close-out that comes back finds that its command has not been answered. -/
def ReturnsFirst (t : Nat) (job : Job) (raised : Bool) (s : Dashboard) (op : Await)
    (reply : Option Interrupt) : Prop :=
  op = .socket → reply ≠ some .cancelled → ∀ commandId ∈ returning t job raised s,
    results s.published commandId = 0

instance (t : Nat) (job : Job) (raised : Bool) (s : Dashboard) (op : Await)
    (reply : Option Interrupt) : Decidable (ReturnsFirst t job raised s op reply) :=
  inferInstanceAs (Decidable (_ → _ → ∀ commandId ∈ returning t job raised s, _))

/-- What a stretch keeps. -/
structure Tidy (a s : Dashboard) : Prop where
  answered : Answered s
  timed : Timed s
  assigns : Assigns a s

def answering : Upkeep Dashboard Await Job Bool where
  memory := sendMemory
  Allows := ReturnsFirst
  Fact := Tidy
  settled _ _ h := ⟨h.answered, h.timed, .of_eq rfl⟩

/-- The handler keeps what a stretch keeps, wherever it is run. -/
def Calm {α : Type} (t : Nat) (job : Job) (p : Handler α) : Prop :=
  ∀ raised a s, Inv .apart s → Tidy a s →
    (discipline .apart).Keeps answering t job p raised a s fun _ _ a s => Tidy a s

/-- What most updates do not touch. -/
def view (s : Dashboard) : List Publication × List Timer × (Nat → List Nat) :=
  (s.published, s.timers, fun e => (s.entry e).timers)

section

variable {t : Nat} {job : Job} {α β : Type} {a s s' : Dashboard}

theorem Tidy.update (h : Tidy a s) (hinv : Inv .apart s)
    (hmay : (discipline .apart).May t job s s') (hquiet : Quiet s s')
    (htimers : s'.timers = s.timers)
    (hlists : ∀ e, e < s.entries → (s'.entry e).timers = (s.entry e).timers) : Tidy a s' :=
  ⟨h.answered.act hinv trivial hmay hquiet, h.timed.act hinv trivial hmay htimers hlists,
    h.assigns.trans (.of_eq htimers)⟩

theorem Tidy.aside (h : Tidy a s) (hinv : Inv .apart s)
    (hmay : (discipline .apart).May t job s s') (hview : view s' = view s) : Tidy a s' := by
  simp only [view, Prod.mk.injEq] at hview
  exact h.update hinv hmay (.of_published hview.1) hview.2.1 fun e _ => congrFun hview.2.2 e

namespace Calm

theorem ret (v : α) : Calm t job (Prog.ret v : Handler α) := fun _ _ _ _ h => h

theorem raise (x : Interrupt) : Calm t job (Prog.raise x : Handler α) := fun _ _ _ _ h => h

theorem bind {p : Handler α} {f : α → Handler β} (hp : Calm t job p)
    (hf : ∀ v, Calm t job (f v)) : Calm t job (p >>= f) := fun raised a s hinv h =>
  Keeps.bind hinv (hp raised a s hinv h) (fun v raised a s hinv h => hf v raised a s hinv h)
    fun _ _ _ _ _ h => h

theorem read {f : Dashboard → Handler β} (hf : ∀ s, Calm t job (f s)) :
    Calm t job (Prog.read >>= f) := fun raised a s hinv h =>
  Keeps.readThen (hf s raised a s hinv h)

theorem answer {f : Answer → Handler β} (hf : ∀ v, Calm t job (f v)) :
    Calm t job (Prog.answer >>= f) := fun raised a s hinv h =>
  Keeps.answerThen fun v _ => hf v raised a s hinv h

/-- Most updates publish nothing and leave the timers alone. -/
theorem aside {u : Dashboard → Dashboard} (hu : ∀ s, view (u s) = view s) :
    Calm t job (Prog.modify u : Handler Unit) := fun _ _ s hinv h =>
  Keeps.modify fun hmay _ => h.aside hinv hmay (hu s)

theorem wait (op : Await) : Calm t job (Prog.wait op : Handler Unit) := fun _ _ _ _ h =>
  Keeps.wait (fun _ => True) h trivial (fun _ _ _ _ _ _ _ _ h => h)
    (fun _ _ h _ _ _ => h) fun _ _ _ h _ _ _ => h

theorem given {c : Prop} [Decidable c] {p : Handler Unit} (hp : c → Calm t job p) :
    Calm t job (Prog.given c p) := by
  unfold Prog.given
  split
  · exact hp ‹c›
  · exact ret ()

theorem tryCatch {p : Handler α} {handle : Interrupt → Handler α} (hp : Calm t job p)
    (hhandle : ∀ x, Calm t job (handle x)) : Calm t job (p.tryCatch handle) :=
  fun raised a s hinv h => Keeps.tryCatch hinv (hp raised a s hinv h)
    (fun _ _ _ _ _ h => h) fun x raised a s hinv h => hhandle x raised a s hinv h

theorem andFinally {p : Handler α} {cleanup : Handler Unit} (hp : Calm t job p)
    (hclean : Calm t job cleanup) : Calm t job (p.andFinally cleanup) :=
  .bind (.tryCatch hp fun _ => .bind hclean fun _ => .raise _) fun _ =>
    .bind hclean fun _ => .ret _

theorem suppress {p : Handler Unit} (hp : Calm t job p) :
    Calm t job (PatrolBot.Server.suppress p) := by
  refine tryCatch hp fun x => ?_
  cases x with
  | exception => exact ret ()
  | cancelled => exact raise _

end Calm

/-! ### The handlers that publish no result -/

theorem calm_publish {p : Publication} (hp : p.resultId = none) : Calm t job (publish p) :=
  fun _ _ _ hinv h => Keeps.modify fun hmay _ =>
    h.update hinv hmay (.publish hp) rfl fun _ _ => rfl

theorem calm_execute {statement : Dashboard → Dashboard}
    (h : ∀ s, view (statement s) = view s) : Calm t job (execute statement) := by
  refine .answer fun a => ?_
  cases a.statement with
  | done => exact .bind (.aside h) fun _ => .wait _
  | lost => exact .wait _
  | late => exact .bind (.aside h) fun _ => .wait _

theorem calm_emitEvent (robotId severity title message : String) (closes : Option Nat) :
    Calm t job (emitEvent robotId severity title message closes) :=
  .bind (calm_publish rfl) fun _ => calm_execute fun _ => rfl

theorem calm_rejectAudited (client : BrowserClient) (robotId commandId command reason : String) :
    Calm t job (rejectAudited client robotId commandId command reason) :=
  .bind (calm_execute fun _ => rfl) fun _ => calm_publish rfl

/-- What `_finish` does after it has taken the command out of `active`. -/
theorem calm_closing (e : Nat) (entry : ActiveCommand) (outcome : Outcome) (detail : String) :
    Calm t job (do
      execute (·.completeAudit entry.commandId outcome detail)
      let s ← Prog.read
      Prog.given ((s.robots entry.robotId).isSome ∧ outcome ≠ .succeeded) do
        emitEvent entry.robotId (if outcome = .canceled then "info" else "warning")
          entry.command.label
          (if detail = "" then "The command did not complete (" ++ outcome.name ++ ")." else detail)
          (some e)
      Prog.modify fun s => { s with closing := s.closing.filter (· ≠ (e, t)) }) :=
  .bind (calm_execute fun _ => rfl) fun _ => .read fun _ =>
    .bind (.given fun _ => calm_emitEvent _ _ _ _ _) fun _ => .aside fun _ => rfl

theorem calm_finish (e : Nat) (outcome : Outcome) (detail : String) :
    Calm t job (finish t e outcome detail) := by
  intro raised a s hinv h
  refine Keeps.readThen ?_
  dsimp only
  split
  · refine Keeps.modifyThen fun hmay hinv₁ => ?_
    exact calm_closing e (s.entry e) outcome detail _ _ _ hinv₁
      ⟨h.answered.act hinv trivial hmay (.of_published rfl),
        h.timed.pop hinv trivial (Act.popped hmay rfl) outcome, h.assigns.trans (.pop e outcome)⟩
  · exact h

theorem calm_cancelMap (e : Nat) : Calm t job (cancelMap e) := by
  refine .read fun s => ?_
  dsimp only
  split
  · split
    · exact .suppress (.bind (.aside fun _ => rfl) fun _ => .wait _)
    · exact .ret ()
  · exact .ret ()

theorem calm_acquireSendLock (o : Nat) (frame : Velocity) :
    Calm t job (acquireSendLock t o frame) := by
  refine .read fun s => ?_
  dsimp only
  split
  · exact .aside fun _ => rfl
  · exact .bind (.aside fun _ => rfl) fun _ => .bind
      (.tryCatch (.wait _) fun _ => .bind (.aside fun _ => rfl) fun _ => .raise _) fun _ =>
      .aside fun _ => rfl

theorem calm_checkedSend (o : Nat) (frame : Velocity) : Calm t job (checkedSend o frame) := by
  refine .read fun s => ?_
  dsimp only
  split
  · exact .ret _
  · exact .bind (.aside fun _ => rfl) fun _ => .bind (.wait _) fun _ => .read fun _ => .ret _

theorem calm_send (o : Nat) (frame : Velocity) : Calm t job (send t o frame) := by
  refine .tryCatch (.bind (calm_acquireSendLock o frame) fun _ =>
    .andFinally (calm_checkedSend o frame) (.aside fun _ => rfl)) fun x => ?_
  cases x with
  | exception => exact .ret _
  | cancelled => exact .raise _

theorem calm_endInput (robotId : String) (zeroSent : Bool) :
    Calm t job (endInput t robotId zeroSent) := by
  refine .bind (.aside fun _ => rfl) fun _ => .read fun s => ?_
  dsimp only
  split
  · exact .ret _
  · exact .bind (.given fun _ => .aside fun _ => rfl) fun _ =>
      .bind (.given fun _ => .bind (calm_send _ _) fun _ => .given fun _ => .aside fun _ => rfl)
        fun _ => .ret _

theorem calm_issueStop {request : BrowserClient → String → CommandRequest → Handler Unit}
    (hrequest : ∀ client robotId payload, payload.command = .teleopStop →
      Calm t job (request client robotId payload)) (robotId : String) (o : Nat) :
    Calm t job (issueStop request robotId o) := by
  refine .read fun s => ?_
  dsimp only
  split
  · refine .bind (.aside fun _ => rfl) fun _ => ?_
    split
    · exact .answer fun _ => hrequest _ _ _ rfl
    · exact .aside fun _ => rfl
  · exact .ret ()

theorem view_forgetOwner (robotId : String) (s : Dashboard) :
    view (forgetOwner robotId s) = view s := by
  unfold forgetOwner
  split <;> rfl

theorem calm_terminal (e : Nat) : Calm t job (terminal e) := by
  refine .read fun s => ?_
  dsimp only
  split
  · exact .ret ()
  · exact .bind (.given fun _ => .bind (.aside fun _ => rfl) fun _ => .aside fun _ => rfl) fun _ =>
      .bind (.aside fun _ => rfl) fun _ => .read fun _ => .given fun _ => .aside fun _ => rfl

end

end PatrolBot.Server
