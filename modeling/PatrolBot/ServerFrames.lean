import Mathlib.Data.List.Nodup
import PatrolBot.ServerInvariant

/-!
# Facts that carry a handler over its awaits

The rely-guarantee discipline of the server, and for each fact a handler counts
on after an await the reason why nobody ends it: it lasts forever, only the
holder of an admission lock could end it, or only the task itself could.
-/

namespace PatrolBot.Server

open Coroutine

/-! ### Powers -/

/-- The task holds the admission lock of the robot. -/
def ownLock (t : Nat) (s : Dashboard) (r : String) : Prop := (s.admissionLock r).holder = some t

def Power.full (t : Nat) : Power := ⟨ownLock t, True, True, True, True⟩

/-- A request under its admission lock. -/
def Power.admitted (t : Nat) : Power := ⟨ownLock t, False, True, True, False⟩

/-- A handler that relies on no lock and closes no command. -/
def Power.plain : Power := ⟨fun _ _ => False, False, True, False, False⟩

/-- A close-out. -/
def Power.closer : Power := ⟨fun _ _ => False, False, False, True, False⟩

/-- A handler that only waits, looks up and announces. -/
def Power.still : Power := ⟨fun _ _ => False, False, False, False, False⟩

structure Power.Le (pw pw' : Power) : Prop where
  holds : ∀ a r, pw.holds a r → pw'.holds a r
  locks : pw.locks → pw'.locks
  issues : pw.issues → pw'.issues
  closes : pw.closes → pw'.closes
  hosts : pw.hosts → pw'.hosts

section

variable {m : Mode} {pw pw' : Power} {t : Nat} {job : Job} {a b : Dashboard}

theorem Power.le_full {t : Nat} (h : ∀ a r, pw.holds a r → ownLock t a r) :
    pw.Le (Power.full t) :=
  ⟨h, fun _ => trivial, fun _ => trivial, fun _ => trivial, fun _ => trivial⟩

theorem Power.plain_le (h : pw.issues) : Power.plain.Le pw :=
  ⟨fun _ _ => False.elim, False.elim, fun _ => h, False.elim, False.elim⟩

theorem Power.still_le : Power.still.Le pw :=
  ⟨fun _ _ => False.elim, False.elim, False.elim, False.elim, False.elim⟩

theorem Power.closer_le (h : pw.closes) : Power.closer.Le pw :=
  ⟨fun _ _ => False.elim, False.elim, False.elim, fun _ => h, False.elim⟩

theorem Registers.mono {r : Incoming} (hle : pw.Le pw') (h : Registers m pw t r a) :
    Registers m pw' t r a :=
  { h with admission := fun hends => hle.holds _ _ (h.admission hends) }

theorem Act.mono (hle : pw.Le pw') (h : Act m pw t job a b) : Act m pw' t job a b := by
  cases h with
  | aside _ _ _ _ _ _ _ _ hseen hrevisions hsockets =>
    exact .aside _ _ _ _ _ _ _ _ hseen hrevisions hsockets
  | presence r state hhosts h => exact .presence r state (hle.hosts hhosts) h
  | connection r state hhosts h => exact .connection r state (hle.hosts hhosts) h
  | opens r websocket generation hhosts hjob h =>
    exact .opens r websocket generation (hle.hosts hhosts) hjob h
  | clear session hhosts => exact .clear session (hle.hosts hhosts)
  | track connecting leaving hhosts hconnecting hleaving =>
    exact .track connecting leaving (hle.hosts hhosts) hconnecting hleaving
  | announce p h hconnection => exact .announce p h hconnection
  | report p e hp h => exact .report p e hp h
  | closed e h => exact .closed e h
  | cancel robotId websocket commandId => exact .cancel robotId websocket commandId
  | admission r lock hlocks h => exact .admission r lock (hle.locks hlocks) h
  | lookUp commandId => exact .lookUp commandId
  | lookedUp => exact .lookedUp
  | insert commandId row hspares => exact .insert commandId row hspares
  | admitRow commandId row hspares h => exact .admitRow commandId row hspares h
  | complete commandId outcome detail h => exact .complete commandId outcome detail h
  | mark entry timers h htimers => exact .mark entry timers h htimers
  | register r session hissues h => exact .register r session (hle.issues hissues) (h.mono hle)
  | request r websocket hissues hfresh hreset hreceived =>
    exact .request r websocket (hle.issues hissues) hfresh hreset hreceived
  | pop e outcome hcloses hentry hactive hclosable hreleased =>
    exact .pop e outcome (hle.closes hcloses) hentry hactive hclosable hreleased
  | manual owner h hwaits => exact .manual owner h hwaits
  | wait o frame h => exact .wait o frame h
  | prepare owner hholds hfree hidle hlock hstart hstops hfresh =>
    exact .prepare owner (hle.holds _ _ hholds) hfree hidle hlock hstart hstops hfresh
  | disown r h hdone => exact .disown r h hdone
  | drive o frame h => exact .drive o frame h

end

/-! ### The discipline -/

/-- A timer that wakes up closes its ordinary command before its first await. -/
def ClosesOnWaking (s : State) : Job → Prop
  | .timer kind e _ => (s.entry e).command.held = false ∧
      s.isActive (s.entry e).commandId = true ∧ (kind = .ack → (s.entry e).acked = false) ∧
      ¬((s.entry e).command = .setInitialPose ∧
        ((s.robots (s.entry e).robotId).bind fun ref => (s.session ref).websocket).isSome = true)
  | _ => False

/-- A timer that comes back from the cancel frame of its map transaction finds
    the command still open. -/
def ClosesOnReturn (s : State) : Job → Prop
  | .timer _ e _ => (s.entry e).command.held = false ∧
      s.isActive (s.entry e).commandId = true
  | _ => False

/-- No reset is under way under the empty id, which counts as no pending reset. -/
def Unblank (s : State) : Prop :=
  ∀ p ∈ s.active, p.1 = "" → (s.entry p.2).command ≠ .softwareReset

instance (s : State) : Decidable (Unblank s) :=
  inferInstanceAs (Decidable (∀ p ∈ s.active, p.1 = "" → (s.entry p.2).command ≠ .softwareReset))

theorem Inv.unblank {m : Mode} {s : Dashboard} (hinv : Inv m s) (hn : m.named)
    (h : Unblank s.toState) (r : String) : s.resetPending r ≠ some "" := by
  intro hpending
  obtain ⟨e, he, hcommand, -⟩ := (hinv.barrier hn).pending r "" hpending
  exact h _ he rfl hcommand

/-- The ids that come in with a job. -/
def Job.Names (commandId : String) : Job → Prop
  | .request _ _ payload => payload.commandId = commandId
  | .malformed _ _ commandId' _ _ => commandId' = commandId
  | _ => False

/-- The request was received for the robot and at the revision the mode says. -/
def Job.Received (m : Mode) (t : Nat) (s : State) : Job → Prop
  | .request _ robotId payload => payload.command = .teleopStart →
      ∀ robotId' revision, m.received t robotId' revision →
        robotId' = robotId ∧ revision = s.revisions robotId
  | _ => True

def Await.isDatabase : Await → Bool
  | .lookup _ | .statement _ => true
  | _ => false

/-- The starts of the runs under consideration. -/
structure Starts (m : Mode) (t : Nat) (job : Job) (s : Dashboard) : Prop where
  admits : admits s job = true
  named : m.named → Unblank s.toState
  calm : m.calm → ¬ClosesOnWaking s.toState job
  spares : ∀ commandId, job.Names commandId → m.Spares commandId t
  received : job.Received m t s.toState

/-- The replies of the runs under consideration. -/
structure Resumes (m : Mode) (t : Nat) (job : Job) (s : Dashboard) (op : Await)
    (reply : Option Interrupt) : Prop where
  replies : replies s t job op reply = true
  distinct : m.distinct → (unfound s.toState).Nodup
  named : m.named → Unblank s.toState
  sturdy : m.sturdy t → op.isDatabase = true → reply ≠ some .exception
  calm : m.calm → ¬ClosesOnReturn s.toState job
  serial : m.serial → ∀ r previous, (t, r, previous) ∈ s.connecting → s.robots r = some previous
  prompt : m.prompt → ∀ session, (t, session) ∈ s.leaving →
    s.robots (s.session session).robotId = some session
  attended : m.attended t s

def discipline (m : Mode) : Discipline Dashboard Answer Await Job where
  Inv := Inv m
  May t job := Act m (Power.full t) t job
  Starts := Starts m
  Resumes := Resumes m
  Answers a := ∀ n, ¬m.reserved a.uuid n

variable {m : Mode} {pw : Power} {t : Nat} {job : Job} {s a b : Dashboard}

/-- A fact the task keeps while it uses that power.  What is left of it at an
    await no other task ends, and it is whole again when the task is resumed. -/
structure Framed (m : Mode) (pw : Power) (t : Nat) (job : Job) (F : Dashboard → Prop) : Prop where
  carried : ∃ P : Dashboard → Prop, (discipline m).Stable t P ∧ (∀ s, F s → P s) ∧
    ∀ s op reply, Inv m s → P s → Resumes m t job s op reply → F s
  kept : ∀ a b, Inv m a → Act m pw t job a b → F a → F b

theorem Framed.of_stable {F : Dashboard → Prop} (hstable : (discipline m).Stable t F)
    (hkept : ∀ a b, Inv m a → Act m pw t job a b → F a → F b) : Framed m pw t job F :=
  ⟨⟨F, hstable, fun _ h => h, fun _ _ _ _ h _ => h⟩, hkept⟩

theorem Framed.and {F G : Dashboard → Prop} (hF : Framed m pw t job F)
    (hG : Framed m pw t job G) : Framed m pw t job fun s => F s ∧ G s := by
  obtain ⟨P, hP, hFP, hback⟩ := hF.carried
  obtain ⟨Q, hQ, hGQ, hback'⟩ := hG.carried
  refine ⟨⟨fun s => P s ∧ Q s, hP.and hQ, fun s h => ⟨hFP s h.1, hGQ s h.2⟩, ?_⟩, ?_⟩
  · exact fun s op reply hinv h hr => ⟨hback s op reply hinv h.1 hr, hback' s op reply hinv h.2 hr⟩
  · exact fun a b hinv hact h => ⟨hF.kept a b hinv hact h.1, hG.kept a b hinv hact h.2⟩

theorem Framed.imp {F : Dashboard → Prop} {p : Prop} (hF : p → Framed m pw t job F) :
    Framed m pw t job fun s => p → F s := by
  by_cases hp : p
  · obtain ⟨P, hP, hFP, hback⟩ := (hF hp).carried
    exact ⟨⟨P, hP, fun s h => hFP s (h hp), fun s op reply hinv h hr _ =>
      hback s op reply hinv h hr⟩, fun a b hinv hact h _ => (hF hp).kept a b hinv hact (h hp)⟩
  · exact .of_stable (fun _ _ _ _ _ _ _ _ h => absurd h hp) fun _ _ _ _ _ h => absurd h hp

theorem framed_true : Framed m pw t job fun _ => True :=
  .of_stable (fun _ _ _ _ _ _ _ _ => trivial) fun _ _ _ _ _ => trivial

/-! ### Facts that last -/

def Lasting (m : Mode) (F : Dashboard → Prop) : Prop :=
  ∀ pw t job a b, Inv m a → Act m pw t job a b → F a → F b

theorem Lasting.stable {F : Dashboard → Prop} (hF : Lasting m F) : (discipline m).Stable t F :=
  fun other _ job a b hinv hact h => hF _ other job a b hinv hact h

theorem Lasting.framed {F : Dashboard → Prop} (hF : Lasting m F) : Framed m pw t job F :=
  .of_stable hF.stable fun a b hinv hact h => hF pw t job a b hinv hact h

/-- The command is registered with that record. -/
def Known (e : Nat) (x : ActiveCommand) (s : Dashboard) : Prop :=
  e < s.entries ∧ SameCommand x (s.entry e)

theorem SameCommand.trans {x y z : ActiveCommand} (h : SameCommand x y) (h' : SameCommand y z) :
    SameCommand x z :=
  ⟨h'.commandId.trans h.commandId, h'.command.trans h.command, h'.robotId.trans h.robotId,
    fun hx => h'.uncertain (h.uncertain hx)⟩

theorem lasting_known (e : Nat) (x : ActiveCommand) : Lasting m (Known e x) := by
  rintro pw t job a b hinv hact ⟨hlt, hsame⟩
  cases hact with
  | mark entry timers hmark _ => exact ⟨hlt, hsame.trans (hmark e)⟩
  | register r session _ _ =>
    exact ⟨Nat.lt_succ_of_lt hlt, by rw [register_entry hlt]; exact hsame⟩
  | _ => exact ⟨hlt, hsame⟩

/-- The commands have been registered. -/
def AllKnown (es : List Nat) (s : Dashboard) : Prop := ∀ e ∈ es, e < s.entries

theorem lasting_allKnown (es : List Nat) : Lasting m (AllKnown es) := by
  intro pw t job a b hinv hact h
  cases hact with
  | register r session _ _ => exact fun e he => Nat.lt_succ_of_lt (h e he)
  | _ => exact h

/-- The command has left `active`. -/
def Gone (e : Nat) (s : Dashboard) : Prop := e < s.entries ∧ ¬Open s.toState e

theorem lasting_gone (e : Nat) : Lasting m (Gone e) := by
  rintro pw t job a b hinv hact ⟨hlt, hopen⟩
  cases hact with
  | register r session _ _ =>
    refine ⟨Nat.lt_succ_of_lt hlt, ?_⟩
    rintro ⟨i, hi⟩
    rcases register_active hi with ⟨-, rfl⟩ | hi
    · exact Nat.lt_irrefl _ hlt
    · exact hopen ⟨i, hi⟩
  | pop e' outcome _ _ _ _ =>
    refine ⟨hlt, fun hmem => hopen ?_⟩
    exact hmem.imp fun i hi => (popActive_active_subset hi).1
  | _ => exact ⟨hlt, hopen⟩

/-- The robot has a session. -/
def HasSession (r : String) (s : Dashboard) : Prop := (s.robots r).isSome = true

theorem lasting_hasSession (r : String) : Lasting m (HasSession r) := by
  intro pw t job a b hinv hact h
  cases hact with
  | opens r websocket generation _ _ _ => exact isSome_update h
  | _ => exact h

/-- The session is known under the robot's name. -/
def SessionOf (session : Nat) (r : String) (s : Dashboard) : Prop :=
  session < s.sessions ∧ (s.session session).robotId = r

theorem lasting_sessionOf (session : Nat) (r : String) : Lasting m (SessionOf session r) := by
  rintro pw t job a b hinv hact ⟨hlt, hname⟩
  cases hact with
  | opens r' websocket generation _ _ _ =>
    exact ⟨Nat.lt_succ_of_lt hlt, by simpa [Nat.ne_of_lt hlt] using hname⟩
  | clear session' _ => exact ⟨hlt, by rw [clearWebsocket_robotId]; exact hname⟩
  | _ => exact ⟨hlt, hname⟩

/-- The manual session exists. -/
def Prepared (o : Nat) (s : Dashboard) : Prop := o < s.ownerCount

theorem lasting_prepared (o : Nat) : Lasting m (Prepared o) := by
  intro pw t job a b hinv hact h
  cases hact with
  | prepare owner _ _ _ _ _ => exact Nat.lt_succ_of_lt h
  | _ => exact h

/-- The id was entered into the audit as admitted by the task. -/
def Admitted (id : String) (t : Nat) (s : Dashboard) : Prop := (id, t) ∈ s.admitted

theorem lasting_admitted (id : String) (t : Nat) : Lasting m (Admitted id t) := by
  intro pw t' job a b hinv hact h
  cases hact with
  | admitRow commandId row _ _ => exact List.mem_append_left _ h
  | _ => exact h

/-! ### Facts under an admission lock -/

/-- Only a task that holds the robot's admission lock could end the fact. -/
def Kept (m : Mode) (r : String) (F : Dashboard → Prop) : Prop :=
  ∀ pw t job a b, ¬pw.holds a r → Inv m a → Act m pw t job a b → F a → F b

theorem Kept.and {F G : Dashboard → Prop} {r : String} (hF : Kept m r F) (hG : Kept m r G) :
    Kept m r fun s => F s ∧ G s := fun pw t job a b hholds hinv hact h =>
  ⟨hF pw t job a b hholds hinv hact h.1, hG pw t job a b hholds hinv hact h.2⟩

theorem kept_notDriven (r : String) : Kept m r fun s => NotDriven s.toState r :=
  fun _ _ _ _ _ hholds hinv hact h => hact.notDriven hinv h hholds

/-- The robot has no manual session. -/
def Unowned (r : String) (s : Dashboard) : Prop := s.owners.lookup r = none

theorem kept_unowned (r : String) : Kept m r (Unowned r) := by
  intro pw t job a b hholds hinv hact h
  cases hact with
  | prepare owner howner _ _ _ _ =>
    have hne : r ≠ owner.robotId := fun heq => hholds (heq ▸ howner)
    simpa [Unowned, hne] using h
  | disown r' _ =>
    simp only [Unowned, lookup_dictPop]
    split
    · rfl
    · exact h
  | _ => exact h

/-- No reset of the robot is pending. -/
def Unbarred (r : String) (s : Dashboard) : Prop := s.resetPending r = none

theorem kept_unbarred (r : String) : Kept m r (Unbarred r) := by
  intro pw t job a b hholds hinv hact h
  cases hact with
  | register r' session _ hregisters =>
    by_cases hcommand : r'.payload.command = .softwareReset
    · have hne : r ≠ r'.robotId := fun heq => hholds
        (heq ▸ hregisters.admission (by simp [hcommand, Command.endsInput]))
      simpa [Unbarred, Incoming.register, hcommand, hne] using h
    · simpa [Unbarred, Incoming.register, hcommand] using h
  | pop e outcome _ _ _ _ =>
    simp only [Unbarred, popActive]
    split
    · by_cases hr : r = (a.entry e).robotId
      · simp [hr]
      · simpa [Unbarred, hr] using h
    · exact h
  | _ => exact h

/-- Every open reset of the robot satisfies `P`. -/
def OpenResets (r : String) (P : Nat → ActiveCommand → Prop) (s : Dashboard) : Prop :=
  ∀ e, OpenReset s.toState r e → P e (s.entry e)

theorem kept_openResets (r : String) (P : Nat → ActiveCommand → Prop)
    (hP : ∀ e x y, SameCommand x y → P e x → P e y) : Kept m r (OpenResets r P) := by
  intro pw t job a b hholds hinv hact h
  cases hact with
  | mark entry timers hsame _ =>
    rintro e ⟨hopen, hcommand, hrobot⟩
    exact hP e _ _ (hsame e) (h e ⟨hopen, (hsame e).command ▸ hcommand,
      (hsame e).robotId ▸ hrobot⟩)
  | register r' session _ hregisters =>
    rintro e ⟨⟨i, hi⟩, hcommand, hrobot⟩
    rcases register_active hi with ⟨-, rfl⟩ | hi
    · rw [register_entry_self] at hcommand hrobot
      simp only at hcommand hrobot
      exact absurd (hrobot ▸ hregisters.admission (by simp [hcommand, Command.endsInput])) hholds
    · rw [register_entry (hinv.active i e hi).1] at hcommand hrobot ⊢
      exact h e ⟨⟨i, hi⟩, hcommand, hrobot⟩
  | pop e' outcome _ _ _ _ =>
    rintro e ⟨⟨i, hi⟩, hcommand, hrobot⟩
    exact h e ⟨⟨i, (popActive_active_subset hi).1⟩, hcommand, hrobot⟩
  | _ => exact h

/-- Holding the lock lasts until the task gives it back. -/
theorem Act.ownLock {t' : Nat} {r : String} (h : Act m pw t' job a b)
    (hnot : t' ≠ t ∨ ¬pw.locks) (hown : ownLock t a r) : ownLock t b r := by
  cases h with
  | admission r' lock hlocks hkeep =>
    by_cases hr : r = r'
    · subst hr
      simp only [PatrolBot.Server.ownLock, Function.update_self]
      rcases hnot with hne | hno
      · exact hkeep t (Ne.symm hne) hown
      · exact absurd hlocks hno
    · simpa [PatrolBot.Server.ownLock, hr] using hown
  | _ => exact hown

/-- What a request that has to hold the admission lock counts on. -/
def Path (t : Nat) (r : Incoming) (K : Dashboard → Prop) (s : Dashboard) : Prop :=
  r.payload.command.endsInput = false → ownLock t s r.robotId ∧ K s

theorem framed_path {r : Incoming} {K : Dashboard → Prop} (hK : Kept m r.robotId K)
    (hlocks : ¬pw.locks) (hholds : ∀ a, ¬pw.holds a r.robotId) :
    Framed m pw t job (Path t r K) := by
  refine .of_stable ?_ ?_
  · intro other hne job a b hinv hact h hends
    obtain ⟨hown, hKa⟩ := h hends
    refine ⟨hact.ownLock (.inl hne) hown, hK _ other job a b ?_ hinv hact hKa⟩
    intro hother
    exact hne (Option.some.inj (hother.symm.trans hown))
  · intro a b hinv hact h hends
    obtain ⟨hown, hKa⟩ := h hends
    exact ⟨hact.ownLock (.inr hlocks) hown, hK pw t job a b (hholds a) hinv hact hKa⟩

theorem Path.mono {r : Incoming} {K L : Dashboard → Prop} (h : Path t r K s)
    (hKL : r.payload.command.endsInput = false → K s → L s) : Path t r L s :=
  fun hends => ⟨(h hends).1, hKL hends (h hends).2⟩

/-- An update that leaves the locks alone. -/
theorem Path.moved {r : Incoming} {K L : Dashboard → Prop} {s' : Dashboard} (h : Path t r K s)
    (hlock : s'.admissionLock = s.admissionLock)
    (hKL : r.payload.command.endsInput = false → K s → L s') : Path t r L s' :=
  fun hends => ⟨by rw [ownLock, hlock]; exact (h hends).1, hKL hends (h hends).2⟩

/-! ### Facts of one task -/

/-- The task is not closing any command. -/
def Idle (m : Mode) (t : Nat) (s : Dashboard) : Prop := m.calm → ∀ e, (e, t) ∉ s.closing

theorem Act.closing {t' : Nat} (h : Act m pw t' job a b) (hnot : t' ≠ t ∨ ¬pw.closes) {e : Nat}
    (he : (e, t) ∈ b.closing) : (e, t) ∈ a.closing := by
  cases h with
  | closed e' _ => exact List.mem_of_mem_filter he
  | pop e' outcome hcloses _ _ _ =>
    rcases List.mem_append.mp he with he | he
    · exact he
    · simp only [List.mem_singleton, Prod.mk.injEq] at he
      rcases hnot with hne | hno
      · exact absurd he.2.symm hne
      · exact absurd hcloses hno
  | _ => exact he

theorem stable_idle : (discipline m).Stable t (Idle m t) :=
  fun _ hne _ _ _ _ hact h hc e he => h hc e (hact.closing (.inl hne) he)

theorem framed_idle (hcloses : ¬pw.closes) : Framed m pw t job (Idle m t) :=
  .of_stable stable_idle fun _ _ _ hact h hc e he => h hc e (hact.closing (.inr hcloses) he)

/-- The task waits for the audit lookup of an id. -/
def LookingUp (t : Nat) (id : String) (found : Bool) (s : Dashboard) : Prop :=
  (t, id, found) ∈ s.lookups

theorem stable_lookingUp (id : String) (found : Bool) :
    (discipline m).Stable t (LookingUp t id found) := by
  intro other hne job a b hinv hact h
  cases hact with
  | lookUp commandId => exact List.mem_append_left _ h
  | lookedUp => exact List.mem_filter.mpr ⟨h, by simpa using Ne.symm hne⟩
  | _ => exact h

/-- The task is about to replace the session it has found. -/
def Replaces (m : Mode) (t : Nat) (r : String) (previous : Nat) (s : Dashboard) : Prop :=
  (t, r, previous) ∈ s.connecting ∧ (m.serial → s.robots r = some previous)

/-- Without the power of the hub the sessions and the robots' presence stay as they are. -/
structure SameHub (a b : Dashboard) : Prop where
  robots : b.robots = a.robots
  session : b.session = a.session
  robotState : b.robotState = a.robotState
  connecting : b.connecting = a.connecting
  leaving : b.leaving = a.leaving

theorem SameHub.refl (a : Dashboard) : SameHub a a := ⟨rfl, rfl, rfl, rfl, rfl⟩

theorem Act.sameHub (h : Act m pw t job a b) (hhosts : ¬pw.hosts) : SameHub a b := by
  cases h with
  | presence _ _ hpw _ | connection _ _ hpw _ | opens _ _ _ hpw _ _ | clear _ hpw
  | track _ _ hpw _ _ => exact absurd hpw hhosts
  | _ => exact ⟨rfl, rfl, rfl, rfl, rfl⟩

theorem framed_replaces (hhosts : ¬pw.hosts) (r : String) (previous : Nat) :
    Framed m pw t job (Replaces m t r previous) := by
  refine ⟨⟨fun s => (t, r, previous) ∈ s.connecting, ?_, fun s h => h.1, ?_⟩, ?_⟩
  · intro other hne job a b hinv hact h
    cases hact with
    | track _ _ _ hconnecting _ => exact hconnecting _ (Ne.symm hne) h
    | _ => exact h
  · exact fun s op reply hinv h hr => ⟨h, fun hs => hr.serial hs r previous h⟩
  · intro a b hinv hact h
    have hsame := hact.sameHub hhosts
    exact ⟨hsame.connecting ▸ h.1, fun hs => hsame.robots ▸ h.2 hs⟩

/-- The task is about to take the session's robot offline. -/
def Leaves (m : Mode) (t session : Nat) (s : Dashboard) : Prop :=
  (t, session) ∈ s.leaving ∧ (m.prompt → s.robots (s.session session).robotId = some session)

theorem framed_leaves (hhosts : ¬pw.hosts) (session : Nat) :
    Framed m pw t job (Leaves m t session) := by
  refine ⟨⟨fun s => (t, session) ∈ s.leaving, ?_, fun s h => h.1, ?_⟩, ?_⟩
  · intro other hne job a b hinv hact h
    cases hact with
    | track _ _ _ _ hleaving => exact hleaving _ (Ne.symm hne) h
    | _ => exact h
  · exact fun s op reply hinv h hr => ⟨h, fun hp => hr.prompt hp session h⟩
  · intro a b hinv hact h
    have hsame := hact.sameHub hhosts
    exact ⟨hsame.leaving ▸ h.1, fun hp => by rw [hsame.session, hsame.robots]; exact h.2 hp⟩

/-- No command has been issued under the id. -/
def Unissued (id : String) (s : Dashboard) : Prop :=
  ¬Issued s.toState id ∧ id ∉ requestIds s.wire

/-- An admitted id is the admitting task's to issue. -/
theorem framed_unissued (hissues : ¬pw.issues) (hd : m.distinct) (id : String) :
    Framed m pw t job fun s => Admitted id t s ∧ Unissued id s := by
  have key : ∀ pw' t' job a b, Inv m a → Act m pw' t' job a b → (t' ≠ t ∨ ¬pw'.issues) →
      (Admitted id t a ∧ Unissued id a) → Admitted id t b ∧ Unissued id b := by
    rintro pw' t' job a b hinv hact hnot ⟨hadmitted, hissued, hwire⟩
    refine ⟨lasting_admitted id t _ _ _ _ _ hinv hact hadmitted, ?_⟩
    -- Another task issues only ids it admitted itself.
    have hother : ∀ id', (id', t') ∈ a.admitted → t' ≠ t → id ≠ id' := by
      rintro id' hid' hne rfl
      have heq := List.inj_on_of_nodup_map (hinv.unique hd).admitted hid' hadmitted rfl
      exact hne (congrArg Prod.snd heq)
    cases hact with
    | cancel robotId websocket commandId =>
      exact ⟨hissued, by simpa [Dashboard.write] using hwire⟩
    | drive o frame _ => exact ⟨hissued, by simpa [Dashboard.write] using hwire⟩
    | mark entry timers hsame _ =>
      refine ⟨?_, hwire⟩
      rintro ⟨e, he, hid⟩
      exact hissued ⟨e, he, (hsame e).commandId ▸ hid⟩
    | register r session hissues hregisters =>
      refine ⟨?_, hwire⟩
      rintro ⟨e, he, hid⟩
      rcases Nat.lt_succ_iff_lt_or_eq.mp he with he | rfl
      · rw [register_entry he] at hid
        exact hissued ⟨e, he, hid⟩
      · rw [register_entry_self] at hid
        rcases hnot with hne | hno
        · exact hother _ (hregisters.fresh hd).1 hne hid.symm
        · exact hno hissues
    | request r websocket hissues hfresh _ _ =>
      refine ⟨hissued, ?_⟩
      simp only [Dashboard.forward, Dashboard.write, requestIds_append, requestIds_frame,
        List.mem_append, List.mem_singleton]
      rintro (hid | hid)
      · exact hwire hid
      · rcases hnot with hne | hno
        · exact hother _ (hfresh hd).1 hne hid
        · exact hno hissues
    | _ => exact ⟨hissued, hwire⟩
  exact .of_stable (fun other hne job a b hinv hact h => key _ other job a b hinv hact (.inl hne) h)
    fun a b hinv hact h => key pw t job a b hinv hact (.inr hissues) h

end PatrolBot.Server
