import PatrolBot.ServerActs

/-!
# Every update keeps the invariant

One lemma for each part of `Inv`, by the kind of the update; most updates do
not touch what a part is about.
-/

namespace PatrolBot.Server

open Coroutine

/-! ### Small facts about the observations -/

@[simp] theorem requestIds_append (wire more : List (Frame × State)) :
    requestIds (wire ++ more) = requestIds wire ++ requestIds more :=
  List.filterMap_append

@[simp] theorem driveSeqs_append (wire more : List (Frame × State)) (o : Nat) :
    driveSeqs (wire ++ more) o = driveSeqs wire o ++ driveSeqs more o :=
  List.filterMap_append

@[simp] theorem reports_append (published more : List Publication) (e : Nat) :
    reports (published ++ more) e = reports published e + reports more e :=
  List.countP_append

@[simp] theorem waitingSeqs_queue (lock : Lock Velocity) (t : Nat) (frame : Velocity) :
    waitingSeqs (lock.queue t frame) =
      waitingSeqs lock ++ if frame.deadman then [frame.seq] else [] := by
  cases hdeadman : frame.deadman <;> simp [waitingSeqs, Lock.queue, hdeadman]

@[simp] theorem waitingSeqs_enter (lock : Lock Velocity) (t : Nat) :
    waitingSeqs (lock.enter t) = waitingSeqs lock := rfl

@[simp] theorem requestIds_cancel (robotId : String) (websocket : Nat) (id : String)
    (s : State) : requestIds [(⟨robotId, websocket, .cancel id⟩, s)] = [] := rfl

@[simp] theorem requestIds_velocity (robotId : String) (websocket o : Nat) (frame : Velocity)
    (s : State) : requestIds [(⟨robotId, websocket, .velocity o frame⟩, s)] = [] := rfl

@[simp] theorem requestIds_frame (r : Incoming) (websocket : Nat) (s : State) :
    requestIds [(r.frame websocket, s)] = [r.payload.commandId] := rfl

@[simp] theorem driveSeqs_cancel (robotId : String) (websocket : Nat) (id : String) (s : State)
    (o : Nat) : driveSeqs [(⟨robotId, websocket, .cancel id⟩, s)] o = [] := rfl

@[simp] theorem driveSeqs_frame (r : Incoming) (websocket : Nat) (s : State) (o : Nat) :
    driveSeqs [(r.frame websocket, s)] o = [] := rfl

theorem driveSeqs_velocity (robotId : String) (websocket o o' : Nat) (frame : Velocity)
    (s : State) : driveSeqs [(⟨robotId, websocket, .velocity o frame⟩, s)] o' =
      if o = o' ∧ frame.deadman then [frame.seq] else [] := by
  by_cases h : o = o' ∧ frame.deadman = true <;> simp [driveSeqs, FrameBody.driveSeq, h]

theorem SameCommand.refl (x : ActiveCommand) : SameCommand x x := ⟨rfl, rfl, rfl, id⟩

theorem Carries.refl (x : ManualOwner) : Carries x x :=
  ⟨rfl, rfl, rfl, rfl, rfl, rfl, rfl, id, le_rfl, .refl _, .inl⟩

theorem popActive_active_subset {t e : Nat} {outcome : Outcome} {a : Dashboard}
    {p : String × Nat} (h : p ∈ (popActive t e outcome a).active) :
    p ∈ a.active ∧ p.1 ≠ (a.entry e).commandId := by
  simpa [popActive] using h

theorem cancelTimers_entry {timers : List Timer} {refs : List Nat} {timer : Timer}
    (h : timer ∈ cancelTimers timers refs) : ∃ old ∈ timers, old.entry = timer.entry := by
  simp only [cancelTimers, List.mem_map] at h
  obtain ⟨⟨old, i⟩, hmem, rfl⟩ := h
  refine ⟨old, List.mem_zipIdx' hmem |>.2 ▸ by simp, ?_⟩
  dsimp only
  split <;> rfl

@[simp] theorem clearWebsocket_robotId (session ref : Nat) (a : Dashboard) :
    ((clearWebsocket session a).session ref).robotId = (a.session ref).robotId := by
  by_cases h : ref = session
  · subst h
    simp [clearWebsocket]
  · simp [clearWebsocket, h]

@[simp] theorem clearWebsocket_generation (session ref : Nat) (a : Dashboard) :
    ((clearWebsocket session a).session ref).generation = (a.session ref).generation := by
  by_cases h : ref = session
  · subst h
    simp [clearWebsocket]
  · simp [clearWebsocket, h]

theorem clearWebsocket_websocket {session ref websocket : Nat} {a : Dashboard}
    (h : ((clearWebsocket session a).session ref).websocket = some websocket) :
    (a.session ref).websocket = some websocket := by
  by_cases heq : ref = session
  · subst heq
    simp [clearWebsocket] at h
  · simpa [clearWebsocket, heq] using h

/-- A robot that has a session keeps one. -/
theorem isSome_update {robots : String → Option Nat} {r r' : String} {ref : Nat}
    (h : (robots r').isSome = true) :
    (Function.update robots r (some ref) r').isSome = true := by
  by_cases hr : r' = r
  · simp [hr]
  · simpa [hr] using h

/-- The commands that were registered before keep their record. -/
theorem register_entry {r : Incoming} {session : Nat} {a : Dashboard} {e : Nat}
    (h : e < a.entries) : (r.register session a).entry e = a.entry e :=
  Function.update_of_ne (Nat.ne_of_lt h) _ _

@[simp] theorem register_entry_self (r : Incoming) (session : Nat) (a : Dashboard) :
    (r.register session a).entry a.entries = {
      commandId := r.payload.commandId, command := r.payload.command, robotId := r.robotId
      initiator := r.client, robotSession := session
      robotWebsocket := (a.session session).websocket } :=
  Function.update_self ..

theorem register_active {r : Incoming} {session : Nat} {a : Dashboard} {i : String}
    {e : Nat} (h : (i, e) ∈ (r.register session a).active) :
    (i = r.payload.commandId ∧ e = a.entries) ∨ (i, e) ∈ a.active := by
  rcases eq_or_mem_of_mem_dictSet h with h | h
  · simp only [Prod.mk.injEq] at h
    exact .inl h
  · exact .inr h

section

variable {m : Mode} {pw : Power} {t : Nat} {job : Job} {a b : Dashboard}

/-! ### Commands -/

theorem Act.active (h : Act m pw t job a b) (hinv : Inv m a) :
    ∀ i e, (i, e) ∈ b.active → e < b.entries ∧ (b.entry e).commandId = i := by
  cases h with
  | mark entry timers hsame _ =>
    intro i e he
    obtain ⟨hlt, hid⟩ := hinv.active i e he
    exact ⟨hlt, (hsame e).commandId.trans hid⟩
  | register r session _ _ =>
    intro i e he
    rcases register_active he with ⟨rfl, rfl⟩ | he
    · exact ⟨Nat.lt_succ_self _, by simp⟩
    · obtain ⟨hlt, hid⟩ := hinv.active i e he
      exact ⟨Nat.lt_succ_of_lt hlt, by rw [register_entry hlt]; exact hid⟩
  | pop e outcome _ _ _ _ => exact fun i e he => hinv.active i e (popActive_active_subset he).1
  | _ => exact hinv.active

theorem Act.timers (h : Act m pw t job a b) (hinv : Inv m a) :
    ∀ timer ∈ b.timers, timer.entry < b.entries := by
  cases h with
  | mark entry timers _ htimers => exact htimers
  | register r session _ _ =>
    exact fun timer htimer => Nat.lt_succ_of_lt (hinv.timers timer htimer)
  | pop e outcome _ _ _ _ =>
    intro timer htimer
    obtain ⟨old, hold, heq⟩ := cancelTimers_entry htimer
    exact heq ▸ hinv.timers old hold
  | _ => exact hinv.timers

theorem Act.robots (h : Act m pw t job a b) (hinv : Inv m a) :
    ∀ r ref, b.robots r = some ref → ref < b.sessions ∧ (b.session ref).robotId = r := by
  cases h with
  | opens r websocket generation _ _ _ =>
    intro r' ref href
    by_cases hr : r' = r
    · subst hr
      simp only [Function.update_self, Option.some.injEq] at href
      subst href
      exact ⟨Nat.lt_succ_self _, by simp⟩
    · simp only [Function.update_of_ne hr] at href
      obtain ⟨hlt, hname⟩ := hinv.robots r' ref href
      exact ⟨Nat.lt_succ_of_lt hlt, by simpa [Nat.ne_of_lt hlt] using hname⟩
  | clear session _ =>
    intro r ref href
    obtain ⟨hlt, hname⟩ := hinv.robots r ref href
    exact ⟨hlt, by rw [clearWebsocket_robotId]; exact hname⟩
  | _ => exact hinv.robots

theorem Act.sessions (h : Act m pw t job a b) (hinv : Inv m a) :
    ∀ e, e < b.entries → (b.robots (b.entry e).robotId).isSome = true := by
  cases h with
  | opens r websocket generation _ _ _ =>
    exact fun e he => isSome_update (hinv.sessions e he)
  | mark entry timers hsame _ =>
    intro e he
    show (a.robots (entry e).robotId).isSome = true
    rw [(hsame e).robotId]
    exact hinv.sessions e he
  | register r session _ hregisters =>
    intro e he
    rcases Nat.lt_succ_iff_lt_or_eq.mp he with he | rfl
    · rw [register_entry he]
      exact hinv.sessions e he
    · rw [register_entry_self]
      exact hregisters.session
  | _ => exact hinv.sessions

/-! ### Manual sessions -/

theorem Act.owners (h : Act m pw t job a b) (hinv : Inv m a) :
    ∀ r o, b.owners.lookup r = some o → o < b.ownerCount ∧ (b.owner o).robotId = r := by
  cases h with
  | manual owner hcarries =>
    intro r o ho
    obtain ⟨hlt, hrobot⟩ := hinv.owners r o ho
    exact ⟨hlt, (hcarries o).robotId.trans hrobot⟩
  | wait o frame _ =>
    intro r o' ho
    obtain ⟨hlt, hrobot⟩ := hinv.owners r o' ho
    refine ⟨hlt, ?_⟩
    by_cases heq : o' = o
    · subst heq
      simpa [Dashboard.setSendLock, Dashboard.setOwner] using hrobot
    · simpa [Dashboard.setSendLock, Dashboard.setOwner, heq] using hrobot
  | prepare owner _ _ _ _ _ =>
    intro r o ho
    simp only [lookup_dictSet] at ho
    split at ho
    · rename_i hr
      simp only [Option.some.injEq] at ho
      subst ho hr
      exact ⟨Nat.lt_succ_self _, by simp⟩
    · obtain ⟨hlt, hrobot⟩ := hinv.owners r o ho
      exact ⟨Nat.lt_succ_of_lt hlt, by simpa [Nat.ne_of_lt hlt] using hrobot⟩
  | disown r _ =>
    intro r' o ho
    simp only [lookup_dictPop] at ho
    split at ho
    · simp at ho
    · exact hinv.owners r' o ho
  | _ => exact hinv.owners

/-- What a queued frame leaves of an owner. -/
structure SameOwner (x y : ManualOwner) : Prop where
  commandId : y.commandId = x.commandId
  robotId : y.robotId = x.robotId
  phase : y.phase = x.phase
  seq : y.seq = x.seq
  startTerminal : y.startTerminal = x.startTerminal
  stopIds : y.stopIds = x.stopIds

theorem queue_carries (o o' : Nat) (frame : Velocity) (a : Dashboard) (t : Nat) :
    SameOwner (a.owner o') ((a.setSendLock o ((a.owner o).sendLock.queue t frame)).owner o') := by
  by_cases heq : o' = o
  · subst heq
    constructor <;> simp [Dashboard.setSendLock, Dashboard.setOwner]
  · constructor <;> simp [Dashboard.setSendLock, Dashboard.setOwner, heq]

theorem Act.live (h : Act m pw t job a b) (hinv : Inv m a) :
    ∀ o, o < b.ownerCount → (b.owner o).phase.live = true →
      b.owners.lookup (b.owner o).robotId = some o := by
  cases h with
  | manual owner hcarries =>
    intro o hlt hlive
    show a.owners.lookup (owner o).robotId = some o
    rw [(hcarries o).robotId]
    exact hinv.live o hlt ((hcarries o).phase hlive)
  | wait o frame _ =>
    intro o' hlt hlive
    rw [(queue_carries o o' frame a t).phase] at hlive
    rw [(queue_carries o o' frame a t).robotId]
    exact hinv.live o' hlt hlive
  | prepare owner _ hfree _ _ _ =>
    intro o hlt hlive
    rcases Nat.lt_succ_iff_lt_or_eq.mp hlt with hlt | rfl
    · simp only [Function.update_of_ne (Nat.ne_of_lt hlt), lookup_dictSet] at hlive ⊢
      have hmine := hinv.live o hlt hlive
      split
      · rename_i hr
        exact absurd (hr ▸ hmine) (by simp [hfree])
      · exact hmine
    · simp
  | disown r hr =>
    intro o hlt hlive
    simp only [lookup_dictPop]
    have hmine := hinv.live o hlt hlive
    split
    · rename_i heq
      exact absurd (hr o (heq ▸ hmine)) (by simp [hlive])
    · exact hmine
  | _ => exact hinv.live

theorem Act.ended (h : Act m pw t job a b) (hinv : Inv m a) :
    ∀ o, o < b.ownerCount → (b.owner o).startTerminal = true →
      (b.owner o).phase.live = false := by
  cases h with
  | manual owner hcarries =>
    intro o hlt hterminal
    rcases (hcarries o).terminal hterminal with hbefore | hended
    · have hended := hinv.ended o hlt hbefore
      cases hlive : (owner o).phase.live with
      | false => rfl
      | true => simp [(hcarries o).phase hlive] at hended
    · exact hended
  | wait o frame _ =>
    intro o' hlt hterminal
    rw [(queue_carries o o' frame a t).startTerminal] at hterminal
    rw [(queue_carries o o' frame a t).phase]
    exact hinv.ended o' hlt hterminal
  | prepare owner _ _ _ _ hstart =>
    intro o hlt hterminal
    rcases Nat.lt_succ_iff_lt_or_eq.mp hlt with hlt | rfl
    · simp only [Function.update_of_ne (Nat.ne_of_lt hlt)] at hterminal ⊢
      exact hinv.ended o hlt hterminal
    · simp [hstart] at hterminal
  | _ => exact hinv.ended

/-- No update revives the manual session of a robot; only `prepare` begins one. -/
theorem Act.notDriven (h : Act m pw t job a b) (hinv : Inv m a) {r : String}
    (hr : NotDriven a.toState r) (hholds : ¬pw.holds a r) : NotDriven b.toState r := by
  cases h with
  | manual owner hcarries =>
    intro o ho
    have hbefore := hr o ho
    cases hlive : (owner o).phase.live with
    | false => rfl
    | true => simp [(hcarries o).phase hlive] at hbefore
  | wait o frame _ =>
    intro o' ho
    rw [(queue_carries o o' frame a t).phase]
    exact hr o' ho
  | prepare owner howner _ _ _ _ =>
    intro o ho
    have hne : r ≠ owner.robotId := fun heq => hholds (heq ▸ howner)
    simp only [lookup_dictSet, hne, if_false] at ho
    simp only [Function.update_of_ne (Nat.ne_of_lt (hinv.owners r o ho).1)]
    exact hr o ho
  | disown r' _ =>
    intro o ho
    simp only [lookup_dictPop] at ho
    split at ho
    · simp at ho
    · exact hr o ho
  | _ => exact hr

/-- `prepare` finds no open command, and a session that is live keeps them out. -/
theorem Act.exclusive (h : Act m pw t job a b) (hinv : Inv m a) :
    ∀ e, Open b.toState e → (b.entry e).command.autonomous = true →
      NotDriven b.toState (b.entry e).robotId := by
  cases h with
  | mark entry timers hsame _ =>
    intro e he hauto
    show NotDriven a.toState (entry e).robotId
    rw [(hsame e).robotId]
    exact hinv.exclusive e he ((hsame e).command ▸ hauto)
  | register r session _ hregisters =>
    rintro e ⟨i, he⟩ hauto
    rcases register_active he with ⟨-, rfl⟩ | he
    · rw [register_entry_self] at hauto ⊢
      exact hregisters.exclusive hauto
    · rw [register_entry (hinv.active i e he).1] at hauto ⊢
      exact hinv.exclusive e ⟨i, he⟩ hauto
  | pop e outcome _ _ _ _ =>
    rintro e' ⟨i, he⟩ hauto
    exact hinv.exclusive e' ⟨i, (popActive_active_subset he).1⟩ hauto
  | manual owner hcarries =>
    intro e he hauto o ho
    have hbefore := hinv.exclusive e he hauto o ho
    cases hlive : (owner o).phase.live with
    | false => rfl
    | true => simp [(hcarries o).phase hlive] at hbefore
  | wait o frame _ =>
    intro e he hauto o' ho
    rw [(queue_carries o o' frame a t).phase]
    exact hinv.exclusive e he hauto o' ho
  | prepare owner _ _ hidle _ _ =>
    intro e he hauto o ho
    simp only [lookup_dictSet, hidle e he, if_false] at ho
    simp only [Function.update_of_ne (Nat.ne_of_lt (hinv.owners _ o ho).1)]
    exact hinv.exclusive e he hauto o ho
  | disown r _ =>
    intro e he hauto o ho
    simp only [lookup_dictPop] at ho
    split at ho
    · simp at ho
    · exact hinv.exclusive e he hauto o ho
  | _ => exact hinv.exclusive

/-! ### Drive frames -/

theorem Act.drives (h : Act m pw t job a b) (hinv : Inv m a) :
    ∀ f ∈ b.wire, DriveCovered f := by
  have hold : ∀ f : Frame × State, (f ∈ a.wire ∨ DriveCovered f) → DriveCovered f :=
    fun f hf => hf.elim (hinv.drives f) id
  cases h with
  | cancel robotId websocket commandId =>
    refine fun f hf => hold f ((List.mem_append.mp hf).imp_right fun hf => ?_)
    obtain rfl := List.mem_singleton.mp hf
    exact fun o frame hbody => absurd hbody (by simp)
  | request r websocket _ _ _ =>
    refine fun f hf => hold f ((List.mem_append.mp hf).imp_right fun hf => ?_)
    obtain rfl := List.mem_singleton.mp hf
    exact fun o frame hbody => absurd hbody (by simp [Incoming.frame])
  | drive o frame hdrive =>
    refine fun f hf => hold f ((List.mem_append.mp hf).imp_right fun hf => ?_)
    obtain rfl := List.mem_singleton.mp hf
    intro o' frame' hbody hdeadman
    simp only [FrameBody.velocity.injEq] at hbody
    obtain ⟨rfl, rfl⟩ := hbody
    obtain ⟨hlt, hphase, hbound, hlease, -⟩ := hdrive hdeadman
    exact ⟨hinv.live o hlt (by simp [hphase, Phase.live]), hphase, hbound, hlease, rfl⟩
  | _ => exact hinv.drives

theorem Act.seqs (h : Act m pw t job a b) (hinv : Inv m a) :
    ∀ o, o < b.ownerCount →
      (driveSeqs b.wire o ++ waitingSeqs (b.owner o).sendLock).Pairwise (· < ·) ∧
        ∀ q ∈ driveSeqs b.wire o ++ waitingSeqs (b.owner o).sendLock, q ≤ (b.owner o).seq := by
  cases h with
  | cancel robotId websocket commandId => simpa [Dashboard.write] using hinv.seqs
  | request r websocket _ _ _ => simpa [Dashboard.forward, Dashboard.write] using hinv.seqs
  | manual owner hcarries =>
    intro o hlt
    obtain ⟨hsorted, hle⟩ := hinv.seqs o hlt
    have hsub := (hcarries o).waiting.append_left (driveSeqs a.wire o)
    exact ⟨hsorted.sublist hsub, fun q hq => (hle q (hsub.subset hq)).trans (hcarries o).seq⟩
  | wait o frame hframe =>
    intro o' hlt
    obtain ⟨hsorted, hle⟩ := hinv.seqs o' hlt
    by_cases heq : o' = o
    · subst heq
      simp only [Dashboard.setSendLock, Dashboard.setOwner, Function.update_self,
        waitingSeqs_queue]
      cases hdeadman : frame.deadman with
      | false => simpa using hinv.seqs o' hlt
      | true =>
        obtain ⟨-, hseq, hlast⟩ := hframe hdeadman
        simp only [if_true, ← List.append_assoc]
        refine ⟨List.pairwise_append.mpr ⟨hsorted, by simp, by simpa using hlast⟩, ?_⟩
        intro q hq
        rcases List.mem_append.mp hq with hq | hq
        · exact hle q hq
        · exact (List.mem_singleton.mp hq) ▸ hseq
    · simpa [Dashboard.setSendLock, Dashboard.setOwner, heq] using hinv.seqs o' hlt
  | prepare owner _ _ _ hlock _ =>
    intro o hlt
    rcases Nat.lt_succ_iff_lt_or_eq.mp hlt with hlt | rfl
    · simpa [Function.update_of_ne (Nat.ne_of_lt hlt)] using hinv.seqs o hlt
    · simp [hinv.undriven _ le_rfl, hlock, waitingSeqs]
  | drive o frame hdrive =>
    intro o' hlt
    obtain ⟨hsorted, hle⟩ := hinv.seqs o' hlt
    simp only [Dashboard.write, driveSeqs_append, driveSeqs_velocity]
    split
    · rename_i heq
      obtain ⟨rfl, hdeadman⟩ := heq
      obtain ⟨-, -, -, -, hseq, hwritten, hwaiting⟩ := hdrive hdeadman
      obtain ⟨hdriven, hwaits, hcross⟩ := List.pairwise_append.mp hsorted
      constructor
      · rw [List.append_assoc]
        refine List.pairwise_append.mpr ⟨hdriven, ?_, ?_⟩
        · simpa using ⟨hwaiting, hwaits⟩
        · intro p hp q hq
          rcases List.mem_append.mp hq with hq | hq
          · exact (List.mem_singleton.mp hq) ▸ hwritten p hp
          · exact hcross p hp q hq
      · intro q hq
        simp only [List.mem_append, List.mem_singleton] at hq hle
        rcases hq with (hq | rfl) | hq
        · exact hle q (.inl hq)
        · exact hseq
        · exact hle q (.inr hq)
    · simpa using hinv.seqs o' hlt
  | _ => exact hinv.seqs

theorem Act.undriven (h : Act m pw t job a b) (hinv : Inv m a) :
    ∀ o, b.ownerCount ≤ o → driveSeqs b.wire o = [] := by
  cases h with
  | cancel robotId websocket commandId => simpa [Dashboard.write] using hinv.undriven
  | request r websocket _ _ _ => simpa [Dashboard.forward, Dashboard.write] using hinv.undriven
  | prepare owner _ _ _ _ _ => exact fun o ho => hinv.undriven o (Nat.le_of_succ_le ho)
  | drive o frame hdrive =>
    intro o' ho
    simp only [Dashboard.write, driveSeqs_append, driveSeqs_velocity, hinv.undriven o' ho]
    split
    · rename_i heq
      obtain ⟨rfl, hdeadman⟩ := heq
      exact absurd (hdrive hdeadman).1 (Nat.not_lt.mpr ho)
    · rfl
  | _ => exact hinv.undriven

/-! ### One command for each id -/

/-- Under one id there is one command, so `active` finds the command itself. -/
theorem Unique.same {s : Dashboard} (hunique : Unique s) (hinv : Inv m s) {e e' : Nat}
    (he : e < s.entries) (hmem : ((s.entry e).commandId, e') ∈ s.active) : e' = e := by
  obtain ⟨hlt, hid⟩ := hinv.active _ e' hmem
  exact hunique.entries e' e hlt he hid

theorem Unique.mem_active {s : Dashboard} (hunique : Unique s) (hinv : Inv m s) {e : Nat}
    (he : e < s.entries) (hactive : s.isActive (s.entry e).commandId = true) :
    ((s.entry e).commandId, e) ∈ s.active := by
  obtain ⟨e', he'⟩ := Option.isSome_iff_exists.mp hactive
  have hmem := mem_of_lookup he'
  obtain rfl := hunique.same hinv he hmem
  exact hmem

theorem issued_register {r : Incoming} {session : Nat} {id : String}
    (h : Issued a.toState id) : Issued (r.register session a).toState id := by
  obtain ⟨e, he, hid⟩ := h
  exact ⟨e, Nat.lt_succ_of_lt he, by rw [register_entry he]; exact hid⟩

theorem insertAudit_isSome {id id' : String} {row : AuditRow}
    (h : (a.audit id').isSome = true) : ((a.insertAudit id row).audit id').isSome = true := by
  simp only [Dashboard.insertAudit]
  split
  · exact h
  · by_cases heq : id' = id
    · simp [heq]
    · simpa [heq] using h

theorem insertAudit_self (id : String) (row : AuditRow) :
    ((a.insertAudit id row).audit id).isSome = true := by
  simp only [Dashboard.insertAudit]
  split
  · rename_i hrecorded
    exact hrecorded
  · simp

theorem completeAudit_isSome {id id' detail : String} {outcome : Outcome} :
    ((a.completeAudit id outcome detail).audit id').isSome = (a.audit id').isSome := by
  by_cases heq : id' = id
  · subst heq
    simp [Dashboard.completeAudit]
  · simp [Dashboard.completeAudit, heq]

theorem Act.unique (h : Act m pw t job a b) (hd : m.distinct) (hu : Unique a) :
    Unique b := by
  cases h with
  | cancel robotId websocket commandId =>
    refine { hu with wire := ?_, sent := ?_ }
    · simpa [Dashboard.write] using hu.wire
    · simpa [Dashboard.write] using hu.sent
  | drive o frame _ =>
    refine { hu with wire := ?_, sent := ?_ }
    · simpa [Dashboard.write] using hu.wire
    · simpa [Dashboard.write] using hu.sent
  | lookUp commandId =>
    refine { hu with lookups := ?_ }
    intro l hl hfound
    rcases List.mem_append.mp hl with hl | hl
    · exact hu.lookups l hl hfound
    · obtain rfl := List.mem_singleton.mp hl
      intro hmem
      obtain ⟨p, hp, rfl⟩ := List.mem_map.mp hmem
      have hrecorded := hu.recorded p hp
      simp only [State.recorded] at hfound
      simp [hfound] at hrecorded
  | lookedUp =>
    exact { hu with lookups := fun l hl => hu.lookups l (List.mem_of_mem_filter hl) }
  | insert commandId row =>
    exact { hu with recorded := fun p hp => insertAudit_isSome (hu.recorded p hp) }
  | admitRow commandId row _ hfresh =>
    obtain ⟨hnew, halone⟩ := hfresh hd
    refine { hu with admitted := ?_, recorded := ?_, lookups := ?_, issued := ?_ }
    · simpa [List.nodup_append, Dashboard.insertAudit] using
        ⟨hu.admitted, fun id' k hk heq => hnew (heq ▸ List.mem_map_of_mem hk)⟩
    · intro p hp
      rcases List.mem_append.mp hp with hp | hp
      · exact insertAudit_isSome (hu.recorded p hp)
      · obtain rfl := List.mem_singleton.mp hp
        exact insertAudit_self commandId row
    · intro l hl hfound hmem
      simp only [List.map_append, List.map_cons, List.map_nil, List.mem_append,
        List.mem_singleton] at hmem
      rcases hmem with hmem | hmem
      · exact hu.lookups l hl hfound hmem
      · obtain ⟨t', id, found⟩ := l
        obtain rfl : found = false := hfound
        exact halone (hmem ▸ mem_unfound hl)
    · intro e he
      simpa [Dashboard.insertAudit] using Or.inl (by simpa using hu.issued e he)
  | complete commandId outcome detail _ =>
    exact { hu with recorded := fun p hp => completeAudit_isSome.trans (hu.recorded p hp) }
  | mark entry timers hsame _ =>
    refine { hu with entries := ?_, issued := ?_, sent := ?_ }
    · intro e e' he he' heq
      rw [show (entry e).commandId = _ from (hsame e).commandId,
        show (entry e').commandId = _ from (hsame e').commandId] at heq
      exact hu.entries e e' he he' heq
    · intro e he
      rw [show (entry e).commandId = _ from (hsame e).commandId]
      exact hu.issued e he
    · intro id hid
      obtain ⟨e, he, rfl⟩ := hu.sent id hid
      exact ⟨e, he, (hsame e).commandId⟩
  | register r session _ hregisters =>
    obtain ⟨hadmitted, hissued, -⟩ := hregisters.fresh hd
    refine { hu with entries := ?_, issued := ?_, sent := ?_ }
    · intro e e' he he' heq
      rcases Nat.lt_succ_iff_lt_or_eq.mp he with he | rfl <;>
        rcases Nat.lt_succ_iff_lt_or_eq.mp he' with he' | rfl
      · rw [register_entry he, register_entry he'] at heq
        exact hu.entries e e' he he' heq
      · rw [register_entry he, register_entry_self] at heq
        exact absurd ⟨e, he, heq⟩ hissued
      · rw [register_entry he', register_entry_self] at heq
        exact absurd ⟨e', he', heq.symm⟩ hissued
      · rfl
    · intro e he
      rcases Nat.lt_succ_iff_lt_or_eq.mp he with he | rfl
      · rw [register_entry he]
        exact hu.issued e he
      · rw [register_entry_self]
        exact List.mem_map_of_mem (f := Prod.fst) hadmitted
    · exact fun id hid => issued_register (hu.sent id hid)
  | request r websocket _ hfresh _ =>
    obtain ⟨-, hissued, hnew⟩ := hfresh hd
    refine { hu with wire := ?_, sent := ?_ }
    · simpa [Dashboard.forward, Dashboard.write, List.nodup_append] using
        ⟨hu.wire, fun id hid heq => hnew (heq ▸ hid)⟩
    · intro id hid
      simp only [Dashboard.forward, Dashboard.write, requestIds_append, requestIds_frame,
        List.mem_append, List.mem_singleton] at hid
      rcases hid with hid | rfl
      · exact hu.sent id hid
      · exact hissued
  | _ => exact ⟨hu.admitted, hu.recorded, hu.lookups, hu.entries, hu.issued, hu.wire, hu.sent⟩

/-! ### The pending reset -/

theorem Act.barrier (h : Act m pw t job a b) (hinv : Inv m a) (hn : m.named)
    (hb : Barrier a) : Barrier b := by
  have hu := hinv.unique (m.distinct_of_named hn)
  have hwire : ∀ f : Frame × State, (f ∈ a.wire ∨ ResetAllows f) → ResetAllows f :=
    fun f hf => hf.elim (hb.wire f) id
  cases h with
  | cancel robotId websocket commandId =>
    refine { hb with wire := fun f hf => hwire f ((List.mem_append.mp hf).imp_right ?_) }
    intro hf
    obtain rfl := List.mem_singleton.mp hf
    exact fun payload hbody => absurd hbody (by simp)
  | drive o frame _ =>
    refine { hb with wire := fun f hf => hwire f ((List.mem_append.mp hf).imp_right ?_) }
    intro hf
    obtain rfl := List.mem_singleton.mp hf
    exact fun payload hbody => absurd hbody (by simp)
  | request r websocket _ _ hreset =>
    refine { hb with wire := fun f hf => hwire f ((List.mem_append.mp hf).imp_right ?_) }
    intro hf
    obtain rfl := List.mem_singleton.mp hf
    exact hreset hn
  | mark entry timers hsame _ =>
    refine { hb with pending := ?_, reset := ?_ }
    · intro r i hi
      obtain ⟨e, he, hcommand, hrobot⟩ := hb.pending r i hi
      exact ⟨e, he, (hsame e).command.trans hcommand, (hsame e).robotId.trans hrobot⟩
    · intro i e he hcommand
      show a.resetPending (entry e).robotId = some i
      rw [(hsame e).robotId]
      exact hb.reset i e he ((hsame e).command ▸ hcommand)
  | register r session _ hregisters =>
    obtain ⟨-, hissued, -⟩ := hregisters.fresh (m.distinct_of_named hn)
    have hkeep : ∀ {i e}, (i, e) ∈ a.active →
        (i, e) ∈ (r.register session a).active := fun {i e} he =>
      mem_dictSet_of_ne he fun heq => hissued ⟨e, (hinv.active i e he).1,
        (hinv.active i e he).2.trans heq⟩
    refine ⟨?_, ?_, hb.wire⟩
    · intro r' i hi
      by_cases hcommand : r.payload.command = .softwareReset
      · by_cases hr : r' = r.robotId
        · subst hr
          simp only [Incoming.register, hcommand, if_true, Function.update_self,
            Option.some.injEq] at hi
          subst hi
          exact ⟨a.entries, mem_dictSet_self .., by simp [hcommand], by simp⟩
        · simp only [Incoming.register, hcommand, if_true, Function.update_of_ne hr] at hi
          obtain ⟨e, he, hreset, hrobot⟩ := hb.pending r' i hi
          exact ⟨e, hkeep he, by
            rw [register_entry (hinv.active i e he).1]
            exact ⟨hreset, hrobot⟩⟩
      · simp only [Incoming.register, hcommand, if_false] at hi
        obtain ⟨e, he, hreset, hrobot⟩ := hb.pending r' i hi
        exact ⟨e, hkeep he, by
          rw [register_entry (hinv.active i e he).1]
          exact ⟨hreset, hrobot⟩⟩
    · intro i e he hcommand
      rcases register_active he with ⟨rfl, rfl⟩ | he
      · rw [register_entry_self] at hcommand ⊢
        simp only at hcommand
        simp [Incoming.register, hcommand]
      · rw [register_entry (hinv.active i e he).1] at hcommand ⊢
        have hpending := hb.reset i e he hcommand
        by_cases hreset : r.payload.command = .softwareReset
        · have hne : (a.entry e).robotId ≠ r.robotId := fun hr =>
            hregisters.reset hn hreset e ⟨⟨i, he⟩, hcommand, hr⟩
          simpa [Incoming.register, hreset, hne] using hpending
        · simpa [Incoming.register, hreset] using hpending
  | pop e outcome _ hlt hactive _ =>
    have hopen := hu.mem_active hinv hlt hactive
    refine ⟨?_, ?_, hb.wire⟩
    · intro r i hi
      have hbefore : a.resetPending r = some i := by
        simp only [popActive] at hi
        split at hi
        · by_cases hr : r = (a.entry e).robotId
          · simp [hr] at hi
          · simpa [hr] using hi
        · exact hi
      obtain ⟨e', he', hreset, hrobot⟩ := hb.pending r i hbefore
      refine ⟨e', ?_, hreset, hrobot⟩
      simp only [popActive, mem_dictPop]
      refine ⟨he', fun heq => ?_⟩
      -- The popped command would be the pending reset, which clears the barrier.
      obtain rfl := hu.same hinv hlt (heq ▸ he')
      simp [popActive, hreset, hrobot] at hi
    · intro i e' he' hreset
      obtain ⟨hmem, hne⟩ := popActive_active_subset he'
      have hpending := hb.reset i e' hmem hreset
      simp only [popActive]
      split
      · rename_i hcommand
        have hrobot : (a.entry e').robotId ≠ (a.entry e).robotId := by
          intro hrobot
          have hpopped := hb.reset _ e hopen hcommand
          -- Both resets would be the one that is pending.
          rw [hrobot, hpopped] at hpending
          exact hne (Option.some.inj hpending).symm
        simpa [hrobot] using hpending
      · exact hpending
  | _ => exact ⟨hb.pending, hb.reset, hb.wire⟩

/-! ### Close-outs -/

theorem Complete.congr {s s' : State} {e : Nat} {outcome : Outcome} (h : Complete s e outcome)
    (hid : (s'.entry e).commandId = (s.entry e).commandId)
    (haudit : ∀ row, s.audit (s.entry e).commandId = some row →
      s'.audit (s.entry e).commandId = some row)
    (hreports : reports s'.published e = reports s.published e) : Complete s' e outcome := by
  obtain ⟨⟨row, hrow, houtcome⟩, hreported⟩ := h
  exact ⟨⟨row, hid ▸ haudit row hrow, houtcome⟩, fun hne => hreports ▸ hreported hne⟩

theorem insertAudit_some {id id' : String} {row row' : AuditRow}
    (h : a.audit id' = some row') : (a.insertAudit id row).audit id' = some row' := by
  simp only [Dashboard.insertAudit]
  split
  · exact h
  · rename_i hrecorded
    have hne : id' ≠ id := by
      rintro rfl
      simp [State.recorded, h] at hrecorded
    simpa [hne] using h

theorem reports_publish_of_closes {p : Publication} {e : Nat} (h : p.closes ≠ some e) :
    reports (a.publish p).published e = reports a.published e := by
  simp [Dashboard.publish, reports, h]

/-- A publication that reports no end changes nothing. -/
theorem CloseOuts.publish {p : Publication} (hco : CloseOuts a) (hp : p.closes = none) :
    CloseOuts (a.publish p) := by
  refine { hco with closed := ?_, reports := ?_ }
  · intro e o heo
    obtain ⟨hlt, hopen, hdone⟩ := hco.closed e o heo
    exact ⟨hlt, hopen, hdone.imp_right fun hd => hd.congr rfl (fun _ h => h)
      (reports_publish_of_closes (by simp [hp]))⟩
  · intro e he
    rw [reports_publish_of_closes (by simp [hp])] at he
    exact hco.reports e he

theorem Act.closeOuts (h : Act m pw t job a b) (hinv : Inv m a) (hc : m.calm)
    (hco : CloseOuts a) : CloseOuts b := by
  have hu := hinv.unique (m.distinct_of_calm hc)
  cases h with
  | announce p hp _ => exact hco.publish hp
  | connection r state _ _ => exact hco.publish rfl
  | report p e hp hreport =>
    have hclosing := (hreport hc).1
    refine { hco with closed := ?_, reports := ?_ }
    · intro e' o heo
      obtain ⟨hlt, hopen, hdone⟩ := hco.closed e' o heo
      refine ⟨hlt, hopen, ?_⟩
      by_cases heq : e' = e
      · exact .inl ⟨t, heq ▸ hclosing⟩
      · exact hdone.imp_right fun hd => hd.congr rfl (fun _ h => h)
          (reports_publish_of_closes (by simp [hp, Ne.symm heq]))
    · intro e' he'
      by_cases heq : e' = e
      · exact heq ▸ hco.closing e t hclosing
      · rw [reports_publish_of_closes (by simp [hp, Ne.symm heq])] at he'
        exact hco.reports e' he'
  | closed e hdone =>
    refine { hco with closed := ?_, closing := ?_, closer := ?_ }
    · intro e' o heo
      obtain ⟨hlt, hopen, hrest⟩ := hco.closed e' o heo
      refine ⟨hlt, hopen, ?_⟩
      rcases hrest with ⟨t', ht'⟩ | hcomplete
      · by_cases heq : (e', t') = (e, t)
        · simp only [Prod.mk.injEq] at heq
          exact .inr (heq.1 ▸ hdone hc o (heq.1 ▸ heo))
        · exact .inl ⟨t', by simpa [heq] using ht'⟩
      · exact .inr hcomplete
    · exact fun e' t' ht' => hco.closing e' t' (List.mem_of_mem_filter ht')
    · exact fun e' t' t'' h h' => hco.closer e' t' t'' (List.mem_of_mem_filter h)
        (List.mem_of_mem_filter h')
  | insert id row =>
    refine { hco with closed := ?_ }
    intro e o heo
    obtain ⟨hlt, hopen, hdone⟩ := hco.closed e o heo
    exact ⟨hlt, hopen, hdone.imp_right fun hd =>
      hd.congr rfl (fun _ h => insertAudit_some h) rfl⟩
  | admitRow id row _ _ =>
    refine { hco with closed := ?_ }
    intro e o heo
    obtain ⟨hlt, hopen, hdone⟩ := hco.closed e o heo
    exact ⟨hlt, hopen, hdone.imp_right fun hd =>
      hd.congr rfl (fun _ h => insertAudit_some h) rfl⟩
  | complete id outcome detail hwhy =>
    refine { hco with closed := ?_ }
    intro e o heo
    obtain ⟨hlt, hopen, hdone⟩ := hco.closed e o heo
    refine ⟨hlt, hopen, ?_⟩
    by_cases heq : (a.entry e).commandId = id
    · rcases hwhy hc with hactive | ⟨e', hclosing, hclosed, hid⟩
      · -- A command that is marked is open, and `e` is not.
        subst heq
        exact absurd ⟨_, hu.mem_active hinv hlt hactive⟩ hopen
      · obtain rfl := hu.entries e' e (hco.closed e' outcome hclosed).1 hlt (hid.trans heq.symm)
        exact .inl ⟨t, hclosing⟩
    · refine hdone.imp_right fun hd => hd.congr rfl (fun row hrow => ?_) rfl
      simpa [Dashboard.completeAudit, heq] using hrow
  | mark entry timers hsame _ =>
    refine { hco with closed := ?_ }
    intro e o heo
    obtain ⟨hlt, hopen, hdone⟩ := hco.closed e o heo
    exact ⟨hlt, hopen, hdone.imp_right fun hd =>
      hd.congr (hsame e).commandId (fun _ h => h) rfl⟩
  | register r session _ hregisters =>
    obtain ⟨-, hissued, -⟩ := hregisters.fresh (m.distinct_of_calm hc)
    refine { hco with closed := ?_, left := ?_ }
    · intro e o heo
      obtain ⟨hlt, hopen, hdone⟩ := hco.closed e o heo
      refine ⟨Nat.lt_succ_of_lt hlt, ?_, hdone.imp_right fun hd =>
        hd.congr (congrArg _ (register_entry hlt)) (fun _ h => h) rfl⟩
      rintro ⟨i, hi⟩
      rcases register_active hi with ⟨-, rfl⟩ | hi
      · exact Nat.lt_irrefl _ hlt
      · exact hopen ⟨i, hi⟩
    · intro e he
      rcases Nat.lt_succ_iff_lt_or_eq.mp he with he | rfl
      · refine (hco.left e he).imp_left ?_
        rintro ⟨i, hi⟩
        exact ⟨i, mem_dictSet_of_ne hi fun heq => hissued ⟨e, he,
          (hinv.active i e hi).2.trans heq⟩⟩
      · exact .inl ⟨_, mem_dictSet_self ..⟩
  | pop e outcome _ hlt hactive _ =>
    have hmem := hu.mem_active hinv hlt hactive
    have hnot : ∀ o, (e, o) ∉ a.closed := fun o ho => (hco.closed e o ho).2.1 ⟨_, hmem⟩
    have hpopped : ¬Open (popActive t e outcome a).toState e := by
      rintro ⟨i, hi⟩
      obtain ⟨hi, hne⟩ := popActive_active_subset hi
      exact hne (hinv.active i e hi).2.symm
    refine ⟨?_, ?_, ?_, ?_, ?_, ?_⟩
    · intro e' o heo
      rcases List.mem_append.mp heo with heo | heo
      · obtain ⟨hlt', hopen, hdone⟩ := hco.closed e' o heo
        refine ⟨hlt', ?_, hdone.imp ?_ fun hd => hd.congr rfl (fun _ h => h) rfl⟩
        · exact fun hmem => hopen (hmem.imp fun i hi => (popActive_active_subset hi).1)
        · exact fun hmem => hmem.imp fun t' ht' => List.mem_append_left _ ht'
      · simp only [List.mem_singleton, Prod.mk.injEq] at heo
        obtain ⟨rfl, rfl⟩ := heo
        exact ⟨hlt, hpopped, .inl ⟨t, List.mem_append_right _ (by simp)⟩⟩
    · intro e' o o' ho ho'
      simp only [popActive, List.mem_append, List.mem_singleton, Prod.mk.injEq] at ho ho'
      rcases ho with ho | ⟨rfl, rfl⟩ <;> rcases ho' with ho' | ⟨heq, rfl⟩
      · exact hco.once e' o o' ho ho'
      · exact absurd (heq ▸ ho) (hnot o)
      · exact absurd ho' (hnot o')
      · rfl
    · intro e' he'
      rcases hco.left e' he' with ⟨i, hi⟩ | ⟨o, ho⟩
      · by_cases heq : e' = e
        · exact .inr ⟨outcome, List.mem_append_right _ (by simp [heq])⟩
        · refine .inl ⟨i, ?_⟩
          simp only [popActive, mem_dictPop]
          refine ⟨hi, fun hie => heq ?_⟩
          exact hu.entries e' e he' hlt ((hinv.active i e' hi).2.trans hie)
      · exact .inr ⟨o, List.mem_append_left _ ho⟩
    · intro e' he'
      obtain ⟨o, ho⟩ := hco.reports e' he'
      exact ⟨o, List.mem_append_left _ ho⟩
    · intro e' t' ht'
      rcases List.mem_append.mp ht' with ht' | ht'
      · obtain ⟨o, ho⟩ := hco.closing e' t' ht'
        exact ⟨o, List.mem_append_left _ ho⟩
      · simp only [List.mem_singleton, Prod.mk.injEq] at ht'
        exact ⟨outcome, List.mem_append_right _ (by simp [ht'.1])⟩
    · intro e' t' t'' ht' ht''
      simp only [popActive, List.mem_append, List.mem_singleton, Prod.mk.injEq] at ht' ht''
      have hfresh : ∀ t', (e, t') ∉ a.closing := fun t' ht' => by
        obtain ⟨o, ho⟩ := hco.closing e t' ht'
        exact hnot o ho
      rcases ht' with ht' | ⟨rfl, rfl⟩ <;> rcases ht'' with ht'' | ⟨heq, rfl⟩
      · exact hco.closer e' t' t'' ht' ht''
      · exact absurd (heq ▸ ht') (hfresh t')
      · exact absurd ht'' (hfresh t'')
      · rfl
  | _ => exact ⟨hco.closed, hco.once, hco.left, hco.reports, hco.closing, hco.closer⟩

/-! ### What a manual session waits for -/

theorem Act.awaited (h : Act m pw t job a b) (hinv : Inv m a) (hd : m.distinct)
    (hw : Awaited a) : Awaited b := by
  have hu := hinv.unique hd
  cases h with
  | mark entry timers hsame _ =>
    refine ⟨?_, ?_⟩
    · intro r o ho i hi
      obtain ⟨e, he, hcommand, hrobot⟩ := hw.stops r o ho i hi
      exact ⟨e, he, (hsame e).command.trans hcommand, (hsame e).robotId.trans hrobot⟩
    · intro r o ho hstart e he hid hcommand hrobot
      exact hw.start r o ho hstart e he ((hsame e).commandId ▸ hid)
        ((hsame e).command ▸ hcommand) ((hsame e).robotId ▸ hrobot)
  | register r session _ hregisters =>
    obtain ⟨-, hissued, -⟩ := hregisters.fresh hd
    have hkeep : ∀ {i e}, (i, e) ∈ a.active → (i, e) ∈ (r.register session a).active :=
      fun {i e} he => mem_dictSet_of_ne he fun heq => hissued ⟨e, (hinv.active i e he).1,
        (hinv.active i e he).2.trans heq⟩
    refine ⟨?_, ?_⟩
    · intro r' o ho i hi
      obtain ⟨e, he, hcommand, hrobot⟩ := hw.stops r' o ho i hi
      exact ⟨e, hkeep he, by
        rw [register_entry (hinv.active i e he).1]
        exact ⟨hcommand, hrobot⟩⟩
    · intro r' o ho hstart e he hid hcommand hrobot
      rcases Nat.lt_succ_iff_lt_or_eq.mp he with he | rfl
      · rw [register_entry he] at hid hcommand hrobot
        exact hkeep (hw.start r' o ho hstart e he hid hcommand hrobot)
      · rw [register_entry_self] at hid
        exact hid ▸ mem_dictSet_self ..
  | pop e outcome _ hlt hactive _ hreleased =>
    have hmem := hu.mem_active hinv hlt hactive
    refine ⟨?_, ?_⟩
    · intro r o ho i hi
      obtain ⟨e', he', hcommand, hrobot⟩ := hw.stops r o ho i hi
      refine ⟨e', ?_, hcommand, hrobot⟩
      simp only [popActive, mem_dictPop]
      refine ⟨he', fun heq => ?_⟩
      -- The popped command would be the one that is waited for.
      obtain rfl := hu.same hinv hlt (heq ▸ he')
      have hdone := hreleased (by simp [hcommand, Command.manual]) o (hrobot ▸ ho)
      exact hdone.1 (heq ▸ hi)
    · intro r o ho hstart e' he' hid hcommand hrobot
      have hmine := hw.start r o ho hstart e' he' hid hcommand hrobot
      simp only [popActive, mem_dictPop]
      refine ⟨hmine, fun heq => ?_⟩
      obtain rfl := hu.same hinv hlt (heq ▸ hmine)
      have hmanual : (a.entry e').command.manual = true :=
        (congrArg Command.manual hcommand).trans rfl
      have hended := (hreleased hmanual o (hrobot ▸ ho)).2 hid
      exact absurd (hended.symm.trans hstart) (by simp)
  | manual owner hcarries hwaits =>
    refine ⟨?_, ?_⟩
    · intro r o ho i hi
      rcases (hwaits o).stops hd i hi with hi | ⟨e, he, hcommand, hrobot⟩
      · exact hw.stops r o ho i hi
      · exact ⟨e, he, hcommand, hrobot.trans (hinv.owners r o ho).2⟩
    · intro r o ho hstart e he hid hcommand hrobot
      have hbefore : (a.owner o).startTerminal = false := by
        cases hterminal : (a.owner o).startTerminal with
        | false => rfl
        | true => exact absurd ((hwaits o).started hterminal) (by simpa using hstart)
      have hsame : (owner o).commandId = (a.owner o).commandId := (hcarries o).commandId
      show ((owner o).commandId, e) ∈ a.active
      rw [hsame]
      exact hw.start r o ho hbefore e he (hid.trans hsame) hcommand hrobot
  | wait o frame _ =>
    refine ⟨?_, ?_⟩
    · intro r o' ho i hi
      rw [(queue_carries o o' frame a t).stopIds] at hi
      exact hw.stops r o' ho i hi
    · intro r o' ho hstart e he hid hcommand hrobot
      rw [(queue_carries o o' frame a t).startTerminal] at hstart
      rw [(queue_carries o o' frame a t).commandId] at hid ⊢
      exact hw.start r o' ho hstart e he hid hcommand hrobot
  | prepare owner _ _ _ _ _ hstops hfresh =>
    refine ⟨?_, ?_⟩
    · intro r o ho i hi
      simp only [lookup_dictSet] at ho
      split at ho
      · simp only [Option.some.injEq] at ho
        subst ho
        simp [hstops] at hi
      · simp only [Function.update_of_ne (Nat.ne_of_lt (hinv.owners r o ho).1)] at hi
        exact hw.stops r o ho i hi
    · intro r o ho hstart e he hid hcommand hrobot
      simp only [lookup_dictSet] at ho
      split at ho
      · simp only [Option.some.injEq] at ho
        subst ho
        simp only [Function.update_self] at hid
        exact absurd ⟨e, he, hid⟩ (hfresh hd)
      · simp only [Function.update_of_ne (Nat.ne_of_lt (hinv.owners r o ho).1)] at hstart hid ⊢
        exact hw.start r o ho hstart e he hid hcommand hrobot
  | disown r _ _ =>
    have hbefore : ∀ {r' o}, (dictPop a.owners r).lookup r' = some o →
        a.owners.lookup r' = some o := by
      intro r' o ho
      simp only [lookup_dictPop] at ho
      split at ho
      · simp at ho
      · exact ho
    exact ⟨fun r' o ho => hw.stops r' o (hbefore ho), fun r' o ho => hw.start r' o (hbefore ho)⟩
  | _ => exact ⟨hw.stops, hw.start⟩

/-! ### Sessions -/

theorem Act.generations (h : Act m pw t job a b) (hinv : Inv m a) (hs : m.serial)
    (hg : Generations a) : Generations b := by
  cases h with
  | aside _ _ _ _ _ _ _ _ _ _ hsockets =>
    exact ⟨hg.increasing, hg.installed, fun i hi hne websocket hopen =>
      hsockets _ (hg.closed i hi hne websocket hopen)⟩
  | opens r websocket generation _ _ hnext =>
    -- The latest session of a robot has its greatest generation.
    have hlast : ∀ i, i < a.sessions → (a.session i).robotId = r →
        (a.session i).generation < generation := by
      intro i hi hr
      obtain ⟨ref, href, hle⟩ := hg.installed i hi
      obtain ⟨rfl, -⟩ := hnext hs ref (hr ▸ href)
      rcases Nat.lt_or_eq_of_le hle with hlt | rfl
      · have := hg.increasing i ref hlt (hinv.robots _ ref href).1 (hinv.robots _ ref href).2.symm
        exact Nat.lt_succ_of_lt this
      · exact Nat.lt_succ_self _
    refine ⟨?_, ?_, ?_⟩
    · intro i j hij hj hr
      rcases Nat.lt_succ_iff_lt_or_eq.mp hj with hj | rfl
      · simp only [Function.update_of_ne (Nat.ne_of_lt (Nat.lt_trans hij hj)),
          Function.update_of_ne (Nat.ne_of_lt hj)] at hr ⊢
        exact hg.increasing i j hij hj hr
      · simp only [Function.update_of_ne (Nat.ne_of_lt hij), Function.update_self] at hr ⊢
        exact hlast i hij hr
    · intro i hi
      rcases Nat.lt_succ_iff_lt_or_eq.mp hi with hi | rfl
      · simp only [Function.update_of_ne (Nat.ne_of_lt hi)]
        by_cases hr : (a.session i).robotId = r
        · exact ⟨a.sessions, by simp [hr], Nat.le_of_lt hi⟩
        · simpa [hr] using hg.installed i hi
      · exact ⟨a.sessions, by simp, le_rfl⟩
    · intro i hi hne websocket' hopen
      rcases Nat.lt_succ_iff_lt_or_eq.mp hi with hi | rfl
      · simp only [Function.update_of_ne (Nat.ne_of_lt hi)] at hne hopen
        by_cases hbefore : a.robots (a.session i).robotId = some i
        · by_cases hr : (a.session i).robotId = r
          · exact (hnext hs i (hr ▸ hbefore)).2 websocket' hopen
          · exact absurd hbefore (by simpa [hr] using hne)
        · exact hg.closed i hi hbefore websocket' hopen
      · simp at hne
  | clear session _ =>
    refine ⟨?_, ?_, ?_⟩
    · intro i j hij hj hr
      rw [clearWebsocket_robotId, clearWebsocket_robotId] at hr
      rw [clearWebsocket_generation, clearWebsocket_generation]
      exact hg.increasing i j hij hj hr
    · intro i hi
      rw [clearWebsocket_robotId]
      exact hg.installed i hi
    · intro i hi hne websocket hopen
      rw [clearWebsocket_robotId] at hne
      exact hg.closed i hi hne websocket (clearWebsocket_websocket hopen)
  | _ => exact ⟨hg.increasing, hg.installed, hg.closed⟩

/-- **Every update keeps the invariant.** -/
theorem Act.inv (h : Act m pw t job a b) (hinv : Inv m a) : Inv m b where
  active := h.active hinv
  timers := h.timers hinv
  robots := h.robots hinv
  sessions := h.sessions hinv
  owners := h.owners hinv
  live := h.live hinv
  ended := h.ended hinv
  exclusive := h.exclusive hinv
  drives := h.drives hinv
  seqs := h.seqs hinv
  undriven := h.undriven hinv
  unique := fun hd => h.unique hd (hinv.unique hd)
  barrier := fun hn => h.barrier hinv hn (hinv.barrier hn)
  closeOuts := fun hc => h.closeOuts hinv hc (hinv.closeOuts hc)
  awaited := fun hd => h.awaited hinv hd (hinv.awaited hd)
  generations := fun hs => h.generations hinv hs (hinv.generations hs)

end

/-- A server that has just started. -/
theorem inv_started (m : Mode) (audit : String → Option AuditRow) : Inv m (started audit) where
  active := by simp [started]
  timers := by simp [started]
  robots := by simp [started]
  sessions := by simp [started]
  owners := by simp [started]
  live := by simp [started]
  ended := by simp [started]
  exclusive := by simp [started, Open]
  drives := by simp [started]
  seqs := by simp [started]
  undriven := by simp [started, driveSeqs]
  unique _ := by
    constructor <;> simp [started, requestIds]
  barrier _ := by
    constructor <;> simp [started]
  closeOuts _ := by
    constructor <;> simp [started, PatrolBot.Server.reports]
  awaited _ := by
    constructor <;> simp [started]
  generations _ := by
    constructor <;> simp [started]

end PatrolBot.Server
