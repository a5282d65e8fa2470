import Mathlib.Data.List.Induction
import PatrolBot.ServerForwarding
import PatrolBot.ServerManual

/-!
# How a manual session is given up

A manual session stays with its robot until its start and all its stops are
known to have ended, or an admitted reset discards it; and what it waits for is
still among the robot's commands.  Both need that no two requests look up one
new id at once: the second of them would take the place of the first in
`active`.
-/

namespace PatrolBot.Server

open Coroutine Coroutine.Discipline

variable {t : Nat} {job : Job} {a b : Dashboard} {o : Nat}

/-! ### One update -/

/-- The job has learned, at a point between the two states, how the command ended. -/
def Learns (t : Nat) (job : Job) (a b : Dashboard) (commandId robotId : String) : Prop :=
  ∃ s, (discipline .apart).Updates t job a s ∧ (discipline .apart).Updates t job s b ∧
    Settles .apart job s commandId robotId

theorem Learns.tail {c : Dashboard} {commandId robotId : String}
    (h : Learns t job a b commandId robotId) (hbc : (discipline .apart).Updates t job b c) :
    Learns t job a c commandId robotId := by
  obtain ⟨s, hbefore, hafter, hsettles⟩ := h
  exact ⟨s, hbefore, hafter.trans hbc, hsettles⟩

/-- The session's start is terminal only if it was so before, or has just ended. -/
theorem Act.startEnded {m : Mode} {pw : Power} (h : Act m pw t job a b)
    (hb : (b.owner o).startTerminal = true) :
    (b.owner o).commandId = (a.owner o).commandId ∧ (b.owner o).robotId = (a.owner o).robotId ∧
      ((a.owner o).startTerminal = true ∨
        Settles m job a (a.owner o).commandId (a.owner o).robotId) := by
  cases h with
  | manual owner hcarries hwaits =>
    exact ⟨(hcarries o).commandId, (hcarries o).robotId, (hwaits o).start hb⟩
  | wait o' frame _ =>
    have hsame := queue_carries o' o frame a t
    exact ⟨hsame.commandId, hsame.robotId, .inl (hsame.startTerminal ▸ hb)⟩
  | prepare owner _ _ _ _ hstart _ _ =>
    by_cases heq : o = a.ownerCount
    · subst heq
      simp [hstart] at hb
    · simp only [Function.update_of_ne heq] at hb ⊢
      exact ⟨trivial, trivial, .inl hb⟩
  | _ => exact ⟨rfl, rfl, .inl hb⟩

/-- A stop the session waits for is given up only when it has ended. -/
theorem Act.stopEnded {m : Mode} {pw : Power} (h : Act m pw t job a b) (hlt : o < a.ownerCount)
    {i : String} (ha : i ∈ (a.owner o).stopIds) :
    i ∈ (b.owner o).stopIds ∨ Settles m job a i (a.owner o).robotId := by
  cases h with
  | manual owner _ hwaits => exact (hwaits o).stopped i ha
  | wait o' frame _ => exact .inl ((queue_carries o' o frame a t).stopIds ▸ ha)
  | prepare owner _ _ _ _ _ _ _ =>
    exact .inl (by simpa [Function.update_of_ne (Nat.ne_of_lt hlt)] using ha)
  | _ => exact .inl ha

/-- A session leaves its robot when it waits for nothing, or by an admitted reset. -/
theorem Act.removed {m : Mode} {pw : Power} (h : Act m pw t job a b) {r : String}
    (ha : a.owners.lookup r = some o) (hb : b.owners.lookup r ≠ some o) :
    ((a.owner o).startTerminal = true ∧ (a.owner o).stopIds = []) ∨
      Supersedes job a r := by
  cases h with
  | prepare owner _ hfree _ _ _ _ _ =>
    simp only [lookup_dictSet] at hb
    split at hb
    · rename_i hr
      rw [hr, hfree] at ha
      simp at ha
    · exact absurd ha hb
  | disown r' _ hdone =>
    simp only [lookup_dictPop] at hb
    split at hb
    · rename_i hr
      exact (hdone o (hr ▸ ha)).imp_right fun h => hr ▸ h
    · exact absurd ha hb
  | _ => exact absurd ha hb

/-! ### One stretch -/

theorem startEnded_of_updates (h : (discipline .apart).Updates t job a b)
    (hb : (b.owner o).startTerminal = true) :
    ((a.owner o).startTerminal = true ∧ (b.owner o).commandId = (a.owner o).commandId ∧
      (b.owner o).robotId = (a.owner o).robotId) ∨
    Learns t job a b (b.owner o).commandId (b.owner o).robotId := by
  induction h with
  | refl => exact .inl ⟨hb, rfl, rfl⟩
  | @tail c d hchain hstep ih =>
    have hlast : (discipline .apart).Updates t job c d := .single hstep
    obtain ⟨hid, hrobot, hc⟩ := hstep.2.startEnded hb
    rw [hid, hrobot]
    rcases hc with hc | hsettles
    · exact (ih hc).imp_right fun h => h.tail hlast
    · exact .inr ⟨c, hchain, hlast, hsettles⟩

theorem stopEnded_of_updates (h : (discipline .apart).Updates t job a b)
    (hlt : o < a.ownerCount) {i : String} (ha : i ∈ (a.owner o).stopIds) :
    i ∈ (b.owner o).stopIds ∨ Learns t job a b i (a.owner o).robotId := by
  induction h with
  | refl => exact .inl ha
  | @tail c d hchain hstep ih =>
    have hlast : (discipline .apart).Updates t job c d := .single hstep
    have hgoes : GoesOn o a c := goesOn_of_moves (Updates.moves hchain) hlt
    rcases ih with hc | hlearns
    · refine (hstep.2.stopEnded hgoes.known hc).imp_right fun hsettles => ?_
      exact ⟨c, hchain, hlast, hgoes.captured.robotId ▸ hsettles⟩
    · exact .inr (hlearns.tail hlast)

/-! ### Runs -/

/-- In the course of the step its job has learned how the command ended: its robot
    has rejected it or reported a known outcome, or it is the job's own request and
    was never sent. -/
def EndedIn (w : ServerWorld) (event : ServerEvent) (commandId robotId : String) : Prop :=
  ∃ t job, System.Runs w job event ∧
    Learns t job w.shared (server.next w event).shared commandId robotId

/-- Some step of the run has learned how the command ended. -/
def Ended (audit : String → Option AuditRow) (es : List ServerEvent)
    (commandId robotId : String) : Prop :=
  ∃ before event after, es = before ++ event :: after ∧
    EndedIn (runServer audit before) event commandId robotId

/-- The step runs an admitted reset of the robot. -/
def ResetIn (w : ServerWorld) (event : ServerEvent) (robotId : String) : Prop :=
  ∃ job, System.Runs w job event ∧ Supersedes job (server.next w event).shared robotId

theorem Ended.append {audit : String → Option AuditRow} {es es' : List ServerEvent}
    {commandId robotId : String} (h : Ended audit es commandId robotId) :
    Ended audit (es ++ es') commandId robotId := by
  obtain ⟨before, event, after, rfl, hended⟩ := h
  exact ⟨before, event, after ++ es', by simp, hended⟩

theorem EndedIn.ended {audit : String → Option AuditRow} {es : List ServerEvent}
    {event : ServerEvent} {commandId robotId : String}
    (h : EndedIn (runServer audit es) event commandId robotId) :
    Ended audit (es ++ [event]) commandId robotId :=
  ⟨es, event, [], rfl, h⟩

theorem runServer_snoc (audit : String → Option AuditRow) (es : List ServerEvent)
    (event : ServerEvent) :
    runServer audit (es ++ [event]) = server.next (runServer audit es) event := by
  rw [runServer_append]
  rfl

variable {audit : String → Option AuditRow}

/-- The guard of the runs of this section. -/
abbrev Apart (audit : String → Option AuditRow) (es : List ServerEvent) : Prop :=
  server.loop.Along LooksUpApart (System.initial (started audit)) es

theorem Apart.snoc {es : List ServerEvent} {event : ServerEvent}
    (along : Apart audit (es ++ [event])) :
    Apart audit es ∧ LooksUpApart (runServer audit es) event := by
  obtain ⟨halong, hguard, -⟩ := (Machine.along_append server.loop).mp along
  exact ⟨halong, hguard⟩

/-- A start that is terminal was learned to be so in some step. -/
theorem ended_of_startTerminal {es : List ServerEvent} (along : Apart audit es) {o : Nat}
    (h : ((runServer audit es).shared.owner o).startTerminal = true) :
    Ended audit es ((runServer audit es).shared.owner o).commandId
      ((runServer audit es).shared.owner o).robotId := by
  induction es using List.reverseRecOn with
  | nil => exact absurd h (by simp [runServer, System.initial, started])
  | append_singleton es event ih =>
    obtain ⟨along, hguard⟩ := along.snoc
    rw [runServer_snoc] at h ⊢
    rcases guards_apart.sound.updates (guards_apart.orderly along) hguard with
      hsame | ⟨t, job, hruns, hupdates⟩
    · rw [hsame] at h ⊢
      exact (ih along h).append
    · rcases startEnded_of_updates hupdates h with ⟨hbefore, hid, hrobot⟩ | hlearns
      · rw [hid, hrobot]
        exact (ih along hbefore).append
      · exact EndedIn.ended ⟨t, job, hruns, hlearns⟩

/-- A stop that a session once waited for is still waited for, or it has ended. -/
theorem ended_of_stopId {es es' : List ServerEvent} (along : Apart audit (es ++ es')) {o : Nat}
    (hlt : o < (runServer audit es).shared.ownerCount) {i : String}
    (h : i ∈ ((runServer audit es).shared.owner o).stopIds) :
    i ∈ ((runServer audit (es ++ es')).shared.owner o).stopIds ∨
      Ended audit (es ++ es') i ((runServer audit es).shared.owner o).robotId := by
  induction es' using List.reverseRecOn with
  | nil => exact .inl (by simpa using h)
  | append_singleton es' event ih =>
    rw [← List.append_assoc] at along ⊢
    obtain ⟨along, hguard⟩ := along.snoc
    have hgoes := (drivesCovered_run audit es es').goesOn o hlt
    rcases ih along with hwaits | hended
    · rcases guards_apart.sound.updates (guards_apart.orderly along) hguard with
        hsame | ⟨t, job, hruns, hupdates⟩
      · rw [runServer_snoc, hsame]
        exact .inl hwaits
      · rw [runServer_snoc]
        refine (stopEnded_of_updates hupdates hgoes.known hwaits).imp_right fun hlearns => ?_
        rw [hgoes.captured.robotId] at hlearns
        exact EndedIn.ended ⟨t, job, hruns, hlearns⟩
    · exact .inr hended.append

/-- How the manual sessions of a run are kept and given up. -/
structure RetainsOwners (audit : String → Option AuditRow) (es : List ServerEvent) : Prop where
  stops : ∀ r o, (runServer audit es).shared.owners.lookup r = some o →
    ∀ i ∈ ((runServer audit es).shared.owner o).stopIds, ∃ e,
      (runServer audit es).shared.active.lookup i = some e ∧
      ((runServer audit es).shared.entry e).command = .teleopStop ∧
      ((runServer audit es).shared.entry e).robotId = r
  start : ∀ r o, (runServer audit es).shared.owners.lookup r = some o →
    ((runServer audit es).shared.owner o).startTerminal = false →
    ∀ e, e < (runServer audit es).shared.entries →
      ((runServer audit es).shared.entry e).commandId =
        ((runServer audit es).shared.owner o).commandId →
      ((runServer audit es).shared.entry e).command = .teleopStart →
      ((runServer audit es).shared.entry e).robotId = r →
      (runServer audit es).shared.active.lookup
        ((runServer audit es).shared.owner o).commandId = some e
  removed : ∀ before event after, es = before ++ event :: after → ∀ r o,
    (runServer audit before).shared.owners.lookup r = some o →
    (server.next (runServer audit before) event).shared.owners.lookup r ≠ some o →
    ResetIn (runServer audit before) event r ∨
      (Ended audit (before ++ [event]) ((runServer audit before).shared.owner o).commandId r ∧
        ∀ earlier later, before = earlier ++ later →
          o < (runServer audit earlier).shared.ownerCount →
          ∀ i ∈ ((runServer audit earlier).shared.owner o).stopIds,
            Ended audit (before ++ [event]) i r)

theorem removed_next {before : List ServerEvent} {event : ServerEvent}
    (along : Apart audit (before ++ [event])) {r : String} {o : Nat}
    (ha : (runServer audit before).shared.owners.lookup r = some o)
    (hb : (server.next (runServer audit before) event).shared.owners.lookup r ≠ some o) :
    ResetIn (runServer audit before) event r ∨
      (Ended audit (before ++ [event]) ((runServer audit before).shared.owner o).commandId r ∧
        ∀ earlier later, before = earlier ++ later →
          o < (runServer audit earlier).shared.ownerCount →
          ∀ i ∈ ((runServer audit earlier).shared.owner o).stopIds,
            Ended audit (before ++ [event]) i r) := by
  obtain ⟨along, hguard⟩ := along.snoc
  have horderly := guards_apart.orderly along
  rcases guards_apart.sound.updates horderly hguard with hsame | ⟨t, job, hruns, hupdates⟩
  · exact absurd (hsame ▸ ha) hb
  · obtain ⟨c, d, hbefore, hinv, hact, hc, hd, hafter⟩ :=
      Updates.exists_end (P := fun s => s.owners.lookup r = some o) hupdates ha hb
    have hrest : (discipline .apart).Updates t job c
        (server.next (runServer audit before) event).shared := .head ⟨hinv, hact⟩ hafter
    rcases hact.removed hc hd with ⟨hstart, hstops⟩ | ⟨client, payload, hjob, hreset, hid⟩
    · right
      obtain ⟨hknown, hrobot⟩ := horderly.inv.owners r o ha
      have hgoes := (goesOn_of_moves (Updates.moves hbefore) hknown).captured
      refine ⟨?_, fun earlier later hsplit hlt i hi => ?_⟩
      · rcases startEnded_of_updates hbefore hstart with ⟨hbegun, -, -⟩ | hlearns
        · exact (hrobot ▸ ended_of_startTerminal along hbegun).append
        · rw [hgoes.commandId, hgoes.robotId, hrobot] at hlearns
          exact EndedIn.ended ⟨t, job, hruns, hlearns.tail hrest⟩
      · subst hsplit
        have hsame := ((drivesCovered_run audit earlier later).goesOn o hlt).captured.robotId
        rcases ended_of_stopId along hlt hi with hwaits | hended
        · rcases stopEnded_of_updates hbefore hknown hwaits with hwaits | hlearns
          · simp [hstops] at hwaits
          · exact EndedIn.ended ⟨t, job, hruns, hrobot ▸ hlearns.tail hrest⟩
        · exact ((hsame.symm.trans hrobot) ▸ hended).append
    · obtain ⟨p, hp, hpid⟩ := List.mem_map.mp hid
      have hadmitted : Admitted p.1 p.2 (server.next (runServer audit before) event).shared :=
        hrest.keeps (P := Admitted p.1 p.2)
          (fun a b hinv hact => lasting_admitted p.1 p.2 _ _ _ a b hinv hact) hp
      exact .inl ⟨job, hruns, client, payload, hjob, hreset,
        hpid ▸ List.mem_map_of_mem (f := Prod.fst) hadmitted⟩

theorem Unique.lookup_of_mem {m : Mode} {s : Dashboard} (hunique : Unique s) (hinv : Inv m s)
    {i : String} {e : Nat} (he : (i, e) ∈ s.active) : s.active.lookup i = some e := by
  obtain ⟨e', hlookup⟩ := exists_lookup_of_mem he
  have he' := hinv.active i e' (mem_of_lookup hlookup)
  rw [hlookup, hunique.entries e' e he'.1 (hinv.active i e he).1
    (he'.2.trans (hinv.active i e he).2.symm)]

/-- **Manual ownership is retained.** -/
theorem retainsOwners_run (audit : String → Option AuditRow) (es : List ServerEvent)
    (along : server.loop.Along LooksUpApart (System.initial (started audit)) es) :
    RetainsOwners audit es where
  stops r o ho i hi := by
    have hinv := (guards_apart.orderly along).inv
    obtain ⟨e, he, hcommand, hrobot⟩ := (hinv.awaited trivial).stops r o ho i hi
    exact ⟨e, (hinv.unique trivial).lookup_of_mem hinv he, hcommand, hrobot⟩
  start r o ho hstart e he hid hcommand hrobot := by
    have hinv := (guards_apart.orderly along).inv
    exact (hinv.unique trivial).lookup_of_mem hinv
      ((hinv.awaited trivial).start r o ho hstart e he hid hcommand hrobot)
  removed before event after hes r o ha hb := by
    subst hes
    rw [← List.singleton_append, ← List.append_assoc] at along
    exact removed_next ((Machine.along_append server.loop).mp along).1 ha hb

/-! ### A stop under the id of a manual stop -/

def startId : String := "11111111-1111-4111-8111-111111111111"

def stopId : String := "22222222-2222-4222-8222-222222222222"

/-- A manual session whose start is handed to the robot. -/
def driving : List ServerEvent :=
  [.start (.connected "robot" 7) calmly, .start (.message 1 (.baseState 1)) calmly] ++
    requested 2 startId .teleopStart

/-- A `stop` is requested while the `teleop_stop` of its id is looked up; the `stop`
    takes the place of the `teleop_stop`. -/
def overlappingManualStop : List ServerEvent :=
  driving ++ [.start (requestOf stopId .teleopStop) calmly, .resume 3 none calmly,
    .start (requestOf stopId .stop) calmly] ++ resumed 4 4 ++ resumed 3 2 ++ resumed 4 2

theorem not_retainsOwners_of_overlap :
    ¬RetainsOwners (fun _ => none) overlappingManualStop := by
  have howner : (runServer (fun _ => none) overlappingManualStop).shared.owners.lookup "robot" =
      some 0 := by decide +kernel
  have hwaits : stopId ∈ ((runServer (fun _ => none) overlappingManualStop).shared.owner 0).stopIds
      := by decide +kernel
  have hstop : (runServer (fun _ => none) overlappingManualStop).shared.active.lookup stopId =
      some 3 ∧ ((runServer (fun _ => none) overlappingManualStop).shared.entry 3).command =
        .stop := by decide +kernel
  intro h
  obtain ⟨e, he, hcommand, -⟩ := h.stops "robot" 0 howner stopId hwaits
  obtain rfl : 3 = e := Option.some.inj (hstop.1.symm.trans he)
  simp [hstop.2] at hcommand

/-- The session ends when the robot has answered its start and its stop. -/
theorem retainsOwners_of_answers :
    RetainsOwners (fun _ => none) (driving ++ [.start (requestOf stopId .teleopStop) calmly] ++
      resumed 3 5 ++ [.start (.reply 1 (.result startId .canceled none)) calmly] ++ resumed 4 2 ++
      [.start (.reply 1 (.result stopId .succeeded none)) calmly]) := by
  refine retainsOwners_run _ _ ?_
  refine ⟨?_, ?_, ?_, ?_, ?_, ?_, ?_, ?_, ?_, ?_, ?_, ?_, ?_, ?_, ?_, ?_, ?_, trivial⟩ <;>
    decide +kernel

end PatrolBot.Server
