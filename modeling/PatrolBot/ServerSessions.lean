import PatrolBot.ServerForwarding

/-!
# Connections that overlap

A connection awaits between finding a robot's session and replacing it, and a
disconnect awaits between finding that its session is the current one and
taking the robot offline.  What may come in between is another connection.
The sessions of a robot replace each other in order in the runs where a
connection still finds the session it is about to replace, and a disconnect
leaves the robot to a newer session in the runs where none is installed before
it has published.
-/

namespace PatrolBot.Server

open Coroutine Coroutine.Discipline

/-! ### Generations -/

/-- A connection that is resumed finds the session that it is about to replace
    still installed. -/
def InstallsInTurn (w : ServerWorld) : ServerEvent → Prop
  | .start .. => True
  | .resume id _ _ => ∀ x ∈ w.shared.connecting, x.1 = id → w.shared.robots x.2.1 = some x.2.2

instance (w : ServerWorld) (e : ServerEvent) : Decidable (InstallsInTurn w e) :=
  match e with
  | .start .. => isTrue trivial
  | .resume id _ _ => inferInstanceAs (Decidable (∀ x ∈ w.shared.connecting, x.1 = id →
      w.shared.robots x.2.1 = some x.2.2))

def Mode.inTurn : Mode where
  distinct := False
  named := False
  sturdy _ := False
  calm := False
  serial := True
  prompt := False
  reserved _ _ := False
  received _ _ _ := False
  attended _ _ := True
  distinct_of_named := id
  distinct_of_calm := id
  sturdy_of_calm hc _ := hc

theorem guards_inTurn : Guards .inTurn InstallsInTurn :=
  Mode.Even.guards ⟨fun _ _ => id, fun _ _ _ => id, fun _ _ => trivial⟩
    (fun _ _ _ _ => ⟨False.elim, False.elim⟩) fun _ task _ _ hguard _ hreplies =>
      ⟨hreplies, False.elim, False.elim, False.elim, False.elim,
        fun _ r previous h => hguard (task.id, r, previous) h rfl, False.elim, trivial⟩

/-- **Generations.** -/
theorem generations_run (audit : String → Option AuditRow) (es : List ServerEvent)
    (along : server.loop.Along InstallsInTurn (System.initial (started audit)) es) :
    Generations (runServer audit es).shared :=
  (guards_inTurn.orderly along).inv.generations trivial

/-- Two connections replace the session they both found. -/
def overlappingConnections : List ServerEvent :=
  [.start (.connected "robot" 7) calmly, .start (.connected "robot" 8) calmly,
    .start (.connected "robot" 9) calmly, .resume 1 none calmly, .resume 2 none calmly]

/-- Both new sessions have the same generation, and the first one's socket is
    still open when the second replaces it. -/
theorem not_generations_of_overlap :
    ¬Generations (runServer (fun _ => none) overlappingConnections).shared := by
  have hsessions : (runServer (fun _ => none) overlappingConnections).shared.sessions = 4 := by
    decide +kernel
  have hsame : ((runServer (fun _ => none) overlappingConnections).shared.session 2).robotId =
      ((runServer (fun _ => none) overlappingConnections).shared.session 3).robotId := by
    decide +kernel
  have hgeneration :
      ((runServer (fun _ => none) overlappingConnections).shared.session 2).generation =
        ((runServer (fun _ => none) overlappingConnections).shared.session 3).generation := by
    decide +kernel
  intro h
  exact absurd (h.increasing 2 3 (by omega) (by omega) hsame) (by omega)

/-- One connection after the other. -/
theorem generations_of_reconnect :
    Generations (runServer (fun _ => none) [.start (.connected "robot" 7) calmly,
      .start (.connected "robot" 8) calmly, .resume 1 none calmly]).shared := by
  refine generations_run _ _ ⟨?_, ?_, ?_, trivial⟩ <;> decide +kernel

/-! ### Disconnects -/

/-- A disconnect that is resumed before it has published finds its session still
    installed. -/
def LeavesInTurn (w : ServerWorld) : ServerEvent → Prop
  | .start .. => True
  | .resume id _ _ => ∀ x ∈ w.shared.leaving, x.1 = id →
      w.shared.robots (w.shared.session x.2).robotId = some x.2

instance (w : ServerWorld) (e : ServerEvent) : Decidable (LeavesInTurn w e) :=
  match e with
  | .start .. => isTrue trivial
  | .resume id _ _ => inferInstanceAs (Decidable (∀ x ∈ w.shared.leaving, x.1 = id →
      w.shared.robots (w.shared.session x.2).robotId = some x.2))

def Mode.leavesInTurn : Mode where
  distinct := False
  named := False
  sturdy _ := False
  calm := False
  serial := False
  prompt := True
  reserved _ _ := False
  received _ _ _ := False
  attended _ _ := True
  distinct_of_named := id
  distinct_of_calm := id
  sturdy_of_calm hc _ := hc

theorem guards_leavesInTurn : Guards .leavesInTurn LeavesInTurn :=
  Mode.Even.guards ⟨fun _ _ => id, fun _ _ _ => id, fun _ _ => trivial⟩
    (fun _ _ _ _ => ⟨False.elim, False.elim⟩) fun _ task _ _ hguard _ hreplies =>
      ⟨hreplies, False.elim, False.elim, False.elim, False.elim, False.elim,
        fun _ session h => hguard (task.id, session) h rfl, trivial⟩

/-- The connection states published for a robot. -/
def connections (published : List Publication) (robotId : String) : List Connection :=
  published.filterMap fun
    | .connection robotId' state => if robotId' = robotId then some state else none
    | _ => none

/-- A step of a disconnect leaves the state of a robot with another session as it
    is and publishes nothing about its connection. -/
def SparesSuccessor (w : ServerWorld) (event : ServerEvent) : Prop :=
  ∀ session websocket, System.Runs w (.disconnected session websocket) event →
    ∀ r newer, w.shared.robots r = some newer → newer ≠ session →
      (server.next w event).shared.robotState r = w.shared.robotState r ∧
      connections (server.next w event).shared.published r = connections w.shared.published r

@[simp] theorem connections_append (published more : List Publication) (r : String) :
    connections (published ++ more) r = connections published r ++ connections more r :=
  List.filterMap_append ..

theorem connections_of_not {p : Publication} (h : p.isConnection = false) (r : String) :
    connections [p] r = [] := by
  cases p with
  | connection => simp [Publication.isConnection] at h
  | _ => rfl

/-- What a disconnect keeps of a robot that another session has. -/
structure Spared (w : Dashboard) (r : String) (newer : Nat) (s : Dashboard) : Prop where
  installed : s.robots r = some newer
  robotState : s.robotState r = w.robotState r
  connections : connections s.published r = connections w.published r

theorem Act.spared {m : Mode} {pw : Power} {t session websocket : Nat} {a b w : Dashboard}
    (h : Act m pw t (.disconnected session websocket) a b) (hprompt : m.prompt) {r : String}
    {newer : Nat} (hne : newer ≠ session) (hspared : Spared w r newer a) : Spared w r newer b := by
  have hother : ∀ {r'}, Attends m (.disconnected session websocket) a r' → r ≠ r' := by
    rintro r' hattends rfl
    have hinstalled := hattends hprompt session websocket rfl
    rw [hspared.installed, Option.some.injEq] at hinstalled
    exact hne hinstalled
  cases h with
  | presence r' state _ hattends =>
    refine ⟨hspared.installed, ?_, hspared.connections⟩
    simpa [Dashboard.setRobotState, hother hattends] using hspared.robotState
  | connection r' state _ hattends =>
    refine ⟨hspared.installed, hspared.robotState, ?_⟩
    have hnone : connections [Publication.connection r' state] r = [] := by
      simp [PatrolBot.Server.connections, Ne.symm (hother hattends)]
    simpa [Dashboard.publish, hnone] using hspared.connections
  | opens _ _ _ _ hjob _ => simp at hjob
  | announce p _ hconnection =>
    refine ⟨hspared.installed, hspared.robotState, ?_⟩
    simpa [Dashboard.publish, connections_of_not hconnection] using hspared.connections
  | report p e hp _ =>
    refine ⟨hspared.installed, hspared.robotState, ?_⟩
    have hconnection : p.isConnection = false := by
      cases p with
      | connection => simp [Publication.closes] at hp
      | _ => rfl
    simpa [Dashboard.publish, connections_of_not hconnection] using hspared.connections
  | _ => exact ⟨hspared.installed, hspared.robotState, hspared.connections⟩

theorem sparesSuccessor_next {w : ServerWorld}
    (hw : Orderly (discipline .leavesInTurn) (Idle .leavesInTurn) w) {event : ServerEvent}
    (hguard : LeavesInTurn w event) : SparesSuccessor w event := by
  intro session websocket hruns r newer hinstalled hne
  rcases guards_leavesInTurn.sound.updates hw hguard with hsame | ⟨t, job, hruns', hupdates⟩
  · rw [hsame]
    exact ⟨rfl, rfl⟩
  · obtain rfl : job = .disconnected session websocket := System.Runs.same hruns' hruns
    have hspared := hupdates.keeps (P := Spared w.shared r newer)
      (fun a b _ (hact : Act .leavesInTurn (.full t) t _ a b) => hact.spared trivial hne)
      ⟨hinstalled, rfl, rfl⟩
    exact ⟨hspared.robotState, hspared.connections⟩

/-- Every step of the run is one. -/
def SparesSuccessors (audit : String → Option AuditRow) (es : List ServerEvent) : Prop :=
  ∀ before event after, es = before ++ event :: after →
    SparesSuccessor (runServer audit before) event

/-- **A stale disconnect spares the successor.** -/
theorem sparesSuccessors_run (audit : String → Option AuditRow) (es : List ServerEvent)
    (along : server.loop.Along LeavesInTurn (System.initial (started audit)) es) :
    SparesSuccessors audit es := by
  rintro before event after rfl
  obtain ⟨hbefore, hguard, -⟩ := (Machine.along_append server.loop).mp along
  exact sparesSuccessor_next (guards_leavesInTurn.orderly hbefore) hguard

/-- The robot connects again while its last pose is saved. -/
def reconnectedWhileSaving : List ServerEvent :=
  [.start (.connected "robot" 7) calmly,
    .start (.disconnected 1 7) fun _ => { hasPose := true },
    .start (.connected "robot" 8) calmly]

/-- The disconnect of the old session takes the new one offline. -/
theorem not_sparesSuccessors_of_reconnect :
    ¬SparesSuccessors (fun _ => none) (reconnectedWhileSaving ++ [.resume 1 none calmly]) := by
  have hjob : ((runServer (fun _ => none) reconnectedWhileSaving).tasks.find? (·.id = 1)).map
      (·.job) = some (.disconnected 1 7) := by decide +kernel
  have hinstalled : (runServer (fun _ => none) reconnectedWhileSaving).shared.robots "robot" =
      some 2 := by decide +kernel
  have hoffline : ((server.next (runServer (fun _ => none) reconnectedWhileSaving)
      (.resume 1 none calmly)).shared.robotState "robot").connection = .offline ∧
      ((runServer (fun _ => none) reconnectedWhileSaving).shared.robotState "robot").connection =
        .online := by decide +kernel
  intro h
  have hspared := (h reconnectedWhileSaving (.resume 1 none calmly) [] rfl 1 7
    (Option.map_eq_some_iff.mp hjob) "robot" 2 hinstalled (by decide)).1
  rw [hspared, hoffline.2] at hoffline
  simp at hoffline

/-- The old gateway learns of its end only after the reconnect. -/
theorem sparesSuccessors_of_late :
    SparesSuccessors (fun _ => none) [.start (.connected "robot" 7) calmly,
      .start (.connected "robot" 8) calmly, .resume 1 none calmly,
      .start (.disconnected 1 7) calmly] := by
  refine sparesSuccessors_run _ _ ⟨?_, ?_, ?_, ?_, trivial⟩ <;> decide +kernel

end PatrolBot.Server
