import PatrolBot.BridgeHello
import PatrolBot.Library.Machine
import PatrolBot.Library.Replica
import PatrolBot.Library.Shedding

/-!
# The robot's map on its way to the server

`_on_map` of `bridge_node.py`, the queue and the handshake of `ws_client.py`, and on the
other side `robot_ws` of `websocket/robot_gateway.py` with `record_map`.  A map is sent when
it comes, and again after a handshake in which the server turns out not to have it.  The link
may break at any time with frames on it, and the server may forget; the bridge's process goes
on.
-/

namespace PatrolBot.MapSync

variable {Map Signature : Type}

inductive Frame (Map : Type) where
  -- `telemetry.map`
  | mapData (version : Nat) (map : Map)
  -- another frame, with whether back-pressure spares it
  | other (spared : Bool)

namespace Frame

def isProtected : Frame Map → Bool
  | .mapData _ _ => true
  | .other spared => spared

/-- The map that the frame leaves the server with. -/
def writes : Frame Map → Option (Option (Nat × Map))
  | .mapData version map => some (some (version, map))
  | .other _ => none

end Frame

structure Bridge (Map Signature : Type) where
  mapSignature : Option Signature := none
  mapVersion : Nat := 0
  latestMap : Option Map := none
  queue : List (Frame Map) := []

/-- Where `_session` and `robot_ws` stand. -/
inductive Stage where
  | down
  /-- The hello is sent, with its map version. -/
  | greeting (mapVersion : Nat)
  /-- It is acknowledged. -/
  | answered (wantMap : Bool)
  | up
deriving DecidableEq

structure Link (Map Signature : Type) where
  bridge : Bridge Map Signature := {}
  stage : Stage := .down
  /-- What is sent and not handled. -/
  wire : List (Frame Map) := []
  /-- The connection is gone and the bridge has not noticed. -/
  broken : Bool := false
  /-- The server's map, with its version. -/
  server : Option (Nat × Map) := none

inductive Event (Map : Type) where
  -- a map of the robot
  | onMap (map : Map)
  | send (spared : Bool)
  -- a connection, and the hello on it
  | greet
  -- `robot_ws` handles the hello
  | serverHello
  -- `_session` reads the answer
  | acknowledged
  | pop
  -- the server handles a frame
  | deliver
  /-- The connection breaks, with what is on it. -/
  | cut
  /-- The bridge notices; the purge takes no map. -/
  | lost (purged : Frame Map → Bool)
  /-- The server starts anew. -/
  | forget

/-- The queue has refused a map. -/
inductive Note where
  | refused
deriving DecidableEq

namespace Bridge

variable (bridge : Bridge Map Signature)

/-- What the robot has, as the server should have it. -/
def current : Option (Nat × Map) := bridge.latestMap.map fun map => (bridge.mapVersion, map)

/-- `send`. -/
def send (frame : Frame Map) : Bridge Map Signature × Bool :=
  match Shedding.offer Bridge.queueLimit Frame.isProtected bridge.queue frame with
  | none => (bridge, false)
  | some queue => ({ bridge with queue := queue }, true)

/-- `_send_map`. -/
def sendMap : Bridge Map Signature × List Note :=
  match bridge.latestMap with
  | none => (bridge, [])
  | some map =>
    let (bridge, queued) := bridge.send (.mapData bridge.mapVersion map)
    (bridge, if queued then [] else [.refused])

/-- `_on_map`. -/
def onMap [DecidableEq Signature] (signature : Map → Signature) (map : Map) :
    Bridge Map Signature × List Note :=
  if bridge.mapSignature = some (signature map) then (bridge, [])
  else
    sendMap { bridge with
      mapSignature := some (signature map)
      mapVersion := bridge.mapVersion + 1
      latestMap := some map }

end Bridge

namespace Link

variable (link : Link Map Signature)

/-- `want_map`. -/
def wantMap (mapVersion : Nat) : Bool :=
  match link.server with
  | none => true
  | some (version, _) => decide (version ≠ mapVersion)

def step [DecidableEq Signature] (signature : Map → Signature) :
    Event Map → Link Map Signature × List Note
  | .onMap map =>
    let (bridge, notes) := link.bridge.onMap signature map
    ({ link with bridge := bridge }, notes)
  | .send spared => ({ link with bridge := (link.bridge.send (.other spared)).1 }, [])
  | .greet =>
    if link.stage = .down then
      ({ link with stage := .greeting link.bridge.mapVersion, broken := false }, [])
    else (link, [])
  | .serverHello => match link.stage with
    | .greeting mapVersion =>
      -- what comes of the older session is no longer handled
      if link.broken then (link, [])
      else ({ link with stage := .answered (link.wantMap mapVersion), wire := [] }, [])
    | _ => (link, [])
  | .acknowledged => match link.stage with
    | .answered want =>
      if link.broken then (link, [])
      else if want then
        let (bridge, notes) := link.bridge.sendMap
        ({ link with stage := .up, bridge := bridge }, notes)
      else ({ link with stage := .up }, [])
    | _ => (link, [])
  | .pop => match link.stage, link.bridge.queue with
    | .up, frame :: queue =>
      ({ link with
          bridge := { link.bridge with queue := queue }
          wire := if link.broken then link.wire else link.wire ++ [frame] }, [])
    | _, _ => (link, [])
  | .deliver => match link.wire with
    | frame :: wire =>
      ({ link with wire := wire, server := (frame.writes).getD link.server }, [])
    | [] => (link, [])
  | .cut => ({ link with wire := [], broken := true }, [])
  | .lost purged =>
    ({ link with
        stage := .down
        bridge := { link.bridge with
          queue := link.bridge.queue.filter fun frame =>
            frame.writes.isSome || !purged frame } }, [])
  | .forget => ({ link with server := none, wire := [], broken := true }, [])

end Link

section

variable [DecidableEq Signature] (signature : Map → Signature)

def mapLink : Machine (Link Map Signature) (Event Map) Note where
  step link event := link.step signature event

def after (events : List (Event Map)) : Link Map Signature :=
  (mapLink signature).run {} events

def notes (events : List (Event Map)) : List Note :=
  ((mapLink signature).trace {} events).flatMap Prod.snd

/-- What holds of the server's map in every run. -/
structure Synced (events : List (Event Map)) : Prop where
  /-- While the link is up, the server has the robot's map, once all that is queued and on
      the wire has come. -/
  arrives : (after signature events).stage = .up → (after signature events).broken = false →
    .refused ∉ notes signature events →
      Replica.read Frame.writes
          ((after signature events).wire ++ (after signature events).bridge.queue)
          (after signature events).server =
        (after signature events).bridge.current
  /-- A version stands for one map. -/
  honest : ∀ version map, (after signature events).server = some (version, map) →
    version ≤ (after signature events).bridge.mapVersion ∧
      (version = (after signature events).bridge.mapVersion →
        (after signature events).bridge.latestMap = some map)

end

/-! ## The queue -/

section

variable {bridge : Bridge Map Signature} {frame : Frame Map}

/-- A frame that may be shed is no map. -/
theorem writes_eq_none (frame : Frame Map) (h : frame.isProtected = false) :
    frame.writes = none := by
  cases frame with
  | mapData version map => cases h
  | other spared => rfl

/-- A frame that is queued is the last of the queue. -/
theorem last_send (h : (bridge.send frame).2 = true) :
    Replica.last Frame.writes (bridge.send frame).1.queue =
      Replica.last Frame.writes (bridge.queue ++ [frame]) := by
  unfold Bridge.send at h ⊢
  cases hoffer : Shedding.offer Bridge.queueLimit Frame.isProtected bridge.queue frame with
  | none => rw [hoffer] at h; cases h
  | some queue =>
    dsimp only
    rw [← Replica.last_filter writes_eq_none, Shedding.filter_offer hoffer,
      Replica.last_filter writes_eq_none]

theorem send_refused (h : (bridge.send frame).2 = false) : (bridge.send frame).1 = bridge := by
  unfold Bridge.send at h ⊢
  cases hoffer : Shedding.offer Bridge.queueLimit Frame.isProtected bridge.queue frame with
  | none => rfl
  | some queue => rw [hoffer] at h; cases h

theorem send_kept (bridge : Bridge Map Signature) (frame : Frame Map) :
    (bridge.send frame).1 = { bridge with queue := (bridge.send frame).1.queue } ∧
      ∀ queued ∈ (bridge.send frame).1.queue, queued ∈ bridge.queue ∨ queued = frame := by
  unfold Bridge.send
  cases hoffer : Shedding.offer Bridge.queueLimit Frame.isProtected bridge.queue frame with
  | none => exact ⟨rfl, fun queued hqueued => Or.inl hqueued⟩
  | some queue =>
    refine ⟨rfl, fun queued hqueued => ?_⟩
    simpa using (Shedding.sublist_of_offer hoffer).subset hqueued

end

/-! ## The link -/

/-- A map with its version, as it may be on the way or at the server. -/
def Honest (bridge : Bridge Map Signature) (version : Nat) (map : Map) : Prop :=
  1 ≤ version ∧ version ≤ bridge.mapVersion ∧
    (version = bridge.mapVersion → bridge.latestMap = some map)

/-- What the server has, if it is what the bridge asked about, or is about to come. -/
def OnTheWay (link : Link Map Signature) : Stage → Prop
  | .down => True
  | .greeting mapVersion => mapVersion = link.bridge.mapVersion ∨
      Replica.last Frame.writes link.bridge.queue = some link.bridge.current
  | .answered true => True
  | .answered false => link.wire = [] ∧
      Replica.read Frame.writes link.bridge.queue link.server = link.bridge.current
  | .up => Replica.read Frame.writes (link.wire ++ link.bridge.queue) link.server =
      link.bridge.current

structure Sound (notes : List Note) (link : Link Map Signature) : Prop where
  mapped : link.bridge.latestMap = none ↔ link.bridge.mapVersion = 0
  frames : ∀ version map, .mapData version map ∈ link.wire ++ link.bridge.queue →
    Honest link.bridge version map
  server : ∀ version map, link.server = some (version, map) → Honest link.bridge version map
  queue : .refused ∉ notes → Replica.last Frame.writes link.bridge.queue = none ∨
    Replica.last Frame.writes link.bridge.queue = some link.bridge.current
  asked : ∀ version, link.stage = .greeting version → version ≤ link.bridge.mapVersion
  onTheWay : link.broken = false → .refused ∉ notes → OnTheWay link link.stage

section

variable {link : Link Map Signature} {log : List Note}

/-- Without a map there is none anywhere. -/
theorem Sound.nothing (h : Sound log link) (hnone : link.bridge.latestMap = none) :
    link.server = none ∧
      Replica.last Frame.writes (link.wire ++ link.bridge.queue) = none := by
  have hzero := h.mapped.mp hnone
  constructor
  · cases hserver : link.server with
    | none => rfl
    | some held =>
      have hhonest := h.server held.1 held.2 hserver
      have hlow := hhonest.1
      have hhigh := hhonest.2.1
      omega
  · unfold Replica.last
    rw [List.getLast?_eq_none_iff, List.filterMap_eq_nil_iff]
    intro frame hframe
    cases frame with
    | mapData version map =>
      have hhonest := h.frames version map hframe
      have hlow := hhonest.1
      have hhigh := hhonest.2.1
      omega
    | other spared => rfl

theorem Honest.send {version : Nat} {map : Map} (h : Honest link.bridge version map)
    (frame : Frame Map) : Honest (link.bridge.send frame).1 version map := by
  rw [(send_kept link.bridge frame).1]
  exact h

/-- The maps on the way stay honest, if the frame that is queued is. -/
theorem frames_send {frame : Frame Map}
    (h : ∀ version map, .mapData version map ∈ link.wire ++ link.bridge.queue →
      Honest link.bridge version map)
    (hframe : ∀ version map, frame = .mapData version map → Honest link.bridge version map)
    (version : Nat) (map : Map)
    (hmem : .mapData version map ∈ link.wire ++ (link.bridge.send frame).1.queue) :
    Honest (link.bridge.send frame).1 version map := by
  apply Honest.send
  rcases List.mem_append.mp hmem with hwire | hqueue
  · exact h version map (List.mem_append_left _ hwire)
  · rcases (send_kept link.bridge frame).2 _ hqueue with hold | hnew
    · exact h version map (List.mem_append_right _ hold)
    · exact hframe version map hnew.symm

/-- The bridge puts the map it has at the end of the queue. -/
theorem sound_sendMap {map : Map} (hmap : link.bridge.latestMap = some map)
    (hversion : 1 ≤ link.bridge.mapVersion)
    (hframes : ∀ version map, .mapData version map ∈ link.wire ++ link.bridge.queue →
      Honest link.bridge version map)
    (hserver : ∀ version map, link.server = some (version, map) →
      Honest link.bridge version map)
    (hasked : ∀ version, link.stage = .greeting version → version ≤ link.bridge.mapVersion)
    (hanswered : link.broken = false → .refused ∉ log → link.stage = .answered false →
      link.wire = []) :
    Sound (log ++ link.bridge.sendMap.2) { link with bridge := link.bridge.sendMap.1 } := by
  have hsend : link.bridge.sendMap =
      ((link.bridge.send (.mapData link.bridge.mapVersion map)).1,
        if (link.bridge.send (.mapData link.bridge.mapVersion map)).2 then [] else [.refused]) := by
    unfold Bridge.sendMap
    rw [hmap]
  have hmapped : link.bridge.latestMap = none ↔ link.bridge.mapVersion = 0 :=
    ⟨fun hnone => absurd (hmap.symm.trans hnone) nofun, fun hzero => absurd hzero (by omega)⟩
  rw [hsend]
  cases hqueued : (link.bridge.send (.mapData link.bridge.mapVersion map)).2 with
  | false =>
    have hlog : Note.refused ∈ log ++ if false = true then [] else [.refused] := by simp
    rw [send_refused hqueued]
    exact ⟨hmapped, hframes, hserver, fun hnot => absurd hlog hnot, hasked,
      fun _ hnot => absurd hlog hnot⟩
  | true =>
    have hkept := (send_kept link.bridge (.mapData link.bridge.mapVersion map)).1
    have hlast := last_send hqueued
    have hsent := @frames_send _ _ link (.mapData link.bridge.mapVersion map) hframes (by
      rintro version other ⟨⟩
      exact ⟨hversion, Nat.le_refl _, fun _ => hmap⟩)
    have hhonest := fun version other (h : Honest link.bridge version other) =>
      h.send (.mapData link.bridge.mapVersion map)
    generalize (link.bridge.send (.mapData link.bridge.mapVersion map)).1 = sent
      at hkept hlast hsent hhonest
    have hcurrent : sent.current = some (link.bridge.mapVersion, map) := by
      rw [hkept, Bridge.current]
      dsimp only
      rw [hmap]
      rfl
    have hlast : Replica.last Frame.writes sent.queue = some sent.current := by
      rw [hlast, hcurrent, Replica.last, List.filterMap_append]
      exact List.getLast?_concat
    rw [if_pos rfl, List.append_nil]
    constructor
    · rw [hkept]
      exact hmapped
    · exact hsent
    · intro version other hheld
      exact hhonest version other (hserver version other hheld)
    · exact fun _ => Or.inr hlast
    · rw [hkept]
      exact hasked
    · intro hwhole hnot
      have hread : ∀ value, Replica.read Frame.writes sent.queue value = sent.current := by
        intro value
        rw [Replica.read_eq_last, hlast, Option.getD_some]
      cases hstage : link.stage with
      | down => trivial
      | greeting version => exact Or.inr hlast
      | answered want =>
        cases want with
        | true => trivial
        | false => exact ⟨hanswered hwhole hnot hstage, hread _⟩
      | up =>
        show Replica.read Frame.writes (link.wire ++ sent.queue) link.server = sent.current
        rw [Replica.read_append, hread]

theorem Sound.send (h : Sound log link) (spared : Bool) :
    Sound log { link with bridge := (link.bridge.send (.other spared)).1 } := by
  cases hqueued : (link.bridge.send (.other spared)).2 with
  | false =>
    rw [send_refused hqueued]
    exact h
  | true =>
    have hkept := (send_kept link.bridge (.other spared)).1
    have hlast : Replica.last Frame.writes (link.bridge.send (.other spared)).1.queue =
        Replica.last Frame.writes link.bridge.queue := by
      rw [last_send hqueued, Replica.last, List.filterMap_append]
      simp [Frame.writes, Replica.last]
    have hsent := @frames_send _ _ link (.other spared) h.frames (by
      rintro version map ⟨⟩)
    have hhonest := fun version map (hheld : Honest link.bridge version map) =>
      hheld.send (.other spared)
    generalize (link.bridge.send (.other spared)).1 = sent at hkept hlast hsent hhonest
    have hcurrent : sent.current = link.bridge.current := by
      rw [hkept]
      rfl
    have hread : ∀ value, Replica.read Frame.writes sent.queue value =
        Replica.read Frame.writes link.bridge.queue value := by
      intro value
      rw [Replica.read_eq_last, Replica.read_eq_last, hlast]
    constructor
    · rw [hkept]
      exact h.mapped
    · exact hsent
    · intro version map hheld
      exact hhonest version map (h.server version map hheld)
    · dsimp only
      rw [hlast, hcurrent]
      exact h.queue
    · rw [hkept]
      exact h.asked
    · intro hwhole hnot
      have hway := h.onTheWay hwhole hnot
      cases hstage : link.stage with
      | down => trivial
      | greeting version =>
        rw [hstage] at hway
        unfold OnTheWay at hway ⊢
        dsimp only
        rw [hlast, hcurrent]
        rw [hkept]
        exact hway
      | answered want =>
        cases want with
        | true => trivial
        | false =>
          rw [hstage] at hway
          unfold OnTheWay at hway ⊢
          dsimp only
          rw [hread, hcurrent]
          exact hway
      | up =>
        rw [hstage] at hway
        unfold OnTheWay at hway ⊢
        dsimp only
        rw [Replica.read_append, hread, hcurrent, ← Replica.read_append]
        exact hway

/-- The server answers the hello: what it has is what the bridge has, or is in the queue, or
    it wants the map. -/
theorem Sound.serverHello (h : Sound log link) {version : Nat}
    (hstage : link.stage = .greeting version) (hwhole : link.broken = false) :
    Sound log { link with stage := .answered (link.wantMap version), wire := [] } := by
  refine ⟨h.mapped, ?_, h.server, h.queue, nofun, ?_⟩
  · intro other map hframe
    exact h.frames other map (List.mem_append_right _ hframe)
  · intro _ hnot
    cases hwant : link.wantMap version with
    | true => trivial
    | false =>
      refine ⟨rfl, ?_⟩
      have hway := h.onTheWay hwhole hnot
      rw [hstage] at hway
      dsimp only
      rcases hway with hversion | hlast
      · unfold Link.wantMap at hwant
        cases hserver : link.server with
        | none => rw [hserver] at hwant; cases hwant
        | some held =>
          rw [hserver] at hwant
          have hsame : held.1 = link.bridge.mapVersion := by
            rw [← hversion]
            simpa using hwant
          have hcurrent : link.bridge.current = some held := by
            rw [Bridge.current, (h.server held.1 held.2 hserver).2.2 hsame, ← hsame]
            rfl
          rw [Replica.read_eq_last]
          rcases h.queue hnot with hnone | hsome
          · rw [hnone, Option.getD_none, hcurrent]
          · rw [hsome, Option.getD_some]
      · rw [Replica.read_eq_last, hlast, Option.getD_some]

theorem Sound.acknowledged (h : Sound log link) {want : Bool}
    (hstage : link.stage = .answered want) (hwhole : link.broken = false) :
    Sound (log ++ (if want then
        ({ link with stage := .up, bridge := link.bridge.sendMap.1 }, link.bridge.sendMap.2)
      else ({ link with stage := .up }, [])).2)
      (if want then
        ({ link with stage := .up, bridge := link.bridge.sendMap.1 }, link.bridge.sendMap.2)
      else ({ link with stage := .up }, [])).1 := by
  cases want with
  | false =>
    rw [if_neg Bool.false_ne_true, List.append_nil]
    refine ⟨h.mapped, h.frames, h.server, h.queue, nofun, fun _ hnot => ?_⟩
    have hway := h.onTheWay hwhole hnot
    rw [hstage] at hway
    obtain ⟨hwire, hread⟩ := hway
    show Replica.read Frame.writes (link.wire ++ link.bridge.queue) link.server = _
    rw [hwire]
    exact hread
  | true =>
    rw [if_pos rfl]
    dsimp only
    cases hmap : link.bridge.latestMap with
    | none =>
      have hnothing : link.bridge.sendMap = (link.bridge, []) := by
        unfold Bridge.sendMap
        rw [hmap]
      rw [hnothing, List.append_nil]
      refine ⟨h.mapped, h.frames, h.server, h.queue, nofun, fun _ _ => ?_⟩
      obtain ⟨hserver, hlast⟩ := h.nothing hmap
      show Replica.read Frame.writes (link.wire ++ link.bridge.queue) link.server = _
      rw [Replica.read_eq_last, hlast, hserver, Bridge.current, hmap]
      rfl
    | some map =>
      refine @sound_sendMap _ _ { link with stage := .up } _ _ hmap ?_ h.frames h.server nofun
        nofun
      rw [Nat.one_le_iff_ne_zero]
      exact fun hzero => absurd (hmap.symm.trans (h.mapped.mpr hzero)) nofun

/-- The oldest frame of the queue is taken, whether or not it gets onto the wire. -/
theorem Sound.pop (h : Sound log link) (hstage : link.stage = .up) {frame : Frame Map}
    {queue : List (Frame Map)} (hqueue : link.bridge.queue = frame :: queue) :
    Sound log { link with
      bridge := { link.bridge with queue := queue }
      wire := if link.broken then link.wire else link.wire ++ [frame] } := by
  constructor
  · exact h.mapped
  · intro version map hframe
    refine h.frames version map ?_
    rw [hqueue]
    dsimp only at hframe
    split at hframe
    · rcases List.mem_append.mp hframe with hwire | hrest
      · exact List.mem_append_left _ hwire
      · exact List.mem_append_right _ (List.mem_cons_of_mem frame hrest)
    · simpa using hframe
  · exact h.server
  · intro hnot
    have hold := h.queue hnot
    rw [hqueue] at hold
    rcases Replica.last_tail Frame.writes frame queue with hnone | hsame
    · exact Or.inl hnone
    · dsimp only
      rw [hsame]
      exact hold
  · exact h.asked
  · intro hwhole hnot
    have hway := h.onTheWay hwhole hnot
    dsimp only at hwhole
    rw [hstage] at hway ⊢
    show Replica.read Frame.writes ((if link.broken then link.wire else link.wire ++ [frame]) ++
      queue) link.server = link.bridge.current
    rw [hwhole, if_neg Bool.false_ne_true, List.append_assoc, List.singleton_append, ← hqueue]
    exact hway

theorem Sound.deliver (h : Sound log link) {frame : Frame Map} {wire : List (Frame Map)}
    (hwire : link.wire = frame :: wire) :
    Sound log { link with wire := wire, server := (frame.writes).getD link.server } := by
  constructor
  · exact h.mapped
  · intro version map hframe
    refine h.frames version map ?_
    rw [hwire, List.cons_append]
    exact List.mem_cons_of_mem frame hframe
  · intro version map hheld
    cases frame with
    | mapData sent held =>
      cases Option.some.inj hheld
      exact h.frames version map (by rw [hwire]; exact List.mem_cons_self)
    | other spared => exact h.server version map hheld
  · exact h.queue
  · exact h.asked
  · intro hwhole hnot
    have hway := h.onTheWay hwhole hnot
    cases hstage : link.stage with
    | down => trivial
    | greeting version =>
      rw [hstage] at hway
      exact hway
    | answered want =>
      cases want with
      | true => trivial
      | false =>
        rw [hstage] at hway
        have hempty := hway.1
        rw [hwire] at hempty
        cases hempty
    | up =>
      rw [hstage] at hway
      show Replica.read Frame.writes (wire ++ link.bridge.queue) _ = link.bridge.current
      rw [← Replica.read_cons, ← List.cons_append, ← hwire]
      exact hway

theorem Sound.lost (h : Sound log link) (purged : Frame Map → Bool) :
    Sound log { link with
      stage := .down
      bridge := { link.bridge with
        queue := link.bridge.queue.filter fun frame =>
          frame.writes.isSome || !purged frame } } := by
  constructor
  · exact h.mapped
  · intro version map hframe
    refine h.frames version map ?_
    rcases List.mem_append.mp hframe with hwire | hqueue
    · exact List.mem_append_left _ hwire
    · exact List.mem_append_right _ (List.mem_of_mem_filter hqueue)
  · exact h.server
  · intro hnot
    have hlast : Replica.last Frame.writes (link.bridge.queue.filter fun frame =>
        frame.writes.isSome || !purged frame) =
          Replica.last Frame.writes link.bridge.queue := by
      refine Replica.last_filter fun frame hframe => ?_
      rw [Bool.or_eq_false_iff] at hframe
      exact Option.isSome_eq_false_iff.mp hframe.1 |> Option.isNone_iff_eq_none.mp
    dsimp only
    rw [hlast]
    exact h.queue hnot
  · exact nofun
  · exact fun _ _ => trivial

/-- The wire breaks; the server may be another one, which has no map. -/
theorem Sound.cut (h : Sound log link) {server : Option (Nat × Map)}
    (hserver : server = none ∨ server = link.server) :
    Sound log { link with server := server, wire := [], broken := true } := by
  refine ⟨h.mapped, ?_, ?_, h.queue, h.asked, nofun⟩
  · intro version map hframe
    exact h.frames version map (List.mem_append_right _ hframe)
  · intro version map hheld
    rcases hserver with hnone | hsame
    · exact absurd (hnone.symm.trans hheld) nofun
    · exact h.server version map (hsame.symm.trans hheld)

variable [DecidableEq Signature] {signature : Map → Signature}

theorem Sound.onMap (h : Sound log link) (map : Map) :
    Sound (log ++ (link.bridge.onMap signature map).2)
      { link with bridge := (link.bridge.onMap signature map).1 } := by
  unfold Bridge.onMap
  split
  · rw [List.append_nil]
    exact h
  · have hgrown : ∀ version other, Honest link.bridge version other →
        Honest { link.bridge with
          mapSignature := some (signature map)
          mapVersion := link.bridge.mapVersion + 1
          latestMap := some map } version other := by
      intro version other hold
      have hle := hold.2.1
      exact ⟨hold.1, Nat.le_succ_of_le hle, fun heq => absurd heq (by dsimp only; omega)⟩
    refine @sound_sendMap _ _ { link with bridge := { link.bridge with
        mapSignature := some (signature map)
        mapVersion := link.bridge.mapVersion + 1
        latestMap := some map } } _ _ rfl (Nat.le_add_left 1 _) ?_ ?_ ?_ ?_
    · intro version other hframe
      exact hgrown version other (h.frames version other hframe)
    · intro version other hheld
      exact hgrown version other (h.server version other hheld)
    · intro version hstage
      exact Nat.le_succ_of_le (h.asked version hstage)
    · intro hwhole hnot hstage
      have hway := h.onTheWay hwhole hnot
      dsimp only at hstage
      rw [hstage] at hway
      exact hway.1

theorem Sound.step (h : Sound log link) (event : Event Map) :
    Sound (log ++ (link.step signature event).2) (link.step signature event).1 := by
  cases event with
  | onMap map => exact h.onMap map
  | send spared =>
    rw [Link.step, List.append_nil]
    exact h.send spared
  | greet =>
    rw [Link.step]
    split
    · rw [List.append_nil]
      refine ⟨h.mapped, h.frames, h.server, h.queue, ?_, fun _ _ => Or.inl rfl⟩
      intro version hversion
      cases hversion
      exact Nat.le_refl _
    · rw [List.append_nil]
      exact h
  | serverHello =>
    rw [Link.step]
    split
    · rename_i version hstage
      split
      · rw [List.append_nil]
        exact h
      · rename_i hwhole
        rw [List.append_nil]
        exact h.serverHello hstage (by simpa using hwhole)
    · rw [List.append_nil]
      exact h
  | acknowledged =>
    rw [Link.step]
    split
    · rename_i want hstage
      split
      · rw [List.append_nil]
        exact h
      · rename_i hwhole
        exact h.acknowledged hstage (by simpa using hwhole)
    · rw [List.append_nil]
      exact h
  | pop =>
    rw [Link.step]
    split
    · rename_i frame queue hstage hqueue
      rw [List.append_nil]
      exact h.pop hstage hqueue
    · rw [List.append_nil]
      exact h
  | deliver =>
    rw [Link.step]
    split
    · rename_i frame wire hwire
      rw [List.append_nil]
      exact h.deliver hwire
    · rw [List.append_nil]
      exact h
  | cut =>
    rw [Link.step, List.append_nil]
    exact h.cut (Or.inr rfl)
  | lost purged =>
    rw [Link.step, List.append_nil]
    exact h.lost purged
  | forget =>
    rw [Link.step, List.append_nil]
    exact h.cut (Or.inl rfl)

theorem sound_run (events : List (Event Map)) :
    Sound (notes signature events) (after signature events) := by
  refine @Machine.history_invariant _ _ _ (mapLink signature) (fun _ _ => True)
    (fun history link => Sound (history.flatMap Prod.snd) link) ?_ _ ?_ _
    ((mapLink signature).along_true _ events)
  · intro history link event _ h
    rw [List.flatMap_append, List.flatMap_singleton]
    exact h.step event
  · exact ⟨⟨fun _ => rfl, fun _ => rfl⟩, nofun, nofun, fun _ => Or.inl rfl, nofun,
      fun _ _ => trivial⟩

end

end PatrolBot.MapSync
