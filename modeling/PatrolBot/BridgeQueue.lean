import Mathlib.Data.List.Infix
import PatrolBot.BridgeHello
import PatrolBot.Library.JsonQuotes
import PatrolBot.Library.Shedding

/-!
# The bridge's outbound queue

`WsClient.send` and `WsClient._session` of `ws_client.py`, as far as they move the queue.
The queue holds the texts of the frames; which of them back-pressure spares and which do not
outlive a connection is looked up in the texts, as a type in quotation marks.  A text that
has such a marker elsewhere is misread.
-/

namespace PatrolBot.Bridge

open JsonText (Value)

/-- How `json.dumps` writes numbers: without quotation marks. -/
structure FrameNumbers (F : Type) extends JsonText.Numbers F where
  unquoted : ∀ x, '"' ∉ text x

/-- `PROTECTED_TYPES`. -/
def protectedTypes : List String := ["robot.hello", "telemetry.map", "tuning.response"]

/-- The types that must not be sent on another connection. -/
def transientTypes : List String := ["tuning.response", "telemetry.motion"]

variable {F : Type}

/-- A frame of the queue, with the connection it was queued on. -/
structure OutboundFrame (F : Type) where
  type : String
  robotId : String
  sequence : Nat
  timestamp : String
  data : Value F
  connection : Nat

namespace OutboundFrame

def value (frame : OutboundFrame F) : Value F :=
  .obj [("version", .int 1), ("type", .str frame.type), ("robot_id", .str frame.robotId),
    ("sequence", .int frame.sequence), ("timestamp", .str frame.timestamp), ("data", frame.data)]

variable (numbers : FrameNumbers F)

/-- The text that the queue holds. -/
def text (frame : OutboundFrame F) : List Char := JsonText.text numbers.toNumbers frame.value

/-- `any(marker in queued for marker in …)`. -/
def mentionsAny (names : List String) (frame : OutboundFrame F) : Bool :=
  names.any fun name => decide (JsonText.quoted name.toList <:+: frame.text numbers)

end OutboundFrame

/-- The fields of `WsClient` that its queue depends on. -/
structure Outbound (F : Type) where
  robotId : String
  connectionGeneration : Nat := 0
  sequence : Nat := 0
  connected : Bool := false
  queue : List (OutboundFrame F) := []

inductive OutboundEvent (F : Type) where
  /-- `send`; there is no data where `json.dumps` raises. -/
  | send (type timestamp : String) (data : Option (Value F))
  /-- `_session` takes the oldest frame and sends it. -/
  | pop
  /-- `_session` is greeted back. -/
  | connect
  /-- `_session` ends, and purges the queue. -/
  | disconnect

inductive OutboundNote (F : Type) where
  | sent (frame : OutboundFrame F)
  | evicted (frame : OutboundFrame F)
  | refused (frame : OutboundFrame F)
  | purged (frame : OutboundFrame F)

namespace Outbound

variable (numbers : FrameNumbers F)

/-- The frame is put into the queue; a full one evicts its oldest unprotected frame, or
    refuses the new one. -/
def enqueue (s : Outbound F) (frame : OutboundFrame F) : Outbound F × List (OutboundNote F) :=
  let spared := OutboundFrame.mentionsAny numbers protectedTypes
  match Shedding.offer queueLimit spared s.queue frame with
  | none => (s, [.refused frame])
  | some queue =>
    let shed := s.queue.find? fun queued => !spared queued
    ({ s with queue := queue },
      if s.queue.length < queueLimit then [] else shed.toList.map .evicted)

/-- `WsClient.send`. -/
def send (s : Outbound F) (type timestamp : String) (data : Option (Value F)) :
    Outbound F × List (OutboundNote F) :=
  if type ∈ transientTypes ∧ s.connected = false then (s, [])
  else
    let s := { s with sequence := s.sequence + 1 }
    match data with
    | none => (s, [])
    | some data =>
      s.enqueue numbers
        ⟨type, s.robotId, s.sequence, timestamp, data, s.connectionGeneration⟩

def pop (s : Outbound F) : Outbound F × List (OutboundNote F) :=
  match s.connected, s.queue with
  | true, frame :: queue => ({ s with queue := queue }, [.sent frame])
  | _, _ => (s, [])

def connect (s : Outbound F) : Outbound F :=
  if s.connected then s
  else { s with connected := true, connectionGeneration := s.connectionGeneration + 1 }

/-- The end of a session. -/
def disconnect (s : Outbound F) : Outbound F × List (OutboundNote F) :=
  if s.connected then
    let (purged, kept) := s.queue.partition (OutboundFrame.mentionsAny numbers transientTypes)
    ({ s with
      connected := false, queue := kept, connectionGeneration := s.connectionGeneration + 1 },
      purged.map .purged)
  else (s, [])

def step (s : Outbound F) : OutboundEvent F → Outbound F × List (OutboundNote F)
  | .send type timestamp data => s.send numbers type timestamp data
  | .pop => s.pop
  | .connect => (s.connect, [])
  | .disconnect => s.disconnect numbers

end Outbound

/-- The queue as a machine. -/
def outbound (numbers : FrameNumbers F) :
    Machine (Outbound F) (OutboundEvent F) (OutboundNote F) where
  step := Outbound.step numbers

/-! ### What is read in a text -/

/-- A string of the frame is one of the names, or ends in a quotation mark and one. -/
def Mentioned (names : List String) (type robotId timestamp : String) (data : Value F) : Prop :=
  ∃ name ∈ names, ∃ string ∈ type :: robotId :: timestamp :: JsonText.strings data,
    JsonText.endsAs name.toList string

/-- A frame that is protected or purged in spite of its type. -/
def Misread (type robotId timestamp : String) (data : Value F) : Prop :=
  type ∉ protectedTypes ∧ Mentioned protectedTypes type robotId timestamp data ∨
    type ∉ transientTypes ∧ Mentioned transientTypes type robotId timestamp data

instance (name : List Char) (string : String) : Decidable (JsonText.endsAs name string) :=
  inferInstanceAs (Decidable (_ = _))

instance (names : List String) (type robotId timestamp : String) (data : Value F) :
    Decidable (Mentioned names type robotId timestamp data) :=
  inferInstanceAs (Decidable (∃ name ∈ names, _))

instance (type robotId timestamp : String) (data : Value F) :
    Decidable (Misread type robotId timestamp data) :=
  inferInstanceAs (Decidable (_ ∨ _))

/-- A name of these lists is searched for as it stands, and no key of a frame ends as it. -/
structure TypeName (name : String) : Prop where
  searchable : JsonText.Searchable name.toList
  self : JsonText.endsAs name.toList name
  keys : ∀ key ∈ ["version", "type", "robot_id", "sequence", "timestamp", "data"],
    ¬JsonText.endsAs name.toList key

theorem typeName_of_mem {name : String} (h : name ∈ protectedTypes ∨ name ∈ transientTypes) :
    TypeName name := by
  have hcases : name = "robot.hello" ∨ name = "telemetry.map" ∨ name = "tuning.response" ∨
      name = "telemetry.motion" := by
    simp only [protectedTypes, transientTypes, List.mem_cons, List.not_mem_nil, or_false] at h
    tauto
  rcases hcases with rfl | rfl | rfl | rfl <;>
    exact ⟨⟨by decide, _, _, rfl, by decide⟩, by decide, by decide⟩

variable {numbers : FrameNumbers F} {frame : OutboundFrame F} {names : List String}

/-- The search in the text of a frame looks at its strings. -/
theorem mentionsAny_iff (hnames : ∀ name ∈ names, TypeName name) :
    frame.mentionsAny numbers names = true ↔
      Mentioned names frame.type frame.robotId frame.timestamp frame.data := by
  simp only [OutboundFrame.mentionsAny, List.any_eq_true, decide_eq_true_eq, Mentioned]
  refine exists_congr fun name => and_congr_right fun hmem => ?_
  obtain ⟨hsearchable, -, hkeys⟩ := hnames name hmem
  rw [OutboundFrame.text,
    JsonText.quoted_infix_text_iff numbers.toNumbers hsearchable numbers.unquoted]
  simp only [List.forall_mem_cons, List.not_mem_nil, false_implies, implies_true] at hkeys
  obtain ⟨hversion, htype, hrobot, hsequence, htimestamp, hdata, -⟩ := hkeys
  simp [OutboundFrame.value, JsonText.strings, JsonText.stringsOfFields, hversion, htype, hrobot,
    hsequence, htimestamp, hdata]

/-- The type alone decides for a frame that is not misread. -/
structure ReadByType (numbers : FrameNumbers F) (frame : OutboundFrame F) : Prop where
  spared : frame.mentionsAny numbers protectedTypes = true ↔ frame.type ∈ protectedTypes
  purged : frame.mentionsAny numbers transientTypes = true ↔ frame.type ∈ transientTypes

theorem mentioned_of_mem (hnames : ∀ name ∈ names, TypeName name) {type : String}
    (hmem : type ∈ names) (robotId timestamp : String) (data : Value F) :
    Mentioned names type robotId timestamp data :=
  ⟨type, hmem, type, List.mem_cons_self, (hnames type hmem).self⟩

theorem readByType_of_not_misread
    (h : ¬Misread frame.type frame.robotId frame.timestamp frame.data) :
    ReadByType numbers frame := by
  rw [Misread, not_or, not_and', not_and'] at h
  have hprotected : ∀ name ∈ protectedTypes, TypeName name :=
    fun name hmem => typeName_of_mem (Or.inl hmem)
  have htransient : ∀ name ∈ transientTypes, TypeName name :=
    fun name hmem => typeName_of_mem (Or.inr hmem)
  constructor
  · rw [mentionsAny_iff hprotected]
    constructor
    · intro hmentioned
      exact not_not.mp (h.1 hmentioned)
    · intro hmem
      exact mentioned_of_mem hprotected hmem _ _ _
  · rw [mentionsAny_iff htransient]
    constructor
    · intro hmentioned
      exact not_not.mp (h.2 hmentioned)
    · intro hmem
      exact mentioned_of_mem htransient hmem _ _ _

/-! ### The law of the queue -/

/-- What one step may do to the queue. -/
structure StepLaw (numbers : FrameNumbers F) (s : Outbound F) (event : OutboundEvent F) :
    Prop where
  bounded : ((outbound numbers).step s event).1.queue.length ≤ queueLimit
  left : ∀ frame ∈ s.queue, frame ∉ ((outbound numbers).step s event).1.queue →
    .sent frame ∈ ((outbound numbers).step s event).2 ∨
    .evicted frame ∈ ((outbound numbers).step s event).2 ∨
    .purged frame ∈ ((outbound numbers).step s event).2
  evicted : ∀ frame, .evicted frame ∈ ((outbound numbers).step s event).2 →
    s.queue.length = queueLimit ∧ ∃ older newer, s.queue = older ++ frame :: newer ∧
      (∀ other ∈ older, other.type ∈ protectedTypes) ∧ frame.type ∉ protectedTypes
  refused : ∀ frame, .refused frame ∈ ((outbound numbers).step s event).2 →
    s.queue.length = queueLimit ∧ ∀ other ∈ s.queue, other.type ∈ protectedTypes
  purged : ∀ frame, .purged frame ∈ ((outbound numbers).step s event).2 →
    event = .disconnect ∧ frame.type ∈ transientTypes
  outlived : event = .disconnect → ∀ frame ∈ ((outbound numbers).step s event).1.queue,
    frame.type ∉ transientTypes
  sent : ∀ frame, .sent frame ∈ ((outbound numbers).step s event).2 →
    frame.type ∈ transientTypes → frame.connection = s.connectionGeneration

/-- The frames that a log has sent. -/
def sentFrames (log : List (OutboundNote F)) : List (OutboundFrame F) :=
  log.filterMap fun
    | .sent frame => some frame
    | _ => none

/-- The law of a run: every step keeps it, and the frames leave in the order of their
    numbers. -/
structure QueueLaw (numbers : FrameNumbers F) (s : Outbound F) (events : List (OutboundEvent F)) :
    Prop where
  steps : ∀ before event after, events = before ++ event :: after →
    StepLaw numbers ((outbound numbers).run s before) event
  increasing : (sentFrames (((outbound numbers).trace s events).flatMap Prod.snd)).Pairwise
    fun earlier later => earlier.sequence < later.sequence

/-- The queue holds frames in order that are read by their types, and no transient one of
    another connection. -/
structure Ordered (numbers : FrameNumbers F) (s : Outbound F) : Prop where
  bounded : s.queue.length ≤ queueLimit
  readByType : ∀ frame ∈ s.queue, ReadByType numbers frame
  increasing : s.queue.Pairwise fun earlier later => earlier.sequence < later.sequence
  numbered : ∀ frame ∈ s.queue, frame.sequence ≤ s.sequence
  transient : ∀ frame ∈ s.queue, frame.type ∈ transientTypes →
    s.connected = true ∧ frame.connection = s.connectionGeneration

variable {s : Outbound F}

/-- What `enqueue` does with a frame: the queue takes it, evicts another for it, or refuses
    it. -/
theorem enqueue_cases (h : Ordered numbers s) (frame : OutboundFrame F) :
    (s.queue.length < queueLimit ∧
      s.enqueue numbers frame = ({ s with queue := s.queue ++ [frame] }, [])) ∨
    (s.queue.length = queueLimit ∧ ∃ older shed newer, s.queue = older ++ shed :: newer ∧
      (∀ other ∈ older, other.type ∈ protectedTypes) ∧ shed.type ∉ protectedTypes ∧
      s.enqueue numbers frame =
        ({ s with queue := older ++ newer ++ [frame] }, [.evicted shed])) ∨
    (s.queue.length = queueLimit ∧ (∀ other ∈ s.queue, other.type ∈ protectedTypes) ∧
      s.enqueue numbers frame = (s, [.refused frame])) := by
  have hcases := @Shedding.offer_cases _ queueLimit
    (OutboundFrame.mentionsAny numbers protectedTypes) s.queue frame
  rcases hcases with ⟨hroom, hoffer⟩ |
    ⟨hfull, older, shed, newer, hqueue, holder, hshed, hoffer⟩ | ⟨hfull, hall, hoffer⟩
  · refine Or.inl ⟨hroom, ?_⟩
    simp only [Outbound.enqueue, hoffer, if_pos hroom]
  · refine Or.inr (Or.inl ⟨le_antisymm h.bounded hfull, older, shed, newer, hqueue, ?_, ?_, ?_⟩)
    · intro other hmem
      have hqueued : other ∈ s.queue := by
        rw [hqueue]
        exact List.mem_append_left _ hmem
      exact (h.readByType other hqueued).spared.mp (holder other hmem)
    · intro htype
      have hqueued : shed ∈ s.queue := by
        rw [hqueue]
        exact List.mem_append_right _ List.mem_cons_self
      rw [(h.readByType shed hqueued).spared.mpr htype] at hshed
      cases hshed
    · have hfind : s.queue.find? (fun queued => !queued.mentionsAny numbers protectedTypes) =
          some shed := by
        have hnone : older.find? (fun queued => !queued.mentionsAny numbers protectedTypes) =
            none := by
          rw [List.find?_eq_none]
          intro other hmem
          simp [holder other hmem]
        rw [hqueue, List.find?_append, hnone]
        simp [hshed]
      simp only [Outbound.enqueue, hoffer, hfind, if_neg (Nat.not_lt.mpr hfull)]
      rfl
  · refine Or.inr (Or.inr ⟨le_antisymm h.bounded hfull, ?_, ?_⟩)
    · intro other hmem
      exact (h.readByType other hmem).spared.mp (hall other hmem)
    · simp only [Outbound.enqueue, hoffer]

/-- A step without notes that keeps the queue. -/
theorem StepLaw.quiet (h : Ordered numbers s) {event : OutboundEvent F}
    (hnotes : ((outbound numbers).step s event).2 = [])
    (hqueue : ((outbound numbers).step s event).1.queue = s.queue)
    (hdisconnect : event = .disconnect → s.connected = false) : StepLaw numbers s event where
  bounded := by
    rw [hqueue]
    exact h.bounded
  left frame hmem hleft := by
    rw [hqueue] at hleft
    exact absurd hmem hleft
  evicted frame hmem := by
    rw [hnotes] at hmem
    cases hmem
  refused frame hmem := by
    rw [hnotes] at hmem
    cases hmem
  purged frame hmem := by
    rw [hnotes] at hmem
    cases hmem
  outlived hevent frame hmem htype := by
    rw [hqueue] at hmem
    have hconnected := (h.transient frame hmem htype).1
    rw [hdisconnect hevent] at hconnected
    cases hconnected
  sent frame hmem := by
    rw [hnotes] at hmem
    cases hmem

/-- The queue loses frames at most, and the connection stays. -/
theorem Ordered.of_sublist (h : Ordered numbers s) {t : Outbound F}
    (hqueue : t.queue.Sublist s.queue) (hsequence : s.sequence ≤ t.sequence)
    (hconnection : ∀ frame ∈ t.queue, frame.type ∈ transientTypes →
      t.connected = s.connected ∧ t.connectionGeneration = s.connectionGeneration) :
    Ordered numbers t where
  bounded := hqueue.length_le.trans h.bounded
  readByType frame hmem := h.readByType frame (hqueue.subset hmem)
  increasing := h.increasing.sublist hqueue
  numbered frame hmem := (h.numbered frame (hqueue.subset hmem)).trans hsequence
  transient frame hmem htype := by
    obtain ⟨hconnected, hgeneration⟩ := hconnection frame hmem htype
    rw [hconnected, hgeneration]
    exact h.transient frame (hqueue.subset hmem) htype

/-- A new frame is put behind some of the queue. -/
theorem Ordered.concat (h : Ordered numbers s) {frame : OutboundFrame F}
    {queue : List (OutboundFrame F)} (hqueue : queue.Sublist s.queue)
    (hroom : queue.length < queueLimit) (hread : ReadByType numbers frame)
    (hsequence : frame.sequence = s.sequence + 1)
    (htransient : frame.type ∈ transientTypes →
      s.connected = true ∧ frame.connection = s.connectionGeneration) :
    Ordered numbers { s with sequence := s.sequence + 1, queue := queue ++ [frame] } where
  bounded := by
    rw [List.length_append, List.length_singleton]
    exact hroom
  readByType other hmem := by
    rcases List.mem_append.mp hmem with hold | hnew
    · exact h.readByType other (hqueue.subset hold)
    · rw [List.mem_singleton.mp hnew]
      exact hread
  increasing := by
    refine List.pairwise_append.mpr
      ⟨h.increasing.sublist hqueue, List.pairwise_singleton _ _, ?_⟩
    intro other hold new hnew
    have hbound := h.numbered other (hqueue.subset hold)
    rw [List.mem_singleton.mp hnew, hsequence]
    omega
  numbered other hmem := by
    rcases List.mem_append.mp hmem with hold | hnew
    · exact (h.numbered other (hqueue.subset hold)).trans (Nat.le_succ _)
    · rw [List.mem_singleton.mp hnew, hsequence]
  transient other hmem htype := by
    rcases List.mem_append.mp hmem with hold | hnew
    · exact h.transient other (hqueue.subset hold) htype
    · rw [List.mem_singleton.mp hnew] at htype ⊢
      exact htransient htype

/-- What a step does to the frames: it sends none, and the next queue holds old frames and
    perhaps one with the next number; or it sends the first one. -/
structure Moves (numbers : FrameNumbers F) (s : Outbound F) (event : OutboundEvent F) : Prop where
  ordered : Ordered numbers ((outbound numbers).step s event).1
  law : StepLaw numbers s event
  sequence : s.sequence ≤ ((outbound numbers).step s event).1.sequence
  sent : (sentFrames ((outbound numbers).step s event).2 = [] ∧
      ∀ frame ∈ ((outbound numbers).step s event).1.queue,
        frame ∈ s.queue ∨ s.sequence < frame.sequence) ∨
    ∃ frame, sentFrames ((outbound numbers).step s event).2 = [frame] ∧
      s.queue = frame :: ((outbound numbers).step s event).1.queue

theorem step_send {type timestamp : String} {data : Value F}
    (hopen : ¬(type ∈ transientTypes ∧ s.connected = false)) :
    (outbound numbers).step s (.send type timestamp (some data)) =
      { s with sequence := s.sequence + 1 }.enqueue numbers
        ⟨type, s.robotId, s.sequence + 1, timestamp, data, s.connectionGeneration⟩ := by
  change s.send numbers type timestamp (some data) = _
  rw [Outbound.send, if_neg hopen]

/-- A step that leaves the queue as it is, and notes nothing. -/
theorem Moves.quiet (h : Ordered numbers s) {event : OutboundEvent F} {t : Outbound F}
    (hstep : (outbound numbers).step s event = (t, [])) (hqueue : t.queue = s.queue)
    (hsequence : s.sequence ≤ t.sequence)
    (hconnection : t.connected = s.connected ∧ t.connectionGeneration = s.connectionGeneration ∨
      s.connected = false)
    (hdisconnect : event = .disconnect → s.connected = false) : Moves numbers s event where
  ordered := by
    rw [hstep]
    apply h.of_sublist (hqueue ▸ List.Sublist.refl _) hsequence
    intro frame hmem htype
    rcases hconnection with hsame | hclosed
    · exact hsame
    · have hconnected := (h.transient frame (hqueue ▸ hmem) htype).1
      rw [hclosed] at hconnected
      cases hconnected
  law := StepLaw.quiet h (by rw [hstep]) (by rw [hstep]; exact hqueue) hdisconnect
  sequence := by
    rw [hstep]
    exact hsequence
  sent := by
    rw [hstep]
    exact Or.inl ⟨rfl, fun frame hmem => Or.inl (hqueue ▸ hmem)⟩

/-- A step that puts a new frame behind some of the queue, and sends none. -/
theorem Moves.concat (h : Ordered numbers s) {event : OutboundEvent F} {frame : OutboundFrame F}
    {queue : List (OutboundFrame F)} {notes : List (OutboundNote F)}
    (hstep : (outbound numbers).step s event =
      ({ s with sequence := s.sequence + 1, queue := queue ++ [frame] }, notes))
    (hqueue : queue.Sublist s.queue) (hroom : queue.length < queueLimit)
    (hread : ReadByType numbers frame) (hsequence : frame.sequence = s.sequence + 1)
    (htransient : frame.type ∈ transientTypes →
      s.connected = true ∧ frame.connection = s.connectionGeneration)
    (hnotes : sentFrames notes = []) (hlaw : StepLaw numbers s event) : Moves numbers s event where
  ordered := by
    rw [hstep]
    exact h.concat hqueue hroom hread hsequence htransient
  law := hlaw
  sequence := by
    rw [hstep]
    exact Nat.le_succ _
  sent := by
    rw [hstep]
    refine Or.inl ⟨hnotes, ?_⟩
    intro other hmem
    rcases List.mem_append.mp hmem with hold | hnew
    · exact Or.inl (hqueue.subset hold)
    · rw [List.mem_singleton.mp hnew, hsequence]
      exact Or.inr (Nat.lt_succ_self _)

/-- `send` of a frame that is not misread. -/
theorem moves_send (h : Ordered numbers s) {type timestamp : String} {data : Value F}
    (hread : ¬Misread type s.robotId timestamp data) :
    Moves numbers s (.send type timestamp (some data)) := by
  by_cases hclosed : type ∈ transientTypes ∧ s.connected = false
  · have hstep : (outbound numbers).step s (.send type timestamp (some data)) = (s, []) := by
      change s.send numbers type timestamp (some data) = _
      rw [Outbound.send, if_pos hclosed]
    exact Moves.quiet h hstep rfl le_rfl (Or.inl ⟨rfl, rfl⟩) (by simp)
  · have hnumbered : Ordered numbers { s with sequence := s.sequence + 1 } :=
      h.of_sublist (List.Sublist.refl _) (Nat.le_succ _) (fun _ _ _ => ⟨rfl, rfl⟩)
    have hframe : ReadByType numbers
        ⟨type, s.robotId, s.sequence + 1, timestamp, data, s.connectionGeneration⟩ :=
      readByType_of_not_misread hread
    have htransient : type ∈ transientTypes → s.connected = true := by
      intro hmem
      simpa [hmem] using hclosed
    rcases enqueue_cases hnumbered
        ⟨type, s.robotId, s.sequence + 1, timestamp, data, s.connectionGeneration⟩ with
      ⟨hroom, hstep⟩ | ⟨hfull, older, shed, newer, hqueue, holder, hshed, hstep⟩ |
      ⟨hfull, hall, hstep⟩
    · rw [← step_send hclosed] at hstep
      apply Moves.concat h hstep (List.Sublist.refl _) hroom hframe rfl
        (fun hmem => ⟨htransient hmem, rfl⟩) rfl
      constructor
      · rw [hstep, List.length_append, List.length_singleton]
        exact hroom
      · rw [hstep]
        intro frame hmem hleft
        exact absurd (List.mem_append_left _ hmem) hleft
      · simp [hstep]
      · simp [hstep]
      · simp [hstep]
      · simp
      · simp [hstep]
    · rw [← step_send hclosed] at hstep
      have hqueue : s.queue = older ++ shed :: newer := hqueue
      have hsublist : (older ++ newer).Sublist s.queue := by
        rw [hqueue]
        exact (List.Sublist.refl older).append (List.sublist_cons_self shed newer)
      have hroom : (older ++ newer).length < queueLimit := by
        have hlength : s.queue.length = queueLimit := hfull
        rw [hqueue, List.length_append, List.length_cons] at hlength
        rw [List.length_append]
        omega
      apply Moves.concat h hstep hsublist hroom hframe rfl
        (fun hmem => ⟨htransient hmem, rfl⟩) rfl
      constructor
      · rw [hstep, List.length_append, List.length_singleton]
        exact hroom
      · rw [hstep]
        intro frame hmem hleft
        right
        left
        rw [hqueue] at hmem
        have hshed : frame = shed := by
          simp only [List.mem_append, List.mem_cons, List.not_mem_nil, or_false] at hmem hleft
          tauto
        rw [hshed]
        exact List.mem_singleton_self _
      · rw [hstep]
        intro frame hmem
        cases List.mem_singleton.mp hmem
        exact ⟨hfull, older, newer, hqueue, holder, hshed⟩
      · simp [hstep]
      · simp [hstep]
      · simp
      · simp [hstep]
    · rw [← step_send hclosed] at hstep
      refine ⟨?_, ⟨?_, ?_, ?_, ?_, ?_, ?_, ?_⟩, ?_, Or.inl ⟨?_, ?_⟩⟩
      · rw [hstep]
        exact hnumbered
      · rw [hstep]
        exact h.bounded
      · rw [hstep]
        intro frame hmem hleft
        exact absurd hmem hleft
      · simp [hstep]
      · rw [hstep]
        intro _ _
        exact ⟨hfull, hall⟩
      · simp [hstep]
      · simp
      · simp [hstep]
      · rw [hstep]
        exact Nat.le_succ _
      · rw [hstep]
        rfl
      · rw [hstep]
        exact fun _ hmem => Or.inl hmem

theorem moves_pop (h : Ordered numbers s) : Moves numbers s .pop := by
  cases hconnected : s.connected with
  | false =>
    have hstep : (outbound numbers).step s .pop = (s, []) := by
      change s.pop = _
      rw [Outbound.pop, hconnected]
    exact Moves.quiet h hstep rfl le_rfl (Or.inl ⟨rfl, rfl⟩) (by simp)
  | true =>
    cases hqueue : s.queue with
    | nil =>
      have hstep : (outbound numbers).step s .pop = (s, []) := by
        change s.pop = _
        rw [Outbound.pop, hconnected, hqueue]
      exact Moves.quiet h hstep rfl le_rfl (Or.inl ⟨rfl, rfl⟩) (by simp)
    | cons first queue =>
      have hstep : (outbound numbers).step s .pop = ({ s with queue := queue }, [.sent first]) := by
        change s.pop = _
        rw [Outbound.pop, hconnected, hqueue]
      have hfirst : first ∈ s.queue := by
        rw [hqueue]
        exact List.mem_cons_self
      have hsublist : queue.Sublist s.queue := by
        rw [hqueue]
        exact List.sublist_cons_self first queue
      refine ⟨?_, ⟨?_, ?_, ?_, ?_, ?_, ?_, ?_⟩, ?_, Or.inr ⟨first, ?_, ?_⟩⟩
      · rw [hstep]
        exact h.of_sublist hsublist le_rfl (fun _ _ _ => ⟨rfl, rfl⟩)
      · rw [hstep]
        exact hsublist.length_le.trans h.bounded
      · rw [hstep]
        intro frame hmem hleft
        rw [hqueue] at hmem
        rcases List.mem_cons.mp hmem with rfl | hold
        · exact Or.inl (List.mem_singleton_self _)
        · exact absurd hold hleft
      · simp [hstep]
      · simp [hstep]
      · simp [hstep]
      · simp
      · rw [hstep]
        intro frame hmem htype
        cases List.mem_singleton.mp hmem
        exact (h.transient first hfirst htype).2
      · rw [hstep]
      · rw [hstep]
        rfl
      · rw [hstep]
        exact hqueue

theorem step_disconnect (numbers : FrameNumbers F) (hconnected : s.connected = true) :
    (outbound numbers).step s .disconnect =
      ({ s with
        connected := false
        queue := s.queue.filter fun frame => !frame.mentionsAny numbers transientTypes
        connectionGeneration := s.connectionGeneration + 1 },
      (s.queue.filter (OutboundFrame.mentionsAny numbers transientTypes)).map .purged) := by
  change s.disconnect numbers = _
  simp only [Outbound.disconnect, hconnected, List.partition_eq_filter_filter]
  rfl

theorem moves_disconnect (h : Ordered numbers s) : Moves numbers s .disconnect := by
  cases hconnected : s.connected with
  | false =>
    have hstep : (outbound numbers).step s .disconnect = (s, []) := by
      change s.disconnect numbers = _
      simp only [Outbound.disconnect, hconnected]
      rfl
    exact Moves.quiet h hstep rfl le_rfl (Or.inl ⟨rfl, rfl⟩) (fun _ => hconnected)
  | true =>
    have hstep := step_disconnect numbers hconnected
    -- What is kept is not transient, and what is purged is.
    have hkept : ∀ frame ∈ s.queue.filter fun frame => !frame.mentionsAny numbers transientTypes,
        frame ∈ s.queue ∧ frame.type ∉ transientTypes := by
      intro frame hmem
      obtain ⟨hqueued, hnot⟩ := List.mem_filter.mp hmem
      refine ⟨hqueued, ?_⟩
      intro htype
      rw [(h.readByType frame hqueued).purged.mpr htype] at hnot
      cases hnot
    refine ⟨?_, ⟨?_, ?_, ?_, ?_, ?_, ?_, ?_⟩, ?_, Or.inl ⟨?_, ?_⟩⟩
    · rw [hstep]
      refine h.of_sublist List.filter_sublist ?_ ?_
      · exact le_rfl
      · intro frame hmem htype
        exact absurd htype (hkept frame hmem).2
    · rw [hstep]
      exact (List.length_filter_le _ _).trans h.bounded
    · rw [hstep]
      intro frame hmem hleft
      right
      right
      apply List.mem_map_of_mem
      refine List.mem_filter.mpr ⟨hmem, ?_⟩
      by_contra hnot
      exact hleft (List.mem_filter.mpr ⟨hmem, by simp [Bool.not_eq_true _ ▸ hnot]⟩)
    · simp [hstep]
    · simp [hstep]
    · rw [hstep]
      intro frame hmem
      obtain ⟨other, hother, heq⟩ := List.mem_map.mp hmem
      cases heq
      obtain ⟨hqueued, hpurged⟩ := List.mem_filter.mp hother
      exact ⟨rfl, (h.readByType frame hqueued).purged.mp hpurged⟩
    · rw [hstep]
      intro _ frame hmem
      exact (hkept frame hmem).2
    · simp [hstep]
    · rw [hstep]
    · rw [hstep, sentFrames, List.filterMap_map, List.filterMap_eq_nil_iff]
      intro frame _
      rfl
    · rw [hstep]
      intro frame hmem
      exact Or.inl (hkept frame hmem).1

/-- The frame that a `send` makes is misread. -/
def sendsMisread (s : Outbound F) : OutboundEvent F → Prop
  | .send type timestamp (some data) => Misread type s.robotId timestamp data
  | _ => False

/-- **Step lemma.** -/
theorem moves_step (h : Ordered numbers s) {event : OutboundEvent F}
    (hread : ¬sendsMisread s event) : Moves numbers s event := by
  cases event with
  | send type timestamp data =>
    cases data with
    | some data => exact moves_send h hread
    | none =>
      by_cases hclosed : type ∈ transientTypes ∧ s.connected = false
      · have hstep : (outbound numbers).step s (.send type timestamp none) = (s, []) := by
          change s.send numbers type timestamp none = _
          rw [Outbound.send, if_pos hclosed]
        exact Moves.quiet h hstep rfl le_rfl (Or.inl ⟨rfl, rfl⟩) (by simp)
      · have hstep : (outbound numbers).step s (.send type timestamp none) =
            ({ s with sequence := s.sequence + 1 }, []) := by
          change s.send numbers type timestamp none = _
          rw [Outbound.send, if_neg hclosed]
        exact Moves.quiet h hstep rfl (Nat.le_succ _) (Or.inl ⟨rfl, rfl⟩) (by simp)
  | pop => exact moves_pop h
  | connect =>
    cases hconnected : s.connected with
    | true =>
      have hstep : (outbound numbers).step s .connect = (s, []) := by
        change (s.connect, []) = _
        rw [Outbound.connect, if_pos hconnected]
      exact Moves.quiet h hstep rfl le_rfl (Or.inl ⟨rfl, rfl⟩) (by simp)
    | false =>
      refine Moves.quiet h rfl ?_ ?_ (Or.inr hconnected) (by simp)
      · rw [Outbound.connect, if_neg (by simp [hconnected])]
      · rw [Outbound.connect, if_neg (by simp [hconnected])]
  | disconnect => exact moves_disconnect h

/-- What has been sent came before what is queued. -/
structure SentBefore (log : List (OutboundNote F)) (s : Outbound F) : Prop where
  increasing : (sentFrames log).Pairwise fun earlier later => earlier.sequence < later.sequence
  queued : ∀ frame ∈ sentFrames log, ∀ other ∈ s.queue, frame.sequence < other.sequence
  numbered : ∀ frame ∈ sentFrames log, frame.sequence ≤ s.sequence

theorem SentBefore.step {log : List (OutboundNote F)} (hsent : SentBefore log s)
    (hordered : Ordered numbers s) {event : OutboundEvent F} (h : Moves numbers s event) :
    SentBefore (log ++ ((outbound numbers).step s event).2)
      ((outbound numbers).step s event).1 := by
  have happend : sentFrames (log ++ ((outbound numbers).step s event).2) =
      sentFrames log ++ sentFrames ((outbound numbers).step s event).2 := List.filterMap_append
  rcases h.sent with ⟨hnone, hqueue⟩ | ⟨first, hone, hqueue⟩
  · rw [hnone, List.append_nil] at happend
    constructor
    · rw [happend]
      exact hsent.increasing
    · rw [happend]
      intro frame hmem other hother
      rcases hqueue other hother with hold | hnew
      · exact hsent.queued frame hmem other hold
      · exact (hsent.numbered frame hmem).trans_lt hnew
    · rw [happend]
      exact fun frame hmem => (hsent.numbered frame hmem).trans h.sequence
  · rw [hone] at happend
    have hfirst : first ∈ s.queue := by
      rw [hqueue]
      exact List.mem_cons_self
    have hrest : ∀ other ∈ ((outbound numbers).step s event).1.queue, other ∈ s.queue := by
      intro other hother
      rw [hqueue]
      exact List.mem_cons_of_mem _ hother
    constructor
    · rw [happend]
      refine List.pairwise_append.mpr ⟨hsent.increasing, List.pairwise_singleton _ _, ?_⟩
      intro frame hmem other hother
      rw [List.mem_singleton.mp hother]
      exact hsent.queued frame hmem first hfirst
    · rw [happend]
      intro frame hmem other hother
      rcases List.mem_append.mp hmem with hold | hnew
      · exact hsent.queued frame hold other (hrest other hother)
      · rw [List.mem_singleton.mp hnew]
        have hincreasing := hordered.increasing
        rw [hqueue] at hincreasing
        exact List.rel_of_pairwise_cons hincreasing hother
    · rw [happend]
      intro frame hmem
      rcases List.mem_append.mp hmem with hold | hnew
      · exact (hsent.numbered frame hold).trans h.sequence
      · rw [List.mem_singleton.mp hnew]
        exact (hordered.numbered first hfirst).trans h.sequence

theorem ordered_initial (robotId : String) : Ordered numbers { robotId := robotId } where
  bounded := Nat.zero_le _
  readByType _ hmem := absurd hmem List.not_mem_nil
  increasing := List.Pairwise.nil
  numbered _ hmem := absurd hmem List.not_mem_nil
  transient _ hmem := absurd hmem List.not_mem_nil

/-- **Run lemma.** -/
theorem ordered_run {robotId : String} {events : List (OutboundEvent F)}
    (halong : (outbound numbers).Along (fun s event => ¬sendsMisread s event)
      { robotId := robotId } events) :
    Ordered numbers ((outbound numbers).run { robotId := robotId } events) ∧
      SentBefore (((outbound numbers).trace { robotId := robotId } events).flatMap Prod.snd)
        ((outbound numbers).run { robotId := robotId } events) := by
  refine (outbound numbers).history_invariant
    (fun history s => Ordered numbers s ∧ SentBefore (history.flatMap Prod.snd) s) ?_
    ⟨ordered_initial robotId, ⟨List.Pairwise.nil, ?_, ?_⟩⟩ halong
  · intro history s event hread hinv
    have hmoves : Moves numbers s event := moves_step hinv.1 hread
    refine ⟨hmoves.ordered, ?_⟩
    rw [List.flatMap_append, List.flatMap_cons, List.flatMap_nil, List.append_nil]
    exact hinv.2.step hinv.1 hmoves
  · exact fun _ hmem => absurd hmem List.not_mem_nil
  · exact fun _ hmem => absurd hmem List.not_mem_nil

/-- As long as no frame is put together that is misread, the queue keeps its law. -/
theorem queueLaw_of_read {robotId : String} {events : List (OutboundEvent F)}
    (halong : (outbound numbers).Along (fun s event => ¬sendsMisread s event)
      { robotId := robotId } events) :
    QueueLaw numbers { robotId := robotId } events where
  steps before event after hevents := by
    subst hevents
    have hsplit := (outbound numbers).along_append.mp halong
    exact (moves_step (ordered_run hsplit.1).1 hsplit.2.1).law
  increasing := (ordered_run halong).2.increasing

/-- A diagnosis with this text is sent on a connection. -/
def diagnosis (text : String) : List (OutboundEvent Unit) :=
  [.connect, .send "telemetry.diagnostics" "t" (some (.obj [("message", .str text)]))]

/-- Frames whose only fraction is `0.0`. -/
def zeroOnly : FrameNumbers Unit where
  digits := 4300
  text _ := ['0', '.', '0']
  read _ := some ()
  accepts _ := true
  token_of_mem _ _ := List.all_eq_true.mp (by decide)
  marked _ _ := rfl
  read_text _ _ := rfl
  unquoted _ := by decide

theorem queueLaw_of_diagnosis :
    QueueLaw zeroOnly { robotId := "robot" } (diagnosis "ready" ++ [.pop, .disconnect]) :=
  queueLaw_of_read ⟨id, show ¬Misread "telemetry.diagnostics" "robot" "t"
    (Value.obj [("message", Value.str (F := Unit) "ready")]) by decide, id, id, trivial⟩

/-- A diagnosis that consists of the name of a transient type is purged. -/
theorem not_queueLaw :
    ¬∀ (robotId : String) (events : List (OutboundEvent Unit)),
      QueueLaw zeroOnly { robotId := robotId } events := by
  intro h
  have hlaw := (h "robot" (diagnosis "telemetry.motion" ++ [.disconnect])).steps
    (diagnosis "telemetry.motion") .disconnect [] rfl
  have hmem : .purged
      ⟨"telemetry.diagnostics", "robot", 1, "t", .obj [("message", .str "telemetry.motion")], 1⟩ ∈
      ((outbound zeroOnly).step ((outbound zeroOnly).run { robotId := "robot" }
        (diagnosis "telemetry.motion")) .disconnect).2 := by
    rw [step_disconnect zeroOnly rfl]
    apply List.mem_map_of_mem
    refine List.mem_filter.mpr ⟨List.mem_singleton_self _, ?_⟩
    rw [mentionsAny_iff fun name hname => typeName_of_mem (Or.inr hname)]
    decide
  exact absurd (hlaw.purged _ hmem).2 (by decide)

end PatrolBot.Bridge
