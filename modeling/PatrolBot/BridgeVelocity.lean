import PatrolBot.BridgeIngress

/-!
# Velocity frames on their way to the session

What the two slots for velocity frames keep of the frames between two drains, and what
the next drain makes of it.
-/

namespace PatrolBot.Bridge

namespace VelocityFrame

/-- `data.get("deadman") is False`. -/
def isRelease (frame : VelocityFrame) : Bool :=
  match Json.get frame.data "deadman" with
  | .bool false => true
  | _ => false

/-- The frame names the session. -/
def ofSession (session : String) (frame : VelocityFrame) : Bool :=
  match Json.get frame.data "command_id" with
  | .str id => id == session
  | _ => false

/-- The frame's number, if it is an integer. -/
def seq (frame : VelocityFrame) : Option Int :=
  match Json.get frame.data "seq" with
  | .int seq => some seq
  | _ => none

/-- `left.get("command_id") == right.get("command_id")`. -/
def sameSession (left right : VelocityFrame) : Bool :=
  Json.equal (Json.get left.data "command_id") (Json.get right.data "command_id")

theorem sameSession_of_ofSession {session : String} {left right : VelocityFrame}
    (hleft : left.ofSession session = true) (hright : right.ofSession session = true) :
    left.sameSession right = true := by
  unfold ofSession at hleft hright
  unfold sameSession
  split at hleft
  · rename_i id hid
    split at hright
    · rename_i id' hid'
      rw [beq_iff_eq] at hleft hright
      rw [hid, hid', hleft, hright]
      simp [Json.equal]
    · cases hright
  · cases hleft

end VelocityFrame

open VelocityFrame

namespace Ingress

variable {state : Ingress}

/-! ### The slots -/

theorem storeFrame_of_release {frame : VelocityFrame} (h : frame.isRelease = true) :
    state.storeFrame frame = { state with releaseFrame := some frame, latestFrame := none } := by
  cases hdeadman : Json.get frame.data "deadman" with
  | bool deadman =>
    cases deadman with
    | false => simp [storeFrame, hdeadman]
    | true => simp [isRelease, hdeadman] at h
  | _ => simp [isRelease, hdeadman] at h

/-- A frame that is not a release is kept out by a release of its session or by a frame
    of its session that is not before it. -/
theorem storeFrame_of_motion {frame : VelocityFrame} (h : frame.isRelease = false) :
    state.storeFrame frame =
      if state.releaseFrame.any fun release => release.sameSession frame then state
      else if state.latestFrame.any fun previous => overtaken previous.data frame.data then state
      else { state with latestFrame := some frame } := by
  unfold isRelease at h
  unfold storeFrame sameSession
  split at h
  · cases h
  · simp

/-- Of two numbered frames of a session the held one stands if it is not before the
    other. -/
theorem overtaken_iff {session : String} {previous frame : VelocityFrame} {held next : Int}
    (hprevious : previous.ofSession session = true) (hframe : frame.ofSession session = true)
    (hheld : previous.seq = some held) (hnext : frame.seq = some next) :
    overtaken previous.data frame.data = true ↔ next ≤ held := by
  have hsame := sameSession_of_ofSession hprevious hframe
  unfold sameSession at hsame
  unfold seq at hheld hnext
  split at hheld
  · rename_i seq hseq
    split at hnext
    · rename_i seq' hseq'
      obtain rfl := Option.some.inj hheld
      obtain rfl := Option.some.inj hnext
      simp [overtaken, hsame, hseq, hseq']
    · cases hnext
  · cases hheld

/-- What the slots keep of the frames that came since they were emptied. -/
structure Slots (frames : List VelocityFrame) (state : Ingress) : Prop where
  release : state.releaseFrame = (frames.filter isRelease).getLast?
  filled : frames ≠ [] → state.releaseFrame ≠ none ∨ state.latestFrame ≠ none
  motion : ∀ frame, state.latestFrame = some frame → frame ∈ frames ∧ frame.isRelease = false
  apart : ∀ frame release, state.latestFrame = some frame → state.releaseFrame = some release →
    release.sameSession frame = false
  highest : ∀ frame session, state.latestFrame = some frame →
    (∀ other ∈ frames, other.ofSession session = true ∧ other.seq.isSome = true) →
    ∀ other ∈ frames, ∀ next held, other.seq = some next → frame.seq = some held → next ≤ held

theorem Slots.release_mem {frames : List VelocityFrame} (h : Slots frames state)
    {release : VelocityFrame} (hrelease : state.releaseFrame = some release) :
    release ∈ frames ∧ release.isRelease = true := by
  rw [h.release] at hrelease
  exact List.mem_filter.mp (List.mem_of_getLast? hrelease)

/-- Frames of one session that leave a motion frame have no release among them. -/
theorem Slots.release_eq_none {frames : List VelocityFrame} (h : Slots frames state)
    {frame : VelocityFrame} {session : String} (hlatest : state.latestFrame = some frame)
    (hsession : ∀ other ∈ frames, other.ofSession session = true) : state.releaseFrame = none := by
  cases hrelease : state.releaseFrame with
  | none => rfl
  | some release =>
    have hsame := sameSession_of_ofSession (hsession release (h.release_mem hrelease).1)
      (hsession frame (h.motion frame hlatest).1)
    rw [h.apart frame release hlatest hrelease] at hsame
    cases hsame

theorem slots_release {frames : List VelocityFrame} {frame : VelocityFrame}
    (hframe : frame.isRelease = true) : Slots (frames ++ [frame]) (state.storeFrame frame) := by
  rw [storeFrame_of_release hframe]
  refine ⟨?_, ?_, nofun, nofun, nofun⟩
  · simp [hframe]
  · intro _
    exact Or.inl (by simp)

/-- A frame that is not stored leaves the slots as they were. -/
theorem slots_kept {frames : List VelocityFrame} (h : Slots frames state)
    {frame : VelocityFrame} (hframe : frame.isRelease = false)
    (hkept : state.releaseFrame ≠ none ∨ state.latestFrame ≠ none)
    (hhighest : ∀ held session, state.latestFrame = some held →
      (∀ other ∈ frames ++ [frame], other.ofSession session = true ∧ other.seq.isSome = true) →
      ∀ next last, frame.seq = some next → held.seq = some last → next ≤ last) :
    Slots (frames ++ [frame]) state := by
  constructor
  · simpa [hframe] using h.release
  · intro _
    exact hkept
  · intro held hlatest
    obtain ⟨hmem, hmotion⟩ := h.motion held hlatest
    exact ⟨List.mem_append_left _ hmem, hmotion⟩
  · exact h.apart
  · intro held session hlatest hsession other hother next last hnext hlast
    rcases List.mem_append.mp hother with hother | hother
    · exact h.highest held session hlatest (fun other hother =>
        hsession other (List.mem_append_left _ hother)) other hother next last hnext hlast
    · obtain rfl := List.mem_singleton.mp hother
      exact hhighest held session hlatest hsession next last hnext hlast

theorem slots_motion {frames : List VelocityFrame} (h : Slots frames state)
    {frame : VelocityFrame} (hframe : frame.isRelease = false) :
    Slots (frames ++ [frame]) (state.storeFrame frame) := by
  rw [storeFrame_of_motion hframe]
  by_cases hreleased : state.releaseFrame.any (fun release => release.sameSession frame) = true
  · rw [if_pos hreleased]
    obtain ⟨release, hrelease, -⟩ := Option.any_eq_true _ _ |>.mp hreleased
    apply slots_kept h hframe (Or.inl (by simp [hrelease]))
    intro held session hlatest hsession
    have hnone := h.release_eq_none hlatest fun other hother =>
      (hsession other (List.mem_append_left _ hother)).1
    rw [hrelease] at hnone
    cases hnone
  · rw [if_neg hreleased]
    by_cases hovertaken :
        state.latestFrame.any (fun previous => overtaken previous.data frame.data) = true
    · rw [if_pos hovertaken]
      obtain ⟨previous, hprevious, hlater⟩ := Option.any_eq_true _ _ |>.mp hovertaken
      apply slots_kept h hframe (Or.inr (by simp [hprevious]))
      intro held session hlatest hsession next last hnext hlast
      obtain rfl := Option.some.inj (hprevious.symm.trans hlatest)
      have hheld := (hsession previous (List.mem_append_left _ (h.motion _ hlatest).1)).1
      exact (overtaken_iff hheld (hsession frame (by simp)).1 hlast hnext).mp hlater
    · rw [if_neg hovertaken]
      constructor
      · simpa [hframe] using h.release
      · intro _
        exact Or.inr (by simp)
      · rintro _ ⟨⟩
        exact ⟨by simp, hframe⟩
      · rintro _ release ⟨⟩ hrelease
        rw [hrelease] at hreleased
        simpa using hreleased
      · rintro _ session ⟨⟩ hsession other hother next last hnext hlast
        rcases List.mem_append.mp hother with hother | hother
        · have hold (other) (hother : other ∈ frames) :=
            hsession other (List.mem_append_left _ hother)
          have hnew := (hsession frame (by simp)).1
          rcases h.filled (List.ne_nil_of_mem hother) with hrelease | hlatest
          · obtain ⟨release, hrelease⟩ := Option.ne_none_iff_exists'.mp hrelease
            have hsame := sameSession_of_ofSession (hold release (h.release_mem hrelease).1).1 hnew
            exact absurd (by simp [hrelease, hsame]) hreleased
          · obtain ⟨previous, hprevious⟩ := Option.ne_none_iff_exists'.mp hlatest
            obtain ⟨hheld, hnumbered⟩ := hold previous (h.motion previous hprevious).1
            obtain ⟨held, hseq⟩ := Option.isSome_iff_exists.mp hnumbered
            have hle := h.highest previous session hprevious hold other hother next held hnext hseq
            have hlt : ¬last ≤ held := by
              intro hle
              have hlater := (overtaken_iff hheld hnew hseq hlast).mpr hle
              exact hovertaken (by simp [hprevious, hlater])
            omega
        · obtain rfl := List.mem_singleton.mp hother
          rw [hnext] at hlast
          exact le_of_eq (Option.some.inj hlast)

theorem slots_storeFrame {frames : List VelocityFrame} (h : Slots frames state)
    (frame : VelocityFrame) : Slots (frames ++ [frame]) (state.storeFrame frame) := by
  cases hframe : frame.isRelease with
  | true => exact slots_release hframe
  | false => exact slots_motion h hframe

/-! ### A run between two drains -/

/-- The frames an event brings to the slots. -/
def receivedBy (state : Ingress) : IngressEvent → List VelocityFrame
  | .enqueueTeleop data sent wall now => (state.freshFrame data sent wall now).toList
  | _ => []

/-- The frames a run brings to the slots. -/
def received (repr : Json → String) (fittings : Fittings) (state : Ingress) :
    List IngressEvent → List VelocityFrame
  | [] => []
  | event :: events =>
    state.receivedBy event ++ received repr fittings (state.step repr fittings event).1 events

/-- An event on one connection that begins no drain. -/
def quiet : IngressEvent → Bool
  | .begin => false
  | .advance => false
  | .disconnected => false
  | _ => true

variable {repr : Json → String} {fittings : Fittings}

theorem Slots.congr {frames : List VelocityFrame} {next : Ingress} (h : Slots frames state)
    (hlatest : next.latestFrame = state.latestFrame)
    (hrelease : next.releaseFrame = state.releaseFrame) : Slots frames next := by
  constructor
  · exact hrelease.trans h.release
  · rw [hlatest, hrelease]
    exact h.filled
  · rw [hlatest]
    exact h.motion
  · rw [hlatest, hrelease]
    exact h.apart
  · rw [hlatest]
    exact h.highest

/-- An event that is not about the slots leaves them and the connection alone. -/
theorem slots_unchanged {event : IngressEvent} (hquiet : quiet event = true)
    (hother : ∀ data sent wall now, event ≠ .enqueueTeleop data sent wall now) :
    (state.step repr fittings event).1.latestFrame = state.latestFrame ∧
      (state.step repr fittings event).1.releaseFrame = state.releaseFrame ∧
      (state.step repr fittings event).1.connectionGeneration = state.connectionGeneration := by
  cases event with
  | enqueueTeleop data sent wall now => exact absurd rfl (hother data sent wall now)
  | enqueueCommand data now =>
    simp only [step, enqueueCommand]
    split <;> simp
  | advance => cases hquiet
  | setConnected connected => simp [step]
  | disconnected => cases hquiet
  | «begin» => cases hquiet
  | pop reading =>
    simp only [step]
    split <;> simp
  | handRelease =>
    simp only [step]
    split <;> simp
  | handSample =>
    simp only [step]
    split <;> simp

theorem generation_storeFrame (frame : VelocityFrame) :
    (state.storeFrame frame).connectionGeneration = state.connectionGeneration := by
  unfold storeFrame
  split
  · rfl
  · split
    · rfl
    · split <;> rfl

theorem drain_storeFrame (frame : VelocityFrame) :
    (state.storeFrame frame).drain = state.drain := by
  unfold storeFrame
  split
  · rfl
  · split
    · rfl
    · split <;> rfl

theorem slots_step {frames : List VelocityFrame} (h : Slots frames state) {event : IngressEvent}
    (hquiet : quiet event = true) :
    Slots (frames ++ state.receivedBy event) (state.step repr fittings event).1 ∧
      (state.step repr fittings event).1.connectionGeneration = state.connectionGeneration := by
  by_cases hteleop : ∃ data sent wall now, event = .enqueueTeleop data sent wall now
  · obtain ⟨data, sent, wall, now, rfl⟩ := hteleop
    simp only [step, receivedBy, enqueueTeleop]
    cases state.freshFrame data sent wall now with
    | none => simpa using h
    | some frame => exact ⟨slots_storeFrame h frame, generation_storeFrame frame⟩
  · have hother : ∀ data sent wall now, event ≠ .enqueueTeleop data sent wall now := by
      intro data sent wall now hevent
      exact hteleop ⟨data, sent, wall, now, hevent⟩
    have hnone : state.receivedBy event = [] := by
      cases event <;> first | rfl | exact absurd rfl (hother _ _ _ _)
    obtain ⟨hlatest, hrelease, hgeneration⟩ :=
      @slots_unchanged state repr fittings event hquiet hother
    rw [hnone, List.append_nil]
    exact ⟨h.congr hlatest hrelease, hgeneration⟩

/-- The frames of a connection carry its generation. -/
theorem generation_receivedBy {event : IngressEvent} {frame : VelocityFrame}
    (h : frame ∈ state.receivedBy event) : frame.generation = state.connectionGeneration := by
  cases event with
  | enqueueTeleop data sent wall now =>
    simp only [receivedBy, Option.mem_toList] at h
    unfold freshFrame at h
    split at h
    · split at h
      · cases h
        rfl
      · cases h
    · cases h
  | _ => cases h

/-- Over a run that begins no drain the slots keep what they keep of all its frames. -/
theorem slots_run {frames : List VelocityFrame} (h : Slots frames state)
    {events : List IngressEvent} (hquiet : ∀ event ∈ events, quiet event = true) :
    Slots (frames ++ received repr fittings state events)
        ((ingress repr fittings).run state events) ∧
      ((ingress repr fittings).run state events).connectionGeneration =
        state.connectionGeneration ∧
      ∀ frame ∈ received repr fittings state events,
        frame.generation = state.connectionGeneration := by
  induction events generalizing frames state with
  | nil => simpa [received] using h
  | cons event events ih =>
    obtain ⟨hslots, hgeneration⟩ :=
      @slots_step state repr fittings frames h event (hquiet event (by simp))
    obtain ⟨hrest, hsame, hframes⟩ := ih hslots fun event hevent => hquiet event (by simp [hevent])
    rw [List.append_assoc] at hrest
    refine ⟨hrest, hsame.trans hgeneration, ?_⟩
    intro frame hframe
    rcases List.mem_append.mp hframe with hframe | hframe
    · exact generation_receivedBy hframe
    · exact (hframes frame hframe).trans hgeneration

/-! ### What a drain hands over -/

/-- The frames of the slots: they come when a drain takes them and leave when it hands
    them over, if they came by the present connection. -/
def frameFlow (fittings : Fittings) :
    ItemFlow Ingress IngressEvent IngressOutput VelocityFrame where
  content state :=
    match state.drain with
    | .idle => []
    | .commands release sample => state.passing fittings release ++ state.passing fittings sample
    | .sample sample => state.passing fittings sample
  arrivals state event :=
    match event, state.drain with
    | .begin, .idle =>
      state.passing fittings state.releaseFrame ++ state.passing fittings state.latestFrame
    | _, _ => []
  departures output :=
    match output with
    | .frame frame => [frame]
    | _ => []

theorem content_of_idle (h : state.drain = .idle) : (frameFlow fittings).content state = [] := by
  simp [frameFlow, h]

theorem frames_dispatch (reading : Reading) (data : Fields) :
    (state.dispatch repr fittings reading data).flatMap (frameFlow fittings).departures = [] := by
  unfold dispatch
  split
  · rfl
  · split
    · split <;> rfl
    · rfl

theorem frames_hand (frame : Option VelocityFrame) :
    (state.hand fittings frame).flatMap (frameFlow fittings).departures =
      state.passing fittings frame := by
  simp [hand, List.flatMap_map, frameFlow]

/-- On one connection a drain hands over what it has taken. -/
theorem frames_conserved (event : IngressEvent) (h : event ≠ .advance) :
    (frameFlow fittings).Conserves (ingress repr fittings) state event := by
  unfold ItemFlow.Conserves
  cases event with
  | advance => exact absurd rfl h
  | enqueueCommand data now =>
    simp only [ingress, step, enqueueCommand]
    split <;> simp [frameFlow, passing]
  | enqueueTeleop data sent wall now =>
    have hdrain : (state.enqueueTeleop data sent wall now).drain = state.drain := by
      unfold enqueueTeleop
      split
      · exact drain_storeFrame _
      · rfl
    have hgeneration : (state.enqueueTeleop data sent wall now).connectionGeneration =
        state.connectionGeneration := by
      unfold enqueueTeleop
      split
      · exact generation_storeFrame _
      · rfl
    simp [ingress, step, frameFlow, passing, hdrain, hgeneration]
  | setConnected connected => simp [ingress, step, frameFlow, passing]
  | disconnected => simp [ingress, step, frameFlow, passing, teleopDisconnected]
  | «begin» =>
    cases hdrain : state.drain with
    | idle =>
      simp only [ingress, step, hdrain, beginDrain]
      split <;> simp [frameFlow, passing, hdrain]
    | commands release sample => simp [ingress, step, hdrain, frameFlow]
    | sample sample => simp [ingress, step, hdrain, frameFlow]
  | pop reading =>
    simp only [ingress, step]
    split
    · rename_i hdrain _
      rw [frames_dispatch]
      simp [frameFlow, passing, hdrain]
    · simp [frameFlow]
  | handRelease =>
    simp only [ingress, step]
    split
    · rename_i hdrain _
      rw [frames_hand]
      simp [frameFlow, passing, hdrain]
    · simp [frameFlow]
  | handSample =>
    simp only [ingress, step]
    split
    · rename_i hdrain
      rw [frames_hand]
      simp [frameFlow, passing, hdrain]
    · simp [frameFlow]

/-- A run that begins no drain takes nothing from the slots. -/
theorem arrived_eq_nil {events : List IngressEvent}
    (hquiet : ∀ event ∈ events, quiet event = true) :
    (frameFlow fittings).arrived (ingress repr fittings) state events = [] := by
  induction events generalizing state with
  | nil => rfl
  | cons event events ih =>
    have hfirst : (frameFlow fittings).arrivals state event = [] := by
      have hevent := hquiet event (by simp)
      cases event <;> first | rfl | cases hevent
    simp only [ItemFlow.arrived, hfirst, List.nil_append]
    exact ih fun event hevent => hquiet event (by simp [hevent])

/-! ### Frames of another connection -/

/-- The frames a drain has taken and not handed over. -/
def taken : Drain → List VelocityFrame
  | .idle => []
  | .commands release sample => release.toList ++ sample.toList
  | .sample sample => sample.toList

/-- Every frame of the ingress. -/
def held (state : Ingress) : List VelocityFrame :=
  state.latestFrame.toList ++ state.releaseFrame.toList ++ taken state.drain

theorem mem_held {frame : VelocityFrame} :
    frame ∈ held state ↔ state.latestFrame = some frame ∨ state.releaseFrame = some frame ∨
      frame ∈ taken state.drain := by
  simp [held]

theorem held_storeFrame {frame other : VelocityFrame} (h : other ∈ held (state.storeFrame frame)) :
    other ∈ held state ∨ other = frame := by
  rw [mem_held] at h ⊢
  rw [drain_storeFrame] at h
  unfold storeFrame at h
  split at h
  · rcases h with h | h | h
    · cases h
    · exact Or.inr (Option.some.inj h).symm
    · exact Or.inl (Or.inr (Or.inr h))
  · split at h
    · exact Or.inl h
    · split at h
      · exact Or.inl h
      · rcases h with h | h | h
        · exact Or.inr (Option.some.inj h).symm
        · exact Or.inl (Or.inr (Or.inl h))
        · exact Or.inl (Or.inr (Or.inr h))

/-- The frames held after a step were held before it or came with it. -/
theorem held_step (event : IngressEvent) {frame : VelocityFrame}
    (h : frame ∈ held (state.step repr fittings event).1) :
    frame ∈ held state ∨ frame ∈ state.receivedBy event := by
  cases event with
  | enqueueCommand data now =>
    simp only [step, enqueueCommand] at h
    split at h <;> exact Or.inl h
  | enqueueTeleop data sent wall now =>
    simp only [step, enqueueTeleop, receivedBy] at h ⊢
    cases hfresh : state.freshFrame data sent wall now with
    | none => exact Or.inl (by simpa [hfresh] using h)
    | some fresh =>
      rw [hfresh] at h
      simpa using held_storeFrame h
  | advance => exact Or.inl h
  | setConnected connected => exact Or.inl h
  | disconnected =>
    refine Or.inl (mem_held.mpr (Or.inr (Or.inr ?_)))
    simpa [step, teleopDisconnected, held] using h
  | «begin» =>
    simp only [step] at h
    split at h
    · rename_i hdrain
      refine Or.inl (mem_held.mpr ?_)
      simp only [beginDrain, held, taken, Option.toList_none, List.nil_append, List.mem_append,
        Option.mem_toList] at h
      rcases h with h | h
      · exact Or.inr (Or.inl h)
      · exact Or.inl h
    · exact Or.inl h
  | pop reading =>
    simp only [step] at h
    split at h <;> exact Or.inl h
  | handRelease =>
    simp only [step] at h
    split at h
    · rename_i release sample hdrain _
      rw [mem_held] at h
      refine Or.inl (mem_held.mpr ?_)
      rw [hdrain]
      exact h.imp_right (Or.imp_right fun h => List.mem_append_right _ h)
    · exact Or.inl h
  | handSample =>
    simp only [step] at h
    split at h
    · rw [mem_held] at h
      refine Or.inl (mem_held.mpr ?_)
      exact h.imp_right (Or.imp_right fun h => absurd h List.not_mem_nil)
    · exact Or.inl h

/-- A frame handed over was held, and came by the present connection. -/
theorem handed_step (event : IngressEvent) {frame : VelocityFrame}
    (h : frame ∈ (state.step repr fittings event).2.flatMap (frameFlow fittings).departures) :
    frame ∈ held state ∧ frame.generation = state.connectionGeneration := by
  have hpassing {slot : Option VelocityFrame} (h : frame ∈ state.passing fittings slot) :
      slot = some frame ∧ frame.generation = state.connectionGeneration := by
    obtain ⟨hslot, hpass⟩ := List.mem_filter.mp h
    rw [Bool.and_eq_true, beq_iff_eq] at hpass
    exact ⟨Option.mem_toList.mp hslot, hpass.2⟩
  cases event with
  | enqueueCommand data now => cases h
  | enqueueTeleop data sent wall now => cases h
  | advance => cases h
  | setConnected connected => cases h
  | disconnected => cases h
  | «begin» =>
    simp only [step] at h
    split at h
    · simp only [beginDrain] at h
      split at h <;> cases h
    · cases h
  | pop reading =>
    simp only [step] at h
    split at h
    · rw [frames_dispatch] at h
      cases h
    · cases h
  | handRelease =>
    simp only [step] at h
    split at h
    · rename_i release sample hdrain _
      rw [frames_hand] at h
      obtain ⟨rfl, hgeneration⟩ := hpassing h
      exact ⟨mem_held.mpr (Or.inr (Or.inr (by simp [hdrain, taken]))), hgeneration⟩
    · cases h
  | handSample =>
    simp only [step] at h
    split at h
    · rename_i sample hdrain
      rw [frames_hand] at h
      obtain ⟨rfl, hgeneration⟩ := hpassing h
      exact ⟨mem_held.mpr (Or.inr (Or.inr (by simp [hdrain, taken]))), hgeneration⟩
    · cases h

theorem generation_step (event : IngressEvent) :
    state.connectionGeneration ≤ (state.step repr fittings event).1.connectionGeneration := by
  cases event with
  | advance => exact Nat.le_succ _
  | enqueueTeleop data sent wall now =>
    simp only [step, enqueueTeleop]
    split
    · exact (generation_storeFrame _).ge
    · exact le_rfl
  | disconnected => exact le_rfl
  | «begin» =>
    simp only [step]
    split <;> exact le_rfl
  | enqueueCommand data now => exact (slots_unchanged (by rfl) (by simp)).2.2.ge
  | setConnected connected => exact le_rfl
  | pop reading => exact (slots_unchanged (by rfl) (by simp)).2.2.ge
  | handRelease => exact (slots_unchanged (by rfl) (by simp)).2.2.ge
  | handSample => exact (slots_unchanged (by rfl) (by simp)).2.2.ge

/-- No frame held is of a later connection. -/
theorem generation_le_run {events : List IngressEvent} {frame : VelocityFrame}
    (h : frame ∈ held ((ingress repr fittings).run {} events)) :
    frame.generation ≤ ((ingress repr fittings).run {} events).connectionGeneration := by
  have hinv := (ingress repr fittings).invariant
    (fun state => ∀ frame ∈ held state, frame.generation ≤ state.connectionGeneration) ?_ ?_
    ((ingress repr fittings).along_true {} events)
  · exact hinv frame h
  · intro state event _ hstate frame hframe
    have hmono := @generation_step state repr fittings event
    rcases held_step event hframe with hframe | hframe
    · exact (hstate frame hframe).trans hmono
    · exact (generation_receivedBy hframe).le.trans hmono
  · intro frame hframe
    cases hframe

/-- While the frames held that have not come since some time are of an earlier connection,
    only frames that have come since are handed over. -/
theorem handed_since {known : List VelocityFrame}
    (h : ∀ frame ∈ held state, frame.generation < state.connectionGeneration ∨ frame ∈ known)
    {events : List IngressEvent} {frame : VelocityFrame}
    (hframe : frame ∈ (frameFlow fittings).departed (ingress repr fittings) state events) :
    frame ∈ known ++ received repr fittings state events := by
  induction events generalizing known state with
  | nil => cases hframe
  | cons event events ih =>
    rcases List.mem_append.mp hframe with hframe | hframe
    · obtain ⟨hheld, hgeneration⟩ := handed_step event hframe
      rcases h frame hheld with hearlier | hknown
      · omega
      · exact List.mem_append_left _ hknown
    · have hnext := @ih ((ingress repr fittings).step state event).1
        (known ++ state.receivedBy event) ?_ hframe
      · simpa [received, ingress] using hnext
      · intro frame hframe
        have hmono := @generation_step state repr fittings event
        rcases held_step event hframe with hheld | hreceived
        · rcases h frame hheld with hearlier | hknown
          · exact Or.inl (lt_of_lt_of_le hearlier hmono)
          · exact Or.inr (List.mem_append_left _ hknown)
        · exact Or.inr (List.mem_append_right _ hreceived)

end Ingress

open Ingress

/-- Velocity frames between two drains on one connection: the slots are empty after the
    one, the other finds the frames of the window in them, and hands over what it has
    taken before it ends. -/
structure Round (repr : Json → String) (fittings : Fittings) where
  start : Ingress
  window : List IngressEvent
  rest : List IngressEvent
  manual : fittings.teleop = true
  emptied : start.latestFrame = none ∧ start.releaseFrame = none
  connected : ∀ event ∈ window ++ rest, quiet event = true
  idle : ((ingress repr fittings).run start window).drain.isIdle = true
  ended : ((ingress repr fittings).run start (window ++ .begin :: rest)).drain.isIdle = true

namespace Round

variable {repr : Json → String} {fittings : Fittings} (round : Round repr fittings)

/-- The frames enqueued in the window. -/
def frames : List VelocityFrame :=
  received repr fittings round.start round.window

/-- The state the drain begins in. -/
def collected : Ingress :=
  (ingress repr fittings).run round.start round.window

/-- The frames the drain hands to `TeleopSession.frame`, in that order. -/
def handed : List VelocityFrame :=
  (frameFlow fittings).departed (ingress repr fittings) round.collected (.begin :: round.rest)

theorem slots_collected :
    Slots round.frames round.collected ∧
      ∀ frame ∈ round.frames, frame.generation = round.collected.connectionGeneration := by
  have hnone : Slots [] round.start := by
    obtain ⟨hlatest, hrelease⟩ := round.emptied
    exact ⟨hrelease, by simp, by simp [hlatest], by simp [hlatest], by simp [hlatest]⟩
  have hwindow : ∀ event ∈ round.window, quiet event = true :=
    fun event hevent => round.connected event (List.mem_append_left _ hevent)
  obtain ⟨hslots, hgeneration, hframes⟩ := @slots_run round.start repr fittings [] hnone _ hwindow
  exact ⟨hslots, fun frame hframe => (hframes frame hframe).trans hgeneration.symm⟩

theorem passing_eq {slot : Option VelocityFrame}
    (h : ∀ frame, slot = some frame → frame ∈ round.frames) :
    round.collected.passing fittings slot = slot.toList := by
  cases slot with
  | none => rfl
  | some frame =>
    have hgeneration := round.slots_collected.2 frame (h frame rfl)
    simp [passing, round.manual, hgeneration]

/-- The drain hands over what the slots have kept: the release, then the sample. -/
theorem handed_eq :
    round.handed = round.collected.releaseFrame.toList ++ round.collected.latestFrame.toList := by
  have hrest : ∀ event ∈ round.rest, quiet event = true :=
    fun event hevent => round.connected event (List.mem_append_right _ hevent)
  have hconnected : ∀ event ∈ IngressEvent.begin :: round.rest, event ≠ .advance := by
    intro event hevent
    rcases List.mem_cons.mp hevent with rfl | hevent
    · simp
    · rintro rfl
      cases hrest _ hevent
  have hconserved := ItemFlow.conserved (fun _ event h => frames_conserved event h)
    (@Machine.along_of_mem _ _ _ (ingress repr fittings) _ round.collected _ hconnected)
  have hidle : round.collected.drain = .idle := Drain.eq_idle round.idle
  have hended :
      ((ingress repr fittings).run round.collected (.begin :: round.rest)).drain = .idle := by
    have hended := Drain.eq_idle round.ended
    rwa [Machine.run_append] at hended
  have hbefore : (frameFlow fittings).content round.collected = [] := content_of_idle hidle
  have hafter : (frameFlow fittings).content
      ((ingress repr fittings).run round.collected (.begin :: round.rest)) = [] :=
    content_of_idle hended
  have harrived : (frameFlow fittings).arrived (ingress repr fittings) round.collected
      (.begin :: round.rest) =
      round.collected.passing fittings round.collected.releaseFrame ++
        round.collected.passing fittings round.collected.latestFrame := by
    rw [ItemFlow.arrived, arrived_eq_nil hrest]
    simp [frameFlow, hidle]
  rw [hbefore, hafter, harrived, List.append_nil, List.nil_append] at hconserved
  obtain ⟨hslots, -⟩ := round.slots_collected
  rw [round.passing_eq fun frame h => (hslots.release_mem h).1,
    round.passing_eq fun frame h => (hslots.motion frame h).1] at hconserved
  exact hconserved

/-- What a round owes a session: if a release of the session came, a release of it is
    handed over and no motion of it; otherwise at most one motion frame is handed over,
    which of numbered frames of one session is not before any of them. -/
structure Delivers (session : String) : Prop where
  released : (∃ frame ∈ round.frames, frame.isRelease = true ∧ frame.ofSession session = true) →
    (∃ frame ∈ round.handed, frame.isRelease = true ∧ frame.ofSession session = true) ∧
      ∀ frame ∈ round.handed, frame.ofSession session = true → frame.isRelease = true
  single : (round.handed.filter fun frame => !frame.isRelease).length ≤ 1
  highest : ∀ one, (∀ frame ∈ round.frames, frame.ofSession one = true ∧ frame.seq.isSome = true) →
    ∀ frame ∈ round.handed, frame.isRelease = false → ∀ other ∈ round.frames, ∀ next held,
      other.seq = some next → frame.seq = some held → next ≤ held

/-- If a release of the session came, the last release that came is one of it. -/
def ReleasedLast (session : String) : Prop :=
  (∃ frame ∈ round.frames, frame.isRelease = true ∧ frame.ofSession session = true) →
    ∃ frame, (round.frames.filter isRelease).getLast? = some frame ∧ frame.ofSession session = true

theorem mem_handed_iff {frame : VelocityFrame} :
    frame ∈ round.handed ↔
      round.collected.releaseFrame = some frame ∨ round.collected.latestFrame = some frame := by
  simp [round.handed_eq]

theorem delivers_iff (session : String) :
    round.Delivers session ↔ round.ReleasedLast session := by
  obtain ⟨hslots, -⟩ := round.slots_collected
  constructor
  · intro h hcame
    obtain ⟨frame, hframe, hrelease, hsession⟩ := (h.released hcame).1
    refine ⟨frame, ?_, hsession⟩
    rw [← hslots.release]
    rcases round.mem_handed_iff.mp hframe with hlast | hlatest
    · exact hlast
    · rw [(hslots.motion frame hlatest).2] at hrelease
      cases hrelease
  · intro h
    constructor
    · intro hcame
      obtain ⟨last, hlast, hsession⟩ := h hcame
      rw [← hslots.release] at hlast
      refine ⟨⟨last, round.mem_handed_iff.mpr (Or.inl hlast), (hslots.release_mem hlast).2,
        hsession⟩, ?_⟩
      intro frame hframe hown
      rcases round.mem_handed_iff.mp hframe with hrelease | hlatest
      · exact (hslots.release_mem hrelease).2
      · have hsame := sameSession_of_ofSession hsession hown
        rw [hslots.apart frame last hlatest hlast] at hsame
        cases hsame
    · have hrelease : round.collected.releaseFrame.toList.filter (fun frame => !frame.isRelease) =
          [] := by
        rw [List.filter_eq_nil_iff]
        intro frame hframe
        simp [(hslots.release_mem (Option.mem_toList.mp hframe)).2]
      rw [round.handed_eq, List.filter_append, hrelease, List.nil_append]
      apply (List.length_filter_le _ _).trans
      cases round.collected.latestFrame <;> simp
    · intro one hone frame hframe hmotion other hother next held hnext hheld
      rcases round.mem_handed_iff.mp hframe with hrelease | hlatest
      · rw [(hslots.release_mem hrelease).2] at hmotion
        cases hmotion
      · exact hslots.highest frame one hlatest hone other hother next held hnext hheld

end Round

/-- On one connection a drain gives a session its release, and no motion of it, exactly if
    the last release that came since the drain before is of that session, and always at
    most one motion frame, the highest of a single session; and after a disconnect no
    frame from before it is handed over. -/
theorem velocity_run (repr : Json → String) (fittings : Fittings) :
    (∀ (round : Round repr fittings) (session : String),
      round.Delivers session ↔ round.ReleasedLast session) ∧
    ∀ earlier later,
      let state := (ingress repr fittings).run {} (earlier ++ [.advance])
      ∀ frame ∈ (frameFlow fittings).departed (ingress repr fittings) state later,
        frame ∈ received repr fittings state later := by
  refine ⟨fun round session => round.delivers_iff session, ?_⟩
  intro earlier later state frame hframe
  have hearlier : ∀ frame ∈ held state, frame.generation < state.connectionGeneration := by
    intro frame hheld
    have hstate : state = { (ingress repr fittings).run {} earlier with
        connectionGeneration :=
          ((ingress repr fittings).run {} earlier).connectionGeneration + 1 } := by
      simp [state, Machine.run_append, ingress, step]
    rw [hstate] at hheld ⊢
    exact Nat.lt_succ_of_le (generation_le_run hheld)
  have hsince := @handed_since state repr fittings []
    (fun frame hheld => Or.inl (hearlier frame hheld)) later frame hframe
  simpa using hsince

/-- A frame of a session that lets go. -/
def releaseFrame (session : String) : IngressEvent :=
  .enqueueTeleop (.obj [("command_id", .str session), ("seq", .int 7), ("linear", .int 0),
    ("angular", .int 0), ("deadman", .bool false)]) (some 10) 10 1

/-- The active session `A` lets go, then a frame lets go of `B`. -/
def overwritten : Round (fun _ => "") ⟨true, true, true⟩ where
  start := {}
  window := [releaseFrame "A", releaseFrame "B"]
  rest := [.handRelease, .handSample]
  manual := rfl
  emptied := ⟨rfl, rfl⟩
  connected := by decide
  idle := by decide +kernel
  ended := by decide +kernel

/-- No release of `A` is handed over. -/
theorem not_velocity :
    overwritten.frames.any (fun frame => frame.isRelease && frame.ofSession "A") = true ∧
      overwritten.handed.any (fun frame => frame.ofSession "A") = false := by
  decide +kernel

end PatrolBot.Bridge
