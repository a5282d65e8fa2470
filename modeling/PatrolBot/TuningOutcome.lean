import PatrolBot.TuningBroker

/-!
# What a tuning request may answer

Once the frame of a change may have left, its request claims nothing the robot
did not say: it ends as unknown, or with a validated reply to its id that came
on the session and the websocket it was sent on.  One change is in flight for a
robot, and the requests in flight are bounded.
-/

namespace PatrolBot.Tuning

namespace Broker

/-! ### What a step does to the tasks -/

/-- The same task, at another stage or with its future done. -/
structure SameTask (entry next : Pending) : Prop where
  call : next.call = entry.call
  requestId : next.requestId = entry.requestId
  robotId : next.robotId = entry.robotId
  session : next.session = entry.session
  generation : next.generation = entry.generation
  websocket : next.websocket = entry.websocket
  mutation : next.mutation = entry.mutation

theorem SameTask.rfl {entry : Pending} : SameTask entry entry :=
  ⟨Eq.refl _, Eq.refl _, Eq.refl _, Eq.refl _, Eq.refl _, Eq.refl _, Eq.refl _⟩

/-- A result the robot's side may give a task: the sentinel, an unknown outcome,
    or a reply to its id received on its session and websocket. -/
def Granted (emits : List BrokerEmit) (entry : Pending) : Option TuningResponse → Prop
  | none => True
  | some response => response.outcome = "unknown" ∨
      response.requestId = entry.requestId ∧
        ∃ at', .received entry.session entry.generation entry.websocket response at' ∈ emits

/-- The task was there before, and its future at most was done by the step. -/
def Inherited (b : Broker) (emits : List BrokerEmit) (next : Pending) : Prop :=
  ∃ entry ∈ b.pending, SameTask entry next ∧
    (next.future = entry.future ∨ ∃ result, next.future = some result ∧ Granted emits entry result)

/-- The task is that of a frame sent by the step. -/
def Begun (b : Broker) (emits : List BrokerEmit) (next : Pending) : Prop :=
  next.call = b.calls ∧ next.future = none ∧ ∃ wrapper,
    .sent next.call next.session next.generation next.websocket next.requestId next.mutation
      wrapper ∈ emits

/-- What a step may do to the tasks and say of them. -/
structure Tells (b : Broker) (result : Broker × List BrokerEmit) : Prop where
  calls_le : b.calls ≤ result.1.calls
  tasks : ∀ next ∈ result.1.pending, Inherited b result.2 next ∨ Begun b result.2 next
  sent : ∀ call session generation websocket requestId mutation wrapper,
    .sent call session generation websocket requestId mutation wrapper ∈ result.2 →
      call = b.calls ∧ b.calls < result.1.calls ∧
        result.2 = [.sent call session generation websocket requestId mutation wrapper]
  returned : ∀ call response, .returned call response ∈ result.2 →
    ∃ entry ∈ b.pending, entry.call = call ∧
      (response.outcome = "unknown" ∨ entry.future = some (some response)) ∧
      (response.outcome = "ok" →
        b.bound entry.session entry.generation entry.websocket = true)
  refused : ∀ call failure, .refused call failure ∈ result.2 →
    call = b.calls ∨ ∃ entry ∈ b.pending, entry.call = call ∧ entry.mutation = false

/-- The tasks in flight: their ids differ, they are bounded, a change holds the
    lock of its robot and is alone there. -/
structure Sound (settings : BrokerSettings) (b : Broker) : Prop where
  ids : (b.pending.map Pending.requestId).Nodup
  capacity : b.pending.length ≤ settings.maxPending
  locked : ∀ entry ∈ b.pending, entry.mutation = true → entry.robotId ∈ b.locks
  alone : ((b.pending.filter Pending.mutation).map Pending.robotId).Nodup
  numbered : ∀ entry ∈ b.pending, entry.call < b.calls

/-! ### Changes of the list of tasks -/

section

variable {settings : BrokerSettings} {b next : Broker} {emits : List BrokerEmit}

/-- A step that speaks of no call and changes no list of tasks. -/
theorem tells_silent (hpending : next.pending = b.pending) (hcalls : next.calls = b.calls)
    (hemits : ∀ emit ∈ emits, (∃ session generation websocket reply at',
      emit = .received session generation websocket reply at') ∨ emit = .raised) :
    Tells b (next, emits) where
  calls_le := hcalls.ge
  tasks entry hentry := Or.inl ⟨entry, hpending ▸ hentry, SameTask.rfl, Or.inl rfl⟩
  sent _ _ _ _ _ _ _ hmem := by
    rcases hemits _ hmem with ⟨_, _, _, _, _, h⟩ | h <;> cases h
  returned _ _ hmem := by
    rcases hemits _ hmem with ⟨_, _, _, _, _, h⟩ | h <;> cases h
  refused _ _ hmem := by
    rcases hemits _ hmem with ⟨_, _, _, _, _, h⟩ | h <;> cases h

/-- Tasks that are changed in place. -/
theorem tells_map {change : Pending → Pending} (hpending : next.pending = b.pending.map change)
    (hcalls : next.calls = b.calls)
    (hchange : ∀ entry ∈ b.pending, SameTask entry (change entry) ∧
      ((change entry).future = entry.future ∨
        ∃ result, (change entry).future = some result ∧ Granted emits entry result))
    (hemits : ∀ emit ∈ emits, ∃ session generation websocket reply at',
      emit = .received session generation websocket reply at') :
    Tells b (next, emits) where
  calls_le := hcalls.ge
  tasks entry hentry := by
    have hentry : entry ∈ next.pending := hentry
    rw [hpending] at hentry
    obtain ⟨earlier, hearlier, rfl⟩ := List.mem_map.mp hentry
    exact Or.inl ⟨earlier, hearlier, hchange earlier hearlier⟩
  sent _ _ _ _ _ _ _ hmem := by
    obtain ⟨_, _, _, _, _, h⟩ := hemits _ hmem
    cases h
  returned _ _ hmem := by
    obtain ⟨_, _, _, _, _, h⟩ := hemits _ hmem
    cases h
  refused _ _ hmem := by
    obtain ⟨_, _, _, _, _, h⟩ := hemits _ hmem
    cases h

theorem sound_map {change : Pending → Pending} (h : Sound settings b)
    (hpending : next.pending = b.pending.map change) (hcalls : next.calls = b.calls)
    (hlocks : next.locks = b.locks) (hchange : ∀ entry ∈ b.pending, SameTask entry (change entry)) :
    Sound settings next := by
  constructor
  · have heq : next.pending.map Pending.requestId = b.pending.map Pending.requestId := by
      rw [hpending, List.map_map]
      exact List.map_congr_left fun entry hentry => (hchange entry hentry).requestId
    rw [heq]
    exact h.ids
  · rw [hpending, List.length_map]
    exact h.capacity
  · intro entry hentry hmutation
    rw [hpending] at hentry
    obtain ⟨earlier, hearlier, rfl⟩ := List.mem_map.mp hentry
    have hsame := hchange earlier hearlier
    rw [hlocks, hsame.robotId]
    exact h.locked earlier hearlier (hsame.mutation ▸ hmutation)
  · have heq : (next.pending.filter Pending.mutation).map Pending.robotId =
        (b.pending.filter Pending.mutation).map Pending.robotId := by
      rw [hpending, List.filter_map, List.map_map]
      have hfilter : b.pending.filter (Pending.mutation ∘ change) =
          b.pending.filter Pending.mutation :=
        List.filter_congr fun entry hentry => (hchange entry hentry).mutation
      rw [hfilter]
      exact List.map_congr_left fun entry hentry =>
        (hchange entry (List.mem_filter.mp hentry).1).robotId
    rw [heq]
    exact h.alone
  · intro entry hentry
    rw [hpending] at hentry
    obtain ⟨earlier, hearlier, rfl⟩ := List.mem_map.mp hentry
    rw [hcalls, (hchange earlier hearlier).call]
    exact h.numbered earlier hearlier

/-- The same tasks under the same locks, and no call forgotten. -/
theorem sound_still (h : Sound settings b) (hpending : next.pending = b.pending)
    (hcalls : b.calls ≤ next.calls) (hlocks : next.locks = b.locks) : Sound settings next := by
  obtain ⟨hids, hcapacity, hlocked, halone, hnumbered⟩ := h
  rw [← hpending] at hids hcapacity hlocked halone hnumbered
  rw [← hlocks] at hlocked
  exact ⟨hids, hcapacity, hlocked, halone, fun entry hentry =>
    lt_of_lt_of_le (hnumbered entry hentry) hcalls⟩

/-- The end of a task: its lock falls with it, and with no other task. -/
theorem sound_release {entry : Pending} (h : Sound settings b) (hentry : entry ∈ b.pending) :
    Sound settings (b.release entry) := by
  have hsub : ∀ other ∈ (b.release entry).pending, other ∈ b.pending := by
    intro other hother
    exact List.mem_of_mem_filter hother
  constructor
  · exact h.ids.sublist (List.filter_sublist.map _)
  · exact le_trans (List.length_filter_le _ _) h.capacity
  · intro other hother hmutation
    have hheld := h.locked other (hsub other hother) hmutation
    unfold release
    dsimp only
    split
    · rename_i hchange
      refine List.mem_filter.mpr ⟨hheld, ?_⟩
      -- Another change of the same robot would be the ended one itself.
      simp only [bne_iff_ne, ne_eq]
      intro hrobot
      have hne : other.requestId ≠ entry.requestId := by
        simpa using (List.mem_filter.mp hother).2
      have hsame := List.inj_on_of_nodup_map h.alone
        (List.mem_filter.mpr ⟨hsub other hother, hmutation⟩)
        (List.mem_filter.mpr ⟨hentry, hchange⟩) hrobot
      exact hne (congrArg Pending.requestId hsame)
    · exact hheld
  · exact h.alone.sublist ((List.filter_sublist.filter _).map _)
  · exact fun other hother => h.numbered other (hsub other hother)

theorem tells_release {entry : Pending} (hentry : entry ∈ b.pending)
    (hpending : next.pending = (b.release entry).pending) (hcalls : next.calls = b.calls)
    (hemits : ∀ emit ∈ emits,
      (∃ response, emit = .returned entry.call response ∧
        (response.outcome = "unknown" ∨ entry.future = some (some response)) ∧
        (response.outcome = "ok" →
          b.bound entry.session entry.generation entry.websocket = true)) ∨
      (∃ failure, emit = .refused entry.call failure ∧ entry.mutation = false)) :
    Tells b (next, emits) where
  calls_le := hcalls.ge
  tasks other hother := by
    have hother : other ∈ next.pending := hother
    rw [hpending] at hother
    exact Or.inl ⟨other, List.mem_of_mem_filter hother, SameTask.rfl, Or.inl rfl⟩
  sent _ _ _ _ _ _ _ hmem := by
    rcases hemits _ hmem with ⟨_, h, -⟩ | ⟨_, h, -⟩ <;> cases h
  returned call response hmem := by
    rcases hemits _ hmem with ⟨_, h, hfrom, hbound⟩ | ⟨_, h, -⟩
    · cases h
      exact ⟨entry, hentry, rfl, hfrom, hbound⟩
    · cases h
  refused call failure hmem := by
    rcases hemits _ hmem with ⟨_, h, -⟩ | ⟨_, h, hread⟩
    · cases h
    · cases h
      exact Or.inr ⟨entry, hentry, rfl, hread⟩

end

/-! ### The steps of a request -/

section

variable {settings : BrokerSettings} {b : Broker} {user : User} {robotId requestId : String}
variable {payload : Json} {answers : RequestAnswers} {request : List (String × Json)}
variable {entry : Pending} {wrapper : Json}

theorem pruneSeen_frame (reading : ℚ) :
    ∃ seen, b.pruneSeen settings reading = { b with seen := seen } ∧
      seen.length ≤ b.seen.length := by
  unfold pruneSeen
  split
  · exact ⟨b.seen, rfl, le_refl _⟩
  · exact ⟨_, rfl, (List.dropWhile_suffix _).length_le⟩

theorem remember_frame (stored pruned : ℚ) :
    ∃ seen, b.remember settings requestId stored pruned = { b with seen := seen } := by
  obtain ⟨seen, hseen, -⟩ := @pruneSeen_frame settings (b.store requestId stored) pruned
  unfold remember
  rw [hseen]
  exact ⟨_, rfl⟩

/-- The checks on the id leave all but the memory alone. -/
theorem checkDuplicate_frame (mutation : Bool) (reading : ℚ) :
    ∃ seen, (b.checkDuplicate settings requestId mutation reading).1 = { b with seen := seen } ∧
      seen.length ≤ b.seen.length := by
  unfold checkDuplicate
  split
  · exact ⟨b.seen, rfl, le_refl _⟩
  · split
    · obtain ⟨seen, hseen, hlength⟩ := @pruneSeen_frame settings b reading
      refine ⟨seen, ?_, hlength⟩
      dsimp only
      split <;> exact hseen
    · exact ⟨b.seen, rfl, le_refl _⟩

theorem fresh_of_checkDuplicate {mutation : Bool} {reading : ℚ}
    (h : (b.checkDuplicate settings requestId mutation reading).2 = none) :
    b.isPending requestId = false := by
  unfold checkDuplicate at h
  split at h
  · cases h
  · rename_i hfresh
    simpa using hfresh

theorem prepare_eq_ok (h : b.prepare settings user robotId request answers = .ok (entry, wrapper)) :
    entry.call = b.calls ∧ entry.requestId = requestIdOf request ∧ entry.robotId = robotId ∧
      entry.mutation = isMutationRequest request ∧ entry.future = none ∧ entry.stage = .sending ∧
      b.pending.length < settings.maxPending := by
  unfold prepare at h
  split at h
  · cases h
  · split at h
    · cases h
    · obtain ⟨_, _, h⟩ := bind_eq_ok.mp h
      obtain ⟨_, _, h⟩ := bind_eq_ok.mp h
      obtain ⟨_, hroom, h⟩ := bind_eq_ok.mp h
      obtain ⟨actor, _, h⟩ := bind_eq_ok.mp h
      obtain ⟨made, _, h⟩ := bind_eq_ok.mp h
      cases h
      refine ⟨rfl, rfl, rfl, rfl, rfl, rfl, ?_⟩
      by_contra hfull
      unfold checkRoom at hroom
      rw [if_pos (not_lt.mp hfull)] at hroom
      cases hroom

/-- The moves of a request: it is refused, with the memory pruned at most, or its
    entry is dispatched. -/
inductive RequestMove (settings : BrokerSettings) (b : Broker) :
    Broker × List BrokerEmit → Prop
  | refused (seen : List (String × ℚ)) (failure : TuningFailure) :
      RequestMove settings b ({ b with seen := seen, calls := b.calls + 1 },
        [.refused b.calls failure])
  | dispatched (seen : List (String × ℚ)) (entry : Pending) (wrapper : Json)
      (answers : RequestAnswers) (hcall : entry.call = b.calls) (hfuture : entry.future = none)
      (hfresh : b.isPending entry.requestId = false)
      (hroom : b.pending.length < settings.maxPending)
      (hlock : entry.mutation = true → entry.robotId ∉ b.locks) :
      RequestMove settings b (({ b with seen := seen } : Broker).dispatch settings entry wrapper
        answers)

/-- What the checks leave and what they let through. -/
theorem checks_cases :
    ∃ seen, (b.checks settings user robotId payload answers).1 = { b with seen := seen } ∧
      seen.length ≤ b.seen.length ∧ ∀ entry wrapper,
        (b.checks settings user robotId payload answers).2 = .ok (entry, wrapper) →
        entry.call = b.calls ∧ entry.future = none ∧ b.isPending entry.requestId = false ∧
          b.pending.length < settings.maxPending ∧
          (entry.mutation = true → entry.robotId ∉ b.locks) := by
  unfold checks
  split
  · exact ⟨b.seen, rfl, le_refl _, by simp⟩
  · rename_i request hadmitted
    dsimp only
    obtain ⟨seen, hseen, hlength⟩ := @checkDuplicate_frame settings b (requestIdOf request)
      (isMutationRequest request) answers.first
    have hfresh := @fresh_of_checkDuplicate settings b (requestIdOf request)
      (isMutationRequest request) answers.first
    generalize b.checkDuplicate settings (requestIdOf request) (isMutationRequest request)
      answers.first = first at hseen hfresh
    obtain ⟨first, failure⟩ := first
    obtain rfl : first = { b with seen := seen } := hseen
    cases failure with
    | some failure => exact ⟨seen, rfl, hlength, by simp⟩
    | none =>
      dsimp only
      cases hbusy : ({ b with seen := seen } : Broker).checkBusy settings robotId
          (isMutationRequest request) with
      | some failure => exact ⟨seen, rfl, hlength, by simp⟩
      | none =>
        dsimp only
        obtain ⟨seen', hseen', hlength'⟩ := @checkDuplicate_frame settings { b with seen := seen }
          (requestIdOf request) (isMutationRequest request) answers.second
        generalize ({ b with seen := seen } : Broker).checkDuplicate settings (requestIdOf request)
          (isMutationRequest request) answers.second = second at hseen'
        obtain ⟨second, failure⟩ := second
        obtain rfl : second = { b with seen := seen' } := hseen'
        cases failure with
        | some failure => exact ⟨seen', rfl, le_trans hlength' hlength, by simp⟩
        | none =>
          refine ⟨seen', rfl, le_trans hlength' hlength, ?_⟩
          intro entry wrapper hprepare
          obtain ⟨hcall, hid, hrobot, hmutation, hfuture, -, hroom⟩ := prepare_eq_ok hprepare
          refine ⟨hcall, hfuture, ?_, hroom, ?_⟩
          · rw [hid]
            exact hfresh rfl
          · intro hchange hlocked
            rw [hmutation] at hchange
            rw [hrobot] at hlocked
            unfold checkBusy at hbusy
            split at hbusy
            · cases hbusy
            · rw [if_pos ⟨hchange, hlocked⟩] at hbusy
              cases hbusy

theorem requestMove_request :
    RequestMove settings b (b.request settings user robotId payload answers) := by
  obtain ⟨seen, hseen, -, hok⟩ := @checks_cases settings b user robotId payload answers
  unfold Broker.request
  generalize b.checks settings user robotId payload answers = checked at hseen hok
  obtain ⟨left, outcome⟩ := checked
  obtain rfl : left = { b with seen := seen } := hseen
  cases outcome with
  | error failure => exact .refused seen failure
  | ok prepared =>
    obtain ⟨entry, wrapper⟩ := prepared
    obtain ⟨hcall, hfuture, hfresh, hroom, hlock⟩ := hok entry wrapper rfl
    exact .dispatched seen entry wrapper answers hcall hfuture hfresh hroom hlock

/-- An entry that was not sent leaves the tasks as they were. -/
theorem release_entered (hfresh : b.isPending entry.requestId = false)
    (hlock : entry.mutation = true → entry.robotId ∉ b.locks) {next : Broker}
    (hpending : next.pending = b.pending ++ [entry])
    (hlocks : next.locks = if entry.mutation then b.locks ++ [entry.robotId] else b.locks) :
    (next.release entry).pending = b.pending ∧ (next.release entry).locks = b.locks := by
  constructor
  · have hothers : b.pending.filter (fun other => other.requestId != entry.requestId) =
        b.pending := by
      refine List.filter_eq_self.mpr ?_
      intro other hother
      simp only [isPending, List.any_eq_false, beq_iff_eq] at hfresh
      simpa using hfresh other hother
    simp [release, hpending, hothers]
  · unfold release
    dsimp only
    rw [hlocks]
    by_cases hchange : entry.mutation = true
    · have hothers : b.locks.filter (fun robotId => robotId != entry.robotId) = b.locks := by
        refine List.filter_eq_self.mpr ?_
        intro robotId hrobot
        simp only [bne_iff_ne, ne_eq]
        rintro rfl
        exact hlock hchange hrobot
      simp [hchange, hothers]
    · simp [hchange]

theorem sound_entered (h : Sound settings b) (hcall : entry.call = b.calls)
    (hfresh : b.isPending entry.requestId = false)
    (hroom : b.pending.length < settings.maxPending)
    (hlock : entry.mutation = true → entry.robotId ∉ b.locks) {next : Broker}
    (hpending : next.pending = b.pending ++ [entry])
    (hlocks : next.locks = if entry.mutation then b.locks ++ [entry.robotId] else b.locks)
    (hcalls : next.calls = b.calls + 1) : Sound settings next := by
  have hheld : ∀ robotId ∈ b.locks, robotId ∈ next.locks := by
    intro robotId hrobot
    rw [hlocks]
    split
    · exact List.mem_append_left _ hrobot
    · exact hrobot
  constructor
  · rw [hpending, List.map_append, List.nodup_append]
    refine ⟨h.ids, List.nodup_singleton _, ?_⟩
    intro id hid other hother heq
    obtain ⟨earlier, hearlier, rfl⟩ := List.mem_map.mp hid
    simp only [List.map_cons, List.map_nil, List.mem_singleton] at hother
    simp only [isPending, List.any_eq_false, beq_iff_eq] at hfresh
    exact hfresh earlier hearlier (heq.trans hother)
  · rw [hpending, List.length_append]
    exact hroom
  · intro other hother hchange
    rw [hpending] at hother
    rcases List.mem_append.mp hother with hearlier | hnew
    · exact hheld _ (h.locked other hearlier hchange)
    · obtain rfl := List.mem_singleton.mp hnew
      rw [hlocks, if_pos hchange]
      exact List.mem_append_right _ List.mem_cons_self
  · rw [hpending, List.filter_append, List.map_append, List.nodup_append]
    refine ⟨h.alone, ?_, ?_⟩
    · by_cases hchange : entry.mutation = true
      · simp [hchange]
      · simp [hchange]
    · intro robotId hrobot other hother heq
      obtain ⟨earlier, hearlier, rfl⟩ := List.mem_map.mp hrobot
      obtain ⟨hearlier, hchange⟩ := List.mem_filter.mp hearlier
      obtain ⟨new, hnew, rfl⟩ := List.mem_map.mp hother
      obtain ⟨hnew, hnewChange⟩ := List.mem_filter.mp hnew
      obtain rfl := List.mem_singleton.mp hnew
      exact hlock hnewChange (heq ▸ h.locked earlier hearlier hchange)
  · intro other hother
    rw [hpending] at hother
    rw [hcalls]
    rcases List.mem_append.mp hother with hearlier | hnew
    · exact Nat.lt_succ_of_lt (h.numbered other hearlier)
    · obtain rfl := List.mem_singleton.mp hnew
      omega

/-- The broker between the pending entry and the send. -/
theorem dispatch_cases {seen : List (String × ℚ)} :
    ∃ seen' next, next = ({ b with
        seen := seen', calls := b.calls + 1, pending := b.pending ++ [entry],
        locks := if entry.mutation then b.locks ++ [entry.robotId] else b.locks } : Broker) ∧
      (({ b with seen := seen } : Broker).dispatch settings entry wrapper answers =
          (next, [.sent entry.call entry.session entry.generation entry.websocket entry.requestId
            entry.mutation wrapper]) ∨
        ({ b with seen := seen } : Broker).dispatch settings entry wrapper answers =
          (next.release entry, [.refused entry.call
            (.unavailable "The robot connection changed before the request was sent.")])) := by
  unfold dispatch
  dsimp only
  by_cases hchange : entry.mutation = true
  · simp only [hchange, if_true]
    obtain ⟨seen', hseen'⟩ := @remember_frame settings { b with
        seen := seen, calls := b.calls + 1, pending := b.pending ++ [entry],
        locks := b.locks ++ [entry.robotId] } entry.requestId answers.stored answers.pruned
    rw [hseen']
    refine ⟨seen', _, rfl, ?_⟩
    split
    · exact Or.inl rfl
    · exact Or.inr rfl
  · simp only [hchange, Bool.false_eq_true, if_false]
    refine ⟨seen, _, rfl, ?_⟩
    split
    · exact Or.inl rfl
    · exact Or.inr rfl

theorem request_sound (h : Sound settings b) :
    Sound settings (b.request settings user robotId payload answers).1 ∧
      Tells b (b.request settings user robotId payload answers) := by
  have hmove := @requestMove_request settings b user robotId payload answers
  generalize b.request settings user robotId payload answers = moved at hmove
  cases hmove with
  | refused seen failure =>
    refine ⟨sound_still h rfl (Nat.le_succ _) rfl, ?_⟩
    exact {
      calls_le := Nat.le_succ _
      tasks := fun next hnext => Or.inl ⟨next, hnext, SameTask.rfl, Or.inl rfl⟩
      sent := by simp
      returned := by simp
      refused := by
        intro call failure hmem
        cases List.mem_singleton.mp hmem
        exact Or.inl rfl }
  | dispatched seen entry wrapper answers hcall hfuture hfresh hroom hlock =>
    obtain ⟨seen', next, rfl, hsent | hbounced⟩ :=
      @dispatch_cases settings b answers entry wrapper seen
    · rw [hsent]
      refine ⟨sound_entered h hcall hfresh hroom hlock rfl rfl rfl, ?_⟩
      exact {
        calls_le := Nat.le_succ _
        tasks := by
          intro task htask
          rcases List.mem_append.mp htask with hearlier | hnew
          · exact Or.inl ⟨task, hearlier, SameTask.rfl, Or.inl rfl⟩
          · obtain rfl := List.mem_singleton.mp hnew
            exact Or.inr ⟨hcall, hfuture, wrapper, List.mem_singleton_self _⟩
        sent := by
          intro call session generation websocket requestId mutation sentWrapper hmem
          cases List.mem_singleton.mp hmem
          exact ⟨hcall, Nat.lt_succ_self _, rfl⟩
        returned := by simp
        refused := by simp }
    · rw [hbounced]
      obtain ⟨hpending, hlocks⟩ := @release_entered _ _ hfresh hlock { b with
        seen := seen', calls := b.calls + 1, pending := b.pending ++ [entry],
        locks := if entry.mutation then b.locks ++ [entry.robotId] else b.locks } rfl rfl
      refine ⟨sound_still h hpending (Nat.le_succ _) hlocks, ?_⟩
      exact {
        calls_le := Nat.le_succ _
        tasks := fun task htask => Or.inl ⟨task, hpending ▸ htask, SameTask.rfl, Or.inl rfl⟩
        sent := by simp
        returned := by simp
        refused := by
          intro call failure hmem
          cases List.mem_singleton.mp hmem
          exact Or.inl hcall }

end

section

variable {settings : BrokerSettings} {b : Broker} {entry : Pending} {call session : Nat}

theorem mem_of_taskAt {stage : Stage} (h : b.taskAt call stage = some entry) :
    entry ∈ b.pending ∧ entry.call = call := by
  refine ⟨List.mem_of_find?_eq_some h, ?_⟩
  have hfound := List.find?_some h
  simp only [Bool.and_eq_true, beq_iff_eq] at hfound
  exact hfound.1

theorem mem_of_entryOf {requestId : String} (h : b.entryOf requestId = some entry) :
    entry ∈ b.pending ∧ entry.requestId = requestId := by
  refine ⟨List.mem_of_find?_eq_some h, ?_⟩
  simpa using List.find?_some h

theorem endUnknown_sound (h : Sound settings b) (hentry : entry ∈ b.pending)
    (mutationDetail readDetail : String) :
    Sound settings (b.endUnknown entry mutationDetail readDetail).1 ∧
      Tells b (b.endUnknown entry mutationDetail readDetail) := by
  refine ⟨sound_release h hentry, tells_release hentry rfl rfl ?_⟩
  intro emit hemit
  split at hemit
  · obtain rfl := List.mem_singleton.mp hemit
    exact Or.inl ⟨_, rfl, Or.inl rfl, by simp [unknownResponse]⟩
  · rename_i hread
    obtain rfl := List.mem_singleton.mp hemit
    exact Or.inr ⟨_, rfl, by simpa using hread⟩

theorem still_sound (h : Sound settings b) : Sound settings b ∧ Tells b (b, []) :=
  ⟨h, tells_silent rfl rfl (by simp)⟩

theorem sendDone_sound (h : Sound settings b) (raised : Bool) :
    Sound settings (b.sendDone call raised).1 ∧ Tells b (b.sendDone call raised) := by
  unfold sendDone
  cases htask : b.taskAt call .sending with
  | none => exact still_sound h
  | some entry =>
    obtain ⟨hentry, -⟩ := mem_of_taskAt htask
    dsimp only
    split
    · exact endUnknown_sound h hentry _ _
    · split
      · exact endUnknown_sound h hentry _ _
      · have hstage : ∀ other ∈ b.pending, SameTask other
            (if other.requestId = entry.requestId then { other with stage := .awaiting }
              else other) ∧
            (if other.requestId = entry.requestId then { other with stage := .awaiting }
              else other).future = other.future := by
          intro other _
          split
          · exact ⟨⟨rfl, rfl, rfl, rfl, rfl, rfl, rfl⟩, rfl⟩
          · exact ⟨SameTask.rfl, rfl⟩
        exact ⟨sound_map h rfl rfl rfl fun other hother => (hstage other hother).1,
          tells_map rfl rfl (fun other hother => ⟨(hstage other hother).1,
            Or.inl (hstage other hother).2⟩) (by simp)⟩

theorem updateDesired_frame {snapshot : Option (List (String × Json))} :
    ∃ desired, b.updateDesired entry snapshot = { b with desired := desired } := by
  unfold updateDesired
  split
  · exact ⟨b.desired, rfl⟩
  · split
    · exact ⟨_, rfl⟩
    · exact ⟨b.desired, rfl⟩

theorem resumed_sound (h : Sound settings b) :
    Sound settings (b.resumed call).1 ∧ Tells b (b.resumed call) := by
  unfold resumed
  cases htask : b.taskAt call .awaiting with
  | none => exact still_sound h
  | some entry =>
    obtain ⟨hentry, hcall⟩ := mem_of_taskAt htask
    dsimp only
    split
    · exact still_sound h
    · exact endUnknown_sound h hentry _ _
    · rename_i response hfuture
      split
      · exact endUnknown_sound h hentry _ _
      · rename_i hok
        obtain ⟨desired, hdesired⟩ := @updateDesired_frame b entry response.snapshot
        rw [hdesired]
        have hsound : Sound settings ({ b with desired := desired } : Broker) :=
          sound_still h rfl (le_refl _) rfl
        refine ⟨sound_release hsound hentry, tells_release hentry rfl rfl ?_⟩
        intro emit hemit
        obtain rfl := List.mem_singleton.mp hemit
        refine Or.inl ⟨response, by rw [hcall], Or.inr hfuture, ?_⟩
        intro houtcome
        by_contra hbound
        exact hok ⟨houtcome, by simpa using hbound⟩

theorem timedOut_sound (h : Sound settings b) :
    Sound settings (b.timedOut call).1 ∧ Tells b (b.timedOut call) := by
  unfold timedOut
  cases htask : b.taskAt call .awaiting with
  | none => exact still_sound h
  | some entry => exact endUnknown_sound h (mem_of_taskAt htask).1 _ _

/-! ### The robot's side -/

/-- Some of the entries have a result from now on, where they had none. -/
theorem resolve_sound {emits : List BrokerEmit} {next : Broker} (h : Sound settings b)
    {chosen : Pending → Prop} [DecidablePred chosen] {result : Pending → Option TuningResponse}
    (hpending : next.pending = b.pending.map fun entry =>
      if chosen entry then { entry with future := some (entry.future.getD (result entry)) }
      else entry)
    (hcalls : next.calls = b.calls) (hlocks : next.locks = b.locks)
    (hgranted : ∀ entry ∈ b.pending, chosen entry → Granted emits entry (result entry))
    (hemits : ∀ emit ∈ emits, ∃ session generation websocket reply at',
      emit = .received session generation websocket reply at') :
    Sound settings next ∧ Tells b (next, emits) := by
  have hchange : ∀ entry ∈ b.pending, ∀ after,
      after = (if chosen entry then
        { entry with future := some (entry.future.getD (result entry)) } else entry) →
      SameTask entry after ∧ (after.future = entry.future ∨
        ∃ value, after.future = some value ∧ Granted emits entry value) := by
    rintro entry hentry after rfl
    split
    · rename_i hchosen
      refine ⟨⟨rfl, rfl, rfl, rfl, rfl, rfl, rfl⟩, ?_⟩
      cases hfuture : entry.future with
      | none => exact Or.inr ⟨result entry, rfl, hgranted entry hentry hchosen⟩
      | some value => exact Or.inl rfl
    · exact ⟨SameTask.rfl, Or.inl rfl⟩
  exact ⟨sound_map h hpending hcalls hlocks
      fun entry hentry => (hchange entry hentry _ rfl).1,
    tells_map hpending hcalls (fun entry hentry => hchange entry hentry _ rfl) hemits⟩

/-- A result for the entry of an id, and for no other. -/
theorem settle_sound {emits : List BrokerEmit} {result : Option TuningResponse}
    (h : Sound settings b) (hentry : entry ∈ b.pending) (hgranted : Granted emits entry result)
    (hemits : ∀ emit ∈ emits, ∃ session generation websocket reply at',
      emit = .received session generation websocket reply at')
    {seen : List (String × ℚ)} {policies : List (String × CachedPolicy)} :
    Sound settings (({ b with seen := seen, policies := policies } : Broker).settle entry.requestId
        result) ∧
      Tells b
        (({ b with seen := seen, policies := policies } : Broker).settle entry.requestId result,
          emits) := by
  apply @resolve_sound _ _ _
    (({ b with seen := seen, policies := policies } : Broker).settle entry.requestId result) h
    (fun other => other.requestId = entry.requestId) _ (fun _ => result) rfl rfl rfl ?_ hemits
  intro other hother hid
  obtain rfl : other = entry := List.inj_on_of_nodup_map h.ids hother hentry hid
  exact hgranted

theorem cachePolicy_frame {robotId : String} {websocket : Nat} {reply : TuningResponse}
    {received : ℚ} : ∃ policies, b.cachePolicy robotId session websocket reply received =
      { b with policies := policies } := by
  unfold cachePolicy
  split
  · exact ⟨b.policies, rfl⟩
  · split
    · exact ⟨_, rfl⟩
    · exact ⟨b.policies, rfl⟩

theorem boundEntry_eq_true {held : RobotSession} (hheld : b.sessions[session]? = some held)
    (h : b.boundEntry entry session = true) :
    entry.session = session ∧ entry.generation = held.generation ∧
      held.websocket = some entry.websocket := by
  unfold boundEntry at h
  rw [hheld] at h
  simpa [and_assoc] using h

theorem rejectReply_sound (h : Sound settings b) (data : List (String × Json)) :
    Sound settings (b.rejectReply session data).1 ∧ Tells b (b.rejectReply session data) := by
  unfold rejectReply
  split
  · exact still_sound h
  · rename_i entry hfound
    obtain ⟨id, -, hfound⟩ := Option.bind_eq_some_iff.mp hfound
    obtain ⟨hentry, -⟩ := mem_of_entryOf hfound
    have hgranted : Granted [] entry (some (unknownResponse entry
        "The robot's tuning reply did not validate; the outcome is unknown.")) := Or.inl rfl
    split
    · exact @settle_sound settings b entry [] _ h hentry hgranted (by simp) b.seen b.policies
    · exact still_sound h

theorem handleResponse_sound (h : Sound settings b) (envelopeRobot : String) (payload : Json)
    (stored pruned received : ℚ) :
    Sound settings
        (b.handleResponse settings session envelopeRobot payload stored pruned received).1 ∧
      Tells b (b.handleResponse settings session envelopeRobot payload stored pruned received) := by
  unfold handleResponse
  split
  · exact still_sound h
  · rename_i held hheld
    split
    · exact still_sound h
    · rename_i websocket hwebsocket
      split
      · exact still_sound h
      · split
        · exact still_sound h
        · exact ⟨h, tells_silent rfl rfl (by simp)⟩
        · split
          · exact rejectReply_sound h _
          · rename_i reply hreply
            split
            · exact still_sound h
            · obtain ⟨policies, hpolicies⟩ := @cachePolicy_frame b session held.robotId websocket
                reply received
              rw [hpolicies]
              have hreceived : ∀ emit ∈ ([.received session held.generation websocket reply
                  received] : List BrokerEmit), ∃ session generation websocket reply at',
                  emit = .received session generation websocket reply at' := by
                intro emit hemit
                obtain rfl := List.mem_singleton.mp hemit
                exact ⟨_, _, _, _, _, rfl⟩
              have hcached : Sound settings ({ b with policies := policies } : Broker) ∧
                  Tells b ({ b with policies := policies },
                    [.received session held.generation websocket reply received]) :=
                ⟨sound_still h rfl (le_refl _) rfl,
                  tells_silent rfl rfl fun emit hemit => Or.inl (hreceived emit hemit)⟩
              unfold deliver
              split
              · exact hcached
              · rename_i entry hfound
                have hfound : b.entryOf reply.requestId = some entry := hfound
                obtain ⟨hentry, hid⟩ := mem_of_entryOf hfound
                split
                · exact hcached
                · rename_i haddressed
                  simp only [not_or, Bool.not_eq_false] at haddressed
                  have hbound : b.boundEntry entry session = true := haddressed.1
                  obtain ⟨hsession, hgeneration, hsocket⟩ := boundEntry_eq_true hheld hbound
                  have hgranted : Granted
                      [.received session held.generation websocket reply received] entry
                      (some reply) := by
                    refine Or.inr ⟨hid.symm, received, ?_⟩
                    obtain rfl := Option.some.inj (hwebsocket.symm.trans hsocket)
                    rw [hsession, hgeneration]
                    exact List.mem_singleton_self _
                  dsimp only
                  split
                  · obtain ⟨seen, hseen⟩ := @remember_frame settings
                      { b with policies := policies } entry.requestId stored pruned
                    rw [hseen]
                    exact settle_sound h hentry hgranted hreceived
                  · exact @settle_sound settings b entry _ _ h hentry hgranted hreceived b.seen
                      policies

theorem disconnected_sound (h : Sound settings b) {next : Broker}
    (hpending : next.pending = (b.disconnected session).pending) (hcalls : next.calls = b.calls)
    (hlocks : next.locks = b.locks) : Sound settings next ∧ Tells b (next, []) := by
  apply @resolve_sound _ _ _ _ h (fun entry => entry.session = session) _
    (fun entry => if entry.mutation then
      some (unknownResponse entry "The robot connection dropped; the outcome is unknown.")
      else none) hpending hcalls hlocks ?_ (by simp)
  intro entry _ _
  split
  · exact Or.inl rfl
  · trivial

/-- Every step keeps the tasks sound and says of them what it does. -/
theorem step_sound (h : Sound settings b) (event : BrokerEvent) :
    Sound settings (b.step settings event).1 ∧ Tells b (b.step settings event) := by
  cases event with
  | request user robotId payload answers => exact request_sound h
  | sendDone call raised => exact sendDone_sound h raised
  | resumed call => exact resumed_sound h
  | timedOut call => exact timedOut_sound h
  | response session envelopeRobot payload stored pruned received =>
    exact handleResponse_sound h envelopeRobot payload stored pruned received
  | connecting robotId =>
    simp only [step, connect]
    apply @disconnected_sound settings b ((b.robots.lookup robotId).getD b.sessions.length) h
    · unfold disconnected
      split <;> rfl
    · unfold disconnected
      split <;> rfl
    · unfold disconnected
      split <;> rfl
  | installed connection =>
    simp only [step, installed]
    split
    · exact still_sound h
    · exact ⟨sound_still h rfl (le_refl _) rfl, tells_silent rfl rfl (by simp)⟩
  | leaving session connection =>
    simp only [step, leave]
    split
    · exact still_sound h
    · split
      · exact ⟨sound_still h rfl (le_refl _) rfl, tells_silent rfl rfl (by simp)⟩
      · exact still_sound h
  | left session =>
    simp only [step, leftSession]
    split
    · exact disconnected_sound h rfl rfl rfl
    · exact still_sound h
  | reported robotId view =>
    exact ⟨sound_still h rfl (le_refl _) rfl, tells_silent rfl rfl (by simp)⟩

end

/-! ### Over a whole run -/

/-- The outputs of a history. -/
def emitted (history : List (BrokerEvent × List BrokerEmit)) : List BrokerEmit :=
  history.flatMap Prod.snd

theorem emitted_concat (history : List (BrokerEvent × List BrokerEmit))
    (segment : BrokerEvent × List BrokerEmit) :
    emitted (history ++ [segment]) = emitted history ++ segment.2 := by
  simp [emitted, List.flatMap_append]

/-- The task of a frame that was sent is bound to where it was sent, and what its
    future holds came since. -/
def Answered (entry : Pending) (session generation websocket : Nat) (requestId : String)
    (mutation : Bool) (middle : List (BrokerEvent × List BrokerEmit)) : Prop :=
  entry.session = session ∧ entry.generation = generation ∧ entry.websocket = websocket ∧
    entry.requestId = requestId ∧ entry.mutation = mutation ∧
    ∀ response, entry.future = some (some response) → response.outcome = "unknown" ∨
      response.requestId = requestId ∧
        ∃ at', .received session generation websocket response at' ∈ emitted middle

/-- What the history says of the tasks. -/
def Traced (history : List (BrokerEvent × List BrokerEmit)) (b : Broker) : Prop :=
  ∀ first segment middle, history = first ++ segment :: middle →
    ∀ call session generation websocket requestId mutation wrapper,
      .sent call session generation websocket requestId mutation wrapper ∈ segment.2 →
      call < b.calls ∧ ∀ entry ∈ b.pending, entry.call = call →
        Answered entry session generation websocket requestId mutation middle

section

variable {settings : BrokerSettings} {b : Broker} {result : Broker × List BrokerEmit}
variable {history : List (BrokerEvent × List BrokerEmit)} {event : BrokerEvent}

theorem answered_inherited {entry next : Pending} {session generation websocket : Nat}
    {requestId : String} {mutation : Bool} {middle : List (BrokerEvent × List BrokerEmit)}
    {emits : List BrokerEmit}
    (h : Answered entry session generation websocket requestId mutation middle)
    (hsame : SameTask entry next)
    (hfuture : next.future = entry.future ∨
      ∃ result, next.future = some result ∧ Granted emits entry result) :
    Answered next session generation websocket requestId mutation (middle ++ [(event, emits)]) := by
  obtain ⟨rfl, rfl, rfl, rfl, rfl, hfrom⟩ := h
  refine ⟨hsame.session, hsame.generation, hsame.websocket, hsame.requestId, hsame.mutation, ?_⟩
  intro response hresponse
  rw [emitted_concat]
  rcases hfuture with hkept | ⟨value, hdone, hgranted⟩
  · rcases hfrom response (hkept ▸ hresponse) with hunknown | ⟨hid, at', hreceived⟩
    · exact Or.inl hunknown
    · exact Or.inr ⟨hid, at', List.mem_append_left _ hreceived⟩
  · rw [hdone] at hresponse
    obtain rfl := Option.some.inj hresponse
    rcases hgranted with hunknown | ⟨hid, at', hreceived⟩
    · exact Or.inl hunknown
    · exact Or.inr ⟨hid, at', List.mem_append_right _ hreceived⟩

theorem traced_step (h : Traced history b) (hsound : Sound settings b) (htells : Tells b result) :
    Traced (history ++ [(event, result.2)]) result.1 := by
  intro first segment middle hsplit call session generation websocket requestId mutation wrapper
    hsent
  rcases List.eq_nil_or_concat middle with rfl | ⟨middle, last, rfl⟩
  · -- The frame is the one this step sends.
    obtain ⟨rfl, hsegment⟩ := List.append_inj' hsplit rfl
    obtain rfl := List.singleton_inj.mp hsegment
    obtain ⟨rfl, hlt, hemits⟩ := htells.sent _ _ _ _ _ _ _ hsent
    refine ⟨hlt, ?_⟩
    intro entry hentry hcall
    rcases htells.tasks entry hentry with ⟨earlier, hearlier, hsame, -⟩ | ⟨-, hfuture, made, hmade⟩
    · have hnumber := hsound.numbered earlier hearlier
      rw [← hsame.call, hcall] at hnumber
      exact absurd hnumber (lt_irrefl _)
    · rw [hemits] at hmade
      simp only [List.mem_singleton, BrokerEmit.sent.injEq] at hmade
      obtain ⟨-, hsession, hgeneration, hwebsocket, hid, hmutation, -⟩ := hmade
      exact ⟨hsession, hgeneration, hwebsocket, hid, hmutation, by simp [hfuture]⟩
  · rw [List.concat_eq_append, ← List.cons_append, ← List.append_assoc] at hsplit
    obtain ⟨rfl, hlast⟩ := List.append_inj' hsplit rfl
    obtain rfl := List.singleton_inj.mp hlast
    obtain ⟨hlt, hentries⟩ := h first segment middle rfl _ _ _ _ _ _ _ hsent
    refine ⟨lt_of_lt_of_le hlt htells.calls_le, ?_⟩
    intro entry hentry hcall
    rw [List.concat_eq_append]
    rcases htells.tasks entry hentry with ⟨earlier, hearlier, hsame, hfuture⟩ | ⟨hnew, -, -⟩
    · exact answered_inherited (hentries earlier hearlier (hsame.call ▸ hcall)) hsame hfuture
    · exact absurd (hnew ▸ hcall) (ne_of_gt hlt)

theorem sound_initial : Sound settings {} := ⟨by simp, by simp, by simp, by simp, by simp⟩

theorem traced_run (events : List BrokerEvent) :
    Sound settings ((tuningBroker settings).run {} events) ∧
      Traced ((tuningBroker settings).trace {} events) ((tuningBroker settings).run {} events) := by
  refine (tuningBroker settings).history_invariant
    (fun history b => Sound settings b ∧ Traced history b) ?_ ⟨sound_initial, ?_⟩
    ((tuningBroker settings).along_true {} events)
  · intro history b event _ hinv
    obtain ⟨hsound, htells⟩ := @step_sound settings b hinv.1 event
    exact ⟨hsound, traced_step hinv.2 hinv.1 htells⟩
  · intro first segment middle hsplit
    simp at hsplit

/-- A reply that is received is a validated one, from a session whose websocket is
    open. -/
theorem received_of_step {session generation websocket : Nat} {reply : TuningResponse} {at' : ℚ}
    (h : .received session generation websocket reply at' ∈ (b.step settings event).2) :
    ∃ registry robot payload stored pruned held,
      event = .response session robot payload stored pruned at' ∧
      settings.catalog = some registry ∧ validateResponse registry payload = .ok reply ∧
      b.sessions[session]? = some held ∧ held.generation = generation ∧
      held.websocket = some websocket ∧ b.robots.lookup held.robotId = some session ∧
      robot = held.robotId := by
  cases event with
  | response source robot payload stored pruned received =>
    simp only [step, handleResponse] at h
    split at h
    · cases h
    · rename_i held hheld
      split at h
      · cases h
      · rename_i socket hsocket
        split at h
        · cases h
        · rename_i hinstalled
          split at h
          · cases h
          · simp at h
          · rename_i data registry hdata hregistry
            split at h
            · unfold rejectReply at h
              split at h
              · cases h
              · split at h <;> cases h
            · rename_i validated hvalid
              split at h
              · cases h
              · rename_i hrobot
                cases List.mem_singleton.mp h
                exact ⟨registry, robot, payload, stored, pruned, held, rfl, hregistry, hvalid,
                  hheld, rfl, hsocket, not_not.mp hinstalled, not_not.mp hrobot⟩
  | request user robotId payload answers =>
    have hmove := @requestMove_request settings b user robotId payload answers
    have h : .received session generation websocket reply at' ∈
        (b.request settings user robotId payload answers).2 := h
    generalize b.request settings user robotId payload answers = moved at hmove h
    cases hmove with
    | refused seen failure => simp at h
    | dispatched seen entry wrapper answers hcall hfuture hfresh hroom hlock =>
      obtain ⟨seen', next, -, hsent | hbounced⟩ :=
        @dispatch_cases settings b answers entry wrapper seen
      · simp [hsent] at h
      · simp [hbounced] at h
  | sendDone call raised =>
    simp only [step, sendDone] at h
    split at h
    · cases h
    · split at h
      · unfold endUnknown at h
        dsimp only at h
        split at h <;> simp at h
      · split at h
        · unfold endUnknown at h
          dsimp only at h
          split at h <;> simp at h
        · cases h
  | resumed call =>
    simp only [step, resumed] at h
    split at h
    · cases h
    · split at h
      · cases h
      · unfold endUnknown at h
        dsimp only at h
        split at h <;> simp at h
      · split at h
        · unfold endUnknown at h
          dsimp only at h
          split at h <;> simp at h
        · simp at h
  | timedOut call =>
    simp only [step, timedOut] at h
    split at h
    · cases h
    · unfold endUnknown at h
      dsimp only at h
      split at h <;> simp at h
  | connecting robotId => cases h
  | installed connection => cases h
  | leaving session connection => cases h
  | left session => cases h
  | reported robotId view => cases h

end

end Broker

open Broker

/-- Over every order of requests, sends, replies, timeouts and connections at most
    one change is in flight for a robot and the requests in flight are bounded.
    Once the frame of a change was handed to the socket its request raises
    nothing; it returns an unknown outcome or a reply to its id that was received
    since on the session, generation and websocket of the frame, and `ok` only
    while that session is bound.  What is received has passed `validate_response`. -/
theorem broker_run (settings : BrokerSettings) (events : List BrokerEvent) :
    let broker := tuningBroker settings
    (∀ robotId, (broker.run {} events).pending.countP (fun entry =>
        entry.mutation && entry.robotId == robotId) ≤ 1) ∧
    (broker.run {} events).pending.length ≤ settings.maxPending ∧
    (∀ earlier event later, events = earlier ++ event :: later →
      ∀ first segment middle, broker.trace {} earlier = first ++ segment :: middle →
        ∀ call session generation websocket requestId mutation wrapper,
          .sent call session generation websocket requestId mutation wrapper ∈ segment.2 →
          (mutation = true → ∀ failure,
            .refused call failure ∉ segment.2 ++ (broker.step (broker.run {} earlier) event).2) ∧
          ∀ response, .returned call response ∈ (broker.step (broker.run {} earlier) event).2 →
            (response.outcome = "unknown" ∨ response.requestId = requestId ∧
              ∃ at', .received session generation websocket response at' ∈ emitted middle) ∧
            (response.outcome = "ok" →
              (broker.run {} earlier).bound session generation websocket = true)) ∧
    (∀ earlier event later, events = earlier ++ event :: later →
      ∀ session generation websocket reply at',
        .received session generation websocket reply at' ∈
          (broker.step (broker.run {} earlier) event).2 →
        ∃ registry robot payload stored pruned held,
          event = .response session robot payload stored pruned at' ∧
          settings.catalog = some registry ∧ validateResponse registry payload = .ok reply ∧
          (broker.run {} earlier).sessions[session]? = some held ∧
          held.generation = generation ∧ held.websocket = some websocket) := by
  intro broker
  refine ⟨?_, (traced_run events).1.capacity, ?_, ?_⟩
  · intro robotId
    have hone := List.nodup_iff_count_le_one.mp (@traced_run settings events).1.alone robotId
    rw [List.count, List.countP_map, List.countP_filter] at hone
    refine le_trans (le_of_eq ?_) hone
    refine List.countP_congr ?_
    intro entry _
    simp [and_comm]
  · intro earlier event later _ first segment middle htrace call session generation websocket
      requestId mutation wrapper hsent
    obtain ⟨hsound, htraced⟩ := @traced_run settings earlier
    obtain ⟨hlt, hentries⟩ := htraced first segment middle htrace _ _ _ _ _ _ _ hsent
    obtain ⟨-, htells⟩ := @step_sound settings _ hsound event
    constructor
    · rintro rfl failure hmem
      rcases List.mem_append.mp hmem with hnow | hlater
      · obtain ⟨fs, sending, gs, -, -, rfl⟩ := broker.exists_of_trace_eq htrace
        obtain ⟨-, hsending⟩ := @step_sound settings _ (@traced_run settings fs).1 sending
        have hsegment := (hsending.sent _ _ _ _ _ _ _ hsent).2.2
        have hnow : .refused call failure ∈ (Broker.step settings (broker.run {} fs) sending).2 :=
          hnow
        rw [hsegment] at hnow
        cases List.mem_singleton.mp hnow
      · rcases htells.refused call failure hlater with hnew | ⟨entry, hentry, hcall, hread⟩
        · exact absurd hnew (ne_of_lt hlt)
        · have hmutation := (hentries entry hentry hcall).2.2.2.2.1
          rw [hread] at hmutation
          cases hmutation
    · intro response hreturned
      obtain ⟨entry, hentry, hcall, hfrom, hbound⟩ := htells.returned call response hreturned
      obtain ⟨rfl, rfl, rfl, rfl, rfl, hanswer⟩ := hentries entry hentry hcall
      refine ⟨?_, hbound⟩
      rcases hfrom with hunknown | hfuture
      · exact Or.inl hunknown
      · exact hanswer response hfuture
  · intro earlier event later _ session generation websocket reply at' hreceived
    obtain ⟨registry, robot, payload, stored, pruned, held, hevent, hregistry, hvalid, hheld,
      hgeneration, hwebsocket, -, -⟩ := received_of_step hreceived
    exact ⟨registry, robot, payload, stored, pruned, held, hevent, hregistry, hvalid, hheld,
      hgeneration, hwebsocket⟩

end PatrolBot.Tuning
