import PatrolBot.ServerResults

/-!
# Who publishes the result of a command

A result is published by whoever closes the command: the reply of its robot, a
timer, or the request whose send failed.  The close-out of a map transaction
tells the robot first and does not look again afterwards.
-/

namespace PatrolBot.Server

open Coroutine Coroutine.Prog Coroutine.Discipline

section

variable {t : Nat} {job : Job} {raised : Bool} {a s : Dashboard}

/-! ### Commands with an unknown outcome -/

/-- What the frame rule needs of a fact that lasts. -/
theorem Calm.framed {α : Type} {p : Handler α} {F : Dashboard → Prop} (hp : Calm t job p)
    (hF : Lasting .apart F) (hinv : Inv .apart s) (hs : Tidy a s) (hfact : F s) :
    (discipline .apart).Keeps answering t job p raised a s fun _ _ a s => Tidy a s ∧ F s :=
  Keeps.frame hF.stable (fun a b hinv hmay h => hF _ _ _ a b hinv hmay h) hinv hfact
    (hp raised a s hinv hs)

theorem Quiet.uncertain {e : Nat} {x : ActiveCommand} (hknown : Known e x s)
    (hheld : x.command.held = true) (robotId : String) (outcome : Outcome)
    (detail : Option String) :
    Quiet s (s.publish (.reply robotId (.result x.commandId outcome detail))) := by
  intro id
  by_cases hid : id = x.commandId
  · refine .inr ⟨e, hknown.1, hid ▸ hknown.2.commandId, ?_⟩
    rw [hknown.2.command]
    exact hheld
  · refine .inl ?_
    simp [Dashboard.publish, results_singleton, Publication.resultId, Ne.symm hid]

@[simp] theorem view_setEntry (e : Nat) (entry : ActiveCommand)
    (h : entry.timers = (s.entry e).timers) : view (s.setEntry e entry) = view s := by
  simp only [view, Dashboard.setEntry, Prod.mk.injEq, true_and]
  funext e'
  by_cases he : e' = e
  · simp [he, h]
  · simp [he]

theorem keeps_markUncertain {e : Nat} {x : ActiveCommand} (hheld : x.command.held = true)
    (detail : String) (hinv : Inv .apart s) (hs : Tidy a s) (hknown : Known e x s) :
    (discipline .apart).Keeps answering t job (markUncertain e detail) raised a s
      fun _ _ a s => Tidy a s := by
  refine Keeps.readThen ?_
  dsimp only
  split
  · refine Keeps.modifyThen fun hmay hinv₁ => ?_
    have hs₁ := hs.aside hinv hmay (view_setEntry e _ rfl)
    have hknown₁ := lasting_known e x _ _ _ _ _ hinv hmay hknown
    refine Keeps.bind hinv₁ (Calm.framed (.given fun _ => .aside fun _ => view_forgetOwner _ _)
      (lasting_known e x) hinv₁ hs₁ hknown₁) ?_ fun _ _ _ _ _ h => h.1
    rintro ⟨⟩ raised₂ a₂ s₂ hinv₂ ⟨hs₂, hknown₂⟩
    refine Keeps.modifyThen fun hmay hinv₃ => ?_
    have hquiet := Quiet.uncertain hknown₂ hheld (s.entry e).robotId .timeout (some detail)
    rw [← hknown.2.commandId] at hquiet
    have haudit : Calm t job (execute (·.completeAudit (s.entry e).commandId .timeout detail)) :=
      calm_execute fun _ => rfl
    exact haudit _ _ _ hinv₃ (hs₂.update hinv₂ hmay hquiet rfl fun _ _ => rfl)
  · exact hs

/-! ### Ordinary commands -/

/-- The result of a command that leaves `active`. -/
theorem Answered.answer {a b : Dashboard} (hans : Answered a) (hinv : Inv .apart a) {e : Nat}
    {p : Publication} (he : e < a.entries)
    (hzero : results a.published (a.entry e).commandId = 0)
    (hp : p.resultId = some (a.entry e).commandId) (hentry : b.entry = a.entry)
    (hentries : b.entries = a.entries) (hpublished : b.published = a.published ++ [p])
    (hopen : ∀ e', Open b.toState e' → Open a.toState e' ∧ e' ≠ e) : Answered b := by
  have hu := hinv.unique trivial
  have hother : ∀ id, id ≠ (a.entry e).commandId →
      results b.published id = results a.published id := by
    intro id hne
    simp [hpublished, results_singleton, hp, Ne.symm hne]
  refine ⟨?_, ?_, ?_⟩
  · intro e' he' hheld
    rw [hentry]
    rw [hentries] at he'
    by_cases hid : (a.entry e').commandId = (a.entry e).commandId
    · rw [hid, hpublished]
      simp [results_singleton, hp, hzero]
    · rw [hother _ hid]
      exact hans.once e' he' (by rwa [Ordinary, hentry] at hheld)
  · intro e' hopen' hheld
    obtain ⟨⟨i, hi⟩, hne⟩ := hopen e' hopen'
    have hid : (a.entry e').commandId ≠ (a.entry e).commandId := fun heq =>
      hne (hu.entries e' e (hinv.active i e' hi).1 he heq)
    rw [hentry, hother _ hid]
    exact hans.opened e' ⟨i, hi⟩ (by rwa [Ordinary, hentry] at hheld)
  · intro id hid
    have hnew : ¬Issued a.toState id := by
      rintro ⟨e', he', rfl⟩
      exact hid ⟨e', hentries ▸ he', by rw [hentry]⟩
    rw [hother id fun heq => hnew ⟨e, he, heq.symm⟩]
    exact hans.unissued id hnew

/-- The command is closed in the stretch that publishes its result. -/
theorem keeps_finish {e : Nat} {p : Publication} (hinv : Inv .apart s) (hs : Tidy a s)
    (he : e < s.entries) (hzero : results s.published (s.entry e).commandId = 0)
    (hp : p.resultId = some (s.entry e).commandId) (hinv' : Inv .apart (s.publish p))
    (outcome : Outcome) (detail : String) :
    (discipline .apart).Keeps answering t job (finish t e outcome detail) raised a (s.publish p)
      fun _ _ a s => Tidy a s := by
  refine Keeps.readThen ?_
  dsimp only
  split
  · refine Keeps.modifyThen fun _ hinv₂ => calm_closing e _ outcome detail _ _ _ hinv₂ ?_
    have htimed : Timed (s.publish p) := hs.timed
    have hassigns : Assigns (s.publish p) (popActive t e outcome (s.publish p)) := .pop e outcome
    refine ⟨hs.answered.answer hinv he hzero hp rfl rfl rfl ?_,
      htimed.pop hinv' trivial he outcome, Assigns.trans hs.assigns hassigns⟩
    rintro e' ⟨i, hi⟩
    obtain ⟨hi, hne⟩ := popActive_active_subset hi
    exact ⟨⟨i, hi⟩, fun heq => hne (heq ▸ (hinv.active i e' hi).2.symm)⟩
  · rename_i hactive
    refine ⟨hs.answered.answer hinv he hzero hp rfl rfl rfl fun e' hopen => ⟨hopen, ?_⟩,
      hs.timed, hs.assigns⟩
    rintro rfl
    exact not_open_of_not_isActive hinv' hactive hopen

/-- The task that tells the robot to cancel the command's map transaction finds it
    unanswered when it comes back. -/
def ClosesAfter (t : Nat) (job : Job) (raised : Bool) (e : Nat) (s : Dashboard) : Prop :=
  (s.entry e).command = .setInitialPose → ∃ P : Dashboard → Prop,
    (∀ robotId websocket commandId, P (s.write ⟨robotId, websocket, .cancel commandId⟩)) ∧
      (discipline .apart).Endures answering t P ∧
        ∀ s', Inv .apart s' → Tidy s' s' → P s' → Known e (s.entry e) s' → ∀ reply,
          replies s' t job .socket reply = true → ReturnsFirst t job raised s' .socket reply →
            reply ≠ some .cancelled → results s'.published (s.entry e).commandId = 0

/-- After the cancel frame the command has still not been answered. -/
theorem keeps_cancelMap {e : Nat} (hinv : Inv .apart s) (hs : Tidy a s) (he : e < s.entries)
    (hzero : results s.published (s.entry e).commandId = 0)
    (hback : ClosesAfter t job raised e s) :
    (discipline .apart).Keeps answering t job (cancelMap e) raised a s fun r _ a s' =>
      Tidy a s' ∧ (r = .ok () → Known e (s.entry e) s' ∧
        results s'.published (s.entry e).commandId = 0) := by
  have hknown : Known e (s.entry e) s := ⟨he, .refl _⟩
  refine Keeps.readThen ?_
  dsimp only
  split
  · rename_i hcommand
    split
    · rename_i websocket hwebsocket
      obtain ⟨P, hP, hendures, hunanswered⟩ := hback hcommand
      refine Keeps.tryCatch (Q := fun r _ a s' => Tidy a s' ∧ (r ≠ .error .cancelled →
        Known e (s.entry e) s' ∧ results s'.published (s.entry e).commandId = 0)) hinv ?_
        (fun _ _ _ _ _ h => ⟨h.1, fun _ => h.2 (by simp)⟩) ?_
      · refine Keeps.modifyThen fun hmay hinv₁ => ?_
        have hknown₁ := lasting_known e _ _ _ _ _ _ hinv hmay hknown
        have hs₁ := hs.aside hinv hmay rfl
        refine Keeps.wait (fun s' => P s' ∧ Known e (s.entry e) s') hs₁ ⟨hP _ _ _, hknown₁⟩
          (hendures.and (lasting_known e _).stable.endures) ?_ ?_
        · exact fun s' hinv' hs' h hr hallows => ⟨hs', fun _ =>
            ⟨h.2, hunanswered s' hinv' hs' h.1 h.2 _ hr.replies hallows (by simp)⟩⟩
        · exact fun x s' hinv' hs' h hr hallows => ⟨hs', fun hx =>
            ⟨h.2, hunanswered s' hinv' hs' h.1 h.2 _ hr.replies hallows
              fun heq => hx (by simp [Option.some.inj heq])⟩⟩
      · intro x _ a' s' _ h
        cases x with
        | exception => exact ⟨h.1, fun _ => h.2 (by simp)⟩
        | cancelled => exact ⟨h.1, by simp⟩
    · exact ⟨hs, fun _ => ⟨hknown, hzero⟩⟩
  · exact ⟨hs, fun _ => ⟨hknown, hzero⟩⟩

/-- **The close-out of an ordinary command.** -/
theorem keeps_closeOut {e : Nat} (hinv : Inv .apart s) (hs : Tidy a s) (he : e < s.entries)
    (hordinary : Ordinary s.toState e) (hback : ClosesAfter t job raised e s) (outcome : Outcome)
    (detail : String) :
    (discipline .apart).Keeps answering t job (closeOut t e outcome detail) raised a s
      fun _ _ a s => Tidy a s := by
  refine Keeps.readThen ?_
  dsimp only
  split
  · rename_i hactive
    split
    · rename_i hcommand
      rw [Ordinary, hcommand] at hordinary
      simp [Command.held] at hordinary
    · have hopen : Open s.toState e := ⟨_, (hinv.unique trivial).mem_active hinv he hactive⟩
      refine Keeps.bind hinv (keeps_cancelMap hinv hs he (hs.answered.opened e hopen hordinary)
        hback) ?_ fun _ _ _ _ _ h => h.1
      rintro ⟨⟩ raised₁ a₁ s₁ hinv₁ ⟨hs₁, hopen₁⟩
      obtain ⟨hknown, hzero⟩ := hopen₁ rfl
      rw [← hknown.2.commandId] at hzero ⊢
      exact Keeps.modifyThen fun _ hinv₂ => keeps_finish hinv₁ hs₁ hknown.1 hzero rfl hinv₂ _ _
  · exact hs

/-! ### Requests -/

theorem prepare_view {client : BrowserClient} {robotId commandId : String}
    {session websocket : Nat} {a : Answer} {s s' : Dashboard}
    (h : prepare client robotId session websocket commandId a s = .ok s') :
    view s' = view s := by
  unfold prepare at h
  split at h
  · cases h
  · split at h
    · split at h <;> cases h
    · split at h
      · cases h
      · cases h
      · split at h
        · cases h
        · split at h
          · cases h
          · cases h
            rfl

theorem lasting_wired (id : String) : Lasting .apart fun s => id ∈ requestIds s.wire := by
  intro pw t job a b hinv hact h
  cases hact with
  | cancel robotId websocket commandId =>
    exact (requestIds_append _ _).symm ▸ List.mem_append_left _ h
  | request r websocket _ _ _ _ => exact (requestIds_append _ _).symm ▸ List.mem_append_left _ h
  | drive o frame _ => exact (requestIds_append _ _).symm ▸ List.mem_append_left _ h
  | _ => exact h

/-- Only the task that has admitted an id hands its command to a robot. -/
theorem stable_unwired (id : String) :
    (discipline .apart).Stable t fun s => Admitted id t s ∧ id ∉ requestIds s.wire := by
  rintro other hne job a b hinv hact ⟨hadmitted, hwire⟩
  refine ⟨lasting_admitted id t _ _ _ _ _ hinv hact hadmitted, ?_⟩
  cases hact with
  | cancel robotId websocket commandId => simpa [Dashboard.write] using hwire
  | drive o frame _ => simpa [Dashboard.write] using hwire
  | request r websocket _ hfresh _ _ =>
    simp only [Dashboard.forward, Dashboard.write, requestIds_append, requestIds_frame,
      List.mem_append, List.mem_singleton]
    rintro (hid | rfl)
    · exact hwire hid
    · have heq := List.inj_on_of_nodup_map (hinv.unique trivial).admitted (hfresh trivial).1
        hadmitted rfl
      exact hne (congrArg Prod.snd heq)
  | _ => exact hwire

/-- A map transaction is requested by the job itself. -/
def Asks (job : Job) (payload : CommandRequest) : Prop :=
  payload.command = .setInitialPose → ∃ client robotId, job = .request client robotId payload

variable {r : Incoming} {e : Nat} {x : ActiveCommand}

/-- The record of the command that the request registers. -/
structure Records (r : Incoming) (x : ActiveCommand) : Prop where
  commandId : x.commandId = r.payload.commandId
  command : x.command = r.payload.command

/-- A send that raises leaves the task with the close-out. -/
theorem keeps_transmit (session : Nat) (hinv : Inv .apart s) (hs : Tidy a s)
    (hknown : Known e x s) (hasks : Asks job r.payload)
    (hadmitted : Admitted r.payload.commandId t s)
    (hnew : r.payload.commandId ∉ requestIds s.wire) :
    (discipline .apart).Keeps answering t job (r.transmit t session e) raised a s fun y g a s' =>
      (Tidy a s' ∧ Known e x s') ∧ (y = .error .exception →
        r.payload.command = .setInitialPose → GivesUp t r.payload g s') := by
  refine Keeps.readThen ?_
  dsimp only
  split
  · exact ⟨⟨hs, hknown⟩, fun _ hcommand => ⟨hcommand, hadmitted, .inr hnew⟩⟩
  · rename_i websocket _
    refine Keeps.modifyThen fun hmay hinv₁ => ?_
    have hF : Lasting .apart fun s' => Known e x s' ∧ Admitted r.payload.commandId t s' ∧
        r.payload.commandId ∈ requestIds s'.wire := fun pw t' job' a b hinv hact h =>
      ⟨lasting_known e x _ _ _ _ _ hinv hact h.1, lasting_admitted _ t _ _ _ _ _ hinv hact h.2.1,
        lasting_wired _ _ _ _ _ _ hinv hact h.2.2⟩
    have hsent : r.payload.commandId ∈
        requestIds (s.forward t (r.frame websocket) r.payload).wire := by
      simp [Dashboard.forward, Dashboard.write]
    refine Keeps.bind (Q := fun y g a s' => (Tidy a s' ∧ Known e x s') ∧
        (y = .error .exception → r.payload.command = .setInitialPose →
          GivesUp t r.payload g s')) hinv₁
      (Keeps.wait _ (hs.aside hinv hmay rfl) ⟨lasting_known e x _ _ _ _ _ hinv hmay hknown,
        hadmitted, hsent⟩ hF.stable.endures ?_ ?_) ?_
      fun _ _ _ _ _ h => ⟨h.1, fun hy => h.2 (by simpa using hy)⟩
    · exact fun s' _ hs' h _ _ => ⟨⟨hs', h.1⟩, by simp⟩
    · refine fun y s' _ hs' h _ _ =>
        ⟨⟨hs', h.1⟩, fun hy hcommand => ⟨hcommand, h.2.1, .inl ?_⟩⟩
      obtain ⟨client, robotId, rfl⟩ := hasks hcommand
      obtain rfl : y = .exception := by simpa using hy
      have hmem : (r.payload.commandId, t) ∈ s'.admitted := h.2.1
      simp [answering, sendMemory, sendRaised, hmem, h.2.2]
    · rintro ⟨⟩ raised₂ a₂ s₂ _ ⟨hs₂, -⟩
      refine Keeps.readThen ?_
      split
      · rename_i hmanual
        refine ⟨hs₂, fun _ hcommand => ?_⟩
        simp [hcommand, Command.manual] at hmanual
      · exact ⟨hs₂, by simp⟩

theorem keeps_sendFailed {revoke : String → Bool → Handler Unit}
    (hrevoke : ∀ robotId issue, Calm t job (revoke robotId issue)) (hinv : Inv .apart s)
    (hs : Tidy a s) (hknown : Known e x s) (hrecords : Records r x) (hasks : Asks job r.payload)
    (hgives : r.payload.command = .setInitialPose → GivesUp t r.payload raised s) :
    (discipline .apart).Keeps answering t job (r.sendFailed t revoke e) raised a s
      fun _ _ a s => Tidy a s := by
  have huncertain : r.payload.command.held = true → ∀ detail raised a s, Inv .apart s → Tidy a s →
      Known e x s → (discipline .apart).Keeps answering t job (markUncertain e detail) raised a s
        fun _ _ a s => Tidy a s := fun hheld detail raised a s hinv hs hknown =>
    keeps_markUncertain (by rw [hrecords.command]; exact hheld) detail hinv hs hknown
  have hmanual : r.payload.command.held = true → ∀ detail,
      (discipline .apart).Keeps answering t job (revoke r.robotId false >>= fun _ =>
        markUncertain e detail) raised a s fun _ _ a s => Tidy a s := fun hheld detail =>
    Keeps.bind hinv (Calm.framed (hrevoke _ _) (lasting_known e x) hinv hs hknown)
      (fun _ _ _ _ hinv₁ h => huncertain hheld detail _ _ _ hinv₁ h.1 h.2) fun _ _ _ _ _ h => h.1
  have hclose : r.payload.command.held = false → ∀ outcome detail,
      (discipline .apart).Keeps answering t job (closeOut t e outcome detail) raised a s
        fun _ _ a s => Tidy a s := by
    intro hordinary outcome detail
    have hcommand := hknown.2.command.trans hrecords.command
    have hid := hknown.2.commandId.trans hrecords.commandId
    refine keeps_closeOut hinv hs hknown.1 (by rw [Ordinary, hcommand]; exact hordinary)
      (fun hpose => ?_) outcome detail
    have hpose' := hcommand.symm.trans hpose
    obtain ⟨client, robotId, rfl⟩ := hasks hpose'
    obtain ⟨-, hadmitted, hraised⟩ := hgives hpose'
    have hfirst : ∀ s' reply, GivesUp t r.payload raised s' →
        ReturnsFirst t (.request client robotId r.payload) raised s' .socket reply →
          reply ≠ some .cancelled → results s'.published (s.entry e).commandId = 0 := by
      intro s' reply hgives' hreturns hreply
      exact hreturns rfl hreply _ (by simp [returning, hgives', hid])
    rcases hraised with hraised | hnew
    · exact ⟨Admitted r.payload.commandId t, fun _ _ _ => hadmitted,
        (lasting_admitted _ t).stable.endures, fun s' _ _ hs' _ reply _ =>
          hfirst s' reply ⟨hpose', hs', .inl hraised⟩⟩
    · exact ⟨_, fun _ _ _ => ⟨hadmitted, by simpa [Dashboard.write] using hnew⟩,
        (stable_unwired r.payload.commandId).endures, fun s' _ _ hs' _ reply _ =>
          hfirst s' reply ⟨hpose', hs'.1, .inr hs'.2⟩⟩
  unfold Incoming.sendFailed
  split
  · exact hmanual (by simp_all [Command.held, Command.manual]) _
  · exact hmanual (by simp_all [Command.held, Command.manual]) _
  · exact huncertain (by simp_all [Command.held]) _ _ _ _ hinv hs hknown
  · exact huncertain (by simp_all [Command.held]) _ _ _ _ hinv hs hknown
  · refine hclose ?_ _ _
    cases hcommand : r.payload.command <;> simp_all [Command.held, Command.manual]

theorem stopPending_owners (robotId commandId : String) (s : Dashboard) :
    ∃ owner, stopPending robotId commandId s = { s with owner := owner } := by
  unfold stopPending
  split
  · exact ⟨s.owner, rfl⟩
  · exact ⟨_, rfl⟩

/-- The timers of a command that has none yet. -/
theorem Tidy.createTimers (hs : Tidy a s) (hinv : Inv .apart s)
    (hmay : (discipline .apart).May t job s (Incoming.createTimers e s))
    (hopen : Open s.toState e) (hnone : ∀ timer ∈ s.timers, timer.entry ≠ e) :
    Tidy a (Incoming.createTimers e s) := by
  have hold : ∀ (i : Nat) (y : Timer), s.timers[i]? = some y →
      (Incoming.createTimers e s).timers[i]? = some y := by
    intro i y hy
    simp only [Incoming.createTimers, Dashboard.setEntry]
    rw [List.getElem?_append_left (List.getElem?_eq_some_iff.mp hy).1]
    exact hy
  refine ⟨hs.answered.act hinv trivial hmay (.of_published rfl), fun i y hy => ?_,
    hs.assigns.trans fun i y hy => ⟨y, hold i y hy, rfl⟩⟩
  by_cases hlt : i < s.timers.length
  · obtain rfl := Option.some.inj ((hold i _ (List.getElem?_eq_getElem hlt)).symm.trans hy)
    have hmem := List.getElem?_eq_getElem hlt
    obtain ⟨hlisted, hdone⟩ := hs.timed i _ hmem
    have hne := hnone _ (List.getElem_mem hlt)
    refine ⟨?_, hdone⟩
    simpa [Incoming.createTimers, Dashboard.setEntry, hne] using hlisted
  · -- The two new ones.
    simp only [Incoming.createTimers, Dashboard.setEntry] at hy ⊢
    rw [List.getElem?_append_right (Nat.le_of_not_lt hlt)] at hy
    obtain ⟨n, hn⟩ : ∃ n, i = s.timers.length + n :=
      ⟨i - s.timers.length, by omega⟩
    subst hn
    rw [Nat.add_sub_cancel_left] at hy
    rcases n with _ | _ | n
    · obtain rfl := Option.some.inj hy
      exact ⟨by simp, .inl hopen⟩
    · obtain rfl := Option.some.inj hy
      exact ⟨by simp, .inl hopen⟩
    · cases hy

theorem keeps_forward {revoke : String → Bool → Handler Unit}
    (hrevoke : ∀ robotId issue, Calm t job (revoke robotId issue)) (session : Nat)
    (hinv : Inv .apart s) (hs : Tidy a s) (hknown : Known e x s) (hrecords : Records r x)
    (hasks : Asks job r.payload) (hadmitted : Admitted r.payload.commandId t s)
    (hnew : r.payload.commandId ∉ requestIds s.wire) (hopen : Open s.toState e)
    (hnone : ∀ timer ∈ s.timers, timer.entry ≠ e) :
    (discipline .apart).Keeps answering t job (r.forward t revoke session e) raised a s
      fun _ _ a s => Tidy a s := by
  have hpending : (discipline .apart).Keeps answering t job
      (Prog.given (r.payload.command = .teleopStop)
        (Prog.modify (stopPending r.robotId r.payload.commandId))) raised a s fun _ _ a s' =>
      Tidy a s' ∧ ∃ owner, s' = { s with owner := owner } := by
    unfold Prog.given
    split
    · refine Keeps.modify fun hmay _ => ?_
      obtain ⟨owner, howner⟩ := stopPending_owners r.robotId r.payload.commandId s
      rw [howner] at hmay ⊢
      exact ⟨hs.aside hinv hmay rfl, owner, rfl⟩
    · exact ⟨hs, s.owner, rfl⟩
  refine Keeps.bind hinv hpending ?_ fun _ _ _ _ _ h => h.1
  rintro ⟨⟩ raised₁ a₁ s₁ hinv₁ ⟨hs₁, owner, rfl⟩
  refine Keeps.modifyThen fun hmay hinv₂ => ?_
  have hsend := Keeps.bind (g := raised₁) (f := fun _ => Prog.ret true) (T := fun y g a s' =>
      (Tidy a s' ∧ Known e x s') ∧ (y = .error .exception →
        r.payload.command = .setInitialPose → GivesUp t r.payload g s')) hinv₂
    (keeps_transmit session hinv₂ (hs₁.createTimers hinv₁ hmay hopen hnone)
      (lasting_known e x _ _ _ _ _ hinv₁ hmay hknown) hasks hadmitted hnew)
    (fun _ _ _ _ _ h => ⟨h.1, by simp⟩)
    fun _ _ _ _ _ h => ⟨h.1, fun hy => h.2 (by simpa using hy)⟩
  refine Keeps.bind (Q := fun _ _ a s => Tidy a s) hinv₂
    (Keeps.tryCatch hinv₂ hsend (fun _ _ _ _ _ h => h.1.1) ?_) ?_ fun _ _ _ _ _ h => h
  · intro y raised₃ a₃ s₃ hinv₃ h
    cases y with
    | exception =>
      exact Keeps.bind hinv₃ (keeps_sendFailed hrevoke hinv₃ h.1.1 h.1.2 hrecords hasks
        (h.2 rfl)) (fun _ _ _ _ _ h => h) fun _ _ _ _ _ h => h
    | cancelled => exact h.1.1
  · exact fun sent raised₃ a₃ s₃ hinv₃ hs₃ =>
      Calm.given (fun _ => calm_emitEvent _ _ _ _ _) raised₃ a₃ s₃ hinv₃ hs₃

section

variable (r : Incoming) {revoke : String → Bool → Handler Unit}
  (hrevoke : ∀ robotId issue, Calm t job (revoke robotId issue)) (hasks : Asks job r.payload)

theorem calm_reject (reason : String) : Calm t job (r.reject reason) :=
  calm_rejectAudited _ _ _ _ _

include hrevoke hasks

theorem calm_publishCommand (session : Nat) :
    Calm t job (r.publishCommand t revoke session) := by
  intro raised a s hinv hs
  refine Keeps.readThen (Keeps.modifyThen fun hmay hinv₁ => ?_)
  have hs₁ : Tidy a (r.register session s) := hs.update hinv hmay (.of_published rfl) rfl
    fun e he => congrArg ActiveCommand.timers (register_entry he)
  obtain ⟨hadmitted, hnew⟩ := Act.registered hmay trivial (Nat.lt_succ_self _)
  rw [register_entry_self] at hadmitted hnew
  refine Keeps.readThen (Keeps.answerThen fun answer _ => ?_)
  split
  · exact Calm.bind (calm_terminal _) (fun _ => .bind (calm_publish rfl) fun _ => calm_finish _ _ _)
      _ _ _ hinv₁ hs₁
  · exact keeps_forward hrevoke session hinv₁ hs₁ ⟨Nat.lt_succ_self _, .refl _⟩
      ⟨by rw [register_entry_self], by rw [register_entry_self]⟩ hasks hadmitted hnew
      ⟨_, mem_dictSet_self ..⟩ fun timer htimer => Nat.ne_of_lt (hinv.timers timer htimer)

omit hrevoke hasks in
theorem calm_retire (robotId : String) (es : List Nat) :
    Calm t job (Incoming.retire t robotId es) := by
  induction es with
  | nil => exact .ret ()
  | cons e es ih =>
    exact .read fun _ => .bind (.given fun _ => .bind (.given fun _ => .aside fun _ => rfl) fun _ =>
      calm_finish _ _ _) fun _ => ih

theorem calm_audit (session : Nat) : Calm t job (r.audit t revoke session) :=
  .bind (calm_execute fun _ => rfl) fun _ =>
    .bind (.given fun _ => .bind (.aside fun _ => rfl) fun _ => .read fun _ => calm_retire _ _)
      fun _ => calm_publishCommand r hrevoke hasks session

theorem calm_prepareStart (session websocket : Nat) :
    Calm t job (r.prepareStart t revoke session websocket) := by
  unfold Incoming.prepareStart
  split
  · intro raised a s hinv hs
    refine Keeps.readThen (Keeps.answerThen fun answer _ => ?_)
    split
    · exact calm_reject r _ _ _ _ hinv hs
    · split
      · exact calm_reject r _ _ _ _ hinv hs
      · rename_i s' hprepare
        exact Keeps.modifyThen fun hmay hinv₁ => calm_audit r hrevoke hasks session _ _ _ hinv₁
          (hs.aside hinv hmay (prepare_view hprepare))
  · exact calm_audit r hrevoke hasks session

omit hrevoke hasks in
theorem calm_remember (commandId : String) :
    Calm t job (Prog.modify (·.remember commandId) : Handler Unit) :=
  .aside fun s => by simp only [view, Dashboard.remember]

theorem calm_validate : Calm t job (r.validate t revoke) := by
  refine .bind (calm_remember _) fun _ => .read fun s => .answer fun a => ?_
  split
  · exact calm_reject r _
  · split
    · exact calm_reject r _
    · split
      · exact calm_reject r _
      · split
        · exact calm_reject r _
        · split
          · exact calm_reject r _
          · exact calm_prepareStart r hrevoke hasks _ _

omit hrevoke hasks in
theorem calm_commandRecorded (commandId : String) :
    Calm t job (Incoming.commandRecorded t commandId) :=
  .read fun _ => .bind (.aside fun _ => rfl) fun _ =>
    .bind (.andFinally (.wait _) (.aside fun _ => rfl)) fun _ => .ret _

theorem calm_protect : Calm t job (r.protect t revoke) := by
  refine .read fun s => ?_
  split
  · exact calm_reject r _
  · refine .bind (calm_commandRecorded _) fun found => ?_
    split
    · exact calm_reject r _
    · exact calm_validate r hrevoke hasks

theorem calm_takeLease (user : User) : Calm t job (r.takeLease t revoke user) := by
  unfold Incoming.takeLease
  split
  · exact calm_protect r hrevoke hasks
  · refine .read fun s => ?_
    split
    · exact calm_reject r _
    · exact .bind (.aside fun _ => rfl) fun _ => calm_protect r hrevoke hasks

theorem calm_limitRate (user : User) : Calm t job (r.limitRate t revoke user) := by
  refine .answer fun a => ?_
  split
  · exact calm_reject r _
  · exact calm_takeLease r hrevoke hasks user

theorem calm_endManual (user : User) : Calm t job (r.endManual t revoke user) := by
  refine .read fun s => ?_
  split
  · exact .bind (hrevoke _ _) fun _ => calm_limitRate r hrevoke hasks user
  · split
    · exact .bind (hrevoke _ _) fun _ => calm_reject r _
    · exact calm_limitRate r hrevoke hasks user

/-- **A request on its way through admission.** -/
theorem calm_handle : Calm t job (r.handle t revoke) := by
  refine .read fun s => ?_
  split
  · exact calm_reject r _
  · split
    · exact calm_reject r _
    · split
      · exact .bind (.given fun _ => hrevoke _ _) fun _ => calm_reject r _
      · split
        · exact calm_reject r _
        · split
          · exact calm_reject r _
          · exact calm_endManual r hrevoke hasks _

end

theorem calm_requestStop (client : BrowserClient) (robotId : String) {payload : CommandRequest}
    (hstop : payload.command = .teleopStop) :
    Calm t job (requestStop t client robotId payload) :=
  .read fun _ => calm_handle _ (fun _ _ => .bind (calm_endInput _ _) fun _ => .ret ())
    fun hpose => absurd (hstop.symm.trans hpose) (by simp)

theorem calm_revoke (robotId : String) (issue zeroSent : Bool) :
    Calm t job (revoke t robotId issue zeroSent) := by
  refine .bind (calm_endInput _ _) fun owner => ?_
  cases owner with
  | none => exact .ret ()
  | some o =>
    dsimp only
    split
    · exact calm_issueStop (fun _ _ _ hstop => calm_requestStop _ _ hstop) _ _
    · exact .ret ()

theorem calm_acquireAdmission (robotId : String) :
    Calm t job (acquireAdmission t robotId) := by
  refine .read fun s => ?_
  dsimp only
  split
  · exact .aside fun _ => rfl
  · exact .bind (.aside fun _ => rfl) fun _ => .bind (.wait _) fun _ => .aside fun _ => rfl

theorem calm_handleBrowserRequest (client : BrowserClient) (robotId : String)
    (payload : CommandRequest) (hasks : Asks job payload) :
    Calm t job (handleBrowserRequest t client robotId payload) := by
  refine .read fun s => ?_
  have hhandle : Calm t job (Incoming.handle t
      (fun robotId issue => revoke t robotId issue false)
      ⟨client, robotId, payload, s.revisions robotId⟩) :=
    calm_handle _ (fun robotId issue => calm_revoke robotId issue false) hasks
  dsimp only
  split
  · exact hhandle
  · exact .bind (calm_acquireAdmission _) fun _ => .andFinally hhandle (.aside fun _ => rfl)

/-! ### Robot replies -/

theorem calm_publishAck (session e : Nat) (accepted : Bool) (reason : Option String) :
    Calm t job (publishAck t session e accepted reason) := by
  refine .read fun s => .answer fun a => ?_
  dsimp only
  split
  · split
    · exact .bind (.aside fun _ => rfl) fun _ => calm_publish rfl
    · exact .bind (calm_revoke _ _ _) fun _ => calm_publish rfl
  · exact calm_publish rfl

theorem calm_handleAck (session e : Nat) (accepted : Bool) (reason : Option String) :
    Calm t job (handleAck t session e accepted reason) :=
  .bind (.aside fun _ => view_setEntry e _ rfl) fun _ => .bind (calm_publishAck _ _ _ _) fun _ =>
    .given fun _ => .read fun _ => .bind (.given fun _ => calm_terminal _) fun _ =>
      calm_finish _ _ _

/-- A result that a robot reports of a command that is still open. -/
theorem keeps_handleResult {session e : Nat} (outcome : Outcome) (detail : Option String)
    (hinv : Inv .apart s) (hs : Tidy a s) (hopen : Open s.toState e) :
    (discipline .apart).Keeps answering t job (handleResult t session e outcome detail) raised a s
      fun _ _ a s => Tidy a s := by
  obtain ⟨i, hi⟩ := hopen
  have he := (hinv.active i e hi).1
  have hknown : Known e (s.entry e) s := ⟨he, .refl _⟩
  refine Keeps.readThen (Keeps.modifyThen fun hmay hinv₁ => ?_)
  cases hheld : (s.entry e).command.held with
  | false =>
    -- Nothing comes between the publication and the close-out.
    have hzero := hs.answered.opened e ⟨i, hi⟩ hheld
    have hmanual : (s.entry e).command.manual = false := by
      cases hcommand : (s.entry e).command <;> simp_all [Command.held, Command.manual]
    have hreset : (s.entry e).command ≠ .softwareReset := by
      intro hcommand
      simp [hcommand, Command.held] at hheld
    have hlidar : (s.entry e).command ≠ .setLidarPower := by
      intro hcommand
      simp [hcommand, Command.held] at hheld
    simp only [hmanual, hreset, hlidar, Prog.given, false_and, or_self, if_false,
      Bool.false_eq_true]
    exact keeps_finish hinv hs he hzero rfl hinv₁ outcome _
  | true =>
    have hs₁ := hs.update hinv hmay (.uncertain hknown hheld _ _ _) rfl fun _ _ => rfl
    have hknown₁ := lasting_known e _ _ _ _ _ _ hinv hmay hknown
    split
    · exact Keeps.bind hinv₁ (Calm.framed (calm_revoke _ _ _) (lasting_known e _) hinv₁ hs₁
        hknown₁) (fun _ _ _ _ hinv₂ h => keeps_markUncertain hheld _ hinv₂ h.1 h.2)
        fun _ _ _ _ _ h => h.1
    · refine Keeps.bind hinv₁ (Calm.framed (.given fun _ => calm_terminal _) (lasting_known e _)
        hinv₁ hs₁ hknown₁) ?_ fun _ _ _ _ _ h => h.1
      rintro ⟨⟩ raised₂ a₂ s₂ hinv₂ ⟨hs₂, hknown₂⟩
      split
      · exact keeps_markUncertain hheld _ hinv₂ hs₂ hknown₂
      · refine Calm.bind ?_ (fun _ => calm_finish _ _ _) _ _ _ hinv₂ hs₂
        exact .given fun _ => .aside fun _ => rfl

theorem calm_handleRobotReply (session : Nat) (payload : RobotReply) :
    Calm t job (handleRobotReply t session payload) := by
  intro raised a s hinv hs
  refine Keeps.readThen ?_
  dsimp only
  split
  · exact hs
  · rename_i e hlookup
    split
    · exact hs
    · split
      · exact hs
      · split
        · exact calm_handleAck _ _ _ _ _ _ _ hinv hs
        · exact calm_publish rfl _ _ _ hinv hs
        · exact keeps_handleResult _ _ hinv hs ⟨_, mem_of_lookup hlookup⟩

/-! ### Timers -/

/-- The timer is that of the command. -/
def TimerOf (timer e : Nat) (s : Dashboard) : Prop :=
  ∃ x : Timer, s.timers[timer]? = some x ∧ x.entry = e

/-- A timer that is not cancelled finds its command open. -/
theorem TimerOf.open {kind : TimerKind} {e timer : Nat} {reply : Option Interrupt}
    (h : TimerOf timer e s) (hs : Timed s)
    (hreply : replies s t (.timer kind e timer) .socket reply = true)
    (hnot : reply ≠ some .cancelled) : Open s.toState e := by
  obtain ⟨y, hy, rfl⟩ := h
  refine (hs timer y hy).2.resolve_right fun hcancelled => hnot ?_
  simpa [replies, isCancelled, State.timerCancelled, hy, hcancelled] using hreply

/-- A timer closes its own command. -/
theorem keeps_timeout {kind : TimerKind} {e timer : Nat} (hinv : Inv .apart s)
    (hs : Tidy a s) (he : e < s.entries) (htimer : TimerOf timer e s)
    (hordinary : Ordinary s.toState e) (outcome : Outcome) (detail : String) :
    (discipline .apart).Keeps answering t (.timer kind e timer) (closeOut t e outcome detail)
      raised a s fun _ _ a s => Tidy a s := by
  refine keeps_closeOut hinv hs he hordinary (fun _ => ?_) outcome detail
  refine ⟨TimerOf timer e, fun _ _ _ => htimer, ?_, ?_⟩
  · rintro other - job b c - - hfact ⟨y, hy, hentry⟩
    obtain ⟨z, hz, hsame⟩ := hfact.assigns timer y hy
    exact ⟨z, hz, hsame.trans hentry⟩
  · intro s' _ hs' htimer' hknown reply hreply _ hnot
    have hopen := htimer'.open hs'.timed hreply hnot
    rw [← hknown.2.commandId]
    refine hs'.answered.opened e hopen ?_
    rw [Ordinary, hknown.2.command]
    exact hordinary

/-- A timer of a manual session or a power command leaves its outcome open. -/
theorem keeps_expired {e : Nat} (hinv : Inv .apart s) (hs : Tidy a s) (he : e < s.entries)
    (hheld : (s.entry e).command.held = true) (robotId : String) (detail : String) :
    (discipline .apart).Keeps answering t job (revoke t robotId true false >>= fun _ =>
      markUncertain e detail) raised a s fun _ _ a s => Tidy a s :=
  Keeps.bind hinv (Calm.framed (calm_revoke _ _ _) (lasting_known e _) hinv hs ⟨he, .refl _⟩)
    (fun _ _ _ _ hinv₁ h => keeps_markUncertain hheld _ hinv₁ h.1 h.2) fun _ _ _ _ _ h => h.1

/-- The timer wakes up once. -/
theorem Tidy.fired (hs : Tidy a s) (hinv : Inv .apart s) (timer : Nat)
    (hmay : (discipline .apart).May t job s { s with
      timers := s.timers.modify timer fun timer => { timer with fired := true } }) :
    Tidy a { s with
      timers := s.timers.modify timer fun timer => { timer with fired := true } } := by
  refine ⟨hs.answered.act hinv trivial hmay (.of_published rfl), fun i y hy => ?_,
    hs.assigns.trans fun i y hy => ?_⟩
  · rw [List.getElem?_modify] at hy
    obtain ⟨z, hz, rfl⟩ := Option.map_eq_some_iff.mp hy
    obtain ⟨hlisted, hdone⟩ := hs.timed i z hz
    split
    · exact ⟨hlisted, hdone⟩
    · exact ⟨hlisted, hdone⟩
  · refine ⟨if timer = i then { y with fired := true } else y, ?_, ?_⟩
    · simp [List.getElem?_modify, hy]
    · split <;> rfl

theorem keeps_wakeTimer {kind : TimerKind} {e timer : Nat} (hinv : Inv .apart s)
    (hs : Tidy a s) (htimer : TimerOf timer e s) :
    (discipline .apart).Keeps answering t (.timer kind e timer) (wakeTimer t kind e timer) raised a
      s fun _ _ a s => Tidy a s := by
  have he : e < s.entries := by
    obtain ⟨y, hy, rfl⟩ := htimer
    exact hinv.timers y (List.mem_of_getElem? hy)
  refine Keeps.modifyThen fun hmay hinv₁ => ?_
  have hs₁ := hs.fired hinv timer hmay
  have he₁ : e < { s with
      timers := s.timers.modify timer fun timer => { timer with fired := true } }.entries := he
  have htimer₁ : TimerOf timer e { s with
      timers := s.timers.modify timer fun timer => { timer with fired := true } } := by
    obtain ⟨y, hy, hentry⟩ := htimer
    exact ⟨{ y with fired := true }, by simp [hy], hentry⟩
  generalize { s with
    timers := s.timers.modify timer fun timer => { timer with fired := true } } = s₁
    at hinv₁ hs₁ he₁ htimer₁ ⊢
  have hmark : ∀ detail, (s₁.entry e).command.held = true →
      (discipline .apart).Keeps answering t (.timer kind e timer) (markUncertain e detail) raised a
        s₁ fun _ _ a s => Tidy a s := fun detail hheld =>
    keeps_markUncertain hheld detail hinv₁ hs₁ ⟨he₁, .refl _⟩
  cases kind with
  | ack =>
    refine Keeps.readThen ?_
    dsimp only
    split
    · split
      · exact keeps_expired hinv₁ hs₁ he₁ (by simp_all [Command.held, Command.manual]) _ _
      · exact keeps_expired hinv₁ hs₁ he₁ (by simp_all [Command.held, Command.manual]) _ _
      · exact hmark _ (by simp_all [Command.held])
      · exact hmark _ (by simp_all [Command.held])
      · refine keeps_timeout hinv₁ hs₁ he₁ htimer₁ ?_ _ _
        unfold Ordinary
        cases hcommand : (s₁.entry e).command <;> simp_all [Command.held, Command.manual]
    · exact hs₁
  | result =>
    refine Keeps.readThen ?_
    dsimp only
    split
    · exact keeps_expired hinv₁ hs₁ he₁ (by simp_all [Command.held, Command.manual]) _ _
    · exact keeps_expired hinv₁ hs₁ he₁ (by simp_all [Command.held, Command.manual]) _ _
    · exact hmark _ (by simp_all [Command.held])
    · exact hmark _ (by simp_all [Command.held])
    · refine keeps_timeout hinv₁ hs₁ he₁ htimer₁ ?_ _ _
      unfold Ordinary
      cases hcommand : (s₁.entry e).command <;> simp_all [Command.held, Command.manual]

/-! ### The hub -/

theorem calm_velocity (client : BrowserClient) (robotId : String) (frame : Velocity) :
    Calm t job (velocity t client robotId frame) := by
  refine .read fun s => ?_
  split
  · exact .ret ()
  · refine .answer fun a => ?_
    dsimp only
    split
    · exact .ret ()
    · split
      · exact .ret ()
      · split
        · exact calm_revoke _ _ _
        · split
          · exact .ret ()
          · refine .bind (.aside fun _ => rfl) fun _ => .bind (calm_send _ _) fun sent => ?_
            split
            · exact calm_revoke _ _ _
            · split
              · exact calm_revoke _ _ _
              · exact .ret ()

theorem calm_changed (session : Nat) : Calm t job (changed t session) := by
  refine .read fun s => ?_
  dsimp only
  split
  · exact .ret ()
  · refine .answer fun a => ?_
    split
    · exact calm_revoke _ _ _
    · exact .ret ()

theorem calm_watchdog (owners : List (String × Nat)) : Calm t job (watchdog t owners) := by
  induction owners with
  | nil => exact .ret ()
  | cons p owners ih =>
    refine .read fun s => .answer fun a => .bind (.given fun _ => ?_) fun _ => ih
    split
    · exact calm_revoke _ _ _
    · exact calm_changed _

theorem calm_emitEvents (robotId : String) (events : List (String × String × String)) :
    Calm t job (emitEvents robotId events) := by
  induction events with
  | nil => exact .ret ()
  | cons e events ih => exact .bind (calm_emitEvent _ _ _ _ _) fun _ => ih

theorem calm_connectionEvents (session : Nat) : Calm t job (connectionEvents t session) :=
  .read fun _ => .answer fun _ => .bind (calm_emitEvents _ _) fun _ => calm_changed _

theorem calm_publishConnection (session : Nat) : Calm t job (publishConnection session) := by
  refine .read fun s => .answer fun a => ?_
  dsimp only
  split
  · exact .bind (.given fun _ => .suppress (calm_execute fun _ => rfl)) fun _ =>
      .bind (.aside fun _ => rfl) fun _ => calm_publish rfl
  · exact .ret ()

theorem calm_applyConnection (session : Nat) : Calm t job (applyConnection t session) :=
  .bind (calm_publishConnection _) fun _ => calm_connectionEvents _

theorem view_getOrCreate (robotId : String) (s : Dashboard) :
    view (getOrCreate robotId s) = view s := by
  unfold getOrCreate
  split <;> rfl

theorem calm_closePrevious (previous : Nat) : Calm t job (closePrevious previous) := by
  refine .read fun s => ?_
  split
  · exact .suppress (.bind (.aside fun _ => rfl) fun _ => .wait _)
  · exact .ret ()

theorem calm_robotConnected (robotId : String) (websocket : Nat) :
    Calm t job (robotConnected t robotId websocket) := by
  refine .bind (.aside fun _ => view_getOrCreate _ _) fun _ => .read fun s => ?_
  split
  · exact .ret ()
  · exact .bind (.aside fun _ => rfl) fun _ => .bind (.aside fun _ => rfl) fun _ =>
      .bind (calm_revoke _ _ _) fun _ => .bind (calm_closePrevious _) fun _ => .read fun _ =>
        .bind (.aside fun _ => rfl) fun _ => .bind (.aside fun _ => rfl) fun _ => .answer fun _ =>
          .bind (.aside fun _ => rfl) fun _ => calm_applyConnection _

theorem calm_robotDisconnected (session websocket : Nat) :
    Calm t job (robotDisconnected t session websocket) := by
  refine .read fun s => ?_
  dsimp only
  split
  · exact .bind (.aside fun _ => rfl) fun _ => .bind (calm_revoke _ _ _) fun _ =>
      .bind (.aside fun _ => rfl) fun _ => .bind (.aside fun _ => rfl) fun _ =>
        .bind (calm_publishConnection _) fun _ => .bind (.aside fun _ => rfl) fun _ =>
          calm_connectionEvents _
  · exact .ret ()

theorem calm_handleRobotMessage (session : Nat) (frame : Telemetry) :
    Calm t job (handleRobotMessage t session frame) := by
  refine .read fun s => ?_
  dsimp only
  split
  · refine .answer fun a => .bind (.aside fun _ => rfl) fun _ => .read fun _ => ?_
    cases frame with
    | motion motion =>
      dsimp only
      split
      · exact .bind (.aside fun _ => rfl) fun _ => calm_connectionEvents _
      · exact .ret ()
    | baseState generation =>
      exact .bind (.bind (.aside fun _ => rfl) fun _ => .aside fun _ => rfl) fun _ =>
        calm_connectionEvents _
    | other => exact calm_connectionEvents _
  · exact .ret ()

theorem calm_handleRobotCommandReply (session : Nat) (payload : RobotReply) :
    Calm t job (handleRobotCommandReply t session payload) := by
  refine .read fun s => ?_
  dsimp only
  split
  · exact .answer fun _ => .bind (.aside fun _ => rfl) fun _ => calm_handleRobotReply _ _
  · exact .ret ()

theorem calm_revokeClient (client : BrowserClient) (owners : List (String × Nat)) :
    Calm t job (revokeClient t client owners) := by
  induction owners with
  | nil => exact .ret ()
  | cons p owners ih => exact .read fun _ => .bind (.given fun _ => calm_revoke _ _ _) fun _ => ih

theorem calm_cancelMaps (client : BrowserClient) (es : List Nat) :
    Calm t job (cancelMaps client es) := by
  induction es with
  | nil => exact .ret ()
  | cons e es ih => exact .read fun _ => .bind (.given fun _ => calm_cancelMap _) fun _ => ih

theorem calm_cancelForClient (client : BrowserClient) : Calm t job (cancelForClient t client) :=
  .read fun _ => .bind (calm_revokeClient _ _) fun _ => .read fun _ => calm_cancelMaps _ _

/-- **Every handler keeps what has been answered.** -/
theorem keeps_body (hinv : Inv .apart s) (hs : Tidy s s) (hstarts : Starts .apart t job s) :
    (discipline .apart).Keeps answering t job (body t job) false s s fun _ _ a s => Tidy a s := by
  have hcalm : Calm t job (body t job) → (discipline .apart).Keeps answering t job (body t job)
      false s s fun _ _ a s => Tidy a s := fun h => h _ _ _ hinv hs
  cases job with
  | request client robotId payload =>
    exact hcalm (calm_handleBrowserRequest client robotId payload fun _ => ⟨client, robotId, rfl⟩)
  | malformed client robotId commandId command reason => exact hcalm (calm_rejectAudited _ _ _ _ _)
  | velocity client robotId frame => exact hcalm (calm_velocity _ _ _)
  | reply session payload => exact hcalm (calm_handleRobotCommandReply _ _)
  | message session frame => exact hcalm (calm_handleRobotMessage _ _)
  | connected robotId websocket => exact hcalm (calm_robotConnected _ _)
  | disconnected session websocket => exact hcalm (calm_robotDisconnected _ _)
  | connectionCheck session => exact hcalm (calm_applyConnection _)
  | browserGone client => exact hcalm (.aside fun _ => rfl)
  | cancelForClient client => exact hcalm (calm_cancelForClient _)
  | timer kind entry timer =>
    obtain ⟨x, hx, hfound⟩ := (Option.any_eq_true _ _).mp hstarts.admits
    simp only [Bool.and_eq_true, beq_iff_eq] at hfound
    exact keeps_wakeTimer hinv hs ⟨x, hx, hfound.1.1.2⟩
  | watchdog => exact hcalm (.read fun _ => calm_watchdog _)
  | withdraw o task => exact hcalm (.aside fun _ => rfl)

end

end PatrolBot.Server
