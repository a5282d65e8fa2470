import PatrolBot.ServerPlain

/-!
# Close-outs stay within the discipline

`terminal` tells a manual session that one of its commands has ended, `finish`
takes a command out of `active`, writes its outcome and reports it, and
`closeOut` does so for a command the robot never resolved.
-/

namespace PatrolBot.Server

open Coroutine Coroutine.Prog Coroutine.Discipline

section

variable {m : Mode} {pw : Power} {t : Nat} {job : Job} {s : Dashboard} {α : Type}

/-! ### What a manual session waits for -/

theorem Act.stopPending (hinv : Inv m s) {robotId commandId : String}
    (hactive : ∃ e, (commandId, e) ∈ s.active ∧ (s.entry e).command = .teleopStop ∧
      (s.entry e).robotId = robotId) :
    Act m pw t job s (stopPending robotId commandId s) := by
  unfold PatrolBot.Server.stopPending
  split
  · exact .stay
  · rename_i o ho
    refine .setOwner ⟨rfl, rfl, rfl, rfl, rfl, rfl, rfl, id, le_rfl, .refl _, .inl⟩
      ⟨fun _ i hi => ?_, fun i hi => .inl ?_, .inl, id⟩
    · by_cases hmem : commandId ∈ (s.owner o).stopIds
      · simp only [hmem, if_true] at hi
        exact .inl hi
      · simp only [hmem, if_false, List.mem_cons] at hi
        rcases hi with rfl | hi
        · obtain ⟨e, he, hcommand, hrobot⟩ := hactive
          exact .inr ⟨e, he, hcommand, hrobot.trans (hinv.owners _ o ho).2.symm⟩
        · exact .inl hi
    · by_cases hmem : commandId ∈ (s.owner o).stopIds
      · simpa [hmem] using hi
      · simp [hmem, hi]

/-- Only the manual sessions differ. -/
def OwnersOnly (s s' : Dashboard) : Prop :=
  ∃ owner owners revisions,
    s' = { s with owner := owner, owners := owners, revisions := revisions }

theorem Settles.congr {s' : Dashboard} {commandId robotId : String}
    (h : Settles m job s commandId robotId) (hsessions : s'.sessions = s.sessions)
    (hsession : s'.session = s.session) (hwire : s'.wire = s.wire) :
    Settles m job s' commandId robotId := by
  cases h with
  | rejected session reason job_eq robot =>
    exact .rejected session reason job_eq (by rw [hsessions, hsession]; exact robot)
  | answered session outcome detail job_eq known robot =>
    exact .answered session outcome detail job_eq known (by rw [hsessions, hsession]; exact robot)
  | unsent client payload job_eq start same unsent =>
    exact .unsent client payload job_eq start same fun hd => by rw [hwire]; exact unsent hd

theorem Settles.ownersOnly {s' : Dashboard} {commandId robotId : String}
    (h : Settles m job s commandId robotId) (hsame : OwnersOnly s s') :
    Settles m job s' commandId robotId := by
  obtain ⟨owner, owners, revisions, rfl⟩ := hsame
  exact h.congr rfl rfl rfl

/-- The session is told that its start has ended. -/
theorem Act.endStart (hinv : Inv m s) {o : Nat} {robotId : String}
    (ho : s.owners.lookup robotId = some o)
    (hsettles : Settles m job s (s.owner o).commandId robotId) :
    Act m pw t job s
      (s.setOwner o { s.owner o with startTerminal := true, phase := .closing }) := by
  have hrobot := (hinv.owners robotId o ho).2
  refine .setOwner
    ⟨rfl, rfl, rfl, rfl, rfl, rfl, rfl, by simp [Phase.live], le_rfl, .refl _, fun _ => .inr rfl⟩
    ⟨fun _ _ hi => .inl hi, fun _ hi => .inl hi, fun _ => .inr (hrobot.symm ▸ hsettles),
      fun _ => rfl⟩

/-- The session is told that a stop has ended. -/
theorem Act.endStop (hinv : Inv m s) {o : Nat} {robotId commandId : String}
    (ho : s.owners.lookup robotId = some o) (hsettles : Settles m job s commandId robotId) :
    Act m pw t job s (s.setOwner o { s.owner o with
      stopIds := (s.owner o).stopIds.filter (· ≠ commandId) }) := by
  have hrobot := (hinv.owners robotId o ho).2
  refine .setOwner ⟨rfl, rfl, rfl, rfl, rfl, rfl, rfl, id, le_rfl, .refl _, .inl⟩
    ⟨fun _ i hi => .inl (List.mem_of_mem_filter hi), fun i hi => ?_, .inl, id⟩
  by_cases heq : i = commandId
  · exact .inr (heq ▸ hrobot.symm ▸ hsettles)
  · exact .inl (List.mem_filter.mpr ⟨hi, by simpa using heq⟩)

theorem Act.disownDone (hinv : Inv m s) {o : Nat} {robotId : String}
    (ho : s.owners.lookup robotId = some o) (hstart : (s.owner o).startTerminal = true)
    (hstops : (s.owner o).stopIds = []) :
    Act m pw t job s (PatrolBot.Server.disown robotId s) := by
  refine .disown robotId (fun o' ho' => ?_) fun o' ho' => ?_
  · obtain rfl : o' = o := Option.some.inj (ho'.symm.trans ho)
    exact hinv.ended o' (hinv.owners robotId o' ho).1 hstart
  · obtain rfl : o' = o := Option.some.inj (ho'.symm.trans ho)
    exact .inl ⟨hstart, hstops⟩

/-- `terminal` runs without an await and releases the manual session. -/
theorem checks_terminal {F : Dashboard → Prop} (hF : Framed m pw t job F) (hinv : Inv m s)
    (hs : F s) {e : Nat}
    (hsettles : Settles m job s (s.entry e).commandId (s.entry e).robotId) :
    Checks m pw t job (terminal e) s fun r s' =>
      F s' ∧ OwnersOnly s s' ∧ Released s' (s.entry e) ∧ r = .ok () := by
  refine Safe.readThen ?_
  dsimp only
  cases ho : s.owners.lookup (s.entry e).robotId with
  | none =>
    refine Safe.ret ⟨hs, ⟨_, _, _, rfl⟩, fun o' ho' => ?_, rfl⟩
    simp [ho] at ho'
  | some o =>
    dsimp only
    have hstart : Checks m pw t job
        (given ((s.entry e).commandId = (s.owner o).commandId) do
          Prog.modify (bumpRevision (s.entry e).robotId)
          Prog.modify fun s => s.setOwner o
            { s.owner o with startTerminal := true, phase := .closing } : Handler Unit)
        s fun r s' => F s' ∧ OwnersOnly s s' ∧ s'.owners = s.owners ∧
          ((s.entry e).commandId = (s'.owner o).commandId →
            (s'.owner o).startTerminal = true) ∧ r = .ok () := by
      refine checks_given (fun hid => ?_) fun hid =>
        ⟨hs, ⟨_, _, _, rfl⟩, rfl, fun h => absurd h hid, rfl⟩
      have hbump : Act m pw t job s (bumpRevision (s.entry e).robotId s) := .bumpRevision _
      refine Safe.modifyThen hbump fun hinv' => ?_
      have hend : Act m pw t job (bumpRevision (s.entry e).robotId s) _ :=
        Act.endStart hinv' (o := o) ho
          (show Settles m job _ (s.owner o).commandId _ from
            hid ▸ hsettles.ownersOnly ⟨_, _, _, rfl⟩)
      refine Safe.modify hend fun hinv'' =>
        ⟨hF.kept _ _ hinv' hend (hF.kept _ _ hinv hbump hs), ⟨_, _, _, rfl⟩, rfl, ?_, rfl⟩
      simp [Dashboard.setOwner]
    refine Safe.bind hinv hstart ?_ (fun _ _ _ h => absurd h.2.2.2.2 (by simp))
    rintro ⟨⟩ s₁ hinv₁ ⟨hs₁, hsame₁, howners₁, hterminal, -⟩
    have ho₁ : s₁.owners.lookup (s.entry e).robotId = some o := howners₁ ▸ ho
    have hstop : Act m pw t job s₁ _ := Act.endStop hinv₁ ho₁ (hsettles.ownersOnly hsame₁)
    refine Safe.modifyThen hstop fun hinv₂ => Safe.readThen ?_
    have hs₂ := hF.kept _ _ hinv₁ hstop hs₁
    have hsame₂ : OwnersOnly s (s₁.setOwner o { s₁.owner o with
        stopIds := (s₁.owner o).stopIds.filter (· ≠ (s.entry e).commandId) }) := by
      obtain ⟨owner, owners, revisions, rfl⟩ := hsame₁
      exact ⟨_, _, _, rfl⟩
    have hreleased : Released (s₁.setOwner o { s₁.owner o with
        stopIds := (s₁.owner o).stopIds.filter (· ≠ (s.entry e).commandId) }) (s.entry e) := by
      intro o' ho'
      obtain rfl : o' = o := Option.some.inj (ho'.symm.trans ho₁)
      simpa [Dashboard.setOwner] using hterminal
    have ho₂ : (s₁.setOwner o { s₁.owner o with
        stopIds := (s₁.owner o).stopIds.filter (· ≠ (s.entry e).commandId) }).owners.lookup
        (s.entry e).robotId = some o := ho₁
    generalize s₁.setOwner o { s₁.owner o with
        stopIds := (s₁.owner o).stopIds.filter (· ≠ (s.entry e).commandId) } = s₂
      at hinv₂ hs₂ hsame₂ hreleased ho₂ ⊢
    refine checks_given (fun hdone => ?_) fun _ => ⟨hs₂, hsame₂, hreleased, rfl⟩
    have hdisown : Act m pw t job s₂ (disown (s.entry e).robotId s₂) :=
      .disownDone hinv₂ ho₂ hdone.1 hdone.2
    refine Safe.modify hdisown fun _ => ⟨hF.kept _ _ hinv₂ hdisown hs₂, ?_, ?_, rfl⟩
    · obtain ⟨owner, owners, revisions, rfl⟩ := hsame₂
      exact ⟨_, _, _, rfl⟩
    · intro o' ho'
      simp [disown] at ho'

/-! ### Close-outs -/

theorem Framed.mono {pw' : Power} {F : Dashboard → Prop} (hle : pw'.Le pw)
    (hF : Framed m pw t job F) : Framed m pw' t job F :=
  ⟨hF.carried, fun a b hinv hact => hF.kept a b hinv (hact.mono hle)⟩

/-- The task is closing that command and no other. -/
structure Closing (t e : Nat) (outcome : Outcome) (s : Dashboard) : Prop where
  mine : (e, t) ∈ s.closing
  only : ∀ e', (e', t) ∈ s.closing → e' = e
  closed : (e, outcome) ∈ s.closed

/-- The audit has the outcome of the command. -/
def Written (e : Nat) (outcome : Outcome) (s : Dashboard) : Prop :=
  ∃ row, s.audit (s.entry e).commandId = some row ∧ row.outcome = some outcome

theorem stable_closing (e : Nat) (outcome : Outcome) :
    (discipline m).Stable t (Closing t e outcome) := by
  intro other hne job a b hinv hact h
  refine ⟨?_, fun e' he' => h.only e' (hact.closing (.inl hne) he'), ?_⟩
  · cases hact with
    | closed e' _ =>
      exact List.mem_filter.mpr ⟨h.mine, by simpa using Or.inr (Ne.symm hne)⟩
    | pop e' outcome' _ _ _ _ _ => exact List.mem_append_left _ h.mine
    | _ => exact h.mine
  · cases hact with
    | pop e' outcome' _ _ _ _ _ => exact List.mem_append_left _ h.closed
    | _ => exact h.closed

/-- Only the task that closes a command writes its outcome and its report. -/
theorem stable_written (hc : m.calm) (e : Nat) (outcome : Outcome) (n : Nat) :
    (discipline m).Stable t fun s => Closing t e outcome s ∧ Written e outcome s ∧
      reports s.published e = n := by
  rintro other hne job a b hinv hact ⟨hclosing, hwritten, hreports⟩
  refine ⟨stable_closing e outcome other hne job a b hinv hact hclosing, ?_, ?_⟩
  · have hco := hinv.closeOuts hc
    have hu := hinv.unique (m.distinct_of_calm hc)
    obtain ⟨hlt, hopen, -⟩ := hco.closed e outcome hclosing.closed
    obtain ⟨row, hrow, houtcome⟩ := hwritten
    cases hact with
    | insert id row' _ => exact ⟨row, insertAudit_some hrow, houtcome⟩
    | admitRow id row' _ _ => exact ⟨row, insertAudit_some hrow, houtcome⟩
    | complete id outcome' detail hwhy =>
      have hid : (a.entry e).commandId ≠ id := by
        rintro rfl
        rcases hwhy hc with hactive | ⟨e', hmine, hclosed, hid⟩
        · exact hopen ⟨_, hu.mem_active hinv hlt hactive⟩
        · obtain rfl := hu.entries e' e (hco.closed e' outcome' hclosed).1 hlt hid
          exact hne (hco.closer e' other t hmine hclosing.mine)
      exact ⟨row, by simpa [Dashboard.completeAudit, hid] using hrow, houtcome⟩
    | mark entry timers hsame _ =>
      exact ⟨row, by rw [(hsame e).commandId]; exact hrow, houtcome⟩
    | register r session _ _ => exact ⟨row, by rw [register_entry hlt]; exact hrow, houtcome⟩
    | _ => exact ⟨row, hrow, houtcome⟩
  · cases hact with
    | announce p hp _ =>
      rw [reports_publish_of_closes (by simp [hp])]
      exact hreports
    | connection r state _ _ =>
      rw [reports_publish_of_closes (by simp [Publication.closes])]
      exact hreports
    | report p e' hp hwhy =>
      have hne' : e ≠ e' := by
        rintro rfl
        exact hne ((hinv.closeOuts hc).closer e other t (hwhy hc).1 hclosing.mine)
      rw [reports_publish_of_closes (by simp [hp, Ne.symm hne'])]
      exact hreports
    | _ => exact hreports

theorem not_open_of_not_isActive (hinv : Inv m s) {e : Nat}
    (h : ¬s.isActive (s.entry e).commandId = true) : ¬Open s.toState e := by
  rintro ⟨i, hi⟩
  refine h ?_
  rw [(hinv.active i e hi).2]
  exact Option.isSome_iff_exists.mpr (exists_lookup_of_mem hi)

/-- What has been made sure of before a command is closed. -/
structure Closes (m : Mode) (job : Job) (e : Nat) (s : Dashboard) : Prop where
  known : e < s.entries
  closable : s.isActive (s.entry e).commandId = true → Closable m job s e
  released : (s.entry e).command.manual = true → Released s (s.entry e)
  calm : m.calm → job.isTimer = true → ¬s.isActive (s.entry e).commandId = true

theorem popActive_not_open (hinv : Inv m s) (e : Nat) (outcome : Outcome) :
    ¬Open (popActive t e outcome s).toState e := by
  rintro ⟨i, hi⟩
  obtain ⟨hi, hne⟩ := popActive_active_subset hi
  exact hne (hinv.active i e hi).2.symm

/-- In a calm run a close-out that is not a timer's does not fail. -/
theorem not_within (hc : m.calm) (htimer : job.isTimer = false) {x : Interrupt}
    (h : Within (m.sturdy t) job (.error x : Except Interrupt α)) : False := by
  cases x with
  | exception => exact h (m.sturdy_of_calm hc t)
  | cancelled => simp [Within, htimer] at h

/-- The outcome is written, or the database fails. -/
theorem checks_complete {F : Dashboard → Prop} (hF : Framed m .closer t job F) (hinv : Inv m s)
    (hs : F s) {e : Nat} {outcome : Outcome} (detail : String)
    (hclosing : m.calm → Closing t e outcome s ∧ reports s.published e = 0) :
    Checks m .closer t job
      (execute (·.completeAudit (s.entry e).commandId outcome detail)) s fun r s' =>
        F s' ∧ Within (m.sturdy t) job r ∧
          (m.calm → r = .ok () → Closing t e outcome s' ∧ Written e outcome s' ∧
            reports s'.published e = 0) := by
  have hact : Act m .closer t job s (s.completeAudit (s.entry e).commandId outcome detail) :=
    .complete _ _ _ fun hc => .inr ⟨e, (hclosing hc).1.mine, (hclosing hc).1.closed, rfl⟩
  have hs' := hF.kept _ _ hinv hact hs
  have hdone : m.calm → Closing t e outcome (s.completeAudit (s.entry e).commandId outcome detail) ∧
      Written e outcome (s.completeAudit (s.entry e).commandId outcome detail) ∧
        reports (s.completeAudit (s.entry e).commandId outcome detail).published e = 0 := by
    intro hc
    obtain ⟨hmine, hreports⟩ := hclosing hc
    have hlt := ((hinv.closeOuts hc).closed e outcome hmine.closed).1
    have hu := hinv.unique (m.distinct_of_calm hc)
    obtain ⟨p, hp, hid⟩ := List.mem_map.mp (hu.issued e hlt)
    obtain ⟨row, hrow⟩ := Option.isSome_iff_exists.mp (hu.recorded p hp)
    refine ⟨⟨hmine.mine, hmine.only, hmine.closed⟩,
      ⟨{ row with outcome := some outcome, detail := some detail }, ?_, rfl⟩, hreports⟩
    simp [Dashboard.completeAudit, ← hid, hrow]
  obtain ⟨P, hP, hFP, hback⟩ := hF.carried
  refine Safe.answerThen fun a _ => ?_
  cases a.statement with
  | done =>
    refine Safe.modifyThen hact fun hinv' => ?_
    have hstable : (discipline m).Stable t fun s' => P s' ∧ (m.calm → Closing t e outcome s' ∧
        Written e outcome s' ∧ reports s'.published e = 0) :=
      hP.and fun other hne job a b hinv hact h hc =>
        stable_written hc e outcome 0 other hne job a b hinv hact (h hc)
    refine Safe.wait _ ⟨hFP _ hs', hdone⟩ hstable ?_ ?_
    · exact fun s' hinv' h hr => ⟨hback s' _ _ hinv' h.1 hr, trivial, fun hc _ => h.2 hc⟩
    · exact fun x s' hinv' h hr => ⟨hback s' _ _ hinv' h.1 hr,
        hr.within.imp fun hq => ⟨hq, rfl⟩, by simp⟩
  | lost =>
    refine Safe.wait P (hFP _ hs) hP ?_ ?_
    · exact fun s' hinv' h hr => absurd hr.replies (by simp [replies])
    · exact fun x s' hinv' h hr => ⟨hback s' _ _ hinv' h hr,
        hr.within.imp fun hq => ⟨hq, rfl⟩, by simp⟩
  | late =>
    refine Safe.modifyThen hact fun hinv' => ?_
    refine Safe.wait P (hFP _ hs') hP ?_ ?_
    · exact fun s' hinv' h hr => absurd hr.replies (by simp [replies])
    · exact fun x s' hinv' h hr => ⟨hback s' _ _ hinv' h hr,
        hr.within.imp fun hq => ⟨hq, rfl⟩, by simp⟩

/-- The end of a command that did not succeed is reported once. -/
theorem checks_report {F : Dashboard → Prop} (hF : Framed m .closer t job F) (hinv : Inv m s)
    (hs : F s) {e : Nat} {outcome : Outcome} (robotId severity title message : String)
    (hwritten : m.calm → Closing t e outcome s ∧ Written e outcome s ∧
      reports s.published e = 0) :
    Checks m .closer t job (emitEvent robotId severity title message (some e)) s fun r s' =>
      F s' ∧ Within (m.sturdy t) job r ∧
        (m.calm → Closing t e outcome s' ∧ Written e outcome s' ∧
          reports s'.published e = 1) := by
  have hact : Act m .closer t job s
      (s.publish (.event robotId severity title message (some e))) :=
    .report _ e rfl fun hc => ⟨(hwritten hc).1.mine, (hwritten hc).2.2⟩
  refine Safe.modifyThen hact fun hinv' => ?_
  have hs' := hF.kept _ _ hinv hact hs
  have hdone : m.calm →
      Closing t e outcome (s.publish (.event robotId severity title message (some e))) ∧
      Written e outcome (s.publish (.event robotId severity title message (some e))) ∧
      reports (s.publish (.event robotId severity title message (some e))).published e = 1 := by
    intro hc
    obtain ⟨hclosing, hwritten, hreports⟩ := hwritten hc
    refine ⟨⟨hclosing.mine, hclosing.only, hclosing.closed⟩, hwritten, ?_⟩
    simp only [Dashboard.publish, reports_append, hreports]
    simp [reports, Publication.closes]
  obtain ⟨P, hP, hFP, hback⟩ := hF.carried
  have hstable : (discipline m).Stable t fun s' => P s' ∧ (m.calm → Closing t e outcome s' ∧
      Written e outcome s' ∧ reports s'.published e = 1) :=
    hP.and fun other hne job a b hinv hact h hc =>
      stable_written hc e outcome 1 other hne job a b hinv hact (h hc)
  -- Whatever becomes of the row of the event, it has been published.
  have hwait : ∀ fails, Checks m .closer t job (Prog.wait (.statement fails) : Handler Unit)
      (s.publish (.event robotId severity title message (some e))) fun r s' =>
        F s' ∧ Within (m.sturdy t) job r ∧ (m.calm → Closing t e outcome s' ∧
          Written e outcome s' ∧ reports s'.published e = 1) := by
    intro fails
    refine Safe.wait _ ⟨hFP _ hs', hdone⟩ hstable ?_ ?_
    · exact fun s' hinv' h hr => ⟨hback s' _ _ hinv' h.1 hr, trivial, h.2⟩
    · exact fun x s' hinv' h hr => ⟨hback s' _ _ hinv' h.1 hr,
        hr.within.imp fun hq => ⟨hq, rfl⟩, h.2⟩
  refine Safe.answerThen fun a _ => ?_
  cases a.statement with
  | done => exact Safe.modifyThen .stay fun _ => hwait false
  | lost => exact hwait true
  | late => exact Safe.modifyThen .stay fun _ => hwait true

/-- **The close-out.**  It ends without a command of its own that it still closes. -/
theorem checks_finish {F : Dashboard → Prop} (hF : Framed m .closer t job F) (hinv : Inv m s)
    (hs : F s) (hidle : Idle m t s) {e : Nat} (hcloses : Closes m job e s) (outcome : Outcome)
    (detail : String) :
    Checks m .closer t job (finish t e outcome detail) s fun r s' =>
      F s' ∧ Idle m t s' ∧ Gone e s' ∧ Within (m.sturdy t) job r := by
  refine Safe.readThen ?_
  dsimp only
  split
  · rename_i hactive
    have hpop : Act m .closer t job s (popActive t e outcome s) :=
      .pop e outcome trivial hcloses.known hactive (hcloses.closable hactive) hcloses.released
    refine Safe.modifyThen hpop fun hinv₁ => ?_
    have hs₁ : F (popActive t e outcome s) := hF.kept _ _ hinv hpop hs
    have hgone : Gone e (popActive t e outcome s) :=
      ⟨hcloses.known, popActive_not_open hinv e outcome⟩
    have htimer : m.calm → job.isTimer = false := fun hc => by
      cases h : job.isTimer with
      | false => rfl
      | true => exact absurd hactive (hcloses.calm hc h)
    have hclosing : m.calm → Closing t e outcome (popActive t e outcome s) ∧
        reports (popActive t e outcome s).published e = 0 := by
      intro hc
      have hco := hinv.closeOuts hc
      have hopen : Open s.toState e :=
        ⟨_, (hinv.unique (m.distinct_of_calm hc)).mem_active hinv hcloses.known hactive⟩
      refine ⟨⟨List.mem_append_right _ (by simp), fun e' he' => ?_,
        List.mem_append_right _ (by simp)⟩, ?_⟩
      · rcases List.mem_append.mp he' with he' | he'
        · exact absurd he' (hidle hc e')
        · simpa using he'
      · by_contra hreports
        obtain ⟨o, ho⟩ := hco.reports e hreports
        exact (hco.closed e o ho).2.1 hopen
    have hG : Framed m .closer t job fun s' => F s' ∧ Gone e s' :=
      hF.and (lasting_gone e).framed
    have hrobot : ∀ s', Known e (s.entry e) s' → Inv m s' →
        (s'.robots (s.entry e).robotId).isSome = true := fun s' hknown hinv' =>
      hknown.2.robotId ▸ hinv'.sessions e hknown.1
    have hG' : Framed m .closer t job fun s' => (F s' ∧ Gone e s') ∧ Known e (s.entry e) s' :=
      hG.and (lasting_known e _).framed
    refine Safe.bind hinv₁ (checks_complete hG' hinv₁ ⟨⟨hs₁, hgone⟩, hcloses.known, .refl _⟩
      detail hclosing) ?_ ?_
    · rintro ⟨⟩ s₂ hinv₂ ⟨⟨⟨hs₂, hgone₂⟩, hknown₂⟩, -, hwritten⟩
      refine Safe.readThen ?_
      -- What is reported, and that a command that did not succeed is.
      have hreport : Checks m .closer t job
          (given ((s₂.robots (s.entry e).robotId).isSome ∧ outcome ≠ .succeeded)
            (emitEvent (s.entry e).robotId (if outcome = .canceled then "info" else "warning")
              (s.entry e).command.label
              (if detail = "" then "The command did not complete (" ++ outcome.name ++ ")."
                else detail) (some e))) s₂ fun r s' =>
          ((F s' ∧ Gone e s') ∧ Known e (s.entry e) s') ∧ Within (m.sturdy t) job r ∧
            (m.calm → Closing t e outcome s' ∧ Written e outcome s' ∧
              (outcome ≠ .succeeded → reports s'.published e = 1)) := by
        refine checks_given (fun _ => ?_) fun hnot => ⟨⟨⟨hs₂, hgone₂⟩, hknown₂⟩, trivial,
          fun hc => ?_⟩
        · refine (checks_report hG' hinv₂ ⟨⟨hs₂, hgone₂⟩, hknown₂⟩ _ _ _ _
            fun hc => hwritten hc rfl).post hinv₂ fun r s' _ h => ⟨h.1, h.2.1, fun hc => ?_⟩
          obtain ⟨hclosing, hwritten, hreports⟩ := h.2.2 hc
          exact ⟨hclosing, hwritten, fun _ => hreports⟩
        · obtain ⟨hclosing, hwritten, -⟩ := hwritten hc rfl
          refine ⟨hclosing, hwritten, fun hne => absurd ⟨hrobot s₂ hknown₂ hinv₂, hne⟩ hnot⟩
      refine Safe.bind hinv₂ hreport ?_ ?_
      · rintro ⟨⟩ s₃ hinv₃ ⟨⟨⟨hs₃, hgone₃⟩, hknown₃⟩, -, hdone⟩
        have hclosed : Act m .closer t job s₃
            { s₃ with closing := s₃.closing.filter (· ≠ (e, t)) } := by
          refine .closed e fun hc o ho => ?_
          obtain ⟨hclosing, hwritten, hreports⟩ := hdone hc
          obtain rfl := (hinv₃.closeOuts hc).once e o outcome ho hclosing.closed
          exact ⟨hwritten, hreports⟩
        refine Safe.modify hclosed fun _ => ⟨hF.kept _ _ hinv₃ hclosed hs₃, fun hc e' he' => ?_,
          lasting_gone e _ _ _ _ _ hinv₃ hclosed hgone₃, trivial⟩
        obtain ⟨he', hne⟩ := List.mem_filter.mp he'
        have heq := (hdone hc).1.only e' he'
        simp [heq] at hne
      · rintro x s₃ _ ⟨⟨⟨hs₃, hgone₃⟩, -⟩, hx, -⟩
        exact ⟨hs₃, fun hc => (not_within hc (htimer hc) hx).elim, hgone₃, hx.error⟩
    · rintro x s₂ _ ⟨⟨⟨hs₂, hgone₂⟩, -⟩, hx, -⟩
      exact ⟨hs₂, fun hc => (not_within hc (htimer hc) hx).elim, hgone₂, hx.error⟩
  · rename_i hactive
    exact Safe.ret ⟨hs, hidle, ⟨hcloses.known, not_open_of_not_isActive hinv hactive⟩, trivial⟩

/-- A close-out that may also announce. -/
def Power.ending : Power := ⟨fun _ _ => False, False, True, True, False⟩

theorem Framed.plain {F : Dashboard → Prop} (hF : Framed m pw t job F) (hissues : pw.issues) :
    Framed m .plain t job F := hF.mono (Power.plain_le hissues)

/-- In a calm run a timer that closes a command does so for its own map transaction,
    whose robot it tells first. -/
def Returns (m : Mode) (job : Job) (e : Nat) (s : Dashboard) : Prop :=
  m.calm → job.isTimer = true →
    (∃ kind timer, job = .timer kind e timer) ∧ (s.entry e).command = .setInitialPose ∧
      ((s.robots (s.entry e).robotId).bind fun ref => (s.session ref).websocket).isSome = true

/-- After the cancel frame of a map transaction a timer finds its command closed. -/
theorem checks_cancelMap {F : Dashboard → Prop} (hF : Framed m .plain t job F) (hinv : Inv m s)
    (hs : F s) {e : Nat} (hlt : e < s.entries) (hheld : (s.entry e).command.held = false)
    (hreturns : Returns m job e s) :
    Checks m .plain t job (cancelMap e) s fun r s' =>
      (F s' ∧ Known e (s.entry e) s') ∧ Within (m.sturdy t) job r ∧
        (m.calm → job.isTimer = true → ¬s'.isActive (s'.entry e).commandId = true) := by
  have hG : Framed m .plain t job fun s' => F s' ∧ Known e (s.entry e) s' :=
    hF.and (lasting_known e _).framed
  have hGs : F s ∧ Known e (s.entry e) s := ⟨hs, hlt, .refl _⟩
  refine Safe.readThen ?_
  dsimp only
  split
  · split
    · rename_i websocket hwebsocket
      have hcancel : Act m .plain t job s
          (s.write ⟨(s.entry e).robotId, websocket, .cancel (s.entry e).commandId⟩) :=
        .cancel _ _ _
      obtain ⟨P, hP, hGP, hback⟩ := hG.carried
      have hafter : ∀ s' reply, Inv m s' → P s' → Resumes m t job s' .socket reply →
          (F s' ∧ Known e (s.entry e) s') ∧ (m.calm → job.isTimer = true →
            ¬s'.isActive (s'.entry e).commandId = true) := by
        intro s' reply hinv' hs' hr
        have hGs' := hback s' _ _ hinv' hs' hr
        refine ⟨hGs', fun hc htimer hactive => ?_⟩
        obtain ⟨⟨kind, timer, rfl⟩, -⟩ := hreturns hc htimer
        exact hr.calm hc ⟨by rw [hGs'.2.2.command]; exact hheld, hactive⟩
      refine Safe.tryCatch hinv (Q := fun r s' => (F s' ∧ Known e (s.entry e) s') ∧
        Within False job r ∧ (m.calm → job.isTimer = true →
          ¬s'.isActive (s'.entry e).commandId = true)) ?_ (fun _ _ _ h => ⟨h.1, trivial, h.2.2⟩) ?_
      · refine Safe.modifyThen hcancel fun hinv' => ?_
        refine Safe.wait P (hGP _ (hG.kept _ _ hinv hcancel hGs)) hP ?_ ?_
        · intro s' hinv' hs' hr
          obtain ⟨hGs', hclosed⟩ := hafter s' _ hinv' hs' hr
          exact ⟨hGs', trivial, hclosed⟩
        · intro x s' hinv' hs' hr
          obtain ⟨hGs', hclosed⟩ := hafter s' _ hinv' hs' hr
          exact ⟨hGs', hr.within.imp False.elim, hclosed⟩
      · rintro x s' _ ⟨hGs', hx, hclosed⟩
        cases x with
        | exception => exact ⟨hGs', trivial, hclosed⟩
        | cancelled => exact ⟨hGs', hx, hclosed⟩
    · rename_i hnone
      refine Safe.ret ⟨hGs, trivial, fun hc htimer => absurd (hreturns hc htimer).2.2 ?_⟩
      simp [hnone]
  · rename_i hcommand
    exact Safe.ret ⟨hGs, trivial, fun hc htimer => absurd (hreturns hc htimer).2.1 hcommand⟩

theorem checks_closeOut {F : Dashboard → Prop} (hF : Framed m .ending t job F) (hinv : Inv m s)
    (hs : F s) (hidle : Idle m t s) {e : Nat} (hlt : e < s.entries)
    (hheld : (s.entry e).command.held = false)
    (hreturns : s.isActive (s.entry e).commandId = true → Returns m job e s)
    (outcome : Outcome) (detail : String) :
    Checks m .ending t job (closeOut t e outcome detail) s fun r s' =>
      F s' ∧ Idle m t s' ∧ Within (m.sturdy t) job r := by
  have hplain : Framed m .plain t job fun s' => F s' ∧ Idle m t s' :=
    (hF.plain trivial).and (framed_idle id)
  refine Safe.readThen ?_
  dsimp only
  split
  · rename_i hactive
    split
    · rename_i hcommand
      simp [hcommand, Command.held] at hheld
    · refine Safe.bind hinv (Checks.weaken (Power.plain_le trivial) hinv
        (checks_cancelMap hplain hinv ⟨hs, hidle⟩ hlt hheld (hreturns hactive))
        fun _ _ _ h => h) ?_ (fun _ _ _ h => ⟨h.1.1.1, h.1.1.2, h.2.1.error⟩)
      rintro ⟨⟩ s₁ hinv₁ ⟨⟨⟨hs₁, hidle₁⟩, hknown⟩, -, hclosed⟩
      have hpublish : Act m .ending t job s₁ (s₁.publish
          (.reply (s.entry e).robotId (.result (s.entry e).commandId outcome (some detail)))) :=
        .announce _ rfl rfl
      refine Safe.modifyThen hpublish fun hinv₂ => ?_
      have hheld' : (s₁.entry e).command.held = false := by rw [hknown.2.command]; exact hheld
      refine Checks.weaken (Power.closer_le trivial) hinv₂ (checks_finish
        (hF.mono (Power.closer_le trivial)) hinv₂ (hF.kept _ _ hinv₁ hpublish hs₁) hidle₁
        ⟨hknown.1, fun _ => .ordinary hheld', fun hmanual => ?_, hclosed⟩ outcome detail)
        fun _ _ _ h => ⟨h.1, h.2.1, h.2.2.2⟩
      have hordinary : (s₁.entry e).command.manual = true := hmanual
      simp [Command.held, hordinary] at hheld'
  · exact Safe.ret ⟨hs, hidle, trivial⟩

end

end PatrolBot.Server
