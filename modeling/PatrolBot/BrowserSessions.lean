import Mathlib.Data.List.Nodup
import PatrolBot.BrowserTeleop

/-!
# What the dashboard owes a manual session

The runs of the dashboard's store of manual driving, read as a log of the robot's answers
and of the frames that were given out.
-/

namespace PatrolBot.Dashboard

/-! ### The log of a run -/

/-- An answer of the robot. -/
inductive Answer where
  | ack (id : String) (accepted : Bool)
  | result (id outcome : String)

inductive Entry where
  | heard (answer : Answer)
  | said (emission : Emission)

def Answer.ofEvent : TeleopEvent → Option Answer
  | .ack id accepted _ _ _ => some (.ack id accepted)
  | .result id outcome _ _ _ => some (.result id outcome)
  | _ => none

/-- A request without a final answer: the start of a session or a stop for it. -/
structure Debt where
  serial : Nat
  id : String
  ofStart : Bool
deriving DecidableEq

namespace Entry

/-- The request a final answer is about: a refusal, or a result other than a timeout. -/
def final : Entry → Option String
  | heard (.ack id false) => some id
  | heard (.result id outcome) => if outcome = "timeout" then none else some id
  | _ => none

/-- The request an entry is. -/
def debt : Entry → Option Debt
  | said (.start serial id _ _ _) => some ⟨serial, id, true⟩
  | said (.stop serial id _ _) => some ⟨serial, id, false⟩
  | _ => none

/-- The session a frame is about. -/
def serial : Entry → Option Nat
  | said (.velocity serial _ _ _ _ _ _ _) => some serial
  | said (.start serial _ _ _ _) => some serial
  | said (.stop serial _ _ _) => some serial
  | heard _ => none

/-- The session, and its identifier, that a sample with the deadman held is for. -/
def drive : Entry → Option (Nat × String)
  | said (.velocity serial id _ true _ _ _ _) => some (serial, id)
  | _ => none

/-- The number of a sample of the session. -/
def seqOf (session : Nat) : Entry → Option Nat
  | said (.velocity serial _ seq _ _ _ _ _) => if serial = session then some seq else none
  | _ => none

/-- The end of a session: every `end` of it asks for a stop. -/
def isStop (session : Nat) : Entry → Bool
  | said (.stop serial _ _ _) => serial == session
  | _ => false

def isStart (session : Nat) (id : String) : Entry → Bool
  | said (.start serial other _ _ _) => serial == session && other == id
  | _ => false

end Entry

/-- The log of a history. -/
def logOf (history : List (TeleopEvent × List Emission)) : List Entry :=
  history.flatMap fun segment =>
    ((Answer.ofEvent segment.1).map Entry.heard).toList ++ segment.2.map Entry.said

/-- The requests without a final answer after another entry. -/
def owedAfter (debts : List Debt) (entry : Entry) : List Debt :=
  (debts.filter fun debt => entry.final != some debt.id) ++ entry.debt.toList

/-- The requests of a log without a final answer. -/
def owed (log : List Entry) : List Debt :=
  log.foldl owedAfter []

@[simp] theorem owed_append_singleton (log : List Entry) (entry : Entry) :
    owed (log ++ [entry]) = owedAfter (owed log) entry := by
  simp [owed]

/-- The session was asked for, and then accepted. -/
def Granted (log : List Entry) (session : Nat) (id : String) : Prop :=
  ∃ asked rest, log = asked ++ .heard (.ack id true) :: rest ∧
    ∃ entry ∈ asked, entry.isStart session id = true

/-- What holds of every log: a sample with the deadman held follows the acceptance of its
    session and no end of it, and the numbers of a session's samples increase. -/
structure Honest (log : List Entry) : Prop where
  granted : ∀ before entry after session id, log = before ++ entry :: after →
    entry.drive = some (session, id) →
    Granted before session id ∧ ∀ earlier ∈ before, earlier.isStop session = false
  increasing : ∀ session, (log.filterMap (Entry.seqOf session)).Pairwise (· < ·)

/-! ### The invariant -/

/-- What the store owes a session is in the session's record. -/
def Owing (debt : Debt) (session : Session) : Prop :=
  if debt.ofStart then debt.id = session.id ∧ session.startTerminal = false
  else debt.id ∈ session.pendingStops

/-- What the store remembers of the log.  The last clause is about runs that keep to a
    condition: no session but the store's has a request without a final answer. -/
structure Kept (strict : Prop) (log : List Entry) (store : TeleopStore) : Prop where
  honest : Honest log
  distinct : store.sessions.Pairwise fun left right => left.serial ≠ right.serial
  below : ∀ session ∈ store.sessions, session.serial < store.created
  known : ∀ entry ∈ log, ∀ serial, entry.serial = some serial → serial < store.created
  current : ∀ serial, store.session = some serial →
    ∃ session ∈ store.sessions, session.serial = serial
  phase : store.session = none ↔ store.phase = .idle ∨ store.phase = .armed
  started : ∀ session ∈ store.sessions,
    ∃ entry ∈ log, entry.isStart session.serial session.id = true
  numbered : ∀ session ∈ store.sessions, ∀ entry ∈ log, ∀ seq,
    entry.seqOf session.serial = some seq → seq < session.seq
  asked : ∀ session ∈ store.sessions, session.stopIds ≠ [] →
    ∃ entry ∈ log, entry.isStop session.serial = true
  unended : store.phase = .pending ∨ store.phase = .active → ∀ serial,
    store.session = some serial → ∀ entry ∈ log, entry.isStop serial = false
  granted : store.phase = .active → ∀ session ∈ store.sessions,
    store.session = some session.serial → Granted log session.serial session.id
  owing : ∀ session ∈ store.sessions, ∀ debt ∈ owed log, debt.serial = session.serial →
    Owing debt session
  settled : strict → ∀ debt ∈ owed log, store.session = some debt.serial

section

variable {strict : Prop} {log : List Entry} {store : TeleopStore}

theorem mem_owedAfter {debts : List Debt} {entry : Entry} {debt : Debt} :
    debt ∈ owedAfter debts entry ↔
      (debt ∈ debts ∧ entry.final ≠ some debt.id) ∨ entry.debt = some debt := by
  simp [owedAfter]

/-- Every debt is an entry of the log. -/
theorem exists_of_mem_owed {debt : Debt} (h : debt ∈ owed log) :
    ∃ entry ∈ log, entry.debt = some debt := by
  induction log using List.reverseRecOn with
  | nil => cases h
  | append_singleton log entry ih =>
    rw [owed_append_singleton, mem_owedAfter] at h
    rcases h with ⟨h, -⟩ | h
    · obtain ⟨earlier, hearlier, hdebt⟩ := ih h
      exact ⟨earlier, List.mem_append_left _ hearlier, hdebt⟩
    · exact ⟨entry, by simp, h⟩

theorem Granted.append {session : Nat} {id : String} (h : Granted log session id)
    (more : List Entry) : Granted (log ++ more) session id := by
  obtain ⟨asked, rest, rfl, hstart⟩ := h
  exact ⟨asked, rest ++ more, by simp, hstart⟩

/-- An entry that is no driving sample, and numbers that go on increasing, keep a log
    honest. -/
theorem Honest.append {entry : Entry} (h : Honest log)
    (hdrive : ∀ session id, entry.drive = some (session, id) →
      Granted log session id ∧ ∀ earlier ∈ log, earlier.isStop session = false)
    (hseq : ∀ session next, entry.seqOf session = some next →
      ∀ earlier ∈ log, ∀ seq, earlier.seqOf session = some seq → seq < next) :
    Honest (log ++ [entry]) := by
  constructor
  · intro before other after session id hlog hother
    rcases Machine.cut_concat hlog with ⟨rfl, rfl, -⟩ | ⟨rest, -, hlog⟩
    · exact hdrive session id hother
    · exact h.granted before other rest session id hlog hother
  · intro session
    rw [List.filterMap_append, List.pairwise_append]
    refine ⟨h.increasing session, ?_, ?_⟩
    · cases hnext : entry.seqOf session <;> simp [hnext]
    · intro seq hmem next hnext
      obtain ⟨earlier, hearlier, hearlierSeq⟩ := List.mem_filterMap.mp hmem
      have hnext : entry.seqOf session = some next := by simpa using hnext
      exact hseq session next hnext earlier hearlier seq hearlierSeq

/-! ### What keeps the invariant -/

theorem Kept.unique (h : Kept strict log store) {left right : Session}
    (hleft : left ∈ store.sessions) (hright : right ∈ store.sessions)
    (hserial : left.serial = right.serial) : left = right := by
  have hnodup : (store.sessions.map Session.serial).Nodup := List.pairwise_map.mpr h.distinct
  exact List.inj_on_of_nodup_map hnodup hleft hright hserial

/-- Another entry of the log. -/
theorem Kept.append {entry : Entry} (h : Kept strict log store)
    (hdrive : ∀ session id, entry.drive = some (session, id) →
      Granted log session id ∧ ∀ earlier ∈ log, earlier.isStop session = false)
    (hseq : ∀ session next, entry.seqOf session = some next →
      ∀ earlier ∈ log, ∀ seq, earlier.seqOf session = some seq → seq < next)
    (hknown : ∀ serial, entry.serial = some serial → serial < store.created)
    (hnumbered : ∀ session ∈ store.sessions, ∀ seq, entry.seqOf session.serial = some seq →
      seq < session.seq)
    (hunended : store.phase = .pending ∨ store.phase = .active → ∀ serial,
      store.session = some serial → entry.isStop serial = false)
    (howing : ∀ debt, entry.debt = some debt → ∀ session ∈ store.sessions,
      debt.serial = session.serial → Owing debt session)
    (hsettled : strict → ∀ debt, entry.debt = some debt → store.session = some debt.serial) :
    Kept strict (log ++ [entry]) store := by
  have hmem {earlier : Entry} (hearlier : earlier ∈ log ++ [entry]) :
      earlier ∈ log ∨ earlier = entry := by simpa using hearlier
  constructor
  · exact h.honest.append hdrive hseq
  · exact h.distinct
  · exact h.below
  · intro earlier hearlier serial hserial
    rcases hmem hearlier with hearlier | rfl
    · exact h.known earlier hearlier serial hserial
    · exact hknown serial hserial
  · exact h.current
  · exact h.phase
  · intro session hsession
    obtain ⟨earlier, hearlier, hstart⟩ := h.started session hsession
    exact ⟨earlier, List.mem_append_left _ hearlier, hstart⟩
  · intro session hsession earlier hearlier seq hearlierSeq
    rcases hmem hearlier with hearlier | rfl
    · exact h.numbered session hsession earlier hearlier seq hearlierSeq
    · exact hnumbered session hsession seq hearlierSeq
  · intro session hsession hstops
    obtain ⟨earlier, hearlier, hstop⟩ := h.asked session hsession hstops
    exact ⟨earlier, List.mem_append_left _ hearlier, hstop⟩
  · intro hphase serial hserial earlier hearlier
    rcases hmem hearlier with hearlier | rfl
    · exact h.unended hphase serial hserial earlier hearlier
    · exact hunended hphase serial hserial
  · intro hphase session hsession hcurrent
    exact (h.granted hphase session hsession hcurrent).append [entry]
  · intro session hsession debt hdebt hserial
    rw [owed_append_singleton, mem_owedAfter] at hdebt
    rcases hdebt with ⟨hdebt, -⟩ | hdebt
    · exact h.owing session hsession debt hdebt hserial
    · exact howing debt hdebt session hsession hserial
  · intro hstrict debt hdebt
    rw [owed_append_singleton, mem_owedAfter] at hdebt
    rcases hdebt with ⟨hdebt, -⟩ | hdebt
    · exact h.settled hstrict debt hdebt
    · exact hsettled hstrict debt hdebt

/-- An answer only takes debts away. -/
theorem Kept.heard (h : Kept strict log store) (answer : Answer) :
    Kept strict (log ++ [.heard answer]) store := by
  apply h.append <;> simp [Entry.drive, Entry.seqOf, Entry.serial, Entry.isStop, Entry.debt]

/-- The invariant is about the sessions, the session of the store and its phase. -/
theorem Kept.congr {next : TeleopStore} (h : Kept strict log store)
    (hsessions : next.sessions = store.sessions) (hcreated : next.created = store.created)
    (hsession : next.session = store.session) (hphase : next.phase = store.phase) :
    Kept strict log next := by
  constructor
  · exact h.honest
  · rw [hsessions]
    exact h.distinct
  · rw [hsessions, hcreated]
    exact h.below
  · rw [hcreated]
    exact h.known
  · rw [hsessions, hsession]
    exact h.current
  · rw [hsession, hphase]
    exact h.phase
  · rw [hsessions]
    exact h.started
  · rw [hsessions]
    exact h.numbered
  · rw [hsessions]
    exact h.asked
  · rw [hsession, hphase]
    exact h.unended
  · rw [hsessions, hsession, hphase]
    exact h.granted
  · rw [hsessions]
    exact h.owing
  · rw [hsession]
    exact h.settled

/-- The store takes another phase, and with it perhaps another session. -/
theorem Kept.turn {phase : Phase} {session : Option Nat} (h : Kept strict log store)
    (hcurrent : ∀ serial, session = some serial →
      ∃ record ∈ store.sessions, record.serial = serial)
    (hphase : session = none ↔ phase = .idle ∨ phase = .armed)
    (hunended : phase = .pending ∨ phase = .active → ∀ serial, session = some serial →
      ∀ entry ∈ log, entry.isStop serial = false)
    (hgranted : phase = .active → ∀ record ∈ store.sessions, session = some record.serial →
      Granted log record.serial record.id)
    (hsettled : strict → ∀ debt ∈ owed log, session = some debt.serial) :
    Kept strict log { store with phase := phase, session := session } :=
  ⟨h.honest, h.distinct, h.below, h.known, hcurrent, hphase, h.started, h.numbered, h.asked,
    hunended, hgranted, h.owing, hsettled⟩

theorem mem_change {serial : Nat} {f : Session → Session} {session : Session} :
    session ∈ (store.change serial f).sessions ↔
      (∃ before ∈ store.sessions, before.serial = serial ∧ session = f before) ∨
        (session ∈ store.sessions ∧ session.serial ≠ serial) := by
  simp only [TeleopStore.change, List.mem_map]
  constructor
  · rintro ⟨before, hbefore, rfl⟩
    by_cases hserial : before.serial = serial
    · exact Or.inl ⟨before, hbefore, hserial, by simp [hserial]⟩
    · exact Or.inr (by simpa [hserial] using hbefore)
  · rintro (⟨before, hbefore, hserial, rfl⟩ | ⟨hsession, hserial⟩)
    · exact ⟨before, hbefore, by simp [hserial]⟩
    · exact ⟨session, hsession, by simp [hserial]⟩

theorem change_change {serial : Nat} {f g : Session → Session}
    (hserial : ∀ session, (f session).serial = session.serial) :
    (store.change serial f).change serial g = store.change serial fun session => g (f session) := by
  simp only [TeleopStore.change, List.map_map]
  congr 1
  apply List.map_congr_left
  intro session _
  by_cases hown : session.serial = serial <;> simp [hown, hserial]

/-- A record of the session may change in what is not about the log, go on in its number,
    and forget stops that are not owed. -/
theorem Kept.change {serial : Nat} {f : Session → Session} (h : Kept strict log store)
    (hserial : ∀ session, (f session).serial = session.serial)
    (hid : ∀ session, (f session).id = session.id)
    (hseq : ∀ session, session.seq ≤ (f session).seq)
    (hasked : ∀ session ∈ store.sessions, session.serial = serial → (f session).stopIds ≠ [] →
      session.stopIds ≠ [] ∨ ∃ entry ∈ log, entry.isStop serial = true)
    (howing : ∀ session ∈ store.sessions, session.serial = serial → ∀ debt ∈ owed log,
      debt.serial = serial → Owing debt session → Owing debt (f session)) :
    Kept strict log (store.change serial f) := by
  have hfrom {session : Session} (hsession : session ∈ (store.change serial f).sessions) :
      ∃ before ∈ store.sessions, session.serial = before.serial ∧ session.id = before.id ∧
        before.seq ≤ session.seq := by
    rcases mem_change.mp hsession with ⟨before, hbefore, -, rfl⟩ | ⟨hsame, -⟩
    · exact ⟨before, hbefore, hserial before, hid before, hseq before⟩
    · exact ⟨session, hsame, rfl, rfl, le_rfl⟩
  constructor
  · exact h.honest
  · apply List.Pairwise.map _ _ h.distinct
    intro left right hne
    split <;> split <;> simp_all
  · intro session hsession
    obtain ⟨before, hbefore, hsame, -⟩ := hfrom hsession
    rw [hsame]
    exact h.below before hbefore
  · exact h.known
  · intro current hcurrent
    obtain ⟨before, hbefore, hsame⟩ := h.current current hcurrent
    by_cases hown : before.serial = serial
    · exact ⟨f before, mem_change.mpr (Or.inl ⟨before, hbefore, hown, rfl⟩),
        (hserial before).trans hsame⟩
    · exact ⟨before, mem_change.mpr (Or.inr ⟨hbefore, hown⟩), hsame⟩
  · exact h.phase
  · intro session hsession
    obtain ⟨before, hbefore, hsame, hname, -⟩ := hfrom hsession
    rw [hsame, hname]
    exact h.started before hbefore
  · intro session hsession entry hentry seq hnumber
    obtain ⟨before, hbefore, hsame, -, hle⟩ := hfrom hsession
    rw [hsame] at hnumber
    exact lt_of_lt_of_le (h.numbered before hbefore entry hentry seq hnumber) hle
  · intro session hsession hstops
    rcases mem_change.mp hsession with ⟨before, hbefore, hown, rfl⟩ | ⟨hsame, -⟩
    · rw [hserial before]
      rcases hasked before hbefore hown hstops with hold | hnew
      · exact h.asked before hbefore hold
      · rw [hown]
        exact hnew
    · exact h.asked session hsame hstops
  · exact h.unended
  · intro hphase session hsession hcurrent
    obtain ⟨before, hbefore, hsame, hname, -⟩ := hfrom hsession
    rw [hsame] at hcurrent ⊢
    rw [hname]
    exact h.granted hphase before hbefore hcurrent
  · intro session hsession debt hdebt howed
    rcases mem_change.mp hsession with ⟨before, hbefore, hown, rfl⟩ | ⟨hsame, -⟩
    · rw [hserial before] at howed
      exact howing before hbefore hown debt hdebt (howed.trans hown)
        (h.owing before hbefore debt hdebt howed)
    · exact h.owing session hsame debt hdebt howed
  · exact h.settled

/-- A record of the session may change in what is neither about the log nor its number,
    as long as what is owed stays so. -/
theorem Kept.keep {serial : Nat} {f : Session → Session} (h : Kept strict log store)
    (hf : ∀ session, (f session).serial = session.serial ∧ (f session).id = session.id ∧
      (f session).seq = session.seq ∧ (f session).stopIds = session.stopIds)
    (howing : ∀ session ∈ store.sessions, session.serial = serial → ∀ debt ∈ owed log,
      debt.serial = serial → Owing debt session → Owing debt (f session)) :
    Kept strict log (store.change serial f) := by
  apply h.change
  · intro session
    exact (hf session).1
  · intro session
    exact (hf session).2.1
  · intro session
    exact (hf session).2.2.1.ge
  · intro session _ _ hstops
    rw [(hf session).2.2.2] at hstops
    exact Or.inl hstops
  · exact howing

/-! ### Frames -/

/-- A sample takes the session's number; one with the deadman held needs the acceptance. -/
theorem Kept.sample (h : Kept strict log store) {session : Session}
    (hsession : session ∈ store.sessions) (deadman : Bool) (linear angular : ℚ)
    (around : Surroundings)
    (hdrive : deadman = true → Granted log session.serial session.id ∧
      ∀ entry ∈ log, entry.isStop session.serial = false) :
    Kept strict (log ++ (store.sample session deadman linear angular around).2.map .said)
      (store.sample session deadman linear angular around).1 := by
  have hchange : Kept strict log (store.change session.serial fun session =>
      { session with seq := session.seq + 1 }) := by
    apply h.change
    · intro _
      rfl
    · intro _
      rfl
    · intro record
      exact Nat.le_succ record.seq
    · intro _ _ _ hstops
      exact Or.inl hstops
    · intro _ _ _ _ _ _ howing
      exact howing
  apply hchange.append
  · intro serial id hentry
    cases deadman with
    | false => cases hentry
    | true =>
      obtain ⟨rfl, rfl⟩ := Prod.mk.inj (Option.some.inj hentry)
      exact hdrive rfl
  · intro serial next hnext
    simp only [Entry.seqOf] at hnext
    split at hnext
    · rename_i hserial
      obtain rfl := Option.some.inj hnext
      rw [← hserial]
      exact fun earlier hearlier seq hseq => h.numbered session hsession earlier hearlier seq hseq
    · cases hnext
  · intro serial hserial
    obtain rfl := Option.some.inj hserial
    exact h.below session hsession
  · intro record hrecord seq hseq
    simp only [Entry.seqOf] at hseq
    split at hseq
    · rename_i hserial
      obtain rfl := Option.some.inj hseq
      rcases mem_change.mp hrecord with ⟨before, hbefore, hown, rfl⟩ | ⟨-, hother⟩
      · rw [h.unique hbefore hsession hown]
        exact Nat.lt_succ_self _
      · exact absurd hserial.symm hother
    · cases hseq
  · intro _ _ _
    rfl
  · intro debt hdebt
    cases hdebt
  · intro _ debt hdebt
    cases hdebt

/-- A stop ends the session; it is asked for once the store has left it. -/
theorem Kept.stop (h : Kept strict log store) {session : Session}
    (hsession : ∃ record ∈ store.sessions, record.serial = session.serial) (stopId : String)
    (around : Surroundings)
    (hclosed : store.phase = .pending ∨ store.phase = .active →
      store.session ≠ some session.serial)
    (hown : strict → store.session = some session.serial) :
    Kept strict (log ++ (store.stop session stopId around).2.map .said)
      (store.stop session stopId around).1 := by
  have hpending : Kept strict log (store.change session.serial fun session =>
      { session with pendingStops := session.pendingStops.insert stopId }) := by
    apply h.keep
    · exact fun _ => ⟨rfl, rfl, rfl, rfl⟩
    · intro record _ _ debt _ _ howing
      unfold Owing at howing ⊢
      split
      · simpa [*] using howing
      · rename_i hstop
        rw [if_neg hstop] at howing
        exact List.mem_insert_of_mem howing
  have hsaid : Kept strict
      (log ++ [.said (.stop session.serial stopId session.robotId around.connected)])
      (store.change session.serial fun session =>
        { session with pendingStops := session.pendingStops.insert stopId }) := by
    apply hpending.append
    · intro _ _ hentry
      cases hentry
    · intro _ _ hentry
      cases hentry
    · intro serial hserial
      obtain rfl := Option.some.inj hserial
      obtain ⟨record, hrecord, hsame⟩ := hsession
      rw [← hsame]
      exact h.below record hrecord
    · intro _ _ _ hentry
      cases hentry
    · intro hphase serial hserial
      simp only [Entry.isStop, beq_eq_false_iff_ne]
      rintro rfl
      exact hclosed hphase hserial
    · intro debt hdebt record hrecord hserial
      obtain rfl := Option.some.inj hdebt
      rcases mem_change.mp hrecord with ⟨before, _, _, rfl⟩ | ⟨-, hother⟩
      · exact List.mem_insert_self
      · exact absurd hserial.symm hother
    · intro hstrict debt hdebt
      obtain rfl := Option.some.inj hdebt
      exact hown hstrict
  have hasked := @Kept.change _ _ _ session.serial
    (fun session => { session with
      stopId := some stopId, stopIds := session.stopIds.insert stopId }) hsaid
    (fun _ => rfl) (fun _ => rfl) (fun _ => le_rfl)
    (fun _ _ _ _ => Or.inr ⟨_, List.mem_append_right _ (List.mem_singleton_self _),
      by simp [Entry.isStop]⟩)
    (fun _ _ _ _ _ _ howing => howing)
  have hboth := @change_change store session.serial
    (fun session => { session with pendingStops := session.pendingStops.insert stopId })
    (fun session => { session with
      stopId := some stopId, stopIds := session.stopIds.insert stopId }) (fun _ => rfl)
  rw [hboth] at hasked
  exact hasked

theorem Kept.close (h : Kept strict log store) {session : Session}
    (hsession : session ∈ store.sessions) (stopId : String) (around : Surroundings)
    (hclosed : store.phase = .pending ∨ store.phase = .active →
      store.session ≠ some session.serial)
    (hown : strict → store.session = some session.serial) :
    Kept strict (log ++ (store.close session stopId around).2.map .said)
      (store.close session stopId around).1 := by
  have hzero := h.sample hsession false 0 0 around nofun
  have hstop := @Kept.stop _ _ _ hzero session
    ⟨{ session with seq := session.seq + 1 },
      mem_change.mpr (Or.inl ⟨session, hsession, rfl, rfl⟩), rfl⟩ stopId around hclosed hown
  rw [List.append_assoc, ← List.map_append] at hstop
  exact hstop

theorem mem_of_current {session : Session} (h : store.current = some session) :
    session ∈ store.sessions ∧ store.session = some session.serial := by
  have hfound := List.find?_some h
  exact ⟨List.mem_of_find?_eq_some h, by simpa using hfound⟩

theorem Kept.current_eq_none (h : Kept strict log store) (hnone : store.current = none) :
    store.session = none := by
  cases hsession : store.session with
  | none => rfl
  | some serial =>
    obtain ⟨session, hmem, hserial⟩ := h.current serial hsession
    have hother := List.find?_eq_none.mp hnone session hmem
    simp [hsession, hserial] at hother

/-- `end` ends what there is. -/
theorem Kept.finish (h : Kept strict log store) (detail : Option String) (stopId : String)
    (around : Surroundings) :
    Kept strict (log ++ (store.finish detail stopId around).2.map .said)
      (store.finish detail stopId around).1 := by
  unfold TeleopStore.finish
  split
  · simpa using h
  · rename_i hlive
    cases hcurrent : store.current with
    | some session =>
      obtain ⟨hsession, hown⟩ := mem_of_current hcurrent
      have hstopping :
          Kept strict log { store with phase := .stopping, session := store.session } :=
        h.turn h.current (by simp [hown]) nofun nofun h.settled
      apply Kept.close
      · exact hstopping.congr rfl rfl rfl rfl
      · exact hsession
      · exact nofun
      · intro _
        exact hown
    | none =>
      have hnone := h.current_eq_none hcurrent
      have hidle : Kept strict log { store with phase := .idle, session := store.session } :=
        h.turn h.current (by simp [hnone]) nofun nofun h.settled
      rw [List.map_nil, List.append_nil]
      exact hidle.congr rfl rfl rfl rfl

/-- Nothing is owed to a session the store lets go of. -/
theorem Kept.finishIfResolved (h : Kept strict log store) (serial : Nat) :
    Kept strict log (store.finishIfResolved serial) ∧
      ((store.finishIfResolved serial).session = none → ∀ own, store.session = some own →
        ∀ debt ∈ owed log, debt.serial ≠ own) := by
  unfold TeleopStore.finishIfResolved
  split
  · rename_i hresolved
    obtain ⟨session, hcurrent, hdone⟩ := Option.any_eq_true _ _ |>.mp hresolved
    obtain ⟨hsession, hown⟩ := mem_of_current hcurrent
    simp only [Bool.and_eq_true, List.isEmpty_iff] at hdone
    have hnothing : ∀ debt ∈ owed log, debt.serial ≠ session.serial := by
      intro debt hdebt hserial
      have howing := h.owing session hsession debt hdebt hserial
      unfold Owing at howing
      split at howing
      · rw [hdone.1.2] at howing
        cases howing.2
      · rw [hdone.2] at howing
        cases howing
    constructor
    · apply h.turn
      · exact nofun
      · simp
      · exact nofun
      · exact nofun
      · intro hstrict debt hdebt
        have hsettled := h.settled hstrict debt hdebt
        rw [hown] at hsettled
        exact absurd (Option.some.inj hsettled).symm (hnothing debt hdebt)
    · intro _ own hsame
      obtain rfl := Option.some.inj (hown.symm.trans hsame)
      exact hnothing
  · refine ⟨h, ?_⟩
    intro hnone own hown
    rw [hown] at hnone
    cases hnone

/-- What `end` leaves of the store's session. -/
theorem session_finish (detail : Option String) (stopId : String) (around : Surroundings) :
    (store.finish detail stopId around).1.session = store.session := by
  unfold TeleopStore.finish
  split
  · rfl
  · split <;> rfl

/-! ### Sessions that are asked for -/

theorem serial_of_seqOf {entry : Entry} {session seq : Nat} (h : entry.seqOf session = some seq) :
    entry.serial = some session := by
  unfold Entry.seqOf at h
  split at h
  · split at h
    · rename_i hserial
      rw [← hserial]
      rfl
    · cases h
  · cases h

theorem serial_of_isStop {entry : Entry} {session : Nat} (h : entry.isStop session = true) :
    entry.serial = some session := by
  unfold Entry.isStop at h
  split at h
  · rw [beq_iff_eq] at h
    rw [← h]
    rfl
  · cases h

theorem serial_of_debt {entry : Entry} {debt : Debt} (h : entry.debt = some debt) :
    entry.serial = some debt.serial := by
  unfold Entry.debt at h
  split at h
  · obtain rfl := Option.some.inj h
    rfl
  · obtain rfl := Option.some.inj h
    rfl
  · cases h

theorem mem_insertSession {session other : Session} {sessions : List Session}
    (h : other ∈ insertSession session sessions) : other = session ∨ other ∈ sessions := by
  induction sessions with
  | nil => exact Or.inl (List.mem_singleton.mp h)
  | cons first rest ih =>
    unfold insertSession at h
    split at h
    · rcases List.mem_cons.mp h with h | h
      · exact Or.inl h
      · exact Or.inr (List.mem_cons_of_mem _ h)
    · rcases List.mem_cons.mp h with rfl | h
      · exact Or.inr List.mem_cons_self
      · exact (ih h).imp_right (List.mem_cons_of_mem _)

theorem self_mem_insertSession (session : Session) (sessions : List Session) :
    session ∈ insertSession session sessions := by
  induction sessions with
  | nil => exact List.mem_singleton_self session
  | cons first rest ih =>
    unfold insertSession
    split
    · exact List.mem_cons_self
    · exact List.mem_cons_of_mem _ ih

theorem distinct_insertSession {session : Session} {sessions : List Session}
    (hnew : ∀ other ∈ sessions, other.serial < session.serial)
    (hdistinct : sessions.Pairwise fun left right => left.serial ≠ right.serial) :
    (insertSession session sessions).Pairwise fun left right => left.serial ≠ right.serial := by
  induction sessions with
  | nil => exact List.pairwise_singleton _ _
  | cons first rest ih =>
    obtain ⟨hfirst, hrest⟩ := List.pairwise_cons.mp hdistinct
    have hbelow : ∀ other ∈ rest, other.serial < session.serial :=
      fun other hother => hnew other (List.mem_cons_of_mem _ hother)
    unfold insertSession
    split
    · rw [List.pairwise_cons]
      exact ⟨fun other hother => (hbelow other hother).ne', hrest⟩
    · rw [List.pairwise_cons]
      refine ⟨?_, ih hbelow hrest⟩
      intro other hother
      rcases mem_insertSession hother with rfl | hother
      · exact (hnew first List.mem_cons_self).ne
      · exact hfirst other hother

/-- A new session: nothing has been said of it, and only its start is owed. -/
theorem Kept.opened (h : Kept strict log store) (hnone : store.session = none)
    {session : Session} (hserial : session.serial = store.created) (hstops : session.stopIds = [])
    (hterminal : session.startTerminal = false) {request : Entry}
    (hstart : request.isStart session.serial session.id = true) :
    Kept strict (log ++ [request])
      { store.setSession session with
        session := some session.serial, phase := .pending, created := store.created + 1 } := by
  obtain ⟨takeover, robotId, sent, rfl⟩ : ∃ takeover robotId sent,
      request = .said (.start session.serial session.id takeover robotId sent) := by
    unfold Entry.isStart at hstart
    split at hstart
    · rename_i takeover robotId sent
      rw [Bool.and_eq_true, beq_iff_eq, beq_iff_eq] at hstart
      exact ⟨takeover, robotId, sent, by rw [hstart.1, hstart.2]⟩
    · cases hstart
  have hunknown : ∀ entry ∈ log, entry.serial ≠ some session.serial := by
    intro entry hentry hknown
    exact absurd (h.known entry hentry _ hknown) (by omega)
  have hnew : ∀ other ∈ store.sessions, other.serial < session.serial := by
    rw [hserial]
    exact h.below
  constructor
  · apply h.honest.append
    · intro _ _ hentry
      cases hentry
    · intro _ _ hentry
      cases hentry
  · exact distinct_insertSession hnew h.distinct
  · intro other hother
    rcases mem_insertSession hother with rfl | hother
    · exact hserial ▸ Nat.lt_succ_self _
    · exact Nat.lt_succ_of_lt (h.below other hother)
  · intro entry hentry serial hknown
    rcases List.mem_append.mp hentry with hentry | hentry
    · exact Nat.lt_succ_of_lt (h.known entry hentry serial hknown)
    · obtain rfl := List.mem_singleton.mp hentry
      obtain rfl := Option.some.inj hknown
      exact hserial ▸ Nat.lt_succ_self _
  · intro serial hcurrent
    exact ⟨session, self_mem_insertSession session store.sessions, Option.some.inj hcurrent⟩
  · simp
  · intro other hother
    rcases mem_insertSession hother with rfl | hother
    · exact ⟨_, List.mem_append_right _ (List.mem_singleton_self _), hstart⟩
    · obtain ⟨entry, hentry, hother⟩ := h.started other hother
      exact ⟨entry, List.mem_append_left _ hentry, hother⟩
  · intro other hother entry hentry seq hseq
    rcases List.mem_append.mp hentry with hearlier | hnow
    · rcases mem_insertSession hother with rfl | hother
      · exact absurd (serial_of_seqOf hseq) (hunknown entry hearlier)
      · exact h.numbered other hother entry hearlier seq hseq
    · obtain rfl := List.mem_singleton.mp hnow
      cases hseq
  · intro other hother hasked
    rcases mem_insertSession hother with rfl | hother
    · exact absurd hstops hasked
    · obtain ⟨entry, hentry, hstop⟩ := h.asked other hother hasked
      exact ⟨entry, List.mem_append_left _ hentry, hstop⟩
  · intro _ serial hcurrent entry hentry
    obtain rfl := Option.some.inj hcurrent
    rcases List.mem_append.mp hentry with hentry | hentry
    · rw [Bool.eq_false_iff]
      intro hstop
      exact hunknown entry hentry (serial_of_isStop hstop)
    · obtain rfl := List.mem_singleton.mp hentry
      rfl
  · exact nofun
  · intro other hother debt hdebt howed
    rw [owed_append_singleton, mem_owedAfter] at hdebt
    rcases hdebt with ⟨hdebt, -⟩ | hdebt
    · rcases mem_insertSession hother with rfl | hother
      · obtain ⟨entry, hentry, hentryDebt⟩ := exists_of_mem_owed hdebt
        exact absurd (howed ▸ serial_of_debt hentryDebt) (hunknown entry hentry)
      · exact h.owing other hother debt hdebt howed
    · obtain rfl := Option.some.inj hdebt
      rcases mem_insertSession hother with rfl | hother
      · exact ⟨rfl, hterminal⟩
      · exact absurd howed (hnew other hother).ne'
  · intro hstrict debt hdebt
    rw [owed_append_singleton, mem_owedAfter] at hdebt
    rcases hdebt with ⟨hdebt, -⟩ | hdebt
    · have hsettled := h.settled hstrict debt hdebt
      rw [hnone] at hsettled
      cases hsettled
    · obtain rfl := Option.some.inj hdebt
      rfl

theorem Kept.openSession (h : Kept strict log store) (harmed : store.phase = .armed)
    (takeover : Bool) (id stopId : String) (around : Surroundings) :
    Kept strict (log ++ (store.openSession takeover id stopId around).2.map .said)
        (store.openSession takeover id stopId around).1 ∧
      (store.openSession takeover id stopId around).1.session ≠ none := by
  have hnone : store.session = none := h.phase.mpr (Or.inr harmed)
  have hopened := @Kept.opened _ _ _ h hnone (store.newSession id around) rfl rfl rfl
    (.said (.start store.created id (takeover || store.takeover) around.robotId around.connected))
    (by simp [Entry.isStart, TeleopStore.newSession])
  simp only [TeleopStore.openSession]
  split
  · exact ⟨hopened, by simp⟩
  · constructor
    · have hended := hopened.finish (some "Not connected to the dashboard server.") stopId around
      rw [List.append_assoc] at hended
      exact hended
    · rw [session_finish]
      simp

/-! ### Actions -/

/-- An action keeps the invariant over what it says, and does not let go of the session. -/
def Holds (strict : Prop) (log : List Entry) (store : TeleopStore)
    (next : TeleopStore × List Emission) : Prop :=
  Kept strict (log ++ next.2.map .said) next.1 ∧ (next.1.session = none → store.session = none)

theorem Kept.holds {next : TeleopStore} (h : Kept strict log next)
    (hsession : next.session = store.session) : Holds strict log store (next, []) := by
  refine ⟨by simpa using h, ?_⟩
  intro hnone
  rw [← hsession]
  exact hnone

theorem holds_finish (h : Kept strict log store) (detail : Option String) (stopId : String)
    (around : Surroundings) : Holds strict log store (store.finish detail stopId around) := by
  refine ⟨h.finish detail stopId around, ?_⟩
  intro hnone
  rwa [session_finish] at hnone

/-- What follows an action is an action too. -/
theorem Holds.trans {middle next : TeleopStore × List Emission} (h : Holds strict log store middle)
    (hnext : Holds strict (log ++ middle.2.map .said) middle.1 next) :
    Holds strict log store (next.1, middle.2 ++ next.2) := by
  obtain ⟨hkept, hheld⟩ := hnext
  refine ⟨by simpa using hkept, ?_⟩
  intro hnone
  exact h.2 (hheld hnone)

theorem holds_arm (h : Kept strict log store) (takeover : Bool) (around : Surroundings) :
    Holds strict log store (store.arm takeover around, []) := by
  unfold TeleopStore.arm
  split
  · exact h.holds rfl
  · rename_i hidle
    have hidle : store.phase = .idle := not_not.mp hidle
    have hnone : store.session = none := h.phase.mpr (Or.inl hidle)
    split
    · exact Kept.holds (h.congr rfl rfl rfl rfl) rfl
    · have harmed : Kept strict log { store with phase := .armed, session := store.session } :=
        h.turn h.current (by simp [hnone]) nofun nofun h.settled
      exact Kept.holds (harmed.congr rfl rfl rfl rfl) rfl

theorem kept_target (h : Kept strict log store) (linear angular : PyFloat) (digital : Bool)
    (limits : OperationalLimits) :
    Kept strict log (store.target linear angular digital limits) ∧
      (store.target linear angular digital limits).phase = store.phase ∧
      (store.target linear angular digital limits).session = store.session := by
  unfold TeleopStore.target
  cases digital with
  | true => exact ⟨h.congr rfl rfl rfl rfl, rfl, rfl⟩
  | false => exact ⟨h.congr rfl rfl rfl rfl, rfl, rfl⟩

theorem holds_input (h : Kept strict log store) (linear angular : PyFloat)
    (deadman takeover digital : Bool) (id stopId : String) (around : Surroundings) :
    Holds strict log store
      (store.input linear angular deadman takeover digital id stopId around) := by
  unfold TeleopStore.input
  split
  · exact holds_finish h _ _ _
  · split
    · exact h.holds rfl
    · split
      · exact holds_finish h _ _ _
      · exact holds_finish h _ _ _
      · rename_i limits _ _
        obtain ⟨haimed, hphase, hsession⟩ := kept_target h linear angular digital limits
        simp only
        split
        · rename_i harmed
          obtain ⟨hkept, hopen⟩ :=
            haimed.openSession (hphase.trans harmed) takeover id stopId around
          exact ⟨hkept, fun hnone => absurd hnone hopen⟩
        · exact haimed.holds hsession

theorem holds_check (h : Kept strict log store) (stopId : String) (around : Surroundings) :
    Holds strict log store (store.check stopId around) := by
  unfold TeleopStore.check
  split
  · exact h.holds rfl
  · split
    · exact h.holds rfl
    · split
      · exact holds_finish h _ _ _
      · exact h.holds rfl

theorem kept_rampTick (h : Kept strict log store) :
    Kept strict log store.rampTick ∧ store.rampTick.session = store.session := by
  unfold TeleopStore.rampTick
  split
  · exact ⟨h, rfl⟩
  · exact ⟨h.congr rfl rfl rfl rfl, rfl⟩

/-- Only an active session is sampled with the deadman held. -/
theorem holds_tickSample (h : Kept strict log store) (stopId : String) (around : Surroundings) :
    Holds strict log store (store.tickSample stopId around) := by
  unfold TeleopStore.tickSample
  split
  · rename_i session hcurrent
    obtain ⟨hsession, hown⟩ := mem_of_current hcurrent
    split
    · rename_i hactive
      have hsampled := h.sample hsession true store.linear store.angular around fun _ =>
        ⟨h.granted hactive.1 session hsession hown,
          h.unended (Or.inr hactive.1) session.serial hown⟩
      simp only
      split
      · exact ⟨hsampled, fun hnone => hnone⟩
      · have hended := holds_finish hsampled (some "Connection lost — manual input ended.") stopId
          around
        exact Holds.trans ⟨hsampled, fun hnone => hnone⟩ hended
    · exact h.holds rfl
  · exact h.holds rfl

theorem holds_tick (h : Kept strict log store) (stopId : String) (around : Surroundings) :
    Holds strict log store (store.tick stopId around) := by
  unfold TeleopStore.tick
  split
  · exact h.holds rfl
  · have hchecked := holds_check h stopId around
    obtain ⟨hramped, hsame⟩ := kept_rampTick hchecked.1
    have hsampled := holds_tickSample hramped stopId around
    have hrest : Holds strict (log ++ (store.check stopId around).2.map .said)
        (store.check stopId around).1
        ((store.check stopId around).1.rampTick.tickSample stopId around) := by
      refine ⟨hsampled.1, ?_⟩
      intro hnone
      rw [← hsame]
      exact hsampled.2 hnone
    exact hchecked.trans hrest

/-! ### Answers -/

/-- After an answer the invariant holds, and nothing is owed to a session let go of. -/
def Answers (strict : Prop) (log : List Entry) (store : TeleopStore)
    (next : TeleopStore × List Emission) : Prop :=
  Kept strict (log ++ next.2.map .said) next.1 ∧
    (next.1.session = none → ∀ own, store.session = some own →
      ∀ debt ∈ owed (log ++ next.2.map .said), debt.serial ≠ own)

theorem Holds.answers {next : TeleopStore × List Emission} (h : Holds strict log store next) :
    Answers strict log store next := by
  refine ⟨h.1, ?_⟩
  intro hnone own hown
  rw [h.2 hnone] at hown
  cases hown

/-- The first acceptance of a session comes while it is the store's, or the store is idle. -/
def Timely (store : TeleopStore) : TeleopEvent → Prop
  | .ack id true _ _ _ => ∀ session, store.byId id = some session → session.accepted = false →
      session.lateClosed = false → store.session = some session.serial ∨ store.phase = .idle
  | _ => True

/-- A note in a record that is not about the log. -/
theorem Kept.note {serial : Nat} {f : Session → Session} (h : Kept strict log store)
    (hf : ∀ session, (f session).serial = session.serial ∧ (f session).id = session.id ∧
      (f session).seq = session.seq ∧ (f session).stopIds = session.stopIds ∧
      (f session).pendingStops = session.pendingStops ∧
      (f session).startTerminal = session.startTerminal) :
    Kept strict log (store.change serial f) := by
  apply h.keep
  · intro session
    obtain ⟨hserial, hid, hseq, hstops, -⟩ := hf session
    exact ⟨hserial, hid, hseq, hstops⟩
  · intro session _ _ debt _ _ howing
    obtain ⟨-, hid, -, -, hpending, hterminal⟩ := hf session
    unfold Owing at howing ⊢
    rw [hid, hpending, hterminal]
    exact howing

/-- The acceptance of a session makes it active only while the store waits for it; a
    late one closes the session at once. -/
theorem holds_ackAccepted {session : Session} (h : Kept strict log store)
    (hsession : session ∈ store.sessions) (stopId : String) (around : Surroundings)
    (hgranted : Granted log session.serial session.id)
    (htimely : strict → session.accepted = false → session.lateClosed = false →
      store.session = some session.serial ∨ store.phase = .idle) :
    Holds strict log store (store.ackAccepted session stopId around) := by
  have hnoted : Kept strict log (store.change session.serial fun session =>
      { session with accepted := true }) :=
    h.note fun _ => ⟨rfl, rfl, rfl, rfl, rfl, rfl⟩
  have hlate : Kept strict log (store.change session.serial fun session =>
      { session with accepted := true, lateClosed := true }) :=
    h.note fun _ => ⟨rfl, rfl, rfl, rfl, rfl, rfl⟩
  have hclosing : { session with accepted := true, lateClosed := true } ∈
      (store.change session.serial fun session =>
        { session with accepted := true, lateClosed := true }).sessions :=
    mem_change.mpr (Or.inl ⟨session, hsession, rfl, rfl⟩)
  simp only [TeleopStore.ackAccepted]
  split
  · exact h.holds rfl
  · rename_i hfirst
    split
    · rename_i hopen
      obtain ⟨hown, hpending, -⟩ := hopen
      have hactive := @Kept.turn _ _ _ .active store.session hnoted hnoted.current
        (by simp [hown]) (fun _ => h.unended (Or.inl hpending)) ?_ hnoted.settled
      · exact Kept.holds (hactive.congr rfl rfl rfl rfl) rfl
      · intro _ record hrecord hcurrent
        have hself : { session with accepted := true } ∈ (store.change session.serial fun session =>
            { session with accepted := true }).sessions :=
          mem_change.mpr (Or.inl ⟨session, hsession, rfl, rfl⟩)
        rw [hown] at hcurrent
        rw [hnoted.unique hrecord hself (Option.some.inj hcurrent).symm]
        exact hgranted
    · split
      · exact holds_finish hlate _ stopId around
      · rename_i hwaiting
        split
        · rename_i hunclosed
          obtain ⟨hrunning, hunclosed⟩ := hunclosed
          split
          · rename_i hidle
            obtain ⟨-, hnone⟩ := hidle
            have hstopping := @Kept.turn _ _ _ .stopping (some session.serial) hlate
              (fun serial hserial => ⟨_, hclosing, Option.some.inj hserial⟩) (by simp) nofun nofun
              ?_
            · have hheld : Kept strict log { (store.change session.serial fun session =>
                    { session with accepted := true, lateClosed := true }).released
                    ("Late start acceptance — zero requested; " ++
                      "waiting for robot closure.") with
                    phase := .stopping, session := some session.serial } :=
                hstopping.congr rfl rfl rfl rfl
              refine ⟨hheld.close hclosing stopId around nofun fun _ => rfl, ?_⟩
              intro hnone
              cases hnone
            · intro hstrict debt hdebt
              have hsettled := h.settled hstrict debt hdebt
              rw [hnone] at hsettled
              cases hsettled
          · rename_i hbusy
            have hclosed : store.phase = .pending ∨ store.phase = .active →
                store.session ≠ some session.serial := by
              rintro (hphase | hphase) hown
              · exact hwaiting ⟨hown, hphase⟩
              · exact hrunning ⟨hown, hphase⟩
            have hown : strict → store.session = some session.serial := by
              intro hstrict
              rcases htimely hstrict (by simpa using hfirst) hunclosed with hown | hidle
              · exact hown
              · exact absurd ⟨hidle, h.phase.mpr (Or.inl hidle)⟩ hbusy
            exact ⟨hlate.close hclosing stopId around hclosed hown, fun hnone => hnone⟩
        · exact Kept.holds hnoted rfl

theorem Kept.answers_finishIfResolved (h : Kept strict log store) (serial : Nat)
    (before : TeleopStore) (hsame : store.session = before.session) :
    Answers strict log before (store.finishIfResolved serial, []) := by
  obtain ⟨hkept, hnothing⟩ := h.finishIfResolved serial
  refine ⟨by simpa using hkept, ?_⟩
  intro hnone own hown
  simpa using hnothing hnone own (hsame.trans hown)

/-- A refusal is final for the start. -/
theorem answers_ackRefused {session : Session} (h : Kept strict log store)
    (hsession : session ∈ store.sessions) (reason : Option String) (around : Surroundings)
    (hclear : ∀ debt ∈ owed log, debt.id ≠ session.id) :
    Answers strict log store (store.ackRefused session reason around) := by
  simp only [TeleopStore.ackRefused]
  split
  · rename_i hown
    have hrefused : Kept strict log (store.change session.serial fun session =>
        { session with startTerminal := true }) := by
      apply h.keep
      · exact fun _ => ⟨rfl, rfl, rfl, rfl⟩
      · intro record hrecord hserial debt hdebt _ howing
        obtain rfl := h.unique hrecord hsession hserial
        unfold Owing at howing ⊢
        split
        · rename_i hstart
          rw [if_pos hstart] at howing
          exact absurd howing.1 (hclear debt hdebt)
        · rename_i hstop
          rwa [if_neg hstop] at howing
    have hself : { session with startTerminal := true } ∈
        (store.change session.serial fun session =>
          { session with startTerminal := true }).sessions :=
      mem_change.mpr (Or.inl ⟨session, hsession, rfl, rfl⟩)
    have hstopping := @Kept.turn _ _ _ .stopping store.session hrefused hrefused.current
      (by simp [hown]) nofun nofun hrefused.settled
    have hended : Kept strict log { (store.change session.serial fun session =>
          { session with startTerminal := true }).released
          (reason.getD "Manual drive was not accepted. Arm again to retry.") with
          phase := .stopping, watch := none } :=
      hstopping.congr rfl rfl rfl rfl
    have hsampled := hended.sample hself false 0 0 around nofun
    obtain ⟨hkept, hnothing⟩ := hsampled.finishIfResolved session.serial
    exact ⟨hkept, fun hnone own hsame => hnothing hnone own hsame⟩
  · exact (h.holds rfl).answers

/-- A refusal is final for a stop. -/
theorem answers_ackStop {session : Session} {id : String} (h : Kept strict log store)
    (accepted : Bool) (reason : Option String)
    (hclear : accepted = false → ∀ debt ∈ owed log, debt.id ≠ id) :
    Answers strict log store (store.ackStop session id accepted reason, []) := by
  simp only [TeleopStore.ackStop]
  split
  · exact (h.holds rfl).answers
  · rename_i haccepted
    have hanswered : Kept strict log (store.change session.serial fun session =>
        { session with pendingStops := session.pendingStops.erase id }) := by
      have hothers := hclear (by simpa using haccepted)
      apply h.keep
      · exact fun _ => ⟨rfl, rfl, rfl, rfl⟩
      · intro record _ _ debt hdebt _ howing
        unfold Owing at howing ⊢
        split
        · rename_i hstart
          rwa [if_pos hstart] at howing
        · rename_i hstop
          rw [if_neg hstop] at howing
          exact (List.mem_erase_of_ne (hothers debt hdebt)).mpr howing
    apply Kept.answers_finishIfResolved
    · split
      · exact hanswered.congr rfl rfl rfl rfl
      · exact hanswered
    · split <;> rfl

theorem mem_owed_append {more : List Entry} {debt : Debt} (h : debt ∈ owed (log ++ more)) :
    debt ∈ owed log ∨ ∃ entry ∈ more, entry.debt = some debt := by
  induction more using List.reverseRecOn with
  | nil => exact Or.inl (by simpa using h)
  | append_singleton more entry ih =>
    rw [← List.append_assoc, owed_append_singleton, mem_owedAfter] at h
    rcases h with ⟨h, -⟩ | h
    · rcases ih h with h | ⟨earlier, hearlier, hdebt⟩
      · exact Or.inl h
      · exact Or.inr ⟨earlier, List.mem_append_left _ hearlier, hdebt⟩
    · exact Or.inr ⟨entry, by simp, h⟩

/-- `end` asks for a stop, of a session that was pending or active. -/
theorem debt_of_finish {detail : Option String} {stopId : String} {around : Surroundings}
    {debt : Debt}
    (h : ∃ entry ∈ (store.finish detail stopId around).2.map Entry.said, entry.debt = some debt) :
    debt.ofStart = false ∧ store.phase ≠ .idle ∧ store.phase ≠ .stopping := by
  obtain ⟨entry, hentry, hdebt⟩ := h
  unfold TeleopStore.finish at hentry
  split at hentry
  · cases hentry
  · rename_i hlive
    rw [not_or] at hlive
    refine ⟨?_, hlive⟩
    split at hentry
    · simp only [TeleopStore.close, TeleopStore.sample, TeleopStore.stop, List.cons_append,
        List.nil_append, List.map_cons, List.map_nil, List.mem_cons, List.not_mem_nil,
        or_false] at hentry
      rcases hentry with rfl | rfl
      · cases hdebt
      · obtain rfl := Option.some.inj hdebt
        rfl
    · cases hentry

/-- A change that keeps serials and identifiers makes no new ones. -/
theorem exists_of_mem_change {serial : Nat} {f : Session → Session} {session : Session}
    (hf : ∀ session, (f session).serial = session.serial ∧ (f session).id = session.id)
    (h : session ∈ (store.change serial f).sessions) :
    ∃ before ∈ store.sessions, before.serial = session.serial ∧ before.id = session.id := by
  rcases mem_change.mp h with ⟨before, hbefore, -, rfl⟩ | ⟨hsame, -⟩
  · exact ⟨before, hbefore, (hf before).1.symm, (hf before).2.symm⟩
  · exact ⟨session, hsame, rfl, rfl⟩

theorem exists_of_mem_finish {detail : Option String} {stopId : String} {around : Surroundings}
    {session : Session} (h : session ∈ (store.finish detail stopId around).1.sessions) :
    ∃ before ∈ store.sessions, before.serial = session.serial ∧ before.id = session.id := by
  unfold TeleopStore.finish at h
  split at h
  · exact ⟨session, h, rfl, rfl⟩
  · split at h
    · simp only [TeleopStore.close, TeleopStore.sample, TeleopStore.stop] at h
      obtain ⟨middle, hmiddle, hserial, hid⟩ :=
        exists_of_mem_change (by intro _; exact ⟨rfl, rfl⟩) h
      obtain ⟨before, hbefore, hserial', hid'⟩ :=
        exists_of_mem_change (by intro _; exact ⟨rfl, rfl⟩) hmiddle
      exact ⟨before, hbefore, hserial'.trans hserial, hid'.trans hid⟩
    · exact ⟨session, h, rfl, rfl⟩

/-- A final answer is noted where nothing else is owed under its identifier, unless it is
    the answer to the session's start and a stop is. -/
theorem kept_answer {serial : Nat} {id : String} (h : Kept strict log store)
    (hclear : ∀ debt ∈ owed log, debt.id = id → debt.ofStart = false ∧
      ∀ session ∈ store.sessions, session.serial = serial → id = session.id) :
    Kept strict log (store.answer serial id) := by
  apply h.keep
  · intro session
    split
    · exact ⟨rfl, rfl, rfl, rfl⟩
    · exact ⟨rfl, rfl, rfl, rfl⟩
  · intro session hsession hserial debt hdebt _ howing
    split
    · rename_i hid
      unfold Owing at howing ⊢
      split
      · rename_i hstart
        rw [if_pos hstart] at howing
        rw [(hclear debt hdebt (howing.1.trans hid.symm)).1] at hstart
        cases hstart
      · rename_i hstop
        rwa [if_neg hstop] at howing
    · rename_i hid
      unfold Owing at howing ⊢
      split
      · rename_i hstart
        rwa [if_pos hstart] at howing
      · rename_i hstop
        rw [if_neg hstop] at howing
        apply (List.mem_erase_of_ne _).mpr howing
        intro hsame
        exact hid ((hclear debt hdebt hsame).2 session hsession hserial)

/-- The session an answer is about, by its start or by a stop. -/
theorem found_or {id : String} {session : Session}
    (h : (store.byId id).or (store.byStop id) = some session) :
    session ∈ store.sessions ∧ (session.id = id ∨ session.stopIds ≠ []) := by
  rcases Option.or_eq_some_iff.mp h with hfound | ⟨-, hfound⟩
  · have hid := List.find?_some hfound
    exact ⟨List.mem_of_find?_eq_some hfound, Or.inl (by simpa using hid)⟩
  · have hstop := List.find?_some hfound
    refine ⟨List.mem_of_find?_eq_some hfound, Or.inr ?_⟩
    rintro hnone
    simp [hnone] at hstop

/-- The final answer that ends its session is the answer to the start: a session that is
    pending or active has asked for no stop. -/
theorem kept_answer_ended {session : Session} {id : String} {more : List Entry}
    {ended : TeleopStore} (h : Kept strict log store) (hsession : session ∈ store.sessions)
    (hnamed : session.id = id ∨ session.stopIds ≠ [])
    (hown : store.session = some session.serial) (hclear : ∀ debt ∈ owed log, debt.id ≠ id)
    (hended : Kept strict (log ++ more) ended)
    (hrecords : ∀ record, record ∈ ended.sessions →
      ∃ before ∈ store.sessions, before.serial = record.serial ∧ before.id = record.id)
    (hmore : ∀ debt, (∃ entry ∈ more, entry.debt = some debt) →
      debt.ofStart = false ∧ store.phase ≠ .idle ∧ store.phase ≠ .stopping) :
    Kept strict (log ++ more) (ended.answer session.serial id) := by
  apply kept_answer hended
  intro debt hdebt hsame
  rcases mem_owed_append hdebt with hdebt | hdebt
  · exact absurd hsame (hclear debt hdebt)
  · obtain ⟨hstop, hidle, hstopping⟩ := hmore debt hdebt
    refine ⟨hstop, ?_⟩
    intro record hrecord hserial
    obtain ⟨before, hbefore, hbeforeSerial, hbeforeId⟩ := hrecords record hrecord
    rw [← hbeforeId, h.unique hbefore hsession (hbeforeSerial.trans hserial)]
    rcases hnamed with hid | hstops
    · exact hid.symm
    · have hlive : store.phase = .pending ∨ store.phase = .active := by
        have hnone : store.session ≠ none := by simp [hown]
        rw [ne_eq, h.phase, not_or] at hnone
        cases hphase : store.phase <;> simp_all
      obtain ⟨entry, hentry, hstopped⟩ := h.asked session hsession hstops
      rw [h.unended hlive session.serial hown entry hentry] at hstopped
      cases hstopped

theorem answers_handleResult {id outcome : String} (h : Kept strict log store)
    (detail : Option String) (stopId : String) (around : Surroundings)
    (hclear : outcome ≠ "timeout" → ∀ debt ∈ owed log, debt.id ≠ id) :
    Answers strict log store (store.handleResult id outcome detail stopId around) := by
  simp only [TeleopStore.handleResult]
  split
  · exact (h.holds rfl).answers
  · rename_i session hfound
    obtain ⟨hsession, hnamed⟩ := found_or hfound
    by_cases hown : store.session = some session.serial
    · simp only [if_pos hown]
      obtain ⟨hended, hheld⟩ := holds_finish h
        (some (detail.getD "Manual session ended. Arm again to retry.")) stopId around
      split
      · exact Holds.answers ⟨hended.congr rfl rfl rfl rfl, hheld⟩
      · rename_i hfinal
        have htold (text : String) : Kept strict _ { (store.finish
              (some (detail.getD "Manual session ended. Arm again to retry.")) stopId around).1 with
              detail := some text } :=
          hended.congr rfl rfl rfl rfl
        have hnoted := kept_answer_ended h hsession hnamed hown (hclear hfinal)
          (htold ((detail.or (store.finish
            (some (detail.getD "Manual session ended. Arm again to retry.")) stopId
              around).1.detail).getD "Manual session ended. Arm again to retry."))
          (fun _ => exists_of_mem_finish) (fun _ => debt_of_finish)
        obtain ⟨hkept, hnothing⟩ := hnoted.finishIfResolved session.serial
        refine ⟨hkept, ?_⟩
        intro hnone own hsame
        apply hnothing hnone own
        exact (session_finish _ _ _).trans hsame
    · simp only [if_neg hown]
      split
      · exact (h.holds rfl).answers
      · rename_i hfinal
        apply Kept.answers_finishIfResolved
        · apply kept_answer h
          intro debt hdebt hsame
          exact absurd hsame (hclear hfinal debt hdebt)
        · rfl

/-- A final answer leaves nothing owed under its identifier. -/
theorem clear_of_final {entry : Entry} {id : String} (hfinal : entry.final = some id)
    (hnone : entry.debt = none) : ∀ debt ∈ owed (log ++ [entry]), debt.id ≠ id := by
  intro debt hdebt hsame
  rw [owed_append_singleton, mem_owedAfter] at hdebt
  rcases hdebt with ⟨-, hother⟩ | hdebt
  · exact hother (by rw [hfinal, hsame])
  · rw [hnone] at hdebt
    cases hdebt

theorem answers_handleAck {id : String} {accepted : Bool} (h : Kept strict log store)
    (reason : Option String) (stopId : String) (around : Surroundings)
    (htimely : strict → Timely store (.ack id accepted reason stopId around)) :
    Answers strict (log ++ [.heard (.ack id accepted)]) store
      (store.handleAck id accepted reason stopId around) := by
  have hheard := h.heard (.ack id accepted)
  have hclear : accepted = false →
      ∀ debt ∈ owed (log ++ [.heard (.ack id accepted)]), debt.id ≠ id := by
    rintro rfl
    exact clear_of_final rfl rfl
  unfold TeleopStore.handleAck
  split
  · rename_i session hfound
    have hsession : session ∈ store.sessions := List.mem_of_find?_eq_some hfound
    obtain rfl : session.id = id := by simpa using List.find?_some hfound
    split
    · rename_i haccepted
      obtain rfl := haccepted
      apply Holds.answers
      apply holds_ackAccepted hheard hsession
      · exact ⟨log, [], rfl, h.started session hsession⟩
      · intro hstrict
        exact htimely hstrict session hfound
    · rename_i hrefused
      exact answers_ackRefused hheard hsession reason around (hclear (by simpa using hrefused))
  · split
    · exact answers_ackStop hheard accepted reason hclear
    · exact (hheard.holds rfl).answers

/-! ### Runs -/

/-- What one event keeps: the robot's answer is noted first, then what is said to it. -/
theorem answers_step (h : Kept strict log store) (event : TeleopEvent)
    (htimely : strict → Timely store event) :
    Answers strict (log ++ ((Answer.ofEvent event).map Entry.heard).toList) store
      (store.step event) := by
  cases event with
  | arm takeover around =>
    simpa [Answer.ofEvent, TeleopStore.step] using (holds_arm h takeover around).answers
  | input linear angular deadman takeover digital id stopId around =>
    simpa [Answer.ofEvent, TeleopStore.step] using
      (holds_input h linear angular deadman takeover digital id stopId around).answers
  | check stopId around =>
    simpa [Answer.ofEvent, TeleopStore.step] using (holds_check h stopId around).answers
  | tick stopId around =>
    simpa [Answer.ofEvent, TeleopStore.step] using (holds_tick h stopId around).answers
  | finish detail stopId around =>
    simpa [Answer.ofEvent, TeleopStore.step] using (holds_finish h detail stopId around).answers
  | ack id accepted reason stopId around =>
    exact answers_handleAck h reason stopId around htimely
  | result id outcome detail stopId around =>
    apply answers_handleResult (h.heard (.result id outcome))
    intro houtcome
    exact clear_of_final (by simp [Entry.final, houtcome]) rfl

theorem logOf_append_singleton (history : List (TeleopEvent × List Emission))
    (event : TeleopEvent) (emissions : List Emission) :
    logOf (history ++ [(event, emissions)]) =
      logOf history ++ ((Answer.ofEvent event).map Entry.heard).toList ++
        emissions.map Entry.said := by
  simp [logOf]

theorem kept_initial (strict : Prop) : Kept strict [] {} := by
  constructor
  · constructor
    · intro before entry after _ _ hlog
      simp at hlog
    · intro _
      exact List.Pairwise.nil
  · exact List.Pairwise.nil
  all_goals simp [owed]

theorem kept_run {events : List TeleopEvent}
    (halong : teleopStore.Along (fun store event => strict → Timely store event) {} events) :
    Kept strict (logOf (teleopStore.trace {} events)) (teleopStore.run {} events) := by
  apply teleopStore.history_invariant (fun history store => Kept strict (logOf history) store) _
    (kept_initial strict) halong
  intro history store event htimely h
  rw [logOf_append_singleton]
  exact (answers_step h event htimely).1

/-- Every `end` of a session that is pending or active asks for a stop. -/
theorem exists_stop_of_finish (h : Kept strict log store) {serial : Nat}
    (hlive : store.phase = .pending ∨ store.phase = .active)
    (hown : store.session = some serial) (detail : Option String) (stopId : String)
    (around : Surroundings) :
    ∃ entry ∈ (store.finish detail stopId around).2.map Entry.said,
      entry.isStop serial = true := by
  have hphase : ¬(store.phase = .idle ∨ store.phase = .stopping) := by
    rcases hlive with hlive | hlive <;> simp [hlive]
  unfold TeleopStore.finish
  rw [if_neg hphase]
  cases hcurrent : store.current with
  | none =>
    rw [h.current_eq_none hcurrent] at hown
    cases hown
  | some session =>
    obtain ⟨-, hsame⟩ := mem_of_current hcurrent
    obtain rfl := Option.some.inj (hsame.symm.trans hown)
    exact ⟨.said (.stop session.serial stopId session.robotId around.connected),
      by simp [TeleopStore.close, TeleopStore.sample, TeleopStore.stop], by simp [Entry.isStop]⟩

end

/-- In every run a sample with the deadman held follows the acceptance of its session and
    no end of it, the numbers of a session's samples increase, a session that has ended is
    not active again, and the store returns from its session to idle only when the start
    and every stop of that session has a final answer.  No session at all is owed an
    answer in an idle store, in the runs in which the first acceptance of a session comes
    while the session is the store's or the store is idle. -/
theorem sessions_run (events : List TeleopEvent) :
    Honest (logOf (teleopStore.trace {} events)) ∧
      ((teleopStore.run {} events).phase = .active →
        ∀ serial, (teleopStore.run {} events).session = some serial →
          ∀ entry ∈ logOf (teleopStore.trace {} events), entry.isStop serial = false) ∧
      (∀ before event, events = before ++ [event] →
        (teleopStore.run {} events).phase = .idle →
          ∀ serial, (teleopStore.run {} before).session = some serial →
            ∀ debt ∈ owed (logOf (teleopStore.trace {} events)), debt.serial ≠ serial) ∧
      (teleopStore.Along Timely {} events → (teleopStore.run {} events).phase = .idle →
        owed (logOf (teleopStore.trace {} events)) = []) := by
  have hall (before : List TeleopEvent) :
      Kept False (logOf (teleopStore.trace {} before)) (teleopStore.run {} before) := by
    apply kept_run
    apply teleopStore.along_mono _ (teleopStore.along_true {} before)
    intro store event _
    exact False.elim
  refine ⟨(hall events).honest, ?_, ?_, ?_⟩
  · intro hactive
    exact (hall events).unended (Or.inr hactive)
  · rintro before event rfl hidle serial hown
    have hstep := answers_step (hall before) event False.elim
    have hnone := (hall (before ++ [event])).phase.mpr (Or.inl hidle)
    rw [teleopStore.run_append] at hnone
    have hnothing := hstep.2 hnone serial hown
    rw [← logOf_append_singleton] at hnothing
    rw [teleopStore.trace_append]
    exact hnothing
  · intro halong hidle
    have hkept : Kept True (logOf (teleopStore.trace {} events)) (teleopStore.run {} events) := by
      apply kept_run
      apply teleopStore.along_mono _ halong
      intro store event htimely _
      exact htimely
    rw [List.eq_nil_iff_forall_not_mem]
    intro debt hdebt
    have hsettled := hkept.settled trivial debt hdebt
    rw [hkept.phase.mpr (Or.inl hidle)] at hsettled
    cases hsettled

/-- Nothing is against manual driving. -/
def ready : Surroundings where
  reason := none
  operatorId := some "operator"
  robotId := "robot"
  robotGeneration := some 1
  policy := "policy"
  limits := some ⟨readContract.linear, readContract.angular⟩
  connected := true

/-- A session that is over, and accepted only then, while the store is armed again. -/
def lateAcceptance : List TeleopEvent :=
  [.arm false ready, .input (.finite 0) (.finite 0) true false false "start" "unused" ready,
    .finish none "stop" ready, .result "start" "cancelled" none "unused" ready,
    .result "stop" "succeeded" none "unused" ready, .arm false ready,
    .ack "start" true none "late stop" ready]

/-- The store returns to idle while the late stop of the session has no answer. -/
theorem not_sessions :
    (teleopStore.run {} lateAcceptance).phase ≠ .idle ∧
      (teleopStore.run {} (lateAcceptance ++ [.finish none "unused" ready])).phase = .idle ∧
      owed (logOf (teleopStore.trace {} (lateAcceptance ++ [.finish none "unused" ready]))) =
        [⟨0, "late stop", false⟩] := by
  decide +kernel

end PatrolBot.Dashboard
