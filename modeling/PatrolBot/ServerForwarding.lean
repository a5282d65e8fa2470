import PatrolBot.ServerSafety

/-!
# Forwarding

Between the lookup of a command id in the audit and its entry there is an
await, and the requests that end manual input pass the admission lock.  Two
requests with one id that are both looking it up are therefore both forwarded.
In the runs where that does not happen no command id reaches a socket twice.
-/

namespace PatrolBot.Server

open Coroutine Coroutine.Discipline

/-- No two audit lookups under way are about one id that is not in the audit yet. -/
def LooksUpApart (w : ServerWorld) (_ : ServerEvent) : Prop := (unfound w.shared.toState).Nodup

instance (w : ServerWorld) (e : ServerEvent) : Decidable (LooksUpApart w e) :=
  inferInstanceAs (Decidable (unfound w.shared.toState).Nodup)

def Mode.apart : Mode where
  distinct := True
  named := False
  sturdy _ := False
  calm := False
  serial := False
  prompt := False
  reserved _ _ := False
  received _ _ _ := False
  attended _ _ := True
  distinct_of_named := False.elim
  distinct_of_calm := False.elim
  sturdy_of_calm hc _ := hc

theorem guards_apart : Guards .apart LooksUpApart :=
  Mode.Even.guards ⟨fun _ _ => id, fun _ _ _ => id, fun _ _ => trivial⟩
    (fun _ _ _ _ => ⟨False.elim, False.elim⟩) fun _ _ _ _ hguard _ hreplies =>
      ⟨hreplies, fun _ => hguard, False.elim, False.elim, False.elim, False.elim, False.elim,
        trivial⟩

/-- No command id is handed to a robot socket more than once. -/
def ForwardedOnce (s : Dashboard) : Prop := (requestIds s.wire).Nodup

instance (s : Dashboard) : Decidable (ForwardedOnce s) :=
  inferInstanceAs (Decidable (requestIds s.wire).Nodup)

/-- **Forwarding at most once.** -/
theorem forwardedOnce_run (audit : String → Option AuditRow) (es : List ServerEvent)
    (along : server.loop.Along LooksUpApart (System.initial (started audit)) es) :
    ForwardedOnce (runServer audit es).shared :=
  ((guards_apart.orderly along).inv.unique trivial).wire

/-! ### Two requests that look up one id -/

def operator : BrowserClient := ⟨0, some ⟨1, "operator", true⟩⟩

/-- The surroundings as they usually are. -/
def calmly : Nat → Answer := fun _ => { uuid := "33333333-3333-4333-8333-333333333333" }

def requestOf (commandId : String) (command : Command) : Job :=
  .request operator "robot" { commandId := commandId, command := command }

/-- The awaits of a task end as they should, that many times. -/
def resumed (t n : Nat) : List ServerEvent := List.replicate n (.resume t none calmly)

/-- A request that goes through without waiting for its admission lock. -/
def requested (t : Nat) (commandId : String) (command : Command) : List ServerEvent :=
  .start (requestOf commandId command) calmly :: resumed t 4

/-- Two stops of one id: both look it up, both are entered, both are sent. -/
def overlappingStops : List ServerEvent :=
  [.start (.connected "robot" 7) calmly,
    .start (requestOf "halt" .stop) calmly, .start (requestOf "halt" .stop) calmly,
    .resume 1 none calmly, .resume 2 none calmly, .resume 1 none calmly, .resume 2 none calmly]

theorem not_forwardedOnce_of_overlap :
    ¬ForwardedOnce (runServer (fun _ => none) overlappingStops).shared := by
  decide +kernel

/-- One stop after the other, the second under the id of the first. -/
theorem forwardedOnce_of_replay :
    ForwardedOnce (runServer (fun _ => none) [.start (.connected "robot" 7) calmly,
      .start (requestOf "halt" .stop) calmly, .resume 1 none calmly, .resume 1 none calmly,
      .start (requestOf "halt" .stop) calmly]).shared := by
  refine forwardedOnce_run _ _ ⟨?_, ?_, ?_, ?_, ?_, trivial⟩ <;> decide +kernel

end PatrolBot.Server
