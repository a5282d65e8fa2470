import PatrolBot.Library.Durable
import PatrolBot.Library.JsonText
import PatrolBot.Library.Machine

/-!
# The active map across a loss of power

`ActiveMapStore` of `server/app/telemetry/map_catalog.py`: the robot's map is written to a
temporary file, synced, renamed into place, and the directory synced.  Each call of the
system may fail, the process may be killed and the power may go between any two.  Whatever
happens, `load` answers with the last map that was saved or with one that was being saved
since: never with an error, and never with half a document.
-/

namespace PatrolBot.ActiveMap

/-- `DEFAULT_MAP_ID`. -/
def defaultMapId : String := "cmuq-floor2"

structure Identity where
  mapId : String
  revision : String
deriving DecidableEq

/-- The `maps` of a `MapCatalog`: the revision of each map; its constructor sees to the
    default. -/
structure Catalog where
  maps : String → Option String
  complete : (maps defaultMapId).isSome = true

/-- `require`. -/
def Catalog.require (catalog : Catalog) (identity : Identity) : Bool :=
  catalog.maps identity.mapId == some identity.revision

def Catalog.default (catalog : Catalog) : Identity :=
  ⟨defaultMapId, (catalog.maps defaultMapId).get catalog.complete⟩

/-- What stands around the values of a document. -/
def beforeMapId : List Char := "\x7b\"map_id\": \"".toList

def beforeRevision : List Char := ", \"revision\": \"".toList

def afterRevision : List Char := ", \"schema_version\": 1\x7d".toList

/-- `json.dump(data, stream, sort_keys=True)`. -/
def document (identity : Identity) : List Char :=
  beforeMapId ++ JsonText.stringBody identity.mapId.toList ++ beforeRevision ++
    JsonText.stringBody identity.revision.toList ++ afterRevision

/-- What `load` looks up in a decoded document. -/
structure Document where
  schemaVersion : Option Int
  mapId : Option String
  revision : Option String
deriving DecidableEq

/-- `json.load`, or `none` where it raises or there is no dictionary. -/
structure Reader where
  loads : List Char → Option Document
  loads_document : ∀ identity,
    loads (document identity) = some ⟨some 1, some identity.mapId, some identity.revision⟩

/-- What comes after a word. -/
def after (word text : List Char) : Option (List Char) :=
  if word <+: text then some (text.drop word.length) else none

@[simp] theorem after_append (word rest : List Char) : after word (word ++ rest) = some rest := by
  simp [after]

/-- A reader of the documents that `save` writes. -/
def plainReader : Reader where
  loads text := do
    let rest ← after beforeMapId text
    let (mapId, rest) ← JsonText.readString rest
    let rest ← after beforeRevision rest
    let (revision, rest) ← JsonText.readString rest
    guard (rest = afterRevision)
    pure ⟨some 1, some mapId, some revision⟩
  loads_document identity := by
    simp only [document, List.append_assoc, after_append, Option.bind_eq_bind, Option.bind_some,
      JsonText.readString_stringBody, guard, if_true]
    rfl

/-- `self.path`. -/
def path : String := "active-map.json"

/-- A temporary file of `save`. -/
def temporaryName (suffix : String) : String := ".active-map-" ++ suffix

abbrev Directory := Disk String (List Char)

/-- How far a `save` has come. -/
inductive Phase where
  | idle
  | opening (identity : Identity)
  | dumping (identity : Identity) (temporary : String) (file : Nat)
  | syncing (identity : Identity) (temporary : String) (file : Nat)
  | replacing (identity : Identity) (temporary : String) (file : Nat)
  | publishing (identity : Identity) (temporary : String)
  /-- The `finally`. -/
  | clearing (identity : Identity) (temporary : String) (succeeded : Bool)
deriving DecidableEq

structure State where
  disk : Directory
  phase : Phase

/-- The directory before the first save. -/
def fresh : State where
  disk :=
    { content := fun _ => []
      synced := fun _ => false
      entries := fun _ => none
      stored := fun _ => [none]
      next := 0 }
  phase := .idle

inductive Event where
  | save (identity : Identity)
  /-- `NamedTemporaryFile` makes a file under a name; one that is taken is tried no further. -/
  | create (suffix : String)
  /-- The next call of the system succeeds. -/
  | advance
  /-- It fails; a write may have written something. -/
  | fail (written : List Char)
  | kill
  | powerLoss (kept : String → Nat) (garbage : Nat → List Char)
  /-- `load`, with the state directory available or not. -/
  | load (available : Bool)

inductive Output where
  /-- `save` has begun to write. -/
  | began (identity : Identity)
  | saved (identity : Identity)
  | raised (identity : Identity)
  | loaded (result : Option Identity)
deriving DecidableEq

section

variable (catalog : Catalog) (reader : Reader)

/-- `load`; `none` where it raises. -/
def load (disk : Directory) (available : Bool) : Option Identity :=
  if available then
    match disk.read path with
    | none => some catalog.default
    | some text => do
      let state ← reader.loads text
      guard (state.schemaVersion = some 1)
      let identity ← Identity.mk <$> state.mapId <*> state.revision
      guard (catalog.require identity)
      pure identity
  else none

/-- What `save` answers with in the end. -/
def finished (identity : Identity) (succeeded : Bool) : Output :=
  if succeeded then .saved identity else .raised identity

/-- The next call of `save` succeeds. -/
def advance (disk : Directory) : Phase → State × List Output
  | .dumping identity temporary file =>
    (⟨disk.write file (document identity), .syncing identity temporary file⟩, [])
  | .syncing identity temporary file =>
    (⟨disk.fsync file, .replacing identity temporary file⟩, [])
  | .replacing identity temporary _ =>
    (⟨disk.rename temporary path, .publishing identity temporary⟩, [])
  | .publishing identity temporary =>
    (⟨disk.fsyncDirectory, .clearing identity temporary true⟩, [])
  | .clearing identity temporary succeeded =>
    (⟨if (disk.entries temporary).isSome then disk.unlink temporary else disk, .idle⟩,
      [finished identity succeeded])
  | phase => (⟨disk, phase⟩, [])

/-- The next call of `save` fails. -/
def fail (disk : Directory) (written : List Char) : Phase → State × List Output
  | .opening identity => (⟨disk, .idle⟩, [.raised identity])
  | .dumping identity temporary file =>
    (⟨disk.write file written, .clearing identity temporary false⟩, [])
  | .syncing identity temporary _ | .replacing identity temporary _
  | .publishing identity temporary => (⟨disk, .clearing identity temporary false⟩, [])
  | .clearing identity temporary succeeded =>
    if (disk.entries temporary).isSome then (⟨disk, .idle⟩, [.raised identity])
    else (⟨disk, .clearing identity temporary succeeded⟩, [])
  | .idle => (⟨disk, .idle⟩, [])

def step (state : State) : Event → State × List Output
  | .save identity => match state.phase with
    | .idle =>
      if catalog.require identity then
        ({ state with phase := .opening identity }, [.began identity])
      else (state, [.raised identity])
    | _ => (state, [])
  | .create suffix => match state.phase with
    | .opening identity =>
      let temporary := temporaryName suffix
      if state.disk.entries temporary = none then
        (⟨state.disk.create temporary [], .dumping identity temporary state.disk.next⟩, [])
      else (state, [])
    | _ => (state, [])
  | .advance => advance state.disk state.phase
  | .fail written => fail state.disk written state.phase
  | .kill => ({ state with phase := .idle }, [])
  | .powerLoss kept garbage => (⟨state.disk.powerLoss kept garbage, .idle⟩, [])
  | .load available => (state, [.loaded (load catalog reader state.disk available)])

def store : Machine State Event Output where
  step := step catalog reader

end

/-- What the store may hold: the last map that was saved, and those whose saving began
    since; `none` is the first installation. -/
def heldAfter (held : List (Option Identity)) : List Output → List (Option Identity)
  | [.saved identity] => [some identity]
  | [.began identity] => held ++ [some identity]
  | _ => held

def candidates (history : List (Event × List Output)) : List (Option Identity) :=
  history.foldl (fun held entry => heldAfter held entry.2) [none]

variable {catalog : Catalog} {reader : Reader} {disk : Directory} {held : List (Option Identity)}
variable {identity : Identity} {temporary : String} {file : Nat}

/-- The temporary file of a save is there, apart from what `path` shows. -/
structure Temporary (disk : Directory) (temporary : String) (file : Nat) : Prop where
  apart : path ≠ temporary
  entry : disk.entries temporary = some file
  made : file < disk.next
  hidden : some file ∉ disk.stored path

/-- What a save has done so far. -/
def Progress (held : List (Option Identity)) (disk : Directory) : Phase → Prop
  | .idle => True
  | .opening identity => some identity ∈ held
  | .dumping identity temporary file => some identity ∈ held ∧ Temporary disk temporary file
  | .syncing identity temporary file =>
    some identity ∈ held ∧ Temporary disk temporary file ∧ disk.content file = document identity
  | .replacing identity temporary file =>
    some identity ∈ held ∧ Temporary disk temporary file ∧
      disk.content file = document identity ∧ disk.synced file = true
  | .publishing identity temporary =>
    some identity ∈ held ∧ path ≠ temporary ∧ disk.read path = some (document identity)
  | .clearing identity temporary succeeded =>
    some identity ∈ held ∧ path ≠ temporary ∧
      (succeeded = true → disk.Holds path [some (document identity)])

/-- What the store may hold is on the directory, whole. -/
structure Kept (catalog : Catalog) (held : List (Option Identity)) (state : State) : Prop where
  known : ∀ identity, some identity ∈ held → catalog.require identity = true
  holds : state.disk.Holds path (held.map (Option.map document))
  progress : Progress held state.disk state.phase

theorem path_ne_temporaryName (suffix : String) : path ≠ temporaryName suffix := by
  intro h
  have hfirst := congrArg (fun name => name.toList.head?) h
  simp [path, temporaryName] at hfirst

theorem document_mem (h : some identity ∈ held) :
    some (document identity) ∈ held.map (Option.map document) :=
  List.mem_map_of_mem (f := Option.map document) h

theorem Temporary.write (h : Temporary disk temporary file) (text : List Char) :
    Temporary (disk.write file text) temporary file :=
  ⟨h.apart, h.entry, h.made, h.hidden⟩

theorem kept_advance {phase : Phase} (h : Kept catalog held ⟨disk, phase⟩) :
    Kept catalog (heldAfter held (advance disk phase).2) (advance disk phase).1 := by
  obtain ⟨hknown, hholds, hprogress⟩ := h
  cases phase with
  | idle => exact ⟨hknown, hholds, trivial⟩
  | opening identity => exact ⟨hknown, hholds, hprogress⟩
  | dumping identity temporary file =>
    obtain ⟨hheld, htemporary⟩ := hprogress
    exact ⟨hknown, hholds.write htemporary.hidden, hheld, htemporary.write _,
      Function.update_self _ _ _⟩
  | syncing identity temporary file =>
    obtain ⟨hheld, htemporary, hcontent⟩ := hprogress
    exact ⟨hknown, hholds.fsync, hheld,
      ⟨htemporary.apart, htemporary.entry, htemporary.made, htemporary.hidden⟩, hcontent,
      Function.update_self _ _ _⟩
  | replacing identity temporary file =>
    obtain ⟨hheld, htemporary, hcontent, hsynced⟩ := hprogress
    have hlisted : some (disk.content file) ∈ held.map (Option.map document) := by
      rw [hcontent]
      exact document_mem hheld
    refine ⟨hknown, hholds.rename htemporary.apart htemporary.entry htemporary.made hsynced
      hlisted, hheld, htemporary.apart, ?_⟩
    exact (Disk.read_rename htemporary.apart htemporary.entry).trans (congrArg some hcontent)
  | publishing identity temporary =>
    obtain ⟨hheld, hapart, hread⟩ := hprogress
    have hsynced := hholds.fsyncDirectory
    have hvalue : disk.read path ∈ held.map (Option.map document) := hholds.read_mem
    refine ⟨hknown, hsynced.mono ?_, hheld, hapart, fun _ => hread ▸ hsynced⟩
    intro value hmem
    rw [List.mem_singleton.mp hmem]
    exact hvalue
  | clearing identity temporary succeeded =>
    obtain ⟨hheld, hapart, hpublished⟩ := hprogress
    have hkeep : ∀ values, disk.Holds path values →
        (if (disk.entries temporary).isSome then disk.unlink temporary else disk).Holds path
          values := by
      intro values hvalues
      split
      · exact hvalues.point_ne hapart
      · exact hvalues
    cases succeeded with
    | false => exact ⟨hknown, hkeep _ hholds, trivial⟩
    | true =>
      have hpublished := hpublished rfl
      refine ⟨?_, hkeep _ hpublished, trivial⟩
      intro other hother
      cases List.mem_singleton.mp hother
      exact hknown identity hheld

theorem kept_fail {phase : Phase} (h : Kept catalog held ⟨disk, phase⟩) (written : List Char) :
    Kept catalog (heldAfter held (fail disk written phase).2) (fail disk written phase).1 := by
  obtain ⟨hknown, hholds, hprogress⟩ := h
  have hcleared : ∀ disk' temporary (identity : Identity), disk'.Holds path
      (held.map (Option.map document)) → some identity ∈ held → path ≠ temporary →
      Kept catalog held ⟨disk', .clearing identity temporary false⟩ := by
    intro disk' temporary identity hdisk hheld hapart
    exact ⟨hknown, hdisk, hheld, hapart, fun h => by cases h⟩
  cases phase with
  | idle => exact ⟨hknown, hholds, trivial⟩
  | opening identity => exact ⟨hknown, hholds, trivial⟩
  | dumping identity temporary file =>
    obtain ⟨hheld, htemporary⟩ := hprogress
    exact hcleared _ temporary identity (hholds.write htemporary.hidden) hheld htemporary.apart
  | syncing identity temporary file =>
    exact hcleared disk temporary identity hholds hprogress.1 hprogress.2.1.apart
  | replacing identity temporary file =>
    exact hcleared disk temporary identity hholds hprogress.1 hprogress.2.1.apart
  | publishing identity temporary =>
    exact hcleared disk temporary identity hholds hprogress.1 hprogress.2.1
  | clearing identity temporary succeeded =>
    simp only [fail]
    split
    · exact ⟨hknown, hholds, trivial⟩
    · exact ⟨hknown, hholds, hprogress⟩

theorem kept_step {state : State} (h : Kept catalog held state) (event : Event) :
    Kept catalog (heldAfter held (step catalog reader state event).2)
      (step catalog reader state event).1 := by
  obtain ⟨disk, phase⟩ := state
  cases event with
  | save identity =>
    cases phase with
    | idle =>
      simp only [step]
      split
      · rename_i hrequire
        refine ⟨?_, h.holds.mono ?_, List.mem_append_right _ (List.mem_singleton_self _)⟩
        · intro other hother
          rcases List.mem_append.mp hother with hother | hother
          · exact h.known other hother
          · cases List.mem_singleton.mp hother
            exact hrequire
        · intro value hvalue
          change value ∈ (held ++ [some identity]).map (Option.map document)
          rw [List.map_append]
          exact List.mem_append_left _ hvalue
      · exact h
    | _ => exact h
  | create suffix =>
    cases phase with
    | opening identity =>
      simp only [step]
      split
      · have hapart := path_ne_temporaryName suffix
        have hnew : some disk.next ∉ disk.stored path :=
          fun hmem => Nat.lt_irrefl _ (h.holds.made disk.next hmem)
        have hstored : (disk.create (temporaryName suffix) []).stored path = disk.stored path :=
          Function.update_of_ne hapart
            (disk.stored (temporaryName suffix) ++ [some disk.next]) disk.stored
        refine ⟨h.known, h.holds.create_ne hapart, h.progress, hapart,
          Function.update_self _ _ _, Nat.lt_succ_self _, ?_⟩
        rw [hstored]
        exact hnew
      · exact h
    | _ => exact h
  | advance => exact kept_advance h
  | fail written => exact kept_fail h written
  | kill => exact ⟨h.known, h.holds, trivial⟩
  | powerLoss kept garbage => exact ⟨h.known, h.holds.powerLoss kept garbage, trivial⟩
  | load available => exact h

/-- `load` answers with a map that the store may hold. -/
theorem load_held {state : State} (h : Kept catalog held state) :
    ∃ identity, load catalog reader state.disk true = some identity ∧
      (some identity ∈ held ∨ none ∈ held ∧ identity = catalog.default) := by
  obtain ⟨value, hvalue, hread⟩ := List.mem_map.mp h.holds.read_mem
  cases value with
  | none =>
    have hread : state.disk.read path = none := hread.symm
    refine ⟨catalog.default, ?_, Or.inr ⟨hvalue, rfl⟩⟩
    simp only [load, hread, if_true]
  | some identity =>
    have hread : state.disk.read path = some (document identity) := hread.symm
    refine ⟨identity, ?_, Or.inl hvalue⟩
    simp [load, hread, reader.loads_document, h.known identity hvalue, guard]

theorem kept_run (catalog : Catalog) (reader : Reader) (events : List Event) :
    Kept catalog (candidates ((store catalog reader).trace fresh events))
      ((store catalog reader).run fresh events) := by
  have hinit : Kept catalog (candidates []) fresh := by
    refine ⟨by simp [candidates], ⟨List.mem_singleton_self _, ?_, ?_, ?_⟩, trivial⟩
    · intro file hfile
      cases List.mem_singleton.mp hfile
    · intro file hfile
      cases List.mem_singleton.mp hfile
    · intro entry hentry
      cases List.mem_singleton.mp hentry
      exact List.mem_singleton_self _
  refine (store catalog reader).history_invariant
    (fun history state => Kept catalog (candidates history) state) ?_ hinit
    ((store catalog reader).along_true fresh events)
  intro history state event _ h
  have hcandidates : candidates (history ++ [(event, (step catalog reader state event).2)]) =
      heldAfter (candidates history) (step catalog reader state event).2 := by
    rw [candidates, List.foldl_append]
    rfl
  change Kept catalog (candidates (history ++ [(event, (step catalog reader state event).2)])) _
  rw [hcandidates]
  exact kept_step h event

/-- Every `load` that finds the directory answers with a map that the store may hold. -/
def LoadsWhole (catalog : Catalog) (history : List (Event × List Output)) : Prop :=
  ∀ before outputs after, history = before ++ (.load true, outputs) :: after →
    ∃ identity, outputs = [.loaded (some identity)] ∧
      (some identity ∈ candidates before ∨
        none ∈ candidates before ∧ identity = catalog.default)

/-- Two maps of the same revision. -/
def twoFloors : Catalog where
  maps id := if id = "cmuq-floor1" ∨ id = defaultMapId then some "r" else none
  complete := by decide

/-- The power goes between the rename and the sync of the directory: the first floor may be
    there, or not yet; half of it is not. -/
example : ∀ kept : Fin 2,
    let cut := (store twoFloors plainReader).run fresh
      [.save ⟨"cmuq-floor1", "r"⟩, .create "x", .advance, .advance, .advance,
        .powerLoss (fun _ => kept) fun _ => "\x7b".toList]
    load twoFloors plainReader cut.disk true =
      some ⟨if kept = 0 then defaultMapId else "cmuq-floor1", "r"⟩ := by decide +kernel

end PatrolBot.ActiveMap
