import Mathlib.Data.List.Basic
import Mathlib.Logic.Function.Basic

/-!
# A directory that may lose power

Files with contents, and names for them.  What a program sees is not yet what the medium
keeps: the content of a file is kept once the file was synced after its last write, and of the
changes to a name since the directory was synced any one may be the last that is kept.  For a
name that only ever points at synced files the directory is a register that forgets nothing
but which of its last values it holds.
-/

namespace PatrolBot

structure Disk (Name Content : Type) where
  content : Nat → Content
  /-- The medium has the content. -/
  synced : Nat → Bool
  entries : Name → Option Nat
  /-- What the medium may have of a name. -/
  stored : Name → List (Option Nat)
  /-- The number of the next file. -/
  next : Nat

namespace Disk

variable {Name Content : Type}

section

variable [DecidableEq Name] (disk : Disk Name Content)

def point (name : Name) (target : Option Nat) : Disk Name Content :=
  { disk with
    entries := Function.update disk.entries name target
    stored := Function.update disk.stored name (disk.stored name ++ [target]) }

def create (name : Name) (empty : Content) : Disk Name Content :=
  { disk.point name (some disk.next) with
    content := Function.update disk.content disk.next empty
    synced := Function.update disk.synced disk.next false
    next := disk.next + 1 }

def rename (source target : Name) : Disk Name Content :=
  (disk.point target (disk.entries source)).point source none

def unlink (name : Name) : Disk Name Content := disk.point name none

end

variable (disk : Disk Name Content)

def write (file : Nat) (content : Content) : Disk Name Content :=
  { disk with
    content := Function.update disk.content file content
    synced := Function.update disk.synced file false }

def fsync (file : Nat) : Disk Name Content :=
  { disk with synced := Function.update disk.synced file true }

def fsyncDirectory : Disk Name Content :=
  { disk with stored := fun name => [disk.entries name] }

/-- The power goes, and comes back: of every name one of its entries is left, and a file that
    was not synced may hold anything. -/
def powerLoss (kept : Name → Nat) (garbage : Nat → Content) : Disk Name Content :=
  let left := fun name => (disk.stored name).getD (kept name) (disk.entries name)
  { content := fun file => if disk.synced file then disk.content file else garbage file
    synced := fun _ => true
    entries := left
    stored := fun name => [left name]
    next := disk.next }

def read (name : Name) : Option Content := (disk.entries name).map disk.content

/-! ### A name that is a register -/

variable {disk} {name other : Name} {file : Nat} {value : Option Content} {c : Content}
variable {values : List (Option Content)}

/-- The name points, here and on the medium, at whole files with values of a list. -/
structure Holds (disk : Disk Name Content) (name : Name) (values : List (Option Content)) :
    Prop where
  current : disk.entries name ∈ disk.stored name
  made : ∀ file, some file ∈ disk.stored name → file < disk.next
  whole : ∀ file, some file ∈ disk.stored name → disk.synced file = true
  listed : ∀ entry ∈ disk.stored name, entry.map disk.content ∈ values

namespace Holds

theorem read_mem (h : Holds disk name values) : disk.read name ∈ values :=
  h.listed _ h.current

theorem mono {more : List (Option Content)} (h : Holds disk name values)
    (hmore : ∀ value ∈ values, value ∈ more) : Holds disk name more :=
  { h with listed := fun entry hentry => hmore _ (h.listed entry hentry) }

/-- A file that the name does not point at may change. -/
theorem congr {disk' : Disk Name Content} (h : Holds disk name values)
    (hentries : disk'.entries name = disk.entries name)
    (hstored : disk'.stored name = disk.stored name) (hnext : disk.next ≤ disk'.next)
    (hsame : ∀ file, some file ∈ disk.stored name →
      disk'.synced file = disk.synced file ∧ disk'.content file = disk.content file) :
    Holds disk' name values where
  current := by
    rw [hentries, hstored]
    exact h.current
  made := by
    intro file hfile
    rw [hstored] at hfile
    exact Nat.lt_of_lt_of_le (h.made file hfile) hnext
  whole := by
    intro file hfile
    rw [hstored] at hfile
    rw [(hsame file hfile).1]
    exact h.whole file hfile
  listed := by
    intro entry hentry
    rw [hstored] at hentry
    cases entry with
    | none => exact h.listed none hentry
    | some file =>
      rw [Option.map_some, (hsame file hentry).2]
      exact h.listed (some file) hentry

theorem write (h : Holds disk name values) (hfile : some file ∉ disk.stored name) :
    Holds (disk.write file c) name values := by
  refine h.congr rfl rfl (Nat.le_refl _) ?_
  intro other hother
  have hne : other ≠ file := fun heq => hfile (heq ▸ hother)
  exact ⟨Function.update_of_ne hne _ _, Function.update_of_ne hne _ _⟩

theorem fsync (h : Holds disk name values) : Holds (disk.fsync file) name values := by
  have hsynced : ∀ other, some other ∈ disk.stored name →
      (disk.fsync file).synced other = disk.synced other := by
    intro other hother
    by_cases heq : other = file
    · subst heq
      exact (Function.update_self _ _ _).trans (h.whole other hother).symm
    · exact Function.update_of_ne heq _ _
  exact h.congr rfl rfl (Nat.le_refl _) fun other hother => ⟨hsynced other hother, rfl⟩

/-- Once the directory is synced there is nothing left but what the name shows. -/
theorem fsyncDirectory (h : Holds disk name values) :
    Holds disk.fsyncDirectory name [disk.read name] where
  current := List.mem_singleton_self _
  made := by
    intro file hfile
    exact h.made file (List.mem_singleton.mp hfile ▸ h.current)
  whole := by
    intro file hfile
    exact h.whole file (List.mem_singleton.mp hfile ▸ h.current)
  listed := by
    intro entry hentry
    rw [List.mem_singleton.mp hentry]
    exact List.mem_singleton_self _

/-- After a loss of power the name still shows one of the values. -/
theorem powerLoss (h : Holds disk name values) (kept : Name → Nat) (garbage : Nat → Content) :
    Holds (disk.powerLoss kept garbage) name values := by
  have hleft : (disk.stored name).getD (kept name) (disk.entries name) ∈ disk.stored name := by
    rw [List.getD_eq_getElem?_getD]
    cases hget : (disk.stored name)[kept name]? with
    | none => exact h.current
    | some entry => exact List.mem_of_getElem? hget
  have hstored : ∀ entry, entry ∈ (disk.powerLoss kept garbage).stored name →
      entry ∈ disk.stored name := by
    intro entry hentry
    rw [List.mem_singleton.mp hentry]
    exact hleft
  refine ⟨List.mem_singleton_self _, fun file hfile => h.made file (hstored _ hfile),
    fun _ _ => rfl, ?_⟩
  intro entry hentry
  have hentry := hstored entry hentry
  cases entry with
  | none => exact h.listed none hentry
  | some file =>
    have hcontent : (disk.powerLoss kept garbage).content file = disk.content file :=
      if_pos (h.whole file hentry)
    rw [Option.map_some, hcontent]
    exact h.listed (some file) hentry

variable [DecidableEq Name]

theorem point_ne (h : Holds disk name values) (hne : name ≠ other) {target : Option Nat} :
    Holds (disk.point other target) name values :=
  h.congr (Function.update_of_ne hne _ _) (Function.update_of_ne hne _ _) (Nat.le_refl _)
    fun _ _ => ⟨rfl, rfl⟩

theorem create_ne (h : Holds disk name values) (hne : name ≠ other) :
    Holds (disk.create other c) name values := by
  refine h.congr (Function.update_of_ne hne _ _) (Function.update_of_ne hne _ _)
    (Nat.le_succ _) ?_
  intro file hfile
  have hne : file ≠ disk.next := Nat.ne_of_lt (h.made file hfile)
  exact ⟨Function.update_of_ne hne _ _, Function.update_of_ne hne _ _⟩

/-- The name may take over a file that was made and synced. -/
theorem point (h : Holds disk name values) (hmade : file < disk.next)
    (hsynced : disk.synced file = true) (hlisted : some (disk.content file) ∈ values) :
    Holds (disk.point name (some file)) name values := by
  have hstored : (disk.point name (some file)).stored name = disk.stored name ++ [some file] :=
    Function.update_self _ _ _
  have hmem : ∀ entry, entry ∈ (disk.point name (some file)).stored name →
      entry ∈ disk.stored name ∨ entry = some file := by
    intro entry hentry
    rw [hstored] at hentry
    simpa using hentry
  constructor
  · rw [hstored]
    have hentry : (disk.point name (some file)).entries name = some file :=
      Function.update_self _ _ _
    rw [hentry]
    exact List.mem_append_right _ (List.mem_singleton_self _)
  · intro other hother
    rcases hmem _ hother with hother | heq
    · exact h.made other hother
    · cases heq
      exact hmade
  · intro other hother
    rcases hmem _ hother with hother | heq
    · exact h.whole other hother
    · cases heq
      exact hsynced
  · intro entry hentry
    rcases hmem _ hentry with hentry | rfl
    · exact h.listed entry hentry
    · exact hlisted

/-- Renaming a file that was synced adds its content to what the name may show. -/
theorem rename (h : Holds disk name values) (hne : name ≠ other)
    (hentry : disk.entries other = some file) (hmade : file < disk.next)
    (hsynced : disk.synced file = true) (hlisted : some (disk.content file) ∈ values) :
    Holds (disk.rename other name) name values := by
  unfold Disk.rename
  rw [hentry]
  exact (h.point hmade hsynced hlisted).point_ne hne

end Holds

theorem read_rename [DecidableEq Name] (hne : name ≠ other)
    (hentry : disk.entries other = some file) :
    (disk.rename other name).read name = some (disk.content file) := by
  have hname : (disk.rename other name).entries name = some file :=
    (Function.update_of_ne hne _ _).trans ((Function.update_self _ _ _).trans hentry)
  rw [read, hname]
  rfl

end Disk

end PatrolBot
