import Isobus.Lib.Machine

/-!
# Calibration settings

`calibration_settings.h`: four calibration points, how they are loaded, with a default for what is
missing or out of range, and how one of them is saved.
-/

namespace Isobus.Example1200PT.Calibration

open Isobus.Lib

inductive Point
  | fullRaise
  | limitedRaise
  | startPlant
  | stopPlant
  deriving DecidableEq

def FULL_RAISE_DEFAULT : UInt8 := 95
def LIMITED_RAISE_DEFAULT : UInt8 := 75
def START_PLANT_DEFAULT : UInt8 := 15
def STOP_PLANT_DEFAULT : UInt8 := 0
def MAX_PERCENT : UInt8 := 100

structure Points where
  fullRaise : UInt8 := FULL_RAISE_DEFAULT
  limitedRaise : UInt8 := LIMITED_RAISE_DEFAULT
  startPlant : UInt8 := START_PLANT_DEFAULT
  stopPlant : UInt8 := STOP_PLANT_DEFAULT
  deriving DecidableEq

def key : Point → String
  | .fullRaise => "full_raise"
  | .limitedRaise => "limited_raise"
  | .startPlant => "start_plant"
  | .stopPlant => "stop_plant"

def value (points : Points) : Point → UInt8
  | .fullRaise => points.fullRaise
  | .limitedRaise => points.limitedRaise
  | .startPlant => points.startPlant
  | .stopPlant => points.stopPlant

def setValue (points : Points) (newValue : UInt8) : Point → Points
  | .fullRaise => { points with fullRaise := newValue }
  | .limitedRaise => { points with limitedRaise := newValue }
  | .startPlant => { points with startPlant := newValue }
  | .stopPlant => { points with stopPlant := newValue }

abbrev Store := String → Option UInt8

def loadValue (read : Store) (name : String) (defaultValue : UInt8) : UInt8 :=
  match read name with
  | none => defaultValue
  | some storedValue => if storedValue > MAX_PERCENT then defaultValue else storedValue

def loadPoints (read : Store) : Points :=
  let points : Points :=
    { fullRaise := loadValue read (key .fullRaise) FULL_RAISE_DEFAULT
      limitedRaise := loadValue read (key .limitedRaise) LIMITED_RAISE_DEFAULT
      startPlant := loadValue read (key .startPlant) START_PLANT_DEFAULT
      stopPlant := loadValue read (key .stopPlant) STOP_PLANT_DEFAULT }
  if points.stopPlant > points.startPlant then
    { points with startPlant := START_PLANT_DEFAULT, stopPlant := STOP_PLANT_DEFAULT }
  else points

inductive SaveResult
  | saved
  | invalidValue
  | invalidOrder
  | storageFailure
  deriving DecidableEq

/-- A writer stores the value and reports success, or changes nothing and reports failure. -/
structure Writer where
  write : String → UInt8 → Store → Bool × Store
  write_eq : ∀ name newValue store,
    write name newValue store = (true, Function.update store name (some newValue)) ∨
      write name newValue store = (false, store)

def savePoint (point : Point) (newValue : UInt32) (points : Points) (writer : Writer)
    (store : Store) : SaveResult × Points × Store :=
  if newValue > MAX_PERCENT.toUInt32 then (.invalidValue, points, store)
  else if point = .startPlant ∧ newValue < points.stopPlant.toUInt32 then
    (.invalidOrder, points, store)
  else if point = .stopPlant ∧ newValue > points.startPlant.toUInt32 then
    (.invalidOrder, points, store)
  else
    let written := writer.write (key point) newValue.toUInt8 store
    if written.1 then (.saved, setValue points newValue.toUInt8 point, written.2)
    else (.storageFailure, points, written.2)

/-- The points in memory and what is stored. -/
structure Settings where
  points : Points
  store : Store

structure Save where
  point : Point
  newValue : UInt32
  writer : Writer

def start (store : Store) : Settings := ⟨loadPoints store, store⟩

/-- The settings as a machine that saves points and answers with the result. -/
def settings : Machine Settings Save SaveResult where
  step s i :=
    let saved := savePoint i.point i.newValue s.points i.writer s.store
    (⟨saved.2.1, saved.2.2⟩, [saved.1])

def default (point : Point) : UInt8 := value {} point

/-- The stored value of a point that is in range, or else its default. -/
def usable (store : Store) (point : Point) : UInt8 :=
  ((store (key point)).filter fun storedValue => storedValue ≤ MAX_PERCENT).getD (default point)

structure InOrder (points : Points) : Prop where
  fullRaise_le : points.fullRaise ≤ MAX_PERCENT
  limitedRaise_le : points.limitedRaise ≤ MAX_PERCENT
  startPlant_le : points.startPlant ≤ MAX_PERCENT
  stopPlant_le : points.stopPlant ≤ points.startPlant

def Survives (s : Settings) : Prop := loadPoints s.store = s.points

theorem key_injective : Function.Injective key := by
  intro p q h
  cases p <;> cases q <;> simp_all [key]

@[simp] theorem default_le (point : Point) : default point ≤ MAX_PERCENT := by
  cases point <;> decide

theorem loadValue_eq (store : Store) (point : Point) :
    loadValue store (key point) (default point) = usable store point := by
  unfold loadValue usable
  cases store (key point) with
  | none => rfl
  | some storedValue =>
    by_cases h : storedValue ≤ MAX_PERCENT
    · simp [h, UInt8.not_lt.mpr h, Option.filter_some]
    · simp [h, UInt8.not_le.mp h, Option.filter_some]

theorem usable_le (store : Store) (point : Point) : usable store point ≤ MAX_PERCENT := by
  unfold usable
  cases h : (store (key point)).filter fun storedValue => storedValue ≤ MAX_PERCENT with
  | none => exact default_le point
  | some storedValue => simpa using (Option.filter_eq_some_iff.mp h).2

theorem usable_update (store : Store) {newValue : UInt8} (hvalue : newValue ≤ MAX_PERCENT)
    (point other : Point) :
    usable (Function.update store (key point) (some newValue)) other =
      if other = point then newValue else usable store other := by
  unfold usable
  by_cases h : other = point
  · subst h
    simp [hvalue, Option.filter_some]
  · have hkey : key other ≠ key point := fun hkeys => h (key_injective hkeys)
    rw [Function.update_of_ne hkey, if_neg h]

theorem loadPoints_eq (store : Store) :
    loadPoints store =
      if usable store .stopPlant ≤ usable store .startPlant then
        ⟨usable store .fullRaise, usable store .limitedRaise, usable store .startPlant,
          usable store .stopPlant⟩
      else ⟨usable store .fullRaise, usable store .limitedRaise, START_PLANT_DEFAULT,
        STOP_PLANT_DEFAULT⟩ := by
  have hload := loadValue_eq store
  unfold loadPoints
  rw [show FULL_RAISE_DEFAULT = default .fullRaise from rfl,
    show LIMITED_RAISE_DEFAULT = default .limitedRaise from rfl,
    show START_PLANT_DEFAULT = default .startPlant from rfl,
    show STOP_PLANT_DEFAULT = default .stopPlant from rfl, hload, hload, hload, hload]
  by_cases h : usable store .stopPlant ≤ usable store .startPlant
  · rw [if_pos h, if_neg (UInt8.not_lt.mpr h)]
  · rw [if_neg h, if_pos (UInt8.not_le.mp h)]

theorem loadPoints_inOrder (store : Store) : InOrder (loadPoints store) := by
  rw [loadPoints_eq]
  split_ifs with h
  · exact ⟨usable_le store _, usable_le store _, usable_le store _, h⟩
  · exact ⟨usable_le store _, usable_le store _,
      (by decide : START_PLANT_DEFAULT ≤ MAX_PERCENT),
      (by decide : STOP_PLANT_DEFAULT ≤ START_PLANT_DEFAULT)⟩

theorem toUInt8_le {n : UInt32} {b : UInt8} (h : n ≤ b.toUInt32) : n.toUInt8 ≤ b := by
  rw [UInt8.le_iff_toNat_le]
  rw [UInt32.le_iff_toNat_le] at h
  simp only [UInt8.toNat_toUInt32, UInt32.toNat_toUInt8] at h ⊢
  exact Nat.le_trans (Nat.mod_le _ _) h

theorem le_toUInt8 {n : UInt32} {b : UInt8} (hn : n ≤ MAX_PERCENT.toUInt32)
    (h : b.toUInt32 ≤ n) : b ≤ n.toUInt8 := by
  rw [UInt8.le_iff_toNat_le]
  rw [UInt32.le_iff_toNat_le] at h hn
  have hmax : MAX_PERCENT.toUInt32.toNat = 100 := rfl
  simp only [UInt8.toNat_toUInt32, UInt32.toNat_toUInt8] at h ⊢
  omega

theorem next_cases (s : Settings) (i : Save) :
    settings.next s i = s ∨
      i.newValue.toUInt8 ≤ MAX_PERCENT ∧
        (i.point = .startPlant → s.points.stopPlant ≤ i.newValue.toUInt8) ∧
        (i.point = .stopPlant → i.newValue.toUInt8 ≤ s.points.startPlant) ∧
        settings.next s i = ⟨setValue s.points i.newValue.toUInt8 i.point,
          Function.update s.store (key i.point) (some i.newValue.toUInt8)⟩ := by
  have hnext : settings.next s i =
      ⟨(savePoint i.point i.newValue s.points i.writer s.store).2.1,
        (savePoint i.point i.newValue s.points i.writer s.store).2.2⟩ := rfl
  rw [hnext]
  unfold savePoint
  by_cases hvalue : i.newValue > MAX_PERCENT.toUInt32
  · left
    rw [if_pos hvalue]
  by_cases hstart : i.point = .startPlant ∧ i.newValue < s.points.stopPlant.toUInt32
  · left
    rw [if_neg hvalue, if_pos hstart]
  by_cases hstop : i.point = .stopPlant ∧ i.newValue > s.points.startPlant.toUInt32
  · left
    rw [if_neg hvalue, if_neg hstart, if_pos hstop]
  rw [if_neg hvalue, if_neg hstart, if_neg hstop]
  have hle := UInt32.not_lt.mp hvalue
  rcases i.writer.write_eq (key i.point) i.newValue.toUInt8 s.store with hwrite | hwrite
  · rw [hwrite, if_pos rfl]
    exact .inr ⟨toUInt8_le hle,
      fun hpoint => le_toUInt8 hle (UInt32.not_lt.mp fun h => hstart ⟨hpoint, h⟩),
      fun hpoint => toUInt8_le (UInt32.not_lt.mp fun h => hstop ⟨hpoint, h⟩), rfl⟩
  · rw [hwrite]
    exact .inl rfl

theorem inOrder_next (s : Settings) (i : Save) (h : InOrder s.points) :
    InOrder (settings.next s i).points := by
  rcases next_cases s i with hnext | ⟨hvalue, hstart, hstop, hnext⟩
  · rwa [hnext]
  · rw [hnext]
    cases hpoint : i.point with
    | fullRaise => exact ⟨hvalue, h.limitedRaise_le, h.startPlant_le, h.stopPlant_le⟩
    | limitedRaise => exact ⟨h.fullRaise_le, hvalue, h.startPlant_le, h.stopPlant_le⟩
    | startPlant => exact ⟨h.fullRaise_le, h.limitedRaise_le, hvalue, hstart hpoint⟩
    | stopPlant => exact ⟨h.fullRaise_le, h.limitedRaise_le, h.startPlant_le, hstop hpoint⟩

theorem run_inOrder (store : Store) (saves : List Save) :
    InOrder (settings.run (start store) saves).points :=
  settings.run_invariant (P := fun s => InOrder s.points) inOrder_next
    (loadPoints_inOrder store) saves

/-- Every point in memory is the stored one that is usable, or the default. -/
def Tracks (s : Settings) : Prop := ∀ point, value s.points point = usable s.store point

theorem survives_of_tracks {s : Settings} (horder : InOrder s.points) (h : Tracks s) :
    Survives s := by
  have hstop : usable s.store .stopPlant ≤ usable s.store .startPlant := by
    rw [← h .stopPlant, ← h .startPlant]
    exact horder.stopPlant_le
  rw [Survives, loadPoints_eq, if_pos hstop, ← h .fullRaise, ← h .limitedRaise, ← h .startPlant,
    ← h .stopPlant]
  rfl

theorem value_setValue (points : Points) (newValue : UInt8) (point other : Point) :
    value (setValue points newValue point) other =
      if other = point then newValue else value points other := by
  cases point <;> cases other <;> rfl

theorem tracks_next (s : Settings) (i : Save) (h : Tracks s) : Tracks (settings.next s i) := by
  rcases next_cases s i with hnext | ⟨hvalue, -, -, hnext⟩
  · rwa [hnext]
  · intro point
    rw [hnext, value_setValue, usable_update s.store hvalue, h point]

variable {store : Store}

theorem tracks_start (h : usable store .stopPlant ≤ usable store .startPlant) :
    Tracks (start store) := by
  intro point
  change value (loadPoints store) point = usable store point
  rw [loadPoints_eq, if_pos h]
  cases point <;> rfl

theorem run_survives (h : usable store .stopPlant ≤ usable store .startPlant) (saves : List Save) :
    Survives (settings.run (start store) saves) :=
  survives_of_tracks (run_inOrder store saves)
    (settings.run_invariant tracks_next (tracks_start h) saves)

def Writer.reliable : Writer where
  write name newValue store := (true, Function.update store name (some newValue))
  write_eq _ _ _ := .inl rfl

theorem not_survives_of_repaired (h : ¬usable store .stopPlant ≤ usable store .startPlant) :
    ¬Survives (settings.run (start store) [⟨.startPlant, 20, .reliable⟩]) := by
  have hpoints : loadPoints store = ⟨usable store .fullRaise, usable store .limitedRaise,
      START_PLANT_DEFAULT, STOP_PLANT_DEFAULT⟩ := by
    rw [loadPoints_eq, if_neg h]
  have hrun : settings.run (start store) [⟨.startPlant, 20, .reliable⟩] =
      ⟨⟨usable store .fullRaise, usable store .limitedRaise, 20, STOP_PLANT_DEFAULT⟩,
        Function.update store (key .startPlant) (some 20)⟩ := by
    change Settings.mk (savePoint .startPlant 20 (loadPoints store) .reliable store).2.1
      (savePoint .startPlant 20 (loadPoints store) .reliable store).2.2 = _
    rw [hpoints]
    rfl
  rw [Survives, hrun, loadPoints_eq]
  simp only [usable_update store (by decide : (20 : UInt8) ≤ MAX_PERCENT), reduceCtorEq, if_false,
    if_true]
  intro hload
  have hzero : usable store .stopPlant ≠ STOP_PLANT_DEFAULT := by
    intro hstop
    rw [hstop] at h
    exact h (UInt8.le_iff_toNat_le.mpr (Nat.zero_le _))
  split_ifs at hload
  · exact hzero (congrArg Points.stopPlant hload)
  · have hstart : START_PLANT_DEFAULT = 20 := congrArg Points.startPlant hload
    cases hstart

def wrongOrder : Store := fun name =>
  if name = key .startPlant then some 10 else if name = key .stopPlant then some 20 else none

theorem wrongOrder_not_survives :
    ¬∀ saves, Survives (settings.run (start wrongOrder) saves) := by
  intro h
  have hload := h [⟨.startPlant, 30, .reliable⟩]
  unfold Survives at hload
  revert hload
  decide

/-- The settings survive every run exactly if the plant pair that is found at the start is
in order. -/
theorem survives_iff (store : Store) :
    (∀ saves, Survives (settings.run (start store) saves) ∧
        InOrder (settings.run (start store) saves).points) ↔
      usable store .stopPlant ≤ usable store .startPlant := by
  constructor
  · intro h
    by_contra hpair
    exact not_survives_of_repaired hpair (h _).1
  · exact fun h saves => ⟨run_survives h saves, run_inOrder store saves⟩

end Isobus.Example1200PT.Calibration
