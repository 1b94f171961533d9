import Isobus.TaskClient.Triggers

namespace Isobus.TaskClient

open Isobus.Can Isobus.Lib Isobus.DeviceDescriptor Isobus.NetworkManager

/-- A reading and a mark of an odometer of `2 ^ 32` distances tell whether a distance is reached. -/
def TellsReached (mark due distance : Nat) : Prop :=
  distance / 2 ^ 32 = due / 2 ^ 32 ∧
      ¬(min (due % 2 ^ 32) mark ≤ distance % 2 ^ 32 ∧
        distance % 2 ^ 32 < max (due % 2 ^ 32) mark) ∨
    due / 2 ^ 32 < distance / 2 ^ 32 ∧ mark ≤ distance % 2 ^ 32 ∨
    distance / 2 ^ 32 < due / 2 ^ 32 ∧ distance % 2 ^ 32 < mark

instance decidableTellsReached (mark due distance : Nat) :
    Decidable (TellsReached mark due distance) :=
  inferInstanceAs (Decidable (_ ∨ _ ∨ _))

theorem tellsReached_iff (mark due distance : Nat) :
    (mark ≤ distance % 2 ^ 32 ↔ due ≤ distance) ↔ TellsReached mark due distance := by
  have hdue := Nat.div_add_mod due (2 ^ 32)
  have hdistance := Nat.div_add_mod distance (2 ^ 32)
  have hdue' := Nat.mod_lt due (show 0 < 2 ^ 32 by decide)
  have hdistance' := Nat.mod_lt distance (show 0 < 2 ^ 32 by decide)
  rw [TellsReached]
  omega

/-- A client, how far its machine went, and where the trigger was commanded or asked last. -/
structure Drive where
  client : TaskControllerClient
  travelled : Nat
  reference : Nat

def newlyRequested (key : UInt16 × UInt16) (before after : TaskControllerClient) : Bool :=
  (after.queues.queuedValueRequests.drop before.queues.queuedValueRequests.length).any
    (·.key = key)

def odometer (distance : Nat) : UInt32 := UInt32.ofNat distance

/-- The machine goes on, and the client is told the reading of the odometer. -/
def drives (key : UInt16 × UInt16) : Machine Drive Nat Bool where
  step drive further :=
    let distance := drive.travelled + further
    let after := ((⟨drive.client, []⟩ : Turn).setDistance (odometer distance)).client
    let asked := newlyRequested key drive.client after
    (⟨after, distance, if asked then distance else drive.reference⟩, [asked])

def AsksWhenDue (key : UInt16 × UInt16) (interval : UInt32) (drive : Drive) (further : Nat) :
    Prop :=
  (drives key).emits drive further = [true] ↔
    drive.reference + interval.toNat ≤ drive.travelled + further

/-- No reading comes again after a whole lap, and the trigger tells whether its distance is reached.
-/
def Readable (key : UInt16 × UInt16) (drive : Drive) (further : Nat) : Prop :=
  further ≠ 0 →
    odometer (drive.travelled + further) ≠ odometer drive.travelled ∧
      ∀ info ∈ drive.client.queues.measurementDistanceIntervalCommands, info.key = key →
        TellsReached (info.lastValue.toUInt32 + info.processDataValue.toUInt32).toNat
          (drive.reference + info.processDataValue.toUInt32.toNat) (drive.travelled + further)

instance decidableReadable (key : UInt16 × UInt16) (drive : Drive) (further : Nat) :
    Decidable (Readable key drive further) :=
  inferInstanceAs (Decidable (_ → _ ∧ ∀ _, _))

/-- The client knows the reading, and the trigger was not due yet. -/
structure OnTheWay (key : UInt16 × UInt16) (interval : UInt32) (drive : Drive) : Prop where
  distinct : drive.client.queues.DistinctTriggers
  commanded : ∃ info ∈ drive.client.queues.measurementDistanceIntervalCommands,
    info.key = key ∧ info.processDataValue.toUInt32 = interval
  reading : drive.client.totalMachineDistance = odometer drive.travelled
  passed : drive.reference ≤ drive.travelled
  notDue : drive.travelled < drive.reference + interval.toNat

variable {key : UInt16 × UInt16} {interval : UInt32} {drive : Drive} {further : Nat}

theorem odometer_eq_iff {distance distance' : Nat} :
    odometer distance = odometer distance' ↔ distance % 2 ^ 32 = distance' % 2 ^ 32 := by
  rw [odometer, odometer, ← UInt32.toNat_inj, UInt32.toNat_ofNat', UInt32.toNat_ofNat']

theorem step_of_reading (key : UInt16 × UInt16) (h : odometer (drive.travelled + further) =
    drive.client.totalMachineDistance) :
    (drives key).step drive further =
      (⟨drive.client, drive.travelled + further, drive.reference⟩, [false]) := by
  simp only [drives, Turn.setDistance, if_pos h, newlyRequested, List.drop_length, List.any_nil,
    if_neg Bool.false_ne_true]

theorem newlyRequested_iff {client : TaskControllerClient} {info : ProcessDataCallbackInfo}
    {distance : UInt32} (hdistance : distance ≠ client.totalMachineDistance)
    (hdistinct : Distinct client.queues.measurementDistanceIntervalCommands)
    (hinfo : info ∈ client.queues.measurementDistanceIntervalCommands) :
    newlyRequested info.key client ((⟨client, []⟩ : Turn).setDistance distance).client = true ↔
      info.lastValue.toUInt32 + info.processDataValue.toUInt32 ≤ distance := by
  simp only [newlyRequested, Turn.setDistance, if_neg hdistance, Turn.queue, Turn.map,
    List.drop_left, List.any_eq_true, List.mem_map, List.mem_filter, decide_eq_true_eq]
  constructor
  · rintro ⟨_, ⟨other, ⟨hother, hdue⟩, rfl⟩, hkey⟩
    rw [← hdistinct.eq_of_key hother hinfo hkey]
    exact hdue
  · intro hdue
    exact ⟨_, ⟨info, ⟨hinfo, hdue⟩, rfl⟩, rfl⟩

theorem asksWhenDue_iff (h : OnTheWay key interval drive) :
    AsksWhenDue key interval drive further ↔ Readable key drive further := by
  obtain ⟨info, hinfo, rfl, rfl⟩ := h.commanded
  have hpassed := h.passed
  have hnotDue := h.notDue
  have hinterval := info.processDataValue.toUInt32.toNat_lt
  rw [AsksWhenDue, Readable]
  by_cases hreading : odometer (drive.travelled + further) = odometer drive.travelled
  · rw [Machine.emits, step_of_reading _ (hreading.trans h.reading.symm)]
    by_cases hfurther : further = 0
    · subst hfurther
      exact iff_of_true (iff_of_false (by simp) (by omega)) fun hne => absurd rfl hne
    · -- A whole lap is further than any interval.
      have hlap := odometer_eq_iff.mp hreading
      refine iff_of_false (fun hasks => ?_) fun hreadable => (hreadable hfurther).1 hreading
      exact absurd (hasks.mpr (by omega)) (by simp)
  · have hfurther : further ≠ 0 := by
      rintro rfl
      exact hreading rfl
    have hmark := newlyRequested_iff (h.reading ▸ hreading) h.distinct.distance hinfo
    rw [UInt32.le_iff_toNat_le, odometer, UInt32.toNat_ofNat'] at hmark
    have hreadable : (further ≠ 0 →
        odometer (drive.travelled + further) ≠ odometer drive.travelled ∧
          ∀ other ∈ drive.client.queues.measurementDistanceIntervalCommands, other.key = info.key →
            TellsReached (other.lastValue.toUInt32 + other.processDataValue.toUInt32).toNat
              (drive.reference + other.processDataValue.toUInt32.toNat)
              (drive.travelled + further)) ↔
        TellsReached (info.lastValue.toUInt32 + info.processDataValue.toUInt32).toNat
          (drive.reference + info.processDataValue.toUInt32.toNat) (drive.travelled + further) := by
      refine ⟨fun hall => (hall hfurther).2 info hinfo rfl, fun htells _ => ⟨hreading, ?_⟩⟩
      intro other hother hkey
      rw [h.distinct.distance.eq_of_key hother hinfo hkey]
      exact htells
    rw [hreadable, ← tellsReached_iff]
    refine iff_congr ?_ Iff.rfl
    rw [← hmark]
    simp only [Machine.emits, drives, List.cons.injEq, and_true]
    rfl

theorem onTheWay_next (h : OnTheWay key interval drive)
    (hasks : AsksWhenDue key interval drive further) :
    OnTheWay key interval ((drives key).next drive further) := by
  obtain ⟨info, hinfo, hkey, hvalue⟩ := h.commanded
  have hpassed := h.passed
  have hnotDue := h.notDue
  by_cases hreading : odometer (drive.travelled + further) = odometer drive.travelled
  · have hstep := step_of_reading key (hreading.trans h.reading.symm)
    rw [AsksWhenDue, Machine.emits, hstep] at hasks
    rw [Machine.next, hstep]
    refine ⟨h.distinct, h.commanded, h.reading.trans hreading.symm, by dsimp only; omega, ?_⟩
    by_contra hdue
    exact absurd (hasks.mpr (Nat.not_lt.mp hdue)) (by simp)
  · have hchanged : odometer (drive.travelled + further) ≠ drive.client.totalMachineDistance :=
      h.reading ▸ hreading
    have hdistinct : ((⟨drive.client, []⟩ : Turn).setDistance
        (odometer (drive.travelled + further))).client.queues.DistinctTriggers :=
      Turn.keepsDistinct_setDistance _ h.distinct
    simp only [AsksWhenDue, Machine.emits, drives, List.cons.injEq, and_true] at hasks
    simp only [Machine.next, drives]
    refine ⟨hdistinct, ?_, ?_, ?_, ?_⟩
    · simp only [Turn.setDistance, if_neg hchanged, Turn.queue, Turn.map]
      refine ⟨_, List.mem_map_of_mem hinfo, ?_, ?_⟩
      · split <;> exact hkey
      · split <;> exact hvalue
    · simp only [Turn.setDistance, if_neg hchanged, Turn.queue, Turn.map]
    · dsimp only
      split <;> omega
    · dsimp only
      split
      · omega
      · rename_i hasked
        exact Nat.not_le.mp fun hdue => hasked (hasks.mpr hdue)

def commandedAt (client : TaskControllerClient) (elementNumber ddi : UInt16) (interval : UInt32)
    (travelled : Nat) : Drive where
  client := ((⟨client, []⟩ : Turn).queue (.addMeasurementDistanceInterval
    { processDataValue := interval.toInt32, elementNumber := elementNumber, ddi := ddi })).client
  travelled := travelled
  reference := travelled

theorem onTheWay_commandedAt {client : TaskControllerClient} {travelled : Nat}
    (hdistinct : client.queues.DistinctTriggers)
    (hreading : client.totalMachineDistance = odometer travelled) (elementNumber ddi : UInt16)
    (hinterval : 0 < interval) :
    OnTheWay (elementNumber, ddi) interval
      (commandedAt client elementNumber ddi interval travelled) := by
  refine ⟨hdistinct.addMeasurementDistanceInterval _, ?_, hreading, Nat.le_refl _,
    Nat.lt_add_of_pos_right (UInt32.lt_iff_toNat_lt.mp hinterval)⟩
  have hadded := exists_mem_addMeasurement (Queues.alterInterval
    { processDataValue := interval.toInt32, elementNumber := elementNumber, ddi := ddi })
    { processDataValue := interval.toInt32, elementNumber := elementNumber, ddi := ddi }
    client.queues.measurementDistanceIntervalCommands
  obtain hnew | ⟨previous, -, hkey, haltered⟩ := hadded
  · exact ⟨_, hnew, rfl, UInt32.toUInt32_toInt32 interval⟩
  · exact ⟨_, haltered, hkey, UInt32.toUInt32_toInt32 interval⟩

/-- On every way the trigger asks exactly when it is due, if and only if each reading tells so. -/
theorem asksWhenDue_along_iff {this : PointerRef} {partner clientSource : CFRef}
    {primaryVT : Option CFRef} {history : List Input} {client : TaskControllerClient}
    (hreached : taskControllerClient.run
      (some (.create this partner clientSource primaryVT)) history = some client)
    (travelled : Nat) (hreading : client.totalMachineDistance = odometer travelled)
    (elementNumber ddi : UInt16) (interval : UInt32) (hinterval : 0 < interval)
    (ways : List Nat) :
    (drives (elementNumber, ddi)).Along (AsksWhenDue (elementNumber, ddi) interval)
        (commandedAt client elementNumber ddi interval travelled) ways ↔
      (drives (elementNumber, ddi)).Along (Readable (elementNumber, ddi))
        (commandedAt client elementNumber ddi interval travelled) ways :=
  (drives (elementNumber, ddi)).along_iff_of_kept (P := OnTheWay (elementNumber, ddi) interval)
    (fun _ _ => asksWhenDue_iff) (fun _ _ => onTheWay_next)
    (onTheWay_commandedAt (distinctTriggers_run hreached) hreading elementNumber ddi hinterval) ways

/-- A trigger that is commanded at the start asks every ten millimetres. -/
theorem asksWhenDue_fromZero :
    taskControllerClient.run (some (.create 0 0 1 none)) [] = some (.create 0 0 1 none) ∧
      (TaskControllerClient.create 0 0 1 none).totalMachineDistance = odometer 0 ∧
      (0 : UInt32) < 10 ∧
      (drives (1, 0x0086)).Along (AsksWhenDue (1, 0x0086) 10)
        (commandedAt (.create 0 0 1 none) 1 0x0086 10 0) [5, 7, 3, 9] := by
  have hreached : taskControllerClient.run (some (.create 0 0 1 none)) [] =
      some (.create 0 0 1 none) := rfl
  refine ⟨hreached, rfl, by decide, (asksWhenDue_along_iff hreached 0 rfl 1 0x0086 10 (by decide)
    [5, 7, 3, 9]).mpr ?_⟩
  have hchecks : (drives (1, 0x0086)).checks
      (fun drive further => decide (Readable (1, 0x0086) drive further))
      (commandedAt (.create 0 0 1 none) 1 0x0086 10 0) [5, 7, 3, 9] = true := by decide +kernel
  exact (drives (1, 0x0086)).along_of_checks (fun _ _ h => of_decide_eq_true h) hchecks

/-- The machine went one metre before the trigger is commanded, which then asks after ten
millimetres instead of half a metre. -/
theorem laterTrigger_asks :
    ∃ client, taskControllerClient.run (some (.create 0 0 1 none))
        [⟨quietAt 0, .setDistance 1000⟩] = some client ∧
      client.totalMachineDistance = odometer 1000 ∧
      ¬(drives (1, 0x0086)).Along (AsksWhenDue (1, 0x0086) 500)
        (commandedAt client 1 0x0086 500 1000) [10] := by
  refine ⟨_, rfl, rfl, fun h => ?_⟩
  exact absurd (h.1.mp rfl) (by decide)

end Isobus.TaskClient
