import Isobus.TaskClient.Triggers

namespace Isobus.TaskClient

open Isobus.Can Isobus.Lib Isobus.DeviceDescriptor Isobus.NetworkManager

inductive TriggerKind
  | change
  | distance
  | maximum
  | minimum
  | time
  deriving DecidableEq

namespace TriggerKind

def all : List TriggerKind := [change, distance, maximum, minimum, time]

def enabled (settings : DefaultProcessDataSettings) : TriggerKind → Bool
  | change => settings.enableChangeThresholdTrigger
  | distance => settings.enableDistanceTrigger
  | maximum => settings.enableMaximumWithinThresholdTrigger
  | minimum => settings.enableMinimumWithinThresholdTrigger
  | time => settings.enableTimeTrigger

def value (settings : DefaultProcessDataSettings) : TriggerKind → Int32
  | change => settings.changeThreshold
  | distance => settings.distanceTriggerInterval
  | maximum => settings.maximumWithinThreshold
  | minimum => settings.minimumWithinThreshold
  | time => settings.timeTriggerInterval

def offered (processData : DeviceProcessDataObject) (kind : TriggerKind) : Bool :=
  let method := match kind with
    | change => ON_CHANGE
    | distance => DISTANCE_INTERVAL
    | maximum | minimum => THRESHOLD_LIMITS
    | time => TIME_INTERVAL
  processData.triggerMethodsBitfield &&& method ≠ 0

def add (info : ProcessDataCallbackInfo) : TriggerKind → Queues → Queues
  | change => .addMeasurementChangeThreshold info
  | distance => .addMeasurementDistanceInterval info
  | maximum => .addMeasurementMaximumThreshold info
  | minimum => .addMeasurementMinimumThreshold info
  | time => .addMeasurementTimeInterval info

end TriggerKind

structure Visit where
  element : DeviceElementObject
  processData : DeviceProcessDataObject

namespace Visit

def settings (application : Application) (visit : Visit) : Option DefaultProcessDataSettings :=
  Application.defaultSettings visit.element.elementNumber visit.processData.ddi {}
    application.defaultProcessDataRequestedCallbacks

def info (visit : Visit) (value : Int32) : ProcessDataCallbackInfo :=
  { processDataValue := value
    elementNumber := visit.element.elementNumber
    ddi := visit.processData.ddi }

/-- Each kind of trigger that is switched on and that the object allows is added. -/
def commandWith (value : DefaultProcessDataSettings → TriggerKind → Int32)
    (application : Application) (queues : Queues) (visit : Visit) : Queues :=
  match visit.settings application with
  | none => queues
  | some settings =>
    TriggerKind.all.foldl (fun queues kind =>
      if kind.enabled settings && kind.offered visit.processData then
        kind.add (visit.info (value settings kind)) queues
      else queues) queues

def command (application : Application) (queues : Queues) (visit : Visit) : Queues :=
  visit.commandWith TriggerKind.value application queues

end Visit

def childVisit (pool : DeviceDescriptorObjectPool) (element : DeviceElementObject)
    (childID : UInt16) : Option Visit :=
  match pool.getObjectById childID with
  | some (.deviceProcessData processData) => some ⟨element, processData⟩
  | _ => none

/-- The elements in the order of the pool, each with its children in their order. -/
def visits (pool : DeviceDescriptorObjectPool) : List Visit :=
  pool.objectList.flatMap fun object =>
    match object with
    | .deviceElement element => element.referenceList.filterMap (childVisit pool element)
    | _ => []

def commandDefaults (application : Application) (pool : DeviceDescriptorObjectPool)
    (queues : Queues) : Queues :=
  (visits pool).foldl (Visit.command application) queues

/-- As many objects and children as can be counted. -/
structure Countable (pool : DeviceDescriptorObjectPool) : Prop where
  objects : pool.objectList.length < 2 ^ 16
  children : ∀ element, .deviceElement element ∈ pool.objectList →
    element.referenceList.length < 2 ^ 16

theorem take_ofNat {α : Type} {xs : List α} (h : xs.length < 2 ^ 16) :
    xs.take (UInt16.ofNat xs.length).toNat = xs := by
  rw [UInt16.toNat_ofNat', Nat.mod_eq_of_lt h, List.take_length]

theorem processDefaultsOfPool_eq {pool : DeviceDescriptorObjectPool} (h : Countable pool)
    (application : Application) (queues : Queues) :
    processDefaultsOfPool application pool queues =
      (visits pool).foldl (fun queues visit =>
        processDefaultOfChild application visit.element queues
          (.deviceProcessData visit.processData)) queues := by
  rw [processDefaultsOfPool, visits, take_ofNat h.objects, List.foldl_flatMap]
  apply List.foldl_ext
  intro queues object hobject
  cases object with
  | deviceElement element =>
    dsimp only
    rw [take_ofNat (h.children element hobject), List.foldl_filterMap]
    apply List.foldl_ext
    intro queues childID _
    rw [childVisit]
    cases pool.getObjectById childID with
    | none => rfl
    | some child => cases child <;> rfl
  | _ => rfl

def addAll (commands infos : List ProcessDataCallbackInfo) : List ProcessDataCallbackInfo :=
  commands.foldl (fun infos info => addMeasurement (Queues.alterThreshold info) info infos) infos

def valueOf (infos : List ProcessDataCallbackInfo) (key : UInt16 × UInt16) : Option Int32 :=
  (infos.find? fun info => info.key = key).map (·.processDataValue)

def ProcessDataCallbackInfo.withValue (value : Int32) (info : ProcessDataCallbackInfo) :
    ProcessDataCallbackInfo :=
  { info with processDataValue := value }

theorem map_withValue_addMeasurement (value : Int32) (info : ProcessDataCallbackInfo)
    (infos : List ProcessDataCallbackInfo) :
    (addMeasurement (Queues.alterThreshold info) info infos).map (·.withValue value) =
      addMeasurement (Queues.alterThreshold (info.withValue value)) (info.withValue value)
        (infos.map (·.withValue value)) := by
  induction infos with
  | nil => rfl
  | cons first infos ih =>
    have hkey : (first.withValue value).key = (info.withValue value).key ↔ first.key = info.key :=
      Iff.rfl
    rw [addMeasurement_cons, List.map_cons, addMeasurement_cons, ← ih]
    simp only [hkey]
    split <;> rfl

theorem valueOf_cons (first : ProcessDataCallbackInfo) (infos : List ProcessDataCallbackInfo)
    (key : UInt16 × UInt16) :
    valueOf (first :: infos) key =
      if first.key = key then some first.processDataValue else valueOf infos key := by
  rw [valueOf, List.find?_cons]
  by_cases hkey : first.key = key
  · simp [hkey]
  · simp [hkey, valueOf]

theorem valueOf_addMeasurement (info : ProcessDataCallbackInfo)
    (infos : List ProcessDataCallbackInfo) (key : UInt16 × UInt16) :
    valueOf (addMeasurement (Queues.alterThreshold info) info infos) key =
      if info.key = key then some info.processDataValue else valueOf infos key := by
  induction infos with
  | nil => exact valueOf_cons info [] key
  | cons first infos ih =>
    rw [addMeasurement_cons, valueOf_cons]
    by_cases hfirst : first.key = info.key
    · rw [if_pos hfirst, valueOf_cons, Queues.key_alterThreshold, hfirst]
      split <;> rfl
    · rw [if_neg hfirst, valueOf_cons, ih]
      by_cases hkey : first.key = key
      · rw [if_pos hkey, if_pos hkey, if_neg fun h => hfirst (hkey.trans h.symm)]
      · rw [if_neg hkey, if_neg hkey]

theorem valueOf_addAll (commands infos : List ProcessDataCallbackInfo) (key : UInt16 × UInt16) :
    valueOf (addAll commands infos) key =
        (valueOf commands.reverse key).or (valueOf infos key) := by
  induction commands using List.reverseRecOn with
  | nil => rfl
  | append_singleton commands info ih =>
    rw [addAll, List.foldl_append, List.foldl_cons, List.foldl_nil, valueOf_addMeasurement,
      List.reverse_append, List.reverse_singleton, List.singleton_append, valueOf_cons]
    split
    · rfl
    · exact ih

theorem map_withValue_addAll (value : Int32) (commands infos : List ProcessDataCallbackInfo) :
    (addAll commands infos).map (·.withValue value) =
      addAll (commands.map (·.withValue value)) (infos.map (·.withValue value)) := by
  induction commands generalizing infos with
  | nil => rfl
  | cons info commands ih =>
    rw [addAll, List.foldl_cons, ← addAll, ih, map_withValue_addMeasurement]
    rfl

variable {infos : List ProcessDataCallbackInfo}

theorem distinct_addAll (commands : List ProcessDataCallbackInfo) (h : Distinct infos) :
    Distinct (addAll commands infos) :=
  foldl_invariant (fun _ info _ h => h.addMeasurement (Queues.key_alterThreshold info) info) h

theorem valueOf_eq_none {key : UInt16 × UInt16} (h : key ∉ infos.map (·.key)) :
    valueOf infos key = none := by
  rw [valueOf, Option.map_eq_none_iff, List.find?_eq_none]
  intro info hinfo hkey
  exact h (List.mem_map.mpr ⟨info, hinfo, of_decide_eq_true hkey⟩)

theorem eq_of_valueOf {infos' : List ProcessDataCallbackInfo} (h : Distinct infos)
    (hsame : infos.map (·.withValue 0) = infos'.map (·.withValue 0))
    (hvalue : ∀ key, valueOf infos key = valueOf infos' key) : infos = infos' := by
  induction infos generalizing infos' with
  | nil => exact (List.map_eq_nil_iff.mp hsame.symm).symm
  | cons first infos ih =>
    cases infos' with
    | nil => cases hsame
    | cons first' infos' =>
      obtain ⟨hfirst, hrest⟩ := List.cons.inj hsame
      have hkey : (first.withValue 0).key = (first'.withValue 0).key :=
        congrArg ProcessDataCallbackInfo.key hfirst
      change first.key = first'.key at hkey
      have hkeys : infos.map (·.key) = infos'.map (·.key) := by
        have := congrArg (List.map (·.key)) hrest
        rwa [List.map_map, List.map_map] at this
      obtain ⟨hnotin, hdistinct⟩ := List.nodup_cons.mp h
      have hhead := hvalue first.key
      rw [valueOf_cons, valueOf_cons, if_pos rfl, if_pos hkey.symm] at hhead
      have htail : infos = infos' := by
        refine ih hdistinct hrest fun key => ?_
        have hboth := hvalue key
        rw [valueOf_cons, valueOf_cons, ← hkey] at hboth
        by_cases heq : first.key = key
        · rw [valueOf_eq_none (heq ▸ hnotin), valueOf_eq_none (heq ▸ hkeys ▸ hnotin)]
        · rwa [if_neg heq, if_neg heq] at hboth
      rw [htail]
      congr 1
      cases first
      cases first'
      simp_all [ProcessDataCallbackInfo.withValue]

theorem addAll_withValue_iff (value : Int32) (commands : List ProcessDataCallbackInfo)
    (h : Distinct infos) :
    addAll (commands.map (·.withValue value)) infos = addAll commands infos ↔
      ∀ key last, valueOf commands.reverse key = some last → last = value := by
  have hvalue (key : UInt16 × UInt16) :
      valueOf (commands.map (·.withValue value)).reverse key =
        (valueOf commands.reverse key).map fun _ => value := by
    rw [← List.map_reverse]
    induction commands.reverse with
    | nil => rfl
    | cons info commands ih =>
      rw [List.map_cons, valueOf_cons, valueOf_cons, ih]
      by_cases hkey : info.key = key
      · have hkey' : (info.withValue value).key = key := hkey
        rw [if_pos hkey, if_pos hkey']
        rfl
      · have hkey' : ¬(info.withValue value).key = key := hkey
        rw [if_neg hkey, if_neg hkey']
  constructor
  · intro heq key last hlast
    have hboth := congrArg (valueOf · key) heq
    simp only [valueOf_addAll, hvalue, hlast] at hboth
    exact (Option.some.inj hboth).symm
  · intro hall
    refine eq_of_valueOf (distinct_addAll _ h) ?_ fun key => ?_
    · rw [map_withValue_addAll, map_withValue_addAll, List.map_map]
      rfl
    · rw [valueOf_addAll, valueOf_addAll, hvalue]
      cases hlast : valueOf commands.reverse key with
      | none => rfl
      | some last =>
        rw [hall key last hlast]
        rfl

def takenValue (settings : DefaultProcessDataSettings) (kind : TriggerKind) : Int32 :=
  if kind = .minimum then 1 else kind.value settings

theorem processDefaultOfChild_eq (application : Application) (visit : Visit) (queues : Queues) :
    processDefaultOfChild application visit.element queues (.deviceProcessData visit.processData) =
      visit.commandWith takenValue application queues := by
  simp only [processDefaultOfChild, Visit.commandWith, Visit.settings]
  cases Application.defaultSettings visit.element.elementNumber visit.processData.ddi {}
      application.defaultProcessDataRequestedCallbacks with
  | none => rfl
  | some settings =>
    cases hminimum : settings.enableMinimumWithinThresholdTrigger
    all_goals
      simp only [populateAnyTriggersFromSettings, TriggerKind.all, List.foldl_cons,
        List.foldl_nil, TriggerKind.enabled, TriggerKind.offered, hminimum]
      rfl

namespace Visit

variable (value : DefaultProcessDataSettings → TriggerKind → Int32) (application : Application)

def minimumCommand (visit : Visit) : Option ProcessDataCallbackInfo :=
  (visit.settings application).bind fun settings =>
    if TriggerKind.minimum.enabled settings && TriggerKind.minimum.offered visit.processData then
      some (visit.info (value settings .minimum))
    else none

theorem minimum_add (condition : Bool) {kind : TriggerKind} (hkind : kind ≠ .minimum)
    (info : ProcessDataCallbackInfo) (queues : Queues) :
    (if condition then kind.add info queues else queues).measurementMinimumThresholdCommands =
      queues.measurementMinimumThresholdCommands := by
  cases condition with
  | false => rfl
  | true =>
    cases kind with
    | minimum => exact absurd rfl hkind
    | _ => rfl

theorem minimum_commandWith (visit : Visit) (queues : Queues) :
    (visit.commandWith value application queues).measurementMinimumThresholdCommands =
      addAll (visit.minimumCommand value application).toList
        queues.measurementMinimumThresholdCommands := by
  rw [commandWith, minimumCommand]
  cases visit.settings application with
  | none => rfl
  | some settings =>
    simp only [TriggerKind.all, List.foldl_cons, List.foldl_nil, Option.bind_some]
    rw [minimum_add _ (by decide)]
    split
    · change addMeasurement _ _ _ = addMeasurement _ _ _
      rw [minimum_add _ (by decide), minimum_add _ (by decide), minimum_add _ (by decide)]
    · rw [minimum_add _ (by decide), minimum_add _ (by decide), minimum_add _ (by decide)]
      rfl

theorem minimum_foldl_commandWith (visits : List Visit) (queues : Queues) :
    (visits.foldl (commandWith value application) queues).measurementMinimumThresholdCommands =
      addAll (visits.filterMap (minimumCommand value application))
        queues.measurementMinimumThresholdCommands := by
  induction visits generalizing queues with
  | nil => rfl
  | cons visit visits ih =>
    rw [List.foldl_cons, ih, minimum_commandWith, List.filterMap_cons]
    cases visit.minimumCommand value application <;> rfl

end Visit

def Queues.withoutMinimum (queues : Queues) : Queues :=
  { queues with measurementMinimumThresholdCommands := [] }

variable {queues : Queues}

theorem Queues.eq_iff_minimum {queues' : Queues}
    (h : queues.withoutMinimum = queues'.withoutMinimum) :
    queues = queues' ↔ queues.measurementMinimumThresholdCommands =
      queues'.measurementMinimumThresholdCommands := by
  constructor
  · rintro rfl
    rfl
  · intro hminimum
    cases queues
    cases queues'
    simp only [withoutMinimum, mk.injEq] at h hminimum ⊢
    exact ⟨h.1, h.2.1, h.2.2.1, h.2.2.2.1, hminimum, h.2.2.2.2.2⟩

theorem Queues.withoutMinimum_add {kind : TriggerKind} (hkind : kind ≠ .minimum)
    (info : ProcessDataCallbackInfo) (queues : Queues) :
    (kind.add info queues).withoutMinimum = kind.add info queues.withoutMinimum := by
  cases kind with
  | minimum => exact absurd rfl hkind
  | _ => rfl

theorem withoutMinimum_foldl (application : Application) (visits : List Visit) {queues' : Queues}
    (h : queues.withoutMinimum = queues'.withoutMinimum) :
    (visits.foldl (Visit.commandWith takenValue application) queues).withoutMinimum =
      (visits.foldl (Visit.command application) queues').withoutMinimum := by
  induction visits generalizing queues queues' with
  | nil => exact h
  | cons visit visits ih =>
    rw [List.foldl_cons, List.foldl_cons]
    refine ih ?_
    rw [Visit.command, Visit.commandWith, Visit.commandWith]
    cases visit.settings application with
    | none => exact h
    | some settings =>
      dsimp only
      generalize TriggerKind.all = kinds
      induction kinds generalizing queues queues' with
      | nil => exact h
      | cons kind kinds ihkinds =>
        rw [List.foldl_cons, List.foldl_cons]
        refine ihkinds ?_
        split
        · by_cases hkind : kind = .minimum
          · rw [hkind]
            exact h
          · rw [Queues.withoutMinimum_add hkind, Queues.withoutMinimum_add hkind, h,
              takenValue, if_neg hkind]
        · exact h

def minimumCommands (application : Application) (pool : DeviceDescriptorObjectPool) :
    List ProcessDataCallbackInfo :=
  (visits pool).filterMap (Visit.minimumCommand TriggerKind.value application)

theorem minimumCommands_takenValue (application : Application) (visits : List Visit) :
    visits.filterMap (Visit.minimumCommand takenValue application) =
      (visits.filterMap (Visit.minimumCommand TriggerKind.value application)).map
        (·.withValue 1) := by
  rw [List.map_filterMap]
  apply List.filterMap_congr
  intro visit _
  simp only [Visit.minimumCommand]
  cases visit.settings application with
  | none => rfl
  | some settings =>
    simp only [Option.bind_some]
    split <;> rfl

theorem processDefaultsOfPool_eq_iff {application : Application}
    {pool : DeviceDescriptorObjectPool} (hcountable : Countable pool)
    (hdistinct : queues.DistinctTriggers) :
    processDefaultsOfPool application pool queues = commandDefaults application pool queues ↔
      ∀ key last, valueOf (minimumCommands application pool).reverse key = some last →
          last = 1 := by
  rw [processDefaultsOfPool_eq hcountable, commandDefaults]
  simp only [processDefaultOfChild_eq]
  change (visits pool).foldl (Visit.commandWith takenValue application) queues = _ ↔ _
  rw [Queues.eq_iff_minimum (withoutMinimum_foldl application (visits pool) rfl)]
  rw [Visit.minimum_foldl_commandWith, minimumCommands_takenValue]
  change _ = ((visits pool).foldl (Visit.commandWith TriggerKind.value application)
    queues).measurementMinimumThresholdCommands ↔ _
  rw [Visit.minimum_foldl_commandWith]
  exact addAll_withValue_iff 1 _ hdistinct.minimum

/-- The pool that the application supplied, if need be read from its bytes. -/
def TaskControllerClient.suppliedPool (client : TaskControllerClient) (env : Environment) :
    Option (Option DeviceDescriptorObjectPool) :=
  let tempPool : DeviceDescriptorObjectPool :=
    { taskControllerCompatibilityLevel := MAX_TC_VERSION_SUPPORTED
      taskControllerCompatibilityLevel_le := UInt8.le_refl _ }
  let read (binaryPool : List UInt8) : Option (Option DeviceDescriptorObjectPool) :=
    (tempPool.deserializeBinaryObjectPool binaryPool
      (env.nm.name client.myControlFunction)).map fun result =>
        if result.1 then some result.2 else none
  match client.ddop.clientDDOP, client.ddop.userSuppliedVectorDDOP,
      client.ddop.userSuppliedBinaryDDOP with
  | some pool, _, _ => some (some pool)
  | none, some binaryDDOP, _ => read binaryDDOP
  | none, none, some binaryDDOP =>
    read (binaryDDOP.take client.ddop.userSuppliedBinaryDDOPSize.toNat)
  | none, none, none => some none

def TaskControllerClient.commandedQueues (client : TaskControllerClient) (env : Environment) :
    Option DeviceDescriptorObjectPool → Queues
  | some pool => commandDefaults env.application pool client.queues
  | none => client.queues

/-- With a pool that can be read, the defaults end up in the lists. -/
def MeetsDefaults (client : TaskControllerClient) (env : Environment) : Prop :=
  ∀ found, client.suppliedPool env = some found → ∀ destroyedPool, ∃ turn,
    (⟨client, []⟩ : Turn).processAllDefaultProcessDataRequests
        { env with destroyedPool := destroyedPool } = some turn ∧
      turn.client.queues = client.commandedQueues env found ∧ turn.client.queues.DistinctTriggers

def NoDefaults (client : TaskControllerClient) (env : Environment)
    (pool : DeviceDescriptorObjectPool) : Prop :=
  (∀ element child, processDefaultOfChild env.application element client.queues child =
      client.queues) ∧
    commandDefaults env.application pool client.queues = client.queues

/-- Every minimum that stays is 1, and nothing is to be done for a pool that has to be read. -/
def DefaultsFit (client : TaskControllerClient) (env : Environment) : Prop :=
  match client.ddop.clientDDOP with
  | some pool =>
    ∀ key last, valueOf (minimumCommands env.application pool).reverse key = some last → last = 1
  | none => ∀ pool, client.suppliedPool env = some (some pool) → NoDefaults client env pool

variable {client : TaskControllerClient} {env : Environment}

theorem defaultProcessDataPool_eq (h : client.ddop.clientDDOP = none)
    (destroyedPool : DeviceDescriptorObjectPool) :
    client.defaultProcessDataPool { env with destroyedPool := destroyedPool } =
      (client.suppliedPool env).map fun found => found.map fun _ => destroyedPool := by
  have hread (result : Option (Bool × DeviceDescriptorObjectPool)) :
      (result.map fun result => if result.1 then some destroyedPool else none) =
        (result.map fun result => if result.1 then some result.2 else none).map fun found =>
          found.map fun _ => destroyedPool := by
    cases result with
    | none => rfl
    | some result =>
      rw [Option.map_some, Option.map_some, Option.map_some]
      cases result.1 <;> rfl
  rw [TaskControllerClient.defaultProcessDataPool, TaskControllerClient.suppliedPool, h]
  cases client.ddop.userSuppliedVectorDDOP with
  | some binaryDDOP => exact hread _
  | none =>
    cases client.ddop.userSuppliedBinaryDDOP with
    | some binaryDDOP => exact hread _
    | none => rfl

theorem processes_iff (hdue : client.shouldProcessAllDefaultProcessDataRequests = true)
    (hdistinct : client.queues.DistinctTriggers) {found : Option DeviceDescriptorObjectPool}
    (hfound : client.defaultProcessDataPool env = some found) (queues : Queues) :
    (∃ turn, (⟨client, []⟩ : Turn).processAllDefaultProcessDataRequests env = some turn ∧
        turn.client.queues = queues ∧ turn.client.queues.DistinctTriggers) ↔
      (found.elim client.queues fun pool =>
        processDefaultsOfPool env.application pool client.queues) = queues := by
  have hturn : ∃ turn, (⟨client, []⟩ : Turn).processAllDefaultProcessDataRequests env = some turn ∧
      turn.client.queues = found.elim client.queues fun pool =>
        processDefaultsOfPool env.application pool client.queues := by
    rw [Turn.processAllDefaultProcessDataRequests, if_pos hdue, hfound]
    refine ⟨_, rfl, ?_⟩
    cases found <;> rfl
  obtain ⟨turn, hprocess, hqueues⟩ := hturn
  constructor
  · rintro ⟨turn', hprocess', rfl, -⟩
    rw [hprocess] at hprocess'
    rw [← hqueues, Option.some.inj hprocess']
  · rintro rfl
    exact ⟨turn, hprocess, hqueues,
      Turn.keepsDistinct_processAllDefaultProcessDataRequests hprocess hdistinct⟩

def poolOfOne (element : DeviceElementObject) (processData : DeviceProcessDataObject) :
    DeviceDescriptorObjectPool where
  objectList := [.deviceProcessData processData,
    .deviceElement { element with referenceList := [processData.objectID] }]
  taskControllerCompatibilityLevel := 0
  taskControllerCompatibilityLevel_le := UInt8.zero_le

theorem countable_poolOfOne (element : DeviceElementObject)
    (processData : DeviceProcessDataObject) : Countable (poolOfOne element processData) := by
  refine ⟨by simp [poolOfOne], fun element' hmem => ?_⟩
  simp only [poolOfOne, List.mem_cons, reduceCtorEq, false_or, List.not_mem_nil, or_false,
    Object.deviceElement.injEq] at hmem
  rw [hmem]
  simp

theorem processDefaultsOfPool_poolOfOne (application : Application) (queues : Queues)
    (element : DeviceElementObject) (processData : DeviceProcessDataObject) :
    processDefaultsOfPool application (poolOfOne element processData) queues =
      processDefaultOfChild application element queues (.deviceProcessData processData) := by
  have hfind : (poolOfOne element processData).getObjectById processData.objectID =
      some (.deviceProcessData processData) := by
    simp [poolOfOne, DeviceDescriptorObjectPool.getObjectById, Object.getObjectId]
  have hvisits : visits (poolOfOne element processData) =
      [⟨{ element with referenceList := [processData.objectID] }, processData⟩] := by
    change [processData.objectID].filterMap (childVisit (poolOfOne element processData) _) ++ [] = _
    rw [List.filterMap_cons, childVisit, hfind]
    rfl
  rw [processDefaultsOfPool_eq (countable_poolOfOne element processData), hvisits]
  rfl

theorem processDefaultsOfPool_eq_self {application : Application}
    (h : ∀ element child, processDefaultOfChild application element queues child = queues)
    (pool : DeviceDescriptorObjectPool) :
    processDefaultsOfPool application pool queues = queues := by
  rw [processDefaultsOfPool]
  refine foldl_invariant (P := fun queues' => queues' = queues) (fun queues' object _ hq => ?_) rfl
  cases object with
  | deviceElement element =>
    refine foldl_invariant (P := fun queues' => queues' = queues)
      (fun queues' childID _ hq => ?_) hq
    cases pool.getObjectById childID with
    | none => exact hq
    | some child => exact hq ▸ h element child
  | _ => exact hq

theorem noDefaults_iff {pool : DeviceDescriptorObjectPool} :
    (∀ destroyedPool, processDefaultsOfPool env.application destroyedPool client.queues =
        commandDefaults env.application pool client.queues) ↔ NoDefaults client env pool := by
  constructor
  · intro hall
    have hnone : commandDefaults env.application pool client.queues = client.queues :=
      (hall ⟨[], 0, UInt8.zero_le⟩).symm
    refine ⟨fun element child => ?_, hnone⟩
    cases child with
    | deviceProcessData processData =>
      rw [← processDefaultsOfPool_poolOfOne, hall, hnone]
    | _ => rfl
  · rintro ⟨hchild, hnone⟩ destroyedPool
    rw [hnone, processDefaultsOfPool_eq_self hchild]

/-- The client does what the defaults say exactly if they fit its two mistakes. -/
theorem meetsDefaults_iff {this : PointerRef} {partner clientSource : CFRef}
    {primaryVT : Option CFRef} {history : List Input}
    (hreached : taskControllerClient.run
      (some (.create this partner clientSource primaryVT)) history = some client)
    (hdue : client.shouldProcessAllDefaultProcessDataRequests = true)
    (hcountable : ∀ pool, client.ddop.clientDDOP = some pool → Countable pool) :
    MeetsDefaults client env ↔ DefaultsFit client env := by
  have hdistinct := distinctTriggers_run hreached
  rw [MeetsDefaults, DefaultsFit]
  cases hpool : client.ddop.clientDDOP with
  | some pool =>
    have hsupplied : client.suppliedPool env = some (some pool) := by
      rw [TaskControllerClient.suppliedPool, hpool]
    have hfound (destroyedPool : DeviceDescriptorObjectPool) : client.defaultProcessDataPool
        { env with destroyedPool := destroyedPool } = some (some pool) := by
      rw [TaskControllerClient.defaultProcessDataPool, hpool]
    dsimp only
    rw [← processDefaultsOfPool_eq_iff (hcountable pool hpool) hdistinct]
    constructor
    · intro hmeets
      exact (processes_iff hdue hdistinct (hfound env.destroyedPool) _).mp
        (hmeets _ hsupplied env.destroyedPool)
    · intro heq found hfound' destroyedPool
      rw [hsupplied] at hfound'
      cases hfound'
      exact (processes_iff hdue hdistinct (hfound destroyedPool) _).mpr heq
  | none =>
    have hfound {found : Option DeviceDescriptorObjectPool}
        (h : client.suppliedPool env = some found) (destroyedPool : DeviceDescriptorObjectPool) :
        client.defaultProcessDataPool { env with destroyedPool := destroyedPool } =
          some (found.map fun _ => destroyedPool) := by
      rw [defaultProcessDataPool_eq hpool, h, Option.map_some]
    dsimp only
    constructor
    · intro hmeets pool hsupplied
      exact noDefaults_iff.mp fun destroyedPool =>
        (processes_iff hdue hdistinct (hfound hsupplied destroyedPool) _).mp
          (hmeets _ hsupplied destroyedPool)
    · intro hnone found hsupplied destroyedPool
      refine (processes_iff hdue hdistinct (hfound hsupplied destroyedPool) _).mpr ?_
      cases found with
      | none => rfl
      | some pool => exact noDefaults_iff.mpr (hnone pool hsupplied) destroyedPool

/-- An element with one process data object that has threshold limits. -/
def limitedPool : DeviceDescriptorObjectPool :=
  poolOfOne ⟨[], 1, [], 1, 0, .device⟩ ⟨[], 2, 0x0086, 0xFFFF, 0, THRESHOLD_LIMITS⟩

/-- The application wants to hear of everything below a threshold. -/
def minimumAt (threshold : Int32) : Environment :=
  { quietAt 0 with
    application := ⟨[fun _ _ settings => (true, { settings with
      minimumWithinThreshold := threshold, enableMinimumWithinThresholdTrigger := true })],
      [], []⟩ }

def defaultsRequested : List Input :=
  [⟨quietAt 0, .configure (.object limitedPool) {}⟩,
    ⟨quietAt 0, .receive (processDataFrom 0 [0x02, 0, 0xFF, 0xDF, 0xFF, 0xFF, 0xFF, 0xFF])⟩]

theorem meetsDefaults_minimumOne :
    ∃ client, taskControllerClient.run (some (.create 0 0 1 none)) defaultsRequested = some client ∧
      client.shouldProcessAllDefaultProcessDataRequests = true ∧
      (∀ pool, client.ddop.clientDDOP = some pool → Countable pool) ∧
      MeetsDefaults client (minimumAt 1) := by
  have hreached : taskControllerClient.run (some (.create 0 0 1 none)) defaultsRequested =
      some _ := rfl
  have hcountable (pool : DeviceDescriptorObjectPool) (h : some limitedPool = some pool) :
      Countable pool := by
    cases h
    exact countable_poolOfOne _ _
  refine ⟨_, hreached, rfl, hcountable, (meetsDefaults_iff hreached rfl hcountable).mpr ?_⟩
  intro key last hlast
  have hcommands : (minimumCommands (minimumAt 1).application limitedPool).reverse =
      [{ processDataValue := 1, elementNumber := 1, ddi := 0x0086 }] := by decide +kernel
  rw [hcommands, valueOf_cons] at hlast
  split at hlast
  · exact (Option.some.inj hlast).symm
  · cases hlast

/-- A minimum of five becomes one of one. -/
theorem minimumFive_not_meets :
    ∃ client, taskControllerClient.run (some (.create 0 0 1 none)) defaultsRequested = some client ∧
      client.shouldProcessAllDefaultProcessDataRequests = true ∧
      ¬MeetsDefaults client (minimumAt 5) := by
  have hreached : taskControllerClient.run (some (.create 0 0 1 none)) defaultsRequested =
      some _ := rfl
  refine ⟨_, hreached, rfl, fun h => ?_⟩
  have hqueues := (processes_iff rfl (distinctTriggers_run hreached) rfl _).mp (h _ rfl limitedPool)
  revert hqueues
  decide +kernel

end Isobus.TaskClient
