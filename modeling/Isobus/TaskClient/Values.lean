import Isobus.TaskClient.Client

/-!
# The values that the client sends

The default triggers of a device descriptor, the queues of requests and commands, and the
triggers that are looked at in every update while the client is connected.
-/

namespace Isobus.TaskClient

open Isobus.Can Isobus.Lib Isobus.DeviceDescriptor Isobus.NetworkManager

/-- `AvailableTriggerMethods`. -/
def TIME_INTERVAL : UInt8 := 0x01
def DISTANCE_INTERVAL : UInt8 := 0x02
def THRESHOLD_LIMITS : UInt8 := 0x04
def ON_CHANGE : UInt8 := 0x08

/-- The pool of the application, or else one read from the binary pool, which is gone when it is
used. The reading may fail. -/
def TaskControllerClient.defaultProcessDataPool (client : TaskControllerClient)
    (env : Environment) : Option (Option DeviceDescriptorObjectPool) :=
  let tempPool : DeviceDescriptorObjectPool :=
    { taskControllerCompatibilityLevel := MAX_TC_VERSION_SUPPORTED
      taskControllerCompatibilityLevel_le := UInt8.le_refl _ }
  let read (binaryPool : List UInt8) : Option (Option DeviceDescriptorObjectPool) :=
    (tempPool.deserializeBinaryObjectPool binaryPool
      (env.nm.name client.myControlFunction)).map fun result =>
        if result.1 then some env.destroyedPool else none
  match client.ddop.clientDDOP, client.ddop.userSuppliedVectorDDOP,
      client.ddop.userSuppliedBinaryDDOP with
  | some pool, _, _ => some (some pool)
  | none, some binaryDDOP, _ => read binaryDDOP
  | none, none, some binaryDDOP =>
    read (binaryDDOP.take client.ddop.userSuppliedBinaryDDOPSize.toNat)
  | none, none, none => some none

def populateAnyTriggersFromSettings (processData : DeviceProcessDataObject)
    (elementNumber : UInt16) (settings : DefaultProcessDataSettings) (queues : Queues) : Queues :=
  let allowed (enabled : Bool) (methods : UInt8) : Bool :=
    enabled && processData.triggerMethodsBitfield &&& methods ≠ 0
  let info (value : Int32) : ProcessDataCallbackInfo :=
    { processDataValue := value, elementNumber := elementNumber, ddi := processData.ddi }
  let add (condition : Bool) (change : Queues → Queues) (queues : Queues) : Queues :=
    if condition then change queues else queues
  -- The source takes the switch of the minimum trigger for its value.
  let minimum : Int32 := if settings.enableMinimumWithinThresholdTrigger then 1 else 0
  queues
    |> add (allowed settings.enableChangeThresholdTrigger ON_CHANGE)
        (.addMeasurementChangeThreshold (info settings.changeThreshold))
    |> add (allowed settings.enableDistanceTrigger DISTANCE_INTERVAL)
        (.addMeasurementDistanceInterval (info settings.distanceTriggerInterval))
    |> add (allowed settings.enableMaximumWithinThresholdTrigger THRESHOLD_LIMITS)
        (.addMeasurementMaximumThreshold (info settings.maximumWithinThreshold))
    |> add (allowed settings.enableMinimumWithinThresholdTrigger THRESHOLD_LIMITS)
        (.addMeasurementMinimumThreshold (info minimum))
    |> add (allowed settings.enableTimeTrigger TIME_INTERVAL)
        (.addMeasurementTimeInterval (info settings.timeTriggerInterval))

/-- The settings of the first callback that has some; each is shown those of the one before. -/
def Application.defaultSettings (element ddi : UInt16) (settings : DefaultProcessDataSettings) :
    List (UInt16 → UInt16 → DefaultProcessDataSettings → Bool × DefaultProcessDataSettings) →
    Option DefaultProcessDataSettings
  | [] => none
  | callback :: callbacks =>
    if (callback element ddi settings).1 then some (callback element ddi settings).2
    else defaultSettings element ddi (callback element ddi settings).2 callbacks

def processDefaultOfChild (application : Application) (element : DeviceElementObject)
    (queues : Queues) : Object → Queues
  | .deviceProcessData processData =>
    match Application.defaultSettings element.elementNumber processData.ddi {}
        application.defaultProcessDataRequestedCallbacks with
    | some settings =>
      populateAnyTriggersFromSettings processData element.elementNumber settings queues
    | none => queues
  | _ => queues

/-- Both numbers, of objects and of children, are kept in sixteen bits. -/
def processDefaultsOfPool (application : Application) (pool : DeviceDescriptorObjectPool)
    (queues : Queues) : Queues :=
  (pool.objectList.take (UInt16.ofNat pool.objectList.length).toNat).foldl (fun queues object =>
    match object with
    | .deviceElement element =>
      (element.referenceList.take (UInt16.ofNat element.referenceList.length).toNat).foldl
        (fun queues childID =>
          match pool.getObjectById childID with
          | some child => processDefaultOfChild application element queues child
          | none => queues) queues
    | _ => queues) queues

def Turn.processAllDefaultProcessDataRequests (env : Environment) (turn : Turn) : Option Turn :=
  if turn.client.shouldProcessAllDefaultProcessDataRequests then
    (turn.client.defaultProcessDataPool env).map fun found =>
      turn.map fun client =>
        { client with
          shouldProcessAllDefaultProcessDataRequests := false
          queues := match found with
            | some pool => processDefaultsOfPool env.application pool client.queues
            | none => client.queues }
  else some turn

def Application.requestedValue (application : Application) (info : ProcessDataCallbackInfo) :
    Option Int32 :=
  application.requestValueCallbacks.findSome? fun callback =>
    if (callback info.elementNumber info.ddi 0).1 then
      some (callback info.elementNumber info.ddi 0).2
    else none

/-- The same where each callback goes on with what the one before left. -/
def Application.currentValue (info : ProcessDataCallbackInfo) (value : Int32) :
    List (UInt16 → UInt16 → Int32 → Bool × Int32) → Int32
  | [] => value
  | callback :: callbacks =>
    if (callback info.elementNumber info.ddi value).1 then
      (callback info.elementNumber info.ddi value).2
    else currentValue info (callback info.elementNumber info.ddi value).2 callbacks

/-- What is left to do after the network manager refused a message. -/
structure Processed where
  transmitSuccessful : Bool
  remaining : List ProcessDataCallbackInfo
  turn : Turn

namespace Turn

variable (env : Environment) (turn : Turn)

def offerValue (info : ProcessDataCallbackInfo) (value : Int32) : Turn :=
  turn.offer env (turn.client.valueCommand info.elementNumber info.ddi value)

def processQueuedValueRequests (turn : Turn) : List ProcessDataCallbackInfo → Processed
  | [] => ⟨true, [], turn⟩
  | request :: requests =>
    match env.application.requestedValue request with
    | some newValue =>
      if turn.sent env then
        processQueuedValueRequests (turn.offerValue env request newValue) requests
      else ⟨false, requests, turn.offerValue env request newValue⟩
    | none => processQueuedValueRequests turn requests

def commandValue (info : ProcessDataCallbackInfo) (turn : Turn) :
    List (UInt16 → UInt16 → Int32 → Bool) → Turn
  | [] => turn
  | callback :: callbacks =>
    let called :=
      turn.emit (.valueCommand info.elementNumber info.ddi info.processDataValue)
    if callback info.elementNumber info.ddi info.processDataValue then called
    else commandValue info called callbacks

def processQueuedValueCommands (turn : Turn) : List ProcessDataCallbackInfo → Processed
  | [] => ⟨true, [], turn⟩
  | command :: commands =>
    let commanded := turn.commandValue command env.application.valueCommandsCallbacks
    if command.ackRequested then
      let acknowledged :=
        commanded.offer env (turn.client.pdack command.elementNumber command.ddi)
      if commanded.sent env then processQueuedValueCommands acknowledged commands
      else ⟨false, commands, acknowledged⟩
    else processQueuedValueCommands commanded commands

def processQueuedCommands : Turn :=
  let requests := turn.processQueuedValueRequests env turn.client.queues.queuedValueRequests
  let commands :=
    if requests.transmitSuccessful then
      requests.turn.processQueuedValueCommands env turn.client.queues.queuedValueCommands
    else ⟨false, turn.client.queues.queuedValueCommands, requests.turn⟩
  commands.turn.map fun client =>
    { client with
      queues := { client.queues with
        queuedValueRequests := requests.remaining
        queuedValueCommands := commands.remaining } }

/-- Look at one trigger after the other; each may change and may send a value. -/
def lookAt (look : ProcessDataCallbackInfo → Turn → ProcessDataCallbackInfo × Turn)
    (turn : Turn) : List ProcessDataCallbackInfo → List ProcessDataCallbackInfo × Turn
  | [] => ([], turn)
  | info :: infos =>
    let first := look info turn
    let others := lookAt look first.2 infos
    (first.1 :: others.1, others.2)

def lookAtTimeInterval (info : ProcessDataCallbackInfo) (turn : Turn) :
    ProcessDataCallbackInfo × Turn :=
  if env.timeExpired info.lastValue.toUInt32 info.processDataValue.toUInt32 then
    match env.application.requestedValue info with
    | some newValue =>
      (if turn.sent env then { info with lastValue := env.now.toInt32 } else info,
        turn.offerValue env info newValue)
    | none => (info, turn)
  else (info, turn)

/-- A threshold is reported once it is passed, and again after the value came back. -/
def lookAtThreshold (passed back : Int32 → Int32 → Bool) (info : ProcessDataCallbackInfo)
    (turn : Turn) : ProcessDataCallbackInfo × Turn :=
  let newValue := Application.currentValue info 0 env.application.requestValueCallbacks
  if info.thresholdPassed then
    (if back newValue info.processDataValue then { info with thresholdPassed := false } else info,
      turn)
  else if passed newValue info.processDataValue then
    (if turn.sent env then { info with thresholdPassed := true } else info,
      turn.offerValue env info newValue)
  else (info, turn)

def lookAtChange (info : ProcessDataCallbackInfo) (turn : Turn) : ProcessDataCallbackInfo × Turn :=
  let newValue := Application.currentValue info 0 env.application.requestValueCallbacks
  let lowerLimit : Int := max 0 (info.lastValue.toInt - info.processDataValue.toInt)
  if newValue ≠ info.lastValue ∧ (newValue ≥ info.lastValue + info.processDataValue ∨
      newValue.toInt ≤ lowerLimit) then
    (if turn.sent env then { info with lastValue := newValue } else info,
      turn.offerValue env info newValue)
  else (info, turn)

def processQueuedThresholdCommands : Turn :=
  let queues := turn.client.queues
  let timed := turn.lookAt (lookAtTimeInterval env) queues.measurementTimeIntervalCommands
  let maximal := timed.2.lookAt (lookAtThreshold env (· > ·) (· < ·))
    queues.measurementMaximumThresholdCommands
  let minimal := maximal.2.lookAt (lookAtThreshold env (· < ·) (· > ·))
    queues.measurementMinimumThresholdCommands
  let changed := minimal.2.lookAt (lookAtChange env) queues.measurementOnChangeThresholdCommands
  changed.2.map fun client =>
    { client with
      queues := { client.queues with
        measurementTimeIntervalCommands := timed.1
        measurementMaximumThresholdCommands := maximal.1
        measurementMinimumThresholdCommands := minimal.1
        measurementOnChangeThresholdCommands := changed.1 } }

end Turn

end Isobus.TaskClient
