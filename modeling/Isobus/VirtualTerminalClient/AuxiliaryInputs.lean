import Isobus.VirtualTerminalClient.StateTracker

/-!
# Auxiliary inputs of a virtual terminal client

`isobus_virtual_terminal_client.cpp`: the auxiliary input devices that a client knows, and the
functions that are assigned to their inputs.
-/

namespace Isobus.VirtualTerminalClient

open Isobus.Can Isobus.Lib Isobus.VirtualTerminal

def AuxiliaryInputTypeTwoMaintenanceMessage : UInt8 := 0x23
def AuxiliaryAssignmentTypeTwoCommand : UInt8 := 0x24
def AuxiliaryInputTypeTwoStatusMessage : UInt8 := 0x26
def DEFAULT_NAME : UInt64 := 0xFFFFFFFFFFFFFFFF

def QuadratureBooleanMomentary : UInt8 := 11

/-- The type is kept by its number. -/
structure AssignedAuxiliaryFunction where
  functionObjectID : UInt16
  inputObjectID : UInt16
  functionType : UInt8
  deriving DecidableEq

structure AssignedAuxiliaryInputDevice where
  name : UInt64
  modelIdentificationCode : UInt16
  functions : List AssignedAuxiliaryFunction := []
  deriving DecidableEq

inductive AuxiliaryEvent
  /-- A response was handed to the network manager, which gave this answer. -/
  | response (frame : TransmitFrame) (sent : Bool)
  | auxiliaryFunction (device : UInt64) (function : AssignedAuxiliaryFunction)
      (value1 value2 : UInt16)
  /-- An iterator was used again after the entry it stood at had been erased. -/
  | staleIterator
  | nullDereference
  deriving DecidableEq

structure AuxiliaryClient where
  myControlFunction : CFRef
  partnerControlFunction : CFRef
  isVtVersion6Supported : Bool
  assignedAuxiliaryInputDevices : List AssignedAuxiliaryInputDevice := []
  deriving DecidableEq

structure AuxiliaryAssignment where
  isoName : UInt64
  functionType : UInt8
  inputObjectID : UInt16
  functionObjectID : UInt16
  deriving DecidableEq

def AuxiliaryAssignment.ofMessage (message : CANMessage) : AuxiliaryAssignment where
  isoName := decode64 (message.getUint8At 1) (message.getUint8At 2) (message.getUint8At 3)
    (message.getUint8At 4) (message.getUint8At 5) (message.getUint8At 6) (message.getUint8At 7)
    (message.getUint8At 8)
  functionType := message.getUint8At 9 &&& 0x1F
  inputObjectID := message.getUint16At 10
  functionObjectID := message.getUint16At 12

namespace AuxiliaryAssignment

variable (assignment : AuxiliaryAssignment)

/-- The message takes functions away. -/
def isUnassignment : Bool := assignment.isoName = DEFAULT_NAME ∧ assignment.functionType = 0x1F

def function : AssignedAuxiliaryFunction where
  functionObjectID := assignment.functionObjectID
  inputObjectID := assignment.inputObjectID
  functionType := assignment.functionType

end AuxiliaryAssignment

def alterDevice (name : UInt64)
    (alter : AssignedAuxiliaryInputDevice → AssignedAuxiliaryInputDevice) :
    List AssignedAuxiliaryInputDevice → List AssignedAuxiliaryInputDevice
  | [] => []
  | aux :: devices =>
    if aux.name = name then alter aux :: devices else aux :: alterDevice name alter devices

namespace AssignedAuxiliaryInputDevice

variable (aux : AssignedAuxiliaryInputDevice)

def clear : AssignedAuxiliaryInputDevice := { aux with functions := [] }

/-- The loop that erases a function.  The iterator stays where it is, which is at the next entry
then. -/
def eraseFunction (functionObjectID : UInt16) : AssignedAuxiliaryInputDevice :=
  { aux with functions := aux.functions.filter (·.functionObjectID ≠ functionObjectID) }

def pushFunction (function : AssignedAuxiliaryFunction) : AssignedAuxiliaryInputDevice :=
  { aux with functions := aux.functions ++ [function] }

end AssignedAuxiliaryInputDevice

namespace AuxiliaryClient

variable (env : Environment) (client : AuxiliaryClient) (message : CANMessage)

def auxiliaryFunctionAssignmentResponse (functionObjectID : UInt16)
    (hasError isAlreadyAssigned : Bool) : TransmitFrame where
  parameterGroupNumber := ECUtoVirtualTerminal
  data :=
    [AuxiliaryAssignmentTypeTwoCommand, byteOf functionObjectID.toUInt32 0,
      byteOf functionObjectID.toUInt32 1,
      (if hasError then (0x01 : UInt8) else 0) |||
        (if isAlreadyAssigned && !client.isVtVersion6Supported then 0x02 else 0),
      0xFF, 0xFF, 0xFF, 0xFF]
  source := some client.myControlFunction
  destination := some client.partnerControlFunction
  priority := PriorityDefault6

def sendResponse (functionObjectID : UInt16) (hasError isAlreadyAssigned : Bool) :
    List AuxiliaryEvent :=
  let frame :=
    client.auxiliaryFunctionAssignmentResponse functionObjectID hasError isAlreadyAssigned
  [.response frame (env.send frame)]

def withDevices (devices : List AssignedAuxiliaryInputDevice) : AuxiliaryClient :=
  { client with assignedAuxiliaryInputDevices := devices }

def deviceNamed (name : UInt64) : Option AssignedAuxiliaryInputDevice :=
  client.assignedAuxiliaryInputDevices.find? (·.name = name)

def unassign (assignment : AuxiliaryAssignment) : AuxiliaryClient × List AuxiliaryEvent :=
  let devices := client.assignedAuxiliaryInputDevices
  let response := client.sendResponse env assignment.functionObjectID false false
  if assignment.functionObjectID = NULL_OBJECT_ID then
    (client.withDevices (devices.map (·.clear)), response)
  else if assignment.inputObjectID = NULL_OBJECT_ID then
    (client.withDevices (devices.map (·.eraseFunction assignment.functionObjectID)),
      (devices.flatMap fun aux =>
        (aux.functions.filter (·.functionObjectID = assignment.functionObjectID)).map fun _ =>
          .staleIterator) ++ response)
  else (client, response)

def assign (assignment : AuxiliaryAssignment) : AuxiliaryClient × List AuxiliaryEvent :=
  match client.deviceNamed assignment.isoName with
  | none => (client, client.sendResponse env assignment.functionObjectID true false)
  | some aux =>
    if assignment.functionType ≤ QuadratureBooleanMomentary then
      if assignment.function ∈ aux.functions then
        (client, client.sendResponse env assignment.functionObjectID true true)
      else
        (client.withDevices (alterDevice assignment.isoName (·.pushFunction assignment.function)
            client.assignedAuxiliaryInputDevices),
          client.sendResponse env assignment.functionObjectID false false)
    else (client, client.sendResponse env assignment.functionObjectID true false)

def processAssignment : AuxiliaryClient × List AuxiliaryEvent :=
  if message.data.length = 14 then
    let assignment := AuxiliaryAssignment.ofMessage message
    if assignment.isUnassignment then client.unassign env assignment
    else client.assign env assignment
  else (client, [])

/-- The devices are not compared with the one that the status comes from. -/
def processInputStatus : AuxiliaryClient × List AuxiliaryEvent :=
  let inputObjectID := message.getUint16At 1
  (client, client.assignedAuxiliaryInputDevices.filterMap fun aux =>
    (aux.functions.find? (·.inputObjectID = inputObjectID)).map fun function =>
      .auxiliaryFunction aux.name function (message.getUint16At 3) (message.getUint16At 5))

def processInputMaintenance : AuxiliaryClient × List AuxiliaryEvent :=
  let modelIdentificationCode := message.getUint16At 1
  let devices := client.assignedAuxiliaryInputDevices
  if message.getUint8At 3 ≠ 0 ∧
      devices.all (·.modelIdentificationCode ≠ modelIdentificationCode) then
    match message.source with
    | some source =>
      (client.withDevices (devices ++
        [{ name := (env.world source).controlFunctionNAME
           modelIdentificationCode := modelIdentificationCode }]), [])
    | none => (client, [.nullDereference])
  else (client, [])

def processRxMessage : AuxiliaryClient × List AuxiliaryEvent :=
  let parameterGroupNumber := message.identifier.getParameterGroupNumber
  let function := message.getUint8At 0
  if CAN_DATA_LENGTH ≤ message.data.length ∧
      (message.destination = none ∨ message.destination = some client.myControlFunction) then
    if parameterGroupNumber = VirtualTerminalToECU then
      if function = AuxiliaryAssignmentTypeTwoCommand then client.processAssignment env message
      else if function = AuxiliaryInputTypeTwoStatusMessage then client.processInputStatus message
      else (client, [])
    else if parameterGroupNumber = ECUtoVirtualTerminal then
      if function = AuxiliaryInputTypeTwoMaintenanceMessage then
        client.processInputMaintenance env message
      else (client, [])
    else (client, [])
  else (client, [])

end AuxiliaryClient

end Isobus.VirtualTerminalClient
