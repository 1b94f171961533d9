import Isobus.Lib.KeyedTable
import Isobus.Lib.Machine
import Isobus.VirtualTerminal.PoolParser

namespace Isobus.VirtualTerminal.Server

open Isobus.Lib

inductive ProcessingState
  | none | running | success | fail | joined
  deriving DecidableEq

/-- The parsing thread: begun, with so many components parsed, or at its end. -/
inductive ParsingThread
  | started
  | parsing (count : Nat)
  | ended
  deriving DecidableEq

structure ManagedWorkingSet where
  base : WorkingSetBase := {}
  iopFilesRawData : List (List UInt8) := []
  processingState : ProcessingState := .none
  objectPoolProcessingThread : Option ParsingThread := Option.none

structure ParsingRun where
  components : List (List UInt8)
  parsed : Nat
  deriving DecidableEq

def ParsingRun.success (parsingRun : ParsingRun) : Bool :=
  parsingRun.parsed = parsingRun.components.length

/-- What is seen of the server; a client is named by its control function. -/
inductive Event
  | completed (client : Nat) (parsingRun : ParsingRun)
  | endOfObjectPoolResponse (client : Nat) (success : Bool) (faultingObjectID : UInt16)
  | loadVersionResponse (client : Nat)
  | activated (client : Nat)
  deriving DecidableEq

namespace ManagedWorkingSet

def getAnyObjectPools (ws : ManagedWorkingSet) : Bool := !ws.iopFilesRawData.isEmpty

def addIopRawData (ws : ManagedWorkingSet) (data : List UInt8) : ManagedWorkingSet :=
  { ws with iopFilesRawData := ws.iopFilesRawData ++ [data] }

def startParsingThread (ws : ManagedWorkingSet) : ManagedWorkingSet :=
  match ws.objectPoolProcessingThread with
  | Option.none => { ws with objectPoolProcessingThread := some .started }
  | some _ => ws

def joinParsingThread (ws : ManagedWorkingSet) : ManagedWorkingSet :=
  { ws with objectPoolProcessingThread := Option.none, processingState := .joined }

def finish (ws : ManagedWorkingSet) (client parsed : Nat) (outcome : ProcessingState) :
    ManagedWorkingSet × List Event :=
  ({ ws with processingState := outcome, objectPoolProcessingThread := some .ended },
    [.completed client { components := ws.iopFilesRawData, parsed }])

/-- One turn of the thread: its beginning, one component, or its end. -/
def workerThreadFunction (ws : ManagedWorkingSet) (client : Nat) :
    ManagedWorkingSet × List Event :=
  match ws.objectPoolProcessingThread with
  | Option.none | some .ended => (ws, [])
  | some .started =>
    if ws.iopFilesRawData = [] then ws.finish client 0 .fail
    else
      ({ ws with processingState := .running, objectPoolProcessingThread := some (.parsing 0) },
        [])
  | some (.parsing count) =>
    match ws.iopFilesRawData[count]? with
    | Option.none => ws.finish client count .success
    | some component =>
      match ws.base.parseIopIntoObjects component with
      | .accepted base _ =>
        ({ ws with base, objectPoolProcessingThread := some (.parsing (count + 1)) }, [])
      | .refused base => { ws with base }.finish client count .fail
      | .outside => (ws, [])

def getActiveMask (ws : ManagedWorkingSet) : Option UInt16 :=
  match ws.base.getObjectById ws.base.workingSetID with
  | some { data := .workingSet data, .. } => some data.activeMask
  | _ => Option.none

end ManagedWorkingSet

structure ActiveWorkingSet where
  masterAddress : UInt8 := 254
  dataMaskObjectID : UInt16 := NULL_OBJECT_ID

def NULL_CAN_ADDRESS : UInt8 := 254

structure PoolServer where
  managedWorkingSetList : KeyedTable Nat ManagedWorkingSet := .empty
  active : ActiveWorkingSet := {}

/-- Messages of a client, a turn of a client's thread, and updates, which find the clients at their
addresses and messages sent or not. -/
inductive Input
  | workingSetMaintenance (client : Nat)
  | objectPoolTransfer (client : Nat) (data : List UInt8)
  | loadVersion (client : Nat) (loadedVersion : List UInt8)
  | endOfObjectPool (client : Nat)
  | command (client : Nat) (vtObjectTree : ObjectTree)
  | parsing (client : Nat)
  | update (address : Nat → UInt8) (sent : Nat → Bool)

/-- A version that is not found is answered at once; whatever pools there are get parsed. -/
def loadVersionCommand (client : Nat) (loadedVersion : List UInt8) (ws : ManagedWorkingSet) :
    ManagedWorkingSet × List Event :=
  let (ws, events) := if loadedVersion ≠ [] then (ws.addIopRawData loadedVersion, [])
    else (ws, [Event.loadVersionResponse client])
  (if ws.getAnyObjectPools then ws.startParsingThread else ws, events)

def endOfObjectPoolMessage (ws : ManagedWorkingSet) : ManagedWorkingSet :=
  if ws.getAnyObjectPools then ws.startParsingThread else ws

/-- Both outcomes are reported as a success; the result of sending is not looked at. -/
def reportParsing (sent : Nat → Bool) (client : Nat) (ws : ManagedWorkingSet) :
    ManagedWorkingSet × List Event :=
  let response (faultingObjectID : UInt16) : List Event :=
    if sent client then [.endOfObjectPoolResponse client true faultingObjectID] else []
  match ws.processingState with
  | .success => (ws.joinParsingThread, response NULL_OBJECT_ID)
  | .fail => (ws.joinParsingThread, response ws.base.faultingObjectID)
  | _ => (ws, [])

/-- The first pool that was parsed becomes active if none is. -/
def activate (address : Nat → UInt8) :
    ActiveWorkingSet → List (Nat × ManagedWorkingSet) → ActiveWorkingSet × List Event
  | active, [] => (active, [])
  | active, (client, ws) :: entries =>
    if ws.processingState = .success ∧ active.masterAddress = NULL_CAN_ADDRESS then
      let (active, events) := activate address
        { masterAddress := address client
          dataMaskObjectID := ws.getActiveMask.getD active.dataMaskObjectID } entries
      (active, .activated client :: events)
    else activate address active entries

namespace PoolServer

/-- What the server sends and which working set it makes active do not depend on each other. -/
def update (server : PoolServer) (address : Nat → UInt8) (sent : Nat → Bool) :
    PoolServer × List Event :=
  let (active, activations) := activate address server.active server.managedWorkingSetList.entries
  let (managedWorkingSetList, responses) :=
    server.managedWorkingSetList.sweep fun client ws =>
      let (ws, events) := reportParsing sent client ws
      (some ws, events)
  ({ managedWorkingSetList, active }, responses ++ activations)

def handle (server : PoolServer) (client : Nat)
    (f : ManagedWorkingSet → ManagedWorkingSet × List Event) : PoolServer × List Event :=
  let (managedWorkingSetList, events) := server.managedWorkingSetList.dispatch client fun ws =>
    let (ws, events) := f ws
    (some ws, events)
  ({ server with managedWorkingSetList }, events)

def step (server : PoolServer) : Input → PoolServer × List Event
  | .workingSetMaintenance client =>
    if server.managedWorkingSetList.lookup client = Option.none then
      ({ server with
        managedWorkingSetList := server.managedWorkingSetList.set client {} }, [])
    else (server, [])
  | .objectPoolTransfer client data =>
    server.handle client fun ws => (ws.addIopRawData data, [])
  | .loadVersion client loadedVersion =>
    server.handle client (loadVersionCommand client loadedVersion)
  | .endOfObjectPool client => server.handle client fun ws => (endOfObjectPoolMessage ws, [])
  | .command client vtObjectTree =>
    server.handle client fun ws => ({ ws with base := { ws.base with vtObjectTree } }, [])
  | .parsing client => server.handle client fun ws => ws.workerThreadFunction client
  | .update address sent => server.update address sent

end PoolServer

end Isobus.VirtualTerminal.Server
