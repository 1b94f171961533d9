import Isobus.TaskController.ClientTimeout
import Isobus.TaskController.MessageEffects
import Isobus.Lib.WrappingClock

namespace Isobus.TaskController

open Isobus.Can Isobus.Lib TaskControllerServer

inductive StatusStep
  | setCommandBusy (isBusy : Bool) (clientAddress commandByte : UInt8)
  | setTaskTotalsActive (isTaskActive : Bool)
  /-- Tell the status if it is time; `send` says whether a message with it would get out. -/
  | refresh (now : UInt32) (send : Status → Bool)

namespace Status

def setTaskTotalsActive (isTaskActive : Bool) (status : Status) : Status :=
  if isTaskActive ≠ decide (status.currentStatusByte &&& 0x01 ≠ 0) then
    { status with
      currentStatusByte := status.currentStatusByte &&& ~~~0x01 ||| (if isTaskActive then 1 else 0)
      updatePending := true }
  else status

def due (now : UInt32) (status : Status) : Bool :=
  if status.updatePending then now - status.lastMessageTimestamp ≥ MIN_STATUS_MESSAGE_INTERVAL_MS
  else now - status.lastMessageTimestamp ≥ STATUS_MESSAGE_RATE_MS

def refresh (now : UInt32) (send : Status → Bool) (status : Status) : Status :=
  if status.due now then
    if send status then { status with updatePending := false, lastMessageTimestamp := now }
    else { status with updatePending := false }
  else status

abbrev Owing := Status × Bool

/-- One step: a change of the byte is owed, until a status message gets out. -/
def step (owing : Owing) : StatusStep → Owing
  | .setCommandBusy isBusy clientAddress commandByte =>
    let status := owing.1.setCommandBusy isBusy clientAddress commandByte
    (status, owing.2 || status.currentStatusByte ≠ owing.1.currentStatusByte)
  | .setTaskTotalsActive isTaskActive =>
    let status := owing.1.setTaskTotalsActive isTaskActive
    (status, owing.2 || status.currentStatusByte ≠ owing.1.currentStatusByte)
  | .refresh now send =>
    (owing.1.refresh now send, owing.2 && !(owing.1.due now && send owing.1))

end Status

def Pending (owing : Status.Owing) : Prop := owing.2 = true → owing.1.updatePending = true

def Succeeds (owing : Status.Owing) : StatusStep → Prop
  | .refresh now send => owing.2 = true → owing.1.due now = true → send owing.1 = true
  | _ => True

def statusFrame (config : ServerConfiguration) (status : Status) : TransmitFrame where
  parameterGroupNumber := PROCESS_DATA
  data := [0xFE, 0xFF, 0xFF, 0xFF, status.currentStatusByte, status.currentCommandSourceAddress,
    status.currentCommandByte, 0xFF]
  source := some config.serverControlFunction
  destination := none
  priority := PRIORITY_3

namespace TaskControllerServer

variable (config : ServerConfiguration) (env : ServerEnvironment)

def messageSteps (message : CANMessage) (server : TaskControllerServer) : List StatusStep :=
  match server.poolCommand env message with
  | some given =>
    if given.parameter = .objectPoolTransfer ∨
        given.parameter = .objectPoolActivateDeactivate then
      [.setCommandBusy true (env.world given.source).address given.command,
        .setCommandBusy false 0 0]
    else []
  | none => []

def queueSteps (server : TaskControllerServer) : List CANMessage → Nat → List StatusStep
  | [], _ => []
  | message :: rest, k =>
    server.messageSteps env message ++
      match server.processRxMessage config env (env.application k) message with
      | some first => first.1.queueSteps rest (k + 1)
      | none => []

/-- A command of a client that is removed ends. -/
def removalSteps (server : TaskControllerServer) : List ActiveClient → List StatusStep
  | [] => []
  | client :: rest =>
    if env.now - client.lastStatusMessageTimestamp ≥ CLIENT_TASK_TIMEOUT_MS then
      match client.clientControlFunction with
      | some c =>
        if server.currentCommandSourceAddress = (env.world c).address then
          .setCommandBusy false 0 0 :: (server.setCommandBusy false 0 0).removalSteps rest
        else server.removalSteps rest
      | none => []
    else server.removalSteps rest

def tells (status : Status) : Bool := env.send (statusFrame config status)

def updateSteps (server : TaskControllerServer) : List StatusStep :=
  let working := { server with rxMessageQueue := [] }
  working.queueSteps config env server.rxMessageQueue 0 ++
    match working.processRxMessages config env server.rxMessageQueue 0 with
    | some processed =>
      let status := processed.1.updateStatus config env
      .refresh env.now (tells config env) ::
        status.1.removalSteps env status.1.activeClients
    | none => []

def statusSteps (server : TaskControllerServer) : ServerCall → List StatusStep
  | .storeRxMessage _ => []
  | .update => server.updateSteps config env
  | .setTaskTotalsActive isTaskActive => [.setTaskTotalsActive isTaskActive]
  | .setCommandBusy isBusy clientAddress commandByte =>
    [.setCommandBusy isBusy clientAddress commandByte]

variable {config} {env} {server : TaskControllerServer} {message : CANMessage}
variable {application : Application} {r : TaskControllerServer × List ServerEvent}

end TaskControllerServer

def Quiet (steps : List StatusStep) : Prop := ∀ now send, .refresh now send ∉ steps

theorem Quiet.append {l l' : List StatusStep} (h : Quiet l) (h' : Quiet l') : Quiet (l ++ l') :=
  fun now send hmem => (List.mem_append.mp hmem).elim (h now send) (h' now send)

namespace TaskControllerServer

variable {config : ServerConfiguration} {env : ServerEnvironment}
variable {server : TaskControllerServer} {r : TaskControllerServer × List ServerEvent}

end TaskControllerServer

/-- One call of the server some milliseconds behind the last one. -/
structure Occasion where
  elapsed : Nat
  world : World
  send : TransmitFrame → Bool
  application : Nat → Application
  call : ServerCall

def Occasion.input (occasion : Occasion) (time : Nat) : ServerInput where
  env :=
    { now := reading time
      world := occasion.world
      send := occasion.send
      application := occasion.application }
  call := occasion.call

/-- A server, whether it owes word of a change, and when it told its status last. -/
structure Announcer where
  time : Nat := 0
  server : TaskControllerServer := {}
  owed : Bool := false
  lastTold : Option Nat := none

variable (config : ServerConfiguration)

def Announcer.outcome (announcer : Announcer) (occasion : Occasion) : Outcome :=
  announcer.server.serve config (occasion.input (announcer.time + occasion.elapsed))

def Announcer.steps (announcer : Announcer) (occasion : Occasion) : List StatusStep :=
  announcer.server.statusSteps config
    (occasion.input (announcer.time + occasion.elapsed)).env occasion.call

variable {config} {announcer : Announcer} {occasion : Occasion}

end Isobus.TaskController
