import Isobus.Lib.Machine
import Isobus.VirtualTerminalClient.CommandQueue
import Isobus.VirtualTerminalClient.UpdateHelper

/-!
# A helper, its client and the terminal

What a command of the update helper passes on its way to the terminal and back: the helper, the
queue of the client, the bus and the terminal.
-/

namespace Isobus.VirtualTerminalClient

open Isobus.Can Isobus.Lib Isobus.VirtualTerminal
open Isobus.VirtualTerminal.Server (sendHideShowObjectResponse sendChangeNumericValueResponse
  sendChangeActiveMaskResponse sendChangeSoftKeyMaskResponse sendChangeAttributeResponse)

def UnsupportedVTFunctionMessage : UInt8 := 0xFD

/-- What a tracker follows the value of. -/
inductive Item
  | shown (objectId : UInt16)
  | numericValue (objectId : UInt16)
  | activeMask
  | softKeyMask (maskId : UInt16)
  | attributeValue (objectId : UInt16) (attributeID : UInt8)
  deriving DecidableEq

def shownValue (shown : Bool) : UInt32 := if shown then 1 else 0

namespace HelperCommand

def item : HelperCommand → Item
  | hideShowObject objectId _ => .shown objectId
  | changeNumericValue objectId _ => .numericValue objectId
  | changeActiveMask _ _ => .activeMask
  | changeSoftkeyMask _ maskId _ => .softKeyMask maskId
  | changeAttribute objectId attributeID _ => .attributeValue objectId attributeID

def value : HelperCommand → UInt32
  | hideShowObject _ shown => shownValue shown
  | changeNumericValue _ value => value
  | changeActiveMask _ newActiveMaskId => newActiveMaskId.toUInt32
  | changeSoftkeyMask _ _ newSoftKeyMaskId => newSoftKeyMaskId.toUInt32
  | changeAttribute _ _ value => value

end HelperCommand

namespace StateTracker

variable (tracker : StateTracker)

def value : Item → Option UInt32
  | .shown objectId => (tracker.shownStates objectId).map shownValue
  | .numericValue objectId => tracker.numericValueStates objectId
  | .activeMask => some tracker.activeDataOrAlarmMask.toUInt32
  | .softKeyMask maskId => (tracker.softKeyMasks maskId).map UInt16.toUInt32
  | .attributeValue objectId attributeID => tracker.attributeStates objectId attributeID

/-- The call that gives this command to the client, unless the value is already there. -/
def set (queue : HelperCommand → Bool) : HelperCommand → Called
  | .hideShowObject objectId shown => tracker.setContainerShown queue objectId shown
  | .changeNumericValue objectId value => tracker.setNumericValue queue objectId value
  | .changeActiveMask workingSetId newActiveMaskId =>
    tracker.setActiveDataOrAlarmMask queue workingSetId newActiveMaskId
  | .changeSoftkeyMask maskType maskId newSoftKeyMaskId =>
    tracker.setActiveSoftKeyMask queue maskType maskId newSoftKeyMaskId
  | .changeAttribute objectId attributeID value =>
    tracker.setAttribute queue objectId attributeID value

end StateTracker

inductive Reply
  | errorCode (code : UInt8)
  | unsupportedFunction
  deriving DecidableEq

/-- A command with what the terminal says to it. -/
structure Answer where
  command : HelperCommand
  reply : Reply
  deriving DecidableEq

namespace Answer

def functionCode (answer : Answer) : UInt8 := answer.command.buffer.getD 0 0

def data (answer : Answer) : List UInt8 :=
  match answer.reply with
  | .unsupportedFunction =>
    [UnsupportedVTFunctionMessage, answer.functionCode, 0xFF, 0xFF, 0xFF, 0xFF, 0xFF, 0xFF]
  | .errorCode code =>
    match answer.command with
    | .hideShowObject objectId shown => sendHideShowObjectResponse objectId shown code
    | .changeNumericValue objectId value => sendChangeNumericValueResponse objectId value code
    | .changeActiveMask _ newActiveMaskId => sendChangeActiveMaskResponse newActiveMaskId code
    | .changeSoftkeyMask _ maskId newSoftKeyMaskId =>
      sendChangeSoftKeyMaskResponse maskId newSoftKeyMaskId code
    | .changeAttribute objectId attributeID _ =>
      sendChangeAttributeResponse objectId attributeID code

end Answer

/-- The two control functions that talk to each other. -/
structure Bus where
  world : World
  client : CFRef
  terminal : CFRef

def Answer.message (answer : Answer) (bus : Bus) : CANMessage where
  identifier := .ofFields .extended VirtualTerminalToECU Priority5
    (bus.world bus.client).address (bus.world bus.terminal).address
  data := answer.data
  source := some bus.terminal
  destination := some bus.client
  canPortIndex := 0
  timestampUs := 0

/-- The commands and the answers are those that were sent and did not arrive yet, oldest first. -/
structure Session where
  tracker : StateTracker
  client : CommandClient HelperCommand
  commands : List HelperCommand := []
  answers : List Answer := []
  held : Item → UInt32

def Session.start (bus : Bus) (tracker : StateTracker) (pool : Item → UInt32) : Session where
  tracker := { tracker with client := some bus.client, server := some bus.terminal }
  client :=
    { myControlFunction := bus.client
      partnerControlFunction := bus.terminal
      connected := true }
  held := fun item => (tracker.value item).getD (pool item)

inductive SessionCall
  | set (env : Environment) (command : HelperCommand)
  | increaseNumericValue (env : Environment) (objectId : UInt16) (step : UInt32)
  | decreaseNumericValue (env : Environment) (objectId : UInt16) (step : UInt32)
  | update (env : Environment)
  /-- The terminal executes the next command if there is no error. -/
  | reply (reply : Reply)
  /-- The next answer arrives. -/
  | receive (env : Environment)
  | loseCommand
  | loseAnswer
  | disconnect
  /-- The client connects again and has uploaded its object pool. -/
  | upload (pool : Item → UInt32)

namespace Session

variable (bus : Bus) (env : Environment) (session : Session)

def queued (command : HelperCommand) : Commanded HelperCommand :=
  session.client.queueCommand HelperCommand.buffer env command true

def call (called : (HelperCommand → Bool) → Called) : Session × List Called :=
  let made := called fun command => (session.queued env command).retVal
  (match made.command with
    | none => { session with tracker := made.tracker }
    | some command =>
      { session with
        tracker := made.tracker
        client := (session.queued env command).client
        commands := session.commands ++ (session.queued env command).sent }, [made])

def processed (client : CommandClient HelperCommand × List HelperCommand) : Session :=
  { session with client := client.1, commands := session.commands ++ client.2 }

def heard (answer : Answer) : Handled :=
  session.tracker.processRxOrTxMessage bus.world (answer.message bus)

/-- The callbacks of the tracker are called before those of the client. -/
def received (answer : Answer) : Session :=
  let handled := session.heard bus answer
  let told := { session with tracker := handled.tracker }
  if handled.thrown then told
  else
    match answer.reply with
    | .errorCode _ => told.processed (session.client.processResponse HelperCommand.buffer env)
    | .unsupportedFunction =>
      { told with client := session.client.processUnsupportedFunction answer.functionCode }

def executed (command : HelperCommand) (reply : Reply) : Item → UInt32 :=
  if reply = .errorCode 0 then Function.update session.held command.item command.value
  else session.held

end Session

def sessions (bus : Bus) : Machine Session SessionCall Called where
  step session call :=
    match call with
    | .set env command => session.call env fun queue => session.tracker.set queue command
    | .increaseNumericValue env objectId step =>
      session.call env fun queue => session.tracker.increaseNumericValue queue objectId step
    | .decreaseNumericValue env objectId step =>
      session.call env fun queue => session.tracker.decreaseNumericValue queue objectId step
    | .update env =>
      (session.processed (session.client.processCommandQueue HelperCommand.buffer env), [])
    | .reply reply =>
      (match session.commands with
        | [] => session
        | command :: commands =>
          { session with
            commands := commands
            answers := session.answers ++ [⟨command, reply⟩]
            held := session.executed command reply }, [])
    | .receive env =>
      (match session.answers with
        | [] => session
        | answer :: answers => { session with answers := answers }.received bus env answer, [])
    | .loseCommand => ({ session with commands := session.commands.tail }, [])
    | .loseAnswer => ({ session with answers := session.answers.tail }, [])
    | .disconnect => ({ session with client := { session.client with connected := false } }, [])
    | .upload pool =>
      ({ session with
          client := { session.client with connected := true, unsupportedFunctions := [] }
          commands := []
          answers := []
          held := pool }, [])

end Isobus.VirtualTerminalClient
