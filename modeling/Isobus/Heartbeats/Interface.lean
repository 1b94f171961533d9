import Isobus.Can.Message
import Isobus.Lib.KeyedTable

/-!
# The heartbeat interface

`isobus_heartbeat.cpp`: who sends a heartbeat on one channel, ours and theirs, with the
sequence counter that was sent or received last.
-/

namespace Isobus.Heartbeats

open Isobus.Can Isobus.Lib

def heartbeatMessage : UInt32 := 0xF0E4
def SEQUENCE_TIMEOUT_MS : UInt32 := 300
def SEQUENCE_REPETITION_RATE_MS : UInt32 := 100
def PRIORITY_3 : UInt32 := 3

def INITIAL : UInt8 := 251

inductive HeartBeatError
  | invalidSequenceCounter
  | timedOut
  deriving DecidableEq

inductive HeartbeatEvent
  /-- The frame callback was called and gave this answer. -/
  | frame (frame : TransmitFrame) (sent : Bool)
  | error (error : HeartBeatError) (controlFunction : CFRef)
  | newTracked (controlFunction : CFRef)
  deriving DecidableEq

/-- What is kept under the control function that sends the heartbeat. -/
structure Heartbeat where
  timestamp : UInt32
  repetitionRate : UInt32 := SEQUENCE_REPETITION_RATE_MS
  sequenceCounter : UInt8 := INITIAL
  deriving DecidableEq

structure HeartbeatInterface where
  trackedHeartbeats : KeyedTable CFRef Heartbeat
  enabled : Bool

def HeartbeatInterface.idle : HeartbeatInterface := ⟨.empty, true⟩

def Heartbeat.frame (c : CFRef) (heartbeat : Heartbeat) : TransmitFrame where
  parameterGroupNumber := heartbeatMessage
  data := [heartbeat.sequenceCounter]
  source := some c
  destination := none
  priority := PRIORITY_3

def nextSequenceCounter (sequenceCounter : UInt8) : UInt8 :=
  if sequenceCounter + 1 > 250 then 0 else sequenceCounter + 1

/-- Our heartbeats are sent when they are due, theirs are dropped when they time out. -/
def Heartbeat.update (env : Environment) (c : CFRef) (heartbeat : Heartbeat) :
    Option Heartbeat × List HeartbeatEvent :=
  if (env.world c).controlFunctionType = .internal then
    if env.timeElapsed heartbeat.timestamp ≥ heartbeat.repetitionRate then
      if env.send (heartbeat.frame c) then
        (some { heartbeat with
            timestamp := env.now
            sequenceCounter := nextSequenceCounter heartbeat.sequenceCounter },
          [.frame (heartbeat.frame c) true])
      else (some heartbeat, [.frame (heartbeat.frame c) false])
    else (some heartbeat, [])
  else if env.timeElapsed heartbeat.timestamp ≥ SEQUENCE_TIMEOUT_MS then
    (none, [.error .timedOut c])
  else (some heartbeat, [])

namespace HeartbeatInterface

def update (env : Environment) (interface : HeartbeatInterface) :
    HeartbeatInterface × List HeartbeatEvent :=
  if interface.enabled then
    let swept := interface.trackedHeartbeats.sweep (Heartbeat.update env)
    ({ interface with trackedHeartbeats := swept.1 }, swept.2)
  else (interface, [])

def setTimestamp (timestamp : UInt32) (heartbeat : Heartbeat) : Heartbeat :=
  { heartbeat with timestamp := timestamp }

def setSequenceCounter (sequenceCounter : UInt8) (heartbeat : Heartbeat) : Heartbeat :=
  { heartbeat with sequenceCounter := sequenceCounter }

def counterEvents (source : CFRef) (received kept : UInt8) : List HeartbeatEvent :=
  if received = kept then [.error .invalidSequenceCounter source]
  else if received.toNat ≠ (kept.toNat + 1) % 250 then [.error .invalidSequenceCounter source]
  else []

def processRxMessage (env : Environment) (message : CANMessage) (interface : HeartbeatInterface) :
    HeartbeatInterface × List HeartbeatEvent :=
  match message.source with
  | none => (interface, [])
  | some source =>
    if interface.enabled ∧ message.identifier.getParameterGroupNumber = heartbeatMessage ∧
        message.data.length ≥ 1 then
      match h : interface.trackedHeartbeats.lookup source with
      | some managed =>
        let tracked := interface.trackedHeartbeats.alter source fun heartbeat =>
          some (setTimestamp env.now heartbeat)
        -- The counter goes to the last entry, whosever it is.
        ({ interface with
            trackedHeartbeats :=
              tracked.alterBack (setSequenceCounter (message.getUint8At 0)) },
          counterEvents source (message.getUint8At 0) managed.sequenceCounter)
      | none =>
        ({ interface with
            trackedHeartbeats := interface.trackedHeartbeats.insert source
              { timestamp := env.now, sequenceCounter := message.getUint8At 0 } h },
          [.newTracked source])
    else (interface, [])

/-- The callback for a requested repetition rate; only our control functions are targets. -/
def processRequestForHeartbeat (parameterGroupNumber : UInt32) (target : CFRef)
    (interface : HeartbeatInterface) : Bool × HeartbeatInterface :=
  if interface.enabled ∧ heartbeatMessage = parameterGroupNumber then
    match h : interface.trackedHeartbeats.lookup target with
    | some _ => (true, interface)
    | none =>
      (true, { interface with
        trackedHeartbeats := interface.trackedHeartbeats.insert target { timestamp := 0 } h })
  else (false, interface)

def setEnabled (enable : Bool) (interface : HeartbeatInterface) : HeartbeatInterface :=
  { interface with enabled := enable }

end HeartbeatInterface

end Isobus.Heartbeats
