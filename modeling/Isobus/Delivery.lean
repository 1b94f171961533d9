import Isobus.DeviceDescriptor.RoundTrip
import Isobus.Diagnostics.TroubleCodeMessages
import Isobus.FastPacket.EndToEnd
import Isobus.Nmea2000.RoundTrip
import Isobus.TaskController.PoolSegments
import Isobus.TransportProtocol.EndToEnd

/-!
# What arrives means what was sent

Contents that one interface encodes, the protocols for long messages carry and another interface
decodes.
-/

namespace Isobus.Delivery

open Isobus.Can Isobus.Lib

section

open TransportProtocol TransportTransfer Transfer DeviceDescriptor DeviceDescriptorObjectPool

/-- In every timely run behind which nothing more can happen, one message arrived, and its data is
as described. -/
def Conveys (T : TransportTransfer) (content : List UInt8 → Prop) : Prop :=
  ∀ (now : UInt32) (schedule : List (Turn Moment)),
    (protocolWiring T).machine.Along (Wiring.TickOk InTime InTime) (startLink T now) schedule →
    (protocolWiring T).Quiescent InTime InTime
      ((protocolWiring T).machine.run (startLink T now) schedule) →
    ∃ message, ((protocolWiring T).machine.run (startLink T now)
      schedule).receiverLog.filterMap receivedMessage = [message] ∧ content message.data

theorem conveys_of_data {T : TransportTransfer} {content : List UInt8 → Prop}
    (h : content T.data) : Conveys T content := by
  intro now schedule htime hquiet
  have hdone := done_of_phase (T.phase_run now schedule htime) hquiet
  obtain ⟨message, hreceived, hdata⟩ := hdone.received
  exact ⟨message, hreceived, hdata ▸ h⟩

end

section

open TransportProtocol Diagnostics

/-- A DM1 is offered, and whoever receives it over the transport protocol reads the active codes. -/
def TellsActiveCodes (env : Diagnostics.Environment) (turn : Diagnostics.Turn) : Prop :=
  ∃ payload, turn.sendDiagnosticMessage1 env =
      (turn.offer env (turn.protocol.frame DIAGNOSTIC_MESSAGE_1 payload none), turn.sent env) ∧
    ∀ T : TransportTransfer, T.data = payload → Conveys T fun data =>
      reportedCodes ((data.drop 2).take (4 * turn.protocol.activeDTCList.length)) =
        turn.protocol.activeDTCList.map (·.reported)

theorem activeCodes_conveyed (env : Diagnostics.Environment) {turn : Diagnostics.Turn}
    (hfits : ∀ dtc ∈ turn.protocol.activeDTCList, dtc.Fits)
    (hcount : turn.protocol.activeDTCList.length ≤ 445) : TellsActiveCodes env turn := by
  have hencodes := (diagnosticMessage1_iff env hfits).mpr (.inl hcount)
  obtain ⟨payload, hsent, -, hcodes, -⟩ := hencodes.fitting (by omega)
  refine ⟨payload, hsent, fun T hdata => conveys_of_data ?_⟩
  rw [hdata]
  exact hcodes

def twoCodes : Diagnostics.Turn where
  protocol :=
    { myControlFunction := 0
      activeDTCList := (inactiveCodesTurn 2).protocol.inactiveDTCList }

theorem twoCodes_conveyed : TellsActiveCodes ⟨0, fun _ => true⟩ twoCodes :=
  activeCodes_conveyed _ (fits_inactiveCodesTurn (by decide)) (by decide)

end

section

open FastPacket Nmea2000

variable {protocol : FastPacketProtocol} {env : Environment} {request : SendRequest}
variable {key : FastPacketKey}

/-- When the session of the request is gone after a timely run, its frames hand such a message to
every callback that wants it. -/
def HandsOver (protocol : FastPacketProtocol) (env : Environment) (request : SendRequest)
    (key : FastPacketKey) (content : CANMessage → Prop) : Prop :=
  ∀ inputs, fastPacketProtocol.Along (Apart key) (requested protocol env request) inputs →
    fastPacketProtocol.Along (Timely key) (requested protocol env request) inputs →
    (fastPacketProtocol.run (requested protocol env request)
      inputs).activeSessions.lookup key = none →
    ∀ receiver arrivals, Listening receiver key arrivals →
      receiver.activeSessions.lookup key = none →
      ∃ message, fastPacketProtocol.outputs receiver (feed arrivals (framesOut key
          (fastPacketProtocol.outputs (requested protocol env request) inputs))) =
        (wanted receiver key).map (.messageReceived · message) ∧ content message

/-- An NMEA 2000 message sent as a fast packet is read with the values it was sent with. -/
theorem nmea2000_handedOver {kind : MessageClass} {data : kind.Data}
    (haccepts : Accepts protocol env request) (hkey : request.sessionKey = some key)
    (hdata : request.messageData = some (kind.serialize data)) (hfits : kind.Fits data)
    (hrepresentable : kind.Representable data) :
    HandsOver protocol env request key fun message => ∀ now old,
      kind.RoundTrips now old data message := by
  intro inputs hapart htimely hgone receiver arrivals hlistening hclosed
  obtain ⟨k, session, hopened, hlookup⟩ := exists_opened haccepts
  obtain rfl : k = key := Option.some.inj (hopened.key_eq.symm.trans hkey)
  have hsession : kind.serialize data = session.data :=
    Option.some.inj (hdata.symm.trans hopened.data_eq)
  have htwo := hopened.sendable.two_le_frames
  rw [← hopened.after_zero] at hlookup
  obtain ⟨n, -, ⟨-, hat⟩, hout⟩ :=
    sent_run hopened.sendable (by omega) inputs hlookup hapart htimely
  split_ifs at hat with hlast
  · rw [hout, hlast]
    obtain ⟨message, hmessage, -, houtputs⟩ :=
      delivers_fragmentsBetween hopened.sendable k receiver arrivals hlistening hclosed
    exact ⟨message, houtputs, fun now old =>
      (MessageClass.comesBack_iff hfits (hmessage.trans hsession.symm) now old).mpr
        hrepresentable⟩
  · obtain ⟨time, hat⟩ := hat
    rw [hgone] at hat
    cases hat

def datumRequest : SendRequest :=
  { nineBytes with
    messageData := some (Datum.serialize {})
    messageLength := 20
    length_eq := by decide }

theorem datum_handedOver :
    HandsOver idle ⟨900, twoNodes, fun _ => true⟩ datumRequest ⟨⟨1, none⟩, 0x1F801⟩
      fun message => ∀ now old, MessageClass.datum.RoundTrips now old {} message :=
  nmea2000_handedOver (by unfold Accepts; decide +kernel) (by decide) rfl trivial trivial

end

end Isobus.Delivery
