import Isobus.ExtendedTransportProtocol.Manager
import Isobus.Lib.OfferLoop

/-!
# The sending loop

One batch of `send_data_transfer_packets`: which frames it offers, where it
stops, and what it leaves of the session.
-/

namespace Isobus.ExtendedTransportProtocol

open Isobus.Can Isobus.Lib

namespace ExtendedTransportProtocolSession

def ahead (now : UInt32) (session : ExtendedTransportProtocolSession) (packets : Nat) :
    ExtendedTransportProtocolSession :=
  { session with
    lastSequenceNumber := session.lastSequenceNumber + UInt8.ofNat packets
    timestamp := if packets = 0 then session.timestamp else now }

variable {env : Environment} {key : SessionKey}

theorem iterate_setLastSequencyNumber (now : UInt32) (session : ExtendedTransportProtocolSession)
    (packets : Nat) :
    (fun s => s.setLastSequencyNumber now (s.getLastSequenceNumber + 1))^[packets] session =
      session.ahead now packets := by
  induction packets with
  | zero => simp [ahead]
  | succ packets ih =>
    rw [Function.iterate_succ_apply', ih]
    have hnumber : session.lastSequenceNumber + UInt8.ofNat packets + 1 =
        session.lastSequenceNumber + UInt8.ofNat (packets + 1) := by
      rw [UInt8.ofNat_add, UInt8.add_assoc]
      rfl
    simp [ahead, setLastSequencyNumber, getLastSequenceNumber, hnumber]

theorem toNat_ahead {session : ExtendedTransportProtocolSession} {packets : Nat} (now : UInt32)
    (h : session.lastSequenceNumber.toNat + packets < 256) :
    (session.ahead now packets).lastSequenceNumber.toNat =
      session.lastSequenceNumber.toNat + packets := by
  change (session.lastSequenceNumber + UInt8.ofNat packets).toNat = _
  rw [UInt8.toNat_add, UInt8.toNat_ofNat_of_lt' (by change packets < 256; omega)]
  exact Nat.mod_eq_of_lt h

/-- What a batch of at most `n` frames does: `sent` of them get out, and the next one is refused
unless the batch is over. -/
structure Batch (env : Environment) (key : SessionKey) (n : Nat)
    (session : ExtendedTransportProtocolSession) (sent : Nat) : Prop where
  le : sent ≤ n
  refused : sent < n → env.send ((session.ahead env.now sent).dataTransferFrame key) = false
  session_eq : (sendFrames env key n session).1 = session.ahead env.now sent
  events_eq : (sendFrames env key n session).2 =
    (List.range sent).map
        (fun i => Event.frame ((session.ahead env.now i).dataTransferFrame key) true) ++
      if sent < n then [Event.frame ((session.ahead env.now sent).dataTransferFrame key) false]
      else []

theorem sendFrames_eq_offerLoop (env : Environment) (key : SessionKey) (n : Nat)
    (session : ExtendedTransportProtocolSession) :
    sendFrames env key n session =
      offerLoop (fun s => env.send (s.dataTransferFrame key))
        (fun s => s.setLastSequencyNumber env.now (s.getLastSequenceNumber + 1))
        (fun s sent => Event.frame (s.dataTransferFrame key) sent) n session := by
  induction n generalizing session with
  | zero => rfl
  | succ n ih =>
    rw [sendFrames, offerLoop, ih]

theorem exists_batch (env : Environment) (key : SessionKey) (n : Nat)
    (session : ExtendedTransportProtocolSession) : ∃ sent, Batch env key n session sent := by
  obtain ⟨sent, hle, -, hrefused, hstate, houtputs⟩ :=
    exists_offers (fun s => env.send (s.dataTransferFrame key))
      (fun s => s.setLastSequencyNumber env.now (s.getLastSequenceNumber + 1))
      (fun s sent => Event.frame (s.dataTransferFrame key) sent) n session
  rw [← sendFrames_eq_offerLoop] at hstate houtputs
  simp only [iterate_setLastSequencyNumber] at hrefused hstate houtputs
  exact ⟨sent, hle, hrefused, hstate, houtputs⟩

end ExtendedTransportProtocolSession

end Isobus.ExtendedTransportProtocol
