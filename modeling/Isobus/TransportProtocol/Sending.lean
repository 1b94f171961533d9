import Isobus.TransportProtocol.Manager

/-!
# The sending loop

One batch of `send_data_transfer_packets`: which frames it offers, where it
stops, and what it leaves of the session.
-/

namespace Isobus.TransportProtocol

open Isobus.Can Isobus.Lib

namespace TransportProtocolSession

def ahead (session : TransportProtocolSession) (packets : Nat) : TransportProtocolSession :=
  { session with lastSequenceNumber := session.lastSequenceNumber + UInt8.ofNat packets }

def frameAhead (key : SessionKey) (session : TransportProtocolSession) (packets : Nat) :
    TransmitFrame :=
  (session.ahead packets).dataTransferFrame key

variable {env : Environment} {key : SessionKey}

@[simp] theorem ahead_zero (session : TransportProtocolSession) : session.ahead 0 = session := by
  have h : session.lastSequenceNumber + UInt8.ofNat 0 = session.lastSequenceNumber := by simp
  rw [ahead, h]

theorem toNat_ahead {session : TransportProtocolSession} {packets : Nat}
    (h : session.lastSequenceNumber.toNat + packets < 256) :
    (session.ahead packets).lastSequenceNumber.toNat =
      session.lastSequenceNumber.toNat + packets := by
  change (session.lastSequenceNumber + UInt8.ofNat packets).toNat = _
  rw [UInt8.toNat_add, UInt8.toNat_ofNat_of_lt' (by change packets < 256; omega)]
  exact Nat.mod_eq_of_lt h

theorem head_frameAhead {session : TransportProtocolSession} {packets : Nat}
    (h : session.lastSequenceNumber.toNat + packets + 1 < 256) :
    ((session.frameAhead key packets).data.headD 0).toNat =
      session.lastSequenceNumber.toNat + packets + 1 := by
  change ((session.ahead packets).lastSequenceNumber + 1).toNat = _
  rw [UInt8.toNat_add, toNat_ahead (by omega)]
  exact Nat.mod_eq_of_lt h

private theorem ahead_succ (session : TransportProtocolSession) (now : UInt32) (packets : Nat) :
    (session.setLastSequencyNumber now (session.getLastSequenceNumber + 1)).ahead packets =
      { session.ahead (packets + 1) with timestamp := now } := by
  have h : session.lastSequenceNumber + 1 + UInt8.ofNat packets =
      session.lastSequenceNumber + UInt8.ofNat (packets + 1) := by
    rw [UInt8.ofNat_add, UInt8.add_assoc]
    congr 1
    exact UInt8.add_comm _ _
  simp only [ahead, setLastSequencyNumber, getLastSequenceNumber, h]

private theorem frameAhead_succ (session : TransportProtocolSession) (now : UInt32)
    (packets : Nat) :
    (session.setLastSequencyNumber now (session.getLastSequenceNumber + 1)).frameAhead key packets =
      session.frameAhead key (packets + 1) := by
  rw [frameAhead, ahead_succ]
  rfl

/-- What a batch of at most `n` frames does: `sent` of them get out, and the next one is refused
unless the batch is over. -/
structure Batch (env : Environment) (key : SessionKey) (n : Nat)
    (session : TransportProtocolSession) (sent : Nat) : Prop where
  le : sent ≤ n
  accepted : ∀ i < sent, env.send (session.frameAhead key i) = true
  refused : sent < n → env.send (session.frameAhead key sent) = false
  session_eq : (sendFrames env key n session).1 =
    { session.ahead sent with
      timestamp := if sent = 0 then session.timestamp else env.now }
  events_eq : (sendFrames env key n session).2 =
    (List.range sent).map (fun i => Event.frame (session.frameAhead key i) true) ++
      if sent < n then [Event.frame (session.frameAhead key sent) false] else []

theorem exists_batch (env : Environment) (key : SessionKey) (n : Nat)
    (session : TransportProtocolSession) : ∃ sent, Batch env key n session sent := by
  induction n generalizing session with
  | zero =>
    refine ⟨0, Nat.le_refl 0, by simp, by simp, ?_, by simp [sendFrames]⟩
    simp [sendFrames]
  | succ n ih =>
    by_cases hsend : env.send (session.dataTransferFrame key) = true
    · obtain ⟨sent, hle, haccepted, hrefused, hsession, hevents⟩ :=
        ih (session.setLastSequencyNumber env.now (session.getLastSequenceNumber + 1))
      simp only [frameAhead_succ, ahead_succ] at haccepted hrefused hsession hevents
      refine ⟨sent + 1, by omega, ?_, fun h => hrefused (by omega), ?_, ?_⟩
      · intro i hi
        cases i with
        | zero => simpa [frameAhead] using hsend
        | succ i => exact haccepted i (by omega)
      · rw [sendFrames, if_pos hsend, hsession]
        simp [setLastSequencyNumber]
      · rw [sendFrames, if_pos hsend, List.range_succ_eq_map]
        dsimp only
        rw [hevents]
        simp [frameAhead, Function.comp_def]
    · have hfalse : env.send (session.dataTransferFrame key) = false := by simpa using hsend
      refine ⟨0, by omega, by simp, fun _ => by simpa [frameAhead] using hfalse, ?_, ?_⟩
      · rw [sendFrames, if_neg hsend]
        simp
      · rw [sendFrames, if_neg hsend]
        simp [frameAhead]

end TransportProtocolSession

end Isobus.TransportProtocol
