import Isobus.FastPacket.Protocol
import Isobus.Lib.OfferLoop

namespace Isobus.FastPacket

open Isobus.Can Isobus.Lib FastPacketProtocolSession

def frameCount (messageLength : UInt8) : Nat := messageLength.toNat / 7 + 1

theorem toNat_calculateNumberOfFrames {messageLength : UInt8} (h : messageLength ≠ 0) :
    (calculateNumberOfFrames messageLength).toNat = frameCount messageLength := by
  have hall : ∀ x : Fin 256, UInt8.ofFin x ≠ 0 →
      (calculateNumberOfFrames (UInt8.ofFin x)).toNat = x.val / 7 + 1 := by
    decide +kernel
  exact hall messageLength.toFin h

def bytesOf (frames : Nat) : Nat := 7 * frames - 1

theorem toNat_ofNat_bytesOf {frames : Nat} (h : frames ≤ 32) :
    (UInt8.ofNat (bytesOf frames)).toNat = bytesOf frames := by
  rw [UInt8.toNat_ofNat_of_lt']
  change 7 * frames - 1 < 256
  omega

theorem toNat_calculateNumberOfFrames_bytesOf {frames : Nat} (h : frames ≤ 32) :
    (calculateNumberOfFrames (UInt8.ofNat (bytesOf frames))).toNat = frames := by
  cases frames with
  | zero => rfl
  | succ n =>
    have hbytes := toNat_ofNat_bytesOf h
    rw [toNat_calculateNumberOfFrames, frameCount, hbytes]
    · change (7 * (n + 1) - 1) / 7 + 1 = n + 1
      omega
    · intro hzero
      rw [hzero] at hbytes
      change 0 = 7 * (n + 1) - 1 at hbytes
      omega

namespace FastPacketProtocolSession

structure Sendable (session : FastPacketProtocolSession) : Prop where
  direction : session.direction = .transmit
  long : CAN_DATA_LENGTH < session.totalMessageSize.toNat
  short : session.totalMessageSize.toNat ≤ MAX_PROTOCOL_MESSAGE_LENGTH.toNat

def after (session : FastPacketProtocolSession) (frames : Nat) (time : UInt32) :
    FastPacketProtocolSession :=
  { session with
    numberOfBytesTransferred := UInt8.ofNat (bytesOf frames)
    timestamp := time }

def frames (session : FastPacketProtocolSession) : Nat := frameCount session.totalMessageSize

def fragment (key : FastPacketKey) (session : FastPacketProtocolSession) (k : Nat) :
    TransmitFrame where
  parameterGroupNumber := key.parameterGroupNumber
  data := (UInt8.ofNat k ||| (session.sequenceNumber <<< SEQUENCE_NUMBER_BIT_OFFSET)) ::
    ((if k = 0 then [session.totalMessageSize] else []) ++
      segment 0xFF session.data (bytesOf k) (if k = 0 then 6 else 7))
  source := key.source
  destination := key.destination
  priority := session.priority

variable {env : Environment} {key : FastPacketKey} {session : FastPacketProtocolSession}
variable {k : Nat} {time : UInt32}

theorem Sendable.two_le_frames (h : session.Sendable) : 2 ≤ session.frames := by
  have hlong := h.long
  simp only [CAN_DATA_LENGTH] at hlong
  simp only [frames, frameCount]
  omega

theorem Sendable.frames_le (h : session.Sendable) : session.frames ≤ 32 := by
  have hshort := h.short
  simp only [MAX_PROTOCOL_MESSAGE_LENGTH, UInt8.reduceToNat] at hshort
  simp only [frames, frameCount]
  omega

theorem toNat_getLastPacketNumber_after (session : FastPacketProtocolSession) (time : UInt32)
    (h : k ≤ 32) : (session.after k time).getLastPacketNumber.toNat = k :=
  toNat_calculateNumberOfFrames_bytesOf h

theorem Sendable.toNat_getNumberOfRemainingPackets_after (h : session.Sendable) (time : UInt32)
    (hk : k ≤ session.frames) :
    (session.after k time).getNumberOfRemainingPackets.toNat = session.frames - k := by
  have hle := h.frames_le
  have htotal : (session.after k time).getTotalNumberOfPackets.toNat = session.frames := by
    apply toNat_calculateNumberOfFrames
    intro hzero
    have hlong := h.long
    change session.totalMessageSize = 0 at hzero
    rw [hzero] at hlong
    cases hlong
  have hlast := toNat_getLastPacketNumber_after session time (le_trans hk hle)
  unfold getNumberOfRemainingPackets
  rw [UInt8.toNat_sub_of_le _ _ (UInt8.le_iff_toNat_le.mpr (by omega)), htotal, hlast]

theorem bytesOf_pos_iff : UInt8.ofNat (bytesOf k) = 0 ∧ k ≤ 32 ↔ k = 0 := by
  constructor
  · rintro ⟨hzero, hk⟩
    have hbytes := toNat_ofNat_bytesOf hk
    rw [hzero] at hbytes
    change 0 = 7 * k - 1 at hbytes
    omega
  · rintro rfl
    exact ⟨rfl, by omega⟩

theorem bytesThisFrame_after (hk : k ≤ 32) :
    (session.after k time).bytesThisFrame = if k = 0 then 6 else 7 := by
  unfold bytesThisFrame
  by_cases hzero : k = 0
  · subst hzero
    rfl
  · have hne : (session.after k time).getTotalBytesTransferred ≠ 0 :=
      fun h => hzero (bytesOf_pos_iff.mp ⟨h, hk⟩)
    rw [if_neg hne, if_neg hzero]
    rfl

theorem Sendable.payload_after (h : session.Sendable) (hk : k < session.frames) :
    (session.after k time).payload =
      segment 0xFF session.data (bytesOf k) (if k = 0 then 6 else 7) := by
  have hle := h.frames_le
  have hsize : ((if k = 0 then 6 else 7 : UInt8)).toNat = if k = 0 then 6 else 7 := by
    split_ifs <;> rfl
  unfold payload Lib.segment
  rw [bytesThisFrame_after (by omega), hsize]
  apply List.map_congr_left
  intro j hj
  have hj7 : j < 7 := by
    have hlt := List.mem_range.mp hj
    split_ifs at hlt <;> omega
  have hindex : (UInt8.ofNat (bytesOf k) + UInt8.ofNat j).toNat = bytesOf k + j := by
    rw [UInt8.toNat_add, toNat_ofNat_bytesOf (by omega),
      UInt8.toNat_ofNat_of_lt' (by change j < 256; omega)]
    simp only [bytesOf]
    omega
  change (if UInt8.ofNat (bytesOf k) + UInt8.ofNat j < session.totalMessageSize then
    session.data.getD (UInt8.ofNat (bytesOf k) + UInt8.ofNat j).toNat 0xFF else 0xFF) = _
  rw [hindex]
  split_ifs with hinside
  · rfl
  · rw [UInt8.lt_iff_toNat_lt, hindex] at hinside
    rw [List.getD_eq_default _ _ (by rw [session.data_length]; omega)]

theorem Sendable.transferFrame_after (h : session.Sendable) (time : UInt32)
    (hk : k < session.frames) :
    (session.after k time).transferFrame key = session.fragment key k := by
  have hle := h.frames_le
  have hlast : (session.after k time).getLastPacketNumber = UInt8.ofNat k := by
    rw [← UInt8.toNat_inj, toNat_getLastPacketNumber_after session time (by omega),
      UInt8.toNat_ofNat_of_lt' (by change k < 256; omega)]
  have hzero : (session.after k time).getTotalBytesTransferred = 0 ↔ k = 0 :=
    ⟨fun hbytes => bytesOf_pos_iff.mp ⟨hbytes, by omega⟩, by rintro rfl; rfl⟩
  unfold transferFrame fragment
  rw [hlast, h.payload_after hk]
  simp only [hzero]
  rfl

theorem addNumberOfBytesTransferred_after (now : UInt32) (hk : k < 32) :
    (session.after k time).addNumberOfBytesTransferred now
        (session.after k time).bytesThisFrame = session.after (k + 1) now := by
  have hsum : UInt8.ofNat (bytesOf k) + (if k = 0 then 6 else 7) =
      UInt8.ofNat (bytesOf (k + 1)) := by
    have hsize : ((if k = 0 then 6 else 7 : UInt8)).toNat = if k = 0 then 6 else 7 := by
      split_ifs <;> rfl
    rw [← UInt8.toNat_inj, UInt8.toNat_add, toNat_ofNat_bytesOf (by omega),
      toNat_ofNat_bytesOf (by omega), hsize]
    simp only [bytesOf]
    split_ifs <;> omega
  rw [bytesThisFrame_after (by omega)]
  simp only [addNumberOfBytesTransferred, after, hsum]

/-- The loop of one update: a position is the number of frames that are out and the time of the last
one. -/
def frameLoop (env : Environment) (key : FastPacketKey) (session : FastPacketProtocolSession) :
    Nat → Nat × UInt32 → (Nat × UInt32) × List Event :=
  offerLoop (fun position => env.send (session.fragment key position.1))
    (fun position => (position.1 + 1, env.now))
    (fun position sent => .frame (session.fragment key position.1) sent)

/-- The bound shrinks with every frame while the counter grows, so half of what is between them is
offered. -/
theorem Sendable.sendFrames_after (h : session.Sendable) {left : Nat} (hleft : left ≤ 256)
    (hk : k ≤ session.frames) {n : Nat} (hn : n = (session.frames - k - (256 - left) + 1) / 2) :
    sendFrames env key left (session.after k time) =
      ⟨session.after (frameLoop env key session n (k, time)).1.1
          (frameLoop env key session n (k, time)).1.2,
        (frameLoop env key session n (k, time)).2,
        decide ((frameLoop env key session n (k, time)).1.1 < k + n)⟩ := by
  have hle := h.frames_le
  induction left generalizing k time n with
  | zero =>
    obtain rfl : n = 0 := by omega
    simp [sendFrames, frameLoop, offerLoop]
  | succ left ih =>
    have hremaining := h.toNat_getNumberOfRemainingPackets_after time hk
    by_cases hbound : 255 - left < session.frames - k
    · obtain ⟨m, rfl⟩ : ∃ m, n = m + 1 := ⟨n - 1, by omega⟩
      rw [sendFrames, hremaining, if_pos hbound]
      rw [h.transferFrame_after time (by omega), addNumberOfBytesTransferred_after _ (by omega)]
      by_cases hsend : env.send (session.fragment key k) = true
      · rw [if_pos hsend, ih (by omega) (by omega) (n := m) (by omega)]
        simp only [frameLoop, offerLoop, if_pos hsend]
        rw [show k + 1 + m = k + (m + 1) by omega]
        rfl
      · rw [if_neg hsend]
        simp only [frameLoop, offerLoop, if_neg hsend]
        simp
    · obtain rfl : n = 0 := by omega
      rw [sendFrames, hremaining, if_neg hbound]
      simp [frameLoop, offerLoop]

/-- The number of frames that an update offers when none is refused. -/
def burst (session : FastPacketProtocolSession) (k : Nat) : Nat := (session.frames - k + 1) / 2

structure Bursts (env : Environment) (key : FastPacketKey) (session : FastPacketProtocolSession)
    (k : Nat) (time : UInt32) (sent : Nat) : Prop where
  le : sent ≤ session.burst k
  accepted : ∀ i < sent, env.send (session.fragment key (k + i)) = true
  refused : sent < session.burst k → env.send (session.fragment key (k + sent)) = false
  sendFrames_eq : sendFrames env key 256 (session.after k time) =
    ⟨session.after (k + sent) (if sent = 0 then time else env.now),
      (List.range sent).map (fun i => .frame (session.fragment key (k + i)) true) ++
        if sent < session.burst k then [.frame (session.fragment key (k + sent)) false] else [],
      decide (sent < session.burst k)⟩

private theorem iterate_position (now time : UInt32) (k i : Nat) :
    (fun position : Nat × UInt32 => (position.1 + 1, now))^[i] (k, time) =
      (k + i, if i = 0 then time else now) := by
  induction i with
  | zero => rfl
  | succ i ih =>
    rw [Function.iterate_succ_apply', ih]
    rfl

theorem Sendable.exists_bursts (h : session.Sendable) (env : Environment) (key : FastPacketKey)
    (time : UInt32) (hk : k ≤ session.frames) : ∃ sent, Bursts env key session k time sent := by
  obtain ⟨sent, hle, haccepted, hrefused, hstate, houtputs⟩ := exists_offers
    (fun position : Nat × UInt32 => env.send (session.fragment key position.1))
    (fun position => (position.1 + 1, env.now))
    (fun position sent => Event.frame (session.fragment key position.1) sent)
    (session.burst k) (k, time)
  simp only [iterate_position] at haccepted hrefused hstate houtputs
  refine ⟨sent, hle, haccepted, hrefused, ?_⟩
  have hloop : frameLoop env key session (session.burst k) (k, time) =
      ((k + sent, if sent = 0 then time else env.now),
        (List.range sent).map (fun i => .frame (session.fragment key (k + i)) true) ++
          if sent < session.burst k then [.frame (session.fragment key (k + sent)) false]
          else []) :=
    Prod.ext hstate houtputs
  have hsent : sendFrames env key 256 (session.after k time) = ⟨session.after
    (frameLoop env key session (session.burst k) (k, time)).1.1
    (frameLoop env key session (session.burst k) (k, time)).1.2,
    (frameLoop env key session (session.burst k) (k, time)).2,
    decide ((frameLoop env key session (session.burst k) (k, time)).1.1 <
      k + session.burst k)⟩ :=
    h.sendFrames_after (le_refl 256) hk rfl
  rw [hsent, hloop]
  simp only [Nat.add_lt_add_iff_left]

def sentFrom (key : FastPacketKey) (session : FastPacketProtocolSession) (k n : Nat) :
    List Event :=
  (List.range n).map fun i => .frame (session.fragment key (k + i)) true

theorem burst_pos (hk : k < session.frames) : 0 < session.burst k := by
  unfold burst
  omega

theorem burst_le (session : FastPacketProtocolSession) (k : Nat) :
    session.burst k ≤ session.frames - k := by
  unfold burst
  omega

/-- What an update does to an incomplete session: the rest got out, or a frame was refused too late,
or it goes on. -/
inductive Updated (env : Environment) (key : FastPacketKey) (session : FastPacketProtocolSession)
    (k : Nat) (time : UInt32) : Outcome → Prop
  | done (n : Nat) (hpos : 0 < n) (heq : k + n = session.frames)
      (hsend : env.send (session.fragment key k) = true) :
      Updated env key session k time
        (none, sentFrom key session k n ++ (closeSession key session true).2)
  | timedOut (hsend : env.send (session.fragment key k) = false)
      (hlate : env.timeElapsed time > FP_TIMEOUT_MS) :
      Updated env key session k time
        (none, .frame (session.fragment key k) false :: (closeSession key session false).2)
  | refused (hsend : env.send (session.fragment key k) = false)
      (hearly : ¬env.timeElapsed time > FP_TIMEOUT_MS) :
      Updated env key session k time
        (some (session.after k time), [.frame (session.fragment key k) false])
  | sent (n : Nat) (refusal : Bool) (hpos : 0 < n) (hlt : k + n < session.frames)
      (hsend : env.send (session.fragment key k) = true) :
      Updated env key session k time
        (some (session.after (k + n) env.now), sentFrom key session k n ++
          if refusal then [.frame (session.fragment key (k + n)) false] else [])

theorem closeSession_after (key : FastPacketKey) (session : FastPacketProtocolSession) (k : Nat)
    (time : UInt32) (successful : Bool) :
    closeSession key (session.after k time) successful = closeSession key session successful := rfl

theorem closeSession_fst (key : FastPacketKey) (session : FastPacketProtocolSession)
    (successful : Bool) : (closeSession key session successful).1 = none := by
  unfold closeSession
  split <;> rfl

theorem timeElapsed_now (env : Environment) : ¬env.timeElapsed env.now > FP_TIMEOUT_MS := by
  have hzero : env.timeElapsed env.now = 0 := UInt32.sub_self _
  rw [hzero]
  decide

theorem Sendable.updateTransmit_after (h : session.Sendable) (env : Environment)
    (key : FastPacketKey) (time : UInt32) (hk : k < session.frames) :
    Updated env key session k time ((session.after k time).updateTransmit env key) := by
  obtain ⟨n, hburst⟩ := h.exists_bursts env key time (le_of_lt hk)
  have hpos := burst_pos hk
  have hle := burst_le session k
  have hn := hburst.le
  have hremaining (time : UInt32) : (session.after (k + n) time).getNumberOfRemainingPackets = 0 ↔
      k + n = session.frames := by
    have hcount := h.toNat_getNumberOfRemainingPackets_after time
      (show k + n ≤ session.frames by omega)
    rw [← UInt8.toNat_inj, hcount]
    change _ - _ = 0 ↔ _
    omega
  unfold updateTransmit
  rw [hburst.sendFrames_eq]
  simp only [hremaining, closeSession_after, decide_eq_true_eq]
  cases n with
  | zero =>
    have hsend := hburst.refused hpos
    rw [if_neg (show ¬k + 0 = session.frames by omega), if_pos hpos, if_pos rfl]
    by_cases hlate : env.timeElapsed time > FP_TIMEOUT_MS
    · rw [if_pos ⟨hpos, hlate⟩, closeSession_fst]
      simpa using Updated.timedOut hsend hlate
    · rw [if_neg fun hboth => hlate hboth.2]
      simpa using Updated.refused hsend hlate
  | succ n =>
    have hsend := hburst.accepted 0 (Nat.succ_pos n)
    have hontime : ¬((n + 1 < session.burst k) ∧
        env.timeElapsed (session.after (k + (n + 1)) env.now).timestamp > FP_TIMEOUT_MS) :=
      fun hboth => timeElapsed_now env hboth.2
    rw [if_neg (Nat.succ_ne_zero n), if_neg hontime]
    by_cases hlast : k + (n + 1) = session.frames
    · rw [if_pos hlast, if_neg (show ¬n + 1 < session.burst k by omega)]
      rw [closeSession_fst]
      simpa [sentFrom] using Updated.done (n + 1) (Nat.succ_pos n) hlast hsend
    · rw [if_neg hlast]
      simpa [sentFrom] using Updated.sent (n + 1) (decide (n + 1 < session.burst k))
          (Nat.succ_pos n)
        (by omega) hsend

end FastPacketProtocolSession

end Isobus.FastPacket
