import Isobus.TaskClient.Effects
import Isobus.TaskClient.OwnServer

namespace Isobus.TaskClient

open Isobus.Can Isobus.Lib Isobus.DeviceDescriptor Isobus.NetworkManager

/-- The device descriptor in force: the binary one, or the binary form of the pool at a level that
the server knows. -/
def TaskControllerClient.InForce (client : TaskControllerClient) (ddop : List UInt8) : Prop :=
  match client.ddop.ddopUploadMode with
  | .programaticallyGenerated =>
    ∃ pool, client.ddop.clientDDOP = some pool ∧
      pool.taskControllerCompatibilityLevel ≤ client.server.serverVersion ∧
      pool.generateBinaryObjectPool = some ddop
  | _ => client.ddop.binaryDDOP = some ddop

/-- The answer to one chunk request; none is a refusal or a read outside of the pool. -/
structure Answer where
  bytesOffset : UInt32
  numberOfBytesNeeded : UInt32
  bytes : Option (List UInt8)

structure Transfer where
  client : TaskControllerClient
  announced : Option (List UInt8)
  dataLength : UInt32
  ongoing : Bool := true
  answers : List Answer := []

def announcement (size : Nat) : List UInt8 :=
  [REQUEST_OBJECT_POOL_TRANSFER] ++ bytes32 (UInt32.ofNat size) ++ List.replicate 3 0xFF

/-- The transfer is its first byte and the device descriptor in force, in whatever pieces, and that
size was announced. -/
def Transfer.Exact (transfer : Transfer) : Prop :=
  ∃ ddop, transfer.client.InForce ddop ∧ transfer.dataLength.toNat = ddop.length + 1 ∧
    transfer.announced = some (announcement ddop.length) ∧
    ∀ answer ∈ transfer.answers, answer.bytes =
      some (((OBJECT_POOL_TRANSFER :: ddop).drop answer.bytesOffset.toNat).take
        answer.numberOfBytesNeeded.toNat)

structure Uploads where
  client : Option TaskControllerClient
  announced : Option (List UInt8) := none
  transfers : List Transfer := []

/-- A call from elsewhere, or one of the transport protocol about one of the transfers. -/
inductive UploadInput
  | call (input : Input)
  | chunk (env : Environment) (transfer : Nat) (bytesOffset numberOfBytesNeeded : UInt32)
  | finished (env : Environment) (transfer : Nat) (successful : Bool)

def announcementOf : Event → Option (List UInt8)
  | .message frame true => if announces frame then some frame.data else none
  | _ => none

def transferOf : Event → Option UInt32
  | .transfer dataLength true => some dataLength
  | _ => none

def chunkOf : Event → Option (List UInt8)
  | .chunk _ _ answer => answer
  | _ => none

/-- The transport protocol calls back only for a transfer that it was given. -/
def Call.isTransport : Call → Bool
  | .processTxCallback _ => true
  | .processInternalObjectPoolUploadCallback _ _ => true
  | _ => false

namespace Uploads

variable (u : Uploads)

def afterCall (result : Option TaskControllerClient × List Event) : Uploads where
  client := result.1
  announced := (result.2.filterMap announcementOf).getLast?.or u.announced
  transfers := u.transfers ++ (result.2.filterMap transferOf).flatMap fun dataLength =>
    u.client.toList.map fun client =>
      { client := client, announced := u.announced, dataLength := dataLength }

def updateTransfer (index : Nat) (change : Transfer → Transfer) : Uploads :=
  { u with transfers := u.transfers.modify index change }

end Uploads

def Transfer.asksWithin (transfer : Transfer) (bytesOffset numberOfBytesNeeded : UInt32) : Bool :=
  transfer.ongoing && numberOfBytesNeeded ≠ 0 &&
    bytesOffset.toNat + numberOfBytesNeeded.toNat ≤ transfer.dataLength.toNat

def uploads : Machine Uploads UploadInput Event where
  step u input :=
    match input with
    | .call ⟨env, call⟩ =>
      if call.isTransport then (u, [])
      else
        let result := taskControllerClient.step u.client ⟨env, call⟩
        (u.afterCall result, result.2)
    | .chunk env index bytesOffset numberOfBytesNeeded =>
      if u.client.isSome &&
          (u.transfers[index]?).any (·.asksWithin bytesOffset numberOfBytesNeeded) then
        let result := taskControllerClient.step u.client
          ⟨env, .processInternalObjectPoolUploadCallback bytesOffset numberOfBytesNeeded⟩
        let answer : Answer :=
          { bytesOffset := bytesOffset
            numberOfBytesNeeded := numberOfBytesNeeded
            bytes := result.2.head?.bind chunkOf }
        (Uploads.updateTransfer { u with client := result.1 } index fun transfer =>
          { transfer with answers := transfer.answers ++ [answer] }, result.2)
      else (u, [])
    | .finished env index successful =>
      if (u.transfers[index]?).any (·.ongoing) then
        let result := taskControllerClient.step u.client ⟨env, .processTxCallback successful⟩
        (Uploads.updateTransfer { u with client := result.1 } index fun transfer =>
          { transfer with ongoing := false }, result.2)
      else (u, [])

/-- There is something to announce: binary data behind a pointer, or a pool whose binary form was
generated and fits in 32 bits. -/
def SuppliedDDOP.Announceable (supplied : SuppliedDDOP) : Prop :=
  match supplied.ddopUploadMode with
  | .programaticallyGenerated =>
    supplied.generatedBinaryDDOP ≠ [] ∧ supplied.generatedBinaryDDOP.length < 2 ^ 32
  | .userProvidedBinaryPointer => True
  | .userProvidedVector => False

def TaskControllerClient.CacheIsCurrent (client : TaskControllerClient) : Prop :=
  client.ddop.ddopUploadMode = .programaticallyGenerated → client.ddop.generatedBinaryDDOP ≠ [] →
    ∀ pool, client.ddop.clientDDOP = some pool →
      pool.taskControllerCompatibilityLevel ≤ client.server.serverVersion ∨
        (SuppliedDDOP.lowerTo client.server.serverVersion pool).generateBinaryObjectPool =
          some client.ddop.generatedBinaryDDOP

/-- On the way to the upload the server does not turn into an older one. -/
def TaskControllerClient.StaysCurrent (client : TaskControllerClient) (version : UInt8) : Prop :=
  client.currentState.isLate → client.ddop.ddopUploadMode = .programaticallyGenerated →
    client.ddop.generatedBinaryDDOP ≠ [] → ∀ pool, client.ddop.clientDDOP = some pool →
      pool.taskControllerCompatibilityLevel ≤ version

/-- What keeps the transfers exact. -/
def Uploads.Careful (u : Uploads) : UploadInput → Prop
  | .call ⟨_, call⟩ => ∀ client, u.client = some client →
      match call with
      | .update =>
        (client.currentState = .processDDOP → client.CacheIsCurrent) ∧
          (client.currentState = .sendRequestTransferObjectPool → client.ddop.Announceable)
      | .receive message => TellsVersion message → client.StaysCurrent (message.getUint8At 1)
      | .configure _ _ =>
        client.currentState = .disconnected → ∀ transfer ∈ u.transfers, transfer.ongoing = false
      | .reuploadDeviceDescriptorObjectPool _ =>
        client.currentState = .connected → ∀ transfer ∈ u.transfers, transfer.ongoing = false
      | _ => True
  | _ => True

namespace SuppliedDDOP

def source (supplied : SuppliedDDOP) : List UInt8 :=
  if supplied.ddopUploadMode = .userProvidedBinaryPointer then
    supplied.userSuppliedBinaryDDOP.getD []
  else supplied.generatedBinaryDDOP

/-- The fields agree on the form in which the device descriptor was supplied. -/
structure Consistent (supplied : SuppliedDDOP) : Prop where
  pointer : supplied.ddopUploadMode = .userProvidedBinaryPointer →
    ∃ bytes, supplied.userSuppliedBinaryDDOP = some bytes ∧ bytes.length < 2 ^ 32 ∧
      supplied.userSuppliedBinaryDDOPSize = UInt32.ofNat bytes.length ∧
      supplied.generatedBinaryDDOP = []
  cached : supplied.ddopUploadMode = .programaticallyGenerated →
    supplied.generatedBinaryDDOP ≠ [] → ∃ pool, supplied.clientDDOP = some pool ∧
      pool.generateBinaryObjectPool = some supplied.generatedBinaryDDOP

variable {supplied : SuppliedDDOP}

theorem consistent_supply (ddop : DDOP) : (supplied.supply ddop).Consistent := by
  cases ddop with
  | object pool => exact ⟨fun h => absurd h (by simp [supply]), fun _ h => absurd rfl h⟩
  | pointer bytes hsize =>
    exact ⟨fun _ => ⟨bytes, rfl, hsize, rfl, rfl⟩, fun h => absurd h (by simp [supply])⟩
  | vector bytes =>
    exact ⟨fun h => absurd h (by simp [supply]), fun h => absurd h (by simp [supply])⟩

theorem generated_supply (ddop : DDOP) : (supplied.supply ddop).generatedBinaryDDOP = [] := by
  cases ddop <;> rfl

theorem announceable_cases (h : supplied.Announceable) :
    supplied.ddopUploadMode = .userProvidedBinaryPointer ∨
      supplied.ddopUploadMode = .programaticallyGenerated ∧ supplied.generatedBinaryDDOP ≠ [] ∧
        supplied.generatedBinaryDDOP.length < 2 ^ 32 := by
  unfold Announceable at h
  cases hmode : supplied.ddopUploadMode with
  | programaticallyGenerated =>
    rw [hmode] at h
    exact .inr ⟨rfl, h⟩
  | userProvidedBinaryPointer => exact .inl rfl
  | userProvidedVector =>
    rw [hmode] at h
    exact h.elim

theorem source_of_pointer {bytes : List UInt8}
    (hmode : supplied.ddopUploadMode = .userProvidedBinaryPointer)
    (hbytes : supplied.userSuppliedBinaryDDOP = some bytes) : supplied.source = bytes := by
  rw [source, if_pos hmode, hbytes]
  rfl

theorem source_of_object (hmode : supplied.ddopUploadMode = .programaticallyGenerated) :
    supplied.source = supplied.generatedBinaryDDOP := by
  rw [source, if_neg (by rw [hmode]; decide)]

theorem processLabelsFromDdop_eq {labelled : SuppliedDDOP}
    (h : supplied.processLabelsFromDdop = some labelled) :
    ∃ structureLabel localizationLabel, labelled =
      { supplied with
        ddopStructureLabel := structureLabel
        ddopLocalizationLabel := localizationLabel } := by
  unfold processLabelsFromDdop at h
  split at h
  · obtain ⟨pool, -, h₁⟩ := Option.bind_eq_some_iff.mp h
    split at h₁
    · exact ⟨_, _, (Option.some.inj h₁).symm⟩
    · cases h₁
  · obtain ⟨bytes, -, h₁⟩ := Option.bind_eq_some_iff.mp h
    split_ifs at h₁
    · exact ⟨_, _, (Option.some.inj h₁).symm⟩
    · obtain ⟨labels, -, h₂⟩ := Option.bind_eq_some_iff.mp h₁
      exact ⟨_, _, (Option.some.inj h₂).symm⟩

end SuppliedDDOP

namespace TaskControllerClient

/-- What holds of a client between its calls, given the last announcement. -/
structure Sound (client : TaskControllerClient) (announced : Option (List UInt8)) : Prop where
  consistent : client.ddop.Consistent
  current : client.StaysCurrent client.server.serverVersion
  announced : client.currentState.isAnnounced →
    client.ddop.Announceable ∧ announced = some (announcement client.ddop.source.length)

variable {client : TaskControllerClient}

theorem announcedSize_eq (hconsistent : client.ddop.Consistent)
    (h : client.ddop.Announceable) : client.announcedSize = client.ddop.source.length := by
  rcases SuppliedDDOP.announceable_cases h with hmode | ⟨hmode, -, -⟩
  · obtain ⟨bytes, hbytes, hlength, hsize, -⟩ := hconsistent.pointer hmode
    rw [announcedSize, if_pos hmode, hsize, SuppliedDDOP.source_of_pointer hmode hbytes,
      UInt32.toNat_ofNat_of_lt' hlength]
  · rw [announcedSize, if_neg (by rw [hmode]; decide), SuppliedDDOP.source_of_object hmode]

theorem inForce_source (hconsistent : client.ddop.Consistent) (h : client.ddop.Announceable)
    (hcurrent : client.StaysCurrent client.server.serverVersion)
    (hlate : client.currentState.isLate) : client.InForce client.ddop.source := by
  rcases SuppliedDDOP.announceable_cases h with hmode | ⟨hmode, hne, -⟩
  · obtain ⟨bytes, hbytes, hlength, hsize, -⟩ := hconsistent.pointer hmode
    rw [InForce, hmode, SuppliedDDOP.source_of_pointer hmode hbytes]
    change client.ddop.binaryDDOP = some bytes
    rw [SuppliedDDOP.binaryDDOP, if_pos hmode, hbytes, hsize, UInt32.toNat_ofNat_of_lt' hlength,
      Option.map_some, List.take_length]
  · obtain ⟨pool, hpool, hgenerated⟩ := hconsistent.cached hmode hne
    rw [InForce, hmode, SuppliedDDOP.source_of_object hmode]
    exact ⟨pool, hpool, hcurrent hlate hmode hne pool hpool, hgenerated⟩

end TaskControllerClient

namespace Turn

variable {env : Environment} {turn turn' : Turn}

theorem transferLength_eq {dataLength : UInt32} (hconsistent : turn.client.ddop.Consistent)
    (h : turn.client.ddop.Announceable) (hlength : turn.transferLength = some dataLength)
    (hne : dataLength ≠ 0) : dataLength.toNat = turn.client.ddop.source.length + 1 := by
  have hzero : dataLength.toNat ≠ 0 := fun h0 => hne (UInt32.toNat_inj.mp h0)
  rcases SuppliedDDOP.announceable_cases h with hmode | ⟨hmode, -, hsize⟩
  · obtain ⟨bytes, hbytes, hbound, hsize, -⟩ := hconsistent.pointer hmode
    simp only [transferLength, hmode, hsize, Option.some.injEq] at hlength
    subst hlength
    rw [SuppliedDDOP.source_of_pointer hmode hbytes]
    rw [UInt32.toNat_add, UInt32.toNat_ofNat_of_lt' hbound] at hzero ⊢
    have hone : (1 : UInt32).toNat = 1 := rfl
    omega
  · simp only [transferLength, hmode, Option.some.injEq] at hlength
    subst hlength
    rw [SuppliedDDOP.source_of_object hmode]
    rw [UInt32.toNat_ofNat'] at hzero ⊢
    omega

theorem processInternalObjectPoolUploadCallback_eq {bytesOffset numberOfBytesNeeded : UInt32}
    (hconsistent : turn.client.ddop.Consistent) (h : turn.client.ddop.Announceable)
    (hne : numberOfBytesNeeded ≠ 0)
    (hwithin : bytesOffset.toNat + numberOfBytesNeeded.toNat ≤
      turn.client.ddop.source.length + 1)
    (hsize : turn.client.ddop.source.length + 1 < 2 ^ 32) :
    turn.processInternalObjectPoolUploadCallback bytesOffset numberOfBytesNeeded =
      some (turn.emit (.chunk bytesOffset numberOfBytesNeeded
        (some (((OBJECT_POOL_TRANSFER :: turn.client.ddop.source).drop bytesOffset.toNat).take
          numberOfBytesNeeded.toNat)))) := by
  have hneeded : numberOfBytesNeeded.toNat ≠ 0 := fun h0 => hne (UInt32.toNat_inj.mp h0)
  have hsum : (bytesOffset + numberOfBytesNeeded).toNat =
      bytesOffset.toNat + numberOfBytesNeeded.toNat := by
    rw [UInt32.toNat_add]
    omega
  -- The pieces come from the source, and one of the two sizes lets them pass.
  have hsource : turn.client.ddop.chunkSource = some turn.client.ddop.source ∧
      ((bytesOffset + numberOfBytesNeeded).toNat ≤ turn.client.ddop.generatedBinaryDDOP.length + 1 ∨
        bytesOffset + numberOfBytesNeeded ≤ turn.client.ddop.userSuppliedBinaryDDOPSize + 1) := by
    rcases SuppliedDDOP.announceable_cases h with hmode | ⟨hmode, -, -⟩
    · obtain ⟨bytes, hbytes, hlength, hstored, -⟩ := hconsistent.pointer hmode
      have heq := SuppliedDDOP.source_of_pointer hmode hbytes
      rw [heq] at hwithin hsize
      refine ⟨by rw [SuppliedDDOP.chunkSource, if_pos hmode, heq, hbytes], .inr ?_⟩
      rw [UInt32.le_iff_toNat_le, hsum, hstored, UInt32.toNat_add,
        UInt32.toNat_ofNat_of_lt' hlength]
      have hone : (1 : UInt32).toNat = 1 := rfl
      omega
    · have heq := SuppliedDDOP.source_of_object hmode
      rw [heq] at hwithin
      refine ⟨by rw [SuppliedDDOP.chunkSource, if_neg (by rw [hmode]; decide), heq], .inl ?_⟩
      rw [hsum]
      exact hwithin
  -- The first byte shifts the pool by one.
  have hbytes : chunkBytes turn.client.ddop.source bytesOffset numberOfBytesNeeded =
      some (((OBJECT_POOL_TRANSFER :: turn.client.ddop.source).drop bytesOffset.toNat).take
        numberOfBytesNeeded.toNat) := by
    obtain ⟨n, hn⟩ := Nat.exists_eq_succ_of_ne_zero hneeded
    unfold chunkBytes
    split_ifs with hfirst
    · subst hfirst
      rw [readBytes_eq_some (by simp at hwithin; omega), hn]
      rfl
    · have hoffset : bytesOffset.toNat ≠ 0 := fun h0 => hfirst (UInt32.toNat_inj.mp h0)
      obtain ⟨k, hk⟩ := Nat.exists_eq_succ_of_ne_zero hoffset
      rw [readBytes_eq_some (by omega), hk]
      rfl
  unfold processInternalObjectPoolUploadCallback
  dsimp only
  rw [if_neg hne, if_pos hsource.2, hsource.1, Option.bind_eq_bind, Option.bind_some, hbytes]
  rfl

theorem Receives.sound {message : CANMessage} {announced : Option (List UInt8)}
    (h : Receives message turn turn') (hsound : turn.client.Sound announced)
    (htold : TellsVersion message → turn.client.StaysCurrent (message.getUint8At 1)) :
    turn'.client.Sound announced := by
  refine ⟨h.ddop ▸ hsound.consistent, fun hlate hmode hne pool hpool => ?_, fun hannounced => ?_⟩
  · rw [h.ddop] at hmode hne hpool
    rcases h.version with hsame | ⟨htells, hversion⟩
    · rw [hsame]
      exact hsound.current (h.late hlate) hmode hne pool hpool
    · rw [hversion]
      exact htold htells (h.late hlate) hmode hne pool hpool
  · rw [h.ddop]
    exact hsound.announced (h.announced hannounced)

theorem Passes.sound {announced : Option (List UInt8)} (h : Passes turn turn')
    (hsound : turn.client.Sound announced) : turn'.client.Sound announced := by
  refine ⟨h.ddop ▸ hsound.consistent, fun hlate hmode hne pool hpool => ?_, fun hannounced => ?_⟩
  · rw [h.ddop] at hmode hne hpool
    rw [h.version]
    exact hsound.current (h.late hlate) hmode hne pool hpool
  · rw [h.ddop]
    exact hsound.announced (h.announced hannounced)

theorem update_cases (h : turn.update env = some turn') :
    ∃ prepared processed, Passes turn prepared ∧ prepared.events = turn.events ∧
      prepared.client.currentState = turn.client.currentState ∧
      prepared.processState env = some processed ∧ Passes processed turn' := by
  simp only [update, Option.bind_eq_bind, Option.bind_eq_some_iff] at h
  obtain ⟨prepared, hprepared, processed, hprocessed, h₂⟩ := h
  have hpasses := passes_processAllDefaultProcessDataRequests hprepared
  refine ⟨prepared, processed, hpasses, ?_, ?_, hprocessed, Option.some.inj h₂ ▸
    passes_sendStatusIfDue⟩
  · unfold processAllDefaultProcessDataRequests at hprepared
    split_ifs at hprepared
    · obtain ⟨found, -, rfl⟩ := Option.map_eq_some_iff.mp hprepared
      rfl
    · rw [← Option.some.inj hprepared]
  · unfold processAllDefaultProcessDataRequests at hprepared
    split_ifs at hprepared
    · obtain ⟨found, -, rfl⟩ := Option.map_eq_some_iff.mp hprepared
      rfl
    · rw [← Option.some.inj hprepared]

/-- What is processed is consistent, is for the server, and is not changed while it is transferred.
-/
structure Processes (turn turn' : Turn) : Prop where
  consistent : turn'.client.ddop.Consistent
  current : turn'.client.StaysCurrent turn'.client.server.serverVersion
  source : turn.client.ddop.Announceable →
    turn'.client.ddop.Announceable ∧ turn'.client.ddop.source = turn.client.ddop.source
  announced : turn'.client.currentState.isAnnounced = false
  events : ∃ added, turn'.events = turn.events ++ added ∧ ∀ e ∈ added, e.isPlain

theorem lowerTo_level_le (serverVersion : UInt8) (pool : DeviceDescriptorObjectPool) :
    (SuppliedDDOP.lowerTo serverVersion pool).taskControllerCompatibilityLevel ≤ serverVersion := by
  unfold SuppliedDDOP.lowerTo
  split_ifs with h
  · exact UInt8.le_refl _
  · exact UInt8.not_lt.mp h

theorem lowerTo_of_le {serverVersion : UInt8} {pool : DeviceDescriptorObjectPool}
    (h : pool.taskControllerCompatibilityLevel ≤ serverVersion) :
    SuppliedDDOP.lowerTo serverVersion pool = pool :=
  dif_neg (UInt8.not_lt.mpr h)

theorem generate_lowerTo {pool : DeviceDescriptorObjectPool}
    (hmode : turn.client.ddop.ddopUploadMode = .programaticallyGenerated)
    (hpool : turn.client.ddop.clientDDOP = some pool)
    (hne : turn.client.ddop.generatedBinaryDDOP ≠ []) (hconsistent : turn.client.ddop.Consistent)
    (hcache : turn.client.CacheIsCurrent) :
    (SuppliedDDOP.lowerTo turn.client.server.serverVersion pool).generateBinaryObjectPool =
      some turn.client.ddop.generatedBinaryDDOP := by
  rcases hcache hmode hne pool hpool with hlevel | hlowered
  · obtain ⟨pool', hpool', hgenerated⟩ := hconsistent.cached hmode hne
    obtain rfl : pool = pool' := Option.some.inj (hpool.symm.trans hpool')
    rw [lowerTo_of_le hlevel, hgenerated]
  · exact hlowered

theorem processes_processObjectDDOP
    (hmode : turn.client.ddop.ddopUploadMode = .programaticallyGenerated)
    (hconsistent : turn.client.ddop.Consistent) (hcache : turn.client.CacheIsCurrent)
    (hstate : turn.client.currentState = .processDDOP)
    (h : turn.processObjectDDOP env = some turn') : Processes turn turn' := by
  have hpointer {supplied : SuppliedDDOP} {p : Prop}
      (hsame : supplied.ddopUploadMode = turn.client.ddop.ddopUploadMode)
      (heq : supplied.ddopUploadMode = .userProvidedBinaryPointer) : p := by
    rw [hsame, hmode] at heq
    cases heq
  obtain ⟨pool, hpool, h₁⟩ := Option.bind_eq_some_iff.mp h
  dsimp only at h₁
  split_ifs at h₁ with hsize hgenerated
  · -- The binary form that is there is taken over.
    cases h₁
    refine ⟨?_, ?_, fun hannounceable => ?_, ?_, [], by simp [setState, map], by simp⟩
    · rw [ddop_setState]
      refine ⟨fun heq => hpointer rfl heq, fun _ hne => ⟨_, rfl, ?_⟩⟩
      exact generate_lowerTo hmode hpool hgenerated hconsistent hcache
    · intro _ _ _ pool' hpool'
      rw [ddop_setState] at hpool'
      rw [server_setState, ← Option.some.inj hpool']
      exact lowerTo_level_le _ _
    · rw [ddop_setState]
      exact ⟨hannounceable, rfl⟩
    · rw [currentState_setState]
      rfl
  · have hempty : turn.client.ddop.generatedBinaryDDOP = [] := not_not.mp hgenerated
    have hnothing (hannounceable : turn.client.ddop.Announceable) : False := by
      rcases SuppliedDDOP.announceable_cases hannounceable with heq | ⟨-, hne, -⟩
      · exact hpointer rfl heq
      · exact hne hempty
    split at h₁
    · -- A pool that is not valid ends everything.
      cases h₁
      have hpasses : Passes (turn.map fun client =>
          { client with
            ddop := { turn.client.ddop with
              clientDDOP := some (SuppliedDDOP.lowerTo turn.client.server.serverVersion pool) } })
          _ := passes_terminate
      refine ⟨?_, ?_, fun hannounceable => (hnothing hannounceable).elim, ?_, ?_⟩
      · rw [hpasses.ddop]
        exact ⟨fun heq => hpointer rfl heq, fun _ hne => absurd hempty hne⟩
      · intro _ _ hne
        rw [hpasses.ddop] at hne
        exact absurd hempty hne
      · have hearly := mt hpasses.announced (by
          change ¬turn.client.currentState.isAnnounced = true
          rw [hstate]
          decide)
        exact Bool.eq_false_iff.mpr hearly
      · exact hpasses.events
    · next binary hbinary =>
      obtain ⟨labelled, hlabelled, h₂⟩ := Option.bind_eq_some_iff.mp h₁
      obtain ⟨structureLabel, localizationLabel, rfl⟩ :=
        SuppliedDDOP.processLabelsFromDdop_eq hlabelled
      cases h₂
      refine ⟨?_, ?_, fun hannounceable => (hnothing hannounceable).elim, ?_, [],
        by simp [setState, map], by simp⟩
      · rw [ddop_setState]
        exact ⟨fun heq => hpointer rfl heq, fun _ _ => ⟨_, rfl, hbinary⟩⟩
      · intro _ _ _ pool' hpool'
        rw [ddop_setState] at hpool'
        rw [server_setState, ← Option.some.inj hpool']
        exact lowerTo_level_le _ _
      · rw [currentState_setState]
        rfl

theorem processes_processBinaryDDOP
    (hmode : turn.client.ddop.ddopUploadMode ≠ .programaticallyGenerated)
    (hconsistent : turn.client.ddop.Consistent)
    (h : turn.processBinaryDDOP env = some turn') : Processes turn turn' := by
  unfold processBinaryDDOP at h
  split_ifs at h with hlabel
  · obtain ⟨labelled, hlabelled, h₁⟩ := Option.bind_eq_some_iff.mp h
    obtain ⟨structureLabel, localizationLabel, rfl⟩ :=
      SuppliedDDOP.processLabelsFromDdop_eq hlabelled
    cases h₁
    let known := turn.map fun client =>
      { client with
        ddop := { turn.client.ddop with
          ddopStructureLabel := structureLabel
          ddopLocalizationLabel := localizationLabel } }
    have hpasses : Passes known (if structureLabel = [] then known.terminate else known) := by
      split_ifs
      · exact passes_terminate
      · exact .refl known
    refine ⟨?_, ?_, fun hannounceable => ?_, ?_, hpasses.events⟩
    · rw [ddop_setState, hpasses.ddop]
      exact ⟨hconsistent.pointer, hconsistent.cached⟩
    · intro _ heq
      rw [ddop_setState, hpasses.ddop] at heq
      exact absurd heq hmode
    · rw [ddop_setState, hpasses.ddop]
      exact ⟨hannounceable, rfl⟩
    · rw [currentState_setState]
      rfl
  · cases h
    refine ⟨?_, ?_, fun hannounceable => ?_, ?_, [], by simp [setState, map], by simp⟩
    · rw [ddop_setState]
      exact hconsistent
    · intro _ heq
      rw [ddop_setState] at heq
      exact absurd heq hmode
    · rw [ddop_setState]
      exact ⟨hannounceable, rfl⟩
    · rw [currentState_setState]
      rfl

end Turn

/-- The transfer carries the bytes that the pieces were copied from when it began. -/
structure Transfer.Carries (transfer : Transfer) : Prop where
  inForce : transfer.client.InForce transfer.client.ddop.source
  length : transfer.dataLength.toNat = transfer.client.ddop.source.length + 1
  announced : transfer.announced = some (announcement transfer.client.ddop.source.length)
  answers : ∀ answer ∈ transfer.answers, answer.bytes =
    some (((OBJECT_POOL_TRANSFER :: transfer.client.ddop.source).drop
      answer.bytesOffset.toNat).take answer.numberOfBytesNeeded.toNat)

namespace Uploads

/-- Every transfer carries its device descriptor, and those that go on are about the present one. -/
structure Sound (u : Uploads) : Prop where
  carries : ∀ transfer ∈ u.transfers, transfer.Carries
  client : ∀ client, u.client = some client → client.Sound u.announced
  ongoing : ∀ client, u.client = some client → ∀ transfer ∈ u.transfers, transfer.ongoing →
    client.ddop.Announceable ∧ transfer.client.ddop.source = client.ddop.source

variable {u : Uploads} {client : TaskControllerClient}

theorem sound_of_none (h : u.Sound) : (u.afterCall (none, [])).Sound where
  carries := by simpa [afterCall] using h.carries
  client _ heq := absurd heq (Option.some_ne_none _).symm
  ongoing _ heq := absurd heq (Option.some_ne_none _).symm

theorem announcementOf_of_plain {events : List Event} (h : ∀ e ∈ events, e.isPlain) :
    events.filterMap announcementOf = [] := by
  rw [List.filterMap_eq_nil_iff]
  intro e he
  cases e with
  | message frame sent =>
    have hplain := h _ he
    simp only [Event.isPlain, Bool.not_eq_true'] at hplain
    cases sent <;> simp [announcementOf, hplain]
  | _ => rfl

theorem transferOf_of_plain {events : List Event} (h : ∀ e ∈ events, e.isPlain) :
    events.filterMap transferOf = [] := by
  rw [List.filterMap_eq_nil_iff]
  intro e he
  cases e with
  | transfer dataLength sent => exact absurd (h _ he) Bool.false_ne_true
  | _ => rfl

theorem afterCall_cons {event : Event} {added : List Event}
    (hplain : ∀ e ∈ added, e.isPlain) (client' : Option TaskControllerClient) :
    u.afterCall (client', event :: added) =
      { client := client'
        announced := (announcementOf event).or u.announced
        transfers := u.transfers ++ (transferOf event).toList.flatMap fun dataLength =>
          u.client.toList.map fun client => ⟨client, u.announced, dataLength, true, []⟩ } := by
  have hannouncement : ((event :: added).filterMap announcementOf).getLast? =
      announcementOf event := by
    rw [List.filterMap_cons, announcementOf_of_plain hplain]
    cases announcementOf event <;> rfl
  have htransfer : (event :: added).filterMap transferOf = (transferOf event).toList := by
    rw [List.filterMap_cons, transferOf_of_plain hplain]
    cases transferOf event <;> rfl
  rw [afterCall, hannouncement, htransfer]

theorem sound_withClient {client' : TaskControllerClient} (h : u.Sound)
    (hsound : client'.Sound u.announced)
    (hongoing : ∀ transfer ∈ u.transfers, transfer.ongoing → client'.ddop.Announceable ∧
      transfer.client.ddop.source = client'.ddop.source) :
    Sound { u with client := some client' } := by
  refine ⟨h.carries, ?_, ?_⟩
  · rintro _ ⟨rfl⟩
    exact hsound
  · rintro _ ⟨rfl⟩
    exact hongoing

theorem sound_of_plain {turn : Turn} (h : u.Sound) (hplain : ∀ e ∈ turn.events, e.isPlain)
    (hsound : turn.client.Sound u.announced)
    (hongoing : ∀ transfer ∈ u.transfers, transfer.ongoing → turn.client.ddop.Announceable ∧
      transfer.client.ddop.source = turn.client.ddop.source) :
    (u.afterCall (some turn.client, turn.events)).Sound := by
  have hafter : u.afterCall (some turn.client, turn.events) =
      { u with client := some turn.client } := by
    simp [afterCall, announcementOf_of_plain hplain, transferOf_of_plain hplain]
  rw [hafter]
  exact sound_withClient h hsound hongoing

theorem sound_of_receives {message : CANMessage} {turn : Turn} (h : u.Sound)
    (hclient : u.client = some client) (hreceives : Turn.Receives message ⟨client, []⟩ turn)
    (htold : TellsVersion message → client.StaysCurrent (message.getUint8At 1)) :
    (u.afterCall (some turn.client, turn.events)).Sound := by
  obtain ⟨added, hadded, hplain⟩ := hreceives.events
  refine sound_of_plain h ?_ (hreceives.sound (h.client client hclient) htold) ?_
  · rw [hadded]
    exact hplain
  · rw [hreceives.ddop]
    exact h.ongoing client hclient

theorem sound_of_passes {turn : Turn} (h : u.Sound) (hclient : u.client = some client)
    (hpasses : Turn.Passes ⟨client, []⟩ turn) :
    (u.afterCall (some turn.client, turn.events)).Sound := by
  obtain ⟨added, hadded, hplain⟩ := hpasses.events
  refine sound_of_plain h ?_ (hpasses.sound (h.client client hclient)) ?_
  · rw [hadded]
    exact hplain
  · rw [hpasses.ddop]
    exact h.ongoing client hclient

theorem sound_of_supply {turn : Turn} (supplied : SuppliedDDOP) (ddop : DDOP) (h : u.Sound)
    (hnone : ∀ transfer ∈ u.transfers, transfer.ongoing = false)
    (hevents : turn.events = []) (hddop : turn.client.ddop = supplied.supply ddop)
    (hstate : turn.client.currentState.isAnnounced = false) :
    (u.afterCall (some turn.client, turn.events)).Sound := by
  refine sound_of_plain h (by simp [hevents]) ⟨?_, ?_, ?_⟩ fun transfer hmem hongoing => ?_
  · rw [hddop]
    exact SuppliedDDOP.consistent_supply ddop
  · intro _ _ hne
    rw [hddop] at hne
    exact absurd (SuppliedDDOP.generated_supply ddop) hne
  · rw [hstate]
    exact fun heq => absurd heq Bool.false_ne_true
  · exact absurd (hnone transfer hmem) (by simp [hongoing])

variable {env : Environment} {turn prepared processed : Turn}

theorem sound_of_processes (h : u.Sound) (hclient : u.client = some client)
    (hprepared : Turn.Passes ⟨client, []⟩ prepared) (hevents : prepared.events = [])
    (hprocesses : Turn.Processes prepared processed) (hafter : Turn.Passes processed turn) :
    (u.afterCall (some turn.client, turn.events)).Sound := by
  obtain ⟨added, hadded, hplain⟩ := hprocesses.events
  obtain ⟨added', hadded', hplain'⟩ := hafter.events
  have hprocessed : processed.client.Sound u.announced :=
    ⟨hprocesses.consistent, hprocesses.current, fun heq =>
      absurd heq (by simp [hprocesses.announced])⟩
  refine sound_of_plain h ?_ (hafter.sound hprocessed) fun transfer hmem hongoing => ?_
  · rw [hadded', hadded, hevents]
    intro e he
    exact (List.mem_append.mp he).elim (hplain e) (hplain' e)
  · obtain ⟨hannounceable, hsource⟩ := h.ongoing client hclient transfer hmem hongoing
    rw [← hprepared.ddop] at hannounceable hsource
    obtain ⟨hannounceable', hsource'⟩ := hprocesses.source hannounceable
    rw [hafter.ddop]
    exact ⟨hannounceable', hsource.trans hsource'.symm⟩

theorem sound_of_request (h : u.Sound) (hclient : u.client = some client)
    (hprepared : Turn.Passes ⟨client, []⟩ prepared) (hevents : prepared.events = [])
    (hstate : prepared.client.currentState = .sendRequestTransferObjectPool)
    (hannounceable : client.ddop.Announceable)
    (hprocessed : prepared.attempt env prepared.client.requestObjectPoolTransfer
      .waitForRequestTransferObjectPoolResponse = processed)
    (hafter : Turn.Passes processed turn) :
    (u.afterCall (some turn.client, turn.events)).Sound := by
  have hsound := hprepared.sound (h.client client hclient)
  have hongoing := h.ongoing client hclient
  rw [← hprepared.ddop] at hannounceable
  have hdata : prepared.client.requestObjectPoolTransfer.data =
      announcement prepared.client.ddop.source.length := by
    rw [← TaskControllerClient.announcedSize_eq hsound.consistent hannounceable]
    rfl
  unfold Turn.attempt at hprocessed
  split_ifs at hprocessed with hsent
  · subst hprocessed
    obtain ⟨added, hadded, hplain⟩ := hafter.events
    have hoffered : turn.events =
        .message prepared.client.requestObjectPoolTransfer true :: added := by
      rw [hadded]
      simp [Turn.setState, Turn.map, Turn.offer, Turn.emit, hevents, hsent]
    have hannouncement : announcementOf (.message prepared.client.requestObjectPoolTransfer true) =
        some (announcement prepared.client.ddop.source.length) := by
      rw [← hdata]
      rfl
    rw [hoffered, afterCall_cons hplain, hannouncement]
    refine ⟨by simpa [transferOf] using h.carries, ?_, ?_⟩
    · rintro _ ⟨rfl⟩
      refine hafter.sound ⟨?_, ?_, fun _ => ⟨?_, ?_⟩⟩
      · rw [Turn.ddop_setState]
        exact hsound.consistent
      · intro _ hmode hne pool hpool
        rw [Turn.ddop_setState] at hmode hne hpool
        rw [Turn.server_setState]
        exact hsound.current (by rw [hstate]; rfl) hmode hne pool hpool
      · rw [Turn.ddop_setState]
        exact hannounceable
      · rw [Turn.ddop_setState]
        rfl
    · rintro _ ⟨rfl⟩
      have hddop : turn.client.ddop = client.ddop := by
        rw [hafter.ddop, Turn.ddop_setState]
        exact hprepared.ddop
      simpa [hddop, transferOf] using hongoing
  · -- A refused message announces nothing.
    have hfailed := (Turn.passes_awaitResponse TWO_SECOND_TIMEOUT_MS).trans (hprocessed ▸ hafter)
    obtain ⟨added, hadded, hplain⟩ := hfailed.events
    have hoffered : turn.events =
        .message prepared.client.requestObjectPoolTransfer false :: added := by
      rw [hadded]
      simp [Turn.offer, Turn.emit, hevents, hsent]
    rw [hoffered, afterCall_cons hplain]
    refine ⟨by simpa [transferOf] using h.carries, ?_, ?_⟩
    · rintro _ ⟨rfl⟩
      exact hfailed.sound hsound
    · rintro _ ⟨rfl⟩
      have hddop : turn.client.ddop = client.ddop := hfailed.ddop.trans hprepared.ddop
      simpa [hddop, transferOf] using hongoing

theorem sound_of_begin (h : u.Sound) (hclient : u.client = some client)
    (hprepared : Turn.Passes ⟨client, []⟩ prepared) (hevents : prepared.events = [])
    (hbegin : client.currentState = .beginTransferDDOP)
    (hprocessed : prepared.beginTransferDDOP env = some processed)
    (hafter : Turn.Passes processed turn) :
    (u.afterCall (some turn.client, turn.events)).Sound := by
  have hsound := h.client client hclient
  have hprepared' := hprepared.sound hsound
  have hongoing := h.ongoing client hclient
  obtain ⟨hannounceable, hannounced⟩ := hsound.announced (by rw [hbegin]; rfl)
  obtain ⟨dataLength, hlength, h₁⟩ := Option.bind_eq_some_iff.mp hprocessed
  split_ifs at h₁ with hzero hsent
  · cases h₁
    have hpasses := Turn.Passes.trans (Turn.passes_setState_early rfl rfl) hafter
    obtain ⟨added, hadded, hplain⟩ := hpasses.events
    have hoffered : turn.events = .transfer dataLength true :: added := by
      rw [hadded]
      simp [Turn.emit, hevents, hsent]
    have hddop : turn.client.ddop = client.ddop := hpasses.ddop.trans hprepared.ddop
    have hcarries : Transfer.Carries ⟨client, u.announced, dataLength, true, []⟩ := by
      refine ⟨TaskControllerClient.inForce_source hsound.consistent hannounceable hsound.current
        (by rw [hbegin]; rfl), ?_, hannounced, by simp⟩
      have hdata := Turn.transferLength_eq hprepared'.consistent
        (by rw [hprepared.ddop]; exact hannounceable) hlength hzero
      rw [hdata, hprepared.ddop]
    rw [hoffered, afterCall_cons hplain, hclient]
    refine ⟨fun transfer hmem => ?_, ?_, ?_⟩
    · rcases List.mem_append.mp hmem with hold | hnew
      · exact h.carries transfer hold
      · rw [List.mem_singleton.mp hnew]
        exact hcarries
    · rintro _ ⟨rfl⟩
      exact hpasses.sound hprepared'
    · rintro _ ⟨rfl⟩ transfer hmem hgoing
      rw [hddop]
      rcases List.mem_append.mp hmem with hold | hnew
      · exact hongoing transfer hold hgoing
      · rw [List.mem_singleton.mp hnew]
        exact ⟨hannounceable, rfl⟩
  · cases h₁
    have hpasses := (Turn.passes_awaitResponse TWO_SECOND_TIMEOUT_MS).trans hafter
    obtain ⟨added, hadded, hplain⟩ := hpasses.events
    have hoffered : turn.events = .transfer dataLength false :: added := by
      rw [hadded]
      simp [Turn.emit, hevents, hsent]
    have hddop : turn.client.ddop = client.ddop := hpasses.ddop.trans hprepared.ddop
    rw [hoffered, afterCall_cons hplain]
    refine ⟨by simpa [transferOf] using h.carries, ?_, ?_⟩
    · rintro _ ⟨rfl⟩
      exact hpasses.sound hprepared'
    · rintro _ ⟨rfl⟩
      simpa [hddop, transferOf] using hongoing

theorem sound_of_update (h : u.Sound) (hclient : u.client = some client)
    (hcareful : u.Careful (.call ⟨env, .update⟩))
    (hupdate : Turn.update env ⟨client, []⟩ = some turn) :
    (u.afterCall (some turn.client, turn.events)).Sound := by
  obtain ⟨hcache, hannounceable⟩ := hcareful client hclient
  obtain ⟨prepared, processed, hprepared, hevents, hsame, hprocessed, hafter⟩ :=
    Turn.update_cases hupdate
  have hsound := hprepared.sound (h.client client hclient)
  by_cases hprocess : client.currentState = .processDDOP
  · have hstate := hsame.trans hprocess
    have hcurrent : prepared.client.CacheIsCurrent := by
      unfold TaskControllerClient.CacheIsCurrent
      rw [hprepared.ddop, hprepared.version]
      exact hcache hprocess
    rw [Turn.processState, hstate] at hprocessed
    change prepared.processDDOP env = some processed at hprocessed
    unfold Turn.processDDOP at hprocessed
    split_ifs at hprocessed with hmode
    · exact sound_of_processes h hclient hprepared hevents
        (Turn.processes_processObjectDDOP hmode hsound.consistent hcurrent hstate hprocessed) hafter
    · exact sound_of_processes h hclient hprepared hevents
        (Turn.processes_processBinaryDDOP hmode hsound.consistent hprocessed) hafter
  by_cases hrequest : client.currentState = .sendRequestTransferObjectPool
  · have hstate := hsame.trans hrequest
    rw [Turn.processState, hstate] at hprocessed
    exact sound_of_request h hclient hprepared hevents hstate (hannounceable hrequest)
      (Option.some.inj hprocessed) hafter
  by_cases hbegin : client.currentState = .beginTransferDDOP
  · have hstate := hsame.trans hbegin
    rw [Turn.processState, hstate] at hprocessed
    exact sound_of_begin h hclient hprepared hevents hbegin hprocessed hafter
  · have hpasses := Turn.passes_processState (fun heq => hprocess (hsame.symm.trans heq))
      (fun heq => hrequest (hsame.symm.trans heq)) (fun heq => hbegin (hsame.symm.trans heq))
      hprocessed
    exact sound_of_passes h hclient ((hprepared.trans hpasses).trans hafter)

theorem sound_of_call (h : u.Sound) (hclient : u.client = some client) {call : Call}
    (htransport : call.isTransport = false) (hcareful : u.Careful (.call ⟨env, call⟩))
    (hserve : Turn.serve env ⟨client, []⟩ call = some turn) :
    (u.afterCall (some turn.client, turn.events)).Sound := by
  cases call with
  | initializeClient =>
    cases hserve
    exact sound_of_passes h hclient Turn.passes_initializeClient
  | terminate =>
    cases hserve
    exact sound_of_passes h hclient Turn.passes_terminate
  | restart =>
    cases hserve
    exact sound_of_passes h hclient Turn.passes_restart
  | setDistance distance =>
    cases hserve
    exact sound_of_passes h hclient (Turn.passes_setDistance distance)
  | onValueChangedTrigger elementNumber ddi =>
    cases hserve
    exact sound_of_passes h hclient (Turn.passes_queue _)
  | requestTaskControllerIdentification =>
    cases hserve
    exact sound_of_passes h hclient Turn.passes_requestTaskControllerIdentification
  | receive message =>
    cases hserve
    exact sound_of_receives h hclient Turn.receives_receive (hcareful client hclient)
  | update => exact sound_of_update h hclient hcareful hserve
  | configure ddop options =>
    change Turn.configure ⟨client, []⟩ ddop options = some turn at hserve
    unfold Turn.configure at hserve
    split_ifs at hserve with hstate
    · have hnone := hcareful client hclient hstate
      split at hserve
      · cases hserve
      · cases hserve
        refine sound_of_supply client.ddop ddop h hnone rfl rfl ?_
        change client.currentState.isAnnounced = false
        rw [show client.currentState = .disconnected from hstate]
        rfl
    · cases hserve
      exact sound_of_passes h hclient (.refl _)
  | reuploadDeviceDescriptorObjectPool ddop =>
    change Turn.reuploadDeviceDescriptorObjectPool env ⟨client, []⟩ ddop = some turn at hserve
    unfold Turn.reuploadDeviceDescriptorObjectPool at hserve
    split_ifs at hserve with hstate
    · have hnone := hcareful client hclient hstate
      split at hserve
      · cases hserve
      · cases hserve
      · cases hserve
        refine sound_of_supply client.ddop ddop h hnone rfl ?_ ?_
        · simp only [Turn.queue, Turn.map]
          exact Turn.ddop_setState _
        · simp only [Turn.queue, Turn.map]
          exact congrArg _ (Turn.currentState_setState _)
    · cases hserve
      exact sound_of_passes h hclient (.refl _)
  | processTxCallback successful => exact absurd htransport (by simp [Call.isTransport])
  | processInternalObjectPoolUploadCallback bytesOffset numberOfBytesNeeded =>
    exact absurd htransport (by simp [Call.isTransport])

/-! The transport protocol -/

variable {index : Nat}

theorem mem_updateTransfer {change : Transfer → Transfer} {transfer : Transfer}
    (h : transfer ∈ (u.updateTransfer index change).transfers) :
    transfer ∈ u.transfers ∨
      ∃ transfer', u.transfers[index]? = some transfer' ∧ transfer = change transfer' := by
  obtain ⟨i, hi⟩ := List.mem_iff_getElem?.mp h
  rw [updateTransfer, List.getElem?_modify] at hi
  obtain ⟨transfer', htransfer', heq⟩ := Option.map_eq_some_iff.mp hi
  split_ifs at heq with hindex
  · exact .inr ⟨transfer', hindex ▸ htransfer', heq.symm⟩
  · exact .inl (heq ▸ List.mem_of_getElem? htransfer')

theorem sound_of_updateTransfer {change : Transfer → Transfer} (h : u.Sound)
    (hcarries : ∀ transfer, u.transfers[index]? = some transfer → (change transfer).Carries)
    (hclient : ∀ transfer, (change transfer).client = transfer.client)
    (hongoing : ∀ transfer, (change transfer).ongoing → transfer.ongoing) :
    (u.updateTransfer index change).Sound := by
  refine ⟨fun transfer hmem => ?_, h.client, fun client heq transfer hmem hgoing => ?_⟩
  · rcases mem_updateTransfer hmem with hold | ⟨transfer', hat, rfl⟩
    · exact h.carries transfer hold
    · exact hcarries transfer' hat
  · rcases mem_updateTransfer hmem with hold | ⟨transfer', hat, rfl⟩
    · exact h.ongoing client heq transfer hold hgoing
    · rw [hclient]
      exact h.ongoing client heq transfer' (List.mem_of_getElem? hat) (hongoing _ hgoing)

theorem sound_of_chunk (h : u.Sound) {bytesOffset numberOfBytesNeeded : UInt32}
    {transfer : Transfer} (hclient : u.client = some client)
    (hat : u.transfers[index]? = some transfer)
    (hwithin : transfer.asksWithin bytesOffset numberOfBytesNeeded) :
    ∃ bytes, Turn.processInternalObjectPoolUploadCallback ⟨client, []⟩ bytesOffset
        numberOfBytesNeeded =
          some (Turn.emit ⟨client, []⟩ (.chunk bytesOffset numberOfBytesNeeded (some bytes))) ∧
      bytes = ((OBJECT_POOL_TRANSFER :: transfer.client.ddop.source).drop bytesOffset.toNat).take
        numberOfBytesNeeded.toNat := by
  simp only [Transfer.asksWithin, Bool.and_eq_true, decide_eq_true_eq] at hwithin
  obtain ⟨⟨hgoing, hne⟩, hbound⟩ := hwithin
  have hmem := List.mem_of_getElem? hat
  obtain ⟨hannounceable, hsource⟩ := h.ongoing client hclient transfer hmem hgoing
  have hlength := (h.carries transfer hmem).length
  have hlt := transfer.dataLength.toNat_lt
  rw [hsource] at hlength
  have hsize : client.ddop.source.length + 1 < 2 ^ 32 := hlength ▸ hlt
  rw [hlength] at hbound
  refine ⟨_, ?_, rfl⟩
  rw [hsource]
  exact Turn.processInternalObjectPoolUploadCallback_eq (h.client client hclient).consistent
    hannounceable hne hbound hsize

theorem sound_next (h : u.Sound) (input : UploadInput) (hcareful : u.Careful input) :
    (uploads.next u input).Sound := by
  cases input with
  | call input =>
    obtain ⟨env, call⟩ := input
    simp only [Machine.next, uploads]
    split_ifs with htransport
    · exact h
    · cases hclient : u.client with
      | none => exact sound_of_none h
      | some client =>
        simp only [taskControllerClient]
        cases hserve : Turn.serve env ⟨client, []⟩ call with
        | none => exact sound_of_none h
        | some turn =>
          exact sound_of_call h hclient (Bool.eq_false_iff.mpr htransport) hcareful hserve
  | chunk env index bytesOffset numberOfBytesNeeded =>
    simp only [Machine.next, uploads]
    split_ifs with hasked
    · obtain ⟨hsome, hwithin⟩ := Bool.and_eq_true_iff.mp hasked
      obtain ⟨client, hclient⟩ := Option.isSome_iff_exists.mp hsome
      obtain ⟨transfer, hat, hwithin⟩ := (Option.any_eq_true _ _).mp hwithin
      obtain ⟨bytes, hserve, hbytes⟩ := sound_of_chunk h hclient hat hwithin
      have hstep : taskControllerClient.step u.client
          ⟨env, .processInternalObjectPoolUploadCallback bytesOffset numberOfBytesNeeded⟩ =
            (u.client, [.chunk bytesOffset numberOfBytesNeeded (some bytes)]) := by
        rw [hclient]
        simp only [taskControllerClient, Turn.serve, hserve]
        rfl
      rw [hstep]
      refine sound_of_updateTransfer (u := u) h ?_ (fun _ => rfl) fun _ hgoing => hgoing
      intro transfer' hat'
      obtain rfl := Option.some.inj (hat.symm.trans hat')
      obtain ⟨hforce, hlength, hannounced, hanswers⟩ :=
        h.carries transfer (List.mem_of_getElem? hat)
      refine ⟨hforce, hlength, hannounced, fun answer hmem => ?_⟩
      rcases List.mem_append.mp hmem with hold | hnew
      · exact hanswers answer hold
      · rw [List.mem_singleton.mp hnew]
        exact congrArg some hbytes
    · exact h
  | finished env index successful =>
    simp only [Machine.next, uploads]
    split_ifs with hgoing
    · have hclosed (u' : Uploads) (h' : u'.Sound) :
          (u'.updateTransfer index fun transfer => { transfer with ongoing := false }).Sound := by
        refine sound_of_updateTransfer h' (fun transfer hat => ?_) (fun _ => rfl)
          fun _ hopen => absurd hopen Bool.false_ne_true
        obtain ⟨hforce, hlength, hannounced, hanswers⟩ :=
          h'.carries transfer (List.mem_of_getElem? hat)
        exact ⟨hforce, hlength, hannounced, hanswers⟩
      apply hclosed
      cases hclient : u.client with
      | none =>
        exact ⟨h.carries, fun _ heq => absurd heq (Option.some_ne_none _).symm,
          fun _ heq => absurd heq (Option.some_ne_none _).symm⟩
      | some client =>
        have hpasses : Turn.Passes ⟨client, []⟩
            (Turn.processTxCallback env ⟨client, []⟩ successful) :=
          Turn.passes_processTxCallback successful
        refine sound_withClient h (hpasses.sound (h.client client hclient)) ?_
        rw [hpasses.ddop]
        exact h.ongoing client hclient
    · exact h

/-- As long as the device descriptor is announced only in a form whose size is known, a generated
form is made for the server, and nothing is supplied during a transfer, every transfer is exact. -/
theorem transfers_exact {this : PointerRef} {partner my : CFRef} {primaryVT : Option CFRef}
    {inputs : List UploadInput}
    (h : uploads.Along Careful { client := some (.create this partner my primaryVT) } inputs) :
    ∀ transfer ∈ (uploads.run { client := some (.create this partner my primaryVT) }
      inputs).transfers, transfer.Exact := by
  have hcreated : Sound { client := some (.create this partner my primaryVT) } := by
    refine ⟨fun _ hmem => absurd hmem List.not_mem_nil, ?_, fun _ _ _ hmem =>
      absurd hmem List.not_mem_nil⟩
    rintro _ ⟨rfl⟩
    refine ⟨⟨fun hmode => ?_, fun _ hne => absurd rfl hne⟩, fun hlate => ?_, fun hannounced => ?_⟩
    · cases hmode
    · cases hlate
    · cases hannounced
  have hsound := uploads.run_invariant_along (P := Sound)
    (fun u input (h : u.Sound) (hcareful : u.Careful input) => sound_next h input hcareful)
    hcreated inputs h
  intro transfer hmem
  obtain ⟨hforce, hlength, hannounced, hanswers⟩ := hsound.carries transfer hmem
  exact ⟨_, hforce, hlength, hannounced, hanswers⟩

/-- A device without texts, its labels, and an empty extended label. -/
def emptyDevice : List UInt8 :=
  [0x44, 0x56, 0x43, 0, 0, 0, 0, 1, 2, 3, 4, 5, 6, 7, 8, 0, 0x53, 0x31, 0x20, 0x20, 0x20, 0x20,
    0x20, 0x65, 0x6E, 0, 0, 0, 0, 0xFF, 0]

def callAt (now : UInt32) (call : Call) : UploadInput := .call ⟨quietAt now, call⟩

def told (now : UInt32) (data : List UInt8) : UploadInput :=
  callAt now (.receive (processDataFrom 0 data))

/-- From the start of the client to the first piece of the transfer: the server knows version 4, has
no label of the client and enough memory. -/
def uploadOf (ddop : DDOP) : List UploadInput :=
  [callAt 0 (.configure ddop {}), callAt 0 .initializeClient, callAt 0 .update, callAt 6000 .update,
    told 6000 [0xFE, 0xFF, 0xFF, 0xFF, 0, 0, 0, 0], callAt 6000 .update, callAt 6000 .update,
    callAt 6000 .update, told 6000 [0x10, 4, 0, 0, 0, 0, 0, 0],
    told 6000 [0x00, 0xFF, 0xFF, 0xFF, 0xFF, 0xFF, 0xFF, 0xFF], callAt 6000 .update,
    callAt 6000 .update, callAt 12000 .update, callAt 12000 .update, callAt 12000 .update,
    told 12000 [0x11, 0xFF, 0xFF, 0xFF, 0xFF, 0xFF, 0xFF, 0xFF], callAt 12000 .update,
    told 12000 [0x51, 0, 0xFF, 0xFF, 0xFF, 0xFF, 0xFF, 0xFF], callAt 12000 .update,
    .chunk (quietAt 12000) 0 0 7, .chunk (quietAt 12000) 0 7 7]

/-- The vector is transferred although nothing was announced. -/
theorem vector_not_exact :
    ¬∀ transfer ∈ (uploads.run { client := some (.create 0 0 1 none) }
      (uploadOf (.vector emptyDevice))).transfers, transfer.Exact := by
  intro hexact
  have hrun : (uploads.run { client := some (.create 0 0 1 none) }
      (uploadOf (.vector emptyDevice))).transfers.map (fun transfer =>
        (transfer.client.ddop.ddopUploadMode, transfer.client.ddop.userSuppliedVectorDDOP,
          transfer.announced)) =
      [(.userProvidedVector, some emptyDevice, some (announcement 0))] := by
    decide +kernel
  obtain ⟨transfer, hmem, heq⟩ := List.mem_map.mp (hrun ▸ List.mem_singleton_self _)
  obtain ⟨ddop, hforce, -, hannounced, -⟩ := hexact transfer hmem
  have hmode : transfer.client.ddop.ddopUploadMode = .userProvidedVector := congrArg Prod.fst heq
  have hvector : transfer.client.ddop.userSuppliedVectorDDOP = some emptyDevice :=
    congrArg (·.2.1) heq
  have hnothing : transfer.announced = some (announcement 0) := congrArg (·.2.2) heq
  rw [TaskControllerClient.InForce, hmode] at hforce
  change transfer.client.ddop.binaryDDOP = some ddop at hforce
  rw [SuppliedDDOP.binaryDDOP, if_neg (by rw [hmode]; decide), hvector] at hforce
  rw [hnothing, ← Option.some.inj hforce] at hannounced
  cases hannounced

def pointerOnly (u : Uploads) : UploadInput → Bool
  | .call ⟨_, .configure _ _⟩ => u.transfers.isEmpty
  | .call ⟨_, .reuploadDeviceDescriptorObjectPool _⟩ => false
  | _ => u.client.all fun client => client.ddop.ddopUploadMode = .userProvidedBinaryPointer

theorem careful_of_pointerOnly (u : Uploads) (input : UploadInput) (h : pointerOnly u input) :
    u.Careful input := by
  cases input with
  | call input =>
    obtain ⟨env, call⟩ := input
    intro client hclient
    have hpointer (hall : u.client.all fun client =>
        client.ddop.ddopUploadMode = .userProvidedBinaryPointer) :
        client.ddop.ddopUploadMode = .userProvidedBinaryPointer := by
      simpa [hclient] using hall
    cases call with
    | configure ddop options =>
      intro _ transfer hmem
      rw [List.isEmpty_iff.mp h] at hmem
      cases hmem
    | reuploadDeviceDescriptorObjectPool ddop => cases h
    | update =>
      refine ⟨fun _ hmode => ?_, fun _ => ?_⟩
      · rw [hpointer h] at hmode
        cases hmode
      · rw [SuppliedDDOP.Announceable, hpointer h]
        trivial
    | receive message =>
      intro _ _ hmode
      rw [hpointer h] at hmode
      cases hmode
    | _ => trivial
  | chunk env index bytesOffset numberOfBytesNeeded => trivial
  | finished env index successful => trivial

theorem pointer_exact :
    (uploads.run { client := some (.create 0 0 1 none) }
        (uploadOf (.pointer emptyDevice (by decide)))).transfers.length = 1 ∧
      ∀ transfer ∈ (uploads.run { client := some (.create 0 0 1 none) }
        (uploadOf (.pointer emptyDevice (by decide)))).transfers, transfer.Exact := by
  refine ⟨by decide +kernel, transfers_exact ?_⟩
  exact uploads.along_of_checks careful_of_pointerOnly (by decide +kernel)

end Uploads

end Isobus.TaskClient
