import Isobus.Lib.PackedRows
import Isobus.Nmea2000.MessageDefinitions

/-!
# NMEA 2000 messages and their bytes

When a message is read back from its bytes, when it is read only inside of what was received, and
when the return value tells whether a signal changed.
-/

namespace Isobus.Nmea2000

open Isobus.Can Isobus.Lib

theorem field_and_or (r : BitVec 2) :
    fieldOfByte 2 (((byteOfField r &&& 0x03) ||| 0xFC) &&& 0x03) = r := by
  apply BitVec.eq_of_getLsbD_eq
  intro n hn
  interval_cases n <;> simp [fieldOfByte, byteOfField]

theorem field_or (r : BitVec 2) : fieldOfByte 2 ((byteOfField r ||| 0xFC) &&& 0x03) = r := by
  apply BitVec.eq_of_getLsbD_eq
  intro n hn
  interval_cases n <;> simp [fieldOfByte, byteOfField]

theorem or_field (r : BitVec 2) : fieldOfByte 2 ((0xFC ||| byteOfField r) &&& 0x03) = r := by
  apply BitVec.eq_of_getLsbD_eq
  intro n hn
  interval_cases n <;> simp [fieldOfByte, byteOfField]

theorem nibbles (s m : BitVec 4) :
    let byte := (byteOfField s &&& (0x0F : UInt8)) ||| ((byteOfField m &&& (0x0F : UInt8)) <<< 4)
    fieldOfByte 4 (byte &&& 0x0F) = s ∧ fieldOfByte 4 ((byte >>> 4) &&& 0x0F) = m := by
  constructor <;>
  · apply BitVec.eq_of_getLsbD_eq
    intro n hn
    interval_cases n <;> simp [fieldOfByte, byteOfField]

theorem station_fields (type : BitVec 4) {number : UInt16} (h : number.toNat < 2 ^ 12) :
    let byte := (byteOfField type &&& (0x0F : UInt8)) ||| (((number &&& 0x0F) <<< 4).toUInt8)
    decode16 byte (number >>> 4).toUInt8 >>> 4 = number ∧
      fieldOfByte 4 (byte &&& 0x0F) = type := by
  constructor
  · rw [← UInt16.toBitVec_inj]
    apply BitVec.eq_of_getLsbD_eq
    intro n hn
    have hhigh (hn : 12 ≤ n) : number.toBitVec.getLsbD n = false :=
      Nat.testBit_lt_two_pow (h.trans_le (Nat.pow_le_pow_right (by decide) hn))
    simp [decode16, byteOfField, -UInt16.toUInt16_toUInt8, -UInt8.toUInt16_shiftLeft]
    interval_cases n <;> simp_all
  · apply BitVec.eq_of_getLsbD_eq
    intro n hn
    interval_cases n <;> simp [fieldOfByte, byteOfField]

section Signals

variable {message : CANMessage}

theorem sequenceID_sent {sequenceID : UInt8} :
    (if sequenceID ≤ MAX_SEQUENCE_ID then sequenceID else 0xFF) = sequenceID ↔
      sequenceID ≤ MAX_SEQUENCE_ID ∨ sequenceID = 0xFF := by
  split_ifs with h
  · exact iff_of_true rfl (.inl h)
  · exact ⟨fun heq => .inr heq.symm, fun hor => (hor.resolve_left h).symm⟩

theorem signals_vesselHeading {heading : VesselHeading} (h : message.data = heading.serialize) :
    VesselHeading.signals message = heading ↔
      heading.sequenceID ≤ MAX_SEQUENCE_ID ∨ heading.sequenceID = 0xFF := by
  obtain ⟨identifier, data, source, destination, port, timestamp⟩ := message
  subst h
  rw [← sequenceID_sent, VesselHeading.signals, VesselHeading.mk.injEq]
  constructor
  · rintro ⟨-, -, -, hsequence, -⟩
    exact hsequence
  · intro hsequence
    exact ⟨decode16_byteOf _, congrArg UInt16.toInt16 (decode16_byteOf _),
      congrArg UInt16.toInt16 (decode16_byteOf _), hsequence, field_and_or _⟩

theorem signals_rateOfTurn {rate : RateOfTurn} (h : message.data = rate.serialize) :
    RateOfTurn.signals message = rate ↔
      rate.sequenceID ≤ MAX_SEQUENCE_ID ∨ rate.sequenceID = 0xFF := by
  obtain ⟨identifier, data, source, destination, port, timestamp⟩ := message
  subst h
  rw [← sequenceID_sent, RateOfTurn.signals, RateOfTurn.mk.injEq]
  constructor
  · rintro ⟨-, hsequence⟩
    exact hsequence
  · intro hsequence
    exact ⟨congrArg UInt32.toInt32 (decode32_byteOf _), hsequence⟩

theorem signals_positionRapidUpdate {position : PositionRapidUpdate}
    (h : message.data = position.serialize) : PositionRapidUpdate.signals message = position := by
  obtain ⟨identifier, data, source, destination, port, timestamp⟩ := message
  subst h
  rw [PositionRapidUpdate.signals, PositionRapidUpdate.mk.injEq]
  exact ⟨congrArg UInt32.toInt32 (decode32_byteOf _), congrArg UInt32.toInt32 (decode32_byteOf _)⟩

theorem signals_cogSog {cogSog : CourseOverGroundSpeedOverGroundRapidUpdate}
    (h : message.data = cogSog.serialize) :
    CourseOverGroundSpeedOverGroundRapidUpdate.signals message = cogSog := by
  obtain ⟨identifier, data, source, destination, port, timestamp⟩ := message
  subst h
  rw [CourseOverGroundSpeedOverGroundRapidUpdate.signals,
    CourseOverGroundSpeedOverGroundRapidUpdate.mk.injEq]
  exact ⟨decode16_byteOf _, decode16_byteOf _, rfl, or_field _⟩

theorem signals_datum {datum : Datum} (h : message.data = datum.serialize) :
    Datum.signals message = datum := by
  obtain ⟨identifier, data, source, destination, port, timestamp⟩ := message
  subst h
  rw [Datum.signals, Datum.mk.injEq]
  exact ⟨rfl, rfl, congrArg UInt32.toInt32 (decode32_byteOf _),
    congrArg UInt32.toInt32 (decode32_byteOf _), congrArg UInt32.toInt32 (decode32_byteOf _)⟩

theorem toInt_toInt32 (value : UInt32) :
    value.toInt32.toInt =
      if 2 * value.toNat < 2 ^ 32 then (value.toNat : Int) else value.toNat - 2 ^ 32 :=
  BitVec.toInt_eq_toNat_cond value.toBitVec

theorem delta_iff {delta : Int32} (hlow : -2 ^ 23 ≤ delta.toInt) (hhigh : delta.toInt < 2 ^ 23) :
    (decode24 (byteOf delta.toUInt32 0) (byteOf delta.toUInt32 1)
      (byteOf delta.toUInt32 2)).toInt32 = delta ↔ 0 ≤ delta.toInt := by
  constructor
  · intro hread
    have hlt := decode24_toNat_lt (byteOf delta.toUInt32 0) (byteOf delta.toUInt32 1)
      (byteOf delta.toUInt32 2)
    rw [← hread, toInt_toInt32]
    split_ifs <;> omega
  · intro hnonneg
    have hint := toInt_toInt32 delta.toUInt32
    change delta.toInt = _ at hint
    have hbound := delta.toUInt32.toNat_lt
    have hfits : delta.toUInt32.toNat < 2 ^ 24 := by
      split_ifs at hint <;> omega
    rw [decode24_byteOf _ hfits]
    rfl

theorem signals_positionDelta {delta : PositionDeltaHighPrecisionRapidUpdate}
    (h : message.data = delta.serialize)
    (hlatitude : -2 ^ 23 ≤ delta.latitudeDelta.toInt ∧ delta.latitudeDelta.toInt < 2 ^ 23)
    (hlongitude : -2 ^ 23 ≤ delta.longitudeDelta.toInt ∧ delta.longitudeDelta.toInt < 2 ^ 23) :
    PositionDeltaHighPrecisionRapidUpdate.signals message = delta ↔
      0 ≤ delta.latitudeDelta.toInt ∧ 0 ≤ delta.longitudeDelta.toInt := by
  obtain ⟨identifier, data, source, destination, port, timestamp⟩ := message
  subst h
  rw [← delta_iff hlatitude.1 hlatitude.2, ← delta_iff hlongitude.1 hlongitude.2,
    PositionDeltaHighPrecisionRapidUpdate.signals, PositionDeltaHighPrecisionRapidUpdate.mk.injEq]
  constructor
  · rintro ⟨hlatitude, hlongitude, -, -⟩
    exact ⟨hlatitude, hlongitude⟩
  · rintro ⟨hlatitude, hlongitude⟩
    exact ⟨hlatitude, hlongitude, rfl, rfl⟩

theorem signals_gnssPositionData {position : GNSSPositionData}
    (h : message.data = position.serialize) :
    GNSSPositionData.signals message = { position with
      referenceStations := .replicate position.getNumberOfReferenceStations.toNat {} } := by
  obtain ⟨hsystem, hmethod⟩ := nibbles position.systemType position.method
  simp only [GNSSPositionData.serialize, GNSSPositionData.serializeSignals, bytes16, bytes32,
    bytes64, List.cons_append, List.nil_append] at h
  simp only [GNSSPositionData.signals, getInt16At, getInt32At, getInt64At,
    CANMessage.getUint16At, CANMessage.getUint32At, CANMessage.getUint8At, h, Nat.reduceAdd,
    List.getD_cons_succ, List.getD_cons_zero, decode16_byteOf, decode32_byteOf, decode64_byteOf64,
    hsystem, hmethod, field_or]
  rfl

end Signals

def listedStations (message : CANMessage) : List ReferenceStationData :=
  (List.range (message.getUint8At 42).toNat).map fun i =>
    .ofMessage message (GNSSPositionData.stationIndex i)

def ListsAll (message : CANMessage) : Prop :=
  GNSSPositionData.stationIndex (message.getUint8At 42).toNat ≤ message.data.length

instance decidableListsAll (message : CANMessage) : Decidable (ListsAll message) :=
  inferInstanceAs (Decidable (_ ≤ _))

namespace GNSSPositionData

variable {message : CANMessage}

theorem stationIndex_succ (i : Nat) : stationIndex (i + 1) = stationIndex i + 4 := by
  rw [stationIndex, stationIndex]
  omega

theorem set_append_replicate {α : Type} (l : List α) (a b : α) (n : Nat) :
    (l ++ List.replicate (n + 1) a).set l.length b = (l ++ [b]) ++ List.replicate n a := by
  rw [List.set_append_right _ _ le_rfl, Nat.sub_self, List.replicate_succ, List.set_cons_zero,
    List.append_assoc]
  rfl

theorem readReferenceStations_of_le (i remaining : Nat)
    (h : stationIndex (i + remaining) ≤ message.data.length) :
    readReferenceStations message
        ((List.range i).map (fun i => .ofMessage message (stationIndex i)) ++
          .replicate remaining {}) i remaining =
      ((List.range (i + remaining)).map fun i => .ofMessage message (stationIndex i), false) := by
  induction remaining generalizing i with
  | zero => rw [readReferenceStations, List.replicate_zero, List.append_nil, Nat.add_zero]
  | succ remaining ih =>
    have hnext : stationIndex i + 4 ≤ message.data.length := by
      rw [stationIndex] at h ⊢
      omega
    have hset := set_append_replicate
      ((List.range i).map fun i => ReferenceStationData.ofMessage message (stationIndex i)) {}
      (.ofMessage message (stationIndex i)) remaining
    rw [List.length_map, List.length_range] at hset
    have hsucc : i + (remaining + 1) = i + 1 + remaining := by omega
    rw [hsucc] at h ⊢
    rw [readReferenceStations, if_pos (by omega), if_pos (by omega), hset]
    simpa only [List.range_succ, List.map_append, List.map_cons, List.map_nil] using ih (i + 1) h

theorem readReferenceStations_of_lt (stations : List ReferenceStationData) (i remaining : Nat)
    (hstart : stationIndex i ≤ message.data.length)
    (h : message.data.length < stationIndex (i + remaining)) :
    (readReferenceStations message stations i remaining).2 = true := by
  induction remaining generalizing stations i with
  | zero =>
    rw [Nat.add_zero] at h
    omega
  | succ remaining ih =>
    rw [readReferenceStations, if_pos hstart]
    split_ifs with hread
    · apply ih
      · rw [stationIndex_succ]
        omega
      · have hsucc : i + 1 + remaining = i + (remaining + 1) := by omega
        rwa [hsucc]
    · rfl

theorem readReferenceStations_signals (hlists : ListsAll message) :
    readReferenceStations message (signals message).referenceStations 0
        (signals message).referenceStations.length = (listedStations message, false) := by
  rw [signals, List.length_replicate]
  have hall : stationIndex (0 + (message.getUint8At 42).toNat) ≤ message.data.length := by
    rwa [Nat.zero_add]
  have hread := readReferenceStations_of_le 0 _ hall
  rwa [Nat.zero_add] at hread

variable {position : GNSSPositionData}

theorem length_station (station : ReferenceStationData) : station.serialize.length = 4 := rfl

theorem toNat_getNumberOfReferenceStations (h : position.referenceStations.length ≤ 255) :
    position.getNumberOfReferenceStations.toNat = position.referenceStations.length := by
  rw [getNumberOfReferenceStations, UInt8.toNat_ofNat']
  omega

theorem serialize_eq (h : position.referenceStations.length ≤ 255) :
    position.serialize = position.serializeSignals ++
      position.referenceStations.flatMap ReferenceStationData.serialize := by
  rw [serialize, toNat_getNumberOfReferenceStations h, List.take_length]

theorem toNat_getUint8At_number (hsent : message.data = position.serialize)
    (h : position.referenceStations.length ≤ 255) :
    (message.getUint8At 42).toNat = position.referenceStations.length := by
  have hlength := congrArg (fun read => read.referenceStations.length)
    (signals_gnssPositionData hsent)
  rw [← toNat_getNumberOfReferenceStations h]
  simpa only [signals, List.length_replicate] using hlength

theorem getUint8At_station (hsent : message.data = position.serialize)
    (h : position.referenceStations.length ≤ 255) {i j : Nat}
    (hi : i < position.referenceStations.length) (hj : j < 4) :
    message.getUint8At (stationIndex i + j) = position.referenceStations[i].serialize.getD j 0 := by
  have hsignals : position.serializeSignals.length = MINIMUM_LENGTH_BYTES := rfl
  have hsub : stationIndex i + j - MINIMUM_LENGTH_BYTES = i * 4 + j := by
    rw [stationIndex]
    omega
  have hdiv : (i * 4 + j) / 4 = i := by omega
  have hmod : (i * 4 + j) % 4 = j := by omega
  have hstart : MINIMUM_LENGTH_BYTES ≤ stationIndex i + j := by
    rw [stationIndex]
    omega
  rw [CANMessage.getUint8At, hsent, serialize_eq h,
    List.getD_eq_getElem?_getD, List.getElem?_append_right (by rwa [hsignals]), hsignals, hsub,
    getElem?_flatMap (by decide) length_station, hdiv, hmod, List.getElem?_eq_getElem hi,
    Option.bind_some, List.getD_eq_getElem?_getD]

theorem ofMessage_station (hsent : message.data = position.serialize)
    (h : position.referenceStations.length ≤ 255) {i : Nat}
    (hi : i < position.referenceStations.length)
    (hwidth : position.referenceStations[i].stationID.toNat < 2 ^ 12) :
    ReferenceStationData.ofMessage message (stationIndex i) = position.referenceStations[i] := by
  obtain ⟨hnumber, htype⟩ := station_fields position.referenceStations[i].stationType hwidth
  have hfirst := getUint8At_station hsent h hi (by decide : 0 < 4)
  have hsecond := getUint8At_station hsent h hi (by decide : 1 < 4)
  have hthird := getUint8At_station hsent h hi (by decide : 2 < 4)
  have hfourth := getUint8At_station hsent h hi (by decide : 3 < 4)
  rw [Nat.add_zero] at hfirst
  rw [ReferenceStationData.ofMessage, CANMessage.getUint16At, CANMessage.getUint16At,
    Nat.add_comm 2, hfirst, hsecond, hthird, hfourth]
  exact (ReferenceStationData.mk.injEq ..).mpr ⟨hnumber, htype, decode16_byteOf _⟩

theorem listedStations_sent (hsent : message.data = position.serialize)
    (h : position.referenceStations.length ≤ 255)
    (hwidth : ∀ station ∈ position.referenceStations, station.stationID.toNat < 2 ^ 12) :
    listedStations message = position.referenceStations := by
  apply List.ext_getElem
  · rw [listedStations, List.length_map, List.length_range, toNat_getUint8At_number hsent h]
  · intro i hi hstation
    simp only [listedStations, List.getElem_map, List.getElem_range]
    exact ofMessage_station hsent h hstation (hwidth _ (List.getElem_mem hstation))

theorem listsAll_sent (hsent : message.data = position.serialize)
    (h : position.referenceStations.length ≤ 255) : ListsAll message := by
  rw [ListsAll, toNat_getUint8At_number hsent h, hsent, serialize_eq h, List.length_append,
    length_flatMap length_station, stationIndex, Nat.mul_comm]
  rfl

end GNSSPositionData

namespace MessageClass

/-- The fields are within their width on the wire, and there are as many stations as can be
counted. -/
def Fits : (kind : MessageClass) → kind.Data → Prop
  | gnssPositionData => fun (position : GNSSPositionData) =>
    position.referenceStations.length ≤ 255 ∧
      ∀ station ∈ position.referenceStations, station.stationID.toNat < 2 ^ 12
  | positionDeltaHighPrecisionRapidUpdate =>
    fun (delta : PositionDeltaHighPrecisionRapidUpdate) =>
      (-2 ^ 23 ≤ delta.latitudeDelta.toInt ∧ delta.latitudeDelta.toInt < 2 ^ 23) ∧
        -2 ^ 23 ≤ delta.longitudeDelta.toInt ∧ delta.longitudeDelta.toInt < 2 ^ 23
  | _ => fun _ => True

/-- The sequence ID is not one of the special ones that are not sent, and no delta has a sign. -/
def Representable : (kind : MessageClass) → kind.Data → Prop
  | positionDeltaHighPrecisionRapidUpdate =>
    fun (delta : PositionDeltaHighPrecisionRapidUpdate) =>
      0 ≤ delta.latitudeDelta.toInt ∧ 0 ≤ delta.longitudeDelta.toInt
  | rateOfTurn => fun (rate : RateOfTurn) =>
    rate.sequenceID ≤ MAX_SEQUENCE_ID ∨ rate.sequenceID = 0xFF
  | vesselHeading => fun (heading : VesselHeading) =>
    heading.sequenceID ≤ MAX_SEQUENCE_ID ∨ heading.sequenceID = 0xFF
  | _ => fun _ => True

def Complete (kind : MessageClass) (message : CANMessage) : Prop :=
  kind = gnssPositionData → GNSSPositionData.MINIMUM_LENGTH_BYTES ≤ message.data.length →
    ListsAll message

/-- Stations are listed exactly if they are others than before, unless another signal changed. -/
def Told : (kind : MessageClass) → CANMessage → Received kind.Data → Prop
  | gnssPositionData => fun message (old : Received GNSSPositionData) =>
    GNSSPositionData.MINIMUM_LENGTH_BYTES ≤ message.data.length →
      (GNSSPositionData.signals message).withStations old.data.referenceStations = old.data →
      (listedStations message ≠ [] ↔ listedStations message ≠ old.data.referenceStations)
  | _ => fun _ _ => True

variable (kind : MessageClass) (now : UInt32) (message : CANMessage) (old : Received kind.Data)

def RoundTrips (data : kind.Data) (sent : CANMessage) : Prop :=
  (kind.deserialize now sent old).received.data = data

def ReadsInside : Prop := (kind.deserialize now message old).thrown = false

def TellsChange : Prop :=
  (kind.deserialize now message old).thrown = false →
    ((kind.deserialize now message old).changed = true ↔
      (kind.deserialize now message old).received.data ≠ old.data)

end MessageClass

section Fixed

variable {δ : Type} [DecidableEq δ] (wellFormed : Bool) (timestamp : UInt32) (signals : δ)
  (old : Received δ)

theorem thrown_deserializeSignals :
    (deserializeSignals wellFormed timestamp signals old).thrown = false := by
  rw [deserializeSignals]
  split_ifs <;> rfl

theorem data_deserializeSignals (h : wellFormed = true) :
    (deserializeSignals wellFormed timestamp signals old).received.data = signals := by
  rw [deserializeSignals, if_pos h]

theorem changed_deserializeSignals :
    (deserializeSignals wellFormed timestamp signals old).changed = true ↔
      (deserializeSignals wellFormed timestamp signals old).received.data ≠ old.data := by
  rw [deserializeSignals]
  split_ifs
  · exact decide_eq_true_iff
  · exact iff_of_false id fun h => h rfl

end Fixed

namespace GNSSPositionData

variable {message : CANMessage} (now : UInt32) (old : Received GNSSPositionData)

theorem deserialize_of_short (h : message.data.length < MINIMUM_LENGTH_BYTES) :
    deserialize now message old = { received := old } := by
  rw [deserialize, if_neg (not_le.mpr h)]

theorem deserialize_of_listsAll (hlong : MINIMUM_LENGTH_BYTES ≤ message.data.length)
    (hlists : ListsAll message) :
    deserialize now message old =
      { received := ⟨now, (signals message).withStations (listedStations message)⟩
        changed := (signals message).withStations old.data.referenceStations ≠ old.data ||
          (signals message).referenceStations.length ≠ 0 } := by
  rw [deserialize, if_pos hlong]
  simp only [readReferenceStations_signals hlists, Bool.false_eq_true, if_false]

theorem thrown_deserialize_iff :
    (deserialize now message old).thrown = false ↔
      (MINIMUM_LENGTH_BYTES ≤ message.data.length → ListsAll message) := by
  obtain hshort | hlong := lt_or_ge message.data.length MINIMUM_LENGTH_BYTES
  · rw [deserialize_of_short now old hshort]
    exact iff_of_true rfl fun h => absurd h (not_le.mpr hshort)
  · by_cases hlists : ListsAll message
    · rw [deserialize_of_listsAll now old hlong hlists]
      exact iff_of_true rfl fun _ => hlists
    · have hthrown := readReferenceStations_of_lt (signals message).referenceStations 0
        (signals message).referenceStations.length hlong (by
          rw [Nat.zero_add, signals, List.length_replicate]
          exact not_le.mp hlists)
      have hthrows : (deserialize now message old).thrown = true := by
        rw [deserialize, if_pos hlong]
        exact hthrown
      rw [hthrows]
      exact iff_of_false (Ne.symm Bool.false_ne_true) fun h => hlists (h hlong)

theorem length_referenceStations_ne_zero :
    (signals message).referenceStations.length ≠ 0 ↔ listedStations message ≠ [] := by
  rw [signals, listedStations, List.length_replicate, ne_eq, ne_eq, List.map_eq_nil_iff,
    List.range_eq_nil]

theorem withStations_inj {position : GNSSPositionData} {stations : List ReferenceStationData}
    {old : GNSSPositionData} (h : position.withStations old.referenceStations = old) :
    position.withStations stations = old ↔ stations = old.referenceStations := by
  constructor
  · intro heq
    rw [← heq]
    rfl
  · intro heq
    rw [heq, h]

theorem changed_deserialize_iff (hlong : MINIMUM_LENGTH_BYTES ≤ message.data.length)
    (hlists : ListsAll message) :
    ((deserialize now message old).changed = true ↔
        (deserialize now message old).received.data ≠ old.data) ↔
      ((signals message).withStations old.data.referenceStations = old.data →
        (listedStations message ≠ [] ↔
          listedStations message ≠ old.data.referenceStations)) := by
  rw [deserialize_of_listsAll now old hlong hlists]
  simp only [Bool.or_eq_true, decide_eq_true_iff, length_referenceStations_ne_zero]
  by_cases hsame : (signals message).withStations old.data.referenceStations = old.data
  · simp only [hsame, ne_eq, not_true_eq_false, false_or, true_imp_iff, withStations_inj hsame]
  · have hother : (signals message).withStations (listedStations message) ≠ old.data := by
      intro heq
      apply hsame
      rw [← heq]
      rfl
    exact iff_of_true (iff_of_true (.inl hsame) hother) fun heq => absurd heq hsame

end GNSSPositionData

namespace MessageClass

variable {kind : MessageClass} {message sent : CANMessage}

theorem readsInside_iff (now : UInt32) (old : Received kind.Data) :
    kind.ReadsInside now message old ↔ kind.Complete message := by
  cases kind with
  | gnssPositionData =>
    exact (GNSSPositionData.thrown_deserialize_iff now old).trans (imp_iff_right rfl).symm
  | courseOverGroundSpeedOverGroundRapidUpdate =>
    exact iff_of_true (thrown_deserializeSignals _ _ _ _) fun h => absurd h (by decide)
  | datum => exact iff_of_true (thrown_deserializeSignals _ _ _ _) fun h => absurd h (by decide)
  | positionDeltaHighPrecisionRapidUpdate =>
    exact iff_of_true (thrown_deserializeSignals _ _ _ _) fun h => absurd h (by decide)
  | positionRapidUpdate =>
    exact iff_of_true (thrown_deserializeSignals _ _ _ _) fun h => absurd h (by decide)
  | rateOfTurn =>
    exact iff_of_true (thrown_deserializeSignals _ _ _ _) fun h => absurd h (by decide)
  | vesselHeading =>
    exact iff_of_true (thrown_deserializeSignals _ _ _ _) fun h => absurd h (by decide)

theorem tellsChange_iff (now : UInt32) (old : Received kind.Data)
    (hcomplete : kind.Complete message) :
    kind.TellsChange now message old ↔ kind.Told message old := by
  cases kind with
  | gnssPositionData =>
    obtain hshort | hlong := lt_or_ge message.data.length GNSSPositionData.MINIMUM_LENGTH_BYTES
    · have hsame := GNSSPositionData.deserialize_of_short now old hshort
      apply iff_of_true
      · intro _
        rw [MessageClass.deserialize, hsame]
        exact iff_of_false Bool.false_ne_true fun h => h rfl
      · exact fun hlong => absurd hlong (not_le.mpr hshort)
    · have hlists := hcomplete rfl hlong
      rw [TellsChange, MessageClass.deserialize,
        imp_iff_right ((GNSSPositionData.thrown_deserialize_iff now old).mpr fun _ => hlists),
        GNSSPositionData.changed_deserialize_iff now old hlong hlists]
      exact (imp_iff_right hlong).symm
  | courseOverGroundSpeedOverGroundRapidUpdate =>
    exact iff_of_true (fun _ => changed_deserializeSignals _ _ _ _) trivial
  | datum => exact iff_of_true (fun _ => changed_deserializeSignals _ _ _ _) trivial
  | positionDeltaHighPrecisionRapidUpdate =>
    exact iff_of_true (fun _ => changed_deserializeSignals _ _ _ _) trivial
  | positionRapidUpdate =>
    exact iff_of_true (fun _ => changed_deserializeSignals _ _ _ _) trivial
  | rateOfTurn => exact iff_of_true (fun _ => changed_deserializeSignals _ _ _ _) trivial
  | vesselHeading => exact iff_of_true (fun _ => changed_deserializeSignals _ _ _ _) trivial

theorem comesBack_iff {data : kind.Data} (hfits : kind.Fits data)
    (hsent : sent.data = kind.serialize data) (now : UInt32) (old : Received kind.Data) :
    kind.RoundTrips now old data sent ↔ kind.Representable data := by
  cases kind with
  | gnssPositionData =>
    obtain ⟨hcount, hwidth⟩ := hfits
    have hlong : GNSSPositionData.MINIMUM_LENGTH_BYTES ≤ sent.data.length := by
      rw [hsent, MessageClass.serialize, GNSSPositionData.serialize_eq hcount, List.length_append]
      exact Nat.le_add_right 43 _
    apply iff_of_true _ trivial
    rw [RoundTrips, MessageClass.deserialize,
      GNSSPositionData.deserialize_of_listsAll now old hlong
        (GNSSPositionData.listsAll_sent hsent hcount), signals_gnssPositionData hsent,
      GNSSPositionData.listedStations_sent hsent hcount hwidth]
    rfl
  | positionDeltaHighPrecisionRapidUpdate =>
    have hlength : sent.data.length = CAN_DATA_LENGTH := congrArg List.length hsent
    rw [RoundTrips, MessageClass.deserialize, PositionDeltaHighPrecisionRapidUpdate.deserialize,
      data_deserializeSignals _ _ _ _ (decide_eq_true hlength)]
    exact signals_positionDelta hsent hfits.1 hfits.2
  | rateOfTurn =>
    have hlength : sent.data.length = CAN_DATA_LENGTH := congrArg List.length hsent
    rw [RoundTrips, MessageClass.deserialize, RateOfTurn.deserialize,
      data_deserializeSignals _ _ _ _ (decide_eq_true hlength)]
    exact signals_rateOfTurn hsent
  | vesselHeading =>
    have hlength : sent.data.length = CAN_DATA_LENGTH := congrArg List.length hsent
    rw [RoundTrips, MessageClass.deserialize, VesselHeading.deserialize,
      data_deserializeSignals _ _ _ _ (decide_eq_true hlength)]
    exact signals_vesselHeading hsent
  | courseOverGroundSpeedOverGroundRapidUpdate =>
    have hlength : sent.data.length = CAN_DATA_LENGTH := congrArg List.length hsent
    apply iff_of_true _ trivial
    rw [RoundTrips, MessageClass.deserialize,
      CourseOverGroundSpeedOverGroundRapidUpdate.deserialize,
      data_deserializeSignals _ _ _ _ (decide_eq_true hlength)]
    exact signals_cogSog hsent
  | datum =>
    have hlength : sent.data.length = Datum.LENGTH_BYTES := congrArg List.length hsent
    apply iff_of_true _ trivial
    rw [RoundTrips, MessageClass.deserialize, Datum.deserialize,
      data_deserializeSignals _ _ _ _ (decide_eq_true hlength.ge)]
    exact signals_datum hsent
  | positionRapidUpdate =>
    have hlength : sent.data.length = CAN_DATA_LENGTH := congrArg List.length hsent
    apply iff_of_true _ trivial
    rw [RoundTrips, MessageClass.deserialize, PositionRapidUpdate.deserialize,
      data_deserializeSignals _ _ _ _ (decide_eq_true hlength)]
    exact signals_positionRapidUpdate hsent

end MessageClass

/-- Values come back from the bytes they are sent as, every message is read inside of it, and the
return value tells whether a value changed, exactly under these conditions. -/
theorem codec_iff (kind : MessageClass) {data : kind.Data} {sent : CANMessage}
    (hfits : kind.Fits data) (hsent : sent.data = kind.serialize data) (now : UInt32)
    (message : CANMessage) (old : Received kind.Data) :
    (kind.RoundTrips now old data sent ∧ kind.ReadsInside now message old ∧
        kind.TellsChange now message old) ↔
      (kind.Representable data ∧ kind.Complete message ∧ kind.Told message old) := by
  rw [MessageClass.comesBack_iff hfits hsent, MessageClass.readsInside_iff]
  exact and_congr_right fun _ => and_congr_right fun hcomplete =>
    MessageClass.tellsChange_iff now old hcomplete

def southward : PositionDeltaHighPrecisionRapidUpdate where
  latitudeDelta := -1

def messageOf (data : List UInt8) : CANMessage where
  identifier := .ofFields .extended 0x1F803 2 BROADCAST_CAN_ADDRESS 0x80
  data := data
  source := some 1
  destination := none
  canPortIndex := 0
  timestampUs := 0

theorem southward_not_roundTrips :
    MessageClass.positionDeltaHighPrecisionRapidUpdate.Fits southward ∧
      ¬MessageClass.positionDeltaHighPrecisionRapidUpdate.RoundTrips 0
        { data := MessageClass.constructed _ } southward (messageOf southward.serialize) := by
  constructor
  · rw [MessageClass.Fits]
    decide +kernel
  · rw [MessageClass.RoundTrips]
    decide +kernel

def stationListed : GNSSPositionData where
  sequenceID := 7
  referenceStations := [{ stationID := 0xABC, stationType := 1, ageOfDGNSSCorrections := 20 }]

theorem codec_stationListed :
    (MessageClass.gnssPositionData.Fits stationListed) ∧
      MessageClass.gnssPositionData.RoundTrips 0 { data := MessageClass.constructed _ }
        stationListed (messageOf stationListed.serialize) := by
  have hfits : MessageClass.gnssPositionData.Fits stationListed := by
    rw [MessageClass.Fits]
    decide +kernel
  have hcodec := codec_iff .gnssPositionData hfits
    (rfl : (messageOf stationListed.serialize).data = _) 0 (messageOf stationListed.serialize)
    { data := MessageClass.constructed _ }
  have hcondition : MessageClass.gnssPositionData.Representable stationListed ∧
      MessageClass.gnssPositionData.Complete (messageOf stationListed.serialize) ∧
      MessageClass.gnssPositionData.Told (messageOf stationListed.serialize)
        { data := MessageClass.constructed _ } := by
    refine ⟨trivial, ?_, ?_⟩
    · rw [MessageClass.Complete, ListsAll]
      decide +kernel
    · rw [MessageClass.Told]
      decide +kernel
  exact ⟨hfits, (hcodec.mpr hcondition).1⟩

end Isobus.Nmea2000
