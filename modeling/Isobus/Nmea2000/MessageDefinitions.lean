import Isobus.Can.ReceivedMessages
import Isobus.Lib.BitFields

/-!
# NMEA 2000 messages

`nmea2000_message_definitions.cpp`: seven classes of messages with the bytes they are sent as and
what they are read from.
-/

namespace Isobus.Nmea2000

open Isobus.Can Isobus.Lib

def MAX_SEQUENCE_ID : UInt8 := 252

def getInt16At (message : CANMessage) (index : Nat) : Int16 := (message.getUint16At index).toInt16

def getInt32At (message : CANMessage) (index : Nat) : Int32 := (message.getUint32At index).toInt32

def getInt64At (message : CANMessage) (index : Nat) : Int64 :=
  (decode64 (message.getUint8At index) (message.getUint8At (index + 1))
    (message.getUint8At (index + 2)) (message.getUint8At (index + 3))
    (message.getUint8At (index + 4)) (message.getUint8At (index + 5))
    (message.getUint8At (index + 6)) (message.getUint8At (index + 7))).toInt64

def bytes16 (value : UInt16) : List UInt8 :=
  [byteOf value.toUInt32 0, byteOf value.toUInt32 1]

def bytes32 (value : UInt32) : List UInt8 :=
  [byteOf value 0, byteOf value 1, byteOf value 2, byteOf value 3]

def bytes64 (value : UInt64) : List UInt8 :=
  [byteOf64 value 0, byteOf64 value 1, byteOf64 value 2, byteOf64 value 3,
    byteOf64 value 4, byteOf64 value 5, byteOf64 value 6, byteOf64 value 7]

/-- What is left of a message object after it was read from a received message. -/
structure Deserialized (δ : Type) where
  received : Received δ
  /-- The value that is returned: some signal changed. -/
  changed : Bool := false
  /-- Nothing is returned: an index lay outside of the received message. -/
  thrown : Bool := false
  deriving DecidableEq

/-- The pattern of the classes whose messages have a fixed number of signals. -/
def deserializeSignals {δ : Type} [DecidableEq δ] (wellFormed : Bool) (timestamp : UInt32)
    (signals : δ) (old : Received δ) : Deserialized δ :=
  if wellFormed then { received := ⟨timestamp, signals⟩, changed := signals ≠ old.data }
  else { received := old }

structure VesselHeading where
  headingReading : UInt16 := 0
  magneticDeviation : Int16 := 0
  magneticVariation : Int16 := 0
  sequenceID : UInt8 := 0
  sensorReference : BitVec 2 := 3
  deriving DecidableEq

namespace VesselHeading

/-- A special sequence ID is sent as the one that is not available. -/
def serialize (heading : VesselHeading) : List UInt8 :=
  [if heading.sequenceID ≤ MAX_SEQUENCE_ID then heading.sequenceID else 0xFF] ++
    bytes16 heading.headingReading ++ bytes16 heading.magneticDeviation.toUInt16 ++
    bytes16 heading.magneticVariation.toUInt16 ++
    [(byteOfField heading.sensorReference &&& 0x03) ||| 0xFC]

def signals (message : CANMessage) : VesselHeading where
  sequenceID := message.getUint8At 0
  headingReading := message.getUint16At 1
  magneticDeviation := (message.getUint16At 3).toInt16
  magneticVariation := (message.getUint16At 5).toInt16
  sensorReference := fieldOfByte 2 (message.getUint8At 7 &&& 0x03)

def deserialize (now : UInt32) (message : CANMessage) (old : Received VesselHeading) :
    Deserialized VesselHeading :=
  deserializeSignals (message.data.length = CAN_DATA_LENGTH) now (signals message) old

end VesselHeading

structure RateOfTurn where
  rateOfTurn : Int32 := 0
  sequenceID : UInt8 := 0
  deriving DecidableEq

namespace RateOfTurn

def serialize (rate : RateOfTurn) : List UInt8 :=
  [if rate.sequenceID ≤ MAX_SEQUENCE_ID then rate.sequenceID else 0xFF] ++
    bytes32 rate.rateOfTurn.toUInt32 ++ [0xFF, 0xFF, 0xFF]

def signals (message : CANMessage) : RateOfTurn where
  sequenceID := message.getUint8At 0
  rateOfTurn := getInt32At message 1

def deserialize (now : UInt32) (message : CANMessage) (old : Received RateOfTurn) :
    Deserialized RateOfTurn :=
  deserializeSignals (message.data.length = CAN_DATA_LENGTH) now (signals message) old

end RateOfTurn

def NOT_AVAILABLE : Int32 := 0x7FFFFFFF

structure PositionRapidUpdate where
  latitude : Int32 := NOT_AVAILABLE
  longitude : Int32 := NOT_AVAILABLE
  deriving DecidableEq

namespace PositionRapidUpdate

def serialize (position : PositionRapidUpdate) : List UInt8 :=
  bytes32 position.latitude.toUInt32 ++ bytes32 position.longitude.toUInt32

def signals (message : CANMessage) : PositionRapidUpdate where
  latitude := getInt32At message 0
  longitude := getInt32At message 4

def deserialize (now : UInt32) (message : CANMessage) (old : Received PositionRapidUpdate) :
    Deserialized PositionRapidUpdate :=
  deserializeSignals (message.data.length = CAN_DATA_LENGTH) now (signals message) old

end PositionRapidUpdate

structure CourseOverGroundSpeedOverGroundRapidUpdate where
  courseOverGround : UInt16 := 0
  speedOverGround : UInt16 := 0
  sequenceID : UInt8 := 0
  cogReference : BitVec 2 := 3
  deriving DecidableEq

namespace CourseOverGroundSpeedOverGroundRapidUpdate

def serialize (cogSog : CourseOverGroundSpeedOverGroundRapidUpdate) : List UInt8 :=
  [cogSog.sequenceID, (0xFC : UInt8) ||| byteOfField cogSog.cogReference] ++
    bytes16 cogSog.courseOverGround ++ bytes16 cogSog.speedOverGround ++ [0xFF, 0xFF]

def signals (message : CANMessage) : CourseOverGroundSpeedOverGroundRapidUpdate where
  sequenceID := message.getUint8At 0
  cogReference := fieldOfByte 2 (message.getUint8At 1 &&& 0x03)
  courseOverGround := message.getUint16At 2
  speedOverGround := message.getUint16At 4

def deserialize (now : UInt32) (message : CANMessage)
    (old : Received CourseOverGroundSpeedOverGroundRapidUpdate) :
    Deserialized CourseOverGroundSpeedOverGroundRapidUpdate :=
  deserializeSignals (message.data.length = CAN_DATA_LENGTH) now (signals message) old

end CourseOverGroundSpeedOverGroundRapidUpdate

structure PositionDeltaHighPrecisionRapidUpdate where
  latitudeDelta : Int32 := 0
  longitudeDelta : Int32 := 0
  sequenceID : UInt8 := 0
  timeDelta : UInt8 := 0
  deriving DecidableEq

namespace PositionDeltaHighPrecisionRapidUpdate

def serialize (delta : PositionDeltaHighPrecisionRapidUpdate) : List UInt8 :=
  let latitude := delta.latitudeDelta.toUInt32
  let longitude := delta.longitudeDelta.toUInt32
  [delta.sequenceID, delta.timeDelta, byteOf latitude 0, byteOf latitude 1, byteOf latitude 2,
    byteOf longitude 0, byteOf longitude 1, byteOf longitude 2]

def signals (message : CANMessage) : PositionDeltaHighPrecisionRapidUpdate where
  sequenceID := message.getUint8At 0
  timeDelta := message.getUint8At 1
  latitudeDelta := (message.getUint24At 2).toInt32
  longitudeDelta := (message.getUint24At 5).toInt32

def deserialize (now : UInt32) (message : CANMessage)
    (old : Received PositionDeltaHighPrecisionRapidUpdate) :
    Deserialized PositionDeltaHighPrecisionRapidUpdate :=
  deserializeSignals (message.data.length = CAN_DATA_LENGTH) now (signals message) old

end PositionDeltaHighPrecisionRapidUpdate

structure ReferenceStationData where
  stationID : UInt16 := 0
  stationType : BitVec 4 := 0xF
  ageOfDGNSSCorrections : UInt16 := 0xFFFF
  deriving DecidableEq

namespace ReferenceStationData

def serialize (station : ReferenceStationData) : List UInt8 :=
  [(byteOfField station.stationType &&& (0x0F : UInt8)) |||
      (((station.stationID &&& 0x0F) <<< 4).toUInt8),
    (station.stationID >>> 4).toUInt8] ++ bytes16 station.ageOfDGNSSCorrections

/-- The station whose four bytes start at this index. -/
def ofMessage (message : CANMessage) (index : Nat) : ReferenceStationData where
  stationID := message.getUint16At index >>> 4
  stationType := fieldOfByte 4 (message.getUint8At index &&& 0x0F)
  ageOfDGNSSCorrections := message.getUint16At (2 + index)

end ReferenceStationData

structure GNSSPositionData where
  referenceStations : List ReferenceStationData := []
  altitude : Int64 := 0
  latitude : Int64 := 0
  longitude : Int64 := 0
  positionTime : UInt32 := 0
  geoidalSeparation : Int32 := 0
  positionDate : UInt16 := 0
  horizontalDilutionOfPrecision : Int16 := 0
  positionalDilutionOfPrecision : Int16 := 0
  numberOfSpaceVehicles : UInt8 := 0
  sequenceID : UInt8 := 0
  systemType : BitVec 4 := 0xF
  method : BitVec 4 := 0
  integrityChecking : BitVec 2 := 0
  deriving DecidableEq

namespace GNSSPositionData

def MINIMUM_LENGTH_BYTES : Nat := 43

def withStations (position : GNSSPositionData) (stations : List ReferenceStationData) :
    GNSSPositionData :=
  { position with referenceStations := stations }

def getNumberOfReferenceStations (position : GNSSPositionData) : UInt8 :=
  .ofNat position.referenceStations.length

def serializeSignals (position : GNSSPositionData) : List UInt8 :=
  [position.sequenceID] ++ bytes16 position.positionDate ++ bytes32 position.positionTime ++
    bytes64 position.latitude.toUInt64 ++ bytes64 position.longitude.toUInt64 ++
    bytes64 position.altitude.toUInt64 ++
    [(byteOfField position.systemType &&& (0x0F : UInt8)) |||
        ((byteOfField position.method &&& (0x0F : UInt8)) <<< 4),
      byteOfField position.integrityChecking ||| 0xFC, position.numberOfSpaceVehicles] ++
    bytes16 position.horizontalDilutionOfPrecision.toUInt16 ++
    bytes16 position.positionalDilutionOfPrecision.toUInt16 ++
    bytes32 position.geoidalSeparation.toUInt32 ++ [position.getNumberOfReferenceStations]

def serialize (position : GNSSPositionData) : List UInt8 :=
  position.serializeSignals ++
    (position.referenceStations.take position.getNumberOfReferenceStations.toNat).flatMap
      ReferenceStationData.serialize

def stationIndex (i : Nat) : Nat := MINIMUM_LENGTH_BYTES + i * 4

/-- The signals, and as many stations as there are, which are read later. -/
def signals (message : CANMessage) : GNSSPositionData where
  sequenceID := message.getUint8At 0
  positionDate := message.getUint16At 1
  positionTime := message.getUint32At 3
  latitude := getInt64At message 7
  longitude := getInt64At message 15
  altitude := getInt64At message 23
  systemType := fieldOfByte 4 (message.getUint8At 31 &&& 0x0F)
  method := fieldOfByte 4 ((message.getUint8At 31 >>> 4) &&& 0x0F)
  integrityChecking := fieldOfByte 2 (message.getUint8At 32 &&& 0x03)
  numberOfSpaceVehicles := message.getUint8At 33
  horizontalDilutionOfPrecision := getInt16At message 34
  positionalDilutionOfPrecision := getInt16At message 36
  geoidalSeparation := getInt32At message 38
  referenceStations := .replicate (message.getUint8At 42).toNat {}

/-- The loop over the stations from the `i`th one on, and whether it throws. It tests for one byte
before it reads four. -/
def readReferenceStations (message : CANMessage) (stations : List ReferenceStationData) (i : Nat) :
    Nat → List ReferenceStationData × Bool
  | 0 => (stations, false)
  | remaining + 1 =>
    if message.data.length ≥ stationIndex i then
      if stationIndex i + 3 < message.data.length then
        readReferenceStations message
          (stations.set i (.ofMessage message (stationIndex i))) (i + 1) remaining
      else (stations, true)
    else (stations, false)

/-- The stations are cleared before their number is compared. -/
def deserialize (now : UInt32) (message : CANMessage) (old : Received GNSSPositionData) :
    Deserialized GNSSPositionData :=
  if message.data.length ≥ MINIMUM_LENGTH_BYTES then
    let read := signals message
    let stations := readReferenceStations message read.referenceStations 0
      read.referenceStations.length
    { received := ⟨if stations.2 then old.timestamp else now, read.withStations stations.1⟩
      changed := read.withStations old.data.referenceStations ≠ old.data ||
        read.referenceStations.length ≠ 0
      thrown := stations.2 }
  else { received := old }

end GNSSPositionData

/-- A string of four characters. -/
structure DatumCode where
  char₀ : UInt8 := 0
  char₁ : UInt8 := 0
  char₂ : UInt8 := 0
  char₃ : UInt8 := 0
  deriving DecidableEq

namespace DatumCode

def serialize (code : DatumCode) : List UInt8 := [code.char₀, code.char₁, code.char₂, code.char₃]

def ofMessage (message : CANMessage) (index : Nat) : DatumCode where
  char₀ := message.getUint8At index
  char₁ := message.getUint8At (index + 1)
  char₂ := message.getUint8At (index + 2)
  char₃ := message.getUint8At (index + 3)

end DatumCode

structure Datum where
  localDatum : DatumCode := {}
  referenceDatum : DatumCode := {}
  deltaLatitude : Int32 := 0
  deltaLongitude : Int32 := 0
  deltaAltitude : Int32 := 0
  deriving DecidableEq

namespace Datum

def LENGTH_BYTES : Nat := 20

def serialize (datum : Datum) : List UInt8 :=
  datum.localDatum.serialize ++ bytes32 datum.deltaLatitude.toUInt32 ++
    bytes32 datum.deltaLongitude.toUInt32 ++ bytes32 datum.deltaAltitude.toUInt32 ++
    datum.referenceDatum.serialize

def signals (message : CANMessage) : Datum where
  localDatum := .ofMessage message 0
  deltaLatitude := getInt32At message 4
  deltaLongitude := getInt32At message 8
  deltaAltitude := getInt32At message 12
  referenceDatum := .ofMessage message 16

def deserialize (_now : UInt32) (message : CANMessage) (old : Received Datum) :
    Deserialized Datum :=
  deserializeSignals (message.data.length ≥ LENGTH_BYTES) old.timestamp (signals message) old

end Datum

/-- The classes, in the order of their flags. -/
inductive MessageClass
  | courseOverGroundSpeedOverGroundRapidUpdate
  | datum
  | gnssPositionData
  | positionDeltaHighPrecisionRapidUpdate
  | positionRapidUpdate
  | rateOfTurn
  | vesselHeading
  deriving DecidableEq

namespace MessageClass

abbrev Data : MessageClass → Type
  | courseOverGroundSpeedOverGroundRapidUpdate => CourseOverGroundSpeedOverGroundRapidUpdate
  | datum => Datum
  | gnssPositionData => GNSSPositionData
  | positionDeltaHighPrecisionRapidUpdate => PositionDeltaHighPrecisionRapidUpdate
  | positionRapidUpdate => PositionRapidUpdate
  | rateOfTurn => RateOfTurn
  | vesselHeading => VesselHeading

def constructed : (kind : MessageClass) → kind.Data
  | courseOverGroundSpeedOverGroundRapidUpdate => ({} : CourseOverGroundSpeedOverGroundRapidUpdate)
  | datum => ({} : Datum)
  | gnssPositionData => ({} : GNSSPositionData)
  | positionDeltaHighPrecisionRapidUpdate => ({} : PositionDeltaHighPrecisionRapidUpdate)
  | positionRapidUpdate => ({} : PositionRapidUpdate)
  | rateOfTurn => ({} : RateOfTurn)
  | vesselHeading => ({} : VesselHeading)

def serialize : (kind : MessageClass) → kind.Data → List UInt8
  | courseOverGroundSpeedOverGroundRapidUpdate =>
    CourseOverGroundSpeedOverGroundRapidUpdate.serialize
  | datum => Datum.serialize
  | gnssPositionData => GNSSPositionData.serialize
  | positionDeltaHighPrecisionRapidUpdate => PositionDeltaHighPrecisionRapidUpdate.serialize
  | positionRapidUpdate => PositionRapidUpdate.serialize
  | rateOfTurn => RateOfTurn.serialize
  | vesselHeading => VesselHeading.serialize

def deserialize : (kind : MessageClass) → UInt32 → CANMessage → Received kind.Data →
    Deserialized kind.Data
  | courseOverGroundSpeedOverGroundRapidUpdate =>
    CourseOverGroundSpeedOverGroundRapidUpdate.deserialize
  | datum => Datum.deserialize
  | gnssPositionData => GNSSPositionData.deserialize
  | positionDeltaHighPrecisionRapidUpdate => PositionDeltaHighPrecisionRapidUpdate.deserialize
  | positionRapidUpdate => PositionRapidUpdate.deserialize
  | rateOfTurn => RateOfTurn.deserialize
  | vesselHeading => VesselHeading.deserialize

end MessageClass

end Isobus.Nmea2000
