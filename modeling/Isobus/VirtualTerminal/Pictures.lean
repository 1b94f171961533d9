import Isobus.Lib.PackedRows
import Isobus.VirtualTerminal.PoolParser

namespace Isobus.VirtualTerminal.PictureGraphic

open Isobus.Lib Isobus.Lib.Reader

def pixelsPerByte (format : UInt8) : Nat :=
  if format = eightBitColour then 1 else if format = fourBitColour then 2 else 8

/-- From the most significant bit on. -/
def pixelsOf (format value : UInt8) : List UInt8 :=
  if format = eightBitColour then [value]
  else if format = fourBitColour then [value >>> 4, value &&& 0x0F]
  else
    [(value >>> 7) &&& 1, (value >>> 6) &&& 1, (value >>> 5) &&& 1, (value >>> 4) &&& 1,
      (value >>> 3) &&& 1, (value >>> 2) &&& 1, (value >>> 1) &&& 1, value &&& 1]

theorem length_pixelsOf (format value : UInt8) :
    (pixelsOf format value).length = pixelsPerByte format := by
  unfold pixelsOf pixelsPerByte
  split_ifs <;> rfl

theorem pixelsPerByte_pos (format : UInt8) : 0 < pixelsPerByte format := by
  unfold pixelsPerByte
  split_ifs <;> decide

theorem pixelsPerByte_le (format : UInt8) : pixelsPerByte format ≤ 8 := by
  unfold pixelsPerByte
  split_ifs <;> decide

section Adding

variable {limit : Nat} {rawData : List UInt8}

theorem foldl_addRawData (hlimit : rawData.length ≤ limit) (pixels : List UInt8) :
    pixels.foldl (addRawData limit) rawData = (rawData ++ pixels).take limit := by
  induction pixels generalizing rawData with
  | nil => rw [List.foldl_nil, List.append_nil, List.take_of_length_le hlimit]
  | cons pixel pixels ih =>
    rw [List.foldl_cons, addRawData]
    split_ifs with hlt
    · rw [ih (by rw [List.length_append, List.length_singleton]; omega), List.append_assoc,
        List.singleton_append]
    · have heq : rawData.length = limit := Nat.le_antisymm hlimit (Nat.le_of_not_lt hlt)
      rw [ih hlimit, List.take_left' heq, List.take_left' heq]

theorem toNat_sub_one {left : UInt64} (hleft : 0 < left.toNat) :
    (left - 1).toNat = left.toNat - 1 :=
  UInt64.toNat_sub_of_le _ _ (UInt64.le_iff_toNat_le.mpr hleft)

theorem toNat_eq_zero_iff {left : UInt64} : left = 0 ↔ left.toNat = 0 :=
  UInt64.toNat_inj.symm

theorem addBits_eq {left : UInt64} (hleft : 0 < left.toNat) (bits : List UInt8) :
    (addBits limit bits (rawData, left)).1 =
        (bits.take left.toNat).foldl (addRawData limit) rawData ∧
      (addBits limit bits (rawData, left)).2.toNat = left.toNat - bits.length := by
  induction bits generalizing rawData left with
  | nil => simp [addBits]
  | cons bit bits ih =>
    have hsub := toNat_sub_one hleft
    obtain ⟨n, hn⟩ := Nat.exists_eq_succ_of_ne_zero hleft.ne'
    rw [hn, Nat.succ_sub_one] at hsub
    rw [addBits, hn, List.take_succ_cons, List.foldl_cons, List.length_cons]
    simp only [toNat_eq_zero_iff, hsub]
    split_ifs with hzero
    · rw [hzero, List.take_zero, hsub]
      exact ⟨rfl, by omega⟩
    · have hbits := @ih (addRawData limit rawData bit) (left - 1) (by omega)
      rw [hsub] at hbits
      exact ⟨hbits.1, by omega⟩

theorem toNat_ite_zero (left : UInt64) (actualWidth : UInt16) :
    (if left = 0 then actualWidth.toUInt64 else left).toNat =
      if left.toNat = 0 then actualWidth.toNat else left.toNat := by
  simp only [toNat_eq_zero_iff]
  split_ifs <;> rfl

theorem addPixels_eq {format : UInt8} (hformat : format ≠ eightBitColour) (actualWidth : UInt16)
    {left : UInt64} (hleft : 0 < left.toNat) (value : UInt8) :
    (addPixels format actualWidth limit (rawData, left) value).1 =
        (unpackUnit (pixelsOf format) left.toNat value).foldl (addRawData limit) rawData ∧
      (addPixels format actualWidth limit (rawData, left) value).2.toNat =
        leftAfter (pixelsPerByte format) actualWidth.toNat left.toNat := by
  unfold addPixels unpackUnit pixelsOf leftAfter pixelsPerByte
  simp only [if_neg hformat]
  by_cases hfour : format = fourBitColour
  · simp only [if_pos hfour]
    have hsub := toNat_sub_one hleft
    by_cases hlast : left.toNat = 1
    · have hzero : left - 1 = 0 := by
        rw [toNat_eq_zero_iff]
        omega
      simp [hzero, hlast]
    · have hpos : 0 < left - 1 := by
        rw [UInt64.lt_iff_toNat_lt]
        change 0 < (left - 1).toNat
        omega
      have hsub' := @toNat_sub_one (left - 1) (by omega)
      rw [if_pos hpos, List.take_of_length_le (by simp; omega)]
      refine ⟨rfl, ?_⟩
      dsimp only
      rw [toNat_ite_zero]
      split_ifs <;> omega
  · simp only [if_neg hfour]
    obtain ⟨hdata, hleft'⟩ := @addBits_eq limit rawData left hleft
      [(value >>> 7) &&& 1, (value >>> 6) &&& 1, (value >>> 5) &&& 1, (value >>> 4) &&& 1,
        (value >>> 3) &&& 1, (value >>> 2) &&& 1, (value >>> 1) &&& 1, value &&& 1]
    refine ⟨hdata, ?_⟩
    rw [toNat_ite_zero, hleft']
    simp only [List.length_cons, List.length_nil]
    split_ifs <;> omega

theorem foldl_addPixels {format : UInt8} (hformat : format ≠ eightBitColour)
    {actualWidth : UInt16} (hwidth : 0 < actualWidth.toNat) {left : UInt64}
    (hleft : 0 < left.toNat) (bytes : List UInt8) :
    (bytes.foldl (addPixels format actualWidth limit) (rawData, left)).1 =
      (unpackRows (pixelsOf format) (pixelsPerByte format) actualWidth.toNat left.toNat
        bytes).foldl (addRawData limit) rawData := by
  induction bytes generalizing rawData left with
  | nil => rfl
  | cons value bytes ih =>
    obtain ⟨hdata, hleft'⟩ :=
      @addPixels_eq limit rawData format hformat actualWidth left hleft value
    have hpos : 0 < (addPixels format actualWidth limit (rawData, left) value).2.toNat := by
      rw [hleft', leftAfter]
      split_ifs <;> omega
    rw [List.foldl_cons, unpackRows, List.foldl_append, ← hdata, ← hleft']
    exact ih hpos

theorem foldl_addPixels_eightBitColour (actualWidth : UInt16) (left : UInt64)
    (bytes : List UInt8) :
    (bytes.foldl (addPixels eightBitColour actualWidth limit) (rawData, left)).1 =
      bytes.foldl (addRawData limit) rawData := by
  induction bytes generalizing rawData with
  | nil => rfl
  | cons value bytes ih => exact ih


end Adding

theorem unpackRows_singleton {width left : Nat} (hwidth : 0 < width) (hleft : 0 < left)
    (bytes : List UInt8) : unpackRows (fun value => [value]) 1 width left bytes = bytes := by
  induction bytes generalizing left with
  | nil => rfl
  | cons value bytes ih =>
    have hone : unpackUnit (fun value : UInt8 => [value]) left value = [value] :=
      List.take_of_length_le hleft
    rw [unpackRows, hone, ih, List.singleton_append]
    unfold leftAfter
    split_ifs <;> omega

/-- The rows that the bytes hold, whatever the size of the picture. -/
def rowsOf (format : UInt8) (actualWidth : UInt16) (bytes : List UInt8) : List UInt8 :=
  unpackRows (pixelsOf format) (pixelsPerByte format) actualWidth.toNat actualWidth.toNat bytes

theorem rowsOf_eightBitColour {actualWidth : UInt16} (hwidth : 0 < actualWidth.toNat)
    (bytes : List UInt8) : rowsOf eightBitColour actualWidth bytes = bytes :=
  unpackRows_singleton hwidth hwidth bytes

theorem foldl_addPixels_eq_take {actualWidth : UInt16} (hwidth : 0 < actualWidth.toNat)
    (format : UInt8) (limit : Nat) (bytes : List UInt8) :
    (bytes.foldl (addPixels format actualWidth limit) ([], actualWidth.toUInt64)).1 =
      (rowsOf format actualWidth bytes).take limit := by
  have hadd := @foldl_addRawData limit [] (Nat.zero_le limit) (rowsOf format actualWidth bytes)
  rw [List.nil_append] at hadd
  rw [← hadd]
  by_cases hformat : format = eightBitColour
  · rw [hformat, rowsOf_eightBitColour hwidth, foldl_addPixels_eightBitColour]
  · have hleft : 0 < actualWidth.toUInt64.toNat := hwidth
    exact foldl_addPixels hformat hwidth hleft bytes

def repeated (runs : List (UInt8 × UInt8)) : List UInt8 :=
  runs.flatMap fun run => List.replicate run.1.toNat run.2

def runBytes (runs : List (UInt8 × UInt8)) : List UInt8 := runs.flatMap fun run => [run.1, run.2]

def expanded : List UInt8 → List UInt8
  | count :: value :: runs => List.replicate count.toNat value ++ expanded runs
  | _ => []

theorem addRuns_eq (format : UInt8) (actualWidth : UInt16) (limit : Nat) (runs : List UInt8)
    (state : List UInt8 × UInt64) :
    addRuns format actualWidth limit runs state =
      (expanded runs).foldl (addPixels format actualWidth limit) state := by
  induction runs using expanded.induct generalizing state with
  | case1 count value runs ih => rw [addRuns, ih, expanded, List.foldl_append]
  | case2 runs hshort =>
    rw [addRuns, expanded] <;> first | rfl | exact hshort

theorem expanded_runBytes (runs : List (UInt8 × UInt8)) :
    expanded (runBytes runs) = repeated runs := by
  induction runs with
  | nil => rfl
  | cons run runs ih =>
    have hbytes : runBytes (run :: runs) = run.1 :: run.2 :: runBytes runs := rfl
    rw [hbytes, expanded, ih]
    rfl

theorem decodeRunLength_eq {actualWidth : UInt16} (hwidth : 0 < actualWidth.toNat)
    (format : UInt8) (actualHeight : UInt16) (runs : List UInt8) :
    decodeRunLength format actualWidth actualHeight runs =
      (rowsOf format actualWidth (expanded runs)).take (area actualWidth actualHeight) := by
  rw [decodeRunLength, addRuns_eq, foldl_addPixels_eq_take hwidth]

theorem decodeRaw_eq {actualWidth : UInt16} (hwidth : 0 < actualWidth.toNat)
    {format : UInt8} (hformat : format ≠ eightBitColour) (actualHeight : UInt16)
    (bytes : List UInt8) :
    decodeRaw format actualWidth actualHeight bytes =
      (rowsOf format actualWidth bytes).take (area actualWidth actualHeight) := by
  rw [decodeRaw, if_neg hformat, foldl_addPixels_eq_take hwidth]

/-- Runs and the bytes that they stand for decode alike, unless there are more bytes than pixels in
a picture with a byte for each. -/
theorem decodeRunLength_eq_decodeRaw_iff {actualWidth : UInt16}
    (hwidth : 0 < actualWidth.toNat) (format : UInt8) (actualHeight : UInt16)
    (runs : List (UInt8 × UInt8)) :
    decodeRunLength format actualWidth actualHeight (runBytes runs) =
        decodeRaw format actualWidth actualHeight (repeated runs) ↔
      (format = eightBitColour → (repeated runs).length ≤ area actualWidth actualHeight) := by
  rw [decodeRunLength_eq hwidth, expanded_runBytes]
  by_cases hformat : format = eightBitColour
  · rw [decodeRaw, if_pos hformat, hformat, rowsOf_eightBitColour hwidth, List.take_eq_self_iff]
    exact (true_imp_iff ..).symm.trans (imp_congr_left (iff_of_true trivial rfl))
  · rw [decodeRaw_eq hwidth hformat]
    exact iff_of_true rfl fun h => absurd h hformat

/-- The bytes of the pixels: runs are expanded, and there are none at all if runs are not even. -/
def pictureBytes (options : UInt8) (numberOfBytesInRawData : UInt32) (bytes : List UInt8) :
    List UInt8 :=
  if runLengthEncoded options then
    if numberOfBytesInRawData % 2 ≠ 0 then []
    else expanded (bytes.take numberOfBytesInRawData.toNat)
  else if numberOfBytesInRawData.toNat ≤ bytes.length then
    bytes.take numberOfBytesInRawData.toNat
  else []

/-- Pixels of a byte each are taken as they are, with no regard to the size of the picture. -/
def isCopied (format options : UInt8) : Prop :=
  format = eightBitColour ∧ runLengthEncoded options = false

theorem readPicture_done {format options : UInt8} {actualWidth actualHeight : UInt16}
    {size : UInt32} {bytes rawData rest : List UInt8} (hwidth : 0 < actualWidth.toNat)
    (h : readPicture format options actualWidth actualHeight size bytes = .done rawData rest) :
    (isCopied format options →
        rawData = rowsOf format actualWidth (pictureBytes options size bytes)) ∧
      (¬isCopied format options → rawData =
        (rowsOf format actualWidth (pictureBytes options size bytes)).take
          (area actualWidth actualHeight)) := by
  have hnone (rawData : List UInt8) (hrawData : [] = rawData) :
      (isCopied format options → rawData = rowsOf format actualWidth []) ∧
        (¬isCopied format options →
          rawData = (rowsOf format actualWidth []).take (area actualWidth actualHeight)) :=
    ⟨fun _ => hrawData.symm, fun _ => hrawData.symm.trans List.take_nil.symm⟩
  unfold readPicture at h
  unfold pictureBytes
  dsimp only at h
  split_ifs at h ⊢ with hruns hodd hthere
  · exact hnone rawData (Reading.done.inj h).1
  · obtain ⟨data, middle, htake, hdone⟩ := bind_eq_done.mp h
    obtain ⟨hlength, rfl⟩ := take_eq_done.mp htake
    obtain ⟨rfl, -⟩ := Reading.done.inj hdone
    rw [List.take_left' hlength, decodeRunLength_eq hwidth]
    exact ⟨fun hcopied => absurd (hcopied.2.symm.trans hruns) Bool.false_ne_true, fun _ => rfl⟩
  · obtain ⟨data, middle, htake, hdone⟩ := bind_eq_done.mp h
    obtain ⟨hlength, rfl⟩ := take_eq_done.mp htake
    obtain ⟨rfl, -⟩ := Reading.done.inj hdone
    rw [List.take_left' hlength]
    constructor
    · rintro ⟨rfl, -⟩
      rw [rowsOf_eightBitColour hwidth, decodeRaw, if_pos rfl]
    · intro hcopied
      have hformat : format ≠ eightBitColour := fun hformat =>
        hcopied ⟨hformat, Bool.eq_false_iff.mpr hruns⟩
      rw [decodeRaw_eq hwidth hformat]
  · exact hnone rawData (Reading.done.inj h).1

theorem length_expanded_le (runs : List UInt8) : (expanded runs).length ≤ 255 * runs.length := by
  induction runs using expanded.induct with
  | case1 count value runs ih =>
    have hcount := count.toNat_lt
    rw [expanded, List.length_append, List.length_replicate, List.length_cons, List.length_cons]
    omega
  | case2 runs hshort =>
    have hnil : expanded runs = [] := by
      unfold expanded
      split
      · exact absurd rfl (hshort _ _ _)
      · rfl
    rw [hnil]
    exact Nat.zero_le _

theorem length_pictureBytes_le (options : UInt8) (size : UInt32) (bytes : List UInt8) :
    (pictureBytes options size bytes).length ≤ 255 * size.toNat := by
  have htake := List.length_take_le size.toNat bytes
  have hexpanded := length_expanded_le (bytes.take size.toNat)
  unfold pictureBytes
  split_ifs
  · exact Nat.zero_le _
  · omega
  · omega
  · exact Nat.zero_le _

theorem length_rowsOf_le (format : UInt8) (actualWidth : UInt16) (bytes : List UInt8) :
    (rowsOf format actualWidth bytes).length ≤ 8 * bytes.length :=
  (length_unpackRows_le (length_pixelsOf format) _ bytes).trans
    (Nat.mul_le_mul_right _ (pixelsPerByte_le format))

theorem le_area (actualWidth actualHeight : UInt16) :
    actualWidth.toNat * actualHeight.toNat ≤ area actualWidth actualHeight := by
  unfold area
  dsimp only
  split_ifs <;> omega

def bytesPerRow (picture : PictureGraphic) : Nat :=
  unitsPerRow (pixelsPerByte picture.formatByte) picture.actualWidth.toNat

/-- The picture has as many pixels as its size says, and a row starts with a byte of its own. -/
structure Shows (picture : PictureGraphic) (bytes : List UInt8) : Prop where
  size : picture.rawData.length = picture.actualWidth.toNat * picture.actualHeight.toNat
  pixel : ∀ row column, row < picture.actualHeight.toNat → column < picture.actualWidth.toNat →
    picture.rawData[picture.actualWidth.toNat * row + column]? =
      bytes[bytesPerRow picture * row + column / pixelsPerByte picture.formatByte]?.bind
        fun value => (pixelsOf picture.formatByte value)[
          column % pixelsPerByte picture.formatByte]?

/-- There are enough bytes for the rows, or just as many where bytes that are too many are not cut
off. -/
def Suffices (picture : PictureGraphic) (bytes : List UInt8) : Prop :=
  bytesPerRow picture * picture.actualHeight.toNat ≤ bytes.length ∧
    (isCopied picture.formatByte picture.optionsBitfield ∨
        2 ^ 31 ≤ picture.actualWidth.toNat * picture.actualHeight.toNat →
      bytes.length ≤ bytesPerRow picture * picture.actualHeight.toNat)

section Showing

variable {picture : PictureGraphic} {bytes : List UInt8}

theorem length_rowsOf_iffs (hwidth : 0 < picture.actualWidth.toNat) :
    (picture.actualWidth.toNat * picture.actualHeight.toNat ≤
          (rowsOf picture.formatByte picture.actualWidth bytes).length ↔
        bytesPerRow picture * picture.actualHeight.toNat ≤ bytes.length) ∧
      ((rowsOf picture.formatByte picture.actualWidth bytes).length ≤
          picture.actualWidth.toNat * picture.actualHeight.toNat ↔
        bytes.length ≤ bytesPerRow picture * picture.actualHeight.toNat) :=
  ⟨mul_le_length_unpackRows_iff (pixelsPerByte_pos _) hwidth (length_pixelsOf _) bytes _,
    length_unpackRows_le_mul_iff (pixelsPerByte_pos _) hwidth (length_pixelsOf _) bytes _⟩

theorem shows_iff_size {limit : Nat} (hwidth : 0 < picture.actualWidth.toNat)
    (hrawData : picture.rawData =
      (rowsOf picture.formatByte picture.actualWidth bytes).take limit)
    (hlimit : picture.actualWidth.toNat * picture.actualHeight.toNat ≤ limit) :
    Shows picture bytes ↔
      picture.rawData.length = picture.actualWidth.toNat * picture.actualHeight.toNat := by
  refine ⟨Shows.size, fun hsize => ⟨hsize, fun row column hrow hcolumn => ?_⟩⟩
  have hindex : picture.actualWidth.toNat * row + column < limit := by
    have := Nat.mul_le_mul_left picture.actualWidth.toNat (Nat.succ_le_of_lt hrow)
    rw [Nat.mul_succ] at this
    omega
  rw [hrawData, List.getElem?_take_of_lt hindex]
  exact getElem?_unpackRows (pixelsPerByte_pos _) hwidth (length_pixelsOf _) bytes hcolumn

theorem shows_iff (hwidth : 0 < picture.actualWidth.toNat)
    (hcopied : isCopied picture.formatByte picture.optionsBitfield →
      picture.rawData = rowsOf picture.formatByte picture.actualWidth bytes)
    (hcut : ¬isCopied picture.formatByte picture.optionsBitfield → picture.rawData =
      (rowsOf picture.formatByte picture.actualWidth bytes).take
        (area picture.actualWidth picture.actualHeight))
    (hbytes : bytes.length ≤ 255 * 2 ^ 32) :
    Shows picture bytes ↔ Suffices picture bytes := by
  have hrows := (length_rowsOf_le picture.formatByte picture.actualWidth bytes).trans
    (Nat.mul_le_mul_left 8 hbytes)
  have harea := le_area picture.actualWidth picture.actualHeight
  obtain ⟨hatLeast, hatMost⟩ := @length_rowsOf_iffs picture bytes hwidth
  unfold Suffices
  rw [← hatLeast, ← hatMost]
  by_cases hcopy : isCopied picture.formatByte picture.optionsBitfield
  · have hrawData := hcopied hcopy
    have htake := List.take_of_length_le (Nat.le_max_left
      (rowsOf picture.formatByte picture.actualWidth bytes).length
      (picture.actualWidth.toNat * picture.actualHeight.toNat))
    rw [shows_iff_size hwidth (hrawData.trans htake.symm) (Nat.le_max_right ..), hrawData]
    simp only [hcopy, true_or, true_imp_iff]
    omega
  · have hrawData := hcut hcopy
    rw [shows_iff_size hwidth hrawData harea, hrawData, List.length_take]
    simp only [hcopy, false_or]
    unfold area at harea ⊢
    dsimp only at harea ⊢
    split_ifs at harea ⊢ <;> omega

end Showing

/-- The bytes behind the header of a record that the pixels of its picture are taken from. -/
def pixelData (picture : PictureGraphic) (bytes : List UInt8) : List UInt8 :=
  pictureBytes picture.optionsBitfield picture.numberOfBytesInRawData (bytes.drop 17)

theorem record_read_done {decodedID : UInt16} {bytes rest : List UInt8} {object : VTObject}
    (h : PictureGraphic.record.read decodedID bytes = .done object rest) :
    ∃ picture, object.objectID = decodedID ∧ object.data = .pictureGraphic picture ∧
      (0 < picture.actualWidth.toNat →
        (Shows picture (pixelData picture bytes) ↔
          Suffices picture (pixelData picture bytes))) := by
  obtain ⟨header, middle, contents, -, hlength, rfl, -, hparts, -, rfl⟩ := Record.read_done h
  refine ⟨_, rfl, rfl, fun hwidth => ?_⟩
  obtain ⟨contents₁, middle₁, hpicture, hrest⟩ := bind_eq_done.mp hparts
  obtain ⟨rawData, middle₂, hread, hdone⟩ := bind_eq_done.mp hpicture
  obtain ⟨rfl, rfl⟩ := Reading.done.inj hdone
  obtain ⟨contents₂, middle₃, hmacros, hend⟩ := bind_eq_done.mp hrest
  obtain ⟨found, middle₄, -, hdone⟩ := bind_eq_done.mp hmacros
  obtain ⟨rfl, rfl⟩ := Reading.done.inj hdone
  obtain ⟨rfl, rfl⟩ := Reading.done.inj hend
  have hdrop : (header ++ middle).drop 17 = middle := List.drop_left' hlength
  have hbytes := length_pictureBytes_le (byte header 10) (uint32 header 12) middle
  have hsize := (uint32 header 12).toNat_lt
  obtain ⟨hcopied, hcut⟩ := readPicture_done hwidth hread
  unfold pixelData
  rw [hdrop]
  refine shows_iff hwidth hcopied hcut (hbytes.trans ?_)
  omega

def IsPicture (ws : WorkingSetBase) (bytes : List UInt8) (picture : PictureGraphic) : Prop :=
  ∃ object, ws.getObjectById (uint16 bytes 0) = some object ∧
    object.data = .pictureGraphic picture

theorem parseNextObject_picture {ws ws' : WorkingSetBase} {bytes rest : List UInt8}
    (h : ws.parseNextObject bytes = .accepted ws' rest)
    (htype : byte bytes 2 = VirtualTerminalObjectType.pictureGraphic.toByte)
    {picture : PictureGraphic} (hpicture : IsPicture ws' bytes picture)
    (hwidth : 0 < picture.actualWidth.toNat) :
    Shows picture (pixelData picture bytes) ↔ Suffices picture (pixelData picture bytes) := by
  obtain ⟨-, type, object, hof, hread, rfl⟩ := WorkingSetBase.parseNextObject_accepted h
  rw [htype, VirtualTerminalObjectType.ofByte_toByte] at hof
  cases hof
  obtain ⟨record, hrecord, -, hread⟩ := WorkingSetBase.objectReader_done hread
  cases hrecord
  obtain ⟨picture', hid, hdata, hshows⟩ := record_read_done hread
  obtain ⟨object', hfound, hdata'⟩ := hpicture
  rw [WorkingSetBase.getObjectById, WorkingSetBase.addOrReplaceObject, ObjectTree.get_set, hid,
    if_pos rfl] at hfound
  cases hfound
  obtain rfl := ObjectData.pictureGraphic.inj (hdata.symm.trans hdata')
  exact hshows hwidth

/-- Runs decode as what they stand for just if the pixels are not copied or not too many, and a
picture holds the pixels of its rows just if its bytes suffice. -/
theorem pictures_iff {actualWidth actualHeight : UInt16} {ws ws' : WorkingSetBase}
    {bytes rest : List UInt8} {picture : PictureGraphic} (format : UInt8)
    (runs : List (UInt8 × UInt8)) (hwidth : 0 < actualWidth.toNat)
    (haccepted : WorkingSetBase.parseNextObject ws bytes = .accepted ws' rest)
    (htype : byte bytes 2 = VirtualTerminalObjectType.pictureGraphic.toByte)
    (hpicture : IsPicture ws' bytes picture) (hpositive : 0 < picture.actualWidth.toNat) :
    (decodeRunLength format actualWidth actualHeight (runBytes runs) =
        decodeRaw format actualWidth actualHeight (repeated runs) ↔
      (format = eightBitColour → (repeated runs).length ≤ area actualWidth actualHeight)) ∧
      (Shows picture (pixelData picture bytes) ↔ Suffices picture (pixelData picture bytes)) :=
  ⟨decodeRunLength_eq_decodeRaw_iff hwidth format actualHeight runs,
    parseNextObject_picture haccepted htype hpicture hpositive⟩

def onePixelRecord (numberOfBytesInRawData : UInt8) : List UInt8 :=
  [1, 0, 20, 1, 0, 1, 0, 1, 0, 2, 0, 0, numberOfBytesInRawData, 0, 0, 0, 0]

def onePixel (rawData : List UInt8) : PictureGraphic :=
  { rawData, numberOfBytesInRawData := UInt32.ofNat rawData.length, actualWidth := 1
    actualHeight := 1, formatByte := eightBitColour, optionsBitfield := 0
    transparencyColour := 0 }

theorem onePixel_shows :
    decodeRunLength eightBitColour 1 1 (runBytes [(1, 7)]) =
        decodeRaw eightBitColour 1 1 (repeated [(1, 7)]) ∧
      ∃ ws, IsPicture ws (onePixelRecord 1 ++ [7]) (onePixel [7]) ∧
        Shows (onePixel [7]) (pixelData (onePixel [7]) (onePixelRecord 1 ++ [7])) := by
  have hpicture : IsPicture (({} : WorkingSetBase).addOrReplaceObject
      (PictureGraphic.record.object 1 (onePixelRecord 1) { rawData := [7] }))
      (onePixelRecord 1 ++ [7]) (onePixel [7]) := ⟨_, rfl, rfl⟩
  obtain ⟨hruns, hshows⟩ := @pictures_iff 1 1 {} _ (onePixelRecord 1 ++ [7]) [] (onePixel [7])
    eightBitColour [(1, 7)] (by decide) rfl rfl hpicture (by decide)
  exact ⟨hruns.mpr (by decide), _, hpicture, hshows.mpr ⟨by decide, fun _ => by decide⟩⟩

/-- A picture of one pixel without any data. -/
theorem emptyPicture_not_shown :
    ¬∀ ws bytes ws' rest, WorkingSetBase.parseNextObject ws bytes = .accepted ws' rest →
      byte bytes 2 = VirtualTerminalObjectType.pictureGraphic.toByte →
        ∀ picture, IsPicture ws' bytes picture → 0 < picture.actualWidth.toNat →
          Shows picture (pixelData picture bytes) := by
  intro h
  have hpicture : IsPicture (({} : WorkingSetBase).addOrReplaceObject
      (PictureGraphic.record.object 1 (onePixelRecord 0) {})) (onePixelRecord 0) (onePixel []) :=
    ⟨_, rfl, rfl⟩
  have hshows := h {} (onePixelRecord 0) _ [] rfl rfl (onePixel []) hpicture (by decide)
  exact absurd hshows.size (by decide)

end Isobus.VirtualTerminal.PictureGraphic
