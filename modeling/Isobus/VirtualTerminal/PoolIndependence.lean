import Isobus.VirtualTerminal.PoolRecords

/-!
# A pool and what follows it

Complete records are parsed in the same way whatever stands behind them, unless one of them
is shorter than the parser wants it to be or is a picture that is given up halfway.
-/

namespace Isobus.VirtualTerminal

open Isobus.Lib Isobus.Lib.Reader

namespace CompleteRecord

variable {r : CompleteRecord}

variable {decodedID : UInt16}

theorem read_eq {more : List UInt8} (h : r.record.minimumObjectLength ≤ (r.bytes ++ more).length)
    (hvalid : r.record.valid r.header = true) :
    r.record.read decodedID (r.bytes ++ more) =
      ((readParts {} (r.record.parts r.header) >>= fun contents => do
        demand (r.record.accepted r.header contents = true)
        return r.record.object decodedID r.header contents : Reader VTObject))
        (r.behind ++ more) := by
  have htake : take r.record.headerLength (r.bytes ++ more) =
      .done r.header (r.behind ++ more) := by
    rw [bytes, List.append_assoc]
    exact take_append r.header_length
  rw [Record.read, bind_of_done (atLeast_of h), bind_of_done htake,
    bind_of_done (demand_of hvalid)]

theorem read_of_lt {more : List UInt8}
    (h : (r.bytes ++ more).length < r.record.minimumObjectLength) :
    r.record.read decodedID (r.bytes ++ more) = .refused := by
  rw [Record.read, bind_of_refused (atLeast_of_lt h)]

theorem read_invalid {more : List UInt8} (hvalid : ¬r.record.valid r.header = true) :
    r.record.read decodedID (r.bytes ++ more) = .refused := by
  by_cases h : r.record.minimumObjectLength ≤ (r.bytes ++ more).length
  · have htake : take r.record.headerLength (r.bytes ++ more) =
        .done r.header (r.behind ++ more) := by
      rw [bytes, List.append_assoc]
      exact take_append r.header_length
    rw [Record.read, bind_of_done (atLeast_of h), bind_of_done htake,
      bind_of_refused (demand_of_not hvalid)]
  · exact read_of_lt (by omega)

/-- A complete record is refused in any case, or it is read as soon as the wanted bytes are there,
up to something left that is nothing unless it is misread. -/
def Outcome (r : CompleteRecord) : Prop :=
  (¬r.Supported ∧ ∀ decodedID more, r.record.read decodedID (r.bytes ++ more) = .refused) ∨
    r.Supported ∧ ∃ left, (left ≠ [] ↔ r.Misread) ∧ ∀ decodedID, ∃ object, ∀ more,
      r.record.read decodedID (r.bytes ++ more) =
        if r.wanted ≤ (r.bytes ++ more).length then .done object (left ++ more) else .refused

theorem plain_parts {type : VirtualTerminalObjectType} {record : Record}
    (h : type.record = some record) (hpicture : type ≠ .pictureGraphic)
    (hstring : type ≠ .inputString) (header : List UInt8) :
    ∀ part ∈ record.parts header, part.plain = true := by
  rw [← List.all_eq_true]
  cases type with
  | pictureGraphic => exact absurd rfl hpicture
  | inputString => exact absurd rfl hstring
  | _ => cases h <;> rfl

theorem accepted_eq {type : VirtualTerminalObjectType} {record : Record}
    (h : type.record = some record) (hpicture : type ≠ .pictureGraphic)
    (hextended : type ≠ .extendedInputAttributes) (header : List UInt8) (contents : Contents) :
    record.accepted header contents = true := by
  cases type with
  | pictureGraphic => exact absurd rfl hpicture
  | extendedInputAttributes => exact absurd rfl hextended
  | _ => cases h <;> rfl

theorem outcome_of_plain (hpicture : r.type ≠ .pictureGraphic) (hstring : r.type ≠ .inputString) :
    r.Outcome := by
  have hplain := plain_parts r.record_eq hpicture hstring r.header
  have hwanted : r.wanted = r.record.minimumObjectLength := if_neg hstring
  have hmisread : ¬r.Misread := fun ⟨_, _, hdata, _⟩ => hpicture hdata.1
  by_cases hsupported : r.Supported
  · refine .inr ⟨hsupported, [], by simp [hmisread], fun decodedID => ?_⟩
    obtain ⟨contents, hcontents⟩ := readParts_supported hplain hsupported.parts {}
    refine ⟨r.record.object decodedID r.header contents, fun more => ?_⟩
    rw [hwanted]
    split_ifs with hlength
    · rw [read_eq hlength hsupported.valid, bind_of_done (hcontents more),
        bind_of_done (demand_of (accepted_eq r.record_eq hpicture hsupported.notExtended _ _))]
      rfl
    · exact read_of_lt (by omega)
  · refine .inl ⟨hsupported, fun decodedID more => ?_⟩
    by_cases hvalid : r.record.valid r.header = true
    · by_cases hlength : r.record.minimumObjectLength ≤ (r.bytes ++ more).length
      · rw [read_eq hlength hvalid]
        by_cases hparts : SupportedParts (r.record.parts r.header) r.behind
        · obtain ⟨contents, hcontents⟩ := readParts_supported hplain hparts {}
          rw [bind_of_done (hcontents more)]
          by_cases hextended : r.type = .extendedInputAttributes
          · have hrecord : r.record = ExtendedInputAttributes.record := by
              have h := r.record_eq
              rw [hextended] at h
              exact (Option.some.inj h).symm
            have hrefused : ¬r.record.accepted r.header contents = true := by
              rw [hrecord]
              exact Bool.false_ne_true
            rw [bind_of_refused (demand_of_not hrefused)]
          · exact absurd ⟨hvalid, hparts, hextended, fun data references hdata =>
              absurd hdata.1 hpicture⟩ hsupported
        · rw [bind_of_refused (readParts_unsupported hplain r.whole hparts {} more)]
      · exact read_of_lt (by omega)
    · exact read_invalid hvalid

theorem outcome_of_inputString (hstring : r.type = .inputString) : r.Outcome := by
  have hrecord : r.record = InputString.record := by
    have h := r.record_eq
    rw [hstring] at h
    exact (Option.some.inj h).symm
  have hwanted : r.wanted = 20 + (byte r.header 16).toNat := if_pos hstring
  have hpicture : r.type ≠ .pictureGraphic := by rw [hstring]; decide
  have hmisread : ¬r.Misread := fun ⟨_, _, hdata, _⟩ => hpicture hdata.1
  have hheader : r.header.length = 17 := by rw [r.header_length, hrecord]; rfl
  have hparts : r.record.parts r.header = [.value (byte r.header 16), .countedMacros] := by
    rw [hrecord]
    rfl
  have hminimum : r.record.minimumObjectLength = 19 := by rw [hrecord]; rfl
  have hvalid : r.record.valid r.header = true := by rw [hrecord]; rfl
  have hbytes (more : List UInt8) : (r.bytes ++ more).length =
      17 + r.behind.length + more.length := by
    rw [bytes, List.length_append, List.length_append, hheader]
  -- too few bytes are refused, by the first check or by that of the value
  have hshort (decodedID : UInt16) (more : List UInt8)
      (h : (r.bytes ++ more).length < r.wanted) :
      r.record.read decodedID (r.bytes ++ more) = .refused := by
    by_cases hlength : r.record.minimumObjectLength ≤ (r.bytes ++ more).length
    · obtain ⟨own, rest, hbehind, hown, -⟩ := hparts ▸ r.whole
      have hsize : own.length = (byte r.header 16).toNat + 1 := hown
      rw [hbytes, hbehind, List.length_append, hsize, hwanted] at h
      have hroom : (rest ++ more).length < (Part.value (byte r.header 16)).room := by
        rw [List.length_append]
        change _ < 2
        omega
      rw [read_eq hlength hvalid, hparts, hbehind, List.append_assoc, readParts,
        bind_of_refused (bind_of_refused (Part.read_of_lt_room hown {} hroom))]
    · exact read_of_lt (by omega)
  by_cases hsupported : r.Supported
  · refine .inr ⟨hsupported, [], by simp [hmisread], fun decodedID => ?_⟩
    obtain ⟨own, rest, hbehind, ⟨hown, hvalue⟩, rest', tail, rfl, ⟨hmacros, hknown⟩, rfl⟩ :=
      hparts ▸ hsupported.parts
    have hsize : own.length = (byte r.header 16).toNat + 1 := hown
    obtain ⟨contents, hcontents⟩ := Part.read_supported (fun _ => by simp) hown hvalue {}
    obtain ⟨a, ha⟩ := Part.read_supported (fun _ => by simp) hmacros hknown contents
    refine ⟨r.record.object decodedID r.header a, fun more => ?_⟩
    split_ifs with hlength
    · have hroom : 2 ≤ (rest' ++ [] ++ more).length := by
        rw [hwanted, hbytes, hbehind, List.length_append, hsize] at hlength
        rw [List.length_append]
        omega
      have hread : readParts {} (r.record.parts r.header) (r.behind ++ more) = .done a more := by
        rw [hparts, hbehind, List.append_assoc, readParts, bind_of_done (hcontents _ hroom),
          List.append_nil, readParts, bind_of_done (ha more (Nat.zero_le _))]
        rfl
      rw [read_eq (by omega) hvalid, bind_of_done hread, bind_of_done
        (demand_of (accepted_eq r.record_eq hpicture hsupported.notExtended _ _))]
      rfl
    · exact hshort decodedID more (by omega)
  · refine .inl ⟨hsupported, fun decodedID more => ?_⟩
    by_cases hlength : r.wanted ≤ (r.bytes ++ more).length
    · obtain ⟨own, rest, hbehind, hown, rest', tail, rfl, hmacros, rfl⟩ := hparts ▸ r.whole
      have hsize : own.length = (byte r.header 16).toNat + 1 := hown
      have hroom : 2 ≤ (rest' ++ [] ++ more).length := by
        rw [hwanted, hbytes, hbehind, List.length_append, hsize] at hlength
        rw [List.length_append]
        omega
      have hunknown : ¬Part.Supported rest' .countedMacros := fun hknown =>
        hsupported ⟨hvalid, hparts ▸ ⟨own, _, hbehind, ⟨hown, trivial⟩, rest', [], rfl,
          ⟨hmacros, hknown⟩, rfl⟩, by rw [hstring]; decide, fun _ _ hdata =>
          absurd hdata.1 hpicture⟩
      obtain ⟨contents, hcontents⟩ := Part.read_supported (fun _ => by simp) hown trivial {}
      have hread : readParts {} (r.record.parts r.header) (r.behind ++ more) = .refused := by
        rw [hparts, hbehind, List.append_assoc, readParts, bind_of_done (hcontents _ hroom),
          List.append_nil, readParts,
          bind_of_refused (Part.read_unsupported hmacros hunknown contents more)]
      rw [read_eq (by omega) hvalid, bind_of_refused hread]
    · exact hshort decodedID more (by omega)

theorem Picture.unique {data data' references references' : List UInt8}
    (h : r.Picture data references) (h' : r.Picture data' references') :
    data = data' ∧ references = references' :=
  List.append_inj (h.2.1.symm.trans h'.2.1) (h.2.2.trans h'.2.2.symm)

theorem outcome_of_pictureGraphic (hpicture : r.type = .pictureGraphic) : r.Outcome := by
  have hrecord : r.record = PictureGraphic.record := by
    have h := r.record_eq
    rw [hpicture] at h
    exact (Option.some.inj h).symm
  have hheader : r.header.length = 17 := by rw [r.header_length, hrecord]; rfl
  have hminimum : r.record.minimumObjectLength = 17 := by rw [hrecord]; rfl
  have hstring : r.type ≠ .inputString := by rw [hpicture]; decide
  have hwanted : r.wanted = 17 := by rw [wanted, if_neg hstring, hminimum]
  have hlength (more : List UInt8) : 17 ≤ (r.bytes ++ more).length := by
    rw [bytes, List.length_append, List.length_append]
    omega
  have hparts : r.record.parts r.header = [.picture (byte r.header 9) (byte r.header 10)
      (uint16 r.header 5) (uint16 r.header 7) (uint32 r.header 12),
      .pictureMacros (byte r.header 16)] := by
    rw [hrecord]
    rfl
  obtain ⟨data, rest, hbehind, hdata, references, tail, rfl, hreferences, rfl⟩ :=
    hparts ▸ r.whole
  rw [List.append_nil] at hbehind
  have hshape : r.Picture data references := ⟨hpicture, hbehind, hdata.1⟩
  have hallParts : SupportedParts (r.record.parts r.header) r.behind :=
    hparts ▸ ⟨data, references, hbehind, ⟨hdata, trivial⟩, references, [],
      (List.append_nil _).symm, ⟨hreferences, trivial⟩, rfl⟩
  have hsupported : r.Supported ↔ r.record.valid r.header = true ∧
      (r.FillsPicture data ∨ References (byte r.header 16) references IsKnown) := by
    constructor
    · intro h
      exact ⟨h.valid, h.picture data references hshape⟩
    · rintro ⟨hvalid, hright⟩
      refine ⟨hvalid, hallParts, by rw [hpicture]; decide, fun data' references' hshape' => ?_⟩
      obtain ⟨rfl, rfl⟩ := hshape.unique hshape'
      exact hright
  have hmisread : r.Misread ↔
      r.FillsPicture data ∧ ¬References (byte r.header 16) references IsKnown := by
    constructor
    · rintro ⟨data', references', hshape', h⟩
      obtain ⟨rfl, rfl⟩ := hshape.unique hshape'
      exact h
    · exact fun h => ⟨data, references, hshape, h⟩
  -- the references leave something behind exactly when one of them is unknown
  obtain ⟨macros, complete, left, hcomplete, hleft, hmacros⟩ : ∃ macros complete left,
      (complete = true ↔ References (byte r.header 16) references IsKnown) ∧
      (left = [] ↔ complete = true) ∧
      ∀ more, parseObjectMacroReference (byte r.header 16) (references ++ more) =
        .done (macros, complete) (left ++ more) := by
    by_cases hknown : References (byte r.header 16) references IsKnown
    · obtain ⟨macros, hmacros⟩ := parseObjectMacroReference_known hknown
      exact ⟨macros, true, [], by simp [hknown], by simp, hmacros⟩
    · obtain ⟨macros, left, hleft, hmacros⟩ :=
        parseObjectMacroReference_unknown hreferences hknown
      exact ⟨macros, false, left, by simp [hknown], by simp [hleft], hmacros⟩
  let contents : Contents :=
    { rawData := Part.decoded (byte r.header 9) (byte r.header 10) (uint16 r.header 5)
        (uint16 r.header 7) data, macros, macrosComplete := complete }
  have hread (more : List UInt8) :
      readParts {} (r.record.parts r.header) (r.behind ++ more) =
          .done contents (left ++ more) := by
    have hlast (before : Contents) : (Part.pictureMacros (byte r.header 16)).read before
        (references ++ more) =
          .done { before with macros, macrosComplete := complete } (left ++ more) := by
      rw [Part.read, bind_of_done (hmacros more)]
      rfl
    rw [hparts, hbehind, List.append_assoc, readParts,
      bind_of_done (Part.read_picture hdata {} (references ++ more)), readParts,
      bind_of_done (hlast _)]
    rfl
  have haccepted : r.record.accepted r.header contents = true ↔
      r.FillsPicture data ∨ References (byte r.header 16) references IsKnown := by
    rw [hrecord, ← hcomplete, FillsPicture]
    change (decide _ || _) = true ↔ _
    rw [Bool.or_eq_true, decide_eq_true_iff]
  by_cases hright : r.record.valid r.header = true ∧
      (r.FillsPicture data ∨ References (byte r.header 16) references IsKnown)
  · refine .inr ⟨hsupported.mpr hright, left, ?_, fun decodedID =>
      ⟨r.record.object decodedID r.header contents, fun more => ?_⟩⟩
    · rw [hmisread, Ne, hleft, hcomplete]
      exact ⟨fun h => ⟨hright.2.resolve_right h, h⟩, fun h => h.2⟩
    · rw [hwanted, if_pos (hlength more), read_eq (by rw [hminimum]; exact hlength more) hright.1,
        bind_of_done (hread more), bind_of_done (demand_of (haccepted.mpr hright.2))]
      rfl
  · refine .inl ⟨fun h => hright (hsupported.mp h), fun decodedID more => ?_⟩
    by_cases hvalid : r.record.valid r.header = true
    · rw [read_eq (by rw [hminimum]; exact hlength more) hvalid, bind_of_done (hread more),
        bind_of_refused (demand_of_not fun h => hright ⟨hvalid, haccepted.mp h⟩)]
    · exact read_invalid hvalid

theorem outcome (r : CompleteRecord) : r.Outcome := by
  by_cases hpicture : r.type = .pictureGraphic
  · exact outcome_of_pictureGraphic hpicture
  · by_cases hstring : r.type = .inputString
    · exact outcome_of_inputString hstring
    · exact outcome_of_plain hpicture hstring

variable {ws : WorkingSetBase} {more : List UInt8}

def objectID (r : CompleteRecord) : UInt16 := uint16 r.header 0

def Admitted (r : CompleteRecord) (ws : WorkingSetBase) : Prop :=
  r.type = .workingSet → ws.admitsWorkingSet r.objectID = true

theorem four_lt_header (r : CompleteRecord) : 4 < r.header.length :=
  r.header_length ▸ VirtualTerminalObjectType.headerLength_pos r.record_eq

theorem parseNextObject_eq (r : CompleteRecord) (ws : WorkingSetBase) (more : List UInt8) :
    ws.parseNextObject (r.bytes ++ more) =
      match ws.objectReader r.type r.objectID (r.bytes ++ more) with
      | .done object rest =>
        .accepted ((ws.enter r.type r.objectID).addOrReplaceObject object) rest
      | .refused => .refused { ws.enter r.type r.objectID with faultingObjectID := r.objectID }
      | .outside => .outside := by
  have hfour := r.four_lt_header
  have hbyte {index : Nat} (h : index < 4) :
      byte (r.bytes ++ more) index = byte r.header index := by
    rw [bytes, List.append_assoc]
    exact byte_append (by omega)
  have hid : uint16 (r.bytes ++ more) 0 = r.objectID := by
    rw [objectID, uint16, uint16, hbyte (by decide), hbyte (by decide)]
  have hlength : (r.bytes ++ more).length > 3 := by
    rw [bytes, List.length_append, List.length_append]
    omega
  rw [WorkingSetBase.parseNextObject, if_pos hlength, hbyte (by decide), r.type_eq, hid] <;> rfl

theorem objectReader_admitted (h : r.Admitted ws) :
    ws.objectReader r.type r.objectID (r.bytes ++ more) =
      r.record.read r.objectID (r.bytes ++ more) := by
  rw [WorkingSetBase.objectReader, r.record_eq]
  exact bind_of_done (demand_of h)

theorem objectReader_not_admitted (h : ¬r.Admitted ws) :
    ws.objectReader r.type r.objectID (r.bytes ++ more) = .refused := by
  rw [WorkingSetBase.objectReader, r.record_eq]
  exact bind_of_refused (demand_of_not h)

def Settled (r : CompleteRecord) : Prop :=
  r.Supported → r.wanted ≤ r.bytes.length ∧ ¬r.Misread

theorem Settled.parseNextObject (h : r.Settled) (ws : WorkingSetBase) :
    (∃ ws', ∀ more, ws.parseNextObject (r.bytes ++ more) = .accepted ws' more) ∨
      ∃ ws', ∀ more, ws.parseNextObject (r.bytes ++ more) = .refused ws' := by
  by_cases hadmitted : r.Admitted ws
  · rcases r.outcome with ⟨-, hrefused⟩ | ⟨hsupported, left, hleft, hread⟩
    · exact .inr ⟨_, fun more => by
        rw [parseNextObject_eq, objectReader_admitted hadmitted, hrefused]⟩
    · obtain ⟨hwanted, hmisread⟩ := h hsupported
      obtain rfl : left = [] := not_not.mp fun hne => hmisread (hleft.mp hne)
      obtain ⟨object, hobject⟩ := hread r.objectID
      have hlength (more : List UInt8) : r.wanted ≤ (r.bytes ++ more).length := by
        rw [List.length_append]
        omega
      exact .inl ⟨_, fun more => by
        rw [parseNextObject_eq, objectReader_admitted hadmitted, hobject, if_pos (hlength more),
          List.nil_append]⟩
  · exact .inr ⟨_, fun more => by
      rw [parseNextObject_eq, objectReader_not_admitted hadmitted]⟩

theorem Supported.parseNextObject (h : r.Supported) :
    ∃ left, (left ≠ [] ↔ r.Misread) ∧ ∃ ws', ∀ more,
      WorkingSetBase.parseNextObject {} (r.bytes ++ more) =
      if r.wanted ≤ (r.bytes ++ more).length then .accepted ws' (left ++ more)
      else .refused
        { WorkingSetBase.enter {} r.type r.objectID with faultingObjectID := r.objectID } := by
  rcases r.outcome with ⟨hnot, -⟩ | ⟨-, left, hleft, hread⟩
  · exact absurd h hnot
  · obtain ⟨object, hobject⟩ := hread r.objectID
    refine ⟨left, hleft, (WorkingSetBase.enter {} r.type r.objectID).addOrReplaceObject object,
      fun more => ?_⟩
    rw [parseNextObject_eq, objectReader_admitted fun _ => rfl, hobject]
    split_ifs <;> rfl

end CompleteRecord

def poolOf (records : List CompleteRecord) : List UInt8 := (records.map (·.bytes)).flatten

theorem poolOf_cons (r : CompleteRecord) (records : List CompleteRecord) :
    poolOf (r :: records) = r.bytes ++ poolOf records := rfl

theorem bytes_append_ne_nil (r : CompleteRecord) (more : List UInt8) : r.bytes ++ more ≠ [] := by
  have hfour := r.four_lt_header
  intro h
  have hlength := congrArg List.length h
  simp only [CompleteRecord.bytes, List.length_append, List.length_nil] at hlength
  omega

theorem parseObjects_poolOf {records : List CompleteRecord} (h : ∀ r ∈ records, r.Settled)
    (ws : WorkingSetBase) :
    (∃ ws' : WorkingSetBase, ∀ more,
      ws.parseObjects (poolOf records ++ more) = ws'.parseObjects more) ∨
      ∃ ws', ∀ more, ws.parseObjects (poolOf records ++ more) = .refused ws' := by
  induction records generalizing ws with
  | nil => exact .inl ⟨ws, fun _ => rfl⟩
  | cons r records ih =>
    obtain ⟨hr, hrecords⟩ := List.forall_mem_cons.mp h
    have hsplit (more : List UInt8) :
        poolOf (r :: records) ++ more = r.bytes ++ (poolOf records ++ more) := by
      rw [poolOf_cons, List.append_assoc]
    rcases hr.parseNextObject ws with ⟨ws₁, haccepted⟩ | ⟨ws₁, hrefused⟩
    · have hnext (more : List UInt8) : ws.parseObjects (poolOf (r :: records) ++ more) =
          ws₁.parseObjects (poolOf records ++ more) := by
        rw [hsplit, WorkingSetBase.parseObjects_of_accepted (bytes_append_ne_nil r _)
          (haccepted _)]
      rcases ih hrecords ws₁ with ⟨ws', hws'⟩ | ⟨ws', hws'⟩
      · exact .inl ⟨ws', fun more => (hnext more).trans (hws' more)⟩
      · exact .inr ⟨ws', fun more => (hnext more).trans (hws' more)⟩
    · exact .inr ⟨ws₁, fun more => by
        rw [hsplit, WorkingSetBase.parseObjects_of_refused (bytes_append_ne_nil r _)
          (hrefused _)]⟩

/-- A pool of the records, with anything behind it, is parsed as the records and then the rest; a
record is accepted anywhere or nowhere, and takes its own bytes. -/
structure IndependentOfRest (records : List CompleteRecord) : Prop where
  pools : records ≠ [] → ∀ (ws ws'' : WorkingSetBase) (y : List UInt8), y ≠ [] →
    (ws.parseIopIntoObjects (poolOf records ++ y) = .accepted ws'' [] ↔
      ∃ ws', ws.parseIopIntoObjects (poolOf records) = .accepted ws' [] ∧
        ws'.parseIopIntoObjects y = .accepted ws'' [])
  place : ∀ r ∈ records, ∀ (ws : WorkingSetBase) (more : List UInt8),
    (∃ ws' rest, ws.parseNextObject r.bytes = .accepted ws' rest) ↔
      ∃ ws' rest, ws.parseNextObject (r.bytes ++ more) = .accepted ws' rest
  consumed : ∀ r ∈ records, ∀ (ws ws' : WorkingSetBase) (more rest : List UInt8),
    ws.parseNextObject (r.bytes ++ more) = .accepted ws' rest → rest = more

theorem IndependentOfRest.settled {records : List CompleteRecord}
    (h : IndependentOfRest records) {r : CompleteRecord} (hr : r ∈ records) : r.Settled := by
  intro hsupported
  obtain ⟨left, hleft, ws', hws'⟩ := hsupported.parseNextObject
  let filler := List.replicate r.wanted (0 : UInt8)
  have hfiller : r.wanted ≤ (r.bytes ++ filler).length := by
    rw [List.length_append, List.length_replicate]
    omega
  have haccepted := (hws' filler).trans (if_pos hfiller)
  constructor
  · by_contra hshort
    obtain ⟨ws'', rest, halone⟩ := (h.place r hr {} filler).mpr ⟨ws', _, haccepted⟩
    have hrefused := (hws' []).trans (if_neg (by rwa [List.append_nil]))
    rw [List.append_nil, halone] at hrefused
    cases hrefused
  · intro hmisread
    have hrest := h.consumed r hr {} ws' filler _ haccepted
    exact hleft.mpr hmisread (List.append_left_eq_self.mp hrest)

theorem independentOfRest_iff (records : List CompleteRecord) :
    IndependentOfRest records ↔
      ∀ r ∈ records, r.Supported → r.wanted ≤ r.bytes.length ∧ ¬r.Misread := by
  refine ⟨fun h r hr => h.settled hr, fun h => ⟨?_, ?_, ?_⟩⟩
  · intro hne ws ws'' y hy
    have hpool : poolOf records ≠ [] := by
      cases records with
      | nil => exact absurd rfl hne
      | cons r records => exact bytes_append_ne_nil r _
    rw [WorkingSetBase.parseIopIntoObjects, WorkingSetBase.parseIopIntoObjects, if_neg hpool,
      if_neg (List.append_ne_nil_of_left_ne_nil hpool y)]
    simp only [WorkingSetBase.parseIopIntoObjects, if_neg hy]
    rcases parseObjects_poolOf h ws with ⟨ws', hws'⟩ | ⟨ws', hws'⟩
    · have halone := (hws' []).trans WorkingSetBase.parseObjects_nil
      rw [List.append_nil] at halone
      rw [hws', halone]
      constructor
      · exact fun hy => ⟨ws', rfl, hy⟩
      · rintro ⟨_, heq, hy⟩
        obtain ⟨rfl, -⟩ := Parsing.accepted.inj heq
        exact hy
    · have halone := hws' []
      rw [List.append_nil] at halone
      rw [hws', halone]
      exact iff_of_false (by simp) fun ⟨_, heq, _⟩ => absurd heq nofun
  · intro r hr ws more
    rcases CompleteRecord.Settled.parseNextObject (h r hr) ws with ⟨ws', hws'⟩ | ⟨ws', hws'⟩
    · have halone := hws' []
      rw [List.append_nil] at halone
      exact iff_of_true ⟨ws', [], halone⟩ ⟨ws', more, hws' more⟩
    · have halone := hws' []
      rw [List.append_nil] at halone
      rw [halone, hws']
  · intro r hr ws ws'' more rest haccepted
    rcases CompleteRecord.Settled.parseNextObject (h r hr) ws with ⟨ws', hws'⟩ | ⟨ws', hws'⟩
    · rw [hws'] at haccepted
      exact (Parsing.accepted.inj haccepted).2.symm
    · rw [hws'] at haccepted
      cases haccepted

/-- An input string without macros is refused at the end of a pool. -/
def lastInputString : CompleteRecord where
  type := .inputString
  record := InputString.record
  header := [1, 0, 8, 10, 0, 10, 0, 1, 2, 0, 0xFF, 0xFF, 0, 0xFF, 0xFF, 0, 0]
  behind := [1, 0]
  record_eq := rfl
  type_eq := rfl
  header_length := rfl
  whole := ⟨[1], [0], rfl, rfl, [0], [], rfl, ⟨0, [], rfl, [], rfl, rfl, nofun⟩, rfl⟩

theorem lastInputString_not_independent : ¬IndependentOfRest [lastInputString] := by
  intro h
  have hplace := h.place lastInputString (List.mem_singleton.mpr rfl) {} [0]
  obtain ⟨ws', rest, halone⟩ := hplace.mpr ⟨_, _, rfl⟩
  have hrefused : ∃ ws', WorkingSetBase.parseNextObject {} lastInputString.bytes = .refused ws' :=
    ⟨_, rfl⟩
  rw [halone] at hrefused
  obtain ⟨ws'', heq⟩ := hrefused
  cases heq

end Isobus.VirtualTerminal
