import Isobus.Diagnostics.Update

namespace Isobus.Diagnostics

open Isobus.Can Isobus.Lib

inductive Identification
  | product
  | ecu
  | software
  deriving DecidableEq

namespace Identification

def flag : Identification → TransmitFlags
  | product => .productIdentification
  | ecu => .ecuIdentification
  | software => .softwareIdentification

def parameterGroupNumber : Identification → UInt32
  | product => PRODUCT_IDENTIFICATION
  | ecu => ECU_IDENTIFICATION_INFORMATION
  | software => SOFTWARE_IDENTIFICATION

variable (protocol : DiagnosticProtocol)

def data : Identification → List UInt8
  | product => protocol.productIdentification
  | ecu => protocol.ecuIdentification
  | software => protocol.softwareIdentification

def Exists : Identification → Prop
  | software => protocol.softwareIdentificationFields ≠ []
  | _ => True

instance instDecidableExists (identification : Identification) :
    Decidable (identification.Exists protocol) := by
  cases identification <;> unfold Exists <;> infer_instance

/-- Whom the next attempt is for; nobody in particular if it is a broadcast. -/
def destination (identification : Identification) : Option CFRef :=
  protocol.requester identification.parameterGroupNumber (identification.data protocol)

theorem parameterGroupNumber_ne {identification other : Identification}
    (h : other ≠ identification) :
    other.parameterGroupNumber ≠ identification.parameterGroupNumber := by
  revert h
  cases identification <;> cases other <;> decide

end Identification

/-- Who waits for an identification, whom a failed attempt was for, and whether the next one went
elsewhere. -/
structure Requesters where
  waiting : List CFRef := []
  failedTo : Option CFRef := none
  strayed : Prop := False

namespace Requesters

def request (requester : CFRef) (requesters : Requesters) : Requesters :=
  { requesters with waiting := requesters.waiting ++ [requester] }

def attempt (destination : Option CFRef) (sent : Bool) (requesters : Requesters) : Requesters where
  waiting :=
    if sent then
      match destination with
      | none => []
      | some requester => requesters.waiting.filter (· ≠ requester)
    else requesters.waiting
  failedTo := if sent then none else destination
  strayed := requesters.strayed ∨
    ∃ requester, requesters.failedTo = some requester ∧ destination ≠ some requester

def note (identification : Identification) (requesters : Requesters) : Event → Requesters
  | .message frame sent =>
    if frame.parameterGroupNumber = identification.parameterGroupNumber then
      requesters.attempt frame.destination sent
    else requesters
  | .outOfBounds => requesters

end Requesters

abbrev RequestRecord := Identification → Requesters

def RequestRecord.ask (record : RequestRecord) (call : Call) : RequestRecord :=
  fun identification =>
    match call with
    | .processParameterGroupNumberRequest parameterGroupNumber (some requester) =>
      if parameterGroupNumber = identification.parameterGroupNumber then
        (record identification).request requester
      else record identification
    | _ => record identification

def RequestRecord.note (record : RequestRecord) (protocol : DiagnosticProtocol) (input : Input) :
    RequestRecord := fun identification =>
  (diagnosticProtocol.emits protocol input).foldl (Requesters.note identification)
    (record.ask input.call identification)

def requested : Machine (DiagnosticProtocol × RequestRecord) Input Event :=
  diagnosticProtocol.recording RequestRecord.note

/-- With the flag clear nobody waits, a failed attempt leaves it set, and none after it went to
somebody else. -/
structure Reached (state : DiagnosticProtocol × RequestRecord) : Prop where
  served : ∀ identification : Identification, state.1.txFlags identification.flag = false →
    (state.2 identification).waiting = []
  retried : ∀ identification : Identification, state.1.txFlags identification.flag = false →
    (state.2 identification).failedTo = none
  straight : ∀ identification, ¬(state.2 identification).strayed

def DiagnosticProtocol.beforeFlag (env : Environment) (flag : TransmitFlags)
    (protocol : DiagnosticProtocol) : Turn :=
  (TransmitFlags.all.takeWhile (· ≠ flag)).foldl (Turn.processFlag env)
    ⟨(protocol.resumeBroadcasts env).scheduleDM1 env, []⟩

/-- An identification goes to whom the failed attempt was for, or nobody else waits for it. -/
def ServesOne (state : DiagnosticProtocol × RequestRecord) (input : Input) : Prop :=
  input.call = .update → ∀ identification : Identification,
    state.1.txFlags identification.flag = true → identification.Exists state.1 →
    (∀ requester, (state.2 identification).failedTo = some requester →
      identification.destination state.1 = some requester) ∧
    (∀ requester, identification.destination state.1 = some requester →
      input.env.accepts (state.1.beforeFlag input.env identification.flag).events.length = true →
      ∀ other ∈ (state.2 identification).waiting, other = requester)

def Event.isFor (identification : Identification) : Event → Prop
  | .message frame _ => frame.parameterGroupNumber = identification.parameterGroupNumber
  | .outOfBounds => False

theorem foldl_note_of_not {identification : Identification} {events : List Event}
    (h : ∀ event ∈ events, ¬event.isFor identification) (requesters : Requesters) :
    events.foldl (Requesters.note identification) requesters = requesters := by
  induction events generalizing requesters with
  | nil => rfl
  | cons event events ih =>
    obtain ⟨hevent, hevents⟩ := List.forall_mem_cons.mp h
    have hnote : requesters.note identification event = requesters := by
      cases event with
      | message frame sent => exact if_neg hevent
      | outOfBounds => rfl
    rw [List.foldl_cons, hnote, ih hevents]

/-- The same flag, the same memory, and no further message of an identification. -/
structure Turn.Spares (identification : Identification) (turn turn' : Turn) : Prop where
  pending : turn'.protocol.pendingRequests identification.parameterGroupNumber =
    turn.protocol.pendingRequests identification.parameterGroupNumber
  flag : turn'.protocol.txFlags identification.flag = turn.protocol.txFlags identification.flag
  events : ∃ more, turn'.events = turn.events ++ more ∧ ∀ event ∈ more, ¬event.isFor identification

namespace Turn.Spares

variable {identification : Identification} {turn turn' turn'' : Turn} {env : Environment}

theorem trans (h : turn.Spares identification turn') (h' : turn'.Spares identification turn'') :
    turn.Spares identification turn'' := by
  obtain ⟨more, hmore, hnone⟩ := h.events
  obtain ⟨more', hmore', hnone'⟩ := h'.events
  refine ⟨h'.pending.trans h.pending, h'.flag.trans h.flag, more ++ more', ?_, ?_⟩
  · rw [hmore', hmore, List.append_assoc]
  · exact List.forall_mem_append.mpr ⟨hnone, hnone'⟩

theorem of_events_eq (hevents : turn'.events = turn.events)
    (hpending : turn'.protocol.pendingRequests identification.parameterGroupNumber =
      turn.protocol.pendingRequests identification.parameterGroupNumber)
    (hflag : turn'.protocol.txFlags identification.flag =
      turn.protocol.txFlags identification.flag) : turn.Spares identification turn' :=
  ⟨hpending, hflag, [], by rw [hevents, List.append_nil], fun _ h => absurd h List.not_mem_nil⟩

theorem map {f : DiagnosticProtocol → DiagnosticProtocol}
    (hpending : (f turn.protocol).pendingRequests identification.parameterGroupNumber =
      turn.protocol.pendingRequests identification.parameterGroupNumber)
    (hflag : (f turn.protocol).txFlags identification.flag =
      turn.protocol.txFlags identification.flag) : turn.Spares identification (turn.map f) :=
  of_events_eq rfl hpending hflag

theorem refl (turn : Turn) : turn.Spares identification turn := of_events_eq rfl rfl rfl

theorem emit {event : Event} (h : ¬event.isFor identification) (turn : Turn) :
    turn.Spares identification (turn.emit event) :=
  ⟨rfl, rfl, [event], rfl, List.forall_mem_singleton.mpr h⟩

theorem offer {frame : TransmitFrame}
    (h : frame.parameterGroupNumber ≠ identification.parameterGroupNumber) (env : Environment)
    (turn : Turn) : turn.Spares identification (turn.offer env frame) := by
  have hfor : ¬(Event.message frame (turn.sent env)).isFor identification := h
  exact emit hfor turn

theorem sendTroubleCodes {parameterGroupNumber : UInt32}
    (h : parameterGroupNumber ≠ identification.parameterGroupNumber) (payloadSize : UInt16)
    (dtcs : List DiagnosticTroubleCode) :
    turn.Spares identification
      (turn.sendTroubleCodes env parameterGroupNumber payloadSize dtcs).1 := by
  rw [Turn.sendTroubleCodes]
  by_cases hsize : payloadSize ≤ MAX_PAYLOAD_SIZE_BYTES
  · rw [if_pos hsize]
    dsimp only
    split_ifs
    · exact offer h env turn
    · exact (emit id turn).trans (offer h env _)
  · rw [if_neg hsize]
    exact refl turn

theorem sendDm22Responses (retVal : Bool) (attempts : Nat) (turn : Turn) :
    turn.Spares identification (turn.sendDm22Responses env retVal attempts).1 := by
  have hgroup : DIAGNOSTIC_MESSAGE_22 ≠ identification.parameterGroupNumber := by
    cases identification <;> decide
  induction attempts generalizing retVal turn with
  | zero => exact refl turn
  | succ attempts ih =>
    rw [Turn.sendDm22Responses]
    cases turn.protocol.dm22ResponseQueue.getLast? with
    | none => exact refl turn
    | some response =>
      have hoffer : turn.Spares identification
          (turn.offer env (turn.protocol.dm22Frame response)) := offer hgroup env turn
      split_ifs
      · exact (hoffer.trans (map rfl rfl)).trans (ih _ _)
      · exact hoffer.trans (ih _ _)

end Turn.Spares

namespace Identification

variable (env : Environment) (turn : Turn)

theorem transmit_flag (identification : Identification) :
    turn.transmit env identification.flag =
      if identification.Exists turn.protocol then
        turn.sendIdentification env identification.parameterGroupNumber
          (identification.data turn.protocol)
      else (turn, false) := by
  cases identification <;> rfl

theorem eraseRequest_of_ne {parameterGroupNumber other : UInt32} (h : other ≠ parameterGroupNumber)
    (protocol : DiagnosticProtocol) :
    (protocol.eraseRequest parameterGroupNumber).pendingRequests other =
      protocol.pendingRequests other := if_neg h

theorem spares_other {identification other : Identification} (h : other ≠ identification) :
    turn.Spares identification (turn.transmit env other.flag).1 := by
  rw [transmit_flag]
  split_ifs
  · have hgroup := parameterGroupNumber_ne h
    rw [Turn.sendIdentification]
    dsimp only
    exact (Turn.Spares.offer hgroup env turn).trans (.map (eraseRequest_of_ne hgroup.symm _) rfl)
  · exact .refl turn

theorem spares_transmit {identification : Identification} {flag : TransmitFlags}
    (h : flag ≠ identification.flag) :
    turn.Spares identification (turn.transmit env flag).1 := by
  cases flag with
  | dm1 =>
    have hgroup : DIAGNOSTIC_MESSAGE_1 ≠ identification.parameterGroupNumber := by
      cases identification <;> decide
    have hsend : turn.Spares identification (turn.sendDiagnosticMessage1 env).1 :=
      .sendTroubleCodes hgroup _ _
    rw [Turn.transmit]
    dsimp only
    split_ifs
    · exact hsend.trans (.map rfl rfl)
    · exact hsend
  | dm2 =>
    have hgroup : DIAGNOSTIC_MESSAGE_2 ≠ identification.parameterGroupNumber := by
      cases identification <;> decide
    exact .sendTroubleCodes hgroup _ _
  | diagnosticProtocolID =>
    have hgroup : DIAGNOSTIC_PROTOCOL_IDENTIFICATION ≠ identification.parameterGroupNumber := by
      cases identification <;> decide
    exact .offer hgroup env turn
  | dm22 => exact .sendDm22Responses _ _ turn
  | productIdentification =>
    exact @spares_other env turn _ .product fun heq => h (congrArg Identification.flag heq)
  | ecuIdentification =>
    exact @spares_other env turn _ .ecu fun heq => h (congrArg Identification.flag heq)
  | softwareIdentification =>
    exact @spares_other env turn _ .software fun heq =>
      h (congrArg Identification.flag heq)

theorem spares_processFlag {identification : Identification} {flag : TransmitFlags}
    (h : flag ≠ identification.flag) :
    turn.Spares identification (turn.processFlag env flag) := by
  rw [Turn.processFlag]
  split_ifs
  · have hclear : turn.Spares identification (turn.map (·.clearFlag flag)) :=
      .map rfl (ProcessingFlags.clearFlag_of_ne h.symm _)
    have hsent := hclear.trans (spares_transmit env (turn.map (·.clearFlag flag)) h)
    rw [Turn.processFlags]
    split_ifs
    · exact hsent
    · exact hsent.trans (.map rfl (ProcessingFlags.setFlag_of_ne h.symm _))
  · exact .refl turn

theorem spares_foldl {identification : Identification} {flags : List TransmitFlags}
    (h : ∀ flag ∈ flags, flag ≠ identification.flag) (turn : Turn) :
    turn.Spares identification (flags.foldl (Turn.processFlag env) turn) := by
  induction flags generalizing turn with
  | nil => exact .refl turn
  | cons flag flags ih =>
    obtain ⟨hflag, hflags⟩ := List.forall_mem_cons.mp h
    exact (spares_processFlag env turn hflag).trans (ih hflags _)

theorem all_eq (identification : Identification) :
    TransmitFlags.all = TransmitFlags.all.takeWhile (· ≠ identification.flag) ++
      identification.flag :: (TransmitFlags.all.dropWhile (· ≠ identification.flag)).tail := by
  cases identification <;> rfl

theorem flags_before (identification : Identification) :
    ∀ flag ∈ TransmitFlags.all.takeWhile (· ≠ identification.flag), flag ≠ identification.flag := by
  cases identification <;> decide

theorem flags_behind (identification : Identification) :
    ∀ flag ∈ (TransmitFlags.all.dropWhile (· ≠ identification.flag)).tail,
      flag ≠ identification.flag := by
  cases identification <;> decide

structure SameTexts (protocol protocol' : DiagnosticProtocol) : Prop where
  data : ∀ identification : Identification,
    identification.data protocol' = identification.data protocol
  exists_iff : ∀ identification : Identification,
    identification.Exists protocol' ↔ identification.Exists protocol

theorem SameTexts.of_sendsOnly {protocol protocol' : DiagnosticProtocol}
    (h : protocol.SendsOnly protocol') : SameTexts protocol protocol' := by
  obtain ⟨_, _, _, _, rfl⟩ := h
  refine ⟨fun identification => ?_, fun identification => ?_⟩
  · cases identification <;> rfl
  · cases identification <;> exact Iff.rfl

theorem SameTexts.trans {protocol protocol' protocol'' : DiagnosticProtocol}
    (h : SameTexts protocol protocol') (h' : SameTexts protocol' protocol'') :
    SameTexts protocol protocol'' :=
  ⟨fun identification => (h'.data identification).trans (h.data identification),
    fun identification => (h'.exists_iff identification).trans (h.exists_iff identification)⟩

theorem resumed (protocol : DiagnosticProtocol) (identification : Identification) :
    SameTexts protocol ((protocol.resumeBroadcasts env).scheduleDM1 env) ∧
      (⟨protocol, []⟩ : Turn).Spares identification
        ⟨(protocol.resumeBroadcasts env).scheduleDM1 env, []⟩ := by
  have hresume : SameTexts protocol (protocol.resumeBroadcasts env) ∧
      (⟨protocol, []⟩ : Turn).Spares identification ⟨protocol.resumeBroadcasts env, []⟩ := by
    rw [DiagnosticProtocol.resumeBroadcasts]
    split_ifs
    all_goals
      refine ⟨⟨fun identification => ?_, fun identification => ?_⟩, .of_events_eq rfl rfl rfl⟩
      · cases identification <;> rfl
      · cases identification <;> exact Iff.rfl
  have hschedule (other : DiagnosticProtocol) : SameTexts other (other.scheduleDM1 env) ∧
      (⟨other, []⟩ : Turn).Spares identification ⟨other.scheduleDM1 env, []⟩ := by
    rw [DiagnosticProtocol.scheduleDM1]
    split_ifs
    · refine ⟨.of_sendsOnly ⟨_, _, _, _, rfl⟩, .of_events_eq rfl rfl ?_⟩
      cases identification <;> rfl
    · exact ⟨.of_sendsOnly (.refl other), .refl _⟩
  exact ⟨hresume.1.trans (hschedule _).1, hresume.2.trans (hschedule _).2⟩

theorem before (protocol : DiagnosticProtocol) (identification : Identification) :
    SameTexts protocol (protocol.beforeFlag env identification.flag).protocol ∧
      (⟨protocol, []⟩ : Turn).Spares identification
        (protocol.beforeFlag env identification.flag) :=
  ⟨(resumed env protocol identification).1.trans
      (.of_sendsOnly (Turn.foldl_processFlag_sendsOnly env _ _)),
    (resumed env protocol identification).2.trans
      (spares_foldl env identification.flags_before _)⟩

variable {turn}

theorem processFlag_of_exists {identification : Identification}
    (hset : turn.protocol.txFlags identification.flag = true)
    (hexists : identification.Exists turn.protocol) :
    (turn.processFlag env identification.flag).events = turn.events ++
        [.message (turn.protocol.frame identification.parameterGroupNumber
          (identification.data turn.protocol) (identification.destination turn.protocol))
          (turn.sent env)] ∧
      (turn.processFlag env identification.flag).protocol.txFlags identification.flag =
        !turn.sent env := by
  have hclear : turn.protocol.SendsOnly (turn.map (·.clearFlag identification.flag)).protocol :=
    ⟨_, _, _, _, rfl⟩
  have htexts := SameTexts.of_sendsOnly hclear
  rw [Turn.processFlag, if_pos hset, Turn.processFlags, transmit_flag,
    if_pos ((htexts.exists_iff identification).mpr hexists), htexts.data identification,
    Turn.sendIdentification]
  by_cases htaken : turn.sent env = true
  · have hsent : (turn.map (·.clearFlag identification.flag)).sent env = true := htaken
    rw [if_pos hsent, htaken]
    refine ⟨?_, ProcessingFlags.clearFlag_self identification.flag turn.protocol.txFlags⟩
    rw [← htaken]
    rfl
  · have hsent : ¬(turn.map (·.clearFlag identification.flag)).sent env = true := htaken
    rw [if_neg hsent, Bool.eq_false_iff.mpr htaken]
    refine ⟨?_, ProcessingFlags.setFlag_self identification.flag _⟩
    rw [← Bool.eq_false_iff.mpr htaken]
    rfl

theorem processFlag_of_not_exists {identification : Identification}
    (hset : turn.protocol.txFlags identification.flag = true)
    (hexists : ¬identification.Exists turn.protocol) :
    (turn.processFlag env identification.flag).events = turn.events ∧
      (turn.processFlag env identification.flag).protocol.txFlags identification.flag = true := by
  have hclear : turn.protocol.SendsOnly (turn.map (·.clearFlag identification.flag)).protocol :=
    ⟨_, _, _, _, rfl⟩
  have hnot : ¬identification.Exists (turn.map (·.clearFlag identification.flag)).protocol :=
    fun h => hexists (((SameTexts.of_sendsOnly hclear).exists_iff identification).mp h)
  rw [Turn.processFlag, if_pos hset, Turn.processFlags, transmit_flag, if_neg hnot,
    if_neg Bool.false_ne_true]
  exact ⟨rfl, ProcessingFlags.setFlag_self identification.flag _⟩

theorem foldl_note_update (protocol : DiagnosticProtocol) (identification : Identification)
    (requesters : Requesters) :
    ((Turn.update env ⟨protocol, []⟩).events.foldl (Requesters.note identification) requesters =
        ((protocol.beforeFlag env identification.flag).processFlag env
          identification.flag).events.foldl (Requesters.note identification) requesters) ∧
      (Turn.update env ⟨protocol, []⟩).protocol.txFlags identification.flag =
        ((protocol.beforeFlag env identification.flag).processFlag env
          identification.flag).protocol.txFlags identification.flag := by
  have hsplit : Turn.update env ⟨protocol, []⟩ =
      ((TransmitFlags.all.dropWhile (· ≠ identification.flag)).tail).foldl (Turn.processFlag env)
        ((protocol.beforeFlag env identification.flag).processFlag env identification.flag) := by
    have hfold := congrArg (List.foldl (Turn.processFlag env)
      ⟨(protocol.resumeBroadcasts env).scheduleDM1 env, []⟩) (all_eq identification)
    rw [List.foldl_append, List.foldl_cons] at hfold
    exact hfold
  have hbehind := spares_foldl env identification.flags_behind
    ((protocol.beforeFlag env identification.flag).processFlag env identification.flag)
  obtain ⟨more, hmore, hnone⟩ := hbehind.events
  rw [hsplit]
  refine ⟨?_, hbehind.flag⟩
  rw [hmore, List.foldl_append, foldl_note_of_not hnone]

theorem note_update_of_exists {protocol : DiagnosticProtocol} {identification : Identification}
    (hset : protocol.txFlags identification.flag = true)
    (hexists : identification.Exists protocol) (requesters : Requesters) :
    (Turn.update env ⟨protocol, []⟩).events.foldl (Requesters.note identification) requesters =
        requesters.attempt (identification.destination protocol)
          (env.accepts (protocol.beforeFlag env identification.flag).events.length) ∧
      (Turn.update env ⟨protocol, []⟩).protocol.txFlags identification.flag =
        !env.accepts (protocol.beforeFlag env identification.flag).events.length := by
  obtain ⟨htexts, hspares⟩ := before env protocol identification
  obtain ⟨more, hmore, hnone⟩ := hspares.events
  obtain ⟨hevents, hflag⟩ := foldl_note_update env protocol identification requesters
  obtain ⟨hattempt, hclear⟩ := processFlag_of_exists env (hspares.flag.trans hset)
    ((htexts.exists_iff identification).mpr hexists)
  have hdestination :
      identification.destination (protocol.beforeFlag env identification.flag).protocol =
      identification.destination protocol := by
    rw [destination, destination, htexts.data identification, DiagnosticProtocol.requester,
      DiagnosticProtocol.requester, hspares.pending]
  refine ⟨?_, hflag.trans hclear⟩
  have hskip : (protocol.beforeFlag env identification.flag).events.foldl
      (Requesters.note identification) requesters = requesters := by
    rw [hmore, List.nil_append, foldl_note_of_not hnone]
  rw [hevents, hattempt, List.foldl_append, hskip, hdestination]
  exact if_pos rfl

theorem note_update_of_not {protocol : DiagnosticProtocol} {identification : Identification}
    (h : ¬(protocol.txFlags identification.flag = true ∧ identification.Exists protocol))
    (requesters : Requesters) :
    (Turn.update env ⟨protocol, []⟩).events.foldl (Requesters.note identification) requesters =
        requesters ∧
      (Turn.update env ⟨protocol, []⟩).protocol.txFlags identification.flag =
        protocol.txFlags identification.flag := by
  obtain ⟨htexts, hspares⟩ := before env protocol identification
  obtain ⟨more, hmore, hnone⟩ := hspares.events
  obtain ⟨hevents, hflag⟩ := foldl_note_update env protocol identification requesters
  rw [hevents, hflag]
  by_cases hset : protocol.txFlags identification.flag = true
  · have hexists : ¬identification.Exists
        (protocol.beforeFlag env identification.flag).protocol :=
      fun hthere => h ⟨hset, (htexts.exists_iff identification).mp hthere⟩
    obtain ⟨hsame, hkept⟩ := processFlag_of_not_exists env (hspares.flag.trans hset) hexists
    rw [hsame, hkept, hmore, List.nil_append, foldl_note_of_not hnone]
    exact ⟨rfl, hset.symm⟩
  · have hunset : ¬(protocol.beforeFlag env identification.flag).protocol.txFlags
        identification.flag = true := fun hflagged => hset (hspares.flag.symm.trans hflagged)
    rw [Turn.processFlag, if_neg hunset, hmore, List.nil_append, foldl_note_of_not hnone]
    exact ⟨rfl, hspares.flag⟩

end Identification

/-- Flags that are set stay set, and no identification is sent. -/
structure Quiet (protocol : DiagnosticProtocol) (turn : Turn) : Prop where
  flags : ∀ flag, protocol.txFlags flag = true → turn.protocol.txFlags flag = true
  events : ∀ identification, ∀ event ∈ turn.events, ¬event.isFor identification

namespace Quiet

variable {protocol protocol' : DiagnosticProtocol}

theorem of_flags (h : protocol'.txFlags = protocol.txFlags) : Quiet protocol ⟨protocol', []⟩ :=
  ⟨fun flag hset => (congrFun h flag).trans hset, fun _ _ hevent => absurd hevent List.not_mem_nil⟩

theorem of_setFlag {flag : TransmitFlags}
    (h : protocol'.txFlags = protocol.txFlags.setFlag flag) : Quiet protocol ⟨protocol', []⟩ := by
  refine ⟨fun other hset => ?_, fun _ _ hevent => absurd hevent List.not_mem_nil⟩
  have hother := congrFun h other
  rw [hother, ProcessingFlags.setFlag]
  split_ifs
  · rfl
  · exact hset

variable (env : Environment) (protocol)

theorem clearActiveDiagnosticTroubleCodes :
    Quiet protocol ⟨protocol.clearActiveDiagnosticTroubleCodes, []⟩ := by
  rw [DiagnosticProtocol.clearActiveDiagnosticTroubleCodes]
  split_ifs
  · exact of_setFlag rfl
  · exact of_flags rfl

theorem setDiagnosticTroubleCodeActive (dtc : DiagnosticTroubleCode) (active : Bool) :
    Quiet protocol ⟨protocol.setDiagnosticTroubleCodeActive env dtc active, []⟩ := by
  rw [DiagnosticProtocol.setDiagnosticTroubleCodeActive]
  by_cases hactive : active = true
  · rw [if_pos hactive, DiagnosticProtocol.activate]
    split_ifs
    · exact of_flags rfl
    · cases protocol.inactiveDTCList.find? (·.sameCode dtc) with
      | some known => exact of_flags rfl
      | none =>
        rw [DiagnosticProtocol.announceNewCode]
        split_ifs
        · exact of_setFlag rfl
        · exact of_flags rfl
  · rw [if_neg hactive, DiagnosticProtocol.deactivate]
    split_ifs
    · exact of_flags rfl
    · cases protocol.activeDTCList.find? (·.sameCode dtc) <;> exact of_flags rfl

theorem processMessage (message : CANMessage) :
    Quiet protocol ⟨protocol.processMessage message env, []⟩ := by
  rw [DiagnosticProtocol.processMessage]
  split_ifs
  · obtain ⟨_, _, _, hprocessed⟩ := protocol.exists_processDiagnosticMessage13 message env
    rw [hprocessed]
    exact of_flags rfl
  · rw [DiagnosticProtocol.processDiagnosticMessage22]
    split_ifs
    · rw [DiagnosticProtocol.requestToClearActive]
      cases protocol.activeDTCList.find? (DiagnosticProtocol.isRequested message) <;>
        exact of_setFlag rfl
    · rw [DiagnosticProtocol.requestToClearPreviouslyActive]
      split_ifs <;> exact of_setFlag rfl
    · exact of_flags rfl
    · exact of_flags rfl
  · exact of_flags rfl
  · exact of_flags rfl

theorem processParameterGroupNumberRequest (parameterGroupNumber : UInt32)
    (requester : Option CFRef) : Quiet protocol
      ⟨(protocol.processParameterGroupNumberRequest parameterGroupNumber requester).1, []⟩ := by
  cases requester with
  | none => exact of_flags rfl
  | some requester =>
    unfold DiagnosticProtocol.processParameterGroupNumberRequest
    split_ifs
    · exact of_setFlag rfl
    · exact of_setFlag rfl
    · exact of_flags rfl
    · exact clearActiveDiagnosticTroubleCodes protocol
    · exact of_setFlag rfl
    · exact of_setFlag rfl
    · exact of_setFlag rfl
    · exact of_setFlag rfl
    · exact of_flags rfl

variable {env protocol}

theorem serve {call : Call} (h : call ≠ .update) : Quiet protocol (protocol.serve env call) := by
  cases call with
  | update => exact absurd rfl h
  | clearActiveDiagnosticTroubleCodes => exact clearActiveDiagnosticTroubleCodes protocol
  | setDiagnosticTroubleCodeActive dtc active =>
    exact setDiagnosticTroubleCodeActive protocol env dtc active
  | onAddressViolation address =>
    rw [DiagnosticProtocol.serve, DiagnosticProtocol.onAddressViolation]
    split_ifs
    · exact setDiagnosticTroubleCodeActive protocol env _ true
    · exact of_flags rfl
  | processMessage message => exact processMessage protocol env message
  | processParameterGroupNumberRequest parameterGroupNumber requester =>
    exact processParameterGroupNumberRequest protocol parameterGroupNumber requester
  | suspendBroadcasts suspendTime =>
    refine ⟨fun _ hset => hset, fun identification => List.forall_mem_singleton.mpr ?_⟩
    have hgroup : DIAGNOSTIC_MESSAGE_13 ≠ identification.parameterGroupNumber := by
      cases identification <;> decide
    exact hgroup
  | setEcuIdField field value =>
    rw [DiagnosticProtocol.serve, DiagnosticProtocol.setEcuIdField]
    split_ifs
    · exact ⟨fun _ hset => hset, fun _ => List.forall_mem_singleton.mpr id⟩
    · exact of_flags rfl
    · exact of_flags rfl
  | setJ1939Mode value => exact of_flags rfl
  | clearInactiveDiagnosticTroubleCodes => exact of_flags rfl
  | setProductIdentificationCode value => exact of_flags rfl
  | setProductIdentificationBrand value => exact of_flags rfl
  | setProductIdentificationModel value => exact of_flags rfl
  | setSoftwareIdField index value => exact of_flags rfl
  | clearSoftwareIdFields => exact of_flags rfl

end Quiet

/-- A call either asks for the identification, which sets its flag, or leaves those who wait for
it alone. -/
theorem ask_cases (record : RequestRecord) (protocol : DiagnosticProtocol) (env : Environment)
    (call : Call) (identification : Identification) :
    record.ask call identification = record identification ∨
      ((∃ requester, record.ask call identification =
          (record identification).request requester) ∧
        (protocol.serve env call).protocol.txFlags identification.flag = true) := by
  cases call with
  | processParameterGroupNumberRequest parameterGroupNumber requestingControlFunction =>
    cases requestingControlFunction with
    | none => exact .inl rfl
    | some requester =>
      by_cases hgroup : parameterGroupNumber = identification.parameterGroupNumber
      · refine .inr ⟨⟨requester, if_pos hgroup⟩, ?_⟩
        rw [hgroup]
        cases identification <;> rfl
      · exact .inl (if_neg hgroup)
  | _ => exact .inl rfl

section

variable {state : DiagnosticProtocol × RequestRecord} {input : Input}

theorem reached_of_quiet (h : Reached state) (hupdate : input.call ≠ .update) :
    Reached (requested.next state input) := by
  have hquiet : Quiet state.1 (state.1.serve input.env input.call) := Quiet.serve hupdate
  have hrecord (identification : Identification) : (requested.next state input).2 identification =
      state.2.ask input.call identification :=
    foldl_note_of_not (hquiet.events identification) _
  have hclear (identification : Identification)
      (hunset : (requested.next state input).1.txFlags identification.flag = false) :
      state.2.ask input.call identification = state.2 identification ∧
        state.1.txFlags identification.flag = false := by
    obtain hsame | ⟨-, hset⟩ := ask_cases state.2 state.1 input.env input.call identification
    · refine ⟨hsame, ?_⟩
      by_contra hflag
      rw [Bool.not_eq_false] at hflag
      exact absurd ((hquiet.flags _ hflag).symm.trans hunset) (Bool.false_ne_true ∘ Eq.symm)
    · exact absurd (hset.symm.trans hunset) (Bool.false_ne_true ∘ Eq.symm)
  refine ⟨fun identification hunset => ?_, fun identification hunset => ?_,
    fun identification => ?_⟩
  · obtain ⟨hsame, hflag⟩ := hclear identification hunset
    rw [hrecord, hsame]
    exact h.served identification hflag
  · obtain ⟨hsame, hflag⟩ := hclear identification hunset
    rw [hrecord, hsame]
    exact h.retried identification hflag
  · rw [hrecord]
    obtain hsame | ⟨⟨requester, hasked⟩, -⟩ :=
      ask_cases state.2 state.1 input.env input.call identification
    · rw [hsame]
      exact h.straight identification
    · rw [hasked]
      exact h.straight identification

theorem next_update (hupdate : input.call = .update) (identification : Identification) :
    (requested.next state input).2 identification =
        (Turn.update input.env ⟨state.1, []⟩).events.foldl (Requesters.note identification)
          (state.2 identification) ∧
      (requested.next state input).1 = (Turn.update input.env ⟨state.1, []⟩).protocol := by
  obtain ⟨env, call⟩ := input
  subst hupdate
  exact ⟨rfl, rfl⟩

theorem waiting_attempt_iff {requesters : Requesters} {destination : Option CFRef} {sent : Bool} :
    (sent = true → (requesters.attempt destination sent).waiting = []) ↔
      ∀ requester, destination = some requester → sent = true →
        ∀ other ∈ requesters.waiting, other = requester := by
  cases sent with
  | false => simp
  | true =>
    cases destination with
    | none => simp [Requesters.attempt]
    | some requester => simp [Requesters.attempt, List.filter_eq_nil_iff]

theorem next_reached_iff (h : Reached state) :
    Reached (requested.next state input) ↔ ServesOne state input := by
  by_cases hupdate : input.call = .update
  · constructor
    · intro h' _ identification hset hexists
      obtain ⟨hrecord, hprotocol⟩ := @next_update state input hupdate identification
      obtain ⟨hnote, hflag⟩ := Identification.note_update_of_exists input.env hset hexists
        (state.2 identification)
      have hserved := h'.served identification
      have hstraight := h'.straight identification
      rw [hrecord, hprotocol, hnote, hflag] at hserved
      rw [hrecord, hnote] at hstraight
      refine ⟨fun requester hfailed => ?_, ?_⟩
      · by_contra hother
        exact hstraight (.inr ⟨requester, hfailed, hother⟩)
      · refine waiting_attempt_iff.mp fun hsent => hserved ?_
        rw [hsent]
        rfl
    · intro hserves
      have hone (identification : Identification) :
          ((requested.next state input).1.txFlags identification.flag = false →
            ((requested.next state input).2 identification).waiting = [] ∧
              ((requested.next state input).2 identification).failedTo = none) ∧
          ¬((requested.next state input).2 identification).strayed := by
        obtain ⟨hrecord, hprotocol⟩ := @next_update state input hupdate identification
        rw [hrecord, hprotocol]
        by_cases hready : state.1.txFlags identification.flag = true ∧
            identification.Exists state.1
        · obtain ⟨hnote, hflag⟩ := Identification.note_update_of_exists input.env hready.1
            hready.2 (state.2 identification)
          obtain ⟨hsame, honly⟩ := hserves hupdate identification hready.1 hready.2
          rw [hnote, hflag]
          constructor
          · intro hunset
            have hsent : input.env.accepts
                (state.1.beforeFlag input.env identification.flag).events.length = true := by
              simpa using hunset
            refine ⟨waiting_attempt_iff.mpr honly hsent, ?_⟩
            rw [hsent]
            rfl
          · rintro (hstrayed | ⟨requester, hfailed, hother⟩)
            · exact h.straight identification hstrayed
            · exact hother (hsame requester hfailed)
        · obtain ⟨hnote, hflag⟩ := Identification.note_update_of_not input.env hready
            (state.2 identification)
          rw [hnote, hflag]
          exact ⟨fun hunset => ⟨h.served identification hunset, h.retried identification hunset⟩,
            h.straight identification⟩
      exact ⟨fun identification hunset => ((hone identification).1 hunset).1,
        fun identification hunset => ((hone identification).1 hunset).2,
        fun identification => (hone identification).2⟩
  · exact iff_of_true (reached_of_quiet h hupdate) fun hcall => absurd hcall hupdate

end

/-- At every moment, everybody has been served whose identification has a clear flag and every
failed attempt is repeated to the same requester, exactly if the attempts of every update serve one
requester at a time. -/
theorem reached_along_iff (protocol : DiagnosticProtocol) (inputs : List Input) :
    (∀ past, past <+: inputs → Reached (requested.run (protocol, fun _ => {}) past)) ↔
      requested.Along ServesOne (protocol, fun _ => {}) inputs :=
  requested.forall_prefix_iff (fun _ _ h => next_reached_iff h)
    ⟨fun _ _ => rfl, fun _ _ => rfl, fun _ h => h⟩ inputs

/-- A product identification of ten bytes, for which two control functions ask. -/
def twoRequesters : List Input :=
  [⟨⟨0, fun _ => true⟩, .setProductIdentificationCode [65, 66, 67, 68, 69, 70, 71]⟩,
    ⟨⟨0, fun _ => true⟩, .processParameterGroupNumberRequest PRODUCT_IDENTIFICATION (some 7)⟩,
    ⟨⟨0, fun _ => true⟩, .processParameterGroupNumberRequest PRODUCT_IDENTIFICATION (some 8)⟩,
    ⟨⟨0, fun _ => true⟩, .update⟩]

/-- Only the first of them gets it. -/
theorem twoRequesters_not_reached :
    ¬Reached (requested.run ({ myControlFunction := 0 }, fun _ => {}) twoRequesters) := by
  intro h
  have hwaiting := h.served .product (by decide)
  cases hwaiting

end Isobus.Diagnostics
