import Isobus.Diagnostics.Update

namespace Isobus.Diagnostics

open Isobus.Can Isobus.Lib

structure ClearRequest where
  message : CANMessage
  before : DiagnosticProtocol
  after : DiagnosticProtocol

namespace ClearRequest

variable (request : ClearRequest)

def clearsActive : Prop :=
  request.message.getUint8At 0 = DiagnosticProtocol.REQUEST_TO_CLEAR_ACTIVE_DTC

instance instDecidableClearsActive : Decidable request.clearsActive :=
  inferInstanceAs (Decidable (_ = _))

inductive Succeeds : Prop
  | moved (front : List DiagnosticTroubleCode) (dtc : DiagnosticTroubleCode)
      (behind : List DiagnosticTroubleCode) (active : request.clearsActive)
      (named : DiagnosticProtocol.isRequested request.message dtc)
      (there : request.before.activeDTCList = front ++ dtc :: behind)
      (gone : request.after.activeDTCList = front ++ behind)
      (kept : request.after.inactiveDTCList = request.before.inactiveDTCList ++ [dtc])
  | removed (front : List DiagnosticTroubleCode) (dtc : DiagnosticTroubleCode)
      (behind : List DiagnosticTroubleCode) (inactive : ¬request.clearsActive)
      (named : DiagnosticProtocol.isRequested request.message dtc)
      (there : request.before.inactiveDTCList = front ++ dtc :: behind)
      (gone : request.after.inactiveDTCList = front ++ behind)
      (kept : request.after.activeDTCList = request.before.activeDTCList)

structure LeavesLists : Prop where
  active : request.after.activeDTCList = request.before.activeDTCList
  inactive : request.after.inactiveDTCList = request.before.inactiveDTCList

theorem not_leavesLists (h : request.Succeeds) : ¬request.LeavesLists := by
  intro hleaves
  cases h with
  | moved front dtc behind _ _ there gone kept =>
    have hlength := congrArg List.length (hleaves.inactive.symm.trans kept)
    simp at hlength
  | removed front dtc behind _ _ there gone kept =>
    have hlength := congrArg List.length ((gone.symm.trans hleaves.inactive).trans there)
    simp at hlength

/-- The frame answers the request: to its sender, with its code, positively exactly if it had an
effect. -/
structure IsAnsweredBy (frame : TransmitFrame) : Prop where
  group : frame.parameterGroupNumber = DIAGNOSTIC_MESSAGE_22
  sender : frame.source = some request.before.myControlFunction
  receiver : frame.destination = request.message.source
  length : frame.data.length = CAN_DATA_LENGTH
  positive : frame.data.getD 0 0 = (if request.clearsActive then 0x12 else 0x02) ↔ request.Succeeds
  negative : frame.data.getD 0 0 = (if request.clearsActive then 0x13 else 0x03) ↔
    request.LeavesLists
  code : frame.data.drop 5 =
    [request.message.getUint8At 5, request.message.getUint8At 6, request.message.getUint8At 7]

end ClearRequest

namespace DiagnosticProtocol

def isClearRequest (message : CANMessage) (protocol : DiagnosticProtocol) : Bool :=
  protocol.isAddressed message &&
    message.identifier.getParameterGroupNumber = DIAGNOSTIC_MESSAGE_22 &&
    message.data.length = CAN_DATA_LENGTH &&
    (message.getUint8At 0 = REQUEST_TO_CLEAR_ACTIVE_DTC ||
      message.getUint8At 0 = REQUEST_TO_CLEAR_PREVIOUSLY_ACTIVE_DTC)

def clearRequest (protocol : DiagnosticProtocol) (input : Input) : Option ClearRequest :=
  match input.call with
  | .processMessage message =>
    if protocol.isClearRequest message then
      some ⟨message, protocol, diagnosticProtocol.next protocol input⟩
    else none
  | _ => none

def clearRequests (protocol : DiagnosticProtocol) : List Input → List ClearRequest
  | [] => []
  | input :: inputs =>
    (protocol.clearRequest input).toList ++
      clearRequests (diagnosticProtocol.next protocol input) inputs

def waitingResponses (protocol : DiagnosticProtocol) : List TransmitFrame :=
  protocol.dm22ResponseQueue.map protocol.dm22Frame

end DiagnosticProtocol

def Event.response : Event → Option TransmitFrame
  | .message frame true =>
    if frame.parameterGroupNumber = DIAGNOSTIC_MESSAGE_22 then some frame else none
  | _ => none

def sentResponses (events : List Event) : List TransmitFrame := events.filterMap Event.response

/-- What is true of a run: the responses sent and waiting answer the requests, and the waiting ones
will be looked at. -/
structure AnswersOnce (protocol : DiagnosticProtocol) (inputs : List Input) : Prop where
  once : ∃ answers, List.Forall₂ ClearRequest.IsAnsweredBy (protocol.clearRequests inputs) answers ∧
    answers.Perm (sentResponses (diagnosticProtocol.outputs protocol inputs) ++
      (diagnosticProtocol.run protocol inputs).waitingResponses)
  flagged : (diagnosticProtocol.run protocol inputs).dm22ResponseQueue ≠ [] →
    (diagnosticProtocol.run protocol inputs).txFlags .dm22 = true

structure DiagnosticProtocol.SameResponses (protocol protocol' : DiagnosticProtocol) : Prop where
  queue : protocol'.dm22ResponseQueue = protocol.dm22ResponseQueue
  flag : protocol'.txFlags .dm22 = protocol.txFlags .dm22
  self : protocol'.myControlFunction = protocol.myControlFunction

theorem DiagnosticProtocol.dm22Frame_congr {protocol protocol' : DiagnosticProtocol}
    (h : protocol'.myControlFunction = protocol.myControlFunction) :
    protocol'.dm22Frame = protocol.dm22Frame := by
  funext response
  rw [dm22Frame, frame, h]
  rfl

namespace DiagnosticProtocol.SameResponses

variable {protocol protocol' protocol'' : DiagnosticProtocol}

theorem refl (protocol : DiagnosticProtocol) : protocol.SameResponses protocol := ⟨rfl, rfl, rfl⟩

theorem trans (h : protocol.SameResponses protocol') (h' : protocol'.SameResponses protocol'') :
    protocol.SameResponses protocol'' :=
  ⟨h'.queue.trans h.queue, h'.flag.trans h.flag, h'.self.trans h.self⟩

theorem setFlag {flag : TransmitFlags} (h : flag ≠ .dm22) (protocol : DiagnosticProtocol) :
    protocol.SameResponses (protocol.setFlag flag) :=
  ⟨rfl, ProcessingFlags.setFlag_of_ne h.symm _, rfl⟩

theorem clearFlag {flag : TransmitFlags} (h : flag ≠ .dm22) (protocol : DiagnosticProtocol) :
    protocol.SameResponses (protocol.clearFlag flag) :=
  ⟨rfl, ProcessingFlags.clearFlag_of_ne h.symm _, rfl⟩

theorem waitingResponses_eq (h : protocol.SameResponses protocol') :
    protocol'.waitingResponses = protocol.waitingResponses := by
  rw [waitingResponses, waitingResponses, h.queue, dm22Frame_congr h.self]

end DiagnosticProtocol.SameResponses

structure Turn.SameResponses (turn turn' : Turn) : Prop where
  protocol : turn.protocol.SameResponses turn'.protocol
  sent : sentResponses turn'.events = sentResponses turn.events

theorem sentResponses_append (events events' : List Event) :
    sentResponses (events ++ events') = sentResponses events ++ sentResponses events' :=
  List.filterMap_append

theorem sentResponses_singleton_of_none {event : Event} (h : event.response = none) :
    sentResponses [event] = [] := List.filterMap_cons_none h

theorem Event.response_of_ne {frame : TransmitFrame}
    (h : frame.parameterGroupNumber ≠ DIAGNOSTIC_MESSAGE_22) (sent : Bool) :
    (Event.message frame sent).response = none := by
  cases sent
  · rfl
  · exact if_neg h

namespace Turn.SameResponses

variable {turn turn' turn'' : Turn} {env : Environment}

theorem refl (turn : Turn) : turn.SameResponses turn := ⟨.refl _, rfl⟩

theorem trans (h : turn.SameResponses turn') (h' : turn'.SameResponses turn'') :
    turn.SameResponses turn'' := ⟨h.protocol.trans h'.protocol, h'.sent.trans h.sent⟩

theorem map {f : DiagnosticProtocol → DiagnosticProtocol}
    (h : turn.protocol.SameResponses (f turn.protocol)) : turn.SameResponses
        (turn.map f) := ⟨h, rfl⟩

theorem emit {event : Event} (h : event.response = none) (turn : Turn) :
    turn.SameResponses (turn.emit event) := by
  refine ⟨.refl _, ?_⟩
  rw [Turn.emit, sentResponses_append, sentResponses_singleton_of_none h, List.append_nil]

theorem offer {frame : TransmitFrame} (h : frame.parameterGroupNumber ≠ DIAGNOSTIC_MESSAGE_22)
    (env : Environment) (turn : Turn) : turn.SameResponses (turn.offer env frame) :=
  emit (Event.response_of_ne h _) turn

theorem sendTroubleCodes {parameterGroupNumber : UInt32}
    (h : parameterGroupNumber ≠ DIAGNOSTIC_MESSAGE_22) (payloadSize : UInt16)
    (dtcs : List DiagnosticTroubleCode) :
    turn.SameResponses (turn.sendTroubleCodes env parameterGroupNumber payloadSize dtcs).1 := by
  rw [Turn.sendTroubleCodes]
  by_cases hsize : payloadSize ≤ MAX_PAYLOAD_SIZE_BYTES
  · rw [if_pos hsize]
    dsimp only
    split_ifs
    · exact offer h env turn
    · exact (emit rfl turn).trans (offer h env _)
  · rw [if_neg hsize]
    exact refl turn

theorem sendIdentification {parameterGroupNumber : UInt32}
    (h : parameterGroupNumber ≠ DIAGNOSTIC_MESSAGE_22) (data : List UInt8) :
    turn.SameResponses (turn.sendIdentification env parameterGroupNumber data).1 := by
  rw [Turn.sendIdentification]
  dsimp only
  exact (offer h env turn).trans (map ⟨rfl, rfl, rfl⟩)

variable {flag : TransmitFlags}

theorem transmit (h : flag ≠ .dm22) :
    turn.SameResponses (turn.transmit env flag).1 := by
  cases flag with
  | dm1 =>
    rw [Turn.transmit]
    dsimp only
    have hsend : turn.SameResponses (turn.sendDiagnosticMessage1 env).1 :=
      sendTroubleCodes (by decide) _ _
    split_ifs
    · exact hsend.trans (map ⟨rfl, rfl, rfl⟩)
    · exact hsend
  | dm2 => exact sendTroubleCodes (by decide) _ _
  | diagnosticProtocolID =>
    exact offer (by decide : DIAGNOSTIC_PROTOCOL_IDENTIFICATION ≠ DIAGNOSTIC_MESSAGE_22) env turn
  | productIdentification => exact sendIdentification (by decide) _
  | dm22 => exact absurd rfl h
  | ecuIdentification => exact sendIdentification (by decide) _
  | softwareIdentification =>
    rw [Turn.transmit, Turn.sendSoftwareIdentification]
    split_ifs
    · exact sendIdentification (by decide) _
    · exact refl turn

theorem processFlags (h : flag ≠ .dm22) :
    turn.SameResponses (turn.processFlags env flag) := by
  rw [Turn.processFlags]
  split_ifs
  · exact transmit h
  · exact (transmit h).trans (map (.setFlag h _))

theorem processFlag (h : flag ≠ .dm22) (turn : Turn) :
    turn.SameResponses (turn.processFlag env flag) := by
  rw [Turn.processFlag]
  split_ifs
  · exact (map (.clearFlag h _)).trans (processFlags h)
  · exact refl turn

theorem processFlag_foldl {flags : List TransmitFlags} (h : ∀ flag ∈ flags, flag ≠ .dm22)
    (turn : Turn) : turn.SameResponses (flags.foldl (Turn.processFlag env) turn) := by
  induction flags generalizing turn with
  | nil => exact refl turn
  | cons flag flags ih =>
    obtain ⟨hflag, hflags⟩ := List.forall_mem_cons.mp h
    exact (processFlag hflag turn).trans (ih hflags _)

end Turn.SameResponses

section

variable (env : Environment)

def Turn.respond (response : DM22Data) (turn : Turn) : Turn :=
  if turn.sent env then
    (turn.offer env (turn.protocol.dm22Frame response)).map fun protocol =>
      { protocol with dm22ResponseQueue := protocol.dm22ResponseQueue.dropLast }
  else turn.offer env (turn.protocol.dm22Frame response)

theorem Turn.sendDm22Responses_succ {turn : Turn} {response : DM22Data}
    (h : turn.protocol.dm22ResponseQueue.getLast? = some response) (retVal : Bool)
    (attempts : Nat) :
    turn.sendDm22Responses env retVal (attempts + 1) =
      (turn.respond env response).sendDm22Responses env (turn.sent env) attempts := by
  rw [sendDm22Responses, respond, h]
  dsimp only
  cases hsent : turn.sent env with
  | true => rw [if_pos rfl, if_pos rfl]
  | false => rw [if_neg Bool.false_ne_true, if_neg Bool.false_ne_true]

theorem Turn.length_respond (response : DM22Data) (turn : Turn) :
    (turn.respond env response).events.length = turn.events.length + 1 := by
  rw [respond]
  split_ifs <;> simp [map, offer, emit]

def Turn.responses (turn : Turn) : List TransmitFrame :=
  sentResponses turn.events ++ turn.protocol.waitingResponses

theorem Turn.respond_responses {turn : Turn} {response : DM22Data}
    (h : turn.protocol.dm22ResponseQueue.getLast? = some response) :
    (turn.respond env response).responses.Perm turn.responses := by
  have hresponse (sent : Bool) : sentResponses [.message (turn.protocol.dm22Frame response) sent] =
      if sent then [turn.protocol.dm22Frame response] else [] := by
    cases sent <;> rfl
  rw [respond]
  cases hsent : turn.sent env with
  | false =>
    rw [if_neg Bool.false_ne_true, responses, offer, emit, sentResponses_append, hsent,
      hresponse, if_neg Bool.false_ne_true, List.append_nil]
    exact List.Perm.refl _
  | true =>
    have hsplit : turn.protocol.dm22ResponseQueue.dropLast ++ [response] =
        turn.protocol.dm22ResponseQueue :=
      List.dropLast_append_getLast? response h
    have hwaiting : turn.protocol.waitingResponses =
        turn.protocol.dm22ResponseQueue.dropLast.map turn.protocol.dm22Frame ++
          [turn.protocol.dm22Frame response] := by
      rw [DiagnosticProtocol.waitingResponses, ← hsplit]
      simp
    rw [if_pos rfl, responses, responses, hwaiting, map, offer, emit, sentResponses_append,
      hsent, hresponse, if_pos rfl, List.append_assoc]
    exact List.Perm.append_left _ (List.perm_append_comm)

theorem Turn.respond_queue {turn : Turn} (response : DM22Data) :
    (turn.respond env response).protocol.dm22ResponseQueue =
      if turn.sent env then turn.protocol.dm22ResponseQueue.dropLast
      else turn.protocol.dm22ResponseQueue := by
  rw [respond]
  split_ifs <;> rfl

theorem Turn.respond_frame (response : DM22Data) (turn : Turn) :
    (turn.respond env response).protocol.txFlags = turn.protocol.txFlags ∧
      (turn.respond env response).protocol.myControlFunction = turn.protocol.myControlFunction := by
  rw [respond]
  split_ifs <;> exact ⟨rfl, rfl⟩

theorem Turn.exists_response {turn : Turn} {attempts : Nat}
    (h : attempts + 1 ≤ turn.protocol.dm22ResponseQueue.length) :
    ∃ response, turn.protocol.dm22ResponseQueue.getLast? = some response ∧
      attempts ≤ (turn.respond env response).protocol.dm22ResponseQueue.length := by
  have hne : turn.protocol.dm22ResponseQueue ≠ [] := List.ne_nil_of_length_pos (by omega)
  refine ⟨_, List.getLast?_eq_some_getLast hne, ?_⟩
  rw [turn.respond_queue]
  split_ifs
  · rw [List.length_dropLast]
    omega
  · omega

/-- What so many attempts do, if the queue is long enough for them. -/
structure Attempted (turn : Turn) (attempts : Nat) (result : Turn) : Prop where
  responses : result.responses.Perm turn.responses
  flags : result.protocol.txFlags = turn.protocol.txFlags
  self : result.protocol.myControlFunction = turn.protocol.myControlFunction
  emptied : result.protocol.dm22ResponseQueue = [] ↔
    turn.protocol.dm22ResponseQueue.length = attempts ∧
      ∀ i < attempts, env.accepts (turn.events.length + i) = true

theorem Turn.sendDm22Responses_attempted (attempts : Nat) (retVal : Bool) (turn : Turn)
    (h : attempts ≤ turn.protocol.dm22ResponseQueue.length) :
    Attempted env turn attempts (turn.sendDm22Responses env retVal attempts).1 := by
  induction attempts generalizing retVal turn with
  | zero =>
    refine ⟨List.Perm.refl _, rfl, rfl, ?_⟩
    rw [sendDm22Responses, List.length_eq_zero_iff]
    simp
  | succ attempts ih =>
    obtain ⟨response, hlast, hrest⟩ := turn.exists_response env h
    have hqueue := turn.respond_queue env response
    have hframe := turn.respond_frame env response
    have hlength := turn.length_respond env response
    have hdone := ih (turn.sent env) (turn.respond env response) hrest
    rw [turn.sendDm22Responses_succ env hlast]
    refine ⟨hdone.responses.trans (turn.respond_responses env hlast),
      hdone.flags.trans hframe.1, hdone.self.trans hframe.2, ?_⟩
    rw [hdone.emptied, hqueue, hlength]
    constructor
    · rintro ⟨hcount, hall⟩
      cases hsent : turn.sent env with
      | false =>
        rw [hsent, if_neg Bool.false_ne_true] at hcount
        omega
      | true =>
        rw [hsent, if_pos rfl, List.length_dropLast] at hcount
        refine ⟨by omega, fun i hi => ?_⟩
        cases i with
        | zero => exact hsent
        | succ i =>
          have hnext := hall i (by omega)
          rwa [show turn.events.length + (i + 1) = turn.events.length + 1 + i by omega]
    · rintro ⟨hcount, hall⟩
      have hsent : turn.sent env = true := hall 0 (by omega)
      rw [hsent, if_pos rfl, List.length_dropLast]
      refine ⟨by omega, fun i hi => ?_⟩
      rw [show turn.events.length + 1 + i = turn.events.length + (i + 1) by omega]
      exact hall (i + 1) (by omega)

theorem Turn.sendDm22Responses_reports (attempts : Nat) (retVal : Bool) (turn : Turn)
    (h : attempts ≤ turn.protocol.dm22ResponseQueue.length) :
    (turn.sendDm22Responses env retVal attempts).2 =
      if attempts = 0 then retVal else env.accepts (turn.events.length + (attempts - 1)) := by
  induction attempts generalizing retVal turn with
  | zero => rfl
  | succ attempts ih =>
    obtain ⟨response, hlast, hrest⟩ := turn.exists_response env h
    rw [turn.sendDm22Responses_succ env hlast, ih _ _ hrest, turn.length_respond,
      if_neg (Nat.succ_ne_zero _)]
    split_ifs with hzero
    · rw [hzero]
      rfl
    · congr 1
      omega

end

namespace DiagnosticProtocol

variable (env : Environment) (protocol : DiagnosticProtocol)

def beforeResponses : Turn :=
  [.dm1, .dm2, .diagnosticProtocolID, .productIdentification].foldl (Turn.processFlag env)
    ⟨(protocol.resumeBroadcasts env).scheduleDM1 env, []⟩

theorem sameResponses_resumeBroadcasts : protocol.SameResponses
    (protocol.resumeBroadcasts env) := by
  rw [resumeBroadcasts]
  split_ifs <;> exact ⟨rfl, rfl, rfl⟩

theorem sameResponses_scheduleDM1 : protocol.SameResponses (protocol.scheduleDM1 env) := by
  rw [scheduleDM1]
  split_ifs
  · have hset : protocol.SameResponses (protocol.setFlag .dm1) := .setFlag (by decide) protocol
    exact hset.trans ⟨rfl, rfl, rfl⟩
  · exact .refl protocol

theorem sameResponses_beforeResponses :
    (⟨protocol, []⟩ : Turn).SameResponses (protocol.beforeResponses env) := by
  have hstart : (⟨protocol, []⟩ : Turn).SameResponses
      ⟨(protocol.resumeBroadcasts env).scheduleDM1 env, []⟩ :=
    ⟨(protocol.sameResponses_resumeBroadcasts env).trans (sameResponses_scheduleDM1 env _), rfl⟩
  exact hstart.trans (Turn.SameResponses.processFlag_foldl (by decide) _)

theorem sameResponses_afterResponses :
    ((protocol.beforeResponses env).processFlag env .dm22).SameResponses
      (Turn.update env ⟨protocol, []⟩) := by
  have hflags : ∀ flag ∈ [TransmitFlags.ecuIdentification, .softwareIdentification],
      flag ≠ .dm22 := by decide
  exact Turn.SameResponses.processFlag_foldl hflags _

/-- If the last attempt of an update to send a response succeeds, all of them do. -/
def LastResponseDecides (input : Input) : Prop :=
  input.call = .update → 0 < protocol.dm22ResponseQueue.length →
    input.env.accepts ((protocol.beforeResponses input.env).events.length +
      (protocol.dm22ResponseQueue.length - 1)) = true →
    ∀ i < protocol.dm22ResponseQueue.length,
      input.env.accepts ((protocol.beforeResponses input.env).events.length + i) = true

def Flagged : Prop := protocol.dm22ResponseQueue ≠ [] → protocol.txFlags .dm22 = true

variable {env protocol} {protocol' : DiagnosticProtocol}

theorem SameResponses.flagged_iff (h : protocol.SameResponses protocol') :
    protocol'.Flagged ↔ protocol.Flagged := by
  rw [Flagged, Flagged, h.queue, h.flag]

end DiagnosticProtocol

theorem Turn.SameResponses.responses_eq {turn turn' : Turn} (h : turn.SameResponses turn') :
    turn'.responses = turn.responses := by
  rw [Turn.responses, Turn.responses, h.sent, h.protocol.waitingResponses_eq]

section

variable {env : Environment} {turn : Turn}

theorem Turn.map_flag_responses {f : DiagnosticProtocol → DiagnosticProtocol}
    (hqueue : (f turn.protocol).dm22ResponseQueue = turn.protocol.dm22ResponseQueue)
    (hself : (f turn.protocol).myControlFunction = turn.protocol.myControlFunction) :
    (turn.map f).responses = turn.responses := by
  rw [responses, responses, DiagnosticProtocol.waitingResponses,
    DiagnosticProtocol.waitingResponses, map, hqueue, DiagnosticProtocol.dm22Frame_congr hself]

theorem Turn.processFlag_dm22 (env : Environment) (turn : Turn) :
    (turn.processFlag env .dm22).responses.Perm turn.responses ∧
      (turn.processFlag env .dm22).protocol.myControlFunction = turn.protocol.myControlFunction ∧
      (turn.protocol.Flagged → ((turn.processFlag env .dm22).protocol.Flagged ↔
        (0 < turn.protocol.dm22ResponseQueue.length →
          env.accepts (turn.events.length + (turn.protocol.dm22ResponseQueue.length - 1)) = true →
          ∀ i < turn.protocol.dm22ResponseQueue.length,
            env.accepts (turn.events.length + i) = true))) := by
  rw [processFlag]
  by_cases hflag : turn.protocol.txFlags .dm22 = true
  · rw [if_pos hflag]
    have hcleared : (turn.map (·.clearFlag .dm22)).responses = turn.responses :=
      map_flag_responses rfl rfl
    have hdone := (turn.map (·.clearFlag .dm22)).sendDm22Responses_attempted env
      turn.protocol.dm22ResponseQueue.length false le_rfl
    have hreport := (turn.map (·.clearFlag .dm22)).sendDm22Responses_reports env
      turn.protocol.dm22ResponseQueue.length false le_rfl
    change ((turn.map (·.clearFlag .dm22)).processAllDm22Responses env).2 = _ at hreport
    change Attempted _ _ _ ((turn.map (·.clearFlag .dm22)).processAllDm22Responses env).1 at hdone
    rw [processFlags, transmit]
    generalize (turn.map (·.clearFlag .dm22)).processAllDm22Responses env = result at hdone hreport
    by_cases htaken : result.2 = true
    · rw [if_pos htaken]
      refine ⟨hcleared ▸ hdone.responses, hdone.self, fun _ => ?_⟩
      have hunset : result.1.protocol.txFlags .dm22 = false := by
        rw [hdone.flags]
        exact ProcessingFlags.clearFlag_self .dm22 turn.protocol.txFlags
      have hempty : result.1.protocol.Flagged ↔ result.1.protocol.dm22ResponseQueue = [] := by
        rw [DiagnosticProtocol.Flagged, hunset]
        simp
      rw [htaken] at hreport
      split_ifs at hreport with hnone
      rw [hempty, hdone.emptied]
      constructor
      · intro hall _ _
        exact hall.2
      · intro hall
        exact ⟨rfl, hall (Nat.pos_of_ne_zero hnone) hreport.symm⟩
    · rw [if_neg htaken]
      have hset : (result.1.map (·.setFlag .dm22)).responses = result.1.responses :=
        map_flag_responses rfl rfl
      refine ⟨hset ▸ hcleared ▸ hdone.responses, hdone.self, fun _ => ?_⟩
      refine iff_of_true
        (fun _ => ProcessingFlags.setFlag_self .dm22 result.1.protocol.txFlags) fun hpos hlast => ?_
      rw [if_neg (by omega)] at hreport
      exact absurd (hreport.trans hlast) htaken
  · rw [if_neg hflag]
    refine ⟨List.Perm.refl _, rfl, fun hflagged => ?_⟩
    refine iff_of_true hflagged fun hpos _ => ?_
    exact absurd (hflagged (List.ne_nil_of_length_pos hpos)) hflag

end

theorem requestedCode_bytes (a b c : UInt8) :
    let number : UInt32 := a.toUInt32 ||| b.toUInt32 <<< 8 ||| ((c &&& 0xE0) >>> 5).toUInt32 <<< 16
    [(number &&& 0xFF).toUInt8, ((number >>> 8) &&& 0xFF).toUInt8,
      (((number >>> 16) <<< 5) &&& 0xE0).toUInt8 ||| (c &&& 0x1F &&& 0x1F)] = [a, b, c] := by
  refine List.cons_eq_cons.mpr ⟨?_, List.cons_eq_cons.mpr ⟨?_, List.cons_eq_cons.mpr ⟨?_, rfl⟩⟩⟩
  all_goals
    rw [← UInt8.toBitVec_inj]
    apply BitVec.eq_of_getLsbD_eq
    intro i hi
    simp
    interval_cases i <;> simp

section

variable {message : CANMessage} {protocol : DiagnosticProtocol}

theorem isAnsweredBy_of_truth {after : DiagnosticProtocol} {clearActive nack : Bool}
    {nackIndicator : UInt8}
    (hactive : (⟨message, protocol, after⟩ : ClearRequest).clearsActive ↔ clearActive = true)
    (hpositive : nack = false → (⟨message, protocol, after⟩ : ClearRequest).Succeeds)
    (hnegative : nack = true → (⟨message, protocol, after⟩ : ClearRequest).LeavesLists) :
    (⟨message, protocol, after⟩ : ClearRequest).IsAnsweredBy (protocol.dm22Frame
      ⟨message.source, DiagnosticProtocol.requestedParameterNumber message,
        DiagnosticProtocol.requestedFailureMode message, nackIndicator, clearActive, nack⟩) := by
  have hnot := ClearRequest.not_leavesLists (⟨message, protocol, after⟩ : ClearRequest)
  refine ⟨rfl, rfl, rfl, rfl, ?_, ?_, requestedCode_bytes _ _ _⟩
  · rw [if_congr hactive rfl rfl]
    cases nack with
    | false =>
      refine iff_of_true ?_ (hpositive rfl)
      cases clearActive <;> rfl
    | true =>
      refine iff_of_false ?_ fun hsucceeds => hnot hsucceeds (hnegative rfl)
      cases clearActive with
      | false => exact (by decide : (0x03 : UInt8) ≠ 0x02)
      | true => exact (by decide : (0x13 : UInt8) ≠ 0x12)
  · rw [if_congr hactive rfl rfl]
    cases nack with
    | false =>
      refine iff_of_false ?_ fun hleaves => hnot (hpositive rfl) hleaves
      cases clearActive with
      | false => exact (by decide : (0x02 : UInt8) ≠ 0x03)
      | true => exact (by decide : (0x12 : UInt8) ≠ 0x13)
    | true =>
      refine iff_of_true ?_ (hnegative rfl)
      cases clearActive <;> rfl

def QueuesAnswer (message : CANMessage) (protocol after : DiagnosticProtocol) : Prop :=
  ∃ response, after.dm22ResponseQueue = protocol.dm22ResponseQueue ++ [response] ∧
    after.txFlags .dm22 = true ∧ after.myControlFunction = protocol.myControlFunction ∧
    (⟨message, protocol, after⟩ : ClearRequest).IsAnsweredBy (protocol.dm22Frame response)

theorem queuesAnswer_requestToClearActive
    (h : message.getUint8At 0 = DiagnosticProtocol.REQUEST_TO_CLEAR_ACTIVE_DTC) :
    QueuesAnswer message protocol (protocol.requestToClearActive message) := by
  rw [DiagnosticProtocol.requestToClearActive]
  cases hfind : protocol.activeDTCList.find? (DiagnosticProtocol.isRequested message) with
  | some dtc =>
    obtain ⟨hnamed, front, behind, hsplit, herase⟩ := exists_eraseP hfind
    refine ⟨_, rfl, ProcessingFlags.setFlag_self .dm22 protocol.txFlags, rfl, ?_⟩
    refine isAnsweredBy_of_truth (iff_of_true h rfl) (fun _ => ?_) fun hnack =>
      absurd hnack Bool.false_ne_true
    exact .moved front dtc behind h hnamed hsplit herase rfl
  | none =>
    refine ⟨_, rfl, ProcessingFlags.setFlag_self .dm22 protocol.txFlags, rfl, ?_⟩
    exact isAnsweredBy_of_truth (iff_of_true h rfl) (fun hnack => absurd hnack.symm
      Bool.false_ne_true) fun _ => ⟨rfl, rfl⟩

theorem queuesAnswer_requestToClearPreviouslyActive
    (h : ¬message.getUint8At 0 = DiagnosticProtocol.REQUEST_TO_CLEAR_ACTIVE_DTC) :
    QueuesAnswer message protocol (protocol.requestToClearPreviouslyActive message) := by
  rw [DiagnosticProtocol.requestToClearPreviouslyActive]
  by_cases hany : protocol.inactiveDTCList.any (DiagnosticProtocol.isRequested message) = true
  · rw [if_pos hany]
    obtain ⟨dtc, hfind⟩ := Option.isSome_iff_exists.mp (List.find?_isSome.mpr
      (List.any_eq_true.mp hany))
    obtain ⟨hnamed, front, behind, hsplit, herase⟩ := exists_eraseP hfind
    refine ⟨_, rfl, ProcessingFlags.setFlag_self .dm22 protocol.txFlags, rfl, ?_⟩
    refine isAnsweredBy_of_truth (iff_of_false h Bool.false_ne_true) (fun _ => ?_) fun hnack =>
      absurd hnack Bool.false_ne_true
    exact .removed front dtc behind h hnamed hsplit herase rfl
  · rw [if_neg hany]
    refine ⟨_, rfl, ProcessingFlags.setFlag_self .dm22 protocol.txFlags, rfl, ?_⟩
    exact isAnsweredBy_of_truth (iff_of_false h Bool.false_ne_true) (fun hnack =>
      absurd hnack.symm Bool.false_ne_true) fun _ => ⟨rfl, rfl⟩

end

namespace DiagnosticProtocol

variable (env : Environment) (protocol : DiagnosticProtocol)

theorem sameResponses_clearActiveDiagnosticTroubleCodes :
    protocol.SameResponses protocol.clearActiveDiagnosticTroubleCodes := by
  rw [clearActiveDiagnosticTroubleCodes]
  split_ifs <;> exact ⟨rfl, rfl, rfl⟩

theorem sameResponses_activate (dtc : DiagnosticTroubleCode) :
    protocol.SameResponses (protocol.activate env dtc) := by
  rw [activate]
  split_ifs
  · exact .refl protocol
  · cases protocol.inactiveDTCList.find? (·.sameCode dtc) with
    | some known => exact ⟨rfl, rfl, rfl⟩
    | none =>
      rw [announceNewCode]
      split_ifs <;> exact ⟨rfl, rfl, rfl⟩

theorem sameResponses_deactivate (dtc : DiagnosticTroubleCode) :
    protocol.SameResponses (protocol.deactivate dtc) := by
  rw [deactivate]
  split_ifs
  · exact .refl protocol
  · cases protocol.activeDTCList.find? (·.sameCode dtc) with
    | some known => exact ⟨rfl, rfl, rfl⟩
    | none => exact .refl protocol

theorem sameResponses_setDiagnosticTroubleCodeActive (dtc : DiagnosticTroubleCode)
    (active : Bool) : protocol.SameResponses
        (protocol.setDiagnosticTroubleCodeActive env dtc active) := by
  rw [setDiagnosticTroubleCodeActive]
  split_ifs
  · exact protocol.sameResponses_activate env dtc
  · exact protocol.sameResponses_deactivate dtc

theorem sameResponses_onAddressViolation (address : UInt8) :
    protocol.SameResponses (protocol.onAddressViolation env address) := by
  rw [onAddressViolation]
  split_ifs
  · exact protocol.sameResponses_setDiagnosticTroubleCodeActive env _ true
  · exact .refl protocol

theorem sameResponses_processDiagnosticMessage13 (message : CANMessage) :
    protocol.SameResponses (protocol.processDiagnosticMessage13 message env) := by
  obtain ⟨_, _, _, hprocessed⟩ := protocol.exists_processDiagnosticMessage13 message env
  rw [hprocessed]
  exact ⟨rfl, rfl, rfl⟩

theorem sameResponses_processParameterGroupNumberRequest (parameterGroupNumber : UInt32)
    (requester : Option CFRef) : protocol.SameResponses
      (protocol.processParameterGroupNumberRequest parameterGroupNumber requester).1 := by
  cases requester with
  | none => exact .refl protocol
  | some requester =>
    unfold processParameterGroupNumberRequest
    split_ifs
    · exact ⟨rfl, rfl, rfl⟩
    · exact ⟨rfl, rfl, rfl⟩
    · exact ⟨rfl, rfl, rfl⟩
    · exact protocol.sameResponses_clearActiveDiagnosticTroubleCodes
    · exact ⟨rfl, rfl, rfl⟩
    · exact ⟨rfl, rfl, rfl⟩
    · exact ⟨rfl, rfl, rfl⟩
    · exact ⟨rfl, rfl, rfl⟩
    · exact .refl protocol

theorem processMessage_cases (message : CANMessage) :
    (protocol.isClearRequest message = true ∧
        QueuesAnswer message protocol (protocol.processMessage message env)) ∨
      (protocol.isClearRequest message = false ∧
        protocol.SameResponses (protocol.processMessage message env)) := by
  rw [processMessage, isClearRequest]
  by_cases haddressed : protocol.isAddressed message = true
  · rw [if_pos haddressed, haddressed, Bool.true_and]
    by_cases h13 : message.identifier.getParameterGroupNumber = DIAGNOSTIC_MESSAGE_13
    · rw [if_pos h13, h13]
      exact .inr ⟨rfl, protocol.sameResponses_processDiagnosticMessage13 env message⟩
    · rw [if_neg h13]
      by_cases h22 : message.identifier.getParameterGroupNumber = DIAGNOSTIC_MESSAGE_22
      · rw [if_pos h22, processDiagnosticMessage22, h22]
        by_cases hlength : message.data.length = CAN_DATA_LENGTH
        · rw [if_pos hlength]
          by_cases hactive : message.getUint8At 0 = REQUEST_TO_CLEAR_ACTIVE_DTC
          · rw [if_pos hactive]
            refine .inl ⟨?_, queuesAnswer_requestToClearActive hactive⟩
            simp [hlength, hactive]
          · rw [if_neg hactive]
            by_cases hprevious : message.getUint8At 0 = REQUEST_TO_CLEAR_PREVIOUSLY_ACTIVE_DTC
            · rw [if_pos hprevious]
              refine .inl ⟨?_, queuesAnswer_requestToClearPreviouslyActive hactive⟩
              simp [hlength, hprevious]
            · rw [if_neg hprevious]
              refine .inr ⟨?_, .refl protocol⟩
              simp [hactive, hprevious]
        · rw [if_neg hlength]
          refine .inr ⟨?_, .refl protocol⟩
          simp [hlength]
      · rw [if_neg h22]
        refine .inr ⟨?_, .refl protocol⟩
        simp [h22]
  · rw [if_neg haddressed, Bool.eq_false_iff.mpr haddressed]
    exact .inr ⟨rfl, .refl protocol⟩

end DiagnosticProtocol

theorem serve_sameResponses {protocol : DiagnosticProtocol} {input : Input}
    (hrequest : protocol.clearRequest input = none) (hupdate : input.call ≠ .update) :
    (⟨protocol, []⟩ : Turn).SameResponses (protocol.serve input.env input.call) := by
  obtain ⟨env, call⟩ := input
  have hsame {after : DiagnosticProtocol} (h : protocol.SameResponses after) :
      (⟨protocol, []⟩ : Turn).SameResponses ⟨after, []⟩ := ⟨h, rfl⟩
  cases call with
  | update => exact absurd rfl hupdate
  | setJ1939Mode value => exact hsame ⟨rfl, rfl, rfl⟩
  | clearActiveDiagnosticTroubleCodes =>
    exact hsame protocol.sameResponses_clearActiveDiagnosticTroubleCodes
  | clearInactiveDiagnosticTroubleCodes => exact hsame ⟨rfl, rfl, rfl⟩
  | setDiagnosticTroubleCodeActive dtc active =>
    exact hsame (protocol.sameResponses_setDiagnosticTroubleCodeActive env dtc active)
  | onAddressViolation address =>
        exact hsame (protocol.sameResponses_onAddressViolation env address)
  | processMessage message =>
    obtain ⟨hclear, -⟩ | ⟨-, h⟩ := protocol.processMessage_cases env message
    · rw [DiagnosticProtocol.clearRequest] at hrequest
      dsimp only at hrequest
      rw [if_pos hclear] at hrequest
      exact absurd hrequest (Option.some_ne_none _)
    · exact hsame h
  | processParameterGroupNumberRequest parameterGroupNumber requester =>
    exact hsame (protocol.sameResponses_processParameterGroupNumberRequest _ requester)
  | suspendBroadcasts suspendTime =>
    exact (Turn.SameResponses.map ⟨rfl, rfl, rfl⟩).trans (.offer
      (by decide : DIAGNOSTIC_MESSAGE_13 ≠ DIAGNOSTIC_MESSAGE_22) env _)
  | setEcuIdField field value =>
    rw [DiagnosticProtocol.serve, DiagnosticProtocol.setEcuIdField]
    split_ifs <;> exact ⟨⟨rfl, rfl, rfl⟩, rfl⟩
  | setProductIdentificationCode value => exact hsame ⟨rfl, rfl, rfl⟩
  | setProductIdentificationBrand value => exact hsame ⟨rfl, rfl, rfl⟩
  | setProductIdentificationModel value => exact hsame ⟨rfl, rfl, rfl⟩
  | setSoftwareIdField index value => exact hsame ⟨rfl, rfl, rfl⟩
  | clearSoftwareIdFields => exact hsame ⟨rfl, rfl, rfl⟩

section

variable (protocol : DiagnosticProtocol) (input : Input)

theorem exists_answer_of_clearRequest {request : ClearRequest}
    (h : protocol.clearRequest input = some request) :
    ∃ message, input.call = .processMessage message ∧
      request = ⟨message, protocol, diagnosticProtocol.next protocol input⟩ ∧
      QueuesAnswer message protocol (diagnosticProtocol.next protocol input) := by
  obtain ⟨env, call⟩ := input
  cases call with
  | processMessage message =>
    obtain ⟨hclear, hqueues⟩ | ⟨hclear, -⟩ := protocol.processMessage_cases env message
    · rw [DiagnosticProtocol.clearRequest] at h
      dsimp only at h
      rw [if_pos hclear] at h
      exact ⟨message, rfl, (Option.some.inj h).symm, hqueues⟩
    · rw [DiagnosticProtocol.clearRequest] at h
      dsimp only at h
      rw [hclear, if_neg Bool.false_ne_true] at h
      exact absurd h.symm (Option.some_ne_none _)
  | _ => exact absurd h.symm (Option.some_ne_none _)

theorem update_responses (env : Environment) :
    (Turn.update env ⟨protocol, []⟩).responses.Perm protocol.waitingResponses := by
  have hbefore := (protocol.sameResponses_beforeResponses env).responses_eq
  rw [(protocol.sameResponses_afterResponses env).responses_eq]
  exact ((protocol.beforeResponses env).processFlag_dm22 env).1.trans (hbefore ▸ List.Perm.refl _)

theorem next_responses :
    ∃ answers, List.Forall₂ ClearRequest.IsAnsweredBy (protocol.clearRequest input).toList answers ∧
      (sentResponses (diagnosticProtocol.emits protocol input) ++
        (diagnosticProtocol.next protocol input).waitingResponses).Perm
        (protocol.waitingResponses ++ answers) := by
  cases hrequest : protocol.clearRequest input with
  | some request =>
    obtain ⟨message, hcall, rfl, response, hqueue, -, hself, hanswer⟩ :=
      exists_answer_of_clearRequest protocol input hrequest
    have hemits : diagnosticProtocol.emits protocol input = [] := by
      change (protocol.serve input.env input.call).events = []
      rw [hcall]
      rfl
    refine ⟨[protocol.dm22Frame response], .cons hanswer .nil, ?_⟩
    rw [hemits, DiagnosticProtocol.waitingResponses, hqueue, List.map_append,
      DiagnosticProtocol.dm22Frame_congr hself]
    exact List.Perm.refl _
  | none =>
    refine ⟨[], .nil, ?_⟩
    rw [List.append_nil]
    by_cases hupdate : input.call = .update
    · have hserve : protocol.serve input.env input.call =
          Turn.update input.env ⟨protocol, []⟩ := by rw [hupdate]; rfl
      change (protocol.serve input.env input.call).responses.Perm _
      rw [hserve]
      exact update_responses protocol input.env
    · change (protocol.serve input.env input.call).responses.Perm _
      rw [(serve_sameResponses hrequest hupdate).responses_eq]
      exact List.Perm.refl _

theorem next_flagged_iff (h : protocol.Flagged) :
    (diagnosticProtocol.next protocol input).Flagged ↔ protocol.LastResponseDecides input := by
  cases hrequest : protocol.clearRequest input with
  | some request =>
    obtain ⟨message, hcall, -, -, -, hflag, -, -⟩ :=
      exists_answer_of_clearRequest protocol input hrequest
    refine iff_of_true (fun _ => hflag) fun hupdate => ?_
    rw [hcall] at hupdate
    exact absurd hupdate.symm Call.noConfusion
  | none =>
    change (protocol.serve input.env input.call).protocol.Flagged ↔ _
    by_cases hupdate : input.call = .update
    · have hbefore := (protocol.sameResponses_beforeResponses input.env).protocol
      have hlook := ((protocol.beforeResponses input.env).processFlag_dm22 input.env).2.2
        (hbefore.flagged_iff.mpr h)
      rw [hbefore.queue] at hlook
      rw [DiagnosticProtocol.LastResponseDecides, hupdate, imp_iff_right rfl]
      exact (protocol.sameResponses_afterResponses input.env).protocol.flagged_iff.trans hlook
    · have hsame := (serve_sameResponses hrequest hupdate).protocol
      exact iff_of_true (hsame.flagged_iff.mpr h) fun hcall => absurd hcall hupdate

end

section

variable {protocol : DiagnosticProtocol}

theorem run_responses (protocol : DiagnosticProtocol) (inputs : List Input) :
    ∃ answers, List.Forall₂ ClearRequest.IsAnsweredBy (protocol.clearRequests inputs) answers ∧
      (sentResponses (diagnosticProtocol.outputs protocol inputs) ++
        (diagnosticProtocol.run protocol inputs).waitingResponses).Perm
        (protocol.waitingResponses ++ answers) := by
  induction inputs generalizing protocol with
  | nil => exact ⟨[], .nil, by rw [List.append_nil]; exact List.Perm.refl _⟩
  | cons input inputs ih =>
    obtain ⟨first, hfirst, hstep⟩ := next_responses protocol input
    obtain ⟨rest, hrest, hrun⟩ := ih (diagnosticProtocol.next protocol input)
    refine ⟨first ++ rest, List.rel_append hfirst hrest, ?_⟩
    rw [Machine.outputs_cons, sentResponses_append, Machine.run_cons, List.append_assoc]
    refine (List.Perm.append_left _ hrun).trans ?_
    rw [← List.append_assoc, ← List.append_assoc]
    exact List.Perm.append_right rest hstep

/-- The responses sent and waiting answer the requests and the waiting ones will be looked at,
exactly if the last response of every update decides. -/
theorem answersOnce_along_iff (h : protocol.dm22ResponseQueue = []) (inputs : List Input) :
    (∀ past, past <+: inputs → AnswersOnce protocol past) ↔
      diagnosticProtocol.Along DiagnosticProtocol.LastResponseDecides protocol inputs := by
  have hflagged : protocol.Flagged := fun hne => absurd h hne
  have hwaiting : protocol.waitingResponses = [] := by
    rw [DiagnosticProtocol.waitingResponses, h, List.map_nil]
  rw [← diagnosticProtocol.forall_prefix_iff next_flagged_iff hflagged inputs]
  constructor
  · intro hall past hpast
    exact (hall past hpast).flagged
  · intro hall past hpast
    obtain ⟨answers, hanswers, hperm⟩ := run_responses protocol past
    rw [hwaiting, List.nil_append] at hperm
    exact ⟨⟨answers, hanswers, hperm.symm⟩, hall past hpast⟩

end

/-- A request of this control function to clear an active code of the protocol of `0`. -/
def requestFrom (sender : CFRef) : CANMessage where
  identifier := .ofFields .extended DIAGNOSTIC_MESSAGE_22 6 0x1C (UInt8.ofNat sender)
  data := [DiagnosticProtocol.REQUEST_TO_CLEAR_ACTIVE_DTC, 0xFF, 0xFF, 0xFF, 0xFF, 0x39, 0x30, 3]
  source := some sender
  destination := some 0
  canPortIndex := 0
  timestampUs := 0

def twoRequests (accepts : Nat → Bool) : List Input :=
  [⟨⟨0, accepts⟩, .processMessage (requestFrom 7)⟩,
    ⟨⟨0, accepts⟩, .processMessage (requestFrom 8)⟩, ⟨⟨0, accepts⟩, .update⟩]

theorem twoRequests_answered :
    AnswersOnce { myControlFunction := 0 } (twoRequests fun _ => true) :=
  (@answersOnce_along_iff { myControlFunction := 0 } rfl (twoRequests fun _ => true)).mpr
    ⟨fun h => absurd h Call.noConfusion, fun h => absurd h Call.noConfusion,
      fun _ _ _ _ _ => rfl, trivial⟩ _ (List.prefix_rfl)

/-- The first attempt fails and the second succeeds: one response waits and nobody looks at it
any more. -/
theorem twoRequests_forgotten :
    ¬AnswersOnce { myControlFunction := 0 } (twoRequests fun attempt => attempt ≠ 0) := by
  intro h
  have hflag := h.flagged (by decide)
  cases hflag

end Isobus.Diagnostics
