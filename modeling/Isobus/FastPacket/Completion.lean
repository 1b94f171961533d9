import Isobus.FastPacket.Sending

/-!
# The end of a fast packet message

A session whose party lost its address reports a failure and is updated once more, which is harmless
only when the driver refuses its next frame before the timeout.
-/

namespace Isobus.FastPacket

open Isobus.Can Isobus.Lib FastPacketProtocolSession

def concerns (key : FastPacketKey) : Event → Bool
  | .frame frame _ =>
    frame.source = some key.source ∧ frame.destination = key.destination ∧
      frame.parameterGroupNumber = key.parameterGroupNumber
  | .transmitComplete completion =>
    completion.source = key.source ∧ completion.destination = key.destination ∧
      completion.parameterGroupNumber = key.parameterGroupNumber
  | _ => false

def Apart (key : FastPacketKey) (protocol : FastPacketProtocol) (input : Input) : Prop :=
  match input.call with
  | .processMessage message => heardKey input.env message protocol ≠ some key
  | .sendMultipacketMessage request =>
    ∀ session, requestedSession input.env request protocol ≠ some (key, session)
  | _ => True

variable {env : Environment} {protocol : FastPacketProtocol} {key : FastPacketKey}
variable {session : FastPacketProtocolSession} {input : Input}

theorem concerns_frame (k : FastPacketKey) (frame : TransmitFrame) (sent : Bool)
    (hsource : frame.source = some k.source) (hdestination : frame.destination = k.destination)
    (hgroup : frame.parameterGroupNumber = k.parameterGroupNumber) :
    concerns key (.frame frame sent) = decide (k = key) := by
  obtain ⟨⟨source, destination⟩, group⟩ := k
  obtain ⟨⟨source', destination'⟩, group'⟩ := key
  subst hdestination hgroup
  simp [concerns, hsource, and_assoc]

theorem concerns_closeSession (k : FastPacketKey) (session : FastPacketProtocolSession)
    (successful : Bool) :
    ∀ e ∈ (closeSession k session successful).2, concerns key e = decide (k = key) := by
  unfold closeSession
  split
  · intro e he
    rw [List.mem_singleton.mp he]
    obtain ⟨⟨source, destination⟩, group⟩ := k
    obtain ⟨⟨source', destination'⟩, group'⟩ := key
    simp [concerns, and_assoc]
  · simp

theorem concerns_sendFrames (k : FastPacketKey) (left : Nat)
    (session : FastPacketProtocolSession) :
    ∀ e ∈ (sendFrames env k left session).events, concerns key e = decide (k = key) := by
  induction left generalizing session with
  | zero => simp [sendFrames]
  | succ left ih =>
    rw [sendFrames]
    dsimp only
    split_ifs
    · intro e he
      rcases List.mem_cons.mp he with rfl | he
      · exact concerns_frame k _ _ rfl rfl rfl
      · exact ih _ e he
    · intro e he
      rw [List.mem_singleton.mp he]
      exact concerns_frame k _ _ rfl rfl rfl
    · simp

theorem concerns_updateSession (k : FastPacketKey) (session : FastPacketProtocolSession) :
    ∀ e ∈ (session.updateSession env k).2, concerns key e = decide (k = key) := by
  intro e he
  unfold updateSession at he
  split at he
  · split_ifs at he
    · exact concerns_closeSession k _ _ e he
    · simp at he
  · unfold updateTransmit at he
    rcases List.mem_append.mp he with he | he
    · rcases List.mem_append.mp he with he | he
      · exact concerns_sendFrames k _ _ e he
      · split_ifs at he
        · exact concerns_closeSession k _ _ e he
        · simp at he
    · split_ifs at he
      · exact concerns_closeSession k _ _ e he
      · simp at he
      · simp at he

theorem concerns_update (k : FastPacketKey) (session : FastPacketProtocolSession) :
    ∀ e ∈ (session.update env k).2, concerns key e = decide (k = key) := by
  intro e he
  unfold FastPacketProtocolSession.update at he
  split_ifs at he
  · rcases List.mem_append.mp he with he | he
    · exact concerns_closeSession k _ _ e he
    · exact concerns_updateSession k session e he
  · exact concerns_updateSession k session e he

theorem eq_of_concerns_receiveFrame {k : FastPacketKey}
    {callbacks : List ParameterGroupNumberCallbackData} {message : CANMessage} {e : Event}
    (he : e ∈ (session.receiveFrame env k callbacks message).2) (h : concerns key e = true) :
    k = key := by
  have hclosed {session : FastPacketProtocolSession} {successful : Bool}
      (he : e ∈ (closeSession k session successful).2) : k = key := by
    rw [concerns_closeSession k session successful e he] at h
    exact of_decide_eq_true h
  unfold receiveFrame at he
  dsimp only at he
  split_ifs at he
  · exact hclosed he
  · exact hclosed he
  · rcases List.mem_append.mp he with he | he
    · obtain ⟨_, -, rfl⟩ := List.mem_map.mp he
      simp [concerns] at h
    · exact hclosed he
  · simp at he

theorem filter_concerns_emits (hapart : Apart key protocol input) :
    (fastPacketProtocol.emits protocol input).filter (concerns key) =
      (fate protocol input key).2 := by
  obtain ⟨env, call⟩ := input
  unfold fate
  cases call with
  | processMessage message =>
    have hnone : (processMessage env message protocol).2.filter (concerns key) = [] := by
      rw [List.filter_eq_nil_iff]
      intro e he hconcerns
      unfold processMessage at he
      split at he
      · simp at he
      · rename_i k hheard
        split at he
        · exact hapart (by rw [← eq_of_concerns_receiveFrame he hconcerns]; exact hheard)
        · split_ifs at he
          · simp at he
          · split at he <;> simp at he
    have hapart' : heardKey env message protocol ≠ some key := hapart
    cases protocol.activeSessions.lookup key with
    | none =>
      dsimp only
      rw [if_neg fun h => hapart' h.1]
      exact hnone
    | some session =>
      dsimp only
      rw [if_neg hapart']
      exact hnone
  | update =>
    have hall (session : FastPacketProtocolSession) :
        (session.update env key).2.filter (concerns key) = (session.update env key).2 := by
      rw [List.filter_eq_self]
      intro e he
      rw [concerns_update key session e he]
      exact decide_eq_true rfl
    change (update env protocol).2.filter (concerns key) = _
    have hsweep := KeyedTable.filterMap_sweepBack protocol.activeSessions
      (fun k session => session.update env k) (Option.guard (concerns key ·)) key ?_
    · rw [List.filterMap_eq_filter, ← events_update] at hsweep
      rw [hsweep]
      cases protocol.activeSessions.lookup key with
      | none => rfl
      | some session =>
        rw [Option.map_some, Option.getD_some, hall]
    · intro k session _ hne
      rw [List.filterMap_eq_filter, List.filter_eq_nil_iff]
      intro e he
      rw [concerns_update k session e he]
      simpa using hne
  | sendMultipacketMessage request =>
    have hquiet : (sendMultipacketMessage env request protocol).2.filter (concerns key) = [] := by
      unfold sendMultipacketMessage
      split <;> rfl
    cases protocol.activeSessions.lookup key with
    | some session => exact hquiet
    | none =>
      dsimp only
      split
      · split_ifs <;> exact hquiet
      · exact hquiet
  | registerMultipacketMessageCallback callback =>
    cases protocol.activeSessions.lookup key <;> rfl
  | removeMultipacketMessageCallback callback =>
    cases protocol.activeSessions.lookup key <;> rfl
  | allowAnyControlFunction allow =>
    cases protocol.activeSessions.lookup key <;> rfl

theorem fate_of_apart (hapart : Apart key protocol input) :
    fate protocol input key =
      match input.call, protocol.activeSessions.lookup key with
      | .update, some session => session.update input.env key
      | _, before => (before, []) := by
  obtain ⟨env, call⟩ := input
  unfold fate
  cases call with
  | processMessage message =>
    have hapart' : heardKey env message protocol ≠ some key := hapart
    cases protocol.activeSessions.lookup key with
    | none => simp [hapart']
    | some session => simp [hapart']
  | sendMultipacketMessage request =>
    cases protocol.activeSessions.lookup key with
    | some session => rfl
    | none =>
      dsimp only
      split
      · rename_i k session hrequest
        rw [if_neg]
        rintro rfl
        exact hapart session hrequest
      · rfl
  | update => cases protocol.activeSessions.lookup key <;> rfl
  | registerMultipacketMessageCallback callback =>
    cases protocol.activeSessions.lookup key <;> rfl
  | removeMultipacketMessageCallback callback =>
    cases protocol.activeSessions.lookup key <;> rfl
  | allowAnyControlFunction allow =>
    cases protocol.activeSessions.lookup key <;> rfl

theorem gone_of_apart (inputs : List Input)
    (hlookup : protocol.activeSessions.lookup key = none)
    (hapart : fastPacketProtocol.Along (Apart key) protocol inputs) :
    (fastPacketProtocol.run protocol inputs).activeSessions.lookup key = none ∧
      (fastPacketProtocol.outputs protocol inputs).filter (concerns key) = [] := by
  induction inputs generalizing protocol with
  | nil => exact ⟨hlookup, rfl⟩
  | cons input rest ih =>
    have hfate : fate protocol input key = (none, []) := by
      rw [fate_of_apart hapart.1, hlookup]
      cases input.call <;> rfl
    obtain ⟨hgone, hquiet⟩ := ih (by rw [lookup_next, hfate]) hapart.2
    refine ⟨hgone, ?_⟩
    rw [Machine.outputs_cons, List.filter_append, filter_concerns_emits hapart.1, hfate, hquiet]
    rfl

def completionOf : Event → Option Completion
  | .transmitComplete completion => some completion
  | _ => none

def isFailure : Event → Bool
  | .transmitComplete completion => !completion.successful
  | _ => false

def isSent : Event → Bool
  | .frame _ sent => sent
  | _ => false

/-- One completion if the session is gone and none before, and no frame gets out behind
a failure. -/
structure CompletesOnce (isOpen : Bool) (events : List Event) : Prop where
  count : (events.filterMap completionOf).length = if isOpen then 0 else 1
  silent : events.Pairwise fun e later => isFailure e = true → isSent later = false

/-- An update that finds the session open finds both parties valid, or the driver refuses the next
frame before the timeout. -/
def Orderly (key : FastPacketKey) (protocol : FastPacketProtocol) (input : Input) : Prop :=
  match input.call with
  | .update => ∀ session, protocol.activeSessions.lookup key = some session →
      endpointInvalid input.env key = false ∨
        input.env.send (session.transferFrame key) = false ∧
          ¬input.env.timeElapsed session.timestamp > FP_TIMEOUT_MS
  | _ => True

theorem orderly_of_gone (inputs : List Input)
    (hlookup : protocol.activeSessions.lookup key = none)
    (hapart : fastPacketProtocol.Along (Apart key) protocol inputs) :
    fastPacketProtocol.Along (Orderly key) protocol inputs := by
  induction inputs generalizing protocol with
  | nil => trivial
  | cons input rest ih =>
    refine ⟨?_, ih ?_ hapart.2⟩
    · unfold Orderly
      split
      · simp [hlookup]
      · trivial
    · exact (gone_of_apart [input] hlookup ⟨hapart.1, trivial⟩).1

theorem completesOnce_append_iff {isOpen : Bool} {front events : List Event}
    (hfront : ∀ e ∈ front, completionOf e = none) :
    CompletesOnce isOpen (front ++ events) ↔ CompletesOnce isOpen events := by
  have hcount : (front ++ events).filterMap completionOf = events.filterMap completionOf := by
    rw [List.filterMap_append, List.filterMap_eq_nil_iff.mpr hfront, List.nil_append]
  have hsilent : ∀ e ∈ front, isFailure e = false := by
    intro e he
    have hnone := hfront e he
    cases e <;> simp_all [completionOf, isFailure]
  constructor
  · rintro ⟨h, hpairs⟩
    rw [hcount] at h
    exact ⟨h, (List.pairwise_append.mp hpairs).2.1⟩
  · rintro ⟨h, hpairs⟩
    refine ⟨by rw [hcount]; exact h, List.pairwise_append.mpr ⟨?_, hpairs, ?_⟩⟩
    · apply List.pairwise_of_forall_mem_list
      intro e he later _ hfailure
      rw [hsilent e he] at hfailure
      cases hfailure
    · intro e he later _ hfailure
      rw [hsilent e he] at hfailure
      cases hfailure

theorem completionOf_sentFrom (k n : Nat) :
    ∀ e ∈ sentFrom key session k n, completionOf e = none := by
  intro e he
  obtain ⟨_, -, rfl⟩ := List.mem_map.mp he
  rfl

theorem completionOf_frame (frame : TransmitFrame) (sent : Bool) :
    ∀ e ∈ [Event.frame frame sent], completionOf e = none := by
  intro e he
  rw [List.mem_singleton.mp he]
  rfl

variable {k : Nat} {time : UInt32}

theorem update_after (h : session.Sendable) (env : Environment) (key : FastPacketKey)
    (time : UInt32) (hk : k < session.frames) :
    ∃ outcome, Updated env key session k time outcome ∧
      (session.after k time).update env key =
        if endpointInvalid env key = true then
          (none, (closeSession key session false).2 ++ outcome.2)
        else outcome := by
  refine ⟨_, h.updateTransmit_after env key time hk, ?_⟩
  have hsession : (session.after k time).updateSession env key =
      (session.after k time).updateTransmit env key := by
    have hdirection : (session.after k time).direction = .transmit := h.direction
    unfold updateSession
    rw [hdirection]
  unfold FastPacketProtocolSession.update
  rw [hsession]
  rfl

def completion (key : FastPacketKey) (session : FastPacketProtocolSession)
    (callback : CallbackRef) (successful : Bool) : Completion where
  callback := callback
  parameterGroupNumber := key.parameterGroupNumber
  dataLength := session.totalMessageSize.toUInt32
  source := key.source
  destination := key.destination
  successful := successful
  parentPointer := session.parent

theorem closeSession_of_transmit (h : session.direction = .transmit) {callback : CallbackRef}
    (hcallback : session.sessionCompleteCallback = some callback) (successful : Bool) :
    (closeSession key session successful).2 =
      [.transmitComplete (completion key session callback successful)] := by
  unfold closeSession
  rw [hcallback, h]
  rfl

theorem completesOnce_of_closeSession (h : session.Sendable)
    (hcallback : session.sessionCompleteCallback ≠ none) {front : List Event}
    (hfront : ∀ e ∈ front, completionOf e = none) (successful : Bool) :
    CompletesOnce false (front ++ (closeSession key session successful).2) := by
  obtain ⟨callback, hcallback⟩ := Option.ne_none_iff_exists'.mp hcallback
  rw [completesOnce_append_iff hfront, closeSession_of_transmit h.direction hcallback]
  exact ⟨rfl, List.pairwise_singleton _ _⟩

/-- A session that is closed at once for an invalid party reports once exactly when the driver
refuses its next frame in time. -/
theorem completesOnce_of_invalid (h : session.Sendable) {outcome : Outcome}
    (hcallback : session.sessionCompleteCallback ≠ none)
    (hupdated : Updated env key session k time outcome) :
    CompletesOnce false ((closeSession key session false).2 ++ outcome.2) ↔
      env.send (session.fragment key k) = false ∧ ¬env.timeElapsed time > FP_TIMEOUT_MS := by
  obtain ⟨callback, hcallback⟩ := Option.ne_none_iff_exists'.mp hcallback
  have hloud {n : Nat} {rest : List Event} (hn : 0 < n)
      (honce : CompletesOnce false ((closeSession key session false).2 ++
        (sentFrom key session k n ++ rest))) : False := by
    rw [closeSession_of_transmit h.direction hcallback, List.singleton_append] at honce
    have hmem : .frame (session.fragment key (k + 0)) true ∈ sentFrom key session k n ++ rest :=
      List.mem_append_left _ (List.mem_map.mpr ⟨0, List.mem_range.mpr hn, rfl⟩)
    have hsilent : true = false := (List.pairwise_cons.mp honce.silent).1 _ hmem rfl
    cases hsilent
  cases hupdated with
  | done n hpos heq hsend =>
    refine ⟨fun honce => (hloud hpos honce).elim, fun hboth => ?_⟩
    rw [hsend] at hboth
    exact absurd hboth.1 (by decide)
  | timedOut hsend hlate =>
    refine ⟨fun honce => ?_, fun hboth => absurd hlate hboth.2⟩
    have hcount := honce.count
    simp [closeSession_of_transmit h.direction hcallback, completionOf] at hcount
  | refused hsend hearly =>
    refine ⟨fun _ => ⟨hsend, hearly⟩, fun _ => ?_⟩
    rw [closeSession_of_transmit h.direction hcallback]
    exact ⟨rfl, by simp [isSent]⟩
  | sent n refusal hpos hlt hsend =>
    refine ⟨fun honce => (hloud hpos honce).elim, fun hboth => ?_⟩
    rw [hsend] at hboth
    exact absurd hboth.1 (by decide)

theorem orderly_iff (h : session.Sendable) (hk : k < session.frames)
    (hcall : input.call = .update)
    (hlookup : protocol.activeSessions.lookup key = some (session.after k time)) :
    Orderly key protocol input ↔ endpointInvalid input.env key = false ∨
      input.env.send (session.fragment key k) = false ∧
        ¬input.env.timeElapsed time > FP_TIMEOUT_MS := by
  unfold Orderly
  rw [hcall, hlookup, ← h.transferFrame_after time hk]
  constructor
  · exact fun hall => hall _ rfl
  · rintro hcond _ ⟨rfl⟩
    exact hcond

/-- A session that stays open reports nothing, and it is further on or waits for the
timeout. -/
def Stays (key : FastPacketKey) (session : FastPacketProtocolSession) (k : Nat) (time : UInt32)
    (protocol : FastPacketProtocol) (input : Input) : Prop :=
  ∃ k' time', k' < session.frames ∧
    fate protocol input key = (some (session.after k' time'), (fate protocol input key).2) ∧
    (∀ e ∈ (fate protocol input key).2, completionOf e = none) ∧ Orderly key protocol input ∧
    (k < k' ∨ k' = k ∧ time' = time ∧
      (input.call = .update → ¬input.env.timeElapsed time > FP_TIMEOUT_MS))

/-- A session that leaves reports once and then stays silent in an orderly update. -/
def Leaves (key : FastPacketKey) (session : FastPacketProtocolSession)
    (protocol : FastPacketProtocol) (input : Input) : Prop :=
  (fate protocol input key).1 = none ∧
    (session.sessionCompleteCallback ≠ none →
      (CompletesOnce false (fate protocol input key).2 ↔ Orderly key protocol input))

theorem stays_or_leaves (h : session.Sendable) (hk : k < session.frames)
    (hlookup : protocol.activeSessions.lookup key = some (session.after k time))
    (hapart : Apart key protocol input) :
    Stays key session k time protocol input ∨ Leaves key session protocol input := by
  have hfate := fate_of_apart hapart
  rw [hlookup] at hfate
  by_cases hcall : input.call = .update
  · rw [hcall] at hfate
    dsimp only at hfate
    obtain ⟨outcome, hupdated, hupdate⟩ := update_after h input.env key time hk
    rw [hupdate] at hfate
    have horderly := orderly_iff h hk hcall hlookup
    by_cases hinvalid : endpointInvalid input.env key = true
    · rw [if_pos hinvalid] at hfate
      refine .inr ⟨by rw [hfate], fun hcallback => ?_⟩
      rw [hfate, horderly, completesOnce_of_invalid h hcallback hupdated, hinvalid]
      simp
    · rw [if_neg hinvalid] at hfate
      have horder : Orderly key protocol input := horderly.mpr (.inl (by simpa using hinvalid))
      cases hupdated with
      | done n hpos heq hsend =>
        refine .inr ⟨by rw [hfate], fun hcallback => ?_⟩
        rw [hfate]
        exact iff_of_true (completesOnce_of_closeSession h hcallback
          (completionOf_sentFrom k n) true) horder
      | timedOut hsend hlate =>
        refine .inr ⟨by rw [hfate], fun hcallback => ?_⟩
        rw [hfate]
        exact iff_of_true (completesOnce_of_closeSession h hcallback
          (completionOf_frame _ _) false) horder
      | refused hsend hearly =>
        exact .inl ⟨k, time, hk, by rw [hfate], by rw [hfate]; exact completionOf_frame _ _,
          horder, .inr ⟨rfl, rfl, fun _ => hearly⟩⟩
      | sent n refusal hpos hlt hsend =>
        refine .inl ⟨k + n, input.env.now, hlt, by rw [hfate], ?_, horder, .inl (by omega)⟩
        rw [hfate]
        intro e he
        rcases List.mem_append.mp he with he | he
        · exact completionOf_sentFrom k n e he
        · split_ifs at he
          · exact completionOf_frame _ _ e he
          · simp at he
  · have hidle : fate protocol input key = (some (session.after k time), []) := by
      rw [hfate]
      cases hc : input.call with
      | update => exact absurd hc hcall
      | _ => rfl
    refine .inl ⟨k, time, hk, by rw [hidle], by simp [hidle], ?_,
      .inr ⟨rfl, rfl, fun hupdate => absurd hupdate hcall⟩⟩
    unfold Orderly
    split
    · rename_i hupdate
      exact absurd hupdate hcall
    · trivial

theorem completesOnce_iff_orderly (h : session.Sendable)
    (hcallback : session.sessionCompleteCallback ≠ none) (hk : k < session.frames)
    (inputs : List Input)
    (hlookup : protocol.activeSessions.lookup key = some (session.after k time))
    (hapart : fastPacketProtocol.Along (Apart key) protocol inputs) :
    CompletesOnce ((fastPacketProtocol.run protocol inputs).activeSessions.lookup key).isSome
        ((fastPacketProtocol.outputs protocol inputs).filter (concerns key)) ↔
      fastPacketProtocol.Along (Orderly key) protocol inputs := by
  induction inputs generalizing protocol k time with
  | nil =>
    rw [Machine.run_nil, hlookup]
    exact ⟨fun _ => trivial, fun _ => ⟨rfl, List.Pairwise.nil⟩⟩
  | cons input rest ih =>
    have hnext := lookup_next protocol input key
    rw [Machine.run_cons, Machine.outputs_cons, List.filter_append,
      filter_concerns_emits hapart.1]
    rcases stays_or_leaves h hk hlookup hapart.1 with
      ⟨k', time', hk', hstays, hquiet, horder, -⟩ | ⟨hleaves, hiff⟩
    · rw [hstays] at hnext
      rw [completesOnce_append_iff hquiet, ih hk' hnext hapart.2]
      exact ⟨fun hrest => ⟨horder, hrest⟩, fun hall => hall.2⟩
    · rw [hleaves] at hnext
      obtain ⟨hgone, hnone⟩ := gone_of_apart rest hnext hapart.2
      rw [hgone, hnone, List.append_nil]
      exact ⟨fun honce => ⟨(hiff hcallback).mp honce, orderly_of_gone rest hnext hapart.2⟩,
        fun hall => (hiff hcallback).mpr hall.1⟩

def upTo (inputs : Nat → Input) (n : Nat) : List Input := (List.range n).map inputs

theorem run_upTo_succ (inputs : Nat → Input) (n : Nat) :
    fastPacketProtocol.run protocol (upTo inputs (n + 1)) =
      fastPacketProtocol.next (fastPacketProtocol.run protocol (upTo inputs n)) (inputs n) := by
  rw [upTo, List.range_succ, List.map_append]
  exact Machine.run_concat _ _ _ _

/-- No moment is the last one that is followed by an update after the timeout. -/
def KeepsUpdating (inputs : Nat → Input) : Prop :=
  ∀ time n, ∃ m, n ≤ m ∧ (inputs m).call = .update ∧
    (inputs m).env.timeElapsed time > FP_TIMEOUT_MS

theorem gone_or_further (h : session.Sendable) {inputs : Nat → Input}
    (hapart : ∀ n, Apart key (fastPacketProtocol.run protocol (upTo inputs n)) (inputs n))
    (hupdates : KeepsUpdating inputs) {n : Nat} (hk : k < session.frames)
    (hlookup : (fastPacketProtocol.run protocol (upTo inputs n)).activeSessions.lookup key =
      some (session.after k time)) :
    ∃ m, (fastPacketProtocol.run protocol (upTo inputs m)).activeSessions.lookup key = none ∨
      ∃ k' time', k < k' ∧ k' < session.frames ∧
        (fastPacketProtocol.run protocol (upTo inputs m)).activeSessions.lookup key =
          some (session.after k' time') := by
  obtain ⟨m, hnm, hcall, hlate⟩ := hupdates time n
  by_contra hstuck
  push Not at hstuck
  have hstep (j : Nat)
      (hj : (fastPacketProtocol.run protocol (upTo inputs j)).activeSessions.lookup key =
        some (session.after k time)) :
      (fastPacketProtocol.run protocol (upTo inputs (j + 1))).activeSessions.lookup key =
          some (session.after k time) ∧
        ((inputs j).call = .update → ¬(inputs j).env.timeElapsed time > FP_TIMEOUT_MS) := by
    have hstuck' := hstuck (j + 1)
    rw [run_upTo_succ, lookup_next] at hstuck' ⊢
    rcases stays_or_leaves h hk hj (hapart j) with
      ⟨k', time', hk', hstays, -, -, hlt | ⟨rfl, rfl, hearly⟩⟩ | ⟨hgone, -⟩
    · exact absurd (congrArg Prod.fst hstays) (hstuck'.2 k' time' hlt hk')
    · exact ⟨congrArg Prod.fst hstays, hearly⟩
    · exact absurd hgone hstuck'.1
  -- Nothing happens up to the update that comes too late for a refusal.
  have hwaits (j : Nat) (hj : n ≤ j) :
      (fastPacketProtocol.run protocol (upTo inputs j)).activeSessions.lookup key =
        some (session.after k time) := by
    induction j, hj using Nat.le_induction with
    | base => exact hlookup
    | succ j _ ih => exact (hstep j ih).1
  exact (hstep m (hwaits m hnm)).2 hcall hlate

theorem exists_gone (h : session.Sendable) {inputs : Nat → Input}
    (hapart : ∀ n, Apart key (fastPacketProtocol.run protocol (upTo inputs n)) (inputs n))
    (hupdates : KeepsUpdating inputs) {n : Nat} (hk : k < session.frames)
    (hlookup : (fastPacketProtocol.run protocol (upTo inputs n)).activeSessions.lookup key =
      some (session.after k time)) :
    ∃ m, (fastPacketProtocol.run protocol (upTo inputs m)).activeSessions.lookup key = none := by
  -- The number of frames that remain decreases.
  induction hremaining : session.frames - k using Nat.strong_induction_on
    generalizing n k time with
  | _ remaining ih =>
    obtain ⟨m, hgone | ⟨k', time', hlt, hk', hfurther⟩⟩ :=
      gone_or_further h hapart hupdates hk hlookup
    · exact ⟨m, hgone⟩
    · exact ih (session.frames - k') (by omega) hk' hfurther rfl

def SendRequest.sessionKey (request : SendRequest) : Option FastPacketKey :=
  request.source.map fun source => ⟨⟨source, request.destination⟩, request.parameterGroupNumber⟩

def Accepts (protocol : FastPacketProtocol) (env : Environment) (request : SendRequest) : Prop :=
  .transmitAnswered true ∈
    fastPacketProtocol.emits protocol ⟨env, .sendMultipacketMessage request⟩

def requested (protocol : FastPacketProtocol) (env : Environment) (request : SendRequest) :
    FastPacketProtocol :=
  fastPacketProtocol.next protocol ⟨env, .sendMultipacketMessage request⟩

structure Opened (env : Environment) (protocol : FastPacketProtocol) (request : SendRequest)
    (key : FastPacketKey) (session : FastPacketProtocolSession) : Prop where
  requested_eq : requestedSession env request protocol = some (key, session)
  key_eq : request.sessionKey = some key
  group_ge : FP_MIN_PARAMETER_GROUP_NUMBER ≤ request.parameterGroupNumber
  group_le : request.parameterGroupNumber ≤ FP_MAX_PARAMETER_GROUP_NUMBER
  sendable : session.Sendable
  data_eq : request.messageData = some session.data
  callback_eq : session.sessionCompleteCallback = request.txCompleteCallback
  sequenceNumber_eq : session.sequenceNumber =
    getNewSequenceNumber (env.world key.source).controlFunctionNAME request.parameterGroupNumber
      protocol.sessionHistory
  after_zero : session.after 0 0 = session

theorem opened_of_requestedSession {request : SendRequest}
    (h : requestedSession env request protocol = some (key, session)) :
    Opened env protocol request key session := by
  have hrequested := h
  unfold requestedSession at h
  split at h
  · rename_i data source hdata hsource
    dsimp only at h
    split_ifs at h with hlength hbusy hgroup hdestination
    cases h
    have hsize := request.length_eq data hdata
    simp only [not_or, not_le, gt_iff_lt, not_lt] at hlength hgroup
    exact
      { requested_eq := hrequested
        key_eq := by rw [SendRequest.sessionKey, hsource]; rfl
        group_ge := UInt32.not_lt.mp (fun hlt => hgroup.1 hlt)
        group_le := UInt32.not_lt.mp (fun hlt => hgroup.2 hlt)
        sendable := ⟨rfl, hsize ▸ hlength.1, hsize ▸ hlength.2⟩
        data_eq := hdata
        callback_eq := rfl
        sequenceNumber_eq := rfl
        after_zero := rfl }
  · simp at h

theorem exists_opened {request : SendRequest} (haccepts : Accepts protocol env request) :
    ∃ key session, Opened env protocol request key session ∧
      (requested protocol env request).activeSessions.lookup key = some session := by
  change _ ∈ (sendMultipacketMessage env request protocol).2 at haccepts
  unfold sendMultipacketMessage at haccepts
  split at haccepts
  · simp at haccepts
  · rename_i key session hrequest
    refine ⟨key, session, opened_of_requestedSession hrequest, ?_⟩
    unfold requested
    rw [lookup_next]
    unfold fate
    rw [lookup_of_requestedSession hrequest]
    simp [hrequest]

/-- After an accepted request, its session reports once, when it leaves, and is silent after a
failure, exactly when the updates are orderly; and it leaves every run that keeps updating. -/
theorem transmitComplete_once_iff (protocol : FastPacketProtocol) (env : Environment)
    (request : SendRequest) (key : FastPacketKey) (haccepts : Accepts protocol env request)
    (hkey : request.sessionKey = some key) (hcallback : request.txCompleteCallback ≠ none) :
    (∀ inputs, fastPacketProtocol.Along (Apart key) (requested protocol env request) inputs →
      (CompletesOnce ((fastPacketProtocol.run (requested protocol env request)
            inputs).activeSessions.lookup key).isSome
          ((fastPacketProtocol.outputs (requested protocol env request) inputs).filter
            (concerns key)) ↔
        fastPacketProtocol.Along (Orderly key) (requested protocol env request) inputs)) ∧
    ∀ inputs : Nat → Input,
      (∀ n, Apart key (fastPacketProtocol.run (requested protocol env request)
        (upTo inputs n)) (inputs n)) →
      KeepsUpdating inputs →
      ∃ n, (fastPacketProtocol.run (requested protocol env request)
        (upTo inputs n)).activeSessions.lookup key = none := by
  obtain ⟨k, session, hopened, hlookup⟩ := exists_opened haccepts
  obtain rfl : k = key := Option.some.inj (hopened.key_eq.symm.trans hkey)
  rw [← hopened.after_zero] at hlookup
  have hpos : 0 < session.frames := by
    have htwo := hopened.sendable.two_le_frames
    omega
  constructor
  · intro inputs hapart
    exact completesOnce_iff_orderly hopened.sendable (hopened.callback_eq ▸ hcallback) hpos inputs
      hlookup hapart
  · intro inputs hapart hupdates
    have hstart : (fastPacketProtocol.run (requested protocol env request)
        (upTo inputs 0)).activeSessions.lookup k = some (session.after 0 0) := hlookup
    exact exists_gone hopened.sendable hapart hupdates hpos hstart

/-- Nine bytes from our own control function to everyone. -/
def nineBytes : SendRequest where
  parameterGroupNumber := 0x1F801
  messageData := some [1, 2, 3, 4, 5, 6, 7, 8, 9]
  messageLength := 9
  source := some 1
  destination := none
  priority := PriorityDefault6
  txCompleteCallback := some 3
  parentPointer := 0
  length_eq := by decide

theorem transmitComplete_once_iff_nine_bytes :
    (∀ inputs, fastPacketProtocol.Along (Apart ⟨⟨1, none⟩, 0x1F801⟩)
        (requested idle ⟨900, twoNodes, fun _ => true⟩ nineBytes) inputs →
      (CompletesOnce ((fastPacketProtocol.run (requested idle ⟨900, twoNodes, fun _ => true⟩
            nineBytes) inputs).activeSessions.lookup ⟨⟨1, none⟩, 0x1F801⟩).isSome
          ((fastPacketProtocol.outputs (requested idle ⟨900, twoNodes, fun _ => true⟩
            nineBytes) inputs).filter (concerns ⟨⟨1, none⟩, 0x1F801⟩)) ↔
        fastPacketProtocol.Along (Orderly ⟨⟨1, none⟩, 0x1F801⟩)
          (requested idle ⟨900, twoNodes, fun _ => true⟩ nineBytes) inputs)) ∧
    ∀ inputs : Nat → Input,
      (∀ n, Apart ⟨⟨1, none⟩, 0x1F801⟩ (fastPacketProtocol.run
        (requested idle ⟨900, twoNodes, fun _ => true⟩ nineBytes) (upTo inputs n)) (inputs n)) →
      KeepsUpdating inputs →
      ∃ n, (fastPacketProtocol.run (requested idle ⟨900, twoNodes, fun _ => true⟩ nineBytes)
        (upTo inputs n)).activeSessions.lookup ⟨⟨1, none⟩, 0x1F801⟩ = none :=
  transmitComplete_once_iff idle ⟨900, twoNodes, fun _ => true⟩ nineBytes ⟨⟨1, none⟩, 0x1F801⟩
    (by unfold Accepts; decide +kernel) (by decide) (by decide)

def addressesLost : Input where
  env := ⟨1000, fun c => { twoNodes c with address := NULL_CAN_ADDRESS }, fun _ => false⟩
  call := .update

/-- The source loses its address within the first second, and the refused frame makes the session
report a second failure. -/
theorem not_transmitComplete_once :
    ¬∀ (protocol : FastPacketProtocol) (env : Environment) (request : SendRequest)
      (key : FastPacketKey) (inputs : List Input), Accepts protocol env request →
      request.sessionKey = some key → request.txCompleteCallback ≠ none →
      (∀ input ∈ inputs, input.call = .update) →
      CompletesOnce ((fastPacketProtocol.run (requested protocol env request)
          inputs).activeSessions.lookup key).isSome
        ((fastPacketProtocol.outputs (requested protocol env request) inputs).filter
          (concerns key)) := by
  intro hclaim
  have honce := (hclaim idle ⟨900, twoNodes, fun _ => true⟩ nineBytes ⟨⟨1, none⟩, 0x1F801⟩
    [addressesLost] (by unfold Accepts; decide +kernel) (by decide) (by decide)
    (by simp [addressesLost])).count
  revert honce
  decide +kernel

end Isobus.FastPacket
