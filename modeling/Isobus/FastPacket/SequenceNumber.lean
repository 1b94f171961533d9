import Isobus.FastPacket.Completion

/-!
# The sequence numbers of successive messages

A session takes the number after the one that is remembered for its NAME and group number, and it is
remembered when it closes: messages that do not overlap are numbered one after the other.
-/

namespace Isobus.FastPacket

open Isobus.Can Isobus.Lib FastPacketProtocolSession

/-- What the sessions of a key are remembered under, by the names that the control functions keep.
-/
def namedKey (names : CFRef → UInt64) (key : FastPacketKey) : HistoryKey :=
  ⟨names key.source, key.parameterGroupNumber⟩

/-- Every control function that is the source of a session before or after a call has its
name meanwhile. -/
def KeepsNames (names : CFRef → UInt64) (protocol : FastPacketProtocol) (input : Input) : Prop :=
  ∀ key, (protocol.activeSessions.lookup key ≠ none ∨
      (fastPacketProtocol.next protocol input).activeSessions.lookup key ≠ none) →
    (input.env.world key.source).controlFunctionNAME = names key.source

/-- Neither a heard frame nor an accepted request is for this NAME and group number. -/
def Elsewhere (former : HistoryKey) (protocol : FastPacketProtocol) (input : Input) : Prop :=
  match input.call with
  | .processMessage message => ∀ key, heardKey input.env message protocol = some key →
      historyKey input.env key ≠ former
  | .sendMultipacketMessage request => ∀ key session,
      requestedSession input.env request protocol = some (key, session) →
        historyKey input.env key ≠ former
  | _ => True

/-- The sessions of a NAME and group number have one number, and it is remembered when
none of them is open. -/
structure Numbered (names : CFRef → UInt64) (former : HistoryKey) (number : UInt8)
    (protocol : FastPacketProtocol) : Prop where
  opened : ∀ key session, protocol.activeSessions.lookup key = some session →
    namedKey names key = former → session.sequenceNumber = number
  closed : (∀ key, protocol.activeSessions.lookup key ≠ none → namedKey names key ≠ former) →
    protocol.sessionHistory.lookup former = some number

variable {env : Environment} {protocol : FastPacketProtocol} {key : FastPacketKey}
variable {session : FastPacketProtocolSession} {input : Input}
variable {names : CFRef → UInt64} {former : HistoryKey} {number : UInt8}

theorem lookup_addSessionHistory (key : FastPacketKey) (session : FastPacketProtocolSession)
    (history : KeyedTable HistoryKey UInt8) :
    (addSessionHistory env key session history).lookup former =
      if historyKey env key = former then some session.sequenceNumber
      else history.lookup former := by
  unfold addSessionHistory
  split_ifs with h
  · rw [h, KeyedTable.lookup_set_self]
  · exact KeyedTable.lookup_set_ne _ _ fun heq => h heq.symm

theorem lookup_history_updateEach (entries : List (FastPacketKey × FastPacketProtocolSession))
    (protocol : FastPacketProtocol)
    (hnumber : ∀ e ∈ entries, historyKey env e.1 = former → e.2.sequenceNumber = number) :
    (updateEach env entries protocol).1.sessionHistory.lookup former =
      if ∃ e ∈ entries, historyKey env e.1 = former ∧ (e.2.update env e.1).1 = none then
        some number
      else protocol.sessionHistory.lookup former := by
  induction entries generalizing protocol with
  | nil => simp [updateEach]
  | cons e rest ih =>
    obtain ⟨k, s⟩ := e
    have hk := hnumber (k, s) List.mem_cons_self
    rw [updateEach, ih _ fun e he => hnumber e (List.mem_cons_of_mem _ he)]
    have hsettled : (settle env k s (s.update env k) protocol).1.sessionHistory.lookup former =
        if historyKey env k = former ∧ (s.update env k).1 = none then some number
        else protocol.sessionHistory.lookup former := by
      unfold settle
      cases hupdate : (s.update env k).1 with
      | some s' => simp
      | none =>
        rw [lookup_addSessionHistory]
        split_ifs with hformer
        · rw [hk hformer]
        · simp_all
        · simp_all
        · rfl
    rw [hsettled]
    by_cases hrest : ∃ e ∈ rest, historyKey env e.1 = former ∧ (e.2.update env e.1).1 = none
    · obtain ⟨e, he, hclosed⟩ := hrest
      rw [if_pos ⟨e, he, hclosed⟩, if_pos ⟨e, List.mem_cons_of_mem _ he, hclosed⟩]
    · rw [if_neg hrest]
      by_cases hhere : historyKey env k = former ∧ (s.update env k).1 = none
      · rw [if_pos hhere, if_pos ⟨(k, s), List.mem_cons_self, hhere⟩]
      · rw [if_neg hhere, if_neg]
        rintro ⟨e, he, hclosed⟩
        rcases List.mem_cons.mp he with rfl | he
        · exact hhere hclosed
        · exact hrest ⟨e, he, hclosed⟩

theorem lookup_history_update (hnumber : ∀ key session,
      protocol.activeSessions.lookup key = some session → historyKey env key = former →
        session.sequenceNumber = number) :
    ((∃ key session, protocol.activeSessions.lookup key = some session ∧
        historyKey env key = former ∧ (session.update env key).1 = none) →
      (update env protocol).1.sessionHistory.lookup former = some number) ∧
    ((∀ key session, protocol.activeSessions.lookup key = some session →
        historyKey env key ≠ former) →
      (update env protocol).1.sessionHistory.lookup former =
        protocol.sessionHistory.lookup former) := by
  have hmem (e : FastPacketKey × FastPacketProtocolSession) :
      e ∈ protocol.activeSessions.entries.reverse ↔
        protocol.activeSessions.lookup e.1 = some e.2 :=
    List.mem_reverse.trans KeyedTable.mem_iff_lookup
  unfold update
  rw [lookup_history_updateEach _ _ fun e he hformer => hnumber e.1 e.2 ((hmem e).mp he) hformer]
  constructor
  · rintro ⟨key, session, hlookup, hclosed⟩
    rw [if_pos ⟨(key, session), (hmem _).mpr hlookup, hclosed⟩]
  · intro hother
    rw [if_neg]
    rintro ⟨e, he, hformer, -⟩
    exact hother e.1 e.2 ((hmem e).mp he) hformer

theorem sequenceNumber_sendFrames (left : Nat) (session : FastPacketProtocolSession) :
    (sendFrames env key left session).session.sequenceNumber = session.sequenceNumber := by
  induction left generalizing session with
  | zero => rfl
  | succ left ih =>
    rw [sendFrames]
    dsimp only
    split_ifs
    · exact ih _
    · rfl
    · rfl

variable {session' : FastPacketProtocolSession}

theorem sequenceNumber_of_update (h : (session.update env key).1 = some session') :
    session'.sequenceNumber = session.sequenceNumber := by
  unfold FastPacketProtocolSession.update at h
  split_ifs at h
  unfold updateSession at h
  split at h
  · split_ifs at h
    · rw [closeSession_fst] at h
      simp at h
    · rw [← Option.some.inj h]
  · unfold updateTransmit at h
    dsimp only at h
    split_ifs at h
    all_goals
      first
      | rw [closeSession_fst] at h
        simp at h
      | rw [← Option.some.inj h]
        exact sequenceNumber_sendFrames 256 session

/-- A call elsewhere opens no session of this NAME and group number, and what is left of
one has its number. -/
theorem before_of_fate (helsewhere : Elsewhere former protocol input)
    (hnames : KeepsNames names protocol input) (h : (fate protocol input key).1 = some session')
    (hkey : namedKey names key = former) :
    ∃ session, protocol.activeSessions.lookup key = some session ∧
      session'.sequenceNumber = session.sequenceNumber := by
  have hname : (input.env.world key.source).controlFunctionNAME = names key.source := by
    refine hnames key (.inr ?_)
    rw [lookup_next, h]
    simp
  have hhistory : historyKey input.env key = former := by
    rw [← hkey, historyKey, hname]
    rfl
  obtain ⟨env, call⟩ := input
  unfold fate at h
  cases call with
  | processMessage message =>
    have hother : heardKey env message protocol ≠ some key :=
      fun hheard => helsewhere key hheard hhistory
    cases hlookup : protocol.activeSessions.lookup key with
    | none => simp [hlookup, hother] at h
    | some session =>
      simp only [hlookup, hother, if_false, Option.some.injEq] at h
      exact ⟨session, rfl, by rw [h]⟩
  | update =>
    cases hlookup : protocol.activeSessions.lookup key with
    | none => simp [hlookup] at h
    | some session =>
      rw [hlookup] at h
      exact ⟨session, rfl, sequenceNumber_of_update h⟩
  | sendMultipacketMessage request =>
    cases hlookup : protocol.activeSessions.lookup key with
    | none =>
      rw [hlookup] at h
      dsimp only at h
      split at h
      · rename_i k requested hrequest
        split_ifs at h with heq
        subst heq
        exact absurd hhistory (helsewhere k requested hrequest)
      · simp at h
    | some session =>
      rw [hlookup] at h
      exact ⟨session, rfl, by rw [Option.some.inj h]⟩
  | registerMultipacketMessageCallback callback => exact ⟨session', h, rfl⟩
  | removeMultipacketMessageCallback callback => exact ⟨session', h, rfl⟩
  | allowAnyControlFunction allow => exact ⟨session', h, rfl⟩

/-- Only an update touches what is remembered for a NAME and group number, or closes a
session of theirs. -/
theorem next_of_not_update (helsewhere : Elsewhere former protocol input)
    (hcall : input.call ≠ .update) :
    (fastPacketProtocol.next protocol input).sessionHistory.lookup former =
        protocol.sessionHistory.lookup former ∧
      ∀ key session, protocol.activeSessions.lookup key = some session →
        historyKey input.env key = former →
        (fate protocol input key).1 = some session := by
  obtain ⟨env, call⟩ := input
  cases call with
  | processMessage message =>
    constructor
    · change (processMessage env message protocol).1.sessionHistory.lookup former = _
      unfold processMessage
      split
      · rfl
      · rename_i k hheard
        split
        · rename_i session hlookup
          unfold settle
          split
          · rw [lookup_addSessionHistory, if_neg (helsewhere k hheard)]
          · rfl
        · split_ifs
          · rfl
          · split <;> rfl
    · intro key session hlookup hhistory
      have hother : heardKey env message protocol ≠ some key :=
        fun hheard => helsewhere key hheard hhistory
      unfold fate
      simp [hlookup, hother]
  | update => exact absurd rfl hcall
  | sendMultipacketMessage request =>
    constructor
    · change (sendMultipacketMessage env request protocol).1.sessionHistory.lookup former = _
      unfold sendMultipacketMessage
      split <;> rfl
    · intro key session hlookup _
      unfold fate
      rw [hlookup]
  | registerMultipacketMessageCallback callback => exact ⟨rfl, fun _ _ hlookup _ => hlookup⟩
  | removeMultipacketMessageCallback callback => exact ⟨rfl, fun _ _ hlookup _ => hlookup⟩
  | allowAnyControlFunction allow => exact ⟨rfl, fun _ _ hlookup _ => hlookup⟩

theorem numbered_next (hnumbered : Numbered names former number protocol)
    (hnames : KeepsNames names protocol input) (helsewhere : Elsewhere former protocol input) :
    Numbered names former number (fastPacketProtocol.next protocol input) := by
  have hhistory (key : FastPacketKey) (hopen : protocol.activeSessions.lookup key ≠ none) :
      historyKey input.env key = namedKey names key := by
    rw [historyKey, hnames key (.inl hopen)]
    rfl
  have hnumber (key : FastPacketKey) (session : FastPacketProtocolSession)
      (hlookup : protocol.activeSessions.lookup key = some session)
      (hformer : historyKey input.env key = former) : session.sequenceNumber = number := by
    rw [hhistory key (by simp [hlookup])] at hformer
    exact hnumbered.opened key session hlookup hformer
  constructor
  · intro key session hlookup hkey
    rw [lookup_next] at hlookup
    obtain ⟨before, hbefore, hsame⟩ := before_of_fate helsewhere hnames hlookup hkey
    rw [hsame]
    exact hnumbered.opened key before hbefore hkey
  · intro hclosed
    simp only [lookup_next] at hclosed
    by_cases hopen : ∃ key, protocol.activeSessions.lookup key ≠ none ∧ namedKey names key = former
    · obtain ⟨key, hne, hkey⟩ := hopen
      obtain ⟨session, hlookup⟩ := Option.ne_none_iff_exists'.mp hne
      have hkey' := (hhistory key hne).trans hkey
      have hgone : (fate protocol input key).1 = none := by
        by_contra hstill
        exact hclosed key hstill hkey
      obtain ⟨env, call⟩ := input
      by_cases hcall : call = .update
      · subst hcall
        have hupdated : (session.update env key).1 = none := by
          unfold fate at hgone
          rw [hlookup] at hgone
          exact hgone
        change (update env protocol).1.sessionHistory.lookup former = _
        exact (lookup_history_update hnumber).1 ⟨key, session, hlookup, hkey', hupdated⟩
      · have hsame := (next_of_not_update helsewhere hcall).2 key session hlookup hkey'
        rw [hgone] at hsame
        simp at hsame
    · have hnone : ∀ key, protocol.activeSessions.lookup key ≠ none →
          namedKey names key ≠ former :=
        fun key hne hkey => hopen ⟨key, hne, hkey⟩
      have hbefore := hnumbered.closed hnone
      obtain ⟨env, call⟩ := input
      by_cases hcall : call = .update
      · subst hcall
        change (update env protocol).1.sessionHistory.lookup former = _
        rw [(lookup_history_update hnumber).2, hbefore]
        intro key session hlookup hformer
        have hne : protocol.activeSessions.lookup key ≠ none := by simp [hlookup]
        exact hnone key hne ((hhistory key hne).symm.trans hformer)
      · rw [(next_of_not_update helsewhere hcall).1, hbefore]

theorem numbered_run (hnumbered : Numbered names former number protocol) (inputs : List Input)
    (hnames : fastPacketProtocol.Along (KeepsNames names) protocol inputs)
    (helsewhere : fastPacketProtocol.Along (Elsewhere former) protocol inputs) :
    Numbered names former number (fastPacketProtocol.run protocol inputs) := by
  induction inputs generalizing protocol with
  | nil => exact hnumbered
  | cons input rest ih =>
    exact ih (numbered_next hnumbered hnames.1 helsewhere.1) hnames.2 helsewhere.2

def Alone (names : CFRef → UInt64) (former : HistoryKey) (protocol : FastPacketProtocol) : Prop :=
  ∀ key, protocol.activeSessions.lookup key ≠ none → namedKey names key ≠ former

variable {request : SendRequest}

theorem Opened.parameterGroupNumber_eq (h : Opened env protocol request key session) :
    request.parameterGroupNumber = key.parameterGroupNumber := by
  have hkey := h.key_eq
  unfold SendRequest.sessionKey at hkey
  obtain ⟨source, -, rfl⟩ := Option.map_eq_some_iff.mp hkey
  rfl

theorem Opened.lookup_requested {k : FastPacketKey}
    (hopened : Opened env protocol request key session) :
    (requested protocol env request).activeSessions.lookup k =
      if k = key then some session else protocol.activeSessions.lookup k := by
  have hfree := lookup_of_requestedSession hopened.requested_eq
  unfold requested
  rw [lookup_next]
  unfold fate
  split_ifs with heq
  · subst heq
    rw [hfree]
    simp [hopened.requested_eq]
  · cases protocol.activeSessions.lookup k with
    | some s => rfl
    | none =>
      dsimp only
      rw [hopened.requested_eq]
      dsimp only
      rw [if_neg fun h => heq h.symm]

theorem Opened.numbered (hopened : Opened env protocol request key session)
    (halone : Alone names (namedKey names key) protocol) :
    Numbered names (namedKey names key) session.sequenceNumber
        (requested protocol env request) := by
  constructor
  · intro k s hk hnamed
    rw [hopened.lookup_requested] at hk
    split_ifs at hk with heq
    · rw [Option.some.inj hk]
    · exact absurd hnamed (halone k (by simp [hk]))
  · intro hclosed
    refine absurd rfl (hclosed key ?_)
    rw [hopened.lookup_requested, if_pos rfl]
    simp

/-- Two requests for one NAME and group number, each accepted while no session of theirs is open. -/
structure Successive (names : CFRef → UInt64) (key : FastPacketKey) (protocol : FastPacketProtocol)
    (env : Environment) (request : SendRequest) (inputs : List Input) (env' : Environment)
    (key' : FastPacketKey) : Prop where
  alone : Alone names (namedKey names key) protocol
  names_kept : fastPacketProtocol.Along (KeepsNames names) (requested protocol env request) inputs
  elsewhere : fastPacketProtocol.Along (Elsewhere (namedKey names key))
    (requested protocol env request) inputs
  alone' : Alone names (namedKey names key)
    (fastPacketProtocol.run (requested protocol env request) inputs)
  same : historyKey env' key' = namedKey names key

theorem sequenceNumber_of_successive {request' : SendRequest} {inputs : List Input}
    {env' : Environment} {key' : FastPacketKey}
    (hopened : Opened env protocol request key session)
    (hsuccessive : Successive names key protocol env request inputs env' key')
    (hopened' : Opened env' (fastPacketProtocol.run (requested protocol env request) inputs)
      request' key' session') :
    session'.sequenceNumber = session.sequenceNumber + 1 := by
  have hnumbered := numbered_run (hopened.numbered hsuccessive.alone) inputs
    hsuccessive.names_kept hsuccessive.elsewhere
  have hhistory := hnumbered.closed hsuccessive.alone'
  have hgroup := hopened'.parameterGroupNumber_eq
  have hsame : (⟨(env'.world key'.source).controlFunctionNAME,
      request'.parameterGroupNumber⟩ : HistoryKey) = namedKey names key := by
    rw [hgroup]
    exact hsuccessive.same
  rw [hopened'.sequenceNumber_eq, getNewSequenceNumber, hsame, hhistory]
  rfl

end Isobus.FastPacket
