import Isobus.Can.TransportProtocolBase
import Isobus.Lib.Lifetime

/-!
# How a transmission ends

A session that sends lives from its request to its report: every handler keeps it, without a report,
or drops it and reports its end, with success only for an acknowledgement or behind the last packet
of a broadcast.
-/

namespace Isobus.Can

open Isobus.Lib

def completionOf : Event → Option Completion
  | .transmitComplete completion => some completion
  | _ => none

def TransmitRequest.sessionKey (request : TransmitRequest) : Option SessionKey :=
  request.source.map fun source => ⟨source, request.destination⟩

def TransmitRequest.report (request : TransmitRequest) (key : SessionKey) (successful : Bool) :
    List Event :=
  (request.sessionCompleteCallback.map fun callback => .transmitComplete
    { callback := callback
      parameterGroupNumber := request.parameterGroupNumber
      dataLength := UInt32.ofNat request.data.length
      source := key.source
      destination := key.destination
      successful := successful
      parentPointer := request.parentPointer }).toList

structure Reporting (β : Type) where
  base : β → TransportProtocolSessionBase
  size : β → UInt32
  Fits : SessionKey → β → Prop
  /-- An announcement, an offset or a data packet of a message. -/
  carries : TransmitFrame → Bool
  LastPacket : UInt32 → TransmitFrame → Prop
  lastPacket_carries : ∀ size frame, LastPacket size frame → carries frame = true

namespace Reporting

variable {β : Type} (P : Reporting β)

/-- A frame that carries a message between these parties, or the report of its end. -/
def concerns (key : SessionKey) : Event → Bool
  | .frame frame _ =>
    frame.source = some key.source && frame.destination = key.destination && P.carries frame
  | .transmitComplete completion =>
    completion.source = key.source && completion.destination = key.destination
  | _ => false

def report (key : SessionKey) (session : β) (successful : Bool) : List Event :=
  (P.base session).complete key (P.size session) successful

/-- Two states of a session that report the same. -/
structure SameReport (session session' : β) : Prop where
  direction : (P.base session').direction = (P.base session).direction
  callback : (P.base session').sessionCompleteCallback = (P.base session).sessionCompleteCallback
  parent : (P.base session').parent = (P.base session).parent
  group : (P.base session').parameterGroupNumber = (P.base session).parameterGroupNumber
  size : P.size session' = P.size session

def Broadcasts (key : SessionKey) (size : UInt32) (events : List Event) : Prop :=
  key.destination = none ∧ ∃ frame, .frame frame true ∈ events ∧ P.LastPacket size frame

def sending (key : SessionKey) (acknowledged : Prop) : Life β Event where
  live session := (P.base session).direction = .transmit
  same := P.SameReport
  quiet e := completionOf e = none
  ended session events := ∃ front successful,
    events = front ++ P.report key session successful ∧
    (∀ e ∈ front, completionOf e = none) ∧
    (successful = true → acknowledged ∨ P.Broadcasts key (P.size session) front)

variable {P} {key : SessionKey} {session session' session'' : β} {acknowledged : Prop}

theorem SameReport.refl (session : β) : P.SameReport session session :=
  ⟨rfl, rfl, rfl, rfl, rfl⟩

theorem SameReport.trans (h : P.SameReport session session')
    (h' : P.SameReport session' session'') : P.SameReport session session'' where
  direction := h'.direction.trans h.direction
  callback := h'.callback.trans h.callback
  parent := h'.parent.trans h.parent
  group := h'.group.trans h.group
  size := h'.size.trans h.size

theorem SameReport.report_eq (h : P.SameReport session session') (key : SessionKey)
    (successful : Bool) : P.report key session' successful = P.report key session successful := by
  unfold report TransportProtocolSessionBase.complete
  rw [h.direction, h.callback, h.parent, h.group, h.size]

theorem report_of_receive (h : (P.base session).direction = .receive) (successful : Bool) :
    P.report key session successful = [] :=
  TransportProtocolSessionBase.complete_receive _ _ _ h

variable {e : Event} {successful : Bool}

theorem mem_report (h : e ∈ P.report key session successful) :
    ∃ completion, e = .transmitComplete completion ∧ completion.source = key.source ∧
      completion.destination = key.destination := by
  unfold report TransportProtocolSessionBase.complete at h
  split at h
  · exact ⟨_, List.mem_singleton.mp h, rfl, rfl⟩
  · simp at h

theorem filter_report (key : SessionKey) (session : β) (successful : Bool) :
    (P.report key session successful).filter (P.concerns key) =
      P.report key session successful := by
  rw [List.filter_eq_self]
  intro e he
  obtain ⟨completion, rfl, hsource, hdestination⟩ := mem_report he
  simp [concerns, hsource, hdestination]

theorem Broadcasts.prepend {size : UInt32} {events : List Event} (front : List Event)
    (h : P.Broadcasts key size events) : P.Broadcasts key size (front ++ events) := by
  obtain ⟨hdestination, frame, hmem, hlast⟩ := h
  exact ⟨hdestination, frame, List.mem_append_right _ hmem, hlast⟩

theorem sending_composes : (P.sending key acknowledged).Composes where
  refl := SameReport.refl
  trans := SameReport.trans
  prepend := by
    rintro session session' before events hsame hquiet ⟨front, successful, rfl, hfront, hreason⟩
    refine ⟨before ++ front, successful, ?_, ?_, fun hsuccess => ?_⟩
    · rw [List.append_assoc, hsame.report_eq]
    · intro e he
      exact (List.mem_append.mp he).elim (hquiet e) (hfront e)
    · rw [hsame.size] at hreason
      exact (hreason hsuccess).imp_right (Broadcasts.prepend before)

def Owns (P : Reporting β) (key : SessionKey) (session : β) : Event → Prop
  | .frame frame _ => P.carries frame = true → (P.base session).direction = .transmit ∧
      frame.source = some key.source ∧ frame.destination = key.destination
  | .transmitComplete _ => False
  | _ => True

def Silent (P : Reporting β) (events : List Event) : Prop :=
  ∀ e ∈ events, ∀ key, P.concerns key e = false

inductive Handles (P : Reporting β) (key : SessionKey) (acknowledged : Prop) (session : β) :
    Option β × List Event → Prop
  | keeps {session' : β} {events : List Event} (hsame : P.SameReport session session')
      (hfits : P.Fits key session') (howns : ∀ e ∈ events, P.Owns key session e) :
      Handles P key acknowledged session (some session', events)
  | closes {session' : β} {events answer : List Event} {successful : Bool}
      (hsame : P.SameReport session session') (howns : ∀ e ∈ events, P.Owns key session e)
      (hreason : successful = true → (P.base session).direction = .transmit →
        acknowledged ∨ P.Broadcasts key (P.size session) events)
      (hsilent : P.Silent answer) :
      Handles P key acknowledged session
        (none, events ++ P.report key session' successful ++ answer)

variable {outcome : Option β × List Event} {events : List Event}

theorem silent_nil : P.Silent [] := by simp [Silent]

theorem Silent.filter (h : P.Silent events) (key : SessionKey) :
    events.filter (P.concerns key) = [] := by
  rw [List.filter_eq_nil_iff]
  intro e he
  simp [h e he key]

theorem Silent.append {events' : List Event} (h : P.Silent events) (h' : P.Silent events') :
    P.Silent (events ++ events') :=
  fun e he => (List.mem_append.mp he).elim (h e) (h' e)

theorem handles_close (hsame : P.SameReport session session')
    (howns : ∀ e ∈ events, P.Owns key session e)
    (hreason : successful = true → (P.base session).direction = .transmit →
      acknowledged ∨ P.Broadcasts key (P.size session) events) :
    P.Handles key acknowledged session (none, events ++ P.report key session' successful) := by
  have hclose := Handles.closes hsame howns hreason silent_nil
  rwa [List.append_nil] at hclose

theorem handles_report
    (hreason : successful = true → (P.base session).direction = .transmit → acknowledged) :
    P.Handles key acknowledged session (none, P.report key session successful) :=
  handles_close (.refl session) (List.forall_mem_nil _)
    fun hsuccess hdirection => .inl (hreason hsuccess hdirection)

theorem handles_report_false :
    P.Handles key acknowledged session (none, P.report key session false) :=
  handles_report (by simp)

theorem handles_self (hfits : P.Fits key session) :
    P.Handles key acknowledged session (some session, []) :=
  .keeps (.refl session) hfits (by simp)

theorem handles_timeout {expired : Prop} [Decidable expired] (hfits : P.Fits key session)
    (h : P.Handles key acknowledged session outcome) :
    P.Handles key acknowledged session (if expired then outcome else (some session, [])) := by
  split_ifs
  · exact h
  · exact handles_self hfits

variable {frame : TransmitFrame} {sent : Bool}

theorem silent_of_not_carries (h : P.carries frame = false) : P.Silent [.frame frame sent] := by
  simp [Silent, concerns, h]

theorem owns_of_not_carries (h : P.carries frame = false) :
    P.Owns key session (.frame frame sent) := by
  simp [Owns, h]

theorem owns_of_transmit (hdirection : (P.base session).direction = .transmit)
    (hsource : frame.source = some key.source)
    (hdestination : frame.destination = key.destination) :
    P.Owns key session (.frame frame sent) :=
  fun _ => ⟨hdirection, hsource, hdestination⟩

theorem Handles.append_of_closed {answer : List Event}
    (h : P.Handles key acknowledged session (none, events)) (hsilent : P.Silent answer) :
    P.Handles key acknowledged session (none, events ++ answer) := by
  cases h with
  | closes hsame howns hreason hsilent' =>
    rw [List.append_assoc]
    exact .closes hsame howns hreason (hsilent'.append hsilent)

theorem Owns.of_same (hsame : P.SameReport session session') (h : P.Owns key session' e) :
    P.Owns key session e := by
  cases e with
  | frame frame sent =>
    intro hcarries
    rw [← hsame.direction]
    exact h hcarries
  | _ => exact h

theorem Handles.of_same (hsame : P.SameReport session session')
    (h : P.Handles key acknowledged session' outcome) :
    P.Handles key acknowledged session outcome := by
  cases h with
  | keeps hsame' hfits howns =>
    exact .keeps (hsame.trans hsame') hfits fun e he => (howns e he).of_same hsame
  | closes hsame' howns hreason hsilent =>
    refine .closes (hsame.trans hsame') (fun e he => (howns e he).of_same hsame) ?_ hsilent
    rwa [hsame.direction, hsame.size] at hreason

theorem Handles.fits (h : P.Handles key acknowledged session outcome) :
    ∀ session', outcome.1 = some session' → P.Fits key session' := by
  cases h with
  | keeps _ hfits _ =>
    rintro _ ⟨rfl⟩
    exact hfits
  | closes => simp

variable {key' : SessionKey}

theorem Owns.eq_of_concerns (h : P.Owns key' session e) (hconcerns : P.concerns key e = true) :
    key = key' ∧ (P.base session).direction = .transmit ∧ completionOf e = none := by
  cases e with
  | frame frame sent =>
    simp only [concerns, Bool.and_eq_true, decide_eq_true_eq] at hconcerns
    obtain ⟨⟨hsource, hdestination⟩, hcarries⟩ := hconcerns
    obtain ⟨hdirection, hsource', hdestination'⟩ := h hcarries
    refine ⟨?_, hdirection, rfl⟩
    cases key
    cases key'
    simp_all
  | transmitComplete => exact h.elim
  | _ => simp [concerns] at hconcerns

theorem filter_owns_of_ne (hne : key' ≠ key) (h : ∀ e ∈ events, P.Owns key' session e) :
    events.filter (P.concerns key) = [] := by
  rw [List.filter_eq_nil_iff]
  intro e he hconcerns
  exact hne ((h e he).eq_of_concerns hconcerns).1.symm

theorem Handles.filter_of_ne (hne : key' ≠ key) (h : P.Handles key' acknowledged session outcome) :
    outcome.2.filter (P.concerns key) = [] := by
  cases h with
  | keeps _ _ howns => exact filter_owns_of_ne hne howns
  | closes hsame howns hreason hsilent =>
    rw [List.filter_append, List.filter_append, filter_owns_of_ne hne howns, hsilent.filter,
      List.nil_append, List.append_nil, List.filter_eq_nil_iff]
    intro e he hconcerns
    obtain ⟨completion, rfl, hsource, hdestination⟩ := mem_report he
    simp only [concerns, Bool.and_eq_true, decide_eq_true_eq] at hconcerns
    apply hne
    cases key
    cases key'
    simp_all

theorem Handles.lives (h : P.Handles key acknowledged session outcome) :
    (P.sending key acknowledged).Lives (some session) outcome.1
      (outcome.2.filter (P.concerns key)) := by
  have hquiet {events : List Event} (howns : ∀ e ∈ events, P.Owns key session e) :
      ∀ e ∈ events.filter (P.concerns key),
        (P.base session).direction = .transmit ∧ completionOf e = none := by
    intro e he
    obtain ⟨hmem, hconcerns⟩ := List.mem_filter.mp he
    exact ((howns e hmem).eq_of_concerns hconcerns).2
  by_cases hlive : (P.base session).direction = .transmit
  · cases h with
    | keeps hsame hfits howns =>
      exact .stays hlive (hsame.direction.trans hlive) hsame fun e he => (hquiet howns e he).2
    | @closes _ events _ successful hsame howns hreason hsilent =>
      refine .ends hlive Life.dead_none
        ⟨events.filter (P.concerns key), successful, ?_, fun e he => (hquiet howns e he).2,
          fun hsuccess => ?_⟩
      · rw [List.filter_append, List.filter_append, hsilent.filter, List.append_nil,
          filter_report, hsame.report_eq]
      · refine (hreason hsuccess hlive).imp_right ?_
        rintro ⟨hdestination, frame, hmem, hlast⟩
        refine ⟨hdestination, frame, List.mem_filter.mpr ⟨hmem, ?_⟩, hlast⟩
        have hcarries := P.lastPacket_carries _ _ hlast
        obtain ⟨-, hsource, hdestination'⟩ := howns _ hmem hcarries
        simp [concerns, hsource, hdestination', hcarries]
  · have hreceive : (P.base session).direction = .receive := by
      cases hdirection : (P.base session).direction with
      | transmit => exact absurd hdirection hlive
      | receive => rfl
    have hnil {events : List Event} (howns : ∀ e ∈ events, P.Owns key session e) :
        events.filter (P.concerns key) = [] :=
      List.eq_nil_iff_forall_not_mem.mpr fun e he => hlive (hquiet howns e he).1
    have hdead : (P.sending key acknowledged).Dead (some session) := by
      rintro _ ⟨rfl⟩
      exact hlive
    cases h with
    | keeps hsame hfits howns =>
      rw [hnil howns]
      refine .dead hdead ?_
      rintro _ ⟨rfl⟩ hlive'
      exact hlive (hsame.direction.symm.trans hlive')
    | closes hsame howns hreason hsilent =>
      rw [List.filter_append, List.filter_append, hnil howns, hsilent.filter,
        report_of_receive (hsame.direction.trans hreceive)]
      exact .dead hdead Life.dead_none

variable {sessions sessions' : KeyedTable SessionKey β}
    {reply : KeyedTable SessionKey β × List Event}

def AllFit (P : Reporting β) (sessions : KeyedTable SessionKey β) : Prop :=
  ∀ key session, sessions.lookup key = some session → P.Fits key session

/-- What a manager may do in one call, for one key. -/
structure Serves (P : Reporting β) (key : SessionKey) (acknowledged : Prop)
    (sessions : KeyedTable SessionKey β) (reply : KeyedTable SessionKey β × List Event) :
    Prop where
  fit : P.AllFit reply.1
  lives : (P.sending key acknowledged).Lives (sessions.lookup key) (reply.1.lookup key)
    (reply.2.filter (P.concerns key))

theorem allFit_empty : P.AllFit KeyedTable.empty := by simp [AllFit]

theorem serves_silent (hfit : P.AllFit sessions) (hsilent : P.Silent events) :
    P.Serves key acknowledged sessions (sessions, events) where
  fit := hfit
  lives := by
    rw [hsilent.filter]
    exact sending_composes.lives_self _

theorem Serves.trans {events' : List Event} {sessions'' : KeyedTable SessionKey β}
    (h : P.Serves key acknowledged sessions (sessions', events))
    (h' : P.Serves key acknowledged sessions' (sessions'', events')) :
    P.Serves key acknowledged sessions (sessions'', events ++ events') where
  fit := h'.fit
  lives := by
    rw [List.filter_append]
    exact sending_composes.lives_trans h.lives h'.lives

theorem serves_dispatch {f : β → Option β × List Event} (hfit : P.AllFit sessions)
    (h : ∀ session, P.Fits key' session → P.Handles key' (key' = key → acknowledged) session
      (f session)) :
    P.Serves key acknowledged sessions (sessions.dispatch key' f) where
  fit := by
    intro k session hlookup
    rw [KeyedTable.lookup_dispatch] at hlookup
    split_ifs at hlookup with hk
    · obtain ⟨old, hold, hnew⟩ := Option.bind_eq_some_iff.mp hlookup
      subst hk
      exact (h old (hfit _ _ hold)).fits session hnew
    · exact hfit k session hlookup
  lives := by
    refine sending_composes.lives_dispatch ?_ ?_
    · rintro session rfl hlookup
      have hlives := (h session (hfit _ _ hlookup)).lives
      simpa only [forall_const] using hlives
    · intro session hne hlookup
      exact (h session (hfit _ _ hlookup)).filter_of_ne hne

theorem Serves.append_silent (h : P.Serves key acknowledged sessions reply)
    (hsilent : P.Silent events) :
    P.Serves key acknowledged sessions (reply.1, reply.2 ++ events) :=
  h.trans (serves_silent h.fit hsilent)

theorem AllFit.push (hfit : P.AllFit sessions) (hfits : P.Fits key' session) :
    P.AllFit (sessions.push key' session) := by
  intro k session' hlookup
  by_cases hk : k = key'
  · subst hk
    rw [KeyedTable.lookup_push_self] at hlookup
    exact Option.some.inj hlookup ▸ hfits
  · rw [KeyedTable.lookup_push_ne _ _ hk] at hlookup
    exact hfit k session' hlookup

theorem Serves.dispatch {f : β → Option β × List Event}
    (h : P.Serves key acknowledged sessions reply)
    (hhandles : ∀ session, P.Fits key' session →
      P.Handles key' (key' = key → acknowledged) session (f session)) :
    P.Serves key acknowledged sessions
      ((reply.1.dispatch key' f).1, reply.2 ++ (reply.1.dispatch key' f).2) :=
  h.trans (serves_dispatch h.fit hhandles)

theorem serves_push (hfit : P.AllFit sessions) (hfits : P.Fits key' session)
    (hnew : key' = key → sessions.lookup key' = none ∧ (P.base session).direction = .receive) :
    P.Serves key acknowledged sessions (sessions.push key' session, []) where
  fit := hfit.push hfits
  lives := by
    refine sending_composes.lives_push fun hkey => ⟨?_, ?_⟩
    · rw [← hkey, (hnew hkey).1]
      exact Life.dead_none
    · change (P.base session).direction ≠ .transmit
      rw [(hnew hkey).2]
      decide

theorem serves_sweep {f : SessionKey → β → Option β × List Event} (hfit : P.AllFit sessions)
    (h : ∀ k session, P.Fits k session → P.Handles k acknowledged session (f k session)) :
    P.Serves key acknowledged sessions (sessions.sweep f) where
  fit := by
    intro k session hlookup
    rw [KeyedTable.lookup_sweep] at hlookup
    obtain ⟨old, hold, hnew⟩ := Option.bind_eq_some_iff.mp hlookup
    exact (h k old (hfit _ _ hold)).fits session hnew
  lives := sending_composes.lives_sweep
    (fun session hlookup => (h key session (hfit _ _ hlookup)).lives)
    fun k session hlookup hne => (h k session (hfit _ _ hlookup)).filter_of_ne hne

theorem serves_sweepBack {f : SessionKey → β → Option β × List Event} (hfit : P.AllFit sessions)
    (h : ∀ k session, P.Fits k session → P.Handles k acknowledged session (f k session)) :
    P.Serves key acknowledged sessions (sessions.sweepBack f) where
  fit := by
    intro k session hlookup
    rw [KeyedTable.lookup_sweepBack] at hlookup
    obtain ⟨old, hold, hnew⟩ := Option.bind_eq_some_iff.mp hlookup
    exact (h k old (hfit _ _ hold)).fits session hnew
  lives := sending_composes.lives_sweepBack
    (fun session hlookup => (h key session (hfit _ _ hlookup)).lives)
    fun k session hlookup hne => (h k session (hfit _ _ hlookup)).filter_of_ne hne

variable {M : Machine (KeyedTable SessionKey β) Input Event}

def Opens (M : Machine (KeyedTable SessionKey β) Input Event) (key : SessionKey)
    (sessions : KeyedTable SessionKey β) (input : Input) : Prop :=
  ∃ request, input.call = .protocolTransmitMessage request ∧ request.sessionKey = some key ∧
    .transmitAnswered true ∈ M.emits sessions input

theorem not_opens_update {env : Environment} : ¬Opens M key sessions ⟨env, .update⟩ := by
  rintro ⟨request, hcall, -⟩
  simp at hcall

/-- A request that is accepted in a reachable state, and later calls that open no other
session with its key. -/
structure AcceptedRun (M : Machine (KeyedTable SessionKey β) Input Event) (key : SessionKey)
    (past : List Input) (env : Environment) (request : TransmitRequest) (inputs : List Input) :
    Prop where
  opens : Opens M key (M.run .empty past) ⟨env, .protocolTransmitMessage request⟩
  others : M.Along (fun sessions input => ¬Opens M key sessions input)
    (M.next (M.run .empty past) ⟨env, .protocolTransmitMessage request⟩) inputs

def IsOpen (P : Reporting β) (key : SessionKey) (sessions : KeyedTable SessionKey β) : Prop :=
  ∃ session, sessions.lookup key = some session ∧ (P.base session).direction = .transmit

/-- The transmission of a request up to some state: no report as long as its session is open, and
exactly one, behind everything else, when it is not. -/
structure Completes (P : Reporting β) (key : SessionKey) (request : TransmitRequest)
    (acknowledged : Prop) (sessions : KeyedTable SessionKey β) (events : List Event) : Prop where
  quiet : P.IsOpen key sessions → ∀ e ∈ events, completionOf e = none
  reported : ¬P.IsOpen key sessions → ∃ front successful,
    events = front ++ request.report key successful ∧ (∀ e ∈ front, completionOf e = none) ∧
    (successful = true →
      acknowledged ∨ P.Broadcasts key (UInt32.ofNat request.data.length) front)

structure Opened (P : Reporting β) (key : SessionKey) (request : TransmitRequest)
    (session : β) : Prop where
  direction : (P.base session).direction = .transmit
  callback : (P.base session).sessionCompleteCallback = request.sessionCompleteCallback
  parent : (P.base session).parent = request.parentPointer
  group : (P.base session).parameterGroupNumber = request.parameterGroupNumber
  size : P.size session = UInt32.ofNat request.data.length

theorem Opened.report_eq {request : TransmitRequest} (h : P.Opened key request session)
    (successful : Bool) : P.report key session successful = request.report key successful := by
  unfold report TransportProtocolSessionBase.complete TransmitRequest.report
  rw [h.direction, h.callback, h.parent, h.group, h.size]
  cases request.sessionCompleteCallback <;> rfl

theorem Opened.completes {request : TransmitRequest} (h : P.Opened key request session)
    (hlives : (P.sending key acknowledged).Lives (some session) (sessions.lookup key) events) :
    P.Completes key request acknowledged sessions events := by
  generalize hlookup : sessions.lookup key = found at hlives
  have hdead (hdead : (P.sending key acknowledged).Dead found) : ¬P.IsOpen key sessions := by
    rintro ⟨session', hsome, hlive⟩
    exact hdead session' (hlookup.symm.trans hsome) hlive
  cases hlives with
  | stays hv hv' hsame hquiet =>
    exact ⟨fun _ => hquiet, fun hclosed => absurd ⟨_, hlookup, hv'⟩ hclosed⟩
  | ends hv hgone hended =>
    refine ⟨fun hopen => absurd hopen (hdead hgone), fun _ => ?_⟩
    obtain ⟨front, successful, rfl, hfront, hreason⟩ := hended
    exact ⟨front, successful, by rw [h.report_eq], hfront, h.size ▸ hreason⟩
  | dead hb => exact absurd h.direction (hb _ rfl)

theorem lives_of_imp {acknowledged' : Prop} {b b' : Option β}
    (himp : acknowledged → acknowledged') (h : (P.sending key acknowledged).Lives b b' events) :
    (P.sending key acknowledged').Lives b b' events := by
  refine h.mono (fun _ => Iff.rfl) (fun _ _ hsame => hsame) (fun _ hquiet => hquiet) ?_
  rintro session _ ⟨front, successful, rfl, hfront, hreason⟩
  exact ⟨front, successful, rfl, hfront, fun hsuccess => (hreason hsuccess).imp_left himp⟩

theorem exists_not_opens (sessions : KeyedTable SessionKey β) (input : Input) :
    ∃ key, ¬Opens M key sessions input := by
  by_cases hzero : Opens M ⟨0, none⟩ sessions input
  · refine ⟨⟨1, none⟩, ?_⟩
    rintro ⟨request, hcall, hkey, -⟩
    obtain ⟨request', hcall', hkey', -⟩ := hzero
    obtain rfl := Call.protocolTransmitMessage.inj (hcall.symm.trans hcall')
    simp [hkey] at hkey'
  · exact ⟨_, hzero⟩

section serving

variable {Acknowledges : SessionKey → Input → Prop}
variable (hserves : ∀ key sessions input, P.AllFit sessions → ¬Opens M key sessions input →
  P.Serves key (Acknowledges key input) sessions (M.step sessions input))
include hserves

theorem allFit_run (hfit : P.AllFit sessions) (inputs : List Input) :
    P.AllFit (M.run sessions inputs) := by
  refine M.run_invariant (fun sessions input hfit => ?_) hfit inputs
  obtain ⟨key, hother⟩ := exists_not_opens (M := M) sessions input
  exact (hserves key sessions input hfit hother).fit

theorem lives_run (hfit : P.AllFit sessions) (inputs : List Input)
    (hothers : M.Along (fun sessions input => ¬Opens M key sessions input) sessions inputs) :
    (P.sending key (∃ input ∈ inputs, Acknowledges key input)).Lives (sessions.lookup key)
      ((M.run sessions inputs).lookup key)
          ((M.outputs sessions inputs).filter (P.concerns key)) := by
  induction inputs generalizing sessions with
  | nil => exact sending_composes.lives_self _
  | cons input inputs ih =>
    have hstep := hserves key sessions input hfit hothers.1
    have hfirst : (P.sending key (∃ i ∈ input :: inputs, Acknowledges key i)).Lives
        (sessions.lookup key) ((M.next sessions input).lookup key)
        ((M.emits sessions input).filter (P.concerns key)) :=
      lives_of_imp (fun h => ⟨input, List.mem_cons_self, h⟩) hstep.lives
    rw [Machine.outputs_cons, List.filter_append]
    refine sending_composes.lives_trans hfirst (lives_of_imp ?_ (ih hstep.fit hothers.2))
    rintro ⟨input', hmem, h⟩
    exact ⟨input', List.mem_cons_of_mem _ hmem, h⟩

theorem completes_run {input : Input} {request : TransmitRequest}
    {f : β → Option β × List Event} (hfit : P.AllFit sessions)
    (hopened : P.Opened key request session) (hfits : P.Fits key session)
    (hhandles : ∀ session, P.Fits key session → P.Handles key False session (f session))
    (hstep : M.step sessions input = (((sessions.push key session).dispatch key f).1,
      ((sessions.push key session).dispatch key f).2 ++ [.transmitAnswered true]))
    (inputs : List Input)
    (hothers : M.Along (fun sessions input => ¬Opens M key sessions input)
      (M.next sessions input) inputs) :
    P.Completes key request (∃ input ∈ inputs, Acknowledges key input)
      (M.run sessions (input :: inputs))
      ((M.outputs sessions (input :: inputs)).filter (P.concerns key)) := by
  have hfirst : P.Serves key False (sessions.push key session) (M.step sessions input) := by
    rw [hstep]
    refine (serves_dispatch (hfit.push hfits) fun session hfits => ?_).append_silent ?_
    · simpa only [forall_const] using hhandles session hfits
    · simp [Silent, concerns]
  have hlives := hfirst.lives
  rw [KeyedTable.lookup_push_self] at hlives
  apply hopened.completes
  rw [Machine.outputs_cons, List.filter_append]
  exact sending_composes.lives_trans (lives_of_imp False.elim hlives)
    (lives_run hserves hfirst.fit inputs hothers)

end serving

structure Answers (P : Reporting β) (M : Machine (KeyedTable SessionKey β) Input Event)
    (begin : Environment → SessionKey → β → Option β × List Event) : Prop where
  answer : ∀ sessions env request,
    M.step sessions ⟨env, .protocolTransmitMessage request⟩ =
      (sessions, [.transmitAnswered false]) ∨
    ∃ key session, request.sessionKey = some key ∧ P.Fits key session ∧
      P.Opened key request session ∧
      M.step sessions ⟨env, .protocolTransmitMessage request⟩ =
        (((sessions.push key session).dispatch key (begin env key)).1,
          ((sessions.push key session).dispatch key (begin env key)).2 ++
            [.transmitAnswered true])
  handles : ∀ env key acknowledged session, P.Fits key session →
    P.Handles key acknowledged session (begin env key session)

namespace Answers

variable {begin : Environment → SessionKey → β → Option β × List Event} {env : Environment}
variable {request : TransmitRequest}

theorem serves (h : Answers P M begin) (hfit : P.AllFit sessions)
    (hother : ¬Opens M key sessions ⟨env, .protocolTransmitMessage request⟩) :
    P.Serves key acknowledged sessions
      (M.step sessions ⟨env, .protocolTransmitMessage request⟩) := by
  have hsilent (accepted : Bool) : P.Silent [.transmitAnswered accepted] := by
    simp [Silent, concerns]
  obtain hstep | ⟨k, session, hkey, hfits, -, hstep⟩ := h.answer sessions env request
  · rw [hstep]
    exact serves_silent hfit (hsilent false)
  · have hne : k ≠ key := by
      rintro rfl
      refine hother ⟨request, rfl, hkey, ?_⟩
      rw [Machine.emits, hstep]
      simp
    rw [hstep]
    have hpush : P.Serves key acknowledged sessions (sessions.push k session, []) :=
      serves_push hfit hfits fun heq => absurd heq hne
    exact (hpush.dispatch fun _ => h.handles env k _ _).append_silent (hsilent true)

theorem completes {Acknowledges : SessionKey → Input → Prop} (h : Answers P M begin)
    (hserves : ∀ key sessions input, P.AllFit sessions → ¬Opens M key sessions input →
      P.Serves key (Acknowledges key input) sessions (M.step sessions input))
    {past inputs : List Input} (hrun : AcceptedRun M key past env request inputs) :
    P.Completes key request (∃ input ∈ inputs, Acknowledges key input)
      (M.run (M.run .empty past) (⟨env, .protocolTransmitMessage request⟩ :: inputs))
      ((M.outputs (M.run .empty past)
        (⟨env, .protocolTransmitMessage request⟩ :: inputs)).filter (P.concerns key)) := by
  obtain ⟨⟨request', hcall, hkey, haccepted⟩, hothers⟩ := hrun
  cases hcall
  have hfit := allFit_run hserves allFit_empty past
  obtain hstep | ⟨k, session, hkey', hfits, hopened, hstep⟩ :=
    h.answer (M.run .empty past) env request
  · rw [Machine.emits, hstep] at haccepted
    simp at haccepted
  · obtain rfl := Option.some.inj (hkey.symm.trans hkey')
    exact completes_run hserves hfit hopened hfits (h.handles env key _) hstep inputs hothers

end Answers

end Reporting

end Isobus.Can
