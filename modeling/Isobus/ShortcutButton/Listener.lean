import Isobus.ShortcutButton.Interface
import Isobus.Lib.Machine

namespace Isobus.ShortcutButton

open Isobus.Can Isobus.Lib StopAllImplementOperationsState ShortcutButtonInterface

/-- The time does not wrap; the interface sees it modulo 2 ^ 32. -/
structure Listener where
  interface : ShortcutButtonInterface
  time : Nat
  heard : NAME → Option (Nat × StopAllImplementOperationsState)

inductive ListenerCall
  | initializeInterface
  | setStopAllImplementOperationsState (newState : StopAllImplementOperationsState)
  | wait (ms : Nat)
  | update (world : World) (send : TransmitFrame → Bool)
  | receive (world : World) (message : CANMessage)

namespace Listener

variable (listener : Listener)

def start (interface : ShortcutButtonInterface) (time : Nat) : Listener :=
  ⟨interface, time, fun _ => none⟩

def env (world : World) (send : TransmitFrame → Bool) : Environment :=
  ⟨UInt32.ofNat listener.time, world, send⟩

def hears (world : World) (message : CANMessage) : Option NAME :=
  if listener.interface.initialized ∧
      listener.interface.concerns (listener.env world fun _ => false) message then
    message.source.map fun source => (world source).controlFunctionNAME
  else none

def stateOf (message : CANMessage) : StopAllImplementOperationsState :=
  ofByte (message.getUint8At 7)

def note (message : CANMessage) :
    Option NAME → NAME → Option (Nat × StopAllImplementOperationsState)
  | some server => Function.update listener.heard server (some (listener.time, stateOf message))
  | none => listener.heard

/-- The next listener, and what the interface does meanwhile. -/
def step : ListenerCall → Listener × List ButtonEvent
  | .initializeInterface =>
    ({ listener with interface := listener.interface.initializeInterface }, [])
  | .setStopAllImplementOperationsState newState =>
    ({ listener with
        interface := listener.interface.setStopAllImplementOperationsState newState }, [])
  | .wait ms => ({ listener with time := listener.time + ms }, [])
  | .update world send =>
    let updated := listener.interface.update (listener.env world send)
    ({ listener with interface := updated.1 }, updated.2)
  | .receive world message =>
    let received :=
      listener.interface.processRxMessage (listener.env world fun _ => false) message
    ({ listener with
        interface := received.1
        heard := listener.note message (listener.hears world message) }, received.2)

end Listener

def listening : Machine Listener ListenerCall ButtonEvent := ⟨Listener.step⟩

namespace Listener

variable (listener : Listener)

/-- The latest message of a server, within the timeout, was a stop. -/
def StopHeard : Prop :=
  ∃ server t, listener.heard server = some (t, .stopImplementOperations) ∧
    listener.time < t + TRANSMISSION_TIMEOUT_MS.toNat

def Reports : Prop :=
  listener.interface.getState = .stopImplementOperations ↔
    listener.interface.commandedState = .stopImplementOperations ∨ listener.StopHeard

/-- The calls after which the state has to be right: processed messages and prunes. -/
def Settles : ListenerCall → Prop
  | .receive world message => listener.hears world message ≠ none
  | .update world send => listener.interface.prunes (listener.env world send) = true
  | _ => False

def dispatchedStates (events : List ButtonEvent) : List StopAllImplementOperationsState :=
  events.filterMap fun
    | .dispatched state => some state
    | _ => none

def Dispatches (call : ListenerCall) : Prop :=
  dispatchedStates (listener.step call).2 =
    if (listener.step call).1.interface.getState = listener.interface.getState then []
    else [(listener.step call).1.interface.getState]

def Follows (kept count : UInt8) : Prop :=
  if kept = 255 then count = 0 else count.toNat ≤ kept.toNat + 1

def Stops (server : NAME) (isb : ISBServerData) : Prop :=
  listener.interface.isobusShortcutButtonList.lookup server = some isb ∧
    isb.commandedState = .stopImplementOperations

def LastHeard (server : NAME) (limit : Nat) : Prop :=
  ∀ t state, listener.heard server = some (t, state) → listener.time < t + limit

/-- The counts go up as they should, servers that stopped are pruned before the next message, and
neither an own command nor a prune changes the state. -/
def Orderly : ListenerCall → Prop
  | .setStopAllImplementOperationsState newState => listener.interface.actAsISBServer →
      (newState = .stopImplementOperations ↔
        listener.interface.commandedState = .stopImplementOperations) ∨
      ∃ server isb, listener.Stops server isb
  | .update world send => listener.interface.prunes (listener.env world send) = true →
      (∀ server isb, listener.Stops server isb → listener.LastHeard server (2 ^ 32)) ∧
      ((∃ server isb, listener.Stops server isb ∧ isb.timedOut (listener.env world send)) →
        listener.interface.commandedState = .stopImplementOperations ∨
        ∃ server isb, listener.Stops server isb ∧ ¬isb.timedOut (listener.env world send))
  | .receive world message => ∀ server, listener.hears world message = some server →
      (stateOf message = .stopImplementOperations ∨
        Follows (listener.interface.transitionNumberOf server) (message.getUint8At 6)) ∧
      ∀ other isb, other ≠ server → listener.Stops other isb →
        listener.LastHeard other TRANSMISSION_TIMEOUT_MS.toNat
  | _ => True

variable {listener}

theorem getState_eq_stop_iff (interface : ShortcutButtonInterface) :
    interface.getState = .stopImplementOperations ↔
      interface.commandedState = .stopImplementOperations ∨
        ∃ server isb, interface.isobusShortcutButtonList.lookup server = some isb ∧
          isb.commandedState = .stopImplementOperations := by
  have hany : interface.isobusShortcutButtonList.entries.any
      (fun isb => isb.2.commandedState = .stopImplementOperations) = true ↔
      ∃ server isb, interface.isobusShortcutButtonList.lookup server = some isb ∧
        isb.commandedState = .stopImplementOperations := by
    simp only [List.any_eq_true, decide_eq_true_eq, Prod.exists, KeyedTable.mem_iff_lookup]
  rw [← hany, getState]
  split_ifs with hcommanded hstop
  · exact iff_of_true hcommanded (.inl hcommanded)
  · exact iff_of_true rfl (.inr hstop)
  · exact iff_of_false (fun h => by cases h) (not_or.mpr ⟨hcommanded, hstop⟩)

theorem getState_cases (interface : ShortcutButtonInterface) :
    interface.getState = .stopImplementOperations ∨
      interface.getState = .permitAllImplementsToOperationOn := by
  unfold getState
  split_ifs with hcommanded
  · exact .inl hcommanded
  · exact .inl rfl
  · exact .inr rfl

theorem getState_eq_of_iff {interface interface' : ShortcutButtonInterface}
    (h : interface'.getState = .stopImplementOperations ↔
      interface.getState = .stopImplementOperations) :
    interface'.getState = interface.getState := by
  rcases getState_cases interface with hstop | hpermit
  · rw [hstop, h.mpr hstop]
  · have hnot : interface'.getState ≠ .stopImplementOperations := by
      rw [Ne, h, hpermit]
      decide
    rw [hpermit, (getState_cases interface').resolve_left hnot]

theorem processFlags_same (interface : ShortcutButtonInterface) (env : Environment) :
    (interface.processFlags env).1.isobusShortcutButtonList = interface.isobusShortcutButtonList ∧
      (interface.processFlags env).1.commandedState = interface.commandedState ∧
      dispatchedStates (interface.processFlags env).2 = [] := by
  unfold processFlags
  split_ifs
  · exact ⟨rfl, rfl, rfl⟩
  · exact ⟨rfl, rfl, rfl⟩
  · exact ⟨rfl, rfl, rfl⟩

theorem update_same (interface : ShortcutButtonInterface) (env : Environment) :
    (interface.update env).1.isobusShortcutButtonList =
        (if interface.prunes env then interface.prune env else interface).isobusShortcutButtonList ∧
      (interface.update env).1.commandedState = interface.commandedState ∧
      dispatchedStates (interface.update env).2 = [] := by
  unfold update
  split_ifs
  · exact processFlags_same _ env
  · exact processFlags_same _ env

theorem getState_congr {interface interface' : ShortcutButtonInterface}
    (hlist : interface'.isobusShortcutButtonList = interface.isobusShortcutButtonList)
    (hcommanded : interface'.commandedState = interface.commandedState) :
    interface'.getState = interface.getState := by
  rw [getState, getState, hlist, hcommanded]

theorem lookup_prune (interface : ShortcutButtonInterface) (env : Environment) (server : NAME)
    (isb : ISBServerData) :
    (interface.prune env).isobusShortcutButtonList.lookup server = some isb ↔
      interface.isobusShortcutButtonList.lookup server = some isb ∧ ¬isb.timedOut env := by
  rw [prune, KeyedTable.lookup_update, Option.bind_eq_some_iff]
  constructor
  · rintro ⟨isb', hlookup, hkept⟩
    split_ifs at hkept with htimedOut
    cases hkept
    exact ⟨hlookup, htimedOut⟩
  · rintro ⟨hlookup, htimedOut⟩
    exact ⟨isb, hlookup, if_neg htimedOut⟩

theorem processRxMessage_of_hears {world : World} {message : CANMessage} {server : NAME}
    (h : listener.hears world message = some server) :
    listener.interface.processRxMessage (listener.env world fun _ => false) message =
      (listener.interface.heardFrom (listener.env world fun _ => false) message server,
        listener.interface.heardEvents (listener.env world fun _ => false) message server) := by
  unfold hears at h
  split_ifs at h with hconcerns
  obtain ⟨source, hsource, rfl⟩ := Option.map_eq_some_iff.mp h
  rw [processRxMessage, if_pos hconcerns.1, processMessage, hsource]
  exact if_pos hconcerns.2

theorem processRxMessage_of_not_hears {world : World} {message : CANMessage}
    (h : listener.hears world message = none) :
    listener.interface.processRxMessage (listener.env world fun _ => false) message =
      (listener.interface, []) := by
  rw [processRxMessage]
  by_cases hinitialized : listener.interface.initialized = true
  · rw [if_pos hinitialized, processMessage]
    cases hsource : message.source with
    | none => rfl
    | some source =>
      refine if_neg fun hconcerns => ?_
      rw [hears, if_pos ⟨hinitialized, hconcerns⟩, hsource] at h
      cases h
  · rw [if_neg hinitialized]

/-- A server that was heard is in the list until it times out, with the state it sent last. -/
structure Tracks (listener : Listener) : Prop where
  past : ∀ server t state, listener.heard server = some (t, state) → t ≤ listener.time
  absent : ∀ server t state, listener.heard server = some (t, state) →
    listener.interface.isobusShortcutButtonList.lookup server = none →
      t + TRANSMISSION_TIMEOUT_MS.toNat ≤ listener.time
  present : ∀ server isb, listener.interface.isobusShortcutButtonList.lookup server = some isb →
    ∃ t state, listener.heard server = some (t, state) ∧
      isb.messageReceivedTimestampMs = UInt32.ofNat t ∧
      (isb.commandedState = .stopImplementOperations ↔ state = .stopImplementOperations)

theorem tracks_start (interface : ShortcutButtonInterface) (time : Nat)
    (hlist : interface.isobusShortcutButtonList = .empty) : Tracks (start interface time) where
  past server t state h := by cases h
  absent server t state h := by cases h
  present server isb h := by
    rw [start, hlist] at h
    cases h

variable {send : TransmitFrame → Bool} {t : Nat}

theorem toNat_timeElapsed {world : World} (h : t ≤ listener.time) :
    ((listener.env world send).timeElapsed (UInt32.ofNat t)).toNat =
      (listener.time - t) % 2 ^ 32 := by
  have hnow : (UInt32.ofNat listener.time).toNat = listener.time % 2 ^ 32 := UInt32.toNat_ofNat'
  have hthen : (UInt32.ofNat t).toNat = t % 2 ^ 32 := UInt32.toNat_ofNat'
  change (UInt32.ofNat listener.time - UInt32.ofNat t).toNat = _
  rw [UInt32.toNat_sub, hnow, hthen]
  omega

theorem le_of_timedOut {world : World} {isb : ISBServerData}
    (hstamp : isb.messageReceivedTimestampMs = UInt32.ofNat t) (h : t ≤ listener.time)
    (htimedOut : isb.timedOut (listener.env world send) = true) :
    t + TRANSMISSION_TIMEOUT_MS.toNat ≤ listener.time := by
  have helapsed := UInt32.le_iff_toNat_le.mp (of_decide_eq_true htimedOut)
  rw [hstamp, toNat_timeElapsed h] at helapsed
  have hmod := Nat.mod_le (listener.time - t) (2 ^ 32)
  have hpositive : 0 < TRANSMISSION_TIMEOUT_MS.toNat := by decide
  omega

theorem timedOut_iff {world : World} {isb : ISBServerData}
    (hstamp : isb.messageReceivedTimestampMs = UInt32.ofNat t) (h : t ≤ listener.time)
    (hlimit : listener.time < t + 2 ^ 32) :
    isb.timedOut (listener.env world send) = true ↔
      t + TRANSMISSION_TIMEOUT_MS.toNat ≤ listener.time := by
  refine ⟨le_of_timedOut hstamp h, fun hle => decide_eq_true (UInt32.le_iff_toNat_le.mpr ?_)⟩
  rw [hstamp, toNat_timeElapsed h, Nat.mod_eq_of_lt (by omega)]
  omega

theorem Tracks.of_same {listener' : Listener} (h : Tracks listener)
    (hlist : listener'.interface.isobusShortcutButtonList =
      listener.interface.isobusShortcutButtonList)
    (htime : listener.time ≤ listener'.time) (hheard : listener'.heard = listener.heard) :
    Tracks listener' where
  past server t state hlast := (h.past server t state (hheard ▸ hlast)).trans htime
  absent server t state hlast hnone :=
    (h.absent server t state (hheard ▸ hlast) (hlist ▸ hnone)).trans htime
  present server isb hlookup := by
    rw [hheard]
    exact h.present server isb (hlist ▸ hlookup)

theorem setStopAllImplementOperationsState_list (interface : ShortcutButtonInterface)
    (newState : StopAllImplementOperationsState) :
    (interface.setStopAllImplementOperationsState newState).isobusShortcutButtonList =
      interface.isobusShortcutButtonList := by
  unfold setStopAllImplementOperationsState
  split_ifs
  · rfl
  · rfl

theorem Tracks.update (h : Tracks listener) (world : World) (send : TransmitFrame → Bool) :
    Tracks (listener.step (.update world send)).1 := by
  have hlist := (update_same listener.interface (listener.env world send)).1
  by_cases hprunes : listener.interface.prunes (listener.env world send) = true
  · rw [if_pos hprunes] at hlist
    have hlookup : ∀ server isb,
        (listener.step (.update world send)).1.interface.isobusShortcutButtonList.lookup server =
          some isb ↔ listener.interface.isobusShortcutButtonList.lookup server = some isb ∧
            ¬isb.timedOut (listener.env world send) := by
      intro server isb
      rw [← lookup_prune, ← hlist]
      rfl
    refine ⟨h.past, fun server t state hlast hnone => ?_, fun server isb hsome => ?_⟩
    · cases hbefore : listener.interface.isobusShortcutButtonList.lookup server with
      | none => exact h.absent server t state hlast hbefore
      | some isb =>
        obtain ⟨t', state', hlast', hstamp, -⟩ := h.present server isb hbefore
        obtain ⟨rfl, -⟩ := Prod.mk.inj (Option.some.inj (hlast'.symm.trans hlast))
        by_contra hfresh
        have hpast := h.past _ _ _ hlast
        have hkept := (hlookup server isb).mpr
          ⟨hbefore, fun htimedOut => hfresh (le_of_timedOut hstamp hpast htimedOut)⟩
        rw [hnone] at hkept
        cases hkept
    · exact h.present server isb ((hlookup server isb).mp hsome).1
  · rw [if_neg hprunes] at hlist
    exact h.of_same hlist (Nat.le_refl _) rfl

theorem missesTransition_of_follows {kept count : UInt8} (h : Follows kept count) :
    missesTransition kept count = false := by
  unfold Follows at h
  unfold missesTransition
  split_ifs at h with hmax
  · rw [hmax, h]
    rfl
  · rw [decide_eq_false hmax, Bool.false_and, Bool.false_or, decide_eq_false (Nat.not_lt.mpr h),
      Bool.and_false]

theorem receive_stop_iff {env : Environment} {message : CANMessage} {kept : UInt8}
    (h : stateOf message = .stopImplementOperations ∨ Follows kept (message.getUint8At 6)) :
    (ShortcutButtonInterface.receive env message kept).commandedState =
        .stopImplementOperations ↔ stateOf message = .stopImplementOperations := by
  rw [ShortcutButtonInterface.receive]
  dsimp only
  rcases h with hstop | hfollows
  · split_ifs
    · exact iff_of_true rfl hstop
    · rfl
  · rw [missesTransition_of_follows hfollows, if_neg Bool.false_ne_true]
    rfl

section Receive

variable {world : World} {message : CANMessage} {server : NAME}

theorem lookup_receive (h : listener.hears world message = some server) (other : NAME) :
    (listener.step (.receive world message)).1.interface.isobusShortcutButtonList.lookup other =
      if other = server then some (ShortcutButtonInterface.receive
        (listener.env world fun _ => false) message (listener.interface.transitionNumberOf server))
      else listener.interface.isobusShortcutButtonList.lookup other := by
  rw [step, processRxMessage_of_hears h]
  change (listener.interface.isobusShortcutButtonList.set server _).lookup other = _
  split_ifs with heq
  · rw [heq]
    exact KeyedTable.lookup_set_self _ _ _
  · exact KeyedTable.lookup_set_ne _ _ heq

theorem heard_receive (h : listener.hears world message = some server) (other : NAME) :
    (listener.step (.receive world message)).1.heard other =
      if other = server then some (listener.time, stateOf message) else listener.heard other := by
  rw [step, h]
  exact Function.update_apply _ _ _ _

theorem Tracks.receive (h : Tracks listener) (hhears : listener.hears world message = some server)
    (hmessage : stateOf message = .stopImplementOperations ∨
      Follows (listener.interface.transitionNumberOf server) (message.getUint8At 6)) :
    Tracks (listener.step (.receive world message)).1 := by
  have hlookup := lookup_receive hhears
  have hheard := heard_receive hhears
  refine ⟨fun other t state hlast => ?_, fun other t state hlast hnone => ?_,
    fun other isb hsome => ?_⟩
  · rw [hheard] at hlast
    split_ifs at hlast
    · cases hlast
      exact Nat.le_refl _
    · exact h.past other t state hlast
  · rw [hheard] at hlast
    rw [hlookup] at hnone
    split_ifs at hlast hnone
    exact h.absent other t state hlast hnone
  · rw [hheard]
    rw [hlookup] at hsome
    split_ifs at hsome ⊢
    · cases hsome
      exact ⟨_, _, rfl, rfl, receive_stop_iff hmessage⟩
    · exact h.present other isb hsome

end Receive

theorem tracks_step (h : Tracks listener) (call : ListenerCall) (horderly : listener.Orderly call) :
    Tracks (listener.step call).1 := by
  cases call with
  | initializeInterface => exact h.of_same rfl (Nat.le_refl _) rfl
  | setStopAllImplementOperationsState newState =>
    exact h.of_same (setStopAllImplementOperationsState_list _ _) (Nat.le_refl _) rfl
  | wait ms => exact h.of_same rfl (Nat.le_add_right _ _) rfl
  | update world send => exact h.update world send
  | receive world message =>
    cases hhears : listener.hears world message with
    | none =>
      refine h.of_same ?_ (Nat.le_refl _) ?_
      · rw [step, processRxMessage_of_not_hears hhears]
      · rw [step, hhears]
        rfl
    | some server => exact h.receive hhears (horderly server hhears).1

theorem reports_of_fresh (h : Tracks listener)
    (hfresh : ∀ server isb, listener.Stops server isb →
      listener.LastHeard server TRANSMISSION_TIMEOUT_MS.toNat) : listener.Reports := by
  rw [Reports, getState_eq_stop_iff]
  refine or_congr_right ⟨?_, ?_⟩
  · rintro ⟨server, isb, hlookup, hstop⟩
    obtain ⟨t, state, hlast, -, hstate⟩ := h.present server isb hlookup
    rw [hstate.mp hstop] at hlast
    exact ⟨server, t, hlast, hfresh server isb ⟨hlookup, hstop⟩ t _ hlast⟩
  · rintro ⟨server, t, hlast, hlimit⟩
    cases hlookup : listener.interface.isobusShortcutButtonList.lookup server with
    | none => exact absurd (h.absent server t _ hlast hlookup) (Nat.not_le.mpr hlimit)
    | some isb =>
      obtain ⟨t', state, hlast', -, hstate⟩ := h.present server isb hlookup
      obtain ⟨rfl, rfl⟩ := Prod.mk.inj (Option.some.inj (hlast.symm.trans hlast'))
      exact ⟨server, isb, hlookup, hstate.mpr rfl⟩

theorem reports_receive {world : World} {message : CANMessage} {server : NAME}
    (h : Tracks listener) (hhears : listener.hears world message = some server)
    (horderly : listener.Orderly (.receive world message)) :
    (listener.step (.receive world message)).1.Reports := by
  obtain ⟨hmessage, hothers⟩ := horderly server hhears
  refine reports_of_fresh (h.receive hhears hmessage) fun other isb hstops t state hlast => ?_
  obtain ⟨hlookup, hstop⟩ := hstops
  rw [lookup_receive hhears] at hlookup
  rw [heard_receive hhears] at hlast
  split_ifs at hlookup hlast with heq
  · cases hlast
    exact Nat.lt_add_of_pos_right (by decide)
  · exact hothers other isb heq ⟨hlookup, hstop⟩ t state hlast

theorem reports_update {world : World} {send : TransmitFrame → Bool} (h : Tracks listener)
    (hprunes : listener.interface.prunes (listener.env world send) = true)
    (horderly : listener.Orderly (.update world send)) :
    (listener.step (.update world send)).1.Reports := by
  refine reports_of_fresh (h.update world send) fun server isb hstops t state hlast => ?_
  obtain ⟨hlookup, hstop⟩ := hstops
  have hlist := (update_same listener.interface (listener.env world send)).1
  rw [if_pos hprunes] at hlist
  change (listener.interface.update _).1.isobusShortcutButtonList.lookup server =
    some isb at hlookup
  rw [hlist, lookup_prune] at hlookup
  obtain ⟨t', state', hlast', hstamp, -⟩ := h.present server isb hlookup.1
  obtain ⟨rfl, -⟩ := Prod.mk.inj (Option.some.inj (hlast'.symm.trans hlast))
  have hlimit := (horderly hprunes).1 server isb ⟨hlookup.1, hstop⟩ _ _ hlast
  rw [timedOut_iff hstamp (h.past _ _ _ hlast) hlimit, Nat.not_le] at hlookup
  exact hlookup.2

theorem dispatches_of_same {call : ListenerCall}
    (hevents : dispatchedStates (listener.step call).2 = [])
    (hsame : (listener.step call).1.interface.getState = listener.interface.getState) :
    listener.Dispatches call := by
  rw [Dispatches, hevents, if_pos hsame]

theorem dispatches_receive (listener : Listener) (world : World) (message : CANMessage) :
    listener.Dispatches (.receive world message) := by
  cases hhears : listener.hears world message with
  | none =>
    refine dispatches_of_same ?_ ?_
    · rw [step, processRxMessage_of_not_hears hhears]
      rfl
    · rw [step, processRxMessage_of_not_hears hhears]
  | some server =>
    have hnone : ∀ missed : Bool,
        dispatchedStates (if missed then [.missedTransition server] else []) = [] := by
      intro missed
      cases missed <;> rfl
    rw [Dispatches, step, processRxMessage_of_hears hhears]
    change dispatchedStates (_ ++ _) = _
    rw [dispatchedStates, List.filterMap_append]
    refine (congrArg (· ++ _) (hnone _)).trans ?_
    rw [List.nil_append]
    split_ifs with hsame hdiffer hdiffer
    · exact absurd hdiffer.symm hsame
    · rfl
    · rfl
    · exact absurd (not_not.mp hsame).symm hdiffer

theorem setStopAllImplementOperationsState_getState
    {newState : StopAllImplementOperationsState}
    (horderly : listener.Orderly (.setStopAllImplementOperationsState newState)) :
    (listener.interface.setStopAllImplementOperationsState newState).getState =
      listener.interface.getState := by
  unfold setStopAllImplementOperationsState
  split_ifs with hcommand
  · refine getState_eq_of_iff ?_
    rw [getState_eq_stop_iff, getState_eq_stop_iff]
    rcases horderly hcommand.1 with hsame | ⟨server, isb, hlookup, hstop⟩
    · exact or_congr_left hsame
    · exact iff_of_true (.inr ⟨server, isb, hlookup, hstop⟩) (.inr ⟨server, isb, hlookup, hstop⟩)
  · rfl

theorem update_getState {world : World} {send : TransmitFrame → Bool}
    (horderly : listener.Orderly (.update world send)) :
    (listener.interface.update (listener.env world send)).1.getState =
      listener.interface.getState := by
  obtain ⟨hlist, hcommanded, -⟩ := update_same listener.interface (listener.env world send)
  by_cases hprunes : listener.interface.prunes (listener.env world send) = true
  · rw [if_pos hprunes] at hlist
    refine getState_eq_of_iff ?_
    rw [getState_eq_stop_iff, getState_eq_stop_iff, hlist, hcommanded]
    simp only [lookup_prune]
    constructor
    · rintro (hown | ⟨server, isb, ⟨hlookup, -⟩, hstop⟩)
      · exact .inl hown
      · exact .inr ⟨server, isb, hlookup, hstop⟩
    · rintro (hown | ⟨server, isb, hlookup, hstop⟩)
      · exact .inl hown
      · by_cases htimedOut : isb.timedOut (listener.env world send) = true
        · rcases (horderly hprunes).2 ⟨server, isb, ⟨hlookup, hstop⟩, htimedOut⟩ with
            hown | ⟨other, isb', ⟨hlookup', hstop'⟩, hfresh⟩
          · exact .inl hown
          · exact .inr ⟨other, isb', ⟨hlookup', hfresh⟩, hstop'⟩
        · exact .inr ⟨server, isb, ⟨hlookup, htimedOut⟩, hstop⟩
  · rw [if_neg hprunes] at hlist
    exact getState_congr hlist hcommanded

theorem dispatches_step (call : ListenerCall) (horderly : listener.Orderly call) :
    listener.Dispatches call := by
  cases call with
  | initializeInterface => exact dispatches_of_same rfl rfl
  | setStopAllImplementOperationsState newState =>
    exact dispatches_of_same rfl (setStopAllImplementOperationsState_getState horderly)
  | wait ms => exact dispatches_of_same rfl rfl
  | update world send =>
    exact dispatches_of_same (update_same _ _).2.2 (update_getState horderly)
  | receive world message => exact dispatches_receive listener world message

/-- A right report whenever one is due, and a dispatch for every change. -/
def Serves (listener : Listener) (call : ListenerCall) : Prop :=
  listener.Dispatches call ∧ (listener.Settles call → (listener.step call).1.Reports)

theorem serves_step (h : Tracks listener) (call : ListenerCall) (horderly : listener.Orderly call) :
    listener.Serves call := by
  refine ⟨dispatches_step call horderly, fun hsettles => ?_⟩
  cases call with
  | initializeInterface => exact absurd hsettles not_false
  | setStopAllImplementOperationsState newState => exact absurd hsettles not_false
  | wait ms => exact absurd hsettles not_false
  | update world send => exact reports_update h hsettles horderly
  | receive world message =>
    obtain ⟨server, hhears⟩ := Option.ne_none_iff_exists'.mp hsettles
    exact reports_receive h hhears horderly

theorem serves_run {calls : List ListenerCall} (h : Tracks listener)
    (horderly : listening.Along Orderly listener calls) :
    listening.Along Serves listener calls := by
  have hstep : ∀ (s : Listener) call, Tracks s → s.Orderly call →
      Tracks (listening.next s call) := fun _ call hs hcall => tracks_step hs call hcall
  have hserves : ∀ (s : Listener) call, Tracks s → s.Orderly call → (True ↔ s.Serves call) :=
    fun _ call hs hcall => iff_of_true trivial (serves_step hs call hcall)
  exact (listening.along_congr hstep hserves h calls horderly).mp
    (listening.along_of_forall (fun _ _ => trivial) listener calls)

end Listener

end Isobus.ShortcutButton
