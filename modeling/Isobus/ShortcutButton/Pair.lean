import Isobus.ShortcutButton.Listener

namespace Isobus.ShortcutButton

open Isobus.Can Isobus.Lib ShortcutButtonInterface

inductive Party
  | server
  | client
  deriving DecidableEq

def Party.other : Party → Party
  | .server => .client
  | .client => .server

@[simp] theorem Party.other_other (party : Party) : party.other.other = party := by
  cases party <;> rfl

theorem Party.other_ne (party : Party) : party.other ≠ party := by
  cases party <;> decide

theorem Party.eq_other_of_ne {party party' : Party} (h : party' ≠ party) :
    party' = party.other := by
  cases party <;> cases party' <;> first | rfl | exact absurd rfl h

/-- The control functions of both parties, as each of them knows them. -/
structure ButtonPair where
  world : Party → World
  own : Party → CFRef
  peer : Party → CFRef
  serverEnabled : Party → Bool

/-- Both interfaces, and the data that are on their way to them. -/
structure ButtonLink where
  interface : Party → ShortcutButtonInterface
  inbox : Party → List (List UInt8)

/-- A message in which data of the switch arrive. -/
structure SwitchArrival where
  now : UInt32
  message : CANMessage
  isSwitchState :
    message.identifier.getParameterGroupNumber = AllImplementsStopOperationsSwitchState

inductive PairCall
  | initializeInterface (party : Party)
  | setStopAllImplementOperationsState (party : Party)
      (newState : StopAllImplementOperationsState)
  | update (party : Party) (now : UInt32) (send : TransmitFrame → Bool)
  | deliver (party : Party) (arrival : SwitchArrival)

def sentData (events : List ButtonEvent) : List (List UInt8) :=
  events.filterMap fun
    | .frame frame true => some frame.data
    | _ => none

namespace ButtonLink

variable (pair : ButtonPair)

def start : ButtonLink where
  interface party := .construct (pair.own party) (pair.serverEnabled party)
  inbox _ := []

variable (link : ButtonLink)

def peerNAME (party : Party) : NAME := (pair.world party (pair.peer party)).controlFunctionNAME

def arriving (party : Party) (arrival : SwitchArrival) (data : List UInt8) : CANMessage :=
  { arrival.message with
    data := data
    source := some (pair.peer party)
    canPortIndex := (pair.world party (link.interface party).sourceControlFunction).canPortIndex }

def environment (party : Party) (now : UInt32) (send : TransmitFrame → Bool) : Environment :=
  ⟨now, pair.world party, send⟩

def step : PairCall → ButtonLink × List ButtonEvent
  | .initializeInterface party =>
    ({ link with
        interface :=
          Function.update link.interface party (link.interface party).initializeInterface }, [])
  | .setStopAllImplementOperationsState party newState =>
    ({ link with
        interface := Function.update link.interface party
          ((link.interface party).setStopAllImplementOperationsState newState) }, [])
  | .update party now send =>
    let updated := (link.interface party).update (environment pair party now send)
    ({ interface := Function.update link.interface party updated.1
       inbox := Function.update link.inbox party.other
        (link.inbox party.other ++ sentData updated.2) }, updated.2)
  | .deliver party arrival =>
    match link.inbox party with
    | [] => (link, [])
    | data :: rest =>
      let received := (link.interface party).processRxMessage
        (environment pair party arrival.now fun _ => false)
        (link.arriving pair party arrival data)
      ({ interface := Function.update link.interface party received.1
         inbox := Function.update link.inbox party rest }, received.2)

end ButtonLink

def buttonLink (pair : ButtonPair) : Machine ButtonLink PairCall ButtonEvent :=
  ⟨ButtonLink.step pair⟩

def NotMissed : ButtonEvent → Prop
  | .missedTransition _ => False
  | _ => True

namespace ButtonLink

variable (pair : ButtonPair) (link : ButtonLink)

/-- A party that does not have the other one in its list gets the first or the second message of
256. -/
def HeardInTime : PairCall → Prop
  | .deliver party _ => (link.interface party).initialized = true →
      (link.interface party).isobusShortcutButtonList.lookup (peerNAME pair party) = none →
        ∀ data ∈ (link.inbox party).head?, data.getD 6 0 ≤ 1
  | _ => True

def Counts (first : UInt8) : List (List UInt8) → UInt8 → Prop
  | [], next => first = next
  | data :: rest, next =>
    data.length = CAN_DATA_LENGTH ∧ data.getD 6 0 = first ∧ Counts (first + 1) rest next

theorem counts_append {first next next' : UInt8} {inbox sent : List (List UInt8)}
    (h : Counts first inbox next) (hsent : Counts next sent next') :
    Counts first (inbox ++ sent) next' := by
  induction inbox generalizing first with
  | nil =>
    obtain rfl : first = next := h
    exact hsent
  | cons data inbox ih => exact ⟨h.1, h.2.1, ih h.2.2⟩

/-- A party is about to get the count behind the one that it keeps. -/
def Flows (inbox : List (List UInt8)) (next : UInt8) (kept : Option ISBServerData) : Prop :=
  ∃ first, Counts first inbox next ∧
    ∀ isb, kept = some isb → isb.stopAllImplementOperationsTransitionNumber + 1 = first

/-- Counts flow in both directions, and are kept once an interface is initialized. -/
structure Flowing : Prop where
  flows : ∀ party, Flows (link.inbox party)
    (link.interface party.other).stopAllImplementOperationsTransitionNumber
    ((link.interface party).isobusShortcutButtonList.lookup (peerNAME pair party))
  silent : ∀ party, (link.interface party).initialized = false →
    (link.interface party).isobusShortcutButtonList.lookup (peerNAME pair party) = none

theorem missesTransition_succ (kept : UInt8) : missesTransition kept (kept + 1) = false := by
  unfold missesTransition
  by_cases hmax : kept = 255
  · rw [hmax]
    rfl
  · have hne : kept.toNat ≠ 255 := fun heq => hmax (UInt8.toNat_inj.mp heq)
    have hlt := kept.toNat_lt
    have hsucc : (kept + 1).toNat = kept.toNat + 1 := by
      have hsum := UInt8.toNat_add kept 1
      have hone : (1 : UInt8).toNat = 1 := rfl
      omega
    rw [decide_eq_false hmax, Bool.false_and, Bool.false_or, hsucc,
      decide_eq_false (Nat.lt_irrefl _), Bool.and_false]

theorem missesTransition_zero (count : UInt8) : missesTransition 0 count = false ↔ count ≤ 1 := by
  unfold missesTransition
  rw [UInt8.le_iff_toNat_le]
  change (false && _ || decide ((0 : UInt8) < 255) && decide (count.toNat > 1)) = false ↔ _
  rw [Bool.false_and, Bool.false_or, decide_eq_true (by decide), Bool.true_and,
    decide_eq_false_iff_not, Nat.not_lt]
  rfl

variable {link}

theorem counts_processFlags (interface : ShortcutButtonInterface) (env : Environment) :
    Counts interface.stopAllImplementOperationsTransitionNumber
      (sentData (interface.processFlags env).2)
      (interface.processFlags env).1.stopAllImplementOperationsTransitionNumber := by
  unfold processFlags
  split_ifs
  · exact ⟨rfl, rfl, rfl⟩
  · rfl
  · rfl

theorem counts_update (interface : ShortcutButtonInterface) (env : Environment) :
    Counts interface.stopAllImplementOperationsTransitionNumber
      (sentData (interface.update env).2)
      (interface.update env).1.stopAllImplementOperationsTransitionNumber := by
  unfold update
  split_ifs
  · exact counts_processFlags { interface.prune env with sendFlag := true } env
  · exact counts_processFlags interface env

theorem lookup_update_of_some {interface : ShortcutButtonInterface} {env : Environment}
    {server : NAME} {isb : ISBServerData}
    (h : (interface.update env).1.isobusShortcutButtonList.lookup server = some isb) :
    interface.isobusShortcutButtonList.lookup server = some isb := by
  rw [(Listener.update_same interface env).1] at h
  split_ifs at h
  · exact ((Listener.lookup_prune interface env server isb).mp h).1
  · exact h

theorem processRxMessage_arriving {party : Party} {arrival : SwitchArrival} {data : List UInt8}
    (hinitialized : (link.interface party).initialized = true)
    (hlength : data.length = CAN_DATA_LENGTH) :
    (link.interface party).processRxMessage (environment pair party arrival.now fun _ => false)
        (link.arriving pair party arrival data) =
      ((link.interface party).heardFrom (environment pair party arrival.now fun _ => false)
          (link.arriving pair party arrival data) (peerNAME pair party),
        (link.interface party).heardEvents (environment pair party arrival.now fun _ => false)
          (link.arriving pair party arrival data) (peerNAME pair party)) := by
  have hconcerns : (link.interface party).concerns
      (environment pair party arrival.now fun _ => false)
      (link.arriving pair party arrival data) = true := by
    rw [concerns, Bool.and_eq_true, Bool.and_eq_true]
    exact ⟨⟨decide_eq_true rfl, decide_eq_true arrival.isSwitchState⟩, decide_eq_true hlength⟩
  rw [processRxMessage, if_pos hinitialized, processMessage]
  exact if_pos hconcerns

theorem notMissed_heardEvents (interface : ShortcutButtonInterface) (env : Environment)
    (message : CANMessage) (server : NAME) :
    (∀ event ∈ interface.heardEvents env message server, NotMissed event) ↔
      missesTransition (interface.transitionNumberOf server) (message.getUint8At 6) = false := by
  rw [heardEvents, List.forall_mem_append]
  cases missesTransition (interface.transitionNumberOf server) (message.getUint8At 6) with
  | true =>
    refine iff_of_false (fun h => ?_) (by decide)
    exact h.1 _ List.mem_cons_self
  | false =>
    refine iff_of_true ⟨fun _ hmem => absurd hmem List.not_mem_nil, ?_⟩ rfl
    split_ifs
    · exact List.forall_mem_singleton.mpr trivial
    · exact fun _ hmem => absurd hmem List.not_mem_nil

theorem notMissed_update (interface : ShortcutButtonInterface) (env : Environment) :
    ∀ event ∈ (interface.update env).2, NotMissed event := by
  have hflags : ∀ interface : ShortcutButtonInterface,
      ∀ event ∈ (interface.processFlags env).2, NotMissed event := by
    intro interface
    unfold processFlags
    split_ifs
    · exact List.forall_mem_singleton.mpr trivial
    · exact List.forall_mem_singleton.mpr trivial
    · exact fun _ hmem => absurd hmem List.not_mem_nil
  unfold ShortcutButtonInterface.update
  split_ifs
  · exact hflags _
  · exact hflags _

theorem heardInTime_iff (h : Flowing pair link) (call : PairCall) :
    HeardInTime pair link call ↔ ∀ event ∈ (step pair link call).2, NotMissed event := by
  cases call with
  | initializeInterface party =>
    exact iff_of_true trivial fun _ hmem => absurd hmem List.not_mem_nil
  | setStopAllImplementOperationsState party newState =>
    exact iff_of_true trivial fun _ hmem => absurd hmem List.not_mem_nil
  | update party now send => exact iff_of_true trivial (notMissed_update _ _)
  | deliver party arrival =>
    obtain ⟨first, hcounts, hkept⟩ := h.flows party
    rw [HeardInTime, step]
    cases hinbox : link.inbox party with
    | nil => exact iff_of_true (fun _ _ _ hmem => by cases hmem) fun _ hmem => by cases hmem
    | cons data rest =>
      rw [hinbox] at hcounts
      obtain ⟨hlength, hfirst, -⟩ := hcounts
      by_cases hinitialized : (link.interface party).initialized = true
      · dsimp only
        rw [processRxMessage_arriving pair hinitialized hlength, notMissed_heardEvents]
        have hcount : (link.arriving pair party arrival data).getUint8At 6 = first := hfirst
        rw [hcount, transitionNumberOf]
        cases hlookup : (link.interface party).isobusShortcutButtonList.lookup
            (peerNAME pair party) with
        | none =>
          refine Iff.trans ?_ (missesTransition_zero first).symm
          rw [← hfirst]
          exact ⟨fun hin => hin hinitialized rfl data rfl, fun hle _ _ data' hdata' =>
            Option.some.inj hdata' ▸ hle⟩
        | some isb =>
          refine iff_of_true (fun _ hnone => by cases hnone) ?_
          rw [← hkept isb hlookup]
          exact missesTransition_succ _
      · refine iff_of_true (fun htrue => absurd htrue hinitialized) ?_
        dsimp only
        rw [processRxMessage, if_neg hinitialized]
        exact fun _ hmem => absurd hmem List.not_mem_nil

theorem Flowing.of_same {link' : ButtonLink} (h : Flowing pair link)
    (hinbox : link'.inbox = link.inbox)
    (hnumber : ∀ party, (link'.interface party).stopAllImplementOperationsTransitionNumber =
      (link.interface party).stopAllImplementOperationsTransitionNumber)
    (hlist : ∀ party, (link'.interface party).isobusShortcutButtonList =
      (link.interface party).isobusShortcutButtonList)
    (hinitialized : ∀ party, (link'.interface party).initialized = false →
      (link.interface party).initialized = false) : Flowing pair link' where
  flows party := by
    rw [hinbox, hnumber, hlist]
    exact h.flows party
  silent party hsilent := by
    rw [hlist]
    exact h.silent party (hinitialized party hsilent)

theorem setStopAllImplementOperationsState_same (interface : ShortcutButtonInterface)
    (newState : StopAllImplementOperationsState) :
    let commanded := interface.setStopAllImplementOperationsState newState
    commanded.stopAllImplementOperationsTransitionNumber =
        interface.stopAllImplementOperationsTransitionNumber ∧
      commanded.isobusShortcutButtonList = interface.isobusShortcutButtonList ∧
      commanded.initialized = interface.initialized := by
  unfold ShortcutButtonInterface.setStopAllImplementOperationsState
  split_ifs
  · exact ⟨rfl, rfl, rfl⟩
  · exact ⟨rfl, rfl, rfl⟩

theorem Flowing.replace (h : Flowing pair link) (party : Party)
    {interface : ShortcutButtonInterface}
    (hnumber : interface.stopAllImplementOperationsTransitionNumber =
      (link.interface party).stopAllImplementOperationsTransitionNumber)
    (hlist : interface.isobusShortcutButtonList =
      (link.interface party).isobusShortcutButtonList)
    (hinitialized : interface.initialized = false →
      (link.interface party).initialized = false) :
    Flowing pair { link with interface := Function.update link.interface party interface } := by
  have hsame : ∀ {α : Type} (field : ShortcutButtonInterface → α) (party' : Party),
      field interface = field (link.interface party) →
        field (Function.update link.interface party interface party') =
          field (link.interface party') := by
    intro α field party' hfield
    by_cases heq : party' = party
    · subst heq
      rw [Function.update_self, hfield]
    · rw [Function.update_of_ne heq]
  refine h.of_same pair rfl (fun party' => hsame _ party' hnumber)
    (fun party' => hsame _ party' hlist) fun party' hsilent => ?_
  dsimp only at hsilent
  by_cases heq : party' = party
  · subst heq
    rw [Function.update_self] at hsilent
    exact hinitialized hsilent
  · rwa [Function.update_of_ne heq] at hsilent

theorem update_initialized (interface : ShortcutButtonInterface) (env : Environment) :
    (interface.update env).1.initialized = interface.initialized := by
  have hflags : ∀ interface : ShortcutButtonInterface,
      (interface.processFlags env).1.initialized = interface.initialized := by
    intro interface
    unfold processFlags
    split_ifs
    · rfl
    · rfl
    · rfl
  unfold ShortcutButtonInterface.update
  split_ifs
  · exact hflags _
  · exact hflags _

theorem Flowing.update (h : Flowing pair link) (party : Party) (now : UInt32)
    (send : TransmitFrame → Bool) :
    Flowing pair (step pair link (.update party now send)).1 := by
  rw [step]
  refine ⟨fun party' => ?_, fun party' hsilent => ?_⟩
  all_goals dsimp only at *
  · by_cases heq : party' = party
    · subst heq
      rw [Function.update_of_ne party'.other_ne.symm, Function.update_of_ne party'.other_ne,
        Function.update_self]
      obtain ⟨first, hcounts, hkept⟩ := h.flows party'
      exact ⟨first, hcounts, fun isb hlookup => hkept isb (lookup_update_of_some hlookup)⟩
    · obtain rfl := Party.eq_other_of_ne heq
      rw [Function.update_self, Party.other_other, Function.update_self, Function.update_of_ne heq]
      obtain ⟨first, hcounts, hkept⟩ := h.flows party.other
      rw [Party.other_other] at hcounts
      exact ⟨first, counts_append hcounts (counts_update _ _), hkept⟩
  · by_cases heq : party' = party
    · subst heq
      rw [Function.update_self] at hsilent ⊢
      rw [update_initialized] at hsilent
      have hnone := h.silent party' hsilent
      refine Option.eq_none_iff_forall_ne_some.mpr fun isb hlookup => ?_
      rw [lookup_update_of_some hlookup] at hnone
      cases hnone
    · rw [Function.update_of_ne heq] at hsilent ⊢
      exact h.silent party' hsilent

theorem processRxMessage_same (interface : ShortcutButtonInterface) (env : Environment)
    (message : CANMessage) :
    (interface.processRxMessage env message).1.stopAllImplementOperationsTransitionNumber =
        interface.stopAllImplementOperationsTransitionNumber ∧
      (interface.processRxMessage env message).1.initialized = interface.initialized := by
  rw [processRxMessage]
  by_cases hinitialized : interface.initialized = true
  · rw [if_pos hinitialized, processMessage]
    cases message.source with
    | none => exact ⟨rfl, rfl⟩
    | some source =>
      dsimp only
      by_cases hconcerns : interface.concerns env message = true
      · rw [if_pos hconcerns]
        exact ⟨rfl, rfl⟩
      · rw [if_neg hconcerns]
        exact ⟨rfl, rfl⟩
  · rw [if_neg hinitialized]
    exact ⟨rfl, rfl⟩

theorem Flowing.deliver (h : Flowing pair link) (party : Party) (arrival : SwitchArrival) :
    Flowing pair (step pair link (.deliver party arrival)).1 := by
  rw [step]
  cases hinbox : link.inbox party with
  | nil => exact h
  | cons data rest =>
    refine ⟨fun party' => ?_, fun party' hsilent => ?_⟩
    all_goals dsimp only at *
    · by_cases heq : party' = party
      · subst heq
        rw [Function.update_self, Function.update_of_ne party'.other_ne, Function.update_self]
        obtain ⟨first, hcounts, -⟩ := h.flows party'
        rw [hinbox] at hcounts
        obtain ⟨hlength, hfirst, hrest⟩ := hcounts
        refine ⟨first + 1, hrest, fun isb hlookup => ?_⟩
        cases hinitialized : (link.interface party').initialized with
        | true =>
          rw [processRxMessage_arriving pair hinitialized hlength] at hlookup
          change (KeyedTable.set _ _ _).lookup _ = some isb at hlookup
          rw [KeyedTable.lookup_set_self] at hlookup
          cases hlookup
          exact congrArg (· + 1) hfirst
        | false =>
          rw [processRxMessage, hinitialized, if_neg Bool.false_ne_true,
            h.silent party' hinitialized] at hlookup
          cases hlookup
      · obtain rfl := Party.eq_other_of_ne heq
        rw [Function.update_of_ne heq, Function.update_of_ne heq, Party.other_other,
          Function.update_self, (processRxMessage_same _ _ _).1]
        have hflows := h.flows party.other
        rw [Party.other_other] at hflows
        exact hflows
    · by_cases heq : party' = party
      · subst heq
        rw [Function.update_self] at hsilent ⊢
        rw [(processRxMessage_same _ _ _).2] at hsilent
        rw [processRxMessage, hsilent, if_neg Bool.false_ne_true]
        exact h.silent party' hsilent
      · rw [Function.update_of_ne heq] at hsilent ⊢
        exact h.silent party' hsilent

theorem flowing_step (h : Flowing pair link) (call : PairCall) :
    Flowing pair (step pair link call).1 := by
  cases call with
  | initializeInterface party =>
    exact h.replace pair party rfl rfl fun hfalse => absurd hfalse.symm Bool.false_ne_true
  | setStopAllImplementOperationsState party newState =>
    obtain ⟨hnumber, hlist, hinitialized⟩ :=
      setStopAllImplementOperationsState_same (link.interface party) newState
    exact h.replace pair party hnumber hlist (hinitialized.symm.trans ·)
  | update party now send => exact h.update pair party now send
  | deliver party arrival => exact h.deliver pair party arrival

theorem flowing_start : Flowing pair (start pair) where
  flows _ := ⟨0, rfl, fun _ hnone => by cases hnone⟩
  silent _ _ := rfl

theorem heardInTime_run (calls : List PairCall) :
    (buttonLink pair).Along (HeardInTime pair) (start pair) calls ↔
      ∀ event ∈ (buttonLink pair).outputs (start pair) calls, NotMissed event :=
  (buttonLink pair).along_iff_outputs (fun _ call h (_ : True) => flowing_step pair h call)
    (fun _ call h _ => heardInTime_iff pair h call) (flowing_start pair) calls
    fun _ _ => trivial

end ButtonLink

/-- Along every orderly run the state is right after each message and each prune, and every change
is dispatched once. Of two interfaces, one misses a transition of the other exactly if it hears it
late. -/
theorem stopAll_along {calls : List ListenerCall} (internalControlFunction : CFRef)
    (serverEnabled : Bool) (time : Nat)
    (horderly : listening.Along Listener.Orderly
      (.start (.construct internalControlFunction serverEnabled) time) calls)
    (pair : ButtonPair) (pairCalls : List PairCall) :
    listening.Along Listener.Serves
        (.start (.construct internalControlFunction serverEnabled) time) calls ∧
      ((buttonLink pair).Along (ButtonLink.HeardInTime pair) (.start pair) pairCalls ↔
        ∀ event ∈ (buttonLink pair).outputs (.start pair) pairCalls, NotMissed event) :=
  ⟨Listener.serves_run (Listener.tracks_start _ _ rfl) horderly,
    ButtonLink.heardInTime_run pair pairCalls⟩

/-- Control functions whose NAMEs are their numbers. -/
def numberedWorld : World := fun c => ⟨.external, UInt64.ofNat c, 0x80, 0⟩

def switchMessage (count : UInt8) (state : StopAllImplementOperationsState) : CANMessage where
  identifier := ⟨0x0CFD0280⟩
  data := [0xFF, 0xFF, 0xFF, 0xFF, 0xFF, 0xFF, count, 0xFC ||| state.toByte]
  source := some 7
  destination := none
  canPortIndex := 0
  timestampUs := 0

def buttonPair : ButtonPair where
  world _ := numberedWorld
  own _ := 1
  peer _ := 2
  serverEnabled party := party = .server

def switchArrival : SwitchArrival := ⟨1000, switchMessage 0 .notAvailable, by decide⟩

theorem Listener.not_stops {listener : Listener}
    (h : ∀ isb ∈ listener.interface.isobusShortcutButtonList.entries,
      isb.2.commandedState ≠ .stopImplementOperations) (server : NAME) (isb : ISBServerData) :
    ¬listener.Stops server isb :=
  fun hstops => h (server, isb) (KeyedTable.mem_of_lookup hstops.1) hstops.2

def permitCalls : List ListenerCall :=
  [.initializeInterface,
    .receive numberedWorld (switchMessage 1 .permitAllImplementsToOperationOn), .wait 5000,
    .update numberedWorld fun _ => true]

theorem stopAll_along_permit :
    listening.Along Listener.Serves (.start (.construct 1 false) 0) permitCalls := by
  have horderly : listening.Along Listener.Orderly (.start (.construct 1 false) 0) permitCalls := by
    refine ⟨trivial, ?_, trivial, ?_, trivial⟩
    · intro server _
      have hfollows : Listener.Follows 0 1 := by
        unfold Listener.Follows
        decide
      exact ⟨.inr hfollows, fun other isb _ hstops =>
        absurd hstops (Listener.not_stops (by decide) other isb)⟩
    · intro _
      have hnone : ∀ server isb, ¬(listening.run (.start (.construct 1 false) 0)
          [.initializeInterface,
            .receive numberedWorld (switchMessage 1 .permitAllImplementsToOperationOn),
            .wait 5000]).Stops server isb := Listener.not_stops (by decide)
      refine ⟨fun server isb hstops => absurd hstops (hnone server isb), ?_⟩
      rintro ⟨server, isb, hstops, -⟩
      exact absurd hstops (hnone server isb)
  exact (stopAll_along 1 false 0 horderly buttonPair []).1

/-- A client that joins late reports a stop that nobody asked for, and misses a transition. -/
theorem lateClient_reports_stop :
    ¬listening.Along Listener.Serves (.start (.construct 1 false) 0)
        [.initializeInterface,
          .receive numberedWorld (switchMessage 5 .permitAllImplementsToOperationOn)] ∧
      ¬∀ event ∈ (buttonLink buttonPair).outputs (.start buttonPair)
        [.update .server 1000 fun _ => true, .update .server 1000 fun _ => true,
          .update .server 1000 fun _ => true, .deliver .client switchArrival,
          .deliver .client switchArrival, .initializeInterface .client,
          .deliver .client switchArrival], NotMissed event := by
  constructor
  · rintro ⟨-, ⟨-, hreports⟩, -⟩
    have hhears : (listening.next (.start (.construct 1 false) 0) .initializeInterface).hears
        numberedWorld (switchMessage 5 .permitAllImplementsToOperationOn) = some 7 := by decide
    have hreport := (hreports fun hnone => by rw [hhears] at hnone; cases hnone).mp (by decide)
    rcases hreport with hcommanded | ⟨server, t, hlast, -⟩
    · cases hcommanded
    · rw [Listener.heard_receive hhears] at hlast
      split_ifs at hlast
      · exact absurd (Prod.mk.inj (Option.some.inj hlast)).2 (by decide)
      · cases hlast
  · intro h
    have hmissed : ButtonEvent.missedTransition 2 ∈ (buttonLink buttonPair).outputs
        (.start buttonPair) [.update .server 1000 fun _ => true,
          .update .server 1000 fun _ => true, .update .server 1000 fun _ => true,
          .deliver .client switchArrival, .deliver .client switchArrival,
          .initializeInterface .client, .deliver .client switchArrival] := by decide
    exact h _ hmissed

end Isobus.ShortcutButton
