import Isobus.TaskController.Clients
import Isobus.Lib.Fold

namespace Isobus.TaskController

open Isobus.Can Isobus.Lib TaskControllerServer

abbrev Identity := NAME × UInt8

/-- One call of the server some milliseconds behind the last one. -/
structure Moment (identity : CFRef → Identity) where
  elapsed : Nat
  world : World
  keeps : ∀ c, ((world c).controlFunctionNAME, (world c).canPortIndex) = identity c
  send : TransmitFrame → Bool
  application : Nat → Application
  call : ServerCall

/-- When a client announced itself or sent its status last, and the same for every object. -/
structure Heard where
  byClient : Identity → Option Nat
  byObject : CFRef → Option Nat

/-- A server, what it was told so far, and the time that the 32-bit clock shows modulo its
range. -/
structure Watched where
  time : Nat
  server : TaskControllerServer
  heard : Heard

variable {identity : CFRef → Identity}

def Moment.env (moment : Moment identity) (time : Nat) : ServerEnvironment where
  now := UInt32.ofNat time
  world := moment.world
  send := moment.send
  application := moment.application

def Heard.note (identity : CFRef → Identity) (time : Nat) (c : CFRef) (heard : Heard) : Heard where
  byClient := Function.update heard.byClient (identity c) (some time)
  byObject := Function.update heard.byObject c (some time)

def noteMessage (moment : Moment identity) (time : Nat) (state : List Tracked × Heard)
    (message : CANMessage) : List Tracked × Heard :=
  (trackMessage (moment.env time) state.1 message,
    if isClientTask message || isAccepted moment.world state.1 message then
      match message.source with
      | some c => state.2.note identity time c
      | none => state.2
    else state.2)

def Watched.worked (watched : Watched) (moment : Moment identity) : List Tracked × Heard :=
  watched.server.rxMessageQueue.foldl (noteMessage moment (watched.time + moment.elapsed))
    (watched.server.tracked, watched.heard)

variable (config : ServerConfiguration)

def Watched.outcome (watched : Watched) (moment : Moment identity) : Outcome :=
  watched.server.serve config ⟨moment.env (watched.time + moment.elapsed), moment.call⟩

/-- The server as a machine that is watched; nothing is left of it behind an aborted call. -/
def watchedServer (identity : CFRef → Identity) :
    Machine (Option Watched) (Moment identity) ServerEvent where
  step
    | none, _ => (none, [])
    | some watched, moment =>
      match watched.outcome config moment with
      | none => (none, [])
      | some r =>
        (some
          { time := watched.time + moment.elapsed
            server := r.1
            heard := match moment.call with
              | .update => (watched.worked moment).2
              | _ => watched.heard }, r.2)

def Watched.start : Option Watched := some ⟨0, {}, ⟨fun _ => none, fun _ => none⟩⟩

def objects (clients : List Tracked) : List CFRef := clients.filterMap Prod.fst

/-- An update keeps every client that was heard in the last 6000 ms, and every client that
it removes was not. -/
def Just : Option Watched → Moment identity → Prop
  | some watched, moment => moment.call = .update →
      ∀ r, watched.outcome config moment = some r →
        (∀ k ∈ (objects watched.server.tracked).map identity, ∀ time,
          (watched.worked moment).2.byClient k = some time →
          watched.time + moment.elapsed < time + 6000 →
            k ∈ (objects r.1.tracked).map identity) ∧
        ∀ c ∈ objects watched.server.tracked, c ∉ objects r.1.tracked → ∀ time,
          (watched.worked moment).2.byClient (identity c) = some time →
            time + 6000 ≤ watched.time + moment.elapsed
  | none, _ => True

/-- A client whose object was not heard for 6000 ms was not heard in another one either. -/
def Attributed : Option Watched → Moment identity → Prop
  | some watched, moment => moment.call = .update → watched.outcome config moment ≠ none →
      ∀ c ∈ objects watched.server.tracked, ∀ own time,
        (watched.worked moment).2.byObject c = some own →
        (watched.worked moment).2.byClient (identity c) = some time →
        6000 ≤ (watched.time + moment.elapsed - own) % 2 ^ 32 →
          time + 6000 ≤ watched.time + moment.elapsed
  | none, _ => True

def Stamped (time : Nat) (clients : List Tracked) (heard : Heard) : Prop :=
  ∀ c timestamp, (some c, timestamp) ∈ clients →
    ∃ own, heard.byObject c = some own ∧ own ≤ time ∧ timestamp = UInt32.ofNat own

variable {config} {time : Nat} {clients : List Tracked} {heard : Heard}
variable {moment : Moment identity} {message : CANMessage} {watched : Watched}

theorem Stamped.mono {later : Nat} (h : Stamped time clients heard) (hle : time ≤ later) :
    Stamped later clients heard := by
  intro c timestamp hmem
  obtain ⟨own, hown, hbefore, htimestamp⟩ := h c timestamp hmem
  exact ⟨own, hown, hbefore.trans hle, htimestamp⟩

theorem sameClient_iff (a b : CFRef) :
    sameClient moment.world (some a) (some b) = true ↔ identity a = identity b := by
  rw [← moment.keeps a, ← moment.keeps b]
  simp [sameClient]

theorem Stamped.note_of_ne (h : Stamped time clients heard) {d : CFRef}
    (hd : ∀ timestamp, (some d, timestamp) ∉ clients) :
    Stamped time clients (heard.note identity time d) := by
  intro c timestamp hmem
  obtain ⟨own, hown, hbefore, htimestamp⟩ := h c timestamp hmem
  refine ⟨own, ?_, hbefore, htimestamp⟩
  have hne : c ≠ d := fun heq => hd timestamp (heq ▸ hmem)
  exact (Function.update_of_ne hne _ _).trans hown

theorem Stamped.map_heardAt (h : Stamped time clients heard) (d : CFRef) :
    Stamped time (clients.map (heardAt (UInt32.ofNat time) (some d)))
      (heard.note identity time d) := by
  intro c timestamp hmem
  obtain ⟨⟨object, earlier⟩, hentry, heq⟩ := List.mem_map.mp hmem
  by_cases hd : object = some d
  · rw [heardAt, if_pos hd, Prod.mk.injEq, hd, Option.some.injEq] at heq
    obtain ⟨rfl, rfl⟩ := heq
    exact ⟨time, Function.update_self .., le_rfl, rfl⟩
  · rw [heardAt, if_neg hd, Prod.mk.injEq] at heq
    obtain ⟨rfl, rfl⟩ := heq
    obtain ⟨own, hown, hbefore, htimestamp⟩ := h c earlier hentry
    have hne : c ≠ d := fun heq => hd (congrArg some heq)
    exact ⟨own, (Function.update_of_ne hne _ _).trans hown, hbefore, htimestamp⟩

theorem Stamped.map_heardAt_none (h : Stamped time clients heard) (now : UInt32) :
    Stamped time (clients.map (heardAt now none)) heard := by
  intro c timestamp hmem
  obtain ⟨⟨object, earlier⟩, hmem, heq⟩ := List.mem_map.mp hmem
  by_cases hnone : object = none
  · rw [heardAt, if_pos hnone, hnone] at heq
    exact absurd (congrArg Prod.fst heq) (by simp)
  · rw [heardAt, if_neg hnone] at heq
    exact h c timestamp (heq ▸ hmem)

theorem stamped_append (h : Stamped time clients heard) {object : Option CFRef} {now : UInt32}
    (hnew : ∀ c, object = some c →
      ∃ own, heard.byObject c = some own ∧ own ≤ time ∧ now = UInt32.ofNat own) :
    Stamped time (clients ++ [(object, now)]) heard := by
  intro c timestamp hmem
  rcases List.mem_append.mp hmem with hmem | hmem
  · exact h c timestamp hmem
  · rw [List.mem_singleton, Prod.mk.injEq] at hmem
    obtain ⟨hobject, rfl⟩ := hmem
    exact hnew c hobject.symm

theorem not_mem_of_not_isKnown {d : CFRef}
    (h : isKnown moment.world clients (some d) = false) (timestamp : UInt32) :
    (some d, timestamp) ∉ clients := by
  intro hmem
  rw [isKnown, List.any_eq_false] at h
  exact h _ hmem ((sameClient_iff d d).mpr rfl)

theorem stamped_noteMessage (state : List Tracked × Heard) (h : Stamped time state.1 state.2) :
    Stamped time (noteMessage moment time state message).1
      (noteMessage moment time state message).2 := by
  obtain ⟨clients, heard⟩ := state
  unfold noteMessage trackMessage
  dsimp only
  by_cases htask : isClientTask message = true
  · rw [if_pos htask, if_pos (by rw [htask]; rfl)]
    cases message.source with
    | none => exact h.map_heardAt_none _
    | some d => exact h.map_heardAt d
  · rw [if_neg htask]
    by_cases haccepted : isAccepted moment.world clients message = true
    · have haccepted' : isAccepted (moment.env time).world clients message = true := haccepted
      rw [if_pos haccepted', if_pos (by rw [haccepted, Bool.or_true])]
      rw [isAccepted, Bool.and_eq_true, Bool.not_eq_true'] at haccepted
      cases hsource : message.source with
      | none => exact stamped_append h fun c hc => by simp at hc
      | some d =>
        rw [hsource] at haccepted
        refine stamped_append (h.note_of_ne (not_mem_of_not_isKnown haccepted.2)) ?_
        rintro c hc
        cases hc
        exact ⟨time, Function.update_self .., le_rfl, rfl⟩
    · have haccepted' : ¬isAccepted (moment.env time).world clients message = true := haccepted
      rw [Bool.not_eq_true] at htask haccepted
      rw [if_neg haccepted', if_neg (by rw [htask, haccepted]; decide)]
      exact h

theorem worked_fst (watched : Watched) (moment : Moment identity) :
    (watched.worked moment).1 = watched.server.rxMessageQueue.foldl
      (trackMessage (moment.env (watched.time + moment.elapsed))) watched.server.tracked := by
  unfold Watched.worked
  generalize watched.server.tracked = clients
  generalize watched.heard = heard
  induction watched.server.rxMessageQueue generalizing clients heard with
  | nil => rfl
  | cons message rest ih => exact ih _ _

theorem stamped_worked (moment : Moment identity)
    (h : Stamped watched.time watched.server.tracked watched.heard) :
    Stamped (watched.time + moment.elapsed) (watched.worked moment).1
      (watched.worked moment).2 :=
  foldl_invariant (P := fun state => Stamped (watched.time + moment.elapsed) state.1 state.2)
    (fun state _ _ => stamped_noteMessage state) (h.mono (Nat.le_add_right _ _))

variable {c : CFRef}

theorem mem_objects :
    c ∈ objects clients ↔ ∃ timestamp, (some c, timestamp) ∈ clients := by
  simp only [objects, List.mem_filterMap, Prod.exists]
  constructor
  · rintro ⟨object, timestamp, hmem, rfl⟩
    exact ⟨timestamp, hmem⟩
  · rintro ⟨timestamp, hmem⟩
    exact ⟨some c, timestamp, hmem, rfl⟩

theorem mem_objects_trackMessage {env : ServerEnvironment} (h : c ∈ objects clients) :
    c ∈ objects (trackMessage env clients message) := by
  obtain ⟨timestamp, hmem⟩ := mem_objects.mp h
  unfold trackMessage
  split_ifs
  · refine mem_objects.mpr ⟨(heardAt env.now message.source (some c, timestamp)).2, ?_⟩
    refine List.mem_map.mpr ⟨_, hmem, Prod.ext ?_ rfl⟩
    unfold heardAt
    split_ifs <;> rfl
  · exact mem_objects.mpr ⟨timestamp, List.mem_append_left _ hmem⟩
  · exact h

theorem mem_objects_worked (moment : Moment identity) (h : c ∈ objects watched.server.tracked) :
    c ∈ objects (watched.worked moment).1 := by
  rw [worked_fst]
  exact foldl_invariant (P := fun clients => c ∈ objects clients)
    (fun _ _ _ => mem_objects_trackMessage) h

theorem isTimedOut_iff {own : Nat} (c : CFRef) (h : own ≤ time) :
    isTimedOut (UInt32.ofNat time) (some c, UInt32.ofNat own) = true ↔
      6000 ≤ (time - own) % 2 ^ 32 := by
  have hsub : UInt32.ofNat time - UInt32.ofNat own = UInt32.ofNat (time - own) :=
    (UInt32.ofNat_sub h).symm
  have hlimit : CLIENT_TASK_TIMEOUT_MS.toNat = 6000 := rfl
  rw [isTimedOut, decide_eq_true_iff, hsub, ge_iff_le, UInt32.le_iff_toNat_le,
    UInt32.toNat_ofNat', hlimit]

theorem not_mem_objects_update {r : TaskControllerServer × List ServerEvent}
    (hcall : moment.call = .update) (hr : watched.outcome config moment = some r)
    (h : Stamped watched.time watched.server.tracked watched.heard) {own : Nat}
    (hc : c ∈ objects watched.server.tracked)
    (hown : (watched.worked moment).2.byObject c = some own) :
    c ∉ objects r.1.tracked ↔ 6000 ≤ (watched.time + moment.elapsed - own) % 2 ^ 32 := by
  have hstamped := stamped_worked moment h
  have hupdate : r.1.tracked = (watched.worked moment).1.filter fun entry =>
      !isTimedOut (UInt32.ofNat (watched.time + moment.elapsed)) entry := by
    have hr : watched.server.update config
        (moment.env (watched.time + moment.elapsed)) = some r := by
      rw [← hr, Watched.outcome, hcall]
      rfl
    rw [tracked_update hr, worked_fst]
    rfl
  have htimed : ∀ timestamp, (some c, timestamp) ∈ (watched.worked moment).1 →
      (isTimedOut (UInt32.ofNat (watched.time + moment.elapsed)) (some c, timestamp) = true ↔
        6000 ≤ (watched.time + moment.elapsed - own) % 2 ^ 32) := by
    intro timestamp hmem
    obtain ⟨own', hown', hbefore, rfl⟩ := hstamped c timestamp hmem
    obtain rfl := Option.some.inj (hown.symm.trans hown')
    exact isTimedOut_iff c hbefore
  obtain ⟨timestamp, hmem⟩ := mem_objects.mp (mem_objects_worked moment hc)
  rw [hupdate, ← htimed timestamp hmem, mem_objects, not_exists]
  constructor
  · intro hgone
    by_contra halive
    exact hgone timestamp (List.mem_filter.mpr ⟨hmem, by simpa using halive⟩)
  · intro hexpired timestamp' hmem'
    obtain ⟨hmem', halive⟩ := List.mem_filter.mp hmem'
    rw [(htimed timestamp' hmem').mpr ((htimed timestamp hmem).mp hexpired)] at halive
    simp at halive

def Sound (state : Option Watched) : Prop :=
  ∀ watched, state = some watched → Stamped watched.time watched.server.tracked watched.heard

theorem sound_start : Sound Watched.start := by
  rintro watched h c timestamp hmem
  cases h
  simp [tracked] at hmem

theorem sound_next (state : Option Watched) (moment : Moment identity) (h : Sound state) :
    Sound ((watchedServer config identity).next state moment) := by
  cases state with
  | none => exact nofun
  | some watched =>
    intro watched' hwatched'
    have hstamped := h watched rfl
    have hmono := hstamped.mono (Nat.le_add_right watched.time moment.elapsed)
    unfold Machine.next watchedServer at hwatched'
    dsimp only at hwatched'
    cases hr : watched.outcome config moment with
    | none => simp [hr] at hwatched'
    | some r =>
      rw [hr] at hwatched'
      dsimp only at hwatched'
      rw [← Option.some.inj hwatched']
      rw [Watched.outcome] at hr
      cases hcall : moment.call with
      | update =>
        rw [hcall] at hr
        have htracked := tracked_update (r := r) hr
        intro c timestamp hmem
        dsimp only at hmem
        rw [htracked, ← worked_fst] at hmem
        exact stamped_worked moment hstamped c timestamp (List.mem_filter.mp hmem).1
      | storeRxMessage message =>
        rw [hcall] at hr
        cases hr
        exact hmono
      | setTaskTotalsActive isTaskActive =>
        rw [hcall] at hr
        cases hr
        dsimp only
        rw [tracked_setTaskTotalsActive]
        exact hmono
      | setCommandBusy isBusy clientAddress commandByte =>
        rw [hcall] at hr
        cases hr
        dsimp only
        rw [tracked_setCommandBusy]
        exact hmono

theorem just_iff_attributed (state : Option Watched) (moment : Moment identity)
    (h : Sound state) : Just config state moment ↔
        Attributed config state moment := by
  cases state with
  | none => exact Iff.rfl
  | some watched =>
    have hstamped := h watched rfl
    constructor
    · intro hjust hcall hr c hc own time hown htime hexpired
      obtain ⟨r, hr⟩ := Option.ne_none_iff_exists'.mp hr
      have hgone := (not_mem_objects_update hcall hr hstamped hc hown).mpr hexpired
      exact (hjust hcall r hr).2 c hc hgone time htime
    · intro hattributed hcall r hr
      have hremoved : ∀ c ∈ objects watched.server.tracked, c ∉ objects r.1.tracked →
          ∀ time, (watched.worked moment).2.byClient (identity c) = some time →
            time + 6000 ≤ watched.time + moment.elapsed := by
        intro c hc hgone time htime
        obtain ⟨timestamp, hmem⟩ := mem_objects.mp (mem_objects_worked moment hc)
        obtain ⟨own, hown, -, -⟩ := stamped_worked moment hstamped c timestamp hmem
        exact hattributed hcall (by simp [hr]) c hc own time hown htime
          ((not_mem_objects_update hcall hr hstamped hc hown).mp hgone)
      refine ⟨fun k hk time htime halive => ?_, hremoved⟩
      obtain ⟨c, hc, rfl⟩ := List.mem_map.mp hk
      refine List.mem_map_of_mem ?_
      by_contra hgone
      have hsilent := hremoved c hc hgone time htime
      omega

/-- No client that is heard is removed, and none that is removed was heard, exactly if none is heard
in another object while its own is silent. -/
theorem just_along_iff (config : ServerConfiguration) (identity : CFRef → Identity)
    (moments : List (Moment identity)) :
    (watchedServer config identity).Along (Just config) Watched.start moments ↔
      (watchedServer config identity).Along (Attributed config) Watched.start
        moments :=
  (watchedServer config identity).along_congr (P := Sound)
    (fun state moment h _ => sound_next state moment h)
    (fun state moment h _ => just_iff_attributed state moment h) sound_start moments
    ((watchedServer config identity).along_of_forall (fun _ _ => trivial) _ _)

def oneClient : CFRef → Identity := fun _ => (5, 0)

def quietApplication : Application where
  activateObjectPool _ := (true, 0, 0, 0, 0)
  changeDesignator _ _ _ := true
  deactivateObjectPool _ := true
  deleteDeviceDescriptorObjectPool _ := (true, 0)
  getIsStoredByStructureLabel _ _ _ := false
  getIsStoredByLocalizationLabel _ _ := false
  getIsEnoughMemoryAvailable _ := true
  onValueCommand _ _ _ _ := (true, 0)
  storeDeviceDescriptorObjectPool _ _ _ := true
  onValueCommand_error _ _ _ _ h := absurd h (by decide)

def momentAt (elapsed : Nat) (call : ServerCall) : Moment oneClient where
  elapsed := elapsed
  world _ := ⟨.external, 5, 0x80, 0⟩
  keeps _ := rfl
  send _ := true
  application _ := quietApplication
  call := call

def receive (elapsed : Nat) (source : CFRef) (identifier : UInt32) (first : UInt8) :
    Moment oneClient :=
  momentAt elapsed (.storeRxMessage
    ⟨⟨identifier⟩, [first, 0xFF, 0xFF, 0xFF, 0, 0, 0, 0], some source, none, 0, 0⟩)

/-- A client announces itself; then it is another object, in which it sends its status every two
seconds. -/
def movedClient : List (Moment oneClient) :=
  [receive 0 0 0x9CFE0D80 1, momentAt 0 .update, receive 2000 1 0x8CCBFF80 0xFF, momentAt 0 .update,
    receive 2000 1 0x8CCBFF80 0xFF, momentAt 0 .update, receive 2000 1 0x8CCBFF80 0xFF,
    momentAt 0 .update]

def plainServer : ServerConfiguration := ⟨7, 4, 0, 0, 0, 0⟩

theorem movedClient_not_just :
    ¬(watchedServer plainServer oneClient).Along (Just plainServer) Watched.start movedClient := by
  rintro ⟨-, -, -, -, -, -, -, hjust, -⟩
  have hkept := (hjust rfl _ rfl).1 (5, 0) (by decide +kernel) 6000 (by decide +kernel)
    (by decide +kernel)
  revert hkept
  decide +kernel

end Isobus.TaskController
