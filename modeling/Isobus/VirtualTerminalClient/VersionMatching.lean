import Isobus.Lib.Machine
import Mathlib.Data.List.TakeWhile
import Isobus.VirtualTerminalClient.VersionLabels

/-!
# Labels that match

The labels that a terminal lists, compared with the one that a client stores its pools under: which
of them are deleted, and whether the stored pools are loaded.
-/

namespace Isobus.VirtualTerminalClient

open Isobus.Can Isobus.Lib Isobus.VirtualTerminal

theorem tempActualLabel_eq (versionLabel : List UInt8) :
    tempActualLabel versionLabel = tempVersionBuffer versionLabel := by
  rw [tempActualLabel, tempVersionBuffer, List.take_append, List.take_replicate, min_self]

theorem length_tempVersionBuffer (versionLabel : List UInt8) :
    (tempVersionBuffer versionLabel).length = VERSION_LABEL_LENGTH := by
  rw [tempVersionBuffer, List.length_append, List.length_take, List.length_replicate]
  omega

theorem length_labelAt (message : CANMessage) (i : Nat) :
    (labelAt message i).length = VERSION_LABEL_LENGTH := by
  rw [labelAt, List.length_map, List.length_range]

variable {label : List UInt8}

theorem eq_labelDecoded_iff {own : List UInt8} (hlength : own.length = label.length) :
    own = labelDecoded label ↔ label = own ∧ 0 ∉ own := by
  have hzero (labels : List UInt8) : labelDecoded labels = labels ↔ 0 ∉ labels := by
    rw [labelDecoded, List.takeWhile_eq_self_iff]
    constructor
    · intro hall hmem
      exact of_decide_eq_true (hall 0 hmem) rfl
    · intro hnot byte hmem
      exact decide_eq_true fun hbyte => hnot (hbyte ▸ hmem)
  constructor
  · intro heq
    have hwhole : labelDecoded label = label :=
      (List.takeWhile_prefix _).eq_of_length ((congrArg List.length heq).symm.trans hlength)
    rw [heq, hwhole]
    exact ⟨rfl, (hzero label).mp hwhole⟩
  · rintro ⟨rfl, hnot⟩
    exact ((hzero label).mpr hnot).symm

theorem le_length_labelDecoded_iff {n : Nat} (h : n ≤ label.length) :
    n ≤ (labelDecoded label).length ↔ 0 ∉ label.take n := by
  induction n generalizing label with
  | zero => exact iff_of_true (Nat.zero_le _) List.not_mem_nil
  | succ n ih =>
    cases label with
    | nil => exact absurd h (Nat.not_succ_le_zero n)
    | cons byte label =>
      rw [List.take_succ_cons, List.mem_cons, not_or, labelDecoded, List.takeWhile_cons]
      split_ifs with hbyte
      · have hne : (0 : UInt8) ≠ byte := (of_decide_eq_true hbyte).symm
        rw [List.length_cons, Nat.succ_le_succ_iff, and_iff_right hne]
        exact ih (Nat.le_of_succ_le_succ h)
      · have heq : 0 = byte := (not_not.mp fun hne => hbyte (decide_eq_true hne)).symm
        exact iff_of_false (Nat.not_succ_le_zero n) fun hand => hand.1 heq

theorem take_labelDecoded {n : Nat} (hlength : label.length = n + 1) (h : 0 ∉ label.take n) :
    (labelDecoded label ++ [0]).take (n + 1) = label := by
  induction n generalizing label with
  | zero =>
    obtain ⟨byte, rfl⟩ := List.length_eq_one_iff.mp hlength
    rw [labelDecoded, List.takeWhile_cons]
    split_ifs with hbyte
    · rfl
    · have heq : byte = 0 := not_not.mp fun hne => hbyte (decide_eq_true hne)
      rw [heq]
      rfl
  | succ n ih =>
    cases label with
    | nil => exact absurd hlength (Nat.succ_ne_zero _).symm
    | cons byte label =>
      rw [List.take_succ_cons, List.mem_cons, not_or] at h
      have hbyte : decide (byte ≠ 0) = true := decide_eq_true (Ne.symm h.1)
      rw [labelDecoded, List.takeWhile_cons, if_pos hbyte, List.cons_append,
        List.take_succ_cons]
      exact congrArg (byte :: ·) (ih (Nat.succ_inj.mp hlength) h.2)

def Readable (label : List UInt8) : Prop := 0 ∉ label.take 6

instance decidableReadable (label : List UInt8) : Decidable (Readable label) :=
  inferInstanceAs (Decidable (¬_))

theorem deleteBuffer_labelDecoded (hlength : label.length = VERSION_LABEL_LENGTH) :
    deleteBuffer (labelDecoded label) = if Readable label then some label else none := by
  have hle : 6 ≤ label.length := by
    rw [hlength]
    decide
  have hiff : VERSION_LABEL_LENGTH ≤ (labelDecoded label).length + 1 ↔ Readable label :=
    Nat.succ_le_succ_iff.trans (le_length_labelDecoded_iff hle)
  rw [deleteBuffer]
  by_cases hreadable : Readable label
  · rw [if_pos (hiff.mpr hreadable), if_pos hreadable]
    exact congrArg some (take_labelDecoded hlength hreadable)
  · rw [if_neg (mt hiff.mp hreadable), if_neg hreadable]

def VersionEvent.labelOf? (function : UInt8) : VersionEvent → Option (List UInt8)
  | .frame sent _ => if sent.data.head? = some function then some sent.data.tail else none
  | .outOfBounds => none

def deletedLabels (events : List VersionEvent) : List (List UInt8) :=
  events.filterMap (VersionEvent.labelOf? DeleteVersionCommand)

def loadedLabels (events : List VersionEvent) : List (List UInt8) :=
  events.filterMap (VersionEvent.labelOf? LoadVersionCommand)

/-- The labels that a response lists, if it is long enough to list them. -/
def listedLabels (message : CANMessage) : List (List UInt8) :=
  let numberOfLabels := (message.getUint8At 1).toNat
  if message.data.length ≥ 2 + VERSION_LABEL_LENGTH * numberOfLabels then
    (List.range numberOfLabels).map (labelAt message)
  else []

namespace VersionClient

variable {env : Environment} {client : VersionClient}

/-- The label that a client stores its pools under, as it is sent. -/
def storedLabel (client : VersionClient) : List UInt8 := client.storeVersionFrame.data.tail

variable {labels : List (List UInt8)}

theorem searchLabels_eq (hlength : ∀ label ∈ labels, label.length = VERSION_LABEL_LENGTH) :
    client.searchLabels env labels =
      if client.storedLabel ∈ labels ∧ 0 ∉ client.storedLabel then
        (true, (labels.takeWhile (· ≠ client.storedLabel)).map (client.deleteLabel env))
      else (false, labels.map (client.deleteLabel env)) := by
  induction labels with
  | nil => exact (if_neg fun hand => List.not_mem_nil hand.1).symm
  | cons label labels ih =>
    have hmatch : tempActualLabel client.versionLabel = labelDecoded label ↔
        label = client.storedLabel ∧ 0 ∉ client.storedLabel := by
      rw [tempActualLabel_eq]
      exact eq_labelDecoded_iff ((length_tempVersionBuffer _).trans
        (hlength label List.mem_cons_self).symm)
    rw [searchLabels, ih fun label hmem => hlength label (List.mem_cons_of_mem _ hmem)]
    by_cases hsame : label = client.storedLabel
    · by_cases hzero : 0 ∉ client.storedLabel
      · rw [if_pos (hmatch.mpr ⟨hsame, hzero⟩),
          if_pos ⟨hsame ▸ List.mem_cons_self, hzero⟩, List.takeWhile_cons,
          if_neg (by simpa using hsame)]
        rfl
      · rw [if_neg (mt hmatch.mp fun hand => hzero hand.2), if_neg fun hand => hzero hand.2,
          if_neg fun hand => hzero hand.2]
        rfl
    · have hmem : client.storedLabel ∈ label :: labels ↔ client.storedLabel ∈ labels := by
        rw [List.mem_cons]
        exact or_iff_right (Ne.symm hsame)
      rw [if_neg (mt hmatch.mp fun hand => hsame hand.1), List.takeWhile_cons,
        if_pos (decide_eq_true hsame)]
      by_cases hfound : client.storedLabel ∈ labels ∧ 0 ∉ client.storedLabel
      · rw [if_pos hfound, if_pos ⟨hmem.mpr hfound.1, hfound.2⟩]
        rfl
      · rw [if_neg hfound, if_neg fun hand => hfound ⟨hmem.mp hand.1, hand.2⟩]
        rfl

def passedLabels (client : VersionClient) (labels : List (List UInt8)) : List (List UInt8) :=
  labels.takeWhile (· ≠ client.storedLabel)

theorem passedLabels_eq_self (h : client.storedLabel ∉ labels) :
    client.passedLabels labels = labels := by
  apply List.takeWhile_eq_self_iff.mpr
  intro label hmem
  exact decide_eq_true fun heq => h (heq ▸ hmem)

theorem mem_of_mem_passedLabels {label : List UInt8} (h : label ∈ client.passedLabels labels) :
    label ∈ labels ∧ label ≠ client.storedLabel := by
  have hne := List.mem_takeWhile_imp h
  exact ⟨List.takeWhile_subset _ h, of_decide_eq_true hne⟩

theorem deleteLabel_eq {label : List UInt8} (hlength : label.length = VERSION_LABEL_LENGTH) :
    client.deleteLabel env label =
      if Readable label then
        .frame (client.versionFrame DeleteVersionCommand label)
          (env.send (client.versionFrame DeleteVersionCommand label))
      else .outOfBounds := by
  rw [deleteLabel, deleteBuffer_labelDecoded hlength]
  split_ifs with hreadable
  · rfl
  · rfl

theorem deletedLabels_map_deleteLabel
    (hlength : ∀ label ∈ labels, label.length = VERSION_LABEL_LENGTH)
    (hreadable : ∀ label ∈ labels, Readable label) :
    deletedLabels (labels.map (client.deleteLabel env)) = labels := by
  induction labels with
  | nil => rfl
  | cons label labels ih =>
    rw [List.map_cons, deleteLabel_eq (hlength label List.mem_cons_self),
      if_pos (hreadable label List.mem_cons_self)]
    have hrest := ih (fun other hmem => hlength other (List.mem_cons_of_mem _ hmem))
      fun other hmem => hreadable other (List.mem_cons_of_mem _ hmem)
    have hfirst : VersionEvent.labelOf? DeleteVersionCommand
        (.frame (client.versionFrame DeleteVersionCommand label)
          (env.send (client.versionFrame DeleteVersionCommand label))) = some label := by
      rw [VersionEvent.labelOf?]
      exact if_pos rfl
    rw [deletedLabels, List.filterMap_cons_some hfirst]
    exact congrArg (label :: ·) hrest

theorem outOfBounds_mem_map_deleteLabel_iff
    (hlength : ∀ label ∈ labels, label.length = VERSION_LABEL_LENGTH) :
    .outOfBounds ∈ labels.map (client.deleteLabel env) ↔ ∃ label ∈ labels, ¬Readable label := by
  rw [List.mem_map]
  apply exists_congr
  intro label
  apply and_congr_right
  intro hmem
  rw [deleteLabel_eq (hlength label hmem)]
  by_cases hreadable : Readable label
  · rw [if_pos hreadable]
    exact iff_of_false (fun heq => VersionEvent.noConfusion heq) (not_not.mpr hreadable)
  · rw [if_neg hreadable]
    exact iff_of_true rfl hreadable

variable {message : CANMessage}

structure GetsVersions (client : VersionClient) (message : CANMessage) : Prop where
  state : client.state = .waitForGetVersionsResponse
  length : CAN_DATA_LENGTH ≤ message.data.length
  destination : message.destination = none ∨ message.destination = some client.myControlFunction
  group : message.identifier.getParameterGroupNumber = VirtualTerminalToECU
  function : message.getUint8At 0 = GetVersionsResponse

theorem length_of_mem_listedLabels {label : List UInt8} (h : label ∈ listedLabels message) :
    label.length = VERSION_LABEL_LENGTH := by
  simp only [listedLabels] at h
  split_ifs at h with hlength
  · obtain ⟨i, -, rfl⟩ := List.mem_map.mp h
    exact length_labelAt message i
  · exact absurd h List.not_mem_nil

theorem processRxMessage_eq (h : client.GetsVersions message) :
    client.processRxMessage env message = client.processGetVersionsResponse env message := by
  have hheard : CAN_DATA_LENGTH ≤ message.data.length ∧
      (message.destination = none ∨ message.destination = some client.myControlFunction) ∧
      message.identifier.getParameterGroupNumber = VirtualTerminalToECU :=
    ⟨h.length, h.destination, h.group⟩
  rw [processRxMessage, if_pos hheard, if_pos h.function]

theorem processRxMessage_of_listed (h : client.GetsVersions message)
    (hsome : listedLabels message ≠ []) :
    client.processRxMessage env message =
      (client.setState env
        (if (client.searchLabels env (listedLabels message)).1 then .sendLoadVersion
          else .uploadObjectPool),
        (client.searchLabels env (listedLabels message)).2) := by
  have hlist : message.data.length ≥
      2 + VERSION_LABEL_LENGTH * (message.getUint8At 1).toNat := by
    by_contra hshort
    exact hsome (if_neg hshort)
  have hlabels : listedLabels message =
      (List.range (message.getUint8At 1).toNat).map (labelAt message) := if_pos hlist
  have hpos : (message.getUint8At 1).toNat > 0 := by
    apply Nat.pos_of_ne_zero
    intro hzero
    rw [hlabels, hzero] at hsome
    exact hsome rfl
  rw [processRxMessage_eq h, processGetVersionsResponse, if_pos h.state, if_pos hpos,
    if_pos hlist, hlabels]

theorem processRxMessage_snd_of_nil (h : client.GetsVersions message)
    (hnone : listedLabels message = []) : (client.processRxMessage env message).2 = [] := by
  rw [processRxMessage_eq h, processGetVersionsResponse, if_pos h.state]
  by_cases hpos : (message.getUint8At 1).toNat > 0
  · rw [if_pos hpos]
    by_cases hlist : message.data.length ≥
        2 + VERSION_LABEL_LENGTH * (message.getUint8At 1).toNat
    · rw [listedLabels, if_pos hlist, List.map_eq_nil_iff, List.range_eq_nil] at hnone
      exact absurd hnone hpos.ne'
    · rw [if_neg hlist]
  · rw [if_neg hpos]

theorem searchLabels_of_found (hmem : client.storedLabel ∈ listedLabels message)
    (hzero : 0 ∉ client.storedLabel) :
    client.searchLabels env (listedLabels message) =
      (true, (client.passedLabels (listedLabels message)).map (client.deleteLabel env)) :=
  (searchLabels_eq fun _ hlabel => length_of_mem_listedLabels hlabel).trans
    (if_pos ⟨hmem, hzero⟩)

theorem searchLabels_of_not_found
    (h : ¬(client.storedLabel ∈ listedLabels message ∧ 0 ∉ client.storedLabel)) :
    client.searchLabels env (listedLabels message) =
      (false, (listedLabels message).map (client.deleteLabel env)) :=
  (searchLabels_eq fun _ hlabel => length_of_mem_listedLabels hlabel).trans (if_neg h)

theorem processRxMessage_snd (h : client.GetsVersions message)
    (hown : client.storedLabel ∈ listedLabels message → 0 ∉ client.storedLabel) :
    (client.processRxMessage env message).2 =
      (client.passedLabels (listedLabels message)).map (client.deleteLabel env) := by
  by_cases hnone : listedLabels message = []
  · rw [processRxMessage_snd_of_nil h hnone, hnone]
    rfl
  · rw [processRxMessage_of_listed h hnone]
    by_cases hmem : client.storedLabel ∈ listedLabels message
    · rw [searchLabels_of_found hmem (hown hmem)]
    · rw [searchLabels_of_not_found fun hand => hmem hand.1, passedLabels_eq_self hmem]

theorem processRxMessage_fst_of_found (h : client.GetsVersions message)
    (hmem : client.storedLabel ∈ listedLabels message) (hzero : 0 ∉ client.storedLabel) :
    (client.processRxMessage env message).1 = client.setState env .sendLoadVersion := by
  rw [processRxMessage_of_listed h (List.ne_nil_of_mem hmem), searchLabels_of_found hmem hzero]
  exact congrArg (client.setState env) (if_pos rfl)

theorem processRxMessage_fst_of_zero (h : client.GetsVersions message)
    (hmem : client.storedLabel ∈ listedLabels message) (hzero : 0 ∈ client.storedLabel) :
    (client.processRxMessage env message).1 = client.setState env .uploadObjectPool := by
  rw [processRxMessage_of_listed h (List.ne_nil_of_mem hmem),
    searchLabels_of_not_found fun hand => hand.2 hzero]
  exact congrArg (client.setState env) (if_neg Bool.false_ne_true)

end VersionClient

inductive VersionCall
  | update (env : Environment)
  | receive (env : Environment) (message : CANMessage)

def VersionCall.RefusesLoad : VersionCall → Prop
  | update _ => False
  | receive _ message =>
    message.getUint8At 0 = LoadVersionCommand ∧ message.getUint8At 5 ≠ 0

def versions : Machine VersionClient VersionCall VersionEvent where
  step client call :=
    match call with
    | .update env => client.update env
    | .receive env message => client.processRxMessage env message

namespace VersionClient

variable {env : Environment} {client : VersionClient} {message : CANMessage}

def Loads (client : VersionClient) : Prop :=
  client.state = .sendLoadVersion ∨ client.state = .waitForLoadVersionResponse ∨
    client.state = .connected ∨ client.state = .failed

theorem Loads.ne_upload (h : client.Loads) : client.state ≠ .uploadObjectPool := by
  intro hupload
  rw [Loads, hupload] at h
  exact absurd h (by decide)

theorem loads_failIfExpired (h : client.Loads) : (client.failIfExpired env).Loads := by
  rw [failIfExpired]
  split_ifs
  · exact .inr (.inr (.inr rfl))
  · exact h

theorem loads_update (h : client.Loads) : (client.update env).1.Loads := by
  obtain hstate | hstate | hstate | hstate := id h
  · simp only [update, hstate, sendAndWait]
    split_ifs
    · exact .inr (.inr (.inr rfl))
    · exact .inr (.inl rfl)
    · exact h
  · simp only [update, hstate]
    exact loads_failIfExpired h
  · simp only [update, hstate]
    exact h
  · simp only [update, hstate]
    exact h

theorem loads_processLoadVersionResponse (h : client.Loads) (herror : message.getUint8At 5 = 0) :
    (client.processLoadVersionResponse env message).Loads := by
  rw [processLoadVersionResponse, if_pos herror]
  split_ifs
  · exact .inr (.inr (.inl rfl))
  · exact h

theorem loads_processStoreVersionResponse (h : client.Loads) :
    (client.processStoreVersionResponse env message).Loads := by
  rw [processStoreVersionResponse]
  split_ifs
  · exact .inr (.inr (.inl rfl))
  · exact h

theorem processGetVersionsResponse_of_loads (h : client.Loads) :
    client.processGetVersionsResponse env message = (client, []) := by
  have hstate : client.state ≠ .waitForGetVersionsResponse := by
    intro hwaits
    rw [Loads, hwaits] at h
    exact absurd h (by decide)
  rw [processGetVersionsResponse, if_neg hstate]

theorem loads_processRxMessage (h : client.Loads)
    (hload : message.getUint8At 0 = LoadVersionCommand → message.getUint8At 5 = 0) :
    (client.processRxMessage env message).1.Loads := by
  simp only [processRxMessage]
  split_ifs with hheard hversions hloaded hstored
  · rw [processGetVersionsResponse_of_loads h]
    exact h
  · exact loads_processLoadVersionResponse h (hload hloaded)
  · exact loads_processStoreVersionResponse h
  · exact h
  · exact h

theorem loads_run (h : client.Loads) {calls : List VersionCall}
    (hcalls : ∀ call ∈ calls, ¬call.RefusesLoad) : (versions.run client calls).Loads := by
  apply versions.run_invariant_of_mem _ h calls hcalls
  intro client call hloads hanswer
  cases call with
  | update env => exact loads_update hloads
  | receive env message =>
    exact loads_processRxMessage hloads fun hfunction =>
      not_not.mp fun herror => hanswer ⟨hfunction, herror⟩

/-- The stored version is asked for in time, and unless it cannot be loaded, no object pool is
uploaded. -/
def LoadsStored (client : VersionClient) : Prop :=
  (∀ env : Environment, env.timeExpired client.stateMachineTimestamp VT_STATUS_TIMEOUT_MS = false →
    loadedLabels (client.update env).2 = [client.storedLabel]) ∧
  ∀ calls : List VersionCall, (∀ call ∈ calls, ¬call.RefusesLoad) →
    (versions.run client calls).state ≠ .uploadObjectPool

theorem update_sendLoadVersion (hstate : client.state = .sendLoadVersion)
    (htime : env.timeExpired client.stateMachineTimestamp VT_STATUS_TIMEOUT_MS = false) :
    (client.update env).2 =
      [.frame client.loadVersionFrame (env.send client.loadVersionFrame)] := by
  simp only [update, hstate, sendAndWait]
  rw [if_neg (Bool.eq_false_iff.mp htime)]

theorem loadsStored_setState : (client.setState env .sendLoadVersion).LoadsStored := by
  constructor
  · intro later htime
    rw [update_sendLoadVersion rfl htime]
    rfl
  · intro calls hcalls
    exact (loads_run (.inl rfl) hcalls).ne_upload

theorem not_loadsStored_setState : ¬(client.setState env .uploadObjectPool).LoadsStored := by
  intro h
  exact h.2 [] (fun _ hcall => absurd hcall List.not_mem_nil) rfl

/-- The pools are loaded if they are stored, only other labels are deleted, and nothing behind a
string is read. -/
def HandlesLabels (env : Environment) (client : VersionClient) (message : CANMessage) : Prop :=
  let received := client.processRxMessage env message
  (client.storedLabel ∈ listedLabels message →
    received.1.LoadsStored ∧ client.storedLabel ∉ deletedLabels received.2) ∧
  (∀ label ∈ deletedLabels received.2,
    label ∈ listedLabels message ∧ label ≠ client.storedLabel) ∧
  .outOfBounds ∉ received.2

/-- The own label can be compared, and the labels before it can be read. -/
def LabelsReadable (client : VersionClient) (message : CANMessage) : Prop :=
  (client.storedLabel ∈ listedLabels message → 0 ∉ client.storedLabel) ∧
  ∀ label ∈ client.passedLabels (listedLabels message), Readable label

theorem handlesLabels_iff (h : client.GetsVersions message) :
    client.HandlesLabels env message ↔ client.LabelsReadable message := by
  have hlength : ∀ label ∈ client.passedLabels (listedLabels message),
      label.length = VERSION_LABEL_LENGTH := fun label hmem =>
    length_of_mem_listedLabels (mem_of_mem_passedLabels hmem).1
  constructor
  · rintro ⟨hloads, -, hbounds⟩
    have hown : client.storedLabel ∈ listedLabels message → 0 ∉ client.storedLabel := by
      intro hmem hzero
      have hstored := (hloads hmem).1
      rw [processRxMessage_fst_of_zero h hmem hzero] at hstored
      exact not_loadsStored_setState hstored
    refine ⟨hown, fun label hmem => ?_⟩
    rw [processRxMessage_snd h hown, outOfBounds_mem_map_deleteLabel_iff hlength] at hbounds
    exact not_not.mp fun hnot => hbounds ⟨label, hmem, hnot⟩
  · rintro ⟨hown, hreadable⟩
    have hdeleted : deletedLabels (client.processRxMessage env message).2 =
        client.passedLabels (listedLabels message) := by
      rw [processRxMessage_snd h hown]
      exact deletedLabels_map_deleteLabel hlength hreadable
    refine ⟨fun hmem => ⟨?_, ?_⟩, ?_, ?_⟩
    · rw [processRxMessage_fst_of_found h hmem (hown hmem)]
      exact loadsStored_setState
    · rw [hdeleted]
      exact fun hmem' => (mem_of_mem_passedLabels hmem').2 rfl
    · rw [hdeleted]
      exact fun label hmem => mem_of_mem_passedLabels hmem
    · rw [processRxMessage_snd h hown, outOfBounds_mem_map_deleteLabel_iff hlength]
      rintro ⟨label, hmem, hnot⟩
      exact hnot (hreadable label hmem)

/-- A terminal with the label `B` and zeros behind it, and the label `A` of the client. -/
def versionsMessage : CANMessage where
  identifier := .ofFields .extended VirtualTerminalToECU 5 0x80 0x26
  data := [GetVersionsResponse, 2, 0x42, 0, 0, 0, 0, 0, 0, 0x41, 0x20, 0x20, 0x20, 0x20, 0x20, 0x20]
  source := some 1
  destination := some 0
  canPortIndex := 0
  timestampUs := 0

def waitingClient : VersionClient where
  myControlFunction := 0
  partnerControlFunction := 1
  versionLabel := [0x41]
  state := .waitForGetVersionsResponse

/-- The string `B` is read up to its seventh byte. -/
theorem zeroPadded_not_handled :
    ¬waitingClient.HandlesLabels ⟨0, fun _ => ⟨.internal, 0, 0x80, 0⟩, fun _ => true⟩
      versionsMessage := by
  rintro ⟨-, -, hbounds⟩
  exact hbounds (by decide +kernel)

theorem handlesLabels_iff_waitingClient :
    waitingClient.GetsVersions versionsMessage ∧
      (waitingClient.HandlesLabels ⟨0, fun _ => ⟨.internal, 0, 0x80, 0⟩, fun _ => true⟩
        versionsMessage ↔ waitingClient.LabelsReadable versionsMessage) :=
  have h : waitingClient.GetsVersions versionsMessage :=
    ⟨rfl, by decide, .inr rfl, by decide +kernel, rfl⟩
  ⟨h, handlesLabels_iff h⟩

end VersionClient

end Isobus.VirtualTerminalClient
