import Isobus.TaskClient.Triggers

/-!
# Triggers that watch a value

When a threshold or a change is to be reported, by what the application told about a value and
what was sent of it, and when the client does report it.
-/

namespace Isobus.TaskClient

open Isobus.Can Isobus.Lib Isobus.DeviceDescriptor Isobus.NetworkManager

/-- The value of the first callback that knows it; each is shown what the one before left. -/
def Application.suppliedValue (elementNumber ddi : UInt16) (value : Int32) :
    List (UInt16 → UInt16 → Int32 → Bool × Int32) → Option Int32
  | [] => none
  | callback :: callbacks =>
    if (callback elementNumber ddi value).1 then some (callback elementNumber ddi value).2
    else suppliedValue elementNumber ddi (callback elementNumber ddi value).2 callbacks

def Environment.supplied (env : Environment) (elementNumber ddi : UInt16) : Option Int32 :=
  Application.suppliedValue elementNumber ddi 0 env.application.requestValueCallbacks

/-- What an update learned about a value, and what it sent of it. -/
structure Look where
  supplied : Option Int32
  sent : Option Int32

/-- The last value that was sent, zero before the first. The looks stand from the last to the first.
-/
def lastSent : List Look → Int32
  | [] => 0
  | look :: past => look.sent.getD (lastSent past)

/-- Whether a value was sent since the value came back behind the threshold. -/
def sentSinceBack (back : Int32 → Int32 → Bool) (threshold : Int32) : List Look → Bool
  | [] => false
  | look :: past =>
    if look.supplied.any (back · threshold) then false
    else look.sent.isSome || sentSinceBack back threshold past

/-- Which values of a trigger are to be sent, by its threshold and its past. -/
abbrev Wanted := Int32 → List Look → Int32 → Bool

def wantedChange : Wanted := fun threshold past value =>
  value ≠ lastSent past ∧ threshold.toInt ≤ |value.toInt - (lastSent past).toInt|

def wantedThreshold (passed back : Int32 → Int32 → Bool) : Wanted := fun threshold past value =>
  passed value threshold && !sentSinceBack back threshold past

def wantedMaximum : Wanted := wantedThreshold (· > ·) (· < ·)

def wantedMinimum : Wanted := wantedThreshold (· < ·) (· > ·)

/-- A trigger as it was commanded, with all that happened since. -/
structure Watch where
  elementNumber : UInt16
  ddi : UInt16
  threshold : Int32
  past : List Look := []

section

variable (env : Environment) (wanted : Wanted)

def Watch.toSend (watch : Watch) : Option Int32 :=
  (env.supplied watch.elementNumber watch.ddi).filter (wanted watch.threshold watch.past)

def Watch.report (watch : Watch) (turn : Turn) : Watch × Turn :=
  let look (sent : Option Int32) : Look :=
    ⟨env.supplied watch.elementNumber watch.ddi, sent⟩
  match watch.toSend env wanted with
  | some value =>
    ({ watch with past := look (if turn.sent env then some value else none) :: watch.past },
      turn.offer env (turn.client.valueCommand watch.elementNumber watch.ddi value))
  | none => ({ watch with past := look none :: watch.past }, turn)

def reportAll (turn : Turn) : List Watch → List Watch × Turn
  | [] => ([], turn)
  | watch :: watches =>
    let first := watch.report env wanted turn
    let others := reportAll first.2 watches
    (first.1 :: others.1, others.2)

end

/-- A command alters the first trigger for the value, or adds a new one. A trigger that `restarts`
has no past. -/
def command (restarts : Bool) (elementNumber ddi : UInt16) (threshold : Int32) :
    List Watch → List Watch
  | [] => [{ elementNumber := elementNumber, ddi := ddi, threshold := threshold }]
  | watch :: watches =>
    if (watch.elementNumber, watch.ddi) = (elementNumber, ddi) then
      { watch with
        threshold := threshold
        past := if restarts then [] else watch.past } :: watches
    else watch :: command restarts elementNumber ddi threshold watches

/-- All triggers that watch a value. -/
structure Watches where
  maximum : List Watch := []
  minimum : List Watch := []
  change : List Watch := []

/-- The triggers of an update that watch a value, behind those that watch the time. -/
def Watches.report (env : Environment) (turn : Turn) (watches : Watches) : Watches × Turn :=
  let timed := turn.lookAt (Turn.lookAtTimeInterval env)
    turn.client.queues.measurementTimeIntervalCommands
  let maximal := reportAll env wantedMaximum timed.2 watches.maximum
  let minimal := reportAll env wantedMinimum maximal.2 watches.minimum
  let changed := reportAll env wantedChange minimal.2 watches.change
  (⟨maximal.1, minimal.1, changed.1⟩, changed.2)

inductive WatchedKind
  | maximum
  | minimum
  | change
  deriving DecidableEq

inductive WatchInput
  /-- The triggers are looked at. -/
  | update (env : Environment)
  | command (kind : WatchedKind) (elementNumber ddi : UInt16) (threshold : Int32)
  /-- Whatever else happens to the client. -/
  | meanwhile (other : TaskControllerClient)

namespace TaskControllerClient

variable (client : TaskControllerClient)

def commandTrigger (kind : WatchedKind) (info : ProcessDataCallbackInfo) : TaskControllerClient :=
  { client with
    queues := match kind with
      | .maximum => client.queues.addMeasurementMaximumThreshold info
      | .minimum => client.queues.addMeasurementMinimumThreshold info
      | .change => client.queues.addMeasurementChangeThreshold info }

def withTriggersOf (other : TaskControllerClient) : TaskControllerClient :=
  { other with
    queues := { other.queues with
      measurementMaximumThresholdCommands := client.queues.measurementMaximumThresholdCommands
      measurementMinimumThresholdCommands := client.queues.measurementMinimumThresholdCommands
      measurementOnChangeThresholdCommands :=
        client.queues.measurementOnChangeThresholdCommands } }

end TaskControllerClient

def watching : Machine TaskControllerClient WatchInput Event where
  step client input :=
    match input with
    | .update env =>
      let turn := (⟨client, []⟩ : Turn).processQueuedThresholdCommands env
      (turn.client, turn.events)
    | .command kind elementNumber ddi threshold =>
      (client.commandTrigger kind
        { processDataValue := threshold, elementNumber := elementNumber, ddi := ddi }, [])
    | .meanwhile other => (client.withTriggersOf other, [])

/-- What is to be known about the triggers after an input. -/
def Watches.note (watches : Watches) (client : TaskControllerClient) : WatchInput → Watches
  | .update env => (watches.report env ⟨client, []⟩).1
  | .command .maximum elementNumber ddi threshold =>
    { watches with
      maximum := TaskClient.command true elementNumber ddi threshold watches.maximum }
  | .command .minimum elementNumber ddi threshold =>
    { watches with
      minimum := TaskClient.command true elementNumber ddi threshold watches.minimum }
  | .command .change elementNumber ddi threshold =>
    { watches with change := TaskClient.command false elementNumber ddi threshold watches.change }
  | .meanwhile _ => watches

/-- A value that a callback returned for the element and the data description index. -/
def Environment.Returned (env : Environment) (elementNumber ddi : UInt16) (value : Int32) : Prop :=
  env.supplied elementNumber ddi = some value ∨
    env.application.requestedValue { elementNumber := elementNumber, ddi := ddi } = some value

def Environment.IsReturnedValue (env : Environment) (client : TaskControllerClient)
    (event : Event) : Prop :=
  ∃ elementNumber ddi value sent,
    event = .message (client.valueCommand elementNumber ddi value) sent ∧
      env.Returned elementNumber ddi value

/-- An update sends what is to be sent and nothing else, and only values that a callback
returned. -/
def FiresAsDefined (watched : TaskControllerClient × Watches) : WatchInput → Prop
  | .update env =>
    watching.emits watched.1 (.update env) = (watched.2.report env ⟨watched.1, []⟩).2.events ∧
      ∀ event ∈ watching.emits watched.1 (.update env), env.IsReturnedValue watched.1 event
  | _ => True

/-- The value that the client looks at, which may be one that no callback returned. -/
def Environment.lookedAt (env : Environment) (info : ProcessDataCallbackInfo) : Int32 :=
  Application.currentValue info 0 env.application.requestValueCallbacks

theorem currentValue_of_supplied {info : ProcessDataCallbackInfo} {value value' : Int32}
    {callbacks : List (UInt16 → UInt16 → Int32 → Bool × Int32)}
    (h : Application.suppliedValue info.elementNumber info.ddi value callbacks = some value') :
    Application.currentValue info value callbacks = value' := by
  induction callbacks generalizing value with
  | nil => cases h
  | cons callback callbacks ih =>
    rw [Application.suppliedValue] at h
    rw [Application.currentValue]
    split
    · rename_i hknows
      rw [if_pos hknows] at h
      exact Option.some.inj h
    · rename_i hknows
      rw [if_neg hknows] at h
      exact ih h

theorem lookedAt_of_supplied {env : Environment} {info : ProcessDataCallbackInfo} {value : Int32}
    (h : env.supplied info.elementNumber info.ddi = some value) : env.lookedAt info = value :=
  currentValue_of_supplied h

def OffersChange (last threshold value : Int32) : Prop :=
  value ≠ last ∧
    (value ≥ last + threshold ∨ value.toInt ≤ max 0 (last.toInt - threshold.toInt))

instance decidableOffersChange (last threshold value : Int32) :
    Decidable (OffersChange last threshold value) :=
  inferInstanceAs (Decidable (_ ∧ _))

/-- The change is too small, but the value is not above zero, or the upper limit overflows. -/
def Spurious (last threshold value : Int32) : Prop :=
  value ≠ last ∧ |value.toInt - last.toInt| < threshold.toInt ∧
    (value.toInt ≤ 0 ∨ 2 ^ 31 ≤ last.toInt + threshold.toInt ∧
      last.toInt + threshold.toInt - 2 ^ 32 ≤ value.toInt)

instance decidableSpurious (last threshold value : Int32) :
    Decidable (Spurious last threshold value) :=
  inferInstanceAs (Decidable (_ ∧ _ ∧ _))

def Missed (last threshold value : Int32) : Prop :=
  last.toInt + threshold.toInt < -2 ^ 31 ∧
    max 0 (last.toInt - threshold.toInt) < value.toInt ∧
    value.toInt < last.toInt + threshold.toInt + 2 ^ 32

instance decidableMissed (last threshold value : Int32) : Decidable (Missed last threshold value) :=
  inferInstanceAs (Decidable (_ ∧ _ ∧ _))

theorem le_add_iff (last threshold value : Int32) :
    value ≥ last + threshold ↔
      if 2 ^ 31 ≤ last.toInt + threshold.toInt then
        last.toInt + threshold.toInt - 2 ^ 32 ≤ value.toInt
      else if last.toInt + threshold.toInt < -2 ^ 31 then
        last.toInt + threshold.toInt + 2 ^ 32 ≤ value.toInt
      else last.toInt + threshold.toInt ≤ value.toInt := by
  have hlast := last.le_toInt
  have hlast' := last.toInt_lt
  have hthreshold := threshold.le_toInt
  have hthreshold' := threshold.toInt_lt
  rw [ge_iff_le, Int32.le_iff_toInt_le, Int32.toInt_add, Int.bmod_def]
  split <;> split <;> (try split) <;> omega

theorem offersChange_iff (last threshold value : Int32) :
    (OffersChange last threshold value ↔
        value ≠ last ∧ threshold.toInt ≤ |value.toInt - last.toInt|) ↔
      ¬Spurious last threshold value ∧ ¬Missed last threshold value := by
  have hlast := last.le_toInt
  have hlast' := last.toInt_lt
  have hvalue := value.toInt_lt
  have hthreshold := threshold.le_toInt
  rw [OffersChange, Spurious, Missed, le_add_iff]
  by_cases heq : value = last
  · subst heq
    simp
    omega
  · have hne : value.toInt ≠ last.toInt := fun h => heq (Int32.toInt_inj.mp h)
    simp only [heq, ne_eq, not_false_eq_true, true_and]
    rcases abs_cases (value.toInt - last.toInt) with ⟨habs, hsign⟩ | ⟨habs, hsign⟩ <;>
      rw [habs] <;> split <;> (try split) <;> omega

/-- A callback answers, or what the client takes for the value has no effect. -/
def ThresholdReadable (passed back : Int32 → Int32 → Bool) (env : Environment)
    (info : ProcessDataCallbackInfo) : Prop :=
  env.supplied info.elementNumber info.ddi = none →
    if info.thresholdPassed then ¬back (env.lookedAt info) info.processDataValue
    else ¬passed (env.lookedAt info) info.processDataValue

instance decidableThresholdReadable (passed back : Int32 → Int32 → Bool) (env : Environment)
    (info : ProcessDataCallbackInfo) : Decidable (ThresholdReadable passed back env info) :=
  inferInstanceAs (Decidable (_ → _))

/-- The test for a change is right for the answer, or nothing is taken for a change without an
answer. -/
def ChangeReadable (env : Environment) (info : ProcessDataCallbackInfo) : Prop :=
  if env.supplied info.elementNumber info.ddi = none then
    ¬OffersChange info.lastValue info.processDataValue (env.lookedAt info)
  else
    ¬Spurious info.lastValue info.processDataValue (env.lookedAt info) ∧
      ¬Missed info.lastValue info.processDataValue (env.lookedAt info)

instance decidableChangeReadable (env : Environment) (info : ProcessDataCallbackInfo) :
    Decidable (ChangeReadable env info) :=
  inferInstanceAs (Decidable (ite _ _ _))

/-- The client's record is of the trigger that is watched. -/
structure Follows (info : ProcessDataCallbackInfo) (watch : Watch) : Prop where
  elementNumber : info.elementNumber = watch.elementNumber
  ddi : info.ddi = watch.ddi
  threshold : info.processDataValue = watch.threshold

/-- The flag tells whether a value was sent since the value came back. -/
structure FollowsThreshold (back : Int32 → Int32 → Bool) (info : ProcessDataCallbackInfo)
    (watch : Watch) : Prop extends Follows info watch where
  thresholdPassed : info.thresholdPassed = sentSinceBack back watch.threshold watch.past

structure FollowsChange (info : ProcessDataCallbackInfo) (watch : Watch) : Prop
    extends Follows info watch where
  lastValue : info.lastValue = lastSent watch.past

namespace Turn

variable {env : Environment} {info : ProcessDataCallbackInfo} {watch : Watch}

theorem report_of_unwanted {wanted : Wanted} (h : watch.toSend env wanted = none) (turn : Turn) :
    watch.report env wanted turn =
      ({ watch with
          past := ⟨env.supplied watch.elementNumber watch.ddi, none⟩ :: watch.past }, turn) := by
  rw [Watch.report, h]

variable {value : Int32}

theorem report_of_wanted {wanted : Wanted} (h : watch.toSend env wanted = some value)
    (turn : Turn) :
    watch.report env wanted turn =
      ({ watch with
          past := ⟨env.supplied watch.elementNumber watch.ddi,
            if turn.sent env then some value else none⟩ :: watch.past },
        turn.offer env (turn.client.valueCommand watch.elementNumber watch.ddi value)) := by
  rw [Watch.report, h]

theorem toSend_of_unanswered {wanted : Wanted}
    (h : env.supplied watch.elementNumber watch.ddi = none) : watch.toSend env wanted = none := by
  rw [Watch.toSend, h, Option.filter_none]

theorem toSend_of_supplied (wanted : Wanted)
    (h : env.supplied watch.elementNumber watch.ddi = some value) :
    watch.toSend env wanted =
      if wanted watch.threshold watch.past value then some value else none := by
  rw [Watch.toSend, h, Option.filter_some]

theorem followsThreshold_lookAtThreshold (passed back : Int32 → Int32 → Bool)
    (hapart : ∀ value threshold, passed value threshold → back value threshold = false)
    (h : FollowsThreshold back info watch) (hread : ThresholdReadable passed back env info)
    (turn : Turn) :
    FollowsThreshold back (lookAtThreshold env passed back info turn).1
        (watch.report env (wantedThreshold passed back) turn).1 ∧
      (lookAtThreshold env passed back info turn).2 =
        (watch.report env (wantedThreshold passed back) turn).2 := by
  have hfollows := h.toFollows
  have hpassed := h.thresholdPassed
  rw [ThresholdReadable, h.elementNumber, h.ddi, h.threshold] at hread
  have hlooked : Application.currentValue info 0 env.application.requestValueCallbacks =
    env.lookedAt info := rfl
  simp only [lookAtThreshold, hlooked, h.threshold]
  cases hsupplied : env.supplied watch.elementNumber watch.ddi with
  | none =>
    -- Nothing is learned and nothing is sent; the condition keeps the flag.
    have hquiet := hread hsupplied
    rw [report_of_unwanted (toSend_of_unanswered hsupplied)]
    cases hflag : info.thresholdPassed with
    | true =>
      rw [hflag, if_pos rfl] at hquiet
      rw [if_pos rfl, if_neg hquiet]
      exact ⟨⟨⟨h.elementNumber, h.ddi, h.threshold⟩, by rw [hpassed, hsupplied]; rfl⟩, rfl⟩
    | false =>
      rw [hflag, if_neg Bool.false_ne_true] at hquiet
      rw [if_neg Bool.false_ne_true, if_neg hquiet]
      exact ⟨⟨⟨h.elementNumber, h.ddi, h.threshold⟩, by rw [hpassed, hsupplied]; rfl⟩, rfl⟩
  | some value =>
    have hvalue : env.lookedAt info = value :=
      lookedAt_of_supplied (by rw [h.elementNumber, h.ddi, hsupplied])
    have htoSend := toSend_of_supplied (wantedThreshold passed back) hsupplied
    rw [wantedThreshold, ← hpassed] at htoSend
    rw [hvalue]
    cases hflag : info.thresholdPassed with
    | true =>
      rw [hflag, Bool.not_true, Bool.and_false, if_neg Bool.false_ne_true] at htoSend
      rw [report_of_unwanted htoSend, if_pos rfl, hsupplied]
      refine ⟨?_, rfl⟩
      cases hback : back value watch.threshold with
      | true => exact ⟨⟨h.elementNumber, h.ddi, rfl⟩, by simp [sentSinceBack, hback]⟩
      | false =>
        exact ⟨⟨h.elementNumber, h.ddi, h.threshold⟩,
          by simp [sentSinceBack, hback, ← hpassed, hflag]⟩
    | false =>
      rw [hflag, Bool.not_false, Bool.and_true] at htoSend
      rw [if_neg Bool.false_ne_true]
      cases hpasses : passed value watch.threshold with
      | true =>
        have hback := hapart _ _ hpasses
        rw [hpasses, if_pos rfl] at htoSend
        rw [report_of_wanted htoSend, if_pos rfl, hsupplied]
        refine ⟨?_, by rw [offerValue, h.elementNumber, h.ddi]⟩
        cases hsent : turn.sent env with
        | true => exact ⟨⟨h.elementNumber, h.ddi, rfl⟩, by simp [sentSinceBack, hback]⟩
        | false =>
          exact ⟨⟨h.elementNumber, h.ddi, h.threshold⟩,
            by simp [sentSinceBack, hback, ← hpassed, hflag]⟩
      | false =>
        rw [hpasses, if_neg Bool.false_ne_true] at htoSend
        rw [report_of_unwanted htoSend, if_neg Bool.false_ne_true, hsupplied]
        refine ⟨⟨⟨h.elementNumber, h.ddi, h.threshold⟩, ?_⟩, rfl⟩
        simp [sentSinceBack, ← hpassed, hflag]

theorem followsChange_lookAtChange (h : FollowsChange info watch) (hread : ChangeReadable env info)
    (turn : Turn) :
    FollowsChange (lookAtChange env info turn).1 (watch.report env wantedChange turn).1 ∧
      (lookAtChange env info turn).2 = (watch.report env wantedChange turn).2 := by
  have hlooked : Application.currentValue info 0 env.application.requestValueCallbacks =
    env.lookedAt info := rfl
  have hoffers : lookAtChange env info turn =
      if OffersChange info.lastValue info.processDataValue (env.lookedAt info) then
        (if turn.sent env then { info with lastValue := env.lookedAt info } else info,
          turn.offerValue env info (env.lookedAt info))
      else (info, turn) := rfl
  rw [ChangeReadable, h.elementNumber, h.ddi] at hread
  rw [hoffers]
  cases hsupplied : env.supplied watch.elementNumber watch.ddi with
  | none =>
    rw [if_pos hsupplied] at hread
    rw [report_of_unwanted (toSend_of_unanswered hsupplied), if_neg hread]
    exact ⟨⟨⟨h.elementNumber, h.ddi, h.threshold⟩, h.lastValue⟩, rfl⟩
  | some value =>
    have hvalue : env.lookedAt info = value :=
      lookedAt_of_supplied (by rw [h.elementNumber, h.ddi, hsupplied])
    have htoSend := toSend_of_supplied wantedChange hsupplied
    rw [if_neg (by rw [hsupplied]; exact Option.some_ne_none value), hvalue] at hread
    have hsame := (offersChange_iff _ _ _).mpr hread
    have hwanted : wantedChange watch.threshold watch.past value ↔
        OffersChange info.lastValue info.processDataValue value := by
      rw [hsame, h.lastValue, h.threshold, wantedChange, decide_eq_true_eq]
    rw [hvalue]
    by_cases hoffer : OffersChange info.lastValue info.processDataValue value
    · rw [if_pos (hwanted.mpr hoffer)] at htoSend
      rw [report_of_wanted htoSend, if_pos hoffer]
      refine ⟨?_, by rw [offerValue, h.elementNumber, h.ddi]⟩
      cases hsent : turn.sent env with
      | true => exact ⟨⟨h.elementNumber, h.ddi, h.threshold⟩, rfl⟩
      | false => exact ⟨⟨h.elementNumber, h.ddi, h.threshold⟩, h.lastValue⟩
    · rw [if_neg (mt hwanted.mp hoffer)] at htoSend
      rw [report_of_unwanted htoSend, if_neg hoffer]
      exact ⟨⟨⟨h.elementNumber, h.ddi, h.threshold⟩, h.lastValue⟩, rfl⟩

theorem follows_lookAt {Tracks : ProcessDataCallbackInfo → Watch → Prop}
    {Readable : ProcessDataCallbackInfo → Prop} {wanted : Wanted}
    {look : ProcessDataCallbackInfo → Turn → ProcessDataCallbackInfo × Turn}
    (hlook : ∀ info watch, Tracks info watch → Readable info → ∀ turn,
      Tracks (look info turn).1 (watch.report env wanted turn).1 ∧
        (look info turn).2 = (watch.report env wanted turn).2)
    {infos : List ProcessDataCallbackInfo} {watches : List Watch}
    (h : List.Forall₂ Tracks infos watches) (hread : ∀ info ∈ infos, Readable info)
    (turn : Turn) :
    List.Forall₂ Tracks (turn.lookAt look infos).1 (reportAll env wanted turn watches).1 ∧
      (turn.lookAt look infos).2 = (reportAll env wanted turn watches).2 := by
  induction h generalizing turn with
  | nil => exact ⟨.nil, rfl⟩
  | @cons info watch infos watches hfirst _ ih =>
    have hhead := hlook info watch hfirst (hread info List.mem_cons_self) turn
    have htail := ih (fun other hother => hread other (List.mem_cons_of_mem info hother))
      (look info turn).2
    rw [lookAt, reportAll, ← hhead.2]
    exact ⟨.cons hhead.1 htail.1, htail.2⟩

/-- Only values that a callback returned were offered. -/
structure OnlyReturned (env : Environment) (client : TaskControllerClient) (turn : Turn) :
    Prop where
  client_eq : turn.client = client
  isReturnedValue : ∀ event ∈ turn.events, env.IsReturnedValue client event

variable {client : TaskControllerClient} {turn : Turn}

theorem OnlyReturned.offer (h : OnlyReturned env client turn) {elementNumber ddi : UInt16}
    (hvalue : env.Returned elementNumber ddi value) :
    OnlyReturned env client
      (turn.offer env (turn.client.valueCommand elementNumber ddi value)) := by
  refine ⟨h.client_eq, fun event hevent => ?_⟩
  rcases List.mem_append.mp hevent with hbefore | hnew
  · exact h.isReturnedValue event hbefore
  · rw [List.mem_singleton.mp hnew, h.client_eq]
    exact ⟨elementNumber, ddi, value, _, rfl, hvalue⟩

theorem OnlyReturned.lookAtTimeIntervals (h : OnlyReturned env client turn)
    (infos : List ProcessDataCallbackInfo) :
    OnlyReturned env client (turn.lookAt (lookAtTimeInterval env) infos).2 := by
  induction infos generalizing turn with
  | nil => exact h
  | cons info infos ih =>
    rw [lookAt]
    refine ih ?_
    rw [lookAtTimeInterval]
    split
    · split
      · rename_i newValue hvalue
        exact h.offer (.inr hvalue)
      · exact h
    · exact h

theorem OnlyReturned.report (h : OnlyReturned env client turn) (wanted : Wanted) (watch : Watch) :
    OnlyReturned env client (watch.report env wanted turn).2 := by
  cases htoSend : watch.toSend env wanted with
  | none =>
    rw [report_of_unwanted htoSend]
    exact h
  | some value =>
    rw [report_of_wanted htoSend]
    exact h.offer (.inl (Option.filter_eq_some_iff.mp htoSend).1)

theorem OnlyReturned.reportAll (h : OnlyReturned env client turn) (wanted : Wanted)
    (watches : List Watch) :
    OnlyReturned env client (TaskClient.reportAll env wanted turn watches).2 := by
  induction watches generalizing turn with
  | nil => exact h
  | cons watch watches ih => exact ih (h.report wanted watch)

theorem onlyReturned_report (env : Environment) (client : TaskControllerClient)
    (watches : Watches) : OnlyReturned env client (watches.report env ⟨client, []⟩).2 := by
  have hstart : OnlyReturned env client ⟨client, []⟩ := ⟨rfl, fun _ hevent => by cases hevent⟩
  exact (((hstart.lookAtTimeIntervals _).reportAll _ _).reportAll _ _).reportAll _ _

end Turn

/-- The client's records of all triggers are of those that are watched. -/
structure FollowsAll (watched : TaskControllerClient × Watches) : Prop where
  maximum : List.Forall₂ (FollowsThreshold (· < ·))
    watched.1.queues.measurementMaximumThresholdCommands watched.2.maximum
  minimum : List.Forall₂ (FollowsThreshold (· > ·))
    watched.1.queues.measurementMinimumThresholdCommands watched.2.minimum
  change : List.Forall₂ FollowsChange
    watched.1.queues.measurementOnChangeThresholdCommands watched.2.change

def TriggersReadable (client : TaskControllerClient) : WatchInput → Prop
  | .update env =>
    (∀ info ∈ client.queues.measurementMaximumThresholdCommands,
      ThresholdReadable (· > ·) (· < ·) env info) ∧
    (∀ info ∈ client.queues.measurementMinimumThresholdCommands,
      ThresholdReadable (· < ·) (· > ·) env info) ∧
    ∀ info ∈ client.queues.measurementOnChangeThresholdCommands, ChangeReadable env info
  | _ => True

instance decidableTriggersReadable (client : TaskControllerClient) :
    (input : WatchInput) → Decidable (TriggersReadable client input)
  | .update _ => inferInstanceAs (Decidable (_ ∧ _ ∧ _))
  | .command .. => inferInstanceAs (Decidable True)
  | .meanwhile _ => inferInstanceAs (Decidable True)

variable {infos : List ProcessDataCallbackInfo} {watches : List Watch} {watched :
  TaskControllerClient × Watches}

theorem follows_command {Tracks : ProcessDataCallbackInfo → Watch → Prop} {restarts : Bool}
    {elementNumber ddi : UInt16} {threshold : Int32}
    {update : ProcessDataCallbackInfo → ProcessDataCallbackInfo} {info : ProcessDataCallbackInfo}
    (hkey : info.key = (elementNumber, ddi))
    (hsame : ∀ previous watch, Tracks previous watch →
      previous.key = (watch.elementNumber, watch.ddi))
    (hupdate : ∀ previous watch, Tracks previous watch →
      Tracks (update previous)
        { watch with threshold := threshold, past := if restarts then [] else watch.past })
    (hnew : Tracks info { elementNumber := elementNumber, ddi := ddi, threshold := threshold })
    (h : List.Forall₂ Tracks infos watches) :
    List.Forall₂ Tracks (addMeasurement update info infos)
      (command restarts elementNumber ddi threshold watches) := by
  induction h with
  | nil => exact .cons hnew .nil
  | cons hfirst hrest ih =>
    rw [addMeasurement_cons, command, hsame _ _ hfirst, hkey]
    split
    · exact .cons (hupdate _ _ hfirst) hrest
    · exact .cons hfirst ih

theorem follows_commandThreshold {back : Int32 → Int32 → Bool}
    (h : List.Forall₂ (FollowsThreshold back) infos watches) (elementNumber ddi : UInt16)
    (threshold : Int32) :
    List.Forall₂ (FollowsThreshold back)
      (addMeasurement (Queues.alterThreshold
          { processDataValue := threshold, elementNumber := elementNumber, ddi := ddi })
        { processDataValue := threshold, elementNumber := elementNumber, ddi := ddi } infos)
      (command true elementNumber ddi threshold watches) :=
  follows_command rfl (fun _ _ h => Prod.ext h.elementNumber h.ddi)
    (fun _ _ h => ⟨⟨h.elementNumber, h.ddi, rfl⟩, rfl⟩) ⟨⟨rfl, rfl, rfl⟩, rfl⟩ h

theorem follows_commandChange (h : List.Forall₂ FollowsChange infos watches)
    (elementNumber ddi : UInt16) (threshold : Int32) :
    List.Forall₂ FollowsChange
      (addMeasurement (Queues.alterThreshold
          { processDataValue := threshold, elementNumber := elementNumber, ddi := ddi })
        { processDataValue := threshold, elementNumber := elementNumber, ddi := ddi } infos)
      (command false elementNumber ddi threshold watches) :=
  follows_command rfl (fun _ _ h => Prod.ext h.elementNumber h.ddi)
    (fun _ _ h => ⟨⟨h.elementNumber, h.ddi, rfl⟩, h.lastValue⟩) ⟨⟨rfl, rfl, rfl⟩, rfl⟩ h

theorem follows_update {env : Environment} (h : FollowsAll watched)
    (hread : TriggersReadable watched.1 (.update env)) :
    FollowsAll (watching.next watched.1 (.update env),
        (watched.2.report env ⟨watched.1, []⟩).1) ∧
      watching.emits watched.1 (.update env) =
        (watched.2.report env ⟨watched.1, []⟩).2.events := by
  obtain ⟨hreadMaximum, hreadMinimum, hreadChange⟩ := hread
  let timed := (⟨watched.1, []⟩ : Turn).lookAt (Turn.lookAtTimeInterval env)
    watched.1.queues.measurementTimeIntervalCommands
  have hmaximum := Turn.follows_lookAt (fun info watch htracks =>
    Turn.followsThreshold_lookAtThreshold (· > ·) (· < ·)
      (fun value threshold hpassed =>
        decide_eq_false (Int32.lt_asymm (of_decide_eq_true hpassed)))
      htracks) h.maximum hreadMaximum timed.2
  let maximal := timed.2.lookAt (Turn.lookAtThreshold env (· > ·) (· < ·))
    watched.1.queues.measurementMaximumThresholdCommands
  have hminimum := Turn.follows_lookAt (fun info watch htracks =>
    Turn.followsThreshold_lookAtThreshold (· < ·) (· > ·)
      (fun value threshold hpassed =>
        decide_eq_false (Int32.lt_asymm (of_decide_eq_true hpassed)))
      htracks) h.minimum hreadMinimum maximal.2
  let minimal := maximal.2.lookAt (Turn.lookAtThreshold env (· < ·) (· > ·))
    watched.1.queues.measurementMinimumThresholdCommands
  have hchange := Turn.follows_lookAt (fun info watch htracks =>
    Turn.followsChange_lookAtChange htracks) h.change hreadChange minimal.2
  -- The watches are reported in the turns in which the client looks at the triggers.
  have hreport : watched.2.report env ⟨watched.1, []⟩ =
      (⟨(reportAll env wantedMaximum timed.2 watched.2.maximum).1,
          (reportAll env wantedMinimum maximal.2 watched.2.minimum).1,
          (reportAll env wantedChange minimal.2 watched.2.change).1⟩,
        (reportAll env wantedChange minimal.2 watched.2.change).2) := by
    simp only [Watches.report]
    rw [show (reportAll env wantedMaximum timed.2 watched.2.maximum).2 = maximal.2 from
        hmaximum.2.symm,
      show (reportAll env wantedMinimum maximal.2 watched.2.minimum).2 = minimal.2 from
        hminimum.2.symm]
  rw [hreport]
  exact ⟨⟨hmaximum.1, hminimum.1, hchange.1⟩, (congrArg Turn.events hchange.2 :)⟩

theorem follows_note (h : FollowsAll watched) (input : WatchInput)
    (hread : TriggersReadable watched.1 input) :
    FollowsAll ((watching.recording fun watches client input => watches.note client input).next
      watched input) := by
  rw [Machine.recording_next]
  cases input with
  | update env => exact (follows_update h hread).1
  | command kind elementNumber ddi threshold =>
    cases kind with
    | maximum =>
      exact { h with maximum := follows_commandThreshold h.maximum elementNumber ddi threshold }
    | minimum =>
      exact { h with minimum := follows_commandThreshold h.minimum elementNumber ddi threshold }
    | change =>
      exact { h with change := follows_commandChange h.change elementNumber ddi threshold }
  | meanwhile other => exact ⟨h.maximum, h.minimum, h.change⟩

theorem firesAsDefined_of_readable (h : FollowsAll watched) (input : WatchInput)
    (hread : TriggersReadable watched.1 input) :
    FiresAsDefined watched input := by
  cases input with
  | update env =>
    have hemits := (follows_update h hread).2
    refine ⟨hemits, fun event hevent => ?_⟩
    rw [hemits] at hevent
    exact (Turn.onlyReturned_report env watched.1 watched.2).isReturnedValue event hevent
  | command kind elementNumber ddi threshold => trivial
  | meanwhile other => trivial

def watchedTriggers : Machine (TaskControllerClient × Watches) WatchInput Event :=
  watching.recording fun watches client input => watches.note client input

/-- The triggers fire as they are defined, as long as the client can read off the values what is to
be sent. -/
theorem firesAsDefined_along {client : TaskControllerClient} {watches : Watches}
    (hstart : FollowsAll (client, watches)) (inputs : List WatchInput)
    (hread : watching.Along TriggersReadable client inputs) :
    watchedTriggers.Along FiresAsDefined (client, watches) inputs := by
  have hreadable : watchedTriggers.Along (fun watched input => TriggersReadable watched.1 input)
      (client, watches) inputs := (watching.recording_along_iff _ _ _).mpr hread
  exact watchedTriggers.along_of_invariant_along (P := FollowsAll)
    (fun watched input h hread => follows_note h input hread)
    (fun watched input h hread => firesAsDefined_of_readable h input hread) hstart inputs hreadable

def showing (value : Int32) : Environment :=
  { quietAt 0 with application := ⟨[], [fun _ _ _ => (true, value)], []⟩ }

/-- Both thresholds and a change are watched while the value rises, stays, falls and rises
again. -/
theorem firesAsDefined_rising :
    FollowsAll (.create 0 0 1 none, {}) ∧
      watchedTriggers.Along FiresAsDefined (.create 0 0 1 none, {})
        [.command .maximum 1 0x0086 100, .command .minimum 1 0x0086 60,
          .command .change 1 0x0086 10, .update (showing 150), .update (showing 155),
          .update (showing 50), .update (showing 160)] := by
  have hstart : FollowsAll (.create 0 0 1 none, {}) := ⟨.nil, .nil, .nil⟩
  refine ⟨hstart, firesAsDefined_along hstart _ ?_⟩
  exact watching.along_of_checks (fun _ _ h => of_decide_eq_true h)
    (by decide +kernel :
      watching.checks (fun client input => decide (TriggersReadable client input))
        (.create 0 0 1 none)
        [.command .maximum 1 0x0086 100, .command .minimum 1 0x0086 60,
          .command .change 1 0x0086 10, .update (showing 150), .update (showing 155),
          .update (showing 50), .update (showing 160)] = true)

/-- A change by one is reported where it is to be ten, as the value is negative. -/
theorem smallChange_not_asDefined :
    FollowsAll (.create 0 0 1 none, {}) ∧
      ¬watchedTriggers.Along FiresAsDefined (.create 0 0 1 none, {})
        [.command .change 1 0x0086 10, .update (showing (-1))] := by
  refine ⟨⟨.nil, .nil, .nil⟩, fun h => ?_⟩
  have hemits := congrArg List.length h.2.1.1
  revert hemits
  decide +kernel

end Isobus.TaskClient
