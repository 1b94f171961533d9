import Isobus.Example1200PT.Hydraulics

/-!
# When the outputs are energised

Both threads may run in any order, and every write and every lock may fail. The main loop touches
the outputs only after a fault, so until then they belong to the thread of the terminal.
-/

namespace Isobus.Example1200PT.Hydraulics

open Isobus.Lib Thread

attribute [local simp] ask lock unlock write hasFault modify Bool.forall_bool

variable {activeLow : Bool} {v v' : Variables} {latches latches' : Latches}

/-- The variables and the latches, and nothing once a fault is recorded. -/
abbrev Known := Option (Variables × Latches)

@[simps] def terminalView (activeLow : Bool) : View Access.Answer Known where
  allowed
    | .write _ value, none => value = relayOutputByte activeLow 0
    | _, _ => True
  answers
    | .hasFault, none, answer, known => answer = true ∧ known = none
    | _, none, _, known => known = none
    | .lock, some (v, latches), answer, known =>
      known = if answer then some (v, latches) else none
    | .write port value, some (v, latches), answer, known =>
      known = if answer then some (v, Function.update latches port value) else none
    | .hasFault, some (v, latches), answer, known => answer = false ∧ known = some (v, latches)
    | .modify change, some (v, latches), answer, known =>
      answer = v ∧ known = some (change v, latches)
    | _, some (v, latches), _, known => known = some (v, latches)

/-- The code leads to these variables and latches, unless it reports a fault. -/
def LeadsTo (activeLow : Bool) (code : Code Bool) (v : Variables) (latches : Latches)
    (v' : Variables) (latches' : Latches) : Prop :=
  code.Ensures (terminalView activeLow)
    (fun result known => known = if result then some (v', latches') else none) (some (v, latches))

section

variable {α : Type} {post : α → Known → Prop}

theorem LeadsTo.bind {code : Code Bool} (h : LeadsTo activeLow code v latches v' latches')
    {rest : Bool → Code α} (hfault : (rest false).Ensures (terminalView activeLow) post none)
    (hrest : (rest true).Ensures (terminalView activeLow) post (some (v', latches'))) :
    (code >>= rest).Ensures (terminalView activeLow) post (some (v, latches)) := by
  rw [ensures_bind]
  refine h.mono ?_
  rintro (_ | _) known rfl
  · exact hfault
  · exact hrest

theorem ensures_modify (change : Variables → Variables) (rest : Variables → Code α) :
    (modify change >>= rest).Ensures (terminalView activeLow) post (some (v, latches)) ↔
      (rest v).Ensures (terminalView activeLow) post (some (change v, latches)) := by
  simp

end

theorem writeAllOffLocked_ensures (ports : List Port) :
    (writeAllOffLocked activeLow ports).Ensures (terminalView activeLow)
      (fun _ known => known = none) none := by
  induction ports with
  | nil => simp [writeAllOffLocked]
  | cons port ports ih => simpa [writeAllOffLocked] using ih

theorem leadsTo_writeAllOffLocked (ports : List Port) :
    LeadsTo activeLow (writeAllOffLocked activeLow ports) v latches v
      (ports.foldl (fun latches port => Function.update latches port (relayOutputByte activeLow 0))
        latches) := by
  induction ports generalizing latches with
  | nil => simp [LeadsTo, writeAllOffLocked]
  | cons port ports ih =>
    simpa [LeadsTo, writeAllOffLocked] using ⟨writeAllOffLocked_ensures ports, ih⟩

theorem leadsTo_writeStates (ports : List Port) (writes : List (Port × UInt8)) :
    LeadsTo activeLow (writeStates activeLow ports writes) v latches v
      (writes.foldl (fun latches write => Function.update latches write.1 write.2) latches) := by
  induction writes generalizing latches with
  | nil => simp [LeadsTo, writeStates]
  | cons write writes ih =>
    simpa [LeadsTo, writeStates] using ⟨writeAllOffLocked_ensures ports, ih⟩

theorem LeadsTo.locked {code : Code Bool} (h : LeadsTo activeLow code v latches v' latches') :
    LeadsTo activeLow (locked code) v latches v' latches' := by
  rw [LeadsTo, Hydraulics.locked, ensures_bind]
  refine ⟨trivial, ?_⟩
  rintro (_ | _) _ rfl
  · simp
  · rw [ensures_done, if_pos rfl]
    exact h.bind (by simp) (by simp)

theorem LeadsTo.then_modify {code : Code Bool} (h : LeadsTo activeLow code v latches v' latches')
    (change : Variables → Variables) :
    LeadsTo activeLow (do let result ← code; let _ ← modify change; pure result) v latches
      (change v') latches' :=
  h.bind (by simp) (by simp)

theorem leadsTo_allOff :
    LeadsTo activeLow (foldSequenceAllOff activeLow) v latches v (off activeLow) := by
  have h : off activeLow = foldPorts.foldl
      (fun latches port => Function.update latches port (relayOutputByte activeLow 0)) latches := by
    funext port
    cases port <;> rfl
  rw [h]
  exact (leadsTo_writeAllOffLocked foldPorts).locked

theorem leadsTo_cancel :
    LeadsTo activeLow (foldSequenceCancel activeLow) v latches v.reset (off activeLow) :=
  leadsTo_allOff.then_modify .reset

theorem cancel_ensures : (foldSequenceCancel activeLow).Ensures (terminalView activeLow)
    (fun _ known => known = none) none := by
  rw [foldSequenceCancel, foldSequenceAllOff, locked, ensures_bind, ensures_bind]
  refine ⟨trivial, ?_⟩
  rintro (_ | _) _ rfl
  · simp
  · rw [ensures_done, if_pos rfl, ensures_bind]
    refine (writeAllOffLocked_ensures foldPorts).mono ?_
    rintro _ _ rfl
    simp

/-- The latches that hold a pattern of solenoids. -/
def pattern (activeLow : Bool) (states : List Nat) : Latches
  | .firstA => relayOutputByte activeLow (portByte states 1 8)
  | .firstB => relayOutputByte activeLow (portByte states 9 8)
  | .secondA => relayOutputByte activeLow (portByte states 17 2)
  | .secondB => relayOutputByte activeLow 0

theorem leadsTo_apply (ports : List Port) (states : List Nat)
    (h : latches .secondB = relayOutputByte activeLow 0) :
    LeadsTo activeLow (locked (writeStates activeLow ports (portWrites activeLow states))) v latches
      v (pattern activeLow states) := by
  have hpattern : pattern activeLow states = (portWrites activeLow states).foldl
      (fun latches write => Function.update latches write.1 write.2) latches := by
    funext port
    cases port
    case secondB => exact h.symm
    all_goals rfl
  rw [hpattern]
  exact (leadsTo_writeStates ports _).locked

theorem leadsTo_applyOrReset (states : List Nat)
    (h : latches .secondB = relayOutputByte activeLow 0) :
    LeadsTo activeLow (applyOrReset activeLow states) v latches v (pattern activeLow states) :=
  (leadsTo_apply foldPorts states h).bind (by simp) (by simp)

theorem leadsTo_activateAction (group : ActionGroup) {actionIndex : UInt8}
    (h : (actionIndex < 1 || actionIndex > 6) = false) :
    LeadsTo activeLow (activateAction activeLow group actionIndex) v latches
      (v.activate group actionIndex)
      (pattern activeLow (group.states.getD (actionIndex - 1).toNat [])) := by
  rw [activateAction, h, LeadsTo, if_neg Bool.false_ne_true]
  refine leadsTo_allOff.bind (by simp) ?_
  rw [if_pos rfl, ensures_modify, ensures_modify]
  exact leadsTo_applyOrReset _ rfl

theorem leadsTo_plantControlSet {mode : PlantMode}
    (h : latches .secondB = relayOutputByte activeLow 0) :
    LeadsTo activeLow (plantControlSet activeLow mode) v latches
      { v with isTransitioning := false, currentMode := mode } (pattern activeLow mode.states) := by
  rw [LeadsTo, plantControlSet, ensures_modify]
  exact (leadsTo_apply (v := { v with isTransitioning := true, currentMode := mode })
    plantPorts mode.states h).then_modify fun v => { v with isTransitioning := false }

/-- The lit button is that of the active action, and the outputs hold one pattern. -/
structure Matches (activeLow : Bool) (v : Variables) (latches : Latches) : Prop where
  lit : v.activeIndex = 0 ∧ v.currentState = .idle ∨
    (v.activeIndex < 1 || v.activeIndex > 6) = false ∧ v.currentState = v.activeGroup.state ∧
      v.currentStep = v.activeIndex - 1
  pattern : latches = off activeLow ∨ latches = pattern activeLow v.currentMode.states ∨
    v.currentState = v.activeGroup.state ∧
      latches = pattern activeLow (v.activeGroup.states.getD v.currentStep.toNat [])

theorem Matches.secondB (h : Matches activeLow v latches) :
    latches .secondB = relayOutputByte activeLow 0 := by
  obtain rfl | rfl | ⟨-, rfl⟩ := h.pattern <;> rfl

theorem matches_off (h : v.activeIndex = 0 ∧ v.currentState = .idle) :
    Matches activeLow v (off activeLow) := ⟨.inl h, .inl rfl⟩

/-- What is known matches, if anything is. -/
def Keeps (activeLow : Bool) : Known → Prop
  | none => True
  | some (v, latches) => Matches activeLow v latches

@[simp] theorem keeps_none : Keeps activeLow none := trivial

abbrev Sound (activeLow : Bool) (code : Code Unit) (known : Known) : Prop :=
  code.Ensures (terminalView activeLow) (fun _ => Keeps activeLow) known

theorem sound_toggleAction (group : ActionGroup) {actionIndex : UInt8}
    (hindex : (actionIndex < 1 || actionIndex > 6) = false) :
    Sound activeLow (toggleAction activeLow group actionIndex) (some (v, latches)) := by
  rw [toggleAction, Sound, ensures_modify, id_eq]
  split
  case isTrue hlit =>
    refine leadsTo_cancel.bind (by simp) ?_
    have hpress : v.reset.press group actionIndex = v.reset.clear := by
      rw [Variables.press, hindex, if_neg Bool.false_ne_true]
      exact if_pos hlit
    rw [if_pos rfl, ensures_modify, hpress]
    exact matches_off ⟨rfl, rfl⟩
  case isFalse hlit =>
    refine (leadsTo_activateAction group hindex).bind (by simp) ?_
    have hpress : (v.activate group actionIndex).press group actionIndex =
        { v.activate group actionIndex with activeGroup := group, activeIndex := actionIndex } := by
      rw [Variables.press, hindex, if_neg Bool.false_ne_true]
      exact if_neg hlit
    rw [if_pos rfl, ensures_modify, hpress]
    exact ⟨.inr ⟨hindex, rfl, rfl⟩, .inr (.inr ⟨rfl, rfl⟩)⟩

theorem leaveOtherGroup_ensures (group : ActionGroup) :
    (leaveOtherGroup activeLow group).Ensures (terminalView activeLow)
      (fun result known => known.isSome = result) (some (v, latches)) := by
  rw [leaveOtherGroup, ensures_modify]
  split
  · rw [ensures_modify]
    refine leadsTo_cancel.mono ?_
    rintro (_ | _) known rfl <;> rfl
  · rfl

theorem sound_handleActionButton (group : ActionGroup) (actionIndex : UInt8) {known : Known}
    (h : Keeps activeLow known) :
    Sound activeLow (handleActionButton activeLow group actionIndex) known := by
  unfold handleActionButton
  split
  · exact h
  case isFalse hindex =>
    rw [Bool.not_eq_true] at hindex
    cases known with
    | none => simp [Sound, hydraulicActuationInhibited]
    | some known =>
      have hgo : (leaveOtherGroup activeLow group).Ensures (terminalView activeLow)
          (fun result => Sound activeLow
            (if result = true then toggleAction activeLow group actionIndex else pure ()))
          (some known) := by
        refine (leaveOtherGroup_ensures group).mono ?_
        rintro result (_ | ⟨v, latches⟩) rfl
        · trivial
        · exact sound_toggleAction group hindex
      simpa [Sound, hydraulicActuationInhibited] using ⟨hgo, h⟩

theorem sound_handle (event : KeyEvent) {known : Known} (h : Keeps activeLow known) :
    Sound activeLow (handle activeLow event) known := by
  cases event with
  | screen =>
    rw [handle, Sound]
    cases known with
    | none =>
      rw [ensures_bind]
      exact cancel_ensures.mono (by rintro _ _ rfl; simp)
    | some known =>
      refine leadsTo_cancel.bind (by simp) ?_
      rw [ensures_modify]
      exact matches_off ⟨rfl, rfl⟩
  | action group actionIndex => exact sound_handleActionButton group actionIndex h
  | plant mode =>
    cases known with
    | none => simp [Sound, handle]
    | some known =>
      have hmatches : Matches activeLow known.1 known.2 := h
      have hset : (plantControlSet activeLow mode).Ensures (terminalView activeLow)
          (fun _ => Keeps activeLow) (some known) := by
        refine (leadsTo_plantControlSet hmatches.secondB).mono ?_
        rintro (_ | _) known rfl
        · trivial
        · exact ⟨hmatches.lit, .inr (.inl rfl)⟩
      simpa [Sound, handle] using hset

/-- What the main loop knows: whether it has seen a fault. -/
@[simps] def mainLoopView (activeLow : Bool) : View Access.Answer Bool where
  allowed
    | .lock, seen => seen = true
    | .write _ value, seen => seen = true ∧ value = relayOutputByte activeLow 0
    | .modify _, seen => seen = true
    | _, _ => True
  answers
    | .hasFault, seen, answer, seen' => seen' = (seen || answer)
    | _, seen, _, seen' => seen' = seen

theorem iteration_ensures :
    (iteration activeLow).Ensures (mainLoopView activeLow) (fun _ _ => True) false := by
  have hoff (ports : List Port) : (writeAllOffLocked activeLow ports).Ensures
      (mainLoopView activeLow) (fun _ seen => seen = true) true := by
    induction ports with
    | nil => simp [writeAllOffLocked]
    | cons port ports ih => simpa [writeAllOffLocked] using ih
  simpa [iteration, foldSequenceCancel, foldSequenceAllOff, locked] using hoff foldPorts

/-- Whatever was written after a fault is off. -/
def LockedOut (activeLow : Bool) (s : Shared) : Prop :=
  ∀ write ∈ s.writes, write.afterFault = true → write.value = relayOutputByte activeLow 0

def Shared.known (s : Shared) : Known := if s.faulted then none else some (s.vars, s.latches)

section

variable {s s' : Shared} {outcome : Outcome} {a : Access} {answer : a.Answer}

theorem lockedOut_write {port : Port} {value : UInt8} (hlocked : LockedOut activeLow s)
    (h : s.faulted = true → value = relayOutputByte activeLow 0) :
    ∀ write ∈ s.writes ++ [⟨port, value, s.faulted⟩], write.afterFault = true →
      write.value = relayOutputByte activeLow 0 := by
  rw [List.forall_mem_append, List.forall_mem_singleton]
  exact ⟨hlocked, h⟩

theorem terminal_serve (hlocked : LockedOut activeLow s)
    (hallowed : (terminalView activeLow).allowed a s.known)
    (h : s.serve outcome a = some (answer, s')) :
    (terminalView activeLow).answers a s.known answer s'.known ∧ LockedOut activeLow s' ∧
      (s.faulted = true → s'.faulted = true) := by
  cases a with
  | lock =>
    rw [Shared.serve] at h
    split_ifs at h
    all_goals
      cases h
      exact ⟨by cases hfault : s.faulted <;> simp [Shared.known, hfault], hlocked, by simp⟩
  | write port value =>
    cases h
    refine ⟨?_, lockedOut_write hlocked fun hfault => ?_, by simp +contextual⟩
    · cases hfault : s.faulted <;> cases outcome.succeeds <;> simp [Shared.known, hfault]
    · simpa [Shared.known, hfault] using hallowed
  | _ =>
    cases h
    exact ⟨by cases hfault : s.faulted <;> simp [Shared.known, hfault], hlocked, id⟩

theorem mainLoop_serve {seen : Bool} (hlocked : LockedOut activeLow s)
    (hseen : seen = true → s.faulted = true) (hallowed : (mainLoopView activeLow).allowed a seen)
    (h : s.serve outcome a = some (answer, s')) :
    ∃ seen', (mainLoopView activeLow).answers a seen answer seen' ∧ LockedOut activeLow s' ∧
      (seen' = true → s'.faulted = true) ∧ s'.known = s.known := by
  cases a with
  | lock =>
    have hfault := hseen hallowed
    rw [Shared.serve] at h
    split_ifs at h
    all_goals
      cases h
      exact ⟨seen, rfl, hlocked, by simp [hfault], by simp [Shared.known, hfault]⟩
  | write port value =>
    have hfault := hseen hallowed.1
    cases h
    exact ⟨seen, rfl, lockedOut_write hlocked fun _ => hallowed.2, by simp [hfault],
      by simp [Shared.known, hfault]⟩
  | hasFault =>
    cases h
    exact ⟨_, rfl, hlocked, fun h => (Bool.or_eq_true_iff.mp h).elim hseen id, rfl⟩
  | modify change =>
    have hfault := hseen hallowed
    cases h
    exact ⟨_, rfl, hlocked, hseen, by simp [Shared.known, hfault]⟩
  | _ =>
    cases h
    exact ⟨_, rfl, hlocked, hseen, rfl⟩

end

structure Guarded (activeLow : Bool) (p : Planter) : Prop where
  lockedOut : LockedOut activeLow p.shared
  terminal : Sound activeLow p.terminal p.shared.known
  mainLoop : ∃ seen, (seen = true → p.shared.faulted = true) ∧
    p.mainLoop.Ensures (mainLoopView activeLow) (fun _ _ => True) seen

theorem guarded_perform {p : Planter} (h : Guarded activeLow p) (turn : Turn) :
    Guarded activeLow (p.perform activeLow turn) := by
  obtain ⟨seen, hseen, hloop⟩ := h.mainLoop
  cases turn with
  | event event =>
    rw [Planter.perform]
    split
    case h_1 hterminal =>
      have hidle := h.terminal
      rw [hterminal] at hidle
      exact ⟨h.lockedOut, sound_handle event hidle, h.mainLoop⟩
    case h_2 => exact h
  | iterate =>
    rw [Planter.perform]
    split
    · exact ⟨h.lockedOut, h.terminal, false, nofun, iteration_ensures⟩
    · exact h
  | terminal outcome =>
    obtain ⟨_, ⟨rfl, hlocked, hmono⟩, hterminal⟩ := h.terminal.step (Shared.serve outcome)
      (fun s known => known = s.known ∧ LockedOut activeLow s ∧
        (p.shared.faulted = true → s.faulted = true)) ⟨rfl, h.lockedOut, id⟩
      fun a answer s' hallowed hserve =>
        have ⟨hanswer, hkept⟩ := terminal_serve h.lockedOut hallowed hserve
        ⟨_, hanswer, rfl, hkept⟩
    exact ⟨hlocked, hterminal, seen, fun hs => hmono (hseen hs), hloop⟩
  | mainLoop outcome =>
    obtain ⟨seen', ⟨hlocked, hseen', hknown⟩, hloop'⟩ := hloop.step (Shared.serve outcome)
      (fun s seen => LockedOut activeLow s ∧ (seen = true → s.faulted = true) ∧
        s.known = p.shared.known) ⟨h.lockedOut, hseen, rfl⟩
      fun a answer s' => mainLoop_serve h.lockedOut hseen
    exact ⟨hlocked, hknown ▸ h.terminal, seen', hseen', hloop'⟩

theorem guarded_run (faulted : Bool) (turns : List Turn) :
    Guarded activeLow ((planter activeLow).run (started activeLow faulted) turns) := by
  have hkeeps : Keeps activeLow (started activeLow faulted).shared.known := by
    cases faulted with
    | true => trivial
    | false => exact matches_off ⟨rfl, rfl⟩
  have hstart : Guarded activeLow (started activeLow faulted) :=
    ⟨by simp [LockedOut, started], hkeeps, false, nofun, trivial⟩
  exact (planter activeLow).run_invariant (P := Guarded activeLow)
    (fun _ turn h => guarded_perform h turn) hstart turns

/-- Once a write or a lock has failed, no solenoid is energised any more. -/
theorem lockedOut_run (faulted : Bool) (turns : List Turn) :
    LockedOut activeLow ((planter activeLow).run (started activeLow faulted) turns).shared := by
  exact (guarded_run faulted turns).lockedOut

/-- The lit button is that of the active action, and the latches hold one whole pattern. -/
structure Agrees (activeLow : Bool) (s : Shared) : Prop where
  lit_iff : ∀ (group : ActionGroup) index, s.vars.isLit group index ↔
    s.vars.currentState = group.state ∧ s.vars.activeAction = index
  pattern : s.latches = off activeLow ∨ s.latches = pattern activeLow s.vars.currentMode.states ∨
    ∃ group : ActionGroup, s.vars.currentState = group.state ∧
      s.latches = pattern activeLow (group.states.getD s.vars.currentStep.toNat [])

theorem Matches.lit_iff (h : Matches activeLow v latches) (group : ActionGroup) (index : UInt8) :
    v.isLit group index ↔ v.currentState = group.state ∧ v.activeAction = index := by
  obtain ⟨hindex, hstate⟩ | ⟨hindex, hstate, hstep⟩ := h.lit
  · cases group <;> simp [Variables.isLit, hindex, hstate, ActionGroup.state]
  · have hpos : v.activeIndex ≠ 0 := by
      rintro hzero
      rw [hzero] at hindex
      cases hindex
    have haction : v.activeAction = v.activeIndex := by
      rw [Variables.activeAction, hstate, hstep]
      cases v.activeGroup <;> simp [ActionGroup.state]
    rw [hstate, haction, Variables.isLit]
    cases v.activeGroup <;> cases group <;> simp [ActionGroup.state, hpos.symm]

/-- Whenever no handler is running and no fault is recorded, the screen and the outputs agree. -/
theorem agrees_run (faulted : Bool) (turns : List Turn)
    (hidle : ((planter activeLow).run (started activeLow faulted) turns).terminal = .done ())
    (hfault : ((planter activeLow).run (started activeLow faulted) turns).shared.faulted = false) :
    Agrees activeLow ((planter activeLow).run (started activeLow faulted) turns).shared := by
  have hkeeps : Sound activeLow _ _ := (guarded_run faulted turns).terminal
  rw [hidle, Shared.known, hfault, Sound, ensures_done] at hkeeps
  exact ⟨Matches.lit_iff hkeeps, (Matches.pattern hkeeps).imp_right (Or.imp_right fun h => ⟨_, h⟩)⟩

/-- The main loop releases the interlock, and the second fold action is chosen. -/
def secondFoldAction : List Turn :=
  .iterate :: List.replicate 2 (.mainLoop ⟨true, true⟩) ++
    .event (.action .fold 2) :: List.replicate 20 (.terminal ⟨true, true⟩)

theorem secondFoldAction_agrees :
    Agrees false ((planter false).run (started false false) secondFoldAction).shared :=
  agrees_run false secondFoldAction rfl rfl

end Isobus.Example1200PT.Hydraulics
