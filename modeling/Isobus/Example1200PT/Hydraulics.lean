import Isobus.Lib.Machine
import Isobus.Lib.Thread

/-!
# The hydraulic outputs

`fold_sequence.cpp`, `plant_control.cpp` and `mcp23017_output.cpp`, with the handlers and the main
loop of `main.cpp` that drive them from two threads. What only the display shows is left out.
-/

namespace Isobus.Example1200PT.Hydraulics

open Isobus.Lib

/-- The output ports of the two MCP23017. -/
inductive Port
  | firstA
  | firstB
  | secondA
  | secondB
  deriving DecidableEq

inductive SequenceState
  | idle
  | foldActive
  | unfoldActive
  | complete
  deriving DecidableEq

inductive PlantMode
  | idle
  | limitedLift
  | fullLift
  | lowered
  deriving DecidableEq

inductive ActionGroup
  | unfold
  | fold
  deriving DecidableEq

/-- What the handlers and the main loop both use: the sequence, the plant status and the lit
button. -/
structure Variables where
  currentState : SequenceState := .idle
  currentStep : UInt8 := 0
  currentMode : PlantMode := .idle
  isTransitioning : Bool := false
  activeGroup : ActionGroup := .unfold
  activeIndex : UInt8 := 0

instance : Inhabited Variables := ⟨{}⟩

inductive Access
  /-- `MCP23017OutputLock`; a failure is recorded. -/
  | lock
  | unlock
  /-- `mcp23017_write_register_locked`; a failure is recorded. -/
  | write (port : Port) (value : UInt8)
  | hasFault
  | inhibited
  | exchangeInhibited (inhibited : Bool)
  | modify (change : Variables → Variables)

/-- Whether it worked, what the flag was, or the variables before the change. -/
abbrev Access.Answer : Access → Type
  | .modify _ => Variables
  | _ => Bool

abbrev Code := Thread Access.Answer

def lock : Code Bool := .ask Access.lock
def unlock : Code Bool := .ask Access.unlock
def write (port : Port) (value : UInt8) : Code Bool := .ask (Access.write port value)
def hasFault : Code Bool := .ask Access.hasFault
def modify (change : Variables → Variables) : Code Variables := .ask (Access.modify change)

/-- The energised solenoids of every step. -/
def FOLD_STATES : List (List Nat) :=
  [[1, 3, 7, 10, 11, 12, 14, 16, 17, 18],
    [1, 3, 5, 7, 9, 10, 12, 14, 16, 17, 18],
    [1, 3, 7, 12, 16, 17, 18],
    [1, 3, 5, 7, 10, 12, 14, 16, 17, 18],
    [1, 3, 5, 7, 10, 12, 14, 16, 17, 18],
    [1, 3, 7, 10, 12, 14, 16, 17, 18]]

def UNFOLD_STATES : List (List Nat) :=
  [[1, 3, 5, 6, 7, 8, 9, 12, 16, 17, 18],
    [1, 3, 5, 7, 9, 10, 12, 14, 16, 17, 18],
    [1, 3, 7, 10, 11, 12, 14, 16, 17, 18],
    [1, 3, 7, 10, 12, 14, 16, 17, 18],
    [1, 3, 5, 7, 12, 16, 17, 18],
    [1, 3, 5, 7, 9, 10, 12, 14, 16, 17, 18]]

def PLANT_LIMITED_LIFT_STATES : List Nat := [1, 2, 3, 4, 7, 12, 16, 17, 18]
def PLANT_FULL_LIFT_STATES : List Nat := [1, 2, 3, 4, 7, 12, 16, 17, 18]
def PLANT_LOWERED_STATES : List Nat := []

-- `RELAY_ACTIVE_LOW`
variable (activeLow : Bool)

def relayOutputByte (logicalOutputs : UInt8) : UInt8 :=
  if activeLow then ~~~logicalOutputs else logicalOutputs

/-- The bits of so many solenoids from the given one on. -/
def portByte (states : List Nat) (first count : Nat) : UInt8 :=
  (List.range count).foldl (fun byte i =>
    if first + i ∈ states then byte ||| 1 <<< UInt8.ofNat i else byte) 0

def portWrites (states : List Nat) : List (Port × UInt8) :=
  [(.firstA, relayOutputByte activeLow (portByte states 1 8)),
    (.firstB, relayOutputByte activeLow (portByte states 9 8)),
    (.secondA, relayOutputByte activeLow (portByte states 17 2))]

/-- All ports are written, and a failure is kept. -/
def writeAllOffLocked : List Port → Code Bool
  | [] => pure true
  | port :: ports => do
    let written ← write port (relayOutputByte activeLow 0)
    let rest ← writeAllOffLocked ports
    pure (written && rest)

/-- The loop over the writes; after a failure the given ports are switched off instead. -/
def writeStates (ports : List Port) : List (Port × UInt8) → Code Bool
  | [] => pure true
  | (port, value) :: writes => do
    if ← write port value then
      writeStates ports writes
    else
      let _ ← writeAllOffLocked activeLow ports
      pure false

def locked (code : Code Bool) : Code Bool := do
  if ← lock then
    let result ← code
    let _ ← unlock
    pure result
  else
    pure false

def foldPorts : List Port := [.firstA, .firstB, .secondA, .secondB]
def plantPorts : List Port := [.firstA, .firstB, .secondA]

def applySolenoidStates (states : List Nat) : Code Bool :=
  locked (writeStates activeLow foldPorts (portWrites activeLow states))

def applyPlantSolenoidStates (states : List Nat) : Code Bool :=
  locked (writeStates activeLow plantPorts (portWrites activeLow states))

def foldSequenceAllOff : Code Bool := locked (writeAllOffLocked activeLow foldPorts)

def Variables.reset (v : Variables) : Variables :=
  { v with currentState := .idle, currentStep := 0 }

def foldSequenceCancel : Code Bool := do
  let result ← foldSequenceAllOff activeLow
  let _ ← modify .reset
  pure result

def ActionGroup.state : ActionGroup → SequenceState
  | .unfold => .unfoldActive
  | .fold => .foldActive

def ActionGroup.states : ActionGroup → List (List Nat)
  | .unfold => UNFOLD_STATES
  | .fold => FOLD_STATES

def Variables.activate (group : ActionGroup) (actionIndex : UInt8) (v : Variables) : Variables :=
  { v with currentState := group.state, currentStep := actionIndex - 1 }

def applyOrReset (states : List Nat) : Code Bool := do
  let result ← applySolenoidStates activeLow states
  if !result then
    let _ ← modify .reset
  pure result

/-- `fold_sequence_activate_fold_action` and `fold_sequence_activate_unfold_action` -/
def activateAction (group : ActionGroup) (actionIndex : UInt8) : Code Bool := do
  if actionIndex < 1 || actionIndex > 6 then
    foldSequenceCancel activeLow
  else if ← foldSequenceAllOff activeLow then
    let _ ← modify (.activate group actionIndex)
    let v ← modify id
    applyOrReset activeLow (group.states.getD v.currentStep.toNat [])
  else
    pure false

/-- `fold_sequence_get_active_action` -/
def Variables.activeAction (v : Variables) : UInt8 :=
  if v.currentState = .foldActive || v.currentState = .unfoldActive then v.currentStep + 1 else 0

def PlantMode.states : PlantMode → List Nat
  | .limitedLift => PLANT_LIMITED_LIFT_STATES
  | .fullLift => PLANT_FULL_LIFT_STATES
  | _ => PLANT_LOWERED_STATES

/-- `plant_control_set_limited_lift`, `plant_control_set_full_lift` and
`plant_control_set_lowered` -/
def plantControlSet (mode : PlantMode) : Code Bool := do
  let _ ← modify fun v => { v with isTransitioning := true, currentMode := mode }
  let result ← applyPlantSolenoidStates activeLow mode.states
  let _ ← modify fun v => { v with isTransitioning := false }
  pure result

def Variables.isLit (v : Variables) (group : ActionGroup) (index : UInt8) : Bool :=
  0 ≠ v.activeIndex && v.activeGroup = group && v.activeIndex = index

def Variables.clear (v : Variables) : Variables := { v with activeIndex := 0 }

def Variables.press (group : ActionGroup) (index : UInt8) (v : Variables) : Variables :=
  if index < 1 || index > 6 then v
  else if v.isLit group index then v.clear
  else { v with activeGroup := group, activeIndex := index }

def ActionGroup.other : ActionGroup → ActionGroup
  | .unfold => .fold
  | .fold => .unfold

def hydraulicActuationInhibited : Code Bool := do
  if ← .ask Access.inhibited then
    pure true
  else
    hasFault

/-- The other group gives up its action first. -/
def leaveOtherGroup (group : ActionGroup) : Code Bool := do
  let v ← modify id
  if 0 ≠ v.activeIndex && group.other = v.activeGroup then
    let _ ← modify .clear
    foldSequenceCancel activeLow
  else
    pure true

def toggleAction (group : ActionGroup) (actionIndex : UInt8) : Code Unit := do
  let v ← modify id
  if v.isLit group actionIndex then
    if ← foldSequenceCancel activeLow then
      let _ ← modify (.press group actionIndex)
  else if ← activateAction activeLow group actionIndex then
    let _ ← modify (.press group actionIndex)

/-- `handle_unfold_action_button` and `handle_fold_action_button` -/
def handleActionButton (group : ActionGroup) (actionIndex : UInt8) : Code Unit := do
  if actionIndex < 1 || actionIndex > 6 then
    return
  if ← hydraulicActuationInhibited then
    return
  if ← leaveOtherGroup activeLow group then
    toggleAction activeLow group actionIndex

/-- What the user presses: a soft key or a tab, the button of an action, or one of a plant mode. -/
inductive KeyEvent
  | screen
  | action (group : ActionGroup) (actionIndex : UInt8)
  | plant (mode : PlantMode)

/-- `handle_softkey_event` and `handle_button_event` -/
def handle : KeyEvent → Code Unit
  | .screen => do
    let _ ← foldSequenceCancel activeLow
    let _ ← modify .clear
  | .action group actionIndex => handleActionButton activeLow group actionIndex
  | .plant mode => do
    if !(← hasFault) then
      let _ ← plantControlSet activeLow mode

/-- One iteration of the main loop. -/
def iteration : Code Unit := do
  let fault ← hasFault
  let wasActuationInhibited ← .ask (Access.exchangeInhibited fault)
  if fault && !wasActuationInhibited then
    let _ ← foldSequenceCancel activeLow
    let _ ← modify .clear

abbrev Latches := Port → UInt8

/-- A value that was given to a port, and whether a fault had been recorded before. -/
structure PortWrite where
  port : Port
  value : UInt8
  afterFault : Bool

structure Shared where
  vars : Variables := {}
  hydraulicActuationInhibited : Bool := true
  faulted : Bool
  /-- The output bus is locked. -/
  busy : Bool := false
  latches : Latches
  writes : List PortWrite := []

/-- A failed write may have reached the port all the same. -/
structure Outcome where
  succeeds : Bool
  landed : Bool

def Shared.serve (outcome : Outcome) (s : Shared) : (a : Access) → Option (a.Answer × Shared)
  | .lock =>
    if s.busy then none
    else if outcome.succeeds then some (true, { s with busy := true })
    else some (false, { s with faulted := true })
  | .unlock => some (true, { s with busy := false })
  | .write port value => some (outcome.succeeds,
      { s with
        faulted := s.faulted || !outcome.succeeds
        latches := if outcome.succeeds || outcome.landed then Function.update s.latches port value
          else s.latches
        writes := s.writes ++ [⟨port, value, s.faulted⟩] })
  | .hasFault => some (s.faulted, s)
  | .inhibited => some (s.hydraulicActuationInhibited, s)
  | .exchangeInhibited inhibited =>
    some (s.hydraulicActuationInhibited, { s with hydraulicActuationInhibited := inhibited })
  | .modify change => some (s.vars, { s with vars := change s.vars })

/-- The thread that calls the handlers, and the main loop. -/
structure Planter where
  terminal : Code Unit := .done ()
  mainLoop : Code Unit := .done ()
  shared : Shared

inductive Turn
  | event (event : KeyEvent)
  | iterate
  | terminal (outcome : Outcome)
  | mainLoop (outcome : Outcome)

def Planter.perform (p : Planter) : Turn → Planter
  | .event event =>
    match p.terminal with
    | .done _ => { p with terminal := handle activeLow event }
    | _ => p
  | .iterate =>
    match p.mainLoop with
    | .done _ => { p with mainLoop := iteration activeLow }
    | _ => p
  | .terminal outcome =>
    let (terminal, shared) := p.terminal.step (Shared.serve outcome) p.shared
    { p with terminal, shared }
  | .mainLoop outcome =>
    let (mainLoop, shared) := p.mainLoop.step (Shared.serve outcome) p.shared
    { p with mainLoop, shared }

def planter : Machine Planter Turn Unit where
  step p turn := (p.perform activeLow turn, [])

def off : Latches := fun _ => relayOutputByte activeLow 0

/-- As `fold_sequence_init` and `plant_control_init` leave it. -/
def started (faulted : Bool) : Planter where
  shared := { faulted, latches := off activeLow }

end Isobus.Example1200PT.Hydraulics
