import Isobus.Can.ReceivedMessages
import Isobus.VirtualTerminalClient.StateTracker

/-!
# The command queue of a virtual terminal client

`isobus_virtual_terminal_client.cpp`: commands that wait for the answer to the one that was sent
before.  A command is a value with a buffer.
-/

namespace Isobus.VirtualTerminalClient

open Isobus.Can

def Priority5 : UInt32 := 5

/-- The time in milliseconds after which an answer is not waited for any more. -/
def COMMAND_TIMEOUT_MS : UInt32 := 1500

/-- The bytes behind the function code in which similar commands agree. -/
def comparedBytes (function : UInt8) : List Nat :=
  match function with
  | 0xA0 | 0xA1 | 0xA6 | 0xA7 | 0xA8 | 0xB3 | 0xA9 | 0xAA | 0xAB | 0xAC | 0xAD | 0xB0
  | 0xB7 => [1, 2]
  | 0xA5 | 0xB4 => [1, 2, 3, 4]
  | 0xAE | 0xAF | 0xB1 | 0xBD | 0xB6 | 0xB8 | 0xB9 => [1, 2, 3]
  | 0xBE => [1]
  | _ => []

def areCommandsSimilar (first second : List UInt8) : Bool :=
  first.length = second.length ∧ first.getD 0 0 = second.getD 0 0 ∧
    ∀ i ∈ comparedBytes (first.getD 0 0), first.getD i 0 = second.getD i 0

/-- The part of a client that commands go through. -/
structure CommandClient (γ : Type) where
  myControlFunction : CFRef
  partnerControlFunction : CFRef
  connected : Bool
  commandQueue : List γ := []
  commandAwaitingResponse : Bool := false
  lastCommandTimestamp : UInt32 := 0
  unsupportedFunctions : List UInt8 := []

/-- A client after a call, the value that was returned, and the commands that were sent. -/
structure Commanded (γ : Type) where
  client : CommandClient γ
  retVal : Bool
  sent : List γ := []

namespace CommandClient

variable {γ : Type} (buffer : γ → List UInt8) (env : Environment) (client : CommandClient γ)

def commandFrame (data : List UInt8) : TransmitFrame where
  parameterGroupNumber := ECUtoVirtualTerminal
  data := data
  source := some client.myControlFunction
  destination := some client.partnerControlFunction
  priority := Priority5

def awaits : Bool :=
  client.commandAwaitingResponse &&
    !env.timeExpired client.lastCommandTimestamp COMMAND_TIMEOUT_MS

def sendCommand (command : γ) : Commanded γ :=
  if client.awaits env then { client := client, retVal := false }
  else
    let free := { client with commandAwaitingResponse := false }
    if free.connected ∧ env.send (free.commandFrame (buffer command)) then
      { client := { free with commandAwaitingResponse := true, lastCommandTimestamp := env.now }
        retVal := true
        sent := [command] }
    else { client := free, retVal := false }

def replaceLoop (data : γ) : Bool → List γ → Bool × List γ
  | alreadyReplaced, [] => (alreadyReplaced, [])
  | alreadyReplaced, command :: commands =>
    if areCommandsSimilar (buffer command) (buffer data) then
      let rest := replaceLoop data true commands
      (rest.1, if alreadyReplaced then rest.2 else data :: rest.2)
    else
      let rest := replaceLoop data alreadyReplaced commands
      (rest.1, command :: rest.2)

def replaceCommand (commandQueue : List γ) (data : γ) : Bool × List γ :=
  replaceLoop buffer data false commandQueue

def enqueued (commandQueue : List γ) (data : γ) (replace : Bool) : List γ :=
  let replaced := replaceCommand buffer commandQueue data
  if replace && replaced.1 then replaced.2 else commandQueue ++ [data]

def isFunctionUnsupported (functionCode : UInt8) : Bool :=
  client.unsupportedFunctions.contains functionCode

def tryCommand (data : γ) : Commanded γ :=
  if client.connected then client.sendCommand buffer env data
  else { client := client, retVal := false }

def queueCommand (data : γ) (replace : Bool) : Commanded γ :=
  if client.isFunctionUnsupported ((buffer data).getD 0 0) then
    { client := client, retVal := false }
  else
    let tried := client.tryCommand buffer env data
    if tried.retVal then tried
    else
      { client :=
          { tried.client with
            commandQueue := enqueued buffer tried.client.commandQueue data replace }
        retVal := true }

def processLoop : CommandClient γ → List γ → CommandClient γ × List γ × List γ
  | client, [] => (client, [], [])
  | client, command :: commands =>
    let tried := client.sendCommand buffer env command
    let rest := processLoop tried.client commands
    if tried.retVal then (rest.1, command :: rest.2.1, rest.2.2)
    else (rest.1, rest.2.1, command :: rest.2.2)

def processCommandQueue : CommandClient γ × List γ :=
  if client.connected then
    let processed := processLoop buffer env client client.commandQueue
    ({ processed.1 with commandQueue := processed.2.2 }, processed.2.1)
  else (client, [])

def processResponse : CommandClient γ × List γ :=
  { client with commandAwaitingResponse := false }.processCommandQueue buffer env

def processUnsupportedFunction (unsupportedFunction : UInt8) : CommandClient γ :=
  { client with
    unsupportedFunctions :=
      if client.isFunctionUnsupported unsupportedFunction then client.unsupportedFunctions
      else client.unsupportedFunctions ++ [unsupportedFunction] }

variable {buffer env client}

structure Tried (client : CommandClient γ) (command : γ) (tried : Commanded γ) : Prop where
  commandQueue : tried.client.commandQueue = client.commandQueue
  sent : tried.sent = if tried.retVal then [command] else []

theorem tried_sendCommand (command : γ) :
    client.Tried command (client.sendCommand buffer env command) := by
  simp only [sendCommand]
  split_ifs
  · exact ⟨rfl, rfl⟩
  · exact ⟨rfl, rfl⟩
  · exact ⟨rfl, rfl⟩

theorem tried_tryCommand (data : γ) :
    client.Tried data (client.tryCommand buffer env data) := by
  rw [tryCommand]
  split_ifs
  · exact tried_sendCommand data
  · exact ⟨rfl, rfl⟩

theorem queueCommand_cases (data : γ) (replace : Bool) :
    let queued := client.queueCommand buffer env data replace
    (queued.retVal = false ∧ queued.sent = [] ∧
        queued.client.commandQueue = client.commandQueue) ∨
      (queued.retVal = true ∧ queued.sent = [data] ∧
        queued.client.commandQueue = client.commandQueue) ∨
      (queued.retVal = true ∧ queued.sent = [] ∧
        queued.client.commandQueue = enqueued buffer client.commandQueue data replace) := by
  have htried : client.Tried data (client.tryCommand buffer env data) := tried_tryCommand data
  simp only [queueCommand]
  by_cases hunsupported : client.isFunctionUnsupported ((buffer data).getD 0 0) = true
  · rw [if_pos hunsupported]
    exact .inl ⟨rfl, rfl, rfl⟩
  · rw [if_neg hunsupported]
    by_cases hsent : (client.tryCommand buffer env data).retVal = true
    · rw [if_pos hsent]
      exact .inr (.inl ⟨hsent, htried.sent.trans (if_pos hsent), htried.commandQueue⟩)
    · rw [if_neg hsent]
      exact .inr (.inr ⟨rfl, rfl, congrArg (enqueued buffer · data replace) htried.commandQueue⟩)

section Replacing

variable {data : γ} {p : γ → Bool}

variable {commands : List γ}

theorem filter_replaceLoop_of_not (hdata : p data = false)
    (hp : ∀ command ∈ commands,
      areCommandsSimilar (buffer command) (buffer data) = true → p command = false)
    (alreadyReplaced : Bool) :
    (replaceLoop buffer data alreadyReplaced commands).2.filter p = commands.filter p := by
  induction commands generalizing alreadyReplaced with
  | nil => rfl
  | cons command commands ih =>
    have hrest := ih fun other hmem => hp other (List.mem_cons_of_mem _ hmem)
    have hfirst := hp command List.mem_cons_self
    simp only [replaceLoop]
    by_cases hsimilar : areCommandsSimilar (buffer command) (buffer data) = true
    · rw [if_pos hsimilar, List.filter_cons_of_neg (Bool.eq_false_iff.mp (hfirst hsimilar))]
      dsimp only
      split_ifs
      · exact hrest true
      · rw [List.filter_cons_of_neg (Bool.eq_false_iff.mp hdata)]
        exact hrest true
    · rw [if_neg hsimilar]
      dsimp only
      rw [List.filter_cons, List.filter_cons, hrest alreadyReplaced]

theorem replaceLoop_of_similar (hdata : p data = true)
    (hp : ∀ command ∈ commands, areCommandsSimilar (buffer command) (buffer data) = p command)
    (alreadyReplaced : Bool) :
    (replaceLoop buffer data alreadyReplaced commands).1 = (alreadyReplaced || commands.any p) ∧
      (replaceLoop buffer data alreadyReplaced commands).2.filter p =
        if !alreadyReplaced && commands.any p then [data] else [] := by
  induction commands generalizing alreadyReplaced with
  | nil => exact ⟨(Bool.or_false _).symm, by simp [replaceLoop]⟩
  | cons command commands ih =>
    have hrest := ih fun other hmem => hp other (List.mem_cons_of_mem _ hmem)
    simp only [replaceLoop]
    rw [hp command List.mem_cons_self, List.any_cons]
    cases hfirst : p command with
    | true =>
      obtain ⟨hflag, hfilter⟩ := hrest true
      constructor
      · simp [hflag]
      · cases alreadyReplaced with
        | true => simpa using hfilter
        | false => simpa [List.filter_cons, hdata] using hfilter
    | false =>
      obtain ⟨hflag, hfilter⟩ := hrest alreadyReplaced
      constructor
      · simpa using hflag
      · simpa [List.filter_cons, hfirst] using hfilter

theorem filter_enqueued_of_not (hdata : p data = false)
    (hp : ∀ command ∈ commands,
      areCommandsSimilar (buffer command) (buffer data) = true → p command = false) :
    (enqueued buffer commands data true).filter p = commands.filter p := by
  simp only [enqueued]
  split_ifs
  · exact filter_replaceLoop_of_not hdata hp false
  · rw [List.filter_append, List.filter_cons_of_neg (Bool.eq_false_iff.mp hdata), List.filter_nil,
      List.append_nil]

theorem filter_enqueued_of_similar (hdata : p data = true)
    (hp : ∀ command ∈ commands, areCommandsSimilar (buffer command) (buffer data) = p command) :
    (enqueued buffer commands data true).filter p = [data] := by
  obtain ⟨hflag, hfilter⟩ := replaceLoop_of_similar hdata hp false
  rw [Bool.false_or] at hflag
  simp only [enqueued, replaceCommand, hflag, Bool.true_and]
  by_cases hany : commands.any p = true
  · rw [if_pos hany, hfilter, hany]
    rfl
  · rw [if_neg hany, List.filter_append, List.filter_cons_of_pos hdata]
    have hnone : commands.filter p = [] := by
      apply List.filter_eq_nil_iff.mpr
      intro command hmem hcommand
      exact hany (List.any_eq_true.mpr ⟨command, hmem, hcommand⟩)
    rw [hnone]
    rfl

theorem mem_replaceLoop {command : γ} {alreadyReplaced : Bool}
    (h : command ∈ (replaceLoop buffer data alreadyReplaced commands).2) :
    command ∈ commands ∨ command = data := by
  induction commands generalizing alreadyReplaced with
  | nil => exact .inl h
  | cons first commands ih =>
    simp only [replaceLoop] at h
    split_ifs at h with hsimilar hreplaced
    · exact (ih h).imp_left (List.mem_cons_of_mem first)
    · cases List.mem_cons.mp h with
      | inl heq => exact .inr heq
      | inr hrest => exact (ih hrest).imp_left (List.mem_cons_of_mem first)
    · cases List.mem_cons.mp h with
      | inl heq => exact .inl (heq ▸ List.mem_cons_self)
      | inr hrest => exact (ih hrest).imp_left (List.mem_cons_of_mem first)

theorem mem_enqueued {command : γ} (h : command ∈ enqueued buffer commands data true) :
    command ∈ commands ∨ command = data := by
  simp only [enqueued] at h
  split_ifs at h
  · exact mem_replaceLoop h
  · exact (List.mem_append.mp h).imp_right List.mem_singleton.mp

theorem data_mem_replaceLoop (h : (replaceLoop buffer data false commands).1 = true) :
    data ∈ (replaceLoop buffer data false commands).2 := by
  induction commands with
  | nil => cases h
  | cons first commands ih =>
    simp only [replaceLoop] at h ⊢
    by_cases hsimilar : areCommandsSimilar (buffer first) (buffer data) = true
    · rw [if_pos hsimilar]
      exact List.mem_cons_self
    · rw [if_neg hsimilar] at h ⊢
      exact List.mem_cons_of_mem first (ih h)

theorem data_mem_enqueued (commands : List γ) :
    data ∈ enqueued buffer commands data true := by
  simp only [enqueued, Bool.true_and]
  split_ifs with hreplaced
  · exact data_mem_replaceLoop hreplaced
  · exact List.mem_append_right commands List.mem_cons_self

end Replacing

theorem perm_processLoop (commands : List γ) :
    ((processLoop buffer env client commands).2.1 ++
      (processLoop buffer env client commands).2.2).Perm commands := by
  induction commands generalizing client with
  | nil => exact .refl _
  | cons command commands ih =>
    simp only [processLoop]
    split_ifs
    · exact ih.cons command
    · exact List.perm_middle.trans (ih.cons command)

theorem filter_processLoop {p : γ → Bool} {commands : List γ}
    (hone : (commands.filter p).length ≤ 1) :
    ((processLoop buffer env client commands).2.1 ++
      (processLoop buffer env client commands).2.2).filter p = commands.filter p := by
  have hperm : (((processLoop buffer env client commands).2.1 ++
      (processLoop buffer env client commands).2.2).filter p).Perm (commands.filter p) :=
    (perm_processLoop commands).filter p
  obtain hnone | hsome : commands.filter p = [] ∨ ∃ command, commands.filter p = [command] := by
    cases hfilter : commands.filter p with
    | nil => exact .inl rfl
    | cons command rest =>
      rw [hfilter, List.length_cons] at hone
      have hrest : rest = [] := List.eq_nil_of_length_eq_zero (by omega)
      exact .inr ⟨command, by rw [hrest]⟩
  · rw [hnone] at hperm
    rw [hperm.eq_nil, hnone]
  · obtain ⟨command, hcommand⟩ := hsome
    rw [hcommand] at hperm
    rw [hperm.eq_singleton, hcommand]

theorem perm_processCommandQueue :
    ((client.processCommandQueue buffer env).2 ++
      (client.processCommandQueue buffer env).1.commandQueue).Perm client.commandQueue := by
  rw [processCommandQueue]
  split_ifs
  · exact perm_processLoop _
  · exact .refl _

theorem filter_processCommandQueue {p : γ → Bool}
    (hone : (client.commandQueue.filter p).length ≤ 1) :
    ((client.processCommandQueue buffer env).2 ++
      (client.processCommandQueue buffer env).1.commandQueue).filter p =
        client.commandQueue.filter p := by
  rw [processCommandQueue]
  split_ifs
  · exact filter_processLoop hone
  · rfl

end CommandClient

end Isobus.VirtualTerminalClient
