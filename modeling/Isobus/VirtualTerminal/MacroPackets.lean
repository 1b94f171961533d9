import Isobus.VirtualTerminal.MacroTermination

namespace Isobus.VirtualTerminal.Server

open Isobus.Lib Isobus.Lib.Reader

def admits (data : List UInt8) : Bool :=
  8 ≤ data.length ∨ (5 < data.length ∧ data.head? = some Macro.changeStringValue)

def processRxMessage (data : List UInt8) : List Task :=
  if admits data then [.receive data] else []

def Receives (version : UInt8) : ClientObjects → List (List UInt8) → ClientObjects → Prop
  | objects, [], objects' => objects' = objects
  | objects, data :: messages, objects' =>
    ∃ between, (terminal version).Completes objects (processRxMessage data) between ∧
      Receives version between messages objects'

variable {objects : ClientObjects} {bytes rest : List UInt8} {object : VTObject}

variable {version : UInt8} {ws : WorkingSetBase}

theorem receives_iff {objects' : ClientObjects} {messages : List (List UInt8)} :
    Receives version objects messages objects' ↔
      (terminal version).Completes objects ((messages.filter admits).map .receive) objects' := by
  induction messages generalizing objects with
  | nil => exact Worker.completes_nil.symm
  | cons data messages ih =>
    have hsplit : ((data :: messages).filter admits).map Task.receive =
        processRxMessage data ++ (messages.filter admits).map .receive := by
      rw [List.filter_cons, processRxMessage]
      split_ifs <;> rfl
    rw [hsplit, Worker.completes_append, Receives]
    exact exists_congr fun between => and_congr Iff.rfl ih

/-- Every packet that would be received is eight bytes long and among those that are counted. -/
def ExecutesAll (commandPackets : List (List UInt8)) : Prop :=
  ∀ (i : Nat) (commandPacket : List UInt8), commandPackets[i]? = some commandPacket →
    admits commandPacket → commandPacket.length = 8 ∧ i < commandPackets.length % 256

theorem admits_of_length {data : List UInt8} (h : data.length = 8) : admits data = true := by
  simp only [admits, decide_eq_true_eq]
  omega

theorem executedPackets_eq (macroObject : Macro) :
    executedPackets macroObject =
      (macroObject.commandPackets.take (macroObject.commandPackets.length % 256)).filter
        fun commandPacket => commandPacket.length = 8 := by
  rw [executedPackets, UInt8.toNat_ofNat']

theorem executedPackets_eq_iff (macroObject : Macro) :
    executedPackets macroObject = macroObject.commandPackets.filter admits ↔
      ExecutesAll macroObject.commandPackets := by
  rw [executedPackets_eq]
  generalize macroObject.commandPackets = packets
  have hsplit := List.filter_append (p := admits) (packets.take (packets.length % 256))
    (packets.drop (packets.length % 256))
  rw [List.take_append_drop] at hsplit
  constructor
  · intro h i packet hi hadmits
    rw [hsplit] at h
    have hsublist : ((packets.take (packets.length % 256)).filter fun packet =>
        packet.length = 8).Sublist ((packets.take (packets.length % 256)).filter admits) :=
      List.monotone_filter_right _ fun packet hlength =>
        admits_of_length (of_decide_eq_true hlength)
    have hdropped : (packets.drop (packets.length % 256)).filter admits = [] := by
      have hle := hsublist.length_le
      rw [h, List.length_append] at hle
      exact List.length_eq_zero_iff.mp (by omega)
    rw [hdropped, List.append_nil] at h
    have hcounted : i < packets.length % 256 := by
      by_contra hlater
      refine List.filter_eq_nil_iff.mp hdropped packet ?_ hadmits
      refine List.mem_iff_getElem?.mpr ⟨i - packets.length % 256, ?_⟩
      rw [List.getElem?_drop, ← hi]
      congr 1
      omega
    refine ⟨?_, hcounted⟩
    have hmem : packet ∈ (packets.take (packets.length % 256)).filter admits :=
      List.mem_filter.mpr
        ⟨List.mem_iff_getElem?.mpr ⟨i, by rw [List.getElem?_take_of_lt hcounted, hi]⟩, hadmits⟩
    rw [← h] at hmem
    exact of_decide_eq_true (List.mem_filter.mp hmem).2
  · intro h
    have hdropped : (packets.drop (packets.length % 256)).filter admits = [] := by
      rw [List.filter_eq_nil_iff]
      intro packet hpacket hadmits
      obtain ⟨i, hi⟩ := List.mem_iff_getElem?.mp hpacket
      rw [List.getElem?_drop] at hi
      have := (h _ packet hi hadmits).2
      omega
    rw [hsplit, hdropped, List.append_nil]
    refine List.filter_congr fun packet hpacket => ?_
    rw [Bool.eq_iff_iff, decide_eq_true_eq]
    constructor
    · exact admits_of_length
    · intro hadmits
      obtain ⟨i, hi⟩ := List.mem_iff_getElem?.mp (List.mem_of_mem_take hpacket)
      exact (h i packet hi hadmits).1

inductive Loaded (version : UInt8) : ClientObjects → Prop
  | empty : Loaded version {}
  | component {objects : ClientObjects} {ws ws' : WorkingSetBase} {iopData rest : List UInt8} :
      Loaded version objects → ws.vtObjectTree = objects.vtObjectTree →
      ws.parseIopIntoObjects iopData = .accepted ws' rest →
      Loaded version { objects with vtObjectTree := ws'.vtObjectTree }
  | task {objects : ClientObjects} {task : Task} {led : ClientObjects × List Task} :
      Loaded version objects → (terminal version).perform objects task = some led →
      Loaded version led.1

def ValidPackets (objects : ClientObjects) : Prop :=
  ∀ objectID outline, objects.outline objectID = some outline →
    Macro.getAreCommandPacketsValid outline.commandPackets = true

theorem commandPackets_record {type : VirtualTerminalObjectType} {record : Record}
    (hrecord : type.record = some record) (hstarted : type ≠ .macroObject) (decodedID : UInt16)
    (header : List UInt8) (contents : Contents) :
    (record.object decodedID header contents).data.commandPackets = [] := by
  cases type <;> cases hrecord <;> first | rfl | exact absurd rfl hstarted

theorem readParts_commands {numberBytesToFollow : UInt16} {contents : Contents}
    (h : readParts {} [.commands numberBytesToFollow] bytes = .done contents rest) :
    Macro.getAreCommandPacketsValid contents.commandPackets = true := by
  obtain ⟨contents', _, hpart, hnil⟩ := bind_eq_done.mp h
  obtain ⟨rfl, rfl⟩ := Reading.done.inj hnil
  obtain ⟨_, _, -, hpart⟩ := bind_eq_done.mp hpart
  obtain ⟨packets, _, -, hpart⟩ := bind_eq_done.mp hpart
  obtain ⟨_, _, hvalid, hpart⟩ := bind_eq_done.mp hpart
  obtain ⟨rfl, rfl⟩ := Reading.done.inj hpart
  exact (demand_eq_done.mp hvalid).1

theorem validPackets_read {type : VirtualTerminalObjectType} {decodedID : UInt16}
    (h : ws.objectReader type decodedID bytes = .done object rest) :
    Macro.getAreCommandPacketsValid object.outline.commandPackets = true := by
  obtain ⟨record, hrecord, -, hread⟩ := WorkingSetBase.objectReader_done h
  obtain ⟨header, middle, contents, -, -, -, -, hparts, -, rfl⟩ := Record.read_done hread
  by_cases hstarted : type = .macroObject
  · subst hstarted
    cases hrecord
    exact readParts_commands hparts
  · rw [VTObject.outline_eq]
    dsimp only
    rw [commandPackets_record hrecord hstarted]
    rfl

theorem outline_enter (ws : WorkingSetBase) (type : VirtualTerminalObjectType)
    (decodedID : UInt16) (focusedObject : UInt16) :
    (ClientObjects.mk (ws.enter type decodedID).vtObjectTree focusedObject).outline =
      (ClientObjects.mk ws.vtObjectTree focusedObject).outline := by
  have hlookUp : (ClientObjects.mk ws.lookUpWorkingSet.vtObjectTree focusedObject).outline =
      (ClientObjects.mk ws.vtObjectTree focusedObject).outline := by
    rw [WorkingSetBase.lookUpWorkingSet]
    split_ifs
    · rfl
    · exact ClientObjects.outline_touch ⟨ws.vtObjectTree, focusedObject⟩ ws.workingSetID
  rw [WorkingSetBase.enter]
  split_ifs
  · exact hlookUp
  · exact hlookUp
  · rfl

theorem validPackets_setObject (h : ValidPackets objects) {objectID : UInt16}
    (hobject : Macro.getAreCommandPacketsValid object.outline.commandPackets = true) :
    ValidPackets (objects.setObject objectID object) := by
  intro objectID' outline houtline
  rw [ClientObjects.outline, ClientObjects.getObjectById_setObject] at houtline
  split_ifs at houtline
  · cases houtline
    exact hobject
  · exact h objectID' outline houtline

theorem validPackets_parseNextObject {ws' : WorkingSetBase} {focusedObject : UInt16}
    (h : ValidPackets ⟨ws.vtObjectTree, focusedObject⟩)
    (hparse : ws.parseNextObject bytes = .accepted ws' rest) :
    ValidPackets ⟨ws'.vtObjectTree, focusedObject⟩ := by
  obtain ⟨-, type, object, -, hread, rfl⟩ := WorkingSetBase.parseNextObject_accepted hparse
  have hentered : ValidPackets
      ⟨(ws.enter type (uint16 bytes 0)).vtObjectTree, focusedObject⟩ := by
    intro objectID outline houtline
    rw [outline_enter] at houtline
    exact h objectID outline houtline
  exact validPackets_setObject hentered (validPackets_read hread)

theorem validPackets_parseObjects {ws' : WorkingSetBase} {focusedObject : UInt16}
    (h : ValidPackets ⟨ws.vtObjectTree, focusedObject⟩)
    (hparse : ws.parseObjects bytes = .accepted ws' rest) :
    ValidPackets ⟨ws'.vtObjectTree, focusedObject⟩ := by
  induction ws, bytes using WorkingSetBase.parseObjects.induct with
  | case1 ws =>
    rw [WorkingSetBase.parseObjects_nil] at hparse
    obtain ⟨rfl, -⟩ := Parsing.accepted.inj hparse
    exact h
  | case2 ws bytes hne ws₁ rest₁ hnext ih =>
    rw [WorkingSetBase.parseObjects_of_accepted hne hnext] at hparse
    exact ih (validPackets_parseNextObject h hnext) hparse
  | case3 ws bytes hne ws₁ hnext =>
    rw [WorkingSetBase.parseObjects_of_refused hne hnext] at hparse
    cases hparse
  | case4 ws bytes hne hnext =>
    rw [WorkingSetBase.parseObjects_of_outside hne hnext] at hparse
    cases hparse

theorem loaded_validPackets (h : Loaded version objects) : ValidPackets objects := by
  induction h with
  | empty => exact fun _ _ houtline => by cases houtline
  | component _ htree hparse ih =>
    rw [WorkingSetBase.parseIopIntoObjects] at hparse
    split_ifs at hparse
    exact validPackets_parseObjects (htree ▸ ih) hparse
  | task _ hperform ih =>
    intro objectID outline houtline
    rw [outline_perform hperform] at houtline
    exact ih objectID outline houtline

theorem touch_of_some {objectID : UInt16} (h : objects.getObjectById objectID = some object) :
    objects.touch objectID = objects := by
  have htree : objects.vtObjectTree objectID = some (some object) := by
    cases hentry : objects.vtObjectTree objectID with
    | none =>
      rw [ClientObjects.getObjectById, ObjectTree.get, hentry] at h
      cases h
    | some entry =>
      rw [ClientObjects.getObjectById, ObjectTree.get, hentry] at h
      exact congrArg some h
  have hsame : objects.vtObjectTree.touch objectID = objects.vtObjectTree := by
    funext objectID'
    rw [ObjectTree.touch, ObjectTree.set]
    split_ifs with heq
    · rw [heq, htree]
      exact congrArg some h
    · rfl
  rw [ClientObjects.touch, hsame]

theorem completes_executeMacro {objects' : ClientObjects} {macroID : UInt16}
    {macroObject : Macro} (hobject : objects.getObjectById macroID = some object)
    (hdata : object.data = .macroObject macroObject)
    (hvalid : Macro.getAreCommandPacketsValid macroObject.commandPackets = true) :
    (terminal version).Completes objects [.executeMacro macroID] objects' ↔
      (terminal version).Completes objects
        ((executedPackets macroObject).map .receive) objects' := by
  have hstart : startMacro objects macroID = some ((executedPackets macroObject).map .receive) := by
    obtain ⟨objectID, width, height, backgroundColor, children, macros, data⟩ := object
    obtain rfl : data = .macroObject macroObject := hdata
    rw [startMacro, hobject]
    exact if_pos hvalid
  have hperform : (terminal version).perform objects (.executeMacro macroID) =
      some (objects, (executedPackets macroObject).map .receive) := by
    change some (objects.touch macroID, (startMacro objects macroID).getD []) = _
    rw [touch_of_some hobject, hstart, Option.getD_some]
  rw [Worker.completes_cons, hperform]
  constructor
  · rintro ⟨led, hled, h⟩
    cases hled
    rwa [List.append_nil] at h
  · intro h
    exact ⟨_, rfl, by rwa [List.append_nil]⟩

/-- If the packets of a macro of an accepted pool are all executed, then executing it comes to the
same as receiving them one by one. -/
theorem executed_as_received {version : UInt8} {objects : ClientObjects} {macroID : UInt16}
    {object : VTObject} {macroObject : Macro} (hloaded : Loaded version objects)
    (hobject : objects.getObjectById macroID = some object)
    (hdata : object.data = .macroObject macroObject)
    (hall : ExecutesAll macroObject.commandPackets) (objects' : ClientObjects) :
    (terminal version).Completes objects [.executeMacro macroID] objects' ↔
      Receives version objects macroObject.commandPackets objects' := by
  have hvalid : Macro.getAreCommandPacketsValid macroObject.commandPackets = true := by
    have := loaded_validPackets hloaded macroID object.outline (by
      rw [ClientObjects.outline, hobject, Option.map_some])
    rwa [VTObject.outline_eq, hdata] at this
  rw [completes_executeMacro hobject hdata hvalid,
    (executedPackets_eq_iff macroObject).mpr hall, receives_iff]

def stringPool (command : List UInt8) : List UInt8 :=
  [2, 0, 22, 4, 0, 97, 97, 97, 97] ++ ([1, 0, 28, UInt8.ofNat command.length, 0] ++ command)

def stringTree (command : List UInt8) : ObjectTree :=
  (ObjectTree.empty.set 2
    (some { objectID := 2, data := .stringVariable { value := [97, 97, 97, 97] } })).set 1
    (some { objectID := 1, data := .macroObject { commandPackets := [command] } })

theorem stringPool_accepted {command : List UInt8}
    (hvariable : WorkingSetBase.parseNextObject {} (stringPool command) =
      .accepted (WorkingSetBase.addOrReplaceObject {}
        { objectID := 2, data := .stringVariable { value := [97, 97, 97, 97] } })
        ([1, 0, 28, UInt8.ofNat command.length, 0] ++ command))
    (h : Macro.Commands (decode16 (UInt8.ofNat command.length) 0) command [command])
    (hstring : byte command 0 = Macro.changeStringValue) :
    WorkingSetBase.parseIopIntoObjects {} (stringPool command) =
      .accepted { vtObjectTree := stringTree command } [] := by
  have hstored : Macro.stored [command] = [command] := by
    rw [Macro.stored, List.filter_cons_of_pos (by rw [hstring]; decide), List.filter_nil]
  have hvalid : Macro.getAreCommandPacketsValid (Macro.stored [command]) = true := by
    rw [hstored]
    cases command with
    | nil => cases hstring
    | cons function rest =>
      obtain rfl : function = Macro.changeStringValue := hstring
      rfl
  have hflatten : [command].flatten = command := List.append_nil command
  have hstarted (ws : WorkingSetBase) :
      ws.parseNextObject ([1, 0, 28, UInt8.ofNat command.length, 0] ++ command) =
        .accepted (ws.addOrReplaceObject
          { objectID := 1, data := .macroObject { commandPackets := [command] } }) [] := by
    have hparse := parseNextObject_macro ws 1 0 [command]
      (by rwa [hflatten]) hvalid []
    rwa [hflatten, hstored, List.append_nil] at hparse
  have hne : stringPool command ≠ [] := List.cons_ne_nil _ _
  have hbehind : [1, 0, 28, UInt8.ofNat command.length, 0] ++ command ≠ [] :=
    List.cons_ne_nil _ _
  rw [WorkingSetBase.parseIopIntoObjects, if_neg hne,
    WorkingSetBase.parseObjects_of_accepted hne hvariable,
    WorkingSetBase.parseObjects_of_accepted hbehind (hstarted _),
    WorkingSetBase.parseObjects_nil]
  rfl

/-- The string variable 2 gets another value of four letters. -/
def longString : List UInt8 := [0xB3, 2, 0, 4, 0, 98, 98, 98, 98]

theorem longString_not_as_received : ∃ ws rest,
    WorkingSetBase.parseIopIntoObjects {} (stringPool longString) = .accepted ws rest ∧
      ws.getObjectById 1 =
        some { objectID := 1, data := .macroObject { commandPackets := [longString] } } ∧
      ∃ objects', (terminal 6).Completes { vtObjectTree := ws.vtObjectTree } [.executeMacro 1]
          objects' ∧
        ¬Receives 6 { vtObjectTree := ws.vtObjectTree } [longString] objects' := by
  refine ⟨_, _, stringPool_accepted rfl ⟨rfl, rfl, by decide⟩ rfl, rfl,
    { vtObjectTree := stringTree longString }, ?_, ?_⟩
  · rw [completes_executeMacro rfl rfl (by decide)]
    exact Worker.completes_nil.mpr rfl
  · intro h
    obtain ⟨led, hperform, h⟩ := Worker.completes_cons.mp (receives_iff.mp h)
    cases hperform
    obtain ⟨led, hperform, h⟩ := Worker.completes_cons.mp h
    cases hperform
    have hsame := Worker.completes_nil.mp h
    have hvalue := congrArg (fun objects => objects.getObjectById 2) hsame
    exact absurd (Option.some.inj hvalue) (by decide)

/-- The same with three letters, which take eight bytes. -/
def shortString : List UInt8 := [0xB3, 2, 0, 3, 0, 98, 98, 98]

theorem shortString_executesAll : ExecutesAll [shortString] := by
  intro i commandPacket hpacket _
  obtain ⟨rfl, rfl⟩ : i = 0 ∧ commandPacket = shortString := by
    cases i with
    | zero => exact ⟨rfl, (Option.some.inj hpacket).symm⟩
    | succ i => cases hpacket
  decide

theorem shortString_as_received : ∃ objects',
    (terminal 6).Completes { vtObjectTree := stringTree shortString } [.executeMacro 1] objects' ∧
      Receives 6 { vtObjectTree := stringTree shortString } [shortString] objects' ∧
      objects'.getObjectById 2 =
        some { objectID := 2, data := .stringVariable { value := [98, 98, 98, 0x20] } } := by
  have hloaded : Loaded 6 { vtObjectTree := stringTree shortString } :=
    .component .empty rfl (stringPool_accepted rfl ⟨rfl, rfl, by decide⟩ rfl)
  refine ⟨_, ⟨3, rfl⟩, ?_, rfl⟩
  have hstarted : ClientObjects.getObjectById { vtObjectTree := stringTree shortString } 1 =
      some { objectID := 1, data := .macroObject { commandPackets := [shortString] } } := rfl
  exact (executed_as_received hloaded hstarted rfl shortString_executesAll _).mp ⟨3, rfl⟩

end Isobus.VirtualTerminal.Server
