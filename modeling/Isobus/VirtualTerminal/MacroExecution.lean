import Isobus.VirtualTerminal.Execution

/-!
# Execution of macros

The types of the objects, their macros and the commands of the macros stay what they are while
commands are executed, and with them which macro can start which.
-/

namespace Isobus.VirtualTerminal

open Isobus.Lib

structure Outline where
  type : VirtualTerminalObjectType
  macros : List MacroMetadata
  commandPackets : List (List UInt8)
  deriving DecidableEq

def ObjectData.commandPackets : ObjectData → List (List UInt8)
  | macroObject data => data.commandPackets
  | _ => []

def VTObject.outline (object : VTObject) : Outline :=
  ⟨object.getObjectType, object.macros, object.data.commandPackets⟩

def KeepsOutline (change : VTObject → Except UInt8 VTObject) : Prop :=
  ∀ object object', change object = .ok object' → object'.outline = object.outline

namespace VTObject

@[simp] theorem outline_eq (object : VTObject) :
    object.outline =
      ⟨object.data.getObjectType, object.macros, object.data.commandPackets⟩ := rfl

theorem keepsOutline_changeNumericValue (value : UInt32) :
    KeepsOutline (changeNumericValue value) := by
  intro object object' h
  unfold changeNumericValue at h
  split at h <;> cases h
  all_goals
    rename_i hdata
    rw [outline_eq, outline_eq, hdata]
    rfl

theorem keepsOutline_hideShow (value : UInt8) : KeepsOutline (hideShow value) := by
  intro object object' h
  unfold hideShow at h
  split at h <;> cases h
  rename_i hdata
  rw [outline_eq, outline_eq, hdata]
  rfl

theorem keepsOutline_enableDisable (value : UInt8) : KeepsOutline (enableDisable value) := by
  intro object object' h
  unfold enableDisable at h
  split_ifs at h
  · split at h <;> cases h
    all_goals
      rename_i hdata
      rw [outline_eq, outline_eq, hdata]
      rfl

theorem keepsOutline_offsetAllChildrenWithId (childObjectID : UInt16) (xOffset yOffset : Int8) :
    KeepsOutline (offsetAllChildrenWithId childObjectID xOffset yOffset) := by
  intro object object' h
  unfold offsetAllChildrenWithId at h
  split_ifs at h
  cases h
  rfl

theorem keepsOutline_changeChildPosition (childObjectID newXPosition newYPosition : UInt16) :
    KeepsOutline (changeChildPosition childObjectID newXPosition newYPosition) := by
  intro object object' h
  unfold changeChildPosition at h
  split at h
  all_goals first
    | split_ifs at h <;> cases h <;> rfl
    | cases h

theorem keepsOutline_changeStringValue (value : List UInt8) :
    KeepsOutline (changeStringValue value) := by
  intro object object' h
  unfold changeStringValue at h
  split at h <;> cases h
  all_goals
    rename_i hdata
    rw [outline_eq, outline_eq, hdata]
    rfl

theorem keepsOutline_changeSize (newWidth newHeight : UInt16) :
    KeepsOutline (changeSize newWidth newHeight) := by
  intro object object' h
  unfold changeSize at h
  split at h
  all_goals first
    | split_ifs at h <;> cases h <;> rfl
    | cases h <;> rfl

theorem keepsOutline_changeListItem (index : UInt8) (newListItem : UInt16) (tree : ObjectTree) :
    KeepsOutline (changeListItem index newListItem tree) := by
  intro object object' h
  have hset (fits : VirtualTerminalObjectType → Bool)
      (h : object.setListItem index newListItem tree fits = .ok object') :
      object'.outline = object.outline := by
    unfold setListItem at h
    split_ifs at h
    cases h
    rfl
  unfold changeListItem at h
  split at h
  · exact hset _ h
  · exact hset _ h
  · cases h

theorem keepsOutline_changeFontAttributes (colour size type style : UInt8) :
    KeepsOutline (changeFontAttributes colour size type style) := by
  intro object object' h
  unfold changeFontAttributes at h
  split at h
  · rename_i hdata
    split_ifs at h
    cases h
    rw [outline_eq, outline_eq, hdata]
    rfl
  · cases h

theorem keepsOutline_changeLineAttributes (colour width : UInt8) (lineArt : UInt16) :
    KeepsOutline (changeLineAttributes colour width lineArt) := by
  intro object object' h
  unfold changeLineAttributes at h
  split at h <;> cases h
  rename_i hdata
  rw [outline_eq, outline_eq, hdata]
  rfl

theorem keepsOutline_changeFillAttributes (type colour : UInt8) (fillPatternID : UInt16)
    (fillPattern : Option VTObject) :
    KeepsOutline (changeFillAttributes type colour fillPatternID fillPattern) := by
  intro object object' h
  unfold changeFillAttributes at h
  split at h
  · rename_i hdata
    split_ifs at h
    cases h
    rw [outline_eq, outline_eq, hdata]
    rfl
  · cases h

theorem keepsOutline_changeBackgroundColour (colour : UInt8) :
    KeepsOutline (changeBackgroundColour colour) := by
  intro object object' h
  unfold changeBackgroundColour at h
  split at h <;> cases h <;> rfl

theorem keepsOutline_changePriority (priority : UInt8) :
    KeepsOutline (changePriority priority) := by
  intro object object' h
  unfold changePriority at h
  split at h
  · split_ifs at h
    cases h
    rfl
  · cases h

theorem keepsOutline_changePolygonPoint (index : UInt8) (x y : UInt16) :
    KeepsOutline (changePolygonPoint index x y) := by
  intro object object' h
  unfold changePolygonPoint at h
  split at h
  · rename_i hdata
    split_ifs at h
    cases h
    rw [outline_eq, outline_eq, hdata]
    rfl
  · cases h

theorem outline_applyTo {α : Type} {assignment : Assignment α} {object object' : VTObject}
    {wrap : α → ObjectData} (h : assignment.applyTo object wrap = some (.ok object'))
    (htype : ∀ data, (wrap data).getObjectType = object.data.getObjectType)
    (hpackets : ∀ data, (wrap data).commandPackets = object.data.commandPackets) :
    object'.outline = object.outline := by
  unfold Assignment.applyTo at h
  split at h <;> cases h
  · rfl
  · rfl
  · rfl
  · rw [outline_eq, outline_eq, htype, hpackets]

theorem outline_setAttribute {object object' : VTObject} {attributeID : UInt8} {raw : UInt32}
    {tree : ObjectTree} (h : object.setAttribute attributeID raw tree = some (.ok object')) :
    object'.outline = object.outline := by
  unfold setAttribute at h
  split at h
  all_goals rename_i hdata
  all_goals first
    | exact outline_applyTo h (fun _ => hdata ▸ rfl) fun _ => hdata ▸ rfl
    | cases h

end VTObject

namespace Server

namespace ClientObjects

def outline (objects : ClientObjects) (objectID : UInt16) : Option Outline :=
  (objects.getObjectById objectID).map VTObject.outline

@[simp] theorem getObjectById_touch (objects : ClientObjects) (objectID objectID' : UInt16) :
    (objects.touch objectID).getObjectById objectID' = objects.getObjectById objectID' :=
  ObjectTree.get_touch _ _ _

@[simp] theorem getObjectById_setObject (objects : ClientObjects) (objectID objectID' : UInt16)
    (object : VTObject) :
    (objects.setObject objectID object).getObjectById objectID' =
      if objectID' = objectID then some object else objects.getObjectById objectID' :=
  ObjectTree.get_set _ _ _ _

@[simp] theorem outline_touch (objects : ClientObjects) (objectID : UInt16) :
    (objects.touch objectID).outline = objects.outline := by
  funext objectID'
  rw [outline, outline, getObjectById_touch]

theorem outline_setObject {objects : ClientObjects} {objectID : UInt16} (object : VTObject)
    {object' : VTObject} (hobject : objects.getObjectById objectID = some object)
    (houtline : object'.outline = object.outline) :
    (objects.setObject objectID object').outline = objects.outline := by
  funext objectID'
  rw [outline, outline, getObjectById_setObject]
  split_ifs with heq
  · rw [heq, hobject, Option.map_some, Option.map_some, houtline]
  · rfl

end ClientObjects

def eventMacros (outline : Outline) (event : EventID) : List UInt16 :=
  ((outline.macros.take (UInt8.ofNat outline.macros.length).toNat).filter fun reference =>
    reference.event = event).map MacroMetadata.macroID

theorem processMacro_eq (object : VTObject) (event : EventID) :
    processMacro object event = (eventMacros object.outline event).map .executeMacro := by
  rw [eventMacros, List.map_map]
  rfl

structure Trigger where
  objectID : UInt16
  event : EventID
  accepts : VirtualTerminalObjectType → Bool

def Trigger.starts (objects : ClientObjects) (trigger : Trigger) (macroID : UInt16) : Prop :=
  ∃ outline, objects.outline trigger.objectID = some outline ∧ trigger.accepts outline.type ∧
    macroID ∈ eventMacros outline trigger.event

def hasNumericValue : VirtualTerminalObjectType → Bool
  | .inputBoolean | .inputNumber | .inputList | .outputNumber | .outputList | .outputMeter
  | .outputLinearBarGraph | .outputArchedBarGraph | .numberVariable | .objectPointer
  | .externalObjectPointer => true
  | _ => false

def hasChildPositions : VirtualTerminalObjectType → Bool
  | .button | .container | .alarmMask | .dataMask | .key | .workingSet | .auxiliaryInputType2
  | .windowMask => true
  | _ => false

def hasSize : VirtualTerminalObjectType → Bool
  | .outputMeter | .animation | .button | .container | .inputBoolean | .inputList | .inputString
  | .inputNumber | .outputArchedBarGraph | .outputEllipse | .outputLine | .outputLinearBarGraph
  | .outputList | .outputNumber | .outputPolygon | .outputRectangle | .outputString => true
  | _ => false

def hasBackgroundColour : VirtualTerminalObjectType → Bool
  | .auxiliaryInputType2 | .workingSet | .dataMask | .alarmMask | .softKeyMask | .key | .button
  | .inputNumber | .inputBoolean | .inputString | .outputString | .outputNumber
  | .graphicsContext | .windowMask => true
  | _ => false

def Command.trigger (version : UInt8) : Command → Option Trigger
  | .changeNumericValue objectID _ => some ⟨objectID, .onChangeValue, hasNumericValue⟩
  | .hideShowObject objectID value =>
    some ⟨objectID, if value = 0 then .onHide else .onShow, fun type => type = .container⟩
  | .changeChildLocation parentObjectID _ _ _ =>
    some ⟨parentObjectID, .changeChildLocation, fun _ => true⟩
  | .changeChildPosition parentObjectID _ _ =>
    some ⟨parentObjectID, .onChangeChildPosition, hasChildPositions⟩
  | .changeAttribute objectID _ _ => some ⟨objectID, .onChangeAttribute, fun _ => true⟩
  | .changeSize objectID _ _ => some ⟨objectID, .onChangeSize, hasSize⟩
  | .changeSoftKeyMask dataOrAlarmMaskID _ =>
    some ⟨dataOrAlarmMaskID, .onChangeSoftKeyMask,
      fun type => type = .alarmMask ∨ type = .dataMask⟩
  | .changeBackgroundColour objectID _ =>
    some ⟨objectID, .onChangeBackgroundColour, hasBackgroundColour⟩
  | .changePriority objectID _ =>
    some ⟨objectID, .onChangePriority, fun type => type = .alarmMask⟩
  | .selectInputObject objectID _ =>
    some ⟨objectID, selectionEvent objectID, isSelectable version⟩
  | _ => none

def Command.starts (version : UInt8) (objects : ClientObjects) (command : Command)
    (macroID : UInt16) : Prop :=
  command = .executeMacro macroID ∨ command = .executeExtendedMacro macroID ∨
    ∃ trigger, command.trigger version = some trigger ∧ trigger.starts objects macroID

structure Leads (objects : ClientObjects) (starts : UInt16 → Prop)
    (outcome : ClientObjects × List Task) : Prop where
  outline : outcome.1.outline = objects.outline
  tasks : ∀ task ∈ outcome.2, (∃ response, task = .respond response) ∨
    ∃ macroID, starts macroID ∧ task = .executeMacro macroID

variable {objects : ClientObjects} {starts : UInt16 → Prop} {object object' : VTObject} {objectID
  : UInt16} {response : UInt8 → List UInt8} {outcome : ClientObjects × List Task}

theorem leads_respond {objects' : ClientObjects} {response : List UInt8}
    (h : objects'.outline = objects.outline) :
    Leads objects starts (objects', [.respond response]) where
  outline := h
  tasks := fun _ htask => .inl ⟨response, List.mem_singleton.mp htask⟩

theorem leads_macros {objects' : ClientObjects} {response : List UInt8} {event : EventID}
    (h : objects'.outline = objects.outline)
    (hstarts : ∀ macroID ∈ eventMacros object.outline event, starts macroID) :
    Leads objects starts (objects', .respond response :: processMacro object event) where
  outline := h
  tasks := fun task htask => by
    rcases List.mem_cons.mp htask with rfl | htask
    · exact .inl ⟨response, rfl⟩
    · rw [processMacro_eq] at htask
      obtain ⟨macroID, hstarted, rfl⟩ := List.mem_map.mp htask
      exact .inr ⟨macroID, hstarts macroID hstarted, rfl⟩

variable {objects₀ : ClientObjects} {change : VTObject → Except UInt8 VTObject}

theorem leads_changeObject {missing : UInt8} {event : Option EventID}
    {accepts : VirtualTerminalObjectType → Bool} (hobjects : objects.outline = objects₀.outline)
    (hkeeps : KeepsOutline change)
    (haccepts : ∀ object object', change object = .ok object' → accepts object.getObjectType)
    (hstarts : ∀ event', event = some event' → ∀ macroID,
      Trigger.starts objects₀ ⟨objectID, event', accepts⟩ macroID → starts macroID) :
    Leads objects₀ starts (changeObject objects objectID missing response change event) := by
  have htouch : (objects.touch objectID).outline = objects₀.outline := by
    rw [ClientObjects.outline_touch, hobjects]
  unfold changeObject
  cases hobject : objects.getObjectById objectID with
  | none => exact leads_respond htouch
  | some object =>
    dsimp only
    cases hchange : change object with
    | error errorBitfield => exact leads_respond htouch
    | ok object' =>
      have houtline := hkeeps object object' hchange
      have hset : ((objects.touch objectID).setObject objectID object').outline =
          objects₀.outline := by
        rw [ClientObjects.outline_setObject object _ houtline, htouch]
        rw [ClientObjects.getObjectById_touch, hobject]
      cases event with
      | none => exact leads_respond hset
      | some event =>
        refine leads_macros hset fun macroID hstarted => hstarts event rfl macroID ?_
        refine ⟨object.outline, ?_, haccepts object object' hchange, ?_⟩
        · rw [← hobjects, ClientObjects.outline, hobject]
          rfl
        · rw [← houtline]
          exact hstarted

theorem leads_changeObject_quiet {missing : UInt8}
    (hobjects : objects.outline = objects₀.outline) (hkeeps : KeepsOutline change) :
    Leads objects₀ starts (changeObject objects objectID missing response change none) := by
  let anyType : VirtualTerminalObjectType → Bool := fun _ => true
  have haccepts : ∀ object object', change object = .ok object' → anyType object.getObjectType :=
    fun _ _ _ => rfl
  exact leads_changeObject hobjects hkeeps haccepts fun event hevent => absurd hevent (by simp)

theorem hasNumericValue_of_ok {value : UInt32}
    (h : VTObject.changeNumericValue value object = .ok object') :
    hasNumericValue object.getObjectType := by
  unfold VTObject.changeNumericValue at h
  split at h <;> cases h
  all_goals
    rename_i hdata
    rw [VTObject.getObjectType, hdata]
    rfl

theorem isContainer_of_ok {value : UInt8} (h : VTObject.hideShow value object = .ok object') :
    object.getObjectType = .container := by
  unfold VTObject.hideShow at h
  split at h <;> cases h
  rename_i hdata
  rw [VTObject.getObjectType, hdata]
  rfl

theorem hasChildPositions_of_ok {childObjectID newXPosition newYPosition : UInt16}
    (h : VTObject.changeChildPosition childObjectID newXPosition newYPosition object =
      .ok object') : hasChildPositions object.getObjectType := by
  unfold VTObject.changeChildPosition at h
  split at h
  all_goals first
    | cases h
    | next htype => rw [htype]; rfl

theorem hasSize_of_ok {newWidth newHeight : UInt16}
    (h : VTObject.changeSize newWidth newHeight object = .ok object') :
    hasSize object.getObjectType := by
  unfold VTObject.changeSize at h
  split at h
  all_goals first
    | next htype => rw [htype]; rfl
    | cases h

theorem hasBackgroundColour_of_ok {colour : UInt8}
    (h : VTObject.changeBackgroundColour colour object = .ok object') :
    hasBackgroundColour object.getObjectType := by
  unfold VTObject.changeBackgroundColour at h
  split at h
  all_goals first
    | next htype => rw [htype]; rfl
    | cases h

theorem isAlarmMask_of_ok {priority : UInt8}
    (h : VTObject.changePriority priority object = .ok object') :
    object.getObjectType = .alarmMask := by
  unfold VTObject.changePriority at h
  split at h
  · next hdata =>
      rw [VTObject.getObjectType, hdata]
      rfl
  · cases h

theorem leads_changeChild {parentObjectID : UInt16} {event : EventID}
    {accepts : VirtualTerminalObjectType → Bool} (hobjects : objects.outline = objects₀.outline)
    (hkeeps : KeepsOutline change)
    (haccepts : ∀ object object', change object = .ok object' → accepts object.getObjectType)
    (hstarts : ∀ macroID, Trigger.starts objects₀ ⟨parentObjectID, event, accepts⟩ macroID →
      starts macroID) :
    Leads objects₀ starts (changeChild objects parentObjectID objectID response change event) := by
  unfold changeChild
  split
  · exact leads_respond hobjects
  · exact leads_respond hobjects
  · refine leads_changeObject hobjects hkeeps haccepts fun event' hevent => ?_
    cases hevent
    exact hstarts

theorem leads_changeActiveMask {workingSetObjectID newActiveMaskObjectID : UInt16}
    (h : changeActiveMask objects workingSetObjectID newActiveMaskObjectID = some outcome) :
    Leads objects starts outcome := by
  unfold changeActiveMask at h
  cases hobject : objects.getObjectById workingSetObjectID with
  | none =>
    simp only [hobject] at h
    cases h
    exact leads_respond (ClientObjects.outline_touch _ _)
  | some object =>
    simp only [hobject] at h
    split at h
    · cases h
      exact leads_respond (by simp only [ClientObjects.outline_touch])
    · split at h
      · rename_i hdata
        cases h
        refine leads_respond ?_
        rw [ClientObjects.outline_setObject object, ClientObjects.outline_touch,
          ClientObjects.outline_touch]
        · simp only [ClientObjects.getObjectById_touch, hobject]
        · rw [VTObject.outline_eq, VTObject.outline_eq, hdata]
          rfl
      · simp at h

theorem leads_changeAttribute {attributeID : UInt8} {attributeData : UInt32}
    (h : changeAttribute objects objectID attributeID attributeData = some outcome)
    (hstarts : ∀ macroID,
      Trigger.starts objects ⟨objectID, .onChangeAttribute, fun _ => true⟩ macroID →
        starts macroID) : Leads objects starts outcome := by
  unfold changeAttribute at h
  cases hobject : objects.getObjectById objectID with
  | none =>
    simp only [hobject] at h
    cases h
    exact leads_respond (ClientObjects.outline_touch _ _)
  | some object =>
    simp only [hobject] at h
    split_ifs at h
    · cases h
      exact leads_respond (ClientObjects.outline_touch _ _)
    · split at h
      · simp at h
      · cases h
        exact leads_respond (ClientObjects.outline_touch _ _)
      · rename_i object' hset
        cases h
        have houtline := VTObject.outline_setAttribute hset
        refine leads_macros ?_ fun macroID hstarted => hstarts macroID ?_
        · rw [ClientObjects.outline_setObject object _ houtline,
            ClientObjects.outline_touch]
          rw [ClientObjects.getObjectById_touch, hobject]
        · refine ⟨object.outline, ?_, rfl, ?_⟩
          · rw [ClientObjects.outline, hobject]
            rfl
          · rw [← houtline]
            exact hstarted

theorem leads_changeSoftKeyMask {dataOrAlarmMaskID newSoftKeyMaskID : UInt16}
    (h : changeSoftKeyMask objects dataOrAlarmMaskID newSoftKeyMaskID = some outcome)
    (hstarts : ∀ macroID, Trigger.starts objects ⟨dataOrAlarmMaskID, .onChangeSoftKeyMask,
      fun type => type = .alarmMask ∨ type = .dataMask⟩ macroID → starts macroID) :
    Leads objects starts outcome := by
  have htouch : ((objects.touch dataOrAlarmMaskID).touch newSoftKeyMaskID).outline =
      objects.outline := by simp only [ClientObjects.outline_touch]
  unfold changeSoftKeyMask at h
  cases hobject : objects.getObjectById dataOrAlarmMaskID with
  | none =>
    simp only [hobject] at h
    cases h
    exact leads_respond htouch
  | some object =>
    simp only [hobject] at h
    have hsuccess (data : ObjectData) (response : List UInt8)
        (htype : object.getObjectType = .alarmMask ∨ object.getObjectType = .dataMask)
        (houtline : { object with data }.outline = object.outline) :
        Leads objects starts
          (((objects.touch dataOrAlarmMaskID).touch newSoftKeyMaskID).setObject
            dataOrAlarmMaskID { object with data },
          .respond response :: processMacro { object with data } .onChangeSoftKeyMask) := by
      refine leads_macros ?_ fun macroID hstarted => hstarts macroID ?_
      · rw [ClientObjects.outline_setObject object _ houtline, htouch]
        simp only [ClientObjects.getObjectById_touch, hobject]
      · refine ⟨object.outline, ?_, decide_eq_true htype, ?_⟩
        · rw [ClientObjects.outline, hobject]
          rfl
        · rw [← houtline]
          exact hstarted
    split_ifs at h
    · split at h
      · rename_i hdata
        split at h
        · simp at h
        · cases h
          exact leads_respond htouch
        · cases h
          refine hsuccess _ _ (.inl ?_) ?_
          · rw [VTObject.getObjectType, hdata]
            rfl
          · rw [VTObject.outline_eq, VTObject.outline_eq, hdata]
            rfl
      · rename_i hdata
        split at h
        · cases h
          exact leads_respond htouch
        · cases h
          refine hsuccess _ _ (.inr ?_) ?_
          · rw [VTObject.getObjectType, hdata]
            rfl
          · rw [VTObject.outline_eq, VTObject.outline_eq, hdata]
            rfl
      · cases h
        exact leads_respond htouch
    · cases h
      exact leads_respond htouch

theorem leads_selectInputObject {version : UInt8} {option : UInt8}
    (hstarts : ∀ macroID,
      Trigger.starts objects ⟨objectID, selectionEvent objectID, isSelectable version⟩ macroID →
        starts macroID) :
    Leads objects starts (selectInputObject version objects objectID option) := by
  have htouch := ClientObjects.outline_touch objects objectID
  unfold selectInputObject
  cases hobject : objects.getObjectById objectID with
  | none => exact leads_respond htouch
  | some object =>
    have hmacros (hselectable : isSelectable version object.getObjectType = true)
        (macroID : UInt16)
        (hstarted : macroID ∈ eventMacros object.outline (selectionEvent objectID)) :
        starts macroID := by
      refine hstarts macroID ⟨object.outline, ?_, hselectable, hstarted⟩
      rw [ClientObjects.outline, hobject]
      rfl
    dsimp only
    split_ifs with hselectable
    all_goals first
      | exact leads_respond htouch
      | exact leads_macros htouch (hmacros hselectable)

theorem leads_executeMacro (hstarts : starts objectID) :
    Leads objects starts (executeMacro objects objectID response) := by
  have htouch := ClientObjects.outline_touch objects objectID
  unfold executeMacro
  cases hobject : objects.getObjectById objectID with
  | none => exact leads_respond htouch
  | some object =>
    dsimp only
    split_ifs
    · refine ⟨htouch, fun task htask => ?_⟩
      rcases List.mem_cons.mp htask with rfl | htask
      · exact .inr ⟨objectID, hstarts, rfl⟩
      · exact .inl ⟨_, List.mem_singleton.mp htask⟩
    · refine ⟨htouch, fun task htask => ?_⟩
      rcases List.mem_cons.mp htask with rfl | htask
      · exact .inr ⟨objectID, hstarts, rfl⟩
      · exact .inl ⟨_, List.mem_singleton.mp htask⟩
    · exact leads_respond htouch

theorem leads_execute {version : UInt8} {command : Command}
    (h : execute version objects command = some outcome) :
    Leads objects (command.starts version objects) outcome := by
  have htouch := ClientObjects.outline_touch objects
  have hstarts (trigger : Trigger) (htrigger : command.trigger version = some trigger)
      (macroID : UInt16) (hstarted : trigger.starts objects macroID) :
      command.starts version objects macroID := .inr (.inr ⟨trigger, htrigger, hstarted⟩)
  have hone (objectID : UInt16) (event : EventID)
      (accepts : VirtualTerminalObjectType → Bool)
      (htrigger : command.trigger version = some ⟨objectID, event, accepts⟩) :
      ∀ event', some event = some event' → ∀ macroID,
        Trigger.starts objects ⟨objectID, event', accepts⟩ macroID →
          command.starts version objects macroID := by
    intro event' hevent macroID hstarted
    cases hevent
    exact hstarts _ htrigger macroID hstarted
  cases command with
  | changeNumericValue objectID value =>
    cases h
    exact leads_changeObject rfl (VTObject.keepsOutline_changeNumericValue value)
      (fun _ _ => hasNumericValue_of_ok) (hone _ _ _ rfl)
  | hideShowObject objectID value =>
    cases h
    exact leads_changeObject rfl (VTObject.keepsOutline_hideShow value)
      (fun _ _ hok => decide_eq_true (isContainer_of_ok hok)) (hone _ _ _ rfl)
  | enableDisableObject objectID value =>
    cases h
    exact leads_changeObject_quiet rfl (VTObject.keepsOutline_enableDisable value)
  | changeChildLocation parentObjectID objectID x y =>
    cases h
    refine leads_changeChild ?_ (VTObject.keepsOutline_offsetAllChildrenWithId _ _ _)
      (fun _ _ _ => rfl) (hstarts _ rfl)
    split_ifs
    · rw [ClientObjects.outline_touch, htouch]
    · exact htouch parentObjectID
  | changeActiveMask workingSetObjectID newActiveMaskObjectID => exact leads_changeActiveMask h
  | changeStringValue objectID value =>
    cases value with
    | none =>
      cases h
      exact leads_respond (htouch objectID)
    | some value =>
      cases h
      exact leads_changeObject_quiet rfl (VTObject.keepsOutline_changeStringValue value)
  | changeFillAttributes objectID type colour fillPatternID =>
    cases h
    exact leads_changeObject_quiet (by rw [ClientObjects.outline_touch, htouch])
      (VTObject.keepsOutline_changeFillAttributes _ _ _ _)
  | changeChildPosition parentObjectID objectID position =>
    cases position with
    | none =>
      cases h
      exact leads_respond rfl
    | some position =>
      cases h
      exact leads_changeChild (by rw [ClientObjects.outline_touch, htouch])
        (VTObject.keepsOutline_changeChildPosition _ _ _)
        (fun _ _ => hasChildPositions_of_ok) (hstarts _ rfl)
  | changeAttribute objectID attributeID attributeData =>
    exact leads_changeAttribute h (hstarts _ rfl)
  | changeSize objectID newWidth newHeight =>
    cases h
    exact leads_changeObject rfl (VTObject.keepsOutline_changeSize _ _)
      (fun _ _ => hasSize_of_ok) (hone _ _ _ rfl)
  | changeListItem objectID listIndex newObjectID =>
    cases h
    refine leads_changeObject_quiet (by rw [ClientObjects.outline_touch, htouch]) ?_
    intro object object' hok
    dsimp only at hok
    split_ifs at hok
    exact VTObject.keepsOutline_changeListItem _ _ _ object object' hok
  | changeFontAttributes objectID colour size type style =>
    cases h
    exact leads_changeObject_quiet rfl (VTObject.keepsOutline_changeFontAttributes _ _ _ _)
  | changeLineAttributes objectID colour width lineArt =>
    cases h
    exact leads_changeObject_quiet rfl (VTObject.keepsOutline_changeLineAttributes _ _ _)
  | changeSoftKeyMask dataOrAlarmMaskID newSoftKeyMaskID =>
    exact leads_changeSoftKeyMask h (hstarts _ rfl)
  | changeBackgroundColour objectID colour =>
    cases h
    exact leads_changeObject rfl (VTObject.keepsOutline_changeBackgroundColour colour)
      (fun _ _ => hasBackgroundColour_of_ok) (hone _ _ _ rfl)
  | changePriority objectID priority =>
    cases h
    exact leads_changeObject rfl (VTObject.keepsOutline_changePriority priority)
      (fun _ _ hok => decide_eq_true (isAlarmMask_of_ok hok)) (hone _ _ _ rfl)
  | selectInputObject objectID option =>
    cases h
    exact leads_selectInputObject (hstarts _ rfl)
  | changePolygonPoint objectID index x y =>
    cases h
    exact leads_changeObject_quiet rfl (VTObject.keepsOutline_changePolygonPoint _ _ _)
  | executeMacro objectID =>
    cases h
    exact leads_executeMacro (.inl rfl)
  | executeExtendedMacro objectID =>
    cases h
    exact leads_executeMacro (.inr (.inl rfl))
  | controlAudioSignal =>
    cases h
    exact leads_respond rfl
  | setAudioVolume =>
    cases h
    exact leads_respond rfl

end Server

end Isobus.VirtualTerminal
