import Mathlib.Data.List.Forall2
import Isobus.VirtualTerminal.MacroExecution

namespace Isobus.VirtualTerminal.Server

def MovedBy (offset : Int) (old new : Int16) : Prop :=
  -2 ^ 15 ≤ old.toInt + offset → old.toInt + offset < 2 ^ 15 → new.toInt = old.toInt + offset

structure MovesChild (childObjectID : UInt16) (xOffset yOffset : Int)
    (child child' : ChildObjectData) : Prop where
  id : child'.id = child.id
  x : child.id = childObjectID → MovedBy xOffset child.xLocation child'.xLocation
  y : child.id = childObjectID → MovedBy yOffset child.yLocation child'.yLocation
  stays : child.id ≠ childObjectID → child' = child

structure PutsChild (childObjectID : UInt16) (x y : Int16) (child child' : ChildObjectData) :
    Prop where
  id : child'.id = child.id
  x : child.id = childObjectID → child'.xLocation = x
  y : child.id = childObjectID → child'.yLocation = y
  stays : child.id ≠ childObjectID → child' = child

/-- Only the children of the parent change, each in its place. -/
structure ChangesChildren (changes : ChildObjectData → ChildObjectData → Prop)
    (parentObjectID : UInt16) (parent : VTObject) (objects objects' : ClientObjects) : Prop where
  parent : ∃ parent', objects'.getObjectById parentObjectID = some parent' ∧
    List.Forall₂ changes parent.children parent'.children ∧
    { parent' with children := parent.children } = parent
  others : ∀ objectID, objectID ≠ parentObjectID →
    objects'.getObjectById objectID = objects.getObjectById objectID

def setsPositions : VirtualTerminalObjectType → Bool
  | .button | .container | .alarmMask | .dataMask | .key | .workingSet | .auxiliaryInputType2
  | .windowMask => true
  | _ => false

/-- A command that moves children of an object which is there, as the child is, moves them
exactly. -/
def MovesExactly (version : UInt8) (objects : ClientObjects) (command : Command) : Prop :=
  match command with
  | .changeChildLocation parentObjectID objectID x y =>
    ∀ parent, objects.getObjectById parentObjectID = some parent →
      (objects.getObjectById objectID).isSome = true →
        ∃ objects' tasks, execute version objects command = some (objects', tasks) ∧
          ChangesChildren (MovesChild objectID (x.toNat - 127) (y.toNat - 127)) parentObjectID
            parent objects objects'
  | .changeChildPosition parentObjectID objectID (some (x, y)) =>
    ∀ parent, objects.getObjectById parentObjectID = some parent →
      (objects.getObjectById objectID).isSome = true →
      setsPositions parent.getObjectType = true →
        ∃ objects' tasks, execute version objects command = some (objects', tasks) ∧
          ChangesChildren (PutsChild objectID x.toInt16 y.toInt16) parentObjectID parent objects
            objects'
  | _ => True

section Changes

variable {objects : ClientObjects} {parentObjectID objectID : UInt16} {parent : VTObject}

theorem changeObject_of_some (hparent : objects.getObjectById parentObjectID = some parent)
    (missing : UInt8) (response : UInt8 → List UInt8)
    {change : VTObject → Except UInt8 VTObject} {changed : VTObject}
    (hchange : change parent = .ok changed ∨ (∃ error, change parent = .error error) ∧
      changed = parent) (event : Option EventID) :
    ∃ objects' tasks,
      changeObject objects parentObjectID missing response change event = (objects', tasks) ∧
        objects'.getObjectById parentObjectID = some changed ∧
        ∀ objectID, objectID ≠ parentObjectID →
          objects'.getObjectById objectID = objects.getObjectById objectID := by
  unfold changeObject
  rcases hchange with hchange | ⟨⟨error, hchange⟩, rfl⟩
  · simp only [hparent, hchange]
    refine ⟨_, _, rfl, by simp, fun objectID hne => ?_⟩
    rw [ClientObjects.getObjectById_setObject, if_neg hne, ClientObjects.getObjectById_touch]
  · simp only [hparent, hchange]
    exact ⟨_, _, rfl, by simp [hparent], by simp⟩

theorem changeChild_of_some {touched : ClientObjects}
    (htouched : touched.getObjectById = objects.getObjectById)
    (hparent : objects.getObjectById parentObjectID = some parent)
    (hchild : (objects.getObjectById objectID).isSome = true) (response : UInt8 → List UInt8)
    {change : VTObject → Except UInt8 VTObject} {children : List ChildObjectData}
    (hchange : change parent = .ok { parent with children } ∨
      (∃ error, change parent = .error error) ∧ children = parent.children)
    (event : EventID) (changes : ChildObjectData → ChildObjectData → Prop) :
    (∃ objects' tasks,
      some (changeChild touched parentObjectID objectID response change event) =
          some (objects', tasks) ∧
        ChangesChildren changes parentObjectID parent objects objects') ↔
      List.Forall₂ changes parent.children children := by
  obtain ⟨child, hchild⟩ := Option.isSome_iff_exists.mp hchild
  have hchange : change parent = .ok { parent with children } ∨
      (∃ error, change parent = .error error) ∧ { parent with children } = parent := by
    refine hchange.imp_right fun herror => ⟨herror.1, ?_⟩
    rw [herror.2]
  rw [← htouched] at hparent hchild
  obtain ⟨objects', tasks, hobjects', hparent', hothers⟩ :=
    changeObject_of_some hparent 0x01 response hchange (some event)
  rw [htouched] at hothers
  unfold changeChild
  simp only [hparent, hchild]
  constructor
  · rintro ⟨_, _, h, hchanges⟩
    obtain ⟨rfl, rfl⟩ := Prod.mk.inj (hobjects'.symm.trans (Option.some.inj h))
    obtain ⟨parent', hfound, hforall, -⟩ := hchanges.parent
    obtain rfl := Option.some.inj (hparent'.symm.trans hfound)
    exact hforall
  · intro hforall
    exact ⟨objects', tasks, congrArg some hobjects', ⟨_, hparent', hforall, rfl⟩, hothers⟩

end Changes

theorem relativeChange_toInt (byte : UInt8) :
    (VTObject.relativeChange byte).toInt16.toInt =
      if byte = 255 then -128 else (byte.toNat : Int) - 127 := by
  have hlt := byte.toNat_lt
  rw [Int8.toInt_toInt16, VTObject.relativeChange]
  split_ifs with hbyte
  · rw [hbyte]
    rfl
  · have hne : byte.toNat ≠ 255 := fun h => hbyte (UInt8.toNat_inj.mp h)
    exact Int8.toInt_ofInt_of_le (by omega) (by omega)

theorem movedBy_relativeChange_iff (byte : UInt8) (old : Int16) :
    MovedBy (byte.toNat - 127) old (old + (VTObject.relativeChange byte).toInt16) ↔
      ¬(byte = 255 ∧ old.toInt + 128 < 2 ^ 15) := by
  have hle := old.le_toInt
  have hlt := old.toInt_lt
  rw [MovedBy, Int16.toInt_add, relativeChange_toInt]
  split_ifs with hbyte
  · subst hbyte
    have hbyte : ((255 : UInt8).toNat : Int) = 255 := rfl
    rw [hbyte, Int.bmod_def, and_iff_right rfl]
    split_ifs <;> omega
  · refine iff_of_true (fun hmin hmax => ?_) fun h => hbyte h.1
    exact Int.bmod_eq_of_le (by omega) (by omega)

def moveChild (objectID : UInt16) (x y : UInt8) (child : ChildObjectData) : ChildObjectData :=
  if child.id = objectID then
    { child with
      xLocation := child.xLocation + (VTObject.relativeChange x).toInt16
      yLocation := child.yLocation + (VTObject.relativeChange y).toInt16 }
  else child

theorem movesChild_moveChild_iff (objectID : UInt16) (x y : UInt8) (child : ChildObjectData) :
    MovesChild objectID (x.toNat - 127) (y.toNat - 127) child (moveChild objectID x y child) ↔
      ¬(child.id = objectID ∧ (x = 255 ∧ child.xLocation.toInt + 128 < 2 ^ 15 ∨
        y = 255 ∧ child.yLocation.toInt + 128 < 2 ^ 15)) := by
  unfold moveChild
  split_ifs with hid
  · rw [and_iff_right hid, not_or, ← movedBy_relativeChange_iff, ← movedBy_relativeChange_iff]
    exact ⟨fun h => ⟨h.x hid, h.y hid⟩,
      fun h => ⟨rfl, fun _ => h.1, fun _ => h.2, fun hne => absurd hid hne⟩⟩
  · exact iff_of_true ⟨rfl, fun h => absurd h hid, fun h => absurd h hid, fun _ => rfl⟩
      fun h => hid h.1

theorem map_eq_self_of_not_any {α : Type} {p : α → Bool} {f : α → α} {l : List α}
    (hf : ∀ a, p a = false → f a = a) (hany : l.any p = false) : l.map f = l := by
  refine (List.map_congr_left fun a ha => ?_).trans (List.map_id l)
  exact hf a (by simpa using List.any_eq_false.mp hany a ha)

theorem offsetAllChildrenWithId_eq (objectID : UInt16) (x y : UInt8) (object : VTObject) :
    VTObject.offsetAllChildrenWithId objectID (VTObject.relativeChange x)
        (VTObject.relativeChange y) object =
        .ok { object with children := object.children.map (moveChild objectID x y) } ∨
      (∃ error, VTObject.offsetAllChildrenWithId objectID (VTObject.relativeChange x)
        (VTObject.relativeChange y) object = .error error) ∧
        object.children.map (moveChild objectID x y) = object.children := by
  unfold VTObject.offsetAllChildrenWithId
  split_ifs with hany
  · exact .inl rfl
  · refine .inr ⟨⟨_, rfl⟩, map_eq_self_of_not_any (fun child hchild => ?_)
      (Bool.eq_false_iff.mpr hany)⟩
    exact if_neg (by simpa using hchild)

def putChild (objectID : UInt16) (x y : Int16) (child : ChildObjectData) : ChildObjectData :=
  if child.id = objectID then { child with xLocation := x, yLocation := y } else child

theorem putsChild_putChild (objectID : UInt16) (x y : Int16) (child : ChildObjectData) :
    PutsChild objectID x y child (putChild objectID x y child) := by
  unfold putChild
  split_ifs with hid
  · exact ⟨rfl, fun _ => rfl, fun _ => rfl, fun hne => absurd hid hne⟩
  · exact ⟨rfl, fun h => absurd h hid, fun h => absurd h hid, fun _ => rfl⟩

theorem putsChild_self_iff (objectID : UInt16) (x y : Int16) (child : ChildObjectData) :
    PutsChild objectID x y child child ↔
      ¬(child.id = objectID ∧ (child.xLocation ≠ x ∨ child.yLocation ≠ y)) := by
  constructor
  · rintro h ⟨hid, hx | hy⟩
    · exact hx (h.x hid)
    · exact hy (h.y hid)
  · intro h
    push Not at h
    exact ⟨rfl, fun hid => (h hid).1, fun hid => (h hid).2, fun _ => rfl⟩

def reached (object : VTObject) : List ChildObjectData :=
  object.children.take object.getNumberChildren

def unreached (object : VTObject) : List ChildObjectData :=
  object.children.drop object.getNumberChildren

theorem changeChildPosition_eq {object : VTObject}
    (hsets : setsPositions object.getObjectType = true) (objectID x y : UInt16) :
    VTObject.changeChildPosition objectID x y object =
        .ok { object with
          children :=
            (reached object).map (putChild objectID x.toInt16 y.toInt16) ++ unreached object } ∨
      (∃ error, VTObject.changeChildPosition objectID x y object = .error error) ∧
        (reached object).map (putChild objectID x.toInt16 y.toInt16) ++ unreached object =
          object.children := by
  have hchange : VTObject.changeChildPosition objectID x y object =
      if (reached object).any fun child => child.id = objectID then
        .ok { object with
          children :=
            (reached object).map (putChild objectID x.toInt16 y.toInt16) ++ unreached object }
      else .error 0x02 := by
    unfold VTObject.changeChildPosition
    cases htype : object.getObjectType <;> rw [htype] at hsets <;> first | rfl | cases hsets
  rw [hchange]
  split_ifs with hany
  · exact .inl rfl
  · refine .inr ⟨⟨_, rfl⟩, ?_⟩
    rw [map_eq_self_of_not_any (fun child hchild => ?_) (Bool.eq_false_iff.mpr hany)]
    · exact List.take_append_drop ..
    · exact if_neg (by simpa using hchild)

theorem forall₂_putsChild_iff (object : VTObject) (objectID : UInt16) (x y : Int16) :
    List.Forall₂ (PutsChild objectID x y) object.children
        ((reached object).map (putChild objectID x y) ++ unreached object) ↔
      ∀ child ∈ unreached object,
        ¬(child.id = objectID ∧ (child.xLocation ≠ x ∨ child.yLocation ≠ y)) := by
  have hreached : List.Forall₂ (PutsChild objectID x y) (reached object)
      ((reached object).map (putChild objectID x y)) :=
    List.forall₂_map_right_iff.mpr
      (List.forall₂_same.mpr fun child _ => putsChild_putChild objectID x y child)
  have hunreached : List.Forall₂ (PutsChild objectID x y) (unreached object) (unreached object) ↔
      ∀ child ∈ unreached object,
        ¬(child.id = objectID ∧ (child.xLocation ≠ x ∨ child.yLocation ≠ y)) := by
    rw [List.forall₂_same]
    exact forall₂_congr fun child _ => putsChild_self_iff objectID x y child
  rw [← hunreached]
  constructor
  · intro h
    have hlength : ((reached object).map (putChild objectID x y)).length =
        object.getNumberChildren := by
      rw [List.length_map, reached, List.length_take]
      exact Nat.min_eq_left (Nat.mod_le ..)
    have hdrop := List.forall₂_drop_append _ _ _ h
    rwa [hlength] at hdrop
  · intro h
    have happend : reached object ++ unreached object = object.children :=
      List.take_append_drop ..
    exact happend ▸ List.rel_append hreached h

/-- A listed child is to be moved by 128 where that fits, or comes after as many children as 16 bits
count. -/
def Strays (objects : ClientObjects) (command : Command) : Prop :=
  match command with
  | .changeChildLocation parentObjectID objectID x y =>
    ∃ parent, objects.getObjectById parentObjectID = some parent ∧
      (objects.getObjectById objectID).isSome = true ∧
      ∃ child ∈ parent.children, child.id = objectID ∧
        (x = 255 ∧ child.xLocation.toInt + 128 < 2 ^ 15 ∨
          y = 255 ∧ child.yLocation.toInt + 128 < 2 ^ 15)
  | .changeChildPosition parentObjectID objectID (some (x, y)) =>
    ∃ parent, objects.getObjectById parentObjectID = some parent ∧
      (objects.getObjectById objectID).isSome = true ∧
      setsPositions parent.getObjectType = true ∧
      ∃ child ∈ unreached parent, child.id = objectID ∧
        (child.xLocation ≠ x.toInt16 ∨ child.yLocation ≠ y.toInt16)
  | _ => False

/-- Moves are exact but for those by 128 and of children that are not counted. -/
theorem movesExactly_iff (version : UInt8) (objects : ClientObjects) (command : Command) :
    MovesExactly version objects command ↔ ¬Strays objects command := by
  cases command with
  | changeChildLocation parentObjectID objectID x y =>
    simp only [MovesExactly, Strays, not_exists, not_and]
    refine forall₂_congr fun parent hparent => forall_congr' fun hchild => ?_
    have htouched : ((objects.touch parentObjectID).touch objectID).getObjectById =
        objects.getObjectById := by
      funext objectID'
      simp
    simp only [execute, hparent, Option.isSome_some, if_true]
    rw [changeChild_of_some htouched hparent hchild _
      (offsetAllChildrenWithId_eq objectID x y parent), List.forall₂_map_right_iff,
      List.forall₂_same]
    exact forall₂_congr fun child _ =>
      (movesChild_moveChild_iff objectID x y child).trans not_and
  | changeChildPosition parentObjectID objectID position =>
    cases position with
    | none => exact iff_of_true trivial id
    | some position =>
      obtain ⟨x, y⟩ := position
      simp only [MovesExactly, Strays, not_exists, not_and]
      refine forall₂_congr fun parent hparent => forall₂_congr fun hchild hsets => ?_
      have htouched : ((objects.touch parentObjectID).touch objectID).getObjectById =
          objects.getObjectById := by
        funext objectID'
        simp
      simp only [execute]
      rw [changeChild_of_some htouched hparent hchild _
        (changeChildPosition_eq hsets objectID x y), forall₂_putsChild_iff]
      exact forall₂_congr fun child _ => not_and
  | _ => exact iff_of_true trivial id

/-- A container with one child at its origin, which is to be moved to the right by 128. -/
theorem moveBy128_not_exact :
    ¬∀ version objects command, MovesExactly version objects command := by
  intro h
  let child : VTObject := { objectID := 2, data := .numberVariable ⟨0⟩ }
  let container : VTObject :=
    { objectID := 1, children := [⟨2, 0, 0⟩], data := .container ⟨false⟩ }
  let objects : ClientObjects :=
    { vtObjectTree := (ObjectTree.empty.set 1 (some container)).set 2 (some child) }
  refine (movesExactly_iff 6 objects (.changeChildLocation 1 2 255 127)).mp (h _ _ _) ?_
  exact ⟨container, rfl, rfl, ⟨2, 0, 0⟩, List.mem_singleton_self _, rfl, .inl ⟨rfl, by decide⟩⟩

end Isobus.VirtualTerminal.Server
