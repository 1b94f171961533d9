import Isobus.VirtualTerminal.Validity

namespace Isobus.VirtualTerminal

theorem all_modify {α : Type} {p : α → Bool} {f : α → α} {b : Bool} (hf : ∀ a, p (f a) = b)
    {l : List α} {i : Nat} (hall : l.all p = true) (hi : i < l.length) :
    (l.modify i f).all p = b := by
  induction l generalizing i with
  | nil => exact absurd hi (Nat.not_lt_zero i)
  | cons a l ih =>
    obtain ⟨ha, hl⟩ := Bool.and_eq_true_iff.mp hall
    cases i with
    | zero => rw [List.modify_zero_cons, List.all_cons, hf, hl, Bool.and_true]
    | succ i =>
      rw [List.modify_succ_cons, List.all_cons, ha, Bool.true_and]
      exact ih hl (Nat.lt_of_succ_lt_succ hi)

def VTObject.withItem (object : VTObject) (index : UInt8) (newListItem : UInt16) : VTObject :=
  { object with
    children := object.children.modify index.toNat fun child => { child with id := newListItem } }

structure ChangesItem (index : UInt8) (newListItem : UInt16) (object object' : VTObject) :
    Prop where
  length : object'.children.length = object.children.length
  item : ∀ child, object.children[index.toNat]? = some child →
    object'.children[index.toNat]? = some { child with id := newListItem }
  others : ∀ i, i ≠ index.toNat → object'.children[i]? = object.children[i]?
  rest : { object' with children := object.children } = object

section Items

variable {object : VTObject} {index : UInt8} {newListItem : UInt16} {tree : ObjectTree}

theorem changesItem_withItem :
    ChangesItem index newListItem object (object.withItem index newListItem) where
  length := List.length_modify ..
  item child hchild := by simp [VTObject.withItem, hchild]
  others i hi := List.getElem?_modify_ne _ _ hi.symm
  rest := rfl

variable {types : List VirtualTerminalObjectType}

theorem childrenAllowed_withItem (hallowed : object.childrenAllowed tree types = true)
    (hindex : index.toNat < object.children.length) :
    (object.withItem index newListItem).childrenAllowed tree types =
      tree.allows types newListItem :=
  all_modify (p := fun child : ChildObjectData => tree.allows types child.id)
    (f := fun child => { child with id := newListItem }) (fun _ => rfl) hallowed hindex

theorem setListItem_eq_ok_iff {fits : VirtualTerminalObjectType → Bool} {object' : VTObject} :
    object.setListItem index newListItem tree fits = .ok object' ↔
      (index.toNat < object.children.length ∧ (newListItem = NULL_OBJECT_ID ∨
        ∃ item, tree.getObjectById newListItem = some item ∧ fits item.getObjectType = true)) ∧
      object' = object.withItem index newListItem := by
  rw [← Option.any_eq_true]
  unfold VTObject.setListItem
  split_ifs with hset
  · rw [and_iff_right hset]
    exact ⟨fun h => (Except.ok.inj h).symm, fun h => congrArg _ h.symm⟩
  · exact iff_of_false (by simp) fun h => hset h.1

/-- A list that takes an item stays valid and changes there only; at an index that it has it takes
NULL and what it is valid with. -/
def KeepsItems (object : VTObject) (index : UInt8) (newListItem : UInt16) (tree : ObjectTree) :
    Prop :=
  (∀ object', object.changeListItem index newListItem tree = .ok object' →
    object'.getIsValid tree = some true ∧ ChangesItem index newListItem object object') ∧
  (index.toNat < object.children.length →
    ((∃ object', object.changeListItem index newListItem tree = .ok object') ↔
      newListItem = NULL_OBJECT_ID ∨ (tree.getObjectById newListItem).isSome = true ∧
        (object.withItem index newListItem).getIsValid tree = some true))

theorem allows_iff :
    tree.allows types newListItem = true ↔
      ∀ item, tree.getObjectById newListItem = some item → item.getObjectType ∈ types := by
  simp [ObjectTree.allows, Option.all_eq_true]

theorem keepsItems_iff_agree {fits : VirtualTerminalObjectType → Bool}
    (hchange : object.changeListItem index newListItem tree =
      object.setListItem index newListItem tree fits)
    (hvalid : index.toNat < object.children.length →
      (object.withItem index newListItem).getIsValid tree =
        some (tree.allows types newListItem)) :
    KeepsItems object index newListItem tree ↔
      (index.toNat < object.children.length → ∀ item, tree.getObjectById newListItem = some item →
        (fits item.getObjectType = true ↔ item.getObjectType ∈ types)) := by
  simp only [KeepsItems, hchange, setListItem_eq_ok_iff, exists_and_left, exists_eq, and_true]
  constructor
  · rintro ⟨-, htakes⟩ hindex item hitem
    have hnull := (ObjectTree.getObjectById_eq_some_iff.mp hitem).1
    have htakes := htakes hindex
    rw [hvalid hindex, Option.some_inj, allows_iff, hitem] at htakes
    simpa [hindex, hnull] using htakes
  · intro hagree
    constructor
    · rintro object' ⟨⟨hindex, htakes⟩, rfl⟩
      refine ⟨?_, changesItem_withItem⟩
      rw [hvalid hindex, Option.some_inj, allows_iff]
      intro item hitem
      rcases htakes with rfl | ⟨item', hitem', hfits⟩
      · rw [ObjectTree.getObjectById_NULL] at hitem
        cases hitem
      · obtain rfl : item' = item := Option.some.inj (hitem'.symm.trans hitem)
        exact (hagree hindex item' hitem).mp hfits
    · intro hindex
      rw [and_iff_right hindex, hvalid hindex, Option.some_inj, allows_iff]
      refine or_congr_right ?_
      cases hitem : tree.getObjectById newListItem with
      | none => simp
      | some item => simpa using hagree hindex item hitem

end Items

theorem isListItem_iff (type : VirtualTerminalObjectType) :
    VTObject.isListItem type = true ↔ type ∈ InputList.itemTypes := by
  cases type <;> decide

/-- An output list takes number variables only, which it may not have. -/
def OutputList.Mistakes (object : VTObject) (index : UInt8) (newListItem : UInt16)
    (tree : ObjectTree) : Prop :=
  object.getObjectType = .outputList ∧ index.toNat < object.children.length ∧
    ∃ item, tree.getObjectById newListItem = some item ∧
      (item.getObjectType = .numberVariable ∨ item.getObjectType ∈ OutputList.itemTypes)

section Lists

variable {object : VTObject} {index : UInt8} {newListItem : UInt16} {tree : ObjectTree}

theorem InputList.keepsItems {data : InputList} (hdata : object.data = .inputList data)
    (hvalid : object.getIsValid tree = some true) :
    KeepsItems object index newListItem tree := by
  obtain ⟨objectID, width, height, backgroundColor, children, macros, _⟩ := object
  obtain rfl : _ = ObjectData.inputList data := hdata
  have hvalid := Option.some.inj hvalid
  rw [InputList.getIsValid, Bool.and_eq_true] at hvalid
  refine (keepsItems_iff_agree rfl fun hindex => ?_).mpr fun _ item _ => isListItem_iff _
  refine congrArg some ?_
  rw [InputList.getIsValid, childrenAllowed_withItem hvalid.1 hindex]
  exact (congrArg _ hvalid.2).trans (Bool.and_true _)

theorem OutputList.keepsItems_iff_mistakes {data : ListVTObject}
    (hdata : object.data = .outputList data)
    (hvalid : object.getIsValid tree = some true) :
    KeepsItems object index newListItem tree ↔
      ¬OutputList.Mistakes object index newListItem tree := by
  obtain ⟨objectID, width, height, backgroundColor, children, macros, _⟩ := object
  obtain rfl : _ = ObjectData.outputList data := hdata
  set object : VTObject :=
    { objectID, width, height, backgroundColor, children, macros, data := .outputList data }
  have htype : object.getObjectType = .outputList := rfl
  have hchange : object.changeListItem index newListItem tree =
    object.setListItem index newListItem tree fun type => type = .numberVariable := rfl
  have hvalid := Option.some.inj hvalid
  rw [OutputList.getIsValid, Bool.and_eq_true, Bool.and_eq_true] at hvalid
  have hkept (hindex : index.toNat < object.children.length) :
      (object.withItem index newListItem).getIsValid tree =
        some (tree.allows OutputList.itemTypes newListItem) := by
    refine congrArg some ?_
    rw [OutputList.getIsValid, childrenAllowed_withItem hvalid.1.2 hindex, hvalid.1.1,
      Bool.true_and]
    exact (congrArg _ hvalid.2).trans (Bool.and_true _)
  have hagree (type : VirtualTerminalObjectType) :
      (decide (type = .numberVariable) = true ↔ type ∈ OutputList.itemTypes) ↔
        ¬(type = .numberVariable ∨ type ∈ OutputList.itemTypes) := by
    cases type <;> decide
  rw [keepsItems_iff_agree hchange hkept]
  simp only [hagree, OutputList.Mistakes, htype, true_and, not_and, not_exists]

/-- A valid list stays valid unless an output list takes an object that it is not allowed, or is
allowed without taking it. -/
theorem keepsItems_iff
    (hlist : object.getObjectType = .inputList ∨ object.getObjectType = .outputList)
    (hvalid : object.getIsValid tree = some true) :
    KeepsItems object index newListItem tree ↔
      ¬OutputList.Mistakes object index newListItem tree := by
  cases hdata : object.data with
  | inputList data =>
    refine iff_of_true (InputList.keepsItems hdata hvalid) fun hmistakes => ?_
    have htype := hmistakes.1
    rw [VTObject.getObjectType, hdata] at htype
    cases htype
  | outputList data => exact OutputList.keepsItems_iff_mistakes hdata hvalid
  | _ =>
    rw [VTObject.getObjectType, hdata] at hlist
    rcases hlist with htype | htype <;> cases htype

end Lists

def numberVariable : VTObject := { objectID := 2, data := .numberVariable ⟨0⟩ }

def outputListOfNull : VTObject :=
  { objectID := 1, children := [⟨NULL_OBJECT_ID, 0, 0⟩], data := .outputList ⟨NULL_OBJECT_ID, 0⟩ }

theorem outputListOfNull_keepsItems :
    KeepsItems outputListOfNull 0 NULL_OBJECT_ID (ObjectTree.empty.set 2 (some numberVariable)) :=
  (keepsItems_iff (.inr rfl) (by decide)).mpr fun hmistakes => by
    obtain ⟨-, -, item, hitem, -⟩ := hmistakes
    cases hitem

theorem outputListOfNull_not_keepsItems :
    ¬∀ object index newListItem tree,
      object.getObjectType = .inputList ∨ object.getObjectType = .outputList →
        object.getIsValid tree = some true → KeepsItems object index newListItem tree := by
  intro h
  have hkeeps := h outputListOfNull 0 2 (ObjectTree.empty.set 2 (some numberVariable)) (.inr rfl)
    (by decide)
  have htakes := hkeeps.1 (outputListOfNull.withItem 0 2) rfl
  exact absurd htakes.1 (by decide)

end Isobus.VirtualTerminal
