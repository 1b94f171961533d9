import Isobus.Lib.Numerals
import Mathlib.Data.List.TakeWhile

/-!
# Documents of elements and attributes

A part of XML: a declaration and one element, with elements and white space inside, and values in
double quotes.
-/

namespace Isobus.Lib.Xml

/-- The ranges of the bytes behind a leading one. -/
def continuations (lead : UInt8) : Option (List (UInt8 × UInt8)) :=
  if lead < 0x80 then some []
  else if 0xC2 ≤ lead ∧ lead ≤ 0xDF then some [(0x80, 0xBF)]
  else if lead = 0xE0 then some [(0xA0, 0xBF), (0x80, 0xBF)]
  else if lead = 0xED then some [(0x80, 0x9F), (0x80, 0xBF)]
  else if 0xE1 ≤ lead ∧ lead ≤ 0xEF then some [(0x80, 0xBF), (0x80, 0xBF)]
  else if lead = 0xF0 then some [(0x90, 0xBF), (0x80, 0xBF), (0x80, 0xBF)]
  else if 0xF1 ≤ lead ∧ lead ≤ 0xF3 then some [(0x80, 0xBF), (0x80, 0xBF), (0x80, 0xBF)]
  else if lead = 0xF4 then some [(0x80, 0x8F), (0x80, 0xBF), (0x80, 0xBF)]
  else none

def isUtf8 : List (UInt8 × UInt8) → Text → Bool
  | [], [] => true
  | _ :: _, [] => false
  | [], byte :: text =>
    match continuations byte with
    | some ranges => isUtf8 ranges text
    | none => false
  | range :: ranges, byte :: text => range.1 ≤ byte && byte ≤ range.2 && isUtf8 ranges text

theorem isUtf8_of_ascii {text : Text} (h : ∀ byte ∈ text, byte < 0x80) : isUtf8 [] text = true := by
  induction text with
  | nil => rfl
  | cons byte text ih =>
    obtain ⟨hbyte, htext⟩ := List.forall_mem_cons.mp h
    rw [isUtf8, continuations, if_pos hbyte]
    exact ih htext

def entity (name : Text) : Option UInt8 :=
  if name = ascii "lt" then some 0x3C
  else if name = ascii "gt" then some 0x3E
  else if name = ascii "amp" then some 0x26
  else if name = ascii "quot" then some 0x22
  else if name = ascii "apos" then some 0x27
  else none

/-- White space counts as a space; other control characters are not allowed. -/
def normalize (byte : UInt8) : Option UInt8 :=
  if 0x20 ≤ byte then some byte
  else if byte = 0x09 ∨ byte = 0x0A ∨ byte = 0x0D then some 0x20
  else none

/-- The characters that a value stands for, perhaps in the middle of the name of an entity. -/
def unescape : Option Text → Text → Option Text
  | none, [] => some []
  | some _, [] => none
  | none, byte :: text =>
    if byte = 0x3C then none
    else if byte = 0x26 then unescape (some []) text
    else do
      let character ← normalize byte
      let characters ← unescape none text
      return character :: characters
  | some name, byte :: text =>
    if byte = 0x3B then do
      let character ← entity name
      let characters ← unescape none text
      return character :: characters
    else unescape (some (name ++ [byte])) text

/-- Characters that stand for themselves. -/
def IsPlain (text : Text) : Prop :=
  (∀ byte ∈ text, 0x20 ≤ byte ∧ byte ≠ 0x22 ∧ byte ≠ 0x26 ∧ byte ≠ 0x3C) ∧ isUtf8 [] text = true

/-- Characters of ASCII that need no escape. -/
def IsPlainByte (byte : UInt8) : Prop :=
  0x20 ≤ byte ∧ byte < 0x80 ∧ byte ≠ 0x22 ∧ byte ≠ 0x26 ∧ byte ≠ 0x3C

instance (byte : UInt8) : Decidable (IsPlainByte byte) := inferInstanceAs (Decidable (_ ∧ _))

theorem isPlainByte_of_all {text : Text} (h : text.all (fun byte => decide (IsPlainByte byte))) :
    ∀ byte ∈ text, IsPlainByte byte :=
  fun byte hbyte => of_decide_eq_true (List.all_eq_true.mp h byte hbyte)

theorem isPlain_of_bytes {text : Text} (h : ∀ byte ∈ text, IsPlainByte byte) : IsPlain text :=
  ⟨fun byte hbyte => ⟨(h byte hbyte).1, (h byte hbyte).2.2⟩,
    isUtf8_of_ascii fun byte hbyte => (h byte hbyte).2.1⟩

theorem length_unescape {pending : Option Text} {text characters : Text}
    (h : unescape pending text = some characters) : characters.length ≤ text.length := by
  induction text generalizing pending characters with
  | nil =>
    cases pending with
    | none => rw [← Option.some.inj h]
    | some name => cases h
  | cons byte text ih =>
    cases pending with
    | none =>
      rw [unescape] at h
      split_ifs at h
      · exact (ih h).trans (Nat.le_succ _)
      · simp only [Option.bind_eq_bind, Option.bind_eq_some_iff] at h
        obtain ⟨_, -, others, hothers, h₂⟩ := h
        rw [← Option.some.inj h₂]
        exact Nat.succ_le_succ (ih hothers)
    | some name =>
      rw [unescape] at h
      split_ifs at h
      · simp only [Option.bind_eq_bind, Option.bind_eq_some_iff] at h
        obtain ⟨_, -, others, hothers, h₂⟩ := h
        rw [← Option.some.inj h₂]
        exact Nat.succ_le_succ (ih hothers)
      · exact (ih h).trans (Nat.le_succ _)

theorem unescape_of_plain {text : Text}
    (h : ∀ byte ∈ text, 0x20 ≤ byte ∧ byte ≠ 0x22 ∧ byte ≠ 0x26 ∧ byte ≠ 0x3C) :
    unescape none text = some text := by
  induction text with
  | nil => rfl
  | cons byte text ih =>
    obtain ⟨⟨hcontrol, -, hamp, hlt⟩, htext⟩ := List.forall_mem_cons.mp h
    rw [unescape, if_neg hlt, if_neg hamp, normalize, if_pos hcontrol, ih htext]
    rfl

theorem plain_of_unescape {text : Text} (h : unescape none text = some text) :
    ∀ byte ∈ text, 0x20 ≤ byte ∧ byte ≠ 0x26 ∧ byte ≠ 0x3C := by
  induction text with
  | nil => exact fun _ hmem => absurd hmem List.not_mem_nil
  | cons byte text ih =>
    rw [unescape] at h
    split_ifs at h with hlt hamp
    · exact absurd (length_unescape h) (Nat.not_succ_le_self _)
    · simp only [Option.bind_eq_bind, Option.bind_eq_some_iff] at h
      obtain ⟨character, hcharacter, others, hothers, h₂⟩ := h
      obtain ⟨rfl, rfl⟩ := List.cons.inj (Option.some.inj h₂)
      refine List.forall_mem_cons.mpr ⟨⟨?_, hamp, hlt⟩, ih hothers⟩
      unfold normalize at hcharacter
      split_ifs at hcharacter with hcontrol hspace
      · exact hcontrol
      · exact (Option.some.inj hcharacter) ▸ UInt8.le_refl _

def expect : Text → Text → Option Text
  | [], bytes => some bytes
  | _ :: _, [] => none
  | character :: text, byte :: bytes => if character = byte then expect text bytes else none

def isNameByte (byte : UInt8) : Bool :=
  0x41 ≤ byte ∧ byte ≤ 0x5A ∨ 0x61 ≤ byte ∧ byte ≤ 0x7A ∨ 0x30 ≤ byte ∧ byte ≤ 0x39 ∨ byte = 0x5F

def isSpace (byte : UInt8) : Bool := byte = 0x20 ∨ byte = 0x09 ∨ byte = 0x0A ∨ byte = 0x0D

def readName (bytes : Text) : Option (Text × Text) :=
  if bytes.takeWhile isNameByte = [] then none
  else some (bytes.takeWhile isNameByte, bytes.dropWhile isNameByte)

def readValue (bytes : Text) : Option (Text × Text) := do
  let inside ← expect [0x22] bytes
  let value ← unescape none (inside.takeWhile (· ≠ 0x22))
  let rest ← expect [0x22] (inside.dropWhile (· ≠ 0x22))
  if isUtf8 [] value then return (value, rest) else none

/-- Attributes, each behind a space. -/
def readAttributes : Nat → Text → Option (List (Text × Text) × Text)
  | 0, _ => none
  | fuel + 1, bytes =>
    match expect [0x20] bytes with
    | none => some ([], bytes)
    | some bytes => do
        let (name, bytes) ← readName bytes
        let bytes ← expect [0x3D] bytes
        let (value, bytes) ← readValue bytes
        let (attributes, bytes) ← readAttributes fuel bytes
        return ((name, value) :: attributes, bytes)

/-- A tag whose attributes have values of some kind. -/
inductive Tag (α : Type)
  | opening (name : Text) (attributes : List (Text × α))
  | empty (name : Text) (attributes : List (Text × α))
  | closing (name : Text)
  deriving DecidableEq

namespace Tag

variable {α : Type}

def name : Tag α → Text
  | .opening name _ => name
  | .empty name _ => name
  | .closing name => name

def attributes : Tag α → List (Text × α)
  | .opening _ attributes => attributes
  | .empty _ attributes => attributes
  | .closing _ => []

def map {γ : Type} (f : α → γ) : Tag α → Tag γ
  | .opening name attributes => .opening name (attributes.map fun entry => (entry.1, f entry.2))
  | .empty name attributes => .empty name (attributes.map fun entry => (entry.1, f entry.2))
  | .closing name => .closing name

@[simp] theorem name_map {γ : Type} (f : α → γ) (tag : Tag α) : (tag.map f).name = tag.name := by
  cases tag <;> rfl

@[simp] theorem attributes_map {γ : Type} (f : α → γ) (tag : Tag α) :
    (tag.map f).attributes = tag.attributes.map fun entry => (entry.1, f entry.2) := by
  cases tag <;> rfl

end Tag

def readTag (bytes : Text) : Option (Tag Text × Text) :=
  match expect [0x3C, 0x2F] bytes with
  | some bytes => do
      let (name, bytes) ← readName bytes
      let bytes ← expect [0x3E] bytes
      return (.closing name, bytes)
  | none => do
      let bytes ← expect [0x3C] bytes
      let (name, bytes) ← readName bytes
      let (attributes, bytes) ← readAttributes (bytes.length + 1) bytes
      match expect [0x2F, 0x3E] bytes with
      | some bytes => return (.empty name attributes, bytes)
      | none => return (.opening name attributes, ← expect [0x3E] bytes)

def readTags : Nat → Text → Option (List (Tag Text))
  | 0, _ => none
  | fuel + 1, bytes =>
    if bytes.dropWhile isSpace = [] then some []
    else do
      let (tag, bytes) ← readTag (bytes.dropWhile isSpace)
      let tags ← readTags fuel bytes
      return tag :: tags

/-- Inside these elements: every one is closed, the innermost first, and nothing follows. -/
def closes {α : Type} : List Text → List (Tag α) → Bool
  | [], tags => tags.isEmpty
  | _ :: _, [] => false
  | open_, .opening name _ :: tags => closes (name :: open_) tags
  | open_, .empty _ _ :: tags => closes open_ tags
  | name :: open_, .closing name' :: tags => name' = name && closes open_ tags

def isElement {α : Type} : List (Tag α) → Bool
  | .opening name _ :: tags => closes [name] tags
  | [.empty _ _] => true
  | _ => false

def WellFormed {α : Type} (tags : List (Tag α)) : Prop :=
  isElement tags = true ∧ ∀ tag ∈ tags, (tag.attributes.map Prod.fst).Nodup

instance {α : Type} (tags : List (Tag α)) : Decidable (WellFormed tags) :=
  inferInstanceAs (Decidable (_ ∧ _))

def parse (bytes : Text) : Option (List (Tag Text)) := do
  let bytes ← expect (ascii "<?xml") bytes
  let (_, bytes) ← readAttributes (bytes.length + 1) bytes
  let bytes ← expect (ascii "?>") bytes
  let tags ← readTags (bytes.length + 1) bytes
  if WellFormed tags then return tags else none

def writeAttribute (entry : Text × Text) : Text :=
  [0x20] ++ entry.1 ++ [0x3D, 0x22] ++ entry.2 ++ [0x22]

def Tag.write : Tag Text → Text
  | .opening name attributes => [0x3C] ++ name ++ attributes.flatMap writeAttribute ++ [0x3E]
  | .empty name attributes => [0x3C] ++ name ++ attributes.flatMap writeAttribute ++ [0x2F, 0x3E]
  | .closing name => [0x3C, 0x2F] ++ name ++ [0x3E]

/-- Each tag on a line, behind white space. -/
def writeLines (lines : List (Text × Tag Text)) : Text :=
  lines.flatMap fun line => line.1 ++ line.2.write ++ [0x0A]

def writeDocument (declaration : List (Text × Text)) (lines : List (Text × Tag Text)) : Text :=
  ascii "<?xml" ++ declaration.flatMap writeAttribute ++ ascii "?>" ++ [0x0A] ++ writeLines lines

theorem expect_append (text rest : Text) : expect text (text ++ rest) = some rest := by
  induction text with
  | nil => rfl
  | cons character text ih => exact (if_pos rfl).trans ih

def IsName (name : Text) : Prop := name ≠ [] ∧ ∀ byte ∈ name, isNameByte byte = true

-- Over all bytes of the name, not over all bytes there are.
instance (name : Text) : Decidable (IsName name) :=
  @instDecidableAnd _ _ inferInstance (List.decidableBAll _ _)

def EndsName (rest : Text) : Prop := ∀ byte ∈ rest.head?, isNameByte byte = false

theorem readName_append {name rest : Text} (hname : IsName name) (hrest : EndsName rest) :
    readName (name ++ rest) = some (name, rest) := by
  have htake : rest.takeWhile isNameByte = [] := by
    cases rest with
    | nil => rfl
    | cons byte rest => exact List.takeWhile_cons_of_neg (by simp [hrest byte rfl])
  have hdrop : rest.dropWhile isNameByte = rest := by
    cases rest with
    | nil => rfl
    | cons byte rest => exact List.dropWhile_cons_of_neg (by simp [hrest byte rfl])
  rw [readName, List.takeWhile_append_of_pos hname.2, List.dropWhile_append_of_pos hname.2, htake,
    hdrop, List.append_nil, if_neg hname.1]

theorem takeWhile_quote (rest : Text) :
    List.takeWhile (fun byte : UInt8 => decide (byte ≠ 0x22)) ([0x22] ++ rest) = [] := rfl

theorem dropWhile_quote (rest : Text) :
    List.dropWhile (fun byte : UInt8 => decide (byte ≠ 0x22)) ([0x22] ++ rest) =
      [0x22] ++ rest := rfl

theorem readValue_append {value : Text} (hvalue : IsPlain value) (rest : Text) :
    readValue ([0x22] ++ value ++ [0x22] ++ rest) = some (value, rest) := by
  have hquote : ∀ byte ∈ value, decide (byte ≠ 0x22) = true :=
    fun byte hbyte => decide_eq_true (hvalue.1 byte hbyte).2.1
  rw [readValue, List.append_assoc, List.append_assoc, expect_append]
  simp only [Option.bind_eq_bind, Option.bind_some]
  rw [List.takeWhile_append_of_pos hquote, List.dropWhile_append_of_pos hquote]
  rw [takeWhile_quote, dropWhile_quote, List.append_nil, unescape_of_plain hvalue.1]
  simp only [Option.bind_some]
  rw [expect_append]
  exact if_pos hvalue.2

theorem plain_of_readValue {value rest rest' : Text}
    (h : readValue ([0x22] ++ value ++ [0x22] ++ rest) = some (value, rest')) : IsPlain value := by
  rw [readValue, List.append_assoc, List.append_assoc, expect_append] at h
  simp only [Option.bind_eq_bind, Option.bind_some] at h
  simp only [Option.bind_eq_bind, Option.bind_eq_some_iff] at h
  obtain ⟨read, hread, _, -, h⟩ := h
  split_ifs at h with hutf
  obtain ⟨rfl, -⟩ := Prod.mk.inj (Option.some.inj h)
  rw [List.takeWhile_append] at hread
  split_ifs at hread with hall
  · have hwhole := (List.takeWhile_prefix _).eq_of_length hall
    have hquote : ∀ byte ∈ read, byte ≠ 0x22 := by
      intro byte hbyte
      rw [← hwhole] at hbyte
      simpa using List.mem_takeWhile_imp hbyte
    rw [takeWhile_quote, List.append_nil] at hread
    exact ⟨fun byte hbyte => ⟨(plain_of_unescape hread byte hbyte).1, hquote byte hbyte,
      (plain_of_unescape hread byte hbyte).2⟩, hutf⟩
  · -- What ends at a quote inside is shorter.
    have hprefix : read.takeWhile (fun byte => decide (byte ≠ 0x22)) <+: read :=
      List.takeWhile_prefix _
    exact absurd (Nat.le_antisymm hprefix.length_le (length_unescape hread)) hall

/-- A rest in which no further attribute comes. -/
def EndsAttributes (rest : Text) : Prop := expect [0x20] rest = none

/-- Attributes of the same number, of which those that are not plain have been read as they are. -/
def ReadAs (attributes attributes' : List (Text × Text)) : Prop :=
  List.Forall₂ (fun entry entry' => IsPlain entry.2 ∨ entry'.2 = entry.2) attributes attributes'

theorem endsName_attributes (attributes : List (Text × Text)) {rest : Text}
    (hrest : EndsName rest) : EndsName (attributes.flatMap writeAttribute ++ rest) := by
  cases attributes with
  | nil => exact hrest
  | cons entry attributes =>
    intro byte hbyte
    obtain rfl : 0x20 = byte := Option.some.inj hbyte
    rfl

theorem readAttributes_cons {fuel : Nat} {name value more : Text} (hname : IsName name) :
    readAttributes (fuel + 1) (writeAttribute (name, value) ++ more) = do
      let (read, rest) ← readValue ([0x22] ++ value ++ [0x22] ++ more)
      let (attributes, rest) ← readAttributes fuel rest
      return ((name, read) :: attributes, rest) := by
  have hends : EndsName ([0x3D] ++ ([0x22] ++ value ++ [0x22] ++ more)) := by
    intro byte hbyte
    obtain rfl : 0x3D = byte := Option.some.inj hbyte
    rfl
  have hwrite : writeAttribute (name, value) ++ more =
      [0x20] ++ (name ++ ([0x3D] ++ ([0x22] ++ value ++ [0x22] ++ more))) := by
    simp [writeAttribute]
  rw [hwrite, readAttributes, expect_append]
  dsimp only
  rw [readName_append hname hends]
  simp only [Option.bind_eq_bind, Option.bind_some]
  rw [expect_append]
  rfl

theorem readAttributes_write {fuel : Nat} {attributes : List (Text × Text)} {rest : Text}
    (hfuel : attributes.length < fuel) (hnames : ∀ entry ∈ attributes, IsName entry.1)
    (hplain : ∀ entry ∈ attributes, IsPlain entry.2) (hrest : EndsAttributes rest) :
    readAttributes fuel (attributes.flatMap writeAttribute ++ rest) = some (attributes, rest) := by
  induction attributes generalizing fuel with
  | nil =>
    obtain ⟨fuel, rfl⟩ := Nat.exists_eq_succ_of_ne_zero (Nat.ne_of_gt hfuel)
    rw [List.flatMap_nil, List.nil_append, readAttributes, hrest]
  | cons entry attributes ih =>
    obtain ⟨fuel, rfl⟩ := Nat.exists_eq_succ_of_ne_zero (Nat.ne_of_gt (Nat.zero_lt_of_lt hfuel))
    obtain ⟨hname, hnames⟩ := List.forall_mem_cons.mp hnames
    obtain ⟨hvalue, hplain⟩ := List.forall_mem_cons.mp hplain
    rw [List.flatMap_cons, List.append_assoc]
    refine (readAttributes_cons hname).trans ?_
    rw [readValue_append hvalue]
    simp only [Option.bind_eq_bind, Option.bind_some]
    rw [ih (Nat.lt_of_succ_lt_succ hfuel) hnames hplain]
    rfl

theorem plain_of_readAttributes {fuel : Nat} {attributes attributes' : List (Text × Text)}
    {rest rest' : Text} (hnames : ∀ entry ∈ attributes, IsName entry.1)
    (hrest : EndsAttributes rest)
    (h : readAttributes fuel (attributes.flatMap writeAttribute ++ rest) =
      some (attributes', rest'))
    (hread : ReadAs attributes attributes') :
    (∀ entry ∈ attributes, IsPlain entry.2) ∧ attributes' = attributes ∧ rest' = rest := by
  induction attributes generalizing fuel attributes' with
  | nil =>
    cases fuel with
    | zero => cases h
    | succ fuel =>
      rw [List.flatMap_nil, List.nil_append, readAttributes, hrest] at h
      cases h
      exact ⟨fun _ hmem => absurd hmem List.not_mem_nil, rfl, rfl⟩
  | cons entry attributes ih =>
    cases fuel with
    | zero => cases h
    | succ fuel =>
      obtain ⟨name, value⟩ := entry
      obtain ⟨hname, hnames⟩ := List.forall_mem_cons.mp hnames
      rw [List.flatMap_cons, List.append_assoc, readAttributes_cons hname] at h
      simp only [Option.bind_eq_bind, Option.bind_eq_some_iff] at h
      obtain ⟨⟨read, rest₁⟩, hvalue, ⟨others, rest₂⟩, hothers, h₂⟩ := h
      cases h₂
      obtain ⟨hentry, htail⟩ := List.forall₂_cons.mp hread
      have hplain : IsPlain value := by
        rcases hentry with hplain | hsame
        · exact hplain
        · obtain rfl : read = value := hsame
          exact plain_of_readValue hvalue
      rw [readValue_append hplain] at hvalue
      cases hvalue
      obtain ⟨hall, rfl, rfl⟩ := ih hnames hothers htail
      exact ⟨List.forall_mem_cons.mpr ⟨hplain, hall⟩, rfl, rfl⟩

namespace Tag

def Named (tag : Tag Text) : Prop :=
  IsName tag.name ∧ ∀ entry ∈ tag.attributes, IsName entry.1

def Plain (tag : Tag Text) : Prop := ∀ entry ∈ tag.attributes, IsPlain entry.2

end Tag

theorem length_le_writeAttributes (attributes : List (Text × Text)) :
    attributes.length ≤ (attributes.flatMap writeAttribute).length := by
  induction attributes with
  | nil => exact Nat.zero_le _
  | cons entry attributes ih =>
    rw [List.flatMap_cons, List.length_append, writeAttribute]
    simp only [List.length_append, List.length_cons, List.length_nil]
    omega

theorem expect_slash {name rest : Text} (hname : IsName name) :
    expect [0x3C, 0x2F] ([0x3C] ++ (name ++ rest)) = none := by
  obtain ⟨byte, name, rfl⟩ := List.exists_cons_of_ne_nil hname.1
  have hbyte := hname.2 byte List.mem_cons_self
  have hne : (0x2F : UInt8) ≠ byte := by
    rintro rfl
    cases hbyte
  exact (if_pos rfl).trans (if_neg hne)

theorem readTag_name {name rest : Text} {attributes : List (Text × Text)} (hname : IsName name)
    (hrest : EndsName rest) :
    readTag ([0x3C] ++ (name ++ (attributes.flatMap writeAttribute ++ rest))) = do
      let (attributes, bytes) ←
        readAttributes ((attributes.flatMap writeAttribute ++ rest).length + 1)
          (attributes.flatMap writeAttribute ++ rest)
      match expect [0x2F, 0x3E] bytes with
      | some bytes => return (.empty name attributes, bytes)
      | none => return (.opening name attributes, ← expect [0x3E] bytes) := by
  rw [readTag, expect_slash hname]
  dsimp only
  rw [expect_append]
  simp only [Option.bind_eq_bind, Option.bind_some]
  rw [readName_append hname (endsName_attributes attributes hrest)]
  rfl

theorem endsName_cons {byte : UInt8} (hbyte : isNameByte byte = false) (rest : Text) :
    EndsName (byte :: rest) := by
  intro first hfirst
  cases hfirst
  exact hbyte

theorem write_opening (name : Text) (attributes : List (Text × Text)) (rest : Text) :
    (Tag.opening name attributes).write ++ rest =
      [0x3C] ++ (name ++ (attributes.flatMap writeAttribute ++ (0x3E :: rest))) := by
  simp [Tag.write]

theorem write_empty (name : Text) (attributes : List (Text × Text)) (rest : Text) :
    (Tag.empty name attributes).write ++ rest =
      [0x3C] ++ (name ++ (attributes.flatMap writeAttribute ++ (0x2F :: 0x3E :: rest))) := by
  simp [Tag.write]

theorem write_closing (name rest : Text) :
    (Tag.closing name).write ++ rest = [0x3C, 0x2F] ++ (name ++ ([0x3E] ++ rest)) := by
  simp [Tag.write]

theorem readTag_write {tag : Tag Text} {rest : Text} (hnamed : tag.Named) (hplain : tag.Plain) :
    readTag (tag.write ++ rest) = some (tag, rest) := by
  cases tag with
  | opening name attributes =>
    have hlength := length_le_writeAttributes attributes
    have hread := @readAttributes_write
      ((attributes.flatMap writeAttribute ++ (0x3E :: rest)).length + 1) attributes (0x3E :: rest)
      (by rw [List.length_append]; omega) hnamed.2 hplain rfl
    have hname : IsName name := hnamed.1
    rw [write_opening, readTag_name hname (@endsName_cons 0x3E rfl rest), hread]
    rfl
  | empty name attributes =>
    have hlength := length_le_writeAttributes attributes
    have hread := @readAttributes_write
      ((attributes.flatMap writeAttribute ++ (0x2F :: 0x3E :: rest)).length + 1) attributes
      (0x2F :: 0x3E :: rest) (by rw [List.length_append]; omega) hnamed.2 hplain rfl
    have hname : IsName name := hnamed.1
    rw [write_empty, readTag_name hname (@endsName_cons 0x2F rfl _), hread]
    rfl
  | closing name =>
    have hname : IsName name := hnamed.1
    have hends : EndsName ([0x3E] ++ rest) := @endsName_cons 0x3E rfl rest
    rw [write_closing, readTag, expect_append]
    dsimp only
    rw [readName_append hname hends]
    simp only [Option.bind_eq_bind, Option.bind_some]
    rw [expect_append]
    rfl

theorem plain_of_attributes {name ending rest' : Text} {attributes : List (Text × Text)}
    {tag' : Tag Text} (hname : IsName name) (hnames : ∀ entry ∈ attributes, IsName entry.1)
    (hending : EndsName ending) (hends : EndsAttributes ending)
    (h : readTag ([0x3C] ++ (name ++ (attributes.flatMap writeAttribute ++ ending))) =
      some (tag', rest'))
    (hread : ReadAs attributes tag'.attributes) : ∀ entry ∈ attributes, IsPlain entry.2 := by
  rw [readTag_name hname hending] at h
  obtain ⟨⟨attributes', bytes⟩, hattributes, h₁⟩ := Option.bind_eq_some_iff.mp h
  have hsame : tag'.attributes = attributes' := by
    dsimp only at h₁
    split at h₁
    · cases h₁
      rfl
    · obtain ⟨_, -, h₂⟩ := Option.bind_eq_some_iff.mp h₁
      cases h₂
      rfl
  exact (plain_of_readAttributes hnames hends hattributes (hsame ▸ hread)).1

theorem plain_of_readTag {tag tag' : Tag Text} {rest rest' : Text} (hnamed : tag.Named)
    (h : readTag (tag.write ++ rest) = some (tag', rest'))
    (hread : tag.Plain ∨ ReadAs tag.attributes tag'.attributes) :
    tag.Plain ∧ tag' = tag ∧ rest' = rest := by
  have hplain : tag.Plain := by
    rcases hread with hplain | hread
    · exact hplain
    cases tag with
    | opening name attributes =>
      rw [write_opening] at h
      exact plain_of_attributes hnamed.1 hnamed.2 (@endsName_cons 0x3E rfl rest) (by rfl) h hread
    | empty name attributes =>
      rw [write_empty] at h
      exact plain_of_attributes hnamed.1 hnamed.2 (@endsName_cons 0x2F rfl _) (by rfl) h hread
    | closing name => exact fun _ hmem => absurd hmem List.not_mem_nil
  rw [readTag_write hnamed hplain] at h
  cases h
  exact ⟨hplain, rfl, rfl⟩

def Indented (line : Text × Tag Text) : Prop :=
  (∀ byte ∈ line.1, isSpace byte = true) ∧ line.2.Named

theorem dropWhile_line {line : Text × Tag Text} (hline : Indented line) (rest : Text) :
    (line.1 ++ line.2.write ++ [0x0A] ++ rest).dropWhile isSpace =
      line.2.write ++ ([0x0A] ++ rest) := by
  have hwrite : ∃ more, line.2.write = 0x3C :: more := by
    cases line.2 with
    | opening name attributes => exact ⟨_, rfl⟩
    | empty name attributes => exact ⟨_, rfl⟩
    | closing name => exact ⟨_, rfl⟩
  obtain ⟨more, hmore⟩ := hwrite
  rw [List.append_assoc, List.append_assoc, List.dropWhile_append_of_pos hline.1, hmore]
  exact List.dropWhile_cons_of_neg (by decide)

theorem readTags_newline (fuel : Nat) (bytes : Text) :
    readTags fuel ([0x0A] ++ bytes) = readTags fuel bytes := by
  cases fuel with
  | zero => rfl
  | succ fuel => rfl

theorem readTags_cons {fuel : Nat} {line : Text × Tag Text} {lines : List (Text × Tag Text)}
    (hline : Indented line) :
    readTags (fuel + 1) (writeLines (line :: lines)) = do
      let (tag, bytes) ← readTag (line.2.write ++ ([0x0A] ++ writeLines lines))
      let tags ← readTags fuel bytes
      return tag :: tags := by
  have hwrite : writeLines (line :: lines) =
      line.1 ++ line.2.write ++ [0x0A] ++ writeLines lines := by
    rw [writeLines, List.flatMap_cons]
    rfl
  have hne : line.2.write ++ ([0x0A] ++ writeLines lines) ≠ [] := by simp
  rw [hwrite, readTags, dropWhile_line hline, if_neg hne]

theorem readTags_writeLines {fuel : Nat} {lines : List (Text × Tag Text)}
    (hfuel : lines.length < fuel) (hlines : ∀ line ∈ lines, Indented line)
    (hplain : ∀ line ∈ lines, line.2.Plain) :
    readTags fuel (writeLines lines) = some (lines.map Prod.snd) := by
  induction lines generalizing fuel with
  | nil =>
    obtain ⟨fuel, rfl⟩ := Nat.exists_eq_succ_of_ne_zero (Nat.ne_of_gt hfuel)
    rfl
  | cons line lines ih =>
    obtain ⟨fuel, rfl⟩ := Nat.exists_eq_succ_of_ne_zero (Nat.ne_of_gt (Nat.zero_lt_of_lt hfuel))
    obtain ⟨hline, hlines⟩ := List.forall_mem_cons.mp hlines
    obtain ⟨hfirst, hplain⟩ := List.forall_mem_cons.mp hplain
    rw [readTags_cons hline, readTag_write hline.2 hfirst]
    simp only [Option.bind_eq_bind, Option.bind_some]
    rw [readTags_newline, ih (Nat.lt_of_succ_lt_succ hfuel) hlines hplain]
    rfl

section Meaning

variable {β : Type} (meaning : Tag Text → Option β)

/-- Each tag is plain, or whatever is read in its place and means the same has its values. -/
def Aligned : List (Tag Text) → List β → Prop
  | tag :: tags, expected :: others =>
    (∀ tag', meaning tag' = some expected →
      tag.Plain ∨ ReadAs tag.attributes tag'.attributes) ∧
      (meaning tag = some expected → Aligned tags others)
  | _, _ => True

variable {meaning}

theorem plain_of_readTags {fuel : Nat} {lines : List (Text × Tag Text)} {tags : List (Tag Text)}
    {expected : List β} (hlines : ∀ line ∈ lines, Indented line)
    (haligned : Aligned meaning (lines.map Prod.snd) expected)
    (h : readTags fuel (writeLines lines) = some tags)
    (hmeaning : tags.mapM meaning = some expected) :
    (∀ line ∈ lines, line.2.Plain) ∧ tags = lines.map Prod.snd := by
  induction lines generalizing fuel tags expected with
  | nil =>
    refine ⟨fun _ hmem => absurd hmem List.not_mem_nil, ?_⟩
    cases fuel with
    | zero => cases h
    | succ fuel => exact (Option.some.inj h).symm
  | cons line lines ih =>
    cases fuel with
    | zero => cases h
    | succ fuel =>
      obtain ⟨hline, hlines⟩ := List.forall_mem_cons.mp hlines
      rw [readTags_cons hline] at h
      simp only [Option.bind_eq_bind, Option.bind_eq_some_iff] at h
      obtain ⟨⟨tag, bytes⟩, htag, others, hothers, h₂⟩ := h
      cases h₂
      rw [List.mapM_cons] at hmeaning
      simp only [Option.bind_eq_bind, Option.bind_eq_some_iff] at hmeaning
      obtain ⟨first, hfirst, rest, hrest, hmeaning⟩ := hmeaning
      cases hmeaning
      obtain ⟨hread, haligned⟩ := haligned
      obtain ⟨hplain, rfl, rfl⟩ := plain_of_readTag hline.2 htag (hread tag hfirst)
      rw [readTags_newline] at hothers
      obtain ⟨hall, rfl⟩ := ih hlines (haligned hfirst) hothers hrest
      exact ⟨List.forall_mem_cons.mpr ⟨hplain, hall⟩, rfl⟩

end Meaning

section Nested

variable {α β γ : Type} {first : Text} {open_ : List Text}

theorem closes_map_empty (f : β → Tag α) (hf : ∀ b, ∃ name attributes, f b = .empty name attributes)
    (bs : List β) (tags : List (Tag α)) :
    closes (first :: open_) (bs.map f ++ tags) = closes (first :: open_) tags := by
  induction bs with
  | nil => rfl
  | cons b bs ih =>
    obtain ⟨name, attributes, hb⟩ := hf b
    rw [List.map_cons, List.cons_append, hb]
    exact ih

theorem closes_flatMap {f : β → List (Tag α)}
    (hf : ∀ b tags, closes (first :: open_) (f b ++ tags) = closes (first :: open_) tags)
    (bs : List β) (tags : List (Tag α)) :
    closes (first :: open_) (bs.flatMap f ++ tags) = closes (first :: open_) tags := by
  induction bs with
  | nil => rfl
  | cons b bs ih => rw [List.flatMap_cons, List.append_assoc, hf, ih]

theorem closes_map (f : α → γ) (open_ : List Text) (tags : List (Tag α)) :
    closes open_ (tags.map (Tag.map f)) = closes open_ tags := by
  induction tags generalizing open_ with
  | nil =>
    cases open_ with
    | nil => rfl
    | cons first open_ => rfl
  | cons tag tags ih =>
    cases open_ with
    | nil => rfl
    | cons first open_ =>
      cases tag with
      | opening name attributes => exact ih (name :: first :: open_)
      | empty name attributes => exact ih (first :: open_)
      | closing name => exact congrArg (decide (name = first) && ·) (ih open_)

theorem wellFormed_map {f : α → γ} {tags : List (Tag α)} (h : WellFormed tags) :
    WellFormed (tags.map (Tag.map f)) := by
  refine ⟨?_, List.forall_mem_map.mpr fun tag htag => ?_⟩
  · have helement := h.1
    cases tags with
    | nil => exact helement
    | cons tag tags =>
      cases tag with
      | opening name attributes => exact (closes_map f [name] tags).trans helement
      | empty name attributes =>
        cases tags with
        | nil => rfl
        | cons next tags => cases helement
      | closing name => cases helement
  · rw [Tag.attributes_map, List.map_map]
    exact h.2 tag htag

end Nested

section Documents

variable {declaration : List (Text × Text)} {lines : List (Text × Tag Text)}

theorem writeLines_append (lines lines' : List (Text × Tag Text)) :
    writeLines (lines ++ lines') = writeLines lines ++ writeLines lines' := List.flatMap_append

theorem writeLines_flatMap {β : Type} (f : β → List (Text × Tag Text)) (bs : List β) :
    writeLines (bs.flatMap f) = bs.flatMap fun b => writeLines (f b) := List.flatMap_assoc

theorem writeLines_map {β : Type} (f : β → Text × Tag Text) (bs : List β) :
    writeLines (bs.map f) = bs.flatMap fun b => writeLines [f b] := by
  rw [← List.flatMap_singleton' (bs.map f), List.flatMap_map, writeLines_flatMap]

theorem length_le_writeLines (lines : List (Text × Tag Text)) :
    lines.length ≤ (writeLines lines).length := by
  induction lines with
  | nil => exact Nat.zero_le _
  | cons line lines ih =>
    rw [writeLines, List.flatMap_cons, List.length_append]
    change lines.length + 1 ≤ _ + (writeLines lines).length
    simp only [List.length_append, List.length_cons, List.length_nil]
    omega

theorem parse_writeDocument (hnames : ∀ entry ∈ declaration, IsName entry.1)
    (hplain : ∀ entry ∈ declaration, IsPlain entry.2) :
    parse (writeDocument declaration lines) =
      (readTags ([0x0A] ++ writeLines lines).length.succ (writeLines lines)).bind fun tags =>
        if WellFormed tags then some tags else none := by
  have hlength := length_le_writeAttributes declaration
  have hread := @readAttributes_write ((declaration.flatMap writeAttribute ++
    (ascii "?>" ++ ([0x0A] ++ writeLines lines))).length + 1) declaration
    (ascii "?>" ++ ([0x0A] ++ writeLines lines)) (by rw [List.length_append]; omega) hnames hplain
    (by rfl)
  rw [parse, writeDocument, List.append_assoc, List.append_assoc, List.append_assoc, expect_append]
  simp only [Option.bind_eq_bind, Option.bind_some]
  rw [hread]
  simp only [Option.bind_some]
  rw [expect_append]
  simp only [Option.bind_some]
  rw [readTags_newline]
  rfl

theorem parse_of_plain (hnames : ∀ entry ∈ declaration, IsName entry.1)
    (hdeclaration : ∀ entry ∈ declaration, IsPlain entry.2)
    (hlines : ∀ line ∈ lines, Indented line) (hplain : ∀ line ∈ lines, line.2.Plain)
    (hformed : WellFormed (lines.map Prod.snd)) :
    parse (writeDocument declaration lines) = some (lines.map Prod.snd) := by
  have hlength := length_le_writeLines lines
  rw [parse_writeDocument hnames hdeclaration, readTags_writeLines
    (by rw [List.length_append, List.length_singleton]; omega) hlines hplain, Option.bind_some,
    if_pos hformed]

theorem plain_of_parse {β : Type} {meaning : Tag Text → Option β} {tags : List (Tag Text)}
    {expected : List β} (hnames : ∀ entry ∈ declaration, IsName entry.1)
    (hdeclaration : ∀ entry ∈ declaration, IsPlain entry.2)
    (hlines : ∀ line ∈ lines, Indented line)
    (haligned : Aligned meaning (lines.map Prod.snd) expected)
    (h : parse (writeDocument declaration lines) = some tags)
    (hmeaning : tags.mapM meaning = some expected) :
    (∀ line ∈ lines, line.2.Plain) ∧ tags = lines.map Prod.snd := by
  rw [parse_writeDocument hnames hdeclaration] at h
  obtain ⟨tags', htags, h⟩ := Option.bind_eq_some_iff.mp h
  split_ifs at h with hformed
  cases h
  exact plain_of_readTags hlines haligned htags hmeaning

end Documents

end Isobus.Lib.Xml
