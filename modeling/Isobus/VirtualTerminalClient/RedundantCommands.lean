import Isobus.VirtualTerminalClient.TrackedValues

namespace Isobus.VirtualTerminalClient

open Isobus.Can Isobus.Lib Isobus.VirtualTerminal

section Learning

variable {bus : Bus} {values values' : Item → Option UInt32} {item : Item} {answer : Answer}
  {answers : List Answer}

theorem learned_of_ne (h : answer.command.item ≠ item) :
    bus.learned values answer item = values item := by
  rw [Bus.learned]
  split_ifs
  · exact Function.update_of_ne h.symm _ _
  · rfl

theorem learned_of_not_confirms (h : bus.confirms item = false) :
    bus.learned values answer item = values item := by
  by_cases hitem : answer.command.item = item
  · rw [Bus.learned, hitem, h]
    exact congrFun (if_neg fun hand => Bool.false_ne_true hand.1) item
  · exact learned_of_ne hitem

theorem learned_of_refused (h : answer.reply ≠ .errorCode 0) :
    bus.learned values answer = values :=
  if_neg fun hand => h hand.2.1

theorem learned_of_confirms (hconfirms : bus.confirms answer.command.item = true)
    (hreply : answer.reply = .errorCode 0) (hsome : (values answer.command.item).isSome) :
    bus.learned values answer answer.command.item = some answer.command.value := by
  rw [Bus.learned, if_pos ⟨hconfirms, hreply, hsome⟩, Function.update_self]

theorem learned_congr (h : values item = values' item) :
    bus.learned values answer item = bus.learned values' answer item := by
  by_cases hitem : answer.command.item = item
  · subst hitem
    rw [Bus.learned, Bus.learned, h]
    split_ifs
    · rw [Function.update_self, Function.update_self]
    · exact h
  · rw [learned_of_ne hitem, learned_of_ne hitem, h]

theorem isSome_learned :
    (bus.learned values answer item).isSome = (values item).isSome := by
  by_cases hitem : answer.command.item = item
  · subst hitem
    rw [Bus.learned]
    split_ifs with hlearned
    · rw [Function.update_self, hlearned.2.2]
      rfl
    · rfl
  · rw [learned_of_ne hitem]

theorem foldl_learned_congr (h : values item = values' item) :
    answers.foldl bus.learned values item = answers.foldl bus.learned values' item := by
  induction answers generalizing values values' with
  | nil => exact h
  | cons answer answers ih => exact ih (learned_congr h)

theorem foldl_learned_of_not_confirms (h : bus.confirms item = false) :
    answers.foldl bus.learned values item = values item := by
  induction answers generalizing values with
  | nil => rfl
  | cons answer answers ih => exact ih.trans (learned_of_not_confirms h)

theorem foldl_learned_of_not_mem (h : ∀ answer ∈ answers, answer.command.item ≠ item) :
    answers.foldl bus.learned values item = values item := by
  induction answers generalizing values with
  | nil => rfl
  | cons answer answers ih =>
    have hfirst : bus.learned values answer item = values item :=
      learned_of_ne (h answer List.mem_cons_self)
    rw [List.foldl_cons, ← hfirst]
    exact ih fun other hmem => h other (List.mem_cons_of_mem answer hmem)

theorem isSome_foldl_learned :
    (answers.foldl bus.learned values item).isSome = (values item).isSome := by
  induction answers generalizing values with
  | nil => rfl
  | cons answer answers ih => exact ih.trans isSome_learned

end Learning

theorem byteOf_injective {id id' : UInt16} (h₀ : byteOf id.toUInt32 0 = byteOf id'.toUInt32 0)
    (h₁ : byteOf id.toUInt32 1 = byteOf id'.toUInt32 1) : id = id' := by
  rw [← decode16_byteOf id, h₀, h₁, decode16_byteOf]

/-- Commands with different function codes are not similar. -/
def HelperCommand.functionCode : HelperCommand → UInt8
  | hideShowObject _ _ => 0xA0
  | changeNumericValue _ _ => 0xA8
  | changeActiveMask _ _ => 0xAD
  | changeSoftkeyMask _ _ _ => 0xAE
  | changeAttribute _ _ _ => 0xAF

theorem head_buffer (command : HelperCommand) : command.buffer.getD 0 0 = command.functionCode := by
  cases command <;> rfl

theorem item_eq_of_similar {command command' : HelperCommand}
    (h : areCommandsSimilar command.buffer command'.buffer = true) :
    command.item = command'.item := by
  obtain ⟨-, hfunction, hbytes⟩ := of_decide_eq_true h
  rw [head_buffer] at hbytes
  rw [head_buffer, head_buffer] at hfunction
  cases command with
  | hideShowObject objectId shown =>
    cases command' with
    | hideShowObject objectId' shown' =>
      replace hbytes := fun i (hi : i ∈ comparedBytes 0xA0) => hbytes i hi
      exact congrArg Item.shown
        (byteOf_injective (hbytes 1 (by decide)) (hbytes 2 (by decide)))
    | _ => simp [HelperCommand.functionCode] at hfunction
  | changeNumericValue objectId value =>
    cases command' with
    | changeNumericValue objectId' value' =>
      replace hbytes := fun i (hi : i ∈ comparedBytes 0xA8) => hbytes i hi
      exact congrArg Item.numericValue
        (byteOf_injective (hbytes 1 (by decide)) (hbytes 2 (by decide)))
    | _ => simp [HelperCommand.functionCode] at hfunction
  | changeActiveMask workingSetId maskId =>
    cases command' with
    | changeActiveMask workingSetId' maskId' => rfl
    | _ => simp [HelperCommand.functionCode] at hfunction
  | changeSoftkeyMask maskType maskId softKeyMaskId =>
    cases command' with
    | changeSoftkeyMask maskType' maskId' softKeyMaskId' =>
      replace hbytes := fun i (hi : i ∈ comparedBytes 0xAE) => hbytes i hi
      exact congrArg Item.softKeyMask
        (byteOf_injective (hbytes 2 (by decide)) (hbytes 3 (by decide)))
    | _ => simp [HelperCommand.functionCode] at hfunction
  | changeAttribute objectId attributeID value =>
    cases command' with
    | changeAttribute objectId' attributeID' value' =>
      replace hbytes := fun i (hi : i ∈ comparedBytes 0xAF) => hbytes i hi
      exact congrArg₂ Item.attributeValue
        (byteOf_injective (hbytes 1 (by decide)) (hbytes 2 (by decide)))
        (hbytes 3 (by decide))
    | _ => simp [HelperCommand.functionCode] at hfunction

def about (item : Item) (command : HelperCommand) : Bool := command.item = item

theorem about_iff {item : Item} {command : HelperCommand} :
    about item command = true ↔ command.item = item := decide_eq_true_iff

theorem about_eq_false_iff {item : Item} {command : HelperCommand} :
    about item command = false ↔ command.item ≠ item := decide_eq_false_iff_not

namespace Session

variable (bus : Bus) (session : Session)

/-- The commands that the terminal has yet to execute, in their order. -/
def underWay : List HelperCommand := session.commands ++ session.client.commandQueue

def Pending (item : Item) : Prop := ∃ command ∈ session.underWay, command.item = item

def expected : Item → Option UInt32 := session.answers.foldl bus.learned session.tracker.value

/-- The terminal will hold another value, or holds the one that the tracker will have. -/
def Covered (item : Item) : Prop :=
  session.Pending item ∨ session.expected bus item = some (session.held item)

/-- Of an item whose value is not told again, the tracker has the value of its last command. -/
structure Consistent : Prop where
  client : session.tracker.client.isSome
  server : session.tracker.server = some bus.terminal
  covered : ∀ item, (session.tracker.value item).isSome → session.Covered bus item
  last : ∀ item command, bus.confirms item = false →
    (session.underWay.filter (about item)).getLast? = some command →
      session.tracker.value item = some command.value
  single : ∀ item, bus.confirms item = false →
    (session.client.commandQueue.filter (about item)).length ≤ 1
  commands : bus.hears = true → ∀ command ∈ session.underWay, command.NotMisread
  answers : bus.hears = true → ∀ answer ∈ session.answers, answer.command.NotMisread

variable {bus session}

theorem pending_iff {item : Item} :
    session.Pending item ↔ session.underWay.filter (about item) ≠ [] := by
  rw [Ne, List.filter_eq_nil_iff, Pending]
  constructor
  · rintro ⟨command, hmem, hitem⟩ hnone
    exact hnone command hmem (about_iff.mpr hitem)
  · intro hsome
    by_contra hnot
    exact hsome fun command hmem habout => hnot ⟨command, hmem, about_iff.mp habout⟩

theorem consistent_start (bus : Bus) (tracker : StateTracker) (pool : Item → UInt32) :
    (Session.start bus tracker pool).Consistent bus where
  client := rfl
  server := rfl
  covered item hsome := by
    right
    obtain ⟨value, hvalue⟩ := Option.isSome_iff_exists.mp hsome
    have htracker : tracker.value item = some value := by
      rw [← hvalue]
      cases item <;> rfl
    have hheld : (Session.start bus tracker pool).held item = value := by
      change (tracker.value item).getD (pool item) = value
      rw [htracker, Option.getD_some]
    rw [hheld]
    exact hvalue
  last item command _ hlast := by
    exact absurd hlast (by simp [underWay, Session.start])
  single item _ := Nat.zero_le 1
  commands _ command hmem := absurd hmem List.not_mem_nil
  answers _ answer hmem := absurd hmem List.not_mem_nil

theorem Consistent.held_eq (h : session.Consistent bus) {item : Item} {value : UInt32}
    (hvalue : session.tracker.value item = some value) (hpending : ¬session.Pending item)
    (hanswers : ∀ answer ∈ session.answers, answer.command.item ≠ item) :
    session.held item = value := by
  have hcovered := h.covered item (hvalue ▸ rfl)
  have hexpected := hcovered.resolve_left hpending
  rw [expected, foldl_learned_of_not_mem hanswers, hvalue] at hexpected
  exact (Option.some.inj hexpected).symm

theorem Consistent.processed (h : session.Consistent bus)
    {result : CommandClient HelperCommand × List HelperCommand}
    (hperm : (result.2 ++ result.1.commandQueue).Perm session.client.commandQueue)
    (hfilter : ∀ p : HelperCommand → Bool, (session.client.commandQueue.filter p).length ≤ 1 →
      (result.2 ++ result.1.commandQueue).filter p = session.client.commandQueue.filter p) :
    (session.processed result).Consistent bus := by
  have hunderWay : (session.processed result).underWay =
      session.commands ++ (result.2 ++ result.1.commandQueue) := List.append_assoc _ _ _
  have hmem (command : HelperCommand) :
      command ∈ (session.processed result).underWay ↔ command ∈ session.underWay := by
    rw [hunderWay]
    exact (hperm.append_left session.commands).mem_iff
  have hpending (item : Item) :
      (session.processed result).Pending item ↔ session.Pending item :=
    exists_congr fun command => and_congr_left' (hmem command)
  constructor
  · exact h.client
  · exact h.server
  · intro item hsome
    exact (h.covered item hsome).imp_left (hpending item).mpr
  · intro item command hconfirms hlast
    rw [hunderWay, List.filter_append, hfilter _ (h.single item hconfirms),
      ← List.filter_append] at hlast
    exact h.last item command hconfirms hlast
  · intro item hconfirms
    have hlength := congrArg List.length (hfilter _ (h.single item hconfirms))
    have hone := h.single item hconfirms
    rw [List.filter_append, List.length_append] at hlength
    exact (Nat.le_add_left _ _).trans (hlength.le.trans hone)
  · intro hhears command hcommand
    exact h.commands hhears command ((hmem command).mp hcommand)
  · exact h.answers

variable {command : HelperCommand} {session' : Session} {commands : List HelperCommand}

theorem Consistent.given (h : session.Consistent bus) (hclient : session'.tracker.client.isSome)
    (hserver : session'.tracker.server = some bus.terminal)
    (hvalue : session'.tracker.value =
      Function.update session.tracker.value command.item (some command.value))
    (hheld : session'.held = session.held)
    (hanswers : session'.answers = session.answers) (hmem : command ∈ session'.underWay)
    (hcases : ∀ other ∈ session'.underWay, other ∈ session.underWay ∨ other = command)
    (hread : bus.hears = true → command.NotMisread)
    (hothers : ∀ item, item ≠ command.item →
      session'.underWay.filter (about item) = session.underWay.filter (about item) ∧
        session'.client.commandQueue.filter (about item) =
          session.client.commandQueue.filter (about item))
    (hitem : bus.confirms command.item = false →
      (session'.underWay.filter (about command.item)).getLast? = some command ∧
        (session'.client.commandQueue.filter (about command.item)).length ≤ 1) :
    session'.Consistent bus := by
  constructor
  · exact hclient
  · exact hserver
  · intro item hsome
    by_cases hsame : item = command.item
    · exact .inl ⟨command, hmem, hsame.symm⟩
    · rw [hvalue, Function.update_of_ne hsame] at hsome
      apply (h.covered item hsome).imp
      · intro hpending
        rw [pending_iff, (hothers item hsame).1]
        exact pending_iff.mp hpending
      · intro hexpected
        rw [expected, hanswers, hheld, ← hexpected]
        apply foldl_learned_congr
        rw [hvalue, Function.update_of_ne hsame]
  · intro item other hconfirms hlast
    by_cases hsame : item = command.item
    · rw [hsame] at hconfirms hlast
      rw [(hitem hconfirms).1] at hlast
      rw [hvalue, hsame, Function.update_self, Option.some.inj hlast]
    · rw [(hothers item hsame).1] at hlast
      rw [hvalue, Function.update_of_ne hsame]
      exact h.last item other hconfirms hlast
  · intro item hconfirms
    by_cases hsame : item = command.item
    · rw [hsame] at hconfirms ⊢
      exact (hitem hconfirms).2
    · rw [(hothers item hsame).2]
      exact h.single item hconfirms
  · intro hhears other hother
    obtain hold | rfl := hcases other hother
    · exact h.commands hhears other hold
    · exact hread hhears
  · intro hhears answer hanswer
    rw [hanswers] at hanswer
    exact h.answers hhears answer hanswer

theorem Consistent.sent (h : session.Consistent bus) (hclient : session'.tracker.client.isSome)
    (hserver : session'.tracker.server = some bus.terminal)
    (hvalue : session'.tracker.value =
      Function.update session.tracker.value command.item (some command.value))
    (hheld : session'.held = session.held)
    (hanswers : session'.answers = session.answers)
    (hcommands : session'.commands = session.commands ++ [command])
    (hqueue : session'.client.commandQueue = session.client.commandQueue)
    (hread : bus.hears = true → command.NotMisread)
    (hfree : bus.confirms command.item = false →
      ∀ queued ∈ session.client.commandQueue, queued.item ≠ command.item) :
    session'.Consistent bus := by
  have hunderWay : session'.underWay =
      session.commands ++ [command] ++ session.client.commandQueue := by
    rw [underWay, hcommands, hqueue]
  apply h.given hclient hserver hvalue hheld hanswers _ _ hread
  · intro item hne
    have habout : about item command = false := about_eq_false_iff.mpr hne.symm
    rw [hunderWay, hqueue, underWay, List.filter_append, List.filter_append, List.filter_append,
      List.filter_singleton, habout]
    exact ⟨by simp, rfl⟩
  · intro hconfirms
    have hnone : session.client.commandQueue.filter (about command.item) = [] := by
      apply List.filter_eq_nil_iff.mpr
      intro queued hmem habout
      exact hfree hconfirms queued hmem (about_iff.mp habout)
    have habout : about command.item command = true := about_iff.mpr rfl
    rw [hunderWay, hqueue, List.filter_append, hnone, List.filter_append, List.append_nil,
      List.filter_cons_of_pos habout, List.filter_nil, List.getLast?_concat]
    exact ⟨rfl, Nat.zero_le 1⟩
  · rw [hunderWay]
    exact List.mem_append_left _ (List.mem_append_right _ List.mem_cons_self)
  · intro other hmem
    rw [hunderWay] at hmem
    rw [underWay, List.mem_append]
    obtain hfirst | hqueued := List.mem_append.mp hmem
    · exact (List.mem_append.mp hfirst).imp .inl List.mem_singleton.mp
    · exact .inl (.inr hqueued)

theorem Consistent.queued (h : session.Consistent bus) (hclient : session'.tracker.client.isSome)
    (hserver : session'.tracker.server = some bus.terminal)
    (hvalue : session'.tracker.value =
      Function.update session.tracker.value command.item (some command.value))
    (hheld : session'.held = session.held)
    (hanswers : session'.answers = session.answers)
    (hcommands : session'.commands = session.commands)
    (hqueue : session'.client.commandQueue =
      CommandClient.enqueued HelperCommand.buffer session.client.commandQueue command true)
    (hread : bus.hears = true → command.NotMisread)
    (hsimilar : bus.confirms command.item = false →
      ∀ queued ∈ session.client.commandQueue, queued.item = command.item →
        areCommandsSimilar queued.buffer command.buffer = true) :
    session'.Consistent bus := by
  have hunderWay : session'.underWay = session.commands ++
      CommandClient.enqueued HelperCommand.buffer session.client.commandQueue command true := by
    rw [underWay, hcommands, hqueue]
  apply h.given hclient hserver hvalue hheld hanswers _ _ hread
  · intro item hne
    have habout : about item command = false := about_eq_false_iff.mpr hne.symm
    have hstays : (CommandClient.enqueued HelperCommand.buffer session.client.commandQueue command
        true).filter (about item) = session.client.commandQueue.filter (about item) := by
      apply CommandClient.filter_enqueued_of_not habout
      intro queued _ hsimilar
      exact about_eq_false_iff.mpr fun hitem =>
        hne (hitem.symm.trans (item_eq_of_similar hsimilar))
    rw [hunderWay, hqueue, underWay, List.filter_append, List.filter_append, hstays]
    exact ⟨rfl, rfl⟩
  · intro hconfirms
    have habout : about command.item command = true := about_iff.mpr rfl
    have honly : (CommandClient.enqueued HelperCommand.buffer session.client.commandQueue command
        true).filter (about command.item) = [command] := by
      apply CommandClient.filter_enqueued_of_similar habout
      intro queued hmem
      rw [Bool.eq_iff_iff, about_iff]
      exact ⟨item_eq_of_similar, hsimilar hconfirms queued hmem⟩
    rw [hunderWay, hqueue, List.filter_append, honly, List.getLast?_concat]
    exact ⟨rfl, le_rfl⟩
  · rw [hunderWay]
    exact List.mem_append_right _ (CommandClient.data_mem_enqueued _)
  · intro other hmem
    rw [hunderWay] at hmem
    rw [underWay, List.mem_append]
    obtain hfirst | hqueued := List.mem_append.mp hmem
    · exact .inl (.inl hfirst)
    · exact (CommandClient.mem_enqueued hqueued).imp_left .inr

theorem expected_of_not_confirms {item : Item} (h : bus.confirms item = false) :
    session.expected bus item = session.tracker.value item :=
  foldl_learned_of_not_confirms h

/-- The next command is on its way no more.  It was not executed, or its value is held and answered
now. -/
theorem Consistent.leave (h : session.Consistent bus)
    (hcommands : session.commands = command :: commands)
    (htracker : session'.tracker = session.tracker) (hclient : session'.client = session.client)
    (hcommands' : session'.commands = commands)
    (hothers : ∀ item, item ≠ command.item → session'.held item = session.held item ∧
      session'.expected bus item = session.expected bus item)
    (hread : bus.hears = true → ∀ answer ∈ session'.answers, answer.command.NotMisread)
    (hcovered : (session.tracker.value command.item).isSome → session'.Covered bus command.item) :
    session'.Consistent bus := by
  have hunderWay : session.underWay = command :: session'.underWay := by
    rw [underWay, underWay, hcommands, hcommands', hclient]
    rfl
  constructor
  · rw [htracker]
    exact h.client
  · rw [htracker]
    exact h.server
  · intro item hsome
    rw [htracker] at hsome
    by_cases hsame : item = command.item
    · rw [hsame] at hsome ⊢
      exact hcovered hsome
    · rw [Covered, (hothers item hsame).1, (hothers item hsame).2]
      apply (h.covered item hsome).imp_left
      rintro ⟨other, hmem, hitem⟩
      rw [hunderWay] at hmem
      obtain rfl | hrest := List.mem_cons.mp hmem
      · exact absurd hitem.symm hsame
      · exact ⟨other, hrest, hitem⟩
  · intro item other hconfirms hlast
    rw [htracker]
    apply h.last item other hconfirms
    rw [hunderWay, List.filter_cons]
    split_ifs
    · rw [List.getLast?_cons, hlast]
      rfl
    · exact hlast
  · intro item hconfirms
    rw [hclient]
    exact h.single item hconfirms
  · intro hhears other hmem
    exact h.commands hhears other (hunderWay ▸ List.mem_cons_of_mem command hmem)
  · exact hread

theorem Consistent.covered_executed (h : session.Consistent bus)
    (hcommands : session.commands = command :: commands)
    (htracker : session'.tracker = session.tracker) (hclient : session'.client = session.client)
    (hcommands' : session'.commands = commands)
    (hheld : session'.held command.item = command.value)
    (hanswers : session'.answers = session.answers ++ [⟨command, .errorCode 0⟩])
    (hsome : (session.tracker.value command.item).isSome) :
    session'.Covered bus command.item := by
  by_cases hpending : session'.Pending command.item
  · exact .inl hpending
  · right
    rw [hheld]
    cases hconfirms : bus.confirms command.item with
    | true =>
      rw [expected, hanswers, List.foldl_append, htracker]
      have hexpected : (session.answers.foldl bus.learned session.tracker.value
          command.item).isSome := isSome_foldl_learned.trans hsome
      exact learned_of_confirms hconfirms rfl hexpected
    | false =>
      rw [expected_of_not_confirms hconfirms, htracker]
      apply h.last command.item command hconfirms
      have hunderWay : session.underWay = command :: session'.underWay := by
        rw [underWay, underWay, hcommands, hcommands', hclient]
        rfl
      have hnone : session'.underWay.filter (about command.item) = [] :=
        not_not.mp (mt pending_iff.mpr hpending)
      have habout : about command.item command = true := about_iff.mpr rfl
      rw [hunderWay, List.filter_cons_of_pos habout, hnone]
      rfl

theorem Consistent.reply (h : session.Consistent bus)
    (hcommands : session.commands = command :: commands) {reply : Reply}
    (hrefused : reply ≠ .errorCode 0 →
      { session with commands := commands }.Covered bus command.item) :
    Consistent bus
      { session with
        commands := commands
        answers := session.answers ++ [⟨command, reply⟩]
        held := session.executed command reply } := by
  have hheld (item : Item) (hne : item ≠ command.item) :
      session.executed command reply item = session.held item := by
    rw [executed]
    split_ifs
    · exact Function.update_of_ne hne _ _
    · rfl
  refine h.leave hcommands rfl rfl rfl ?_ ?_ ?_
  · intro item hne
    refine ⟨hheld item hne, ?_⟩
    rw [expected, List.foldl_append]
    exact learned_of_ne hne.symm
  · intro hhears answer hanswer
    obtain hold | hnew := List.mem_append.mp hanswer
    · exact h.answers hhears answer hold
    · rw [List.mem_singleton.mp hnew]
      apply h.commands hhears command
      rw [underWay, hcommands]
      exact List.mem_cons_self
  · intro hsome
    by_cases hreply : reply = .errorCode 0
    · subst hreply
      refine h.covered_executed hcommands rfl rfl rfl ?_ rfl hsome
      dsimp only
      rw [executed, if_pos rfl, Function.update_self]
    · apply (hrefused hreply).imp_right
      intro hexpected
      rw [expected, List.foldl_append]
      have hlearned : bus.learned (session.answers.foldl bus.learned session.tracker.value)
          ⟨command, reply⟩ = session.answers.foldl bus.learned session.tracker.value :=
        learned_of_refused hreply
      have hsame : session.executed command reply = session.held := if_neg hreply
      rw [List.foldl_cons, List.foldl_nil, hlearned, hsame]
      exact hexpected

theorem Consistent.loseCommand (h : session.Consistent bus)
    (hcommands : session.commands = command :: commands)
    (hcovered : { session with commands := commands }.Covered bus command.item) :
    Consistent bus { session with commands := commands } :=
  h.leave hcommands rfl rfl rfl (fun _ _ => ⟨rfl, rfl⟩) h.answers fun _ => hcovered

theorem Consistent.loseAnswer (h : session.Consistent bus) {answer : Answer}
    {answers : List Answer} (hanswers : session.answers = answer :: answers)
    (hcovered : { session with answers := answers }.Covered bus answer.command.item) :
    Consistent bus { session with answers := answers } := by
  constructor
  · exact h.client
  · exact h.server
  · intro item hsome
    by_cases hsame : item = answer.command.item
    · exact hsame ▸ hcovered
    · apply (h.covered item hsome).imp_right
      intro hexpected
      rw [expected, hanswers, List.foldl_cons] at hexpected
      rw [expected, ← hexpected]
      exact foldl_learned_congr (learned_of_ne (Ne.symm hsame)).symm
  · exact h.last
  · exact h.single
  · exact h.commands
  · intro hhears other hmem
    exact h.answers hhears other (hanswers ▸ List.mem_cons_of_mem answer hmem)

theorem Consistent.upload (h : session.Consistent bus)
    (htracker : session'.tracker = session.tracker)
    (hqueue : session'.client.commandQueue = session.client.commandQueue)
    (hcommands : session'.commands = []) (hanswers : session'.answers = [])
    (hcovered : ∀ item, (session.tracker.value item).isSome → session'.Covered bus item) :
    session'.Consistent bus := by
  have hunderWay : session'.underWay = session.client.commandQueue := by
    rw [underWay, hcommands, hqueue, List.nil_append]
  constructor
  · rw [htracker]
    exact h.client
  · rw [htracker]
    exact h.server
  · intro item hsome
    rw [htracker] at hsome
    exact hcovered item hsome
  · intro item command hconfirms hlast
    rw [hunderWay] at hlast
    rw [htracker]
    apply h.last item command hconfirms
    rw [underWay, List.filter_append, List.getLast?_append, hlast]
    rfl
  · intro item hconfirms
    rw [hqueue]
    exact h.single item hconfirms
  · intro hhears command hmem
    rw [hunderWay] at hmem
    exact h.commands hhears command (List.mem_append_right _ hmem)
  · intro hhears answer hmem
    rw [hanswers] at hmem
    exact absurd hmem List.not_mem_nil

theorem Consistent.congr (h : session.Consistent bus)
    (htracker : session'.tracker = session.tracker)
    (hqueue : session'.client.commandQueue = session.client.commandQueue)
    (hcommands : session'.commands = session.commands)
    (hanswers : session'.answers = session.answers) (hheld : session'.held = session.held) :
    session'.Consistent bus := by
  have hunderWay : session'.underWay = session.underWay := by
    rw [underWay, underWay, hcommands, hqueue]
  constructor
  · rw [htracker]
    exact h.client
  · rw [htracker]
    exact h.server
  · intro item hsome
    rw [htracker] at hsome
    rw [Covered, Pending, expected, hunderWay, hanswers, htracker, hheld]
    exact h.covered item hsome
  · rw [hunderWay, htracker]
    exact h.last
  · rw [hqueue]
    exact h.single
  · rw [hunderWay]
    exact h.commands
  · rw [hanswers]
    exact h.answers

theorem Consistent.heard (h : session.Consistent bus) {answer : Answer} {answers : List Answer}
    (hanswers : session.answers = answer :: answers) :
    Consistent bus
      { session with tracker := (session.heard bus answer).tracker, answers := answers } := by
  have hread : bus.hears = true → answer.command.NotMisread := fun hhears =>
    h.answers hhears answer (hanswers ▸ List.mem_cons_self)
  have hkeeps := keeps_processRxOrTxMessage h.server hread
  have hvalue : (session.heard bus answer).tracker.value =
      bus.learned session.tracker.value answer := hkeeps.value
  constructor
  · exact hkeeps.client.symm ▸ h.client
  · exact hkeeps.server.trans h.server
  · intro item hsome
    dsimp only at hsome
    rw [hvalue, isSome_learned] at hsome
    apply (h.covered item hsome).imp_right
    intro hexpected
    rw [expected, hanswers, List.foldl_cons, ← hvalue] at hexpected
    exact hexpected
  · intro item command hconfirms hlast
    dsimp only
    rw [hvalue, learned_of_not_confirms hconfirms]
    exact h.last item command hconfirms hlast
  · exact h.single
  · exact h.commands
  · intro hhears other hmem
    exact h.answers hhears other (hanswers ▸ List.mem_cons_of_mem answer hmem)

theorem Consistent.received (h : session.Consistent bus) (env : Environment) {answer : Answer}
    {answers : List Answer} (hanswers : session.answers = answer :: answers) :
    ({ session with answers := answers }.received bus env answer).Consistent bus := by
  have hheard := h.heard hanswers
  simp only [Session.received]
  split_ifs
  · exact hheard
  · cases answer.reply with
    | errorCode code =>
      exact hheard.processed CommandClient.perm_processCommandQueue
        fun p hone => CommandClient.filter_processCommandQueue hone
    | unsupportedFunction => exact hheard.congr rfl rfl rfl rfl rfl

end Session

namespace Session

variable (bus : Bus) (session : Session)

def command? : SessionCall → Option (Environment × HelperCommand)
  | .set env command => some (env, command)
  | .increaseNumericValue env objectId step =>
    some (env, .changeNumericValue objectId (session.tracker.getNumericValue objectId + step))
  | .decreaseNumericValue env objectId step =>
    some (env, .changeNumericValue objectId (session.tracker.getNumericValue objectId - step))
  | _ => none

def Settled (item : Item) : Prop :=
  ¬session.Pending item ∧ ∀ answer ∈ session.answers, answer.command.item ≠ item

/-- A value that is there already is set only if nothing about the item is open. The answer to a new
one is not misread, and if it does not tell the value, the command takes the place of those that are
queued for the item. -/
def AllowedCommand (env : Environment) (command : HelperCommand) : Prop :=
  if session.tracker.value command.item = some command.value then session.Settled command.item
  else
    (bus.hears = true → command.NotMisread) ∧
    (bus.confirms command.item = false →
      ∀ queued ∈ session.client.commandQueue, queued.item = command.item →
        (session.queued env command).sent = [] ∧
          areCommandsSimilar queued.buffer command.buffer = true)

/-- A lost command or answer, and a new object pool, leave an item with another command under way or
with the value that the tracker will have. -/
def Allowed (call : SessionCall) : Prop :=
  match call with
  | .reply reply =>
    ∀ command commands, session.commands = command :: commands → reply ≠ .errorCode 0 →
      { session with commands := commands }.Covered bus command.item
  | .loseCommand =>
    ∀ command commands, session.commands = command :: commands →
      { session with commands := commands }.Covered bus command.item
  | .loseAnswer =>
    ∀ answer answers, session.answers = answer :: answers →
      { session with answers := answers }.Covered bus answer.command.item
  | .upload pool =>
    ∀ item, (session.tracker.value item).isSome →
      { session with commands := [], answers := [], held := pool }.Covered bus item
  | call => ∀ env command, session.command? call = some (env, command) →
      session.AllowedCommand bus env command

/-- When nothing is queued or unanswered, the terminal holds what is tracked. -/
def Agrees : Prop :=
  session.client.commandQueue = [] → session.commands = [] → session.answers = [] →
    ∀ item value, session.tracker.value item = some value → session.held item = value

/-- A call that succeeds without a command is one for the value that the terminal holds. -/
def SuppressesRedundant (call : SessionCall) : Prop :=
  ∀ env command, session.command? call = some (env, command) →
    ∀ called ∈ (sessions bus).emits session call, called.retVal = true → called.command = none →
      session.held command.item = command.value

variable {bus session}

theorem Consistent.agrees (h : session.Consistent bus) : session.Agrees := by
  intro hqueue hcommands hanswers item value hvalue
  apply h.held_eq hvalue
  · rintro ⟨command, hmem, -⟩
    rw [underWay, hcommands, hqueue] at hmem
    exact List.not_mem_nil hmem
  · intro answer hmem
    rw [hanswers] at hmem
    exact absurd hmem List.not_mem_nil

theorem step_of_command {call : SessionCall} {env : Environment} {command : HelperCommand}
    (h : session.command? call = some (env, command)) :
    (sessions bus).step session call =
      session.call env fun queue => session.tracker.set queue command := by
  cases call with
  | set env' command' =>
    cases h
    rfl
  | increaseNumericValue env' objectId step =>
    cases h
    rfl
  | decreaseNumericValue env' objectId step =>
    cases h
    rfl
  | _ => simp only [command?, reduceCtorEq] at h

theorem queued_cases (session : Session) (env : Environment) (command : HelperCommand) :
    ((session.queued env command).retVal = false ∧ (session.queued env command).sent = [] ∧
        (session.queued env command).client.commandQueue = session.client.commandQueue) ∨
      ((session.queued env command).retVal = true ∧ (session.queued env command).sent = [command] ∧
        (session.queued env command).client.commandQueue = session.client.commandQueue) ∨
      ((session.queued env command).retVal = true ∧ (session.queued env command).sent = [] ∧
        (session.queued env command).client.commandQueue =
          CommandClient.enqueued HelperCommand.buffer session.client.commandQueue command true) :=
  CommandClient.queueCommand_cases command true

theorem Consistent.call (h : session.Consistent bus) {env : Environment} {command : HelperCommand}
    (hallowed : session.AllowedCommand bus env command) :
    (session.call env fun queue => session.tracker.set queue command).1.Consistent bus := by
  have houtcome : session.tracker.SetOutcome (fun command => (session.queued env command).retVal)
      command (session.tracker.set (fun command => (session.queued env command).retVal) command) :=
    StateTracker.setOutcome_set h.client command
  simp only [Session.call]
  generalize session.tracker.set _ command = made at houtcome
  cases houtcome with
  | untracked => exact h
  | suppressed => exact h
  | given stored hsome hne hvalue hclient hserver =>
    rw [AllowedCommand, if_neg hne] at hallowed
    obtain ⟨hread, horder⟩ := hallowed
    dsimp only
    obtain ⟨hret, hsent, hqueue⟩ | ⟨hret, hsent, hqueue⟩ | ⟨hret, hsent, hqueue⟩ :=
      session.queued_cases env command
    · refine h.congr ?_ hqueue ?_ rfl rfl
      · exact if_neg (Bool.eq_false_iff.mp hret)
      · exact (congrArg (session.commands ++ ·) hsent).trans (List.append_nil _)
    · have hstored : (if (session.queued env command).retVal = true then stored
          else session.tracker) = stored := if_pos hret
      rw [hstored]
      refine h.sent (hclient.symm ▸ h.client) (hserver.trans h.server) hvalue rfl rfl ?_ hqueue
        hread ?_
      · exact congrArg (session.commands ++ ·) hsent
      · intro hconfirms queued hmem hitem
        have hnot := (horder hconfirms queued hmem hitem).1
        exact List.cons_ne_nil _ _ (hsent.symm.trans hnot)
    · have hstored : (if (session.queued env command).retVal = true then stored
          else session.tracker) = stored := if_pos hret
      rw [hstored]
      refine h.queued (hclient.symm ▸ h.client) (hserver.trans h.server) hvalue rfl rfl ?_ hqueue
        hread ?_
      · exact (congrArg (session.commands ++ ·) hsent).trans (List.append_nil _)
      · intro hconfirms queued hmem hitem
        exact (horder hconfirms queued hmem hitem).2

theorem Consistent.next (h : session.Consistent bus) {call : SessionCall}
    (hallowed : session.Allowed bus call) : ((sessions bus).next session call).Consistent bus := by
  cases hcommand : session.command? call with
  | some made =>
    obtain ⟨env, command⟩ := made
    have hcall : session.AllowedCommand bus env command := by
      cases call with
      | set => exact hallowed env command hcommand
      | increaseNumericValue => exact hallowed env command hcommand
      | decreaseNumericValue => exact hallowed env command hcommand
      | _ => simp only [command?, reduceCtorEq] at hcommand
    rw [Machine.next, step_of_command hcommand]
    exact h.call hcall
  | none =>
    cases call with
    | set => simp only [command?, reduceCtorEq] at hcommand
    | increaseNumericValue => simp only [command?, reduceCtorEq] at hcommand
    | decreaseNumericValue => simp only [command?, reduceCtorEq] at hcommand
    | update env =>
      exact h.processed CommandClient.perm_processCommandQueue
        fun p hone => CommandClient.filter_processCommandQueue hone
    | reply reply =>
      simp only [Machine.next, sessions]
      cases hcommands : session.commands with
      | nil => exact h
      | cons command commands => exact h.reply hcommands (hallowed command commands hcommands)
    | receive env =>
      simp only [Machine.next, sessions]
      cases hanswers : session.answers with
      | nil => exact h
      | cons answer answers => exact h.received env hanswers
    | loseCommand =>
      simp only [Machine.next, sessions]
      cases hcommands : session.commands with
      | nil => exact h.congr rfl rfl hcommands.symm rfl rfl
      | cons command commands =>
        exact h.loseCommand hcommands (hallowed command commands hcommands)
    | loseAnswer =>
      simp only [Machine.next, sessions]
      cases hanswers : session.answers with
      | nil => exact h.congr rfl rfl rfl hanswers.symm rfl
      | cons answer answers => exact h.loseAnswer hanswers (hallowed answer answers hanswers)
    | disconnect => exact h.congr rfl rfl rfl rfl rfl
    | upload pool => exact h.upload rfl rfl rfl rfl hallowed

theorem Consistent.suppressesRedundant (h : session.Consistent bus) {call : SessionCall}
    (hallowed : session.Allowed bus call) : session.SuppressesRedundant bus call := by
  intro env command hcommand called hcalled hret hnone
  have hcall : session.AllowedCommand bus env command := by
    cases call with
    | set => exact hallowed env command hcommand
    | increaseNumericValue => exact hallowed env command hcommand
    | decreaseNumericValue => exact hallowed env command hcommand
    | _ => simp only [command?, reduceCtorEq] at hcommand
  rw [Machine.emits, step_of_command hcommand] at hcalled
  have houtcome : session.tracker.SetOutcome (fun command => (session.queued env command).retVal)
      command (session.tracker.set (fun command => (session.queued env command).retVal) command) :=
    StateTracker.setOutcome_set h.client command
  rw [List.mem_singleton.mp hcalled] at hret hnone
  beta_reduce at hret hnone
  generalize session.tracker.set _ command = made at houtcome hret hnone
  cases houtcome with
  | untracked => cases hret
  | suppressed hvalue =>
    rw [AllowedCommand, if_pos hvalue] at hcall
    exact h.held_eq hvalue hcall.1 hcall.2
  | given stored hsome hne hvalue hclient hserver => exact absurd hnone (Option.some_ne_none _)

end Session

/-- Along allowed calls. -/
theorem agrees_along (bus : Bus) (tracker : StateTracker) (pool : Item → UInt32)
    (calls : List SessionCall)
    (hallowed : (sessions bus).Along (Session.Allowed bus) (Session.start bus tracker pool) calls) :
    ((sessions bus).run (Session.start bus tracker pool) calls).Agrees ∧
      (sessions bus).Along (Session.SuppressesRedundant bus) (Session.start bus tracker pool)
        calls := by
  have hstart := Session.consistent_start bus tracker pool
  constructor
  · exact ((sessions bus).run_invariant_along (fun session call h hok => h.next hok) hstart calls
      hallowed).agrees
  · exact (sessions bus).along_of_invariant_along (P := Session.Consistent bus)
      (fun session call h hok => h.next hok) (fun session call h hok => h.suppressesRedundant hok)
      hstart calls hallowed

def validBus : Bus where
  world := fun controlFunction =>
    if controlFunction = 0 then ⟨.internal, 0, 0x80, 0⟩ else ⟨.partnered, 0, 0x26, 0⟩
  client := 0
  terminal := 1

def numberTracker : StateTracker where
  client := none
  numericValueStates := Function.update (fun _ => none) 1000 (some 5)

def setNumber : SessionCall :=
  .set ⟨0, validBus.world, fun _ => true⟩ (.changeNumericValue 1000 7)

/-- The terminal answers with an error to a command whose value is tracked already. -/
theorem refusedNumber_not_agrees :
    ¬((sessions validBus).run (Session.start validBus numberTracker fun _ => 0)
      [setNumber, .reply (.errorCode 1), .receive ⟨10, validBus.world, fun _ => true⟩]).Agrees := by
  intro h
  have hheld := h rfl rfl rfl (.numericValue 1000) 7 (by decide +kernel)
  revert hheld
  decide +kernel

theorem agrees_along_setNumber :
    ((sessions validBus).run (Session.start validBus numberTracker fun _ => 0)
        [setNumber, .reply (.errorCode 0), .receive ⟨10, validBus.world, fun _ => true⟩]).Agrees ∧
      (sessions validBus).Along (Session.SuppressesRedundant validBus)
        (Session.start validBus numberTracker fun _ => 0)
        [setNumber, .reply (.errorCode 0), .receive ⟨10, validBus.world, fun _ => true⟩] := by
  apply agrees_along
  refine ⟨?_, ?_, ?_, trivial⟩
  · intro env command hcommand
    cases hcommand
    have hne : (Session.start validBus numberTracker fun _ => 0).tracker.value
        (HelperCommand.changeNumericValue 1000 7).item ≠
          some (HelperCommand.changeNumericValue 1000 7).value := by decide +kernel
    rw [Session.AllowedCommand, if_neg hne]
    exact ⟨fun _ => trivial, fun _ queued hmem => absurd hmem List.not_mem_nil⟩
  · intro command commands _ hne
    exact absurd rfl hne
  · intro env command hcommand
    simp only [Session.command?, reduceCtorEq] at hcommand

end Isobus.VirtualTerminalClient
