import Isobus.FunctionalityReport.Configuration
import Isobus.Lib.Fold

/-!
# The report

After any calls the message announces the enabled functionalities with their option bytes, and every
getter answers with the value of its option, except for the auxiliary controls of the second byte.
-/

namespace Isobus.FunctionalityReport

open Isobus.Lib

namespace ControlFunctionFunctionalities

def generations (self : ControlFunctionFunctionalities) : List (Functionalities × UInt8) :=
  self.supportedFunctionalities.entries.map fun entry => (entry.1, entry.2.generation)

theorem map_fst_generations (self : ControlFunctionFunctionalities) :
    self.generations.map Prod.fst = self.supportedFunctionalities.entries.map Prod.fst := by
  rw [generations, List.map_map]
  rfl

theorem generations_modify (self : ControlFunctionFunctionalities)
    (functionality : Functionalities) {change : FunctionalityData → FunctionalityData}
    (hchange : ∀ data, (change data).generation = data.generation) :
    (self.modifyFunctionality functionality change).generations = self.generations := by
  unfold generations modifyFunctionality
  rw [KeyedTable.entries_alter_some, List.map_map]
  refine List.map_congr_left fun entry _ => ?_
  dsimp only [Function.comp]
  split
  · rw [hchange]
  · rfl

theorem tracks_enabled (self : ControlFunctionFunctionalities) (setting : Setting) :
    (self.applySetting setting).generations = trackEnabled self.generations setting := by
  cases setting with
  | supported functionality generation isSupported =>
    change (self.setFunctionalityIsSupported functionality generation isSupported).generations = _
    have hmem : functionality ∈ self.generations.map Prod.fst ↔
        self.supportedFunctionalities.lookup functionality ≠ none := by
      rw [map_fst_generations, ne_eq, KeyedTable.lookup_eq_none_iff, not_not]
    unfold setFunctionalityIsSupported trackEnabled
    dsimp only
    by_cases hnone : self.supportedFunctionalities.lookup functionality = none
    · rw [dif_pos hnone]
      cases isSupported with
      | true =>
        rw [if_pos rfl, if_pos rfl, if_neg fun h => hmem.mp h hnone]
        exact List.map_append
      | false =>
        rw [if_neg Bool.false_ne_true, if_neg Bool.false_ne_true]
        refine (List.filter_eq_self.mpr fun entry hentry => ?_).symm
        refine decide_eq_true fun heq => hmem.mp ?_ hnone
        exact List.mem_map.mpr ⟨entry, hentry, heq⟩
    · rw [dif_neg hnone]
      cases isSupported with
      | true => rw [if_pos rfl, if_pos rfl, if_pos (hmem.mpr hnone)]
      | false =>
        rw [if_neg Bool.false_ne_true, if_neg Bool.false_ne_true, generations, generations,
          KeyedTable.entries_erase, List.filter_map]
        rfl
  | flag option value =>
    change (self.setFlag option value).generations = _
    unfold setFlag
    split
    · rfl
    · exact self.generations_modify _ fun _ => rfl
  | number option value => exact self.generations_modify _ fun _ => rfl

def Clean (self : ControlFunctionFunctionalities) : Prop :=
  ∀ functionality data, self.getFunctionality functionality = some data →
    (∀ option : NumberOption, option.functionality ≠ functionality) →
    ∀ n, bitAt data.serializedValue n = true →
      ∃ option : FlagOption, option.functionality = functionality ∧ option.place = some n

theorem Clean.modify {self : ControlFunctionFunctionalities} (h : self.Clean)
    (functionality : Functionalities) {change : FunctionalityData → FunctionalityData}
    (hchange : ∀ data, self.getFunctionality functionality = some data →
      (∀ option : NumberOption, option.functionality ≠ functionality) →
      ∀ n, bitAt (change data).serializedValue n = true → bitAt data.serializedValue n = true ∨
        ∃ option : FlagOption, option.functionality = functionality ∧ option.place = some n) :
    (self.modifyFunctionality functionality change).Clean := by
  intro other data hdata hnumber n hbit
  rw [getFunctionality_modify] at hdata
  split at hdata
  · rename_i hsame
    subst hsame
    obtain ⟨old, hold, rfl⟩ := Option.map_eq_some_iff.mp hdata
    rcases hchange old hold hnumber n hbit with hbefore | hoption
    · exact h other old hold hnumber n hbefore
    · exact hoption
  · exact h other data hdata hnumber n hbit

theorem Clean.applySetting {self : ControlFunctionFunctionalities} (h : self.Clean)
    (hsized : self.Sized) (setting : Setting) : (self.applySetting setting).Clean := by
  cases setting with
  | supported functionality generation isSupported =>
    intro other data hdata hnumber n hbit
    change (self.setFunctionalityIsSupported functionality generation
      isSupported).getFunctionality other = some data at hdata
    rw [getFunctionality_supported] at hdata
    split at hdata
    · split at hdata
      · cases hold : self.getFunctionality other with
        | none =>
          rw [hold] at hdata
          rw [← Option.some_inj.mp hdata] at hbit
          exact absurd ((bitAt_default hnumber n).symm.trans hbit) Bool.false_ne_true
        | some old =>
          rw [hold] at hdata
          rw [← Option.some_inj.mp hdata] at hbit
          exact h other old hold hnumber n hbit
      · cases hdata
    · exact h other data hdata hnumber n hbit
  | flag option value =>
    change (self.setFlag option value).Clean
    unfold setFlag
    split
    · exact h
    · rename_i m hplace
      refine h.modify _ fun data hdata _ n hbit => ?_
      have hlength : m / 8 < data.serializedValue.length := by
        rw [hsized _ data hdata]
        exact FlagOption.place_lt hplace
      have hafter := (bitAt_setBit hlength n value).symm.trans hbit
      split at hafter
      · rename_i hsame
        exact Or.inr ⟨option, rfl, hsame ▸ hplace⟩
      · exact Or.inl hafter
  | number option value =>
    exact h.modify _ fun data _ hnumber => absurd rfl (hnumber option)

/-- What holds of the interface after any calls. -/
structure Stores (interface : ControlFunctionFunctionalities) (settings : List Setting) : Prop where
  sized : interface.Sized
  clean : interface.Clean
  enabled : interface.generations = settings.foldl trackEnabled []
  flags : ∀ (option : FlagOption) n, option.place = some n →
    (interface.getFunctionality option.functionality).map
        (fun data => bitAt data.serializedValue n) =
      settings.foldl option.track none
  numbers : ∀ option : NumberOption,
    (interface.getFunctionality option.functionality).map
        (fun data => data.serializedValue.getD option.place 0) =
      settings.foldl option.track none

theorem stores (settings : List Setting) : (settings.foldl applySetting empty).Stores settings := by
  induction settings using List.reverseRecOn with
  | nil =>
    refine ⟨sized_empty, fun _ _ hdata => ?_, rfl, fun _ _ _ => rfl, fun _ => rfl⟩
    cases hdata
  | append_singleton settings setting ih =>
    rw [List.foldl_append]
    refine ⟨ih.sized.applySetting setting, ih.clean.applySetting ih.sized setting, ?_,
      fun option n hplace => ?_, fun option => ?_⟩
    · rw [List.foldl_append, ← ih.enabled]
      exact tracks_enabled _ setting
    · rw [List.foldl_append, ← ih.flags option n hplace]
      exact tracks_flag ih.sized option hplace setting
    · rw [List.foldl_append, ← ih.numbers option]
      exact tracks_number ih.sized option setting

end ControlFunctionFunctionalities

structure ReportEntry where
  functionality : UInt8
  generation : UInt8
  optionBytes : List UInt8
  deriving DecidableEq

/-- So many entries of type, generation, length and option bytes, and what follows them. -/
def parseReports : Nat → List UInt8 → Option (List ReportEntry × List UInt8)
  | 0, rest => some ([], rest)
  | count + 1, functionality :: generation :: length :: rest =>
    if length.toNat ≤ rest.length then
      (parseReports count (rest.drop length.toNat)).map fun parsed =>
        (⟨functionality, generation, rest.take length.toNat⟩ :: parsed.1, parsed.2)
    else none
  | _ + 1, _ => none

/-- The first byte is FF and the second announces the number of entries. -/
def parseMessage : List UInt8 → Option (List ReportEntry × List UInt8)
  | first :: count :: rest => if first = 0xFF then parseReports count.toNat rest else none
  | _ => none

def ReportEntry.bytes (report : ReportEntry) : List UInt8 :=
  report.functionality :: report.generation :: UInt8.ofNat report.optionBytes.length ::
    report.optionBytes

theorem ReportEntry.bytes_append (report : ReportEntry) (rest : List UInt8) :
    report.bytes ++ rest =
      report.functionality :: report.generation :: UInt8.ofNat report.optionBytes.length ::
        (report.optionBytes ++ rest) := rfl

theorem parseReports_bytes (reports : List ReportEntry) (rest : List UInt8)
    (h : ∀ report ∈ reports, report.optionBytes.length < 256) :
    parseReports reports.length (reports.flatMap ReportEntry.bytes ++ rest) =
      some (reports, rest) := by
  induction reports with
  | nil => rfl
  | cons report reports ih =>
    have hlength : (UInt8.ofNat report.optionBytes.length).toNat = report.optionBytes.length :=
      UInt8.toNat_ofNat_of_lt' (h report List.mem_cons_self)
    rw [List.flatMap_cons, List.append_assoc, List.length_cons, ReportEntry.bytes_append,
      parseReports, hlength, List.length_append, if_pos (Nat.le_add_right _ _), List.drop_left,
      List.take_left, ih fun other hother => h other (List.mem_cons_of_mem report hother)]
    rfl

def Functionalities.all : List Functionalities :=
  [.minimumControlFunction, .universalTerminalServer, .universalTerminalWorkingSet, .auxOInputs,
    .auxOFunctions, .auxNInputs, .auxNFunctions, .taskControllerBasicServer,
    .taskControllerBasicClient, .taskControllerGeoServer, .taskControllerGeoClient,
    .taskControllerSectionControlServer, .taskControllerSectionControlClient,
    .basicTractorECUServer, .basicTractorECUImplementClient, .tractorImplementManagementServer,
    .tractorImplementManagementClient, .fileServer, .fileServerClient, .reservedRangeBegin,
    .maxFunctionalityReserved]

theorem Functionalities.mem_all (functionality : Functionalities) :
    functionality ∈ Functionalities.all := by
  cases functionality <;> decide

namespace ControlFunctionFunctionalities

def reports (self : ControlFunctionFunctionalities) : List ReportEntry :=
  self.supportedFunctionalities.entries.map fun entry =>
    ⟨entry.1.value, entry.2.generation, entry.2.serializedValue⟩

theorem parse_getMessageContent {self : ControlFunctionFunctionalities} (h : self.Sized) :
    ∃ padding, parseMessage self.getMessageContent = some (self.reports, padding) ∧
      ∀ byte ∈ padding, byte = 0xFF := by
  let entries := self.supportedFunctionalities.entries
  have hcount : (UInt8.ofNat entries.length).toNat = self.reports.length := by
    rw [reports, List.length_map]
    have hcard : entries.length ≤ 21 := by
      have hall := (List.subperm_of_subset self.supportedFunctionalities.nodup
        fun functionality _ => Functionalities.mem_all functionality).length_le
      rwa [List.length_map] at hall
    exact UInt8.toNat_ofNat_of_lt' (Nat.lt_of_le_of_lt hcard (by decide))
  have hbytes : ∀ report ∈ self.reports, report.optionBytes.length < 256 := by
    intro report hreport
    obtain ⟨entry, hentry, rfl⟩ := List.mem_map.mp hreport
    change entry.2.serializedValue.length < 256
    rw [h entry.1 entry.2 (KeyedTable.lookup_of_mem hentry)]
    cases entry.1 <;> decide
  let padding : List UInt8 :=
    List.replicate (CAN_DATA_LENGTH - ((self.reports.flatMap ReportEntry.bytes).length + 2)) 0xFF
  have hcontent : self.getMessageContent =
      0xFF :: UInt8.ofNat entries.length ::
        (self.reports.flatMap ReportEntry.bytes ++ padding) := by
    have hentries : (entries.flatMap fun functionality =>
        functionality.1.value :: functionality.2.generation ::
          UInt8.ofNat functionality.2.serializedValue.length :: functionality.2.serializedValue) =
        self.reports.flatMap ReportEntry.bytes := by
      rw [reports, List.flatMap_map]
      rfl
    rw [getMessageContent, hentries]
    rfl
  refine ⟨padding, ?_, fun byte hbyte => List.eq_of_mem_replicate hbyte⟩
  rw [hcontent, parseMessage, if_pos rfl, hcount]
  exact parseReports_bytes self.reports _ hbytes

end ControlFunctionFunctionalities

structure Describes (calls : List Call) (functionality : Functionalities)
    (optionBytes : List UInt8) : Prop where
  length : optionBytes.length =
    (FunctionalityData.configureDefaultData functionality).length
  flags : ∀ option : FlagOption, option.functionality = functionality →
    ∀ n, option.place = some n → flagLastSet calls option = some (bitAt optionBytes n)
  numbers : ∀ option : NumberOption, option.functionality = functionality →
    numberLastSet calls option = some (optionBytes.getD option.place 0)
  unused : (∀ option : NumberOption, option.functionality ≠ functionality) →
    ∀ n, bitAt optionBytes n = true →
      ∃ option : FlagOption, option.functionality = functionality ∧ option.place = some n

namespace Call

def Spares (call : Call) (option : FlagOption) : Prop :=
  ∀ setting ∈ call.settings, (∀ functionality generation isSupported,
    setting ≠ .supported functionality generation isSupported) ∧
      ∀ value, setting ≠ .flag option value

def SparesNumber (call : Call) (option : NumberOption) : Prop :=
  ∀ setting ∈ call.settings, (∀ functionality generation isSupported,
    setting ≠ .supported functionality generation isSupported) ∧
      ∀ value, setting ≠ .number option value

end Call

open ControlFunctionFunctionalities (after)

structure ReportsConfigured (calls : List Call) : Prop where
  /-- Every getter returns the value last set, or the default. -/
  flags : ∀ option : FlagOption, option.place.isSome →
    (after calls).getOption option = (flagLastSet calls option).getD false
  numbers : ∀ option : NumberOption,
    (after calls).getNumber option = (numberLastSet calls option).getD 0
  /-- Setting one option changes no other. -/
  otherFlags : ∀ (call : Call) (option : FlagOption), option.place.isSome → call.Spares option →
    ((after calls).apply call).getOption option = (after calls).getOption option
  otherNumbers : ∀ (call : Call) (option : NumberOption), call.SparesNumber option →
    ((after calls).apply call).getNumber option = (after calls).getNumber option
  message : ∃ entries padding,
    parseMessage (after calls).getMessageContent = some (entries, padding) ∧
      (∀ byte ∈ padding, byte = 0xFF) ∧
      List.Forall₂ (fun enabled entry => entry.functionality = enabled.1.value ∧
        entry.generation = enabled.2 ∧ Describes calls enabled.1 entry.optionBytes)
        (enabledInOrder calls) entries

theorem stores_after (calls : List Call) : (after calls).Stores (settingsOf calls) := by
  rw [ControlFunctionFunctionalities.after_eq]
  exact ControlFunctionFunctionalities.stores (settingsOf calls)

variable {option : FlagOption}

theorem getFlag_after (calls : List Call) (hoption : option.place.isSome) :
    (after calls).getFlag option = (flagLastSet calls option).getD false := by
  obtain ⟨n, hplace⟩ := Option.isSome_iff_exists.mp hoption
  rw [flagLastSet, ← (stores_after calls).flags option n hplace,
    ControlFunctionFunctionalities.getFlag, hplace]
  cases (after calls).getFunctionality option.functionality <;> rfl

theorem getNumber_after (calls : List Call) (option : NumberOption) :
    (after calls).getNumber option = (numberLastSet calls option).getD 0 := by
  rw [numberLastSet, ← (stores_after calls).numbers option,
    ControlFunctionFunctionalities.getNumber_eq, ControlFunctionFunctionalities.getWholeByte]
  cases (after calls).getFunctionality option.functionality <;> rfl

theorem settingsOf_concat (calls : List Call) (call : Call) :
    settingsOf (calls ++ [call]) = settingsOf calls ++ call.settings := by
  rw [settingsOf, settingsOf, List.flatMap_append, List.flatMap_singleton, List.cons_append]

theorem after_concat (calls : List Call) (call : Call) :
    after (calls ++ [call]) = (after calls).apply call := by
  rw [after, List.foldl_append]
  rfl

theorem flagLastSet_of_spares (calls : List Call) {call : Call} (h : call.Spares option) :
    flagLastSet (calls ++ [call]) option = flagLastSet calls option := by
  rw [flagLastSet, settingsOf_concat, List.foldl_append]
  refine foldl_invariant (P := (· = flagLastSet calls option))
      (fun current setting hmem hcurrent => ?_) rfl
  rw [hcurrent]
  obtain ⟨hsupported, hflag⟩ := h setting hmem
  cases setting with
  | supported functionality generation isSupported => exact absurd rfl (hsupported _ _ _)
  | flag other value =>
    have hne : other ≠ option := fun heq => hflag value (heq ▸ rfl)
    exact if_neg hne
  | number => rfl

theorem numberLastSet_of_spares (calls : List Call) {call : Call} {option : NumberOption}
    (h : call.SparesNumber option) :
    numberLastSet (calls ++ [call]) option = numberLastSet calls option := by
  rw [numberLastSet, settingsOf_concat, List.foldl_append]
  refine foldl_invariant (P := (· = numberLastSet calls option))
      (fun current setting hmem hcurrent => ?_) rfl
  rw [hcurrent]
  obtain ⟨hsupported, hnumber⟩ := h setting hmem
  cases setting with
  | supported functionality generation isSupported => exact absurd rfl (hsupported _ _ _)
  | flag => rfl
  | number other value =>
    have hne : other ≠ option := fun heq => hnumber value (heq ▸ rfl)
    exact if_neg hne

theorem getOption_after (calls : List Call) (hoption : option.place.isSome) :
    (after calls).getOption option =
      if option.inSecondByte then false else (flagLastSet calls option).getD false := by
  cases hsecond : option.inSecondByte with
  | true => exact (after calls).getOption_of_inSecondByte hoption hsecond
  | false =>
    rw [(after calls).getOption_eq hoption hsecond, getFlag_after calls hoption]
    rfl

theorem describes_after (calls : List Call) {functionality : Functionalities}
    {data : FunctionalityData}
    (hdata : (after calls).getFunctionality functionality = some data) :
    Describes calls functionality data.serializedValue := by
  have hstores := stores_after calls
  refine ⟨hstores.sized functionality data hdata, fun option hsame n hplace => ?_,
    fun option hsame => ?_, fun hnumber => hstores.clean functionality data hdata hnumber⟩
  · have hflag := hstores.flags option n hplace
    rw [hsame, hdata] at hflag
    exact hflag.symm
  · have hnumber := hstores.numbers option
    rw [hsame, hdata] at hnumber
    exact hnumber.symm

theorem message_after (calls : List Call) : ∃ entries padding,
    parseMessage (after calls).getMessageContent = some (entries, padding) ∧
      (∀ byte ∈ padding, byte = 0xFF) ∧
      List.Forall₂ (fun enabled entry => entry.functionality = enabled.1.value ∧
        entry.generation = enabled.2 ∧ Describes calls enabled.1 entry.optionBytes)
        (enabledInOrder calls) entries := by
  have hstores := stores_after calls
  obtain ⟨padding, hparse, hpadding⟩ :=
    ControlFunctionFunctionalities.parse_getMessageContent hstores.sized
  refine ⟨_, padding, hparse, hpadding, ?_⟩
  rw [enabledInOrder, ← hstores.enabled, ControlFunctionFunctionalities.generations,
    ControlFunctionFunctionalities.reports, List.forall₂_map_left_iff,
    List.forall₂_map_right_iff, List.forall₂_same]
  intro entry hentry
  exact ⟨rfl, rfl, describes_after calls (KeyedTable.lookup_of_mem hentry)⟩

/-- The functionalities report what was configured exactly as long as no auxiliary control type from
8 on is set. -/
theorem reportsConfigured_iff (calls : List Call) :
    ReportsConfigured calls ↔ ∀ option : FlagOption, option.place.isSome →
      option.inSecondByte = true → flagLastSet calls option ≠ some true := by
  constructor
  · intro h option hoption hsecond hset
    have hgetter := h.flags option hoption
    rw [getOption_after calls hoption, hsecond, if_pos rfl, hset] at hgetter
    cases hgetter
  · intro h
    refine ⟨fun option hoption => ?_, getNumber_after calls, fun call option hoption hspares => ?_,
      fun call option hspares => ?_, message_after calls⟩
    · rw [getOption_after calls hoption]
      split
      · rename_i hsecond
        have hunset := h option hoption hsecond
        cases hvalue : flagLastSet calls option with
        | none => rfl
        | some value =>
          cases value with
          | true => exact absurd hvalue hunset
          | false => rfl
      · rfl
    · rw [← after_concat, getOption_after _ hoption, getOption_after _ hoption,
        flagLastSet_of_spares calls hspares]
    · rw [← after_concat, getNumber_after, getNumber_after,
        numberLastSet_of_spares calls hspares]

/-- The type 8 of the auxiliary inputs is set and reported, but its getter denies it. -/
theorem type8_not_returned :
    ¬ ReportsConfigured [.setFunctionalityIsSupported .auxNInputs 1 true,
      .setAuxNInputsOptionState .supportsType8Function true] := by
  intro h
  have hgetter := h.flags (.auxNInputs .supportsType8Function) rfl
  revert hgetter
  decide +kernel

end Isobus.FunctionalityReport
