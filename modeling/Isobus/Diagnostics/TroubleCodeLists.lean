import Isobus.Diagnostics.Update

namespace Isobus.Diagnostics

open Isobus.Can Isobus.Lib

/-- What makes two codes equal. -/
structure TroubleCode where
  suspectParameterNumber : UInt32
  failureModeIdentifier : FailureModeIdentifier
  lampState : LampStatus
  deriving DecidableEq

def DiagnosticTroubleCode.code (dtc : DiagnosticTroubleCode) : TroubleCode :=
  ⟨dtc.suspectParameterNumber, dtc.failureModeIdentifier, dtc.lampState⟩

theorem DiagnosticTroubleCode.sameCode_iff {dtc other : DiagnosticTroubleCode} :
    dtc.sameCode other = true ↔ dtc.code = other.code := by
  simp [sameCode, code, and_assoc]

structure TroubleCodeLists where
  active : List DiagnosticTroubleCode
  inactive : List DiagnosticTroubleCode

/-- What a call asks of the lists. -/
inductive ListRequest
  | keep
  | activate (dtc : DiagnosticTroubleCode)
  | deactivate (dtc : DiagnosticTroubleCode)
  | clearActive
  | clearInactive
  | clearNamedActive (named : DiagnosticTroubleCode → Bool)
  /-- A DM22 for the first inactive code that it names. -/
  | clearNamedInactive (named : DiagnosticTroubleCode → Bool)

namespace TroubleCodeLists

variable (lists : TroubleCodeLists)

def all : List DiagnosticTroubleCode := lists.active ++ lists.inactive

def codes : List TroubleCode := lists.all.map DiagnosticTroubleCode.code

def IsActive (code : TroubleCode) : Prop := code ∈ lists.active.map DiagnosticTroubleCode.code

instance instDecidableIsActive (code : TroubleCode) : Decidable (lists.IsActive code) :=
  inferInstanceAs (Decidable (_ ∈ _))

def serve : ListRequest → TroubleCodeLists
  | .keep => lists
  | .activate dtc =>
    if lists.active.any (·.sameCode dtc) then lists
    else
      match lists.inactive.find? (·.sameCode dtc) with
      | some known =>
        { active := lists.active ++
            [{ known with occurrenceCount := known.occurrenceCount + 1 }]
          inactive := lists.inactive.eraseP (·.sameCode dtc) }
      | none => { lists with active := lists.active ++ [{ dtc with occurrenceCount := 1 }] }
  | .deactivate dtc =>
    if lists.inactive.any (·.sameCode dtc) then lists
    else
      match lists.active.find? (·.sameCode dtc) with
      | some known =>
        { active := lists.active.eraseP (·.sameCode dtc), inactive :=
            lists.inactive ++ [known] }
      | none => lists
  | .clearActive => { active := [], inactive := lists.inactive ++ lists.active }
  | .clearInactive => { lists with inactive := [] }
  | .clearNamedActive named =>
    match lists.active.find? named with
    | some dtc => { active := lists.active.eraseP named, inactive := lists.inactive ++ [dtc] }
    | none => lists
  | .clearNamedInactive named => { lists with inactive := lists.inactive.eraseP named }

def Clears (request : ListRequest) (code : TroubleCode) : Prop :=
  match request with
  | .clearInactive => code ∈ lists.inactive.map DiagnosticTroubleCode.code
  | .clearNamedInactive named => ∃ dtc, lists.inactive.find? named = some dtc ∧ dtc.code = code
  | _ => False

def Saturates (request : ListRequest) : Prop :=
  ∃ dtc, request = .activate dtc ∧
    ∃ known ∈ lists.inactive, known.code = dtc.code ∧ known.occurrenceCount = 126

end TroubleCodeLists

/-- Every request moves codes about, removes inactive ones, or makes one active. -/
inductive ListEffect (lists : TroubleCodeLists) (request : ListRequest)
    (lists' : TroubleCodeLists) : Prop
  | rearranged (perm : lists'.all.Perm lists.all)
      (active : ∀ dtc ∈ lists'.active, dtc ∈ lists.active)
  | reduced (active : lists'.active = lists.active)
      (sublist : lists'.inactive.Sublist lists.inactive)
      (cleared : ∀ dtc ∈ lists.inactive, dtc ∈ lists'.inactive ∨ lists.Clears request dtc.code)
  | reactivated (dtc : DiagnosticTroubleCode) (front : List DiagnosticTroubleCode)
      (known : DiagnosticTroubleCode) (behind : List DiagnosticTroubleCode)
      (asked : request = .activate dtc) (code : known.code = dtc.code)
      (there : lists.inactive = front ++ known :: behind)
      (active : lists'.active =
        lists.active ++ [{ known with occurrenceCount := known.occurrenceCount + 1 }])
      (inactive : lists'.inactive = front ++ behind)
  | added (dtc : DiagnosticTroubleCode) (absent : dtc.code ∉ lists.codes)
      (active : lists'.active = lists.active ++ [{ dtc with occurrenceCount := 1 }])
      (inactive : lists'.inactive = lists.inactive)

namespace TroubleCodeLists

variable {lists : TroubleCodeLists}

theorem moved_perm {named : DiagnosticTroubleCode → Bool} {dtc : DiagnosticTroubleCode}
    (h : lists.active.find? named = some dtc) (request : ListRequest) :
    ListEffect lists request ⟨lists.active.eraseP named, lists.inactive ++ [dtc]⟩ := by
  obtain ⟨-, front, behind, hsplit, herase⟩ := exists_eraseP h
  refine .rearranged ?_ fun other hother => List.mem_of_mem_eraseP hother
  rw [all, all]
  rw [herase, hsplit, List.append_assoc, List.append_assoc]
  refine List.Perm.append_left front ?_
  rw [← List.append_assoc]
  exact List.perm_append_comm

theorem any_sameCode_iff {dtcs : List DiagnosticTroubleCode} {dtc : DiagnosticTroubleCode} :
    dtcs.any (·.sameCode dtc) = true ↔ dtc.code ∈ dtcs.map DiagnosticTroubleCode.code := by
  rw [List.any_eq_true, List.mem_map]
  refine exists_congr fun other => and_congr_right fun _ => ?_
  exact DiagnosticTroubleCode.sameCode_iff

theorem serve_effect (lists : TroubleCodeLists) (request : ListRequest) :
    ListEffect lists request (lists.serve request) := by
  have hkeep (request : ListRequest) : ListEffect lists request lists :=
    .rearranged (List.Perm.refl _) fun _ h => h
  cases request with
  | keep => exact hkeep _
  | activate dtc =>
    rw [serve]
    by_cases hactive : lists.active.any (·.sameCode dtc) = true
    · rw [if_pos hactive]
      exact hkeep _
    · rw [if_neg hactive]
      cases hfind : lists.inactive.find? (·.sameCode dtc) with
      | some known =>
        obtain ⟨hsame, front, behind, hsplit, herase⟩ := exists_eraseP hfind
        exact .reactivated dtc front known behind rfl
          (DiagnosticTroubleCode.sameCode_iff.mp hsame) hsplit rfl herase
      | none =>
        refine .added dtc ?_ rfl rfl
        have hinactive : ¬lists.inactive.any (·.sameCode dtc) = true := by
          rw [List.any_eq_true]
          rintro ⟨other, hother, hsame⟩
          exact List.find?_eq_none.mp hfind other hother hsame
        rw [any_sameCode_iff] at hactive hinactive
        rw [codes, all, List.map_append, List.mem_append]
        exact not_or.mpr ⟨hactive, hinactive⟩
  | deactivate dtc =>
    rw [serve]
    split_ifs
    · exact hkeep _
    · cases hfind : lists.active.find? (·.sameCode dtc) with
      | some known => exact moved_perm hfind _
      | none => exact hkeep _
  | clearActive =>
    have hperm : (lists.inactive ++ lists.active).Perm lists.all := List.perm_append_comm
    exact .rearranged hperm fun _ h => absurd h List.not_mem_nil
  | clearInactive =>
    exact .reduced rfl (List.nil_sublist _) fun dtc hdtc => .inr (List.mem_map_of_mem hdtc)
  | clearNamedActive named =>
    rw [serve]
    cases hfind : lists.active.find? named with
    | some dtc => exact moved_perm hfind _
    | none => exact hkeep _
  | clearNamedInactive named =>
    refine .reduced rfl List.eraseP_sublist fun dtc hdtc => ?_
    change dtc ∈ lists.inactive.eraseP named ∨ _
    cases hfind : lists.inactive.find? named with
    | none =>
      rw [List.eraseP_of_forall_not (List.find?_eq_none.mp hfind)]
      exact .inl hdtc
    | some known =>
      obtain ⟨-, front, behind, hsplit, herase⟩ := exists_eraseP hfind
      rw [herase, List.mem_append]
      rw [hsplit, List.mem_append, List.mem_cons] at hdtc
      obtain hfront | rfl | hbehind := hdtc
      · exact .inl (.inl hfront)
      · exact .inr ⟨dtc, hfind, rfl⟩
      · exact .inl (.inr hbehind)

theorem mem_codes_iff {code : TroubleCode} :
    code ∈ lists.codes ↔ ∃ dtc ∈ lists.all, dtc.code = code := List.mem_map

theorem nodup_of_effect {lists' : TroubleCodeLists} {request : ListRequest}
    (h : ListEffect lists request lists') (hnodup : lists.codes.Nodup) : lists'.codes.Nodup := by
  cases h with
  | rearranged perm active => exact (perm.map _).nodup_iff.mpr hnodup
  | reduced active sublist cleared =>
    rw [codes, all, active]
    exact hnodup.sublist (((List.Sublist.refl _).append sublist).map _)
  | reactivated dtc front known behind asked code there active inactive =>
    rw [codes, all, there] at hnodup
    rw [codes, all, active, inactive]
    refine (List.Perm.nodup_iff ?_).mp hnodup
    simp only [List.map_append, List.map_cons, List.map_nil, List.append_assoc]
    refine List.Perm.append_left _ ?_
    exact List.perm_middle
  | added dtc absent active inactive =>
    have hperm : (dtc.code :: lists.codes).Perm lists'.codes := by
      rw [codes, codes, all, all, active, inactive]
      simp only [List.map_append, List.map_cons, List.map_nil, List.append_assoc]
      exact List.perm_middle.symm
    exact hperm.nodup_iff.mp (List.nodup_cons.mpr ⟨absent, hnodup⟩)

theorem mem_codes_of_effect {lists' : TroubleCodeLists} {request : ListRequest}
    (h : ListEffect lists request lists') {code : TroubleCode} (hmem : code ∈ lists.codes)
    (hclears : ¬lists.Clears request code) : code ∈ lists'.codes := by
  obtain ⟨dtc, hdtc, rfl⟩ := mem_codes_iff.mp hmem
  rw [mem_codes_iff]
  cases h with
  | rearranged perm active => exact ⟨dtc, perm.mem_iff.mpr hdtc, rfl⟩
  | reduced active sublist cleared =>
    rw [all, active]
    obtain hactive | hinactive := List.mem_append.mp hdtc
    · exact ⟨dtc, List.mem_append_left _ hactive, rfl⟩
    · exact ⟨dtc, List.mem_append_right _ ((cleared dtc hinactive).resolve_right hclears), rfl⟩
  | reactivated other front known behind asked code there active inactive =>
    rw [all, active, inactive]
    obtain hactive | hinactive := List.mem_append.mp hdtc
    · exact ⟨dtc, List.mem_append_left _ (List.mem_append_left _ hactive), rfl⟩
    · rw [there, List.mem_append, List.mem_cons] at hinactive
      obtain hfront | rfl | hbehind := hinactive
      · exact ⟨dtc, List.mem_append_right _ (List.mem_append_left _ hfront), rfl⟩
      · exact ⟨_, List.mem_append_left _ (List.mem_append_right _ List.mem_cons_self), rfl⟩
      · exact ⟨dtc, List.mem_append_right _ (List.mem_append_right _ hbehind), rfl⟩
  | added other absent active inactive =>
    rw [all, active, inactive]
    obtain hactive | hinactive := List.mem_append.mp hdtc
    · exact ⟨dtc, List.mem_append_left _ (List.mem_append_left _ hactive), rfl⟩
    · exact ⟨dtc, List.mem_append_right _ hinactive, rfl⟩

theorem mem_codes_of_activate (lists : TroubleCodeLists) (dtc : DiagnosticTroubleCode) :
    dtc.code ∈ (lists.serve (.activate dtc)).codes := by
  rw [serve, mem_codes_iff]
  by_cases hactive : lists.active.any (·.sameCode dtc) = true
  · rw [if_pos hactive]
    obtain ⟨known, hknown, hcode⟩ := List.mem_map.mp (any_sameCode_iff.mp hactive)
    exact ⟨known, List.mem_append_left _ hknown, hcode⟩
  · rw [if_neg hactive]
    cases hfind : lists.inactive.find? (·.sameCode dtc) with
    | some known =>
      have hsame := exists_eraseP hfind
      exact ⟨_, List.mem_append_left _ (List.mem_append_right _ List.mem_cons_self),
        DiagnosticTroubleCode.sameCode_iff.mp hsame.1⟩
    | none =>
      exact ⟨_, List.mem_append_left _ (List.mem_append_right _ List.mem_cons_self), rfl⟩

end TroubleCodeLists

/-- How often a code became active since it was last absent, and which became active without having
been cleared. -/
structure Ledger where
  activations : TroubleCode → Nat := fun _ => 0
  known : TroubleCode → Prop := fun _ => False

def ListRequest.Activates (request : ListRequest) (code : TroubleCode) : Prop :=
  ∃ dtc, request = .activate dtc ∧ dtc.code = code

def Ledger.note (ledger : Ledger) (lists : TroubleCodeLists) (request : ListRequest)
    (lists' : TroubleCodeLists) : Ledger where
  activations code :=
    if code ∉ lists'.codes then 0
    else if lists'.IsActive code ∧ ¬lists.IsActive code then
      if code ∈ lists.codes then ledger.activations code + 1 else 1
    else ledger.activations code
  known code :=
    request.Activates code ∨ (ledger.known code ∧ ¬lists.Clears request code)

/-- No code is there twice, one that became active is there, and the counts are right. -/
structure Partitioned (lists : TroubleCodeLists) (ledger : Ledger) : Prop where
  nodup : lists.codes.Nodup
  once : ∀ code, ledger.known code → lists.codes.count code = 1
  counted : ∀ dtc ∈ lists.all,
    dtc.occurrenceCount.toNat = min (ledger.activations dtc.code) 126

section

variable {lists lists' : TroubleCodeLists} {ledger : Ledger} {request : ListRequest}

variable {dtc : DiagnosticTroubleCode}

theorem activations_note_of_old (hmem : dtc ∈ lists'.all)
    (hold : lists'.IsActive dtc.code → lists.IsActive dtc.code) :
    (ledger.note lists request lists').activations dtc.code = ledger.activations dtc.code := by
  have hcode : dtc.code ∈ lists'.codes := List.mem_map_of_mem hmem
  rw [Ledger.note]
  dsimp only
  rw [if_neg (not_not.mpr hcode), if_neg fun h => h.2 (hold h.1)]

theorem activations_note_of_new {code : TroubleCode} (hactive : lists'.IsActive code)
    (hnew : ¬lists.IsActive code) :
    (ledger.note lists request lists').activations code =
      if code ∈ lists.codes then ledger.activations code + 1 else 1 := by
  have hcode : code ∈ lists'.codes := by
    rw [TroubleCodeLists.codes, TroubleCodeLists.all, List.map_append]
    exact List.mem_append_left _ hactive
  rw [Ledger.note]
  dsimp only
  rw [if_neg (not_not.mpr hcode), if_pos ⟨hactive, hnew⟩]

theorem toNat_succ_of_lt {count : UInt8} {activations : Nat}
    (hcount : count.toNat = min activations 126) (hmax : count ≠ 126) :
    (count + 1).toNat = min (activations + 1) 126 := by
  have hne : count.toNat ≠ 126 := fun h => hmax (UInt8.toNat_inj.mp h)
  have hsucc : (count + 1).toNat = count.toNat + 1 := by
    rw [UInt8.toNat_add]
    exact Nat.mod_eq_of_lt (by change count.toNat + 1 < 256; omega)
  rw [hsucc]
  omega

theorem not_isActive_of_inactive (hnodup : lists.codes.Nodup) (h : dtc ∈ lists.inactive) :
    ¬lists.IsActive dtc.code := by
  intro hactive
  rw [TroubleCodeLists.codes, TroubleCodeLists.all, List.map_append] at hnodup
  exact (List.disjoint_of_nodup_append hnodup) hactive (List.mem_map_of_mem h)

theorem counted_of_effect (h : Partitioned lists ledger)
    (heffect : ListEffect lists request lists') (hbelow : ¬lists.Saturates request)
    (hmem : dtc ∈ lists'.all) :
    dtc.occurrenceCount.toNat =
      min ((ledger.note lists request lists').activations dtc.code) 126 := by
  have hold (hbefore : dtc ∈ lists.all)
      (hactive : lists'.IsActive dtc.code → lists.IsActive dtc.code) :
      dtc.occurrenceCount.toNat =
        min ((ledger.note lists request lists').activations dtc.code) 126 := by
    rw [activations_note_of_old hmem hactive]
    exact h.counted dtc hbefore
  have hnodup := h.nodup
  rw [TroubleCodeLists.all] at hmem
  cases heffect with
  | rearranged perm active =>
    refine hold (perm.mem_iff.mp hmem) fun hactive => ?_
    obtain ⟨other, hother, hcode⟩ := List.mem_map.mp hactive
    exact hcode ▸ List.mem_map_of_mem (active other hother)
  | reduced active sublist cleared =>
    rw [active] at hmem
    refine hold ?_ fun hactive => ?_
    · obtain hactive | hinactive := List.mem_append.mp hmem
      · exact List.mem_append_left _ hactive
      · exact List.mem_append_right _ (sublist.subset hinactive)
    · rwa [TroubleCodeLists.IsActive, active] at hactive
  | reactivated other front known behind asked code there active inactive =>
    have hknown : known ∈ lists.inactive := by
      rw [there]
      exact List.mem_append_right _ List.mem_cons_self
    have hnot := not_isActive_of_inactive hnodup hknown
    have hstays (hne : known.code ≠ dtc.code) (hactive : lists'.IsActive dtc.code) :
        lists.IsActive dtc.code := by
      rw [TroubleCodeLists.IsActive, active, List.map_append, List.mem_append] at hactive
      exact hactive.resolve_right fun hlast => hne (List.mem_singleton.mp hlast).symm
    rw [active, inactive] at hmem
    obtain hactive | hinactive := List.mem_append.mp hmem
    · obtain hactive | hlast := List.mem_append.mp hactive
      · have hbefore : lists.IsActive dtc.code := List.mem_map_of_mem hactive
        exact hold (List.mem_append_left _ hactive) fun _ => hbefore
      · rw [List.mem_singleton] at hlast
        subst hlast
        have hin : lists'.IsActive known.code := by
          rw [TroubleCodeLists.IsActive, active]
          exact List.mem_map.mpr ⟨_, List.mem_append_right _ List.mem_cons_self, rfl⟩
        have hcodes : known.code ∈ lists.codes :=
          List.mem_map_of_mem (List.mem_append_right _ hknown)
        have hactivations : (ledger.note lists request lists').activations known.code = _ :=
          (activations_note_of_new hin hnot).trans (if_pos hcodes)
        refine (toNat_succ_of_lt (h.counted known (List.mem_append_right _ hknown)) ?_).trans
          (congrArg (min · 126) hactivations.symm)
        exact fun hmax => hbelow ⟨other, asked, known, hknown, code, hmax⟩
    · have hne : known.code ≠ dtc.code := by
        intro heq
        rw [TroubleCodeLists.codes, TroubleCodeLists.all, List.map_append, there,
          List.map_append, List.map_cons] at hnodup
        have hinactiveNodup := List.nodup_middle.mp (List.nodup_append.mp hnodup).2.1
        rw [← List.map_append] at hinactiveNodup
        exact (List.nodup_cons.mp hinactiveNodup).1 (heq ▸ List.mem_map_of_mem hinactive)
      refine hold (List.mem_append_right _ ?_) (hstays hne)
      rw [there]
      obtain hfront | hbehind := List.mem_append.mp hinactive
      · exact List.mem_append_left _ hfront
      · exact List.mem_append_right _ (List.mem_cons_of_mem _ hbehind)
  | added other absent active inactive =>
    have hstays (hbefore : dtc ∈ lists.all) (hactive : lists'.IsActive dtc.code) :
        lists.IsActive dtc.code := by
      rw [TroubleCodeLists.IsActive, active, List.map_append, List.mem_append] at hactive
      refine hactive.resolve_right fun hlast => absent ?_
      have hcode : dtc.code = other.code := List.mem_singleton.mp hlast
      exact hcode ▸ List.mem_map_of_mem hbefore
    rw [active, inactive] at hmem
    obtain hactive | hinactive := List.mem_append.mp hmem
    · obtain hactive | hlast := List.mem_append.mp hactive
      · have hbefore : dtc ∈ lists.all := List.mem_append_left _ hactive
        exact hold hbefore (hstays hbefore)
      · rw [List.mem_singleton] at hlast
        subst hlast
        have hin : lists'.IsActive other.code := by
          rw [TroubleCodeLists.IsActive, active]
          exact List.mem_map.mpr ⟨_, List.mem_append_right _ List.mem_cons_self, rfl⟩
        have hnot : ¬lists.IsActive other.code := by
          intro hactive
          rw [TroubleCodeLists.codes, TroubleCodeLists.all, List.map_append] at absent
          exact absent (List.mem_append_left _ hactive)
        have hactivations : (ledger.note lists request lists').activations other.code = _ :=
          (activations_note_of_new hin hnot).trans (if_neg absent)
        exact congrArg (min · 126) hactivations.symm
    · have hbefore : dtc ∈ lists.all := List.mem_append_right _ hinactive
      exact hold hbefore (hstays hbefore)

theorem not_counted_of_saturates (h : Partitioned lists ledger) (hmax : lists.Saturates request)
    {ledger' : Ledger} : ¬Partitioned (lists.serve request) ledger' := by
  intro h'
  obtain ⟨dtc, rfl, known, hknown, hcode, hcount⟩ := hmax
  have hnot := not_isActive_of_inactive h.nodup hknown
  have hactive : ¬lists.active.any (·.sameCode dtc) = true := by
    rw [TroubleCodeLists.any_sameCode_iff, ← hcode]
    exact hnot
  have hinactive : lists.inactive.any (·.sameCode dtc) = true := by
    rw [TroubleCodeLists.any_sameCode_iff, ← hcode]
    exact List.mem_map_of_mem hknown
  obtain ⟨first, hfind⟩ := Option.isSome_iff_exists.mp
    (List.find?_isSome.mpr (List.any_eq_true.mp hinactive))
  obtain ⟨hsame, front, behind, hsplit, -⟩ := exists_eraseP hfind
  have hfirst : first ∈ lists.inactive := by
    rw [hsplit]
    exact List.mem_append_right _ List.mem_cons_self
  have hfirstCode : first.code = known.code :=
    (DiagnosticTroubleCode.sameCode_iff.mp hsame).trans hcode.symm
  have hfirstCount : first.occurrenceCount = 126 := by
    rw [← hcount, ← UInt8.toNat_inj, h.counted first (List.mem_append_right _ hfirst), hfirstCode,
      h.counted known (List.mem_append_right _ hknown)]
  have hserve : lists.serve (.activate dtc) =
      ⟨lists.active ++ [{ first with occurrenceCount := first.occurrenceCount + 1 }],
        lists.inactive.eraseP (·.sameCode dtc)⟩ := by
    rw [TroubleCodeLists.serve, if_neg hactive, hfind]
  rw [hserve] at h'
  have hwrong := h'.counted { first with occurrenceCount := first.occurrenceCount + 1 }
    (List.mem_append_left _ (List.mem_append_right _ List.mem_cons_self))
  rw [hfirstCount] at hwrong
  change 127 = _ at hwrong
  omega

theorem serve_partitioned_iff (h : Partitioned lists ledger) (request : ListRequest) :
    Partitioned (lists.serve request) (ledger.note lists request (lists.serve request)) ↔
      ¬lists.Saturates request := by
  have heffect := lists.serve_effect request
  have hnodup := TroubleCodeLists.nodup_of_effect heffect h.nodup
  constructor
  · exact fun h' hmax => not_counted_of_saturates h hmax h'
  · intro hbelow
    refine ⟨hnodup, fun code hknown => ?_, fun dtc hdtc => counted_of_effect h heffect hbelow hdtc⟩
    refine List.count_eq_one_of_mem hnodup ?_
    obtain ⟨dtc, rfl, rfl⟩ | ⟨hbefore, hclears⟩ := hknown
    · exact lists.mem_codes_of_activate dtc
    · refine TroubleCodeLists.mem_codes_of_effect heffect ?_ hclears
      exact List.count_pos_iff.mp (by rw [h.once code hbefore]; exact Nat.one_pos)

end

namespace DiagnosticProtocol

def lists (protocol : DiagnosticProtocol) : TroubleCodeLists :=
  ⟨protocol.activeDTCList, protocol.inactiveDTCList⟩

@[simp] theorem lists_active (protocol : DiagnosticProtocol) :
    protocol.lists.active = protocol.activeDTCList := rfl

@[simp] theorem lists_inactive (protocol : DiagnosticProtocol) :
    protocol.lists.inactive = protocol.inactiveDTCList := rfl

def listRequest (protocol : DiagnosticProtocol) : Call → ListRequest
  | .clearActiveDiagnosticTroubleCodes => .clearActive
  | .clearInactiveDiagnosticTroubleCodes => .clearInactive
  | .setDiagnosticTroubleCodeActive dtc active => if active then .activate dtc else .deactivate dtc
  | .onAddressViolation address =>
    if !protocol.j1939Mode ∧ address ≠ BROADCAST_CAN_ADDRESS ∧ address ≠ NULL_CAN_ADDRESS then
      .activate
        { suspectParameterNumber := ADDRESS_VIOLATION_SPN_BASE + address.toUInt32
          failureModeIdentifier := CONDITION_EXISTS
          lampState := .none }
    else .keep
  | .processMessage message =>
    if protocol.isAddressed message ∧
        message.identifier.getParameterGroupNumber = DIAGNOSTIC_MESSAGE_22 ∧
        message.data.length = CAN_DATA_LENGTH then
      if message.getUint8At 0 = REQUEST_TO_CLEAR_ACTIVE_DTC then
        .clearNamedActive (isRequested message)
      else if message.getUint8At 0 = REQUEST_TO_CLEAR_PREVIOUSLY_ACTIVE_DTC then
        .clearNamedInactive (isRequested message)
      else .keep
    else .keep
  | .processParameterGroupNumberRequest parameterGroupNumber requestingControlFunction =>
    if requestingControlFunction = none then .keep
    else if parameterGroupNumber = DIAGNOSTIC_MESSAGE_3 then .clearInactive
    else if parameterGroupNumber = DIAGNOSTIC_MESSAGE_11 then .clearActive
    else .keep
  | _ => .keep

section

variable (env : Environment) (protocol : DiagnosticProtocol)

theorem lists_clearActiveDiagnosticTroubleCodes :
    protocol.clearActiveDiagnosticTroubleCodes.lists = protocol.lists.serve .clearActive := by
  rw [clearActiveDiagnosticTroubleCodes]
  split_ifs <;> rfl

theorem lists_activate (dtc : DiagnosticTroubleCode) :
    (protocol.activate env dtc).lists = protocol.lists.serve (.activate dtc) := by
  rw [activate, TroubleCodeLists.serve, lists_active, lists_inactive]
  split_ifs
  · rfl
  · cases protocol.inactiveDTCList.find? (·.sameCode dtc) with
    | some known => rfl
    | none =>
      rw [announceNewCode]
      split_ifs <;> rfl

theorem lists_deactivate (dtc : DiagnosticTroubleCode) :
    (protocol.deactivate dtc).lists = protocol.lists.serve (.deactivate dtc) := by
  rw [deactivate, TroubleCodeLists.serve, lists_active, lists_inactive]
  split_ifs
  · rfl
  · cases protocol.activeDTCList.find? (·.sameCode dtc) <;> rfl

theorem lists_setDiagnosticTroubleCodeActive (dtc : DiagnosticTroubleCode) (active : Bool) :
    (protocol.setDiagnosticTroubleCodeActive env dtc active).lists =
      protocol.lists.serve (if active then .activate dtc else .deactivate dtc) := by
  rw [setDiagnosticTroubleCodeActive]
  split_ifs
  · exact protocol.lists_activate env dtc
  · exact protocol.lists_deactivate dtc

theorem lists_requestToClearActive (message : CANMessage) :
    (protocol.requestToClearActive message).lists =
      protocol.lists.serve (.clearNamedActive (isRequested message)) := by
  rw [requestToClearActive, TroubleCodeLists.serve, lists_active, lists_inactive]
  cases protocol.activeDTCList.find? (isRequested message) <;> rfl

theorem lists_requestToClearPreviouslyActive (message : CANMessage) :
    (protocol.requestToClearPreviouslyActive message).lists =
      protocol.lists.serve (.clearNamedInactive (isRequested message)) := by
  rw [requestToClearPreviouslyActive, TroubleCodeLists.serve, lists_active, lists_inactive]
  by_cases hany : protocol.inactiveDTCList.any (isRequested message) = true
  · rw [if_pos hany]
    rfl
  · have hnone : ∀ dtc ∈ protocol.inactiveDTCList, ¬isRequested message dtc = true := by
      intro dtc hdtc hnamed
      exact hany (List.any_eq_true.mpr ⟨dtc, hdtc, hnamed⟩)
    rw [if_neg hany, List.eraseP_of_forall_not hnone]
    rfl

theorem lists_processDiagnosticMessage13 (message : CANMessage) :
    (protocol.processDiagnosticMessage13 message env).lists = protocol.lists := by
  obtain ⟨_, _, _, hprocessed⟩ := protocol.exists_processDiagnosticMessage13 message env
  rw [hprocessed]
  rfl

theorem lists_processMessage (message : CANMessage) :
    (protocol.processMessage message env).lists =
      protocol.lists.serve (protocol.listRequest (.processMessage message)) := by
  rw [processMessage, listRequest]
  by_cases haddressed : protocol.isAddressed message = true
  · rw [if_pos haddressed]
    by_cases h13 : message.identifier.getParameterGroupNumber = DIAGNOSTIC_MESSAGE_13
    · have hne : ¬message.identifier.getParameterGroupNumber = DIAGNOSTIC_MESSAGE_22 := by
        rw [h13]
        decide
      rw [if_pos h13, if_neg fun h => hne h.2.1]
      exact protocol.lists_processDiagnosticMessage13 env message
    · rw [if_neg h13]
      by_cases h22 : message.identifier.getParameterGroupNumber = DIAGNOSTIC_MESSAGE_22
      · rw [if_pos h22, processDiagnosticMessage22]
        by_cases hlength : message.data.length = CAN_DATA_LENGTH
        · have hrequest : protocol.isAddressed message = true ∧
              message.identifier.getParameterGroupNumber = DIAGNOSTIC_MESSAGE_22 ∧
              message.data.length = CAN_DATA_LENGTH := ⟨haddressed, h22, hlength⟩
          simp only [if_pos hlength, if_pos hrequest]
          split_ifs
          · exact protocol.lists_requestToClearActive message
          · exact protocol.lists_requestToClearPreviouslyActive message
          · rfl
        · have hnot : ¬(protocol.isAddressed message = true ∧
              message.identifier.getParameterGroupNumber = DIAGNOSTIC_MESSAGE_22 ∧
              message.data.length = CAN_DATA_LENGTH) := fun h => hlength h.2.2
          rw [if_neg hlength, if_neg hnot]
          rfl
      · rw [if_neg h22, if_neg fun h => h22 h.2.1]
        rfl
  · rw [if_neg haddressed, if_neg fun h => haddressed h.1]
    rfl

theorem lists_processParameterGroupNumberRequest (parameterGroupNumber : UInt32)
    (requester : Option CFRef) :
    (protocol.processParameterGroupNumberRequest parameterGroupNumber requester).1.lists =
      protocol.lists.serve
        (protocol.listRequest
            (.processParameterGroupNumberRequest parameterGroupNumber requester)) := by
  cases requester with
  | none => rfl
  | some requester =>
    rw [listRequest, if_neg (Option.some_ne_none requester)]
    by_cases h3 : parameterGroupNumber = DIAGNOSTIC_MESSAGE_3
    · rw [h3]
      rfl
    · by_cases h11 : parameterGroupNumber = DIAGNOSTIC_MESSAGE_11
      · rw [if_neg h3, if_pos h11, h11]
        exact protocol.lists_clearActiveDiagnosticTroubleCodes
      · rw [if_neg h3, if_neg h11]
        unfold processParameterGroupNumberRequest
        dsimp only
        rw [if_neg h3, if_neg h11]
        split_ifs <;> rfl

theorem lists_update : (Turn.update env ⟨protocol, []⟩).protocol.lists = protocol.lists := by
  have hresume : (protocol.resumeBroadcasts env).lists = protocol.lists := by
    rw [resumeBroadcasts]
    split_ifs <;> rfl
  have hschedule (other : DiagnosticProtocol) : (other.scheduleDM1 env).lists = other.lists := by
    rw [scheduleDM1]
    split_ifs <;> rfl
  obtain ⟨_, _, _, _, hsent⟩ := Turn.processAllFlags_sendsOnly env
    ((⟨protocol, []⟩ : Turn).map fun protocol => (protocol.resumeBroadcasts env).scheduleDM1 env)
  rw [Turn.update, hsent]
  exact (hschedule _).trans hresume

end

theorem lists_next (protocol : DiagnosticProtocol) (input : Input) :
    (diagnosticProtocol.next protocol input).lists =
      protocol.lists.serve (protocol.listRequest input.call) := by
  obtain ⟨env, call⟩ := input
  change (protocol.serve env call).protocol.lists = _
  cases call with
  | update => exact protocol.lists_update env
  | clearActiveDiagnosticTroubleCodes => exact protocol.lists_clearActiveDiagnosticTroubleCodes
  | setDiagnosticTroubleCodeActive dtc active =>
    exact protocol.lists_setDiagnosticTroubleCodeActive env dtc active
  | onAddressViolation address =>
    rw [serve, onAddressViolation, listRequest]
    split_ifs
    · exact protocol.lists_setDiagnosticTroubleCodeActive env _ true
    · rfl
  | processMessage message => exact protocol.lists_processMessage env message
  | processParameterGroupNumberRequest parameterGroupNumber requester =>
    exact protocol.lists_processParameterGroupNumberRequest parameterGroupNumber requester
  | setEcuIdField field value =>
    rw [serve, setEcuIdField]
    split_ifs <;> rfl
  | setJ1939Mode value => rfl
  | clearInactiveDiagnosticTroubleCodes => rfl
  | suspendBroadcasts suspendTime => rfl
  | setProductIdentificationCode value => rfl
  | setProductIdentificationBrand value => rfl
  | setProductIdentificationModel value => rfl
  | setSoftwareIdField index value => rfl
  | clearSoftwareIdFields => rfl

end DiagnosticProtocol

def bookkeeping : Machine (DiagnosticProtocol × Ledger) Input Event :=
  diagnosticProtocol.recording fun ledger protocol input =>
    ledger.note protocol.lists (protocol.listRequest input.call)
      (diagnosticProtocol.next protocol input).lists

/-- The call makes a code active that was active 126 times already. -/
def DiagnosticProtocol.Saturates (protocol : DiagnosticProtocol) (input : Input) : Prop :=
  protocol.lists.Saturates (protocol.listRequest input.call)

/-- From empty lists on, the lists are a partition with right counts exactly if no code becomes
active again after its 126th time. -/
theorem partitioned_along_iff {protocol : DiagnosticProtocol}
    (hactive : protocol.activeDTCList = [])
    (hinactive : protocol.inactiveDTCList = []) (inputs : List Input) :
    (∀ past, past <+: inputs →
        Partitioned (bookkeeping.run (protocol, {}) past).1.lists
          (bookkeeping.run (protocol, {}) past).2) ↔
      diagnosticProtocol.Along
          (fun protocol input => ¬protocol.Saturates input) protocol inputs := by
  have hstep (state : DiagnosticProtocol × Ledger) (input : Input)
      (h : Partitioned state.1.lists state.2) :
      Partitioned (bookkeeping.next state input).1.lists (bookkeeping.next state input).2 ↔
        ¬state.1.Saturates input := by
    rw [bookkeeping, Machine.recording_next]
    rw [state.1.lists_next input]
    exact serve_partitioned_iff h _
  have hstart : Partitioned protocol.lists {} := by
    rw [DiagnosticProtocol.lists, hactive, hinactive]
    exact ⟨List.nodup_nil, fun _ h => h.elim, fun _ h => absurd h List.not_mem_nil⟩
  rw [@Machine.forall_prefix_iff _ _ _ bookkeeping
      (fun state => Partitioned state.1.lists state.2) _
    hstep (protocol, {}) hstart inputs]
  exact @Machine.recording_along_iff _ _ _ diagnosticProtocol Ledger _
    (fun protocol input => ¬protocol.Saturates input) (protocol, {}) inputs

def codeInput (active : Bool) : Input :=
  ⟨⟨0, fun _ => true⟩, .setDiagnosticTroubleCodeActive
    { suspectParameterNumber := 1234, failureModeIdentifier := 3 } active⟩

theorem partitioned_twice :
    Partitioned
      (bookkeeping.run ({ myControlFunction := 0 }, {})
        [codeInput true, codeInput false, codeInput true]).1.lists
      (bookkeeping.run ({ myControlFunction := 0 }, {})
        [codeInput true, codeInput false, codeInput true]).2 := by
  refine (@partitioned_along_iff { myControlFunction := 0 } rfl rfl
    [codeInput true, codeInput false, codeInput true]).mpr ⟨?_, ?_, ?_, trivial⟩ _ List.prefix_rfl
  · rintro ⟨_, _, known, hknown, -⟩
    exact absurd hknown List.not_mem_nil
  · rintro ⟨_, hrequest, -⟩
    exact absurd hrequest ListRequest.noConfusion
  · rintro ⟨_, _, known, hknown, -, hmax⟩
    change known ∈ [(⟨1234, 3, .none, 1⟩ : DiagnosticTroubleCode)] at hknown
    rw [List.mem_singleton.mp hknown] at hmax
    cases hmax

def toggles : Nat → List Input
  | 0 => []
  | n + 1 => codeInput false :: codeInput true :: toggles n

theorem lists_toggles (n : Nat) {protocol : DiagnosticProtocol} {count : UInt8}
    (h : protocol.lists = ⟨[⟨1234, 3, .none, count⟩], []⟩) :
    (diagnosticProtocol.run protocol (toggles n)).lists =
      ⟨[⟨1234, 3, .none, count + UInt8.ofNat n⟩], []⟩ := by
  induction n generalizing protocol count with
  | zero =>
    rw [toggles, Machine.run_nil, h]
    simp
  | succ n ih =>
    have htoggled : (diagnosticProtocol.next (diagnosticProtocol.next protocol (codeInput false))
        (codeInput true)).lists = ⟨[⟨1234, 3, .none, count + 1⟩], []⟩ := by
      rw [DiagnosticProtocol.lists_next, DiagnosticProtocol.lists_next, h]
      rfl
    rw [toggles, Machine.run_cons, Machine.run_cons, ih htoggled, UInt8.ofNat_add]
    simp [UInt8.add_assoc, UInt8.add_comm]

/-- The 127th time is counted as well. -/
theorem partitioned_often :
    ¬Partitioned
      (bookkeeping.run ({ myControlFunction := 0 }, {}) (codeInput true :: toggles 126)).1.lists
      (bookkeeping.run ({ myControlFunction := 0 }, {}) (codeInput true :: toggles 126)).2 := by
  intro h
  have hlists : (bookkeeping.run ({ myControlFunction := 0 }, {})
      (codeInput true :: toggles 126)).1.lists = ⟨[⟨1234, 3, .none, 127⟩], []⟩ := by
    have hfirst : (diagnosticProtocol.next { myControlFunction := 0 } (codeInput true)).lists =
        ⟨[⟨1234, 3, .none, 1⟩], []⟩ := rfl
    rw [bookkeeping, Machine.recording_run_fst, Machine.run_cons, lists_toggles 126 hfirst]
    rfl
  have hcount := h.counted ⟨1234, 3, .none, 127⟩ (by rw [hlists]; exact List.mem_cons_self)
  change 127 = _ at hcount
  omega

end Isobus.Diagnostics
