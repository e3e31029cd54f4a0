import Vcd.Discipline.Readers

/-!
# Changes of rights keep the discipline

The methods that change users, capabilities, owners and groups. All of them ask for `AUTH`,
and the ids they write were looked up.
-/

namespace Vcd

open Sql Process

variable {setup : Setup} {request : Request} {past : Past}

/-- The end of a method that fails if its last statement did. -/
theorem keeps_result (function : Str) (outcome : Sql.Outcome) :
    Keeps setup request past (if !outcome.ok then do
      vxdbFault function
      return Xml.nil
    else return Xml.nil) :=
  meets_check lenient_true fun _ => trivial

theorem Admitted.auth {flags : Flags} {user : Str}
    (admitted : Admitted request capAuth flags past user) {after : Past} (subset : past ⊆ after) :
    Capable after user (cstr "AUTH") :=
  (admitted.capable rfl).mono subset

/-- A change of rights that the method asks for is permitted to it. -/
theorem write_rights {user : Str} {write : RightsWrite}
    (asked : write.Asked setup.host request) (user_eq : request.user = .ok user)
    (capable : Capable past user (cstr "AUTH")) (known : write.Known request past) :
    Permitted setup request past (.exec (render write.sql)) := by
  have writes : ∀ method ∈ [cstr "vcd.user.caps.add", cstr "vcd.user.caps.remove",
      cstr "vcd.user.remove", cstr "vcd.user.set", cstr "vxdb.owner.add",
      cstr "vxdb.owner.remove", cstr "vg.add", cstr "vg.remove"],
      writeKind method = some .rights := by
    decide
  refine .inr ⟨_, writes _ ?_, .rights user write user_eq capable known asked⟩
  cases write <;> simp only [RightsWrite.Asked] at asked <;> simp [asked]

theorem free_nil : ∀ text ∈ ([] : List Str), QuoteFree text :=
  fun _ mem => by cases mem

theorem free_singleton {text : Str} (free : QuoteFree text) : ∀ other ∈ [text], QuoteFree other :=
  fun _ mem => List.mem_singleton.mp mem ▸ free

/-- The user id a trace of a lookup found is recent knowledge. -/
theorem found_uid {user : Str} {uid : Int} {trace : Past}
    (named : request.text (cstr "username") = .ok user)
    (traced : Traced (authGetuid user) trace uid) (nonzero : ¬ uid = 0) :
    request.FoundUid (recent (trace ++ past)) uid := by
  rw [traced.recent]
  exact ⟨user, named, ((traced_authGetuid traced).resolve_left nonzero).mono (by simp)⟩

theorem found_xid {name : Str} {xid : Int} {trace : Past}
    (traced : Traced (vxdbGetxid name) trace xid) (nonzero : ¬ xid = 0) :
    Looked (recent (trace ++ past)) name xid := by
  rw [traced.recent]
  exact ((traced_vxdbGetxid traced).resolve_left nonzero).mono (by simp)

theorem mVcdUserCapsAdd_keeps (method : request.method = cstr "vcd.user.caps.add") :
    Keeps setup request []
      (mVcdUserCapsAdd setup.host (.client request.credentials request.params)) := by
  refine meets_admitted setup.host capAuth {} lenient_true fun after user admitted => ?_
  refine meets_ofExcept lenient_true fun target targetEq => ?_
  refine meets_ofExcept lenient_true fun cap capEq => meets_check lenient_true fun _ => ?_
  refine meets_lookup (lookup_authGetuid target) fun uid trace traced => ?_
  refine meets_check lenient_true fun nonzero =>
    meets_exec ?_ fun outcome => keeps_result _ outcome
  have asked : (RightsWrite.capsAdd uid cap).Asked setup.host request := ⟨method, capEq⟩
  exact write_rights asked admitted.user_eq (admitted.auth (by simp))
    (found_uid targetEq traced nonzero)

theorem mVcdUserCapsRemove_keeps (method : request.method = cstr "vcd.user.caps.remove") :
    Keeps setup request []
      (mVcdUserCapsRemove setup.host (.client request.credentials request.params)) := by
  refine meets_admitted setup.host capAuth {} lenient_true fun after user admitted => ?_
  refine meets_ofExcept lenient_true fun target targetEq => ?_
  refine meets_ofExcept lenient_true fun cap capEq => ?_
  have removes (given : Option Str) (same : methodEmptyParam cap = given) :
      Keeps setup request after (do
        let uid ← authGetuid target
        if uid = 0 then fault .nouser
        let outcome ← vxdbExec (sqlUserCapsRemove uid given)
        if !outcome.ok then vxdbFault (cstr "m_vcd_user_caps_remove")
        return Xml.nil) := by
    refine meets_lookup (lookup_authGetuid target) fun uid trace traced => ?_
    refine meets_check lenient_true fun nonzero =>
      meets_exec ?_ fun outcome => keeps_result _ outcome
    have asked : (RightsWrite.capsRemove uid given).Asked setup.host request :=
      ⟨method, cap, capEq, same⟩
    exact write_rights asked admitted.user_eq (admitted.auth (by simp))
      (found_uid targetEq traced nonzero)
  cases known : methodEmptyParam cap with
  | none => exact removes none known
  | some given => exact meets_check lenient_true fun _ => removes (some given) known

/-! ## Users -/

theorem mVcdUserRemove_keeps (method : request.method = cstr "vcd.user.remove") :
    Keeps setup request []
      (mVcdUserRemove setup.host (.client request.credentials request.params)) := by
  refine meets_admitted setup.host capAuth {} lenient_true fun after user admitted => ?_
  refine meets_ofExcept lenient_true fun target targetEq => ?_
  refine meets_lookup (lookup_authGetuid target) fun uid trace traced => ?_
  refine meets_check lenient_true fun nonzero =>
    meets_exec ?_ fun outcome => keeps_result _ outcome
  have asked : (RightsWrite.userRemove uid).Asked setup.host request := method
  exact write_rights asked admitted.user_eq (admitted.auth (by simp))
    (found_uid targetEq traced nonzero)

theorem quoteFree_drop {text : Str} (free : QuoteFree text) (count : Nat) :
    QuoteFree (text.drop count) :=
  fun mem => free (List.mem_of_mem_drop mem)

theorem quoteFree_hash (host : Host) {pass : Str} (free : QuoteFree pass) :
    QuoteFree (whirlpoolPass host pass) := by
  unfold whirlpoolPass
  split
  · exact quoteFree_drop free 14
  · exact quoteFree_digest host pass

/-- The hash of a password that may be missing. -/
theorem quoteFree_newHash (host : Host) {pass : Str} (free : QuoteFree pass) :
    QuoteFree (whirlpoolPass host ((methodEmptyParam pass).getD [])) := by
  refine quoteFree_hash host ?_
  unfold methodEmptyParam
  split
  · exact quoteFree_nil
  · exact free

theorem lookup_authGetnextuid : Lookup authGetnextuid :=
  (lookup_prepare _).bind fun reply => by split <;> trivial

theorem mVcdUserSet_keeps (method : request.method = cstr "vcd.user.set") :
    Keeps setup request []
      (mVcdUserSet setup.host (.client request.credentials request.params)) := by
  refine meets_admitted setup.host capAuth {} lenient_true fun after user admitted => ?_
  refine meets_ofExcept lenient_true fun target targetEq => ?_
  refine meets_ofExcept lenient_true fun pass passEq => ?_
  refine meets_ofExcept lenient_true fun admin adminEq => meets_check lenient_true fun _ => ?_
  refine meets_lookup (lookup_authGetuid target) fun uid trace traced => ?_
  have admits : RightsWrite.Admits request admin.toInt := ⟨admin, adminEq, rfl⟩
  refine meets_ite (fun _ => ?_) fun nonzero => ?_
  · refine meets_check lenient_true fun valid => ?_
    refine meets_lookup lookup_authGetnextuid fun uid last nextTraced => ?_
    refine meets_exec ?_ fun outcome => meets_check lenient_true fun _ => trivial
    have asked : (RightsWrite.userInsert uid target (whirlpoolPass setup.host
        ((methodEmptyParam pass).getD [])) admin.toInt).Asked setup.host request :=
      ⟨method, targetEq, ⟨pass, passEq, rfl⟩, admits⟩
    refine write_rights asked admitted.user_eq (admitted.auth (by simp)) ?_
    change Next (recent (last ++ (trace ++ after))) sqlNextuid uid
    rw [nextTraced.recent]
    exact (traced_authGetnextuid nextTraced).mono (by simp)
  · have found := @found_uid request after _ _ _ targetEq traced nonzero
    refine meets_exec ?_ fun outcome => meets_check lenient_true fun _ => ?_
    · have asked : (RightsWrite.userAdmin uid admin.toInt).Asked setup.host request :=
        ⟨method, admits⟩
      exact write_rights asked admitted.user_eq (admitted.auth (by simp)) found
    cases known : methodEmptyParam pass with
    | none => trivial
    | some given =>
        refine meets_check lenient_true fun _ => meets_exec ?_ fun outcome =>
          meets_check lenient_true fun _ => trivial
        have asked : (RightsWrite.userPassword uid (whirlpoolPass setup.host given)).Asked
            setup.host request :=
          ⟨method, pass, passEq, by rw [known, Option.getD_some]⟩
        refine write_rights asked admitted.user_eq (admitted.auth ?_) ?_
        · exact fun event mem => by simp [mem]
        · exact found.mono (List.Subset.trans recent_subset (List.subset_cons_self _ _))

theorem mVxdbOwnerAdd_keeps (method : request.method = cstr "vxdb.owner.add") :
    Keeps setup request []
      (mVxdbOwnerAdd setup.host (.client request.credentials request.params)) := by
  refine meets_admitted setup.host capAuth {} lenient_true fun after user admitted => ?_
  refine meets_ofExcept lenient_true fun name nameEq => ?_
  refine meets_ofExcept lenient_true fun owner ownerEq => ?_
  refine meets_lookup (lookup_authGetuid owner) fun uid first firstTraced => ?_
  refine meets_check lenient_true fun known => ?_
  refine meets_lookup (lookup_vxdbGetxid name) fun xid second traced => ?_
  refine meets_check lenient_true fun found => ?_
  refine meets_exec ?_ fun outcome => keeps_result _ outcome
  have asked : (RightsWrite.ownerAdd xid uid).Asked setup.host request := method
  have foundUid := @found_uid request after _ _ _ ownerEq firstTraced known
  exact write_rights asked admitted.user_eq (admitted.auth (by simp))
    ⟨foundUid.mono traced.later.recent, name, nameEq, found_xid traced found⟩

theorem mVxdbOwnerRemove_keeps (method : request.method = cstr "vxdb.owner.remove") :
    Keeps setup request []
      (mVxdbOwnerRemove setup.host (.client request.credentials request.params)) := by
  refine meets_admitted setup.host capAuth {} lenient_true fun after user admitted => ?_
  refine meets_ofExcept lenient_true fun name nameEq => ?_
  refine meets_ofExcept lenient_true fun owner ownerEq => ?_
  refine meets_lookup (lookup_vxdbGetxid name) fun xid first firstTraced => ?_
  refine meets_check lenient_true fun known => ?_
  have foundXid : request.FoundXid (recent (first ++ after)) xid :=
    ⟨name, nameEq, found_xid firstTraced known⟩
  have removes (uid : Int) (trace : Past)
      (later : Later (first ++ after) (trace ++ (first ++ after)))
      (found : request.FoundUid (recent (trace ++ (first ++ after))) uid ∨ uid = 0 ∧
        ∃ text, request.text (cstr "username") = .ok text ∧ methodEmptyParam text = none) :
      Keeps setup request (trace ++ (first ++ after)) (do
        let outcome ← vxdbExec (sqlOwnerRemove xid uid)
        if !outcome.ok then vxdbFault (cstr "m_vxdb_owner_remove")
        return Xml.nil) := by
    refine meets_exec ?_ fun outcome => keeps_result _ outcome
    have asked : (RightsWrite.ownerRemove xid uid).Asked setup.host request := method
    exact write_rights asked admitted.user_eq (admitted.auth (by simp))
      ⟨foundXid.mono later.recent, found⟩
  cases given : methodEmptyParam owner with
  | none => exact removes 0 [] (.refl _) (.inr ⟨rfl, owner, ownerEq, given⟩)
  | some user =>
      obtain rfl := methodEmptyParam_eq_some given
      refine meets_lookup (lookup_authGetuid owner) fun uid trace traced => ?_
      exact meets_check lenient_true fun nonzero =>
        removes uid trace traced.later (.inl (found_uid ownerEq traced nonzero))

/-! ## Groups -/

/-- A member was looked up by queries only. -/
theorem meets_validateMember (name : Str) :
    (validateMember name).Meets (discipline setup request) past
      (Finds fun after xid => ∃ trace, after = trace ++ past ∧
        (∀ event ∈ trace, event.request.IsPrepare) ∧ Looked (recent after) name xid) := by
  refine meets_check (lenient_finds _) fun _ => ?_
  refine meets_lookup (lookup_vxdbGetxid name) fun xid trace traced => ?_
  refine meets_check (lenient_finds _) fun found => ?_
  exact ⟨trace, rfl, traced.isPrepare, found_xid traced found⟩

/-- What is known about the id of a group that is created if there is none. -/
def GroupKnown (past : Past) (group : Str) (gid : Int) : Prop :=
  HasGid (recent past) group gid ∨ Wrote past (sqlGroupInsert gid group)

/-- Queries keep what is known about a group. -/
theorem GroupKnown.append {group : Str} {gid : Int} {trace : Past}
    (known : GroupKnown past group gid) (queries : ∀ event ∈ trace, event.request.IsPrepare) :
    GroupKnown (trace ++ past) group gid := by
  rcases known with hasGid | ⟨new, outcome, old, rfl, ok, newQueries⟩
  · have later : Later past (trace ++ past) := .append (steady_of_queries queries)
    exact .inl (hasGid.mono later.recent)
  · refine .inr ⟨trace ++ new, outcome, old, by simp, ok, fun event mem => ?_⟩
    rcases List.mem_append.mp mem with mem | mem
    · exact queries event mem
    · exact newQueries event mem

/-- A group is created if there is none. -/
theorem meets_vgAddGroup {user group : Str} (method : request.method = cstr "vg.add")
    (groupEq : request.text (cstr "group") = .ok group) (user_eq : request.user = .ok user)
    (capable : Capable past user (cstr "AUTH")) :
    (vgAddGroup group).Meets (discipline setup request) past
      (Finds fun after gid => past ⊆ after ∧ GroupKnown after group gid) := by
  refine meets_lookup (lookup_vxdbGetgid group) fun gid trace traced => ?_
  refine meets_ite (fun nonzero => ?_) fun _ => ?_
  · refine ⟨List.subset_append_right trace past, .inl ?_⟩
    rw [traced.recent]
    exact ((traced_vxdbGetgid traced).resolve_left nonzero).mono (by simp)
  refine meets_lookup (lookup_prepare _) fun rows last lastTraced => ?_
  have asked := traced_prepare lastTraced
  have inserts (gid : Int) (next : Next (recent (last ++ (trace ++ past))) sqlLastGid gid) : (do
      let outcome ← vxdbExec (sqlGroupInsert gid group)
      if !outcome.ok then vxdbFault (cstr "m_vg_add")
      return gid : Method Int).Meets (discipline setup request) (last ++ (trace ++ past))
        (Finds fun after gid => past ⊆ after ∧ GroupKnown after group gid) := by
    refine meets_exec ?_ fun outcome => meets_check (lenient_finds _) fun succeeded => ?_
    · have asked : (RightsWrite.groupInsert gid group).Asked setup.host request :=
        ⟨method, groupEq⟩
      exact write_rights asked user_eq (capable.mono (by simp)) next
    · refine ⟨fun event mem => by simp [mem], .inr ⟨[], outcome, _, rfl, ?_, by simp⟩⟩
      simpa using succeeded
  have next : Next (recent (last ++ (trace ++ past))) sqlLastGid
      (((firstRow rows).map fun row => int32 (vxdbColumnInt row 0 + 1)).getD 1) := by
    rw [lastTraced.recent, asked]
    exact ⟨rows, by simp [Asked], rfl⟩
  rcases rows with _ | _ | ⟨row, rows⟩ <;> exact inserts _ next

theorem mVgAdd_keeps (method : request.method = cstr "vg.add") :
    Keeps setup request [] (mVgAdd setup.host (.client request.credentials request.params)) := by
  refine meets_admitted setup.host capAuth {} lenient_true fun after user admitted => ?_
  refine meets_ofExcept lenient_true fun group groupEq => ?_
  refine meets_ofExcept lenient_true fun name nameEq => meets_check lenient_true fun valid => ?_
  refine meets_ite (fun _ => trivial) fun _ => ?_
  refine meets_found lenient_true (meets_vgAddGroup method groupEq admitted.user_eq
    (admitted.auth (List.Subset.refl after))) ?_
  rintro current gid ⟨subset, groupKnown⟩
  refine meets_ite (fun _ => ?_) fun _ => trivial
  refine meets_found lenient_true (meets_validateMember name) ?_
  rintro last xid ⟨trace, rfl, queries, looked⟩
  refine meets_exec ?_ fun outcome => meets_check lenient_true fun _ => trivial
  have asked : (RightsWrite.memberInsert xid gid).Asked setup.host request := method
  exact write_rights asked admitted.user_eq
    (admitted.auth (List.Subset.trans subset (List.subset_append_right trace current)))
    ⟨⟨name, nameEq, looked⟩, group, groupEq, by simpa using valid, groupKnown.append queries⟩

theorem mVgRemove_keeps (method : request.method = cstr "vg.remove") :
    Keeps setup request []
      (mVgRemove setup.host (.client request.credentials request.params)) := by
  refine meets_admitted setup.host capAuth {} lenient_true fun after user admitted => ?_
  refine meets_ofExcept lenient_true fun group groupEq => ?_
  refine meets_ofExcept lenient_true fun name nameEq => meets_check lenient_true fun _ => ?_
  refine meets_check lenient_true fun _ => ?_
  refine meets_lookup (lookup_vxdbGetgid group) fun gid trace traced => ?_
  refine meets_check lenient_true fun nonzero => ?_
  have found : request.FoundGid (recent (trace ++ after)) gid := by
    refine ⟨group, groupEq, ?_⟩
    rw [traced.recent]
    exact ((traced_vxdbGetgid traced).resolve_left nonzero).mono (by simp)
  refine meets_ite (fun _ => ?_) fun _ => ?_
  · refine meets_exec ?_ fun outcome => keeps_result _ outcome
    have asked : (RightsWrite.groupRemove gid).Asked setup.host request := method
    exact write_rights asked admitted.user_eq (admitted.auth (by simp)) found
  · refine meets_found lenient_true (meets_validateMember name) ?_
    rintro last xid ⟨queried, rfl, queries, looked⟩
    refine meets_exec ?_ fun outcome => keeps_result _ outcome
    have asked : (RightsWrite.memberRemove xid gid).Asked setup.host request := method
    have later : Later (trace ++ after) (queried ++ (trace ++ after)) :=
      .append (steady_of_queries queries)
    exact write_rights asked admitted.user_eq (admitted.auth (by simp))
      ⟨⟨name, nameEq, looked⟩, found.mono later.recent⟩

/-! ## Strings -/

namespace RightsWrite

variable {host : Host}

theorem quoteFree_of_hashes {hash : Str} (free : request.Free)
    (hashes : Hashes host request hash) : QuoteFree hash := by
  obtain ⟨pass, known, rfl⟩ := hashes
  exact quoteFree_newHash host (free _ _ known)

/-- A request without quotes asks for changes without quotes. -/
theorem Asked.free {write : RightsWrite} (asked : write.Asked host request)
    (free : request.Free) : write.Free := by
  cases write with
  | capsAdd uid cap => exact free_singleton (free _ _ asked.2)
  | capsRemove uid cap =>
      obtain ⟨-, text, known, given⟩ := asked
      intro other mem
      obtain rfl : cap = some other := Option.mem_toList.mp mem
      obtain rfl := methodEmptyParam_eq_some given
      exact free _ _ known
  | userInsert uid user hash admin =>
      obtain ⟨-, known, hashes, -⟩ := asked
      intro text mem
      rcases List.mem_cons.mp mem with rfl | mem
      · exact free _ _ known
      · obtain rfl := List.mem_singleton.mp mem
        exact quoteFree_of_hashes free hashes
  | userPassword uid hash => exact free_singleton (quoteFree_of_hashes free asked.2)
  | groupInsert gid group => exact free_singleton (free _ _ asked.2)
  | _ => exact free_nil

end RightsWrite

end Vcd
