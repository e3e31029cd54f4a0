import Vcd.Housed
import Vcd.Passwords
import Vcd.Settings

/-!
# Requests sent again

A request that adds or sets something has succeeded, and is sent again at once. It finds what
it has put there itself: a replaced row is replaced by itself, a group or a user is known by
then. Only a member of a group is inserted a second time, and is refused.
-/

namespace Vcd

open Sql Process

variable {host : Host} {setup : Setup} {request : Request} {world next : World} {db one two : Vxdb}
  {credentials params : Xml} {sender : Str} {caps : UInt64}

/-- Sent again after the process that handled it has ended, the request succeeds and changes
nothing but counters. -/
def SucceedsAgain (program : Method Xml) (first : World) : Prop :=
  ∃ answer last, ends program (World.release 0 first) = (.returned answer, last) ∧
    SameRows first.db last.db

/-! ## The second admission -/

/-- The password of the credentials has no quotes. -/
def SecretFree (credentials : Xml) : Prop :=
  ∀ secret, credentials.getStr (cstr "password") = .ok secret → QuoteFree secret

theorem authenticationIn_iff (free : SecretFree credentials) :
    authenticationIn db.oracle host credentials caps = .ok sender ↔
      ∃ secret, credentials.getStr (cstr "username") = .ok sender ∧
        credentials.getStr (cstr "password") = .ok secret ∧
        (validateUsername sender = true ∧ strIsempty secret = false ∧
          Authenticates db sender (whirlpoolPass host secret)) ∧
        capableIn db.oracle sender caps = true := by
  have login (secret : Str) (known : credentials.getStr (cstr "password") = .ok secret) :
      validIn db.oracle host sender secret = true ↔ validateUsername sender = true ∧
        strIsempty secret = false ∧ Authenticates db sender (whirlpoolPass host secret) := by
    unfold validIn
    rw [Bool.and_eq_true, Bool.and_eq_true, Bool.not_eq_true', and_assoc]
    refine and_congr_right fun valid => and_congr_right fun _ => ?_
    exact firstRow_sqlIsvalid (quoteFree_of_validateUsername valid)
      (quoteFree_hash host (free secret known))
  constructor
  · intro authentic
    obtain ⟨user, userEq, authentic⟩ := bind_eq_ok.mp authentic
    obtain ⟨secret, secretEq, authentic⟩ := bind_eq_ok.mp authentic
    obtain ⟨valid, authentic⟩ := ite_error_eq_ok.mp authentic
    obtain ⟨capable, authentic⟩ := ite_error_eq_ok.mp authentic
    obtain rfl : user = sender := Except.ok.inj authentic
    exact ⟨secret, userEq, secretEq, (login secret secretEq).mp (by simpa using valid),
      by simpa using capable⟩
  · rintro ⟨secret, userEq, secretEq, valid, capable⟩
    unfold authenticationIn
    rw [userEq, secretEq]
    change (if _ then _ else if _ then _ else _) = _
    rw [(login secret secretEq).mpr valid, capable]
    rfl

theorem capableIn_mono (uid : uidIn two.oracle sender = uidIn one.oracle sender)
    (granted : ∀ uid cap, Granted one uid cap → Granted two uid cap)
    (capable : capableIn one.oracle sender caps = true) : capableIn two.oracle sender caps = true := by
  rw [capableIn_iff] at capable ⊢
  intro cap listed asked
  obtain ⟨known, held⟩ := capable cap listed asked
  unfold HasCap
  rw [uid]
  exact ⟨known, granted _ _ held⟩

/-- A login succeeds again if the users are the same and no capability was taken away. -/
theorem authentication_mono (free : SecretFree credentials)
    (users : two.rows Table.user = one.rows Table.user)
    (granted : ∀ uid cap, Granted one uid cap → Granted two uid cap)
    (authentic : authenticationIn one.oracle host credentials caps = .ok sender) :
    authenticationIn two.oracle host credentials caps = .ok sender := by
  rw [authenticationIn_iff free] at authentic ⊢
  obtain ⟨secret, userEq, secretEq, ⟨valid, given, stored⟩, capable⟩ := authentic
  refine ⟨secret, userEq, secretEq, ⟨valid, given, ?_⟩,
    capableIn_mono (uidIn_of_rows users sender) granted capable⟩
  unfold Authenticates
  rwa [users]

theorem flagsIn_eq_ok {oracle : Oracle} {free : Str → Bool} {user : Str} {flags : Flags} :
    flagsIn oracle free params user flags = .ok () ↔
      ∃ name, params.getStr (cstr "name") = .ok name ∧ validateName name = true ∧
        (flags.owner = true → ownerIn oracle user name = true) ∧
        (flags.lock = true → free name = true) := by
  unfold flagsIn
  rw [bind_eq_ok]
  refine exists_congr fun name => and_congr_right fun _ => ?_
  rw [ite_error_eq_ok, ite_error_eq_ok, ite_error_eq_ok]
  cases flags.owner <;> cases flags.lock <;> simp

theorem admissionIn_iff {oracle : Oracle} {free : Str → Bool} {flags : Flags} :
    admissionIn oracle host free credentials params caps flags = .ok params ↔
      ∃ user, authenticationIn oracle host credentials caps = .ok user ∧
        (flags.any = true → flagsIn oracle free params user flags = .ok ()) := by
  unfold admissionIn
  rw [bind_eq_ok]
  refine exists_congr fun user => and_congr_right fun _ => ?_
  cases flags.any with
  | false => simp [pure, Except.pure]
  | true =>
      rw [if_pos rfl, bind_eq_ok]
      exact ⟨fun ⟨_, passed, _⟩ _ => passed, fun passed => ⟨(), passed rfl, rfl⟩⟩

/-- The end of the process changes nothing about what is free for it. -/
theorem free_release (world : World) : (World.release 0 world).free = world.free := by
  funext name
  unfold World.free World.release
  dsimp only
  by_cases held : world.holder name = some 0
  · rw [if_pos held, held]
    rfl
  · rw [if_neg held]

theorem free_locked {name : Str} (params : Xml) (flags : Flags) (free : world.free name = true) :
    (world.locked params flags).free name = true := by
  unfold World.locked
  split
  next other _ _ =>
    unfold World.free at free ⊢
    dsimp only
    by_cases same : name = other
    · rw [same, Function.update_self]
      rfl
    · rwa [Function.update_of_ne same]
  next => exact free

/-! ## Writers of configuration -/

/-- A setting that was made is made again, and nothing changes. -/
theorem WroteConfig.again {reader : Xml → Except Fault (Str × (Int → List Piece))} {name : Str}
    {sql : Int → List Piece} {setting : Setting} (free : SecretFree credentials)
    (wrote : WroteConfig host caps reader credentials params world next name sql)
    (sets : Sets sql setting) (full : setting.Full)
    (listed : setting.table ∈ Table.init :: settingTables) :
    ∃ last, WroteConfig host caps reader credentials params (World.release 0 next) last name sql ∧
      SameRows next.db last.db := by
  obtain ⟨admitted, read, found, executed, last⟩ := wrote
  have tables : ∀ table ∈ Table.init :: settingTables, table ∉ [Table.user, .userCaps,
      .xidNameMap, .xidUidMap, .vcd] := by
    decide
  have apart (table : Table) (mem : table ∈ [Table.user, .userCaps, .xidNameMap, .xidUidMap, .vcd]) :
      table ≠ setting.table := fun same => tables _ listed (same ▸ mem)
  have db : next.db =
      (execText (counted world.db) (render (sql (xidIn world.db.oracle name)))).1 := by
    rw [last]
  obtain ⟨-, rows, others⟩ := sets.execText (xidIn world.db.oracle name) (counted world.db)
  rw [← db] at rows others
  have same (table : Table) (mem : table ∈ [Table.user, .userCaps, .xidNameMap, .xidUidMap]) :
      (counted next.db).rows table = (counted world.db).rows table := by
    have other : table ≠ .vcd := by
      rintro rfl
      exact absurd mem (by decide)
    rw [rows_counted next.db other]
    exact others table (apart table (by revert mem; simp; tauto))
  have names : xidIn next.db.oracle name = xidIn world.db.oracle name := by
    rw [xidIn_of_rows (others .xidNameMap (apart _ (by decide))), xidIn_counted]
  obtain ⟨executedAgain, rowsAgain, othersAgain⟩ :=
    sets.execText (xidIn world.db.oracle name) (counted next.db)
  refine ⟨{ beginning (World.release 0 next) params with
    db := (execText (counted next.db) (render (sql (xidIn world.db.oracle name)))).1 },
    ⟨?_, read, ?_, ?_, ?_⟩, ?_⟩
  · rw [admissionIn_iff] at admitted ⊢
    obtain ⟨sender, authentic, flags⟩ := admitted
    refine ⟨sender, authentication_mono free (same _ (by decide))
      (fun uid cap held => (granted_of_rows (same _ (by decide)) uid cap).mpr held) authentic,
      fun any => ?_⟩
    obtain ⟨checked, nameEq, valid, owner, unlocked⟩ := flagsIn_eq_ok.mp (flags any)
    refine flagsIn_eq_ok.mpr ⟨checked, nameEq, valid, fun asked => ?_, fun asked => ?_⟩
    · exact (ownerIn_of_rows (same _ (by decide)) (same _ (by decide)) (same _ (by decide))
        sender checked).trans (owner asked)
    · rw [free_release, last]
      exact free_locked params { owner := true, lock := true } (unlocked asked)
  · exact names ▸ found
  · rw [show xidIn (World.release 0 next).db.oracle name = _ from names]
    exact executedAgain
  · rw [show xidIn (World.release 0 next).db.oracle name = _ from names]
    rfl
  · intro table other
    by_cases own : table = setting.table
    · subst own
      rw [rowsAgain, rows_counted next.db other, rows]
      exact setting.leaves_leaves full _ _
    · rw [othersAgain table own, rows_counted next.db other]

/-! ## Capabilities and owners -/

/-- A client's request without flags that returns was admitted. -/
theorem returned_plain {caps : UInt64} {rest : Xml → Method Xml} {answer : Xml}
    (ended : ends (methodInit host (.client credentials params) caps {} >>= rest) world =
      (.returned answer, next)) :
    (∃ sender, authenticationIn (counted world.db).oracle host credentials caps = .ok sender) ∧
      ends (rest params) { world with db := counted world.db } = (.returned answer, next) := by
  obtain ⟨admitted, ended⟩ := returned_admitted ended
  obtain ⟨sender, authentic, -⟩ := admissionIn_iff.mp admitted
  exact ⟨⟨sender, authentic⟩, ended⟩

/-- A row that replaces itself. -/
theorem rows_replace_twice {table : Table} {row : Row} {first second : Vxdb}
    (self : vxdbSchema.conflict table row row = true) (replaced : first = db.replace table row)
    (same : SameRows first second) (other : table ≠ .vcd) :
    SameRows first (second.replace table row) := by
  intro changed counter
  by_cases own : changed = table
  · subst own
    rw [Database.rows_replace_same, Database.spared, same changed other, replaced,
      Database.rows_replace_same]
    exact Setting.filter_put (by rw [self]; rfl) _
  · rw [Database.rows_replace_other second own]
    exact same changed counter

/-- A capability that is added takes none away. -/
theorem granted_replace {row : Row} {uid : Int} {cap : Str} (granted : Granted db uid cap) :
    Granted (db.replace Table.userCaps row) uid cap := by
  obtain ⟨old, mem, numbered, named⟩ := granted
  unfold Granted
  rw [Database.rows_replace_same]
  cases clash : vxdbSchema.conflict Table.userCaps old row with
  | false => exact ⟨old, List.mem_append_left _ (List.mem_filter.mpr ⟨mem, by simp [clash]⟩), numbered, named⟩
  | true =>
      obtain ⟨index, listed, same⟩ := vxdbSchema.conflict_iff.mp clash
      obtain rfl := List.mem_singleton.mp listed
      have own := same (cstr "uid") List.mem_cons_self
      have other := same (cstr "cap") (List.mem_cons_of_mem _ List.mem_cons_self)
      refine ⟨row, List.mem_append_right _ List.mem_cons_self, ?_, ?_⟩
      · exact (Value.eq_of_same own).symm.trans numbered
      · exact (Value.eq_of_same other).symm.trans named

/-- What a single replacing insertion does. -/
theorem ends_replace {sql : List Piece} {table : Table} {row : Row} (runs : Runs (render sql)
      [(.replace table row : Change)]) (function : Str) (world : World) :
    ends (do
      let outcome ← vxdbExec sql
      if !outcome.ok then vxdbFault function
      return Xml.nil) world = (.returned .nil, { world with db := world.db.replace table row }) := by
  obtain ⟨after, ok⟩ := runs world.db
  rw [applyAll_singleton] at after ok
  change _ = world.db.replace table row at after
  change _ = true at ok
  rw [ends_exec, after, ok]
  rfl

/-- What `vcd.user.caps.add` does for a known user. -/
theorem ends_mVcdUserCapsAdd {user cap : Str}
    (authentic : authenticationIn (counted world.db).oracle host credentials capAuth = .ok sender)
    (userEq : params.getStr (cstr "username") = .ok user)
    (capEq : params.getStr (cstr "cap") = .ok cap) (valid : validateVcdCap cap = true)
    (free : QuoteFree cap) (found : uidIn world.db.oracle user ≠ 0) :
    ends (mVcdUserCapsAdd host (.client credentials params)) world = (.returned .nil,
      { world with db :=
          (counted world.db).replace Table.userCaps [.int (uidIn world.db.oracle user), .str cap] }) := by
  have uid : uidIn (counted world.db).oracle user = uidIn world.db.oracle user :=
    uidIn_of_rows (rows_counted world.db nofun) user
  have free : (RightsWrite.capsAdd (uidIn world.db.oracle user) cap).Free := free_singleton free
  have runs := RightsWrite.runs free
  unfold mVcdUserCapsAdd
  rw [ends_admitted authentic]
  change ends (ofExcept (params.getStr (cstr "username")) >>= _) _ = _
  rw [userEq, ends_ofExcept]
  change ends (ofExcept (params.getStr (cstr "cap")) >>= _) _ = _
  rw [capEq, ends_ofExcept]
  dsimp only
  rw [valid, if_neg (by simp), ends_lookup (lookup_authGetuid user) (answer_authGetuid _ user), uid,
    if_neg found]
  exact ends_replace runs _ _

theorem again_userCapsAdd {answer : Xml} (secretFree : SecretFree credentials)
    (free : ∀ cap, params.getStr (cstr "cap") = .ok cap → QuoteFree cap)
    (ended : ends (mVcdUserCapsAdd host (.client credentials params)) world =
      (.returned answer, next)) :
    SucceedsAgain (mVcdUserCapsAdd host (.client credentials params)) next := by
  have whole := ended
  obtain ⟨⟨sender, authentic⟩, ended⟩ := returned_plain ended
  obtain ⟨user, userEq, ended⟩ := returned_ofExcept ended
  obtain ⟨cap, capEq, ended⟩ := returned_ofExcept ended
  obtain ⟨valid, ended⟩ := returned_check ended
  rw [Bool.not_eq_true', Bool.not_eq_false] at valid
  rw [ends_lookup (lookup_authGetuid user) (answer_authGetuid _ user)] at ended
  obtain ⟨found, -⟩ := returned_check ended
  dsimp only at found
  rw [uidIn_of_rows (rows_counted world.db nofun)] at found
  rw [ends_mVcdUserCapsAdd authentic userEq capEq valid (free cap capEq) found] at whole
  have db := congrArg World.db (Prod.mk.inj whole).2
  have users : (counted next.db).rows Table.user = (counted world.db).rows Table.user := by
    rw [rows_counted next.db (by decide : Table.user ≠ .vcd), ← db]
    exact (counted world.db).rows_replace_other (by decide : Table.user ≠ .userCaps) _
  have uid : uidIn next.db.oracle user = uidIn world.db.oracle user := by
    rw [← uidIn_of_rows (rows_counted next.db (by decide : Table.user ≠ .vcd)),
      uidIn_of_rows users, uidIn_of_rows (rows_counted world.db nofun)]
  have self : vxdbSchema.conflict Table.userCaps [.int (uidIn world.db.oracle user), .str cap]
      [.int (uidIn world.db.oracle user), .str cap] = true :=
    Setting.conflict_self rfl (by simp)
  have kept := rows_replace_twice self db.symm (sameRows_counts counts_sqlRequests next.db) nofun
  refine ⟨.nil, _, ends_mVcdUserCapsAdd (authentication_mono secretFree users ?_ authentic) userEq
    capEq valid (free cap capEq) (uid ▸ found), ?_⟩
  · intro uid cap granted
    rw [granted_of_rows (rows_counted (World.release 0 next).db nofun)]
    change Granted next.db uid cap
    rw [← db]
    exact granted_replace granted
  · change SameRows next.db ((counted next.db).replace Table.userCaps [.int (uidIn next.db.oracle user), .str cap])
    rw [uid]
    exact kept

/-- The row that makes a user the owner of a virtual server. -/
def ownerRow (db : Vxdb) (name user : Str) : Row :=
  [.int (int32 (xidIn db.oracle name)), .int (uidIn db.oracle user)]

/-- What `vxdb.owner.add` does for a known user and a known virtual server. -/
theorem ends_mVxdbOwnerAdd {user name : Str}
    (authentic : authenticationIn (counted world.db).oracle host credentials capAuth = .ok sender)
    (nameEq : params.getStr (cstr "name") = .ok name)
    (userEq : params.getStr (cstr "username") = .ok user)
    (found : uidIn world.db.oracle user ≠ 0) (named : xidIn world.db.oracle name ≠ 0) :
    ends (mVxdbOwnerAdd host (.client credentials params)) world = (.returned .nil,
      { world with
        db := (counted world.db).replace Table.xidUidMap (ownerRow world.db name user) }) := by
  have uid : uidIn (counted world.db).oracle user = uidIn world.db.oracle user :=
    uidIn_of_rows (rows_counted world.db nofun) user
  have xid : xidIn (counted world.db).oracle name = xidIn world.db.oracle name :=
    xidIn_counted name world.db
  have free : (RightsWrite.ownerAdd (xidIn world.db.oracle name) (uidIn world.db.oracle user)).Free :=
    nofun
  have runs := RightsWrite.runs free
  unfold mVxdbOwnerAdd
  rw [ends_admitted authentic]
  change ends (ofExcept (params.getStr (cstr "name")) >>= _) _ = _
  rw [nameEq, ends_ofExcept]
  change ends (ofExcept (params.getStr (cstr "username")) >>= _) _ = _
  rw [userEq, ends_ofExcept]
  dsimp only
  rw [ends_lookup (lookup_authGetuid user) (answer_authGetuid _ user), uid, if_neg found,
    ends_lookup (lookup_vxdbGetxid name) (answer_vxdbGetxid _ name), xid, if_neg named]
  exact ends_replace runs _ _

theorem again_ownerAdd {answer : Xml} (secretFree : SecretFree credentials)
    (ended : ends (mVxdbOwnerAdd host (.client credentials params)) world =
      (.returned answer, next)) :
    SucceedsAgain (mVxdbOwnerAdd host (.client credentials params)) next := by
  have whole := ended
  obtain ⟨⟨sender, authentic⟩, ended⟩ := returned_plain ended
  obtain ⟨name, nameEq, ended⟩ := returned_ofExcept ended
  obtain ⟨user, userEq, ended⟩ := returned_ofExcept ended
  rw [ends_lookup (lookup_authGetuid user) (answer_authGetuid _ user)] at ended
  obtain ⟨found, ended⟩ := returned_check ended
  rw [ends_lookup (lookup_vxdbGetxid name) (answer_vxdbGetxid _ name)] at ended
  obtain ⟨named, -⟩ := returned_check ended
  dsimp only at found named
  rw [uidIn_of_rows (rows_counted world.db nofun)] at found
  rw [xidIn_counted] at named
  rw [ends_mVxdbOwnerAdd authentic nameEq userEq found named] at whole
  have db := congrArg World.db (Prod.mk.inj whole).2
  have others (table : Table) (counter : table ≠ .vcd) (apart : table ≠ .xidUidMap) :
      (counted next.db).rows table = (counted world.db).rows table := by
    rw [rows_counted next.db counter, ← db]
    exact (counted world.db).rows_replace_other apart _
  have uid : uidIn next.db.oracle user = uidIn world.db.oracle user := by
    rw [← uidIn_of_rows (rows_counted next.db (by decide : Table.user ≠ .vcd)),
      uidIn_of_rows (others .user nofun nofun), uidIn_of_rows (rows_counted world.db nofun)]
  have xid : xidIn next.db.oracle name = xidIn world.db.oracle name := by
    rw [← xidIn_counted, xidIn_of_rows (others .xidNameMap nofun nofun), xidIn_counted]
  have self : vxdbSchema.conflict Table.xidUidMap (ownerRow world.db name user)
      (ownerRow world.db name user) = true :=
    Setting.conflict_self rfl (by simp [ownerRow])
  have kept := rows_replace_twice self db.symm (sameRows_counts counts_sqlRequests next.db) nofun
  refine ⟨.nil, _, ends_mVxdbOwnerAdd (authentication_mono secretFree (others .user nofun nofun)
    (fun uid cap held => ?_) authentic) nameEq userEq (uid ▸ found) (xid ▸ named), ?_⟩
  · exact (granted_of_rows (others .userCaps nofun nofun) uid cap).mpr held
  · change SameRows next.db ((counted next.db).replace Table.xidUidMap (ownerRow next.db name user))
    rw [ownerRow, uid, xid]
    exact kept

/-! ## Groups -/

theorem gidIn_of_mem {group : Str} (valid : validateGroup group = true) {row : Row}
    (mem : row ∈ db.rows Table.groups) (known : Table.groups.cell row (cstr "name") = .str group) :
    gidIn db.oracle group = vxdbColumnInt [Table.groups.cell row (cstr "gid")] 0 := by
  rw [gidIn, valid, firstRow_sqlGetgid (quoteFree_of_validateGroup valid),
    find_text (by decide) mem known]
  rfl

/-- A group that is found has a row. -/
theorem mem_of_gidIn {group : Str} (valid : validateGroup group = true)
    (found : gidIn db.oracle group ≠ 0) :
    ∃ row ∈ db.rows Table.groups, Table.groups.cell row (cstr "name") = .str group := by
  rw [gidIn, valid, firstRow_sqlGetgid (quoteFree_of_validateGroup valid)] at found
  cases known : (db.rows Table.groups).find? fun row =>
      (Table.groups.cell row (cstr "name")).same (.str group) with
  | none =>
      rw [known] at found
      exact absurd rfl found
  | some row =>
      have named := List.find?_some known
      exact ⟨row, List.mem_of_find?_eq_some known, (Value.same_str_right _ _).mp named⟩

/-- What `vg.add` does when it knows the group. -/
def addMember (name : Str) (gid : Int) : Method Xml := do
  if !strIsempty name then
    let xid ← validateMember name
    let outcome ← vxdbExec (sqlMemberInsert xid gid)
    if !outcome.ok then vxdbFault (cstr "m_vg_add")
  return .nil

theorem ends_addMember_blank {name : Str} (blank : strIsempty name = true) (gid : Int)
    (world : World) : ends (addMember name gid) world = (.returned .nil, world) := by
  unfold addMember
  rw [blank]
  rfl

/-- The row of a member. -/
def memberRow (db : Vxdb) (name : Str) (gid : Int) : Row :=
  [.int (int32 (xidIn db.oracle name)), .int gid]

/-- A member is added only if it was none. -/
theorem returned_addMember {name : Str} (given : strIsempty name = false) {gid : Int} {answer : Xml}
    (ended : ends (addMember name gid) world = (.returned answer, next)) :
    world.db.insert Table.xidGidMap (memberRow world.db name gid) = some next.db := by
  have runs : Runs (render (sqlMemberInsert (xidIn world.db.oracle name) gid))
      [(.insert Table.xidGidMap (memberRow world.db name gid) : Change)] :=
    @RightsWrite.runs (.memberInsert (xidIn world.db.oracle name) gid) nofun
  have inserted := ends_insert runs (cstr "m_vg_add") (fun _ => pure Xml.nil) world
  unfold addMember at ended
  rw [given] at ended
  change ends (validateMember name >>= _) world = _ at ended
  rw [ends_validateMember] at ended
  split at ended
  next => cases ended
  split at ended
  next => cases ended
  replace ended := inserted.symm.trans ended
  split at ended
  next after known =>
    obtain rfl := returned_pure ended
    exact known
  next => cases ended

/-- What is left of `vg.add` once the request is admitted and read. -/
theorem ends_mVgAdd {group name : Str}
    (authentic : authenticationIn (counted world.db).oracle host credentials capAuth = .ok sender)
    (groupEq : params.getStr (cstr "group") = .ok group)
    (nameEq : params.getStr (cstr "name") = .ok name) (valid : validateGroup group = true) :
    ends (mVgAdd host (.client credentials params)) world =
      if group = cstr "all" then (.returned .nil, { world with db := counted world.db })
      else ends (vgAddGroup group >>= addMember name) { world with db := counted world.db } := by
  unfold mVgAdd
  rw [ends_admitted authentic, groupEq, ends_ofExcept]
  change ends (ofExcept (params.getStr (cstr "name")) >>= _) _ = _
  rw [nameEq, ends_ofExcept]
  dsimp only
  rw [valid, if_neg (by simp)]
  by_cases reserved : group = cstr "all"
  · rw [if_pos reserved, if_pos reserved]
    rfl
  · rw [if_neg reserved, if_neg reserved]
    rfl

/-- The id `vg.add` uses for the group. -/
def groupId (db : Vxdb) (group : Str) : Int :=
  if gidIn db.oracle group ≠ 0 then gidIn db.oracle group else nextIdIn db.oracle sqlLastGid

/-- `vg.add` goes on with the id of the group, which is known from then on. -/
theorem returned_vgAddGroup {group : Str} (valid : validateGroup group = true)
    {rest : Int → Method Xml} {answer : Xml}
    (ended : ends (vgAddGroup group >>= rest) world = (.returned answer, next)) :
    ∃ middle, ends (rest (groupId world.db group)) middle = (.returned answer, next) ∧
      (∀ table, table ≠ .groups → middle.db.rows table = world.db.rows table) ∧
      (∃ row ∈ middle.db.rows Table.groups, Table.groups.cell row (cstr "name") = .str group) ∧
      gidIn middle.db.oracle group = groupId world.db group := by
  rw [ends_vgAddGroup valid] at ended
  unfold groupId
  split at ended
  next known =>
    rw [if_pos known]
    exact ⟨world, ended, fun _ _ => rfl, mem_of_gidIn valid known, rfl⟩
  next unknown =>
    rw [if_neg unknown]
    split at ended
    next after inserted =>
      have rows := Database.rows_insert_same inserted
      have mem : [.int (nextIdIn world.db.oracle sqlLastGid), .str group] ∈
          after.rows Table.groups := by
        rw [rows]
        exact List.mem_append_right _ List.mem_cons_self
      refine ⟨_, ended, fun table other => ?_, ⟨_, mem, rfl⟩, ?_⟩
      · obtain ⟨rfl, -⟩ := Database.insert_eq_some inserted
        exact Database.rows_replace_other _ other _
      · rw [gidIn_of_mem valid mem rfl]
        exact int32_nextIdIn world.db.oracle sqlLastGid
    next => cases ended

/-- A group whose id is not zero is found again; no group is created twice. -/
theorem ends_vgAddGroup_known {group : Str} (valid : validateGroup group = true)
    {row : Row} (mem : row ∈ world.db.rows Table.groups)
    (named : Table.groups.cell row (cstr "name") = .str group) (rest : Int → Method Xml) :
    ends (vgAddGroup group >>= rest) world =
      if gidIn world.db.oracle group ≠ 0 then ends (rest (gidIn world.db.oracle group)) world
      else (.failed (.vxdb (cstr "m_vg_add")), world) := by
  rw [ends_vgAddGroup valid]
  refine if_congr Iff.rfl rfl ?_
  cases inserted : world.db.insert Table.groups
      [.int (nextIdIn world.db.oracle sqlLastGid), .str group] with
  | none => rfl
  | some after =>
      obtain ⟨-, apart⟩ := Database.insert_eq_some inserted
      refine absurd (vxdbSchema.conflict_iff.mpr ⟨[cstr "name"], by decide, ?_⟩)
        (Bool.eq_false_iff.mp (apart row mem))
      intro column listed
      obtain rfl := List.mem_singleton.mp listed
      change (Table.groups.cell row (cstr "name")).same (.str group) = true
      rw [named]
      exact (Value.same_str_right _ _).mpr rfl

/-- The group is `all`, or no member is added to it and its id is not zero. -/
def GroupRetries (params : Xml) (db : Vxdb) : Prop :=
  ∀ group name, params.getStr (cstr "group") = .ok group → params.getStr (cstr "name") = .ok name →
    group ≠ cstr "all" → strIsempty name = true ∧ groupId db group ≠ 0

/-- A member is not added twice. -/
theorem not_returned_addMember {name : Str} (given : strIsempty name = false) {gid : Int}
    (present : memberRow world.db name gid ∈ world.db.rows Table.xidGidMap) (answer : Xml) :
    ends (addMember name gid) world ≠ (.returned answer, next) := by
  intro ended
  obtain ⟨-, apart⟩ := Database.insert_eq_some (returned_addMember given ended)
  have self : vxdbSchema.conflict Table.xidGidMap (memberRow world.db name gid)
      (memberRow world.db name gid) = true :=
    Setting.conflict_self rfl (by simp [memberRow])
  exact Bool.eq_false_iff.mp (apart _ present) self

theorem again_vgAdd_iff {answer : Xml} (secretFree : SecretFree credentials)
    (ended : ends (mVgAdd host (.client credentials params)) world = (.returned answer, next)) :
    SucceedsAgain (mVgAdd host (.client credentials params)) next ↔
      GroupRetries params world.db := by
  have whole := ended
  obtain ⟨⟨sender, authentic⟩, ended⟩ := returned_plain ended
  obtain ⟨group, groupEq, ended⟩ := returned_ofExcept ended
  obtain ⟨name, nameEq, ended⟩ := returned_ofExcept ended
  obtain ⟨valid, -⟩ := returned_check ended
  rw [Bool.not_eq_true', Bool.not_eq_false] at valid
  rw [ends_mVgAdd authentic groupEq nameEq valid] at whole
  have retries : GroupRetries params world.db ↔
      (group ≠ cstr "all" → strIsempty name = true ∧ groupId world.db group ≠ 0) := by
    constructor
    · intro all
      exact all group name groupEq nameEq
    · intro own other otherName otherEq otherNameEq
      cases groupEq.symm.trans otherEq
      cases nameEq.symm.trans otherNameEq
      exact own
  rw [retries]
  by_cases reserved : group = cstr "all"
  · rw [if_pos reserved] at whole
    refine iff_of_true ?_ fun other => absurd reserved other
    have db := congrArg World.db (Prod.mk.inj whole).2
    have kept := sameRows_counts counts_sqlRequests next.db
    refine ⟨.nil, _, (ends_mVgAdd (authentication_mono secretFree ?_ ?_ authentic) groupEq nameEq
      valid).trans (if_pos reserved), kept⟩
    · exact (kept .user nofun).trans (by rw [← db])
    · intro uid cap held
      exact (granted_of_rows ((kept .userCaps nofun).trans (by rw [← db])) uid cap).mpr held
  · rw [if_neg reserved] at whole
    rw [imp_iff_right reserved]
    obtain ⟨middle, added, others, ⟨row, mem, named⟩, known⟩ := returned_vgAddGroup valid whole
    have chosen : groupId (counted world.db) group = groupId world.db group := by
      unfold groupId
      rw [gidIn_of_rows (rows_counted world.db nofun), nextgid_of_rows (rows_counted world.db nofun)]
    rw [chosen] at added known
    -- Only the rows of members can have changed after the group was known.
    have later (table : Table) (apart : table ≠ .xidGidMap) :
        next.db.rows table = middle.db.rows table := by
      cases blank : strIsempty name with
      | true =>
          rw [ends_addMember_blank blank] at added
          rw [(Prod.mk.inj added).2]
      | false =>
          obtain ⟨last, -⟩ := Database.insert_eq_some (returned_addMember blank added)
          rw [last]
          exact middle.db.rows_replace_other apart _
    have same (table : Table) (counter : table ≠ .vcd) (group : table ≠ .groups)
        (member : table ≠ .xidGidMap) : (counted next.db).rows table = (counted world.db).rows table :=
      (rows_counted next.db counter).trans ((later table member).trans (others table group))
    have gid : gidIn (counted next.db).oracle group = groupId world.db group := by
      rw [gidIn_of_rows (rows_counted next.db nofun), gidIn_of_rows (later .groups nofun), known]
    have present : row ∈ (counted next.db).rows Table.groups := by
      rw [rows_counted next.db (by decide : Table.groups ≠ .vcd), later .groups nofun]
      exact mem
    have second : ends (mVgAdd host (.client credentials params)) (World.release 0 next) =
        if groupId world.db group ≠ 0 then ends (addMember name (groupId world.db group))
          { World.release 0 next with db := counted next.db }
        else (.failed (.vxdb (cstr "m_vg_add")),
          { World.release 0 next with db := counted next.db }) := by
      have admitted : authenticationIn (counted (World.release 0 next).db).oracle host credentials
          capAuth = .ok sender :=
        authentication_mono secretFree (same .user nofun nofun nofun) (fun uid cap held =>
          (granted_of_rows (same .userCaps nofun nofun nofun) uid cap).mpr held) authentic
      rw [ends_mVgAdd admitted groupEq nameEq valid, if_neg reserved, ← gid]
      exact ends_vgAddGroup_known valid present named (addMember name)
    unfold SucceedsAgain
    rw [second]
    constructor
    · rintro ⟨reply, last, ended, -⟩
      split at ended
      next nonzero =>
        refine ⟨?_, nonzero⟩
        cases blank : strIsempty name with
        | true => rfl
        | false =>
            have inserted := returned_addMember blank added
            refine absurd ended (not_returned_addMember blank ?_ reply)
            have xid : xidIn (counted next.db).oracle name = xidIn middle.db.oracle name := by
              rw [xidIn_counted, xidIn_of_rows (later .xidNameMap nofun)]
            change memberRow (counted next.db) name (groupId world.db group) ∈
              (counted next.db).rows Table.xidGidMap
            rw [memberRow, xid, rows_counted next.db (by decide : Table.xidGidMap ≠ .vcd),
              Database.rows_insert_same inserted]
            exact List.mem_append_right _ List.mem_cons_self
      next => cases ended
    · rintro ⟨blank, nonzero⟩
      rw [if_pos nonzero, ends_addMember_blank blank]
      exact ⟨.nil, _, rfl, sameRows_counts counts_sqlRequests next.db⟩

/-! ## Users -/

/-- What `vcd.user.set` makes of a row if the user has the id. -/
def userRow (uid admin : Int) (hash : Option Str) (row : Row) : Row :=
  if byId (cstr "uid") uid .user row then
    match hash with
    | some hash => withPassword (withAdmin row admin) hash
    | none => withAdmin row admin
  else row

theorem byId_userRow (uid admin : Int) (hash : Option Str) (row : Row) :
    byId (cstr "uid") uid .user (userRow uid admin hash row) = byId (cstr "uid") uid .user row := by
  unfold userRow
  split
  · cases hash <;> rfl
  · rfl

theorem userRow_userRow (uid admin : Int) (hash : Option Str) (row : Row) :
    userRow uid admin hash (userRow uid admin hash row) = userRow uid admin hash row := by
  cases chosen : byId (cstr "uid") uid .user row with
  | false => simp [userRow, chosen]
  | true =>
      have again := (byId_userRow uid admin hash row).trans chosen
      rw [userRow.eq_def uid admin hash (userRow uid admin hash row), again, if_pos rfl,
        userRow.eq_def, chosen, if_pos rfl]
      cases hash <;> rfl

/-- The name and the id of a row stay. -/
theorem cell_userRow {column : Str} (key : column = cstr "name" ∨ column = cstr "uid")
    (uid admin : Int) (hash : Option Str) (row : Row) :
    Table.user.cell (userRow uid admin hash row) column = Table.user.cell row column := by
  unfold userRow
  split
  · rcases key with rfl | rfl <;> cases hash <;> rfl
  · rfl

/-- What setting the password does. -/
theorem rows_setPassword {hash : Str} (free : QuoteFree hash) (uid : Int) (db : Vxdb) (table : Table) :
    (execText db (render (sqlUserPassword uid hash))).1.rows table =
      if table = .user then (db.rows Table.user).map fun row =>
        if byId (cstr "uid") uid .user row then withPassword row hash else row
      else db.rows table := by
  obtain ⟨last, updated⟩ := update_user_succeeds db (byId (cstr "uid") uid .user) (.str hash)
    (.inr rfl)
  have runs := (@RightsWrite.runs (.userPassword uid hash) (free_singleton free) db).1
  have applied : applyAll db (RightsWrite.userPassword uid hash).changes = some last :=
    applyAll_singleton.trans updated
  change (execText db (render (sqlUserPassword uid hash))).1 = _ at runs
  rw [runs, applied]
  split
  next same =>
    subst same
    exact Database.rows_update_same updated
  next other => exact Database.rows_update_other updated other

section

variable {user pass : Str} {admin : Bool}

/-- The new hash, if there is a new password. -/
def newHash (host : Host) (pass : Str) : Option Str :=
  (methodEmptyParam pass).map (whirlpoolPass host)

/-- What `vcd.user.set` does with a known user. -/
theorem ends_mVcdUserSet_known
    (authentic : authenticationIn (counted world.db).oracle host credentials capAuth = .ok sender)
    (userEq : params.getStr (cstr "username") = .ok user)
    (passEq : params.getStr (cstr "password") = .ok pass)
    (adminEq : params.getBool (cstr "admin") = .ok admin) (valid : validateUsername user = true)
    (free : QuoteFree pass) (accepted : strIsempty pass = false → validatePassword pass = true)
    (found : uidIn world.db.oracle user ≠ 0) :
    ∃ last, ends (mVcdUserSet host (.client credentials params)) world = (.returned .nil, last) ∧
      last.db.rows Table.user = (world.db.rows Table.user).map
        (userRow (uidIn world.db.oracle user) admin.toInt (newHash host pass)) ∧
      ∀ table, table ≠ .user → table ≠ .vcd → last.db.rows table = world.db.rows table := by
  have uid : uidIn (counted world.db).oracle user = uidIn world.db.oracle user :=
    uidIn_of_rows (rows_counted world.db nofun) user
  obtain ⟨ok, rows⟩ := execText_sqlUserAdmin (counted world.db) (uidIn world.db.oracle user)
    admin.toInt
  have started : ends (mVcdUserSet host (.client credentials params)) world = ends (do
      match methodEmptyParam pass with
      | some pass =>
          if !validatePassword pass then
            faultf .inval [.chars (cstr "invalid password value")]
          let outcome ← vxdbExec (sqlUserPassword (uidIn world.db.oracle user) (whirlpoolPass host pass))
          if !outcome.ok then vxdbFault (cstr "m_vcd_user_set")
      | none => pure ()
      return Xml.nil) { world with db := (execText (counted world.db)
        (render (sqlUserAdmin (uidIn world.db.oracle user) admin.toInt))).1 } := by
    unfold mVcdUserSet
    rw [ends_admitted authentic, userEq, ends_ofExcept]
    change ends (ofExcept (params.getStr (cstr "password")) >>= _) _ = _
    rw [passEq, ends_ofExcept]
    change ends (ofExcept (params.getBool (cstr "admin")) >>= _) _ = _
    rw [adminEq, ends_ofExcept]
    dsimp only
    rw [valid, if_neg (by simp), ends_lookup (lookup_authGetuid user) (answer_authGetuid _ user),
      uid, if_neg found, ends_exec, ok]
    rfl
  rw [started]
  unfold newHash
  generalize (execText (counted world.db)
    (render (sqlUserAdmin (uidIn world.db.oracle user) admin.toInt))).1 = flagged at rows ⊢
  cases given : strIsempty pass with
  | true =>
      have none : methodEmptyParam pass = none := by simp [methodEmptyParam, given]
      rw [none]
      refine ⟨{ world with db := flagged }, rfl, ?_, fun table users counter => ?_⟩
      · rw [rows, if_pos rfl, rows_counted world.db (by decide : Table.user ≠ .vcd)]
        rfl
      · rw [rows, if_neg users, rows_counted world.db counter]
  | false =>
      have some : methodEmptyParam pass = some pass := by simp [methodEmptyParam, given]
      have hashFree := quoteFree_hash host free
      rw [some]
      dsimp only
      rw [accepted given, if_neg (by simp), ends_exec, execText_sqlUserPassword _ _ hashFree]
      refine ⟨{ world with db := (execText flagged (render (sqlUserPassword
        (uidIn world.db.oracle user) (whirlpoolPass host pass)))).1 }, rfl, ?_,
        fun table users counter => ?_⟩
      · rw [rows_setPassword hashFree, if_pos rfl, rows, if_pos rfl,
          rows_counted world.db (by decide : Table.user ≠ .vcd), List.map_map]
        refine List.map_congr_left fun row _ => ?_
        rw [Function.comp_apply, userRow.eq_def]
        cases chosen : byId (cstr "uid") (uidIn world.db.oracle user) .user row with
        | false => simp [chosen]
        | true =>
            have again : byId (cstr "uid") (uidIn world.db.oracle user) .user
              (withAdmin row admin.toInt) = true := chosen
            rw [if_pos rfl, if_pos again]
            rfl
      · rw [rows_setPassword hashFree, if_neg users, rows, if_neg users,
          rows_counted world.db counter]

/-- What a request that returns has read, and what it has inserted for an unknown user. -/
theorem returned_mVcdUserSet {answer : Xml}
    (free : ∀ pass, params.getStr (cstr "password") = .ok pass → QuoteFree pass)
    (ended : ends (mVcdUserSet host (.client credentials params)) world = (.returned answer, next)) :
    ∃ sender user pass admin,
      authenticationIn (counted world.db).oracle host credentials capAuth = .ok sender ∧
        params.getStr (cstr "username") = .ok user ∧ params.getStr (cstr "password") = .ok pass ∧
        params.getBool (cstr "admin") = .ok admin ∧ validateUsername user = true ∧
        QuoteFree pass ∧ (strIsempty pass = false → validatePassword pass = true) ∧
        (uidIn world.db.oracle user = 0 → strIsempty pass = false ∧
          (counted world.db).insert Table.user [.int (nextIdIn (counted world.db).oracle sqlNextuid),
            .str user, .str (whirlpoolPass host pass), .int admin.toInt] = some next.db) := by
  obtain ⟨⟨sender, authentic⟩, ended⟩ := returned_plain ended
  obtain ⟨user, userEq, ended⟩ := returned_ofExcept ended
  obtain ⟨pass, passEq, ended⟩ := returned_ofExcept ended
  obtain ⟨admin, adminEq, ended⟩ := returned_ofExcept ended
  obtain ⟨valid, ended⟩ := returned_check ended
  rw [Bool.not_eq_true', Bool.not_eq_false] at valid
  have passFree := free pass passEq
  refine ⟨sender, user, pass, admin, authentic, userEq, passEq, adminEq, valid, passFree, ?_⟩
  rw [ends_lookup (lookup_authGetuid user) (answer_authGetuid _ user)] at ended
  dsimp only at ended
  rw [uidIn_of_rows (rows_counted world.db nofun)] at ended
  by_cases found : uidIn world.db.oracle user = 0
  · rw [if_pos found] at ended
    obtain ⟨accepted, ended⟩ := returned_check ended
    rw [Bool.not_eq_true', Bool.not_eq_false] at accepted
    cases given : strIsempty pass with
    | true => simp [validateNewPassword, methodEmptyParam, given] at accepted
    | false =>
        have some : methodEmptyParam pass = some pass := by simp [methodEmptyParam, given]
        rw [some] at ended accepted
        rw [ends_lookup lookup_authGetnextuid (answer_authGetnextuid _), Option.getD_some] at ended
        have runs := @RightsWrite.runs (.userInsert (nextIdIn (counted world.db).oracle sqlNextuid)
          user (whirlpoolPass host pass) admin.toInt) (by
            intro text mem
            rcases List.mem_cons.mp mem with rfl | mem
            · exact quoteFree_of_validateUsername valid
            · exact List.mem_singleton.mp mem ▸ quoteFree_hash host passFree)
        have inserted := ends_insert runs (cstr "m_vcd_user_set") (fun _ => pure Xml.nil)
          { world with db := counted world.db }
        replace ended := inserted.symm.trans ended
        refine ⟨fun _ => accepted, fun _ => ⟨rfl, ?_⟩⟩
        split at ended
        next after known =>
          obtain rfl := returned_pure ended
          exact known
        next => cases ended
  · rw [if_neg found, ends_exec] at ended
    obtain ⟨-, ended⟩ := returned_check ended
    refine ⟨fun given => ?_, fun unknown => absurd unknown found⟩
    have some : methodEmptyParam pass = some pass := by simp [methodEmptyParam, given]
    rw [some] at ended
    obtain ⟨accepted, -⟩ := returned_check ended
    rwa [Bool.not_eq_true', Bool.not_eq_false] at accepted

/-- The id of the next user depends on the users only. -/
theorem nextuid_of_rows (same : two.rows Table.user = one.rows Table.user) :
    nextIdIn two.oracle sqlNextuid = nextIdIn one.oracle sqlNextuid := by
  have query (db : Vxdb) : prepareText db (render sqlNextuid) = _ :=
    prepareText_query (by simp [sqlNextuid, Piece.Free]) (by rfl) db
  unfold nextIdIn Vxdb.oracle
  rw [query, query, run_of_rows (by rfl) (by rfl) (by rfl) same]

/-- The caller finds its own row again, with the same id, in rows that keep names and ids. -/
theorem uidIn_of_kept {keep : Row → Row} (valid : validateUsername user = true) {row : Row}
    (mem : row ∈ one.rows Table.user) (named : Table.user.cell row (cstr "name") = .str user)
    (kept : keep row ∈ two.rows Table.user)
    (same : ∀ column, column = cstr "name" ∨ column = cstr "uid" →
      Table.user.cell (keep row) column = Table.user.cell row column) :
    uidIn two.oracle user = uidIn one.oracle user := by
  rw [uidIn_of_mem valid mem named,
    uidIn_of_mem valid kept ((same (cstr "name") (.inl rfl)).trans named), same _ (.inr rfl)]

/-- The user gets an id that is not zero; a user that exists is another one than the caller, or
keeps the caller's password. -/
def UserRetries (host : Host) (credentials params : Xml) (db : Vxdb) : Prop :=
  ∀ user pass caller secret, params.getStr (cstr "username") = .ok user →
    params.getStr (cstr "password") = .ok pass →
      credentials.getStr (cstr "username") = .ok caller →
        credentials.getStr (cstr "password") = .ok secret →
          if uidIn db.oracle user = 0 then nextIdIn db.oracle sqlNextuid ≠ 0
          else strIsempty pass = false →
            (∃ row ∈ db.rows Table.user, Table.user.cell row (cstr "name") = .str caller ∧
              byId (cstr "uid") (uidIn db.oracle user) .user row = true) →
              whirlpoolPass host pass = whirlpoolPass host secret

theorem again_newUser_iff {number : Int} (secretFree : SecretFree credentials)
    (free : ∀ pass, params.getStr (cstr "password") = .ok pass → QuoteFree pass)
    (authentic : authenticationIn (counted world.db).oracle host credentials capAuth = .ok sender)
    (userEq : params.getStr (cstr "username") = .ok user)
    (passEq : params.getStr (cstr "password") = .ok pass)
    (adminEq : params.getBool (cstr "admin") = .ok admin) (valid : validateUsername user = true)
    (given : strIsempty pass = false) (accepted : validatePassword pass = true)
    (small : int32 number = number) (inserted : (counted world.db).insert Table.user [.int number, .str user,
      .str (whirlpoolPass host pass), .int admin.toInt] = some next.db) :
    SucceedsAgain (mVcdUserSet host (.client credentials params)) next ↔ number ≠ 0 := by
  have rows := Database.rows_insert_same inserted
  obtain ⟨replaced, apart⟩ := Database.insert_eq_some inserted
  have own : [.int number, .str user, .str (whirlpoolPass host pass), .int admin.toInt] ∈
      next.db.rows Table.user := by
    rw [rows]
    exact List.mem_append_right _ List.mem_cons_self
  have uid : uidIn next.db.oracle user = number := by
    rw [uidIn_of_mem valid own rfl]
    exact small
  constructor
  · rintro ⟨answer, last, ended, -⟩ zero
    obtain ⟨-, other, otherPass, otherAdmin, -, otherEq, -, -, -, -, -, created⟩ :=
      returned_mVcdUserSet free ended
    cases userEq.symm.trans otherEq
    obtain ⟨-, again⟩ := created (uid.trans zero)
    obtain ⟨-, apart⟩ := Database.insert_eq_some again
    rw [rows_counted (World.release 0 next).db (by decide : Table.user ≠ .vcd)] at apart
    refine absurd (vxdbSchema.conflict_iff.mpr ⟨[cstr "name"], by decide, ?_⟩)
      (Bool.eq_false_iff.mp (apart _ own))
    intro column listed
    obtain rfl := List.mem_singleton.mp listed
    exact (Value.same_str_right _ _).mpr rfl
  · intro nonzero
    have others (table : Table) (counter : table ≠ .vcd) (users : table ≠ .user) :
        (counted next.db).rows table = (counted world.db).rows table := by
      rw [rows_counted next.db counter, replaced]
      exact (counted world.db).rows_replace_other users _
    have admitted : authenticationIn (counted (World.release 0 next).db).oracle host credentials
        capAuth = .ok sender := by
      rw [authenticationIn_iff secretFree] at authentic ⊢
      obtain ⟨secret, callerEq, secretEq, ⟨callerValid, filled, row, mem, named, stored⟩, capable⟩ :=
        authentic
      have kept : row ∈ (counted next.db).rows Table.user := by
        rw [rows_counted next.db (by decide : Table.user ≠ .vcd), rows]
        exact List.mem_append_left _ mem
      refine ⟨secret, callerEq, secretEq, ⟨callerValid, filled, row, kept, named, stored⟩,
        capableIn_mono (@uidIn_of_kept _ _ _ id callerValid row mem named kept fun _ _ => rfl)
          (fun uid cap held => ?_) capable⟩
      exact (granted_of_rows (others .userCaps nofun nofun) uid cap).mpr held
    obtain ⟨last, ended, users, same⟩ := @ends_mVcdUserSet_known host (World.release 0 next)
      credentials params sender user pass admin admitted userEq passEq adminEq valid
      (free pass passEq) (fun _ => accepted) (uid.symm ▸ nonzero)
    refine ⟨.nil, last, ended, fun table counter => ?_⟩
    by_cases isUser : table = .user
    · subst isUser
      rw [users]
      change (next.db.rows Table.user).map
        (userRow (uidIn next.db.oracle user) admin.toInt (newHash host pass)) = _
      rw [uid]
      refine (List.map_congr_left fun row mem => ?_).trans (List.map_id _)
      rw [rows] at mem
      rcases List.mem_append.mp mem with old | new
      · have other : byId (cstr "uid") number .user row = false := by
          refine Bool.eq_false_iff.mpr fun chosen => ?_
          refine absurd (vxdbSchema.conflict_iff.mpr ⟨[cstr "uid"], by decide, ?_⟩)
            (Bool.eq_false_iff.mp (apart row old))
          intro column listed
          obtain rfl := List.mem_singleton.mp listed
          exact chosen
        simp [userRow, other]
      · obtain rfl := List.mem_singleton.mp new
        have chosen : byId (cstr "uid") number .user [.int number, .str user,
            .str (whirlpoolPass host pass), .int admin.toInt] = true :=
          (Value.same_int_right _ _).mpr rfl
        rw [userRow.eq_def, chosen, newHash, methodEmptyParam, given]
        rfl
    · exact same table isUser counter

theorem again_knownUser_iff (secretFree : SecretFree credentials)
    (free : ∀ pass, params.getStr (cstr "password") = .ok pass → QuoteFree pass)
    (authentic : authenticationIn (counted world.db).oracle host credentials capAuth = .ok sender)
    (userEq : params.getStr (cstr "username") = .ok user)
    (passEq : params.getStr (cstr "password") = .ok pass)
    (adminEq : params.getBool (cstr "admin") = .ok admin) (valid : validateUsername user = true)
    (accepted : strIsempty pass = false → validatePassword pass = true)
    (found : uidIn world.db.oracle user ≠ 0) {answer : Xml}
    (ended : ends (mVcdUserSet host (.client credentials params)) world = (.returned answer, next)) :
    SucceedsAgain (mVcdUserSet host (.client credentials params)) next ↔
      ∀ secret, credentials.getStr (cstr "password") = .ok secret → strIsempty pass = false →
        (∃ row ∈ world.db.rows Table.user, Table.user.cell row (cstr "name") = .str sender ∧
          byId (cstr "uid") (uidIn world.db.oracle user) .user row = true) →
          whirlpoolPass host pass = whirlpoolPass host secret := by
  obtain ⟨first, whole, rows, others⟩ := ends_mVcdUserSet_known authentic userEq passEq adminEq valid
    (free pass passEq) accepted found
  obtain rfl : first = next := (Prod.mk.inj (whole.symm.trans ended)).2
  have same (column : Str) (key : column = cstr "name" ∨ column = cstr "uid") (row : Row) :=
    cell_userRow key (uidIn world.db.oracle user) admin.toInt (newHash host pass) row
  have kept (row : Row) (mem : row ∈ world.db.rows Table.user) :
      userRow (uidIn world.db.oracle user) admin.toInt (newHash host pass) row ∈
        first.db.rows Table.user := by
    rw [rows]
    exact List.mem_map_of_mem mem
  obtain ⟨-, own, ownMem, ownName⟩ := mem_of_uidIn found
  have uid : uidIn first.db.oracle user = uidIn world.db.oracle user :=
    uidIn_of_kept valid ownMem ownName (kept own ownMem) fun column key => same column key own
  constructor
  · rintro ⟨reply, last, again, -⟩ secret secretEq given ⟨row, mem, named, chosen⟩
    obtain ⟨⟨caller, admitted⟩, -⟩ := returned_plain again
    obtain ⟨other, callerEq, otherEq, ⟨-, -, stored, storedMem, storedName, storedPass⟩, -⟩ :=
      (authenticationIn_iff secretFree).mp admitted
    obtain ⟨_, senderEq, -⟩ := (authenticationIn_iff secretFree).mp authentic
    cases senderEq.symm.trans callerEq
    cases secretEq.symm.trans otherEq
    rw [rows_counted (World.release 0 first).db (by decide : Table.user ≠ .vcd)] at storedMem
    -- The caller has one row, and it is the one that was changed.
    have changedName := (same (cstr "name") (.inl rfl) row).trans named
    obtain rfl := eq_of_index (by decide : [cstr "name"] ∈ Table.user.unique) storedMem (kept row mem)
      fun column listed => by
        obtain rfl := List.mem_singleton.mp listed
        rw [storedName, changedName]
        exact (Value.same_str_right _ _).mpr rfl
    have some : newHash host pass = some (whirlpoolPass host pass) := by
      simp [newHash, methodEmptyParam, given]
    rw [userRow.eq_def, chosen, some] at storedPass
    exact Value.str.inj storedPass
  · intro keeps
    have admitted : authenticationIn (counted (World.release 0 first).db).oracle host credentials
        capAuth = .ok sender := by
      rw [authenticationIn_iff secretFree] at authentic ⊢
      obtain ⟨secret, callerEq, secretEq, ⟨callerValid, filled, row, mem, named, stored⟩, capable⟩ :=
        authentic
      rw [rows_counted world.db (by decide : Table.user ≠ .vcd)] at mem
      have changed : userRow (uidIn world.db.oracle user) admin.toInt (newHash host pass) row ∈
          (counted first.db).rows Table.user := by
        rw [rows_counted first.db (by decide : Table.user ≠ .vcd)]
        exact kept row mem
      refine ⟨secret, callerEq, secretEq, ⟨callerValid, filled, _, changed,
        (same (cstr "name") (.inl rfl) row).trans named, ?_⟩, ?_⟩
      · cases chosen : byId (cstr "uid") (uidIn world.db.oracle user) .user row with
        | false =>
            rw [userRow.eq_def, chosen]
            exact stored
        | true =>
            rw [userRow.eq_def, chosen]
            cases given : strIsempty pass with
            | true =>
                have none : newHash host pass = none := by simp [newHash, methodEmptyParam, given]
                rw [none]
                exact stored
            | false =>
                have some : newHash host pass = some (whirlpoolPass host pass) := by
                  simp [newHash, methodEmptyParam, given]
                rw [some]
                exact congrArg Value.str (keeps secret secretEq given ⟨row, mem, named, chosen⟩)
      · have users : uidIn (counted first.db).oracle sender = uidIn world.db.oracle sender :=
          uidIn_of_kept callerValid mem named changed fun column key => same column key row
        refine capableIn_mono (users.trans (uidIn_of_rows (rows_counted world.db (by decide)) sender).symm)
          (fun uid cap held => ?_) capable
        have granted : (counted first.db).rows Table.userCaps =
            (counted world.db).rows Table.userCaps := by
          rw [rows_counted first.db (by decide : Table.userCaps ≠ .vcd),
            others .userCaps (by decide) (by decide), rows_counted world.db (by decide : Table.userCaps ≠ .vcd)]
        exact (granted_of_rows granted uid cap).mpr held
    obtain ⟨last, again, twice, rest⟩ := @ends_mVcdUserSet_known host (World.release 0 first)
      credentials params sender user pass admin admitted userEq passEq adminEq valid
      (free pass passEq) accepted (uid.symm ▸ found)
    refine ⟨.nil, last, again, fun table counter => ?_⟩
    by_cases isUser : table = .user
    · subst isUser
      rw [twice]
      change (first.db.rows Table.user).map
        (userRow (uidIn first.db.oracle user) admin.toInt (newHash host pass)) = _
      rw [uid, rows, List.map_map]
      exact List.map_congr_left fun row _ => userRow_userRow _ _ _ row
    · exact rest table isUser counter

theorem again_userSet_iff (secretFree : SecretFree credentials)
    (free : ∀ pass, params.getStr (cstr "password") = .ok pass → QuoteFree pass) {answer : Xml}
    (ended : ends (mVcdUserSet host (.client credentials params)) world = (.returned answer, next)) :
    SucceedsAgain (mVcdUserSet host (.client credentials params)) next ↔
      UserRetries host credentials params world.db := by
  obtain ⟨sender, user, pass, admin, authentic, userEq, passEq, adminEq, valid, -, accepted,
    created⟩ := returned_mVcdUserSet free ended
  obtain ⟨secret, senderEq, secretEq, -, -⟩ := (authenticationIn_iff secretFree).mp authentic
  have retries : UserRetries host credentials params world.db ↔
      if uidIn world.db.oracle user = 0 then nextIdIn world.db.oracle sqlNextuid ≠ 0
      else strIsempty pass = false →
        (∃ row ∈ world.db.rows Table.user, Table.user.cell row (cstr "name") = .str sender ∧
          byId (cstr "uid") (uidIn world.db.oracle user) .user row = true) →
          whirlpoolPass host pass = whirlpoolPass host secret := by
    constructor
    · intro all
      exact all user pass sender secret userEq passEq senderEq secretEq
    · intro own other otherPass caller otherSecret otherEq otherPassEq callerEq otherSecretEq
      cases userEq.symm.trans otherEq
      cases passEq.symm.trans otherPassEq
      cases senderEq.symm.trans callerEq
      cases secretEq.symm.trans otherSecretEq
      exact own
  rw [retries]
  by_cases found : uidIn world.db.oracle user = 0
  · obtain ⟨given, inserted⟩ := created found
    rw [if_pos found, ← nextuid_of_rows (rows_counted world.db nofun)]
    exact again_newUser_iff secretFree free authentic userEq passEq adminEq valid given
      (accepted given) (int32_nextIdIn _ _) inserted
  · rw [if_neg found, again_knownUser_iff secretFree free authentic userEq passEq adminEq valid
      accepted found ended]
    constructor
    · intro all
      exact all secret secretEq
    · intro own other otherEq
      cases secretEq.symm.trans otherEq
      exact own

end

/-! ## All methods -/

/-- The methods that add or set something. -/
def addingMethods : List Str :=
  [cstr "vcd.user.set", cstr "vcd.user.caps.add", cstr "vg.add", cstr "vxdb.owner.add",
    cstr "vxdb.dx.limit.set", cstr "vxdb.init.set", cstr "vxdb.mount.set", cstr "vxdb.nx.addr.set",
    cstr "vxdb.nx.broadcast.set", cstr "vxdb.vx.bcaps.add", cstr "vxdb.vx.ccaps.add",
    cstr "vxdb.vx.cpuset.set", cstr "vxdb.vx.flags.add", cstr "vxdb.vx.limit.set",
    cstr "vxdb.vx.sched.set", cstr "vxdb.vx.uname.set"]

/-- The request is no `vg.add` with a member, and no `vcd.user.set` that changes the password it
was sent with; no group and no user gets the id 0. -/
def Retryable (host : Host) (request : Request) (db : Vxdb) : Prop :=
  (request.method = cstr "vg.add" → GroupRetries request.params db) ∧
    (request.method = cstr "vcd.user.set" →
      UserRetries host request.credentials request.params db)

theorem lookup_configWriter {method : Str} (listed : method ∈ configWriters.map Prod.fst) :
    ∃ program, (registry setup).lookup method = some program ∧
      (method, program) ∈ vxdbWriters setup := by
  simp only [configWriters, List.map_cons, List.map_nil, List.mem_cons, List.not_mem_nil,
    or_false] at listed
  rcases listed with rfl | rfl | rfl | rfl | rfl | rfl | rfl | rfl | rfl | rfl | rfl | rfl |
    rfl | rfl | rfl | rfl | rfl | rfl | rfl | rfl | rfl | rfl | rfl <;>
    exact ⟨_, rfl, mem_of_lookup_eq_some rfl⟩

theorem again_configWriter {answer : Xml} (listed : request.method ∈ configWriters.map Prod.fst)
    (free : request.Free) (secretFree : SecretFree request.credentials)
    (ended : ends (handle setup request) world = (.returned answer, next)) :
    SucceedsAgain (handle setup request) next := by
  obtain ⟨program, known, mem⟩ := @lookup_configWriter setup request.method listed
  obtain ⟨function, caps, table, reader, rfl, full, -, settingTable⟩ := vxdbWriters_reads mem
  have handler : handle setup request = configWrite setup.host function caps reader
      (.client request.credentials request.params) := by
    rw [handle, known]
  rw [handler] at ended ⊢
  obtain ⟨name, sql, wrote⟩ := returned_configWrite ended
  obtain ⟨-, settles⟩ := full name sql wrote.read
  obtain ⟨setting, rfl, sets, filled⟩ := settles free.closed
  obtain ⟨last, again, same⟩ := wrote.again secretFree sets filled settingTable
  exact ⟨.nil, last, again.ends, same⟩

/-- A request that adds or sets something and has succeeded succeeds again, and changes nothing
but counters, exactly if it is retryable. -/
theorem retry_succeeds_iff (setup : Setup) (request : Request) (world next : World) (answer : Xml)
    (listed : request.method ∈ addingMethods) (free : request.Free)
    (secretFree : SecretFree request.credentials)
    (ended : ends (handle setup request) world = (.returned answer, next)) :
    SucceedsAgain (handle setup request) next ↔ Retryable setup.host request world.db := by
  by_cases isAdd : request.method = cstr "vg.add"
  · have handler : handle setup request =
        mVgAdd setup.host (.client request.credentials request.params) := by
      rw [handle, isAdd]
      rfl
    have notSet : request.method ≠ cstr "vcd.user.set" := by
      rw [isAdd]
      decide
    rw [handler] at ended ⊢
    rw [again_vgAdd_iff secretFree ended]
    exact ⟨fun retries => ⟨fun _ => retries, fun isSet => absurd isSet notSet⟩,
      fun retryable => retryable.1 isAdd⟩
  by_cases isSet : request.method = cstr "vcd.user.set"
  · have handler : handle setup request =
        mVcdUserSet setup.host (.client request.credentials request.params) := by
      rw [handle, isSet]
      rfl
    rw [handler] at ended ⊢
    rw [again_userSet_iff secretFree (fun pass => free (cstr "password") pass) ended]
    exact ⟨fun retries => ⟨fun add => absurd add isAdd, fun _ => retries⟩,
      fun retryable => retryable.2 isSet⟩
  refine iff_of_true ?_ ⟨fun add => absurd add isAdd, fun set => absurd set isSet⟩
  by_cases isCaps : request.method = cstr "vcd.user.caps.add"
  · have handler : handle setup request =
        mVcdUserCapsAdd setup.host (.client request.credentials request.params) := by
      rw [handle, isCaps]
      rfl
    rw [handler] at ended ⊢
    exact again_userCapsAdd secretFree (fun cap => free (cstr "cap") cap) ended
  by_cases isOwner : request.method = cstr "vxdb.owner.add"
  · have handler : handle setup request =
        mVxdbOwnerAdd setup.host (.client request.credentials request.params) := by
      rw [handle, isOwner]
      rfl
    rw [handler] at ended ⊢
    exact again_ownerAdd secretFree ended
  have writers : ∀ method ∈ addingMethods, method ∈ [cstr "vg.add", cstr "vcd.user.set",
      cstr "vcd.user.caps.add", cstr "vxdb.owner.add"] ∨ method ∈ configWriters.map Prod.fst := by
    decide
  refine again_configWriter ((writers _ listed).resolve_left fun other => ?_) free secretFree ended
  simp only [List.mem_cons, List.not_mem_nil, or_false] at other
  rcases other with same | same | same | same
  · exact isAdd same
  · exact isSet same
  · exact isCaps same
  · exact isOwner same

/-- The administrator adds a virtual server to the group `onboot`. -/
def memberRequest (name : Str) : Request :=
  adminRequest (cstr "vg.add") name [(cstr "group", .str (cstr "onboot"))]

theorem secretFree_adminCredentials : SecretFree adminCredentials :=
  fun _ known => texts_struct known (by decide)

theorem retry_succeeds_user :
    SucceedsAgain (handle plainSetup (userRequest (cstr "eve")))
        (ends (handle plainSetup (userRequest (cstr "eve")))
          (World.boot (freshVxdb 0) idleKernel)).2 ↔
      Retryable plainSetup.host (userRequest (cstr "eve")) (freshVxdb 0) := by
  have returned : returns (handle plainSetup (userRequest (cstr "eve")))
      (World.boot (freshVxdb 0) idleKernel) = true := by
    decide +kernel
  obtain ⟨answer, ended⟩ := exists_returned returned
  exact retry_succeeds_iff plainSetup (userRequest (cstr "eve"))
    (World.boot (freshVxdb 0) idleKernel) _ answer (by decide)
    (fun _ _ known => texts_struct known (by decide)) secretFree_adminCredentials ended

/-- A member is added to a group, and the same request is refused then. -/
theorem retry_refused : ¬ ∀ (setup : Setup) (request : Request) (world next : World) (answer : Xml),
    request.method ∈ addingMethods → request.Free → SecretFree request.credentials →
      ends (handle setup request) world = (.returned answer, next) →
        SucceedsAgain (handle setup request) next := by
  intro idempotent
  have returned : returns (handle plainSetup (memberRequest (cstr "web"))) withServer = true := by
    decide +kernel
  obtain ⟨answer, ended⟩ := exists_returned returned
  have again := idempotent plainSetup (memberRequest (cstr "web")) withServer _ answer (by decide)
    (fun _ _ known => texts_struct known (by decide)) secretFree_adminCredentials ended
  have retries := (again_vgAdd_iff secretFree_adminCredentials ended).mp again
  exact absurd (retries (cstr "onboot") (cstr "web") rfl rfl (by decide)).1 (by decide)

end Vcd
