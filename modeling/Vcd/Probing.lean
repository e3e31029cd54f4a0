import Vcd.Endings
import Vcd.Housed
import Vcd.Transactions

/-!
# What a stranger can find out

A user who owns a virtual server is let through by the checks of a method, and every other
user gets the same answer as for a name that does not exist. `vx.create` has a check of its
own, which gives two different answers.
-/

namespace Vcd

open Sql Process

variable {setup : Setup} {request : Request} {host : Host} {user name : Str} {α : Type}
  {left right world next : World}

/-! ## Answers a client can compare -/

/-- The faults have the same code; those of the environment are compared as they are. -/
def SameCode : Fault → Fault → Prop
  | .code left _, .code right _ => left = right
  | left, right => left = right

theorem SameCode.refl (fault : Fault) : SameCode fault fault := by
  cases fault <;> rfl

theorem SameCode.symm {left right : Fault} (same : SameCode left right) : SameCode right left := by
  cases left <;> cases right <;> exact Eq.symm same

/-- The program fails, and changes nothing but counters. -/
def Refused (program : Method α) (world : World) (fault : Fault) : Prop :=
  ∃ after, SameRows world.db after.db ∧ ends program world = (.failed fault, after)

theorem Refused.unique {program : Method α} {fault other : Fault}
    (refused : Refused program world fault) (again : Refused program world other) :
    fault = other := by
  obtain ⟨_, -, ended⟩ := refused
  obtain ⟨_, -, endedOther⟩ := again
  exact Outcome.failed.inj (Prod.mk.inj (ended.symm.trans endedOther)).1

/-- The request is refused in both worlds with the same code, and changes no table but the
statistics. -/
def Indistinct (setup : Setup) (request : Request) (left right : World) : Prop :=
  ∃ fault other, SameCode fault other ∧ Refused (handle setup request) left fault ∧
    Refused (handle setup request) right other

theorem indistinct_iff {fault other : Fault} (refused : Refused (handle setup request) left fault)
    (again : Refused (handle setup request) right other) :
    Indistinct setup request left right ↔ SameCode fault other := by
  constructor
  · rintro ⟨one, two, same, first, second⟩
    obtain rfl := refused.unique first
    obtain rfl := again.unique second
    exact same
  · exact fun same => ⟨fault, other, same, refused, again⟩

/-! ## Databases that differ in one virtual server -/

/-- The row belongs to a virtual server. -/
def belongs (xid : Int) (table : Table) (row : Row) : Bool :=
  (Table.xidNameMap :: xidTables).contains table && ofXid (int32 xid) row

/-- The first database has a virtual server of this name that the user does not own, the second
one has none, and they agree on everything else. -/
structure Twins (left right : Vxdb) (user name : Str) : Prop where
  found : xidIn left.oracle name ≠ 0
  stranger : ¬ Owns left (uidIn left.oracle user) (xidIn left.oracle name)
  missing : xidIn right.oracle name = 0
  others : ∀ table,
    (left.rows table).filter (fun row => !belongs (xidIn left.oracle name) table row) =
      (right.rows table).filter fun row => !belongs (xidIn left.oracle name) table row

namespace Twins

variable {one two : Vxdb}

theorem rows (twins : Twins one two user name) {table : Table}
    (apart : table ∉ Table.xidNameMap :: xidTables) : two.rows table = one.rows table := by
  have all (row : Row) : (!belongs (xidIn one.oracle name) table row) = true := by
    unfold belongs
    rw [Bool.eq_false_iff.mpr fun listed => apart (List.contains_iff_mem.mp listed)]
    rfl
  have equal := twins.others table
  rw [List.filter_eq_self.mpr fun row _ => all row,
    List.filter_eq_self.mpr fun row _ => all row] at equal
  exact equal.symm

theorem counted_rows (twins : Twins one two user name) {table : Table}
    (apart : table ∉ Table.xidNameMap :: xidTables) (other : table ≠ .vcd) :
    (counted two).rows table = (counted one).rows table :=
  (rows_counted two other).trans ((twins.rows apart).trans (rows_counted one other).symm)

theorem uidIn (twins : Twins one two user name) (other : Str) :
    uidIn two.oracle other = Vcd.uidIn one.oracle other :=
  uidIn_of_rows (twins.rows (by decide)) other

theorem adminIn (twins : Twins one two user name) (other : Str) :
    adminIn two.oracle other = Vcd.adminIn one.oracle other :=
  adminIn_of_rows (twins.rows (by decide)) other

end Twins

theorem capableIn_of_rows {one two : Vxdb} (users : two.rows Table.user = one.rows Table.user)
    (caps : two.rows Table.userCaps = one.rows Table.userCaps) (user : Str) (word : UInt64) :
    capableIn two.oracle user word = capableIn one.oracle user word := by
  rw [Bool.eq_iff_iff, capableIn_iff, capableIn_iff]
  unfold HasCap
  rw [uidIn_of_rows users]
  simp only [granted_of_rows caps]

/-! ## Logins -/

/-- The login check answers the same in both databases. -/
def SameLogin (host : Host) (request : Request) (one two : Vxdb) : Prop :=
  ∀ user pass, request.user = .ok user → request.credentials.getStr (cstr "password") = .ok pass →
    validIn (counted two).oracle host user pass = validIn (counted one).oracle host user pass

theorem authentication_same {one two : Vxdb} (twins : Twins one two user name)
    (login : SameLogin host request one two) (caps : UInt64) :
    authenticationIn (counted two).oracle host request.credentials caps =
      authenticationIn (counted one).oracle host request.credentials caps := by
  unfold authenticationIn
  cases userEq : request.credentials.getStr (cstr "username") with
  | error fault => rfl
  | ok user =>
      cases passEq : request.credentials.getStr (cstr "password") with
      | error fault => rfl
      | ok pass =>
          have users := twins.counted_rows (by decide : Table.user ∉ _) nofun
          have granted := twins.counted_rows (by decide : Table.userCaps ∉ _) nofun
          change (if _ then _ else if _ then _ else _) = if _ then _ else if _ then _ else _
          rw [login user pass userEq passEq, capableIn_of_rows users granted]

/-- A fault that is not the one of a failed login. -/
def NotAuth (fault : Fault) : Prop :=
  ¬ SameCode (.of .auth) fault

/-- What a request comes to, given its authentication and what it comes to after that. -/
def verdict (authentication : Except Fault Str) (later : Fault) : Fault :=
  match authentication with
  | .ok _ => later
  | .error fault => fault

/-- The login check is the first thing in which two answers can differ. -/
theorem login_of_sameCode {one two : Vxdb} {caps : UInt64} {later other : Fault}
    (notAuth : NotAuth later) (otherNotAuth : NotAuth other)
    (same : SameCode
      (verdict (authenticationIn (counted one).oracle host request.credentials caps) later)
      (verdict (authenticationIn (counted two).oracle host request.credentials caps) other)) :
    SameLogin host request one two := by
  intro user pass userEq passEq
  have verdict_eq (db : Vxdb) (after : Fault) :
      verdict (authenticationIn db.oracle host request.credentials caps) after =
        if !validIn db.oracle host user pass then .of .auth
        else if !capableIn db.oracle user caps then .of .perm else after := by
    unfold authenticationIn
    rw [show request.credentials.getStr (cstr "username") = .ok user from userEq, passEq]
    change verdict (if _ then _ else if _ then _ else _) after = _
    split
    · rfl
    · split <;> rfl
  rw [verdict_eq, verdict_eq] at same
  have never (db : Vxdb) (after : Fault) (notAuth : NotAuth after) :
      NotAuth (if !capableIn db.oracle user caps then .of .perm else after) := by
    split
    · exact (by decide : ¬ (100 : Int) = 101)
    · exact notAuth
  cases first : validIn (counted one).oracle host user pass with
  | true =>
      cases second : validIn (counted two).oracle host user pass with
      | true => rfl
      | false =>
          rw [first, second] at same
          exact absurd same.symm (never _ later notAuth)
  | false =>
      cases second : validIn (counted two).oracle host user pass with
      | false => rfl
      | true =>
          rw [first, second] at same
          exact absurd same (never _ other otherNotAuth)

/-! ## Methods with an owner check -/

/-- A request that goes on to be refused is refused. -/
theorem Refused.bind {program : Method α} {β : Type} {fault : Fault}
    (refused : Refused program world fault) (contained : program.Contained) (rest : α → Method β) :
    Refused (program >>= rest) world fault := by
  obtain ⟨after, same, ended⟩ := refused
  refine ⟨after, same, ?_⟩
  rw [ends_bind contained, ended]
  rfl

theorem admissionIn_owner {oracle : Oracle} {free : Str → Bool} {caps : UInt64} {flags : Flags}
    (userEq : request.user = .ok user) (nameEq : request.text (cstr "name") = .ok name)
    (valid : validateName name = true) (owner : flags.owner = true)
    (stranger : ownerIn oracle user name = false) :
    admissionIn oracle host free request.credentials request.params caps flags =
      .error (verdict (authenticationIn oracle host request.credentials caps) (.of .novps)) := by
  unfold admissionIn
  cases authentic : authenticationIn oracle host request.credentials caps with
  | error fault => rfl
  | ok authenticated =>
      obtain ⟨read, readEq, authentic⟩ := bind_eq_ok.mp authentic
      obtain ⟨pass, -, authentic⟩ := bind_eq_ok.mp authentic
      obtain rfl : read = authenticated := by
        split at authentic
        next => cases authentic
        next =>
          split at authentic
          next => cases authentic
          next => exact Except.ok.inj authentic
      obtain rfl : user = read := Except.ok.inj (userEq.symm.trans readEq)
      have any : flags.any = true := by
        unfold Flags.any
        rw [owner]
        rfl
      change (if flags.any = true then _ else _) = _
      rw [if_pos any]
      unfold flagsIn
      rw [show request.params.getStr (cstr "name") = .ok name from nameEq]
      change ((if _ then _ else if _ then _ else _) >>= _) = _
      rw [valid, owner, stranger]
      rfl

/-- The methods other than writers of configuration that check the owner. -/
def ownerMethods : List Str :=
  [cstr "vx.exec", cstr "vx.kill", cstr "vx.limstatus", cstr "vx.netstatus", cstr "vx.reboot",
    cstr "vx.remove", cstr "vx.rename", cstr "vx.restart", cstr "vx.start", cstr "vx.status",
    cstr "vx.stop", cstr "vxdb.dx.limit.get", cstr "vxdb.init.get", cstr "vxdb.mount.get",
    cstr "vxdb.nx.addr.get", cstr "vxdb.nx.broadcast.get", cstr "vxdb.vx.bcaps.get",
    cstr "vxdb.vx.ccaps.get", cstr "vxdb.vx.cpuset.get", cstr "vxdb.vx.flags.get",
    cstr "vxdb.vx.limit.get", cstr "vxdb.vx.sched.get", cstr "vxdb.vx.uname.get"]

/-- The method's first step is a check of capabilities and of the owner. -/
def OwnerChecked (host : Host) (caps : UInt64) (method : Call → Method Xml) : Prop :=
  ∃ flags rest, flags.owner = true ∧
    ∀ call, method call = methodInit host call caps flags >>= rest

theorem ownerChecked_configWrite (host : Host) (function : Str) (cap : UInt64)
    (reader : Xml → Except Fault (Str × (Int → List Piece))) :
    OwnerChecked host cap (configWrite host function cap reader) :=
  ⟨_, _, rfl, fun _ => rfl⟩

/-- Every method of the lists checks the owner first. -/
theorem ownerChecked_of_lookup {method : Str}
    (listed : method ∈ ownerMethods ∨ method ∈ configWriters.map Prod.fst) :
    ∃ caps program, (registry setup).lookup method = some program ∧
      OwnerChecked setup.host caps program := by
  rcases listed with listed | listed
  · simp only [ownerMethods, List.mem_cons, List.not_mem_nil, or_false] at listed
    rcases listed with rfl | rfl | rfl | rfl | rfl | rfl | rfl | rfl | rfl | rfl | rfl | rfl |
      rfl | rfl | rfl | rfl | rfl | rfl | rfl | rfl | rfl | rfl | rfl <;>
      exact ⟨_, _, rfl, _, _, rfl, fun _ => rfl⟩
  · simp only [configWriters, List.map_cons, List.map_nil, List.mem_cons, List.not_mem_nil,
      or_false] at listed
    rcases listed with rfl | rfl | rfl | rfl | rfl | rfl | rfl | rfl | rfl | rfl | rfl | rfl |
      rfl | rfl | rfl | rfl | rfl | rfl | rfl | rfl | rfl | rfl | rfl <;>
      exact ⟨_, _, rfl, ownerChecked_configWrite _ _ _ _⟩

/-- A stranger's request to such a method is refused as for a missing virtual server. -/
theorem refused_owner {caps : UInt64} {method : Call → Method Xml}
    (checked : OwnerChecked setup.host caps method)
    (known : (registry setup).lookup request.method = some method)
    (userEq : request.user = .ok user) (nameEq : request.text (cstr "name") = .ok name)
    (valid : validateName name = true)
    (stranger : ownerIn (counted world.db).oracle user name = false) :
    Refused (handle setup request) world
      (verdict (authenticationIn (counted world.db).oracle setup.host request.credentials caps)
        (.of .novps)) := by
  obtain ⟨flags, rest, owner, equal⟩ := checked
  have results := results_methodInit setup.host request.credentials request.params caps flags world
  rw [admissionIn_owner userEq nameEq valid owner stranger] at results
  have handler : handle setup request =
      methodInit setup.host (.client request.credentials request.params) caps flags >>= rest := by
    unfold handle
    rw [known]
    exact equal _
  rw [handler]
  exact Refused.bind results
    (counting_methodInit setup.host request.credentials request.params caps flags).contained rest

/-! ## vx.create -/

/-- The checks `vx.create` makes of the template, and what comes after them. -/
def templateChecks (host : Host) (kernel : Nat → Sys → Answer) (clock : Nat) (params : Xml)
    (last : Except Fault Xml) : Except Fault Xml := do
  let template ← params.getStr (cstr "template")
  let _ ← params.getBool (cstr "force")
  let _ ← params.getBool (cstr "copy")
  let _ ← params.getStr (cstr "vdir")
  let badBase := .error (.ofFormat .conf
    [.chars (cstr "tbasedir invalid path or does not exist: "), .str host.templatedir])
  if strIsempty template || !strIsgraph template then
    .error (.ofFormat .inval [.chars (cstr "invalid template name: "), .str template])
  else if !validatePath host.templatedir then badBase
  else if (kernel clock (.isdir host.templatedir)).rc = 0 then badBase
  else if (kernel (clock + 1) (.isdir (strPathConcat host.templatedir template))).rc = 0 then
    .error (.ofFormat .inval [.chars (cstr "template does not exist: "), .str template])
  else last

/-- The checks `vx.create` makes before it looks the name up, and what comes after them. -/
def createChecks (host : Host) (free : Str → Bool) (kernel : Nat → Sys → Answer) (clock : Nat)
    (params : Xml) (last : Except Fault Xml) : Except Fault Xml := do
  let name ← params.getStr (cstr "name")
  if !validateName name then .error (.of .inval)
  else if !free name then .error (.of .busy)
  else templateChecks host kernel clock params last

theorem notAuth_of_ne {id : Int} {message : Str} (other : id ≠ 100) : NotAuth (.code id message) :=
  fun same => other (Eq.symm same)

/-- A failing decoding is a fault of the protocol. -/
theorem member_eq_error {value : Xml} {key : Str} {fault : Fault}
    (failed : value.member key = .error fault) : fault = .request := by
  unfold Xml.member at failed
  split at failed
  next =>
    split at failed
    next => cases failed
    next => exact (Except.error.inj failed).symm
  next => exact (Except.error.inj failed).symm

theorem getStr_notAuth {value : Xml} {key : Str} {fault : Fault}
    (failed : value.getStr key = .error fault) : NotAuth fault := by
  obtain rfl : fault = .request := by
    unfold Xml.getStr at failed
    cases member : value.member key with
    | error other =>
        rw [member] at failed
        cases failed
        exact member_eq_error member
    | ok value =>
        rw [member] at failed
        cases value <;> cases failed <;> rfl
  exact fun same => by cases same

theorem getBool_notAuth {value : Xml} {key : Str} {fault : Fault}
    (failed : value.getBool key = .error fault) : NotAuth fault := by
  obtain rfl : fault = .request := by
    unfold Xml.getBool at failed
    cases member : value.member key with
    | error other =>
        rw [member] at failed
        cases failed
        exact member_eq_error member
    | ok value =>
        rw [member] at failed
        cases value <;> cases failed <;> rfl
  exact fun same => by cases same

/-- The checks pass whatever comes after them, or they fail with a fault of their own. -/
def Decides (checks : Except Fault Xml → Except Fault Xml) : Prop :=
  (∀ last, checks last = last) ∨ ∃ fault, NotAuth fault ∧ ∀ last, checks last = .error fault

namespace Decides

theorem bind {known : Except Fault α} (notAuth : ∀ fault, known = .error fault → NotAuth fault)
    {checks : α → Except Fault Xml → Except Fault Xml} (later : ∀ value, Decides (checks value)) :
    Decides fun last => known >>= fun value => checks value last := by
  cases known with
  | error fault => exact .inr ⟨fault, notAuth fault rfl, fun _ => rfl⟩
  | ok value => exact later value

theorem check {condition : Prop} [Decidable condition] {fault : Fault} (notAuth : NotAuth fault)
    {checks : Except Fault Xml → Except Fault Xml} (later : Decides checks) :
    Decides fun last => if condition then .error fault else checks last := by
  split
  · exact .inr ⟨fault, notAuth, fun _ => rfl⟩
  · exact later

end Decides

theorem decides_createChecks (host : Host) (free : Str → Bool) (kernel : Nat → Sys → Answer)
    (clock : Nat) (params : Xml) : Decides (createChecks host free kernel clock params) := by
  refine .bind (fun _ => getStr_notAuth) fun name => ?_
  refine .check (notAuth_of_ne (by decide)) <| .check (notAuth_of_ne (by decide)) ?_
  refine .bind (fun _ => getStr_notAuth) fun template => ?_
  refine .bind (fun _ => getBool_notAuth) fun force => ?_
  refine .bind (fun _ => getBool_notAuth) fun copy => ?_
  refine .bind (fun _ => getStr_notAuth) fun vdir => ?_
  refine .check (notAuth_of_ne (by decide)) <| .check (notAuth_of_ne (by decide)) ?_
  exact .check (notAuth_of_ne (by decide)) <| .check (notAuth_of_ne (by decide)) (.inl fun _ => rfl)

/-- What a user without the flag of an administrator gets for a name he does not own. -/
def targetFault (oracle : Oracle) (name : Str) : Fault :=
  if xidIn oracle name ≠ 0 then .of .novps else .of .perm

theorem refused_createTarget (stranger : ownerIn world.db.oracle user name = false)
    (admin : adminIn world.db.oracle user = false) (force : Bool) :
    Refused (createTarget user name force) world (targetFault world.db.oracle name) := by
  refine ⟨world, fun _ _ => rfl, ?_⟩
  unfold createTarget
  rw [ends_lookup (lookup_vxdbGetxid name) (answer_vxdbGetxid _ name)]
  unfold targetFault
  split
  · rw [ends_lookup (lookup_authIsowner user name) (answer_authIsowner _ user name), stranger]
    rfl
  · rw [ends_lookup (lookup_authIsadmin user) (answer_authIsadmin _ user), admin]
    rfl

theorem contained_createTarget (user name : Str) (force : Bool) :
    (createTarget user name force).Contained :=
  (steady_createTarget user name force).contained

/-- A call of the kernel changes nothing in the database. -/
theorem Results.sys {β : Type} {call : Sys} {rest : Answer → Method β} {result : Except Fault β}
    (later : Results (rest (world.kernel world.clock call))
      { world with clock := world.clock + 1 } next result) :
    Results (Vcd.sys call >>= rest) world next result := by
  cases result with
  | ok value => exact later
  | error fault => exact later

theorem Results.known {β : Type} {known : Except Fault α} {value : α} {rest : α → Method β}
    {result : Except Fault β} (equal : known = .ok value)
    (later : Results (rest value) world next result) :
    Results (Vcd.ofExcept known >>= rest) world next result := by
  rw [equal]
  exact later

theorem Results.failed {program : Method α} {β : Type} {fault : Fault}
    (refused : Refused program world fault) (contained : program.Contained) (rest : α → Method β) :
    Results (program >>= rest) world next (.error fault) :=
  refused.bind contained rest

theorem results_mVxCreate (host : Host) (templates : Templates) {credentials params : Xml}
    (userEq : credentials.getStr (cstr "username") = .ok user)
    (nameEq : params.getStr (cstr "name") = .ok name)
    (stranger : ownerIn (counted world.db).oracle user name = false)
    (admin : adminIn (counted world.db).oracle user = false) :
    Results (mVxCreate host templates (.client credentials params)) world next
      (admissionIn (counted world.db).oracle host world.free credentials params capCreate
        { lock := true } >>= fun _ => templateChecks host world.kernel world.clock params
          (.error (targetFault (counted world.db).oracle name))) := by
  have start := locked_kernel { world with db := counted world.db } params { lock := true }
  have rows := World.db_locked { world with db := counted world.db } params { lock := true }
  refine Results.bind (results_methodInit host credentials params capCreate _ world)
    (counting_methodInit host credentials params capCreate _).contained
    (by rw [rows]; exact sameRows_counts counts_sqlRequests world.db) fun _ => ?_
  revert start rows
  generalize ({ world with db := counted world.db } : World).locked params { lock := true } = begun
  rintro ⟨kernel, clock⟩ rows
  rw [← show begun.kernel = world.kernel from kernel, ← show begun.clock = world.clock from clock]
  refine Results.known userEq <| Results.known nameEq ?_
  refine Results.ofExcept _ _ fun template => Results.ofExcept _ _ fun force => ?_
  refine Results.ofExcept _ _ fun copy => Results.ofExcept _ _ fun vdir => ?_
  refine Results.check fun _ => Results.check fun _ => Results.sys ?_
  refine Results.check fun _ => Results.sys <| Results.check fun _ => ?_
  rw [← show begun.db = counted world.db from rows] at stranger admin ⊢
  have refused : Refused (createTarget user name force)
      { begun with clock := begun.clock + 1 + 1 } (targetFault begun.db.oracle name) :=
    @refused_createTarget user name { begun with clock := begun.clock + 1 + 1 } stranger admin force
  exact Results.failed refused (contained_createTarget user name force) _

theorem admissionIn_lock {oracle : Oracle} {free : Str → Bool} {credentials params : Xml}
    {caps : UInt64} {last : Except Fault Xml} (kernel : Nat → Sys → Answer) (clock : Nat)
    (nameEq : params.getStr (cstr "name") = .ok name) :
    (admissionIn oracle host free credentials params caps { lock := true } >>= fun _ =>
      templateChecks host kernel clock params last) =
      (authenticationIn oracle host credentials caps >>= fun _ =>
        createChecks host free kernel clock params last) := by
  unfold admissionIn createChecks flagsIn
  cases authenticationIn oracle host credentials caps with
  | error fault => rfl
  | ok user =>
      rw [nameEq]
      simp only [Flags.any, bind, Except.bind]
      cases validateName name with
      | false => rfl
      | true => cases free name <;> rfl

/-- A stranger's `vx.create` is refused with the fault of the check that fails first. -/
theorem refused_vxCreate {fault : Fault} (created : request.method = cstr "vx.create")
    (userEq : request.user = .ok user) (nameEq : request.text (cstr "name") = .ok name)
    (stranger : ownerIn (counted world.db).oracle user name = false)
    (admin : adminIn (counted world.db).oracle user = false)
    (checks : createChecks setup.host world.free world.kernel world.clock request.params
      (.error (targetFault (counted world.db).oracle name)) = .error fault) :
    Refused (handle setup request) world
      (verdict (authenticationIn (counted world.db).oracle setup.host request.credentials capCreate)
        fault) := by
  have results := @results_mVxCreate user name world world setup.host setup.templates
    request.credentials request.params userEq nameEq stranger admin
  rw [admissionIn_lock world.kernel world.clock nameEq, checks] at results
  have handler : handle setup request =
      mVxCreate setup.host setup.templates (.client request.credentials request.params) := by
    rw [handle, created]
    rfl
  rw [handler]
  cases authentic : authenticationIn (counted world.db).oracle setup.host request.credentials
      capCreate with
  | error other =>
      rw [authentic] at results
      exact results
  | ok user =>
      rw [authentic] at results
      exact results

/-! ## The whole property -/

/-- In both databases the user is neither an administrator nor the owner of the name. -/
structure StrangerIn (db : Vxdb) (user name : Str) : Prop where
  owner : ownerIn (counted db).oracle user name = false
  admin : adminIn (counted db).oracle user = false

namespace Twins

variable {one two : Vxdb}

theorem stranger_left (twins : Twins one two user name)
    (admin : Vcd.adminIn one.oracle user = false) : StrangerIn one user name := by
  constructor
  · rw [ownerIn_of_rows (rows_counted one (by decide)) (rows_counted one (by decide))
      (rows_counted one (by decide)), ownerIn, admin, Bool.false_or]
    refine Bool.eq_false_iff.mpr fun owner => twins.stranger ?_
    simp only [Bool.and_eq_true, firstRow_sqlIsowner] at owner
    exact owner.2.2
  · rw [adminIn_of_rows (rows_counted one (by decide)), admin]

theorem stranger_right (twins : Twins one two user name)
    (admin : Vcd.adminIn one.oracle user = false) : StrangerIn two user name := by
  have missing := twins.missing
  have adminRight := (twins.adminIn user).trans admin
  constructor
  · rw [ownerIn_of_rows (rows_counted two (by decide)) (rows_counted two (by decide))
      (rows_counted two (by decide)), ownerIn, adminRight, missing]
    simp
  · rw [adminIn_of_rows (rows_counted two (by decide)), adminRight]

theorem targetFault_left (twins : Twins one two user name) :
    targetFault (counted one).oracle name = .of .novps := by
  unfold targetFault
  rw [xidIn_of_rows (rows_counted one (by decide)), if_pos twins.found]

theorem targetFault_right (twins : Twins one two user name) :
    targetFault (counted two).oracle name = .of .perm := by
  unfold targetFault
  rw [xidIn_of_rows (rows_counted two (by decide)), if_neg (not_not_intro twins.missing)]

end Twins

/-- A login whose password does not end the literal it stands in is checked by the users alone. -/
theorem sameLogin_of_closed {one two : Vxdb} (users : two.rows Table.user = one.rows Table.user)
    (closed : ∀ pass, request.credentials.getStr (cstr "password") = .ok pass →
      (unquote (whirlpoolPass host pass)).isSome) : SameLogin host request one two := by
  intro user pass userEq passEq
  unfold validIn
  cases valid : validateUsername user with
  | false => rfl
  | true =>
      have free := quoteFree_of_validateUsername valid
      have same : (counted two).rows Table.user = (counted one).rows Table.user := by
        rw [rows_counted two (by decide), users, rows_counted one (by decide)]
      congr 1
      rw [Bool.eq_iff_iff, firstRow_sqlIsvalid_closed free (closed pass passEq),
        firstRow_sqlIsvalid_closed free (closed pass passEq), Authenticates, Authenticates, same]

/-- The request is a `vx.create` that passes every check before the one of the owner. -/
def ReachesOwnerCheck (setup : Setup) (request : Request) (world : World) : Prop :=
  request.method = cstr "vx.create" ∧
    (authenticationIn (counted world.db).oracle setup.host request.credentials capCreate).isOk ∧
    (createChecks setup.host world.free world.kernel world.clock request.params (.ok .nil)).isOk

/-- A method that checks the owner first answers a stranger the same in both. -/
theorem indistinct_owner_iff (userEq : request.user = .ok user)
    (nameEq : request.text (cstr "name") = .ok name) (valid : validateName name = true)
    (admin : adminIn left.db.oracle user = false) (twins : Twins left.db right.db user name)
    (listed : request.method ∈ ownerMethods ∨ request.method ∈ configWriters.map Prod.fst) :
    Indistinct setup request left right ↔ SameLogin setup.host request left.db right.db := by
  obtain ⟨caps, method, known, checked⟩ := @ownerChecked_of_lookup setup request.method listed
  rw [indistinct_iff
    (refused_owner checked known userEq nameEq valid (twins.stranger_left admin).owner)
    (refused_owner checked known userEq nameEq valid (twins.stranger_right admin).owner)]
  have notAuth : NotAuth (.of .novps) := (by decide : ¬ (100 : Int) = 202)
  constructor
  · exact login_of_sameCode notAuth notAuth
  · intro login
    rw [authentication_same twins login caps]
    exact .refl _

/-- The answers to a stranger's `vx.create` differ if it gets as far as the check of the owner. -/
theorem indistinct_vxCreate_iff (created : request.method = cstr "vx.create")
    (userEq : request.user = .ok user) (nameEq : request.text (cstr "name") = .ok name)
    (admin : adminIn left.db.oracle user = false) (twins : Twins left.db right.db user name)
    (kernel : right.kernel = left.kernel) (clock : right.clock = left.clock)
    (holder : right.holder = left.holder) :
    Indistinct setup request left right ↔
      SameLogin setup.host request left.db right.db ∧ ¬ ReachesOwnerCheck setup request left := by
  have free : right.free = left.free := by
    funext other
    unfold World.free
    rw [holder]
  have strangerLeft := twins.stranger_left admin
  have strangerRight := twins.stranger_right admin
  have refusedLeft {fault : Fault} := @refused_vxCreate setup request user name left fault created
    userEq nameEq strangerLeft.owner strangerLeft.admin
  have refusedRight {fault : Fault} := @refused_vxCreate setup request user name right fault created
    userEq nameEq strangerRight.owner strangerRight.admin
  rw [twins.targetFault_left] at refusedLeft
  rw [twins.targetFault_right, free, kernel, clock] at refusedRight
  unfold ReachesOwnerCheck
  rcases decides_createChecks setup.host left.free left.kernel left.clock request.params with
    passes | ⟨fault, notAuth, fails⟩
  · rw [indistinct_iff (refusedLeft (passes _)) (refusedRight (passes _)), passes]
    constructor
    · intro same
      have login := login_of_sameCode (notAuth_of_ne (by decide)) (notAuth_of_ne (by decide)) same
      refine ⟨login, fun ⟨_, authentic, _⟩ => ?_⟩
      rw [authentication_same twins login] at same
      cases known : authenticationIn (counted left.db).oracle setup.host request.credentials
          capCreate with
      | error fault =>
          rw [known] at authentic
          cases authentic
      | ok user =>
          rw [known] at same
          exact absurd same (by decide : ¬ (202 : Int) = 101)
    · rintro ⟨login, unreached⟩
      rw [authentication_same twins login]
      cases known : authenticationIn (counted left.db).oracle setup.host request.credentials
          capCreate with
      | error fault => exact .refl fault
      | ok user =>
          refine absurd ⟨created, ?_, rfl⟩ unreached
          rw [known]
          rfl
  · rw [indistinct_iff (refusedLeft (fails _)) (refusedRight (fails _)), fails]
    constructor
    · exact fun same => ⟨login_of_sameCode notAuth notAuth same, fun reached => nomatch reached.2.2⟩
    · rintro ⟨login, -⟩
      rw [authentication_same twins login]
      exact .refl _

/-- A stranger cannot tell an existing server from a missing one, except by a `vx.create` that
gets as far as the check of the owner. -/
theorem stranger_cannot_tell_iff (userEq : request.user = .ok user)
    (nameEq : request.text (cstr "name") = .ok name) (valid : validateName name = true)
    (admin : adminIn left.db.oracle user = false) (twins : Twins left.db right.db user name)
    (kernel : right.kernel = left.kernel) (clock : right.clock = left.clock)
    (holder : right.holder = left.holder)
    (listed : request.method = cstr "vx.create" ∨ request.method ∈ ownerMethods ∨
      request.method ∈ configWriters.map Prod.fst) :
    Indistinct setup request left right ↔
      SameLogin setup.host request left.db right.db ∧ ¬ ReachesOwnerCheck setup request left := by
  rcases listed with created | listed
  · exact indistinct_vxCreate_iff created userEq nameEq admin twins kernel clock holder
  · rw [indistinct_owner_iff userEq nameEq valid admin twins listed]
    refine (and_iff_left fun reached => ?_).symm
    rw [reached.1] at listed
    exact absurd listed (by decide)

/-- A database with a user who may create virtual servers and is no administrator. -/
def creatorVxdb : Vxdb :=
  (((freshVxdb 0).replace Table.user [.int 3, .str (cstr "eve"), .str (cstr "*"), .int 0]).replace
    Table.userCaps [.int 3, .str (cstr "AUTH")]).replace
    Table.userCaps [.int 3, .str (cstr "CREATE")]

/-- The same database with a virtual server of nobody. -/
def occupiedVxdb : Vxdb :=
  creatorVxdb.replace Table.xidNameMap [.int 5, .str (cstr "web")]

/-- A request of the user for a virtual server. -/
def eveRequest (method : Str) : Request where
  method
  credentials := .struct [(cstr "username", .str (cstr "eve")),
    (cstr "password", .str (cstr "WHIRLPOOLENC//*"))]
  params := (createRequest (cstr "web")).params

theorem twins_occupied : Twins occupiedVxdb creatorVxdb (cstr "eve") (cstr "web") where
  found := by decide +kernel
  stranger := by
    rintro ⟨row, mem, -⟩
    have none : occupiedVxdb.rows Table.xidUidMap = [] := by decide +kernel
    rw [none] at mem
    cases mem
  missing := by decide +kernel
  others table := by cases table <;> decide +kernel

theorem stranger_cannot_tell_start :
    Indistinct plainSetup (eveRequest (cstr "vx.start")) (World.boot occupiedVxdb idleKernel)
        (World.boot creatorVxdb idleKernel) ↔
      SameLogin plainSetup.host (eveRequest (cstr "vx.start")) occupiedVxdb creatorVxdb ∧
        ¬ ReachesOwnerCheck plainSetup (eveRequest (cstr "vx.start"))
          (World.boot occupiedVxdb idleKernel) :=
  stranger_cannot_tell_iff (by rfl) (by rfl) (by decide) (by decide +kernel) twins_occupied rfl rfl
    rfl (.inr (.inl (by decide)))

/-- `vx.create` tells a stranger who may create virtual servers whether the name exists. -/
theorem stranger_can_tell : ¬ ∀ (setup : Setup) (request : Request) (user name : Str)
    (left right : World), request.user = .ok user → request.text (cstr "name") = .ok name →
      validateName name = true → adminIn left.db.oracle user = false →
      Twins left.db right.db user name → right.kernel = left.kernel → right.clock = left.clock →
      right.holder = left.holder → (∀ other, left.holder other = none) →
      (request.method = cstr "vx.create" ∨ request.method ∈ ownerMethods ∨
        request.method ∈ configWriters.map Prod.fst) → Indistinct setup request left right := by
  intro indistinguishable
  have same := indistinguishable plainSetup (eveRequest (cstr "vx.create")) (cstr "eve") (cstr "web")
    (World.boot occupiedVxdb idleKernel) (World.boot creatorVxdb idleKernel) (by rfl) (by rfl)
    (by decide) (by decide +kernel) twins_occupied rfl rfl rfl (fun _ => rfl) (.inl (by decide))
  have iff := @indistinct_vxCreate_iff plainSetup (eveRequest (cstr "vx.create")) (cstr "eve")
    (cstr "web") (World.boot occupiedVxdb idleKernel) (World.boot creatorVxdb idleKernel) (by rfl)
    (by rfl) (by rfl) (by decide +kernel) twins_occupied rfl rfl rfl
  exact (iff.mp same).2 ⟨by rfl, by decide +kernel, by decide +kernel⟩

end Vcd
