import Vcd.Sql.References
import Vcd.Steps

/-!
# Ids of users and groups

Capabilities and ownerships refer to users, and memberships to groups. All clean requests
keep it that way, so an id that is handed out again has no rights left from before.
-/

namespace Vcd

open Sql Process

/-! ## References -/

def capUsers : Reference vxdbSchema :=
  ⟨Table.userCaps, cstr "uid", Table.user, cstr "uid"⟩

def ownerUsers : Reference vxdbSchema :=
  ⟨Table.xidUidMap, cstr "uid", Table.user, cstr "uid"⟩

def memberGroups : Reference vxdbSchema :=
  ⟨Table.xidGidMap, cstr "gid", Table.groups, cstr "gid"⟩

/-- The values of an id column are integers of the machine. -/
def IdColumn (table : Table) (column : Str) (db : Vxdb) : Prop :=
  ∀ row ∈ db.rows table, ∃ id, table.cell row column = .int id ∧ int32 id = id

/-- Users and groups have ids, and everything that refers to them refers to one. -/
structure Accounted (db : Vxdb) : Prop where
  users : IdColumn .user (cstr "uid") db
  groups : IdColumn .groups (cstr "gid") db
  caps : capUsers.Holds db
  owners : ownerUsers.Holds db
  members : memberGroups.Holds db

theorem accounted_freshVxdb (uptime : Int) : Accounted (freshVxdb uptime) where
  users row mem := by
    simp only [freshVxdb, List.mem_cons, List.not_mem_nil, or_false] at mem
    rcases mem with rfl | rfl
    · exact ⟨1, by rfl, by rfl⟩
    · exact ⟨2, by rfl, by rfl⟩
  groups row mem := by
    obtain rfl := List.mem_singleton.mp mem
    exact ⟨1, by rfl, by rfl⟩
  caps := by
    have holds : capUsers.Holds (freshVxdb 0) := by decide
    exact holds
  owners _ mem := by cases mem
  members _ mem := by cases mem

variable {setup : Setup} {request : Request} {first db next : Vxdb}

/-! ## What the lookups found -/

theorem int32_int32 (value : Int) : int32 (int32 value) = int32 value :=
  Int.bmod_bmod

/-- The id a lookup found stands in a row. -/
theorem IdColumn.occurs {table : Table} {column : Str} (ids : IdColumn table column db)
    {row : Row} (mem : row ∈ db.rows table) {id : Int}
    (read : vxdbColumnInt [table.cell row column] 0 = id) : db.Occurs table column (.int id) := by
  obtain ⟨stored, known, small⟩ := ids row mem
  refine ⟨row, mem, known.trans ?_⟩
  rw [known] at read
  exact congrArg Value.int (small.symm.trans read)

theorem Accounted.user_occurs (accounted : Accounted db) {uid : Int} (isUid : IsUid db uid) :
    db.Occurs Table.user (cstr "uid") (.int uid) := by
  obtain ⟨user, valid, known, nonzero⟩ := isUid
  obtain ⟨-, row, mem, named⟩ := mem_of_uidIn (known ▸ nonzero)
  exact accounted.users.occurs mem ((uidIn_of_mem valid mem named).symm.trans known)

theorem Accounted.group_occurs (accounted : Accounted db) {group : Str} {gid : Int}
    (valid : validateGroup group = true) (known : gidIn db.oracle group = gid)
    (nonzero : gid ≠ 0) : db.Occurs Table.groups (cstr "gid") (.int gid) := by
  cases found : (db.rows Table.groups).find? fun row =>
      (Table.groups.cell row (cstr "name")).same (.str group) with
  | none =>
      refine absurd known.symm ?_
      rw [gidIn, valid, firstRow_sqlGetgid (quoteFree_of_validateGroup valid), found]
      exact nonzero
  | some row =>
      rw [gidIn, valid, firstRow_sqlGetgid (quoteFree_of_validateGroup valid), found] at known
      exact accounted.groups.occurs (List.mem_of_find?_eq_some found) known

theorem int32_nextIdIn (oracle : Oracle) (sql : List Piece) :
    int32 (nextIdIn oracle sql) = nextIdIn oracle sql := by
  unfold nextIdIn
  cases firstRow (oracle (render sql)) with
  | none => rfl
  | some row => exact int32_int32 _

/-! ## What changes preserve -/

namespace Accounted

/-- The tables of accounts and of what refers to them. -/
def tables : List Table :=
  [.user, .groups, .userCaps, .xidUidMap, .xidGidMap]

/-- Accounts may be added, and rows that refer to accounts may go. -/
theorem of_grown (accounted : Accounted db) (users : IdColumn .user (cstr "uid") next)
    (groups : IdColumn .groups (cstr "gid") next)
    (keptUsers : db.rows Table.user ⊆ next.rows Table.user)
    (keptGroups : db.rows Table.groups ⊆ next.rows Table.groups)
    (caps : next.rows Table.userCaps ⊆ db.rows Table.userCaps)
    (owners : next.rows Table.xidUidMap ⊆ db.rows Table.xidUidMap)
    (members : next.rows Table.xidGidMap ⊆ db.rows Table.xidGidMap) : Accounted next where
  users
  groups
  caps := accounted.caps.of_subset caps keptUsers
  owners := accounted.owners.of_subset owners keptUsers
  members := accounted.members.of_subset members keptGroups

theorem of_subset (accounted : Accounted db)
    (users : next.rows Table.user = db.rows Table.user)
    (groups : next.rows Table.groups = db.rows Table.groups)
    (caps : next.rows Table.userCaps ⊆ db.rows Table.userCaps)
    (owners : next.rows Table.xidUidMap ⊆ db.rows Table.xidUidMap)
    (members : next.rows Table.xidGidMap ⊆ db.rows Table.xidGidMap) : Accounted next :=
  accounted.of_grown (fun row mem => accounted.users row (users ▸ mem))
    (fun row mem => accounted.groups row (groups ▸ mem)) (users ▸ List.Subset.refl _)
    (groups ▸ List.Subset.refl _) caps owners members

theorem of_rows (accounted : Accounted db)
    (same : ∀ table ∈ tables, next.rows table = db.rows table) : Accounted next := by
  have kept (table : Table) (mem : table ∈ tables) : next.rows table ⊆ db.rows table := by
    rw [same table mem]
    exact List.Subset.refl _
  exact accounted.of_subset (same _ (by decide)) (same _ (by decide)) (kept _ (by decide))
    (kept _ (by decide)) (kept _ (by decide))

/-- An effect on other tables. -/
theorem of_effect (accounted : Accounted db) {others : List Table} {xid : Int}
    {added : Region vxdbSchema} (effect : Effect (rowsOf others xid) added db next)
    (apart : ∀ table ∈ tables, table ∉ others) : Accounted next :=
  accounted.of_rows fun table mem => effect.rows_eq fun row => by simp [rowsOf, apart table mem]

end Accounted

/-! ## Statements about rights -/

/-- The value of a column after an assignment to a user. -/
def assigned (assignments : List (Str × Expr)) (db : Vxdb) (row : Row) (column : Str) : Value :=
  match assignments.lookup column with
  | some expr => expr.value db (vxdbSchema.env Table.user row)
  | none => Table.user.cell row column

theorem setUser_uid {column : Str} (other : column ≠ cstr "uid") (value : Expr) (row : Row) :
    Table.user.cell (setUser column value db row) (cstr "uid") =
      Table.user.cell row (cstr "uid") := by
  have missing : List.lookup (cstr "uid") [(column, value)] = none := by
    rw [List.lookup_cons, beq_false_of_ne other.symm, List.lookup_nil]
  have cell : Table.user.cell (setUser column value db row) (cstr "uid") =
      assigned [(column, value)] db row (cstr "uid") := rfl
  rw [cell, assigned, missing]

/-- An inserted account has an id, and the others keep theirs. -/
theorem IdColumn.insert {table : Table} {column : Str} (ids : IdColumn table column db) {row : Row}
    (inserted : db.insert table row = some next) {id : Int}
    (known : table.cell row column = .int id) (small : int32 id = id) :
    IdColumn table column next ∧ db.rows table ⊆ next.rows table := by
  have rows := Database.rows_insert_same inserted
  rw [IdColumn, rows]
  refine ⟨fun other mem => ?_, List.subset_append_left _ _⟩
  rcases List.mem_append.mp mem with old | new
  · exact ids other old
  · obtain rfl := List.mem_singleton.mp new
    exact ⟨id, known, small⟩

theorem rows_insert_other {table : Table} {row : Row}
    (inserted : db.insert table row = some next) (other : Table) (ne : other ≠ table) :
    next.rows other = db.rows other := by
  obtain ⟨rfl, -⟩ := Database.insert_eq_some inserted
  exact db.rows_replace_other ne row

namespace Accounted

variable (accounted : Accounted db)

include accounted

/-- A user may be rewritten, but not the id. -/
theorem update_user {column : Str} (other : column ≠ cstr "uid") {value : Expr}
    {selected : Row → Bool}
    (updated : db.update Table.user selected (setUser column value db) = some next) :
    Accounted next := by
  have rows := Database.rows_update_same updated
  have same (table : Table) (ne : table ≠ .user) : next.rows table = db.rows table :=
    Database.rows_update_other updated ne
  have keeps (row : Row) : Table.user.cell
      (if selected row then setUser column value db row else row) (cstr "uid") =
        Table.user.cell row (cstr "uid") := by
    split
    · exact setUser_uid other value row
    · rfl
  constructor
  · intro row mem
    rw [rows] at mem
    obtain ⟨old, oldMem, rfl⟩ := List.mem_map.mp mem
    obtain ⟨id, known, small⟩ := accounted.users old oldMem
    exact ⟨id, (keeps old).trans known, small⟩
  · intro row mem
    exact accounted.groups row (same .groups (by decide) ▸ mem)
  · exact accounted.caps.map_target (same .userCaps (by decide)) rows fun row _ => keeps row
  · exact accounted.owners.map_target (same .xidUidMap (by decide)) rows fun row _ => keeps row
  · exact accounted.members.of_rows (same .xidGidMap (by decide)) (same .groups (by decide))

/-- A new user refers to nothing. -/
theorem insert_user {uid : Int} (small : int32 uid = uid) {rest : List Value}
    (inserted : db.insert Table.user (.int uid :: rest) = some next) : Accounted next := by
  obtain ⟨users, kept⟩ := accounted.users.insert inserted (by rfl) small
  have same := rows_insert_other inserted
  have subset (table : Table) (ne : table ≠ .user) : next.rows table ⊆ db.rows table :=
    same table ne ▸ List.Subset.refl _
  exact accounted.of_grown users (fun row mem => accounted.groups row (same .groups nofun ▸ mem))
    kept (same .groups nofun ▸ List.Subset.refl _) (subset _ nofun) (subset _ nofun)
    (subset _ nofun)

theorem insert_group {gid : Int} (small : int32 gid = gid) {rest : List Value}
    (inserted : db.insert Table.groups (.int gid :: rest) = some next) : Accounted next := by
  obtain ⟨groups, kept⟩ := accounted.groups.insert inserted (by rfl) small
  have same := rows_insert_other inserted
  have subset (table : Table) (ne : table ≠ .groups) : next.rows table ⊆ db.rows table :=
    same table ne ▸ List.Subset.refl _
  exact accounted.of_grown (fun row mem => accounted.users row (same .user nofun ▸ mem)) groups
    (same .user nofun ▸ List.Subset.refl _) kept (subset _ nofun) (subset _ nofun)
    (subset _ nofun)

/-- A row that refers to an account may be put in. -/
theorem replace (ref : Reference vxdbSchema) (listed : ref ∈ [capUsers, ownerUsers, memberGroups])
    {row : Row} (names : ref.Names db (ref.value row)) : Accounted (db.replace ref.table row) := by
  simp only [List.mem_cons, List.not_mem_nil, or_false] at listed
  have same (other : Table) (ne : other ≠ ref.table) :
      (db.replace ref.table row).rows other = db.rows other :=
    db.rows_replace_other ne row
  rcases listed with rfl | rfl | rfl
  · exact {
      users := fun row mem => accounted.users row (same .user nofun ▸ mem)
      groups := fun row mem => accounted.groups row (same .groups nofun ▸ mem)
      caps := accounted.caps.replace nofun names
      owners := accounted.owners.of_rows (same .xidUidMap nofun) (same .user nofun)
      members := accounted.members.of_rows (same .xidGidMap nofun) (same .groups nofun) }
  · exact {
      users := fun row mem => accounted.users row (same .user nofun ▸ mem)
      groups := fun row mem => accounted.groups row (same .groups nofun ▸ mem)
      caps := accounted.caps.of_rows (same .userCaps nofun) (same .user nofun)
      owners := accounted.owners.replace nofun names
      members := accounted.members.of_rows (same .xidGidMap nofun) (same .groups nofun) }
  · exact {
      users := fun row mem => accounted.users row (same .user nofun ▸ mem)
      groups := fun row mem => accounted.groups row (same .groups nofun ▸ mem)
      caps := accounted.caps.of_rows (same .userCaps nofun) (same .user nofun)
      owners := accounted.owners.of_rows (same .xidUidMap nofun) (same .user nofun)
      members := accounted.members.replace nofun names }

/-- Rows that refer to accounts may be deleted from one table. -/
theorem delete {table : Table} (apart : table ∉ [Table.user, .groups]) (selected : Row → Bool) :
    Accounted (db.delete table selected) := by
  simp only [List.mem_cons, List.not_mem_nil, or_false, not_or] at apart
  have fewer := db.rows_delete_subset table selected
  exact accounted.of_subset (db.rows_delete_other (Ne.symm apart.1) _)
    (db.rows_delete_other (Ne.symm apart.2) _) (fewer _) (fewer _) (fewer _)

/-- A user goes with all capabilities and ownerships. -/
theorem remove_user (uid : Int) (applied : applyAll db
    (RightsWrite.userRemove uid).changes = some next) : Accounted next := by
  obtain ⟨last, known, rows⟩ := applyAll_deletes db [Table.xidUidMap, .userCaps, .user]
    (byId (cstr "uid") uid)
  obtain rfl : last = next := Option.some.inj (known.symm.trans applied)
  have users : last.rows Table.user = _ := rows Table.user
  have caps : last.rows Table.userCaps = _ := rows Table.userCaps
  have owners : last.rows Table.xidUidMap = _ := rows Table.xidUidMap
  have groups : last.rows Table.groups = db.rows Table.groups := rows Table.groups
  have members : last.rows Table.xidGidMap = db.rows Table.xidGidMap := rows Table.xidGidMap
  have spared (row : Row) (mem : row ∈ db.rows Table.user)
      (other : (Table.user.cell row (cstr "uid")).same (.int uid) = false) :
      row ∈ last.rows Table.user := by
    rw [users]
    exact List.mem_filter.mpr ⟨mem, (Bool.not_eq_true' _).mpr other⟩
  constructor
  · intro row mem
    rw [users] at mem
    exact accounted.users row (List.mem_of_mem_filter mem)
  · exact fun row mem => accounted.groups row (groups ▸ mem)
  · refine accounted.caps.delete_key (.int uid) (fun row mem => ?_) spared
    have kept := List.mem_filter.mp (caps ▸ mem)
    exact ⟨kept.1, (Bool.not_eq_true' _).mp kept.2⟩
  · refine accounted.owners.delete_key (.int uid) (fun row mem => ?_) spared
    have kept := List.mem_filter.mp (owners ▸ mem)
    exact ⟨kept.1, (Bool.not_eq_true' _).mp kept.2⟩
  · exact accounted.members.of_rows members groups

/-- A group goes with all memberships. -/
theorem remove_group (gid : Int) (applied : applyAll db
    (RightsWrite.groupRemove gid).changes = some next) : Accounted next := by
  obtain ⟨last, known, rows⟩ := applyAll_deletes db [Table.xidGidMap, .groups]
    (byId (cstr "gid") gid)
  obtain rfl : last = next := Option.some.inj (known.symm.trans applied)
  have users : last.rows Table.user = db.rows Table.user := rows Table.user
  have caps : last.rows Table.userCaps = db.rows Table.userCaps := rows Table.userCaps
  have owners : last.rows Table.xidUidMap = db.rows Table.xidUidMap := rows Table.xidUidMap
  have groups : last.rows Table.groups = _ := rows Table.groups
  have members : last.rows Table.xidGidMap = _ := rows Table.xidGidMap
  have spared (row : Row) (mem : row ∈ db.rows Table.groups)
      (other : (Table.groups.cell row (cstr "gid")).same (.int gid) = false) :
      row ∈ last.rows Table.groups := by
    rw [groups]
    exact List.mem_filter.mpr ⟨mem, (Bool.not_eq_true' _).mpr other⟩
  constructor
  · exact fun row mem => accounted.users row (users ▸ mem)
  · intro row mem
    rw [groups] at mem
    exact accounted.groups row (List.mem_of_mem_filter mem)
  · exact accounted.caps.of_rows caps users
  · exact accounted.owners.of_rows owners users
  · refine accounted.members.delete_key (.int gid) (fun row mem => ?_) spared
    have kept := List.mem_filter.mp (members ▸ mem)
    exact ⟨kept.1, (Bool.not_eq_true' _).mp kept.2⟩

/-- Statements about rights keep all references, whatever they are. -/
theorem of_rights {write : RightsWrite} (meant : write.Meant db)
    (applied : applyAll db write.changes = some next) : Accounted next := by
  cases write with
  | capsAdd uid cap =>
      obtain rfl := Option.some.inj (applyAll_singleton.symm.trans applied)
      exact accounted.replace capUsers (by simp) (accounted.user_occurs meant)
  | capsRemove uid cap =>
      cases cap with
      | none =>
          obtain rfl := Option.some.inj (applyAll_singleton.symm.trans applied)
          exact accounted.delete (by decide) _
      | some cap =>
          obtain rfl := Option.some.inj (applyAll_singleton.symm.trans applied)
          exact accounted.delete (by decide) _
  | userRemove uid => exact accounted.remove_user uid applied
  | userInsert uid user hash admin =>
      have small : int32 uid = uid := by
        rw [show uid = nextIdIn db.oracle sqlNextuid from meant, int32_nextIdIn]
      exact accounted.insert_user small (applyAll_singleton.symm.trans applied)
  | userAdmin uid admin =>
      exact accounted.update_user (by decide) (applyAll_singleton.symm.trans applied)
  | userPassword uid hash =>
      exact accounted.update_user (by decide) (applyAll_singleton.symm.trans applied)
  | ownerAdd xid uid =>
      obtain rfl := Option.some.inj (applyAll_singleton.symm.trans applied)
      exact accounted.replace ownerUsers (by simp) (accounted.user_occurs meant.1)
  | ownerRemove xid uid =>
      obtain rfl := Option.some.inj (applyAll_singleton.symm.trans applied)
      exact accounted.delete (by decide) _
  | groupInsert gid group =>
      have small : int32 gid = gid := by
        rw [show gid = nextIdIn db.oracle sqlLastGid from meant, int32_nextIdIn]
      exact accounted.insert_group small (applyAll_singleton.symm.trans applied)
  | memberInsert xid gid =>
      obtain ⟨rfl, -⟩ := Database.insert_eq_some (applyAll_singleton.symm.trans applied)
      refine accounted.replace memberGroups (by simp) ?_
      obtain ⟨-, ⟨group, valid, known, nonzero⟩ | ⟨earlier, group, inserted⟩⟩ := meant
      · exact accounted.group_occurs valid known nonzero
      · have rows := Database.rows_insert_same inserted
        exact ⟨[.int gid, .str group],
          rows ▸ List.mem_append_right _ (List.mem_singleton_self _), by rfl⟩
  | memberRemove xid gid =>
      obtain rfl := Option.some.inj (applyAll_singleton.symm.trans applied)
      exact accounted.delete (by decide) _
  | groupRemove gid => exact accounted.remove_group gid applied

end Accounted

/-- All changes of clean requests keep the references to accounts. -/
theorem Accounted.of_changed (accounted : Accounted db)
    (changed : Changed setup request first db next) : Accounted next := by
  cases changed with
  | same rows =>
      have apart : ∀ table ∈ tables, table ≠ .vcd := by decide
      exact accounted.of_rows fun table mem => rows table (apart table mem)
  | config table name xid listed means effect =>
      have apart : ∀ table ∈ configTables, ∀ other ∈ tables, other ∉ [table] := by decide
      exact accounted.of_effect effect (apart table listed)
  | restart name xid named effect => exact accounted.of_effect effect (by decide)
  | rights write kind free meant applied => exact accounted.of_rights meant applied
  | remove user name xid kind userEq nameEq owned means unchanged applied =>
      obtain ⟨last, known, rows⟩ := applyAll_deletes db removedTables
        fun _ => ofXid (int32 xid)
      obtain rfl : last = next := Option.some.inj (known.symm.trans applied)
      have fewer (table : Table) : last.rows table ⊆ db.rows table := by
        have shrunk := rows table
        split at shrunk
        · exact shrunk ▸ List.filter_subset_self _
        · exact shrunk ▸ List.Subset.refl _
      exact accounted.of_subset (rows Table.user) (rows Table.groups) (fewer _) (fewer _) (fewer _)
  | rename name newname xid kind nameEq newnameEq valid means unchanged applied =>
      have updated := applyAll_singleton.symm.trans applied
      have apart : ∀ table ∈ tables, table ≠ .xidNameMap := by decide
      exact accounted.of_rows fun table mem => Database.rows_update_other updated (apart table mem)
  | create user name param vdir xid conf entries kind userEq nameEq paramEq valid checked short
      resolved target known assembled clean unchanged applied =>
      have apart : ∀ table ∈ tables, table ∉ clearedTables := by decide
      exact accounted.of_effect (effect_create applied) apart

/-- The references to accounts hold whenever a clean request is done. -/
theorem kept_accounts (harmless : Harmless setup request first) :
    Kept setup request first Accounted :=
  kept_of_changed harmless fun _ _ accounted changed => accounted.of_changed changed

/-! ## Ids that are handed out -/

/-- The database after an operation. -/
def following (step : World × Op) : Vxdb :=
  (World.performs 0 step.1 step.2).2.db

/-- If the operation creates a user with the id, the id has no rights from before. -/
def UserPlain (step : World × Op) (uid : Int) : Prop :=
  (following step).Occurs Table.user (cstr "uid") (.int uid) →
    ¬ step.1.db.Occurs Table.user (cstr "uid") (.int uid) →
      ¬ step.1.db.Occurs Table.userCaps (cstr "uid") (.int uid) ∧
        ¬ step.1.db.Occurs Table.xidUidMap (cstr "uid") (.int uid)

instance (step : World × Op) (uid : Int) : Decidable (UserPlain step uid) :=
  inferInstanceAs (Decidable (_ → _ → _ ∧ _))

/-- If the operation creates a group with the id, the id has no members from before. -/
def GroupPlain (step : World × Op) (gid : Int) : Prop :=
  (following step).Occurs Table.groups (cstr "gid") (.int gid) →
    ¬ step.1.db.Occurs Table.groups (cstr "gid") (.int gid) →
      ¬ step.1.db.Occurs Table.xidGidMap (cstr "gid") (.int gid)

/-- Whatever user or group the operation creates has no rights from before. -/
def StartsPlain (step : World × Op) : Prop :=
  (∀ uid, UserPlain step uid) ∧ ∀ gid, GroupPlain step gid

theorem Accounted.startsPlain {step : World × Op} (accounted : Accounted step.1.db) :
    StartsPlain step := by
  constructor
  · intro uid _ new
    constructor
    · rintro ⟨row, mem, known⟩
      obtain ⟨user, userMem, same⟩ := accounted.caps row mem
      exact new ⟨user, userMem, same.trans known⟩
    · rintro ⟨row, mem, known⟩
      obtain ⟨user, userMem, same⟩ := accounted.owners row mem
      exact new ⟨user, userMem, same.trans known⟩
  · rintro gid _ new ⟨row, mem, known⟩
    obtain ⟨group, groupMem, same⟩ := accounted.members row mem
    exact new ⟨group, groupMem, same.trans known⟩

/-- In every run of clean requests from a fresh database, an id that a request hands out has no
capabilities, ownerships and members left from before. -/
theorem reused_ids_start_plain (host : Host) (uptime : Int) (first last : World)
    (fresh : first.db = freshVxdb uptime)
    (serves : Serves host (fun templates request world =>
      Harmless ⟨host, templates⟩ request world.db) first last)
    (templates : Templates) (request : Request)
    (harmless : Harmless ⟨host, templates⟩ request last.db) :
    ∀ step ∈ ((handle ⟨host, templates⟩ request).run machine 0 last).trace, StartsPlain step := by
  intro step mem
  have start : Accounted first.db := fresh ▸ accounted_freshVxdb uptime
  have reached : Accounted last.db := serves.invariant start fun templates request world allowed
      accounted => serve_keeps (kept_accounts allowed) accounted
  obtain ⟨past, explained, -⟩ := (handle_explained (kept_accounts harmless) reached).2 step mem
  exact explained.holds.startsPlain

/-- The administrator creates a user. -/
def userRequest (user : Str) : Request where
  method := cstr "vcd.user.set"
  credentials := adminCredentials
  params := .struct [(cstr "username", .str user), (cstr "password", .str (cstr "password")),
    (cstr "admin", .bool false)]

/-- The administrator gives a user the right to create virtual servers. -/
def createCapRequest (user : Str) : Request where
  method := cstr "vcd.user.caps.add"
  credentials := adminCredentials
  params := .struct [(cstr "username", .str user), (cstr "cap", .str (cstr "CREATE"))]

/-- The administrator removes a user. -/
def userRemoval (user : Str) : Request where
  method := cstr "vcd.user.remove"
  credentials := adminCredentials
  params := .struct [(cstr "username", .str user)]

/-- A user with a capability. -/
def withEve : World :=
  serve plainSetup (createCapRequest (cstr "eve"))
    (serve plainSetup (userRequest (cstr "eve")) (World.boot (freshVxdb 0) idleKernel))

/-- The user is removed and another one created, who gets the id with nothing left of it. -/
theorem reused_ids_start_plain_user :
    withEve.db.Occurs Table.userCaps (cstr "uid") (.int 3) ∧
      ((handle plainSetup (userRequest (cstr "mallory"))).run machine 0
        (serve plainSetup (userRemoval (cstr "eve")) withEve)).state.db.Occurs Table.user
          (cstr "uid") (.int 3) ∧
      ∀ step ∈ ((handle plainSetup (userRequest (cstr "mallory"))).run machine 0
        (serve plainSetup (userRemoval (cstr "eve")) withEve)).trace, StartsPlain step := by
  refine ⟨by decide +kernel, by decide +kernel, ?_⟩
  exact reused_ids_start_plain default 0 (World.boot (freshVxdb 0) idleKernel) _ rfl
    (.step (.step (.step .refl (fun _ => .fileError) (userRequest (cstr "eve"))
      ⟨fun _ _ known => texts_struct known (by decide), nofun, nofun⟩) (fun _ => .fileError)
        (createCapRequest (cstr "eve"))
      ⟨fun _ _ known => texts_struct known (by decide), nofun, nofun⟩) (fun _ => .fileError)
        (userRemoval (cstr "eve"))
      ⟨fun _ _ known => texts_struct known (by decide), nofun, nofun⟩)
    (fun _ => .fileError) (userRequest (cstr "mallory"))
    ⟨fun _ _ known => texts_struct known (by decide), nofun, nofun⟩

/-- Mount options that a second formatted print turns into a statement. -/
def formatConf : TemplateConf where
  mounts := [{
    dst := cstr "/mnt", src := some (cstr "none"), type := some (cstr "tmpfs"),
    opts := some (cstr "%c);INSERT INTO user_caps VALUES(3,%cAUTH%c);SELECT(%c") }]

/-- A template grants a capability to the next user. -/
theorem reused_ids_format : ¬ ∀ (host : Host) (uptime : Int) (first last : World),
    first.db = freshVxdb uptime →
    Serves host (fun templates request _ => request.Free ∧ templates.All QuoteFree) first last →
    ∀ (templates : Templates) (request : Request), request.Free → templates.All QuoteFree →
      ∀ step ∈ ((handle ⟨host, templates⟩ request).run machine 0 last).trace, StartsPlain step := by
  intro plain
  have clean : Templates.All QuoteFree fun _ => .parsed formatConf := by
    rintro path conf ⟨⟩
    exact ⟨by decide, by decide, by decide, by decide⟩
  have steps := plain quotingHost 0 (World.boot (freshVxdb 0) confKernel) _ rfl
    (.step .refl _ (createRequest (cstr "web"))
      ⟨fun _ _ known => texts_struct known (by decide), clean⟩) _
    (userRequest (cstr "eve")) (fun _ _ known => texts_struct known (by decide)) clean
  have third := fun step mem => ((steps step mem).1 3)
  exact absurd third (by decide +kernel)

end Vcd
