import Vcd.Accounts
import Vcd.Endings
import Vcd.Vxdb.Sanity

/-!
# Restarting the daemon

The check of the database at a start repairs users by fixed names. It succeeds on every
database that clean requests leave behind, unless the user `admin` was demoted while nobody
else is an administrator.
-/

namespace Vcd

open Sql Process

/-! ## Runs of the check -/

section Ends

variable {α : Type} {world : World}

theorem ends_nextuid (rest : Int → Method α) : ends (authGetnextuid >>= rest) world =
    ends (rest (nextIdIn world.db.oracle sqlNextuid)) world :=
  ends_lookup lookup_authGetnextuid (answer_authGetnextuid _) rest

/-- A text that must not fail. -/
theorem ends_exec_or_die (sql : List Piece) (rest : Unit → Method α) :
    ends ((do
        let outcome ← vxdbExec sql
        if !outcome.ok then .exit : Method Unit) >>= rest) world =
      if (execText world.db (render sql)).2.ok then
        ends (rest ()) { world with db := (execText world.db (render sql)).1 }
      else (.exited, { world with db := (execText world.db (render sql)).1 }) := by
  change ends ((if !(execText world.db (render sql)).2.ok then .exit else pure ()) >>= rest)
    { world with db := (execText world.db (render sql)).1 } = _
  cases (execText world.db (render sql)).2.ok <;> rfl

theorem ends_ensureUser (sql : List Piece) (name : Str) (rest : Unit → Method α) :
    ends (ensureUser sql name >>= rest) world =
      if (firstRow (world.db.oracle (render sql))).isSome then ends (rest ()) world
      else ends (vxdbCreateUser name >>= rest) world := by
  unfold ensureUser Vxdb.oracle
  rw [bind_assoc, ends_prepare]
  rcases prepareText world.db (render sql) with _ | _ | ⟨row, rows⟩ <;> rfl

/-- A user that a query finds is not created. -/
theorem ends_found {sql : List Piece} (found : (firstRow (world.db.oracle (render sql))).isSome)
    (name : Str) (rest : Unit → Method α) :
    ends (ensureUser sql name >>= rest) world = ends (rest ()) world := by
  rw [ends_ensureUser, if_pos found]

theorem ends_missing {sql : List Piece}
    (missing : ¬ (firstRow (world.db.oracle (render sql))).isSome) (name : Str)
    (rest : Unit → Method α) :
    ends (ensureUser sql name >>= rest) world = ends (vxdbCreateUser name >>= rest) world := by
  rw [ends_ensureUser, if_neg missing]

end Ends

/-! ## New users -/

/-- The ids of users are below a bound, and capabilities belong to users. -/
structure Roomy (bound : Int) (db : Vxdb) : Prop where
  users : ∀ row ∈ db.rows Table.user, ∃ uid, Table.user.cell row (cstr "uid") = .int uid ∧
    int32 uid = uid ∧ uid < bound
  caps : capUsers.Holds db

variable {db next : Vxdb} {bound : Int}

theorem int32_range (value : Int) : -2 ^ 31 ≤ int32 value ∧ int32 value < 2 ^ 31 :=
  ⟨Int.le_bmod (by omega), Int.bmod_lt (by omega)⟩

/-- The next id is free. -/
theorem Roomy.nextuid (roomy : Roomy bound db) (low : 1 ≤ bound) (high : bound < 2 ^ 31) :
    int32 (nextIdIn db.oracle sqlNextuid) = nextIdIn db.oracle sqlNextuid ∧
      nextIdIn db.oracle sqlNextuid ≤ bound ∧ ∀ row ∈ db.rows Table.user,
        (Table.user.cell row (cstr "uid")).same (.int (nextIdIn db.oracle sqlNextuid)) = false := by
  refine ⟨int32_nextIdIn _ _, ?_⟩
  rcases @nextuid_cases db with ⟨empty, first⟩ | ⟨row, mem, largest, first⟩
  · have one : nextIdIn db.oracle sqlNextuid = 1 := by
      rw [nextIdIn, first]
      rfl
    rw [one, empty]
    exact ⟨low, by simp⟩
  · obtain ⟨uid, cell, small, below⟩ := roomy.users row mem
    have range := int32_range uid
    have value : nextIdIn db.oracle sqlNextuid = uid + 1 := by
      rw [nextIdIn, first, cell]
      change int32 (int32 uid + 1) = uid + 1
      rw [small]
      exact Int.bmod_eq_of_le (by omega) (by omega)
    rw [value]
    refine ⟨by omega, fun other otherMem => Bool.eq_false_iff.mpr fun same => ?_⟩
    have order := largest other otherMem
    rw [(Value.same_int_right _ _).mp same, cell] at order
    have : uid + 1 ≤ uid := of_decide_eq_true order
    omega

/-- The rows of a new user do not clash with each other. -/
theorem accountRows_distinct (uid : Int) (name : Str) (admin : Int) {caps : List Str}
    (nodup : caps.Nodup) : (accountRows uid name admin caps).Pairwise fun left right =>
      left.1 = right.1 → vxdbSchema.conflict left.1 left.2 right.2 = false := by
  refine List.pairwise_cons.mpr ⟨fun entry mem same => ?_, ?_⟩
  · obtain ⟨cap, -, rfl⟩ := List.mem_map.mp mem
    cases same
  · refine List.pairwise_map.mpr (nodup.imp fun {left right} ne _ => ?_)
    change ((Value.int uid).same (.int uid) && ((Value.str left).same (.str right) && true) ||
      false) = false
    simp [Value.same, ne]

/-- A new user with a new name is created with all capabilities. -/
theorem Roomy.create (roomy : Roomy bound db) (low : 1 ≤ bound) (high : bound < 2 ^ 31)
    {name : Str} (admin : Int) {caps : List Str} (nodup : caps.Nodup)
    (absent : ¬ db.Occurs Table.user (cstr "name") (.str name)) :
    ∃ next, applyAll db
        ((accountRows (nextIdIn db.oracle sqlNextuid) name admin caps).map insertRow) = some next ∧
      Roomy (bound + 1) next ∧ next.Occurs Table.user (cstr "name") (.str name) ∧
        next.Occurs Table.user (cstr "admin") (.int admin) := by
  obtain ⟨small, below, free⟩ := roomy.nextuid low high
  generalize nextIdIn db.oracle sqlNextuid = uid at *
  have apart : ∀ entry ∈ accountRows uid name admin caps, ∀ other ∈ db.rows entry.1,
      vxdbSchema.conflict entry.1 other entry.2 = false := by
    intro entry mem other otherMem
    rcases List.mem_cons.mp mem with rfl | mem
    · have named : (Table.user.cell other (cstr "name")).same (.str name) = false :=
        Bool.eq_false_iff.mpr fun same =>
          absent ⟨other, otherMem, (Value.same_str_right _ _).mp same⟩
      change ((Table.user.cell other (cstr "uid")).same (.int uid) && true ||
        ((Table.user.cell other (cstr "name")).same (.str name) && true || false)) = false
      simp [free other otherMem, named]
    · obtain ⟨cap, -, rfl⟩ := List.mem_map.mp mem
      obtain ⟨user, userMem, same⟩ := roomy.caps other otherMem
      have foreign : (Table.userCaps.cell other (cstr "uid")).same (.int uid) = false :=
        (congrArg (Value.same · (.int uid)) same).symm.trans (free user userMem)
      change ((Table.userCaps.cell other (cstr "uid")).same (.int uid) &&
        ((Table.userCaps.cell other (cstr "cap")).same (.str cap) && true) || false) = false
      simp [foreign]
  obtain ⟨next, applied⟩ := @applyAll_inserts_succeeds vxdbSchema db _ apart
    (accountRows_distinct uid name admin nodup)
  have rows := applyAll_inserts applied
  have users : next.rows Table.user =
      db.rows Table.user ++ [[.int uid, .str name, .str (cstr "*"), .int admin]] := by
    rw [rows]
    simp [accountRows, List.filter_map, Function.comp_def]
  have grants : next.rows Table.userCaps =
      db.rows Table.userCaps ++ caps.map fun cap => [.int uid, .str cap] := by
    rw [rows]
    simp [accountRows, List.filter_map, Function.comp_def]
  have new : [.int uid, .str name, .str (cstr "*"), .int admin] ∈ next.rows Table.user :=
    users ▸ List.mem_append_right _ (List.mem_singleton_self _)
  refine ⟨next, applied, ⟨fun row mem => ?_, fun row mem => ?_⟩, ⟨_, new, by rfl⟩,
    ⟨_, new, by rfl⟩⟩
  · rcases List.mem_append.mp (users ▸ mem) with old | same
    · obtain ⟨stored, cell, smallStored, less⟩ := roomy.users row old
      exact ⟨stored, cell, smallStored, by omega⟩
    · obtain rfl := List.mem_singleton.mp same
      exact ⟨uid, by rfl, small, by omega⟩
  · rcases List.mem_append.mp (show row ∈ _ from grants ▸ mem) with old | granted
    · exact (roomy.caps row old).of_subset (users ▸ List.subset_append_left _ _)
    · obtain ⟨cap, -, rfl⟩ := List.mem_map.mp granted
      exact ⟨_, new, by rfl⟩

/-- There are no two users of one name. -/
theorem create_fails {uid admin : Int} {name : Str} {caps : List Str}
    (present : db.Occurs Table.user (cstr "name") (.str name)) :
    applyAll db ((accountRows uid name admin caps).map insertRow) = none := by
  obtain ⟨other, mem, named⟩ := present
  refine Option.bind_eq_none_iff.mpr fun between inserted => ?_
  have apart := (Database.insert_eq_some inserted).2 other mem
  have clash : vxdbSchema.conflict Table.user other
      [.int uid, .str name, .str (cstr "*"), .int admin] = true := by
    change ((Table.user.cell other (cstr "uid")).same (.int uid) && true ||
      ((Table.user.cell other (cstr "name")).same (.str name) && true || false)) = true
    simp [named, Value.same]
  exact absurd (apart.symm.trans clash) (by simp)

/-! ## The check on a database -/

section Check

variable {α : Type} {world : World}

theorem ends_createAdmin (rest : Unit → Method α) :
    ends (vxdbCreateUser (cstr "admin") >>= rest) world =
      match applyAll world.db ((accountRows (nextIdIn world.db.oracle sqlNextuid) (cstr "admin") 1
        adminCaps).map insertRow) with
      | some next => ends (rest ()) { world with db := next }
      | none => (.exited, world) := by
  rw [vxdbCreateUser, bind_assoc, ends_nextuid, if_pos rfl, ends_exec_or_die]
  obtain ⟨after, ok⟩ := runs_sqlCreateAdmin (nextIdIn world.db.oracle sqlNextuid) world.db
  rw [after, ok]
  cases applyAll world.db _ <;> rfl

theorem ends_createVshelper (rest : Unit → Method α) :
    ends (vxdbCreateUser (cstr "vshelper") >>= rest) world =
      match applyAll world.db ((accountRows (nextIdIn world.db.oracle sqlNextuid)
        (cstr "vshelper") 0 [cstr "HELPER"]).map insertRow) with
      | some next => ends (rest ()) { world with db := next }
      | none => (.exited, world) := by
  rw [vxdbCreateUser, bind_assoc, ends_nextuid, if_neg (by decide), if_pos rfl, ends_exec_or_die]
  obtain ⟨after, ok⟩ := runs_sqlCreateVshelper (nextIdIn world.db.oracle sqlNextuid) world.db
  rw [after, ok]
  cases applyAll world.db _ <;> rfl

/-- The daemon starts: the check reaches its end, and afterwards there are an administrator
and the user `vshelper`. -/
def Starts (how : Process.Outcome Fault Unit × World) : Prop :=
  how.1 = .returned () ∧ how.2.db.Occurs Table.user (cstr "admin") (.int 1) ∧
    how.2.db.Occurs Table.user (cstr "name") (.str (cstr "vshelper"))

/-- With an administrator, only `vshelper` may have to be created. -/
theorem starts_of_admin (roomy : Roomy bound world.db) (low : 1 ≤ bound) (high : bound < 2 ^ 31)
    (admin : world.db.Occurs Table.user (cstr "admin") (.int 1)) :
    Starts (ends (ensureUser sqlVshelper (cstr "vshelper")) world) := by
  rw [← bind_pure (ensureUser _ _)]
  by_cases present : world.db.Occurs Table.user (cstr "name") (.str (cstr "vshelper"))
  · rw [ends_found (firstRow_sqlVshelper.mpr present)]
    exact ⟨rfl, admin, present⟩
  · rw [ends_missing (fun found => present (firstRow_sqlVshelper.mp found)),
      ends_createVshelper]
    obtain ⟨next, applied, -, named, -⟩ := roomy.create low high 0 (List.nodup_singleton _) present
    have users := applyAll_inserts applied Table.user
    rw [applied]
    refine ⟨rfl, ?_, named⟩
    obtain ⟨row, mem, cell⟩ := admin
    exact ⟨row, users ▸ List.mem_append_left _ mem, cell⟩

/-- The check on a database in which two more ids of users fit. -/
theorem starts_iff (roomy : Roomy (2 ^ 31 - 2) world.db) :
    Starts (ends vxdbSanityCheck world) ↔
      world.db.Occurs Table.user (cstr "admin") (.int 1) ∨
        ¬ world.db.Occurs Table.user (cstr "name") (.str (cstr "admin")) := by
  have created (rest : Unit → Method Unit)
      (absent : ¬ world.db.Occurs Table.user (cstr "name") (.str (cstr "admin"))) :
      ∃ next, Roomy (2 ^ 31 - 1) next ∧ next.Occurs Table.user (cstr "admin") (.int 1) ∧
        ends (vxdbCreateUser (cstr "admin") >>= rest) world =
          ends (rest ()) { world with db := next } := by
    obtain ⟨next, applied, roomy, -, admin⟩ :=
      roomy.create (by omega) (by omega) 1 (by decide : adminCaps.Nodup) absent
    exact ⟨next, roomy, admin, by rw [ends_createAdmin, applied]⟩
  rw [vxdbSanityCheck]
  by_cases some : ∃ row, row ∈ world.db.rows Table.user
  · rw [ends_found (firstRow_sqlAnyUser.mpr some)]
    by_cases admin : world.db.Occurs Table.user (cstr "admin") (.int 1)
    · rw [ends_found (firstRow_sqlAnyAdmin.mpr admin)]
      exact iff_of_true (starts_of_admin roomy (by omega) (by omega) admin) (.inl admin)
    · rw [ends_missing (fun found => admin (firstRow_sqlAnyAdmin.mp found))]
      by_cases named : world.db.Occurs Table.user (cstr "name") (.str (cstr "admin"))
      · rw [ends_createAdmin, create_fails named]
        exact iff_of_false (fun starts => nomatch starts.1)
          fun either => either.elim admin fun absent => absent named
      · obtain ⟨next, nextRoomy, nextAdmin, equal⟩ := created _ named
        rw [equal]
        exact iff_of_true (starts_of_admin nextRoomy (by omega) (by omega) nextAdmin) (.inr named)
  · rw [ends_missing (fun found => some (firstRow_sqlAnyUser.mp found))]
    have absent : ¬ world.db.Occurs Table.user (cstr "name") (.str (cstr "admin")) :=
      fun named => named.elim fun row known => some ⟨row, known.1⟩
    obtain ⟨next, nextRoomy, nextAdmin, equal⟩ := created _ absent
    rw [equal, ends_found (firstRow_sqlAnyAdmin.mpr nextAdmin)]
    exact iff_of_true (starts_of_admin nextRoomy (by omega) (by omega) nextAdmin) (.inr absent)

end Check

/-! ## The check after a run -/

/-- Two more ids of users fit into an integer of the machine. -/
def RoomForUsers (db : Vxdb) : Prop :=
  ∀ row ∈ db.rows Table.user, ∀ uid, Table.user.cell row (cstr "uid") = .int uid →
    uid < 2 ^ 31 - 2

theorem Accounted.roomy (accounted : Accounted db) (room : RoomForUsers db) :
    Roomy (2 ^ 31 - 2) db where
  users row mem := by
    obtain ⟨uid, cell, small⟩ := accounted.users row mem
    exact ⟨uid, cell, small, room row mem uid cell⟩
  caps := accounted.caps

/-- After every run of clean requests from a fresh database that leaves room for users, the
daemon starts again if and only if some user is an administrator or no user is named
`admin`. -/
theorem sanity_check_starts_iff (host : Host) (uptime : Int) (first last : World)
    (fresh : first.db = freshVxdb uptime)
    (serves : Serves host (fun templates request world =>
      Harmless ⟨host, templates⟩ request world.db) first last)
    (room : RoomForUsers last.db) :
    Starts (ends vxdbSanityCheck last) ↔
      last.db.Occurs Table.user (cstr "admin") (.int 1) ∨
        ¬ last.db.Occurs Table.user (cstr "name") (.str (cstr "admin")) := by
  have start : Accounted first.db := fresh ▸ accounted_freshVxdb uptime
  have reached : Accounted last.db := serves.invariant start fun templates request world allowed
      accounted => serve_keeps (kept_accounts allowed) accounted
  exact starts_iff (reached.roomy room)

/-- The administrator is no administrator any more. -/
def demoteRequest : Request where
  method := cstr "vcd.user.set"
  credentials := adminCredentials
  params := .struct [(cstr "username", .str (cstr "admin")), (cstr "password", .str []),
    (cstr "admin", .bool false)]

theorem sanity_check_starts_user : Starts (ends vxdbSanityCheck
    (serve plainSetup (userRequest (cstr "eve")) (World.boot (freshVxdb 0) idleKernel))) := by
  refine (sanity_check_starts_iff default 0 (World.boot (freshVxdb 0) idleKernel) _ rfl
    (.step .refl (fun _ => .fileError) (userRequest (cstr "eve"))
      ⟨fun _ _ known => texts_struct known (by decide), nofun, nofun⟩) ?_).mpr ?_
  · have users : (serve plainSetup (userRequest (cstr "eve"))
        (World.boot (freshVxdb 0) idleKernel)).db.rows Table.user =
          (freshVxdb 0).rows Table.user ++
            [[.int 3, .str (cstr "eve"), .str [], .int 0]] := by decide +kernel
    intro row mem uid cell
    have listed := (congrArg (row ∈ ·) users).mp mem
    simp only [freshVxdb, List.cons_append, List.nil_append, List.mem_cons, List.not_mem_nil,
      or_false] at listed
    rcases listed with rfl | rfl | rfl <;> cases cell <;> decide
  · exact .inl (by decide +kernel)

/-- Nobody is an administrator, and the name `admin` is taken. -/
theorem sanity_check_dies : ¬ ∀ (host : Host) (uptime : Int) (first last : World),
    first.db = freshVxdb uptime →
    Serves host (fun templates request _ => request.Free ∧ templates.All QuoteFree) first last →
    Starts (ends vxdbSanityCheck last) := by
  intro starts
  have clean : Templates.All QuoteFree fun _ => .fileError := nofun
  have started := starts default 0 (World.boot (freshVxdb 0) idleKernel) _ rfl
    (.step .refl _ demoteRequest ⟨fun _ _ known => texts_struct known (by decide), clean⟩)
  exact absurd started.2.1 (by decide +kernel)

end Vcd
