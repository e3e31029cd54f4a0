import Vcd.Auth
import Vcd.Sql.References
import Vcd.Vxdb.Scripts

/-!
# The check of the database at a start

The end of `vxdb_sanity_check`, which repairs the users the daemon relies on. The checks of
the version and of the tables before it concern nothing that a request changes.
-/

namespace Vcd

open Sql Process

def sqlGrant (uid : Int) (cap : Str) : List Piece :=
  [.chars (cstr "INSERT INTO user_caps VALUES("), .int uid, .chars (cstr ", '"), .chars cap,
    .chars (cstr "');")]

/-- The capabilities of a new administrator. -/
def adminCaps : List Str :=
  [cstr "AUTH", cstr "DLIM", cstr "INIT", cstr "MOUNT", cstr "NET", cstr "BCAP", cstr "CCAP",
    cstr "CFLAG", cstr "RLIM", cstr "SCHED", cstr "UNAME", cstr "CREATE", cstr "EXEC",
    cstr "INFO"]

def sqlCreateAdmin (uid : Int) : List Piece :=
  [.chars (cstr "BEGIN EXCLUSIVE TRANSACTION;INSERT INTO user (uid, name, password, admin) "),
    .chars (cstr "VALUES ("), .int uid, .chars (cstr ", 'admin', '*', 1);")] ++
    adminCaps.flatMap (sqlGrant uid) ++ [.chars (cstr "COMMIT TRANSACTION;")]

def sqlCreateVshelper (uid : Int) : List Piece :=
  [.chars (cstr "BEGIN EXCLUSIVE TRANSACTION;INSERT INTO user (uid, name, password, admin) "),
    .chars (cstr "VALUES ("), .int uid, .chars (cstr ", 'vshelper', '*', 0);")] ++
    sqlGrant uid (cstr "HELPER") ++ [.chars (cstr "COMMIT TRANSACTION")]

/-- The daemon dies if it cannot create the user. -/
def vxdbCreateUser (name : Str) : Method Unit := do
  let uid ← authGetnextuid
  if name = cstr "admin" then
    let outcome ← vxdbExec (sqlCreateAdmin uid)
    if !outcome.ok then .exit
  else if name = cstr "vshelper" then
    let outcome ← vxdbExec (sqlCreateVshelper uid)
    if !outcome.ok then .exit

def sqlAnyUser : List Piece :=
  [.chars (cstr "SELECT uid FROM user LIMIT 1")]

def sqlAnyAdmin : List Piece :=
  [.chars (cstr "SELECT uid FROM user WHERE admin = 1 LIMIT 1")]

def sqlVshelper : List Piece :=
  [.chars (cstr "SELECT uid FROM user WHERE name = 'vshelper'")]

/-- Create a user unless a query finds one. -/
def ensureUser (sql : List Piece) (name : Str) : Method Unit := do
  match ← vxdbPrepare sql with
  | some (_ :: _) => pure ()
  | _ => vxdbCreateUser name

def vxdbSanityCheck : Method Unit := do
  ensureUser sqlAnyUser (cstr "admin")
  ensureUser sqlAnyAdmin (cstr "admin")
  ensureUser sqlVshelper (cstr "vshelper")

/-! ## The queries -/

variable {db : Vxdb}

theorem firstRow_isSome_iff (reply : Option (List Row)) :
    (firstRow reply).isSome ↔ ∃ row rows, reply = some (row :: rows) := by
  rcases reply with _ | _ | ⟨row, rows⟩ <;> simp [firstRow]

/-- Whether a query on the users without a join finds one. -/
theorem finds_user {pieces : List Piece} {query : Select} (free : ∀ piece ∈ pieces, piece.Free)
    (read : readPieces pieces = some [some (.select query)])
    (named : vxdbSchema.named query.table = some Table.user) (join : query.join = none)
    (aggregates : query.projections.any (·.aggregates) = false)
    (resolves : query.resolves vxdbSchema (vxdbSchema.knows Table.user) = true)
    (limit : query.limit ≠ some 0) :
    (firstRow (db.oracle (render pieces))).isSome ↔
      ∃ row ∈ db.rows Table.user, query.selects db Table.user row = true := by
  rw [Vxdb.oracle, prepareText_query free read, firstRow_isSome_iff,
    query.run_nonempty_iff db Table.user named join aggregates]
  simp [resolves, limit]

theorem firstRow_sqlAnyUser :
    (firstRow (db.oracle (render sqlAnyUser))).isSome ↔ ∃ row, row ∈ db.rows Table.user := by
  have query := @finds_user db sqlAnyUser {
      projections := [.column none (cstr "uid")], table := cstr "user", join := none
      condition := none, order := none, limit := some 1 }
    (by simp [sqlAnyUser, Piece.Free]) (by rfl) (by rfl) (by rfl) (by rfl) (by rfl) (by simp)
  rw [query]
  simp [Select.selects]

theorem firstRow_sqlAnyAdmin : (firstRow (db.oracle (render sqlAnyAdmin))).isSome ↔
    db.Occurs Table.user (cstr "admin") (.int 1) := by
  have query := @finds_user db sqlAnyAdmin {
      projections := [.column none (cstr "uid")], table := cstr "user", join := none
      condition := some (.eq (.column none (cstr "admin")) (.int 1)), order := none
      limit := some 1 }
    (by simp [sqlAnyAdmin, Piece.Free]) (by rfl) (by rfl) (by rfl) (by rfl) (by rfl) (by simp)
  rw [query]
  simp [Select.selects, Expr.holds, Expr.value, Schema.env, Database.Occurs]

theorem firstRow_sqlVshelper : (firstRow (db.oracle (render sqlVshelper))).isSome ↔
    db.Occurs Table.user (cstr "name") (.str (cstr "vshelper")) := by
  have query := @finds_user db sqlVshelper {
      projections := [.column none (cstr "uid")], table := cstr "user", join := none
      condition := some (.eq (.column none (cstr "name")) (.str (cstr "vshelper")))
      order := none, limit := none }
    (by simp [sqlVshelper, Piece.Free]) (by rfl) (by rfl) (by rfl) (by rfl) (by rfl) (by simp)
  rw [query]
  simp [Select.selects, Expr.holds, Expr.value, Schema.env, Database.Occurs]

/-- The next user id follows the largest one. -/
theorem nextuid_cases :
    (db.rows Table.user = [] ∧ firstRow (db.oracle (render sqlNextuid)) = none) ∨
      ∃ row ∈ db.rows Table.user, (∀ other ∈ db.rows Table.user,
        (Table.user.cell other (cstr "uid")).le (Table.user.cell row (cstr "uid")) = true) ∧
        firstRow (db.oracle (render sqlNextuid)) = some [Table.user.cell row (cstr "uid")] := by
  have query := @prepareText_query vxdbSchema sqlNextuid {
      projections := [.column none (cstr "uid")], table := cstr "user", join := none
      condition := none, order := some (none, cstr "uid", true), limit := some 1 }
    (by simp [sqlNextuid, Piece.Free]) (by rfl) db
  rcases @Select.run_largest vxdbSchema {
      projections := [.column none (cstr "uid")], table := cstr "user", join := none
      condition := none, order := some (none, cstr "uid", true), limit := some 1 }
    Table.user (cstr "uid") 0 (by rfl) (by rfl) (by rfl) (by rfl) (by rfl) (by rfl) (by rfl) db
    with ⟨ran, empty⟩ | ⟨row, mem, largest, rest, ran⟩
  · refine .inl ⟨empty, ?_⟩
    rw [Vxdb.oracle, query, ran]
    rfl
  · refine .inr ⟨row, mem, largest, ?_⟩
    rw [Vxdb.oracle, query, ran]
    rfl

/-! ## New users -/

/-- The rows of a new user. -/
def accountRows (uid : Int) (name : Str) (admin : Int) (caps : List Str) : List (Table × Row) :=
  (.user, [.int uid, .str name, .str (cstr "*"), .int admin]) ::
    caps.map fun cap => (.userCaps, [.int uid, .str cap])

theorem closed_sqlGrant (uid : Int) (cap : Str) : ∀ piece ∈ sqlGrant uid cap, piece.Closed := by
  simp [sqlGrant, Piece.Closed]

theorem closed_sqlCreateAdmin (uid : Int) : ∀ piece ∈ sqlCreateAdmin uid, piece.Closed := by
  intro piece mem
  simp only [sqlCreateAdmin, List.mem_append, List.mem_flatMap, List.mem_cons, List.not_mem_nil,
    or_false] at mem
  rcases mem with ((rfl | rfl | rfl | rfl) | ⟨cap, -, mem⟩) | rfl
  · trivial
  · trivial
  · trivial
  · trivial
  · exact closed_sqlGrant uid cap piece mem
  · trivial

theorem runs_sqlCreateAdmin (uid : Int) : Runs (render (sqlCreateAdmin uid))
    ((accountRows uid (cstr "admin") 1 adminCaps).map insertRow) :=
  .transaction (commands_of_read (closed_sqlCreateAdmin uid) (by rfl))

theorem runs_sqlCreateVshelper (uid : Int) : Runs (render (sqlCreateVshelper uid))
    ((accountRows uid (cstr "vshelper") 0 [cstr "HELPER"]).map insertRow) :=
  .transaction (commands_of_read (by simp [sqlCreateVshelper, sqlGrant, Piece.Closed]) (by rfl))

end Vcd
