import Vcd.Methods.Config

/-!
# Users, capabilities and owners

The methods that change who may do what: `vcd.user.*` and `vxdb.owner.*`. All of them ask
for the capability `AUTH`.
-/

namespace Vcd

open Sql Process

/-! ## Capabilities -/

def sqlUserCapsAdd (uid : Int) (cap : Str) : List Piece :=
  [.chars (cstr "INSERT OR REPLACE INTO user_caps (uid, cap) VALUES ("), .int uid,
    .chars (cstr ", '"), .str cap, .chars (cstr "')")]

def mVcdUserCapsAdd (host : Host) (call : Call) : Method Xml := do
  let params ← methodInit host call capAuth {}
  let user ← ofExcept (params.getStr (cstr "username"))
  let cap ← ofExcept (params.getStr (cstr "cap"))
  if !validateVcdCap cap then
    faultf .inval [.chars (cstr "invalid cap value: "), .str cap]
  let uid ← authGetuid user
  if uid = 0 then fault .nouser
  let outcome ← vxdbExec (sqlUserCapsAdd uid cap)
  if !outcome.ok then vxdbFault (cstr "m_vcd_user_caps_add")
  return .nil

def sqlUserCapsRemove (uid : Int) (cap : Option Str) : List Piece :=
  match cap with
  | some cap => [.chars (cstr "DELETE FROM user_caps WHERE uid = "), .int uid,
      .chars (cstr " AND cap = '"), .str cap, .chars (cstr "'")]
  | none => [.chars (cstr "DELETE FROM user_caps WHERE uid = "), .int uid]

def mVcdUserCapsRemove (host : Host) (call : Call) : Method Xml := do
  let params ← methodInit host call capAuth {}
  let user ← ofExcept (params.getStr (cstr "username"))
  let cap ← ofExcept (params.getStr (cstr "cap"))
  let cap := methodEmptyParam cap
  match cap with
  | some cap =>
      if !validateVcdCap cap then
        faultf .inval [.chars (cstr "invalid cap value: "), .str cap]
  | none => pure ()
  let uid ← authGetuid user
  if uid = 0 then fault .nouser
  let outcome ← vxdbExec (sqlUserCapsRemove uid cap)
  if !outcome.ok then vxdbFault (cstr "m_vcd_user_caps_remove")
  return .nil

/-! ## Users -/

def sqlUserRemove (uid : Int) : List Piece :=
  [.chars (cstr "BEGIN TRANSACTION;DELETE FROM xid_uid_map WHERE uid = "), .int uid,
    .chars (cstr ";DELETE FROM user_caps WHERE uid = "), .int uid,
    .chars (cstr ";DELETE FROM user WHERE uid = "), .int uid,
    .chars (cstr ";COMMIT TRANSACTION;")]

def mVcdUserRemove (host : Host) (call : Call) : Method Xml := do
  let params ← methodInit host call capAuth {}
  let user ← ofExcept (params.getStr (cstr "username"))
  let uid ← authGetuid user
  if uid = 0 then fault .nouser
  let outcome ← vxdbExec (sqlUserRemove uid)
  if !outcome.ok then vxdbFault (cstr "m_vcd_user_remove")
  return .nil

def sqlUserInsert (uid : Int) (user hash : Str) (admin : Int) : List Piece :=
  [.chars (cstr "INSERT INTO user (uid, name, password, admin) VALUES ("), .int uid,
    .chars (cstr ", '"), .str user, .chars (cstr "', '"), .str hash, .chars (cstr "', "),
    .int admin, .chars (cstr ")")]

def sqlUserAdmin (uid admin : Int) : List Piece :=
  [.chars (cstr "UPDATE user SET admin = "), .int admin, .chars (cstr " WHERE uid = "),
    .int uid]

def sqlUserPassword (uid : Int) (hash : Str) : List Piece :=
  [.chars (cstr "UPDATE user SET password = '"), .str hash, .chars (cstr "' WHERE uid = "),
    .int uid]

/-- A missing password is not valid. -/
def validateNewPassword (pass : Option Str) : Bool :=
  pass.any validatePassword

def mVcdUserSet (host : Host) (call : Call) : Method Xml := do
  let params ← methodInit host call capAuth {}
  let user ← ofExcept (params.getStr (cstr "username"))
  let pass ← ofExcept (params.getStr (cstr "password"))
  let admin ← ofExcept (params.getBool (cstr "admin"))
  let pass := methodEmptyParam pass
  if !validateUsername user then
    faultf .inval [.chars (cstr "invalid username value: "), .str user]
  let uid ← authGetuid user
  if uid = 0 then
    if !validateNewPassword pass then
      faultf .inval [.chars (cstr "invalid password value")]
    let uid ← authGetnextuid
    let outcome ← vxdbExec
      (sqlUserInsert uid user (whirlpoolPass host (pass.getD [])) admin.toInt)
    if !outcome.ok then vxdbFault (cstr "m_vcd_user_set")
  else
    let outcome ← vxdbExec (sqlUserAdmin uid admin.toInt)
    if !outcome.ok then vxdbFault (cstr "m_vcd_user_set")
    match pass with
    | some pass =>
        if !validatePassword pass then
          faultf .inval [.chars (cstr "invalid password value")]
        let outcome ← vxdbExec (sqlUserPassword uid (whirlpoolPass host pass))
        if !outcome.ok then vxdbFault (cstr "m_vcd_user_set")
    | none => pure ()
  return .nil

/-! ## Owners -/

def sqlOwnerAdd (xid uid : Int) : List Piece :=
  [.chars (cstr "INSERT OR REPLACE INTO xid_uid_map (xid, uid) VALUES ("), xidPiece xid,
    .chars (cstr ", "), .int uid, .chars (cstr ")")]

def mVxdbOwnerAdd (host : Host) (call : Call) : Method Xml := do
  let params ← methodInit host call capAuth {}
  let name ← ofExcept (params.getStr (cstr "name"))
  let user ← ofExcept (params.getStr (cstr "username"))
  let uid ← authGetuid user
  if uid = 0 then faultf .nouser [.chars (cstr "user does not exist: "), .str user]
  let xid ← vxdbGetxid name
  if xid = 0 then fault .novps
  let outcome ← vxdbExec (sqlOwnerAdd xid uid)
  if !outcome.ok then vxdbFault (cstr "m_vxdb_owner_add")
  return .nil

def sqlOwnerRemove (xid uid : Int) : List Piece :=
  if uid ≠ 0 then
    [.chars (cstr "DELETE FROM xid_uid_map WHERE xid = "), xidPiece xid,
      .chars (cstr " AND uid = "), .int uid]
  else
    [.chars (cstr "DELETE FROM xid_uid_map WHERE xid = "), xidPiece xid]

def mVxdbOwnerRemove (host : Host) (call : Call) : Method Xml := do
  let params ← methodInit host call capAuth {}
  let name ← ofExcept (params.getStr (cstr "name"))
  let user ← ofExcept (params.getStr (cstr "username"))
  let user := methodEmptyParam user
  let xid ← vxdbGetxid name
  if xid = 0 then fault .novps
  let uid ← match user with
    | some user => do
        let uid ← authGetuid user
        if uid = 0 then faultf .nouser [.chars (cstr "user does not exist: "), .str user]
        pure uid
    | none => pure 0
  let outcome ← vxdbExec (sqlOwnerRemove xid uid)
  if !outcome.ok then vxdbFault (cstr "m_vxdb_owner_remove")
  return .nil

end Vcd
