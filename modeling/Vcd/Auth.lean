import Vcd.Vxdb.Access

/-!
# Authentication and authorisation

The checks of `auth.c`.
-/

namespace Vcd

open Sql Process

def sqlGetuid (user : Str) : List Piece :=
  [.chars (cstr "SELECT uid FROM user WHERE name = '"), .str user, .chars (cstr "'")]

def authGetuid (user : Str) : Method Int := do
  if !validateUsername user then return 0
  match ← vxdbPrepare (sqlGetuid user) with
  | some (row :: _) => return vxdbColumnInt row 0
  | _ => return 0

def sqlNextuid : List Piece :=
  [.chars (cstr "SELECT uid FROM user ORDER BY uid DESC LIMIT 1")]

def authGetnextuid : Method Int := do
  match ← vxdbPrepare sqlNextuid with
  | some (row :: _) => return int32 (vxdbColumnInt row 0 + 1)
  | _ => return 1

def whirlpoolPrefix : Str := cstr "WHIRLPOOLENC//"

/-- The hash a password stands for: the rest of an encoded one, the digest of a plain
one. -/
def whirlpoolPass (host : Host) (pass : Str) : Str :=
  if pass.take 14 = whirlpoolPrefix then pass.drop 14 else host.whirlpoolDigest pass

def sqlIsvalid (user hash : Str) : List Piece :=
  [.chars (cstr "SELECT uid FROM user WHERE name = '"), .str user,
    .chars (cstr "' AND password = '"), .str hash, .chars (cstr "'")]

def authIsvalid (host : Host) (user pass : Str) : Method Bool := do
  if !validateUsername user || strIsempty pass then return false
  match ← vxdbPrepare (sqlIsvalid user (whirlpoolPass host pass)) with
  | some (_ :: _) => return true
  | _ => return false

def sqlIsadmin (user : Str) : List Piece :=
  [.chars (cstr "SELECT uid FROM user WHERE name = '"), .str user,
    .chars (cstr "' AND admin = 1")]

def authIsadmin (user : Str) : Method Bool := do
  if !validateUsername user then return false
  match ← vxdbPrepare (sqlIsadmin user) with
  | some (_ :: _) => return true
  | _ => return false

def sqlHascapability (uid : Int) (cap : Str) : List Piece :=
  [.chars (cstr "SELECT uid FROM user_caps WHERE uid = "), .int uid,
    .chars (cstr " and cap = '"), .str cap, .chars (cstr "'")]

def authHascapability (user : Str) (cap : UInt64) : Method Bool := do
  let uid ← authGetuid user
  if uid = 0 then return false
  match flist64Getkey vcdCapsList cap with
  | none => return false
  | some key =>
      match ← vxdbPrepare (sqlHascapability uid key) with
      | some (_ :: _) => return true
      | _ => return false

/-- The loop of `auth_capable` over a list of capabilities. -/
def authCapableIn (user : Str) (caps : UInt64) : Flist → Method Bool
  | [] => pure true
  | (_, value) :: rest => do
      if caps &&& value ≠ 0 then
        if !(← authHascapability user value) then return false
      authCapableIn user caps rest

def authCapable (user : Str) (caps : UInt64) : Method Bool :=
  authCapableIn user caps vcdCapsList

def sqlIsowner (uid xid : Int) : List Piece :=
  [.chars (cstr "SELECT uid FROM xid_uid_map WHERE uid = "), .int uid,
    .chars (cstr " AND xid = "), xidPiece xid]

def authIsowner (user name : Str) : Method Bool := do
  let uid ← authGetuid user
  if uid = 0 then return false
  if ← authIsadmin user then return true
  let xid ← vxdbGetxid name
  if xid = 0 then return false
  match ← vxdbPrepare (sqlIsowner uid xid) with
  | some (_ :: _) => return true
  | _ => return false

end Vcd
