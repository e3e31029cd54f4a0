import Vcd.Auth

/-!
# What every method begins with

Parameters of a request and the checks of `methods.c`.
-/

namespace Vcd

open Sql Process

/-! ## Parameters -/

/-- A member of a structure, as `xmlrpc_decompose_value` finds it. -/
def Xml.member (value : Xml) (key : Str) : Except Fault Xml :=
  match value with
  | .struct members =>
      match members.lookup key with
      | some member => .ok member
      | none => .error .request
  | _ => .error .request

def Xml.getStr (value : Xml) (key : Str) : Except Fault Str := do
  match ← value.member key with
  | .str text => .ok text
  | _ => .error .request

def Xml.getInt (value : Xml) (key : Str) : Except Fault Int := do
  match ← value.member key with
  | .int number => .ok (int32 number)
  | _ => .error .request

def Xml.getBool (value : Xml) (key : Str) : Except Fault Bool := do
  match ← value.member key with
  | .bool flag => .ok flag
  | _ => .error .request

/-- The method's view of an empty optional string, `method_empty_params`. -/
def methodEmptyParam (text : Str) : Option Str :=
  if strIsempty text then none else some text

theorem methodEmptyParam_eq_some {text value : Str} (given : methodEmptyParam text = some value) :
    text = value := by
  simp only [methodEmptyParam, Option.ite_none_left_eq_some, Option.some.injEq] at given
  exact given.2

/-- How a method is called: by a client, with credentials and parameters, or by another
method, with parameters only (`METHOD_INTERNAL`). -/
inductive Call where
  | client (credentials params : Xml)
  | internal (params : Xml)

/-- Fail with the fault of a check on parameters. -/
def ofExcept {α : Type} : Except Fault α → Method α
  | .ok value => .pure value
  | .error fault => .fail fault

/-- Refuse a request with a formatted message. -/
def refuse (error : MErr) (message : List Piece) : Except Fault Unit :=
  .error (.ofFormat error message)

/-! ## Flags, locks and capabilities -/

structure Flags where
  owner : Bool := false
  lock : Bool := false

def Flags.any (flags : Flags) : Bool :=
  flags.owner || flags.lock

/-- Take the lock of a name, unless another process holds it. -/
def methodLock (name : Str) : Method Unit := do
  if ← Program.perform (I := daemon) (.testLock name) then
    Program.perform (I := daemon) (.lock name)
  else
    fault .busy

/-- `user` is the authenticated user of a client's call. -/
def methodCheckFlags (params : Xml) (user : Option Str) (flags : Flags) : Method Unit := do
  let name ← ofExcept (params.getStr (cstr "name"))
  if !validateName name then fault .inval
  match user with
  | some user =>
      if flags.owner then
        if !(← authIsowner user name) then fault .novps
      if flags.lock then methodLock name
  | none => pure ()

def sqlRequests : List Piece :=
  [.chars (cstr "UPDATE vcd SET requests = requests + 1 "),
    .chars (cstr "WHERE uptime = (SELECT MAX(uptime) FROM vcd)")]

def sqlFlogins : List Piece :=
  [.chars (cstr "UPDATE vcd SET flogins = flogins + 1 "),
    .chars (cstr "WHERE uptime = (SELECT MAX(uptime) FROM vcd)")]

def sqlNomethod : List Piece :=
  [.chars (cstr "UPDATE vcd SET requests = requests + 1, nomethod = nomethod + 1 "),
    .chars (cstr "WHERE uptime = (SELECT MAX(uptime) FROM vcd)")]

/-- The checks of a client's call that are not about its flags. -/
def methodAuthenticate (host : Host) (credentials : Xml) (caps : UInt64) : Method Str := do
  let _ ← vxdbExec sqlRequests
  let user ← ofExcept (credentials.getStr (cstr "username"))
  let pass ← ofExcept (credentials.getStr (cstr "password"))
  if !(← authIsvalid host user pass) then
    let _ ← vxdbExec sqlFlogins
    fault .auth
  if !(← authCapable user caps) then fault .perm
  return user

/-- The parameters of a call that passes all checks. -/
def methodInit (host : Host) (call : Call) (caps : UInt64) (flags : Flags) : Method Xml := do
  match call with
  | .client credentials params =>
      let user ← methodAuthenticate host credentials caps
      if flags.any then methodCheckFlags params (some user) flags
      return params
  | .internal params =>
      if flags.any then methodCheckFlags params none flags
      return params

/-- The answer to a call of a method that is not registered. -/
def methodDefault (name : Str) : Method Xml := do
  let _ ← vxdbExec sqlNomethod
  .fail (.code (-506) (cstr "method does not exist: '" ++ name ++ cstr "'"))

end Vcd
