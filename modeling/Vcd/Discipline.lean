import Vcd.Methods.Registry
import Vcd.Vxdb.Knowledge
import Vcd.Vxdb.Scripts

/-!
# The discipline of requests

What a request may do, given what it found out before: which texts it executes, on which ids,
which trees it unlinks, and which name it locks. Every registered method keeps this discipline,
and all results about runs of requests follow from it.
-/

namespace Vcd

open Sql Process

/-! ## Writes -/

/-- What a method writes besides the counters. -/
inductive WriteKind where
  | config (table : Table)
  | restart | rights | remove | rename | create
  deriving DecidableEq

/-- The configuration methods that write, with their tables. -/
def configWriters : List (Str × Table) :=
  [(cstr "vxdb.dx.limit.remove", .dxLimit), (cstr "vxdb.dx.limit.set", .dxLimit),
    (cstr "vxdb.init.set", .init), (cstr "vxdb.mount.remove", .mount),
    (cstr "vxdb.mount.set", .mount), (cstr "vxdb.nx.addr.remove", .nxAddr),
    (cstr "vxdb.nx.addr.set", .nxAddr), (cstr "vxdb.nx.broadcast.remove", .nxBroadcast),
    (cstr "vxdb.nx.broadcast.set", .nxBroadcast), (cstr "vxdb.vx.bcaps.add", .vxBcaps),
    (cstr "vxdb.vx.bcaps.remove", .vxBcaps), (cstr "vxdb.vx.ccaps.add", .vxCcaps),
    (cstr "vxdb.vx.ccaps.remove", .vxCcaps), (cstr "vxdb.vx.cpuset.remove", .vxCpuset),
    (cstr "vxdb.vx.cpuset.set", .vxCpuset), (cstr "vxdb.vx.flags.add", .vxFlags),
    (cstr "vxdb.vx.flags.remove", .vxFlags), (cstr "vxdb.vx.limit.remove", .vxLimit),
    (cstr "vxdb.vx.limit.set", .vxLimit), (cstr "vxdb.vx.sched.remove", .vxSched),
    (cstr "vxdb.vx.sched.set", .vxSched), (cstr "vxdb.vx.uname.remove", .vxUname),
    (cstr "vxdb.vx.uname.set", .vxUname)]

def otherWriters : List (Str × WriteKind) :=
  [(cstr "helper.restart", .restart), (cstr "helper.shutdown", .restart),
    (cstr "vcd.user.caps.add", .rights), (cstr "vcd.user.caps.remove", .rights),
    (cstr "vcd.user.remove", .rights), (cstr "vcd.user.set", .rights),
    (cstr "vg.add", .rights), (cstr "vg.remove", .rights),
    (cstr "vxdb.owner.add", .rights), (cstr "vxdb.owner.remove", .rights),
    (cstr "vx.create", .create), (cstr "vx.remove", .remove), (cstr "vx.rename", .rename)]

/-- What a method writes, if it writes. -/
def writeKind (method : Str) : Option WriteKind :=
  match configWriters.lookup method with
  | some table => some (.config table)
  | none => otherWriters.lookup method

/-- The string parameters each configuration method pastes into its statement. -/
def pastedBy : List (Str × List Str) :=
  [(cstr "vxdb.init.set", [cstr "init", cstr "halt", cstr "reboot"]),
    (cstr "vxdb.mount.remove", [cstr "dst"]),
    (cstr "vxdb.mount.set", [cstr "src", cstr "dst", cstr "type", cstr "opts"]),
    (cstr "vxdb.nx.addr.remove", [cstr "addr"]),
    (cstr "vxdb.nx.addr.set", [cstr "addr", cstr "netmask"]),
    (cstr "vxdb.nx.broadcast.set", [cstr "broadcast"]),
    (cstr "vxdb.vx.bcaps.add", [cstr "bcap"]), (cstr "vxdb.vx.bcaps.remove", [cstr "bcap"]),
    (cstr "vxdb.vx.ccaps.add", [cstr "ccap"]), (cstr "vxdb.vx.ccaps.remove", [cstr "ccap"]),
    (cstr "vxdb.vx.cpuset.set", [cstr "cpus", cstr "mems"]),
    (cstr "vxdb.vx.flags.add", [cstr "flag"]), (cstr "vxdb.vx.flags.remove", [cstr "flag"]),
    (cstr "vxdb.vx.limit.remove", [cstr "type"]), (cstr "vxdb.vx.limit.set", [cstr "type"]),
    (cstr "vxdb.vx.uname.remove", [cstr "type"]),
    (cstr "vxdb.vx.uname.set", [cstr "type", cstr "value"])]

def pasted (method : Str) : List Str :=
  (pastedBy.lookup method).getD []

/-- A key found in an association list stands in it with its value. -/
theorem mem_of_lookup_eq_some {α β : Type} [BEq α] [LawfulBEq α] {key : α} {value : β}
    {entries : List (α × β)} (found : entries.lookup key = some value) :
    (key, value) ∈ entries := by
  induction entries with
  | nil => cases found
  | cons entry entries ih =>
      obtain ⟨other, stored⟩ := entry
      rw [List.lookup_cons] at found
      split at found
      next same =>
        obtain rfl := eq_of_beq same
        obtain rfl := Option.some.inj found
        exact List.mem_cons_self
      next => exact List.mem_cons_of_mem _ (ih found)

theorem mem_otherWriters {method : Str} {kind : WriteKind} (known : writeKind method = some kind)
    (other : ∀ table, kind ≠ .config table) : (method, kind) ∈ otherWriters := by
  unfold writeKind at known
  split at known
  next table _ => exact absurd (Option.some.inj known).symm (other table)
  next => exact mem_of_lookup_eq_some known

theorem writeKind_create {method : Str} (kind : writeKind method = some .create) :
    method = cstr "vx.create" := by
  have only : ∀ entry ∈ otherWriters, entry.2 = .create → entry.1 = cstr "vx.create" := by
    decide
  exact only _ (mem_otherWriters kind nofun) rfl

theorem writeKind_rename {method : Str} (kind : writeKind method = some .rename) :
    method = cstr "vx.rename" := by
  have only : ∀ entry ∈ otherWriters, entry.2 = .rename → entry.1 = cstr "vx.rename" := by
    decide
  exact only _ (mem_otherWriters kind nofun) rfl

theorem writeKind_remove {method : Str} (kind : writeKind method = some .remove) :
    method = cstr "vx.remove" := by
  have only : ∀ entry ∈ otherWriters, entry.2 = .remove → entry.1 = cstr "vx.remove" := by
    decide
  exact only _ (mem_otherWriters kind nofun) rfl

namespace Request

variable (request : Request)

abbrev user : Except Fault Str :=
  request.credentials.getStr (cstr "username")

abbrev text (key : Str) : Except Fault Str :=
  request.params.getStr key

/-- Every quote in the string parameters of these names is doubled. -/
def ClosedOn (keys : List Str) : Prop :=
  ∀ key ∈ keys, ∀ text, request.text key = .ok text → QuoteClosed text

/-- Every quote in the string parameters the method pastes is doubled. -/
abbrev Closed : Prop :=
  request.ClosedOn (pasted request.method)

/-- No string parameter contains a quote. -/
def Free : Prop :=
  ∀ key text, request.text key = .ok text → QuoteFree text

theorem Free.closed {request : Request} (free : request.Free) : request.Closed :=
  fun key _ text known => closed_of_quoteFree (free key text known)

end Request

/-- The directory `vx.create` works in, given the answers to its queries. -/
def createVdirIn (oracle : Oracle) (host : Host) (user name param : Str) : Str :=
  if strIsempty param then vdirIn oracle host name
  else if adminIn oracle user then param
  else vdirIn oracle host name

/-- The id `find_free_xid` takes from the count and the maximum, if it takes one. -/
def nextXid (row : Row) : Option Int :=
  if vxdbColumnInt row 0 < 1 then some 2
  else if vxdbColumnInt row 1 < 65535 then some (uint32 (vxdbColumnInt row 1 + 1))
  else none

/-- The id was chosen from the count and the maximum. -/
def Chosen (past : Past) (xid : Int) : Prop :=
  Read past sqlCountMax fun row => nextXid row = some xid

/-- The script as the library receives it, after two formatted prints. -/
def printed (host : Host) (script : List Piece) : Str :=
  if '%' ∈ render script then host.strayFormat (render script) else render script

/-- Nothing was written yet except counters, and texts that failed. -/
def Untouched (past : Past) : Prop :=
  ∀ sql outcome, (⟨.exec sql, outcome⟩ : Performed daemon) ∈ past →
    Counts sql ∨ outcome.ok = false

/-- The first operation of a request: it is counted. -/
def Announces : Op → Prop
  | .exec sql => sql = render sqlRequests ∨ sql = render sqlNomethod
  | _ => False

/-- A request counts itself first, and a failed login later. -/
def Tallying (past : Past) (sql : Str) : Prop :=
  past = [] ∧ Announces (.exec sql) ∨ sql = render sqlFlogins

theorem Tallying.counts {past : Past} {sql : Str} (tallying : Tallying past sql) : Counts sql := by
  rcases tallying with ⟨-, rfl | rfl⟩ | rfl
  · exact counts_sqlRequests
  · exact counts_sqlNomethod
  · exact counts_sqlFlogins

/-! ### What is asked for -/

namespace Request

/-- The id was found to be that of the user the request names. -/
def FoundUid (request : Request) (past : Past) (uid : Int) : Prop :=
  ∃ user, request.text (cstr "username") = .ok user ∧ HasUid past user uid

/-- The id was found to be that of the virtual server the request names. -/
def FoundXid (request : Request) (past : Past) (xid : Int) : Prop :=
  ∃ name, request.text (cstr "name") = .ok name ∧ Looked past name xid

/-- The id was found to be that of the group the request names. -/
def FoundGid (request : Request) (past : Past) (gid : Int) : Prop :=
  ∃ group, request.text (cstr "group") = .ok group ∧ HasGid past group gid

variable {request : Request} {past fewer : Past}

theorem FoundUid.mono {uid : Int} (found : request.FoundUid fewer uid) (subset : fewer ⊆ past) :
    request.FoundUid past uid :=
  found.imp fun _ known => ⟨known.1, known.2.mono subset⟩

theorem FoundXid.mono {xid : Int} (found : request.FoundXid fewer xid) (subset : fewer ⊆ past) :
    request.FoundXid past xid :=
  found.imp fun _ known => ⟨known.1, known.2.mono subset⟩

theorem FoundGid.mono {gid : Int} (found : request.FoundGid fewer gid) (subset : fewer ⊆ past) :
    request.FoundGid past gid :=
  found.imp fun _ known => ⟨known.1, known.2.mono subset⟩

end Request

namespace RightsWrite

/-- The password hash is that of the request. -/
def Hashes (host : Host) (request : Request) (hash : Str) : Prop :=
  ∃ pass, request.text (cstr "password") = .ok pass ∧
    hash = whirlpoolPass host ((methodEmptyParam pass).getD [])

/-- The flag is that of the request. -/
def Admits (request : Request) (admin : Int) : Prop :=
  ∃ given, request.params.getBool (cstr "admin") = .ok given ∧ admin = given.toInt

/-- The change of rights is one of the method, with the strings and flags of the request. -/
def Asked (host : Host) (request : Request) : RightsWrite → Prop
  | .capsAdd _ cap =>
      request.method = cstr "vcd.user.caps.add" ∧ request.text (cstr "cap") = .ok cap
  | .capsRemove _ cap => request.method = cstr "vcd.user.caps.remove" ∧
      ∃ text, request.text (cstr "cap") = .ok text ∧ methodEmptyParam text = cap
  | .userRemove _ => request.method = cstr "vcd.user.remove"
  | .userInsert _ user hash admin => request.method = cstr "vcd.user.set" ∧
      request.text (cstr "username") = .ok user ∧ Hashes host request hash ∧ Admits request admin
  | .userPassword _ hash => request.method = cstr "vcd.user.set" ∧ Hashes host request hash
  | .userAdmin _ admin => request.method = cstr "vcd.user.set" ∧ Admits request admin
  | .ownerAdd _ _ => request.method = cstr "vxdb.owner.add"
  | .ownerRemove _ _ => request.method = cstr "vxdb.owner.remove"
  | .groupInsert _ group => request.method = cstr "vg.add" ∧
      request.text (cstr "group") = .ok group
  | .memberInsert _ _ => request.method = cstr "vg.add"
  | .memberRemove _ _ | .groupRemove _ => request.method = cstr "vg.remove"

/-- What a request found out before it changes rights: each id is the next free one, or that
of what the request names. Without a user `vxdb.owner.remove` works on the id 0. -/
def Known (request : Request) (past : Past) : RightsWrite → Prop
  | .capsAdd uid _ | .capsRemove uid _ | .userRemove uid | .userAdmin uid _ =>
      request.FoundUid (recent past) uid
  | .userInsert uid _ _ _ => Next (recent past) sqlNextuid uid
  | .userPassword uid _ => request.FoundUid past uid
  | .ownerAdd xid uid =>
      request.FoundUid (recent past) uid ∧ request.FoundXid (recent past) xid
  | .ownerRemove xid uid => request.FoundXid (recent past) xid ∧
      (request.FoundUid (recent past) uid ∨ uid = 0 ∧
        ∃ text, request.text (cstr "username") = .ok text ∧ methodEmptyParam text = none)
  | .groupInsert gid _ => Next (recent past) sqlLastGid gid
  | .memberInsert xid gid => request.FoundXid (recent past) xid ∧
      ∃ group, request.text (cstr "group") = .ok group ∧ validateGroup group = true ∧
        (HasGid (recent past) group gid ∨ Wrote past (sqlGroupInsert gid group))
  | .memberRemove xid gid =>
      request.FoundXid (recent past) xid ∧ request.FoundGid (recent past) gid
  | .groupRemove gid => request.FoundGid (recent past) gid

end RightsWrite

/-- Where the directory of a creation comes from. -/
inductive Source (host : Host) (request : Request) (past : Past) : Str → Prop where
  | given {vdir : Str} (param : request.text (cstr "vdir") = .ok vdir) :
      Source host request past vdir
  | standard {name : Str} (named : request.text (cstr "name") = .ok name) :
      Source host request past (strPathConcat host.vbasedir name)
  | recorded {vdir : Str} {xid : Int}
      (read : Read past (sqlGetvdir xid) fun row => vxdbColumnText row 0 = vdir) :
      Source host request past vdir

theorem Source.mono {host : Host} {request : Request} {past fewer : Past} {vdir : Str}
    (source : Source host request fewer vdir) (subset : fewer ⊆ past) :
    Source host request past vdir := by
  cases source with
  | given param => exact .given param
  | standard named => exact .standard named
  | recorded read => exact .recorded (read.mono subset)

/-! ### What is written -/

section

variable (setup : Setup) (request : Request) (past : Past)

/-- A creation that knows its user, its name and its directory. -/
structure Creating (user name param vdir : Str) : Prop where
  user_eq : request.user = .ok user
  name_eq : request.text (cstr "name") = .ok name
  param_eq : request.text (cstr "vdir") = .ok param
  valid : validateName name = true
  checked : validatePath vdir = true
  short : vdir.length ≤ 31
  untouched : Untouched past
  source : Source setup.host request (recent past) vdir
  resolved : ∀ oracle, Agrees oracle (recent past) →
    createVdirIn oracle setup.host user name param = vdir

/-- The method reads from its request a name, and a statement with one setting in the table if
every quote in the parameters it pastes is doubled. -/
structure Settling (table : Table) (name : Str) (sql : Int → List Piece) : Prop where
  handled : ∃ function cap reader, handle setup request = configWrite setup.host function cap
    reader (.client request.credentials request.params) ∧ reader request.params = .ok (name, sql)
  name_eq : request.text (cstr "name") = .ok name
  settles : request.Closed → ∃ setting : Setting, setting.table = table ∧ Sets sql setting
  listed : table ∈ contextTables

/-- The helpers of a restart put the flag and clear it. -/
inductive Flagging : (Int → List Piece) → Setting → Prop where
  | restart (method : request.method = cstr "helper.restart") :
      Flagging sqlRestartInsert (.put .restart [])
  | shutdown (method : request.method = cstr "helper.shutdown") :
      Flagging sqlRestartDelete (.clear .restart)

/-- A text of each kind, executed by a request that found out what it needs. -/
inductive Write : WriteKind → Str → Prop where
  | config {table : Table} {sql : Int → List Piece} (user name : Str) (xid : Int)
      (untouched : Untouched past) (user_eq : request.user = .ok user)
      (settling : Settling setup request table name sql)
      (owned : Owned (recent past) user name) (looked : Looked (recent past) name xid) :
      Write (.config table) (render (sql xid))
  | restart {sql : Int → List Piece} {setting : Setting} (name : Str) (given : Int)
      (untouched : Untouched past) (flagging : Flagging request sql setting)
      (param : request.params.getInt (cstr "xid") = .ok given)
      (named : Named (recent past) (uint32 given) name) :
      Write .restart (render (sql (uint32 given)))
  | rights (user : Str) (write : RightsWrite) (user_eq : request.user = .ok user)
      (capable : Capable past user (cstr "AUTH")) (known : write.Known request past)
      (asked : write.Asked setup.host request) : Write .rights (render write.sql)
  | remove (user name : Str) (xid : Int) (untouched : Untouched past)
      (user_eq : request.user = .ok user) (name_eq : request.text (cstr "name") = .ok name)
      (owned : Owned (recent past) user name) (inside : entered past = some (.remove, name))
      (looked : Looked (recent (sinceMark past)) name xid) :
      Write .remove (render (sqlVxRemove xid))
  | rename (user name newname : Str) (xid : Int) (untouched : Untouched past)
      (user_eq : request.user = .ok user) (name_eq : request.text (cstr "name") = .ok name)
      (newname_eq : request.text (cstr "newname") = .ok newname)
      (valid : validateName newname = true) (owned : Owned (recent past) user name)
      (inside : entered past = some (.rename, name))
      (looked : Looked (recent (sinceMark past)) name xid) :
      Write .rename (render (sqlVxRename newname xid))
  | create (user name param vdir : Str) (xid : Int) (conf : TemplateConf) (entries : Entries)
      (creating : Creating setup request past user name param vdir)
      (target : Looked (recent past) name xid ∨ Chosen (recent past) xid)
      (known : conf = {} ∨ ∃ path, setup.templates path = .parsed conf)
      (assembled : templateEntries conf vdir name = .ok entries) :
      Write .create (printed setup.host (sqlCreate xid entries))

/-- The trees `vx.create` unlinks: the recorded one of a server it rebuilds, the one it
works in, and the device directory of that. -/
inductive Unlinks : Str → Prop where
  | old (name : Str) (xid : Int) (path : Str) (untouched : Untouched past)
      (name_eq : request.text (cstr "name") = .ok name)
      (looked : Looked (recent past) name xid)
      (recorded : ∀ oracle, Agrees oracle (recent past) →
        vdirIn oracle setup.host name = path) :
      Unlinks path
  | new {user name param vdir : Str} (creating : Creating setup request past user name param vdir) :
      Unlinks vdir
  | dev {user name param vdir : Str} (creating : Creating setup request past user name param vdir) :
      Unlinks (devPath vdir (cstr "dev"))

/-- What a request may do next. It locks its own name only. -/
def Permitted : Op → Prop
  | .lock name => request.text (cstr "name") = .ok name
  | .exec sql =>
      Tallying past sql ∨ ∃ kind ∈ writeKind request.method, Write setup request past kind sql
  | .sys (.runlink path) => request.method = cstr "vx.create" → Unlinks setup request past path
  | _ => True

end

theorem Settling.confined {setup : Setup} {request : Request} {table : Table} {name : Str}
    {sql : Int → List Piece} (settling : Settling setup request table name sql)
    (closed : request.Closed) (xid : Int) :
    Confined (rowsOf [table] (int32 xid)) (rowsOf [table] (int32 xid)) (render (sql xid)) := by
  obtain ⟨setting, rfl, sets⟩ := settling.settles closed
  exact sets.writes settling.listed xid

theorem Flagging.sets {request : Request} {sql : Int → List Piece} {setting : Setting}
    (flagging : Flagging request sql setting) : setting.table = .restart ∧ Sets sql setting := by
  cases flagging with
  | restart method => exact ⟨rfl, sets_sqlRestartInsert⟩
  | shutdown method => exact ⟨rfl, sets_sqlRestartDelete⟩

theorem Flagging.confined {request : Request} {sql : Int → List Piece} {setting : Setting}
    (flagging : Flagging request sql setting) (xid : Int) :
    Confined (rowsOf [.restart] (int32 xid)) (rowsOf [.restart] (int32 xid))
      (render (sql xid)) := by
  obtain ⟨table, sets⟩ := flagging.sets
  have stays := sets.writes (by rw [table]; decide) xid
  rwa [table] at stays

/-- What a forked child may do: it takes no locks, writes nothing and unlinks nothing. -/
def Quiet : Op → Prop
  | .exec _ | .testLock _ | .lock _ | .sys (.runlink _) => False
  | _ => True

/-- The contract of a request. -/
abbrev discipline (setup : Setup) (request : Request) : Contract daemon :=
  .ofHistory (Permitted setup request) Quiet

/-! ## Values that may be faults -/

theorem bind_eq_ok {α β : Type} {known : Except Fault α} {rest : α → Except Fault β}
    {value : β} : (known >>= rest) = .ok value ↔
      ∃ middle, known = .ok middle ∧ rest middle = .ok value := by
  cases known with
  | ok middle => exact ⟨fun equal => ⟨middle, rfl, equal⟩, by rintro ⟨_, ⟨⟩, equal⟩; exact equal⟩
  | error fault => exact ⟨nofun, by rintro ⟨_, ⟨⟩, _⟩⟩

theorem refuse_bind {β : Type} (error : MErr) (message : List Piece)
    (rest : Unit → Except Fault β) :
    (refuse error message >>= rest) = .error (.ofFormat error message) := rfl

theorem ite_error_eq_ok {β : Type} {condition : Prop} [Decidable condition] {fault : Fault}
    {other : Except Fault β} {value : β} :
    (if condition then .error fault else other) = .ok value ↔
      ¬ condition ∧ other = .ok value := by
  split <;> simp_all

theorem pure_eq_ok {β : Type} {value other : β} :
    (pure value : Except Fault β) = .ok other ↔ value = other := by
  change Except.ok value = Except.ok other ↔ _
  simp

/-! ## Rules -/

variable {setup : Setup} {request : Request} {past : Past} {α β : Type}

/-- The condition asks nothing of requests that fail. -/
def Lenient (post : Past → Except Fault β → Prop) : Prop :=
  ∀ past fault, post past (.error fault)

variable {post : Past → Except Fault β → Prop}

theorem meets_lookup {program : Method α} {rest : α → Method β} (lookup : Lookup program)
    (later : ∀ value trace, Traced program trace value →
      (rest value).Meets (discipline setup request) (trace ++ past) post) :
    (program >>= rest).Meets (discipline setup request) past post := by
  induction program generalizing past with
  | pure value => exact later value [] ⟨rfl, rfl⟩
  | fail fault => exact lookup.elim
  | exit => exact lookup.elim
  | op op next ih =>
      cases op with
      | prepare sql =>
          refine ⟨trivial, fun reply => ih reply (lookup reply) fun value trace traced => ?_⟩
          have whole := later value (trace ++ [⟨.prepare sql, reply⟩]) ⟨reply, trace, rfl, traced⟩
          rwa [List.append_assoc] at whole
      | _ => exact lookup.elim
  | fork next ih => exact lookup.elim

theorem meets_sys {call : Sys} {rest : Answer → Method β}
    (permitted : Permitted setup request past (.sys call))
    (later : ∀ answer, (rest answer).Meets (discipline setup request)
      (⟨.sys call, answer⟩ :: past) post) :
    (sys call >>= rest).Meets (discipline setup request) past post :=
  ⟨permitted, later⟩

theorem meets_exec {sql : List Piece} {rest : Sql.Outcome → Method β}
    (permitted : Permitted setup request past (.exec (render sql)))
    (later : ∀ outcome, (rest outcome).Meets (discipline setup request)
      (⟨.exec (render sql), outcome⟩ :: past) post) :
    (vxdbExec sql >>= rest).Meets (discipline setup request) past post :=
  ⟨permitted, later⟩

theorem meets_ofExcept {known : Except Fault α} {rest : α → Method β} (lenient : Lenient post)
    (later : ∀ value, known = .ok value →
      (rest value).Meets (discipline setup request) past post) :
    (ofExcept known >>= rest).Meets (discipline setup request) past post := by
  cases known with
  | ok value => exact later value rfl
  | error fault => exact lenient past fault

/-- A program that does only what a child may do. -/
abbrev Silent (program : Method α) : Prop :=
  program.Within (I := daemon) Quiet Quiet

theorem permitted_of_quiet {op : Op} (quiet : Quiet op) : Permitted setup request past op := by
  cases op with
  | exec sql => exact quiet.elim
  | lock name => exact quiet.elim
  | sys call =>
      cases call with
      | runlink path => exact quiet.elim
      | _ => trivial
  | _ => trivial

theorem Silent.meets {program : Method α} (silent : Silent program) :
    program.Meets (discipline setup request) past fun after _ => Grows Quiet past after :=
  Program.Within.meets silent (fun _ _ => permitted_of_quiet) past

/-- A program that makes its request keep the discipline. -/
abbrev Keeps (setup : Setup) (request : Request) (past : Past) (program : Method α) : Prop :=
  program.Meets (discipline setup request) past fun _ _ => True

theorem lenient_true : Lenient (fun _ _ => True : Past → Except Fault β → Prop) :=
  fun _ _ => trivial

theorem Silent.keeps {program : Method α} (silent : Silent program) :
    Keeps setup request past program :=
  silent.meets.mono fun _ _ _ => trivial

theorem quiet_steady {op : Op} (quiet : Quiet op) : ¬ op.IsExec := by
  cases op with
  | exec sql => exact quiet.elim
  | _ => exact id

theorem meets_silent {program : Method α} {rest : α → Method β} (silent : Silent program)
    (lenient : Lenient post)
    (later : ∀ value after, Grows Quiet past after →
      (rest value).Meets (discipline setup request) after post) :
    (program >>= rest).Meets (discipline setup request) past post :=
  Program.meets_bind (silent.meets.mono fun after outcome grows => by
    cases outcome with
    | ok value => exact later value after grows
    | error fault => exact lenient after fault)

/-- A silent step that is taken under some condition only. -/
theorem meets_optional {condition : Prop} [Decidable condition] {program : Method Unit}
    {rest : Unit → Method β} (silent : Silent program) (lenient : Lenient post)
    (later : ∀ after, Grows Quiet past after →
      (rest ()).Meets (discipline setup request) after post) :
    (if condition then program >>= rest else rest ()).Meets (discipline setup request) past
      post := by
  split
  · exact meets_silent silent lenient fun _ => later
  · exact later past (.refl past)

theorem meets_ite {condition : Prop} [Decidable condition] {program other : Method β}
    (yes : condition → program.Meets (discipline setup request) past post)
    (no : ¬ condition → other.Meets (discipline setup request) past post) :
    (if condition then program else other).Meets (discipline setup request) past post := by
  split
  next holds => exact yes holds
  next fails => exact no fails

/-- A check that fails the request. -/
theorem meets_check {condition : Prop} [Decidable condition] {fault : Fault}
    {other : α → Method β} {rest : Method β} (lenient : Lenient post)
    (later : ¬ condition → rest.Meets (discipline setup request) past post) :
    (if condition then Program.fail fault >>= other else rest).Meets
      (discipline setup request) past post := by
  split
  next => exact lenient past fault
  next passed => exact later passed

/-! ## Later pasts -/

/-- A later past of a request that has written nothing more. -/
structure Later (past after : Past) : Prop where
  recent : recent past ⊆ recent after
  untouched : Untouched past → Untouched after

namespace Later

variable {after last : Past}

theorem refl (past : Past) : Later past past :=
  ⟨List.Subset.refl _, id⟩

theorem trans (first : Later past after) (second : Later after last) : Later past last :=
  ⟨List.Subset.trans first.recent second.recent,
    fun known => second.untouched (first.untouched known)⟩

theorem append {new : Past} (steady : ∀ event ∈ new, ¬ event.request.IsExec) :
    Later past (new ++ past) where
  recent := by
    rw [recent_append steady]
    exact List.subset_append_right new (Vcd.recent past)
  untouched known sql outcome mem := by
    rcases List.mem_append.mp mem with mem | mem
    · exact absurd trivial (steady _ mem)
    · exact known sql outcome mem

theorem sys (call : Sys) (reply : Answer) : Later past (⟨.sys call, reply⟩ :: past) := by
  have steady : ∀ event ∈ [(⟨.sys call, reply⟩ : Performed daemon)], ¬ event.request.IsExec := by
    simp [Op.IsExec]
  exact append steady

theorem prepare (sql : Str) (reply : Option (List Row)) :
    Later past (⟨.prepare sql, reply⟩ :: past) := by
  have steady : ∀ event ∈ [(⟨.prepare sql, reply⟩ : Performed daemon)],
      ¬ event.request.IsExec := by
    simp [Op.IsExec]
  exact append steady

theorem grows (grows : Grows Quiet past after) : Later past after := by
  obtain ⟨new, rfl, quiet⟩ := grows
  exact append fun event mem => quiet_steady (quiet event mem)

/-- A text that failed wrote nothing. -/
theorem failed {sql : Str} {outcome : Sql.Outcome} (failed : outcome.ok = false) :
    Later past (⟨.exec sql, outcome⟩ :: past) where
  recent := by
    have lasting : endsEra ⟨.exec sql, outcome⟩ = false := failed
    have grown : Vcd.recent (⟨.exec sql, outcome⟩ :: past) =
        ⟨.exec sql, outcome⟩ :: Vcd.recent past := by
      unfold Vcd.recent since
      rw [List.takeWhile_cons_of_pos]
      simp [lasting]
    rw [grown]
    exact List.subset_cons_self _ _
  untouched known text other mem := by
    rcases List.mem_cons.mp mem with equal | mem
    · cases equal
      exact .inr failed
    · exact known text other mem

end Later

/-- Queries execute nothing. -/
theorem steady_of_queries {trace : Past} (queries : ∀ event ∈ trace, event.request.IsPrepare) :
    ∀ event ∈ trace, ¬ event.request.IsExec := by
  intro event mem exec
  have query := queries event mem
  obtain ⟨request, reply⟩ := event
  cases request with
  | exec sql => exact query
  | _ => exact exec

theorem Traced.steady {program : Method α} {trace : Past} {value : α}
    (traced : Traced program trace value) : ∀ event ∈ trace, ¬ event.request.IsExec :=
  steady_of_queries traced.isPrepare

theorem Traced.later {program : Method α} {trace : Past} {value : α}
    (traced : Traced program trace value) : Later past (trace ++ past) :=
  .append traced.steady

theorem untouched_nil : Untouched [] := by
  intro sql outcome mem
  cases mem

theorem Untouched.counts {sql : Str} (untouched : Untouched past) (counts : Counts sql)
    (outcome : Sql.Outcome) : Untouched (⟨.exec sql, outcome⟩ :: past) := by
  intro text other mem
  rcases List.mem_cons.mp mem with equal | mem
  · cases equal
    exact .inl counts
  · exact untouched text other mem

/-! ## Admission -/

/-- What a request that passed `method_init` found out. -/
structure Admitted (request : Request) (caps : UInt64) (flags : Flags) (past : Past)
    (user : Str) : Prop where
  user_eq : request.user = .ok user
  untouched : Untouched past
  capable : caps = capAuth → Capable past user (cstr "AUTH")
  checked : flags.any = true → ∃ name, request.text (cstr "name") = .ok name ∧
    validateName name = true ∧ (flags.owner = true → Owned (recent past) user name)

/-- The postcondition that something was found out if the program returns. -/
abbrev Finds (found : Past → α → Prop) (past : Past) : Except Fault α → Prop :=
  Program.Either found (fun _ _ => True) past

theorem lenient_finds (found : Past → α → Prop) : Lenient (Finds found) :=
  fun _ _ => trivial

/-- Go on with what was found out. -/
theorem meets_found {program : Method α} {rest : α → Method β} {found : Past → α → Prop}
    (lenient : Lenient post)
    (first : program.Meets (discipline setup request) past (Finds found))
    (later : ∀ after value, found after value →
      (rest value).Meets (discipline setup request) after post) :
    (program >>= rest).Meets (discipline setup request) past post := by
  refine Program.meets_seq found (first.mono fun after outcome known => ?_) later
  cases outcome with
  | ok value => exact known
  | error fault => exact lenient after fault

theorem meets_methodAuthenticate (host : Host) (caps : UInt64) :
    (methodAuthenticate host request.credentials caps).Meets (discipline setup request) []
      (Finds fun after user => request.user = .ok user ∧ Untouched after ∧
        (caps = capAuth → Capable after user (cstr "AUTH"))) := by
  refine meets_exec (.inl (.inl ⟨rfl, .inl rfl⟩)) fun outcome => ?_
  have counted := untouched_nil.counts counts_sqlRequests outcome
  refine meets_ofExcept (lenient_finds _) fun user userEq => ?_
  refine meets_ofExcept (lenient_finds _) fun pass _ => ?_
  refine meets_lookup (lookup_authIsvalid host user pass) fun valid trace validTraced => ?_
  cases valid with
  | false => exact meets_exec (.inl (.inr rfl)) fun outcome => trivial
  | true =>
      refine meets_lookup (lookup_authCapable user caps) fun capable granted traced => ?_
      cases capable with
      | false => trivial
      | true =>
          have untouched := traced.later.untouched (validTraced.later.untouched counted)
          refine ⟨userEq, untouched, fun auth => ?_⟩
          subst auth
          exact (traced_authCapable traced).mono (by simp)

theorem meets_methodLock {name : Str} (named : request.text (cstr "name") = .ok name)
    {holds : Past → Prop}
    (later : ∀ new : Past, (∀ event ∈ new, ¬ event.request.IsExec) → holds (new ++ past)) :
    (methodLock name).Meets (discipline setup request) past
      (Finds fun after _ => holds after) := by
  refine ⟨trivial, fun free => ?_⟩
  cases free with
  | false => trivial
  | true =>
      refine ⟨named, fun reply => ?_⟩
      exact later [⟨.lock name, reply⟩, ⟨.testLock name, true⟩] (by simp [Op.IsExec])

/-- What the check of the flags found out about the name. -/
structure Checked (request : Request) (flags : Flags) (past after : Past) (user : Str) :
    Prop where
  subset : past ⊆ after
  later : Later past after
  checked : ∃ name, request.text (cstr "name") = .ok name ∧ validateName name = true ∧
    (flags.owner = true → Owned (recent after) user name)

theorem meets_methodCheckFlags {user : Str} (flags : Flags) :
    (methodCheckFlags request.params (some user) flags).Meets (discipline setup request) past
      (Finds fun after _ => Checked request flags past after user) := by
  refine meets_ofExcept (lenient_finds _) fun name nameEq => ?_
  cases valid : validateName name with
  | false => trivial
  | true =>
      simp only [Bool.not_true, Bool.false_eq_true, if_false]
      have locking (trace : Past) (later : Later past (trace ++ past))
          (owned : flags.owner = true → Owned (recent (trace ++ past)) user name) :
          (if flags.lock = true then methodLock name else pure ()).Meets
            (discipline setup request) (trace ++ past)
            (Finds fun after _ => Checked request flags past after user) := by
        have found (new : Past) (steady : ∀ event ∈ new, ¬ event.request.IsExec) :
            Checked request flags past (new ++ (trace ++ past)) user := by
          refine ⟨by simp, later.trans (.append steady), name, nameEq, valid, fun owner => ?_⟩
          rw [recent_append steady]
          exact (owned owner).mono (by simp)
        split
        · exact meets_methodLock nameEq found
        · exact found [] (by simp)
      split
      next owner =>
        refine meets_lookup (lookup_authIsowner user name) fun isowner trace traced => ?_
        cases isowner with
        | false => trivial
        | true =>
            refine locking trace traced.later fun _ => ?_
            rw [traced.recent]
            exact (traced_authIsowner traced).mono (by simp)
      next stranger => exact locking [] (.refl past) fun owner => absurd owner stranger

theorem meets_methodInit (host : Host) (caps : UInt64) (flags : Flags) :
    (methodInit host (.client request.credentials request.params) caps flags).Meets
      (discipline setup request) [] (Finds fun after result => result = request.params ∧
        ∃ user, Admitted request caps flags after user) := by
  refine meets_found (lenient_finds _) (meets_methodAuthenticate host caps) ?_
  rintro after user ⟨userEq, untouched, capable⟩
  split
  next any =>
    refine meets_found (lenient_finds _) (meets_methodCheckFlags flags) ?_
    rintro last ⟨⟩ ⟨subset, later, checked⟩
    exact ⟨rfl, user, userEq, later.untouched untouched, fun auth => (capable auth).mono subset,
      fun _ => checked⟩
  next none => exact ⟨rfl, user, userEq, untouched, capable, fun any => absurd any none⟩

/-- A method of a client begins with its admission. -/
theorem meets_admitted (host : Host) (caps : UInt64) (flags : Flags) {rest : Xml → Method β}
    (lenient : Lenient post)
    (later : ∀ after user, Admitted request caps flags after user →
      (rest request.params).Meets (discipline setup request) after post) :
    (methodInit host (.client request.credentials request.params) caps flags >>= rest).Meets
      (discipline setup request) [] post := by
  refine meets_found lenient (meets_methodInit host caps flags) ?_
  rintro after result ⟨rfl, user, admitted⟩
  exact later after user admitted

end Vcd
