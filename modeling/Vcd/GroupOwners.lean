import Vcd.Members
import Vcd.Passwords
import Vcd.RightsInvariant

/-!
# Group operations and ownership

The owner check is made for external calls only. A group request checks the capability of the
user and calls the operation on every member internally, whoever owns it.
-/

namespace Vcd

open Sql Process

variable {α β : Type} {world next : World} {host : Host} {name : Str}

/-- The group requests that call an operation on the members. -/
inductive GroupOperation where
  | start | stop | reboot | restart

namespace GroupOperation

/-- The operation on one member. -/
def method (host : Host) : GroupOperation → Call → Method Xml
  | .start => mVxStart host
  | .stop => mVxStop host
  | .reboot => mVxReboot host
  | .restart => mVxRestart host

def loop (host : Host) : GroupOperation → List (Int × Str) → Method Xml
  | .start => eachStopped (mVxStart host) none
  | .stop => eachRunning (mVxStop host) none
  | .reboot => eachRunning (mVxReboot host) none
  | .restart => eachRunning (mVxRestart host) none

/-- The group request. -/
def request (host : Host) : GroupOperation → Call → Method Xml
  | .start => mVgVxStart host
  | .stop => mVgVxStop host
  | .reboot => mVgVxReboot host
  | .restart => mVgVxRestart host

theorem request_eq (host : Host) (operation : GroupOperation) (call : Call) :
    operation.request host call = groupRequest host (operation.loop host) call := by
  cases operation <;> rfl

end GroupOperation

/-! ## Which bodies are entered -/

/-- A method body that is entered is that of the name. -/
def EntersOnly (holds : Str → Prop) : Op → Prop
  | .mark (.enter _ name) => holds name
  | _ => True

/-- No method body is entered. -/
abbrev Outside : Op → Prop :=
  EntersOnly fun _ => False

theorem Outside.entersOnly {holds : Str → Prop} {op : Op} (outside : Outside op) :
    EntersOnly holds op := by
  cases op with
  | mark mark =>
      cases mark with
      | enter body name => exact outside.elim
      | leave => trivial
  | _ => trivial

/-- Bodies are entered for certain names only, and by no child. -/
abbrev Enters (holds : Str → Prop) (program : Method α) : Prop :=
  program.Within (I := daemon) (EntersOnly holds) Outside

theorem Access.outside {op : Op} (access : Access op) : Outside op := by
  cases op with
  | mark mark => exact access.elim
  | _ => trivial

section Enters

variable {holds : Str → Prop}

theorem Lookup.enters {program : Method α} (lookup : Lookup program) : Enters holds program :=
  lookup.access.mono fun _ access => access.outside.entersOnly

theorem enters_methodInit (call : Call) (caps : UInt64) (flags : Flags) :
    Enters holds (methodInit host call caps flags) :=
  (access_methodInit host call caps flags).mono fun _ access => access.outside.entersOnly

theorem enters_inside {body : Body} {program : Method α} (named : holds name)
    (enters : Enters holds program) : Enters holds (inside body name program) := by
  refine ⟨named, fun _ => enters.attempt.bind fun outcome => ⟨trivial, fun _ => ?_⟩⟩
  cases outcome <;> trivial

theorem enters_vxStartBody : Enters holds (vxStartBody name) := by
  refine (lookup_vxdbGetxid name).enters.bind fun xid => within_check fun _ => ?_
  refine within_sys trivial fun _ => within_sys trivial fun _ => within_sys trivial fun _ => ?_
  refine within_check fun _ => within_call trivial (within_call trivial (within_spawn ?_ ?_))
  · exact within_sys trivial fun _ => within_sys trivial fun _ => trivial
  · refine within_sys trivial fun _ => within_sys trivial fun _ => ?_
    exact within_check fun _ => within_check fun _ => within_check fun _ => trivial

theorem enters_vxExecChild (xid : Int) (command : Str) :
    Enters (fun _ => False) (vxExecChild xid command) := by
  refine within_sys trivial fun migrated => ?_
  split
  · exact within_sys trivial fun _ => trivial
  · trivial

theorem enters_mVxExec (call : Call) : Enters holds (mVxExec host call) := by
  refine (enters_methodInit call _ _).bind fun params => ?_
  refine (within_ofExcept _).bind fun name => (within_ofExcept _).bind fun command => ?_
  refine (lookup_vxdbGetxid name).enters.bind fun xid => within_check fun _ => ?_
  refine (within_requireRunning _ trivial).bind fun _ => ?_
  refine (lookup_vxdbGetvdir host name).enters.bind fun vdir => ?_
  refine within_call trivial <| within_call trivial <| within_call trivial ?_
  refine within_call trivial <| within_call trivial <| within_call trivial ?_
  refine within_spawn (enters_vxExecChild xid command) (within_sys trivial fun output => ?_)
  refine within_check fun _ => within_sys trivial fun status => ?_
  exact within_check fun _ => within_check fun _ => trivial

theorem enters_awaitStop (xid : Int) (seconds : Nat) : Enters holds (awaitStop xid seconds) := by
  induction seconds with
  | zero => trivial
  | succ seconds ih =>
      refine within_sys trivial fun info => ?_
      split
      · split <;> trivial
      · exact within_sys trivial fun _ => ih

theorem enters_vxStopBody : Enters holds (vxStopBody host name) := by
  refine (lookup_vxdbGetxid name).enters.bind fun xid => within_check fun _ => ?_
  refine (within_requireRunning _ trivial).bind fun _ => ?_
  refine (lookup_prepare _).enters.bind fun rows => ?_
  cases rows with
  | none => trivial
  | some rows => exact (enters_mVxExec _).bind fun _ => enters_awaitStop xid _

theorem enters_vxRebootBody : Enters holds (vxRebootBody host name) := by
  refine (lookup_vxdbGetxid name).enters.bind fun xid => within_check fun _ => ?_
  refine (within_requireRunning _ trivial).bind fun _ => ?_
  refine (lookup_prepare _).enters.bind fun rows => ?_
  cases rows with
  | none => trivial
  | some rows => exact enters_mVxExec _

end Enters

/-! ## Internal calls -/

/-- The checks of an internal call are those of the name. -/
theorem methodInit_named (valid : validateName name = true) (caps : UInt64) :
    methodInit host (.internal (nameParams name)) caps { owner := true, lock := true } =
      pure (nameParams name) := by
  have checked : methodCheckFlags (nameParams name) none { owner := true, lock := true } =
      (if (!validateName name) = true then fault .inval >>= fun _ => pure () else pure ()) := rfl
  change methodCheckFlags (nameParams name) none { owner := true, lock := true } >>= _ = _
  rw [checked, valid]
  rfl

theorem methodInit_invalid (invalid : ¬ validateName name = true) (caps : UInt64) :
    methodInit host (.internal (nameParams name)) caps { owner := true, lock := true } =
      fault .inval := by
  have checked : methodCheckFlags (nameParams name) none { owner := true, lock := true } =
      (if (!validateName name) = true then fault .inval >>= fun _ => pure () else pure ()) := rfl
  change methodCheckFlags (nameParams name) none { owner := true, lock := true } >>= _ = _
  rw [checked, Bool.eq_false_iff.mpr invalid]
  rfl

namespace GroupOperation

/-- The body of the operation. -/
def body (host : Host) (params : Xml) (name : Str) : GroupOperation → Body × Method Xml
  | .start => (.start, vxStartBody name)
  | .stop => (.stop, vxStopBody host name)
  | .reboot => (.reboot, vxRebootBody host name)
  | .restart => (.restart, do
      let _ ← mVxStop host (.internal params)
      mVxStart host (.internal params))

theorem method_eq (operation : GroupOperation) (call : Call) :
    operation.method host call = (do
      let params ← methodInit host call capInit { owner := true, lock := true }
      let name ← ofExcept (params.getStr (cstr "name"))
      inside (operation.body host params name).1 name (operation.body host params name).2) := by
  cases operation <;> rfl

/-- An internal call enters the body of the operation, if the name is valid. -/
theorem method_named (valid : validateName name = true) (operation : GroupOperation) :
    operation.method host (.internal (nameParams name)) =
      inside (operation.body host (nameParams name) name).1 name
        (operation.body host (nameParams name) name).2 := by
  rw [method_eq, methodInit_named valid]
  rfl

theorem method_invalid (invalid : ¬ validateName name = true) (operation : GroupOperation) :
    operation.method host (.internal (nameParams name)) = fault .inval := by
  rw [method_eq, methodInit_invalid invalid]
  rfl

/-- An internal call enters bodies for its own name only. -/
theorem enters_method (operation : GroupOperation) :
    Enters (fun entered => entered = name ∧ validateName name = true)
      (operation.method host (.internal (nameParams name))) := by
  by_cases valid : validateName name = true
  · have own : name = name ∧ validateName name = true := ⟨rfl, valid⟩
    have start : Enters (fun entered => entered = name ∧ validateName name = true)
        (mVxStart host (.internal (nameParams name))) := by
      have named : mVxStart host (.internal (nameParams name)) = _ :=
        method_named valid GroupOperation.start
      rw [named]
      exact enters_inside own enters_vxStartBody
    have stop : Enters (fun entered => entered = name ∧ validateName name = true)
        (mVxStop host (.internal (nameParams name))) := by
      have named : mVxStop host (.internal (nameParams name)) = _ :=
        method_named valid GroupOperation.stop
      rw [named]
      exact enters_inside own enters_vxStopBody
    cases operation with
    | start => exact start
    | stop => exact stop
    | reboot =>
        rw [method_named valid]
        exact enters_inside own enters_vxRebootBody
    | restart =>
        rw [method_named valid]
        exact enters_inside own (stop.bind fun _ => start)
  · rw [method_invalid valid]
    trivial

end GroupOperation

/-! ## The loops -/

section Loops

variable {holds : Str → Prop}

theorem enters_callMember {method : Call → Method Xml}
    (enters : Enters holds (method (.internal (nameParams name)))) (environment : Option Fault) :
    Enters holds (callMember method name environment) := by
  cases environment with
  | some fault => trivial
  | none =>
      refine enters.attempt.bind fun outcome => ?_
      cases outcome <;> trivial

theorem enters_eachRunning {method : Call → Method Xml} {members : List (Int × Str)}
    (enters : ∀ member ∈ members, Enters holds (method (.internal (nameParams member.2))))
    (environment : Option Fault) : Enters holds (eachRunning method environment members) := by
  induction members generalizing environment with
  | nil => cases environment <;> trivial
  | cons member rest ih =>
      have later := ih fun other mem => enters other (.tail _ mem)
      refine within_sys trivial fun info => ?_
      split
      · exact (enters_callMember (enters member (.head _)) environment).bind later
      · exact later environment

theorem enters_eachStopped {method : Call → Method Xml} {members : List (Int × Str)}
    (enters : ∀ member ∈ members, Enters holds (method (.internal (nameParams member.2))))
    (environment : Option Fault) : Enters holds (eachStopped method environment members) := by
  induction members generalizing environment with
  | nil => cases environment <;> trivial
  | cons member rest ih =>
      have later := ih fun other mem => enters other (.tail _ mem)
      refine within_sys trivial fun info => ?_
      split
      · split
        · exact (enters_callMember (enters member (.head _)) environment).bind later
        · trivial
      · exact later environment

/-- The loop enters bodies for members with valid names only. -/
theorem enters_loop (operation : GroupOperation) (members : List (Int × Str)) :
    Enters (fun name => validateName name = true ∧ ∃ member ∈ members, member.2 = name)
      (operation.loop host members) := by
  have each (operation : GroupOperation) (member : Int × Str) (mem : member ∈ members) :
      Enters (fun name => validateName name = true ∧ ∃ member ∈ members, member.2 = name)
        (operation.method host (.internal (nameParams member.2))) := by
    refine operation.enters_method.mono fun op entered => ?_
    cases op with
    | mark mark =>
        cases mark with
        | enter body name =>
            obtain ⟨rfl, valid⟩ := entered
            exact ⟨valid, member, mem, rfl⟩
        | leave => trivial
    | _ => trivial
  cases operation with
  | start => exact enters_eachStopped (each .start) none
  | stop => exact enters_eachRunning (each .stop) none
  | reboot => exact enters_eachRunning (each .reboot) none
  | restart => exact enters_eachRunning (each .restart) none

end Loops

/-- A method body is entered for the name. -/
def PerformsOn (trace : List (World × Op)) (name : Str) : Prop :=
  ∃ step ∈ trace, ∃ body, step.2 = .mark (.enter body name)

theorem PerformsOn.holds {holds : Str → Prop} {program : Method α} (enters : Enters holds program)
    {self : Nat} (performs : PerformsOn (program.run machine self world).trace name) :
    holds name := by
  obtain ⟨step, mem, body, entered⟩ := performs
  have known := @Program.Within.run_trace daemon Fault α machine self _ _ program enters world
    step mem
  rw [entered] at known
  exact known.elim id False.elim

namespace GroupOperation

/-- What `vx_info` answers when the operation is due, and when it is not. -/
def due : GroupOperation → Answer
  | .start => { rc := -1, errno := esrch }
  | _ => { rc := 0 }

def idle : GroupOperation → Answer
  | .start => { rc := 0 }
  | _ => { rc := -1, errno := esrch }

/-- A kernel in which the operation is due for the member whose turn comes with a certain
call. -/
def kernelDueAt (operation : GroupOperation) (turn clock : Nat) (_ : Sys) : Answer :=
  if clock = turn then operation.due else operation.idle

variable {operation : GroupOperation} {xid : Int} {rest : List (Int × Str)}

/-- One member of the loop. -/
theorem loop_cons : ∃ (asks : Answer → Method Xml) (later : Option Fault → Method Xml),
    operation.loop host ((xid, name) :: rest) = sys (.vxInfo xid) >>= asks ∧
      asks operation.idle = operation.loop host rest ∧
      asks operation.due = callMember (operation.method host) name none >>= later := by
  cases operation <;> exact ⟨_, _, rfl, rfl, rfl⟩

theorem performsOn_idle (idle : world.kernel world.clock (.vxInfo xid) = operation.idle)
    {entered : Str}
    (later : PerformsOn ((operation.loop host rest).run machine 0
      { world with clock := world.clock + 1 }).trace entered) :
    PerformsOn ((operation.loop host ((xid, name) :: rest)).run machine 0 world).trace entered := by
  obtain ⟨asks, _, equal, passes, -⟩ := @loop_cons host name operation xid rest
  obtain ⟨step, mem, body, entered⟩ := later
  rw [equal, run_sys, idle, passes]
  exact ⟨step, .tail _ mem, body, entered⟩

theorem performsOn_due (valid : validateName name = true)
    (due : world.kernel world.clock (.vxInfo xid) = operation.due) :
    PerformsOn ((operation.loop host ((xid, name) :: rest)).run machine 0 world).trace name := by
  obtain ⟨asks, later, equal, -, calls⟩ := @loop_cons host name operation xid rest
  rw [equal, run_sys, due, calls]
  unfold callMember
  rw [method_named valid]
  exact ⟨_, .tail _ (.head _), _, rfl⟩

/-- In a kernel where the operation is due for one member, it is performed on that member. -/
theorem performsOn_turn (valid : validateName name = true) (before : List (Int × Str))
    (world : World)
    (kernel : world.kernel = operation.kernelDueAt (world.clock + before.length)) :
    PerformsOn ((operation.loop host (before ++ (xid, name) :: rest)).run machine 0 world).trace
      name := by
  induction before generalizing world with
  | nil =>
      refine performsOn_due valid ?_
      rw [kernel]
      exact if_pos rfl
  | cons member before ih =>
      refine performsOn_idle ?_ (ih { world with clock := world.clock + 1 } ?_)
      · rw [kernel]
        refine if_neg ?_
        rw [List.length_cons]
        omega
      · rw [kernel, List.length_cons, Nat.add_assoc, Nat.add_comm 1]

end GroupOperation

/-! ## The request -/

theorem enters_groupMembers {holds : Str → Prop} (call : Call) :
    Enters holds (groupMembers host call) := by
  refine (enters_methodInit call _ _).bind fun params => (within_ofExcept _).bind fun group => ?_
  refine within_check fun _ => ?_
  split
  · refine (lookup_prepare _).enters.bind fun rows => ?_
    split <;> trivial
  · refine (lookup_vxdbGetgid group).enters.bind fun gid => within_check fun _ => ?_
    refine (lookup_prepare _).enters.bind fun rows => ?_
    split <;> trivial

/-- A program whose queries have an answer returns it. -/
theorem ends_of_answer {program : Method α} {value : α}
    (known : answer world.db.oracle program = some value) :
    ends program world = (.returned value, world) := by
  induction program with
  | pure result =>
      cases known
      rfl
  | fail fault => cases known
  | exit => cases known
  | op request next ih =>
      cases request with
      | prepare sql => exact ih _ known
      | _ => cases known
  | fork next ih => cases known

theorem answer_of_returned {program : Method α} (noFork : Program.NoFork program)
    (within : program.Within (I := daemon) Op.IsPrepare Op.IsPrepare) {value : α}
    (returned : ends program world = (.returned value, next)) :
    answer world.db.oracle program = some value := by
  induction program with
  | pure result =>
      cases returned
      rfl
  | fail fault => cases returned
  | exit => cases returned
  | op request rest ih =>
      cases request with
      | prepare sql => exact ih _ (noFork _) (within.2 _) returned
      | _ => exact within.1.elim
  | fork rest ih => exact noFork.elim

theorem prepares_vgListInit (group : Str) :
    (vgListInit group).Within (I := daemon) Op.IsPrepare Op.IsPrepare ∧
      Program.NoFork (vgListInit group) := by
  constructor
  · refine within_check fun _ => ?_
    split
    · refine ((lookup_prepare _).within _).bind fun rows => ?_
      split <;> trivial
    · refine ((lookup_vxdbGetgid group).within _).bind fun gid => within_check fun _ => ?_
      refine ((lookup_prepare _).within _).bind fun rows => ?_
      split <;> trivial
  · refine noFork_check ?_
    split
    · refine (lookup_prepare _).noFork.bind fun rows => ?_
      split <;> trivial
    · refine (lookup_vxdbGetgid group).noFork.bind fun gid => noFork_check ?_
      refine (lookup_prepare _).noFork.bind fun rows => ?_
      split <;> trivial

section Request

variable {credentials params : Xml} {user group : Str} {members : List (Int × Str)}

/-- The members a request lists, for a user who may operate on them. -/
theorem ends_groupMembers
    (admitted : authenticationIn (counted world.db).oracle host credentials capInit = .ok user)
    (groupEq : params.getStr (cstr "group") = .ok group)
    (listed : answer (counted world.db).oracle (vgListInit group) = some members) :
    ends (groupMembers host (.client credentials params)) world =
      (.returned members, { world with db := counted world.db }) := by
  unfold groupMembers
  rw [ends_admitted admitted]
  change ends (ofExcept (params.getStr (cstr "group")) >>= vgListInit) _ = _
  rw [groupEq]
  exact @ends_of_answer _ { world with db := counted world.db } _ _ listed

theorem listed_of_returned (groupEq : params.getStr (cstr "group") = .ok group)
    (returned : ends (groupMembers host (.client credentials params)) world =
      (.returned members, next)) :
    answer (counted world.db).oracle (vgListInit group) = some members := by
  obtain ⟨-, ended⟩ := returned_admitted returned
  obtain ⟨read, equal, ended⟩ := returned_ofExcept ended
  obtain rfl := Except.ok.inj (groupEq.symm.trans equal)
  obtain ⟨within, noFork⟩ := prepares_vgListInit group
  have listed := answer_of_returned noFork within ended
  rwa [World.db_locked] at listed

end Request

/-- Whatever the kernel answers, the operation is performed on virtual servers that the user
owns only. -/
def StaysOwned (host : Host) (operation : GroupOperation) (call : Call) (user : Str)
    (world : World) : Prop :=
  ∀ kernel name, PerformsOn ((operation.request host call).run machine 0
      { world with kernel }).trace name →
    Owns world.db (uidIn world.db.oracle user) (xidIn world.db.oracle name)

/-- The user owns the virtual servers of the group. -/
def OwnsMembers (world : World) (user group : Str) : Prop :=
  ∀ members, answer (counted world.db).oracle (vgListInit group) = some members →
    ∀ member ∈ members, validateName member.2 = true →
      Owns world.db (uidIn world.db.oracle user) (xidIn world.db.oracle member.2)

/-- A group operation stays within what its user owns exactly when that is the whole group. -/
theorem stays_owned_iff (host : Host) (operation : GroupOperation) (credentials params : Xml)
    (user group : Str) (world : World)
    (admitted : authenticationIn (counted world.db).oracle host credentials capInit = .ok user)
    (groupEq : params.getStr (cstr "group") = .ok group) :
    StaysOwned host operation (.client credentials params) user world ↔
      OwnsMembers world user group := by
  constructor
  · intro owned members listed member mem valid
    obtain ⟨before, after, rfl⟩ := List.append_of_mem mem
    let kernel := operation.kernelDueAt (world.clock + before.length)
    refine owned kernel member.2 ?_
    have started := @ends_groupMembers { world with kernel } host credentials params user group _
      admitted groupEq listed
    have state : ((groupMembers host (.client credentials params)).run machine 0
        { world with kernel }).state = { world with kernel, db := counted world.db } :=
      congrArg Prod.snd started
    rw [operation.request_eq, groupRequest_eq,
      run_bind_returned (settled_groupMembers host _).contained (congrArg Prod.fst started)
        (operation.loop host), state]
    obtain ⟨step, stepMem, entered⟩ := @GroupOperation.performsOn_turn host member.2 operation
      member.1 after valid before { world with kernel, db := counted world.db } rfl
    exact ⟨step, List.mem_append_right _ stepMem, entered⟩
  · intro owns kernel name performs
    rw [operation.request_eq, groupRequest_eq] at performs
    have outside : ¬ PerformsOn ((groupMembers host (.client credentials params)).run machine 0
        { world with kernel }).trace name := by
      intro performs
      have entersNone : Enters (fun _ => False) (groupMembers host (.client credentials params)) :=
        enters_groupMembers _
      exact performs.holds entersNone
    by_cases stopped : ∀ members, ((groupMembers host (.client credentials params)).run machine 0
        { world with kernel }).outcome ≠ .returned members
    · rw [trace_bind_stopped (settled_groupMembers host _).contained stopped] at performs
      exact absurd performs outside
    · obtain ⟨members, returned⟩ := not_forall.mp stopped
      have returned := not_not.mp returned
      have listed := @listed_of_returned { world with kernel } _ host credentials params group
        members groupEq (Prod.ext returned rfl)
      rw [run_bind_returned (settled_groupMembers host _).contained returned] at performs
      obtain ⟨step, mem, body, entered⟩ := performs
      rcases List.mem_append.mp mem with early | late
      · exact absurd ⟨step, early, body, entered⟩ outside
      · have performs : PerformsOn _ name := ⟨step, late, body, entered⟩
        obtain ⟨valid, member, memberMem, rfl⟩ := performs.holds (enters_loop operation members)
        exact owns members listed member memberMem valid

/-- A user with the capability `INIT`, and a server of nobody. -/
def strangerVxdb : Vxdb :=
  (oneServer.replace Table.user [.int 3, .str (cstr "eve"), .str (cstr "*"), .int 0]).replace
    Table.userCaps [.int 3, .str (cstr "INIT")]

def stranger : World :=
  World.boot strangerVxdb runningKernel

def allParams : Xml :=
  .struct [(cstr "group", .str (cstr "all"))]

theorem stays_owned_iff_stranger :
    StaysOwned default .stop (.client eveCredentials allParams) (cstr "eve") stranger ↔
      OwnsMembers stranger (cstr "eve") (cstr "all") :=
  stays_owned_iff default .stop eveCredentials allParams (cstr "eve") (cstr "all") stranger
    (by rfl) rfl

/-- The bodies a trace enters. -/
def enteredNames (trace : List (World × Op)) : List Str :=
  trace.filterMap fun step => match step.2 with
    | .mark (.enter _ name) => some name
    | _ => none

theorem performsOn_of_mem {trace : List (World × Op)} (mem : name ∈ enteredNames trace) :
    PerformsOn trace name := by
  obtain ⟨step, listed, known⟩ := List.mem_filterMap.mp mem
  refine ⟨step, listed, ?_⟩
  split at known
  next body other op =>
    cases known
    exact ⟨body, op⟩
  next => cases known

/-- A user stops a server of nobody. -/
theorem stranger_stops_server : ¬ ∀ (host : Host) (operation : GroupOperation)
    (credentials params : Xml) (user group : Str) (world : World),
    authenticationIn (counted world.db).oracle host credentials capInit = .ok user →
    adminIn world.db.oracle user = false → params.getStr (cstr "group") = .ok group →
    StaysOwned host operation (.client credentials params) user world := by
  intro owned
  have performs : PerformsOn ((GroupOperation.stop.request default
      (.client eveCredentials allParams)).run machine 0 stranger).trace (cstr "web") :=
    performsOn_of_mem (by decide +kernel)
  obtain ⟨row, mem, -⟩ := owned default .stop eveCredentials allParams (cstr "eve") (cstr "all")
    stranger (by rfl) (by decide +kernel) rfl stranger.kernel (cstr "web") performs
  have none : stranger.db.rows Table.xidUidMap = [] := by decide +kernel
  rw [none] at mem
  cases mem

end Vcd
