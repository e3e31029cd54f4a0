import Vcd.Discipline

/-!
# Methods that write nothing

Queries, the life-cycle methods other than `vx.create`, `vx.remove` and `vx.rename`, the
group loops and the parts of the helpers do only what a forked child may do. A client's call
of one of them keeps the discipline because its admission does.
-/

namespace Vcd

open Sql Process

variable {setup : Setup} {request : Request} {past : Past} {α β : Type}

/-! ## Bounds on what a program performs -/

section Within

variable {usual quiet : Op → Prop}

theorem within_sys {call : Sys} {rest : Answer → Method β} (permitted : usual (.sys call))
    (later : ∀ answer, (rest answer).Within (I := daemon) usual quiet) :
    (sys call >>= rest).Within (I := daemon) usual quiet :=
  ⟨permitted, later⟩

/-- A check that fails the request. -/
theorem within_check {condition : Prop} [Decidable condition] {fault : Fault}
    {other : α → Method β} {rest : Method β}
    (later : ¬ condition → rest.Within (I := daemon) usual quiet) :
    (if condition then Program.fail fault >>= other else rest).Within (I := daemon) usual quiet := by
  split
  next => trivial
  next refused => exact later refused

theorem within_sysOrFault {function message : Str} {call : Sys} (permitted : usual (.sys call)) :
    (sysOrFault function message call).Within (I := daemon) usual quiet :=
  within_sys permitted fun answer => by split <;> trivial

theorem within_call {function message : Str} {call : Sys} {rest : Unit → Method β}
    (permitted : usual (.sys call)) (later : (rest ()).Within (I := daemon) usual quiet) :
    (sysOrFault function message call >>= rest).Within (I := daemon) usual quiet :=
  (within_sysOrFault permitted).bind fun _ => later

theorem within_spawn {child : Method Empty} {rest : Unit → Method β}
    (forked : child.Within (I := daemon) quiet quiet)
    (later : (rest ()).Within (I := daemon) usual quiet) :
    (Program.spawn child >>= rest).Within (I := daemon) usual quiet :=
  (Program.Within.spawn forked).bind fun _ => later

theorem within_ite {condition : Prop} [Decidable condition] {program other : Method α}
    (yes : program.Within (I := daemon) usual quiet)
    (no : other.Within (I := daemon) usual quiet) :
    (if condition then program else other).Within (I := daemon) usual quiet := by
  split
  · exact yes
  · exact no

theorem within_ofExcept (known : Except Fault α) :
    (ofExcept known).Within (I := daemon) usual quiet := by
  cases known <;> trivial

theorem within_requireRunning (function : Str) {xid : Int}
    (permitted : usual (.sys (.vxInfo xid))) :
    (requireRunning function xid).Within (I := daemon) usual quiet := by
  refine within_sys permitted fun info => ?_
  split
  · split <;> trivial
  · trivial

end Within

/-! ## Silent programs -/

theorem Lookup.silent {program : Method α} (lookup : Lookup program) : Silent program :=
  (lookup.within Quiet).mono fun request query => by
    cases request with
    | prepare sql => trivial
    | _ => exact query.elim

theorem silent_prepare (sql : List Piece) : Silent (vxdbPrepare sql) :=
  (lookup_prepare sql).silent

theorem silent_sys {call : Sys} {rest : Answer → Method β} (quiet : Quiet (.sys call))
    (later : ∀ answer, Silent (rest answer)) : Silent (sys call >>= rest) :=
  within_sys quiet later

/-- A check that fails the request. -/
theorem silent_check {condition : Prop} [Decidable condition] {fault : Fault}
    {other : α → Method β} {rest : Method β} (later : ¬ condition → Silent rest) :
    Silent (if condition then Program.fail fault >>= other else rest) :=
  within_check later

theorem silent_ite {condition : Prop} [Decidable condition] {program other : Method α}
    (yes : Silent program) (no : Silent other) :
    Silent (if condition then program else other) :=
  within_ite yes no

theorem silent_sysOrFault {function message : Str} {call : Sys} (quiet : Quiet (.sys call)) :
    Silent (sysOrFault function message call) :=
  within_sysOrFault quiet

theorem silent_call {function message : Str} {call : Sys} {rest : Unit → Method β}
    (quiet : Quiet (.sys call)) (later : Silent (rest ())) :
    Silent (sysOrFault function message call >>= rest) :=
  within_call quiet later

theorem silent_spawn {child : Method Empty} {rest : Unit → Method β} (silent : Silent child)
    (later : Silent (rest ())) : Silent (Program.spawn child >>= rest) :=
  within_spawn silent later

theorem silent_ofExcept (known : Except Fault α) : Silent (ofExcept known) :=
  within_ofExcept known

theorem silent_inside {body : Body} {name : Str} {program : Method α}
    (silent : Silent program) : Silent (inside body name program) := by
  refine ⟨trivial, fun _ => silent.attempt.bind fun outcome => ⟨trivial, fun _ => ?_⟩⟩
  cases outcome <;> trivial

theorem silent_internal (host : Host) (params : Xml) (caps : UInt64) (flags : Flags) :
    Silent (methodInit host (.internal params) caps flags) := by
  simp only [methodInit]
  split
  · refine Program.Within.bind ?_ fun _ => trivial
    refine (silent_ofExcept _).bind fun name => ?_
    cases validateName name <;> trivial
  · trivial

theorem silent_requireRunning (function : Str) (xid : Int) :
    Silent (requireRunning function xid) :=
  within_requireRunning function trivial

/-- A method that is silent after its admission. -/
def SilentMethod (host : Host) (method : Call → Method Xml) : Prop :=
  ∃ caps flags rest, (∀ call, method call = methodInit host call caps flags >>= rest) ∧
    ∀ params, Silent (rest params)

namespace SilentMethod

variable {host : Host} {method : Call → Method Xml}

theorem internal (silent : SilentMethod host method) (params : Xml) :
    Silent (method (.internal params)) := by
  obtain ⟨caps, flags, rest, equal, silent⟩ := silent
  rw [equal]
  exact (silent_internal host params caps flags).bind silent

theorem keeps (silent : SilentMethod host method) :
    Keeps setup request [] (method (.client request.credentials request.params)) := by
  obtain ⟨caps, flags, rest, equal, silent⟩ := silent
  rw [equal]
  exact meets_admitted host caps flags lenient_true fun _ _ _ => (silent request.params).keeps

end SilentMethod

/-! ## Life cycle -/

theorem silent_vxStartChild (xid : Int) : Silent (vxStartChild xid) :=
  silent_sys trivial fun _ => silent_sys trivial fun _ => trivial

theorem silent_vxExecChild (xid : Int) (command : Str) : Silent (vxExecChild xid command) := by
  refine silent_sys trivial fun migrated => ?_
  split
  · exact silent_sys trivial fun _ => trivial
  · trivial

theorem silent_mVxExec (host : Host) : SilentMethod host (mVxExec host) := by
  refine ⟨_, _, _, fun _ => rfl, fun params => ?_⟩
  refine (silent_ofExcept _).bind fun name => (silent_ofExcept _).bind fun command => ?_
  refine (lookup_vxdbGetxid name).silent.bind fun xid => silent_check fun _ => ?_
  refine (silent_requireRunning _ xid).bind fun _ => ?_
  refine (lookup_vxdbGetvdir host name).silent.bind fun vdir => ?_
  refine silent_call trivial <| silent_call trivial <| silent_call trivial <| ?_
  refine silent_call trivial <| silent_call trivial <| silent_call trivial <| ?_
  refine silent_spawn (silent_vxExecChild xid command) ?_
  refine silent_sys trivial fun output => silent_check fun _ => ?_
  refine silent_sys trivial fun status => silent_check fun _ => silent_check fun _ => ?_
  trivial

theorem silent_vxStartBody (name : Str) : Silent (vxStartBody name) := by
  refine (lookup_vxdbGetxid name).silent.bind fun xid => silent_check fun _ => ?_
  refine silent_sys trivial fun _ => silent_sys trivial fun _ => ?_
  refine silent_sys trivial fun info => silent_check fun _ => ?_
  refine silent_call trivial <| silent_call trivial <| ?_
  refine silent_spawn (silent_vxStartChild xid) ?_
  refine silent_sys trivial fun output => silent_sys trivial fun status => ?_
  exact silent_check fun _ => silent_check fun _ => silent_check fun _ => trivial

theorem silent_mVxStart (host : Host) : SilentMethod host (mVxStart host) :=
  ⟨_, _, _, fun _ => rfl, fun _ => (silent_ofExcept _).bind fun name =>
    silent_inside (silent_vxStartBody name)⟩

theorem silent_awaitStop (xid : Int) (seconds : Nat) : Silent (awaitStop xid seconds) := by
  induction seconds with
  | zero => trivial
  | succ seconds ih =>
      refine silent_sys trivial fun info => ?_
      split
      · split <;> trivial
      · exact silent_sys trivial fun _ => ih

theorem silent_vxStopBody (host : Host) (name : Str) : Silent (vxStopBody host name) := by
  refine (lookup_vxdbGetxid name).silent.bind fun xid => silent_check fun _ => ?_
  refine (silent_requireRunning _ xid).bind fun _ => ?_
  refine (silent_prepare _).bind fun rows => ?_
  split
  · trivial
  · exact ((silent_mVxExec host).internal _).bind fun _ => silent_awaitStop xid _

theorem silent_mVxStop (host : Host) : SilentMethod host (mVxStop host) :=
  ⟨_, _, _, fun _ => rfl, fun _ => (silent_ofExcept _).bind fun name =>
    silent_inside (silent_vxStopBody host name)⟩

theorem silent_vxRebootBody (host : Host) (name : Str) : Silent (vxRebootBody host name) := by
  refine (lookup_vxdbGetxid name).silent.bind fun xid => silent_check fun _ => ?_
  refine (silent_requireRunning _ xid).bind fun _ => ?_
  refine (silent_prepare _).bind fun rows => ?_
  split
  · trivial
  · exact (silent_mVxExec host).internal _

theorem silent_mVxReboot (host : Host) : SilentMethod host (mVxReboot host) :=
  ⟨_, _, _, fun _ => rfl, fun _ => (silent_ofExcept _).bind fun name =>
    silent_inside (silent_vxRebootBody host name)⟩

theorem silent_mVxRestart (host : Host) : SilentMethod host (mVxRestart host) :=
  ⟨_, _, _, fun _ => rfl, fun params => (silent_ofExcept _).bind fun _ =>
    silent_inside (((silent_mVxStop host).internal params).bind fun _ =>
      (silent_mVxStart host).internal params)⟩

theorem silent_mVxKill (host : Host) : SilentMethod host (mVxKill host) := by
  refine ⟨_, _, _, fun _ => rfl, fun params => ?_⟩
  refine (silent_ofExcept _).bind fun name => (silent_ofExcept _).bind fun pid => ?_
  refine (silent_ofExcept _).bind fun sig => ?_
  refine (lookup_vxdbGetxid name).silent.bind fun xid => silent_check fun _ => ?_
  exact (silent_requireRunning _ xid).bind fun _ => silent_call trivial trivial

theorem silent_mapM {items : List α} {body : α → Method β}
    (each : ∀ item ∈ items, Silent (body item)) : Silent (items.mapM body) := by
  rw [← List.mapM'_eq_mapM]
  induction items with
  | nil => trivial
  | cons item items ih =>
      exact (each item (by simp)).bind fun _ =>
        (ih fun item mem => each item (by simp [mem])).bind fun _ => trivial

theorem silent_statusOf (host : Host) (function : Str) {queries : List (Int → Method Xml)}
    (silent : ∀ xid, ∀ query ∈ queries, Silent (query xid)) :
    SilentMethod host (statusOf host function queries) := by
  refine ⟨_, _, _, fun _ => rfl, fun params => (silent_ofExcept _).bind fun name => ?_⟩
  refine (lookup_vxdbGetxid name).silent.bind fun xid => silent_check fun _ => ?_
  refine (silent_requireRunning _ xid).bind fun _ => ?_
  exact (silent_mapM (silent xid)).bind fun _ => trivial

theorem silent_mVxLimstatus (host : Host) : SilentMethod host (mVxLimstatus host) :=
  silent_statusOf host _ fun xid query mem => by
    obtain ⟨limit, -, rfl⟩ := List.mem_map.mp mem
    exact silent_sys trivial fun _ => trivial

theorem silent_mVxNetstatus (host : Host) : SilentMethod host (mVxNetstatus host) :=
  silent_statusOf host _ fun xid query mem => by
    obtain ⟨type, -, rfl⟩ := List.mem_map.mp mem
    exact silent_sys trivial fun _ => trivial

theorem silent_mVxStatus (host : Host) : SilentMethod host (mVxStatus host) := by
  refine ⟨_, _, _, fun _ => rfl, fun params => ?_⟩
  refine (silent_ofExcept _).bind fun name => ?_
  refine (lookup_vxdbGetxid name).silent.bind fun xid => silent_check fun _ => ?_
  refine silent_sys trivial fun info => ?_
  split
  · split <;> trivial
  · refine silent_sys trivial fun stat => ?_
    split <;> trivial

theorem silent_templateList (tbasedir name : Str) (entries : List Str) :
    Silent (templateList tbasedir name entries) := by
  induction entries with
  | nil => trivial
  | cons entry rest ih =>
      unfold templateList
      split
      · exact ih
      · refine silent_sys trivial fun isdir => ?_
        split
        · exact ih
        · refine silent_sys trivial fun isfile => ?_
          split
          · exact ih.bind fun _ => trivial
          · exact silent_sys trivial fun parsed => ih.bind fun _ => trivial

theorem silent_mVxTemplates (host : Host) : SilentMethod host (mVxTemplates host) := by
  refine ⟨_, _, _, fun _ => rfl, fun params => (silent_ofExcept _).bind fun name => ?_⟩
  refine silent_call trivial (silent_sys trivial fun entries => silent_check fun _ => ?_)
  exact (silent_templateList _ name _).bind fun _ => trivial

/-! ## Groups -/

theorem silent_callMember {host : Host} {method : Call → Method Xml}
    (silent : SilentMethod host method) (name : Str) (environment : Option Fault) :
    Silent (callMember method name environment) := by
  cases environment with
  | some fault => trivial
  | none =>
      refine (silent.internal _).attempt.bind fun outcome => ?_
      cases outcome <;> trivial

theorem silent_finishRequest (environment : Option Fault) :
    Silent (finishRequest environment) := by
  cases environment <;> trivial

theorem silent_eachRunning {host : Host} {method : Call → Method Xml}
    (silent : SilentMethod host method) (environment : Option Fault)
    (members : List (Int × Str)) : Silent (eachRunning method environment members) := by
  induction members generalizing environment with
  | nil => exact silent_finishRequest environment
  | cons member rest ih =>
      refine silent_sys trivial fun info => ?_
      split
      · exact (silent_callMember silent _ environment).bind fun environment => ih environment
      · exact ih environment

theorem silent_eachStopped {host : Host} {method : Call → Method Xml}
    (silent : SilentMethod host method) (environment : Option Fault)
    (members : List (Int × Str)) : Silent (eachStopped method environment members) := by
  induction members generalizing environment with
  | nil => exact silent_finishRequest environment
  | cons member rest ih =>
      refine silent_sys trivial fun info => ?_
      split
      · split
        · exact (silent_callMember silent _ environment).bind fun environment => ih environment
        · trivial
      · exact ih environment

theorem silent_vgListInit (group : Str) : Silent (vgListInit group) := by
  refine silent_check fun _ => ?_
  split
  · refine (silent_prepare _).bind fun rows => ?_
    split <;> trivial
  · refine (lookup_vxdbGetgid group).silent.bind fun gid => silent_check fun _ => ?_
    refine (silent_prepare _).bind fun rows => ?_
    split <;> trivial

theorem silent_groupRequest (host : Host) {loop : List (Int × Str) → Method Xml}
    (silent : ∀ members, Silent (loop members)) : SilentMethod host (groupRequest host loop) :=
  ⟨_, _, _, fun _ => rfl, fun _ => (silent_ofExcept _).bind fun group =>
    (silent_vgListInit group).bind fun members => silent members⟩

theorem silent_mVgVxStart (host : Host) : SilentMethod host (mVgVxStart host) :=
  silent_groupRequest host (silent_eachStopped (silent_mVxStart host) none)

theorem silent_mVgVxStop (host : Host) : SilentMethod host (mVgVxStop host) :=
  silent_groupRequest host (silent_eachRunning (silent_mVxStop host) none)

theorem silent_mVgVxReboot (host : Host) : SilentMethod host (mVgVxReboot host) :=
  silent_groupRequest host (silent_eachRunning (silent_mVxReboot host) none)

theorem silent_mVgVxRestart (host : Host) : SilentMethod host (mVgVxRestart host) :=
  silent_groupRequest host (silent_eachRunning (silent_mVxRestart host) none)

theorem silent_mVgList (host : Host) : SilentMethod host (mVgList host) := by
  refine ⟨_, _, _, fun _ => rfl, fun params => (silent_ofExcept _).bind fun group => ?_⟩
  split
  · refine (silent_prepare _).bind fun rows => ?_
    split <;> trivial
  · refine silent_check fun _ => silent_check fun _ => ?_
    refine (lookup_vxdbGetgid group).silent.bind fun gid => silent_check fun _ => ?_
    refine (silent_prepare _).bind fun rows => ?_
    split <;> trivial

/-! ## Queries -/

theorem silent_configGet (host : Host) (function : Str) (cap : UInt64) (flags : Flags)
    (reader : Xml → Except Fault (Str × (Int → List Piece))) (build : List Row → Xml) :
    SilentMethod host (configGet host function cap flags reader build) := by
  refine ⟨_, _, _, fun _ => rfl, fun params => (silent_ofExcept _).bind fun (name, sql) => ?_⟩
  refine (lookup_vxdbGetxid name).silent.bind fun xid => silent_check fun _ => ?_
  refine (silent_prepare _).bind fun rows => ?_
  split <;> trivial

theorem silent_mVxdbNameGet (host : Host) : SilentMethod host (mVxdbNameGet host) := by
  refine ⟨_, _, _, fun _ => rfl, fun params => (silent_ofExcept _).bind fun xid => ?_⟩
  refine (lookup_vxdbGetname _).silent.bind fun name => ?_
  split <;> trivial

theorem silent_mVxdbXidGet (host : Host) : SilentMethod host (mVxdbXidGet host) :=
  ⟨_, _, _, fun _ => rfl, fun _ => (silent_ofExcept _).bind fun name =>
    (lookup_vxdbGetxid name).silent.bind fun _ => silent_check fun _ => trivial⟩

theorem silent_mVxdbVdirGet (host : Host) : SilentMethod host (mVxdbVdirGet host) :=
  ⟨_, _, _, fun _ => rfl, fun _ => (silent_ofExcept _).bind fun name =>
    (lookup_vxdbGetxid name).silent.bind fun _ => silent_check fun _ =>
      (lookup_vxdbGetvdir host name).silent.bind fun _ => trivial⟩

theorem silent_listUid (curuser : Str) (user : Option Str) : Silent (listUid curuser user) := by
  refine (lookup_authIsadmin curuser).silent.bind fun admin => ?_
  split
  · split
    · exact (lookup_authGetuid _).silent
    · trivial
  · split
    · exact silent_check fun _ => (lookup_authGetuid _).silent
    · exact (lookup_authGetuid _).silent

/-- A list of servers is the one method that reads the credentials after its admission. -/
theorem silent_mVxdbList (host : Host) (credentials params : Xml) : ∃ rest : Xml → Method Xml,
    mVxdbList host (.client credentials params) =
      methodInit host (.client credentials params) capInfo {} >>= rest ∧
    ∀ params, Silent (rest params) := by
  refine ⟨_, rfl, fun params => ?_⟩
  refine (silent_ofExcept _).bind fun curuser => (silent_ofExcept _).bind fun user => ?_
  cases methodEmptyParam user with
  | none =>
      refine (silent_listUid curuser none).bind fun uid => (silent_prepare _).bind fun rows => ?_
      split <;> trivial
  | some value =>
      refine silent_check fun _ => (silent_listUid curuser (some value)).bind fun uid => ?_
      refine (silent_prepare _).bind fun rows => ?_
      split <;> trivial

theorem silent_mVcdLogin (host : Host) : SilentMethod host (mVcdLogin host) :=
  ⟨_, _, _, fun _ => rfl, fun _ => trivial⟩

theorem silent_mVcdHostinfo (host : Host) : SilentMethod host (mVcdHostinfo host) :=
  ⟨_, _, _, fun _ => rfl, fun _ => trivial⟩

theorem silent_mVcdStatus (host : Host) : SilentMethod host (mVcdStatus host) := by
  refine ⟨_, _, _, fun _ => rfl, fun params => (silent_prepare _).bind fun rows => ?_⟩
  split
  · trivial
  · trivial
  · exact silent_sys trivial fun _ => trivial

theorem silent_mVcdUserCapsGet (host : Host) : SilentMethod host (mVcdUserCapsGet host) := by
  refine ⟨_, _, _, fun _ => rfl, fun params => (silent_ofExcept _).bind fun user => ?_⟩
  refine (lookup_authGetuid user).silent.bind fun uid => silent_check fun _ => ?_
  refine (silent_prepare _).bind fun rows => ?_
  split <;> trivial

theorem silent_mVcdUserGet (host : Host) : SilentMethod host (mVcdUserGet host) := by
  refine ⟨_, _, _, fun _ => rfl, fun params => (silent_ofExcept _).bind fun user => ?_⟩
  cases methodEmptyParam user with
  | none =>
      refine (silent_prepare _).bind fun rows => ?_
      split <;> trivial
  | some value =>
      refine silent_check fun _ => (silent_prepare _).bind fun rows => ?_
      split <;> trivial

/-- Every registered reader is admitted and is silent then. -/
theorem vxdbReaders_silent {method : Call → Method Xml} {name : Str}
    (mem : (name, method) ∈ vxdbReaders setup) (credentials params : Xml) :
    ∃ caps flags, ∃ rest : Xml → Method Xml, method (.client credentials params) =
        methodInit setup.host (.client credentials params) caps flags >>= rest ∧
      ∀ params, Silent (rest params) := by
  have of_silent {reader : Call → Method Xml} (silent : SilentMethod setup.host reader) :
      ∃ caps flags, ∃ rest : Xml → Method Xml, reader (.client credentials params) =
          methodInit setup.host (.client credentials params) caps flags >>= rest ∧
        ∀ params, Silent (rest params) := by
    obtain ⟨caps, flags, rest, equal, silent⟩ := silent
    exact ⟨caps, flags, rest, equal _, silent⟩
  simp only [vxdbReaders, List.mem_cons, Prod.mk.injEq, List.not_mem_nil, or_false] at mem
  rcases mem with ⟨-, rfl⟩ | ⟨-, rfl⟩ | ⟨-, rfl⟩ | ⟨-, rfl⟩ | ⟨-, rfl⟩ | ⟨-, rfl⟩ | ⟨-, rfl⟩ |
    ⟨-, rfl⟩ | ⟨-, rfl⟩ | ⟨-, rfl⟩ | ⟨-, rfl⟩ | ⟨-, rfl⟩ | ⟨-, rfl⟩ | ⟨-, rfl⟩ | ⟨-, rfl⟩ |
    ⟨-, rfl⟩ | ⟨-, rfl⟩
  · exact of_silent (silent_configGet _ _ _ _ _ _)
  · exact of_silent (silent_configGet _ _ _ _ _ _)
  · exact ⟨_, _, silent_mVxdbList _ _ _⟩
  · exact of_silent (silent_configGet _ _ _ _ _ _)
  · exact of_silent (silent_mVxdbNameGet _)
  · exact of_silent (silent_configGet _ _ _ _ _ _)
  · exact of_silent (silent_configGet _ _ _ _ _ _)
  · exact of_silent (silent_configGet _ _ _ _ _ _)
  · exact of_silent (silent_mVxdbVdirGet _)
  · exact of_silent (silent_configGet _ _ _ _ _ _)
  · exact of_silent (silent_configGet _ _ _ _ _ _)
  · exact of_silent (silent_configGet _ _ _ _ _ _)
  · exact of_silent (silent_configGet _ _ _ _ _ _)
  · exact of_silent (silent_configGet _ _ _ _ _ _)
  · exact of_silent (silent_configGet _ _ _ _ _ _)
  · exact of_silent (silent_configGet _ _ _ _ _ _)
  · exact of_silent (silent_mVxdbXidGet _)

/-- Every registered reader keeps the discipline. -/
theorem vxdbReaders_keep {method : Call → Method Xml}
    (mem : (request.method, method) ∈ vxdbReaders setup) :
    Keeps setup request [] (method (.client request.credentials request.params)) := by
  obtain ⟨caps, flags, rest, equal, silent⟩ :=
    vxdbReaders_silent mem request.credentials request.params
  rw [equal]
  exact meets_admitted _ caps flags lenient_true fun _ _ _ => (silent request.params).keeps

end Vcd
