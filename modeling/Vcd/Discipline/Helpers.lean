import Vcd.Discipline.Readers
import Vcd.Process.Sequence

/-!
# Helpers keep the discipline

The helpers of the kernel write one table, `restart`, on a context id that has a name.
-/

namespace Vcd

open Sql Process

variable {setup : Setup} {request : Request} {past : Past} {α β : Type}

/-- What a helper found out about the context it is called for. -/
def Helps (request : Request) (past : Past) (target : Int × Str) : Prop :=
  Untouched past ∧ ∃ given, request.params.getInt (cstr "xid") = .ok given ∧
    target.1 = uint32 given ∧ Named (recent past) (uint32 given) target.2

theorem meets_helperTarget (host : Host) :
    (helperTarget host (.client request.credentials request.params)).Meets
      (discipline setup request) [] (Finds (Helps request)) := by
  refine meets_admitted host capHelper {} (lenient_finds _) fun after user admitted => ?_
  refine meets_ofExcept (lenient_finds _) fun xid xidEq => ?_
  refine meets_lookup (lookup_vxdbGetname _) fun name trace traced => ?_
  cases name with
  | none => trivial
  | some name =>
      refine ⟨traced.later.untouched admitted.untouched, xid, xidEq, rfl, ?_⟩
      change Named (recent (trace ++ after)) (uint32 xid) name
      rw [traced.recent]
      exact (traced_vxdbGetname traced).mono (by simp)

/-- A helper that is silent once it knows its target. -/
theorem helper_keeps (host : Host) {rest : Int × Str → Method Xml}
    (silent : ∀ xid name, Silent (rest (xid, name))) :
    Keeps setup request []
      (helperTarget host (.client request.credentials request.params) >>= rest) :=
  meets_found lenient_true (meets_helperTarget host) fun _ target _ =>
    (silent target.1 target.2).keeps

/-- What the parts of a startup do that do not name the context. -/
def NamesNothing : Op → Prop
  | .sys (.vxUnameSet _ _ _) => False
  | op => Quiet op

/-- A program that names no context, and is silent. -/
abbrev Nameless (program : Method α) : Prop :=
  program.Within (I := daemon) NamesNothing NamesNothing

theorem quiet_of_namesNothing {op : Op} (nothing : NamesNothing op) : Quiet op := by
  unfold NamesNothing at nothing
  split at nothing
  · exact nothing.elim
  · exact nothing

theorem Nameless.silent {program : Method α} (nameless : Nameless program) : Silent program :=
  nameless.weaken (fun _ => quiet_of_namesNothing) fun _ => quiet_of_namesNothing

theorem Lookup.nameless {program : Method α} (lookup : Lookup program) : Nameless program :=
  (lookup.within NamesNothing).mono fun request query => by
    cases request with
    | prepare sql => trivial
    | _ => exact query.elim

theorem nameless_selectRows (function : Str) (sql : List Piece) :
    Nameless (selectRows function sql) :=
  (lookup_prepare sql).nameless.bind fun rows => by split <;> trivial

theorem nameless_selectXid (function select : Str) (xid : Int) :
    Nameless (selectXid function select xid) :=
  nameless_selectRows function _

theorem silent_selectXid (function select : Str) (xid : Int) :
    Silent (selectXid function select xid) :=
  (nameless_selectXid function select xid).silent

theorem silent_forM {items : List α} {body : α → Method PUnit}
    (each : ∀ item, Silent (body item)) : Silent (items.forM body) :=
  .forM each items

/-! ## helper.netup -/

theorem silent_networkInterface (xid : Int) (host : Host) (row : Row) :
    Silent (networkInterface xid host row) :=
  silent_check fun _ => silent_sysOrFault trivial

theorem silent_networkBroadcast (xid : Int) (host : Host) (row : Row) :
    Silent (networkBroadcast xid host row) :=
  silent_check fun _ => silent_sysOrFault trivial

theorem mHelperNetup_keeps (host : Host) : Keeps setup request []
    (mHelperNetup host (.client request.credentials request.params)) := by
  refine helper_keeps host fun xid name => ?_
  refine silent_sys trivial fun info => silent_check fun _ => ?_
  refine (silent_selectXid _ _ xid).bind fun rows => ?_
  refine (silent_forM (silent_networkInterface xid host)).bind fun _ => ?_
  refine (silent_selectXid _ _ xid).bind fun rows => ?_
  exact (silent_forM (silent_networkBroadcast xid host)).bind fun _ => trivial

/-! ## helper.restart and helper.shutdown -/

theorem mHelperRestart_keeps (host : Host) (method : request.method = cstr "helper.restart") :
    Keeps setup request [] (mHelperRestart host (.client request.credentials request.params)) := by
  refine meets_found lenient_true (meets_helperTarget host) ?_
  rintro after ⟨_, name⟩ ⟨untouched, given, givenEq, rfl, named⟩
  have kind : writeKind request.method = some .restart := by
    rw [method]
    rfl
  refine meets_exec (.inr ⟨_, kind, .restart name given untouched (.restart method) givenEq named⟩)
    fun outcome => ?_
  split <;> trivial

theorem nameless_removeCpuset (xid : Int) : Nameless (removeCpuset xid) :=
  within_sys trivial fun _ => within_ite (within_sys trivial fun _ => trivial) trivial

theorem silent_awaitGone (function message : Str) (poll : Sys) (late : List Piece)
    (quiet : Quiet (.sys poll)) (seconds : Nat) :
    Silent (awaitGone function message poll late seconds) := by
  induction seconds with
  | zero => trivial
  | succ seconds ih =>
      refine silent_sys trivial fun _ => silent_sys quiet fun answer => ?_
      split
      · split <;> trivial
      · exact ih

theorem silent_shutdownChild (host : Host) (xid : Int) (name : Str) (timeout : Nat) :
    Silent (shutdownChild host xid name timeout) :=
  (silent_awaitGone _ _ (.nxInfo xid) _ trivial timeout).bind fun left =>
    (silent_awaitGone _ _ (.vxInfo xid) _ trivial left).bind fun _ =>
      ((silent_mVxStart host).internal _).attempt.bind fun _ => trivial

theorem mHelperShutdown_keeps (host : Host) (method : request.method = cstr "helper.shutdown") :
    Keeps setup request [] (mHelperShutdown host (.client request.credentials request.params)) := by
  refine meets_found lenient_true (meets_helperTarget host) ?_
  rintro after ⟨_, name⟩ ⟨untouched, given, givenEq, rfl, named⟩
  have kind : writeKind request.method = some .restart := by
    rw [method]
    rfl
  refine meets_sys trivial fun mounted => ?_
  refine meets_optional (nameless_removeCpuset _).silent lenient_true fun current grows => ?_
  have later : Later after current := (Later.sys _ mounted).trans (.grows grows)
  refine meets_exec (.inr ⟨_, kind, .restart name given (later.untouched untouched)
    (.shutdown method) givenEq (named.mono later.recent)⟩) fun outcome =>
      meets_check lenient_true fun _ => ?_
  · refine Silent.keeps (silent_ite trivial ((silent_prepare _).bind fun rows => ?_))
    have spawned (timeout : Int) : Silent (do
        sysOrFault (cstr "m_helper_shutdown") (cstr "fork") .fork
        Program.spawn (shutdownChild host (uint32 given) name timeout.toNat)
        sysOrFault (cstr "m_helper_shutdown") (cstr "waitpid") .waitpid
        return Xml.nil) :=
      silent_call trivial (silent_spawn (silent_shutdownChild host _ name _)
        (silent_call trivial trivial))
    split <;> exact spawned _

/-! ## helper.startup -/

theorem nameless_contextCapsAndFlags (xid : Int) : Nameless (contextCapsAndFlags xid) := by
  refine (nameless_selectXid _ _ xid).bind fun bcaps => within_call trivial ?_
  refine (nameless_selectXid _ _ xid).bind fun ccaps => within_call trivial ?_
  exact (nameless_selectXid _ _ xid).bind fun flags => within_sysOrFault trivial

theorem nameless_contextDiskLimits (host : Host) (xid : Int) (name : Str) :
    Nameless (contextDiskLimits host xid name) := by
  refine (lookup_vxdbGetvdir host name).nameless.bind fun vdir => within_sys trivial fun _ => ?_
  refine (nameless_selectXid _ _ xid).bind fun rows => ?_
  cases rows with
  | nil => trivial
  | cons row rows =>
      refine within_call trivial (within_sys trivial fun used => within_check fun _ => ?_)
      exact within_sysOrFault trivial

theorem nameless_contextResourceLimit (xid : Int) (row : Row) :
    Nameless (contextResourceLimit xid row) :=
  within_ite (within_sys trivial fun _ => within_ite (within_sysOrFault trivial) trivial) trivial

theorem nameless_contextResourceLimits (xid : Int) : Nameless (contextResourceLimits xid) :=
  within_call trivial <| (nameless_selectXid _ _ xid).bind fun _ =>
    .forM (nameless_contextResourceLimit xid) _

theorem nameless_writeCpuset (path text : Str) (environment : Option Fault) :
    Nameless (writeCpuset path text environment) :=
  within_sys trivial fun _ => within_ite trivial (within_sys trivial fun _ => trivial)

theorem nameless_contextCpuset (xid : Int) : Nameless (contextCpuset xid) := by
  refine within_sys trivial fun mounted => ?_
  split
  · refine (nameless_removeCpuset xid).bind fun _ => ?_
    refine (nameless_selectXid _ _ xid).bind fun rows => ?_
    cases rows with
    | nil => trivial
    | cons row rows =>
        refine within_sys trivial fun isdir => within_ite (within_sys trivial fun _ => ?_) ?_
        all_goals
          refine (nameless_writeCpuset _ _ _).bind fun _ => ?_
          refine (nameless_writeCpuset _ _ _).bind fun environment => ?_
          refine within_sys trivial fun ispath => within_ite ?_ ?_
          · cases environment <;> trivial
          · refine (nameless_writeCpuset _ _ _).bind fun environment => ?_
            cases environment <;> trivial
  · trivial

theorem nameless_contextSchedulerRow (host : Host) (xid : Int) (row : Row) :
    Nameless (contextSchedulerRow host xid row) :=
  within_ite (within_sysOrFault trivial) trivial

theorem nameless_contextScheduler (host : Host) (xid : Int) :
    Nameless (contextScheduler host xid) :=
  (nameless_selectRows _ _).bind fun _ => .forM (nameless_contextSchedulerRow host xid) _

theorem silent_contextUnameRow (xid : Int) (row : Row) : Silent (contextUnameRow xid row) :=
  silent_ite (silent_sysOrFault trivial) trivial

theorem silent_contextUname (xid : Int) (name vdir : Str) :
    Silent (contextUname xid name vdir) := by
  refine (silent_selectXid _ _ xid).bind fun rows => ?_
  refine (silent_forM (silent_contextUnameRow xid)).bind fun _ => ?_
  exact silent_ite (silent_sysOrFault trivial) trivial

theorem nameless_namespaceSetup (xid : Int) : Nameless (namespaceSetup xid) := by
  have child : Nameless (namespaceChild xid) := within_sys trivial fun _ => trivial
  refine within_call trivial (within_spawn child (within_sys trivial fun status => ?_))
  exact within_check fun _ => by split <;> trivial

theorem nameless_mountChild (xid : Int) (vdir dst command : Str) :
    Nameless (mountChild xid vdir dst command) :=
  within_sys trivial fun _ => within_ite (within_sys trivial fun _ =>
    within_ite (within_sys trivial fun _ => trivial) trivial) trivial

theorem nameless_doMount (xid : Int) (vdir : Str) (mtab : Bool) (row : Row) :
    Nameless (doMount xid vdir mtab row) := by
  refine within_call trivial (within_spawn (nameless_mountChild xid vdir _ _) ?_)
  refine within_sys trivial fun status => within_check fun _ => within_check fun _ =>
    within_check fun _ => ?_
  exact within_ite (within_sys trivial fun _ => trivial) trivial

theorem nameless_namespaceMount (xid : Int) (vdir : Str) : Nameless (namespaceMount xid vdir) := by
  have mounts : Nameless (do
      sysOrFault (cstr "namespace_mount") (cstr "chroot_secure_chdir(/etc)")
        (.chrootSecureChdir vdir (cstr "/etc"))
      let _ ← sys (.unlink (cstr "mtab"))
      sysOrFault (cstr "namespace_mount") (cstr "open_trunc(/etc/mtab)") (.openTrunc (cstr "mtab"))
      let _ ← sys (.dprintf (cstr "mtab") (cstr "/dev/root / ufs defaults 0 0\n"))
      let rows ← selectXid (cstr "namespace_mount") (cstr "SELECT src,dst,type,opts FROM mount") xid
      rows.forM (doMount xid vdir true)) := by
    refine within_call trivial (within_sys trivial fun _ => within_call trivial ?_)
    refine within_sys trivial fun _ => (nameless_selectXid _ _ xid).bind fun rows => ?_
    exact .forM (nameless_doMount xid vdir true) _
  refine (lookup_prepare _).nameless.bind fun rows => ?_
  split
  · exact (nameless_doMount xid vdir false _).bind fun _ => mounts
  · exact mounts

theorem mHelperStartup_keeps (host : Host) : Keeps setup request []
    (mHelperStartup host (.client request.credentials request.params)) := by
  refine helper_keeps host fun xid name => ?_
  refine silent_sys trivial fun info => silent_check fun _ => ?_
  refine (lookup_vxdbGetvdir host name).silent.bind fun vdir => ?_
  refine (nameless_selectRows _ _).silent.bind fun rows => ?_
  refine (nameless_contextCapsAndFlags xid).silent.bind fun _ => ?_
  refine (nameless_contextDiskLimits host xid name).silent.bind fun _ => ?_
  refine (nameless_contextResourceLimits xid).silent.bind fun _ => ?_
  refine (nameless_contextCpuset xid).silent.bind fun _ => ?_
  refine (nameless_contextScheduler host xid).silent.bind fun _ => ?_
  refine (nameless_namespaceSetup xid).silent.bind fun _ => ?_
  refine (silent_contextUname xid name vdir).bind fun _ => ?_
  exact (nameless_namespaceMount xid vdir).silent.bind fun _ => trivial

end Vcd
