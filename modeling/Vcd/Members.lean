import Vcd.Children
import Vcd.Process.Ghosts
import Vcd.RemoteExec
import Vcd.Trails

/-!
# Operations on all members of a group

`vg.vx.stop`, `vg.vx.reboot` and `vg.vx.restart` call a method on one member after the other
in one process. What a member's operation does to the process, its root directory and its
network context, stays for the members after it, and so does a fault.
-/

namespace Vcd

open Sql Process

variable {α β : Type} {process : Nat} {world : World}

/-! ## Where the process stands -/

/-- Whether the root directory and the network context of the process are those of the daemon,
and whether it has looked up a path. Entering a namespace changes neither of the two. -/
structure Standing where
  root : Bool
  network : Bool
  looked : Bool

namespace Standing

/-- The daemon when a request comes in. -/
def daemon : Standing :=
  ⟨true, true, false⟩

/-- In the root directory and the network context of a virtual server. -/
def guest : Standing :=
  ⟨false, false, true⟩

def next (standing : Standing) : (op : Op) → op.Reply → Standing
  | .sys (.chrootSecureChdir _ _), _ => { standing with looked := true }
  | .sys .chroot, answer => if answer.rc = -1 then standing else { standing with root := false }
  | .sys (.nxMigrate _), answer =>
      if answer.rc = -1 then standing else { standing with network := false }
  | _, _ => standing

/-- Paths are looked up from the root directory of the daemon, and the process migrates from
its network context. -/
def Own (standing : Standing) : Op → Prop
  | .sys (.chrootSecureChdir _ _) => standing.root = true
  | .sys (.nxMigrate _) => standing.network = true
  | _ => True

end Standing

/-- Operations that do not depend on where the process stands, and do not change it. -/
def Settled : Op → Prop
  | .sys (.chrootSecureChdir _ _) | .sys .chroot | .sys (.nxMigrate _) => False
  | _ => True

/-- A promise that depends on where the process stands. -/
abbrev travel (promise : Standing → Op → Prop) : Contract daemon where
  Ghost := Standing
  promise
  next := Standing.next
  quiet := Settled

theorem next_of_settled (standing : Standing) : ∀ (op : Op) (reply : op.Reply), Settled op →
    standing.next op reply = standing
  | .prepare _, _, _ | .exec _, _, _ | .testLock _, _, _ | .lock _, _, _ | .mark _, _, _ => rfl
  | .sys call, reply, settled => by
      cases call with
      | chrootSecureChdir root path => exact settled.elim
      | chroot => exact settled.elim
      | nxMigrate xid => exact settled.elim
      | _ => rfl

theorem still_travel (promise : Standing → Op → Prop) : (travel promise).Still :=
  fun standing request reply settled => next_of_settled standing request reply settled

/-! ## Settled programs -/

abbrev SettledProgram (program : Method α) : Prop :=
  program.Within (I := daemon) Settled Settled

theorem settled_of_access {op : Op} (access : Access op) : Settled op := by
  cases op with
  | sys call => exact access.elim
  | _ => trivial

theorem Lookup.settled {program : Method α} (lookup : Lookup program) : SettledProgram program :=
  lookup.access.mono fun _ => settled_of_access

theorem settled_methodInit (host : Host) (call : Call) (caps : UInt64) (flags : Flags) :
    SettledProgram (methodInit host call caps flags) :=
  (access_methodInit host call caps flags).mono fun _ => settled_of_access

theorem settled_inside {body : Body} {name : Str} {program : Method α}
    (settled : SettledProgram program) : SettledProgram (inside body name program) := by
  refine ⟨trivial, fun _ => settled.attempt.bind fun outcome => ⟨trivial, fun _ => ?_⟩⟩
  cases outcome <;> trivial

theorem settled_vxStartBody (name : Str) : SettledProgram (vxStartBody name) := by
  refine (lookup_vxdbGetxid name).settled.bind fun xid => within_check fun _ => ?_
  refine within_sys trivial fun _ => within_sys trivial fun _ => within_sys trivial fun _ => ?_
  refine within_check fun _ => within_call trivial (within_call trivial (within_spawn ?_ ?_))
  · exact within_sys trivial fun _ => within_sys trivial fun _ => trivial
  · refine within_sys trivial fun _ => within_sys trivial fun _ => ?_
    exact within_check fun _ => within_check fun _ => within_check fun _ => trivial

theorem settled_mVxStart (host : Host) (call : Call) : SettledProgram (mVxStart host call) :=
  (settled_methodInit host call _ _).bind fun _ => (within_ofExcept _).bind fun name =>
    settled_inside (settled_vxStartBody name)

theorem settled_awaitStop (xid : Int) (seconds : Nat) :
    SettledProgram (awaitStop xid seconds) := by
  induction seconds with
  | zero => trivial
  | succ seconds ih =>
      refine within_sys trivial fun info => ?_
      split
      · split <;> trivial
      · exact within_sys trivial fun _ => ih

theorem settled_vxExecChild (xid : Int) (command : Str) :
    SettledProgram (vxExecChild xid command) := by
  refine within_sys trivial fun migrated => ?_
  split
  · exact within_sys trivial fun _ => trivial
  · trivial

/-! ## The operation on one member -/

/-- A promise that allows `vx.exec` to travel from where the process stands. -/
structure Allows (promise : Standing → Op → Prop) (standing : Standing) : Prop where
  settled : ∀ standing op, Settled op → promise standing op
  look : ∀ root path, promise standing (.sys (.chrootSecureChdir root path))
  chroot : promise { standing with looked := true } (.sys .chroot)
  migrate : ∀ xid, promise { standing with looked := true, root := false } (.sys (.nxMigrate xid))

/-- Who returns has travelled to the member. -/
def Travelled (standing : Standing) : Except Fault α → Prop
  | .ok _ => standing = .guest
  | .error _ => True

section Meets

variable {promise : Standing → Op → Prop} {standing : Standing}

/-- What comes before the journey. -/
theorem meets_settled (settled : ∀ standing op, Settled op → promise standing op)
    {program : Method α} (within : SettledProgram program) {rest : α → Method β}
    (later : ∀ value, (rest value).Meets (travel promise) standing Travelled) :
    (program >>= rest).Meets (travel promise) standing Travelled := by
  have kept := @Program.Within.kept daemon Fault α (travel promise) Settled program standing within
    (settled standing) (next_of_settled standing)
  refine Program.meets_bind (kept.mono fun after outcome same => ?_)
  cases outcome with
  | ok value =>
      subst same
      exact later value
  | error fault => trivial

theorem meets_guest (settled : ∀ standing op, Settled op → promise standing op)
    {program : Method α} (within : SettledProgram program) :
    program.Meets (travel promise) .guest Travelled := by
  have kept := @Program.Within.kept daemon Fault α (travel promise) Settled program .guest within
    (settled .guest) (next_of_settled .guest)
  refine kept.mono fun after outcome same => ?_
  cases outcome with
  | ok value => exact same
  | error fault => trivial

/-- What comes after the journey. -/
theorem meets_travelled (settled : ∀ standing op, Settled op → promise standing op)
    {program : Method α} (meets : program.Meets (travel promise) standing Travelled)
    {rest : α → Method β} (within : ∀ value, SettledProgram (rest value)) :
    (program >>= rest).Meets (travel promise) standing Travelled := by
  refine Program.meets_bind (meets.mono fun after outcome travelled => ?_)
  cases outcome with
  | ok value =>
      subst travelled
      exact meets_guest settled (within value)
  | error fault => trivial

theorem meets_marked (settled : ∀ standing op, Settled op → promise standing op) {body : Body}
    {name : Str} {program : Method α}
    (meets : program.Meets (travel promise) standing Travelled) :
    (inside body name program).Meets (travel promise) standing Travelled := by
  have marked : (program.attempt >>= fun outcome => do
      Program.perform (I := daemon) (.mark .leave)
      match outcome with
      | .ok value => pure value
      | .error fault => .fail fault).Meets (travel promise) standing Travelled := by
    refine Program.meets_bind (Program.meets_attempt ?_)
    refine meets.mono fun after outcome travelled => ⟨settled _ _ trivial, fun _ => ?_⟩
    cases outcome with
    | ok value => exact travelled
    | error fault => trivial
  exact ⟨settled _ _ trivial, fun _ => marked⟩

/-- A step of the journey: the call succeeds, or the operation fails. -/
theorem meets_step {function message : Str} {call : Sys} {rest : Unit → Method α}
    (promised : promise standing (.sys call)) {next : Standing}
    (moved : ∀ answer : Answer, answer.rc ≠ -1 → standing.next (.sys call) answer = next)
    (later : (rest ()).Meets (travel promise) next Travelled) :
    (sysOrFault function message call >>= rest).Meets (travel promise) standing Travelled := by
  refine ⟨promised, fun answer => ?_⟩
  change Program.Meets (travel promise) ((if answer.rc = -1 then sysFault function message
    else pure () : Method Unit) >>= rest) (standing.next (.sys call) answer) Travelled
  split
  next => trivial
  next succeeded =>
      rw [moved answer succeeded]
      exact later

theorem meets_mVxExec (allows : Allows promise standing) (host : Host) (call : Call) :
    (mVxExec host call).Meets (travel promise) standing Travelled := by
  refine meets_settled allows.settled (settled_methodInit host call _ _) fun params => ?_
  refine meets_settled allows.settled (within_ofExcept _) fun name => ?_
  refine meets_settled allows.settled (within_ofExcept _) fun command => ?_
  refine meets_settled allows.settled (lookup_vxdbGetxid name).settled fun xid => ?_
  split
  · trivial
  refine meets_settled allows.settled (within_requireRunning _ trivial) fun _ => ?_
  refine meets_settled allows.settled (lookup_vxdbGetvdir host name).settled fun vdir => ?_
  have entered : SettledProgram (sysOrFault (cstr "m_vx_exec") (cstr "ns_enter") (.nsEnter xid)) :=
    within_sysOrFault trivial
  refine meets_settled allows.settled entered fun _ => ?_
  refine meets_step (allows.look _ _) (fun _ _ => rfl) ?_
  refine meets_step allows.chroot (fun answer succeeded => if_neg succeeded) ?_
  refine meets_step (allows.migrate xid) (fun answer succeeded => if_neg succeeded) ?_
  refine meets_guest allows.settled (within_call trivial (within_call trivial ?_))
  refine within_spawn (settled_vxExecChild xid command) (within_sys trivial fun output => ?_)
  refine within_check fun _ => within_sys trivial fun status => ?_
  exact within_check fun _ => within_check fun _ => trivial

theorem meets_mVxStop (allows : Allows promise standing) (host : Host) (call : Call) :
    (mVxStop host call).Meets (travel promise) standing Travelled := by
  refine meets_settled allows.settled (settled_methodInit host call _ _) fun params => ?_
  refine meets_settled allows.settled (within_ofExcept _) fun name => ?_
  refine meets_marked allows.settled ?_
  refine meets_settled allows.settled (lookup_vxdbGetxid name).settled fun xid => ?_
  split
  · trivial
  refine meets_settled allows.settled (within_requireRunning _ trivial) fun _ => ?_
  refine meets_settled allows.settled (lookup_prepare _).settled fun rows => ?_
  cases rows with
  | none => trivial
  | some rows =>
      exact meets_travelled allows.settled (meets_mVxExec allows host _) fun _ =>
        settled_awaitStop xid _

theorem meets_mVxReboot (allows : Allows promise standing) (host : Host) (call : Call) :
    (mVxReboot host call).Meets (travel promise) standing Travelled := by
  refine meets_settled allows.settled (settled_methodInit host call _ _) fun params => ?_
  refine meets_settled allows.settled (within_ofExcept _) fun name => ?_
  refine meets_marked allows.settled ?_
  refine meets_settled allows.settled (lookup_vxdbGetxid name).settled fun xid => ?_
  split
  · trivial
  refine meets_settled allows.settled (within_requireRunning _ trivial) fun _ => ?_
  refine meets_settled allows.settled (lookup_prepare _).settled fun rows => ?_
  cases rows with
  | none => trivial
  | some rows => exact meets_mVxExec allows host _

theorem meets_mVxRestart (allows : Allows promise standing) (host : Host) (call : Call) :
    (mVxRestart host call).Meets (travel promise) standing Travelled := by
  refine meets_settled allows.settled (settled_methodInit host call _ _) fun params => ?_
  refine meets_settled allows.settled (within_ofExcept _) fun name => ?_
  refine meets_marked allows.settled ?_
  exact meets_travelled allows.settled (meets_mVxStop allows host _) fun _ =>
    settled_mVxStart host _

end Meets

/-! ## The loop over the members -/

/-- The methods that a group request calls on the running members. -/
inductive MemberOperation where
  | stop | reboot | restart

namespace MemberOperation

def method (host : Host) : MemberOperation → Call → Method Xml
  | .stop => mVxStop host
  | .reboot => mVxReboot host
  | .restart => mVxRestart host

/-- The group request. -/
def request (host : Host) : MemberOperation → Call → Method Xml
  | .stop => mVgVxStop host
  | .reboot => mVgVxReboot host
  | .restart => mVgVxRestart host

theorem meets {promise : Standing → Op → Prop} {standing : Standing}
    (allows : Allows promise standing) (host : Host) (operation : MemberOperation) (call : Call) :
    (operation.method host call).Meets (travel promise) standing Travelled := by
  cases operation with
  | stop => exact meets_mVxStop allows host call
  | reboot => exact meets_mVxReboot allows host call
  | restart => exact meets_mVxRestart allows host call

theorem silent (host : Host) (operation : MemberOperation) :
    SilentMethod host (operation.method host) := by
  cases operation with
  | stop => exact silent_mVxStop host
  | reboot => exact silent_mVxReboot host
  | restart => exact silent_mVxRestart host

end MemberOperation

/-- A member when its turn comes, and the run of the operation on it, if it is attempted. -/
structure Visit where
  world : World
  xid : Int
  name : Str
  attempt : Option (Completed machine Fault Xml)

namespace Visit

/-- The context of the member exists when its turn comes. -/
def Running (visit : Visit) : Prop :=
  (visit.world.kernel visit.world.clock (.vxInfo visit.xid)).rc = 0

instance (visit : Visit) : Decidable visit.Running :=
  inferInstanceAs (Decidable (_ = _))

def trace (visit : Visit) : List (World × Op) :=
  (visit.world, .sys (.vxInfo visit.xid)) :: match visit.attempt with
    | some run => run.trace
    | none => []

end Visit

/-- The loop goes on after an attempt, with the fault of it. -/
def afterAttempt (later : Option Fault → World → List Visit)
    (run : Completed machine Fault Xml) : List Visit :=
  match run.outcome with
  | .returned _ => later none run.state
  | .failed fault => later (some fault) run.state
  | .exited => []

/-- The visits of the loop over the members. With a fault in its environment a method returns
before it does anything. -/
def visits (method : Call → Method Xml) (process : Nat) :
    List (Int × Str) → Option Fault → World → List Visit
  | [], _, _ => []
  | (xid, name) :: rest, environment, world =>
      let asked := { world with clock := world.clock + 1 }
      if (world.kernel world.clock (.vxInfo xid)).rc = 0 then
        match environment with
        | some fault =>
            ⟨world, xid, name, none⟩ :: visits method process rest (some fault) asked
        | none =>
            let run := (method (.internal (nameParams name))).run machine process asked
            ⟨world, xid, name, some run⟩ :: afterAttempt (visits method process rest) run
      else ⟨world, xid, name, none⟩ :: visits method process rest environment asked

section Loop

variable {method : Call → Method Xml} {members : List (Int × Str)} {xid : Int} {name : Str}

theorem visits_idle {environment : Option Fault}
    (idle : ¬ Visit.Running ⟨world, xid, name, none⟩) :
    visits method process ((xid, name) :: members) environment world =
      ⟨world, xid, name, none⟩ ::
        visits method process members environment { world with clock := world.clock + 1 } :=
  if_neg idle

theorem visits_fault {fault : Fault} (running : Visit.Running ⟨world, xid, name, none⟩) :
    visits method process ((xid, name) :: members) (some fault) world =
      ⟨world, xid, name, none⟩ ::
        visits method process members (some fault) { world with clock := world.clock + 1 } :=
  if_pos running

theorem visits_attempt {run : Completed machine Fault Xml}
    (running : Visit.Running ⟨world, xid, name, some run⟩)
    (ran : (method (.internal (nameParams name))).run machine process
      { world with clock := world.clock + 1 } = run) :
    visits method process ((xid, name) :: members) none world =
      ⟨world, xid, name, some run⟩ :: afterAttempt (visits method process members) run := by
  subst ran
  exact if_pos running

theorem contained_callMember (contained : ∀ call, Program.Contained (method call)) (name : Str)
    (environment : Option Fault) : Program.Contained (callMember method name environment) := by
  cases environment with
  | some fault => trivial
  | none =>
      refine (contained _).attempt.bind fun outcome => ?_
      cases outcome <;> trivial

/-- The environment after an attempt. -/
def keptFault : Outcome Fault Xml → Outcome Fault (Option Fault)
  | .returned _ => .returned none
  | .failed fault => .returned (some fault)
  | .exited => .exited

theorem run_callMember (contained : ∀ call, Program.Contained (method call)) (name : Str)
    (world : World) :
    (callMember method name none).run machine process world =
      ⟨keptFault ((method (.internal (nameParams name))).run machine process world).outcome,
        ((method (.internal (nameParams name))).run machine process world).state,
        ((method (.internal (nameParams name))).run machine process world).trace⟩ := by
  have attempted := @Program.Contained.run_attempt daemon Fault Xml machine process _
    (contained (.internal (nameParams name))) world
  unfold callMember
  rw [@Program.Contained.run_bind daemon Fault (Except Fault Xml) (Option Fault) machine process
    _ (contained _).attempt _ world, attempted]
  unfold Program.Completed.andThen
  cases ((method (.internal (nameParams name))).run machine process world).outcome with
  | returned value => exact congrArg (Completed.mk _ _) (List.append_nil _)
  | failed fault => exact congrArg (Completed.mk _ _) (List.append_nil _)
  | exited => rfl

/-- The loop performs what its visits perform. -/
theorem trace_eachRunning (contained : ∀ call, Program.Contained (method call))
    (members : List (Int × Str)) (environment : Option Fault) (world : World) :
    ((eachRunning method environment members).run machine process world).trace =
      (visits method process members environment world).flatMap Visit.trace := by
  induction members generalizing environment world with
  | nil => cases environment <;> rfl
  | cons member rest ih =>
      obtain ⟨xid, name⟩ := member
      unfold eachRunning visits
      rw [run_sys]
      split
      next running =>
          cases environment with
          | some fault => exact congrArg (List.cons _) (ih (some fault) _)
          | none =>
              have within := contained_callMember contained name none
              have called := @run_callMember process method contained name
                { world with clock := world.clock + 1 }
              refine congrArg (List.cons _) ?_
              change _ = ((method (.internal (nameParams name))).run machine process
                { world with clock := world.clock + 1 }).trace ++
                  (afterAttempt (visits method process rest) _).flatMap Visit.trace
              cases ended : ((method (.internal (nameParams name))).run machine process
                  { world with clock := world.clock + 1 }).outcome with
              | returned value =>
                  rw [ended] at called
                  rw [run_bind_returned within (congrArg Completed.outcome called), called]
                  rw [afterAttempt, ended]
                  exact congrArg (_ ++ ·) (ih none _)
              | failed fault =>
                  rw [ended] at called
                  rw [run_bind_returned within (congrArg Completed.outcome called), called]
                  rw [afterAttempt, ended]
                  exact congrArg (_ ++ ·) (ih (some fault) _)
              | exited =>
                  rw [ended] at called
                  rw [@Program.Contained.run_bind daemon Fault (Option Fault) Xml machine process _
                    within, called, afterAttempt, ended]
                  exact (List.append_nil _).symm
      next => exact congrArg (List.cons _) (ih environment _)

end Loop

/-! ## Who is reached -/

/-- Operations that depend on where the process stands. -/
def Travels : Op → Prop
  | .sys (.chrootSecureChdir _ _) | .sys (.nxMigrate _) => True
  | _ => False

theorem travels_or_own (op : Op) : Travels op ∨ ∀ standing : Standing, standing.Own op := by
  cases op with
  | sys call =>
      cases call with
      | chrootSecureChdir root path => exact .inl trivial
      | nxMigrate xid => exact .inl trivial
      | _ => exact .inr fun _ => trivial
  | _ => exact .inr fun _ => trivial

theorem next_of_not_travels (standing : Standing) : ∀ (op : Op) (reply : op.Reply),
    ¬ Travels op → (standing.next op reply).looked = standing.looked
  | .prepare _, _, _ | .exec _, _, _ | .testLock _, _, _ | .lock _, _, _ | .mark _, _, _ => rfl
  | .sys call, reply, stays => by
      cases call with
      | chrootSecureChdir root path => exact absurd trivial stays
      | nxMigrate xid => exact absurd trivial stays
      | chroot =>
          change (if reply.rc = -1 then standing else _ : Standing).looked = standing.looked
          split <;> rfl
      | _ => rfl

namespace Standing

/-- Neither the root directory nor the network context is that of the daemon. -/
def Away (standing : Standing) : Prop :=
  standing.root = false ∧ standing.network = false

theorem Away.next {standing : Standing} (away : standing.Away) : ∀ (op : Op) (reply : op.Reply),
    (standing.next op reply).Away
  | .prepare _, _ | .exec _, _ | .testLock _, _ | .lock _, _ | .mark _, _ => away
  | .sys call, reply => by
      cases call with
      | chrootSecureChdir root path => exact away
      | nxMigrate xid =>
          change (if reply.rc = -1 then standing else _ : Standing).Away
          split
          · exact away
          · exact ⟨away.1, rfl⟩
      | chroot =>
          change (if reply.rc = -1 then standing else _ : Standing).Away
          split
          · exact away
          · exact ⟨rfl, away.2⟩
      | _ => exact away

theorem Away.not_own {standing : Standing} (away : standing.Away) {op : Op}
    (travels : Travels op) : ¬ (standing.Own op ∨ Settled op) := by
  cases op with
  | sys call =>
      cases call with
      | chrootSecureChdir root path =>
          intro kept
          cases kept with
          | inl own => exact absurd (away.1.symm.trans own) Bool.false_ne_true
          | inr settled => exact settled
      | nxMigrate xid =>
          intro kept
          cases kept with
          | inl own => exact absurd (away.2.symm.trans own) Bool.false_ne_true
          | inr settled => exact settled
      | _ => exact travels.elim
  | _ => exact travels.elim

end Standing

/-- The operations of a process that is away are its own exactly when none of them travels. -/
theorem kept_of_away {standing : Standing} (away : standing.Away) (trace : List (World × Op)) :
    @Contract.Kept daemon machine (travel Standing.Own) process standing trace ↔
      ∀ step ∈ trace, ¬ Travels step.2 := by
  induction trace generalizing standing with
  | nil => exact ⟨fun _ _ => nofun, fun _ => trivial⟩
  | cons step trace ih =>
      have later := ih (away.next step.2 (machine.step process step.1 step.2).1)
      rw [List.forall_mem_cons, ← later]
      refine and_congr_left fun _ => ⟨fun own travels => away.not_own travels own, fun stays => ?_⟩
      exact .inl ((travels_or_own step.2).resolve_left stays standing)

theorem looked_follow {promise : Standing → Op → Prop} {trace : List (World × Op)}
    (stays : ∀ step ∈ trace, ¬ Travels step.2) (standing : Standing) :
    (@Contract.follow daemon machine (travel promise) process standing trace).looked =
      standing.looked := by
  induction trace generalizing standing with
  | nil => rfl
  | cons step trace ih =>
      have first := List.forall_mem_cons.mp stays
      exact (ih first.2 _).trans (next_of_not_travels standing step.2 _ first.1)

/-- Every member that runs when its turn comes is attempted, and paths are looked up and the
process migrates from where the daemon stands only. -/
structure Reached (process : Nat) (standing : Standing) (visits : List Visit) : Prop where
  attempted : ∀ visit ∈ visits, visit.Running → visit.attempt.isSome
  own : @Contract.Kept daemon machine (travel Standing.Own) process standing
    (visits.flatMap Visit.trace)

namespace Visit

/-- The operation succeeds on the member. -/
def Succeeds (visit : Visit) : Prop :=
  ∃ run value, visit.attempt = some run ∧ run.outcome = .returned value

/-- The operation on the member ends before it looks up its directory. -/
def StaysHome (visit : Visit) : Prop :=
  ∃ run, visit.attempt = some run ∧ ∀ step ∈ run.trace, ¬ Travels step.2

end Visit

/-- What may happen to the running members. -/
def Undisturbed : List Visit → Prop
  | [] | [_] => True
  | [first, second] => first.Succeeds ∧ second.StaysHome
  | _ => False

def runningVisits (visits : List Visit) : List Visit :=
  visits.filter fun visit => visit.Running

section Reached

variable {standing : Standing} {visit : Visit} {later : List Visit}

theorem undisturbed_cons :
    Undisturbed (visit :: later) ↔
      later = [] ∨ visit.Succeeds ∧ ∃ other, later = [other] ∧ other.StaysHome := by
  cases later with
  | nil => exact ⟨fun _ => .inl rfl, fun _ => trivial⟩
  | cons second more =>
      cases more with
      | nil =>
          constructor
          · intro undisturbed
            exact .inr ⟨undisturbed.1, second, rfl, undisturbed.2⟩
          · rintro (none | ⟨succeeds, other, same, stays⟩)
            · cases none
            · obtain rfl := (List.cons.inj same).1
              exact ⟨succeeds, stays⟩
      | cons third more =>
          constructor
          · exact False.elim
          · rintro (none | ⟨-, other, same, -⟩)
            · cases none
            · cases (List.cons.inj same).2

/-- A member that does not run is passed over. -/
theorem reached_idle {world : World} {xid : Int} {name : Str}
    (idle : ¬ Visit.Running ⟨world, xid, name, none⟩) :
    Reached process standing (⟨world, xid, name, none⟩ :: later) ↔
      Reached process standing later := by
  constructor
  · intro reached
    exact ⟨fun visit mem => reached.attempted visit (.tail _ mem), reached.own.2⟩
  · intro reached
    refine ⟨fun visit mem running => ?_, .inl trivial, reached.own⟩
    cases mem with
    | head => exact absurd running idle
    | tail _ mem => exact reached.attempted visit mem running

/-- A member that is attempted. -/
theorem reached_attempt {world : World} {xid : Int} {name : Str}
    {run : Completed machine Fault Xml} :
    Reached process standing (⟨world, xid, name, some run⟩ :: later) ↔
      @Contract.Kept daemon machine (travel Standing.Own) process standing run.trace ∧
      Reached process (@Contract.follow daemon machine (travel Standing.Own) process standing
        run.trace) later := by
  constructor
  · intro reached
    obtain ⟨first, own⟩ := Contract.kept_append.mp reached.own.2
    exact ⟨first, fun visit mem => reached.attempted visit (.tail _ mem), own⟩
  · intro ⟨first, reached⟩
    have own := Contract.kept_append.mpr ⟨first, reached.own⟩
    refine ⟨fun visit mem running => ?_, .inl trivial, own⟩
    cases mem with
    | head => rfl
    | tail _ mem => exact reached.attempted visit mem running

theorem runningVisits_idle (idle : ¬ visit.Running) :
    runningVisits (visit :: later) = runningVisits later :=
  List.filter_cons_of_neg (by simpa using idle)

theorem runningVisits_running (running : visit.Running) :
    runningVisits (visit :: later) = visit :: runningVisits later :=
  List.filter_cons_of_pos (by simpa using running)

/-- With a fault in the environment no member is attempted. -/
theorem reached_fault (method : Call → Method Xml) (members : List (Int × Str)) (fault : Fault)
    (world : World) :
    Reached process standing (visits method process members (some fault) world) ↔
      runningVisits (visits method process members (some fault) world) = [] := by
  induction members generalizing world with
  | nil => exact ⟨fun _ => rfl, fun _ => ⟨fun _ => nofun, trivial⟩⟩
  | cons member rest ih =>
      obtain ⟨xid, name⟩ := member
      by_cases running : Visit.Running ⟨world, xid, name, none⟩
      · rw [visits_fault running, runningVisits_running running]
        constructor
        · intro reached
          cases reached.attempted _ (.head _) running
        · intro none
          cases none
      · rw [visits_idle running, reached_idle running, runningVisits_idle running]
        exact ih _

theorem reached_nil : Reached process standing [] ↔ runningVisits [] = [] :=
  ⟨fun _ => rfl, fun _ => ⟨fun _ => nofun, trivial⟩⟩

/-- An operation that never travels does not return. -/
theorem not_returned_of_home {host : Host} {operation : MemberOperation} {call : Call}
    {world : World} {value : Xml}
    (stays : ∀ step ∈ ((operation.method host call).run machine process world).trace,
      ¬ Travels step.2) :
    ((operation.method host call).run machine process world).outcome ≠ .returned value := by
  intro returned
  have allows : Allows (fun _ _ => True) .daemon :=
    ⟨fun _ _ _ => trivial, fun _ _ => trivial, trivial, fun _ => trivial⟩
  have ended := (@Program.Meets.follow daemon Fault Xml machine process (travel fun _ _ => True)
    world (still_travel _) _ _ _ (operation.meets allows host call)).2
  rw [returned] at ended
  have looked := @looked_follow process (fun _ _ => True) _ stays .daemon
  have arrived : @Contract.follow daemon machine (travel fun _ _ => True) process .daemon
    ((operation.method host call).run machine process world).trace = .guest := ended
  rw [arrived] at looked
  cases looked

/-- After an operation that did not return, no member is attempted. -/
theorem reached_after_failure {method : Call → Method Xml} {members : List (Int × Str)}
    {run : Completed machine Fault Xml} (failed : ∀ value, run.outcome ≠ .returned value) :
    Reached process standing (afterAttempt (visits method process members) run) ↔
      runningVisits (afterAttempt (visits method process members) run) = [] := by
  unfold afterAttempt
  cases ended : run.outcome with
  | returned value => exact absurd ended (failed value)
  | failed fault => exact reached_fault method members fault run.state
  | exited => exact reached_nil

variable {host : Host} {operation : MemberOperation}

/-- From where a process is away, no member is reached but one whose operation stays home. -/
theorem reached_away (away : standing.Away) (members : List (Int × Str)) (world : World) :
    Reached process standing (visits (operation.method host) process members none world) ↔
      runningVisits (visits (operation.method host) process members none world) = [] ∨
      ∃ visit, runningVisits (visits (operation.method host) process members none world) =
        [visit] ∧ visit.StaysHome := by
  induction members generalizing world with
  | nil => exact ⟨fun _ => .inl rfl, fun _ => ⟨fun _ => nofun, trivial⟩⟩
  | cons member rest ih =>
      obtain ⟨xid, name⟩ := member
      by_cases running : Visit.Running ⟨world, xid, name, none⟩
      · cases ran : ((operation.method host) (.internal (nameParams name))).run machine process
          { world with clock := world.clock + 1 } with
        | mk outcome state trace =>
        have runs : Visit.Running ⟨world, xid, name, some ⟨outcome, state, trace⟩⟩ := running
        have failed (stays : ∀ step ∈ trace, ¬ Travels step.2) (value : Xml) :
            outcome ≠ .returned value := by
          have never := @not_returned_of_home process host operation
            (.internal (nameParams name)) { world with clock := world.clock + 1 } value
          rw [ran] at never
          exact never stays
        rw [visits_attempt runs ran, reached_attempt, kept_of_away away,
          runningVisits_running runs]
        constructor
        · intro ⟨stays, reached⟩
          rw [reached_after_failure (failed stays)] at reached
          rw [reached]
          exact .inr ⟨_, rfl, _, rfl, stays⟩
        · rintro (none | ⟨visit, same, other, attempt, stays⟩)
          · cases none
          · obtain ⟨rfl, none⟩ := List.cons.inj same
            cases attempt
            exact ⟨stays, (reached_after_failure (failed stays)).mpr none⟩
      · rw [visits_idle running, reached_idle running, runningVisits_idle running]
        exact ih _

theorem allows_daemon : Allows Standing.Own .daemon where
  settled standing op settled := by
    cases op with
    | sys call => cases call <;> trivial
    | _ => trivial
  look _ _ := rfl
  chroot := trivial
  migrate _ := rfl

theorem not_succeeds {world : World} {xid : Int} {name : Str}
    {run : Completed machine Fault Xml} (failed : ∀ value, run.outcome ≠ .returned value) :
    ¬ Visit.Succeeds ⟨world, xid, name, some run⟩ := by
  intro ⟨other, value, attempt, returned⟩
  cases attempt
  exact failed value returned

/-- From where the daemon stands, the members are reached if they are undisturbed. -/
theorem reached_daemon (members : List (Int × Str)) (world : World) :
    Reached process .daemon (visits (operation.method host) process members none world) ↔
      Undisturbed (runningVisits (visits (operation.method host) process members none world)) := by
  induction members generalizing world with
  | nil => exact ⟨fun _ => trivial, fun _ => ⟨fun _ => nofun, trivial⟩⟩
  | cons member rest ih =>
      obtain ⟨xid, name⟩ := member
      by_cases running : Visit.Running ⟨world, xid, name, none⟩
      · obtain ⟨kept, ended⟩ := @Program.Meets.follow daemon Fault Xml machine process
          (travel Standing.Own) { world with clock := world.clock + 1 } (still_travel _) _ _ _
          (operation.meets allows_daemon host (.internal (nameParams name)))
        cases ran : ((operation.method host) (.internal (nameParams name))).run machine process
          { world with clock := world.clock + 1 } with
        | mk outcome state trace =>
        rw [ran] at kept ended
        have runs : Visit.Running ⟨world, xid, name, some ⟨outcome, state, trace⟩⟩ := running
        rw [visits_attempt runs ran, reached_attempt, runningVisits_running runs,
          undisturbed_cons, and_iff_right kept]
        cases outcome with
        | returned value =>
            have arrived : @Contract.follow daemon machine (travel Standing.Own) process .daemon
              trace = .guest := ended
            have succeeds :
                Visit.Succeeds ⟨world, xid, name, some ⟨.returned value, state, trace⟩⟩ :=
              ⟨_, value, rfl, rfl⟩
            rw [arrived, and_iff_right succeeds]
            exact reached_away ⟨rfl, rfl⟩ rest state
        | failed fault =>
            have failed (value : Xml) : Outcome.failed fault ≠ .returned value := nofun
            rw [reached_after_failure failed]
            exact (or_iff_left fun both => not_succeeds failed both.1).symm
        | exited =>
            have failed (value : Xml) : (.exited : Outcome Fault Xml) ≠ .returned value := nofun
            rw [reached_after_failure failed]
            exact (or_iff_left fun both => not_succeeds failed both.1).symm
      · rw [visits_idle running, reached_idle running, runningVisits_idle running]
        exact ih _

end Reached

/-! ## The request -/

/-- What comes before the loop of a group request. -/
def groupMembers (host : Host) (call : Call) : Method (List (Int × Str)) := do
  let params ← methodInit host call capInit {}
  let group ← ofExcept (params.getStr (cstr "group"))
  vgListInit group

theorem groupRequest_eq (host : Host) (loop : List (Int × Str) → Method Xml) (call : Call) :
    groupRequest host loop call = groupMembers host call >>= loop := by
  unfold groupMembers
  rw [bind_assoc]
  refine bind_congr fun params => ?_
  rw [bind_assoc]

theorem request_eq (host : Host) (operation : MemberOperation) (call : Call) :
    operation.request host call =
      groupMembers host call >>= eachRunning (operation.method host) none := by
  cases operation <;> exact groupRequest_eq host _ call

theorem settled_vgListInit (group : Str) : SettledProgram (vgListInit group) := by
  refine within_check fun _ => ?_
  split
  · refine (lookup_prepare _).settled.bind fun rows => ?_
    split <;> trivial
  · refine (lookup_vxdbGetgid group).settled.bind fun gid => within_check fun _ => ?_
    refine (lookup_prepare _).settled.bind fun rows => ?_
    split <;> trivial

theorem settled_groupMembers (host : Host) (call : Call) :
    SettledProgram (groupMembers host call) :=
  (settled_methodInit host call _ _).bind fun _ => (within_ofExcept _).bind fun group =>
    settled_vgListInit group

/-- The visits of a group request. -/
def requestVisits (host : Host) (operation : MemberOperation) (call : Call) (process : Nat)
    (world : World) : List Visit :=
  match ((groupMembers host call).run machine process world).outcome with
  | .returned members => visits (operation.method host) process members none
      ((groupMembers host call).run machine process world).state
  | _ => []

/-- Every member that runs when its turn comes is attempted once, and the paths are looked up and
the process migrates from where the daemon stands. -/
structure ReachesAll (host : Host) (operation : MemberOperation) (call : Call) (process : Nat)
    (world : World) : Prop where
  attempted : ∀ visit ∈ requestVisits host operation call process world, visit.Running →
    visit.attempt.isSome
  own : @Contract.Kept daemon machine (travel Standing.Own) process .daemon
    ((operation.request host call).run machine process world).trace

section Request

variable {host : Host} {operation : MemberOperation} {call : Call}

/-- The part before the loop leaves the process where it is. -/
theorem follow_groupMembers :
    @Contract.Kept daemon machine (travel Standing.Own) process .daemon
      ((groupMembers host call).run machine process world).trace ∧
    @Program.Ends daemon Fault _ (travel Standing.Own) (fun after _ => after = Standing.daemon)
      (@Contract.follow daemon machine (travel Standing.Own) process .daemon
        ((groupMembers host call).run machine process world).trace)
      ((groupMembers host call).run machine process world).outcome :=
  @Program.Meets.follow daemon Fault _ machine process (travel Standing.Own) world
    (still_travel _) _ _ _
    (@Program.Within.kept daemon Fault _ (travel Standing.Own) Settled _ .daemon
      (settled_groupMembers host call) (allows_daemon.settled .daemon)
      (next_of_settled .daemon))

theorem reaches_all_of_listed {members : List (Int × Str)}
    (listed : ((groupMembers host call).run machine process world).outcome =
      .returned members) :
    requestVisits host operation call process world =
        visits (operation.method host) process members none
          ((groupMembers host call).run machine process world).state ∧
      (ReachesAll host operation call process world ↔
        Reached process .daemon (requestVisits host operation call process world)) := by
  have same : requestVisits host operation call process world =
      visits (operation.method host) process members none
        ((groupMembers host call).run machine process world).state := by
    unfold requestVisits
    rw [listed]
  refine ⟨same, ?_⟩
  obtain ⟨kept, ended⟩ := @follow_groupMembers process world host call
  rw [listed] at ended
  have stays : @Contract.follow daemon machine (travel Standing.Own) process .daemon
    ((groupMembers host call).run machine process world).trace = .daemon := ended
  have trail : ((operation.request host call).run machine process world).trace =
      ((groupMembers host call).run machine process world).trace ++
        (requestVisits host operation call process world).flatMap Visit.trace := by
    rw [request_eq, run_bind_returned (settled_groupMembers host call).contained listed, same]
    exact congrArg (_ ++ ·) (trace_eachRunning
      (fun call => SilentMethod.contained (operation.silent host) call) members none _)
  constructor
  · intro reaches
    have own := reaches.own
    rw [trail, Contract.kept_append, stays] at own
    exact ⟨reaches.attempted, own.2⟩
  · intro reached
    refine ⟨reached.attempted, ?_⟩
    rw [trail, Contract.kept_append, stays]
    exact ⟨kept, reached.own⟩

theorem reaches_all_of_not_listed
    (failed : ∀ members, ((groupMembers host call).run machine process world).outcome ≠
      .returned members) :
    requestVisits host operation call process world = [] ∧
      ReachesAll host operation call process world := by
  have none : requestVisits host operation call process world = [] := by
    unfold requestVisits
    split
    next members listed => exact absurd listed (failed members)
    next => rfl
  have trail : ((operation.request host call).run machine process world).trace =
      ((groupMembers host call).run machine process world).trace := by
    rw [request_eq]
    exact trace_bind_stopped (settled_groupMembers host call).contained failed _
  refine ⟨none, ?_, ?_⟩
  · rw [none]
    exact fun _ => nofun
  · rw [trail]
    exact follow_groupMembers.1

/-- Every running member is reached exactly when at most one runs, or there are two, and the
operation succeeds on the first and ends on the second before its directory is looked up. -/
theorem reaches_all_iff (host : Host) (operation : MemberOperation) (call : Call) (process : Nat)
    (world : World) : ReachesAll host operation call process world ↔
      Undisturbed (runningVisits (requestVisits host operation call process world)) := by
  by_cases listed : ∃ members,
    ((groupMembers host call).run machine process world).outcome = .returned members
  · obtain ⟨members, listed⟩ := listed
    obtain ⟨same, reaches⟩ := @reaches_all_of_listed process world host operation call _ listed
    rw [reaches, same]
    exact reached_daemon members _
  · obtain ⟨none, reaches⟩ := @reaches_all_of_not_listed process world host operation call
      fun members returned => listed ⟨members, returned⟩
    rw [none]
    exact ⟨fun _ => trivial, fun _ => reaches⟩

end Request

/-- Two servers. -/
def twoServers : Vxdb :=
  oneServer.replace Table.xidNameMap [.int 6, .str (cstr "mail")]

/-- A request about all servers. -/
def allServers : Call :=
  .client adminCredentials (.struct [(cstr "group", .str (cstr "all"))])

/-- The operation fails on the first member, and the second is not attempted. -/
theorem second_member_not_reached : ¬ ∀ (host : Host) (operation : MemberOperation) (call : Call)
    (process : Nat) (world : World), ReachesAll host operation call process world := by
  intro reaches
  have attempted := (reaches default .stop allServers 0
    (World.boot twoServers runningKernel)).attempted
  revert attempted
  decide +kernel

end Vcd
