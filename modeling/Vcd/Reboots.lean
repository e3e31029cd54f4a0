import Vcd.Children
import Vcd.ConfigFrame
import Vcd.Trails

/-!
# Reboots

How forked children end. A child that fails has returned from its method into the dispatcher,
which answers the client a second time. The child of `helper.shutdown` fails unless both
contexts of the server disappear in time, and only then is a recorded reboot carried out.
-/

namespace Vcd

open Sql Process

variable {α β : Type} {self : Nat} {world last : World} {child : Method Empty}

/-! ## Polling once a second -/

namespace World

/-- The world after some seconds of polling, with a sleep and a poll in each. -/
def later (world : World) (seconds : Nat) : World :=
  { world with clock := world.clock + 2 * seconds }

/-- The answer to a poll in a certain second, counted from one. -/
def poll (world : World) (call : Sys) (second : Nat) : Answer :=
  world.kernel (world.clock + 2 * second - 1) call

/-- Among the polls after a certain second, the first that fails does so with ESRCH, and it is
the one of the given second. -/
structure Gone (world : World) (call : Sys) (start second : Nat) : Prop where
  after : start < second
  present : ∀ earlier, start < earlier → earlier < second → (world.poll call earlier).rc ≠ -1
  failed : (world.poll call second).rc = -1
  errno : (world.poll call second).errno = esrch

end World

theorem World.gone_succ {world : World} {call : Sys} {start second : Nat}
    (present : (world.poll call (start + 1)).rc ≠ -1) :
    world.Gone call (start + 1) second ↔ world.Gone call start second := by
  constructor
  · intro gone
    refine ⟨by have := gone.after; omega, fun earlier later before => ?_, gone.failed, gone.errno⟩
    by_cases first : earlier = start + 1
    · rwa [first]
    · exact gone.present earlier (by omega) before
  · intro gone
    have after : start + 1 ≠ second := by
      intro same
      exact present (same ▸ gone.failed)
    have later := gone.after
    exact ⟨by omega, fun earlier later before => gone.present earlier (by omega) before,
      gone.failed, gone.errno⟩

/-- One second of a wait. -/
theorem run_awaitGone_succ (function message : Str) (call : Sys) (late : List Piece)
    (world : World) (start left : Nat) :
    let run := (awaitGone function message call late (left + 1)).run machine self
      (world.later start)
    let answer := world.poll call (start + 1)
    let rest := (if answer.rc = -1 then
        if answer.errno = esrch then pure left else sysFault function message
      else awaitGone function message call late left : Method Nat).run machine self
        (world.later (start + 1))
    run.outcome = rest.outcome ∧ run.state = rest.state :=
  ⟨rfl, rfl⟩

/-- A wait that begins after a certain second ends in the second in which the context is gone,
and fails if that is not within its time. -/
theorem run_awaitGone (self : Nat) (function message : Str) (call : Sys) (late : List Piece)
    (world : World) (start left : Nat) :
    (∃ second ≤ start + left, world.Gone call start second ∧
      ((awaitGone function message call late left).run machine self
        (world.later start)).outcome = .returned (start + left - second) ∧
      ((awaitGone function message call late left).run machine self
        (world.later start)).state = world.later second) ∨
    ((∀ second ≤ start + left, ¬ world.Gone call start second) ∧
      ∃ fault, ((awaitGone function message call late left).run machine self
        (world.later start)).outcome = .failed fault) := by
  induction left generalizing start with
  | zero =>
      refine .inr ⟨fun second within gone => ?_, _, rfl⟩
      have after := gone.after
      omega
  | succ left ih =>
      obtain ⟨outcome, state⟩ :=
        @run_awaitGone_succ self function message call late world start left
      rw [outcome, state]
      by_cases failed : (world.poll call (start + 1)).rc = -1
      · simp only [if_pos failed]
        by_cases errno : (world.poll call (start + 1)).errno = esrch
        · simp only [if_pos errno]
          refine .inl ⟨start + 1, by omega, ⟨by omega, fun _ _ _ => by omega, failed, errno⟩, ?_, rfl⟩
          have same : start + (left + 1) - (start + 1) = left := by omega
          rw [same]
          rfl
        · simp only [if_neg errno]
          refine .inr ⟨fun second within gone => ?_, _, rfl⟩
          by_cases first : second = start + 1
          · rw [first] at gone
            exact errno gone.errno
          · have after := gone.after
            exact gone.present (start + 1) (by omega) (by omega) failed
      · simp only [if_neg failed]
        have same (second : Nat) : start + 1 + left - second = start + (left + 1) - second := by
          omega
        rcases ih (start + 1) with ⟨second, within, gone, ended, reached⟩ | ⟨never, ended⟩
        · rw [same] at ended
          exact .inl ⟨second, by omega, (World.gone_succ failed).mp gone, ended, reached⟩
        · refine .inr ⟨fun second within gone => ?_, ended⟩
          exact never second (by omega) ((World.gone_succ failed).mpr gone)

theorem noFork_awaitGone (function message : Str) (call : Sys) (late : List Piece)
    (seconds : Nat) : NoFork (awaitGone function message call late seconds) := by
  induction seconds with
  | zero => trivial
  | succ seconds ih =>
      refine noFork_sys fun _ => noFork_sys fun answer => ?_
      split
      · split <;> trivial
      · exact ih

/-- Whatever a program does, a child that runs it and keeps its fault exits. -/
theorem exited_of_attempt (program : Method α) (world : World) :
    ((program.attempt >>= fun _ => .exit : Method β).run machine self world).outcome =
      .exited := by
  induction program generalizing world with
  | pure value => rfl
  | fail fault => rfl
  | exit => rfl
  | op request next ih => exact ih _ _
  | fork next ih => exact ih false _

theorem World.Gone.unique {world : World} {call : Sys} {start second other : Nat}
    (gone : world.Gone call start second) (too : world.Gone call start other) :
    second = other := by
  rcases Nat.lt_trichotomy second other with before | same | behind
  · exact absurd gone.failed (too.present second gone.after before)
  · exact same
  · exact absurd too.failed (gone.present other too.after behind)

/-! ## How the child of helper.shutdown ends -/

/-- The network context disappears, and in a later second the context, both within the time. -/
def GoesDown (world : World) (xid : Int) (seconds : Nat) : Prop :=
  ∃ first second, second ≤ seconds ∧ world.Gone (.nxInfo xid) 0 first ∧
    world.Gone (.vxInfo xid) first second

/-- Start the server and exit. -/
def startAndExit (host : Host) (name : Str) : Method Empty := do
  let _ ← (mVxStart host (.internal (nameParams name))).attempt
  .exit

/-- The run of the child goes on with the start of the server. -/
def StartsServer (self : Nat) (host : Host) (name : Str) (child : Method Empty)
    (world : World) : Prop :=
  ∃ reached polls, child.run machine self world =
    ⟨((startAndExit host name).run machine self reached).outcome,
      ((startAndExit host name).run machine self reached).state,
      polls ++ ((startAndExit host name).run machine self reached).trace⟩

theorem StartsServer.exited {host : Host} {name : Str}
    (starts : StartsServer self host name child world) :
    (child.run machine self world).outcome = .exited := by
  obtain ⟨reached, polls, ran⟩ := starts
  rw [ran]
  exact exited_of_attempt _ _

def awaitNx (xid : Int) (seconds : Nat) : Method Nat :=
  awaitGone (cstr "m_helper_shutdown") (cstr "nx_info") (.nxInfo xid)
    [.chars (cstr "network context "), xidPiece xid, .chars (cstr " did not disappear")] seconds

def awaitVx (xid : Int) (seconds : Nat) : Method Nat :=
  awaitGone (cstr "m_helper_shutdown") (cstr "vx_info") (.vxInfo xid)
    [.chars (cstr "context "), xidPiece xid, .chars (cstr " did not disappear")] seconds

theorem shutdownChild_eq (host : Host) (xid : Int) (name : Str) (seconds : Nat) :
    shutdownChild host xid name seconds =
      awaitNx xid seconds >>= fun left => awaitVx xid left >>= fun _ => startAndExit host name :=
  rfl

theorem run_awaitNx (self : Nat) (xid : Int) (world : World) (seconds : Nat) :
    (∃ second ≤ seconds, world.Gone (.nxInfo xid) 0 second ∧
      ((awaitNx xid seconds).run machine self world).outcome = .returned (seconds - second) ∧
      ((awaitNx xid seconds).run machine self world).state = world.later second) ∨
    ((∀ second ≤ seconds, ¬ world.Gone (.nxInfo xid) 0 second) ∧
      ∃ fault, ((awaitNx xid seconds).run machine self world).outcome = .failed fault) := by
  have waits := run_awaitGone self (cstr "m_helper_shutdown") (cstr "nx_info") (.nxInfo xid)
    [.chars (cstr "network context "), xidPiece xid, .chars (cstr " did not disappear")]
    world 0 seconds
  rwa [Nat.zero_add] at waits

theorem run_awaitVx (self : Nat) (xid : Int) (world : World) {first seconds : Nat}
    (within : first ≤ seconds) :
    (∃ second ≤ seconds, world.Gone (.vxInfo xid) first second ∧
      ((awaitVx xid (seconds - first)).run machine self (world.later first)).outcome =
        .returned (seconds - second) ∧
      ((awaitVx xid (seconds - first)).run machine self (world.later first)).state =
        world.later second) ∨
    ((∀ second ≤ seconds, ¬ world.Gone (.vxInfo xid) first second) ∧
      ∃ fault, ((awaitVx xid (seconds - first)).run machine self
        (world.later first)).outcome = .failed fault) := by
  have waits := run_awaitGone self (cstr "m_helper_shutdown") (cstr "vx_info") (.vxInfo xid)
    [.chars (cstr "context "), xidPiece xid, .chars (cstr " did not disappear")]
    world first (seconds - first)
  rwa [Nat.add_sub_cancel' within] at waits

theorem contained_awaitNx (xid : Int) (seconds : Nat) :
    Program.Contained (awaitNx xid seconds) :=
  (noFork_awaitGone _ _ _ _ seconds).contained

theorem contained_awaitVx (xid : Int) (seconds : Nat) :
    Program.Contained (awaitVx xid seconds) :=
  (noFork_awaitGone _ _ _ _ seconds).contained

/-- The child starts the server if both contexts disappear in time, and fails otherwise. -/
theorem run_shutdownChild (host : Host) (xid : Int) (name : Str) (seconds : Nat)
    (world : World) :
    (GoesDown world xid seconds ∧
      StartsServer self host name (shutdownChild host xid name seconds) world) ∨
    (¬ GoesDown world xid seconds ∧
      ∃ fault, ((shutdownChild host xid name seconds).run machine self world).outcome =
        .failed fault) := by
  rw [shutdownChild_eq]
  rcases run_awaitNx self xid world seconds with
    ⟨first, within, gone, ended, reached⟩ | ⟨never, fault, ended⟩
  · unfold StartsServer
    rw [run_bind_returned (contained_awaitNx xid seconds) ended, reached]
    rcases run_awaitVx self xid world within with
      ⟨second, inTime, vxGone, vxEnded, vxReached⟩ | ⟨never, fault, vxEnded⟩
    · refine .inl ⟨⟨first, second, inTime, gone, vxGone⟩, world.later second,
        ((awaitNx xid seconds).run machine self world).trace ++
          ((awaitVx xid (seconds - first)).run machine self (world.later first)).trace, ?_⟩
      rw [run_bind_returned (contained_awaitVx xid _) vxEnded, vxReached, List.append_assoc]
    · refine .inr ⟨?_, fault, run_bind_failed (contained_awaitVx xid _) vxEnded _⟩
      intro ⟨other, second, inTime, otherGone, vxGone⟩
      rw [← gone.unique otherGone] at vxGone
      exact never second inTime vxGone
  · refine .inr ⟨?_, fault, run_bind_failed (contained_awaitNx xid seconds) ended _⟩
    intro ⟨first, second, inTime, gone, vxGone⟩
    have after := vxGone.after
    exact never first (by omega) gone

/-! ## A child never answers the client -/

/-- The functions that fork, with their arguments. -/
inductive Forking where
  | helperShutdown (host : Host) (call : Call)
  | vxStart (host : Host) (call : Call)
  | vxExec (host : Host) (call : Call)
  | namespaceSetup (xid : Int)
  | doMount (xid : Int) (vdir : Str) (mtab : Bool) (row : Row)

namespace Forking

/-- What the function does, without its answer. -/
def program : Forking → Method Unit
  | .helperShutdown host call => (fun _ => ()) <$> mHelperShutdown host call
  | .vxStart host call => (fun _ => ()) <$> mVxStart host call
  | .vxExec host call => (fun _ => ()) <$> mVxExec host call
  | .namespaceSetup xid => Vcd.namespaceSetup xid
  | .doMount xid vdir mtab row => Vcd.doMount xid vdir mtab row

/-- The child of `helper.shutdown` needs that both contexts disappear within the configured
time; the other children need nothing. -/
def InTime : Forking → World → Prop
  | .helperShutdown _ call, last => ∀ number, call.params.getInt (cstr "xid") = .ok number →
      GoesDown last (uint32 number) (awaitedSeconds last.db (uint32 number))
  | _, _ => True

end Forking

theorem exited_vxStartChild (xid : Int) (world : World) :
    ((vxStartChild xid).run machine self world).outcome = .exited :=
  rfl

theorem exited_vxExecChild (xid : Int) (command : Str) (world : World) :
    ((vxExecChild xid command).run machine self world).outcome = .exited := by
  unfold vxExecChild
  change ((if _ then _ else _ : Method Empty).run machine self _).outcome = _
  split <;> rfl

theorem exited_namespaceChild (xid : Int) (world : World) :
    ((namespaceChild xid).run machine self world).outcome = .exited :=
  rfl

theorem exited_mountChild (xid : Int) (vdir dst command : Str) (world : World) :
    ((mountChild xid vdir dst command).run machine self world).outcome = .exited := by
  unfold mountChild
  change ((if _ then _ else _ : Method Empty).run machine self _).outcome = _
  split
  · change ((if _ then _ else _ : Method Empty).run machine self _).outcome = _
    split <;> rfl
  · rfl

theorem contained_shutdownTail (host : Host) (xid : Int) (name : Str) :
    Program.Contained (shutdownTail host xid name) := by
  refine ⟨trivial, fun outcome => within_check fun _ => ?_⟩
  have spawned (timeout : Int) : Program.Contained (do
      sysOrFault (cstr "m_helper_shutdown") (cstr "fork") .fork
      Program.spawn (shutdownChild host xid name timeout.toNat)
      sysOrFault (cstr "m_helper_shutdown") (cstr "waitpid") .waitpid
      return Xml.nil : Method Xml) :=
    within_call trivial (within_spawn (silent_shutdownChild host xid name _).contained
      (within_call trivial trivial))
  split
  · trivial
  · refine (lookup_prepare _).noFork.contained.bind fun rows => ?_
    split <;> exact spawned _

theorem contained_mHelperShutdown (host : Host) (call : Call) :
    Program.Contained (mHelperShutdown host call) := by
  refine (noFork_helperTarget host call).contained.bind fun target => ?_
  refine within_sys trivial fun mounted => ?_
  split
  · exact (noFork_removeCpuset _).contained.bind fun _ => contained_shutdownTail host _ _
  · exact contained_shutdownTail host _ _

theorem forksAt_of_map {program : Method α} (contained : Program.Contained program)
    (forks : ForksAt self ((fun _ => ()) <$> program) world child last) :
    ForksAt self program world child last :=
  @Program.ForksAt.of_bind_left daemon Fault α Unit machine self child world last program contained
    (fun _ => pure ()) (fun _ => trivial) forks

theorem kernel_of_forksAt {program : Method α} (forks : ForksAt self program world child last) :
    last.kernel = world.kernel := by
  have preserved : ∀ (before : World) (op : Op), before.kernel = world.kernel →
      (before.performs self op).2.kernel = world.kernel := by
    intro before op same
    cases op <;> exact same
  exact @Program.ForksAt.invariant daemon Fault α machine self child world last
    (fun before => before.kernel = world.kernel) preserved program forks rfl

/-- From the given second on every poll fails with ESRCH, and before it every poll succeeds. -/
structure GoneFrom (world : World) (call : Sys) (second : Nat) : Prop where
  present : ∀ earlier, 1 ≤ earlier → earlier < second → (world.poll call earlier).rc ≠ -1
  failed : ∀ later, second ≤ later → (world.poll call later).rc = -1
  errno : ∀ later, second ≤ later → (world.poll call later).errno = esrch

theorem goesDown_iff {xid : Int} {first second seconds : Nat} (started : 1 ≤ first)
    (nxGone : GoneFrom world (.nxInfo xid) first) (vxGone : GoneFrom world (.vxInfo xid) second)
    (within : second ≤ seconds) : GoesDown world xid seconds ↔ first < seconds := by
  have gone : world.Gone (.nxInfo xid) 0 first :=
    ⟨started, nxGone.present, nxGone.failed first le_rfl, nxGone.errno first le_rfl⟩
  constructor
  · intro ⟨other, last, inTime, otherGone, later⟩
    have after := later.after
    rw [← gone.unique otherGone] at after
    omega
  · intro early
    refine ⟨first, max (first + 1) second, by omega, gone, by omega,
      fun earlier after before => vxGone.present earlier (by omega) (by omega),
      vxGone.failed _ (by omega), vxGone.errno _ (by omega)⟩

/-- On an idle machine every context is gone at the first poll. -/
theorem goneFrom_idle (idle : world.kernel = fun _ => idleKernel) {call : Sys}
    (absent : idleKernel call = { rc := -1, errno := esrch }) : GoneFrom world call 1 := by
  refine ⟨fun _ _ _ => by omega, fun second _ => ?_, fun second _ => ?_⟩
  · rw [World.poll, idle]
    exact congrArg Answer.rc absent
  · rw [World.poll, idle]
    exact congrArg Answer.errno absent

/-- A forked child exits, and never returns from its method, exactly when it is not the one of
`helper.shutdown` or both contexts disappear in time. -/
theorem child_exits_iff (self : Nat) (method : Forking) (world : World) (child : Method Empty)
    (last : World) (forks : ForksAt self method.program world child last) :
    (child.run machine self last).outcome = .exited ↔ method.InTime last := by
  cases method with
  | helperShutdown host call =>
      obtain ⟨number, name, known, rfl, -, -, -⟩ :=
        forks_mHelperShutdown (forksAt_of_map (contained_mHelperShutdown host call) forks)
      have same : Forking.InTime (.helperShutdown host call) last ↔
          GoesDown last (uint32 number) (awaitedSeconds last.db (uint32 number)) := by
        constructor
        · intro inTime
          exact inTime number known
        · intro down other otherKnown
          rw [known] at otherKnown
          rwa [← Except.ok.inj otherKnown]
      rw [same]
      rcases @run_shutdownChild self host (uint32 number) name
        (awaitedSeconds last.db (uint32 number)) last with ⟨down, starts⟩ | ⟨up, fault, failed⟩
      · exact ⟨fun _ => down, fun _ => starts.exited⟩
      · rw [failed]
        exact ⟨fun exits => (nomatch exits), fun down => absurd down up⟩
  | vxStart host call =>
      obtain ⟨xid, rfl⟩ :=
        forks_mVxStart (forksAt_of_map ((silent_mVxStart host).contained call) forks)
      exact ⟨fun _ => trivial, fun _ => exited_vxStartChild xid last⟩
  | vxExec host call =>
      obtain ⟨xid, command, rfl⟩ :=
        forks_mVxExec (forksAt_of_map ((silent_mVxExec host).contained call) forks)
      exact ⟨fun _ => trivial, fun _ => exited_vxExecChild xid command last⟩
  | namespaceSetup xid =>
      obtain rfl := forks_namespaceSetup forks
      exact ⟨fun _ => trivial, fun _ => exited_namespaceChild xid last⟩
  | doMount xid vdir mtab row =>
      obtain ⟨dst, command, rfl⟩ := forks_doMount forks
      exact ⟨fun _ => trivial, fun _ => exited_mountChild xid vdir dst command last⟩

/-- The kernel reports the shutdown of `web`. -/
def shutdownCall : Call :=
  .client (.struct [(cstr "username", .str (cstr "vshelper")),
    (cstr "password", .str (cstr "WHIRLPOOLENC//*"))]) (.struct [(cstr "xid", .int 5)])

/-- The server `web` with a recorded restart, on a machine where no context runs. -/
def restartWorld : World :=
  World.boot (oneServer.replace Table.restart [.int 5]) idleKernel

/-- Both contexts are gone long before the fifteen seconds are over. -/
theorem child_exits_restart : ∃ child last,
    ForksAt 0 (Forking.program (.helperShutdown default shutdownCall)) restartWorld child last ∧
      (child.run machine 0 last).outcome = .exited := by
  have alone := contained_mHelperShutdown default shutdownCall
  have contained : Program.Contained (Forking.program (.helperShutdown default shutdownCall)) :=
    alone.bind fun _ => trivial
  obtain ⟨child, last, forked⟩ := @Program.exists_forksAt daemon Fault Unit machine 0 _
    contained restartWorld (by decide +kernel)
  refine ⟨child, last, forked,
    (child_exits_iff 0 (.helperShutdown default shutdownCall) _ _ _ forked).mpr ?_⟩
  intro number known
  obtain rfl : 5 = number := Except.ok.inj known
  obtain ⟨_, _, _, _, _, _, same⟩ := forks_mHelperShutdown (forksAt_of_map alone forked)
  have seconds : awaitedSeconds last.db (uint32 5) = 15 := by
    unfold awaitedSeconds
    rw [same Table.init (by decide) (by decide)]
    decide
  have idle : last.kernel = fun _ => idleKernel := kernel_of_forksAt forked
  rw [seconds]
  exact (goesDown_iff le_rfl (goneFrom_idle idle rfl) (goneFrom_idle idle rfl) (by decide)).mpr
    (by decide)

/-! ## A reboot that is lost -/

/-- The server `web` with a recorded restart and a timeout of one second. -/
def rebootVxdb : Vxdb :=
  (oneServer.replace Table.init [.int 5, .str (cstr "/sbin/init"), .str (cstr "/sbin/halt"),
    .str (cstr "/sbin/reboot"), .int 1]).replace Table.restart [.int 5]

/-- Both contexts are gone when the child polls for the first time. -/
def rebootWorld : World :=
  World.boot rebootVxdb idleKernel

theorem forks_reboot : ∃ child last,
    ForksAt 0 (mHelperShutdown default shutdownCall) rebootWorld child last :=
  @Program.exists_forksAt daemon Fault Xml machine 0 _
    (contained_mHelperShutdown default shutdownCall) rebootWorld (by decide +kernel)

/-- With a timeout of one second the child of `helper.shutdown` always fails. -/
theorem not_goesDown_one (world : World) (xid : Int) : ¬ GoesDown world xid 1 := by
  intro ⟨first, second, within, gone, later⟩
  have started := gone.after
  have after := later.after
  omega

theorem awaitedSeconds_reboot (forks : ForksAt 0 (mHelperShutdown default shutdownCall)
    rebootWorld child last) : awaitedSeconds last.db 5 = 1 := by
  obtain ⟨_, _, _, _, _, _, same⟩ := forks_mHelperShutdown forks
  unfold awaitedSeconds
  rw [same Table.init (by decide) (by decide)]
  decide

theorem child_reboot (forks : ForksAt 0 (mHelperShutdown default shutdownCall) rebootWorld
    child last) : ∃ name, child = shutdownChild default 5 name 1 := by
  obtain ⟨number, name, known, rfl, -⟩ := forks_mHelperShutdown forks
  have five : number = 5 := (Except.ok.inj known).symm
  subst five
  refine ⟨name, ?_⟩
  have one : awaitedSeconds last.db (uint32 5) = 1 := awaitedSeconds_reboot forks
  rw [one]
  rfl

/-- A child that comes back into the dispatcher. -/
theorem child_answers : ¬ ∀ (self : Nat) (method : Forking) (world : World)
    (child : Method Empty) (last : World), ForksAt self method.program world child last →
    (child.run machine self last).outcome = .exited := by
  intro exits
  have contained : Program.Contained (Forking.program (.helperShutdown default shutdownCall)) :=
    (contained_mHelperShutdown default shutdownCall).bind fun _ => trivial
  obtain ⟨child, last, forked⟩ := @Program.exists_forksAt daemon Fault Unit machine 0 _
    contained rebootWorld (by decide +kernel)
  have exited := exits 0 _ rebootWorld child last forked
  have forks := forksAt_of_map (contained_mHelperShutdown default shutdownCall) forked
  obtain ⟨name, rfl⟩ := child_reboot forks
  rcases @run_shutdownChild 0 default 5 name 1 last with ⟨down, -⟩ | ⟨-, fault, failed⟩
  · exact not_goesDown_one last 5 down
  · rw [failed] at exited
    cases exited

/-- The child starts the server and does not give up with MEBUSY. -/
def CarriesOut (self : Nat) (host : Host) (name : Str) (child : Method Empty)
    (world : World) : Prop :=
  StartsServer self host name child world ∧
    ∀ message, (child.run machine self world).outcome ≠ .failed (.code MErr.busy.id message)

/-- Where a restart is recorded, and the network context and the context disappear within the
configured timeout, the child that `helper.shutdown` forks carries out the reboot exactly when
the network context disappears before the last second. -/
theorem reboot_carried_out_iff (self : Nat) (host : Host) (call : Call) (world : World)
    (child : Method Empty) (last : World)
    (forks : ForksAt self (mHelperShutdown host call) world child last) :
    ∃ number name, call.params.getInt (cstr "xid") = .ok number ∧
      (∃ row ∈ world.db.rows Table.restart, ofXid (int32 (uint32 number)) row = true) ∧
      (∀ row ∈ last.db.rows Table.restart, ofXid (int32 (uint32 number)) row = false) ∧
      ∀ first second, 1 ≤ first → first ≤ awaitedSeconds last.db (uint32 number) →
        1 ≤ second → second ≤ awaitedSeconds last.db (uint32 number) →
        GoneFrom last (.nxInfo (uint32 number)) first →
        GoneFrom last (.vxInfo (uint32 number)) second →
        (CarriesOut self host name child last ↔
          first < awaitedSeconds last.db (uint32 number)) := by
  obtain ⟨number, name, known, rfl, recorded, deleted, -⟩ := forks_mHelperShutdown forks
  refine ⟨number, name, known, recorded, deleted, ?_⟩
  intro first second started _ _ within nxGone vxGone
  rw [← goesDown_iff started nxGone vxGone within]
  rcases @run_shutdownChild self host (uint32 number) name
    (awaitedSeconds last.db (uint32 number)) last with ⟨down, starts⟩ | ⟨up, fault, failed⟩
  · refine ⟨fun _ => down, fun _ => ⟨starts, fun message busy => ?_⟩⟩
    rw [starts.exited] at busy
    cases busy
  · refine ⟨fun carries => ?_, fun down => absurd down up⟩
    have exited := carries.1.exited
    rw [failed] at exited
    cases exited

theorem reboot_carried_out_web : ∃ child last,
    ForksAt 0 (mHelperShutdown default shutdownCall) rebootWorld child last ∧
    ∃ number name, shutdownCall.params.getInt (cstr "xid") = .ok number ∧
      (∃ row ∈ rebootWorld.db.rows Table.restart,
        ofXid (int32 (uint32 number)) row = true) ∧
      (∀ row ∈ last.db.rows Table.restart, ofXid (int32 (uint32 number)) row = false) ∧
      ∀ first second, 1 ≤ first → first ≤ awaitedSeconds last.db (uint32 number) →
        1 ≤ second → second ≤ awaitedSeconds last.db (uint32 number) →
        GoneFrom last (.nxInfo (uint32 number)) first →
        GoneFrom last (.vxInfo (uint32 number)) second →
        (CarriesOut 0 default name child last ↔
          first < awaitedSeconds last.db (uint32 number)) := by
  obtain ⟨child, last, forks⟩ := forks_reboot
  exact ⟨child, last, forks, reboot_carried_out_iff 0 default shutdownCall rebootWorld child last
    forks⟩

/-- The network context is gone in the only second there is, and the server stays down. -/
theorem reboot_lost : ¬ ∀ (self : Nat) (host : Host) (call : Call) (world : World)
    (child : Method Empty) (last : World) (number : Int) (first second : Nat),
    ForksAt self (mHelperShutdown host call) world child last →
    call.params.getInt (cstr "xid") = .ok number →
    1 ≤ first → first ≤ awaitedSeconds last.db (uint32 number) →
    1 ≤ second → second ≤ awaitedSeconds last.db (uint32 number) →
    GoneFrom last (.nxInfo (uint32 number)) first →
    GoneFrom last (.vxInfo (uint32 number)) second →
    ∃ name, CarriesOut self host name child last := by
  intro carries
  obtain ⟨child, last, forks⟩ := forks_reboot
  have one : awaitedSeconds last.db (uint32 5) = 1 := awaitedSeconds_reboot forks
  have kernel : last.kernel = fun _ => idleKernel := kernel_of_forksAt forks
  obtain ⟨name, starts, -⟩ := carries 0 default shutdownCall rebootWorld child last 5 1 1 forks rfl
    le_rfl one.ge le_rfl one.ge (goneFrom_idle kernel rfl) (goneFrom_idle kernel rfl)
  have exited := starts.exited
  obtain ⟨other, rfl⟩ := child_reboot forks
  rcases @run_shutdownChild 0 default 5 other 1 last with ⟨down, -⟩ | ⟨-, fault, failed⟩
  · exact not_goesDown_one last 5 down
  · rw [failed] at exited
    cases exited

end Vcd
