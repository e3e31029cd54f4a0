import Vcd.Interleavings
import Vcd.Process.Completion

/-!
# Locks

The lock of a name excludes the other requests for the name while a process is at work, and
since a request locks its own name only, no order of steps ends in a deadlock. `method_lock`
does not look at the result of `lockf(F_LOCK)`: the call is taken to return with the lock, that
is, no signal interrupts it.
-/

namespace Vcd

open Sql Process

variable {α β : Type} {host : Host} {request : Request}

/-! ## What a request locks -/

/-- The request locks its own name only. -/
def Locking (request : Request) : Op → Prop
  | .lock name => request.text (cstr "name") = .ok name
  | _ => True

/-- Whatever a client sends, a request locks its own name only. -/
theorem handle_locking (setup : Setup) (request : Request) :
    (handle setup request).Within (I := daemon) (Locking request) Quiet := by
  refine (handle_keeps setup request).within fun past op permitted => ?_
  cases op with
  | lock name => exact permitted
  | _ => trivial

/-! ## Holders -/

section Holders

variable {setup : Setup} {world : Shared} {requests : List Request} {pool next : Requests}
  {self other : Nat} {proc : Proc sharedMachine Request Fault Xml} {name : Str}

/-- The process took the lock and has not ended. -/
structure Holds (proc : Proc sharedMachine Request Fault Xml) (name : Str) : Prop where
  taken : (⟨.lock name, ()⟩ : Performed daemon) ∈ proc.history
  running : proc.halted = false

theorem Interleaved.bound (reached : Interleaved setup world requests pool) :
    ∀ proc ∈ pool.procs, proc.Bound Locking Quiet :=
  Pool.Reaches.bound reached (handlers_start fun request => .start (handle_locking setup request))

/-- The step of a process leaves the locks of the others alone. -/
theorem holder_of_step {op : Op} (enabled : sharedMachine.enabled self world op = true)
    (held : world.holder name = some other) (apart : other ≠ self) :
    (sharedMachine.step self world op).2.holder name = some other := by
  cases op with
  | lock locked =>
      change Function.update world.holder locked (some self) name = some other
      by_cases same : name = locked
      · subst same
        change (world.holder name).all (· == self) = true at enabled
        rw [held] at enabled
        exact absurd (eq_of_beq enabled) apart
      · rw [Function.update_of_ne same]
        exact held
  | _ => exact (congrFun (Shared.holder_performs (fun _ same => by cases same) world self)
      name).trans held

theorem holder_of_release (held : world.holder name = some other) (apart : other ≠ self) :
    (sharedMachine.halt self world).holder name = some other := by
  change (if world.holder name = some self then none else world.holder name) = _
  rw [held, if_neg fun same => apart (Option.some.inj same)]

/-- A process keeps its locks until it ends. -/
theorem Interleaved.holding (reached : Interleaved setup world requests pool) :
    ∀ (other : Nat) (proc : Proc sharedMachine Request Fault Xml), pool.procs[other]? = some proc →
      ∀ name, Holds proc name → pool.state.holder name = some other := by
  induction reached with
  | refl =>
      intro other proc known name holds
      have mem : proc ∈ (handlers setup world requests).procs := List.mem_of_getElem? known
      obtain ⟨entry, listed, rfl⟩ := List.mem_map.mp mem
      cases holds.taken
  | @step pool next self before taken condition ih =>
      obtain ⟨proc, after, children, known, advanced, procs⟩ := Pool.step_cases taken
      intro other otherProc otherKnown name holds
      have own := fun holds => ih self proc known name holds
      have others := fun known => ih other otherProc known name holds
      generalize next.state = last at advanced ⊢
      cases Pool.successor procs otherKnown with
      | old oldKnown apart =>
          have held := others oldKnown
          cases advanced with
          | op op rest found enabled => exact holder_of_step enabled held apart
          | fork rest found => exact held
          | halt finished running => exact holder_of_release held apart
      | stepped same equal =>
          subst same equal
          cases advanced with
          | halt finished running => cases holds.running
          | fork rest found => exact own ⟨holds.taken, holds.running⟩
          | op op rest found enabled =>
              rcases List.mem_cons.mp holds.taken with new | old
              · cases new
                exact Function.update_self name (some other) pool.state.holder
              · have held := own ⟨old, holds.running⟩
                have kept (unlocking : ∀ name, op ≠ .lock name) :=
                  Shared.holder_performs unlocking pool.state other
                cases op with
                | lock locked =>
                    change Function.update pool.state.holder locked (some other) name = some other
                    by_cases same : name = locked
                    · subst same
                      exact Function.update_self _ _ _
                    · rw [Function.update_of_ne same]
                      exact held
                | _ => exact (congrFun (kept fun _ same => by cases same) name).trans held
      | child fresh mem =>
          have nothing := (advanced.past_child otherProc mem).1
          have taken := holds.taken
          unfold Proc.history at taken
          rw [nothing] at taken
          cases taken

/-- Only a process that took a lock and has not ended holds it. -/
theorem Interleaved.held (reached : Interleaved setup world requests pool)
    (free : ∀ name, world.holder name = none) : ∀ name other,
      pool.state.holder name = some other →
        ∃ proc, pool.procs[other]? = some proc ∧ Holds proc name := by
  induction reached with
  | refl =>
      intro name other held
      rw [show (handlers setup world requests).state = world from rfl, free] at held
      cases held
  | @step pool next self before taken condition ih =>
      obtain ⟨proc, after, children, known, advanced, procs⟩ := Pool.step_cases taken
      obtain ⟨own, others⟩ := Pool.getElem?_step known procs
      have overs := Pool.Reaches.halted_over before (handlers_start fun request => rfl) proc
        (List.mem_of_getElem? known)
      intro name other held
      -- who held the lock before holds it still, except a process that ended
      have kept (before : pool.state.holder name = some other)
          (grown : other = self → proc.history ⊆ after.history ∧ after.halted = proc.halted) :
          ∃ proc, next.procs[other]? = some proc ∧ Holds proc name := by
        obtain ⟨holder, holderKnown, holds⟩ := ih name other before
        by_cases same : other = self
        · subst same
          obtain rfl : proc = holder := Option.some.inj (known.symm.trans holderKnown)
          obtain ⟨subset, halted⟩ := grown rfl
          exact ⟨after, own, subset holds.taken, halted ▸ holds.running⟩
        · exact ⟨holder, others other holder same holderKnown, holds⟩
      generalize next.state = last at advanced held
      cases advanced with
      | fork rest found => exact kept held fun _ => ⟨List.Subset.refl _, rfl⟩
      | halt finished running =>
          change (if pool.state.holder name = some self then none else pool.state.holder name) = _
            at held
          split at held
          next => cases held
          next apart => exact kept held fun same => absurd (same ▸ held) apart
      | op op rest found enabled =>
          have unlocked (same : pool.state.holder name = some other) :=
            kept same fun _ => ⟨fun event mem => .tail _ mem, rfl⟩
          have still (unlocking : ∀ name, op ≠ .lock name) :=
            Shared.holder_performs unlocking pool.state self
          cases op with
          | lock locked =>
              change Function.update pool.state.holder locked (some self) name = some other at held
              by_cases same : name = locked
              · subst same
                rw [Function.update_self] at held
                obtain rfl := Option.some.inj held
                refine ⟨_, own, .head _, Bool.eq_false_iff.mpr fun halted => ?_⟩
                have ended := overs halted
                rw [found] at ended
                exact ended
              · rw [Function.update_of_ne same] at held
                exact unlocked held
          | _ =>
              have same := congrFun (still fun _ same => by cases same) name
              exact unlocked (same.symm.trans held)

/-! ## Mutual exclusion -/

/-- The process does more than the checks of its method: it is about to, or it did. -/
def AtWork (request : Request) (proc : Proc sharedMachine Request Fault Xml) : Prop :=
  Acts request proc.rest ∨ ∃ event ∈ proc.history, ¬ Entry request event.request

/-- The process works on a request for the name whose method asks for the lock. -/
structure Works (pool : Requests) (index : Nat) (request : Request) (name : Str) : Prop where
  busy : ∃ proc, pool.procs[index]? = some proc ∧ proc.tag = some request ∧
    proc.halted = false ∧ AtWork request proc
  locks : (admission request.method).2.lock = true
  named : request.text (cstr "name") = .ok name

theorem Interleaved.clearance (reached : Interleaved setup world requests pool)
    (mem : proc ∈ pool.procs) {request : Request} (tagged : proc.tag = some request)
    (work : AtWork request proc) : Clearance setup.host request proc.history := by
  rcases work with acts | ⟨event, eventMem, late⟩
  · exact Interleaved.cleared reached mem tagged acts
  · have done := (Interleaved.mediated reached proc mem request tagged).2 event eventMem
    exact done.resolve_right late

/-- Whoever works on a name holds its lock. -/
theorem Works.holder {request : Request} (works : Works pool self request name)
    (reached : Interleaved setup world requests pool) :
    pool.state.holder name = some self := by
  obtain ⟨proc, known, tagged, running, work⟩ := works.busy
  obtain ⟨-, user, pass, cleared⟩ :=
    Interleaved.clearance reached (List.mem_of_getElem? known) tagged work
  have any : (admission request.method).2.any = true := by
    unfold Flags.any
    rw [works.locks, Bool.or_true]
  obtain ⟨locked, lockedEq, -, -, taken⟩ := cleared.named any
  obtain rfl : name = locked := Except.ok.inj (works.named.symm.trans lockedEq)
  exact Interleaved.holding reached self proc known name ⟨taken works.locks, running⟩

/-- Mutual exclusion: in every interleaving, at most one of the requests for a name whose
methods ask for its lock is at work, from its first step after the checks to its end. -/
theorem mutual_exclusion (reached : Interleaved setup world requests pool)
    {left right : Request} (one : Works pool self left name)
    (another : Works pool other right name) : self = other :=
  Option.some.inj ((one.holder reached).symm.trans (another.holder reached))

/-- The capability is taken again. -/
def tameRequest : Request :=
  adminRequest (cstr "vxdb.vx.bcaps.remove") (cstr "web") [(cstr "bcap", .str (cstr "KILL"))]

/-- Both requests have found the lock free when the first one takes it. -/
def contending : Requests :=
  after quietFile [killRequest, tameRequest] ((List.range 15).map (· % 2) ++ [0])

theorem reached_contending :
    Interleaved plainSetup quietFile [killRequest, tameRequest] contending :=
  interleaved_after (by decide +kernel)

theorem works_contending : Works contending 0 killRequest (cstr "web") where
  busy := by
    have ran : contending.procs[0]?.any (fun proc =>
        decide (proc.halted = false ∧ Acts killRequest proc.rest)) = true := by decide +kernel
    obtain ⟨proc, known, holds⟩ := (Option.any_eq_true _ _).mp ran
    obtain ⟨running, acts⟩ := of_decide_eq_true holds
    have tagged := (Interleaved.numbered reached_contending).2 0 proc known
    exact ⟨proc, known, tagged, running, .inl acts⟩
  locks := by decide
  named := by decide

/-- The first request is about to insert, and the second waits for the lock. -/
theorem mutual_exclusion_contending :
    (∃ index, Works contending index killRequest (cstr "web") ∧ 0 = index) ∧
      (contending.step 1).isNone ∧ ¬ Works contending 1 tameRequest (cstr "web") := by
  refine ⟨⟨0, works_contending, ?_⟩, by decide +kernel, fun another => ?_⟩
  · exact mutual_exclusion reached_contending works_contending works_contending
  · exact absurd (mutual_exclusion reached_contending works_contending another) (by decide)

/-! ## Progress -/

/-- No process waits for a lock in a pool in which nobody can take a step: the holder would
have to wait too, but for the same name. -/
theorem Interleaved.ended_of_stuck (reached : Interleaved setup world requests pool)
    (free : ∀ name, world.holder name = none) (stuck : ∀ self, pool.step self = none) :
    ∀ proc ∈ pool.procs, Pool.Over proc.rest ∧ proc.halted = true := by
  have waits (self : Nat) (proc : Proc sharedMachine Request Fault Xml)
      (waits : Pool.Waits pool self proc) : ∃ name other next, proc.rest = .op (.lock name) next ∧
        pool.state.holder name = some other ∧ other ≠ self := by
    obtain ⟨op, next, rest, blocked⟩ := waits
    cases op with
    | lock name =>
        change (pool.state.holder name).all (· == self) = false at blocked
        cases held : pool.state.holder name with
        | none =>
            rw [held] at blocked
            cases blocked
        | some other =>
            rw [held] at blocked
            exact ⟨name, other, next, rest, held, ne_of_beq_false blocked⟩
    | _ => cases blocked
  have own (proc : Proc sharedMachine Request Fault Xml) (mem : proc ∈ pool.procs) {name : Str}
      (locks : (∃ next, proc.rest = .op (.lock name) next) ∨
        (⟨.lock name, ()⟩ : Performed daemon) ∈ proc.history) :
      ∃ request, proc.tag = some request ∧ request.text (cstr "name") = .ok name := by
    have bound := Interleaved.bound reached proc mem
    cases tagged : proc.tag with
    | none =>
        obtain ⟨orphan, past⟩ := bound.child tagged
        rcases locks with ⟨next, rest⟩ | taken
        · rw [rest] at orphan
          exact orphan.1.elim
        · exact (past _ taken).elim
    | some request =>
        obtain ⟨within, past⟩ := bound.own request tagged
        rcases locks with ⟨next, rest⟩ | taken
        · rw [rest] at within
          exact ⟨request, rfl, within.1⟩
        · exact ⟨request, rfl, past _ taken⟩
  intro proc mem
  obtain ⟨self, known⟩ := List.getElem?_of_mem mem
  refine (Pool.ended_or_waits known (stuck self)).resolve_right fun waiting => ?_
  obtain ⟨name, other, next, rest, held, apart⟩ := waits self proc waiting
  obtain ⟨holder, holderKnown, holds⟩ := Interleaved.held reached free name other held
  rcases Pool.ended_or_waits holderKnown (stuck other) with ⟨-, halted⟩ | waiting
  · rw [holds.running] at halted
    cases halted
  · obtain ⟨wanted, third, after, holderRest, wantedHeld, thirdApart⟩ := waits other holder waiting
    have holderMem := List.mem_of_getElem? holderKnown
    obtain ⟨request, tagged, named⟩ := own holder holderMem (.inr holds.taken)
    obtain ⟨again, taggedAgain, wantedName⟩ := own holder holderMem (.inl ⟨after, holderRest⟩)
    obtain rfl := Option.some.inj (tagged.symm.trans taggedAgain)
    obtain rfl := Except.ok.inj (named.symm.trans wantedName)
    exact thirdApart (Option.some.inj (wantedHeld.symm.trans held))

/-- Every request comes to its end: no order of steps goes on forever, and where no process
can take a step all of them have ended and no lock is held. That a process alone ends lies in
what a program is: `vxdb_step` repeats a query while the database is locked, and these
repetitions are no steps. -/
theorem requests_end (setup : Setup) (world : Shared) (requests : List Request)
    (free : ∀ name, world.holder name = none) :
    (¬ ∃ run : Nat → Requests, ∀ time, ∃ self, (run time).step self = some (run (time + 1))) ∧
    ∀ pool, Interleaved setup world requests pool → (∀ self, pool.step self = none) →
      (∀ proc ∈ pool.procs, Pool.Over proc.rest ∧ proc.halted = true) ∧
        ∀ name, pool.state.holder name = none := by
  constructor
  · rintro ⟨run, steps⟩
    exact (wellFounded_iff_isEmpty_descending_chain.mp Pool.step_wellFounded).false ⟨run, steps⟩
  · intro pool reached stuck
    have ended := Interleaved.ended_of_stuck reached free stuck
    refine ⟨ended, fun name => Option.eq_none_iff_forall_not_mem.mpr fun other held => ?_⟩
    obtain ⟨proc, known, holds⟩ := Interleaved.held reached free name other held
    have halted := (ended proc (List.mem_of_getElem? known)).2
    rw [holds.running] at halted
    cases halted

theorem requests_end_boot :
    (¬ ∃ run : Nat → Requests, ∀ time, ∃ self, (run time).step self = some (run (time + 1))) ∧
    ∀ pool, Interleaved plainSetup quietFile [killRequest, blueRequest]
      pool → (∀ self, pool.step self = none) →
        (∀ proc ∈ pool.procs, Pool.Over proc.rest ∧ proc.halted = true) ∧
          ∀ name, pool.state.holder name = none :=
  requests_end plainSetup quietFile [killRequest, blueRequest]
    fun _ => rfl

end Holders

end Vcd
