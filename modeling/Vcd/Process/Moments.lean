import Vcd.Process.History

/-!
# Moments of an interleaving

Every event in the past of a process happened at an earlier moment of the run. Facts about
the processes of a pool, told by their numbers.
-/

namespace Process

variable {I : Interface} {ε α Tag : Type} {machine : Machine I}

namespace Pool

variable {allowed : Pool machine Tag ε α → Nat → Pool machine Tag ε α → Prop}
  {first middle pool next : Pool machine Tag ε α} {self : Nat}

theorem Reaches.trans (earlier : Reaches allowed first middle)
    (later : Reaches allowed middle pool) : Reaches allowed first pool := by
  induction later with
  | refl => exact earlier
  | step before taken condition ih => exact .step ih taken condition

theorem runs_append (pool : Pool machine Tag ε α) (earlier later : List Nat) :
    pool.runs (earlier ++ later) = (pool.runs earlier).bind (·.runs later) := by
  induction earlier generalizing pool with
  | nil => rfl
  | cons self earlier ih =>
      change (pool.step self).bind _ = ((pool.step self).bind _).bind _
      rw [Option.bind_assoc]
      congr 1
      funext next
      exact ih next

/-- A schedule that can be run leads to a pool that is reached. -/
theorem reaches_of_runs {schedule : List Nat} (ran : first.runs schedule = some pool) :
    Reaches (fun _ _ _ => True) first pool := by
  induction schedule generalizing first with
  | nil =>
      obtain rfl := Option.some.inj ran
      exact .refl
  | cons self schedule ih =>
      obtain ⟨middle, taken, later⟩ := Option.bind_eq_some_iff.mp ran
      exact (Reaches.step .refl taken trivial).trans (ih later)

/-! ## Processes by number -/

/-- After a step the process of a number is the old one, the one that took the step, or a
child that was just forked. -/
inductive Successor (pool : Pool machine Tag ε α) (self : Nat) (after : Proc machine Tag ε α)
    (children : List (Proc machine Tag ε α)) (other : Nat) (proc : Proc machine Tag ε α) :
    Prop where
  | old (known : pool.procs[other]? = some proc) (apart : other ≠ self)
  | stepped (same : other = self) (equal : proc = after)
  | child (fresh : pool.procs.length ≤ other) (mem : proc ∈ children)

theorem successor {after : Proc machine Tag ε α} {children : List (Proc machine Tag ε α)}
    (procs : next.procs = pool.procs.set self after ++ children) {other : Nat}
    {proc : Proc machine Tag ε α} (known : next.procs[other]? = some proc) :
    Successor pool self after children other proc := by
  rw [procs] at known
  by_cases inside : other < pool.procs.length
  · rw [List.getElem?_append_left (by rw [List.length_set]; exact inside)] at known
    by_cases same : other = self
    · subst same
      rw [List.getElem?_set_self inside] at known
      exact .stepped rfl (Option.some.inj known).symm
    · rw [List.getElem?_set_ne (Ne.symm same)] at known
      exact .old known same
  · rw [List.getElem?_append_right (by rw [List.length_set]; exact Nat.le_of_not_lt inside)]
      at known
    exact .child (Nat.le_of_not_lt inside) (List.mem_of_getElem? known)

/-- After a step the process that took it is the stepped one, and the others are there still. -/
theorem getElem?_step {proc after : Proc machine Tag ε α} {children : List (Proc machine Tag ε α)}
    (known : pool.procs[self]? = some proc)
    (procs : next.procs = pool.procs.set self after ++ children) :
    next.procs[self]? = some after ∧ ∀ (other : Nat) (old : Proc machine Tag ε α), other ≠ self →
      pool.procs[other]? = some old → next.procs[other]? = some old := by
  rw [procs]
  constructor
  · have inside : self < pool.procs.length := List.getElem?_eq_some_iff.mp known |>.1
    rw [List.getElem?_append_left (by rw [List.length_set]; exact inside),
      List.getElem?_set_self inside]
  · intro other old apart otherKnown
    have inside : other < pool.procs.length := List.getElem?_eq_some_iff.mp otherKnown |>.1
    rw [List.getElem?_append_left (by rw [List.length_set]; exact inside),
      List.getElem?_set_ne (Ne.symm apart), otherKnown]

/-- A step changes a count of processes by what it makes of its own. -/
theorem countP_step {proc after : Proc machine Tag ε α} {children : List (Proc machine Tag ε α)}
    {counted : Proc machine Tag ε α → Bool} (known : pool.procs[self]? = some proc)
    (procs : next.procs = pool.procs.set self after ++ children)
    (uncounted : ∀ child ∈ children, counted child = false) :
    next.procs.countP counted + (if counted proc then 1 else 0) =
      pool.procs.countP counted + (if counted after then 1 else 0) := by
  obtain ⟨inside, found⟩ := List.getElem?_eq_some_iff.mp known
  have fresh : children.countP counted = 0 :=
    List.countP_eq_zero.mpr fun child mem => Bool.eq_false_iff.mp (uncounted child mem)
  have least : (if counted proc then 1 else 0) ≤ pool.procs.countP counted := by
    split
    next holds => exact List.countP_pos_iff.mpr ⟨proc, List.mem_of_getElem? known, holds⟩
    next => exact Nat.zero_le _
  rw [procs, List.countP_append, fresh, List.countP_set inside, found]
  omega

/-- A fact about processes and their numbers that a step keeps of the others, and passes on
to the process that takes it and to its child. -/
theorem forall_numbered_step {holds : Nat → Proc machine Tag ε α → Prop}
    (kept : Nat → Proc machine Tag ε α → Prop)
    (all : ∀ other proc, pool.procs[other]? = some proc → holds other proc)
    (taken : pool.step self = some next)
    (others : ∀ other proc, other ≠ self → holds other proc → kept other proc)
    (stepped : ∀ proc after children, pool.procs[self]? = some proc →
      Advance self pool.state proc after children next.state → holds self proc →
        kept self after ∧ ∀ other, ∀ child ∈ children, kept other child) :
    ∀ other proc, next.procs[other]? = some proc → kept other proc := by
  obtain ⟨proc, after, children, known, advanced, procs⟩ := step_cases taken
  obtain ⟨afterKept, childKept⟩ := stepped proc after children known advanced (all self proc known)
  intro other otherProc otherKnown
  cases successor procs otherKnown with
  | old oldKnown apart => exact others other otherProc apart (all other otherProc oldKnown)
  | stepped same equal =>
      subst same equal
      exact afterKept
  | child fresh mem => exact childKept other otherProc mem

/-- A child that was just forked has done nothing. -/
theorem Advance.past_child {state last : machine.State} {proc after : Proc machine Tag ε α}
    {children : List (Proc machine Tag ε α)}
    (advanced : Advance self state proc after children last) :
    ∀ child ∈ children, child.past = [] ∧ child.tag = none ∧ child.parent = some self := by
  cases advanced with
  | op request next rest enabled => exact fun child mem => absurd mem List.not_mem_nil
  | fork next rest =>
      intro child mem
      obtain rfl := List.mem_singleton.mp mem
      exact ⟨rfl, rfl, rfl⟩
  | halt => exact fun child mem => absurd mem List.not_mem_nil

theorem Advance.tag_eq {state last : machine.State} {proc after : Proc machine Tag ε α}
    {children : List (Proc machine Tag ε α)}
    (advanced : Advance self state proc after children last) : after.tag = proc.tag := by
  cases advanced <;> rfl

theorem Advance.parent_eq {state last : machine.State} {proc after : Proc machine Tag ε α}
    {children : List (Proc machine Tag ε α)}
    (advanced : Advance self state proc after children last) : after.parent = proc.parent := by
  cases advanced <;> rfl

/-! ## Descent -/

/-- The second process is the first one, or was forked by one that descends from it. -/
inductive Descends (pool : Pool machine Tag ε α) (ancestor : Nat) : Nat → Prop where
  | same : Descends pool ancestor ancestor
  | forked {other parent : Nat} {proc : Proc machine Tag ε α} (known : pool.procs[other]? = some proc)
      (child : proc.parent = some parent) (older : Descends pool ancestor parent) :
      Descends pool ancestor other

/-- A process keeps its number and its parent. -/
theorem known_step (taken : pool.step self = some next) {other : Nat}
    {proc : Proc machine Tag ε α} (known : pool.procs[other]? = some proc) :
    ∃ later, next.procs[other]? = some later ∧ later.tag = proc.tag ∧
      later.parent = proc.parent := by
  obtain ⟨stepping, after, children, stepped, advanced, procs⟩ := step_cases taken
  obtain ⟨own, others⟩ := getElem?_step stepped procs
  by_cases same : other = self
  · subst same
    obtain rfl := Option.some.inj (stepped.symm.trans known)
    exact ⟨after, own, advanced.tag_eq, advanced.parent_eq⟩
  · exact ⟨proc, others other proc same known, rfl, rfl⟩

theorem Descends.step {ancestor other : Nat} (descends : Descends pool ancestor other)
    (taken : pool.step self = some next) : Descends next ancestor other := by
  induction descends with
  | same => exact .same
  | forked known child older ih =>
      obtain ⟨later, laterKnown, -, parent⟩ := known_step taken known
      exact .forked laterKnown (parent.trans child) ih

/-! ## Moments -/

/-- The event happened at an earlier moment of the run to this pool, and its reply is the
one of that moment. -/
def Happened (allowed : Pool machine Tag ε α → Nat → Pool machine Tag ε α → Prop)
    (first pool : Pool machine Tag ε α) (self : Nat) (event : Event machine) : Prop :=
  ∃ moment, Reaches allowed first moment ∧ Reaches allowed moment pool ∧
    event.state = moment.state ∧
    event.reply = (machine.step self moment.state event.request).1

theorem Happened.later {event : Event machine} (happened : Happened allowed first middle self event)
    (later : Reaches allowed middle pool) : Happened allowed first pool self event := by
  obtain ⟨moment, before, after, state, reply⟩ := happened
  exact ⟨moment, before, after.trans later, state, reply⟩

/-- The shared state had a property at an earlier moment of the run. -/
def Once (allowed : Pool machine Tag ε α → Nat → Pool machine Tag ε α → Prop)
    (first pool : Pool machine Tag ε α) (holds : machine.State → Prop) : Prop :=
  ∃ moment, Reaches allowed first moment ∧ Reaches allowed moment pool ∧ holds moment.state

theorem Once.mono {holds weaker : machine.State → Prop} (once : Once allowed first pool holds)
    (implies : ∀ state, holds state → weaker state) : Once allowed first pool weaker := by
  obtain ⟨moment, before, after, known⟩ := once
  exact ⟨moment, before, after, implies _ known⟩

theorem Once.later {holds : machine.State → Prop} (once : Once allowed first middle holds)
    (later : Reaches allowed middle pool) : Once allowed first pool holds := by
  obtain ⟨moment, before, after, known⟩ := once
  exact ⟨moment, before, after.trans later, known⟩

theorem Happened.once {event : Event machine} (happened : Happened allowed first pool self event) :
    Once allowed first pool fun state =>
      event.reply = (machine.step self state event.request).1 := by
  obtain ⟨moment, before, after, -, reply⟩ := happened
  exact ⟨moment, before, after, reply⟩

/-- The past of every process is made of earlier moments of the run. -/
theorem Reaches.happened (reached : Reaches allowed first pool)
    (start : ∀ proc ∈ first.procs, proc.past = []) :
    ∀ other proc, pool.procs[other]? = some proc →
      ∀ event ∈ proc.past, Happened allowed first pool other event := by
  induction reached with
  | refl =>
      intro other proc known event mem
      rw [start proc (List.mem_of_getElem? known)] at mem
      cases mem
  | @step pool next self before taken condition ih =>
      have later : Reaches allowed pool next := .step .refl taken condition
      apply forall_numbered_step
        (fun other proc => ∀ event ∈ proc.past, Happened allowed first next other event) ih taken
      · intro other proc apart happened event mem
        exact (happened event mem).later later
      · intro proc after children known advanced happened
        generalize next.state = last at advanced
        constructor
        · intro event mem
          cases advanced with
          | op request rest found enabled =>
              rcases List.mem_cons.mp mem with rfl | mem
              · exact ⟨pool, before, later, rfl, rfl⟩
              · exact (happened event mem).later later
          | fork rest found => exact (happened event mem).later later
          | halt => exact (happened event mem).later later
        · intro other child mem event event_mem
          rw [(advanced.past_child child mem).1] at event_mem
          cases event_mem

/-- What holds of the state at the start, and is kept by every step that follows such states,
holds of the state and of all that the processes saw. -/
theorem Reaches.always (holds : machine.State → Prop) (reached : Reaches allowed first pool)
    (start : holds first.state) (unstarted : ∀ proc ∈ first.procs, proc.past = [])
    (kept : ∀ pool next self, Reaches allowed first pool → pool.step self = some next →
      holds pool.state → (∀ proc ∈ pool.procs, ∀ event ∈ proc.past, holds event.state) →
        holds next.state) :
    holds pool.state ∧ ∀ proc ∈ pool.procs, ∀ event ∈ proc.past, holds event.state := by
  induction reached with
  | refl =>
      refine ⟨start, fun proc mem event past => ?_⟩
      rw [unstarted proc mem] at past
      cases past
  | @step pool next self before taken condition ih =>
      obtain ⟨now, seen⟩ := ih
      refine ⟨kept pool next self before taken now seen, ?_⟩
      refine forall_procs_step seen taken fun proc after children seen advanced => ?_
      generalize next.state = last at advanced
      constructor
      · intro event mem
        cases advanced with
        | op request rest found enabled =>
            rcases List.mem_cons.mp mem with rfl | mem
            · exact now
            · exact seen event mem
        | fork rest found => exact seen event mem
        | halt => exact seen event mem
      · intro child mem event event_mem
        rw [(advanced.past_child child mem).1] at event_mem
        cases event_mem

end Pool

/-! ## Bounds -/

/-- A tagged process performs operations of a kind, a child quiet ones; so it was in the
past. -/
structure Proc.Bound (usual : Tag → I.Op → Prop) (quiet : I.Op → Prop)
    (proc : Proc machine Tag ε α) : Prop where
  own : ∀ tag, proc.tag = some tag → proc.rest.Within (usual tag) quiet ∧
    ∀ event ∈ proc.history, usual tag event.request
  child : proc.tag = none → proc.rest.Orphan quiet ∧ ∀ event ∈ proc.history, quiet event.request

namespace Proc.Bound

variable {usual : Tag → I.Op → Prop} {quiet : I.Op → Prop} {self : Nat}
  {state last : machine.State} {proc after : Proc machine Tag ε α}
  {children : List (Proc machine Tag ε α)}

theorem start {tag : Tag} {program : Program I ε α} (within : program.Within (usual tag) quiet) :
    Proc.Bound usual quiet
      ({ tag := some tag, past := [], rest := program, halted := false } :
        Proc machine Tag ε α) where
  own other known := by
    cases known
    exact ⟨within, fun event mem => by cases mem⟩
  child known := by cases known

theorem advance (bound : proc.Bound usual quiet)
    (advanced : Pool.Advance self state proc after children last) :
    after.Bound usual quiet ∧ ∀ child ∈ children, child.Bound usual quiet := by
  cases advanced with
  | op request next rest enabled =>
      refine ⟨⟨fun tag known => ?_, fun known => ?_⟩, by simp⟩
      · obtain ⟨within, past⟩ := bound.own tag known
        rw [rest] at within
        refine ⟨within.2 _, fun event mem => ?_⟩
        rcases List.mem_cons.mp mem with rfl | mem
        · exact within.1
        · exact past event mem
      · obtain ⟨orphan, past⟩ := bound.child known
        rw [rest] at orphan
        refine ⟨orphan.2 _, fun event mem => ?_⟩
        rcases List.mem_cons.mp mem with rfl | mem
        · exact orphan.1
        · exact past event mem
  | fork next rest =>
      have forked : (next true).Orphan quiet := by
        cases known : proc.tag with
        | some tag =>
            have within := (bound.own tag known).1
            rw [rest] at within
            exact within.1
        | none =>
            have orphan := (bound.child known).1
            rw [rest] at orphan
            exact orphan true
      refine ⟨⟨fun tag known => ?_, fun known => ?_⟩, fun child mem => ?_⟩
      · obtain ⟨within, past⟩ := bound.own tag known
        rw [rest] at within
        exact ⟨within.2, past⟩
      · obtain ⟨orphan, past⟩ := bound.child known
        rw [rest] at orphan
        exact ⟨orphan false, past⟩
      · obtain rfl := List.mem_singleton.mp mem
        refine ⟨fun tag known => ?_, fun _ => ⟨forked, fun event mem => ?_⟩⟩
        · cases known
        · cases mem
  | halt finished running => exact ⟨⟨bound.own, bound.child⟩, by simp⟩

end Proc.Bound

/-- Bounds of the programs at the start are bounds in every interleaving. -/
theorem Pool.Reaches.bound {usual : Tag → I.Op → Prop} {quiet : I.Op → Prop}
    {allowed : Pool machine Tag ε α → Nat → Pool machine Tag ε α → Prop}
    {first pool : Pool machine Tag ε α} (reached : Reaches allowed first pool)
    (start : ∀ proc ∈ first.procs, proc.Bound usual quiet) :
    ∀ proc ∈ pool.procs, proc.Bound usual quiet :=
  reached.invariant (fun pool => ∀ proc ∈ pool.procs, proc.Bound usual quiet) start
    fun _ _ _ all taken _ => forall_procs_step all taken fun _ _ _ bound advanced =>
      bound.advance advanced

/-! ## Openings -/

/-- The program begins with an operation of a first kind, and goes on within another. -/
def Program.Opens (first usual quiet : I.Op → Prop) : Program I ε α → Prop
  | .op request next => first request ∧ ∀ reply, (next reply).Within usual quiet
  | _ => False

/-- The process has not begun, or it is past its first operation. -/
def Proc.Opened (first usual : Tag → I.Op → Prop) (quiet : I.Op → Prop)
    (proc : Proc machine Tag ε α) : Prop :=
  ∀ tag, proc.tag = some tag →
    proc.past = [] ∧ proc.rest.Opens (first tag) (usual tag) quiet ∨
      proc.past ≠ [] ∧ proc.rest.Within (usual tag) quiet

theorem Pool.Advance.opened {first usual : Tag → I.Op → Prop} {quiet : I.Op → Prop} {self : Nat}
    {state last : machine.State} {proc after : Proc machine Tag ε α}
    {children : List (Proc machine Tag ε α)} (opened : proc.Opened first usual quiet)
    (advanced : Advance self state proc after children last) :
    after.Opened first usual quiet ∧ ∀ child ∈ children, child.Opened first usual quiet := by
  constructor
  · intro tag tagged
    cases advanced with
    | op request next rest enabled =>
        refine .inr ⟨List.cons_ne_nil _ _, ?_⟩
        rcases opened tag tagged with ⟨-, opens⟩ | ⟨-, within⟩
        · rw [rest] at opens
          exact opens.2 _
        · rw [rest] at within
          exact within.2 _
    | fork next rest =>
        rcases opened tag tagged with ⟨-, opens⟩ | ⟨begun, within⟩
        · rw [rest] at opens
          exact opens.elim
        · rw [rest] at within
          exact .inr ⟨begun, within.2⟩
    | halt finished running => exact opened tag tagged
  · intro child mem tag tagged
    rw [(advanced.past_child child mem).2.1] at tagged
    cases tagged

/-- Openings of the programs at the start are respected in every interleaving. -/
theorem Pool.Reaches.opened {begins usual : Tag → I.Op → Prop} {quiet : I.Op → Prop}
    {allowed : Pool machine Tag ε α → Nat → Pool machine Tag ε α → Prop}
    {first pool : Pool machine Tag ε α} (reached : Reaches allowed first pool)
    (start : ∀ proc ∈ first.procs, proc.Opened begins usual quiet) :
    ∀ proc ∈ pool.procs, proc.Opened begins usual quiet :=
  reached.invariant (fun pool => ∀ proc ∈ pool.procs, proc.Opened begins usual quiet) start
    fun _ _ _ all taken _ => forall_procs_step all taken fun _ _ _ opened advanced =>
      advanced.opened opened

end Process
