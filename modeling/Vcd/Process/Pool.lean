import Vcd.Process.Program
import Mathlib.Data.List.Basic

/-!
# Interleaved processes

Any number of processes take steps on one shared state, in any order. Each process keeps
its past: the operations it performed, their replies, and the states it performed them
in.
-/

namespace Process

variable {I : Interface} {ε α Tag : Type}

/-- One performed operation. -/
structure Event (machine : Machine I) where
  state : machine.State
  request : I.Op
  reply : I.Reply request

/-- A process, its past with the last operation first. A forked child has no tag, but knows
the number of the process that forked it. -/
structure Proc (machine : Machine I) (Tag ε α : Type) where
  tag : Option Tag
  past : List (Event machine)
  rest : Program I ε α
  halted : Bool
  parent : Option Nat := none

/-- Processes, by number, and the state they share. -/
structure Pool (machine : Machine I) (Tag ε α : Type) where
  state : machine.State
  procs : List (Proc machine Tag ε α)

namespace Pool

variable {machine : Machine I}

/-- A pool of processes that have not started. -/
def start (state : machine.State) (programs : List (Tag × Program I ε α)) :
    Pool machine Tag ε α where
  state
  procs := programs.map fun (tag, program) =>
    { tag := some tag, past := [], rest := program, halted := false }

/-- What one step makes of a process: the process itself, the child it forked, and the
shared state. A program that has ended leaves by halting. -/
def advance (self : Nat) (state : machine.State) (proc : Proc machine Tag ε α) :
    Option (Proc machine Tag ε α × List (Proc machine Tag ε α) × machine.State) :=
  match proc.rest with
  | .op request next =>
      if machine.enabled self state request then
        let (reply, following) := machine.step self state request
        some ({ proc with
          past := ⟨state, request, reply⟩ :: proc.past, rest := next reply }, [], following)
      else none
  | .fork next => some ({ proc with rest := next false },
      [{ tag := none, past := [], rest := next true, halted := false, parent := some self }], state)
  | .pure _ | .fail _ | .exit =>
      if proc.halted then none
      else some ({ proc with halted := true }, [], machine.halt self state)

/-- One step of one process. -/
def step (pool : Pool machine Tag ε α) (self : Nat) : Option (Pool machine Tag ε α) := do
  let proc ← pool.procs[self]?
  let (proc, children, state) ← advance self pool.state proc
  some { state, procs := pool.procs.set self proc ++ children }

/-- Run a schedule. -/
def runs (pool : Pool machine Tag ε α) : List Nat → Option (Pool machine Tag ε α)
  | [] => some pool
  | self :: schedule => (pool.step self).bind (runs · schedule)

/-- The pools reached from a pool by steps that satisfy a condition. -/
inductive Reaches (allowed : Pool machine Tag ε α → Nat → Pool machine Tag ε α → Prop)
    (first : Pool machine Tag ε α) : Pool machine Tag ε α → Prop where
  | refl : Reaches allowed first first
  | step {pool next : Pool machine Tag ε α} {self : Nat} (before : Reaches allowed first pool)
      (taken : pool.step self = some next) (condition : allowed pool self next) :
      Reaches allowed first next

variable {allowed : Pool machine Tag ε α → Nat → Pool machine Tag ε α → Prop}

/-- An invariant of the start and of every allowed step holds in every reached pool. -/
theorem Reaches.invariant (holds : Pool machine Tag ε α → Prop)
    {first pool : Pool machine Tag ε α} (reached : Reaches allowed first pool)
    (start : holds first)
    (preserved : ∀ pool self next, holds pool → pool.step self = some next →
      allowed pool self next → holds next) : holds pool := by
  induction reached with
  | refl => exact start
  | step before taken condition ih => exact preserved _ _ _ ih taken condition

/-- The program has come to its end. -/
def Over : Program I ε α → Prop
  | .pure _ | .fail _ | .exit => True
  | .op _ _ | .fork _ => False

/-- The three ways a process takes a step. -/
inductive Advance (self : Nat) (state : machine.State) (proc : Proc machine Tag ε α) :
    Proc machine Tag ε α → List (Proc machine Tag ε α) → machine.State → Prop where
  | op (request : I.Op) (next : I.Reply request → Program I ε α)
      (rest : proc.rest = .op request next)
      (enabled : machine.enabled self state request = true) :
      Advance self state proc
        { proc with
          past := ⟨state, request, (machine.step self state request).1⟩ :: proc.past
          rest := next (machine.step self state request).1 }
        [] (machine.step self state request).2
  | fork (next : Bool → Program I ε α) (rest : proc.rest = .fork next) :
      Advance self state proc { proc with rest := next false }
        [{ tag := none, past := [], rest := next true, halted := false, parent := some self }] state
  | halt (finished : Over proc.rest) (running : proc.halted = false) :
      Advance self state proc { proc with halted := true } [] (machine.halt self state)

theorem advance_cases {self : Nat} {state last : machine.State}
    {proc after : Proc machine Tag ε α} {children : List (Proc machine Tag ε α)}
    (advanced : advance self state proc = some (after, children, last)) :
    Advance self state proc after children last := by
  unfold advance at advanced
  split at advanced
  next request next rest =>
      split at advanced
      next enabled =>
          obtain ⟨rfl, rfl, rfl⟩ : _ ∧ _ ∧ _ := by simpa using advanced
          exact .op request next rest enabled
      · contradiction
  next next rest =>
      obtain ⟨rfl, rfl, rfl⟩ : _ ∧ _ ∧ _ := by simpa using advanced
      exact .fork next rest
  all_goals
      next rest =>
        split at advanced
        next => contradiction
        next running =>
          obtain ⟨rfl, rfl, rfl⟩ : _ ∧ _ ∧ _ := by simpa using advanced
          exact .halt (by rw [rest]; trivial) (Bool.eq_false_iff.mpr running)

theorem step_cases {pool next : Pool machine Tag ε α} {self : Nat}
    (taken : pool.step self = some next) :
    ∃ proc after children, pool.procs[self]? = some proc ∧
      Advance self pool.state proc after children next.state ∧
      next.procs = pool.procs.set self after ++ children := by
  obtain ⟨proc, known, taken⟩ := Option.bind_eq_some_iff.mp taken
  obtain ⟨⟨after, children, state⟩, advanced, taken⟩ := Option.bind_eq_some_iff.mp taken
  obtain rfl := Option.some.inj taken
  exact ⟨proc, after, children, known, advance_cases advanced, rfl⟩

/-- A property of single processes that every step passes on to the process and to its
child holds of all processes. -/
theorem forall_procs_step {pool next : Pool machine Tag ε α} {self : Nat}
    {holds : Proc machine Tag ε α → Prop} (all : ∀ proc ∈ pool.procs, holds proc)
    (taken : pool.step self = some next)
    (preserved : ∀ proc after children, holds proc →
      Advance self pool.state proc after children next.state →
      holds after ∧ ∀ child ∈ children, holds child) :
    ∀ proc ∈ next.procs, holds proc := by
  obtain ⟨proc, after, children, known, advanced, procs⟩ := step_cases taken
  obtain ⟨afterHolds, childrenHold⟩ :=
    preserved proc after children (all proc (List.mem_of_getElem? known)) advanced
  intro other mem
  rw [procs] at mem
  rcases List.mem_append.mp mem with mem | mem
  · rcases List.mem_or_eq_of_mem_set mem with mem | rfl
    · exact all other mem
    · exact afterHolds
  · exact childrenHold other mem

end Pool

end Process
