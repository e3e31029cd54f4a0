import Mathlib.Logic.Basic

/-!
# Programs that perform operations

A program is a tree: at each node it ends, forks, or performs an operation and continues
with the reply. What a program does is judged against a contract, an automaton over
operations and replies; the rules for contracts follow the structure of programs.
-/

namespace Process

/-- Operations and the type of reply to each. -/
structure Interface where
  Op : Type
  Reply : Op → Type

variable {I : Interface} {ε α β : Type}

/-- A program either returns, fails, exits the process, performs an operation, or forks;
after a fork the child continues with `true` and the parent with `false`. -/
inductive Program (I : Interface) (ε α : Type) where
  | pure (value : α)
  | fail (fault : ε)
  | exit
  | op (request : I.Op) (next : I.Reply request → Program I ε α)
  | fork (next : Bool → Program I ε α)

namespace Program

def bind : Program I ε α → (α → Program I ε β) → Program I ε β
  | .pure value, rest => rest value
  | .fail fault, _ => .fail fault
  | .exit, _ => .exit
  | .op request next, rest => .op request fun reply => (next reply).bind rest
  | .fork next, rest => .fork fun child => (next child).bind rest

instance : Monad (Program I ε) where
  pure := .pure
  bind := .bind

theorem pure_bind (value : α) (rest : α → Program I ε β) :
    (Program.pure value : Program I ε α).bind rest = rest value := rfl

theorem bind_pure (program : Program I ε α) : program.bind .pure = program := by
  induction program with
  | pure value => rfl
  | fail fault => rfl
  | exit => rfl
  | op request next ih => simp only [bind, ih]
  | fork next ih => simp only [bind, ih]

theorem bind_assoc {γ : Type} (program : Program I ε α) (first : α → Program I ε β)
    (second : β → Program I ε γ) :
    (program.bind first).bind second = program.bind fun value => (first value).bind second := by
  induction program with
  | pure value => rfl
  | fail fault => rfl
  | exit => rfl
  | op request next ih => simp only [bind, ih]
  | fork next ih => simp only [bind, ih]

instance : LawfulMonad (Program I ε) := LawfulMonad.mk' _ bind_pure (fun _ _ => rfl) bind_assoc

/-- Perform one operation. -/
def perform (request : I.Op) : Program I ε (I.Reply request) :=
  .op request .pure

/-- Fork a child, which never returns into the rest of the program. -/
def spawn (child : Program I ε Empty) : Program I ε Unit :=
  .fork fun
    | true => child.bind nofun
    | false => .pure ()

/-- Run a program and keep its fault as a value. A forked child never comes back to the
place where the fault is kept. -/
def attempt : Program I ε α → Program I ε (Except ε α)
  | .pure value => .pure (.ok value)
  | .fail fault => .pure (.error fault)
  | .exit => .exit
  | .op request next => .op request fun reply => (next reply).attempt
  | .fork next => .fork fun
    | true => (next true).bind fun value => .pure (.ok value)
    | false => (next false).attempt

/-- Every operation of the program is of a certain kind, and it does not return. -/
def Orphan (kind : I.Op → Prop) : Program I ε α → Prop
  | .pure _ => False
  | .fail _ | .exit => True
  | .op request next => kind request ∧ ∀ reply, (next reply).Orphan kind
  | .fork next => ∀ child, (next child).Orphan kind

theorem Orphan.bind {kind : I.Op → Prop} {program : Program I ε α} (orphan : program.Orphan kind)
    (rest : α → Program I ε β) : (program >>= rest).Orphan kind := by
  induction program with
  | pure value => exact orphan.elim
  | fail fault => trivial
  | exit => trivial
  | op request next ih => exact ⟨orphan.1, fun reply => ih reply (orphan.2 reply)⟩
  | fork next ih => exact fun child => ih child (orphan child)

/-- Whatever the replies, the program performs `usual` operations only, and a child it
forks performs `quiet` ones and never comes back. -/
def Within (usual quiet : I.Op → Prop) : Program I ε α → Prop
  | .pure _ | .fail _ | .exit => True
  | .op request next => usual request ∧ ∀ reply, (next reply).Within usual quiet
  | .fork next => (next true).Orphan quiet ∧ (next false).Within usual quiet

section Within

variable {usual quiet : I.Op → Prop}

theorem Within.bind {program : Program I ε α} {rest : α → Program I ε β}
    (first : program.Within usual quiet) (later : ∀ value, (rest value).Within usual quiet) :
    (program >>= rest).Within usual quiet := by
  induction program with
  | pure value => exact later value
  | fail fault => trivial
  | exit => trivial
  | op request next ih => exact ⟨first.1, fun reply => ih reply (first.2 reply)⟩
  | fork next ih => exact ⟨first.1.bind rest, ih false first.2⟩

theorem Within.mono {program : Program I ε α} {wider : I.Op → Prop}
    (within : program.Within usual quiet)
    (implies : ∀ request, usual request → wider request) : program.Within wider quiet := by
  induction program with
  | pure value => trivial
  | fail fault => trivial
  | exit => trivial
  | op request next ih => exact ⟨implies _ within.1, fun reply => ih reply (within.2 reply)⟩
  | fork next ih => exact ⟨within.1, ih false within.2⟩

theorem Within.attempt {program : Program I ε α} (within : program.Within usual quiet) :
    program.attempt.Within usual quiet := by
  induction program with
  | pure value => trivial
  | fail fault => trivial
  | exit => trivial
  | op request next ih => exact ⟨within.1, fun reply => ih reply (within.2 reply)⟩
  | fork next ih => exact ⟨within.1.bind _, ih false within.2⟩

theorem Within.perform {request : I.Op} (permitted : usual request) :
    (Program.perform request : Program I ε _).Within usual quiet :=
  ⟨permitted, fun _ => trivial⟩

/-- A program without a value to return is one that never comes back. -/
theorem Within.orphan {child : Program I ε Empty} (within : child.Within quiet quiet) :
    child.Orphan quiet := by
  induction child with
  | pure value => exact value.elim
  | fail fault => trivial
  | exit => trivial
  | op request next ih => exact ⟨within.1, fun reply => ih reply (within.2 reply)⟩
  | fork next ih =>
      intro child
      cases child with
      | true => exact within.1
      | false => exact ih false within.2

theorem Within.spawn {child : Program I ε Empty} (within : child.Within quiet quiet) :
    (Program.spawn child).Within usual quiet :=
  ⟨within.orphan.bind nofun, trivial⟩

theorem Within.forM {γ : Type} {body : γ → Program I ε PUnit}
    (each : ∀ item, (body item).Within usual quiet) (items : List γ) :
    (items.forM body).Within usual quiet := by
  induction items with
  | nil => trivial
  | cons item items ih => exact (each item).bind fun _ => ih

end Within

end Program

/-! ## Contracts -/

/-- What a program promises. The ghost state records the history of the program; the
`quiet` operations are those a forked child may perform. -/
structure Contract (I : Interface) where
  Ghost : Type
  promise : Ghost → I.Op → Prop
  next : Ghost → (request : I.Op) → I.Reply request → Ghost
  quiet : I.Op → Prop

namespace Program

variable {contract : Contract I}

/-- From a ghost state, the program keeps the contract and ends in `post`. -/
def Meets (contract : Contract I) : Program I ε α → contract.Ghost →
    (contract.Ghost → Except ε α → Prop) → Prop
  | .pure value, ghost, post => post ghost (.ok value)
  | .fail fault, ghost, post => post ghost (.error fault)
  | .exit, _, _ => True
  | .op request next, ghost, post => contract.promise ghost request ∧
      ∀ reply, (next reply).Meets contract (contract.next ghost request reply) post
  | .fork next, ghost, post =>
      (next true).Orphan contract.quiet ∧ (next false).Meets contract ghost post

variable {ghost : contract.Ghost} {post : contract.Ghost → Except ε α → Prop}

theorem Meets.mono {program : Program I ε α} {weaker : contract.Ghost → Except ε α → Prop}
    (meets : program.Meets contract ghost post)
    (implies : ∀ ghost outcome, post ghost outcome → weaker ghost outcome) :
    program.Meets contract ghost weaker := by
  induction program generalizing ghost with
  | pure value => exact implies _ _ meets
  | fail fault => exact implies _ _ meets
  | exit => trivial
  | op request next ih => exact ⟨meets.1, fun reply => ih reply (meets.2 reply)⟩
  | fork next ih => exact ⟨meets.1, ih false meets.2⟩

/-- The postcondition of the first half of a sequence. -/
def After (contract : Contract I) (rest : α → Program I ε β)
    (post : contract.Ghost → Except ε β → Prop) (ghost : contract.Ghost) :
    Except ε α → Prop
  | .ok value => (rest value).Meets contract ghost post
  | .error fault => post ghost (.error fault)

theorem meets_bind {program : Program I ε α} {rest : α → Program I ε β}
    {post : contract.Ghost → Except ε β → Prop}
    (meets : program.Meets contract ghost (After contract rest post)) :
    (program >>= rest).Meets contract ghost post := by
  induction program generalizing ghost with
  | pure value => exact meets
  | fail fault => exact meets
  | exit => trivial
  | op request next ih => exact ⟨meets.1, fun reply => ih reply (meets.2 reply)⟩
  | fork next ih => exact ⟨meets.1.bind rest, ih false meets.2⟩

/-- The postcondition with a part for each way to end. -/
def Either {Ghost : Type} (returned : Ghost → α → Prop) (failed : Ghost → ε → Prop)
    (ghost : Ghost) : Except ε α → Prop
  | .ok value => returned ghost value
  | .error fault => failed ghost fault

/-- Sequence by an intermediate condition: a fault of the first half ends in `post`. -/
theorem meets_seq {program : Program I ε α} {rest : α → Program I ε β}
    (middle : contract.Ghost → α → Prop) {post : contract.Ghost → Except ε β → Prop}
    (first : program.Meets contract ghost
      (Either middle fun ghost fault => post ghost (.error fault)))
    (later : ∀ ghost value, middle ghost value → (rest value).Meets contract ghost post) :
    (program >>= rest).Meets contract ghost post :=
  meets_bind (first.mono fun ghost outcome reached => by
    cases outcome with
    | ok value => exact later ghost value reached
    | error fault => exact reached)

theorem meets_attempt {program : Program I ε α}
    {post : contract.Ghost → Except ε (Except ε α) → Prop}
    (meets : program.Meets contract ghost fun ghost outcome => post ghost (.ok outcome)) :
    program.attempt.Meets contract ghost post := by
  induction program generalizing ghost with
  | pure value => exact meets
  | fail fault => exact meets
  | exit => trivial
  | op request next ih => exact ⟨meets.1, fun reply => ih reply (meets.2 reply)⟩
  | fork next ih => exact ⟨meets.1.bind _, ih false meets.2⟩

end Program

/-! ## One process at a time -/

/-- How the operations of the processes act on a shared state. An operation that is not
enabled blocks its process; `halt` is what the end of a process does. All outside
nondeterminism is part of the state. -/
structure Machine (I : Interface) where
  State : Type
  enabled : Nat → State → I.Op → Bool
  step : Nat → State → (request : I.Op) → I.Reply request × State
  halt : Nat → State → State

/-- How a program ends. -/
inductive Outcome (ε α : Type) where
  | returned (value : α)
  | failed (fault : ε)
  | exited

/-- A completed run: its outcome, its last state, and the operations it performed, each
with the state it was performed in. -/
structure Completed (machine : Machine I) (ε α : Type) where
  outcome : Outcome ε α
  state : machine.State
  trace : List (machine.State × I.Op)

namespace Program

/-- Run a program alone, as one process. A forked child runs to its end first. -/
def run (machine : Machine I) (self : Nat) :
    Program I ε α → machine.State → Completed machine ε α
  | .pure value, state => ⟨.returned value, state, []⟩
  | .fail fault, state => ⟨.failed fault, state, []⟩
  | .exit, state => ⟨.exited, state, []⟩
  | .op request next, state =>
      let (reply, following) := machine.step self state request
      let rest := (next reply).run machine self following
      { rest with trace := (state, request) :: rest.trace }
  | .fork next, state =>
      let child := (next true).run machine self state
      let parent := (next false).run machine self child.state
      { parent with trace := child.trace ++ parent.trace }

variable {machine : Machine I} {self : Nat} {contract : Contract I}

/-- Changing the result of a program changes nothing else about its run. -/
theorem run_bind_pure (program : Program I ε α) (convert : α → β) (state : machine.State) :
    (program >>= fun value => Pure.pure (convert value)).run machine self state =
      let completed := program.run machine self state
      { outcome := match completed.outcome with
          | .returned value => .returned (convert value)
          | .failed fault => .failed fault
          | .exited => .exited
        state := completed.state, trace := completed.trace } := by
  induction program generalizing state with
  | pure value => rfl
  | fail fault => rfl
  | exit => rfl
  | op request next ih =>
      have later := ih (machine.step self state request).1 (machine.step self state request).2
      change Completed.mk _ _ _ = _
      rw [show ((next _).bind _).run machine self _ = _ from later]
      rfl
  | fork next ih =>
      have child := ih true state
      have parent := ih false ((next true).run machine self state).state
      change Completed.mk _ _ _ = _
      rw [show ((next true).bind _).run machine self _ = _ from child,
        show ((next false).bind _).run machine self _ = _ from parent]
      rfl

/-- An operation of a run is promised from a ghost state that matches the state it is
performed in, or it is a quiet one. -/
def Promised (contract : Contract I) (matching : contract.Ghost → machine.State → Prop)
    (step : machine.State × I.Op) : Prop :=
  ∃ ghost, matching ghost step.1 ∧ (contract.promise ghost step.2 ∨ contract.quiet step.2)

theorem run_orphan {matching : contract.Ghost → machine.State → Prop}
    (quiet : ∀ ghost state request, matching ghost state → contract.quiet request →
      matching ghost (machine.step self state request).2)
    {program : Program I ε α} (orphan : program.Orphan contract.quiet)
    {ghost : contract.Ghost} {state : machine.State} (start : matching ghost state) :
    matching ghost (program.run machine self state).state ∧
      ∀ step ∈ (program.run machine self state).trace, Promised contract matching step := by
  induction program generalizing state with
  | pure value => exact orphan.elim
  | fail fault => exact ⟨start, by simp [run]⟩
  | exit => exact ⟨start, by simp [run]⟩
  | op request next ih =>
      obtain ⟨ends, rest⟩ := ih _ (orphan.2 (machine.step self state request).1)
        (quiet ghost state request start orphan.1)
      refine ⟨ends, fun step mem => ?_⟩
      rcases List.mem_cons.mp mem with rfl | mem
      · exact ⟨ghost, start, .inr orphan.1⟩
      · exact rest step mem
  | fork next ih =>
      obtain ⟨childEnds, childTrace⟩ := ih true (orphan true) start
      obtain ⟨ends, parentTrace⟩ := ih false (orphan false) childEnds
      refine ⟨ends, fun step mem => ?_⟩
      rcases List.mem_append.mp mem with mem | mem
      · exact childTrace step mem
      · exact parentTrace step mem

/-- The ghost state at the end of a run meets the postcondition. -/
def Ends (post : contract.Ghost → Except ε α → Prop) (ghost : contract.Ghost) :
    Outcome ε α → Prop
  | .returned value => post ghost (.ok value)
  | .failed fault => post ghost (.error fault)
  | .exited => True

/-- A program that meets a contract, run on a machine that respects it, ends in a state
that matches some ghost state of its postcondition. -/
theorem run_meets {matching : contract.Ghost → machine.State → Prop}
    (respects : ∀ ghost state request, matching ghost state → contract.promise ghost request →
      matching (contract.next ghost request (machine.step self state request).1)
        (machine.step self state request).2)
    (quiet : ∀ ghost state request, matching ghost state → contract.quiet request →
      matching ghost (machine.step self state request).2)
    {program : Program I ε α} {post : contract.Ghost → Except ε α → Prop}
    {ghost : contract.Ghost} (meets : program.Meets contract ghost post)
    {state : machine.State} (start : matching ghost state) :
    (∃ last, matching last (program.run machine self state).state ∧
      Ends post last (program.run machine self state).outcome) ∧
      ∀ step ∈ (program.run machine self state).trace, Promised contract matching step := by
  induction program generalizing ghost state with
  | pure value => exact ⟨⟨ghost, start, meets⟩, by simp [run]⟩
  | fail fault => exact ⟨⟨ghost, start, meets⟩, by simp [run]⟩
  | exit => exact ⟨⟨ghost, start, trivial⟩, by simp [run]⟩
  | op request next ih =>
      obtain ⟨ends, rest⟩ := ih _ (meets.2 (machine.step self state request).1)
        (respects ghost state request start meets.1)
      refine ⟨ends, fun step mem => ?_⟩
      rcases List.mem_cons.mp mem with rfl | mem
      · exact ⟨ghost, start, .inl meets.1⟩
      · exact rest step mem
  | fork next ih =>
      obtain ⟨childEnds, childTrace⟩ := run_orphan quiet meets.1 start
      obtain ⟨ends, parentTrace⟩ := ih false meets.2 childEnds
      refine ⟨ends, fun step mem => ?_⟩
      rcases List.mem_append.mp mem with mem | mem
      · exact childTrace step mem
      · exact parentTrace step mem

end Program

end Process
