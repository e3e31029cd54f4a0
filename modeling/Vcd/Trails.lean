import Vcd.Endings
import Vcd.Process.Forks

/-!
# What a run performs

The operations that a program performs when it runs alone, put together from those of its
parts.
-/

namespace Vcd

open Sql Process

variable {α β : Type} {self process : Nat} {world middle last : World}

/-- The rest of a sequence runs where its first part returned. -/
theorem run_bind_returned {program : Method α} (contained : Program.Contained program)
    {value : α} (returned : (program.run machine self world).outcome = .returned value)
    (rest : α → Method β) :
    (program >>= rest).run machine self world =
      ⟨((rest value).run machine self (program.run machine self world).state).outcome,
        ((rest value).run machine self (program.run machine self world).state).state,
        (program.run machine self world).trace ++
          ((rest value).run machine self (program.run machine self world).state).trace⟩ := by
  rw [@Program.Contained.run_bind daemon Fault α β machine self program contained rest world]
  unfold Program.Completed.andThen
  rw [returned]

theorem run_bind_failed {program : Method α} (contained : Program.Contained program)
    {fault : Fault} (failed : (program.run machine self world).outcome = .failed fault)
    (rest : α → Method β) :
    ((program >>= rest).run machine self world).outcome = .failed fault := by
  rw [@Program.Contained.run_bind daemon Fault α β machine self program contained rest world]
  unfold Program.Completed.andThen
  rw [failed]

/-- The rest of a sequence performs nothing where its first part did not return. -/
theorem trace_bind_stopped {program : Method α} (contained : Program.Contained program)
    (stopped : ∀ value, (program.run machine self world).outcome ≠ .returned value)
    (rest : α → Method β) :
    ((program >>= rest).run machine self world).trace =
      (program.run machine self world).trace := by
  rw [@Program.Contained.run_bind daemon Fault α β machine self program contained rest world]
  unfold Program.Completed.andThen
  split
  next value returned => exact absurd returned (stopped value)
  next => rfl
  next => rfl

/-- An operation of a sequence belongs to its first part, or to the rest after that returned. -/
theorem mem_trace_bind {program : Method α} (contained : Program.Contained program)
    {rest : α → Method β} {step : World × Op}
    (mem : step ∈ ((program >>= rest).run machine self world).trace) :
    step ∈ (program.run machine self world).trace ∨
      ∃ value, (program.run machine self world).outcome = .returned value ∧
        step ∈ ((rest value).run machine self (program.run machine self world).state).trace := by
  cases ended : (program.run machine self world).outcome with
  | returned value =>
      rw [run_bind_returned contained ended rest] at mem
      exact (List.mem_append.mp mem).imp_right fun later => ⟨value, rfl, later⟩
  | failed fault =>
      rw [trace_bind_stopped contained (by simp [ended]) rest] at mem
      exact .inl mem
  | exited =>
      rw [trace_bind_stopped contained (by simp [ended]) rest] at mem
      exact .inl mem

theorem run_sys (call : Sys) (rest : Answer → Method β) (world : World) :
    (sys call >>= rest).run machine self world =
      ⟨((rest (world.kernel world.clock call)).run machine self
          { world with clock := world.clock + 1 }).outcome,
        ((rest (world.kernel world.clock call)).run machine self
          { world with clock := world.clock + 1 }).state,
        (world, .sys call) :: ((rest (world.kernel world.clock call)).run machine self
          { world with clock := world.clock + 1 }).trace⟩ :=
  rfl

theorem run_prepare {α : Type} (sql : List Piece) (rest : Option (List Row) → Method α)
    (process : Nat) (world : World) :
    (vxdbPrepare sql >>= rest).run machine process world =
      ⟨((rest (prepareText world.db (render sql))).run machine process world).outcome,
        ((rest (prepareText world.db (render sql))).run machine process world).state,
        (world, .prepare (render sql)) ::
          ((rest (prepareText world.db (render sql))).run machine process world).trace⟩ :=
  rfl

/-- Run alone, the program performs these operations, returns the value and ends in the last
world. -/
structure Passes (process : Nat) (program : Method α) (world : World) (ops : List Op) (value : α)
    (last : World) : Prop where
  outcome : (program.run machine process world).outcome = .returned value
  state : (program.run machine process world).state = last
  trail : (program.run machine process world).trace.map Prod.snd = ops

namespace Passes

variable {ops more : List Op} {program : Method α} {rest : α → Method β} {value : α}
  {answer : β}

theorem pure (value : α) (world : World) : Passes process (Pure.pure value) world [] value world :=
  ⟨rfl, rfl, rfl⟩

theorem bind (first : Passes process program world ops value middle)
    (contained : Program.Contained program)
    (later : Passes process (rest value) middle more answer last) :
    Passes process (program >>= rest) world (ops ++ more) answer last := by
  have ran := run_bind_returned contained first.outcome rest
  rw [first.state] at ran
  refine ⟨?_, ?_, ?_⟩
  · rw [ran]
    exact later.outcome
  · rw [ran]
    exact later.state
  · rw [ran, List.map_append, first.trail, later.trail]

theorem sys (call : Sys) {rest : Answer → Method β}
    (later : Passes process (rest (world.kernel world.clock call))
      { world with clock := world.clock + 1 } more answer last) :
    Passes process (Vcd.sys call >>= rest) world (.sys call :: more) answer last :=
  ⟨later.outcome, later.state, congrArg (Op.sys call :: ·) later.trail⟩

theorem prepare (sql : List Piece) {rest : Option (List Row) → Method β}
    (later : Passes process (rest (prepareText world.db (render sql))) world more answer last) :
    Passes process (vxdbPrepare sql >>= rest) world (.prepare (render sql) :: more) answer last :=
  ⟨later.outcome, later.state, congrArg (Op.prepare (render sql) :: ·) later.trail⟩

/-- A check that is passed. -/
theorem check {condition : Prop} [Decidable condition] {fault : Fault} {other : α → Method β}
    {rest : Method β} (passed : ¬ condition)
    (later : Passes process rest world ops answer last) :
    Passes process (if condition then Program.fail fault >>= other else rest) world ops answer
      last := by
  rwa [if_neg passed]

/-- A call that must not fail, and does not. -/
theorem call {function message : Str} {call : Sys} {rest : Unit → Method β}
    (succeeds : (world.kernel world.clock call).rc ≠ -1)
    (later : Passes process (rest ()) { world with clock := world.clock + 1 } more answer last) :
    Passes process (sysOrFault function message call >>= rest) world (.sys call :: more) answer
      last := by
  have called : Passes process (sysOrFault function message call) world [.sys call] ()
      { world with clock := world.clock + 1 } := by
    refine Passes.sys call ?_
    rw [if_neg succeeds]
    exact .pure () _
  exact called.bind (within_sysOrFault trivial) later

/-- The child runs first. -/
theorem spawn {child : Method Empty} {forked : List Op} {rest : Unit → Method β}
    (state : (child.run machine process world).state = middle)
    (trail : (child.run machine process world).trace.map Prod.snd = forked)
    (later : Passes process (rest ()) middle more answer last) :
    Passes process (Program.spawn child >>= rest) world (forked ++ more) answer last := by
  have ran := @Program.run_spawn daemon Fault β machine process child rest world
  rw [state] at ran
  refine ⟨?_, ?_, ?_⟩
  · rw [ran]
    exact later.outcome
  · rw [ran]
    exact later.state
  · rw [ran, List.map_append, trail, later.trail]

end Passes

end Vcd
