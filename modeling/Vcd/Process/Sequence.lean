import Vcd.Process.Program

/-!
# Runs of programs in sequence

A run of a sequence is a run of its first part followed by a run of the rest, as long as
the children that the first part forks never come back.
-/

namespace Process

variable {I : Interface} {ε α β : Type} {machine : Machine I} {self : Nat} {contract : Contract I}

namespace Program

/-- A forked child never comes back to the rest of the program. -/
abbrev Contained (program : Program I ε α) : Prop :=
  program.Within (fun _ => True) fun _ => True

theorem Orphan.mono {kind wider : I.Op → Prop} {program : Program I ε α}
    (orphan : program.Orphan kind) (implies : ∀ request, kind request → wider request) :
    program.Orphan wider := by
  induction program with
  | pure value => exact orphan
  | fail fault => trivial
  | exit => trivial
  | op request next ih => exact ⟨implies _ orphan.1, fun reply => ih reply (orphan.2 reply)⟩
  | fork next ih => exact fun child => ih child (orphan child)

theorem Within.weaken {usual quiet wider looser : I.Op → Prop} {program : Program I ε α}
    (within : program.Within usual quiet) (implies : ∀ request, usual request → wider request)
    (forked : ∀ request, quiet request → looser request) : program.Within wider looser := by
  induction program with
  | pure value => trivial
  | fail fault => trivial
  | exit => trivial
  | op request next ih => exact ⟨implies _ within.1, fun reply => ih reply (within.2 reply)⟩
  | fork next ih => exact ⟨within.1.mono forked, ih false within.2⟩

theorem Within.contained {usual quiet : I.Op → Prop} {program : Program I ε α}
    (within : program.Within usual quiet) : program.Contained :=
  within.weaken (fun _ _ => trivial) fun _ _ => trivial

/-- What a program that never returns does is not changed by what would follow it. -/
theorem Orphan.run_bind {kind : I.Op → Prop} {program : Program I ε α}
    (orphan : program.Orphan kind) (rest : α → Program I ε β) (state : machine.State) :
    ((program >>= rest).run machine self state).state = (program.run machine self state).state ∧
      ((program >>= rest).run machine self state).trace =
        (program.run machine self state).trace := by
  induction program generalizing state with
  | pure value => exact orphan.elim
  | fail fault => exact ⟨rfl, rfl⟩
  | exit => exact ⟨rfl, rfl⟩
  | op request next ih =>
      obtain ⟨ends, trace⟩ := ih _ (orphan.2 (machine.step self state request).1)
        (machine.step self state request).2
      exact ⟨ends, congrArg ((state, request) :: ·) trace⟩
  | fork next ih =>
      obtain ⟨childEnds, childTrace⟩ := ih true (orphan true) state
      obtain ⟨ends, trace⟩ := ih false (orphan false)
        ((next true).run machine self state).state
      have same := childEnds
      change ((next true).bind rest |>.run machine self state).state = _ at same
      constructor
      · change ((next false).bind rest |>.run machine self
          ((next true).bind rest |>.run machine self state).state).state = _
        rw [same]
        exact ends
      · change ((next true).bind rest |>.run machine self state).trace ++
          ((next false).bind rest |>.run machine self
            ((next true).bind rest |>.run machine self state).state).trace = _
        rw [same]
        exact congrArg₂ (· ++ ·) childTrace trace

theorem Orphan.run_trace {kind : I.Op → Prop} {program : Program I ε α}
    (orphan : program.Orphan kind) (state : machine.State) :
    ∀ step ∈ (program.run machine self state).trace, kind step.2 := by
  induction program generalizing state with
  | pure value => exact orphan.elim
  | fail fault => exact fun _ => nofun
  | exit => exact fun _ => nofun
  | op request next ih =>
      intro step mem
      rcases List.mem_cons.mp mem with rfl | mem
      · exact orphan.1
      · exact ih _ (orphan.2 _) _ step mem
  | fork next ih =>
      intro step mem
      rcases List.mem_append.mp mem with mem | mem
      · exact ih true (orphan true) state step mem
      · exact ih false (orphan false) _ step mem

/-- A run performs only what the program and its children may perform. -/
theorem Within.run_trace {usual quiet : I.Op → Prop} {program : Program I ε α}
    (within : program.Within usual quiet) (state : machine.State) :
    ∀ step ∈ (program.run machine self state).trace, usual step.2 ∨ quiet step.2 := by
  induction program generalizing state with
  | pure value => exact fun _ => nofun
  | fail fault => exact fun _ => nofun
  | exit => exact fun _ => nofun
  | op request next ih =>
      intro step mem
      rcases List.mem_cons.mp mem with rfl | mem
      · exact .inl within.1
      · exact ih _ (within.2 _) _ step mem
  | fork next ih =>
      intro step mem
      rcases List.mem_append.mp mem with mem | mem
      · exact .inr (within.1.run_trace state step mem)
      · exact ih false within.2 _ step mem

/-- A run goes on with the rest from where its first part ended. -/
def Completed.andThen (first : Completed machine ε α) (rest : α → Program I ε β) (self : Nat) :
    Completed machine ε β :=
  match first.outcome with
  | .returned value =>
      let later := (rest value).run machine self first.state
      { later with trace := first.trace ++ later.trace }
  | .failed fault => ⟨.failed fault, first.state, first.trace⟩
  | .exited => ⟨.exited, first.state, first.trace⟩

theorem Contained.run_bind {program : Program I ε α} (contained : program.Contained)
    (rest : α → Program I ε β) (state : machine.State) :
    (program >>= rest).run machine self state =
      Completed.andThen (program.run machine self state) rest self := by
  induction program generalizing state with
  | pure value => rfl
  | fail fault => rfl
  | exit => rfl
  | op request next ih =>
      have later := ih _ (contained.2 (machine.step self state request).1)
        (machine.step self state request).2
      change Completed.mk _ _ _ = _
      rw [show ((next _).bind rest).run machine self _ = _ from later]
      unfold Completed.andThen
      change _ = match ((next _).run machine self _).outcome with
        | .returned _ => _ | .failed _ => _ | .exited => _
      cases ((next (machine.step self state request).1).run machine self
        (machine.step self state request).2).outcome <;> rfl
  | fork next ih =>
      have child : ((next true).bind rest |>.run machine self state).state =
            ((next true).run machine self state).state ∧
          ((next true).bind rest |>.run machine self state).trace =
            ((next true).run machine self state).trace := contained.1.run_bind rest state
      have parent := ih false contained.2 ((next true).run machine self state).state
      change Completed.mk _ _ _ = _
      rw [child.1, child.2, show ((next false).bind rest).run machine self _ = _ from parent]
      unfold Completed.andThen
      change _ = match ((next false).run machine self _).outcome with
        | .returned _ => _ | .failed _ => _ | .exited => _
      cases ((next false).run machine self
        ((next true).run machine self state).state).outcome with
      | returned value => exact congrArg (Completed.mk _ _) (List.append_assoc _ _ _).symm
      | failed fault => rfl
      | exited => rfl

/-- A sequence that returns has returned from its first part. -/
theorem Contained.returned_bind {program : Program I ε α} (contained : program.Contained)
    {rest : α → Program I ε β} {state : machine.State} {value : β}
    (returned : ((program >>= rest).run machine self state).outcome = .returned value) :
    ∃ middle, (program.run machine self state).outcome = .returned middle ∧
      ((rest middle).run machine self (program.run machine self state).state).outcome =
        .returned value := by
  rw [contained.run_bind] at returned
  unfold Completed.andThen at returned
  split at returned
  next middle first => exact ⟨middle, first, returned⟩
  next => cases returned
  next => cases returned

/-- A kept fault is a value. -/
def caught : Outcome ε α → Outcome ε (Except ε α)
  | .returned value => .returned (.ok value)
  | .failed fault => .returned (.error fault)
  | .exited => .exited

/-- Keeping the fault of a program changes nothing else about its run. -/
theorem Contained.run_attempt {program : Program I ε α} (contained : program.Contained)
    (state : machine.State) :
    program.attempt.run machine self state =
      ⟨caught (program.run machine self state).outcome, (program.run machine self state).state,
        (program.run machine self state).trace⟩ := by
  induction program generalizing state with
  | pure value => rfl
  | fail fault => rfl
  | exit => rfl
  | op request next ih =>
      have later := ih _ (contained.2 (machine.step self state request).1)
        (machine.step self state request).2
      change Completed.mk _ _ _ = _
      rw [later]
      rfl
  | fork next ih =>
      obtain ⟨ends, trace⟩ := @Orphan.run_bind I ε α (Except ε α) machine self _ _ contained.1
        (fun value => .pure (.ok value)) state
      have parent := ih false contained.2 ((next true).run machine self state).state
      have whole : (Program.fork next).attempt.run machine self state =
          ⟨((next false).attempt.run machine self (((next true) >>= fun value =>
              .pure (.ok value) : Program I ε (Except ε α)).run machine self state).state).outcome,
            ((next false).attempt.run machine self (((next true) >>= fun value =>
              .pure (.ok value) : Program I ε (Except ε α)).run machine self state).state).state,
            (((next true) >>= fun value =>
              .pure (.ok value) : Program I ε (Except ε α)).run machine self state).trace ++
            ((next false).attempt.run machine self (((next true) >>= fun value =>
              .pure (.ok value) : Program I ε (Except ε α)).run machine self state).state).trace⟩ :=
        rfl
      rw [whole, ends, trace, parent]
      rfl

/-! ## Values -/

/-- Every value the program may return has a property. -/
def Yields (holds : α → Prop) : Program I ε α → Prop
  | .pure value => holds value
  | .fail _ | .exit => True
  | .op _ next => ∀ reply, (next reply).Yields holds
  | .fork next => (next false).Yields holds

theorem Yields.bind {holds : β → Prop} (program : Program I ε α) {rest : α → Program I ε β}
    (later : ∀ value, (rest value).Yields holds) : (program >>= rest).Yields holds := by
  induction program with
  | pure value => exact later value
  | fail fault => trivial
  | exit => trivial
  | op request next ih => exact fun reply => ih reply
  | fork next ih => exact ih false

theorem Yields.returned {holds : α → Prop} {program : Program I ε α}
    (yields : program.Yields holds) {state : machine.State} {value : α}
    (returned : (program.run machine self state).outcome = .returned value) : holds value := by
  induction program generalizing state with
  | pure known =>
      cases returned
      exact yields
  | fail fault => cases returned
  | exit => cases returned
  | op request next ih => exact ih _ (yields _) returned
  | fork next ih => exact ih false yields returned

/-! ## What a run leaves alone -/

section Unchanged

variable {holds : machine.State → Prop} {usual quiet : I.Op → Prop} {state : machine.State}

theorem Orphan.run_keeps {program : Program I ε α} (orphan : program.Orphan quiet)
    (kept : ∀ state request, quiet request → holds state → holds (machine.step self state request).2)
    (start : holds state) : holds (program.run machine self state).state := by
  induction program generalizing state with
  | pure value => exact start
  | fail fault => exact start
  | exit => exact start
  | op request next ih => exact ih _ (orphan.2 _) (kept state request orphan.1 start)
  | fork next ih => exact ih false (orphan false) (ih true (orphan true) start)

/-- What all operations of a program and its children leave alone is left alone by its runs. -/
theorem Within.run_keeps {program : Program I ε α} (within : program.Within usual quiet)
    (kept : ∀ state request, usual request ∨ quiet request → holds state →
      holds (machine.step self state request).2)
    (start : holds state) : holds (program.run machine self state).state := by
  induction program generalizing state with
  | pure value => exact start
  | fail fault => exact start
  | exit => exact start
  | op request next ih => exact ih _ (within.2 _) (kept state request (.inl within.1) start)
  | fork next ih =>
      exact ih false within.2 (within.1.run_keeps
        (fun state request quiet => kept state request (.inr quiet)) start)

end Unchanged

end Program

end Process
