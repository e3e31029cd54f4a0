import Vcd.Process.Sequence

/-!
# Ghost states along a run

Where quiet operations leave the ghost state of a contract alone, it can be read off the
trace of a run, in which the operations of forked children stand between those of the program.
-/

namespace Process

variable {I : Interface} {ε α β : Type} {machine : Machine I} {self : Nat} {contract : Contract I}

namespace Contract

/-- The ghost state after the operations of a trace. -/
def follow (contract : Contract I) (self : Nat) (ghost : contract.Ghost)
    (trace : List (machine.State × I.Op)) : contract.Ghost :=
  trace.foldl (fun ghost step =>
    contract.next ghost step.2 (machine.step self step.1 step.2).1) ghost

/-- Every operation of the trace is promised in the ghost state it is performed in, or quiet. -/
def Kept (contract : Contract I) (self : Nat) :
    contract.Ghost → List (machine.State × I.Op) → Prop
  | _, [] => True
  | ghost, step :: trace => (contract.promise ghost step.2 ∨ contract.quiet step.2) ∧
      contract.Kept self (contract.next ghost step.2 (machine.step self step.1 step.2).1) trace

variable {ghost : contract.Ghost} {left right : List (machine.State × I.Op)}

theorem follow_append : contract.follow self ghost (left ++ right) =
    contract.follow self (contract.follow self ghost left) right :=
  List.foldl_append

theorem kept_append : contract.Kept self ghost (left ++ right) ↔
    contract.Kept self ghost left ∧
      contract.Kept self (contract.follow self ghost left) right := by
  induction left generalizing ghost with
  | nil => exact (and_iff_right trivial).symm
  | cons step left ih =>
      simp only [List.cons_append, Kept, ih, and_assoc]
      rfl

/-- Quiet operations leave the ghost state alone. -/
def Still (contract : Contract I) : Prop :=
  ∀ ghost request reply, contract.quiet request → contract.next ghost request reply = ghost

end Contract

namespace Program

theorem Within.kept {usual : I.Op → Prop} {program : Program I ε α} {ghost : contract.Ghost}
    (within : program.Within usual contract.quiet)
    (promised : ∀ request, usual request → contract.promise ghost request)
    (still : ∀ request reply, usual request → contract.next ghost request reply = ghost) :
    program.Meets contract ghost fun after _ => after = ghost := by
  induction program with
  | pure value => rfl
  | fail fault => rfl
  | exit => trivial
  | op request next ih =>
      refine ⟨promised request within.1, fun reply => ?_⟩
      rw [still request reply within.1]
      exact ih reply (within.2 reply)
  | fork next ih => exact ⟨within.1, ih false within.2⟩

variable {state : machine.State}

theorem Orphan.follow (still : contract.Still) {program : Program I ε α}
    (orphan : program.Orphan contract.quiet) (ghost : contract.Ghost) :
    contract.Kept self ghost (program.run machine self state).trace ∧
      contract.follow self ghost (program.run machine self state).trace = ghost := by
  induction program generalizing state with
  | pure value => exact orphan.elim
  | fail fault => exact ⟨trivial, rfl⟩
  | exit => exact ⟨trivial, rfl⟩
  | op request next ih =>
      obtain ⟨kept, same⟩ := @ih (machine.step self state request).1
        (machine.step self state request).2 (orphan.2 _)
      have stays := still ghost request (machine.step self state request).1 orphan.1
      constructor
      · refine ⟨.inr orphan.1, ?_⟩
        rw [stays]
        exact kept
      · change contract.follow self (contract.next ghost request _) _ = ghost
        rw [stays]
        exact same
  | fork next ih =>
      obtain ⟨childKept, childSame⟩ := @ih true state (orphan true)
      obtain ⟨kept, same⟩ := @ih false ((next true).run machine self state).state (orphan false)
      constructor
      · refine Contract.kept_append.mpr ⟨childKept, ?_⟩
        rw [childSame]
        exact kept
      · refine Contract.follow_append.trans ?_
        rw [childSame]
        exact same

/-- A program that meets a contract keeps it along its run, and ends where its ghost state does. -/
theorem Meets.follow (still : contract.Still) {program : Program I ε α}
    {ghost : contract.Ghost} {post : contract.Ghost → Except ε α → Prop}
    (meets : program.Meets contract ghost post) :
    contract.Kept self ghost (program.run machine self state).trace ∧
      Ends post (contract.follow self ghost (program.run machine self state).trace)
        (program.run machine self state).outcome := by
  induction program generalizing ghost state with
  | pure value => exact ⟨trivial, meets⟩
  | fail fault => exact ⟨trivial, meets⟩
  | exit => exact ⟨trivial, trivial⟩
  | op request next ih =>
      obtain ⟨kept, ended⟩ := ih (machine.step self state request).1
        (meets.2 (machine.step self state request).1)
      exact ⟨⟨.inl meets.1, kept⟩, ended⟩
  | fork next ih =>
      obtain ⟨childKept, childSame⟩ := @Orphan.follow _ _ _ machine self _ state still _ meets.1 ghost
      obtain ⟨kept, ended⟩ := ih false meets.2
      constructor
      · refine Contract.kept_append.mpr ⟨childKept, ?_⟩
        rw [childSame]
        exact kept
      · change Ends post (contract.follow self ghost (_ ++ _)) _
        rw [Contract.follow_append, childSame]
        exact ended

end Program

end Process
