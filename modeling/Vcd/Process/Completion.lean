import Mathlib.Logic.Hydra
import Vcd.Process.Moments

/-!
# Runs come to an end

Every step leaves a process with a smaller program, and a fork adds a child that is smaller
too. So no schedule goes on forever, and a pool in which no process can take a step has only
processes that ended or wait.
-/

namespace Process

variable {I : Interface} {ε α Tag : Type} {machine : Machine I}

/-! ## What is left of a program -/

/-- The program that is left after a step of a program. -/
inductive Program.Rest : Program I ε α → Program I ε α → Prop where
  | op {request : I.Op} (next : I.Reply request → Program I ε α) (reply : I.Reply request) :
      Rest (next reply) (.op request next)
  | fork (next : Bool → Program I ε α) (child : Bool) : Rest (next child) (.fork next)

theorem Program.rest_wellFounded : WellFounded (Program.Rest : Program I ε α → _ → Prop) := by
  refine ⟨fun program => ?_⟩
  induction program with
  | pure value => exact ⟨_, fun _ rest => by cases rest⟩
  | fail fault => exact ⟨_, fun _ rest => by cases rest⟩
  | exit => exact ⟨_, fun _ rest => by cases rest⟩
  | op request next ih =>
      refine ⟨_, fun _ rest => ?_⟩
      cases rest with
      | op _ reply => exact ih reply
  | fork next ih =>
      refine ⟨_, fun _ rest => ?_⟩
      cases rest with
      | fork _ child => exact ih child

/-- What a process has left to do: its program, and to halt. -/
def Proc.left (proc : Proc machine Tag ε α) : Program I ε α × Bool :=
  (proc.rest, proc.halted)

/-- Less is left: of the program, or nothing but the end. -/
abbrev Less : Program I ε α × Bool → Program I ε α × Bool → Prop :=
  Prod.Lex Program.Rest fun after before => after = true ∧ before = false

theorem less_wellFounded : WellFounded (Less : Program I ε α × Bool → _ → Prop) := by
  refine Program.rest_wellFounded.prod_lex ⟨fun halted => ?_⟩
  have finished : Acc (fun after before : Bool => after = true ∧ before = false) true :=
    ⟨_, fun _ less => by cases less.2⟩
  cases halted with
  | true => exact finished
  | false =>
      refine ⟨_, fun after less => ?_⟩
      rw [less.1]
      exact finished

namespace Pool

variable {pool next : Pool machine Tag ε α} {self : Nat}

/-- Every process that a step makes of one has less left. -/
theorem Advance.less {state last : machine.State} {proc after : Proc machine Tag ε α}
    {children : List (Proc machine Tag ε α)}
    (advanced : Advance self state proc after children last) :
    ∀ made ∈ after :: children, Less made.left proc.left := by
  unfold Proc.left
  cases advanced with
  | op request next rest enabled =>
      intro made mem
      obtain rfl := List.mem_singleton.mp mem
      rw [rest]
      exact .left _ _ (.op next _)
  | fork next rest =>
      intro made mem
      rw [rest]
      rcases List.mem_cons.mp mem with rfl | mem
      · exact .left _ _ (.fork next false)
      · obtain rfl := List.mem_singleton.mp mem
        exact .left _ _ (.fork next true)
  | halt finished running =>
      intro made mem
      obtain rfl := List.mem_singleton.mp mem
      exact .right _ ⟨rfl, running⟩

theorem coe_set {γ : Type} {items : List γ} {index : Nat} {old : γ} (new : γ)
    (known : items[index]? = some old) :
    (items.set index new : Multiset γ) + {old} = (items : Multiset γ) + {new} := by
  induction items generalizing index with
  | nil => cases known
  | cons item items ih =>
      cases index with
      | zero =>
          obtain rfl := Option.some.inj known
          rw [List.set_cons_zero, ← Multiset.cons_coe, ← Multiset.cons_coe,
            Multiset.add_comm, Multiset.singleton_add, Multiset.add_comm,
            Multiset.singleton_add, Multiset.cons_swap]
      | succ index =>
          rw [List.set_cons_succ, ← Multiset.cons_coe, ← Multiset.cons_coe, Multiset.cons_add,
            Multiset.cons_add, ih known]

/-- Runs of a pool are finite, whatever the order of steps. -/
theorem step_wellFounded :
    WellFounded fun next pool : Pool machine Tag ε α => ∃ self, pool.step self = some next := by
  refine Subrelation.wf ?_ (InvImage.wf
    (fun pool : Pool machine Tag ε α => Multiset.ofList (pool.procs.map Proc.left))
    less_wellFounded.cutExpand)
  rintro next pool ⟨self, taken⟩
  obtain ⟨proc, after, children, known, advanced, procs⟩ := step_cases taken
  have lefts : (pool.procs.map Proc.left)[self]? = some proc.left := by
    rw [List.getElem?_map, known]
    rfl
  refine ⟨↑((after :: children).map Proc.left), proc.left, ?_, ?_⟩
  · intro made mem
    obtain ⟨other, otherMem, rfl⟩ := List.mem_map.mp (Multiset.mem_coe.mp mem)
    exact advanced.less other otherMem
  · change Multiset.ofList (next.procs.map Proc.left) + _ = _
    rw [procs, List.map_append, List.map_set, ← Multiset.coe_add, add_right_comm,
      coe_set after.left lefts, List.map_cons, ← Multiset.cons_coe, ← Multiset.singleton_add,
      add_assoc]

/-- Only processes that came to their end have halted. -/
theorem Reaches.halted_over {allowed : Pool machine Tag ε α → Nat → Pool machine Tag ε α → Prop}
    {first : Pool machine Tag ε α} (reached : Reaches allowed first pool)
    (start : ∀ proc ∈ first.procs, proc.halted = false) :
    ∀ proc ∈ pool.procs, proc.halted = true → Over proc.rest := by
  refine reached.invariant (fun pool => ∀ proc ∈ pool.procs, proc.halted = true → Over proc.rest)
    ?_ ?_
  · intro proc mem halted
    rw [start proc mem] at halted
    cases halted
  · intro pool self next all taken _
    refine forall_procs_step all taken fun proc after children finished advanced => ?_
    generalize next.state = last at advanced
    cases advanced with
    | op request next rest enabled =>
        refine ⟨fun halted => ?_, by simp⟩
        have ended := finished halted
        rw [rest] at ended
        exact ended.elim
    | fork next rest =>
        constructor
        · intro halted
          have ended := finished halted
          rw [rest] at ended
          exact ended.elim
        · intro child mem halted
          obtain rfl := List.mem_singleton.mp mem
          cases halted
    | halt finished running => exact ⟨fun _ => finished, by simp⟩

/-- The process waits for an operation that is not enabled. -/
def Waits (pool : Pool machine Tag ε α) (self : Nat) (proc : Proc machine Tag ε α) : Prop :=
  ∃ request next, proc.rest = .op request next ∧ machine.enabled self pool.state request = false

/-- A process that cannot take a step has ended, or it waits. -/
theorem ended_or_waits {proc : Proc machine Tag ε α} (known : pool.procs[self]? = some proc)
    (stuck : pool.step self = none) :
    (Over proc.rest ∧ proc.halted = true) ∨ Waits pool self proc := by
  have none : advance self pool.state proc = none := by
    unfold step at stuck
    rw [known] at stuck
    refine Option.eq_none_iff_forall_not_mem.mpr fun result advanced => ?_
    have nothing := Option.bind_eq_none_iff.mp (Option.bind_eq_none_iff.mp stuck proc rfl)
    obtain ⟨after, children, state⟩ := result
    cases nothing (after, children, state) advanced
  unfold advance at none
  split at none
  next request next rest =>
    refine .inr ⟨request, next, rest, Bool.eq_false_iff.mpr fun enabled => ?_⟩
    rw [if_pos enabled] at none
    cases none
  next next rest => cases none
  all_goals
    next rest =>
      refine .inl ⟨by rw [rest]; trivial, ?_⟩
      by_contra running
      rw [if_neg running] at none
      cases none

end Pool

end Process
