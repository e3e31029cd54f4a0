import Vcd.Process.Sequence

/-!
# Forked children

The children that a run forks, each with the state it is forked in. In a sequence whose
first part does not fork, they are those of the rest.
-/

namespace Process

variable {I : Interface} {ε α β : Type} {machine : Machine I} {self : Nat}

namespace Program

/-- A child as the program that the process it was forked from would have gone on with. -/
abbrev ofChild (child : Program I ε Empty) : Program I ε α :=
  child.bind nofun

theorem ofChild_bind (child : Program I ε Empty) (rest : α → Program I ε β) :
    (ofChild child).bind rest = ofChild child := by
  unfold ofChild
  rw [bind_assoc]
  congr 1
  funext value
  exact value.elim

theorem ofChild_self (child : Program I ε Empty) : ofChild child = child := by
  have nothing : (nofun : Empty → Program I ε Empty) = .pure := by
    funext value
    exact value.elim
  unfold ofChild
  rw [nothing, bind_pure]

theorem orphan_child (child : Program I ε Empty) : child.Orphan fun _ => True := by
  induction child with
  | pure value => exact value.elim
  | fail fault => trivial
  | exit => trivial
  | op request next ih => exact ⟨trivial, ih⟩
  | fork next ih => exact ih

/-- A program that never returns is a child if it is one with something after it. -/
theorem Orphan.eq_ofChild {kind : I.Op → Prop} {program : Program I ε α}
    (orphan : program.Orphan kind) {rest : α → Program I ε β} {child : Program I ε Empty}
    (same : program.bind rest = ofChild child) : program = ofChild child := by
  induction program generalizing child with
  | pure value => exact orphan.elim
  | fail fault =>
      cases child with
      | pure value => exact value.elim
      | fail _ => exact congrArg Program.fail (Program.fail.inj same)
      | exit => cases same
      | op _ _ => cases same
      | fork _ => cases same
  | exit =>
      cases child with
      | pure value => exact value.elim
      | fail _ => cases same
      | exit => rfl
      | op _ _ => cases same
      | fork _ => cases same
  | op request next ih =>
      cases child with
      | pure value => exact value.elim
      | fail _ => cases same
      | exit => cases same
      | op _ following =>
          obtain ⟨rfl, equal⟩ := Program.op.inj same
          have each : next = fun reply => ofChild (following reply) := by
            funext reply
            exact ih reply (orphan.2 reply) (congrFun (eq_of_heq equal) reply)
          rw [each]
          rfl
      | fork _ => cases same
  | fork next ih =>
      cases child with
      | pure value => exact value.elim
      | fail _ => cases same
      | exit => cases same
      | op _ _ => cases same
      | fork following =>
          have each : next = fun branch => ofChild (following branch) := by
            funext branch
            exact ih branch (orphan branch) (congrFun (Program.fork.inj same) branch)
          rw [each]
          rfl

theorem ofChild_injective {child other : Program I ε Empty}
    (same : (ofChild child : Program I ε α) = ofChild other) : child = other := by
  have equal : child = ofChild other := (orphan_child child).eq_ofChild same
  rwa [ofChild_self] at equal

theorem spawn_bind (child : Program I ε Empty) (rest : Unit → Program I ε β) :
    (spawn child >>= rest) = .fork fun
      | true => ofChild child
      | false => rest () := by
  refine congrArg Program.fork (funext fun branch => ?_)
  cases branch with
  | true => exact ofChild_bind child rest
  | false => rfl

/-- A forked child runs first, and then its parent from where the child ended. -/
theorem run_spawn (child : Program I ε Empty) (rest : Unit → Program I ε β)
    (state : machine.State) :
    (spawn child >>= rest).run machine self state =
      ⟨((rest ()).run machine self (child.run machine self state).state).outcome,
        ((rest ()).run machine self (child.run machine self state).state).state,
        (child.run machine self state).trace ++
          ((rest ()).run machine self (child.run machine self state).state).trace⟩ := by
  obtain ⟨ends, trace⟩ := @Orphan.run_bind I ε Empty β machine self _ child (orphan_child child)
    nofun state
  rw [spawn_bind, ← ends, ← trace]
  rfl

/-- The run of the program alone forks the child in a certain state. -/
inductive ForksAt (machine : Machine I) (self : Nat) :
    Program I ε α → machine.State → Program I ε Empty → machine.State → Prop where
  | here {next : Bool → Program I ε α} {child : Program I ε Empty} {state : machine.State}
      (forked : next true = ofChild child) : ForksAt machine self (.fork next) state child state
  | op {request : I.Op} {next : I.Reply request → Program I ε α} {child : Program I ε Empty}
      {state at' : machine.State}
      (later : ForksAt machine self (next (machine.step self state request).1)
        (machine.step self state request).2 child at') :
      ForksAt machine self (.op request next) state child at'
  | parent {next : Bool → Program I ε α} {child : Program I ε Empty}
      {state at' : machine.State}
      (later : ForksAt machine self (next false) ((next true).run machine self state).state
        child at') : ForksAt machine self (.fork next) state child at'

theorem Orphan.exists_child {kind : I.Op → Prop} {program : Program I ε α}
    (orphan : program.Orphan kind) : ∃ child, program = ofChild child := by
  induction program with
  | pure value => exact orphan.elim
  | fail fault => exact ⟨.fail fault, rfl⟩
  | exit => exact ⟨.exit, rfl⟩
  | op request next ih =>
      obtain ⟨child, equal⟩ := Classical.axiomOfChoice fun reply => ih reply (orphan.2 reply)
      refine ⟨.op request child, ?_⟩
      have same : next = fun reply => ofChild (child reply) := funext equal
      rw [same]
      rfl
  | fork next ih =>
      obtain ⟨child, equal⟩ := Classical.axiomOfChoice fun branch => ih branch (orphan branch)
      refine ⟨.fork child, ?_⟩
      have same : next = fun branch => ofChild (child branch) := funext equal
      rw [same]
      rfl

/-- The run of the program alone reaches a fork. -/
def forks (machine : Machine I) (self : Nat) : Program I ε α → machine.State → Bool
  | .pure _, _ | .fail _, _ | .exit, _ => false
  | .op request next, state =>
      (next (machine.step self state request).1).forks machine self
        (machine.step self state request).2
  | .fork _, _ => true

theorem exists_forksAt {program : Program I ε α} (contained : program.Contained)
    {state : machine.State} (forks : program.forks machine self state = true) :
    ∃ child last, ForksAt machine self program state child last := by
  induction program generalizing state with
  | pure value => cases forks
  | fail fault => cases forks
  | exit => cases forks
  | op request next ih =>
      obtain ⟨child, last, later⟩ := ih _ (contained.2 _) forks
      exact ⟨child, last, .op later⟩
  | fork next ih =>
      obtain ⟨child, forked⟩ := contained.1.exists_child
      exact ⟨child, state, .here forked⟩

/-- The program does not fork. -/
def NoFork : Program I ε α → Prop
  | .pure _ | .fail _ | .exit => True
  | .op _ next => ∀ reply, (next reply).NoFork
  | .fork _ => False

theorem NoFork.bind {program : Program I ε α} {rest : α → Program I ε β}
    (first : program.NoFork) (later : ∀ value, (rest value).NoFork) :
    (program >>= rest).NoFork := by
  induction program with
  | pure value => exact later value
  | fail fault => trivial
  | exit => trivial
  | op request next ih => exact fun reply => ih reply (first reply)
  | fork next ih => exact first.elim

theorem NoFork.forM {γ : Type} {body : γ → Program I ε PUnit}
    (each : ∀ item, (body item).NoFork) (items : List γ) : (items.forM body).NoFork := by
  induction items with
  | nil => trivial
  | cons item items ih => exact (each item).bind fun _ => ih

theorem NoFork.contained {program : Program I ε α} (noFork : program.NoFork) :
    program.Contained := by
  induction program with
  | pure value => trivial
  | fail fault => trivial
  | exit => trivial
  | op request next ih => exact ⟨trivial, fun reply => ih reply (noFork reply)⟩
  | fork next ih => exact noFork.elim

section ForksAt

variable {child : Program I ε Empty} {state last : machine.State}

theorem NoFork.not_forksAt {program : Program I ε α} (noFork : program.NoFork) :
    ¬ ForksAt machine self program state child last := by
  intro forks
  induction forks with
  | here forked => exact noFork
  | op later ih => exact ih (noFork _)
  | parent later ih => exact noFork

/-- In a sequence whose first part does not fork, the rest forks. -/
theorem ForksAt.of_bind {program : Program I ε α} (noFork : program.NoFork)
    {rest : α → Program I ε β}
    (forks : ForksAt machine self (program >>= rest) state child last) :
    ∃ value, (program.run machine self state).outcome = .returned value ∧
      ForksAt machine self (rest value) (program.run machine self state).state child last := by
  induction program generalizing state with
  | pure value => exact ⟨value, rfl, forks⟩
  | fail fault => cases forks
  | exit => cases forks
  | op request next ih =>
      cases forks with
      | op later => exact ih _ (noFork _) later
  | fork next ih => exact noFork.elim

/-- A program that forks a child and goes on forks it now, or another one later. -/
theorem ForksAt.of_spawn {forked : Program I ε Empty} {rest : Unit → Program I ε β}
    (forks : ForksAt machine self (spawn forked >>= rest) state child last) :
    (child = forked ∧ last = state) ∨
      ∃ after, ForksAt machine self (rest ()) after child last := by
  cases forks with
  | here same =>
      have equal : (ofChild forked : Program I ε β) = ofChild child :=
        (ofChild_bind forked rest).symm.trans same
      exact .inl ⟨(ofChild_injective equal).symm, rfl⟩
  | parent later => exact .inr ⟨_, later⟩

/-- In a sequence whose rest does not fork, the first part forks. -/
theorem ForksAt.of_bind_left {program : Program I ε α} (contained : program.Contained)
    {rest : α → Program I ε β} (noFork : ∀ value, (rest value).NoFork)
    (forks : ForksAt machine self (program >>= rest) state child last) :
    ForksAt machine self program state child last := by
  induction program generalizing state with
  | pure value => exact ((noFork value).not_forksAt forks).elim
  | fail fault => cases forks
  | exit => cases forks
  | op request next ih =>
      cases forks with
      | op later => exact .op (ih _ (contained.2 _) later)
  | fork next ih =>
      cases forks with
      | here same => exact .here (contained.1.eq_ofChild same)
      | parent later =>
          have child := (@Orphan.run_bind _ _ _ _ machine self _ _ contained.1 rest state).1
          refine .parent (ih false contained.2 ?_)
          rw [← child]
          exact later

/-- Keeping the fault of a program changes nothing about its children. -/
theorem ForksAt.of_attempt {program : Program I ε α} (contained : program.Contained)
    (forks : ForksAt machine self program.attempt state child last) :
    ForksAt machine self program state child last := by
  induction program generalizing state with
  | pure value => cases forks
  | fail fault => cases forks
  | exit => cases forks
  | op request next ih =>
      cases forks with
      | op later => exact .op (ih _ (contained.2 _) later)
  | fork next ih =>
      cases forks with
      | here same => exact .here (contained.1.eq_ofChild same)
      | parent later =>
          have child := (@Orphan.run_bind _ _ _ _ machine self _ _ contained.1
            (fun value => .pure (.ok value) : α → Program I ε (Except ε α)) state).1
          refine .parent (ih false contained.2 ?_)
          rw [← child]
          exact later

/-- What every operation preserves, a run preserves. -/
theorem run_invariant {holds : machine.State → Prop}
    (preserved : ∀ state request, holds state → holds (machine.step self state request).2)
    (program : Program I ε α) (start : holds state) :
    holds (program.run machine self state).state := by
  induction program generalizing state with
  | pure value => exact start
  | fail fault => exact start
  | exit => exact start
  | op request next ih => exact ih _ (preserved state request start)
  | fork next ih => exact ih false (ih true start)

/-- What every operation preserves holds where a child is forked. -/
theorem ForksAt.invariant {holds : machine.State → Prop}
    (preserved : ∀ state request, holds state → holds (machine.step self state request).2)
    {program : Program I ε α} (forks : ForksAt machine self program state child last)
    (start : holds state) : holds last := by
  induction forks with
  | here forked => exact start
  | op later ih => exact ih (preserved _ _ start)
  | parent later ih => exact ih (run_invariant preserved _ start)

end ForksAt

end Program

end Process
