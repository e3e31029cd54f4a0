import Vcd.Process.Forks

/-!
# Processes that die

The states a process may die in, between two of its operations, and programs of one
interface that run as part of a program of another.
-/

namespace Process

variable {I J : Interface} {ε α β : Type} {machine : Machine I} {self : Nat}

namespace Program

/-! ## Deaths -/

/-- The process may die in this state. Forked children are not told apart. -/
inductive DiesAt (machine : Machine I) (self : Nat) :
    Program I ε α → machine.State → machine.State → Prop where
  | now (program : Program I ε α) (state : machine.State) : DiesAt machine self program state state
  | later {request : I.Op} {next : I.Reply request → Program I ε α} {state last : machine.State}
      (rest : DiesAt machine self (next (machine.step self state request).1)
        (machine.step self state request).2 last) :
      DiesAt machine self (.op request next) state last

/-- The program has ended. -/
def Finished : Program I ε α → Prop
  | .op _ _ | .fork _ => False
  | _ => True

namespace DiesAt

theorem of_op {request : I.Op} {next : I.Reply request → Program I ε α}
    {state last : machine.State} (dies : DiesAt machine self (.op request next) state last) :
    last = state ∨ DiesAt machine self (next (machine.step self state request).1)
      (machine.step self state request).2 last := by
  cases dies with
  | now => exact .inl rfl
  | later rest => exact .inr rest

/-- A program that has ended does nothing before it dies. -/
theorem of_finished {program : Program I ε α} (done : program.Finished)
    {state last : machine.State} (dies : DiesAt machine self program state last) :
    last = state ∧ last = (program.run machine self state).state := by
  cases dies with
  | now =>
      cases program with
      | op request next => exact done.elim
      | fork next => exact done.elim
      | _ => exact ⟨rfl, rfl⟩
  | later rest => exact done.elim

/-- A sequence dies in its first part, or in the rest after that has returned. -/
theorem of_bind {program : Program I ε α} {rest : α → Program I ε β}
    {state last : machine.State} (dies : DiesAt machine self (program >>= rest) state last) :
    DiesAt machine self program state last ∨
      ∃ value, (program.run machine self state).outcome = .returned value ∧
        DiesAt machine self (rest value) (program.run machine self state).state last := by
  induction program generalizing state with
  | pure value => exact .inr ⟨value, rfl, dies⟩
  | fail fault =>
      cases dies with
      | now => exact .inl (.now _ _)
  | exit =>
      cases dies with
      | now => exact .inl (.now _ _)
  | op request next ih =>
      cases dies with
      | now => exact .inl (.now _ _)
      | later dies =>
          rcases ih _ dies with first | ⟨value, returned, later⟩
          · exact .inl (.later first)
          · exact .inr ⟨value, returned, later⟩
  | fork next ih =>
      cases dies with
      | now => exact .inl (.now _ _)

/-- Once its first part has returned, a sequence dies where the rest does. -/
theorem bind_returned {program : Program I ε α} (alone : program.NoFork)
    {rest : α → Program I ε β} {state last : machine.State} {value : α}
    (returned : (program.run machine self state).outcome = .returned value)
    (dies : DiesAt machine self (rest value) (program.run machine self state).state last) :
    DiesAt machine self (program >>= rest) state last := by
  induction program generalizing state with
  | pure other =>
      obtain rfl : other = value := Outcome.returned.inj returned
      exact dies
  | fail fault => cases returned
  | exit => cases returned
  | op request next ih => exact .later (ih _ (alone _) returned dies)
  | fork next ih => exact alone.elim

/-- What every operation of a program keeps holds wherever it dies. -/
theorem keeps {usual quiet : I.Op → Prop} {holds : machine.State → Prop} {program : Program I ε α}
    {state last : machine.State} (dies : DiesAt machine self program state last)
    (within : program.Within usual quiet)
    (kept : ∀ state request, usual request → holds state →
      holds (machine.step self state request).2) (start : holds state) : holds last := by
  induction dies with
  | now program state => exact start
  | later rest ih => exact ih (within.2 _) (kept _ _ within.1 start)

end DiesAt

/-! ## Parts of a larger machine -/

/-- The operations of an interface among those of a larger one. -/
structure Embedding (I J : Interface) where
  op : I.Op → J.Op
  reply (request : I.Op) : J.Reply (op request) → I.Reply request

variable {embedding : Embedding I J}

def embed (embedding : Embedding I J) : Program I ε α → Program J ε α
  | .pure value => .pure value
  | .fail fault => .fail fault
  | .exit => .exit
  | .op request next =>
      .op (embedding.op request) fun reply => (next (embedding.reply request reply)).embed embedding
  | .fork next => .fork fun child => (next child).embed embedding

/-- A machine that is a part of a larger one: its operations change its own part of the state
only. -/
structure Component (embedding : Embedding I J) (part : Machine I) (whole : Machine J) where
  get : whole.State → part.State
  put : whole.State → part.State → whole.State
  put_get : ∀ state, put state (get state) = state
  get_put : ∀ state inner, get (put state inner) = inner
  put_put : ∀ state inner other, put (put state inner) other = put state other
  step_eq : ∀ self state request,
    (whole.step self state (embedding.op request)).2 =
        put state (part.step self (get state) request).2 ∧
      embedding.reply request (whole.step self state (embedding.op request)).1 =
        (part.step self (get state) request).1

namespace Component

variable {part : Machine I} {whole : Machine J} (component : Component embedding part whole)

/-- An embedded program runs as it does alone. -/
theorem run_embed (program : Program I ε α) (self : Nat) (state : whole.State) :
    ((program.embed embedding).run whole self state).outcome =
        (program.run part self (component.get state)).outcome ∧
      ((program.embed embedding).run whole self state).state =
        component.put state (program.run part self (component.get state)).state := by
  induction program generalizing state with
  | pure value => exact ⟨rfl, (component.put_get state).symm⟩
  | fail fault => exact ⟨rfl, (component.put_get state).symm⟩
  | exit => exact ⟨rfl, (component.put_get state).symm⟩
  | op request next ih =>
      obtain ⟨stepped, replied⟩ := component.step_eq self state request
      have later := ih (embedding.reply request (whole.step self state (embedding.op request)).1)
        (whole.step self state (embedding.op request)).2
      rw [replied, stepped, component.get_put, component.put_put] at later
      rw [← replied, ← stepped] at later
      refine ⟨later.1.trans ?_, later.2.trans ?_⟩ <;> rw [replied] <;> rfl
  | fork next ih =>
      have child := ih true state
      have parent := ih false ((next true).embed embedding |>.run whole self state).state
      rw [child.2, component.get_put, component.put_put, ← child.2] at parent
      exact parent

/-- An embedded program dies as it does alone. -/
theorem diesAt_embed {program : Program I ε α} {self : Nat} {state last : whole.State}
    (dies : DiesAt whole self (program.embed embedding) state last) :
    ∃ inner, DiesAt part self program (component.get state) inner ∧
      last = component.put state inner := by
  induction program generalizing state with
  | pure value =>
      cases dies with
      | now => exact ⟨_, .now _ _, (component.put_get _).symm⟩
  | fail fault =>
      cases dies with
      | now => exact ⟨_, .now _ _, (component.put_get _).symm⟩
  | exit =>
      cases dies with
      | now => exact ⟨_, .now _ _, (component.put_get _).symm⟩
  | op request next ih =>
      cases dies with
      | now => exact ⟨_, .now _ _, (component.put_get _).symm⟩
      | later dies =>
          obtain ⟨stepped, replied⟩ := component.step_eq self state request
          obtain ⟨inner, first, equal⟩ := ih _ dies
          rw [stepped, component.get_put, replied] at first
          rw [stepped, component.put_put] at equal
          exact ⟨inner, .later first, equal⟩
  | fork next ih =>
      cases dies with
      | now => exact ⟨_, .now _ _, (component.put_get _).symm⟩

end Component

end Program

end Process
