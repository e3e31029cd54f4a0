import Vcd.Process.Pool

/-!
# Contracts on histories

A contract whose ghost state is the history of the program itself. What a program found
out is then a fact about its history, and a fact about the events since some point lasts
as long as no event of a certain kind occurs.
-/

namespace Process

variable {I : Interface} {ε α β : Type}

/-- One performed operation with its reply. -/
structure Performed (I : Interface) where
  request : I.Op
  reply : I.Reply request

/-- What a program has performed, the last operation first. -/
abbrev History (I : Interface) := List (Performed I)

/-- A contract on histories. -/
abbrev Contract.ofHistory (promise : History I → I.Op → Prop) (quiet : I.Op → Prop) :
    Contract I where
  Ghost := History I
  promise
  next := fun history request reply => ⟨request, reply⟩ :: history
  quiet

/-- The later history adds operations of a certain kind only. -/
def Grows (usual : I.Op → Prop) (before after : History I) : Prop :=
  ∃ new, after = new ++ before ∧ ∀ event ∈ new, usual event.request

namespace Grows

variable {usual : I.Op → Prop} {first second third : History I}

theorem refl (history : History I) : Grows usual history history :=
  ⟨[], rfl, by simp⟩

theorem cons (grows : Grows usual first second) {request : I.Op} (kind : usual request)
    (reply : I.Reply request) : Grows usual first (⟨request, reply⟩ :: second) := by
  obtain ⟨new, rfl, newUsual⟩ := grows
  refine ⟨⟨request, reply⟩ :: new, rfl, fun event mem => ?_⟩
  rcases List.mem_cons.mp mem with rfl | mem
  · exact kind
  · exact newUsual event mem

end Grows

/-! ## Recent events -/

/-- The events after the last one that ends an era. -/
def since (ends : Performed I → Bool) (history : History I) : History I :=
  history.takeWhile fun event => !ends event

section Since

variable {ends : Performed I → Bool} {usual : I.Op → Prop} {before after : History I}

theorem mem_of_mem_since {event : Performed I} (mem : event ∈ since ends before) :
    event ∈ before :=
  List.takeWhile_sublist _ |>.subset mem

/-- Recent events of a part that is recent itself. -/
theorem since_since_subset {marks : Performed I → Bool} :
    since ends (since marks before) ⊆ since ends before := by
  induction before with
  | nil => exact List.Subset.refl _
  | cons event before ih =>
      unfold since at ih ⊢
      cases marked : marks event <;> cases ended : ends event <;>
        simp only [List.takeWhile_cons, marked, ended, Bool.not_true, Bool.not_false, if_true,
          Bool.false_eq_true, if_false, List.takeWhile_nil, List.nil_subset]
      exact List.cons_subset_cons event ih

end Since

/-! ## Programs within a kind of operations -/

namespace Program

variable {usual quiet : I.Op → Prop} {promise : History I → I.Op → Prop}

/-- A program within permitted operations meets a contract, and only they are added to
the history. -/
theorem Within.meets {program : Program I ε α} (within : program.Within usual quiet)
    (promised : ∀ history request, usual request → promise history request)
    (history : History I) :
    program.Meets (.ofHistory promise quiet) history fun after _ =>
      Grows usual history after := by
  suffices later : ∀ current : History I, Grows usual history current →
      program.Meets (.ofHistory promise quiet) current fun after _ =>
        Grows usual history after from later history (.refl history)
  induction program with
  | pure value => exact fun current grows => grows
  | fail fault => exact fun current grows => grows
  | exit => exact fun _ _ => trivial
  | op request next ih =>
      exact fun current grows => ⟨promised current request within.1, fun reply =>
        ih reply (within.2 reply) _ (grows.cons within.1 reply)⟩
  | fork next ih => exact fun current grows => ⟨within.1, ih false within.2 current grows⟩

end Program

/-! ## Histories of processes in a pool -/

variable {Tag : Type} {machine : Machine I}

def Event.performed (event : Event machine) : Performed I :=
  ⟨event.request, event.reply⟩

def Proc.history (proc : Proc machine Tag ε α) : History I :=
  proc.past.map Event.performed

/-- The rest of a tagged process meets the contract of its tag; a child is quiet. -/
def Proc.Sound (promise : Tag → History I → I.Op → Prop) (quiet : I.Op → Prop)
    (post : Tag → History I → Except ε α → Prop) (proc : Proc machine Tag ε α) : Prop :=
  match proc.tag with
  | some tag => proc.rest.Meets (.ofHistory (promise tag) quiet) proc.history (post tag)
  | none => proc.rest.Orphan quiet

namespace Proc.Sound

variable {promise : Tag → History I → I.Op → Prop} {quiet : I.Op → Prop}
  {post : Tag → History I → Except ε α → Prop} {self : Nat} {state last : machine.State}
  {proc after : Proc machine Tag ε α} {children : List (Proc machine Tag ε α)}

theorem meets (sound : proc.Sound promise quiet post) {tag : Tag}
    (known : proc.tag = some tag) :
    proc.rest.Meets (.ofHistory (promise tag) quiet) proc.history (post tag) := by
  simpa only [Proc.Sound, known] using sound

theorem orphan (sound : proc.Sound promise quiet post) (known : proc.tag = none) :
    proc.rest.Orphan quiet := by
  simpa only [Proc.Sound, known] using sound

/-- What a sound process performs is promised or quiet. -/
theorem promised (sound : proc.Sound promise quiet post) {request : I.Op}
    {next : I.Reply request → Program I ε α} (rest : proc.rest = .op request next) :
    (∃ tag, proc.tag = some tag ∧ promise tag proc.history request) ∨
      proc.tag = none ∧ quiet request := by
  cases known : proc.tag with
  | some tag =>
      have meets := sound.meets known
      rw [rest] at meets
      exact .inl ⟨tag, rfl, meets.1⟩
  | none =>
      have orphan := sound.orphan known
      rw [rest] at orphan
      exact .inr ⟨rfl, orphan.1⟩

theorem advance (sound : proc.Sound promise quiet post)
    (advanced : Pool.Advance self state proc after children last) :
    after.Sound promise quiet post ∧ ∀ child ∈ children, child.Sound promise quiet post := by
  cases advanced with
  | op request next rest enabled =>
      refine ⟨?_, by simp⟩
      cases known : proc.tag with
      | some tag =>
          have meets := sound.meets known
          rw [rest] at meets
          simp only [Proc.Sound]
          exact meets.2 _
      | none =>
          have orphan := sound.orphan known
          rw [rest] at orphan
          simp only [Proc.Sound]
          exact orphan.2 _
  | fork next rest =>
      cases known : proc.tag with
      | some tag =>
          have meets := sound.meets known
          rw [rest] at meets
          simp only [Proc.Sound, List.mem_singleton, forall_eq]
          exact ⟨meets.2, meets.1⟩
      | none =>
          have orphan := sound.orphan known
          rw [rest] at orphan
          simp only [Proc.Sound, List.mem_singleton, forall_eq]
          exact ⟨orphan false, orphan true⟩
  | halt => exact ⟨sound, by simp⟩

end Proc.Sound

/-- Programs that meet their contracts at the start stay sound in every interleaving. -/
theorem Pool.Reaches.sound {promise : Tag → History I → I.Op → Prop} {quiet : I.Op → Prop}
    {post : Tag → History I → Except ε α → Prop}
    {allowed : Pool machine Tag ε α → Nat → Pool machine Tag ε α → Prop}
    {first pool : Pool machine Tag ε α} (reached : Reaches allowed first pool)
    (start : ∀ proc ∈ first.procs, proc.Sound promise quiet post) :
    ∀ proc ∈ pool.procs, proc.Sound promise quiet post :=
  reached.invariant (fun pool => ∀ proc ∈ pool.procs, proc.Sound promise quiet post) start
    fun _ _ _ all taken _ => forall_procs_step all taken fun _ _ _ sound advanced =>
      sound.advance advanced

end Process
