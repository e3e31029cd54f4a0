import Vcd.Process.Forks
import Vcd.Process.History

/-!
# Mediation

A program that begins with a check performs only the operations of the check, and forks
nothing, until it has found out a fact about its history. Facts about histories last.
-/

namespace Process

variable {I : Interface} {ε α β Tag : Type} {machine : Machine I} {history : History I}

/-- A fact about a history that later events do not change. -/
def Lasting (fact : History I → Prop) : Prop :=
  ∀ history event, fact history → fact (event :: history)

namespace Program

/-- Until the fact is known, the program performs early operations only and forks nothing. -/
def Mediated (early : I.Op → Prop) (fact : History I → Prop) :
    Program I ε α → History I → Prop
  | .pure _, _ | .fail _, _ | .exit, _ => True
  | .op request next, history => (fact history ∨ early request) ∧
      ∀ reply, (next reply).Mediated early fact (⟨request, reply⟩ :: history)
  | .fork next, history => fact history ∧ (next false).Mediated early fact history

variable {early quiet : I.Op → Prop} {fact : History I → Prop}

/-- A contract that promises operations of a kind bounds the operations. -/
theorem Meets.within {promise : History I → I.Op → Prop} {program : Program I ε α}
    {post : History I → Except ε α → Prop}
    (meets : program.Meets (.ofHistory promise quiet) history post)
    (implies : ∀ history op, promise history op → early op) : program.Within early quiet := by
  induction program generalizing history with
  | pure value => trivial
  | fail fault => trivial
  | exit => trivial
  | op request next ih => exact ⟨implies _ _ meets.1, fun reply => ih reply (meets.2 reply)⟩
  | fork next ih => exact ⟨meets.1, ih false meets.2⟩

/-- Once the fact is known, everything is mediated. -/
theorem Mediated.of_known (lasting : Lasting fact) (program : Program I ε α)
    (known : fact history) : program.Mediated early fact history := by
  induction program generalizing history with
  | pure value => trivial
  | fail fault => trivial
  | exit => trivial
  | op request next ih =>
      exact ⟨.inl known, fun reply => ih reply (lasting history ⟨request, reply⟩ known)⟩
  | fork next ih => exact ⟨known, ih false known⟩

/-- A check that finds the fact out, and any program after it. -/
theorem mediated_bind {entry : Program I ε α} (noFork : entry.NoFork) {loud : I.Op → Prop}
    (checks : entry.Meets (.ofHistory (fun _ => early) loud) history
      (Either (fun after _ => fact after) fun _ _ => True))
    (lasting : Lasting fact) (rest : α → Program I ε β) :
    (entry >>= rest).Mediated early fact history := by
  induction entry generalizing history with
  | pure value => exact .of_known lasting (rest value) checks
  | fail fault => trivial
  | exit => trivial
  | op request next ih =>
      exact ⟨.inr checks.1, fun reply => ih reply (noFork reply) (checks.2 reply)⟩
  | fork next ih => exact noFork.elim

end Program

/-! ## In a pool -/

/-- The rest of a tagged process is mediated as its tag says, and so is what it has done. -/
def Proc.Mediated (early : Tag → I.Op → Prop) (fact : Tag → History I → Prop)
    (proc : Proc machine Tag ε α) : Prop :=
  ∀ tag, proc.tag = some tag → proc.rest.Mediated (early tag) (fact tag) proc.history ∧
    ∀ event ∈ proc.history, fact tag proc.history ∨ early tag event.request

namespace Proc.Mediated

variable {early : Tag → I.Op → Prop} {fact : Tag → History I → Prop} {self : Nat}
  {state last : machine.State} {proc after : Proc machine Tag ε α}
  {children : List (Proc machine Tag ε α)} {tag : Tag}

theorem start {tag : Tag} {program : Program I ε α}
    (mediated : program.Mediated (early tag) (fact tag) []) : Proc.Mediated early fact
      ({ tag := some tag, past := [], rest := program, halted := false } :
        Proc machine Tag ε α) := by
  rintro _ ⟨⟩
  exact ⟨mediated, fun event mem => by cases mem⟩

theorem advance (lasting : ∀ tag, Lasting (fact tag)) (mediated : proc.Mediated early fact)
    (advanced : Pool.Advance self state proc after children last) :
    after.Mediated early fact ∧ ∀ child ∈ children, child.Mediated early fact := by
  cases advanced with
  | op request next rest enabled =>
      refine ⟨fun tag known => ?_, by simp⟩
      obtain ⟨before, done⟩ := mediated tag known
      rw [rest] at before
      refine ⟨before.2 _, fun event mem => ?_⟩
      rcases List.mem_cons.mp mem with rfl | mem
      · exact before.1.imp_left (lasting tag _ _)
      · exact (done event mem).imp_left (lasting tag _ _)
  | fork next rest =>
      constructor
      · intro tag known
        obtain ⟨before, done⟩ := mediated tag known
        rw [rest] at before
        exact ⟨before.2, done⟩
      · intro child mem tag known
        obtain rfl := List.mem_singleton.mp mem
        cases known
  | halt => exact ⟨mediated, by simp⟩

/-- A process that performs an operation that is not an early one knows the fact. -/
theorem known_of_op (mediated : proc.Mediated early fact) (tagged : proc.tag = some tag)
    {request : I.Op} {next : I.Reply request → Program I ε α}
    (rest : proc.rest = .op request next) (late : ¬ early tag request) :
    fact tag proc.history := by
  have before := (mediated tag tagged).1
  rw [rest] at before
  exact before.1.resolve_right late

theorem known_of_fork (mediated : proc.Mediated early fact) (tagged : proc.tag = some tag)
    {next : Bool → Program I ε α} (rest : proc.rest = .fork next) : fact tag proc.history := by
  have before := (mediated tag tagged).1
  rw [rest] at before
  exact before.1

end Proc.Mediated

/-- Programs that are mediated at the start stay so in every interleaving. -/
theorem Pool.Reaches.mediated {early : Tag → I.Op → Prop} {fact : Tag → History I → Prop}
    (lasting : ∀ tag, Lasting (fact tag))
    {allowed : Pool machine Tag ε α → Nat → Pool machine Tag ε α → Prop}
    {first pool : Pool machine Tag ε α} (reached : Reaches allowed first pool)
    (start : ∀ proc ∈ first.procs, proc.Mediated early fact) :
    ∀ proc ∈ pool.procs, proc.Mediated early fact :=
  reached.invariant (fun pool => ∀ proc ∈ pool.procs, proc.Mediated early fact) start
    fun _ _ _ all taken _ => forall_procs_step all taken fun _ _ _ mediated advanced =>
      mediated.advance lasting advanced

end Process
