import Mathlib.Data.List.Forall2
import Vcd.Process.Moments

/-!
# Ledgers of deeds

An abstract machine does deeds one after the other, each as a whole or not at all. A pool
refines it if every operation that writes does a deed to a view of the shared state, or misses
it because the state turned it away. Then the view is what a ledger of deeds makes of the first
one, and every process finds its own operations in the ledger, in its own order and with the
outcomes it saw.
-/

namespace Process

/-! ## Ledgers -/

section Replay

variable {View Deed : Type} {act : Deed → View → Option View}

/-- A deed is done, or refused since it cannot be done, or missed without being tried. -/
inductive Fate where
  | done | refused | missed
  deriving DecidableEq

/-- A line of a ledger: who meant to do which deed, and what became of it. -/
structure Line (Deed : Type) where
  who : Nat
  deed : Deed
  fate : Fate

/-- What a line makes of a view: a deed is done if it can be, and refused if it cannot. -/
def Line.replayed (act : Deed → View → Option View) (line : Line Deed) (view : View) :
    Option View :=
  match line.fate with
  | .done => act line.deed view
  | .refused => if (act line.deed view).isNone then some view else none
  | .missed => some view

/-- What a ledger makes of a view. -/
def replay (act : Deed → View → Option View) (view : View) : List (Line Deed) → Option View
  | [] => some view
  | line :: ledger => (line.replayed act view).bind (replay act · ledger)

theorem replay_append (view : View) (earlier later : List (Line Deed)) :
    replay act view (earlier ++ later) = (replay act view earlier).bind (replay act · later) := by
  induction earlier generalizing view with
  | nil => rfl
  | cons line earlier ih =>
      change (line.replayed act view).bind _ = ((line.replayed act view).bind _).bind _
      rw [Option.bind_assoc]
      congr 1
      funext next
      exact ih next

theorem replay_singleton (view : View) (line : Line Deed) :
    replay act view [line] = line.replayed act view :=
  Option.bind_fun_some (line.replayed act view)

/-- The lines of one process. -/
def own (self : Nat) (ledger : List (Line Deed)) : List (Line Deed) :=
  ledger.filter fun line => line.who == self

theorem own_append (self : Nat) (earlier later : List (Line Deed)) :
    own self (earlier ++ later) = own self earlier ++ own self later :=
  List.filter_append ..

theorem own_all {self : Nat} {ledger : List (Line Deed)} (all : ∀ line ∈ ledger, line.who = self) :
    own self ledger = ledger :=
  List.filter_eq_self.mpr fun line mem => beq_iff_eq.mpr (all line mem)

theorem own_none {self : Nat} {ledger : List (Line Deed)}
    (none : ∀ line ∈ ledger, line.who ≠ self) : own self ledger = [] :=
  List.filter_eq_nil_iff.mpr fun line mem same => none line mem (beq_iff_eq.mp same)

end Replay

/-! ## Refinement -/

variable {I : Interface} {ε α Tag View Deed : Type} {machine : Machine I}

/-- An operation that a process performed, and what it had performed before. -/
structure Turn (machine : Machine I) where
  event : Event machine
  earlier : List (Event machine)

/-- The turns of a process, in its order. -/
def turns : List (Event machine) → List (Turn machine)
  | [] => []
  | event :: earlier => turns earlier ++ [⟨event, earlier⟩]

/-- The turns of a process that write. -/
def Proc.written (writes : I.Op → Bool) (proc : Proc machine Tag ε α) : List (Turn machine) :=
  (turns proc.past).filter fun turn => writes turn.event.request

/-- Every operation that writes does a deed that its process means, and nothing else changes
the view. -/
structure Refines (view : machine.State → View) (act : Deed → View → Option View)
    (writes : I.Op → Bool) (means : Option Tag → Turn machine → Line Deed → Prop)
    (allowed : Pool machine Tag ε α → Nat → Pool machine Tag ε α → Prop)
    (first : Pool machine Tag ε α) : Prop where
  halt : ∀ self state, view (machine.halt self state) = view state
  reads : ∀ self state op, writes op = false → view (machine.step self state op).2 = view state
  write : ∀ {pool : Pool machine Tag ε α} {self : Nat} {proc : Proc machine Tag ε α} {op : I.Op}
    {next : I.Reply op → Program I ε α}, Pool.Reaches allowed first pool →
    pool.procs[self]? = some proc → proc.rest = .op op next → writes op = true →
      ∃ line : Line Deed, line.who = self ∧
        means proc.tag ⟨⟨pool.state, op, (machine.step self pool.state op).1⟩, proc.past⟩ line ∧
        line.replayed act (view pool.state) = some (view (machine.step self pool.state op).2)

namespace Refines

variable {view : machine.State → View} {act : Deed → View → Option View} {writes : I.Op → Bool}
  {means : Option Tag → Turn machine → Line Deed → Prop}
  {allowed : Pool machine Tag ε α → Nat → Pool machine Tag ε α → Prop}
  {first pool : Pool machine Tag ε α} {self : Nat} {last : machine.State}
  {proc after : Proc machine Tag ε α} {children : List (Proc machine Tag ε α)}

/-- A step adds a line to the ledger if it writes. -/
theorem advance (refines : Refines view act writes means allowed first)
    (reached : Pool.Reaches allowed first pool) (known : pool.procs[self]? = some proc)
    (advanced : Pool.Advance self pool.state proc after children last) :
    ∃ more : List (Line Deed), (∀ line ∈ more, line.who = self) ∧
      replay act (view pool.state) more = some (view last) ∧
      ∃ new, after.written writes = proc.written writes ++ new ∧
        List.Forall₂ (means proc.tag) new more := by
  cases advanced with
  | op request next rest enabled =>
      have history : Proc.written writes { proc with
          past := ⟨pool.state, request, (machine.step self pool.state request).1⟩ :: proc.past
          rest := next (machine.step self pool.state request).1 } = proc.written writes ++
            [⟨⟨pool.state, request, (machine.step self pool.state request).1⟩, proc.past⟩].filter
              fun turn => writes turn.event.request :=
        List.filter_append ..
      cases kind : writes request with
      | true =>
          obtain ⟨line, who, meant, acted⟩ := refines.write reached known rest kind
          refine ⟨[line], ?_, (replay_singleton _ line).trans acted, _, history, ?_⟩
          · intro other mem
            exact List.mem_singleton.mp mem ▸ who
          · simp only [List.filter_cons, kind, if_true, List.filter_nil]
            exact .cons meant .nil
      | false =>
          refine ⟨[], by simp, ?_, _, history, ?_⟩
          · exact congrArg some (refines.reads self pool.state request kind).symm
          · simp only [List.filter_cons, kind, Bool.false_eq_true, if_false, List.filter_nil]
            exact .nil
  | fork next rest => exact ⟨[], by simp, rfl, [], (List.append_nil _).symm, .nil⟩
  | halt finished running =>
      refine ⟨[], by simp, ?_, [], (List.append_nil _).symm, .nil⟩
      exact congrArg some (refines.halt self pool.state).symm

/-- The view of every reached pool is that of a ledger, in which every process finds what it
has written. -/
theorem ledger (refines : Refines view act writes means allowed first)
    (start : ∀ proc ∈ first.procs, proc.past = []) (reached : Pool.Reaches allowed first pool) :
    ∃ ledger : List (Line Deed), replay act (view first.state) ledger = some (view pool.state) ∧
      (∀ line ∈ ledger, line.who < pool.procs.length) ∧
      ∀ self proc, pool.procs[self]? = some proc →
        List.Forall₂ (means proc.tag) (proc.written writes) (own self ledger) := by
  induction reached with
  | refl =>
      refine ⟨[], rfl, by simp, fun self proc known => ?_⟩
      unfold Proc.written
      rw [start proc (List.mem_of_getElem? known)]
      exact .nil
  | @step pool next self before taken condition ih =>
      obtain ⟨ledger, replayed, inside, each⟩ := ih
      obtain ⟨proc, after, children, known, advanced, procs⟩ := Pool.step_cases taken
      obtain ⟨more, whos, acted, new, written, meant⟩ := refines.advance before known advanced
      have bound : self < pool.procs.length := List.getElem?_eq_some_iff.mp known |>.1
      have longer : pool.procs.length ≤ next.procs.length := by
        rw [procs, List.length_append, List.length_set]
        exact Nat.le_add_right _ _
      refine ⟨ledger ++ more, ?_, ?_, ?_⟩
      · rw [replay_append, replayed]
        exact acted
      · intro line mem
        rcases List.mem_append.mp mem with mem | mem
        · exact Nat.lt_of_lt_of_le (inside line mem) longer
        · rw [whos line mem]
          exact Nat.lt_of_lt_of_le bound longer
      · intro other otherProc otherKnown
        rw [own_append]
        cases Pool.successor procs otherKnown with
        | old oldKnown apart =>
            have none : own other more = [] := own_none fun line mem =>
              whos line mem ▸ Ne.symm apart
            rw [none, List.append_nil]
            exact each other otherProc oldKnown
        | stepped same equal =>
            subst same equal
            rw [own_all whos, written, Pool.Advance.tag_eq advanced]
            exact List.rel_append (each other proc known) meant
        | child fresh mem =>
            have earlier : own other ledger = [] := own_none fun line lineMem =>
              Nat.ne_of_lt (Nat.lt_of_lt_of_le (inside line lineMem) fresh)
            have later : own other more = [] := own_none fun line lineMem =>
              whos line lineMem ▸ Nat.ne_of_lt (Nat.lt_of_lt_of_le bound fresh)
            rw [earlier, later]
            unfold Proc.written
            rw [(advanced.past_child otherProc mem).1]
            exact .nil

end Refines

end Process
