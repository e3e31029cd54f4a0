import Vcd.Sql.Engine

/-!
# Scripts that fail inside a transaction

A script that starts a transaction, changes tables and commits. Any of its statements may
fail, for a reason of its own or because it violates an index. The library stops there. It
leaves the transaction open, or rolls it back if it cannot go on.
-/

namespace Sql

variable {schema : Schema}

namespace Command

/-- The statement neither starts nor ends a transaction. -/
def isPlain : Command schema → Bool
  | .begin | .commit => false
  | .query | .change _ => true

end Command

/-- No statement starts or ends a transaction. -/
def isPlain (script : List (Option (Command schema))) : Bool :=
  script.all (·.all Command.isPlain)

/-- Plain statements between the start of a transaction and its end. -/
def isBatch : List (Option (Command schema)) → Bool
  | some .begin :: rest =>
      match rest.getLast? with
      | some (some .commit) => isPlain rest.dropLast
      | _ => false
  | _ => false

theorem isBatch_iff {script : List (Option (Command schema))} :
    isBatch script = true ↔ ∃ body, isPlain body = true ∧
      script = some .begin :: body ++ [some .commit] := by
  constructor
  · intro batch
    unfold isBatch at batch
    split at batch
    next rest =>
      split at batch
      next last =>
        refine ⟨rest.dropLast, batch, ?_⟩
        rw [List.cons_append, List.dropLast_append_getLast?]
        exact last
      next => contradiction
    next => contradiction
  · rintro ⟨body, plain, rfl⟩
    simpa [isBatch] using plain

/-- How the library answers a statement that fails: it undoes the statement only, or it rolls
the whole transaction back, as when the disk is full or an interrupt arrives. -/
inductive Failure where
  | statement | transaction
  deriving DecidableEq, Repr

namespace Connection

variable {connection : Connection schema}

/-- Undo an open transaction. -/
def rollback (connection : Connection schema) : Connection schema :=
  { connection with db := connection.committed, saved := none }

/-- The connection after a statement failed. -/
def fails (connection : Connection schema) : Failure → Connection schema
  | .statement => connection
  | .transaction => connection.rollback

/-- Run the commands up to the first failure, where some of them fail for a reason of their
own. -/
def execFaulty (connection : Connection schema) (faulty : Nat → Option Failure) :
    List (Option (Command schema)) → Connection schema × Option Failure
  | [] => (connection, none)
  | command :: rest =>
      match faulty 0 with
      | some failure => (connection.fails failure, some failure)
      | none =>
          if (connection.exec [command]).2 then
            (connection.exec [command]).1.execFaulty (fun index => faulty (index + 1)) rest
          else ((connection.exec [command]).1, some .statement)

theorem exec_cons (command : Option (Command schema)) (rest : List (Option (Command schema))) :
    connection.exec (command :: rest) =
      if (connection.exec [command]).2 then (connection.exec [command]).1.exec rest
      else connection.exec [command] := by
  cases command with
  | none => rfl
  | some command =>
      cases command with
      | query => rfl
      | begin => cases saved : connection.saved <;> simp [exec, saved]
      | commit => cases saved : connection.saved <;> simp [exec, saved]
      | change change => cases applied : change.apply connection.db <;> simp [exec, applied]

/-- Without failures of their own, commands run as they do. -/
theorem execFaulty_none (script : List (Option (Command schema))) :
    connection.execFaulty (fun _ => none) script =
      ((connection.exec script).1,
        if (connection.exec script).2 then none else some .statement) := by
  induction script generalizing connection with
  | nil => rfl
  | cons command rest ih =>
      rw [exec_cons]
      simp only [execFaulty]
      split
      · exact ih
      · simp

/-- Plain statements and a commit that fail inside a transaction stop there, and leave it open
or roll it back. -/
theorem execFaulty_body {body : List (Option (Command schema))} (plain : isPlain body = true)
    (faulty : Nat → Option Failure) {before : Database schema}
    (inside : connection.saved = some before) {failure : Failure}
    (failed : (connection.execFaulty faulty (body ++ [some .commit])).2 = some failure) :
    ∃ stopped : Connection schema, stopped.saved = some before ∧
      (connection.execFaulty faulty (body ++ [some .commit])).1 = stopped.fails failure := by
  induction body generalizing connection faulty with
  | nil =>
      rw [List.nil_append] at failed ⊢
      cases now : faulty 0 with
      | some own =>
          simp only [execFaulty, now, Option.some.injEq] at failed ⊢
          exact ⟨connection, inside, by rw [failed]⟩
      | none => simp [execFaulty, now, exec, inside] at failed
  | cons command rest ih =>
      simp only [isPlain, List.all_cons, Bool.and_eq_true] at plain
      rw [List.cons_append] at failed ⊢
      cases now : faulty 0 with
      | some own =>
          simp only [execFaulty, now, Option.some.injEq] at failed ⊢
          exact ⟨connection, inside, by rw [failed]⟩
      | none =>
          have stops (fails : (connection.exec [command]).2 = false)
              (same : (connection.exec [command]).1 = connection) :
              ∃ stopped : Connection schema, stopped.saved = some before ∧
                (connection.execFaulty faulty (command :: (rest ++ [some .commit]))).1 =
                  stopped.fails failure := by
            simp only [execFaulty, now, fails, Bool.false_eq_true, if_false,
              Option.some.injEq] at failed ⊢
            exact ⟨connection, inside, by rw [← failed]; exact same⟩
          have goes (succeeds : (connection.exec [command]).2 = true)
              (saved : (connection.exec [command]).1.saved = some before) :
              ∃ stopped : Connection schema, stopped.saved = some before ∧
                (connection.execFaulty faulty (command :: (rest ++ [some .commit]))).1 =
                  stopped.fails failure := by
            simp only [execFaulty, now, succeeds, if_true] at failed ⊢
            exact ih plain.2 _ saved failed
          cases command with
          | none => exact stops rfl rfl
          | some command =>
              cases command with
              | begin => cases plain.1
              | commit => cases plain.1
              | query => exact goes rfl inside
              | change change =>
                  cases applied : change.apply connection.db with
                  | none => exact stops (by simp [exec, applied]) (by simp [exec, applied])
                  | some db => exact goes (by simp [exec, applied]) (by simp [exec, applied, inside])

/-- After a batch that failed, the connection is outside any transaction and shows the tables
it showed before exactly if the transaction could not be started from outside of one, or if
the library rolled back and there was nothing else to undo. -/
theorem execFaulty_batch_iff {script : List (Option (Command schema))}
    (batch : isBatch script = true) (faulty : Nat → Option Failure) {failure : Failure}
    (failed : (connection.execFaulty faulty script).2 = some failure) :
    ((connection.execFaulty faulty script).1.saved = none ∧
      ∀ table, (connection.execFaulty faulty script).1.db.rows table =
        connection.db.rows table) ↔
      connection.saved = none ∧ (faulty 0).isSome = true ∨ failure = .transaction ∧
        ∀ table, connection.committed.rows table = connection.db.rows table := by
  obtain ⟨body, plain, rfl⟩ := isBatch_iff.mp batch
  rw [List.cons_append] at failed ⊢
  cases now : faulty 0 with
  | some own =>
      simp only [execFaulty, now, Option.some.injEq] at failed ⊢
      subst failed
      cases own with
      | statement => simp [fails]
      | transaction =>
          simp only [fails, rollback, Option.isSome_some, and_true, true_and]
          refine ⟨.inr, fun before => before.elim (fun outside table => ?_) id⟩
          rw [committed, outside, Option.getD_none]
  | none =>
      cases saved : connection.saved with
      | some before =>
          simp only [execFaulty, now, exec, saved, Bool.false_eq_true, if_false,
            Option.some.injEq] at failed ⊢
          subst failed
          simp
      | none =>
          simp only [execFaulty, now, exec, saved, if_true] at failed ⊢
          obtain ⟨stopped, inside, left⟩ := execFaulty_body plain _ rfl failed
          rw [left]
          cases failure with
          | statement => simp [fails, inside]
          | transaction => simp [fails, rollback, committed, inside, saved]

end Connection

end Sql
