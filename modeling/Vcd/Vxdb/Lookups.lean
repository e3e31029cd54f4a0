import Vcd.Methods
import Vcd.Process.History
import Vcd.Sql.Reading

/-!
# Lookups

A program that only queries the database is a function of the answers to its queries.
This module states that function for each lookup, and what it means on the rows of a
database.
-/

namespace Vcd

open Sql Process

/-! ## Programs that only query -/

/-- An answer to every query text. -/
abbrev Oracle := Str → Option (List Row)

/-- The answers of a database. -/
abbrev Vxdb.oracle (db : Vxdb) : Oracle :=
  prepareText db

variable {α β : Type}

/-- The value of a program that only queries. -/
def answer (oracle : Oracle) : Method α → Option α
  | .pure value => some value
  | .op (.prepare sql) next => answer oracle (next (oracle sql))
  | _ => none

/-- The program only queries, and it returns. -/
def Lookup : Method α → Prop
  | .pure _ => True
  | .op (.prepare _) next => ∀ reply, Lookup (next reply)
  | _ => False

def Op.IsPrepare : Op → Prop
  | .prepare _ => True
  | _ => False

theorem Lookup.bind {program : Method α} {rest : α → Method β} (first : Lookup program)
    (later : ∀ value, Lookup (rest value)) : Lookup (program >>= rest) := by
  induction program with
  | pure value => exact later value
  | fail fault => exact first.elim
  | exit => exact first.elim
  | op request next ih =>
      cases request with
      | prepare sql => exact fun reply => ih reply (first reply)
      | _ => exact first.elim
  | fork next ih => exact first.elim

theorem answer_bind (oracle : Oracle) (program : Method α) (rest : α → Method β) :
    answer oracle (program >>= rest) =
      (answer oracle program).bind fun value => answer oracle (rest value) := by
  induction program with
  | pure value => rfl
  | fail fault => rfl
  | exit => rfl
  | op request next ih =>
      cases request with
      | prepare sql => exact ih _
      | _ => rfl
  | fork next ih => rfl

@[simp] theorem answer_pure (oracle : Oracle) (value : α) :
    answer oracle (pure value : Method α) = some value := rfl

@[simp] theorem answer_prepare (oracle : Oracle) (sql : List Piece) :
    answer oracle (vxdbPrepare sql) = some (oracle (render sql)) := rfl

theorem lookup_prepare (sql : List Piece) : Lookup (vxdbPrepare sql) := fun _ => trivial

theorem Lookup.within {program : Method α} (lookup : Lookup program) (quiet : Op → Prop) :
    program.Within (I := daemon) Op.IsPrepare quiet := by
  induction program with
  | pure value => trivial
  | fail fault => trivial
  | exit => trivial
  | op request next ih =>
      cases request with
      | prepare sql => exact ⟨trivial, fun reply => ih reply (lookup reply)⟩
      | _ => exact lookup.elim
  | fork next ih => exact lookup.elim

/-- A lookup alone returns the value for the answers of the database, which it leaves as
it is. -/
theorem Lookup.run_bind {program : Method α} (lookup : Lookup program) (world : World)
    {value : α} (known : answer world.db.oracle program = some value) (self : Nat)
    (rest : α → Method β) :
    ∃ before, (∀ step ∈ before, step.1 = world ∧ step.2.IsPrepare) ∧
      (program >>= rest).run machine self world =
        { (rest value).run machine self world with
          trace := before ++ ((rest value).run machine self world).trace } := by
  induction program with
  | pure result =>
      obtain rfl := Option.some.inj known
      exact ⟨[], by simp, rfl⟩
  | fail fault => exact lookup.elim
  | exit => exact lookup.elim
  | op request next ih =>
      cases request with
      | prepare sql =>
          obtain ⟨before, queries, equal⟩ := ih _ (lookup (prepareText world.db sql)) known
          refine ⟨(world, .prepare sql) :: before, ?_, ?_⟩
          · simpa [Op.IsPrepare] using queries
          · change Completed.mk _ _ _ = _
            rw [show ((next (prepareText world.db sql)).bind rest).run machine self world = _
              from equal]
            rfl
      | _ => exact lookup.elim
  | fork next ih => exact lookup.elim

theorem Lookup.outcome_bind {program : Method α} (lookup : Lookup program) (world : World)
    {value : α} (known : answer world.db.oracle program = some value) (self : Nat)
    (rest : α → Method β) :
    ((program >>= rest).run machine self world).outcome =
      ((rest value).run machine self world).outcome := by
  obtain ⟨before, -, ran⟩ := lookup.run_bind world known self rest
  rw [ran]

theorem Lookup.outcome {program : Method α} (lookup : Lookup program) (world : World)
    {value : α} (known : answer world.db.oracle program = some value) (self : Nat) :
    (program.run machine self world).outcome = .returned value := by
  have bound := lookup.outcome_bind world known self pure
  rwa [bind_pure] at bound

@[simp] theorem fail_bind (fault : Fault) (rest : α → Method β) :
    ((.fail fault : Method α) >>= rest) = .fail fault := rfl

@[simp] theorem ofExcept_ok_bind (value : α) (rest : α → Method β) :
    (ofExcept (.ok value) >>= rest) = rest value := rfl

@[simp] theorem ofExcept_error_bind (fault : Fault) (rest : α → Method β) :
    (ofExcept (.error fault) >>= rest) = .fail fault := rfl

/-- The outcome after an executed text. -/
theorem outcome_exec_bind (sql : List Piece) (rest : Sql.Outcome → Method β) (world : World)
    (self : Nat) :
    ((vxdbExec sql >>= rest).run machine self world).outcome =
      ((rest (execText world.db (render sql)).2).run machine self
        { world with db := (execText world.db (render sql)).1 }).outcome := rfl

/-! ## The value of each lookup -/

/-- The first row of an answer. -/
def firstRow : Option (List Row) → Option Row
  | some (row :: _) => some row
  | _ => none

section Values

variable (oracle : Oracle)

def xidIn (name : Str) : Int :=
  if validateName name then
    ((firstRow (oracle (render (sqlGetxid name)))).map (vxdbColumnUint32 · 0)).getD 0
  else 0

def nameIn (xid : Int) : Option Str :=
  if validateXid xid then
    (firstRow (oracle (render (sqlGetname xid)))).map (vxdbColumnText · 0)
  else none

def vdirIn (host : Host) (name : Str) : Str :=
  let xid := xidIn oracle name
  let vdir := if xid = 0 then []
    else ((firstRow (oracle (render (sqlGetvdir xid)))).map (vxdbColumnText · 0)).getD []
  if strIsempty vdir then strPathConcat host.vbasedir name else vdir

def gidIn (group : Str) : Int :=
  if validateGroup group then
    ((firstRow (oracle (render (sqlGetgid group)))).map (vxdbColumnInt · 0)).getD 0
  else 0

def uidIn (user : Str) : Int :=
  if validateUsername user then
    ((firstRow (oracle (render (sqlGetuid user)))).map (vxdbColumnInt · 0)).getD 0
  else 0

def validIn (host : Host) (user pass : Str) : Bool :=
  validateUsername user && !strIsempty pass &&
    (firstRow (oracle (render (sqlIsvalid user (whirlpoolPass host pass))))).isSome

def adminIn (user : Str) : Bool :=
  validateUsername user && (firstRow (oracle (render (sqlIsadmin user)))).isSome

def capabilityIn (user : Str) (cap : UInt64) : Bool :=
  uidIn oracle user ≠ 0 && (flist64Getkey vcdCapsList cap).any fun key =>
    (firstRow (oracle (render (sqlHascapability (uidIn oracle user) key)))).isSome

def capableIn (user : Str) (caps : UInt64) : Bool :=
  vcdCapsList.all fun cap => caps &&& cap.2 = 0 || capabilityIn oracle user cap.2

def ownerIn (user name : Str) : Bool :=
  uidIn oracle user ≠ 0 && (adminIn oracle user ||
    (xidIn oracle name ≠ 0 &&
      (firstRow (oracle (render (sqlIsowner (uidIn oracle user) (xidIn oracle name))))).isSome))

theorem answer_vxdbGetxid (name : Str) :
    answer oracle (vxdbGetxid name) = some (xidIn oracle name) := by
  unfold vxdbGetxid xidIn
  cases validateName name with
  | false => rfl
  | true =>
      simp only [Bool.not_true, Bool.false_eq_true, if_false, if_true, answer_bind,
        answer_prepare, Option.bind_some]
      rcases oracle (render (sqlGetxid name)) with _ | _ | ⟨row, rows⟩ <;> rfl

theorem answer_vxdbGetname (xid : Int) :
    answer oracle (vxdbGetname xid) = some (nameIn oracle xid) := by
  unfold vxdbGetname nameIn
  cases validateXid xid with
  | false => rfl
  | true =>
      simp only [Bool.not_true, Bool.false_eq_true, if_false, if_true, answer_bind,
        answer_prepare, Option.bind_some]
      rcases oracle (render (sqlGetname xid)) with _ | _ | ⟨row, rows⟩ <;> rfl

theorem answer_vxdbGetvdir (host : Host) (name : Str) :
    answer oracle (vxdbGetvdir host name) = some (vdirIn oracle host name) := by
  unfold vxdbGetvdir vdirIn
  simp only [answer_bind, answer_vxdbGetxid, Option.bind_some]
  split
  · rfl
  · simp only [answer_bind, answer_prepare, Option.bind_some]
    rcases oracle (render (sqlGetvdir (xidIn oracle name))) with _ | _ | ⟨row, rows⟩ <;> rfl

theorem answer_vxdbGetgid (group : Str) :
    answer oracle (vxdbGetgid group) = some (gidIn oracle group) := by
  unfold vxdbGetgid gidIn
  cases validateGroup group with
  | false => rfl
  | true =>
      simp only [Bool.not_true, Bool.false_eq_true, if_false, if_true, answer_bind,
        answer_prepare, Option.bind_some]
      rcases oracle (render (sqlGetgid group)) with _ | _ | ⟨row, rows⟩ <;> rfl

theorem answer_authGetuid (user : Str) :
    answer oracle (authGetuid user) = some (uidIn oracle user) := by
  unfold authGetuid uidIn
  cases validateUsername user with
  | false => rfl
  | true =>
      simp only [Bool.not_true, Bool.false_eq_true, if_false, if_true, answer_bind,
        answer_prepare, Option.bind_some]
      rcases oracle (render (sqlGetuid user)) with _ | _ | ⟨row, rows⟩ <;> rfl

theorem answer_authIsvalid (host : Host) (user pass : Str) :
    answer oracle (authIsvalid host user pass) = some (validIn oracle host user pass) := by
  unfold authIsvalid validIn
  cases validateUsername user with
  | false => rfl
  | true =>
      cases strIsempty pass with
      | true => rfl
      | false =>
          simp only [Bool.not_true, Bool.or_self, Bool.false_eq_true, if_false, answer_bind,
            answer_prepare, Option.bind_some]
          rcases oracle _ with _ | _ | ⟨row, rows⟩ <;> rfl

theorem answer_authIsadmin (user : Str) :
    answer oracle (authIsadmin user) = some (adminIn oracle user) := by
  unfold authIsadmin adminIn
  cases validateUsername user with
  | false => rfl
  | true =>
      simp only [Bool.not_true, Bool.false_eq_true, if_false, answer_bind, answer_prepare,
        Option.bind_some]
      rcases oracle (render (sqlIsadmin user)) with _ | _ | ⟨row, rows⟩ <;> rfl

theorem answer_authHascapability (user : Str) (cap : UInt64) :
    answer oracle (authHascapability user cap) = some (capabilityIn oracle user cap) := by
  unfold authHascapability capabilityIn
  simp only [answer_bind, answer_authGetuid, Option.bind_some]
  split
  next none => simp [none]
  next known =>
    cases flist64Getkey vcdCapsList cap with
    | none => simp
    | some key =>
        simp only [answer_bind, answer_prepare, Option.bind_some, Option.any_some]
        rcases oracle (render (sqlHascapability (uidIn oracle user) key)) with
          _ | _ | ⟨row, rows⟩ <;> simp [known, firstRow]

theorem answer_authCapable (user : Str) (caps : UInt64) :
    answer oracle (authCapable user caps) = some (capableIn oracle user caps) := by
  unfold authCapable capableIn
  induction vcdCapsList with
  | nil => rfl
  | cons cap rest ih =>
      obtain ⟨key, value⟩ := cap
      unfold authCapableIn
      by_cases asked : caps &&& value = 0
      · simp [asked, ih]
      · simp only [ne_eq, asked, not_false_eq_true, if_true, answer_bind,
          answer_authHascapability, Option.bind_some, List.all_cons, decide_false,
          Bool.false_or]
        cases capabilityIn oracle user value <;> simp [ih]

theorem answer_authIsowner (user name : Str) :
    answer oracle (authIsowner user name) = some (ownerIn oracle user name) := by
  unfold authIsowner ownerIn
  simp only [answer_bind, answer_authGetuid, Option.bind_some]
  split
  next none => simp [none]
  next known =>
    simp only [answer_bind, answer_authIsadmin, Option.bind_some]
    cases adminIn oracle user with
    | true => simp [known]
    | false =>
        simp only [Bool.false_eq_true, if_false, answer_bind, answer_vxdbGetxid,
          Option.bind_some]
        split
        next none => simp [none]
        next found =>
          simp only [answer_bind, answer_prepare, Option.bind_some]
          rcases oracle (render (sqlIsowner (uidIn oracle user) (xidIn oracle name))) with
            _ | _ | ⟨row, rows⟩ <;> simp [known, found, firstRow]

end Values

theorem lookup_vxdbGetxid (name : Str) : Lookup (vxdbGetxid name) := by
  unfold vxdbGetxid
  split
  · trivial
  · exact (lookup_prepare _).bind fun reply => by split <;> trivial

theorem lookup_vxdbGetname (xid : Int) : Lookup (vxdbGetname xid) := by
  unfold vxdbGetname
  split
  · trivial
  · exact (lookup_prepare _).bind fun reply => by split <;> trivial

theorem lookup_vxdbGetvdir (host : Host) (name : Str) : Lookup (vxdbGetvdir host name) := by
  unfold vxdbGetvdir
  refine (lookup_vxdbGetxid name).bind fun xid => ?_
  split
  · trivial
  · exact (lookup_prepare _).bind fun reply => by split <;> trivial

theorem lookup_vxdbGetgid (group : Str) : Lookup (vxdbGetgid group) := by
  unfold vxdbGetgid
  split
  · trivial
  · exact (lookup_prepare _).bind fun reply => by split <;> trivial

theorem lookup_authGetuid (user : Str) : Lookup (authGetuid user) := by
  unfold authGetuid
  split
  · trivial
  · exact (lookup_prepare _).bind fun reply => by split <;> trivial

theorem lookup_authIsvalid (host : Host) (user pass : Str) :
    Lookup (authIsvalid host user pass) := by
  unfold authIsvalid
  split
  · trivial
  · exact (lookup_prepare _).bind fun reply => by split <;> trivial

theorem lookup_authIsadmin (user : Str) : Lookup (authIsadmin user) := by
  unfold authIsadmin
  split
  · trivial
  · exact (lookup_prepare _).bind fun reply => by split <;> trivial

theorem lookup_authHascapability (user : Str) (cap : UInt64) :
    Lookup (authHascapability user cap) := by
  unfold authHascapability
  refine (lookup_authGetuid user).bind fun uid => ?_
  split
  · trivial
  · split
    · trivial
    · exact (lookup_prepare _).bind fun reply => by split <;> trivial

theorem lookup_authCapableIn (user : Str) (caps : UInt64) (list : Flist) :
    Lookup (authCapableIn user caps list) := by
  induction list with
  | nil => trivial
  | cons cap rest ih =>
      unfold authCapableIn
      split
      · refine (lookup_authHascapability user _).bind fun has => ?_
        split
        · trivial
        · exact ih
      · exact ih

theorem lookup_authCapable (user : Str) (caps : UInt64) : Lookup (authCapable user caps) :=
  lookup_authCapableIn user caps vcdCapsList

theorem lookup_authIsowner (user name : Str) : Lookup (authIsowner user name) := by
  unfold authIsowner
  refine (lookup_authGetuid user).bind fun uid => ?_
  split
  · trivial
  refine (lookup_authIsadmin user).bind fun admin => ?_
  split
  · trivial
  refine (lookup_vxdbGetxid name).bind fun xid => ?_
  split
  · trivial
  exact (lookup_prepare _).bind fun reply => by split <;> trivial

end Vcd
