import Vcd.Discipline.Registry

/-!
# Requests handled one at a time

A request that runs alone reads what it wrote: its recent answers are those of the current
database. An invariant that every permitted text keeps therefore holds at each of its
operations, and at the end of a whole sequence of requests.
-/

namespace Vcd

open Sql Process

/-! ## What was found out is so -/

section Meaning

variable {oracle : Oracle} {past : Past}

theorem Read.agrees {sql : List Piece} {holds : Row → Prop} (read : Read past sql holds)
    (agrees : Agrees oracle past) : ∃ row, firstRow (oracle (render sql)) = some row ∧ holds row := by
  obtain ⟨reply, row, asked, first, known⟩ := read
  rw [agrees _ _ asked]
  exact ⟨row, first, known⟩

theorem Found.agrees {sql : List Piece} (found : Found past sql) (agrees : Agrees oracle past) :
    (firstRow (oracle (render sql))).isSome := by
  obtain ⟨reply, asked, some⟩ := found
  rwa [agrees _ _ asked]

theorem Looked.xidIn {name : Str} {xid : Int} (looked : Looked past name xid)
    (agrees : Agrees oracle past) : Vcd.xidIn oracle name = xid := by
  obtain ⟨row, first, known⟩ := looked.2.2.agrees agrees
  rw [Vcd.xidIn, looked.1, first]
  exact known

theorem Named.nameIn {name : Str} {xid : Int} (named : Named past xid name)
    (agrees : Agrees oracle past) : Vcd.nameIn oracle xid = some name := by
  obtain ⟨row, first, known⟩ := named.2.agrees agrees
  rw [Vcd.nameIn, named.1, first]
  exact congrArg some known

theorem HasUid.uidIn {user : Str} {uid : Int} (known : HasUid past user uid)
    (agrees : Agrees oracle past) : Vcd.uidIn oracle user = uid := by
  obtain ⟨row, first, read⟩ := known.2.2.agrees agrees
  rw [Vcd.uidIn, known.1, first]
  exact read

theorem Found.adminIn {user : Str} (valid : validateUsername user = true)
    (found : Found past (sqlIsadmin user)) (agrees : Agrees oracle past) :
    Vcd.adminIn oracle user = true := by
  rw [Vcd.adminIn, valid, found.agrees agrees]
  rfl

theorem Owned.ownerIn {user name : Str} (owned : Owned past user name)
    (agrees : Agrees oracle past) : Vcd.ownerIn oracle user name = true := by
  obtain ⟨uid, known, found | ⟨xid, looked, found⟩⟩ := owned
  · simp [Vcd.ownerIn, known.uidIn agrees, known.2.1, found.adminIn known.1 agrees]
  · simp [Vcd.ownerIn, known.uidIn agrees, known.2.1, looked.xidIn agrees, looked.2.1,
      found.agrees agrees]

end Meaning

/-! ## One request -/

/-- All tables except the counters have the same rows. -/
def SameRows (first db : Vxdb) : Prop :=
  ∀ table, table ≠ .vcd → db.rows table = first.rows table

/-- The answers in the past of a request that started on `first` are those of databases with
the invariant, the recent ones those of the current database. Until the request writes, only
counters change. -/
structure Explained (first : Vxdb) (inv : Vxdb → Prop) (past : Past) (db : Vxdb) : Prop where
  holds : inv db
  unchanged : Untouched past → SameRows first db
  answered : ∀ sql reply, (⟨.prepare sql, reply⟩ : Performed daemon) ∈ past →
    ∃ earlier, inv earlier ∧ prepareText earlier sql = reply
  current : Agrees db.oracle (recent past)
  wrote : ∀ sql, Wrote past sql → ∃ earlier, inv earlier ∧
    (execText earlier (render sql)).1 = db ∧ (execText earlier (render sql)).2.ok = true

/-- What a request may execute keeps the invariant, and changes nothing if it fails. -/
def Kept (setup : Setup) (request : Request) (first : Vxdb) (inv : Vxdb → Prop) : Prop :=
  ∀ past db sql, Explained first inv past db → Permitted setup request past (.exec sql) →
    inv (execText db sql).1 ∧ ((execText db sql).2.ok = false → (execText db sql).1 = db)

variable {first : Vxdb} {inv : Vxdb → Prop} {setup : Setup} {request : Request} {past : Past}

theorem Untouched.tail {event : Performed daemon} (untouched : Untouched (event :: past)) :
    Untouched past :=
  fun sql outcome mem => untouched sql outcome (List.mem_cons_of_mem event mem)

theorem Explained.start (holds : inv first) : Explained first inv [] first where
  holds
  unchanged _ _ _ := rfl
  answered _ _ mem := by cases mem
  current _ _ mem := by cases mem
  wrote sql wrote := by
    obtain ⟨new, outcome, old, equal, -⟩ := wrote
    exact absurd equal (by simp)

/-- An operation that is no query and no execution tells nothing about the database. -/
theorem Explained.other {db : Vxdb} (explained : Explained first inv past db) {op : Op}
    (reply : op.Reply) (steady : ¬ op.IsExec) (mute : ¬ op.IsPrepare) :
    Explained first inv (⟨op, reply⟩ :: past) db where
  holds := explained.holds
  unchanged untouched := explained.unchanged untouched.tail
  answered sql answer mem := by
    rcases List.mem_cons.mp mem with equal | mem
    · cases equal
      exact absurd trivial mute
    · exact explained.answered sql answer mem
  current := by
    rw [recent_cons steady]
    intro sql answer mem
    rcases List.mem_cons.mp mem with equal | mem
    · cases equal
      exact absurd trivial mute
    · exact explained.current sql answer mem
  wrote sql wrote := by
    obtain ⟨new, outcome, old, equal, ok, queries⟩ := wrote
    cases new with
    | nil =>
        cases (List.cons.inj equal).1
        exact absurd trivial steady
    | cons event new =>
        cases (List.cons.inj equal).1
        exact absurd (queries _ List.mem_cons_self) mute

theorem Explained.prepare {db : Vxdb} (explained : Explained first inv past db) (sql : Str) :
    Explained first inv (⟨.prepare sql, prepareText db sql⟩ :: past) db where
  holds := explained.holds
  unchanged untouched := explained.unchanged untouched.tail
  answered text reply mem := by
    rcases List.mem_cons.mp mem with equal | mem
    · cases equal
      exact ⟨db, explained.holds, rfl⟩
    · exact explained.answered text reply mem
  current := by
    rw [recent_cons id]
    intro text reply mem
    rcases List.mem_cons.mp mem with equal | mem
    · cases equal
      rfl
    · exact explained.current text reply mem
  wrote text wrote := by
    obtain ⟨new, outcome, old, equal, ok, queries⟩ := wrote
    cases new with
    | nil => cases (List.cons.inj equal).1
    | cons event new =>
        exact explained.wrote text ⟨new, outcome, old, (List.cons.inj equal).2, ok,
          fun event mem => queries event (List.mem_cons_of_mem _ mem)⟩

theorem Explained.exec {db : Vxdb} (explained : Explained first inv past db) {sql : Str}
    (holds : inv (execText db sql).1)
    (failed : (execText db sql).2.ok = false → (execText db sql).1 = db) :
    Explained first inv (⟨.exec sql, (execText db sql).2⟩ :: past) (execText db sql).1 where
  holds
  unchanged untouched := by
    have same := explained.unchanged untouched.tail
    rcases untouched sql _ List.mem_cons_self with counts | unsuccessful
    · intro table other
      rw [← same table other]
      exact Counts.rows counts db other
    · rwa [failed unsuccessful]
  answered text reply mem := by
    rcases List.mem_cons.mp mem with equal | mem
    · cases equal
    · exact explained.answered text reply mem
  current := by
    cases ok : (execText db sql).2.ok with
    | true =>
        have forgotten : recent (⟨.exec sql, (execText db sql).2⟩ :: past) = [] := by
          unfold recent since
          rw [List.takeWhile_cons_of_neg]
          simp [endsEra, ok]
        rw [forgotten]
        intro text reply mem
        cases mem
    | false =>
        have kept : recent (⟨.exec sql, (execText db sql).2⟩ :: past) =
            ⟨.exec sql, (execText db sql).2⟩ :: recent past := by
          unfold recent since
          rw [List.takeWhile_cons_of_pos]
          simp [endsEra, ok]
        rw [kept, failed ok]
        intro text reply mem
        rcases List.mem_cons.mp mem with equal | mem
        · cases equal
        · exact explained.current text reply mem
  wrote text wrote := by
    obtain ⟨new, outcome, old, equal, ok, queries⟩ := wrote
    cases new with
    | nil =>
        cases (List.cons.inj equal).1
        exact ⟨db, explained.holds, rfl, ok⟩
    | cons event new =>
        cases (List.cons.inj equal).1
        exact absurd (queries _ List.mem_cons_self) id

/-- A step of a request keeps its past explained. -/
theorem Explained.step {self : Nat} {world : World} {op : Op}
    (kept : Kept setup request first inv) (explained : Explained first inv past world.db)
    (permitted : Permitted setup request past op) :
    Explained first inv (⟨op, (World.performs self world op).1⟩ :: past)
      (World.performs self world op).2.db := by
  cases op with
  | prepare sql => exact explained.prepare sql
  | exec sql =>
      obtain ⟨holds, failed⟩ := kept past world.db sql explained permitted
      exact explained.exec holds failed
  | sys call => exact explained.other _ id id
  | testLock name => exact explained.other _ id id
  | lock name => exact explained.other _ id id
  | mark mark => exact explained.other _ id id

/-- What a child may do changes no database. -/
theorem performs_quiet {self : Nat} {world : World} {op : Op} (quiet : Quiet op) :
    (World.performs self world op).2.db = world.db := by
  cases op with
  | exec sql => exact quiet.elim
  | _ => rfl

/-- A program that keeps the discipline of a request and runs alone keeps what permitted
texts keep, and ends with a past that explains its last state. -/
theorem run_explained {α : Type} {self : Nat} {world : World} {program : Method α}
    {post : Past → Except Fault α → Prop} (kept : Kept setup request world.db inv)
    (start : inv world.db) (meets : program.Meets (discipline setup request) [] post) :
    (∃ last, Explained world.db inv last (program.run machine self world).state.db ∧
      @Program.Ends _ _ _ (discipline setup request) post last
        (program.run machine self world).outcome) ∧
      ∀ step ∈ (program.run machine self world).trace, ∃ past,
        Explained world.db inv past step.1.db ∧ (Permitted setup request past step.2 ∨ Quiet step.2) := by
  have respects (past : Past) (current : World) (op : Op)
      (explained : Explained world.db inv past current.db)
      (permitted : Permitted setup request past op) :
      Explained world.db inv ((discipline setup request).next past op (machine.step self current op).1)
        (machine.step self current op).2.db :=
    explained.step kept permitted
  have quiet (past : Past) (current : World) (op : Op)
      (explained : Explained world.db inv past current.db)
      (quiet : Quiet op) : Explained world.db inv past (machine.step self current op).2.db := by
    change Explained world.db inv past (World.performs self current op).2.db
    rwa [performs_quiet quiet]
  exact @Program.run_meets _ _ _ machine self (discipline setup request)
    (fun past current => Explained world.db inv past current.db) respects quiet _ _ _
    meets world (Explained.start start)

/-- A request that runs alone keeps what its permitted texts keep, and every operation of it
is a permitted one at a database with the invariant. -/
theorem handle_explained {self : Nat} {world : World} (kept : Kept setup request world.db inv)
    (start : inv world.db) :
    inv ((handle setup request).run machine self world).state.db ∧
      ∀ step ∈ ((handle setup request).run machine self world).trace, ∃ past,
        Explained world.db inv past step.1.db ∧ (Permitted setup request past step.2 ∨ Quiet step.2) := by
  obtain ⟨⟨last, explained, -⟩, promised⟩ := run_explained kept start (handle_keeps setup request)
  exact ⟨explained.holds, promised⟩

/-! ## Sequences of requests -/

/-- The state after a process handled a request alone and ended. -/
def serve (setup : Setup) (request : Request) (world : World) : World :=
  World.release 0 ((handle setup request).run machine 0 world).state

theorem serve_keeps {world : World} (kept : Kept setup request world.db inv) (start : inv world.db) :
    inv (serve setup request world).db :=
  (handle_explained kept start).1

/-- The states reached by requests handled one after the other. The template files may
change from request to request. -/
inductive Serves (host : Host) (allowed : Templates → Request → World → Prop) (first : World) :
    World → Prop where
  | refl : Serves host allowed first first
  | step {world : World} (before : Serves host allowed first world) (templates : Templates)
      (request : Request) (fits : allowed templates request world) :
      Serves host allowed first (serve ⟨host, templates⟩ request world)

/-- What every allowed request keeps holds in all states reached. -/
theorem Serves.invariant {host : Host} {allowed : Templates → Request → World → Prop}
    {first last : World} (serves : Serves host allowed first last) (start : inv first.db)
    (keeps : ∀ templates request world, allowed templates request world → inv world.db →
      inv (serve ⟨host, templates⟩ request world).db) : inv last.db := by
  induction serves with
  | refl => exact start
  | step before templates request fits ih => exact keeps templates request _ fits ih

/-! ## Concrete requests -/

theorem getStr_struct {members : List (Str × Xml)} {key text : Str}
    (known : (Xml.struct members).getStr key = .ok text) : (key, .str text) ∈ members := by
  simp only [Xml.getStr, Xml.member, bind, Except.bind] at known
  cases found : members.lookup key with
  | none => simp [found] at known
  | some member =>
      cases member with
      | str other =>
          simp only [found, Except.ok.injEq] at known
          subst known
          exact mem_of_lookup_eq_some found
      | _ => simp [found] at known

/-- The texts among some values. -/
def Xml.texts (members : List (Str × Xml)) : List Str :=
  members.filterMap fun
    | (_, .str text) => some text
    | _ => none

/-- What is so of all texts in a structure is so of its members. -/
theorem texts_struct {members : List (Str × Xml)} {key text : Str} {holds : Str → Prop}
    (known : (Xml.struct members).getStr key = .ok text)
    (all : ∀ text ∈ Xml.texts members, holds text) : holds text :=
  all text (List.mem_filterMap.mpr ⟨_, getStr_struct known, rfl⟩)

/-- Credentials of the administrator of a fresh database. -/
def adminCredentials : Xml :=
  .struct [(cstr "username", .str (cstr "admin")),
    (cstr "password", .str (cstr "WHIRLPOOLENC//*"))]

/-- A request of the administrator about a virtual server. -/
def adminRequest (method name : Str) (params : List (Str × Xml)) : Request where
  method
  credentials := adminCredentials
  params := .struct ((cstr "name", .str name) :: params)

/-- Nothing runs, no file exists except the template directories, and every call succeeds. -/
def idleKernel : Sys → Answer
  | .vxInfo _ | .nxInfo _ => { rc := -1, errno := esrch }
  | .isdir path => { rc := if (cstr "/templates").isPrefixOf path then 1 else 0 }
  | _ => { rc := 0 }

/-- The virtual server runs. -/
def runningKernel : Sys → Answer
  | .vxInfo _ => { rc := 0 }
  | call => idleKernel call

/-- A request of the administrator for a virtual server in its default directory. -/
def createRequest (name : Str) : Request :=
  adminRequest (cstr "vx.create") name
    [(cstr "template", .str (cstr "debian")), (cstr "force", .bool true),
      (cstr "copy", .bool false), (cstr "vdir", .str [])]

/-- Another name for the virtual server `web`. -/
def wwwRequest : Request :=
  adminRequest (cstr "vx.rename") (cstr "web") [(cstr "newname", .str (cstr "www"))]

/-- The templates have configuration files. -/
def confKernel : Sys → Answer
  | .isfile _ => { rc := 1 }
  | call => idleKernel call

/-- What a print makes of `%c` if the argument that is not there happens to be a quote. -/
def quoteFormat : Str → Str
  | '%' :: 'c' :: rest => '\'' :: quoteFormat rest
  | char :: rest => char :: quoteFormat rest
  | [] => []

def quotingHost : Host :=
  { (default : Host) with strayFormat := quoteFormat }

/-- The machine of the examples: its templates have no configuration files. -/
def plainSetup : Setup where
  host := default
  templates := fun _ => .fileError

end Vcd
