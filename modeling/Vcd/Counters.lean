import Vcd.Ledger

/-!
# Counters

Requests at the same time add to the same counters, and no addition is lost: at any moment the
daemon has counted the requests that were told so. These are the requests that have begun,
except those whose count met with a locked database, which `method_init` does not look at.
-/

namespace Vcd

open Sql Process

variable {setup : Setup} {world : Shared} {requests : List Request} {pool : Requests}
  {proc : Proc sharedMachine Request Fault Xml} {request : Request} {past : Past} {deed : Deed}
  {sql : Str} {db last : Vxdb} {counter : Counter} {column : Str}

/-! ## One update -/

theorem cell_assign {table : Table} {assignments : List (Str × Expr)} {row : Row}
    (mem : column ∈ table.columns) :
    table.cell (vxdbSchema.assign table assignments db row) column =
      ((assignments.lookup column).map (·.value db (vxdbSchema.env table row))).getD
        (table.cell row column) := by
  unfold Table.cell Schema.cell Schema.assign
  rw [List.getD_eq_getElem?_getD, List.getElem?_map, List.getElem?_idxOf mem]
  cases found : assignments.lookup column <;> simp [found, Schema.cell]

namespace Counter

/-- The row after the counter was added to. -/
def counted (counter : Counter) (db : Vxdb) (row : Row) : Row :=
  vxdbSchema.assign Table.vcd (counter.columns.map fun column =>
    (column, .add (.column none column) (.int 1))) db row

theorem cell_counted (mem : column ∈ Table.vcd.columns) (row : Row) :
    Table.vcd.cell (counter.counted db row) column =
      if column ∈ counter.columns then (Table.vcd.cell row column).add (.int 1)
      else Table.vcd.cell row column := by
  have found : (counter.columns.map fun column =>
      (column, Expr.add (.column none column) (.int 1))).lookup column =
        if column ∈ counter.columns then some (.add (.column none column) (.int 1)) else none := by
    induction counter.columns with
    | nil => rfl
    | cons first rest ih =>
        rw [List.map_cons, List.lookup_cons]
        by_cases same : column = first
        · subst same
          simp
        · simp [same, ih, beq_eq_false_iff_ne.mpr same]
  unfold counted
  rw [cell_assign mem, found]
  split <;> rfl

theorem uptime_counted (row : Row) : Table.vcd.cell (counter.counted db row) (cstr "uptime") =
    Table.vcd.cell row (cstr "uptime") := by
  rw [cell_counted (by decide)]
  cases counter <;> rfl

/-- A counter can always be added to. -/
theorem applies (counter : Counter) (db : Vxdb) : ∃ last, counter.change.apply db = some last := by
  refine Database.update_steady db fun row chosen other => ?_
  have uptime : vxdbSchema.cell Table.vcd (counter.counted db row) (cstr "uptime") =
      vxdbSchema.cell Table.vcd row (cstr "uptime") := uptime_counted row
  have indices : vxdbSchema.unique Table.vcd = [[cstr "uptime"]] := rfl
  unfold Schema.conflict
  rw [indices]
  simp only [List.any_cons, List.any_nil, List.all_cons, List.all_nil, Bool.and_true, Bool.or_false]
  exact congrArg _ uptime

end Counter

/-- What the row of the last start says in a column. -/
def statistic (db : Vxdb) (column : Str) : Option Value :=
  ((db.rows Table.vcd).find? (current db)).map (Table.vcd.cell · column)

theorem statistic_of_rows (same : last.rows Table.vcd = db.rows Table.vcd) :
    statistic last column = statistic db column := by
  unfold statistic current
  rw [same]

/-- An addition is one to the columns of the counter. -/
theorem statistic_count (applied : counter.change.apply db = some last)
    (mem : column ∈ Table.vcd.columns) :
    statistic last column = (statistic db column).map fun value =>
      if column ∈ counter.columns then value.add (.int 1) else value := by
  have rows : last.rows Table.vcd = (db.rows Table.vcd).map fun row =>
      if current db row then counter.counted db row else row :=
    Database.rows_update_same applied
  have uptime (row : Row) : Table.vcd.cell
      (if current db row then counter.counted db row else row) (cstr "uptime") =
        Table.vcd.cell row (cstr "uptime") := by
    split
    · exact Counter.uptime_counted row
    · rfl
  have uptimes : (last.rows Table.vcd).map (fun row => Table.vcd.cell row (cstr "uptime")) =
      (db.rows Table.vcd).map fun row => Table.vcd.cell row (cstr "uptime") := by
    rw [rows, List.map_map]
    exact List.map_congr_left fun row _ => uptime row
  have same : (current last ∘ fun row => if current db row then counter.counted db row else row) =
      current db := by
    funext row
    change (Table.vcd.cell (if current db row then counter.counted db row else row)
      (cstr "uptime")).same (.maximum ((last.rows Table.vcd).map _)) = _
    rw [uptime, uptimes]
    rfl
  unfold statistic
  rw [rows, List.find?_map, same]
  cases found : (db.rows Table.vcd).find? (current db) with
  | none => rfl
  | some row =>
      simp only [Option.map_some, List.find?_some found, if_true]
      rw [Counter.cell_counted mem]

theorem Intends.rows_vcd (intends : Intends setup request past deed sql)
    (applied : applyAll db deed.changes = some last) :
    last.rows Table.vcd = db.rows Table.vcd := by
  cases intends.inherits applied Table.vcd (by decide) with
  | same rows => exact rows
  | fewer removed subset => exact absurd removed (by decide)
  | rename renames valid names => cases names
  | @create xid entries creates =>
      subst creates
      have foreign : ∀ entry ∈ entries.rows xid, ¬ entry.1 = Table.vcd := by
        intro entry mem same
        simp only [Entries.rows, List.mem_append, List.mem_cons, List.mem_map, List.not_mem_nil,
          or_false] at mem
        rcases mem with
          ((((rfl | ⟨_, -, rfl⟩) | ⟨_, -, rfl⟩) | ⟨_, -, rfl⟩) | ⟨_, -, rfl⟩) | rfl | rfl <;>
          cases same
      have none : (entries.rows xid).filter (fun entry => entry.1 = Table.vcd) = [] :=
        List.filter_eq_nil_iff.mpr (by simpa using foreign)
      rw [rows_create applied, if_neg (by decide), none]
      exact List.append_nil _

/-- A deed that counts a request adds one to the counter of requests, and no other does. -/
theorem Doing.statistic_requests (doing : Doing setup request past deed sql) (db : Vxdb) :
    statistic (execText db sql).1 (cstr "requests") =
      (statistic db (cstr "requests")).map fun value =>
        if deed.announces then value.add (.int 1) else value := by
  rw [(doing.runs db).1]
  cases doing.spells with
  | count counter =>
      obtain ⟨last, applied⟩ := counter.applies db
      have acted : applyAll db (Deed.count counter).changes = some last :=
        applyAll_singleton.trans applied
      rw [acted, Option.getD_some, statistic_count applied (by decide)]
      cases counter <;> rfl
  | asked intends =>
      have same : statistic ((applyAll db deed.changes).getD db) (cstr "requests") =
          statistic db (cstr "requests") := by
        cases acted : applyAll db deed.changes with
        | none => rfl
        | some last => exact statistic_of_rows (intends.rows_vcd acted)
      rw [same, intends.not_announces]
      simp

/-- The count of a request is made unless the database is locked, and its process is told so. -/
theorem Doing.performed_requests (doing : Doing setup request past deed sql) (shared : Shared)
    (self : Nat) {count : Int} (known : statistic shared.db (cstr "requests") = some (.int count)) :
    statistic (shared.performs self (.exec sql)).2.db (cstr "requests") =
      some (.int (count + if deed.announces && !shared.refusing then 1 else 0)) := by
  have performed := congrArg Prod.fst (Shared.performs_exec shared self sql)
  dsimp only at performed
  rw [performed]
  cases shared.refusing with
  | true => simpa using known
  | false =>
      have executed := doing.statistic_requests shared.db
      rw [known] at executed
      simp only [Bool.false_eq_true, if_false, Bool.not_false, Bool.and_true]
      rw [executed]
      cases deed.announces <;> simp [Value.add]

theorem ok_announced (announces : Announces (.exec sql)) (shared : Shared) (self : Nat) :
    (shared.performs self (.exec sql)).1.ok = !shared.refusing := by
  have counts (counter : Counter) (same : sql = render counter.sql) :
      (execText shared.db sql).2.ok = true := by
    subst same
    obtain ⟨last, applied⟩ := counter.applies shared.db
    rw [(runs_counter counter shared.db).2, applyAll_singleton, applied]
    rfl
  have performed := congrArg Prod.snd (Shared.performs_exec shared self sql)
  dsimp only at performed
  rw [performed]
  cases shared.refusing with
  | true => rfl
  | false =>
      rcases announces with same | same
      · exact counts .requests same
      · exact counts .nomethod same

/-! ## Every interleaving -/

/-- The operation was a text that was executed. -/
def accepted : Event sharedMachine → Bool
  | ⟨_, .exec _, outcome⟩ => outcome.ok
  | _ => false

/-- The first operation of a process. -/
def firstEvent (proc : Proc sharedMachine Request Fault Xml) : Option (Event sharedMachine) :=
  proc.past.getLast?

/-- The process handles a request and has begun. -/
def begun (proc : Proc sharedMachine Request Fault Xml) : Bool :=
  proc.tag.isSome && !proc.past.isEmpty

/-- The process handles a request and was told that its first text was executed. -/
def tallied (proc : Proc sharedMachine Request Fault Xml) : Bool :=
  proc.tag.isSome && (firstEvent proc).any accepted

/-- The first operation of the process counts its request, and was refused if the database was
locked. -/
def Announced (proc : Proc sharedMachine Request Fault Xml) : Prop :=
  ∃ shared sql outcome, firstEvent proc = some ⟨shared, .exec sql, outcome⟩ ∧
    Announces (.exec sql) ∧ (tallied proc = true ↔ shared.refusing = false)

/-- The process after an operation. -/
abbrev performed (proc : Proc sharedMachine Request Fault Xml) (event : Event sharedMachine)
    (rest : Method Xml) : Proc sharedMachine Request Fault Xml :=
  { proc with past := event :: proc.past, rest }

theorem firstEvent_performed {event : Event sharedMachine} {rest : Method Xml}
    (late : proc.past ≠ []) : firstEvent (performed proc event rest) = firstEvent proc :=
  List.getLast?_cons_of_ne_nil late

theorem tallied_performed {event : Event sharedMachine} {rest : Method Xml}
    (late : proc.past ≠ []) : tallied (performed proc event rest) = tallied proc := by
  unfold tallied
  rw [firstEvent_performed late]

theorem tallied_fresh {event : Event sharedMachine} {rest : Method Xml} (fresh : proc.past = []) :
    tallied (performed proc event rest) = (proc.tag.isSome && accepted event) := by
  unfold tallied firstEvent performed
  rw [fresh]
  rfl

/-- A request that does something else than to count itself has begun. -/
theorem Interleaved.past_of_op (reached : Interleaved setup world requests pool)
    (mem : proc ∈ pool.procs) (tagged : proc.tag = some request) {op : Op}
    {later : op.Reply → Method Xml} (rest : proc.rest = .op op later) (other : ¬ Announces op) :
    proc.past ≠ [] := by
  rcases Interleaved.opened reached proc mem request tagged with ⟨-, opens⟩ | ⟨begun, -⟩
  · rw [rest] at opens
    exact absurd opens.1 other
  · exact begun

/-- The first operation of a request counts it. -/
theorem Interleaved.announces_of_fresh (reached : Interleaved setup world requests pool)
    (mem : proc ∈ pool.procs) (tagged : proc.tag = some request) {op : Op}
    {later : op.Reply → Method Xml} (rest : proc.rest = .op op later) (fresh : proc.past = []) :
    Announces op := by
  by_contra other
  exact Interleaved.past_of_op reached mem tagged rest other fresh

/-- The first operation stays what it was. -/
theorem Interleaved.announced_step (reached : Interleaved setup world requests pool) {self : Nat}
    (known : pool.procs[self]? = some proc) {after : Proc sharedMachine Request Fault Xml}
    {children : List (Proc sharedMachine Request Fault Xml)} {next : Shared}
    (advanced : Pool.Advance self pool.state proc after children next)
    (before : begun proc = true → Announced proc) : begun after = true → Announced after := by
  cases advanced with
  | fork later rest => exact before
  | halt => exact before
  | op op later rest enabled =>
      intro begins
      obtain ⟨request, tagged⟩ : ∃ request, proc.tag = some request :=
        Option.isSome_iff_exists.mp (Bool.and_eq_true_iff.mp begins).1
      by_cases fresh : proc.past = []
      · have announces := Interleaved.announces_of_fresh reached (List.mem_of_getElem? known) tagged
          rest fresh
        cases op with
        | exec sql =>
            refine ⟨pool.state, sql, (pool.state.performs self (.exec sql)).1, ?_, announces, ?_⟩
            · unfold firstEvent
              rw [fresh]
              rfl
            · rw [tallied_fresh fresh, tagged]
              change (pool.state.performs self (.exec sql)).1.ok = true ↔ _
              rw [ok_announced announces, Bool.not_eq_true']
        | _ => exact announces.elim
      · obtain ⟨shared, sql, outcome, first, announces, told⟩ := before (by
          unfold begun
          rw [tagged, List.isEmpty_eq_false_iff.mpr fresh]
          rfl)
        exact ⟨shared, sql, outcome, (firstEvent_performed fresh).trans first, announces,
          tallied_performed fresh ▸ told⟩

/-- Every request that has begun has begun by counting itself. -/
theorem Interleaved.announced (reached : Interleaved setup world requests pool) :
    ∀ proc ∈ pool.procs, begun proc = true → Announced proc := by
  induction reached with
  | refl =>
      refine handlers_start fun request begins => ?_
      cases begins
  | @step pool next self before taken condition ih =>
      obtain ⟨proc, after, children, found, advanced, procs⟩ := Pool.step_cases taken
      intro other mem begins
      obtain ⟨index, known⟩ := List.getElem?_of_mem mem
      cases Pool.successor procs known with
      | old oldKnown apart => exact ih other (List.mem_of_getElem? oldKnown) begins
      | stepped same equal =>
          subst equal
          exact Interleaved.announced_step before found advanced
            (ih proc (List.mem_of_getElem? found)) begins
      | child beyond childMem =>
          simp [begun, (advanced.past_child other childMem).2.1] at begins

/-- A step adds to the counter what it adds to the requests that were told. -/
theorem Interleaved.tallied_step (clean : CleanRun setup world requests)
    (reached : Interleaved setup world requests pool) {self : Nat}
    (known : pool.procs[self]? = some proc) {after : Proc sharedMachine Request Fault Xml}
    {children : List (Proc sharedMachine Request Fault Xml)} {next : Shared}
    (advanced : Pool.Advance self pool.state proc after children next) {count : Int}
    (before : statistic pool.state.db (cstr "requests") = some (.int count)) :
    ∃ added : Nat, (if tallied after then 1 else 0) = (if tallied proc then 1 else 0) + added ∧
      statistic next.db (cstr "requests") = some (.int (count + added)) := by
  have unchanged {db : Vxdb} (same : db = pool.state.db) :
      statistic db (cstr "requests") = some (.int (count + (0 : Nat))) := by
    rw [same, before, Int.natCast_zero, Int.add_zero]
  cases advanced with
  | fork later rest => exact ⟨0, rfl, unchanged rfl⟩
  | halt => exact ⟨0, rfl, unchanged rfl⟩
  | op op later rest enabled =>
      have mem := List.mem_of_getElem? known
      have reads (quiet : ∀ sql, op ≠ .exec sql) :
          (sharedMachine.step self pool.state op).2.db = pool.state.db :=
        Shared.db_performs quiet pool.state self
      cases op with
      | exec sql =>
          obtain ⟨-, seen⟩ := Interleaved.cleanDirs clean reached
          obtain ⟨request, deed, tagged, doing, announces⟩ :=
            Interleaved.doing clean reached known (seen proc mem) rest
          have executed := doing.performed_requests pool.state self before
          by_cases fresh : proc.past = []
          · have told := ok_announced (Interleaved.announces_of_fresh reached mem tagged rest fresh)
              pool.state self
            have untold : tallied proc = false := by
              unfold tallied firstEvent
              rw [fresh]
              exact Bool.and_false _
            rw [announces, fresh] at executed
            refine ⟨if pool.state.refusing then 0 else 1, ?_, executed.trans ?_⟩
            · rw [untold, tallied_fresh fresh, tagged]
              change (if (pool.state.performs self (.exec sql)).1.ok then 1 else 0) = _
              rw [told]
              cases pool.state.refusing <;> rfl
            · cases pool.state.refusing <;> rfl
          · rw [announces, List.isEmpty_eq_false_iff.mpr fresh] at executed
            refine ⟨0, ?_, executed⟩
            rw [tallied_performed fresh, Nat.add_zero]
      | _ =>
          refine ⟨0, ?_, unchanged (reads fun _ same => by cases same)⟩
          by_cases tagged : proc.tag = none
          · simp [tallied, tagged]
          · obtain ⟨request, tagged⟩ := Option.ne_none_iff_exists'.mp tagged
            have past := Interleaved.past_of_op reached mem tagged rest id
            rw [tallied_performed past, Nat.add_zero]

/-- In every interleaving of requests without quotes the counter of requests has grown by the
number of requests that were told of their count: no addition is lost, and none is made twice.
Every request that has begun is one of them, unless its count met with a locked database. -/
theorem requests_counted (clean : CleanRun setup world requests)
    (reached : Interleaved setup world requests pool) {start : Int}
    (known : statistic world.db (cstr "requests") = some (.int start)) :
    statistic pool.state.db (cstr "requests") =
        some (.int (start + pool.procs.countP tallied)) ∧
      ∀ proc ∈ pool.procs, begun proc = true → Announced proc := by
  refine ⟨?_, Interleaved.announced reached⟩
  induction reached with
  | refl =>
      have fresh : ∀ proc ∈ (handlers setup world requests).procs, tallied proc = false :=
        handlers_start fun request => rfl
      have none : (handlers setup world requests).procs.countP tallied = 0 :=
        List.countP_eq_zero.mpr fun proc mem => Bool.eq_false_iff.mp (fresh proc mem)
      rw [none, Int.natCast_zero, Int.add_zero]
      exact known
  | @step pool next self before taken condition ih =>
      obtain ⟨proc, after, children, found, advanced, procs⟩ := Pool.step_cases taken
      obtain ⟨added, weight, grown⟩ := Interleaved.tallied_step clean before found advanced ih
      have total := Pool.countP_step found procs fun child mem =>
        show tallied child = false by simp [tallied, (advanced.past_child child mem).2.1]
      rw [grown]
      congr 2
      omega

/-- Both requests have begun, and the first one could not be tallied. -/
theorem requests_counted_taking :
    statistic (after lockedOnce [killRequest, blueRequest]
        ((List.range 18).map (· % 2))).state.db (cstr "requests") =
      some (.int (0 + (after lockedOnce [killRequest, blueRequest]
        ((List.range 18).map (· % 2))).procs.countP tallied)) ∧
    ∀ proc ∈ (after lockedOnce [killRequest, blueRequest]
      ((List.range 18).map (· % 2))).procs, begun proc = true → Announced proc :=
  requests_counted (cleanRun_taking rfl) (interleaved_after (by decide +kernel))
    (by decide +kernel)

end Vcd
