import Vcd.ConfigFrame
import Vcd.Discipline.Helpers
import Vcd.Trails
import Vcd.Vxdb.Statements

/-!
# Scheduler configuration

The loop of `context_scheduler` writes to all CPUs for a row without one, and to a single CPU
otherwise. Since the rows come in the order of their CPU, the general one first, every CPU
ends with the row that is most specific to it.
-/

namespace Vcd

open Sql Process

/-! ## Overriding writes -/

section Overwrites

variable {ω π ν : Type}

/-- Writes in their order; each sets the places it covers. -/
def overwrite (covers : ω → π → Bool) (value : ω → ν) (writes : List ω) (before : π → ν) : π → ν :=
  writes.foldl (fun now write place => if covers write place then value write else now place) before

variable {covers : ω → π → Bool} {value : ω → ν} {writes : List ω} {before : π → ν} {place : π}

theorem overwrite_keeps {result : ν} (start : before place = result)
    (same : ∀ write ∈ writes, covers write place = true → value write = result) :
    overwrite covers value writes before place = result := by
  unfold overwrite
  induction writes generalizing before with
  | nil => exact start
  | cons write rest ih =>
      rw [List.foldl_cons]
      apply ih
      · split
        next covered => exact same write (.head _) covered
        next => exact start
      · intro other mem
        exact same other (.tail _ mem)

/-- A place holds what the last write that covers it has set. -/
theorem overwrite_of_last {precedes : ω → ω → Prop} (ordered : writes.Pairwise precedes)
    {write : ω} (mem : write ∈ writes) (covered : covers write place = true)
    (last : ∀ other ∈ writes, covers other place = true → precedes write other → other = write) :
    overwrite covers value writes before place = value write := by
  obtain ⟨front, rest, rfl⟩ := List.append_of_mem mem
  have later := (List.pairwise_cons.mp (List.pairwise_append.mp ordered).2.1).1
  unfold overwrite
  rw [List.foldl_append, List.foldl_cons]
  apply overwrite_keeps
  · rw [covered]
    rfl
  · intro other otherMem otherCovers
    rw [last other (List.mem_append_right _ (.tail _ otherMem)) otherCovers (later other otherMem)]

end Overwrites

/-! ## Configurations -/

/-- The values of a context's scheduler on one CPU. -/
structure Sched where
  fillrate : Int
  interval : Int
  tokensmin : Int
  tokensmax : Int
  deriving DecidableEq, Repr

/-- The CPUs a call is about: all that are online without a CPU id, that CPU with one. -/
def coversCpu (nproc : Int) : Option Int → Int → Bool
  | none, cpu => 0 ≤ cpu && cpu < nproc
  | some cpuid, cpu => cpu = cpuid

/-- What an operation makes of the configuration of a context. -/
def schedules (nproc xid : Int) (config : Int → Sched) : Op → Int → Sched
  | .sys (.vxSchedSet context cpuid fillrate interval _ _ tokensmin tokensmax _) =>
      if context = xid then
        overwrite (coversCpu nproc) (fun _ => ⟨fillrate, interval, tokensmin, tokensmax⟩) [cpuid]
          config
      else config
  | _ => config

/-- The configuration in force after some operations. -/
def inForce (nproc xid : Int) (previous : Int → Sched) (ops : List Op) : Int → Sched :=
  ops.foldl (schedules nproc xid) previous

/-! ## Rows -/

variable {host : Host} {xid : Int} {process : Nat} {world : World} {db : Vxdb}

/-- An integer column of a row of `vx_sched`. -/
def schedColumn (column : Str) (row : Row) : Int :=
  vxdbColumnInt [Table.vxSched.cell row column] 0

/-- The CPU of a row; minus one for all. -/
def rowCpu : Row → Int :=
  schedColumn (cstr "cpuid")

def rowSched (row : Row) : Sched where
  fillrate := schedColumn (cstr "fillrate") row
  interval := schedColumn (cstr "interval") row
  tokensmin := schedColumn (cstr "tokensmin") row
  tokensmax := schedColumn (cstr "tokensmax") row

/-- The row of a context for a CPU. -/
def rowFor (db : Vxdb) (xid cpuid : Int) : Option Row :=
  (db.rows Table.vxSched).find? fun row => ofXid (int32 xid) row &&
    (Table.vxSched.cell row (cstr "cpuid")).same (.int cpuid)

/-- The most specific row counts, on the CPUs that are online. -/
def configured (db : Vxdb) (nproc xid : Int) (previous : Int → Sched) (cpu : Int) : Sched :=
  if 0 ≤ cpu ∧ cpu < nproc then
    ((rowFor db xid cpu <|> rowFor db xid (-1)).map rowSched).getD (previous cpu)
  else previous cpu

/-- The rows of a context have CPUs from minus one on. -/
def CpuRows (db : Vxdb) (xid : Int) : Prop :=
  ∀ row ∈ db.rows Table.vxSched, ofXid (int32 xid) row = true →
    ∃ cpuid, Table.vxSched.cell row (cstr "cpuid") = .int cpuid ∧ -1 ≤ cpuid ∧ cpuid < 2 ^ 31

/-- The query of `context_scheduler`. -/
def schedulerQuery (xid : Int) : Select where
  projections := [.column none (cstr "cpuid"), .column none (cstr "fillrate"),
    .column none (cstr "fillrate2"), .column none (cstr "interval"),
    .column none (cstr "interval2"), .column none (cstr "tokensmin"),
    .column none (cstr "tokensmax")]
  table := cstr "vx_sched"
  join := none
  condition := some (.eq (.column none (cstr "xid")) (.int (int32 xid)))
  order := some (none, cstr "cpuid", false)
  limit := none

/-- The columns of a row that the loop reads. -/
def schedRow (row : Row) : Row :=
  (schedulerQuery 0).project vxdbSchema Table.vxSched row

theorem prepareText_sqlScheduler (db : Vxdb) (xid : Int) : ∃ sorted : List Row,
    sorted.Perm ((db.rows Table.vxSched).filter (ofXid (int32 xid))) ∧
      sorted.Pairwise (fun left right => (Table.vxSched.cell left (cstr "cpuid")).le
        (Table.vxSched.cell right (cstr "cpuid")) = true) ∧
      prepareText db (render (sqlScheduler xid)) = some (sorted.map schedRow) := by
  have query := @prepareText_query vxdbSchema (sqlScheduler xid) (schedulerQuery xid)
    (by simp [sqlScheduler, xidPiece, Piece.Free]) (by rfl) db
  obtain ⟨sorted, perm, ascending, ran⟩ := @Select.run_table_ascending vxdbSchema
    (schedulerQuery xid) Table.vxSched (cstr "cpuid") (by rfl) (by rfl) (by rfl) (by rfl) (by rfl)
    (by rfl) db
  exact ⟨sorted, perm, ascending, query.trans ran⟩

/-! ## The loop -/

/-- The call for a row. -/
def schedCall (xid : Int) (row : Row) : Sys :=
  .vxSchedSet xid (if rowCpu row ≥ 0 then some (rowCpu row) else none) (rowSched row).fillrate
    (rowSched row).interval (schedColumn (cstr "fillrate2") row)
    (schedColumn (cstr "interval2") row) (rowSched row).tokensmin (rowSched row).tokensmax
    (schedColumn (cstr "fillrate2") row > 0 && schedColumn (cstr "interval2") row > 0)

/-- Rows for CPUs that are not online are skipped. -/
def schedOps (nproc xid : Int) (row : Row) : List Op :=
  if rowCpu row < nproc then [.sys (schedCall xid row)] else []

theorem contextSchedulerRow_eq (host : Host) (xid : Int) (row : Row) :
    contextSchedulerRow host xid (schedRow row) =
      if rowCpu row < host.nproc then
        sysOrFault (cstr "context_scheduler") (cstr "vx_sched_set") (schedCall xid row)
      else pure () :=
  rfl

/-- The operation is no call that fails. -/
def CallSucceeds (step : World × Op) : Prop :=
  ∀ call, step.2 = .sys call → (step.1.kernel step.1.clock call).rc ≠ -1

theorem trail_scheduler (rows : List Row)
    (succeed : ∀ step ∈ (((rows.map schedRow).forM (contextSchedulerRow host xid)).run machine
      process world).trace, CallSucceeds step) :
    (((rows.map schedRow).forM (contextSchedulerRow host xid)).run machine process
      world).trace.map Prod.snd = rows.flatMap (schedOps host.nproc xid) := by
  induction rows generalizing world with
  | nil => rfl
  | cons row rest ih =>
      change ∀ step ∈ ((contextSchedulerRow host xid (schedRow row) >>= fun _ =>
        (rest.map schedRow).forM (contextSchedulerRow host xid)).run machine process world).trace,
        CallSucceeds step at succeed
      change ((contextSchedulerRow host xid (schedRow row) >>= fun _ =>
        (rest.map schedRow).forM (contextSchedulerRow host xid)).run machine process
          world).trace.map Prod.snd = _
      rw [List.flatMap_cons, schedOps]
      rw [contextSchedulerRow_eq] at succeed ⊢
      split
      next online =>
        rw [if_pos online] at succeed
        unfold sysOrFault at succeed ⊢
        rw [bind_assoc, run_sys] at succeed ⊢
        have returned := succeed _ (.head _) _ rfl
        simp only [if_neg returned, pure_bind] at succeed ⊢
        rw [List.map_cons, ih fun step mem => succeed step (.tail _ mem)]
        rfl
      next offline =>
        rw [if_neg offline, pure_bind] at succeed
        rw [pure_bind, ih succeed]
        rfl

/-! ## What is in force -/

/-- The CPUs a row sets. -/
def rowCovers (nproc : Int) (row : Row) (cpu : Int) : Bool :=
  rowCpu row < nproc &&
    coversCpu nproc (if rowCpu row ≥ 0 then some (rowCpu row) else none) cpu

theorem inForce_rows (nproc xid : Int) (rows : List Row) (previous : Int → Sched) :
    inForce nproc xid previous (rows.flatMap (schedOps nproc xid)) =
      overwrite (rowCovers nproc) rowSched rows previous := by
  unfold inForce overwrite
  induction rows generalizing previous with
  | nil => rfl
  | cons row rest ih =>
      rw [List.flatMap_cons, List.foldl_append, List.foldl_cons, ih]
      congr 1
      unfold schedOps rowCovers
      split
      next online =>
        funext cpu
        have own : schedules nproc xid previous (.sys (schedCall xid row)) =
            overwrite (coversCpu nproc) (fun _ => rowSched row)
              [if rowCpu row ≥ 0 then some (rowCpu row) else none] previous := by
          exact if_pos rfl
        rw [List.foldl_cons, List.foldl_nil, own]
        simp [overwrite, online]
      next offline => simp [offline]

/-- A row covers its own CPU, or all online ones. -/
theorem rowCovers_iff {nproc cpu : Int} {row : Row} (low : -1 ≤ rowCpu row) :
    rowCovers nproc row cpu = true ↔
      0 ≤ cpu ∧ cpu < nproc ∧ (rowCpu row = cpu ∨ rowCpu row = -1) := by
  unfold rowCovers coversCpu
  by_cases general : rowCpu row = -1
  · simp [general]
    omega
  · have single : rowCpu row ≥ 0 := by omega
    simp [single, general]
    omega

section Rows

variable (cpus : CpuRows db xid)

include cpus

/-- The CPU of a row is stored as it is read. -/
theorem CpuRows.cell {row : Row} (mem : row ∈ db.rows Table.vxSched)
    (own : ofXid (int32 xid) row = true) :
    Table.vxSched.cell row (cstr "cpuid") = .int (rowCpu row) ∧ -1 ≤ rowCpu row := by
  obtain ⟨cpuid, known, low, high⟩ := cpus row mem own
  have read : rowCpu row = cpuid := by
    unfold rowCpu schedColumn
    rw [known]
    change int32 cpuid = cpuid
    exact Int.bmod_eq_of_le (by omega) (by omega)
  rw [read]
  exact ⟨known, low⟩

/-- A context has one row for a CPU. -/
theorem CpuRows.unique {left right : Row} (leftMem : left ∈ db.rows Table.vxSched)
    (leftOwn : ofXid (int32 xid) left = true) (rightMem : right ∈ db.rows Table.vxSched)
    (rightOwn : ofXid (int32 xid) right = true) (same : rowCpu left = rowCpu right) :
    left = right := by
  apply @eq_of_index db Table.vxSched [cstr "xid", cstr "cpuid"] (by decide) _ _ leftMem rightMem
  intro column mem
  rcases List.mem_cons.mp mem with rfl | mem
  · change (xidOf left).same (xidOf right) = true
    rw [ofXid_iff.mp leftOwn, ofXid_iff.mp rightOwn]
    exact Value.same_self nofun
  · obtain rfl := List.mem_singleton.mp mem
    rw [(cpus.cell leftMem leftOwn).1, (cpus.cell rightMem rightOwn).1, same]
    exact Value.same_self nofun

theorem CpuRows.rowFor_eq_some {row : Row} (mem : row ∈ db.rows Table.vxSched)
    (own : ofXid (int32 xid) row = true) : rowFor db xid (rowCpu row) = some row := by
  cases found : rowFor db xid (rowCpu row) with
  | none =>
      have missing := List.find?_eq_none.mp found row mem
      have itself : (Value.int (rowCpu row)).same (.int (rowCpu row)) = true :=
        Value.same_self nofun
      rw [own, (cpus.cell mem own).1, itself] at missing
      exact absurd rfl missing
  | some other =>
      have chosen := List.find?_some found
      have otherMem := List.mem_of_find?_eq_some found
      rw [Bool.and_eq_true] at chosen
      have known := (cpus.cell otherMem chosen.1).1.symm.trans
        ((Value.same_int_right _ _).mp chosen.2)
      exact congrArg some (cpus.unique otherMem chosen.1 mem own (Value.int.inj known))

theorem CpuRows.of_rowFor {cpuid : Int} {row : Row} (found : rowFor db xid cpuid = some row) :
    row ∈ db.rows Table.vxSched ∧ ofXid (int32 xid) row = true ∧ rowCpu row = cpuid := by
  have chosen := List.find?_some found
  have mem := List.mem_of_find?_eq_some found
  rw [Bool.and_eq_true] at chosen
  have known := (cpus.cell mem chosen.1).1.symm.trans ((Value.same_int_right _ _).mp chosen.2)
  exact ⟨mem, chosen.1, Value.int.inj known⟩

end Rows

/-- Rows in the order of their CPUs leave the most specific one in force. -/
theorem overwrite_rows (cpus : CpuRows db xid) {sorted : List Row}
    (perm : sorted.Perm ((db.rows Table.vxSched).filter (ofXid (int32 xid))))
    (ascending : sorted.Pairwise fun left right => (Table.vxSched.cell left (cstr "cpuid")).le
      (Table.vxSched.cell right (cstr "cpuid")) = true)
    (nproc : Int) (previous : Int → Sched) :
    overwrite (rowCovers nproc) rowSched sorted previous = configured db nproc xid previous := by
  funext cpu
  have stored {row : Row} (mem : row ∈ sorted) :
      row ∈ db.rows Table.vxSched ∧ ofXid (int32 xid) row = true :=
    List.mem_filter.mp (perm.subset mem)
  have listed {row : Row} (mem : row ∈ db.rows Table.vxSched)
      (own : ofXid (int32 xid) row = true) : row ∈ sorted :=
    perm.symm.subset (List.mem_filter.mpr ⟨mem, own⟩)
  have covers {row : Row} (mem : row ∈ sorted) : rowCovers nproc row cpu = true ↔
      0 ≤ cpu ∧ cpu < nproc ∧ (rowCpu row = cpu ∨ rowCpu row = -1) :=
    rowCovers_iff (cpus.cell (stored mem).1 (stored mem).2).2
  have ordered : sorted.Pairwise fun left right => rowCpu left ≤ rowCpu right := by
    refine ascending.imp_of_mem fun leftMem rightMem below => ?_
    rw [(cpus.cell (stored leftMem).1 (stored leftMem).2).1,
      (cpus.cell (stored rightMem).1 (stored rightMem).2).1] at below
    exact of_decide_eq_true below
  have same {left right : Row} (leftMem : left ∈ sorted) (rightMem : right ∈ sorted)
      (equal : rowCpu left = rowCpu right) : left = right :=
    cpus.unique (stored leftMem).1 (stored leftMem).2 (stored rightMem).1 (stored rightMem).2 equal
  unfold configured
  by_cases online : 0 ≤ cpu ∧ cpu < nproc
  · rw [if_pos online]
    cases own : rowFor db xid cpu with
    | some row =>
        obtain ⟨mem, ofContext, equal⟩ := cpus.of_rowFor own
        have rowMem := listed mem ofContext
        refine overwrite_of_last ordered rowMem ((covers rowMem).mpr ⟨online.1, online.2, .inl equal⟩) ?_
        intro other otherMem otherCovers above
        have one := ((covers otherMem).mp otherCovers).2.2
        exact same otherMem rowMem (by omega)
    | none =>
        have others {row : Row} (mem : row ∈ sorted) (covered : rowCovers nproc row cpu = true) :
            rowCpu row = -1 := by
          refine ((covers mem).mp covered).2.2.resolve_left fun equal => ?_
          have found := cpus.rowFor_eq_some (stored mem).1 (stored mem).2
          rw [equal, own] at found
          cases found
        cases general : rowFor db xid (-1) with
        | some row =>
            obtain ⟨mem, ofContext, equal⟩ := cpus.of_rowFor general
            have rowMem := listed mem ofContext
            refine overwrite_of_last ordered rowMem
              ((covers rowMem).mpr ⟨online.1, online.2, .inr equal⟩) ?_
            intro other otherMem otherCovers _
            exact same otherMem rowMem ((others otherMem otherCovers).trans equal.symm)
        | none =>
            refine overwrite_keeps rfl fun row mem covered => ?_
            have found := cpus.rowFor_eq_some (stored mem).1 (stored mem).2
            rw [others mem covered, general] at found
            cases found
  · rw [if_neg online]
    refine overwrite_keeps rfl fun row mem covered => ?_
    have inside := (covers mem).mp covered
    exact absurd ⟨inside.1, inside.2.1⟩ online

/-- After `context_scheduler` the most specific row of the context is in force on every CPU,
if all its calls succeed. -/
theorem scheduler_in_force (host : Host) (xid : Int) (process : Nat) (world : World)
    (previous : Int → Sched) (cpus : CpuRows world.db xid)
    (succeed : ∀ step ∈ ((contextScheduler host xid).run machine process world).trace,
      CallSucceeds step) :
    inForce host.nproc xid previous
      (((contextScheduler host xid).run machine process world).trace.map Prod.snd) =
        configured world.db host.nproc xid previous := by
  obtain ⟨sorted, perm, ascending, known⟩ := prepareText_sqlScheduler world.db xid
  have trace : ((contextScheduler host xid).run machine process world).trace =
      (world, .prepare (render (sqlScheduler xid))) ::
        (((sorted.map schedRow).forM (contextSchedulerRow host xid)).run machine process
          world).trace := by
    unfold contextScheduler selectRows
    rw [bind_assoc, run_prepare, known]
    rfl
  rw [trace] at succeed ⊢
  have trail := trail_scheduler sorted fun step mem => succeed step (.tail _ mem)
  rw [List.map_cons, trail]
  exact (inForce_rows host.nproc xid sorted previous).trans
    (overwrite_rows cpus perm ascending host.nproc previous)

/-- A row for all CPUs and one for the first. -/
def scheduled : World :=
  World.boot ((oneServer.replace Table.vxSched
    [.int 5, .int 0, .int 2, .int 0, .int 8, .int 0, .int 10, .int 100]).replace Table.vxSched
      [.int 5, .int (-1), .int 1, .int 0, .int 4, .int 0, .int 5, .int 50]) idleKernel

theorem cpuRows_scheduled : CpuRows scheduled.db 5 := by
  intro row mem _
  rcases List.mem_cons.mp mem with rfl | mem
  · exact ⟨0, rfl, by decide, by decide⟩
  · obtain rfl := List.mem_singleton.mp mem
    exact ⟨-1, rfl, by decide, by decide⟩

/-- The operation is not a call that fails. -/
def callSucceeds (step : World × Op) : Bool :=
  match step.2 with
  | .sys call => (step.1.kernel step.1.clock call).rc != -1
  | _ => true

theorem succeeds_scheduled :
    ∀ step ∈ ((contextScheduler default 5).run machine 0 scheduled).trace, CallSucceeds step := by
  have all : ((contextScheduler default 5).run machine 0 scheduled).trace.all callSucceeds :=
    by decide +kernel
  intro step mem call equal
  have succeeded := List.all_eq_true.mp all step mem
  unfold callSucceeds at succeeded
  rw [equal] at succeeded
  simpa using succeeded

theorem scheduler_in_force_scheduled :
    inForce (default : Host).nproc 5 (fun _ => ⟨0, 0, 0, 0⟩)
      (((contextScheduler default 5).run machine 0 scheduled).trace.map Prod.snd) =
        configured scheduled.db (default : Host).nproc 5 fun _ => ⟨0, 0, 0, 0⟩ :=
  scheduler_in_force default 5 0 scheduled _ cpuRows_scheduled succeeds_scheduled

/-- The row of the first CPU overrides the general one, which was stored after it. -/
example : configured scheduled.db 1 5 (fun _ => ⟨0, 0, 0, 0⟩) 0 = ⟨2, 8, 10, 100⟩ := by
  decide +kernel

end Vcd
