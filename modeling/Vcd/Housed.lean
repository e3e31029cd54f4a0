import Vcd.Sql.References
import Vcd.Steps

/-!
# Configuration of virtual servers that exist

Every row with a context id belongs to a virtual server with a name. The clean requests keep
it that way, except that `vx.remove` forgets the processor sets.
-/

namespace Vcd

open Sql Process

/-! ## References -/

/-- The tables with a context id beside `xid_name_map`. -/
def xidTables : List Table :=
  [.dxLimit, .init, .mount, .nxAddr, .nxBroadcast, .restart, .vdir, .vxBcaps, .vxCcaps,
    .vxCpuset, .vxFlags, .vxLimit, .vxSched, .vxUname, .xidGidMap, .xidUidMap]

/-- The context ids of a table refer to virtual servers. -/
def home (table : Table) : Reference vxdbSchema :=
  ⟨table, cstr "xid", Table.xidNameMap, cstr "xid"⟩

/-- Every row of the tables with a context id belongs to a virtual server. -/
def AllHoused (db : Vxdb) : Prop :=
  ∀ table ∈ xidTables, (home table).Holds db

instance (db : Vxdb) : Decidable (AllHoused db) :=
  inferInstanceAs (Decidable (∀ table ∈ xidTables, _))

/-- The context ids of virtual servers are in range, and everything belongs to one of them. -/
structure Housed (db : Vxdb) : Prop where
  names : ∀ row ∈ db.rows Table.xidNameMap, ∃ xid, xidOf row = .int xid ∧ 2 ≤ xid ∧ xid ≤ 65535
  homes : AllHoused db

/-- The context id belongs to a virtual server. -/
def HasName (db : Vxdb) (xid : Int) : Prop :=
  ∃ row ∈ db.rows Table.xidNameMap, xidOf row = .int xid

theorem housed_freshVxdb (uptime : Int) : Housed (freshVxdb uptime) where
  names _ mem := by cases mem
  homes table listed := by
    have empty : (freshVxdb uptime).rows table = [] := by
      simp only [xidTables, List.mem_cons, List.not_mem_nil, or_false] at listed
      rcases listed with rfl | rfl | rfl | rfl | rfl | rfl | rfl | rfl | rfl | rfl | rfl | rfl |
        rfl | rfl | rfl | rfl <;> rfl
    intro row mem
    have none : row ∈ (freshVxdb uptime).rows table := mem
    simp [empty] at none

variable {setup : Setup} {request : Request} {first db next : Vxdb}

theorem home_value {table : Table} (listed : table ∈ xidTables) (row : Row) :
    (home table).value row = xidOf row := by
  have firstColumn : ∀ table ∈ xidTables, table.columns.idxOf (cstr "xid") = 0 := by decide
  exact congrArg (row.getD · .null) (firstColumn table listed)

theorem home_names {table : Table} {xid : Int} :
    (home table).Names db (.int xid) ↔ HasName db xid :=
  Iff.rfl

/-! ## Context ids -/

theorem int32_of_range {xid : Int} (low : 2 ≤ xid) (high : xid ≤ 65535) : int32 xid = xid :=
  int32_of_small (by omega) (by omega)

/-- The context id that has a name belongs to a virtual server. -/
theorem hasName_of_named {name : Str} {xid : Int} (named : nameIn db.oracle xid = some name) :
    HasName db (int32 xid) := by
  unfold nameIn at named
  split at named
  · rw [firstRow_sqlGetname] at named
    cases found : (db.rows Table.xidNameMap).find? fun row =>
        (Table.xidNameMap.cell row (cstr "xid")).same (.int (int32 xid)) with
    | none => simp [found] at named
    | some row =>
        have chosen := List.find?_some found
        exact ⟨row, List.mem_of_find?_eq_some found, (Value.same_int_right _ _).mp chosen⟩
  · cases named

/-- The context ids of virtual servers are in range. -/
def InRange (db : Vxdb) : Prop :=
  ∀ row ∈ db.rows Table.xidNameMap, ∃ xid, xidOf row = .int xid ∧ 2 ≤ xid ∧ xid ≤ 65535

/-- The context id a name denotes belongs to a virtual server. -/
theorem InRange.of_means (names : InRange db) {name : Str} {xid : Int} (means : Means db name xid) :
    HasName db xid ∧ 2 ≤ xid ∧ xid ≤ 65535 := by
  obtain ⟨-, known, nonzero⟩ := means
  obtain ⟨-, row, mem, -, read⟩ := mem_of_xidIn (known.trans_ne nonzero)
  obtain ⟨stored, cell, low, high⟩ := names row mem
  have same : stored = xid := by
    have value : Table.xidNameMap.cell row (cstr "xid") = .int stored := cell
    rw [value, known] at read
    exact (uint32_of_small (by omega) (by omega)).symm.trans read
  subst same
  exact ⟨⟨row, mem, cell⟩, low, high⟩

theorem Housed.of_means (housed : Housed db) {name : Str} {xid : Int} (means : Means db name xid) :
    HasName db xid ∧ 2 ≤ xid ∧ xid ≤ 65535 :=
  InRange.of_means housed.names means

/-- The answer to the query for a new context id. -/
theorem prepareText_sqlCountMax : prepareText db (render sqlCountMax) =
    some [[.int ((db.rows Table.xidNameMap).filter fun row =>
        Table.xidNameMap.cell row (cstr "xid") != .null).length,
      .maximum ((db.rows Table.xidNameMap).map xidOf)]] := by
  have query := @prepareText_query vxdbSchema sqlCountMax
    {
      projections := [.count (cstr "xid"), .max (cstr "xid")], table := cstr "xid_name_map"
      join := none, condition := none, order := none, limit := none }
    (by simp [sqlCountMax, Piece.Free]) (by rfl) db
  have summary := @Select.run_summary vxdbSchema
    {
      projections := [.count (cstr "xid"), .max (cstr "xid")], table := cstr "xid_name_map"
      join := none, condition := none, order := none, limit := none }
    Table.xidNameMap (by rfl) (by rfl) (by rfl) (by rfl) (by rfl) db
  rw [query, summary]
  simp [Projection.summary, List.filter_map, Function.comp_def, Schema.env]
  rfl

theorem firstRow_sqlCountMax : firstRow (db.oracle (render sqlCountMax)) =
    some [.int ((db.rows Table.xidNameMap).filter fun row =>
        Table.xidNameMap.cell row (cstr "xid") != .null).length,
      .maximum ((db.rows Table.xidNameMap).map xidOf)] := by
  rw [Vxdb.oracle, prepareText_sqlCountMax]
  rfl

/-- A new context id is in range. -/
theorem InRange.of_free (names : InRange db) {xid : Int} (free : freeXidIn db.oracle = some xid) :
    2 ≤ xid ∧ xid ≤ 65535 := by
  rw [freeXidIn, firstRow_sqlCountMax, Option.bind_some, nextXid] at free
  by_cases none : db.rows Table.xidNameMap = []
  · have two : (2 : Int) = xid := by simpa [none, vxdbColumnInt, columnScan, column, int32] using free
    omega
  · have nonempty : (db.rows Table.xidNameMap).map xidOf ≠ [] := by simpa using none
    obtain ⟨row, mem, largest⟩ := List.mem_map.mp (Value.maximum_mem nonempty)
    obtain ⟨stored, cell, low, high⟩ := names row mem
    rw [← largest, cell] at free
    have read : vxdbColumnInt [.int ((db.rows Table.xidNameMap).filter fun row =>
        Table.xidNameMap.cell row (cstr "xid") != .null).length, .int stored] 1 = stored :=
      int32_of_range low high
    rw [read] at free
    split at free
    · have two := Option.some.inj free
      omega
    · split at free
      · have next := Option.some.inj free
        rw [uint32_of_small (by omega) (by omega)] at next
        omega
      · cases free

/-! ## What changes preserve -/

namespace Housed

variable (housed : Housed db)

include housed

/-- The rows of virtual servers stay, and new rows belong to one of them. -/
theorem of_grown (names : next.rows Table.xidNameMap = db.rows Table.xidNameMap)
    (fresh : ∀ table ∈ xidTables, ∀ row ∈ next.rows table,
      row ∈ db.rows table ∨ ∃ xid, xidOf row = .int xid ∧ HasName db xid) : Housed next where
  names row mem := housed.names row (names ▸ mem)
  homes table listed := by
    have kept : db.rows Table.xidNameMap ⊆ next.rows Table.xidNameMap :=
      names ▸ List.Subset.refl _
    refine (housed.homes table listed).step (fun row mem => ?_)
      fun _ _ known => known.of_subset kept
    refine (fresh table listed row mem).imp_right ?_
    rintro ⟨xid, own, named⟩
    rw [home_value listed, own]
    exact Reference.Names.of_subset (home_names.mpr named) kept

/-- An effect on the rows of a virtual server. -/
theorem of_effect {tables : List Table} {xid : Int}
    (effect : Effect (rowsOf tables xid) (rowsOf tables xid) db next)
    (apart : Table.xidNameMap ∉ tables) (named : HasName db xid) : Housed next := by
  refine housed.of_grown (effect.rows_eq fun row => by simp [rowsOf, apart]) ?_
  intro table _ row mem
  refine (effect.fresh table row mem).imp_right fun added => ?_
  exact ⟨xid, (rowsOf_iff.mp added).2, named⟩

/-- Rights relate virtual servers that have names. -/
theorem of_rights {write : RightsWrite} (meant : write.Meant db)
    (applied : applyAll db write.changes = some next) : Housed next := by
  have effect := Effect.applyAll write.stays applied
  have named : ∀ xid ∈ write.related.map int32, HasName db xid := by
    have found {name : Str} {xid : Int} (means : Means db name xid) : HasName db (int32 xid) := by
      obtain ⟨named, low, high⟩ := housed.of_means means
      rwa [int32_of_range low high]
    cases write with
    | ownerAdd xid uid =>
        obtain ⟨-, name, means⟩ := meant
        exact fun other mem => Option.some.inj mem ▸ found means
    | memberInsert xid gid =>
        obtain ⟨⟨name, means⟩, -⟩ := meant
        exact fun other mem => Option.some.inj mem ▸ found means
    | _ => exact fun other mem => by cases mem
  refine housed.of_grown (effect.rows_eq fun row => by rfl) fun table listed row mem => ?_
  refine (effect.fresh table row mem).imp_right fun added => ?_
  have others : ∀ table ∈ xidTables, table ∉ userTables := by decide
  simp only [granted, Bool.or_eq_true, allOf_iff, others table listed, false_or,
    Option.any_eq_true] at added
  obtain ⟨xid, related, own⟩ := added
  exact ⟨xid, (rowsOf_iff.mp own).2, named xid related⟩

/-- A virtual server goes with everything except its processor set. -/
theorem of_remove {xid : Int}
    (applied : applyAll db (removedTables.map (deleteXid xid)) = some next)
    (free : ∀ row ∈ db.rows Table.vxCpuset, xidOf row ≠ .int (int32 xid)) : Housed next := by
  obtain ⟨last, known, rows⟩ := applyAll_deletes db removedTables fun _ => ofXid (int32 xid)
  obtain rfl : last = next := Option.some.inj (known.symm.trans applied)
  have names : last.rows Table.xidNameMap = _ := rows Table.xidNameMap
  constructor
  · intro row mem
    rw [names] at mem
    exact housed.names row (List.mem_of_mem_filter mem)
  intro table listed
  refine (housed.homes table listed).delete_key (.int (int32 xid)) (fun row mem => ?_)
    fun row mem other => ?_
  · rw [home_value listed]
    by_cases removed : table ∈ removedTables
    · have here := rows table
      rw [if_pos removed] at here
      have kept := List.mem_filter.mp (here ▸ mem)
      exact ⟨kept.1, (Bool.not_eq_true' _).mp kept.2⟩
    · have here := rows table
      rw [if_neg removed] at here
      have only : ∀ table ∈ xidTables, table ∉ removedTables → table = .vxCpuset := by decide
      obtain rfl := only table listed removed
      have old : row ∈ db.rows Table.vxCpuset := here ▸ mem
      exact ⟨old, Bool.eq_false_iff.mpr fun same =>
        free row old ((Value.same_int_right _ _).mp same)⟩
  · exact names ▸ List.mem_filter.mpr ⟨mem, (Bool.not_eq_true' _).mpr other⟩

/-- A virtual server keeps its context id when it gets a new name. -/
theorem of_rename {newname : Str} {xid : Int}
    (applied : applyAll db [renameChange newname xid] = some next) : Housed next := by
  have updated := applyAll_singleton.symm.trans applied
  have names := Database.rows_update_same updated
  have keeps (row : Row) :
      xidOf (if ofXid (int32 xid) row then [xidOf row, .str newname] else row) = xidOf row := by
    split <;> rfl
  constructor
  · intro row mem
    rw [names] at mem
    obtain ⟨old, oldMem, rfl⟩ := List.mem_map.mp mem
    obtain ⟨stored, known, range⟩ := housed.names old oldMem
    exact ⟨stored, (keeps old).trans known, range⟩
  · intro table listed
    have apart : ∀ table ∈ xidTables, table ≠ .xidNameMap := by decide
    exact (housed.homes table listed).map_target
      (Database.rows_update_other updated (apart table listed)) names fun row _ => keeps row

/-- A virtual server that is created or rebuilt has its name again. -/
theorem of_create {entries : Entries} {xid : Int}
    (applied : applyAll db (createChanges xid entries) = some next)
    (low : 2 ≤ xid) (high : xid ≤ 65535) : Housed next := by
  have small := int32_of_range low high
  have effect := effect_create applied
  rw [small] at effect
  have own : HasName next xid := by
    refine ⟨[.int (int32 xid), .str entries.name], ?_, congrArg Value.int small⟩
    rw [rows_create applied]
    refine List.mem_append_right _ (List.mem_map.mpr ⟨(.xidNameMap, _), ?_, rfl⟩)
    simp [Entries.rows]
  have lasting {value : Value} (named : (home .init).Names db value) :
      (home .init).Names next value := by
    by_cases same : value = .int xid
    · exact same ▸ own
    · obtain ⟨row, mem, cell⟩ := named
      refine ⟨row, effect.mem_of_mem mem ?_, cell⟩
      have other : ¬ xidOf row = .int xid := fun equal => same (cell.symm.trans equal)
      simp [rowsOf, ofXid, Bool.eq_false_iff, other]
  constructor
  · intro row mem
    rcases effect.fresh _ row mem with old | added
    · exact housed.names row old
    · exact ⟨xid, (rowsOf_iff.mp added).2, low, high⟩
  · intro table listed
    refine (housed.homes table listed).step (fun row mem => ?_) fun _ _ => lasting
    refine (effect.fresh _ row mem).imp_right fun added => ?_
    rw [home_value listed, (rowsOf_iff.mp added).2]
    exact own

end Housed

/-! ## Runs -/

/-- Who may remove a virtual server removes one without a processor set. -/
def CpusetFree (request : Request) (first : Vxdb) : Prop :=
  request.method = cstr "vx.remove" → ∀ user name, request.user = .ok user →
    request.text (cstr "name") = .ok name → ownerIn first.oracle user name = true →
      ∀ row ∈ first.rows Table.vxCpuset, xidOf row ≠ .int (int32 (xidIn first.oracle name))

/-- All changes of clean requests that do not remove a processor set. -/
theorem Housed.of_changed (housed : Housed db) (free : CpusetFree request first)
    (changed : Changed setup request first db next) : Housed next := by
  cases changed with
  | same rows =>
      have apart : ∀ table ∈ xidTables, table ≠ .vcd := by decide
      refine housed.of_grown (rows _ nofun) fun table listed row mem => ?_
      exact .inl (rows table (apart table listed) ▸ mem)
  | config table name xid listed means effect =>
      obtain ⟨named, low, high⟩ := housed.of_means means
      rw [int32_of_range low high] at effect
      have apart : ∀ table ∈ configTables, Table.xidNameMap ∉ [table] := by decide
      exact housed.of_effect effect (apart table listed) named
  | restart name xid named effect =>
      exact housed.of_effect effect (by decide) (hasName_of_named named)
  | rights write kind _ meant applied => exact housed.of_rights meant applied
  | remove user name xid kind userEq nameEq owned means unchanged applied =>
      refine housed.of_remove applied ?_
      rw [ownerIn_of_rows (unchanged _ nofun) (unchanged _ nofun) (unchanged _ nofun)] at owned
      have none := free (writeKind_remove kind) user name userEq nameEq owned
      rwa [← xidIn_of_rows (unchanged _ nofun), means.2.1, ← unchanged Table.vxCpuset nofun] at none
  | rename name newname xid kind nameEq newnameEq valid means unchanged applied =>
      exact housed.of_rename applied
  | create user name param vdir xid conf entries kind userEq nameEq paramEq valid checked short
      resolved target known assembled clean unchanged applied =>
      have range : 2 ≤ xid ∧ xid ≤ 65535 := by
        rcases target with means | free
        · exact (housed.of_means means).2
        · exact InRange.of_free housed.names free
      exact housed.of_create applied range.1 range.2

theorem kept_housed (harmless : Harmless setup request first) (free : CpusetFree request first) :
    Kept setup request first Housed :=
  kept_of_changed harmless fun _ _ housed changed => housed.of_changed free changed

/-- In every run of clean requests from a fresh database that remove no virtual server with a
processor set, every row with a context id belongs to a virtual server. -/
theorem configuration_housed (host : Host) (uptime : Int) (first last : World)
    (fresh : first.db = freshVxdb uptime)
    (serves : Serves host (fun templates request world =>
      Harmless ⟨host, templates⟩ request world.db ∧ CpusetFree request world.db) first last) :
    AllHoused last.db := by
  have start : Housed first.db := fresh ▸ housed_freshVxdb uptime
  have reached : Housed last.db := serves.invariant start fun templates request world allowed
      housed => serve_keeps (kept_housed allowed.1 allowed.2) housed
  exact reached.homes

/-- The administrator creates a virtual server on the machine of the examples. -/
def withServer : World :=
  serve plainSetup (createRequest (cstr "web")) (World.boot (freshVxdb 0) idleKernel)

/-- A capability for the second server. -/
def mailRequest : Request :=
  adminRequest (cstr "vxdb.vx.bcaps.add") (cstr "mail") [(cstr "bcap", .str (cstr "AUDIT_WRITE"))]

def withTwoServers : World :=
  serve plainSetup mailRequest (serve plainSetup (createRequest (cstr "mail")) withServer)

def webRemoval : Request :=
  adminRequest (cstr "vx.remove") (cstr "web") []

theorem served_withTwoServers : Serves default (fun templates request world =>
    Harmless ⟨default, templates⟩ request world.db ∧ CpusetFree request world.db)
      (World.boot (freshVxdb 0) idleKernel) withTwoServers := by
  refine .step (.step (.step .refl (fun _ => .fileError) (createRequest (cstr "web")) ?_)
    (fun _ => .fileError) (createRequest (cstr "mail")) ?_) (fun _ => .fileError) mailRequest ?_
  · exact ⟨⟨fun _ _ known => texts_struct known (by decide), fun _ => nofun,
      .of_params (by rfl) (by rfl) (by rfl) (by decide +kernel)⟩, nofun⟩
  · exact ⟨⟨fun _ _ known => texts_struct known (by decide), fun _ => nofun,
      .of_params (by rfl) (by rfl) (by rfl) (by decide +kernel)⟩, nofun⟩
  · exact ⟨⟨fun _ _ known => texts_struct known (by decide), nofun, nofun⟩, nofun⟩

/-- The first server is removed, and the configuration of the second stays. -/
theorem configuration_housed_create :
    xidIn withTwoServers.db.oracle (cstr "web") = 2 ∧
      (serve plainSetup webRemoval withTwoServers).db.rows Table.vxBcaps ≠ [] ∧
      AllHoused (serve plainSetup webRemoval withTwoServers).db := by
  refine ⟨by decide +kernel, by decide +kernel, ?_⟩
  have none : withTwoServers.db.rows Table.vxCpuset = [] := by decide +kernel
  refine configuration_housed default 0 (World.boot (freshVxdb 0) idleKernel) _ rfl
    (.step served_withTwoServers (fun _ => .fileError) webRemoval
      ⟨⟨fun _ _ known => texts_struct known (by decide), nofun, nofun⟩, ?_⟩)
  intro _ user name _ _ _ row mem
  rw [none] at mem
  cases mem

/-- A processor set for the virtual server. -/
def cpusetRequest : Request :=
  adminRequest (cstr "vxdb.vx.cpuset.set") (cstr "web")
    [(cstr "cpus", .str (cstr "0")), (cstr "mems", .str (cstr "0")),
      (cstr "virtualize", .bool false)]

/-- The processor set of a virtual server outlives it. -/
theorem configuration_housed_cpuset : ¬ ∀ (host : Host) (uptime : Int) (first last : World),
    first.db = freshVxdb uptime →
    Serves host (fun templates request _ => request.Free ∧ templates.All QuoteFree) first last →
    AllHoused last.db := by
  intro housed
  have clean : Templates.All QuoteFree fun _ => .fileError := nofun
  have all := housed default 0 (World.boot (freshVxdb 0) idleKernel) _ rfl
    (.step (.step (.step .refl _ (createRequest (cstr "web"))
      ⟨fun _ _ known => texts_struct known (by decide), clean⟩) _ cpusetRequest
      ⟨fun _ _ known => texts_struct known (by decide), clean⟩) _
      (adminRequest (cstr "vx.remove") (cstr "web") [])
      ⟨fun _ _ known => texts_struct known (by decide), clean⟩)
  exact absurd all (by decide +kernel)

end Vcd
