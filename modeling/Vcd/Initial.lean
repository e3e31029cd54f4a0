import Vcd.SanityCheck
import Vcd.Vxdb.Schema

/-!
# The first start

What the check of the database leaves of an empty file, and of a file that an earlier check
did not finish. A file that has tables but no version is taken for a foreign one.
-/

namespace Vcd

open Sql Process

variable {α β : Type} {file last : VxdbFile} {table : Table}

/-! ## Runs of the check -/

/-- How a program of the check ends, and with which file. -/
def concludes (program : Checking α) (file : VxdbFile) : Process.Outcome Fault α × VxdbFile :=
  ((program.run fileMachine 0 file).outcome, (program.run fileMachine 0 file).state)

theorem concludes_perform (op : SchemaOp) (rest : op.Reply → Checking β) (file : VxdbFile) :
    concludes (Program.perform (I := schemaLibrary) op >>= rest) file =
      concludes (rest (file.performs 0 op).1) (file.performs 0 op).2 := rfl

theorem concludes_bind {program : Checking α} (contained : Program.Contained program)
    {value : α} {middle : VxdbFile} (first : concludes program file = (.returned value, middle))
    (rest : α → Checking β) : concludes (program >>= rest) file = concludes (rest value) middle := by
  obtain ⟨outcome, state⟩ := Prod.mk.inj first
  unfold concludes
  rw [@Program.Contained.run_bind schemaLibrary Fault α β fileMachine 0 program contained rest file]
  unfold Program.Completed.andThen
  rw [outcome, state]

/-- The world is a part of the file's machine. -/
def rowsOfFile : Program.Component rowOperations machine fileMachine where
  get := VxdbFile.world
  put := fun file world => { file with world }
  put_get _ := rfl
  get_put _ _ := rfl
  put_put _ _ _ := rfl
  step_eq _ _ _ := ⟨rfl, rfl⟩

/-- What an embedded program of the daemon does to the file. -/
theorem concludes_embed (program : Method α) (file : VxdbFile) :
    concludes (program.embed rowOperations) file =
      ((ends program file.world).1, { file with world := (ends program file.world).2 }) := by
  obtain ⟨outcome, state⟩ := rowsOfFile.run_embed program 0 file
  exact Prod.ext outcome state

theorem contained_perform (op : SchemaOp) :
    Program.Contained (Program.perform (I := schemaLibrary) op : Checking op.Reply) :=
  ⟨trivial, fun _ => trivial⟩

/-! ## Tables -/

/-- The table and its unique indices are there. -/
def Present (file : VxdbFile) (table : Table) : Prop :=
  file.hasTable table.name = true ∧
    ∀ columns ∈ table.unique, file.hasIndex (indexName table columns) table.name = true

/-- The operations of the loop over the tables. -/
def SchemaOp.Tabling : SchemaOp → Prop
  | .hasTable _ | .hasIndex _ _ | .createTable _ | .createIndex _ _ | .insertGroup _ _ => True
  | _ => False

theorem within_checkIndex (table : Table) (columns : List Str) :
    (vxdbSanityCheckIndex table columns).Within SchemaOp.Tabling fun _ => False := by
  refine Program.Within.bind (.perform trivial) fun found => ?_
  cases found with
  | true => trivial
  | false =>
      refine Program.Within.bind (.perform trivial) fun created => ?_
      cases created <;> trivial

theorem within_checkTable (table : Table) :
    (vxdbSanityCheckTable table).Within SchemaOp.Tabling fun _ => False := by
  refine Program.Within.bind (.perform trivial) fun found => ?_
  cases found with
  | true => exact .forM (within_checkIndex table) _
  | false =>
      refine Program.Within.bind (.perform trivial) fun created => ?_
      cases created with
      | false => trivial
      | true =>
          by_cases groups : table = .groups
          · rw [groups]
            refine Program.Within.bind (.perform trivial) fun inserted => ?_
            cases inserted <;> trivial
          · rw [if_neg groups]
            trivial

theorem contained_checkIndex (table : Table) (columns : List Str) :
    Program.Contained (vxdbSanityCheckIndex table columns) :=
  (within_checkIndex table columns).contained

theorem contained_checkTable (table : Table) : Program.Contained (vxdbSanityCheckTable table) :=
  (within_checkTable table).contained

/-- A table that is complete is left alone. -/
theorem concludes_present (present : Present file table) :
    concludes (vxdbSanityCheckTable table) file = (.returned (), file) := by
  have indices (columns : List (List Str)) (subset : columns ⊆ table.unique) :
      concludes (columns.forM (vxdbSanityCheckIndex table)) file = (.returned (), file) := by
    induction columns with
    | nil => rfl
    | cons first rest ih =>
        have found : concludes (vxdbSanityCheckIndex table first) file = (.returned (), file) := by
          unfold vxdbSanityCheckIndex
          rw [concludes_perform]
          change concludes (if !(file.hasIndex _ _) then _ else _) file = _
          rw [present.2 first (subset List.mem_cons_self)]
          rfl
        have later := ih fun other mem => subset (List.mem_cons_of_mem first mem)
        exact (concludes_bind (contained_checkIndex table first) found _).trans later
  unfold vxdbSanityCheckTable
  rw [concludes_perform]
  change concludes (if file.hasTable table.name then _ else _) file = _
  rw [present.1]
  exact indices table.unique (List.Subset.refl _)

/-- The row of the group `onboot`. -/
def onbootRow : Row :=
  [.int 1, .str (cstr "onboot")]

/-- The file with one table more. The groups are never empty. -/
def VxdbFile.created (file : VxdbFile) (table : Table) : VxdbFile where
  version := file.version
  master := file.master ++ table.objects
  world := if table = .groups then
      { file.world with db := (file.world.db.insert Table.groups onbootRow).getD file.world.db }
    else file.world

theorem created_other (apart : table ≠ .groups) (file : VxdbFile) :
    file.created table = { file with master := file.master ++ table.objects } := by
  unfold VxdbFile.created
  rw [if_neg apart]

theorem created_groups (file : VxdbFile) : file.created .groups =
    { version := file.version, master := file.master ++ Table.groups.objects,
      world := { file.world with
        db := (file.world.db.insert Table.groups onbootRow).getD file.world.db } } := by
  unfold VxdbFile.created
  rw [if_pos rfl]

theorem hasTable_of_mem {columns : List Str} {name : Str}
    (mem : SchemaObject.table name columns ∈ file.master) : file.hasTable name = true :=
  List.any_eq_true.mpr ⟨_, mem, decide_eq_true rfl⟩

/-- A table whose names are new is created. -/
theorem concludes_missing (absent : ∀ object ∈ table.objects, file.fresh object.name = true)
    (groups : table = .groups → (file.world.db.insert Table.groups onbootRow).isSome = true) :
    concludes (vxdbSanityCheckTable table) file = (.returned (), file.created table) := by
  have missing : file.hasTable table.name = false := by
    refine List.any_eq_false.mpr fun object mem => ?_
    have other := List.all_eq_true.mp (absent _ List.mem_cons_self) object mem
    cases object with
    | index name owner columns => simp
    | table name columns =>
        have different : name ≠ table.name := of_decide_eq_true other
        simpa using different
  have created : file.create table.objects =
      (true, { file with master := file.master ++ table.objects }) :=
    if_pos (List.all_eq_true.mpr absent)
  unfold vxdbSanityCheckTable
  rw [concludes_perform]
  change concludes (if file.hasTable table.name then _ else _) file = _
  rw [missing]
  change concludes (vxdbCreateTable table) file = _
  unfold vxdbCreateTable
  rw [concludes_perform]
  change concludes (if !(file.create table.objects).1 then _ else _) (file.create table.objects).2 = _
  rw [created]
  by_cases own : table = .groups
  · subst own
    obtain ⟨next, inserted⟩ := Option.isSome_iff_exists.mp (groups rfl)
    have grouped : ({ file with master := file.master ++ Table.groups.objects }).insertGroup 1
        (cstr "onboot") = (true, file.created .groups) := by
      have known : ({ file with master := file.master ++ Table.groups.objects } :
          VxdbFile).hasTable Table.groups.name = true :=
        hasTable_of_mem (List.mem_append_right _ List.mem_cons_self)
      unfold VxdbFile.insertGroup
      have row : ({ file with master := file.master ++ Table.groups.objects } :
          VxdbFile).world.db.insert Table.groups [.int 1, .str (cstr "onboot")] = some next :=
        inserted
      rw [if_pos known, row, created_groups, inserted]
      rfl
    change concludes (if !(VxdbFile.insertGroup _ 1 (cstr "onboot")).1 then _ else _)
      (VxdbFile.insertGroup _ 1 (cstr "onboot")).2 = _
    rw [grouped]
    rfl
  · unfold VxdbFile.created
    rw [if_neg own, if_neg own]
    rfl

/-- The names of the entries of some tables. -/
def objectNames (tables : List Table) : List Str :=
  (tables.flatMap Table.objects).map SchemaObject.name

/-- The check of tables that are all complete. -/
theorem concludes_allPresent {tables : List Table} (present : ∀ table ∈ tables, Present file table) :
    concludes (tables.forM vxdbSanityCheckTable) file = (.returned (), file) := by
  induction tables with
  | nil => rfl
  | cons first rest ih =>
      have later := ih fun table mem => present table (List.mem_cons_of_mem first mem)
      have found := concludes_present (present first List.mem_cons_self)
      exact (concludes_bind (contained_checkTable first) found _).trans later

/-- The check of tables of which nothing is there creates them one after the other. -/
theorem concludes_allMissing {tables : List Table}
    (absent : ∀ object ∈ tables.flatMap Table.objects, file.fresh object.name = true)
    (nodup : (objectNames tables).Nodup)
    (groups : .groups ∈ tables → (file.world.db.insert Table.groups onbootRow).isSome = true) :
    concludes (tables.forM vxdbSanityCheckTable) file =
      (.returned (), tables.foldl VxdbFile.created file) := by
  induction tables generalizing file with
  | nil => rfl
  | cons first rest ih =>
      rw [List.flatMap_cons] at absent
      have names : objectNames (first :: rest) =
          first.objects.map SchemaObject.name ++ objectNames rest := by
        unfold objectNames
        rw [List.flatMap_cons, List.map_append]
      rw [names] at nodup
      obtain ⟨-, restNodup, apart⟩ := List.nodup_append.mp nodup
      have created := concludes_missing
        (fun object mem => absent object (List.mem_append_left _ mem))
        fun own => groups (own ▸ List.mem_cons_self)
      have later := @ih (file.created first) ?_ restNodup ?_
      · exact (concludes_bind (contained_checkTable first) created _).trans later
      · intro object mem
        refine List.all_eq_true.mpr fun other otherMem => ?_
        rcases List.mem_append.mp otherMem with old | new
        · exact List.all_eq_true.mp (absent object (List.mem_append_right _ mem)) other old
        · exact decide_eq_true (apart _ (List.mem_map_of_mem new) _ (List.mem_map_of_mem mem))
      · intro listed
        have other : first ≠ .groups := by
          rintro rfl
          have again : SchemaObject.table Table.groups.name Table.groups.columns ∈
              rest.flatMap Table.objects := List.mem_flatMap.mpr ⟨_, listed, List.mem_cons_self⟩
          exact apart _ (List.mem_map_of_mem List.mem_cons_self) _ (List.mem_map_of_mem again) rfl
        unfold VxdbFile.created
        rw [if_neg other]
        exact groups (List.mem_cons_of_mem first listed)

theorem created_others {tables : List Table} (others : .groups ∉ tables) (file : VxdbFile) :
    tables.foldl VxdbFile.created file =
      { file with master := file.master ++ tables.flatMap Table.objects } := by
  induction tables generalizing file with
  | nil => simp
  | cons first rest ih =>
      have apart : first ≠ .groups := fun own => others (own ▸ List.mem_cons_self)
      rw [List.foldl_cons, ih fun listed => others (List.mem_cons_of_mem first listed),
        created_other apart, List.flatMap_cons, List.append_assoc]

theorem present_of_subset (subset : table.objects ⊆ file.master) : Present file table := by
  refine ⟨hasTable_of_mem (subset List.mem_cons_self), fun columns mem => ?_⟩
  refine List.any_eq_true.mpr ⟨_, subset (List.mem_cons_of_mem _ (List.mem_map_of_mem mem)), ?_⟩
  simp

/-! ## Versions -/

theorem contained_checkVersion (version : Int) : Program.Contained (vxdbCheckVersion version) := by
  unfold vxdbCheckVersion
  split
  · refine (contained_perform _).bind fun found => ?_
    cases found <;> trivial
  split
  · trivial
  split <;> trivial

/-- The check goes on with a file of the current version, and with an empty one. -/
theorem concludes_checkVersion (known : file.version = vxdbVersion ∨
    file.version = 0 ∧ file.master = []) :
    concludes (vxdbCheckVersion file.version) file = (.returned (), file) := by
  rcases known with current | ⟨none, empty⟩
  · rw [current]
    rfl
  · unfold vxdbCheckVersion
    rw [if_pos none, concludes_perform]
    change concludes (if !file.master.isEmpty then _ else _) file = _
    rw [empty]
    rfl

/-- A file that has something in it but no version is refused. -/
theorem concludes_foreign (none : file.version = 0) (nonempty : file.master ≠ []) :
    concludes vxdbInit file = (.exited, file) := by
  unfold vxdbInit
  rw [concludes_perform]
  change concludes (vxdbCheckVersion file.version >>= _) file = _
  unfold vxdbCheckVersion
  rw [if_pos none, bind_assoc, concludes_perform]
  change concludes ((if !file.master.isEmpty then _ else _) >>= _) file = _
  have some : file.master.isEmpty = false := by simpa using nonempty
  rw [some]
  rfl

/-- `vxdb_init` after its version and its tables are checked. -/
def vxdbInitUsers : Checking Unit := do
  if !(← Program.perform (I := schemaLibrary) (.setUserVersion vxdbVersion)) then die
  vxdbSanityCheck.embed rowOperations

theorem concludes_vxdbInit {middle : VxdbFile}
    (known : file.version = vxdbVersion ∨ file.version = 0 ∧ file.master = [])
    (tables : concludes (Table.all.forM vxdbSanityCheckTable) file = (.returned (), middle)) :
    concludes vxdbInit file =
      ((ends vxdbSanityCheck middle.world).1,
        { version := vxdbVersion, master := middle.master,
          world := (ends vxdbSanityCheck middle.world).2 }) := by
  unfold vxdbInit
  rw [concludes_perform]
  change concludes (vxdbCheckVersion file.version >>= fun _ =>
    Table.all.forM vxdbSanityCheckTable >>= fun _ => vxdbInitUsers) file = _
  have contained : Program.Contained (Table.all.forM vxdbSanityCheckTable) :=
    .forM contained_checkTable _
  rw [concludes_bind (contained_checkVersion file.version) (concludes_checkVersion known),
    concludes_bind contained tables]
  unfold vxdbInitUsers
  rw [concludes_perform]
  exact concludes_embed vxdbSanityCheck { middle with version := vxdbVersion }

/-! ## Users -/

def emptyVxdb : Vxdb where
  rows _ := []
  distinct _ := List.Pairwise.nil

/-- The rows after the tables were created. -/
def groupedVxdb : Vxdb :=
  (emptyVxdb.insert Table.groups onbootRow).getD emptyVxdb

/-- The rows after the administrator was created. -/
def adminVxdb : Vxdb :=
  (execText groupedVxdb (render (sqlCreateAdmin 1))).1

/-- The rows after both users were created. -/
def usersVxdb : Vxdb :=
  (execText adminVxdb (render (sqlCreateVshelper 2))).1

variable {world final : World}

theorem contained_ensureUser (sql : List Piece) (name : Str) :
    Program.Contained (ensureUser sql name) := by
  have create : Program.Contained (vxdbCreateUser name) := by
    refine (lookup_authGetnextuid.within Quiet).contained.bind fun uid => ?_
    refine within_ite ⟨trivial, fun outcome => ?_⟩ (within_ite ⟨trivial, fun outcome => ?_⟩ trivial)
    all_goals
      change Program.Contained (if !outcome.ok then .exit else pure () : Method Unit)
      cases outcome.ok <;> trivial
  refine ⟨trivial, fun reply => ?_⟩
  rcases reply with _ | _ | ⟨row, rows⟩
  · exact create
  · exact create
  · trivial

theorem ends_ensureUser_found {sql : List Piece}
    (found : (firstRow (world.db.oracle (render sql))).isSome = true) (name : Str) :
    ends (ensureUser sql name) world = (.returned (), world) := by
  rw [← bind_pure (ensureUser sql name), ends_found found]
  rfl

/-- The administrator gets the first user id. -/
theorem ends_ensureUser_admin (same : world.db = groupedVxdb) :
    ends (ensureUser sqlAnyUser (cstr "admin")) world =
      (.returned (), { world with db := adminVxdb }) := by
  have missing : ¬ (firstRow (groupedVxdb.oracle (render sqlAnyUser))).isSome = true := by
    decide +kernel
  have next : nextIdIn groupedVxdb.oracle sqlNextuid = 1 := by decide +kernel
  have ok : (execText groupedVxdb (render (sqlCreateAdmin 1))).2.ok = true := by decide +kernel
  rw [← bind_pure (ensureUser sqlAnyUser _), ends_missing (same ▸ missing), vxdbCreateUser,
    bind_assoc, ends_nextuid, if_pos rfl, ends_exec_or_die, same, next, if_pos ok]
  rfl

/-- The helper of the kernel gets the second one. -/
theorem ends_ensureUser_vshelper (same : world.db = adminVxdb) :
    ends (ensureUser sqlVshelper (cstr "vshelper")) world =
      (.returned (), { world with db := usersVxdb }) := by
  have missing : ¬ (firstRow (adminVxdb.oracle (render sqlVshelper))).isSome = true := by
    decide +kernel
  have next : nextIdIn adminVxdb.oracle sqlNextuid = 2 := by decide +kernel
  have ok : (execText adminVxdb (render (sqlCreateVshelper 2))).2.ok = true := by decide +kernel
  rw [← bind_pure (ensureUser sqlVshelper _), ends_missing (same ▸ missing), vxdbCreateUser,
    bind_assoc, ends_nextuid, if_neg (by decide), if_pos rfl, ends_exec_or_die, same, next,
    if_pos ok]
  rfl

theorem found_admin : ∀ sql ∈ [sqlAnyUser, sqlAnyAdmin],
    (firstRow (adminVxdb.oracle (render sql))).isSome = true ∧
      (firstRow (usersVxdb.oracle (render sql))).isSome = true := by
  decide +kernel

theorem found_vshelper : (firstRow (usersVxdb.oracle (render sqlVshelper))).isSome = true := by
  decide +kernel

/-- A start dies between the users, or before or after them. -/
inductive UsersStage (db : Vxdb) : Prop where
  | none (same : db = groupedVxdb)
  | admin (same : db = adminVxdb)
  | both (same : db = usersVxdb)

/-- Whatever users are there already, both are there in the end. -/
theorem ends_users (stage : UsersStage world.db) :
    ends vxdbSanityCheck world = (.returned (), { world with db := usersVxdb }) := by
  have first : sqlAnyUser ∈ [sqlAnyUser, sqlAnyAdmin] := .head _
  have second : sqlAnyAdmin ∈ [sqlAnyUser, sqlAnyAdmin] := .tail _ (.head _)
  unfold vxdbSanityCheck
  cases stage with
  | none same =>
      rw [ends_bind (contained_ensureUser _ _), ends_ensureUser_admin same]
      change ends (ensureUser sqlAnyAdmin (cstr "admin") >>= _) { world with db := adminVxdb } = _
      rw [ends_found (found_admin _ second).1, ends_ensureUser_vshelper rfl]
  | admin same =>
      rw [ends_found (same ▸ (found_admin _ first).1), ends_found (same ▸ (found_admin _ second).1),
        ends_ensureUser_vshelper same]
  | both same =>
      rw [ends_found (same ▸ (found_admin _ first).2), ends_found (same ▸ (found_admin _ second).2),
        ends_ensureUser_found (same ▸ found_vshelper), ← same]

/-! ## Deaths -/

/-- The program queries, and executes one text at its end. -/
def WritesAtEnd : Method α → Prop
  | .pure _ | .fail _ | .exit => True
  | .op (.prepare _) next => ∀ reply, WritesAtEnd (next reply)
  | .op (.exec _) next => ∀ outcome, (next outcome).Finished
  | _ => False

theorem WritesAtEnd.lookup {program : Method α} {rest : α → Method β} (lookup : Lookup program)
    (later : ∀ value, WritesAtEnd (rest value)) : WritesAtEnd (program >>= rest) := by
  induction program with
  | pure value => exact later value
  | fail fault => exact lookup.elim
  | exit => exact lookup.elim
  | op request next ih =>
      cases request with
      | prepare sql => exact fun reply => ih reply (lookup reply)
      | _ => exact lookup.elim
  | fork next ih => exact lookup.elim

/-- Such a program dies as it began, or as it ends. -/
theorem WritesAtEnd.diesAt {program : Method α} (writes : WritesAtEnd program)
    (dies : Program.DiesAt machine 0 program world final) :
    final = world ∨ final = (ends program world).2 := by
  induction program generalizing world with
  | pure value => exact .inl (@Program.DiesAt.of_finished daemon Fault _ machine 0 (.pure value) trivial _ _ dies).1
  | fail fault => exact .inl (@Program.DiesAt.of_finished daemon Fault _ machine 0 (.fail fault) trivial _ _ dies).1
  | exit => exact .inl (@Program.DiesAt.of_finished daemon Fault _ machine 0 .exit trivial _ _ dies).1
  | op request next ih =>
      rcases Program.DiesAt.of_op dies with same | rest
      · exact .inl same
      · cases request with
        | prepare sql => exact ih _ (writes _) rest
        | exec sql => exact .inr (rest.of_finished (writes _)).2
        | _ => exact writes.elim
  | fork next ih => exact writes.elim

theorem writesAtEnd_ensureUser (sql : List Piece) (name : Str) :
    WritesAtEnd (ensureUser sql name) := by
  have create : WritesAtEnd (vxdbCreateUser name) := by
    refine WritesAtEnd.lookup lookup_authGetnextuid fun uid => ?_
    split
    · intro outcome
      change Program.Finished (if !outcome.ok then .exit else pure () : Method Unit)
      cases outcome.ok <;> trivial
    split
    · intro outcome
      change Program.Finished (if !outcome.ok then .exit else pure () : Method Unit)
      cases outcome.ok <;> trivial
    · trivial
  intro reply
  rcases reply with _ | _ | ⟨row, rows⟩
  · exact create
  · exact create
  · trivial

/-- The world at a stage of the users, as a later state of another one. -/
def AtStage (world final : World) : Prop :=
  UsersStage final.db ∧ final = { world with db := final.db }

/-- The repair of a user ends at a stage, and the rest dies at one. -/
theorem diesAt_ensureUser {sql : List Piece} {name : Str} {next : Vxdb}
    (stage : UsersStage world.db) (later : UsersStage next)
    (ended : ends (ensureUser sql name) world = (.returned (), { world with db := next }))
    {rest : Unit → Method Unit}
    (rested : ∀ final, Program.DiesAt machine 0 (rest ()) { world with db := next } final →
      AtStage world final)
    (dies : Program.DiesAt machine 0 (ensureUser sql name >>= rest) world final) :
    AtStage world final := by
  have state : ((ensureUser sql name).run machine 0 world).state = { world with db := next } :=
    congrArg Prod.snd ended
  rcases dies.of_bind with first | ⟨value, returned, second⟩
  · rcases (writesAtEnd_ensureUser sql name).diesAt first with rfl | after
    · exact ⟨stage, rfl⟩
    · rw [ended] at after
      subst after
      exact ⟨later, rfl⟩
  · rw [state] at second
    exact rested final second

/-- With an administrator the last two repairs die at a stage. -/
theorem diesAt_lastUsers (stage : world.db = adminVxdb ∨ world.db = usersVxdb)
    (dies : Program.DiesAt machine 0 (ensureUser sqlAnyAdmin (cstr "admin") >>= fun _ =>
      ensureUser sqlVshelper (cstr "vshelper")) world final) : AtStage world final := by
  have staged : UsersStage world.db := stage.elim .admin .both
  have found : (firstRow (world.db.oracle (render sqlAnyAdmin))).isSome = true := by
    have both := found_admin sqlAnyAdmin (.tail _ (.head _))
    rcases stage with same | same
    · exact same ▸ both.1
    · exact same ▸ both.2
  refine diesAt_ensureUser staged staged (ends_ensureUser_found found _) (fun final dies => ?_) dies
  rcases (writesAtEnd_ensureUser sqlVshelper (cstr "vshelper")).diesAt dies with rfl | after
  · exact ⟨staged, rfl⟩
  · rcases stage with same | same
    · rw [ends_ensureUser_vshelper same] at after
      subst after
      exact ⟨.both rfl, rfl⟩
    · rw [ends_ensureUser_found (same ▸ found_vshelper)] at after
      subst after
      exact ⟨staged, rfl⟩

/-- The repair of the users dies at one of its stages. -/
theorem diesAt_users (stage : UsersStage world.db)
    (dies : Program.DiesAt machine 0 vxdbSanityCheck world final) : AtStage world final := by
  have found := found_admin sqlAnyUser (.head _)
  unfold vxdbSanityCheck at dies
  cases stage with
  | none same =>
      refine diesAt_ensureUser (.none same) (.admin rfl) (ends_ensureUser_admin same)
        (fun final dies => ?_) dies
      exact @diesAt_lastUsers { world with db := adminVxdb } final (.inl rfl) dies
  | admin same =>
      refine diesAt_ensureUser (.admin same) (.admin same)
        (ends_ensureUser_found (same ▸ found.1) _) (fun final dies => ?_) dies
      exact diesAt_lastUsers (.inl same) dies
  | both same =>
      refine diesAt_ensureUser (.both same) (.both same)
        (ends_ensureUser_found (same ▸ found.2) _) (fun final dies => ?_) dies
      exact diesAt_lastUsers (.inr same) dies

/-! ## An empty file -/

/-- A file that was just made. -/
def emptyFile (world : World) : VxdbFile where
  version := 0
  master := []
  world := { world with db := emptyVxdb }

/-- All entries of the schema. -/
def fullMaster : List SchemaObject :=
  Table.all.flatMap Table.objects

/-- A file with all tables, at a stage of the users. -/
def fullFile (world : World) (version : Int) (db : Vxdb) : VxdbFile where
  version := version
  master := fullMaster
  world := { world with db }

theorem tables_emptyFile (world : World) :
    Table.all.foldl VxdbFile.created (emptyFile world) = fullFile world 0 groupedVxdb := by
  have split : ∃ rest, Table.all = .dxLimit :: .groups :: rest ∧ .groups ∉ rest :=
    ⟨Table.all.drop 2, rfl, by decide⟩
  have apart : Table.dxLimit ≠ .groups := nofun
  obtain ⟨rest, all, others⟩ := split
  unfold fullFile fullMaster
  rw [all, List.foldl_cons, List.foldl_cons, created_others others, created_groups,
    created_other apart, List.flatMap_cons, List.flatMap_cons, ← List.append_assoc]
  rfl

theorem concludes_emptyTables (world : World) :
    concludes (Table.all.forM vxdbSanityCheckTable) (emptyFile world) =
      (.returned (), fullFile world 0 groupedVxdb) := by
  have nodup : (objectNames Table.all).Nodup := by decide +kernel
  have inserted : (emptyVxdb.insert Table.groups onbootRow).isSome = true := by decide
  rw [concludes_allMissing (fun object _ => rfl) nodup fun _ => inserted, tables_emptyFile]

theorem present_fullFile (world : World) (version : Int) (db : Vxdb) :
    ∀ table ∈ Table.all, Present (fullFile world version db) table := by
  intro table mem
  exact present_of_subset fun object listed => List.mem_flatMap.mpr ⟨table, mem, listed⟩

/-- The first start of the daemon. -/
theorem concludes_first (world : World) : concludes vxdbInit (emptyFile world) =
    (.returned (), fullFile world vxdbVersion usersVxdb) := by
  rw [concludes_vxdbInit (.inr ⟨rfl, rfl⟩) (concludes_emptyTables world), ends_users (.none rfl)]
  rfl

/-- A start on a file with all tables and the current version. -/
theorem concludes_again (world : World) {db : Vxdb} (stage : UsersStage db) :
    concludes vxdbInit (fullFile world vxdbVersion db) =
      (.returned (), fullFile world vxdbVersion usersVxdb) := by
  have tables := concludes_allPresent (present_fullFile world vxdbVersion db)
  have ended : ends vxdbSanityCheck (fullFile world vxdbVersion db).world =
      (.returned (), { world with db := usersVxdb }) :=
    @ends_users { world with db } stage
  rw [concludes_vxdbInit (.inl rfl) tables, ended]
  rfl

/-! ## Interrupted starts -/

/-- Before the version is set the file is empty, or it has something in it. -/
def Early (world : World) (file : VxdbFile) : Prop :=
  file.version = 0 ∧ (file.master = [] → file = emptyFile world)

theorem early_create (early : Early world file) (first : SchemaObject)
    (objects : List SchemaObject) : Early world (file.create (first :: objects)).2 := by
  unfold VxdbFile.create
  split
  · refine ⟨early.1, fun empty => ?_⟩
    exact absurd empty (List.append_ne_nil_of_right_ne_nil _ (List.cons_ne_nil _ _))
  · exact early

theorem early_insertGroup (early : Early world file) (gid : Int) (name : Str) :
    Early world (file.insertGroup gid name).2 := by
  unfold VxdbFile.insertGroup
  split
  · rename_i known
    split
    · refine ⟨early.1, fun empty => ?_⟩
      have listed : file.master = [] := empty
      unfold VxdbFile.hasTable at known
      rw [listed] at known
      cases known
    · exact early
  · exact early

/-- What one operation of the loop leaves. -/
theorem early_step (file : VxdbFile) (op : SchemaOp) (tabling : op.Tabling)
    (early : Early world file) : Early world (fileMachine.step 0 file op).2 := by
  cases op with
  | hasTable name => exact early
  | hasIndex name table => exact early
  | createTable table => exact early_create early _ _
  | createIndex table columns =>
      change Early world (if file.hasTable table.name then _ else _ : Bool × VxdbFile).2
      split
      · exact early_create early _ _
      · exact early
  | insertGroup gid name => exact early_insertGroup early gid name
  | userVersion => exact tabling.elim
  | setUserVersion version => exact tabling.elim
  | anyObject => exact tabling.elim
  | daemon op => exact tabling.elim

theorem diesAt_checkVersion
    (dies : Program.DiesAt fileMachine 0 (vxdbCheckVersion 0) (emptyFile world) last) :
    last = emptyFile world := by
  rcases dies.of_op with same | rest
  · exact same
  · change Program.DiesAt fileMachine 0 (.pure ()) (emptyFile world) last at rest
    exact (@Program.DiesAt.of_finished schemaLibrary Fault Unit fileMachine 0 (.pure ()) trivial
      _ _ rest).1

/-- After the tables the check dies at a stage of the users, or before the version mark. -/
theorem diesAt_initUsers
    (dies : Program.DiesAt fileMachine 0 vxdbInitUsers (fullFile world 0 groupedVxdb) last) :
    Early world last ∨ ∃ db, UsersStage db ∧ last = fullFile world vxdbVersion db := by
  rcases dies.of_op with same | rest
  · refine .inl ⟨same ▸ rfl, fun empty => ?_⟩
    rw [same] at empty
    cases empty
  · change Program.DiesAt fileMachine 0 (vxdbSanityCheck.embed rowOperations)
      (fullFile world vxdbVersion groupedVxdb) last at rest
    obtain ⟨inner, users, equal⟩ := rowsOfFile.diesAt_embed rest
    obtain ⟨stage, same⟩ := diesAt_users (.none rfl) users
    refine .inr ⟨inner.db, stage, equal.trans ?_⟩
    rw [same]
    rfl

/-- The check dies before its version mark, or at a stage of the users after it. -/
theorem diesAt_vxdbInit (dies : Program.DiesAt fileMachine 0 vxdbInit (emptyFile world) last) :
    Early world last ∨ ∃ db, UsersStage db ∧ last = fullFile world vxdbVersion db := by
  have start : Early world (emptyFile world) := ⟨rfl, fun _ => rfl⟩
  rcases dies.of_op with same | rest
  · exact .inl (same ▸ start)
  change Program.DiesAt fileMachine 0 (vxdbCheckVersion 0 >>= fun _ =>
    Table.all.forM vxdbSanityCheckTable >>= fun _ => vxdbInitUsers) (emptyFile world) last at rest
  rcases rest.of_bind with first | ⟨value, -, rest⟩
  · exact .inl (diesAt_checkVersion first ▸ start)
  change Program.DiesAt fileMachine 0 (Table.all.forM vxdbSanityCheckTable >>= fun _ =>
    vxdbInitUsers) (emptyFile world) last at rest
  rcases rest.of_bind with second | ⟨value, -, rest⟩
  · exact .inl (second.keeps (.forM within_checkTable _) early_step start)
  · have ended := concludes_emptyTables world
    unfold concludes at ended
    rw [(Prod.mk.inj ended).2] at rest
    exact diesAt_initUsers rest

/-- A second check does what the first one did not get to, unless that had created a table
without setting the version: such a file is taken for a foreign one. -/
theorem interrupted_creation (world : World) (last : VxdbFile)
    (dies : Program.DiesAt fileMachine 0 vxdbInit (emptyFile world) last) :
    (last.master = [] ∨ last.version = vxdbVersion →
      concludes vxdbInit last = concludes vxdbInit (emptyFile world) ∧
        (concludes vxdbInit last).1 = .returned ()) ∧
      (last.master ≠ [] ∧ last.version ≠ vxdbVersion →
        concludes vxdbInit last = (.exited, last)) := by
  have again (same : concludes vxdbInit last = (.returned (), fullFile world vxdbVersion usersVxdb)) :
      concludes vxdbInit last = concludes vxdbInit (emptyFile world) ∧
        (concludes vxdbInit last).1 = .returned () :=
    ⟨same.trans (concludes_first world).symm, congrArg Prod.fst same⟩
  rcases diesAt_vxdbInit dies with ⟨unmarked, empty⟩ | ⟨db, stage, same⟩
  · refine ⟨fun resumed => again ?_, fun left => concludes_foreign unmarked left.1⟩
    rcases resumed with none | marked
    · rw [empty none]
      exact concludes_first world
    · exact absurd (unmarked.symm.trans marked) (by decide)
  · subst same
    exact ⟨fun _ => again (concludes_again world stage), fun left => absurd rfl left.2⟩

/-- The file after the first table. -/
def oneTable : VxdbFile :=
  (emptyFile (.boot emptyVxdb idleKernel)).created .dxLimit

theorem diesAt_oneTable : Program.DiesAt fileMachine 0 vxdbInit
    (emptyFile (.boot emptyVxdb idleKernel)) oneTable :=
  .later (.later (.later (.later (.now _ _))))

theorem noFork_checkTable (table : Table) : (vxdbSanityCheckTable table).NoFork := by
  have index (columns : List Str) : (vxdbSanityCheckIndex table columns).NoFork := by
    refine Program.NoFork.bind (fun _ => trivial) fun found => ?_
    cases found with
    | true => trivial
    | false =>
        refine Program.NoFork.bind (fun _ => trivial) fun created => ?_
        cases created <;> trivial
  refine Program.NoFork.bind (fun _ => trivial) fun found => ?_
  cases found with
  | true => exact .forM index _
  | false =>
      refine Program.NoFork.bind (fun _ => trivial) fun created => ?_
      cases created with
      | false => trivial
      | true =>
          by_cases groups : table = .groups
          · rw [groups]
            refine Program.NoFork.bind (fun _ => trivial) fun inserted => ?_
            cases inserted <;> trivial
          · rw [if_neg groups]
            trivial

/-- The file when its version has just been set. -/
def markedFile : VxdbFile :=
  fullFile (.boot emptyVxdb idleKernel) vxdbVersion groupedVxdb

theorem diesAt_markedFile : Program.DiesAt fileMachine 0 vxdbInit
    (emptyFile (.boot emptyVxdb idleKernel)) markedFile := by
  refine .later (.later ?_)
  change Program.DiesAt fileMachine 0 (Table.all.forM vxdbSanityCheckTable >>= fun _ =>
    vxdbInitUsers) (emptyFile (.boot emptyVxdb idleKernel)) markedFile
  have ended := concludes_emptyTables (.boot emptyVxdb idleKernel)
  unfold concludes at ended
  obtain ⟨returned, state⟩ := Prod.mk.inj ended
  refine .bind_returned (.forM noFork_checkTable _) returned ?_
  rw [state]
  exact .later (.now _ _)

/-- With the first table alone the file is refused, and after the version mark the check does
what is left to do. -/
theorem interrupted_creation_oneTable :
    concludes vxdbInit oneTable = (.exited, oneTable) ∧
      concludes vxdbInit markedFile =
        concludes vxdbInit (emptyFile (.boot emptyVxdb idleKernel)) ∧
      (concludes vxdbInit markedFile).1 = .returned () := by
  constructor
  · exact (interrupted_creation (.boot emptyVxdb idleKernel) oneTable diesAt_oneTable).2
      ⟨List.cons_ne_nil _ _, by decide⟩
  · exact (interrupted_creation (.boot emptyVxdb idleKernel) markedFile diesAt_markedFile).1
      (.inr rfl)

/-- Not every interrupted start can be completed. -/
theorem interrupted_not_completed : ¬ ∀ (world : World) (last : VxdbFile),
    Program.DiesAt fileMachine 0 vxdbInit (emptyFile world) last →
      concludes vxdbInit last = concludes vxdbInit (emptyFile world) := by
  intro completed
  have first := completed _ oneTable diesAt_oneTable
  rw [concludes_first, concludes_foreign rfl (List.cons_ne_nil _ _)] at first
  cases congrArg Prod.fst first

end Vcd
