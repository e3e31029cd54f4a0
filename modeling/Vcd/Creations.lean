import Vcd.Passwords
import Vcd.Transactions

/-!
# Created servers

What a creation that succeeds leaves in the database: the configuration of the template, and
what was recorded before in the one table that the script forgets.
-/

namespace Vcd

open Sql Process

variable {α β : Type} {world next last : World} {host : Host}

/-! ## The parts of a creation that returns -/

/-- A part that executes nothing changes neither the database nor the kernel. -/
theorem returned_steady {program : Method α} (steady : program.Within (I := daemon) Steady Steady)
    {rest : α → Method β} {value : β}
    (ended : ends (program >>= rest) world = (.returned value, last)) :
    ∃ middle between, ends program world = (.returned middle, between) ∧
      between.db = world.db ∧ between.kernel = world.kernel ∧
      ends (rest middle) between = (.returned value, last) := by
  obtain ⟨middle, between, first, later⟩ := returned_bind steady.contained ended
  have kept (state : World) (op : Op) (steady : Steady op ∨ Steady op)
      (same : state.db = world.db ∧ state.kernel = world.kernel) :
      (state.performs 0 op).2.db = world.db ∧ (state.performs 0 op).2.kernel = world.kernel := by
    cases op with
    | exec sql => exact steady.elim False.elim False.elim
    | _ => exact same
  obtain ⟨db, kernel⟩ := @Program.Within.run_keeps daemon Fault α machine 0
    (fun state => state.db = world.db ∧ state.kernel = world.kernel) Steady Steady world program
    steady kept ⟨rfl, rfl⟩
  rw [show (program.run machine 0 world).state = between from congrArg Prod.snd first]
    at db kernel
  exact ⟨middle, between, first, db, kernel, later⟩

theorem returned_sys {call : Sys} {rest : Answer → Method β} {value : β}
    (ended : ends (sys call >>= rest) world = (.returned value, last)) :
    ∃ answer start, start.db = world.db ∧ start.kernel = world.kernel ∧
      ends (rest answer) start = (.returned value, last) :=
  ⟨world.kernel world.clock call, { world with clock := world.clock + 1 }, rfl, rfl, ended⟩

theorem returned_createTarget {user name : Str} {force : Bool} {xid : Int}
    (ended : ends (createTarget user name force) world = (.returned xid, last)) :
    xid = xidIn world.db.oracle name := by
  unfold createTarget at ended
  rw [ends_lookup (lookup_vxdbGetxid name) (answer_vxdbGetxid _ name)] at ended
  refine @Program.Yields.returned daemon Fault Int machine 0
    (fun xid => xid = xidIn world.db.oracle name) _ ?_ world xid (congrArg Prod.fst ended)
  split
  · refine Program.Yields.bind _ fun owner => ?_
    split
    · split
      · trivial
      · refine Program.Yields.bind _ fun info => ?_
        split
        · trivial
        · exact rfl
    · trivial
  · refine Program.Yields.bind _ fun admin => ?_
    split
    · trivial
    · exact rfl

/-- The context id of a creation: that of the server to be rebuilt, or a free one. -/
def createXidIn (oracle : Oracle) (name : Str) : Option Int :=
  if xidIn oracle name ≠ 0 then some (xidIn oracle name) else freeXidIn oracle

/-- The end of `find_free_xid`. -/
def takeFreeXid (name : Str) : Int × Bool → Method Int
  | (xid, finalized) => do
      if xid = 0 then noFreeXid name
      if finalized then vxdbFault (cstr "find_free_xid")
      return xid

theorem returned_chooseXid {name : Str} {row : Row} {xid : Int}
    (ended : ends (chooseXid row >>= takeFreeXid name) world = (.returned xid, last)) :
    nextXid row = some xid := by
  unfold chooseXid at ended
  unfold nextXid
  by_cases empty : vxdbColumnInt row 0 < 1
  · simp only [empty, if_true] at ended ⊢
    have taken : xid = 2 := by
      cases ended
      rfl
    rw [taken]
  simp only [empty, if_false] at ended ⊢
  by_cases next : vxdbColumnInt row 1 < 65535
  · simp only [next, if_true] at ended ⊢
    obtain ⟨-, ended⟩ := returned_check ended
    cases ended
    rfl
  simp only [next, if_false] at ended
  by_cases full : vxdbColumnInt row 0 < 65535
  · simp only [full, if_true, bind_assoc] at ended
    obtain ⟨scanned, between, -, -, -, ended⟩ := returned_steady (steady_scanFreeXid 2 65533) ended
    obtain ⟨-, ended⟩ := returned_check ended
    cases ended
  · simp only [full, if_false] at ended
    cases ended

theorem findFreeXid_zero (name : Str) :
    findFreeXid name 0 = vxdbPrepare sqlCountMax >>= fun rows => match rows with
      | none | some [] => noFreeXid name
      | some (row :: _) => chooseXid row >>= takeFreeXid name :=
  rfl

theorem returned_findFreeXid {name : Str} {xid chosen : Int}
    (ended : ends (findFreeXid name xid) world = (.returned chosen, last)) :
    (if xid ≠ 0 then some xid else freeXidIn world.db.oracle) = some chosen := by
  by_cases known : xid = 0
  · rw [known] at ended ⊢
    rw [findFreeXid_zero, ends_prepare] at ended
    have asked : freeXidIn world.db.oracle =
      (firstRow (prepareText world.db (render sqlCountMax))).bind nextXid := rfl
    rw [if_neg (not_not_intro rfl), asked]
    generalize prepareText world.db (render sqlCountMax) = rows at ended ⊢
    match rows with
    | none => cases ended
    | some [] => cases ended
    | some (row :: rows) => exact returned_chooseXid ended
  · unfold findFreeXid at ended
    rw [if_pos known] at ended ⊢
    cases ended
    rfl

/-- The file system is built for the context id, and nothing is recorded yet. -/
theorem returned_buildRootFilesystem {name vdir tdir : Str} {xid chosen : Int} {copy : Bool}
    (ended : ends (buildRootFilesystem host name vdir tdir xid copy) world =
      (.returned chosen, last)) :
    (if xid ≠ 0 then some xid else freeXidIn world.db.oracle) = some chosen := by
  have fill (start : World) (same : start.db = world.db)
      (ended : ends (fillRootFilesystem name vdir tdir xid copy) start =
        (.returned chosen, last)) :
      (if xid ≠ 0 then some xid else freeXidIn world.db.oracle) = some chosen := by
    rw [← same]
    obtain ⟨found, between, first, -, -, ended⟩ :=
      @returned_steady _ _ { start with clock := start.clock + 1 } last _
        (steady_findFreeXid name xid) _ _ ended
    have known := returned_findFreeXid first
    have same : chosen = found := by
      refine @Program.Yields.returned daemon Fault Int machine 0 (fun chosen => chosen = found) _
        ?_ between chosen (congrArg Prod.fst ended)
      refine Program.Yields.bind _ fun _ => Program.Yields.bind _ fun filled => ?_
      cases filled with
      | error fault => exact fun _ => trivial
      | ok value => exact Program.Yields.bind _ fun _ => rfl
    rw [same]
    exact known
  unfold buildRootFilesystem at ended
  split at ended
  · obtain ⟨old, between, -, db, -, ended⟩ :=
      returned_steady (lookup_vxdbGetvdir host name).steady ended
    obtain ⟨-, ended⟩ := returned_check ended
    exact fill { between with clock := between.clock + 1 } db ended
  · exact fill world rfl ended

/-- The configuration of a template, given the answer to whether its file exists. -/
def templateConf (templates : Templates) (tconf : Str) (found : Answer) : ConfResult :=
  if found.rc = 0 then .parsed {} else templates tconf

theorem templateConf_eq_parsed {templates : Templates} {tconf : Str} {found : Answer}
    {conf : TemplateConf} (known : templateConf templates tconf found = .parsed conf) :
    conf = {} ∨ templates tconf = .parsed conf := by
  unfold templateConf at known
  split at known
  · exact .inl (ConfResult.parsed.inj known).symm
  · exact .inr known

theorem ends_execFormat (script : List Piece) (rest : Sql.Outcome → Method β) (world : World) :
    ends (vxdbExecFormat host (render script) >>= rest) world =
      ends (rest (execText world.db (printed host script)).2)
        { world with db := (execText world.db (printed host script)).1 } :=
  rfl

/-- The script is executed last, after the call that looks for the template's file. -/
theorem returned_createVxdbEntries {templates : Templates} {tdir template vdir name : Str}
    {xid : Int} {answer : Xml}
    (ended : ends (createVxdbEntries host templates tdir template vdir name xid >>= fun _ =>
      pure Xml.nil) world = (.returned answer, last)) :
    ∃ conf entries, templateConf templates (tdir ++ cstr ".conf")
        (world.kernel world.clock (.isfile (tdir ++ cstr ".conf"))) = .parsed conf ∧
      templateEntries conf vdir name = .ok entries ∧
      (execText world.db (printed host (sqlCreate xid entries))).2.ok = true ∧
      last.db = (execText world.db (printed host (sqlCreate xid entries))).1 ∧
      last.clock = world.clock + 1 := by
  unfold createVxdbEntries at ended
  rw [bind_assoc] at ended
  change ends (recordConf host template vdir name xid (templateConf templates
    (tdir ++ cstr ".conf") (world.kernel world.clock (.isfile (tdir ++ cstr ".conf")))) >>= _)
      { world with clock := world.clock + 1 } = _ at ended
  unfold recordConf at ended
  split at ended
  next => cases ended
  next => cases ended
  next conf known =>
    rw [bind_assoc] at ended
    obtain ⟨entries, assembled, ended⟩ := returned_ofExcept ended
    rw [bind_assoc, ends_execFormat] at ended
    refine ⟨conf, entries, known, assembled, ?_⟩
    generalize execText world.db (printed host (sqlCreate xid entries)) = executed at ended ⊢
    cases ok : executed.2.ok with
    | false =>
        rw [ok] at ended
        cases ended
    | true =>
        rw [ok] at ended
        cases ended
        exact ⟨rfl, rfl, rfl⟩

/-! ## Creations -/

/-- What a creation that succeeds was asked for, and what it found. -/
structure Creation where
  xid : Int
  name : Str
  vdir : Str
  conf : TemplateConf

/-- The creation is that of a request, which ended in the last world. The last call of the
request looked for the file of the template. -/
structure Creation.Of (creation : Creation) (setup : Setup) (request : Request)
    (world last : World) : Prop where
  name : request.text (cstr "name") = .ok creation.name
  vdir : ∃ user param, request.user = .ok user ∧ request.text (cstr "vdir") = .ok param ∧
    createVdirIn world.db.oracle setup.host user creation.name param = creation.vdir
  xid : createXidIn world.db.oracle creation.name = some creation.xid
  conf : ∃ template, request.text (cstr "template") = .ok template ∧
    let tconf := strPathConcat setup.host.templatedir template ++ cstr ".conf"
    templateConf setup.templates tconf (world.kernel (last.clock - 1) (.isfile tconf)) =
      .parsed creation.conf

theorem freeXidIn_of_rows {db after : Vxdb}
    (same : after.rows Table.xidNameMap = db.rows Table.xidNameMap) :
    freeXidIn after.oracle = freeXidIn db.oracle := by
  rw [freeXidIn, freeXidIn, firstRow_sqlCountMax, firstRow_sqlCountMax, same]

theorem createXidIn_of_rows {db after : Vxdb}
    (same : after.rows Table.xidNameMap = db.rows Table.xidNameMap) (name : Str) :
    createXidIn after.oracle name = createXidIn db.oracle name := by
  rw [createXidIn, createXidIn, xidIn_of_rows same, freeXidIn_of_rows same]

/-- A name that passes the checks of `method_init` is valid. -/
theorem valid_of_admissionIn {oracle : Oracle} {free : Str → Bool}
    {credentials params admitted : Xml} {caps : UInt64} {flags : Flags} {name : Str}
    (any : flags.any = true) (nameEq : params.getStr (cstr "name") = .ok name)
    (known : admissionIn oracle host free credentials params caps flags = .ok admitted) :
    validateName name = true := by
  unfold admissionIn at known
  obtain ⟨user, -, known⟩ := bind_eq_ok.mp known
  rw [any] at known
  obtain ⟨_, checked, -⟩ := bind_eq_ok.mp known
  unfold flagsIn at checked
  rw [nameEq] at checked
  obtain ⟨valid, -⟩ := ite_error_eq_ok.mp checked
  simpa using valid

/-- The script of a creation that succeeds, and the database it is executed on. -/
theorem returned_mVxCreate {setup : Setup} {request : Request} {answer : Xml}
    (ended : ends (mVxCreate setup.host setup.templates
      (.client request.credentials request.params)) world = (.returned answer, last)) :
    ∃ creation : Creation, creation.Of setup request world last ∧
      validateName creation.name = true ∧
      ∃ entries base, templateEntries creation.conf creation.vdir creation.name = .ok entries ∧
        SameRows world.db base ∧
        (execText base (printed setup.host (sqlCreate creation.xid entries))).2.ok = true ∧
        last.db = (execText base (printed setup.host (sqlCreate creation.xid entries))).1 := by
  obtain ⟨admitted, ended⟩ := returned_admitted ended
  have same : SameRows world.db (counted world.db) := sameRows_counts counts_sqlRequests world.db
  have start := locked_kernel { world with db := counted world.db } request.params { lock := true }
  have rows := World.db_locked { world with db := counted world.db } request.params { lock := true }
  revert start rows ended
  generalize ({ world with db := counted world.db } : World).locked request.params
    { lock := true } = begun
  intro ended ⟨kernel, _⟩ rows
  replace rows : begun.db = counted world.db := rows
  replace kernel : begun.kernel = world.kernel := kernel
  rw [← rows] at same
  obtain ⟨user, userEq, ended⟩ := returned_ofExcept ended
  obtain ⟨name, nameEq, ended⟩ := returned_ofExcept ended
  have valid := valid_of_admissionIn rfl nameEq admitted
  obtain ⟨template, templateEq, ended⟩ := returned_ofExcept ended
  obtain ⟨force, -, ended⟩ := returned_ofExcept ended
  obtain ⟨copy, -, ended⟩ := returned_ofExcept ended
  obtain ⟨param, paramEq, ended⟩ := returned_ofExcept ended
  obtain ⟨-, ended⟩ := returned_check ended
  obtain ⟨-, ended⟩ := returned_check ended
  obtain ⟨base, one, oneDb, oneKernel, ended⟩ := returned_sys ended
  obtain ⟨-, ended⟩ := returned_check ended
  obtain ⟨tree, two, twoDb, twoKernel, ended⟩ := returned_sys ended
  obtain ⟨-, ended⟩ := returned_check ended
  obtain ⟨old, three, target, threeDb, threeKernel, ended⟩ :=
    returned_steady (steady_createTarget user name force) ended
  have oldEq := returned_createTarget target
  rw [ends_lookup (lookup_createVdir setup.host) (answer_createVdir _ setup.host)] at ended
  obtain ⟨-, ended⟩ := returned_check ended
  obtain ⟨-, ended⟩ := returned_check ended
  have db : three.db = begun.db := threeDb.trans (twoDb.trans oneDb)
  have kernel : three.kernel = world.kernel :=
    threeKernel.trans (twoKernel.trans (oneKernel.trans kernel))
  replace oldEq : old = xidIn begun.db.oracle name :=
    oldEq.trans (congrArg (fun db => xidIn (Vxdb.oracle db) name) (twoDb.trans oneDb))
  rw [db] at ended
  have records (start : World) (startDb : start.db = begun.db)
      (startKernel : start.kernel = world.kernel)
      (ended : ends (buildRootFilesystem setup.host name
          (createVdirIn begun.db.oracle setup.host user name param)
          (strPathConcat setup.host.templatedir template) old copy >>= fun xid =>
        createVxdbEntries setup.host setup.templates
          (strPathConcat setup.host.templatedir template) template
          (createVdirIn begun.db.oracle setup.host user name param) name xid >>= fun _ =>
        pure Xml.nil) start = (.returned answer, last)) : ∃ creation : Creation,
      creation.Of setup request world last ∧ validateName creation.name = true ∧
      ∃ entries base, templateEntries creation.conf creation.vdir creation.name = .ok entries ∧
        SameRows world.db base ∧
        (execText base (printed setup.host (sqlCreate creation.xid entries))).2.ok = true ∧
        last.db = (execText base (printed setup.host (sqlCreate creation.xid entries))).1 := by
    obtain ⟨xid, four, built, fourDb, fourKernel, ended⟩ :=
      returned_steady (steady_buildRootFilesystem _ name _ _ old copy) ended
    have xidEq := returned_buildRootFilesystem built
    obtain ⟨conf, entries, confEq, assembled, ok, lastDb, clock⟩ :=
      returned_createVxdbEntries ended
    rw [startDb, oldEq] at xidEq
    rw [fourDb, startDb] at ok lastDb
    rw [fourKernel, startKernel] at confEq
    have vdirEq := (createVdirIn_of_rows same setup.host user name param).symm
    have target : createXidIn world.db.oracle name = some xid := by
      rw [← createXidIn_of_rows (same Table.xidNameMap nofun)]
      exact xidEq
    have file : four.clock = last.clock - 1 := by omega
    rw [file] at confEq
    obtain ⟨creation, rfl, rfl, known, rfl⟩ : ∃ creation : Creation, creation.xid = xid ∧
        creation.name = name ∧
        creation.vdir = createVdirIn begun.db.oracle setup.host user name param ∧
        creation.conf = conf := ⟨⟨xid, name, _, conf⟩, rfl, rfl, rfl, rfl⟩
    rw [← known] at vdirEq assembled
    exact ⟨creation, ⟨nameEq, ⟨user, param, userEq, paramEq, vdirEq⟩, target,
      ⟨template, templateEq, confEq⟩⟩, valid, entries, begun.db, assembled, same, ok, lastDb⟩
  split at ended
  · obtain ⟨path, start, startDb, startKernel, ended⟩ := returned_sys ended
    obtain ⟨-, ended⟩ := returned_check ended
    exact records start (startDb.trans db) (startKernel.trans kernel) ended
  · exact records three db kernel ended

/-! ## What the database describes -/

/-- The rows of a context in a table. -/
def contextRows (db : Vxdb) (xid : Int) (table : Table) : List Row :=
  (db.rows table).filter (ofXid xid)

namespace Creation

/-- The context id as the script prints it. -/
def context (creation : Creation) : Int :=
  int32 creation.xid

/-- The rows that the template, the directory and the name call for. -/
def rows (creation : Creation) : Table → List Row
  | .init => [[.int creation.context, .str creation.conf.init, .str creation.conf.halt,
      .str creation.conf.reboot, .int (max creation.conf.timeout 0)]]
  | .mount => (if creation.conf.mounts = [] then defaultMounts
      else creation.conf.mounts.map mountRow).map fun (src, dst, type, opts) =>
        [.int creation.context, .str src, .str dst, .str type, .str opts]
  | .vxBcaps => creation.conf.vxBcaps.map fun bcap => [.int creation.context, .str bcap]
  | .vxCcaps => creation.conf.vxCcaps.map fun ccap => [.int creation.context, .str ccap]
  | .vxFlags => creation.conf.vxFlags.map fun flag => [.int creation.context, .str flag]
  | .vdir => [[.int creation.context, .str creation.vdir]]
  | .xidNameMap => [[.int creation.context, .str creation.name]]
  | _ => []

/-- After the creation, the tables of configuration have the rows of the template for the context,
and those of other contexts are as they were. -/
structure Described (creation : Creation) (first last : Vxdb) : Prop where
  own : ∀ table ∈ Table.vxCpuset :: clearedTables,
    contextRows last creation.context table = creation.rows table
  others : ∀ table, table ≠ .vcd →
    (last.rows table).filter (!ofXid creation.context ·) =
      (first.rows table).filter (!ofXid creation.context ·)

/-- The directory and the template have no characters that change the script. -/
def Plain (creation : Creation) : Prop :=
  CleanText creation.vdir ∧ creation.conf.All fun text => '%' ∉ text

/-- Cutting the timeout to 32 bits does not change what is recorded. -/
def TimeoutFits (creation : Creation) : Prop :=
  max (int32 creation.conf.timeout) 0 = max creation.conf.timeout 0

end Creation

section Described

variable {creation : Creation} {entries : Entries} {base first : Vxdb}

/-- The script records what the template calls for, but for the timeout. -/
theorem rows_entries
    (assembled : templateEntries creation.conf creation.vdir creation.name = .ok entries)
    (table : Table) :
    ((entries.rows creation.xid).filter fun entry => entry.1 = table).map Prod.snd =
      if table = .init then [[.int creation.context, .str creation.conf.init,
        .str creation.conf.halt, .str creation.conf.reboot,
        .int (max (int32 creation.conf.timeout) 0)]]
      else creation.rows table := by
  obtain ⟨mounts, -, -, -, equal⟩ := templateEntries_eq_ok assembled
  have mountsEq : entries.mounts =
      if creation.conf.mounts = [] then defaultMounts else creation.conf.mounts.map mountRow := by
    rcases mounts with ⟨empty, defaults⟩ | ⟨listed, checked⟩
    · rw [if_pos empty, defaults]
    · rw [if_neg listed]
      exact mapM_eq_ok (fun _ _ => mountEntry_eq_ok) checked
  have timeout : templateTimeout creation.conf.timeout =
      max (int32 creation.conf.timeout) 0 := by
    unfold templateTimeout
    split <;> omega
  rw [mountsEq, timeout] at equal
  subst equal
  cases table <;> simp [Entries.rows, Creation.rows, Creation.context, List.filter_map,
    Function.comp_def]

/-- The rows the script adds are those of its context. -/
theorem ofXid_of_added {xid : Int} {table : Table} {row : Row}
    (mem : row ∈ ((entries.rows xid).filter fun entry => entry.1 = table).map Prod.snd) :
    table ∈ clearedTables ∧ ofXid (int32 xid) row = true := by
  obtain ⟨entry, listed, rfl⟩ := List.mem_map.mp mem
  obtain ⟨entryMem, same⟩ := List.mem_filter.mp listed
  obtain ⟨cleared, own⟩ := rows_region entries xid entry entryMem
  rw [of_decide_eq_true same] at cleared
  exact ⟨cleared, ofXid_iff.mpr own⟩

/-- The rows of the context after the script. -/
theorem contextRows_created {xid : Int} {after : Vxdb}
    (applied : applyAll base (createChanges xid entries) = some after) (table : Table) :
    contextRows after (int32 xid) table =
      (if table ∈ clearedTables then [] else contextRows base (int32 xid) table) ++
        ((entries.rows xid).filter fun entry => entry.1 = table).map Prod.snd := by
  unfold contextRows
  rw [rows_create applied table, List.filter_append]
  congr 1
  · split
    · rw [List.filter_filter]
      exact List.filter_eq_nil_iff.mpr fun row _ => by simp
    · rfl
  · exact List.filter_eq_self.mpr fun row mem => (ofXid_of_added mem).2

/-- The rows of other contexts stay. -/
theorem others_created {xid : Int} {after : Vxdb}
    (applied : applyAll base (createChanges xid entries) = some after) (table : Table) :
    (after.rows table).filter (!ofXid (int32 xid) ·) =
      (base.rows table).filter (!ofXid (int32 xid) ·) := by
  have added : (((entries.rows xid).filter fun entry => entry.1 = table).map Prod.snd).filter
      (!ofXid (int32 xid) ·) = [] :=
    List.filter_eq_nil_iff.mpr fun row mem => by simp [(ofXid_of_added mem).2]
  rw [rows_create applied table, List.filter_append, added, List.append_nil]
  split
  · rw [List.filter_filter]
    simp
  · rfl

/-- After the script the tables describe the template exactly when the context had no processor
set and the timeout is not cut. -/
theorem described_iff
    (assembled : templateEntries creation.conf creation.vdir creation.name = .ok entries)
    (same : SameRows first base) {after : Vxdb}
    (applied : applyAll base (createChanges creation.xid entries) = some after) :
    creation.Described first after ↔
      contextRows first creation.context .vxCpuset = [] ∧ creation.TimeoutFits := by
  have own (table : Table) := contextRows_created applied table
  simp only [rows_entries assembled] at own
  have cpuset : contextRows after creation.context .vxCpuset =
      contextRows first creation.context .vxCpuset := by
    refine (own .vxCpuset).trans ?_
    rw [if_neg (by decide), if_neg nofun]
    unfold contextRows
    rw [same Table.vxCpuset nofun]
    exact List.append_nil _
  have init := own .init
  rw [if_pos (by decide), if_pos rfl, List.nil_append] at init
  constructor
  · intro described
    have initRows := init.symm.trans (described.own .init (by decide))
    refine ⟨cpuset.symm.trans (described.own .vxCpuset (by decide)), ?_⟩
    unfold Creation.TimeoutFits
    simpa [Creation.rows] using initRows
  · intro ⟨unset, fits⟩
    refine ⟨fun table listed => ?_, fun table other => ?_⟩
    · by_cases first : table = .init
      · rw [first]
        refine init.trans ?_
        rw [fits]
        rfl
      · rcases List.mem_cons.mp listed with rfl | cleared
        · exact cpuset.trans unset
        · refine (own table).trans ?_
          rw [if_pos cleared, if_neg first]
          rfl
    · rw [Creation.context, others_created applied, same table other]

end Described

theorem TemplateConf.All.and {conf : TemplateConf} {one two : Str → Prop} (left : conf.All one)
    (right : conf.All two) : conf.All fun text => one text ∧ two text where
  init := ⟨left.init, right.init⟩
  halt := ⟨left.halt, right.halt⟩
  reboot := ⟨left.reboot, right.reboot⟩
  mounts mount mem := by
    obtain ⟨dst, src, type, opts⟩ := left.mounts mount mem
    obtain ⟨dst', src', type', opts'⟩ := right.mounts mount mem
    exact ⟨⟨dst, dst'⟩, ⟨src, src'⟩, ⟨type, type'⟩, ⟨opts, opts'⟩⟩

/-- When no quote and no percent sign changes the script, a creation that succeeds leaves the
configuration of the template exactly when the context had no processor set and the timeout
fits. -/
theorem created_configuration_iff (setup : Setup) (request : Request) (world last : World)
    (answer : Xml) (created : request.method = cstr "vx.create")
    (ended : ends (handle setup request) world = (.returned answer, last)) :
    ∃ creation : Creation, creation.Of setup request world last ∧
      (creation.conf.All QuoteFree → creation.Plain →
        (creation.Described world.db last.db ↔
          contextRows world.db creation.context .vxCpuset = [] ∧ creation.TimeoutFits)) := by
  have handler : handle setup request =
      mVxCreate setup.host setup.templates (.client request.credentials request.params) := by
    rw [handle, created]
    rfl
  rw [handler] at ended
  obtain ⟨creation, of, valid, entries, base, assembled, same, ok, lastDb⟩ :=
    returned_mVxCreate ended
  refine ⟨creation, of, fun free plain => ?_⟩
  have clean := entries_clean assembled (free.and plain.2) plain.1 valid
  rw [printed_of_clean setup.host clean] at ok lastDb
  have applied := (runs_sqlCreate clean creation.xid).succeeded ok
  rw [← lastDb] at applied
  exact described_iff assembled same applied

/-- The server `web` with a processor set. -/
def withCpuset : World :=
  serve plainSetup cpusetRequest withServer

def rebuilt : World :=
  (ends (handle plainSetup (createRequest (cstr "web"))) withCpuset).2

theorem rebuilt_web : returns (handle plainSetup (createRequest (cstr "web"))) withCpuset = true ∧
    createXidIn withCpuset.db.oracle (cstr "web") = some 2 ∧
    contextRows rebuilt.db (int32 2) .vxCpuset ≠ [] := by
  decide +kernel

theorem created_configuration_iff_rebuild : ∃ creation : Creation,
    creation.Of plainSetup (createRequest (cstr "web")) withCpuset rebuilt ∧
      (creation.conf.All QuoteFree → creation.Plain →
        (creation.Described withCpuset.db rebuilt.db ↔
          contextRows withCpuset.db creation.context .vxCpuset = [] ∧ creation.TimeoutFits)) := by
  obtain ⟨answer, ended⟩ := exists_returned rebuilt_web.1
  exact created_configuration_iff plainSetup (createRequest (cstr "web")) withCpuset rebuilt answer
    rfl ended

/-- A server that is rebuilt keeps its processor set. -/
theorem rebuilt_keeps_cpuset : ¬ ∀ (setup : Setup) (request : Request) (world last : World)
    (answer : Xml), request.method = cstr "vx.create" →
    ends (handle setup request) world = (.returned answer, last) →
    ∃ creation : Creation, creation.Of setup request world last ∧
      (creation.conf.All QuoteFree → creation.Described world.db last.db) := by
  intro described
  obtain ⟨answer, ended⟩ := exists_returned rebuilt_web.1
  obtain ⟨creation, of, described⟩ := described _ _ withCpuset rebuilt answer rfl ended
  have conf : creation.conf = {} := by
    obtain ⟨template, -, known⟩ := of.conf
    exact (templateConf_eq_parsed known).resolve_right nofun
  have free : creation.conf.All QuoteFree := by
    rw [conf]
    exact ⟨by decide, by decide, by decide, fun _ => nofun⟩
  have name : cstr "web" = creation.name := Except.ok.inj of.name
  have xid := of.xid
  rw [← name, rebuilt_web.2.1] at xid
  have unset := (described free).own .vxCpuset (by decide)
  rw [Creation.context, ← Option.some.inj xid] at unset
  exact rebuilt_web.2.2 unset

end Vcd
