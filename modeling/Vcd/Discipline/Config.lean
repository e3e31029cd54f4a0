import Vcd.Discipline

/-!
# Configuration methods keep the discipline

Each writer executes one statement on the context id it looked up, and the statement stays
inside that context and one table.
-/

namespace Vcd

open Sql Process

variable {setup : Setup} {request : Request} {past : Past} {table : Table}

/-! ## Reading parameters -/

/-- What a writer of configuration reads is the name, and a statement with one setting in the
table if every quote in some of the parameters is doubled. -/
def Reads (request : Request) (keys : List Str) (table : Table)
    (reader : Xml → Except Fault (Str × (Int → List Piece))) : Prop :=
  ∀ name sql, reader request.params = .ok (name, sql) →
    request.text (cstr "name") = .ok name ∧
      (request.ClosedOn keys → ∃ setting : Setting, setting.table = table ∧ Sets sql setting)

/-- If a setting puts a row, the row has a value in each column. -/
def Setting.Full : Setting → Prop
  | .put table rest =>
      rest.length + 1 = (Table.columns table).length ∧ ∀ value ∈ rest, value ≠ .null
  | _ => True

/-- The setting that is read is full. -/
def ReadsFull (request : Request) (keys : List Str) (table : Table)
    (reader : Xml → Except Fault (Str × (Int → List Piece))) : Prop :=
  ∀ name sql, reader request.params = .ok (name, sql) →
    request.text (cstr "name") = .ok name ∧ (request.ClosedOn keys →
      ∃ setting : Setting, setting.table = table ∧ Sets sql setting ∧ setting.Full)

theorem ReadsFull.reads {keys : List Str} {reader : Xml → Except Fault (Str × (Int → List Piece))}
    (full : ReadsFull request keys table reader) : Reads request keys table reader := by
  intro name sql read
  obtain ⟨known, settles⟩ := full name sql read
  refine ⟨known, fun closed => ?_⟩
  obtain ⟨setting, same, sets, -⟩ := settles closed
  exact ⟨setting, same, sets⟩

theorem closed_getD {text : Str} {default : Str} (closed : QuoteClosed text)
    (free : QuoteFree default) : QuoteClosed ((methodEmptyParam text).getD default) := by
  unfold methodEmptyParam
  split
  · exact closed_of_quoteFree free
  · exact closed

theorem reads_removeAll (mem : table ∈ settingTables) :
    ReadsFull request [] table (removeAllRequest table) := by
  intro name sql read
  simp only [removeAllRequest, bind_eq_ok, pure_eq_ok, Prod.mk.injEq] at read
  obtain ⟨_, known, rfl, rfl⟩ := read
  exact ⟨known, fun _ => ⟨_, rfl, sets_sqlRemove mem, trivial⟩⟩

theorem reads_removeKey {key : Str} (mem : (table, key) ∈ keyColumns) (valid : Str → Bool)
    (message : Str) : ReadsFull request [key] table (removeKeyRequest table key valid message) := by
  have listed : table ∈ settingTables := by
    have all : ∀ entry ∈ keyColumns, entry.1 ∈ settingTables := by decide
    exact all _ mem
  intro name sql read
  simp only [removeKeyRequest, bind_eq_ok] at read
  obtain ⟨_, known, text, textEq, read⟩ := read
  cases value : methodEmptyParam text with
  | none =>
      simp only [value, pure_eq_ok, Prod.mk.injEq] at read
      obtain ⟨rfl, rfl⟩ := read
      exact ⟨known, fun _ => ⟨_, rfl, sets_sqlRemove listed, trivial⟩⟩
  | some value' =>
      obtain rfl := methodEmptyParam_eq_some value
      simp only [value, refuse_bind, ite_error_eq_ok, pure_eq_ok, Prod.mk.injEq] at read
      obtain ⟨-, rfl, rfl⟩ := read
      exact ⟨known, fun closed =>
        ⟨_, rfl, sets_sqlRemoveKey mem (closed _ (by simp) _ textEq), trivial⟩⟩

theorem reads_add {key : Str} (mem : (table, key) ∈ nameColumns) (valid : Str → Bool)
    (message : Str) : ReadsFull request [key] table (addRequest table key valid message) := by
  intro name sql read
  simp only [addRequest, bind_eq_ok, refuse_bind, ite_error_eq_ok, pure_eq_ok,
    Prod.mk.injEq] at read
  obtain ⟨_, known, text, textEq, -, rfl, rfl⟩ := read
  refine ⟨known, fun closed =>
    ⟨_, rfl, sets_sqlAdd mem (closed _ (by simp) _ textEq), ?_, by simp [literal]⟩⟩
  have columns : ∀ entry ∈ nameColumns, 2 = (Table.columns entry.1).length := by decide
  exact columns _ mem

theorem reads_dxLimitSet : ReadsFull request [] .dxLimit dxLimitSetRequest := by
  intro name sql read
  simp only [dxLimitSetRequest, bind_eq_ok, refuse_bind, ite_error_eq_ok, pure_eq_ok,
    Prod.mk.injEq] at read
  obtain ⟨_, known, _, -, _, -, _, -, -, -, -, rfl, rfl⟩ := read
  exact ⟨known, fun _ => ⟨_, rfl, sets_sqlDxLimitSet _ _ _, rfl, by simp⟩⟩

theorem reads_initSet :
    ReadsFull request [cstr "init", cstr "halt", cstr "reboot"] .init initSetRequest := by
  intro name sql read
  simp only [initSetRequest, bind_eq_ok, refuse_bind, ite_error_eq_ok, pure_eq_ok,
    Prod.mk.injEq] at read
  obtain ⟨_, known, init, initEq, halt, haltEq, reboot, rebootEq, timeout, -, -, -, -, rfl,
    rfl⟩ := read
  exact ⟨known, fun closed => ⟨_, rfl, sets_sqlInitSet timeout
    (closed_getD (closed _ (by simp) _ initEq) (by decide))
    (closed_getD (closed _ (by simp) _ haltEq) (by decide))
    (closed_getD (closed _ (by simp) _ rebootEq) (by decide)), rfl, by simp [literal]⟩⟩

theorem reads_mountSet : ReadsFull request [cstr "src", cstr "dst", cstr "type", cstr "opts"] .mount
    mountSetRequest := by
  intro name sql read
  simp only [mountSetRequest, bind_eq_ok, refuse_bind, ite_error_eq_ok, pure_eq_ok,
    Prod.mk.injEq] at read
  obtain ⟨_, known, src, srcEq, dst, dstEq, type, typeEq, opts, optsEq, -, -, rfl, rfl⟩ := read
  exact ⟨known, fun closed => ⟨_, rfl, sets_sqlMountSet
    (closed_getD (closed _ (by simp) _ srcEq) (by decide)) (closed _ (by simp) _ dstEq)
    (closed_getD (closed _ (by simp) _ typeEq) (by decide))
    (closed_getD (closed _ (by simp) _ optsEq) (by decide)), rfl, by simp [literal]⟩⟩

theorem reads_nxAddrSet (host : Host) :
    ReadsFull request [cstr "addr", cstr "netmask"] .nxAddr (nxAddrSetRequest host) := by
  intro name sql read
  simp only [nxAddrSetRequest, bind_eq_ok, refuse_bind, ite_error_eq_ok] at read
  obtain ⟨given, known, addr, addrEq, netmask, netmaskEq, -, read⟩ := read
  have equal : given = name ∧
      sqlNxAddrSet addr ((methodEmptyParam netmask).getD (cstr "255.255.255.255")) = sql := by
    split at read
    · exact Prod.mk.inj (pure_eq_ok.mp (ite_error_eq_ok.mp read).2)
    · exact Prod.mk.inj (pure_eq_ok.mp read)
  obtain ⟨rfl, rfl⟩ := equal
  exact ⟨known, fun closed => ⟨_, rfl, sets_sqlNxAddrSet (closed _ (by simp) _ addrEq)
    (closed_getD (closed _ (by simp) _ netmaskEq) (by decide)), rfl, by simp [literal]⟩⟩

theorem reads_vxCpusetSet (host : Host) :
    ReadsFull request [cstr "cpus", cstr "mems"] .vxCpuset (vxCpusetSetRequest host) := by
  intro name sql read
  simp only [vxCpusetSetRequest, bind_eq_ok, refuse_bind, ite_error_eq_ok, pure_eq_ok,
    Prod.mk.injEq] at read
  obtain ⟨_, known, cpus, cpusEq, mems, memsEq, _, -, -, -, rfl, rfl⟩ := read
  exact ⟨known, fun closed => ⟨_, rfl, sets_sqlVxCpusetSet _ (closed _ (by simp) _ cpusEq)
    (closed _ (by simp) _ memsEq), rfl, by simp [literal]⟩⟩

theorem reads_vxSchedSet (host : Host) :
    ReadsFull request [] .vxSched (vxSchedSetRequest host) := by
  intro name sql read
  simp only [vxSchedSetRequest, bind_eq_ok, refuse_bind, ite_error_eq_ok, pure_eq_ok,
    Prod.mk.injEq] at read
  obtain ⟨_, known, _, -, _, -, _, -, _, -, _, -, _, -, _, -, -, -, rfl, rfl⟩ := read
  exact ⟨known, fun _ => ⟨_, rfl, sets_sqlVxSchedSet _ _ _ _ _ _ _, rfl, by simp⟩⟩

theorem reads_vxSchedRemove (host : Host) :
    ReadsFull request [] .vxSched (vxSchedRemoveRequest host) := by
  intro name sql read
  simp only [vxSchedRemoveRequest, bind_eq_ok, refuse_bind, ite_error_eq_ok, pure_eq_ok,
    Prod.mk.injEq] at read
  obtain ⟨_, known, cpuid, -, -, rfl, rfl⟩ := read
  refine ⟨known, fun _ => ?_⟩
  split
  · exact ⟨_, rfl, sets_sqlRemove (by decide), trivial⟩
  · exact ⟨_, rfl, sets_sqlVxSchedRemoveCpu cpuid, trivial⟩

theorem reads_vxLimitSet (host : Host) :
    ReadsFull request [cstr "type"] .vxLimit (vxLimitSetRequest host) := by
  intro name sql read
  simp only [vxLimitSetRequest, bind_eq_ok, refuse_bind, ite_error_eq_ok, pure_eq_ok,
    Prod.mk.injEq] at read
  obtain ⟨_, known, type, typeEq, _, -, _, -, -, -, -, -, rfl, rfl⟩ := read
  exact ⟨known, fun closed => ⟨_, rfl, sets_sqlVxLimitSet _ _ (closed _ (by simp) _ typeEq), rfl,
    by simp [literal]⟩⟩

theorem reads_vxUnameSet :
    ReadsFull request [cstr "type", cstr "value"] .vxUname vxUnameSetRequest := by
  intro name sql read
  simp only [vxUnameSetRequest, bind_eq_ok, refuse_bind, ite_error_eq_ok, pure_eq_ok,
    Prod.mk.injEq] at read
  obtain ⟨_, known, type, typeEq, value, valueEq, -, -, rfl, rfl⟩ := read
  exact ⟨known, fun closed => ⟨_, rfl, sets_sqlVxUnameSet (closed _ (by simp) _ typeEq)
    (closed _ (by simp) _ valueEq), rfl, by simp [literal]⟩⟩

/-! ## Writers -/

theorem configWrite_keeps {function : Str} {cap : UInt64}
    {reader : Xml → Except Fault (Str × (Int → List Piece))}
    (handler : handle setup request = configWrite setup.host function cap reader
      (.client request.credentials request.params))
    (kind : writeKind request.method = some (.config table))
    (reads : Reads request (pasted request.method) table reader)
    (listed : table ∈ contextTables) :
    Keeps setup request [] (configWrite setup.host function cap reader
      (.client request.credentials request.params)) := by
  refine meets_admitted setup.host cap _ lenient_true fun after user admitted => ?_
  refine meets_ofExcept lenient_true fun (name, sql) read => ?_
  obtain ⟨nameEq, settles⟩ := reads name sql read
  obtain ⟨checkedName, checkedEq, -, owned⟩ := admitted.checked rfl
  obtain rfl : checkedName = name := Except.ok.inj (checkedEq.symm.trans nameEq)
  refine meets_lookup (lookup_vxdbGetxid checkedName) fun xid trace traced => ?_
  rcases traced_vxdbGetxid traced with rfl | looked
  · trivial
  rw [if_neg looked.2.1]
  have settling : Settling setup request table checkedName sql :=
    ⟨⟨function, cap, reader, handler, read⟩, nameEq, settles, listed⟩
  refine meets_exec (.inr ⟨_, kind, .config user checkedName xid
    (traced.later.untouched admitted.untouched) admitted.user_eq settling ?_ ?_⟩)
    fun outcome => ?_
  · rw [traced.recent]
    exact (owned rfl).mono (by simp)
  · rw [traced.recent]
    exact looked.mono (by simp)
  · split <;> trivial

/-- What the registered writers of configuration read. -/
theorem vxdbWriters_reads {method : Call → Method Xml}
    (mem : (request.method, method) ∈ vxdbWriters setup) :
    ∃ function cap table reader, method = configWrite setup.host function cap reader ∧
      ReadsFull request (pasted request.method) table reader ∧
      writeKind request.method = some (.config table) ∧ table ∈ Table.init :: settingTables := by
  simp only [vxdbWriters, List.mem_cons, Prod.mk.injEq, List.not_mem_nil, or_false] at mem
  rcases mem with ⟨name, rfl⟩ | ⟨name, rfl⟩ | ⟨name, rfl⟩ | ⟨name, rfl⟩ | ⟨name, rfl⟩ |
    ⟨name, rfl⟩ | ⟨name, rfl⟩ | ⟨name, rfl⟩ | ⟨name, rfl⟩ | ⟨name, rfl⟩ | ⟨name, rfl⟩ |
    ⟨name, rfl⟩ | ⟨name, rfl⟩ | ⟨name, rfl⟩ | ⟨name, rfl⟩ | ⟨name, rfl⟩ | ⟨name, rfl⟩ |
    ⟨name, rfl⟩ | ⟨name, rfl⟩ | ⟨name, rfl⟩ | ⟨name, rfl⟩ | ⟨name, rfl⟩ | ⟨name, rfl⟩
  · exact ⟨_, _, _, _, rfl, by rw [name]; exact reads_removeAll (by decide),
      by rw [name]; rfl, by decide⟩
  · exact ⟨_, _, _, _, rfl, by rw [name]; exact reads_dxLimitSet,
      by rw [name]; rfl, by decide⟩
  · exact ⟨_, _, _, _, rfl, by rw [name]; exact reads_initSet,
      by rw [name]; rfl, by decide⟩
  · exact ⟨_, _, _, _, rfl, by rw [name]; exact reads_removeKey (by decide) _ _,
      by rw [name]; rfl, by decide⟩
  · exact ⟨_, _, _, _, rfl, by rw [name]; exact reads_mountSet,
      by rw [name]; rfl, by decide⟩
  · exact ⟨_, _, _, _, rfl, by rw [name]; exact reads_removeKey (by decide) _ _,
      by rw [name]; rfl, by decide⟩
  · exact ⟨_, _, _, _, rfl, by rw [name]; exact reads_nxAddrSet _,
      by rw [name]; rfl, by decide⟩
  · exact ⟨_, _, _, _, rfl, by rw [name]; exact reads_removeAll (by decide),
      by rw [name]; rfl, by decide⟩
  · exact ⟨_, _, _, _, rfl, by rw [name]; exact reads_add (by decide) _ _,
      by rw [name]; rfl, by decide⟩
  · exact ⟨_, _, _, _, rfl, by rw [name]; exact reads_add (by decide) _ _,
      by rw [name]; rfl, by decide⟩
  · exact ⟨_, _, _, _, rfl, by rw [name]; exact reads_removeKey (by decide) _ _,
      by rw [name]; rfl, by decide⟩
  · exact ⟨_, _, _, _, rfl, by rw [name]; exact reads_add (by decide) _ _,
      by rw [name]; rfl, by decide⟩
  · exact ⟨_, _, _, _, rfl, by rw [name]; exact reads_removeKey (by decide) _ _,
      by rw [name]; rfl, by decide⟩
  · exact ⟨_, _, _, _, rfl, by rw [name]; exact reads_removeAll (by decide),
      by rw [name]; rfl, by decide⟩
  · exact ⟨_, _, _, _, rfl, by rw [name]; exact reads_vxCpusetSet _,
      by rw [name]; rfl, by decide⟩
  · exact ⟨_, _, _, _, rfl, by rw [name]; exact reads_add (by decide) _ _,
      by rw [name]; rfl, by decide⟩
  · exact ⟨_, _, _, _, rfl, by rw [name]; exact reads_removeKey (by decide) _ _,
      by rw [name]; rfl, by decide⟩
  · exact ⟨_, _, _, _, rfl, by rw [name]; exact reads_removeKey (by decide) _ _,
      by rw [name]; rfl, by decide⟩
  · exact ⟨_, _, _, _, rfl, by rw [name]; exact reads_vxLimitSet _,
      by rw [name]; rfl, by decide⟩
  · exact ⟨_, _, _, _, rfl, by rw [name]; exact reads_vxSchedRemove _,
      by rw [name]; rfl, by decide⟩
  · exact ⟨_, _, _, _, rfl, by rw [name]; exact reads_vxSchedSet _,
      by rw [name]; rfl, by decide⟩
  · exact ⟨_, _, _, _, rfl, by rw [name]; exact reads_removeKey (by decide) _ _,
      by rw [name]; rfl, by decide⟩
  · exact ⟨_, _, _, _, rfl, by rw [name]; exact reads_vxUnameSet,
      by rw [name]; rfl, by decide⟩

/-- Every registered writer of configuration keeps the discipline. -/
theorem vxdbWriters_keep {method : Call → Method Xml}
    (mem : (request.method, method) ∈ vxdbWriters setup)
    (handler : handle setup request = method (.client request.credentials request.params)) :
    Keeps setup request [] (method (.client request.credentials request.params)) := by
  have tables : ∀ table ∈ Table.init :: settingTables, table ∈ contextTables := by decide
  obtain ⟨function, cap, table, reader, rfl, full, kind, listed⟩ := vxdbWriters_reads mem
  exact configWrite_keeps handler kind full.reads (tables table listed)

end Vcd
