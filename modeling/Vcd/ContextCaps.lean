import Vcd.Settings
import Vcd.Trails
import Vcd.Discipline.Helpers
import Vcd.ConfigFrame

/-!
# Capabilities and flags of a context

The requests that add names to the three lists of a context and remove them, and the words
that `context_caps_and_flags` makes of the lists. A name is in a list exactly if the last
request about it has added it.
-/

namespace Vcd

open Sql Process

/-! ## The lists -/

/-- The lists of a context. -/
inductive CapList where
  | bcaps | ccaps | flags
  deriving DecidableEq, Repr

namespace CapList

def table : CapList → Table
  | .bcaps => .vxBcaps
  | .ccaps => .vxCcaps
  | .flags => .vxFlags

/-- The column of the names, and the parameter that gives one. -/
def key : CapList → Str
  | .bcaps => cstr "bcap"
  | .ccaps => cstr "ccap"
  | .flags => cstr "flag"

/-- The names that are known. -/
def listed : CapList → List Str
  | .bcaps => bcapsList
  | .ccaps => ccapsList
  | .flags => cflagsList

def addMethod : CapList → Str
  | .bcaps => cstr "vxdb.vx.bcaps.add"
  | .ccaps => cstr "vxdb.vx.ccaps.add"
  | .flags => cstr "vxdb.vx.flags.add"

def removeMethod : CapList → Str
  | .bcaps => cstr "vxdb.vx.bcaps.remove"
  | .ccaps => cstr "vxdb.vx.ccaps.remove"
  | .flags => cstr "vxdb.vx.flags.remove"

/-- The call that installs a word in a context, with its mask. -/
def install : CapList → Int → List Str → Sys
  | .bcaps, xid, names => .vxBcapsSet xid names (~~~0)
  | .ccaps, xid, names => .vxCcapsSet xid names (~~~0)
  | .flags, xid, names => .vxFlagsSet xid names names

variable (list : CapList)

theorem column_mem : (list.table, list.key) ∈ nameColumns ∧ (list.table, list.key) ∈ keyColumns := by
  cases list <;> decide

variable {list}

/-- A known name begins with a capital letter. -/
theorem listed_head {name : Str} (mem : name ∈ list.listed) :
    ∃ first rest, name = first :: rest ∧ first ≠ '-' ∧ first.isDigit = false := by
  have heads : list.listed.all fun name =>
      name.head?.any fun first => first != '-' && !first.isDigit := by
    cases list <;> decide
  have head := List.all_eq_true.mp heads name mem
  cases name with
  | nil => cases head
  | cons first rest =>
      change (first != '-' && !first.isDigit) = true at head
      simp only [Bool.and_eq_true, bne_iff_ne, ne_eq, Bool.not_eq_true'] at head
      exact ⟨first, rest, rfl, head⟩

theorem quoteFree_listed {name : Str} (mem : name ∈ list.listed) : QuoteFree name := by
  have free : ∀ name ∈ list.listed, QuoteFree name := by
    cases list <;> decide
  exact free name mem

/-- The texts that read as a known name. -/
theorem vxdbColumnText_eq_iff {name : Str} (mem : name ∈ list.listed) (value : Value) :
    vxdbColumnText [value] 0 = name ↔ value = .str name := by
  obtain ⟨first, rest, rfl, minus, digit⟩ := listed_head mem
  cases value with
  | null => exact iff_of_false nofun nofun
  | int number =>
      refine iff_of_false (fun equal => ?_) nofun
      change decimal number = first :: rest at equal
      rcases mem_decimal (equal ▸ List.mem_cons_self : first ∈ decimal number) with known | known
      · exact minus known
      · rw [digit] at known
        cases known
  | str text => exact ⟨congrArg Value.str, Value.str.inj⟩

/-! ## What is in a list -/

variable (list) in
/-- The name is among the rows of a context. -/
def Has (rows : List Row) (context : Int) (name : Str) : Prop :=
  ∃ row ∈ rows, ofXid context row = true ∧ list.table.cell row list.key = .str name

section Has

variable {rows : List Row} {context other : Int} {name cap : Str}

/-- A row of a list that a new one replaces has the same context and the same name. -/
theorem of_conflict {row : Row}
    (clash : vxdbSchema.conflict list.table row [.int context, .str cap] = true) :
    ofXid context row = true ∧ list.table.cell row list.key = .str cap := by
  obtain ⟨index, unique, equal⟩ := vxdbSchema.conflict_iff.mp clash
  have only : list.table.unique = [[cstr "xid", list.key]] := by
    cases list <;> rfl
  change index ∈ list.table.unique at unique
  rw [only] at unique
  obtain rfl := List.mem_singleton.mp unique
  have first := equal (cstr "xid") (.head _)
  have second := equal list.key (.tail _ (.head _))
  have cells : vxdbSchema.cell list.table row (cstr "xid") = xidOf row ∧
      vxdbSchema.cell list.table [.int context, .str cap] (cstr "xid") = .int context ∧
      vxdbSchema.cell list.table [.int context, .str cap] list.key = .str cap := by
    cases list <;> exact ⟨rfl, rfl, rfl⟩
  rw [cells.1, cells.2.1] at first
  rw [cells.2.2] at second
  exact ⟨first, (Value.same_str_right _ _).mp second⟩

theorem has_put : list.Has ((Setting.put list.table [.str cap]).leaves context rows) other name ↔
    other = context ∧ name = cap ∨ list.Has rows other name := by
  have added : ofXid other [.int context, .str cap] = true ↔ other = context :=
    ofXid_iff.trans ⟨fun same => (Value.int.inj same).symm, fun same => congrArg Value.int same.symm⟩
  have column : list.table.cell [.int context, .str cap] list.key = .str cap := by
    cases list <;> rfl
  constructor
  · rintro ⟨row, mem, own, known⟩
    rcases List.mem_append.mp mem with kept | new
    · exact .inr ⟨row, (List.mem_filter.mp kept).1, own, known⟩
    · obtain rfl := List.mem_singleton.mp new
      rw [column] at known
      exact .inl ⟨added.mp own, (Value.str.inj known).symm⟩
  · rintro (⟨rfl, rfl⟩ | ⟨row, mem, own, known⟩)
    · exact ⟨_, List.mem_append_right _ (List.mem_singleton_self _), added.mpr rfl, column⟩
    · cases clash : vxdbSchema.conflict list.table row [.int context, .str cap] with
      | false =>
          refine ⟨row, List.mem_append_left _ (List.mem_filter.mpr ⟨mem, ?_⟩), own, known⟩
          rw [clash]
          rfl
      | true =>
          obtain ⟨replaced, named⟩ := of_conflict clash
          have same : other = context :=
            Value.int.inj ((ofXid_iff.mp own).symm.trans (ofXid_iff.mp replaced))
          have equal : name = cap := Value.str.inj (known.symm.trans named)
          exact ⟨_, List.mem_append_right _ (List.mem_singleton_self _), added.mpr same,
            column.trans (congrArg Value.str equal.symm)⟩

theorem has_filter {selected : Row → Bool} :
    list.Has (rows.filter fun row => !selected row) other name ↔
      ∃ row ∈ rows, selected row = false ∧ ofXid other row = true ∧
        list.table.cell row list.key = .str name := by
  constructor
  · rintro ⟨row, mem, own, known⟩
    obtain ⟨mem, spared⟩ := List.mem_filter.mp mem
    exact ⟨row, mem, by simpa using spared, own, known⟩
  · rintro ⟨row, mem, spared, own, known⟩
    exact ⟨row, List.mem_filter.mpr ⟨mem, by rw [spared]; rfl⟩, own, known⟩

theorem has_remove :
    list.Has ((Setting.remove list.table list.key (.str cap)).leaves context rows) other name ↔
      ¬ (other = context ∧ name = cap) ∧ list.Has rows other name := by
  refine has_filter.trans ⟨?_, ?_⟩
  · rintro ⟨row, mem, spared, own, known⟩
    refine ⟨?_, row, mem, own, known⟩
    rintro ⟨rfl, rfl⟩
    rw [own, known, (Value.same_str_right _ _).mpr rfl] at spared
    cases spared
  · rintro ⟨apart, row, mem, own, known⟩
    refine ⟨row, mem, Bool.eq_false_iff.mpr fun chosen => apart ?_, own, known⟩
    obtain ⟨chosen, named⟩ := Bool.and_eq_true_iff.mp chosen
    exact ⟨Value.int.inj ((ofXid_iff.mp own).symm.trans (ofXid_iff.mp chosen)),
      Value.str.inj (known.symm.trans ((Value.same_str_right _ _).mp named))⟩

theorem has_clear : list.Has ((Setting.clear list.table).leaves context rows) other name ↔
    other ≠ context ∧ list.Has rows other name := by
  refine has_filter.trans ⟨?_, ?_⟩
  · rintro ⟨row, mem, spared, own, known⟩
    refine ⟨?_, row, mem, own, known⟩
    rintro rfl
    rw [own] at spared
    cases spared
  · rintro ⟨apart, row, mem, own, known⟩
    refine ⟨row, mem, Bool.eq_false_iff.mpr fun chosen => apart ?_, own, known⟩
    exact Value.int.inj ((ofXid_iff.mp own).symm.trans (ofXid_iff.mp chosen))

end Has

end CapList

/-! ## Requests -/

theorem int32_xidIn_inj {left right : Str} {oracle : Oracle}
    (same : int32 (xidIn oracle left) = int32 (xidIn oracle right)) :
    xidIn oracle left = xidIn oracle right := by
  have unsigned (name : Str) : uint32 (int32 (xidIn oracle name)) = xidIn oracle name := by
    have wrapped : uint32 (xidIn oracle name) = xidIn oracle name := by
      unfold xidIn
      split
      · cases firstRow (oracle (render (sqlGetxid name))) with
        | none => rfl
        | some row => exact Int.emod_emod_of_dvd _ (Int.dvd_refl _)
      · rfl
    refine Eq.trans ?_ wrapped
    exact Int.bmod_emod
  rw [← unsigned left, same, unsigned right]

/-- The requests that change one of the lists. -/
def capMethods : List Str :=
  [.bcaps, .ccaps, .flags].flatMap fun list : CapList => [list.addMethod, list.removeMethod]

/-- The verdict of a request on a name in a list of a context: it adds it, it removes it, or it
is not about it. Names of virtual servers are read in a database. -/
def CapList.verdict (list : CapList) (db : Vxdb) (context : Int) (name : Str) (request : Request) :
    Option Bool :=
  match request.text (cstr "name"), request.text list.key with
  | .ok server, .ok text =>
      if xidIn db.oracle server = context then
        if request.method = list.addMethod ∧ text = name then some true
        else if request.method = list.removeMethod ∧ (strIsempty text ∨ text = name) then
          some false
        else none
      else none
  | _, _ => none

/-- Requests for the lists that succeed, one after the other. -/
inductive Succeeding (setup : Setup) : Vxdb → List Request → Vxdb → Prop where
  | nil (db : Vxdb) : Succeeding setup db [] db
  | cons {start next : World} {request : Request} {answer : Xml} {rest : List Request}
      {last : Vxdb} (known : request.method ∈ capMethods)
      (ended : ends (handle setup request) start = (.returned answer, next))
      (later : Succeeding setup next.db rest last) :
      Succeeding setup start.db (request :: rest) last

section Step

variable {setup : Setup} {request : Request} {world next : World} {answer : Xml} {list : CapList}

theorem handle_addMethod (known : request.method = list.addMethod) :
    ∃ function caps message, handle setup request =
      configWrite setup.host function caps (addRequest list.table list.key
        (validateListed list.listed) message) (.client request.credentials request.params) := by
  rw [handle, known]
  cases list with
  | bcaps => exact ⟨_, _, _, rfl⟩
  | ccaps => exact ⟨_, _, _, rfl⟩
  | flags => exact ⟨_, _, _, rfl⟩

theorem handle_removeMethod (known : request.method = list.removeMethod) :
    ∃ function caps message, handle setup request =
      configWrite setup.host function caps (removeKeyRequest list.table list.key
        (validateListed list.listed) message) (.client request.credentials request.params) := by
  rw [handle, known]
  cases list with
  | bcaps => exact ⟨_, _, _, rfl⟩
  | ccaps => exact ⟨_, _, _, rfl⟩
  | flags => exact ⟨_, _, _, rfl⟩

theorem literal_listed {name : Str} (mem : name ∈ list.listed) : literal name = .str name := by
  unfold literal
  rw [unquote_of_quoteFree (CapList.quoteFree_listed mem)]
  rfl

/-- A request that adds a name or removes some makes this setting. -/
inductive Asks (request : Request) (server : Str) : CapList → Setting → Prop where
  | add {list : CapList} {cap : Str} (method : request.method = list.addMethod)
      (server_eq : request.text (cstr "name") = .ok server)
      (cap_eq : request.text list.key = .ok cap) (known : cap ∈ list.listed) :
      Asks request server list (.put list.table [.str cap])
  | remove {list : CapList} {cap : Str} (method : request.method = list.removeMethod)
      (server_eq : request.text (cstr "name") = .ok server)
      (cap_eq : request.text list.key = .ok cap) (given : strIsempty cap = false)
      (known : cap ∈ list.listed) :
      Asks request server list (.remove list.table list.key (.str cap))
  | clear {list : CapList} {cap : Str} (method : request.method = list.removeMethod)
      (server_eq : request.text (cstr "name") = .ok server)
      (cap_eq : request.text list.key = .ok cap) (given : strIsempty cap = true) :
      Asks request server list (.clear list.table)

theorem asks_add {server message : Str} {sql : Int → List Piece}
    (method : request.method = list.addMethod)
    (read : addRequest list.table list.key (validateListed list.listed) message request.params =
      .ok (server, sql)) :
    ∃ setting, Asks request server list setting ∧ Sets sql setting := by
  simp only [addRequest, bind_eq_ok, refuse_bind, ite_error_eq_ok, pure_eq_ok, Prod.mk.injEq] at read
  obtain ⟨_, serverEq, cap, capEq, valid, rfl, rfl⟩ := read
  rw [Bool.not_eq_true', Bool.not_eq_false] at valid
  have mem := mem_of_validateListed valid
  have sets := sets_sqlAdd list.column_mem.1 (closed_of_quoteFree (CapList.quoteFree_listed mem))
  rw [literal_listed mem] at sets
  exact ⟨_, .add method serverEq capEq mem, sets⟩

theorem settingTables_table (list : CapList) : list.table ∈ settingTables := by
  cases list <;> decide

theorem asks_remove {server message : Str} {sql : Int → List Piece}
    (method : request.method = list.removeMethod)
    (read : removeKeyRequest list.table list.key (validateListed list.listed) message
      request.params = .ok (server, sql)) :
    ∃ setting, Asks request server list setting ∧ Sets sql setting := by
  simp only [removeKeyRequest, bind_eq_ok] at read
  obtain ⟨_, serverEq, cap, capEq, read⟩ := read
  cases given : strIsempty cap with
  | true =>
      rw [methodEmptyParam, if_pos given] at read
      obtain ⟨rfl, rfl⟩ := Prod.mk.inj (pure_eq_ok.mp read)
      exact ⟨_, .clear method serverEq capEq given, sets_sqlRemove (settingTables_table list)⟩
  | false =>
      rw [methodEmptyParam, if_neg (Bool.eq_false_iff.mp given)] at read
      simp only [refuse_bind, ite_error_eq_ok, pure_eq_ok, Prod.mk.injEq] at read
      obtain ⟨valid, rfl, rfl⟩ := read
      rw [Bool.not_eq_true', Bool.not_eq_false] at valid
      have mem := mem_of_validateListed valid
      have sets := sets_sqlRemoveKey list.column_mem.2
        (closed_of_quoteFree (CapList.quoteFree_listed mem))
      rw [literal_listed mem] at sets
      exact ⟨_, .remove method serverEq capEq given mem, sets⟩

/-- A request for the lists that succeeds makes its setting for the context of its server. -/
theorem returned_caps (known : request.method ∈ capMethods)
    (ended : ends (handle setup request) world = (.returned answer, next)) :
    ∃ list server setting, Asks request server list setting ∧
      xidIn world.db.oracle server ≠ 0 ∧
      next.db.rows list.table =
        setting.leaves (int32 (xidIn world.db.oracle server)) (world.db.rows list.table) ∧
      ∀ other, other ≠ list.table → other ≠ .vcd → next.db.rows other = world.db.rows other := by
  obtain ⟨list, mem⟩ := List.mem_flatMap.mp known
  have asked : ∃ function caps reader, handle setup request = configWrite setup.host function caps
      reader (.client request.credentials request.params) ∧ ∀ server sql,
        reader request.params = .ok (server, sql) →
          ∃ setting, Asks request server list setting ∧ Sets sql setting := by
    rcases List.mem_cons.mp mem.2 with method | method
    · obtain ⟨function, caps, message, handler⟩ := @handle_addMethod setup request list method
      exact ⟨function, caps, _, handler, fun _ _ => asks_add method⟩
    · obtain ⟨function, caps, message, handler⟩ :=
        @handle_removeMethod setup request list (List.mem_singleton.mp method)
      exact ⟨function, caps, _, handler, fun _ _ => asks_remove (List.mem_singleton.mp method)⟩
  obtain ⟨function, caps, reader, handler, asks⟩ := asked
  rw [handler] at ended
  obtain ⟨server, sql, wrote⟩ := returned_configWrite ended
  obtain ⟨setting, asked, sets⟩ := asks server sql wrote.read
  have table : setting.table = list.table := by
    cases asked <;> rfl
  obtain ⟨-, rows, others⟩ := sets.execText (xidIn world.db.oracle server) (counted world.db)
  rw [wrote.last]
  have uncounted {other : Table} (ne : other ≠ .vcd) :
      (counted world.db).rows other = world.db.rows other :=
    counts_sqlRequests.rows world.db ne
  have counterless : list.table ≠ .vcd := by
    cases list <;> nofun
  rw [table, uncounted counterless] at rows
  refine ⟨list, server, setting, asked, wrote.found, rows, fun other ne apart => ?_⟩
  exact (others other (table ▸ ne)).trans (uncounted apart)

section Verdict

variable {server target name cap : Str} {db : Vxdb}

theorem addMethod_ne_removeMethod (left right : CapList) : left.addMethod ≠ right.removeMethod := by
  cases left <;> cases right <;> decide

theorem method_inj {left right : CapList} (same : left.addMethod = right.addMethod ∨
    left.removeMethod = right.removeMethod) : left = right := by
  cases left <;> cases right <;> revert same <;> decide

theorem table_inj {left right : CapList} (ne : left ≠ right) : left.table ≠ right.table := by
  cases left <;> cases right <;> revert ne <;> decide

/-- A request for one list is not about the others. -/
theorem verdict_other {own : CapList} {setting : Setting} (ne : list ≠ own)
    (asked : Asks request server own setting) (context : Int) :
    list.verdict db context name request = none := by
  have method : request.method ≠ list.addMethod ∧ request.method ≠ list.removeMethod := by
    cases asked with
    | add method _ _ _ =>
        rw [method]
        exact ⟨fun same => ne (method_inj (.inl same.symm)), addMethod_ne_removeMethod _ _⟩
    | remove method _ _ _ _ =>
        rw [method]
        exact ⟨(addMethod_ne_removeMethod _ _).symm, fun same => ne (method_inj (.inr same.symm))⟩
    | clear method _ _ _ =>
        rw [method]
        exact ⟨(addMethod_ne_removeMethod _ _).symm, fun same => ne (method_inj (.inr same.symm))⟩
  unfold CapList.verdict
  split
  · simp [method.1, method.2]
  · rfl

theorem verdict_add (method : request.method = list.addMethod)
    (serverEq : request.text (cstr "name") = .ok target) (capEq : request.text list.key = .ok cap)
    (context : Int) : list.verdict db context name request =
      if xidIn db.oracle target = context ∧ cap = name then some true else none := by
  unfold CapList.verdict
  rw [serverEq, capEq]
  have other := addMethod_ne_removeMethod list list
  by_cases same : xidIn db.oracle target = context <;> by_cases equal : cap = name <;>
    simp [method, same, equal, other]

theorem verdict_remove (method : request.method = list.removeMethod)
    (serverEq : request.text (cstr "name") = .ok target) (capEq : request.text list.key = .ok cap)
    (given : strIsempty cap = false) (context : Int) : list.verdict db context name request =
      if xidIn db.oracle target = context ∧ cap = name then some false else none := by
  unfold CapList.verdict
  rw [serverEq, capEq]
  have other := (addMethod_ne_removeMethod list list).symm
  by_cases same : xidIn db.oracle target = context <;> by_cases equal : cap = name <;>
    simp_all

theorem verdict_clear (method : request.method = list.removeMethod)
    (serverEq : request.text (cstr "name") = .ok target) (capEq : request.text list.key = .ok cap)
    (given : strIsempty cap = true) (context : Int) : list.verdict db context name request =
      if xidIn db.oracle target = context then some false else none := by
  unfold CapList.verdict
  rw [serverEq, capEq]
  have other := (addMethod_ne_removeMethod list list).symm
  by_cases same : xidIn db.oracle target = context <;> simp [method, same, given, other]

end Verdict

/-- After a request for the lists a name is in a list exactly if the request has added it, or
is not about it and it was there before. -/
theorem has_of_verdict (known : request.method ∈ capMethods)
    (ended : ends (handle setup request) world = (.returned answer, next)) (list : CapList)
    (server name : Str) :
    list.Has (next.db.rows list.table) (int32 (xidIn world.db.oracle server)) name ↔
      match list.verdict world.db (xidIn world.db.oracle server) name request with
      | some added => added = true
      | none => list.Has (world.db.rows list.table) (int32 (xidIn world.db.oracle server)) name := by
  obtain ⟨own, target, setting, asked, -, rows, others⟩ := returned_caps known ended
  have context : int32 (xidIn world.db.oracle server) = int32 (xidIn world.db.oracle target) ↔
      xidIn world.db.oracle target = xidIn world.db.oracle server :=
    ⟨fun same => int32_xidIn_inj same.symm, fun same => congrArg int32 same.symm⟩
  by_cases ne : list = own
  · subst ne
    rw [rows]
    cases asked with
    | @add cap method serverEq capEq mem =>
        rw [verdict_add method serverEq capEq, CapList.has_put, context, eq_comm (a := name)]
        by_cases added : xidIn world.db.oracle target = xidIn world.db.oracle server ∧ cap = name
        · simp [added]
        · simp [added]
    | @remove cap method serverEq capEq given mem =>
        rw [verdict_remove method serverEq capEq given, CapList.has_remove, context,
          eq_comm (a := name)]
        by_cases removed : xidIn world.db.oracle target = xidIn world.db.oracle server ∧ cap = name
        · simp [removed]
        · simp [removed]
    | clear method serverEq capEq given =>
        rw [verdict_clear method serverEq capEq given, CapList.has_clear, ne_eq, context]
        by_cases removed : xidIn world.db.oracle target = xidIn world.db.oracle server
        · simp [removed]
        · simp [removed]
  · have counterless : list.table ≠ .vcd := by
      cases list <;> nofun
    rw [verdict_other ne asked, others _ (table_inj ne) counterless]

/-- What the requests leave of the names of virtual servers. -/
theorem xidIn_of_caps (known : request.method ∈ capMethods)
    (ended : ends (handle setup request) world = (.returned answer, next)) (server : Str) :
    xidIn next.db.oracle server = xidIn world.db.oracle server := by
  obtain ⟨own, _, _, _, -, -, others⟩ := returned_caps known ended
  refine xidIn_of_rows (others _ ?_ nofun) server
  cases own <;> nofun

end Step

/-- The name is in the list if the requests are taken by their word: the last one about it
counts, and the database before them if there is none. -/
def CapList.Configured (list : CapList) (db : Vxdb) (server name : Str) (requests : List Request) :
    Prop :=
  match (requests.filterMap (list.verdict db (xidIn db.oracle server) name)).getLast? with
  | some added => added = true
  | none => list.Has (db.rows list.table) (int32 (xidIn db.oracle server)) name

theorem Succeeding.has_iff {setup : Setup} {db last : Vxdb} {requests : List Request}
    (succeeding : Succeeding setup db requests last) (list : CapList) (server name : Str) :
    xidIn last.oracle server = xidIn db.oracle server ∧
      (list.Has (last.rows list.table) (int32 (xidIn db.oracle server)) name ↔
        list.Configured db server name requests) := by
  unfold CapList.Configured
  induction succeeding with
  | nil db => exact ⟨rfl, Iff.rfl⟩
  | @cons start next request answer rest last known ended later ih =>
      have same := xidIn_of_caps known ended
      have verdict : list.verdict next.db (xidIn next.db.oracle server) name =
          list.verdict start.db (xidIn start.db.oracle server) name := by
        funext request
        unfold CapList.verdict
        simp only [same]
      have step := has_of_verdict known ended list server name
      rw [verdict, same server] at ih
      refine ⟨ih.1, ih.2.trans ?_⟩
      rw [List.filterMap_cons]
      cases said : list.verdict start.db (xidIn start.db.oracle server) name request with
      | none =>
          rw [said] at step
          cases lastly : (rest.filterMap
              (list.verdict start.db (xidIn start.db.oracle server) name)).getLast? with
          | none => simpa [lastly] using step
          | some added => simp
      | some added =>
          rw [said] at step
          cases lastly : (rest.filterMap
              (list.verdict start.db (xidIn start.db.oracle server) name)).getLast? with
          | none => simpa [lastly, List.getLast?_cons] using step
          | some later => simp [lastly, List.getLast?_cons]

/-! ## Words -/

/-- The word the loops of `context_caps_and_flags` make of some names. -/
def word (value : Str → UInt64) (names : List Str) : UInt64 :=
  names.foldl (fun flags name => flags ||| value name) 0

/-- The names have distinct single bits. -/
structure SingleBits (names : List Str) (value : Str → UInt64) : Prop where
  single : ∀ name ∈ names, ∃ bit, (value name).toNat = 2 ^ bit
  distinct : ∀ left ∈ names, ∀ right ∈ names, value left = value right → left = right

theorem testBit_word (value : Str → UInt64) (names : List Str) (bit : Nat) :
    (word value names).toNat.testBit bit = true ↔
      ∃ name ∈ names, (value name).toNat.testBit bit = true := by
  have fold (start : UInt64) : (names.foldl (fun flags name => flags ||| value name)
      start).toNat.testBit bit = true ↔ start.toNat.testBit bit = true ∨
        ∃ name ∈ names, (value name).toNat.testBit bit = true := by
    induction names generalizing start with
    | nil => simp
    | cons name rest ih =>
        rw [List.foldl_cons, ih, UInt64.toNat_or, Nat.testBit_or, Bool.or_eq_true, or_assoc,
          List.exists_mem_cons_iff]
  refine (fold 0).trans (or_iff_right ?_)
  simp

/-- The bits of a word are those of its names. -/
theorem SingleBits.testBit_word_iff {known names : List Str} {value : Str → UInt64}
    (bits : SingleBits known value) (subset : names ⊆ known) (bit : Nat) :
    (word value names).toNat.testBit bit = true ↔
      ∃ name ∈ names, (value name).toNat = 2 ^ bit := by
  refine (testBit_word value names bit).trans (exists_congr fun name => and_congr_right fun mem => ?_)
  obtain ⟨own, equal⟩ := bits.single name (subset mem)
  rw [equal, Nat.testBit_two_pow, decide_eq_true_eq]
  exact ⟨congrArg (2 ^ ·), fun same => Nat.pow_right_injective (Nat.le_refl 2) same⟩

/-! ## The calls -/

namespace CapList

def select : CapList → Str
  | .bcaps => cstr "SELECT bcap FROM vx_bcaps"
  | .ccaps => cstr "SELECT ccap FROM vx_ccaps"
  | .flags => cstr "SELECT flag FROM vx_flags"

/-- The name of the call. -/
def setter : CapList → Str
  | .bcaps => cstr "vx_bcaps_set"
  | .ccaps => cstr "vx_ccaps_set"
  | .flags => cstr "vx_flags_set"

/-- The part of `context_caps_and_flags` for one list. -/
def startup (list : CapList) (xid : Int) : Method Unit := do
  let rows ← selectXid (cstr "context_caps_and_flags") list.select xid
  sysOrFault (cstr "context_caps_and_flags") list.setter
    (list.install xid (listedTexts list.listed rows))

/-- The known names in the list of a context. -/
def names (list : CapList) (db : Vxdb) (xid : Int) : List Str :=
  listedTexts list.listed (((db.rows list.table).filter (ofXid (int32 xid))).map fun row =>
    [list.table.cell row list.key])

theorem mem_names {list : CapList} {db : Vxdb} {xid : Int} {name : Str} :
    name ∈ list.names db xid ↔
      name ∈ list.listed ∧ list.Has (db.rows list.table) (int32 xid) name := by
  unfold names listedTexts Has
  rw [List.map_map, List.mem_filter, List.contains_iff_mem, and_comm]
  refine and_congr_right fun mem => ?_
  rw [List.mem_map]
  constructor
  · rintro ⟨row, stored, known⟩
    obtain ⟨stored, own⟩ := List.mem_filter.mp stored
    exact ⟨row, stored, own, (vxdbColumnText_eq_iff mem _).mp known⟩
  · rintro ⟨row, stored, own, known⟩
    exact ⟨row, List.mem_filter.mpr ⟨stored, own⟩, (vxdbColumnText_eq_iff mem _).mpr known⟩

/-- The query for a list. -/
def query (list : CapList) (xid : Int) : Select where
  projections := [.column none list.key]
  table := list.table.name
  join := none
  condition := some (.eq (.column none (cstr "xid")) (.int (int32 xid)))
  order := none
  limit := none

theorem prepareText_select (list : CapList) (xid : Int) (db : Vxdb) :
    prepareText db (render [.chars list.select, .chars (cstr " WHERE xid = "), xidPiece xid]) =
      some (((db.rows list.table).filter (ofXid (int32 xid))).map fun row =>
        [list.table.cell row list.key]) := by
  have read : readPieces [.chars list.select, .chars (cstr " WHERE xid = "), xidPiece xid] =
      some [some (.select (list.query xid))] := by
    cases list <;> rfl
  have plain : (list.query xid).Plain vxdbSchema list.table := by
    cases list <;> exact ⟨by rfl, by rfl, by rfl, by rfl, by rfl, by rfl⟩
  rw [prepareText_plain (by simp [xidPiece, Piece.Free]) read plain]
  cases list <;> rfl

/-- The part for a list makes one call, with the known names among the rows of the context, and
goes on if it does not fail. -/
theorem run_startup (list : CapList) (xid : Int) (rest : Unit → Method Unit) (process : Nat)
    (world : World) :
    (list.startup xid >>= rest).run machine process world =
      if (world.kernel world.clock (list.install xid (list.names world.db xid))).rc = -1 then
        ⟨.failed (.sys (cstr "context_caps_and_flags") list.setter),
          { world with clock := world.clock + 1 },
          [(world, .prepare (render [.chars list.select, .chars (cstr " WHERE xid = "),
            xidPiece xid])), (world, .sys (list.install xid (list.names world.db xid)))]⟩
      else
        let later := (rest ()).run machine process { world with clock := world.clock + 1 }
        { later with trace :=
            (world, .prepare (render [.chars list.select, .chars (cstr " WHERE xid = "),
              xidPiece xid])) ::
            (world, .sys (list.install xid (list.names world.db xid))) :: later.trace } := by
  unfold startup selectXid selectRows sysOrFault
  simp only [bind_assoc]
  rw [run_prepare, prepareText_select]
  simp only [pure_bind]
  rw [run_sys]
  unfold names
  split
  next => rfl
  next => rfl

end CapList

theorem contextCapsAndFlags_eq (xid : Int) : contextCapsAndFlags xid =
    CapList.bcaps.startup xid >>= fun _ => CapList.ccaps.startup xid >>= fun _ =>
      CapList.flags.startup xid := by
  unfold contextCapsAndFlags CapList.startup
  simp only [bind_assoc]
  rfl

/-- The calls among the operations of a run. -/
def calls (trace : List (World × Op)) : List Sys :=
  trace.filterMap fun step => match step.2 with
    | .sys call => some call
    | _ => none

/-- The calls that install the lists of a context. -/
def installs (db : Vxdb) (xid : Int) : List Sys :=
  [CapList.bcaps, .ccaps, .flags].map fun list => list.install xid (list.names db xid)

/-- `context_caps_and_flags` installs one list after the other, until a call fails. -/
theorem calls_contextCapsAndFlags (xid : Int) (process : Nat) (world : World) :
    calls ((contextCapsAndFlags xid).run machine process world).trace <+: installs world.db xid ∧
      calls ((contextCapsAndFlags xid).run machine process world).trace ≠ [] ∧
      (((contextCapsAndFlags xid).run machine process world).outcome = .returned () →
        calls ((contextCapsAndFlags xid).run machine process world).trace =
          installs world.db xid) := by
  have last := CapList.flags.run_startup xid Pure.pure
  rw [bind_pure] at last
  rw [contextCapsAndFlags_eq, CapList.run_startup]
  split
  next => exact ⟨⟨_, rfl⟩, List.cons_ne_nil _ _, fun ended => by cases ended⟩
  next =>
    simp only [CapList.run_startup]
    split
    next => exact ⟨⟨_, rfl⟩, List.cons_ne_nil _ _, fun ended => by cases ended⟩
    next =>
      simp only [last]
      split
      next => exact ⟨List.prefix_refl _, List.cons_ne_nil _ _, fun ended => by cases ended⟩
      next => exact ⟨List.prefix_refl _, List.cons_ne_nil _ _, fun _ => rfl⟩

/-- The bits that a start of a context installs after some requests for its lists are those of
the names that the requests have left there. -/
theorem configured_caps_installed (setup : Setup) (value : CapList → Str → UInt64)
    (bits : ∀ list : CapList, SingleBits list.listed (value list)) (db last : Vxdb)
    (requests : List Request) (succeeding : Succeeding setup db requests last) (server : Str)
    (process : Nat) (world : World) (current : world.db = last) :
    ∃ names : CapList → List Str,
      (calls ((contextCapsAndFlags (xidIn db.oracle server)).run machine process world).trace <+:
          [.vxBcapsSet (xidIn db.oracle server) (names .bcaps) (~~~0),
            .vxCcapsSet (xidIn db.oracle server) (names .ccaps) (~~~0),
            .vxFlagsSet (xidIn db.oracle server) (names .flags) (names .flags)] ∧
        calls ((contextCapsAndFlags (xidIn db.oracle server)).run machine process world).trace ≠
          [] ∧
        (((contextCapsAndFlags (xidIn db.oracle server)).run machine process world).outcome =
            .returned () →
          calls ((contextCapsAndFlags (xidIn db.oracle server)).run machine process world).trace =
            [.vxBcapsSet (xidIn db.oracle server) (names .bcaps) (~~~0),
              .vxCcapsSet (xidIn db.oracle server) (names .ccaps) (~~~0),
              .vxFlagsSet (xidIn db.oracle server) (names .flags) (names .flags)])) ∧
      ∀ list bit, (word (value list) (names list)).toNat.testBit bit = true ↔
        ∃ name ∈ list.listed, (value list name).toNat = 2 ^ bit ∧
          list.Configured db server name requests := by
  subst current
  refine ⟨fun list => list.names world.db (xidIn db.oracle server),
    calls_contextCapsAndFlags _ process world, fun list bit => ?_⟩
  have subset : list.names world.db (xidIn db.oracle server) ⊆ list.listed :=
    fun _ mem => (CapList.mem_names.mp mem).1
  rw [(bits list).testBit_word_iff subset]
  refine exists_congr fun name => ?_
  rw [CapList.mem_names, (succeeding.has_iff list server name).2, and_assoc]
  exact and_congr_right fun _ => and_comm

/-- Every name has the bit of its place in the list. -/
def placeBit (list : CapList) (name : Str) : UInt64 :=
  (1 : UInt64) <<< (list.listed.idxOf name).toUInt64

theorem toNat_placeBit {list : CapList} {name : Str} (mem : name ∈ list.listed) :
    (placeBit list name).toNat = 2 ^ list.listed.idxOf name := by
  have all : ∀ name ∈ list.listed,
      (placeBit list name).toNat = 2 ^ list.listed.idxOf name := by
    cases list <;> decide +kernel
  exact all name mem

theorem singleBits_placeBit (list : CapList) : SingleBits list.listed (placeBit list) where
  single := fun name mem => ⟨_, toNat_placeBit mem⟩
  distinct := fun left leftMem right rightMem same => by
    have equal := congrArg UInt64.toNat same
    rw [toNat_placeBit leftMem, toNat_placeBit rightMem] at equal
    exact (List.idxOf_inj leftMem).mp (Nat.pow_right_injective (Nat.le_refl 2) equal)

def bcapRequest (method cap : Str) : Request :=
  adminRequest method (cstr "web") [(cstr "bcap", .str cap)]

/-- A capability is added and revoked with all others, and another one is added. -/
def revoking : List Request :=
  [bcapRequest (cstr "vxdb.vx.bcaps.add") (cstr "CHOWN"),
    bcapRequest (cstr "vxdb.vx.bcaps.remove") [],
    bcapRequest (cstr "vxdb.vx.bcaps.add") (cstr "KILL")]

/-- The world after some requests. -/
def served (world : World) (requests : List Request) : World :=
  requests.foldl (fun world request => (ends (handle plainSetup request) world).2) world

theorem succeeding_revoking : Succeeding plainSetup oneServer revoking
    (served (World.boot oneServer idleKernel) revoking).db := by
  have returned : returns (handle plainSetup (bcapRequest (cstr "vxdb.vx.bcaps.add")
        (cstr "CHOWN"))) (World.boot oneServer idleKernel) = true ∧
      returns (handle plainSetup (bcapRequest (cstr "vxdb.vx.bcaps.remove") []))
        (served (World.boot oneServer idleKernel) (revoking.take 1)) = true ∧
      returns (handle plainSetup (bcapRequest (cstr "vxdb.vx.bcaps.add") (cstr "KILL")))
        (served (World.boot oneServer idleKernel) (revoking.take 2)) = true := by
    decide +kernel
  obtain ⟨_, first⟩ := exists_returned returned.1
  obtain ⟨_, second⟩ := exists_returned returned.2.1
  obtain ⟨_, third⟩ := exists_returned returned.2.2
  exact .cons (by decide) first (.cons (by decide) second (.cons (by decide) third (.nil _)))

theorem configured_caps_installed_revoking : ∃ names : CapList → List Str,
    (calls ((contextCapsAndFlags (xidIn oneServer.oracle (cstr "web"))).run machine 0
        (served (World.boot oneServer idleKernel) revoking)).trace <+:
          [.vxBcapsSet (xidIn oneServer.oracle (cstr "web")) (names .bcaps) (~~~0),
            .vxCcapsSet (xidIn oneServer.oracle (cstr "web")) (names .ccaps) (~~~0),
            .vxFlagsSet (xidIn oneServer.oracle (cstr "web")) (names .flags) (names .flags)] ∧
      calls ((contextCapsAndFlags (xidIn oneServer.oracle (cstr "web"))).run machine 0
        (served (World.boot oneServer idleKernel) revoking)).trace ≠ [] ∧
      (((contextCapsAndFlags (xidIn oneServer.oracle (cstr "web"))).run machine 0
          (served (World.boot oneServer idleKernel) revoking)).outcome = .returned () →
        calls ((contextCapsAndFlags (xidIn oneServer.oracle (cstr "web"))).run machine 0
          (served (World.boot oneServer idleKernel) revoking)).trace =
          [.vxBcapsSet (xidIn oneServer.oracle (cstr "web")) (names .bcaps) (~~~0),
            .vxCcapsSet (xidIn oneServer.oracle (cstr "web")) (names .ccaps) (~~~0),
            .vxFlagsSet (xidIn oneServer.oracle (cstr "web")) (names .flags) (names .flags)])) ∧
    ∀ list bit, (word (placeBit list) (names list)).toNat.testBit bit = true ↔
      ∃ name ∈ list.listed, (placeBit list name).toNat = 2 ^ bit ∧
        list.Configured oneServer (cstr "web") name revoking :=
  configured_caps_installed plainSetup placeBit singleBits_placeBit oneServer _ revoking
    succeeding_revoking (cstr "web") 0 (served (World.boot oneServer idleKernel) revoking) rfl

end Vcd
