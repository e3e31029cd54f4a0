import Vcd.Housed
import Vcd.Children
import Vcd.Trails

/-!
# Labels of contexts

A context is labelled with the name and the directory of its virtual server. The label is
never cut: every name and every directory that is stored was measured first.
-/

namespace Vcd

open Sql Process

/-! ## Labels -/

/-- The label of a context. -/
def contextLabel (name vdir : Str) : Str :=
  name ++ ':' :: vdir

/-- The texts before and after the first colon. -/
def splitLabel (label : Str) : Str × Str :=
  (label.takeWhile (· != ':'), (label.dropWhile (· != ':')).tail)

variable {name vdir : Str}

theorem length_of_validateName (valid : validateName name = true) : name.length ≤ 32 := by
  simp only [validateName, Bool.not_eq_true', Bool.or_eq_false_iff, decide_eq_false_iff_not] at valid
  omega

theorem colonFree_of_validateName (valid : validateName name = true) :
    ∀ char ∈ name, (char != ':') = true := by
  simp only [validateName, Bool.not_eq_true', Bool.or_eq_false_iff, Bool.not_eq_false'] at valid
  have extended : ∀ char ∈ name, (charIsalpha char || charIsdigit char || char = '-' ||
      char = '_') = true := List.all_eq_true.mp valid.2
  intro char mem
  rw [bne_iff_ne]
  rintro rfl
  exact absurd (extended ':' mem) (by decide)

theorem splitLabel_contextLabel (valid : validateName name = true) (vdir : Str) :
    splitLabel (contextLabel name vdir) = (name, vdir) := by
  have free := colonFree_of_validateName valid
  unfold splitLabel contextLabel
  rw [List.takeWhile_append_of_pos free, List.dropWhile_append_of_pos free]
  simp

theorem length_contextLabel (valid : validateName name = true) (short : vdir.length ≤ 31) :
    (contextLabel name vdir).length ≤ 64 := by
  have named := length_of_validateName valid
  rw [contextLabel, List.length_append, List.length_cons]
  omega

/-! ## Measured names and directories -/

variable {db next : Vxdb}

/-- A virtual server with a name that was checked, and a directory. -/
structure Installed (db : Vxdb) (row : Row) (xid : Int) (name : Str) : Prop where
  row_eq : row = [.int xid, .str name]
  low : 2 ≤ xid
  high : xid ≤ 65535
  valid : validateName name = true
  placed : ∃ directory ∈ db.rows Table.vdir, xidOf directory = .int xid

/-- A directory that was checked. -/
def Measured (row : Row) : Prop :=
  ∃ owner vdir, row = [owner, .str vdir] ∧ validatePath vdir = true ∧ vdir.length ≤ 31

/-- All names and directories were checked, and contexts have no other names. -/
structure Placed (db : Vxdb) : Prop where
  names : ∀ row ∈ db.rows Table.xidNameMap, ∃ xid name, Installed db row xid name
  vdirs : ∀ row ∈ db.rows Table.vdir, Measured row
  unames : db.rows Table.vxUname = []

theorem placed_freshVxdb (uptime : Int) : Placed (freshVxdb uptime) where
  names _ mem := by cases mem
  vdirs _ mem := by cases mem
  unames := rfl

namespace Placed

variable (placed : Placed db)

include placed

theorem inRange : InRange db := by
  intro row mem
  obtain ⟨xid, name, installed⟩ := placed.names row mem
  exact ⟨xid, by rw [installed.row_eq]; rfl, installed.low, installed.high⟩

/-- The row that tells the name of a context. -/
theorem installed_of_nameIn {xid : Int} (named : nameIn db.oracle xid = some name) :
    ∃ row ∈ db.rows Table.xidNameMap, Installed db row xid name := by
  unfold nameIn at named
  split at named
  next accepted =>
    rw [firstRow_sqlGetname] at named
    simp only [validateXid, Bool.and_eq_true, decide_eq_true_eq] at accepted
    cases found : (db.rows Table.xidNameMap).find? fun row =>
        (Table.xidNameMap.cell row (cstr "xid")).same (.int (int32 xid)) with
    | none =>
        rw [found] at named
        cases named
    | some row =>
        rw [found] at named
        have mem := List.mem_of_find?_eq_some found
        obtain ⟨stored, known, installed⟩ := placed.names row mem
        have chosen := List.find?_some found
        have cell : xidOf row = .int (int32 xid) := (Value.same_int_right _ _).mp chosen
        have equal := installed.row_eq
        subst equal
        have same : stored = xid :=
          (Value.int.inj cell).trans (int32_of_range (by omega) (by omega))
        have text : known = name := Option.some.inj named
        exact ⟨_, mem, same ▸ text ▸ installed⟩
  next => cases named

/-- The directory of a virtual server is the recorded one. -/
theorem vdirIn_of_installed (host : Host) {row : Row} {xid : Int}
    (mem : row ∈ db.rows Table.xidNameMap) (installed : Installed db row xid name) :
    xidIn db.oracle name = xid ∧ (vdirIn db.oracle host name).length ≤ 31 := by
  have low := installed.low
  have high := installed.high
  have equal := installed.row_eq
  subst equal
  have number : xidIn db.oracle name = xid := by
    have read : uint32 xid = xid := uint32_of_small (by omega) (by omega)
    exact (xidIn_of_mem installed.valid mem rfl).trans read
  refine ⟨number, ?_⟩
  obtain ⟨directory, directoryMem, own⟩ := installed.placed
  have some : ((db.rows Table.vdir).find? fun row =>
      (Table.vdir.cell row (cstr "xid")).same (.int (int32 xid))).isSome = true := by
    refine List.find?_isSome.mpr ⟨directory, directoryMem, ?_⟩
    rw [int32_of_range low high]
    exact (Value.same_int_right _ _).mpr own
  obtain ⟨recorded, found⟩ := Option.isSome_iff_exists.mp some
  obtain ⟨owner, vdir, rfl, checked, short⟩ :=
    placed.vdirs recorded (List.mem_of_find?_eq_some found)
  have read : firstRow (db.oracle (render (sqlGetvdir xid))) = Option.some [.str vdir] := by
    rw [firstRow_sqlGetvdir, found]
    rfl
  have given : strIsempty vdir = false := by
    simp only [validatePath, Bool.not_eq_true', Bool.or_eq_false_iff] at checked
    exact checked.1
  have resolved : vdirIn db.oracle host name = vdir := by
    have nonzero : xid ≠ 0 := by omega
    simp only [vdirIn, number]
    rw [if_neg nonzero, read]
    exact if_neg (Bool.eq_false_iff.mp given)
  rw [resolved]
  exact short

/-- The label of a virtual server is complete. -/
theorem label (host : Host) {xid : Int} (named : nameIn db.oracle xid = some name) :
    (contextLabel name (vdirIn db.oracle host name)).length ≤ 64 ∧
      splitLabel (contextLabel name (vdirIn db.oracle host name)) =
        (name, vdirIn db.oracle host name) := by
  obtain ⟨row, mem, installed⟩ := placed.installed_of_nameIn named
  have short := (placed.vdirIn_of_installed host mem installed).2
  exact ⟨length_contextLabel installed.valid short, splitLabel_contextLabel installed.valid _⟩

end Placed

/-! ## What changes preserve -/

/-- What an executed text of a request that creates, renames or removes virtual servers can
do. -/
inductive Lived (db : Vxdb) : Vxdb → Prop where
  | same {next : Vxdb} (rows : SameRows db next) : Lived db next
  | remove {next : Vxdb} (xid : Int)
      (applied : applyAll db (removedTables.map (deleteXid xid)) = some next) : Lived db next
  | rename {next : Vxdb} (newname : Str) (xid : Int) (valid : validateName newname = true)
      (applied : applyAll db [renameChange newname xid] = some next) : Lived db next
  | create {next : Vxdb} (xid : Int) (entries : Entries)
      (valid : validateName entries.name = true) (checked : validatePath entries.vdir = true)
      (short : entries.vdir.length ≤ 31)
      (target : (∃ name, Means db name xid) ∨ freeXidIn db.oracle = some xid)
      (applied : applyAll db (createChanges xid entries) = some next) : Lived db next

/-- The row of a virtual server stays, and so does its directory. -/
theorem Installed.kept {row : Row} {xid : Int} (installed : Installed db row xid name)
    (kept : ∀ directory ∈ db.rows Table.vdir, xidOf directory = .int xid →
      directory ∈ next.rows Table.vdir) : Installed next row xid name where
  row_eq := installed.row_eq
  low := installed.low
  high := installed.high
  valid := installed.valid
  placed := by
    obtain ⟨directory, mem, own⟩ := installed.placed
    exact ⟨directory, kept directory mem own, own⟩

/-- A row that was spared belongs to another context. -/
theorem ofXid_of_spared {row : Row} {context xid : Int} (spared : (!ofXid context row) = true)
    (own : xidOf row = .int xid) : xid ≠ context := by
  rintro rfl
  rw [ofXid_iff.mpr own] at spared
  cases spared

theorem spared_of_ne {row : Row} {context xid : Int} (other : xid ≠ context)
    (own : xidOf row = .int xid) : (!ofXid context row) = true := by
  rw [Bool.not_eq_true']
  exact Bool.eq_false_iff.mpr fun same =>
    other (Value.int.inj (own.symm.trans (ofXid_iff.mp same)))

namespace Placed

variable (placed : Placed db)

include placed

theorem of_rows (rows : SameRows db next) : Placed next where
  names row mem := by
    have names : next.rows Table.xidNameMap = _ := rows Table.xidNameMap nofun
    have vdirs : next.rows Table.vdir = _ := rows Table.vdir nofun
    obtain ⟨xid, name, installed⟩ := placed.names row (names ▸ mem)
    exact ⟨xid, name, installed.kept fun directory mem _ => vdirs ▸ mem⟩
  vdirs row mem := by
    have vdirs : next.rows Table.vdir = _ := rows Table.vdir nofun
    exact placed.vdirs row (vdirs ▸ mem)
  unames := (rows Table.vxUname nofun).trans placed.unames

/-- A virtual server goes with its directory. -/
theorem of_remove {xid : Int}
    (applied : applyAll db (removedTables.map (deleteXid xid)) = some next) : Placed next := by
  obtain ⟨last, known, rows⟩ := applyAll_deletes db removedTables fun _ => ofXid (int32 xid)
  obtain rfl : last = next := Option.some.inj (known.symm.trans applied)
  have names : last.rows Table.xidNameMap = _ := rows Table.xidNameMap
  have vdirs : last.rows Table.vdir = _ := rows Table.vdir
  have unames : last.rows Table.vxUname = _ := rows Table.vxUname
  rw [if_pos (by decide)] at names vdirs unames
  constructor
  · intro row mem
    rw [names] at mem
    obtain ⟨old, spared⟩ := List.mem_filter.mp mem
    obtain ⟨stored, name, installed⟩ := placed.names row old
    have other := ofXid_of_spared spared (by rw [installed.row_eq]; rfl)
    refine ⟨stored, name, installed.kept fun directory mem own => ?_⟩
    rw [vdirs]
    exact List.mem_filter.mpr ⟨mem, spared_of_ne other own⟩
  · intro row mem
    rw [vdirs] at mem
    exact placed.vdirs row (List.mem_filter.mp mem).1
  · rw [unames, placed.unames]
    rfl

/-- The new name was checked as well. -/
theorem of_rename {newname : Str} {xid : Int} (valid : validateName newname = true)
    (applied : applyAll db [renameChange newname xid] = some next) : Placed next := by
  have updated := applyAll_singleton.symm.trans applied
  have names := Database.rows_update_same updated
  have vdirs : next.rows Table.vdir = db.rows Table.vdir :=
    Database.rows_update_other updated (by decide)
  have unames : next.rows Table.vxUname = db.rows Table.vxUname :=
    Database.rows_update_other updated (by decide)
  constructor
  · intro row mem
    rw [names] at mem
    obtain ⟨old, oldMem, rfl⟩ := List.mem_map.mp mem
    obtain ⟨stored, name, installed⟩ := placed.names old oldMem
    have kept : Installed next old stored name :=
      installed.kept fun directory mem _ => vdirs ▸ mem
    split
    · refine ⟨stored, newname, { kept with row_eq := ?_, valid := valid }⟩
      rw [installed.row_eq]
      rfl
    · exact ⟨stored, name, kept⟩
  · intro row mem
    exact placed.vdirs row (vdirs ▸ mem)
  · exact unames.trans placed.unames

/-- A virtual server is created or rebuilt with a name and a directory that were checked. -/
theorem of_create {xid : Int} {entries : Entries} (valid : validateName entries.name = true)
    (checked : validatePath entries.vdir = true) (short : entries.vdir.length ≤ 31)
    (target : (∃ name, Means db name xid) ∨ freeXidIn db.oracle = some xid)
    (applied : applyAll db (createChanges xid entries) = some next) : Placed next := by
  have range : 2 ≤ xid ∧ xid ≤ 65535 := by
    rcases target with ⟨name, means⟩ | free
    · exact (placed.inRange.of_means means).2
    · exact placed.inRange.of_free free
  have small := int32_of_range range.1 range.2
  have names := rows_create applied Table.xidNameMap
  have vdirs := rows_create applied Table.vdir
  have unames := rows_create applied Table.vxUname
  rw [if_pos (by decide), small] at names vdirs unames
  constructor
  · intro row mem
    rw [names] at mem
    rcases List.mem_append.mp mem with old | new
    · obtain ⟨old, spared⟩ := List.mem_filter.mp old
      obtain ⟨stored, name, installed⟩ := placed.names row old
      have other := ofXid_of_spared spared (by rw [installed.row_eq]; rfl)
      refine ⟨stored, name, installed.kept fun directory mem own => ?_⟩
      rw [vdirs]
      exact List.mem_append_left _ (List.mem_filter.mpr ⟨mem, spared_of_ne other own⟩)
    · refine ⟨xid, entries.name, ?_, range.1, range.2, valid, ?_⟩
      · simpa [Entries.rows, small] using new
      · refine ⟨[.int xid, .str entries.vdir], ?_, rfl⟩
        rw [vdirs]
        exact List.mem_append_right _ (by simp [Entries.rows, small])
  · intro row mem
    rw [vdirs] at mem
    rcases List.mem_append.mp mem with old | new
    · exact placed.vdirs row (List.mem_filter.mp old).1
    · have equal : row = [.int xid, .str entries.vdir] := by
        simpa [Entries.rows, small] using new
      exact ⟨_, _, equal, checked, short⟩
  · have none : ((entries.rows xid).filter fun entry => entry.1 = Table.vxUname) = [] := by
      refine List.filter_eq_nil_iff.mpr fun entry mem => ?_
      simp only [Entries.rows, List.mem_append, List.mem_cons, List.mem_map, List.not_mem_nil,
        or_false] at mem
      rcases mem with ((((rfl | ⟨_, _, rfl⟩) | ⟨_, _, rfl⟩) | ⟨_, _, rfl⟩) | ⟨_, _, rfl⟩) | rfl | rfl <;>
        simp
    rw [unames, placed.unames, none]
    rfl

theorem of_lived (lived : Lived db next) : Placed next := by
  cases lived with
  | same rows => exact placed.of_rows rows
  | remove xid applied => exact placed.of_remove applied
  | rename newname xid valid applied => exact placed.of_rename valid applied
  | create xid entries valid checked short target applied =>
      exact placed.of_create valid checked short target applied

end Placed

/-! ## Requests -/

/-- The requests that create, rename and remove virtual servers. -/
def lifeMethods : List Str :=
  [cstr "vx.create", cstr "vx.rename", cstr "vx.remove"]

/-- A request that creates, renames or removes a virtual server. What a creation pastes into its
script is clean. -/
structure Living (setup : Setup) (request : Request) (first : Vxdb) : Prop where
  method : request.method ∈ lifeMethods
  templates : request.method = cstr "vx.create" → setup.templates.Clean
  target : CleanTarget setup.host request first

variable {setup : Setup} {request : Request} {first : Vxdb} {inv : Vxdb → Prop} {past : Past}

theorem writeKind_life {method : Str} {kind : WriteKind} (mem : method ∈ lifeMethods)
    (known : kind ∈ writeKind method) :
    kind = .create ∨ kind = .rename ∨ kind = .remove := by
  have kinds : ∀ method ∈ lifeMethods, ∀ kind ∈ writeKind method,
      kind = .create ∨ kind = .rename ∨ kind = .remove := by decide
  exact kinds method mem kind known

theorem lived_of_permitted (living : Living setup request first)
    (explained : Explained first inv past db) {sql : Str}
    (permitted : Permitted setup request past (.exec sql)) :
    Lived db (execText db sql).1 ∧
      ((execText db sql).2.ok = false → (execText db sql).1 = db) := by
  have unchanged : Lived db db := .same fun _ _ => rfl
  rcases permitted with tallying | ⟨kind, known, write⟩
  · exact ⟨.same fun _ other => tallying.counts.rows db other, tallying.counts.failed db⟩
  have kinds := writeKind_life living.method known
  cases write with
  | config => simp at kinds
  | restart => simp at kinds
  | rights => simp at kinds
  | remove user name xid =>
      exact holds_of_runs (runs_sqlVxRemove xid) unchanged fun _ applied => .remove xid applied
  | rename user name newname xid _ _ _ _ valid =>
      exact holds_of_runs (runs_sqlVxRename (quoteFree_of_validateName valid) xid) unchanged
        fun _ applied => .rename newname xid valid applied
  | create user name param vdir xid conf entries creating target read assembled =>
      have method := writeKind_create known
      have clean := creating.clean explained method living.target (living.templates method)
        read assembled
      rw [printed_of_clean setup.host clean]
      have equal := (templateEntries_eq_ok assembled).2.2.2.2
      have nameEq : entries.name = name := congrArg Entries.name equal
      have vdirEq : entries.vdir = vdir := congrArg Entries.vdir equal
      refine holds_of_runs (runs_sqlCreate clean xid) unchanged fun _ applied =>
        .create xid entries (nameEq ▸ creating.valid) (vdirEq ▸ creating.checked)
          (vdirEq ▸ creating.short) ?_ applied
      exact target.imp (fun looked => ⟨name, looked.means explained⟩)
        (·.freeXidIn explained.current)

theorem kept_placed (living : Living setup request first) : Kept setup request first Placed := by
  intro past db sql explained permitted
  obtain ⟨lived, failed⟩ := lived_of_permitted living explained permitted
  exact ⟨explained.holds.of_lived lived, failed⟩

/-- Every state that requests for the life of virtual servers reach. -/
theorem placed_of_serves {host : Host} {uptime : Int} {start last : World}
    (fresh : start.db = freshVxdb uptime)
    (serves : Serves host (fun templates request world =>
      Living ⟨host, templates⟩ request world.db) start last) : Placed last.db := by
  have begins : Placed start.db := fresh ▸ placed_freshVxdb uptime
  exact serves.invariant begins fun templates request world living placed =>
    serve_keeps (kept_placed living) placed

/-! ## Who names contexts -/

/-- The operation names a context. -/
def Naming : Op → Prop
  | .sys (.vxUnameSet _ _ _) => True
  | _ => False

theorem not_naming_of_access {op : Op} (access : Access op) : ¬ Naming op := by
  cases op with
  | sys call => exact access.elim
  | _ => exact id

theorem not_naming_of_namesNothing {op : Op} (nothing : NamesNothing op) : ¬ Naming op := by
  cases op with
  | sys call =>
      cases call with
      | vxUnameSet xid type text => exact nothing.elim
      | _ => exact id
  | _ => exact id

variable {α β : Type} {process : Nat} {world : World} {step : World × Op} {last : World}

/-- The run of the program names a context in this step, and ends in the last world. -/
structure Gives (process : Nat) (program : Method α) (world : World) (step : World × Op)
    (last : World) : Prop where
  mem : step ∈ (program.run machine process world).trace
  naming : Naming step.2
  ended : (program.run machine process world).state = last

namespace Gives

variable {program : Method α} {rest : α → Method β}

/-- A name that is not given by the first part of a sequence is given by the rest. -/
theorem bind (gives : Gives process (program >>= rest) world step last)
    (contained : Program.Contained program)
    (unnamed : ∀ step ∈ (program.run machine process world).trace, ¬ Naming step.2) :
    ∃ value, (program.run machine process world).outcome = .returned value ∧
      Gives process (rest value) (program.run machine process world).state step last := by
  rcases mem_trace_bind contained gives.mem with mem | ⟨value, returned, mem⟩
  · exact absurd gives.naming (unnamed step mem)
  · have ran := run_bind_returned contained returned rest
    refine ⟨value, returned, mem, gives.naming, ?_⟩
    rw [← gives.ended, ran]

theorem lookup (gives : Gives process (program >>= rest) world step last) (lookup : Lookup program)
    {value : α} (known : answer world.db.oracle program = some value) :
    Gives process (rest value) world step last := by
  obtain ⟨before, queries, ran⟩ := lookup.run_bind world known process rest
  have mem := gives.mem
  have ended := gives.ended
  rw [ran] at mem ended
  rcases List.mem_append.mp mem with query | later
  · have isPrepare := (queries step query).2
    have naming := gives.naming
    cases op : step.2 with
    | prepare sql =>
        rw [op] at naming
        exact naming.elim
    | _ =>
        rw [op] at isPrepare
        exact isPrepare.elim
  · exact ⟨later, gives.naming, ended⟩

theorem check {condition : Prop} [Decidable condition] {fault : Fault} {other : α → Method β}
    {rest : Method β}
    (gives : Gives process (if condition then Program.fail fault >>= other else rest) world step last) :
    ¬ condition ∧ Gives process rest world step last := by
  split at gives
  next => cases gives.mem
  next passed => exact ⟨passed, gives⟩

theorem ofExcept {known : Except Fault α}
    (gives : Gives process (Vcd.ofExcept known >>= rest) world step last) :
    ∃ value, known = .ok value ∧ Gives process (rest value) world step last := by
  cases known with
  | error fault => cases gives.mem
  | ok value => exact ⟨value, rfl, gives⟩

theorem exec {sql : List Piece} {rest : Sql.Outcome → Method β}
    (gives : Gives process (vxdbExec sql >>= rest) world step last) :
    Gives process (rest (execText world.db (render sql)).2)
      { world with db := (execText world.db (render sql)).1 } step last := by
  rcases List.mem_cons.mp gives.mem with first | later
  · exact absurd gives.naming (by rw [first]; exact id)
  · exact ⟨later, gives.naming, gives.ended⟩

/-- A call names a context itself, or the rest does. -/
theorem sys {call : Sys} {rest : Answer → Method β}
    (gives : Gives process (Vcd.sys call >>= rest) world step last) :
    step.2 = .sys call ∨ Gives process (rest (world.kernel world.clock call))
      { world with clock := world.clock + 1 } step last := by
  rcases List.mem_cons.mp gives.mem with first | later
  · exact .inl (congrArg Prod.snd first)
  · exact .inr ⟨later, gives.naming, gives.ended⟩

theorem inside {body : Body} {name : Str}
    (gives : Gives process (Vcd.inside body name program) world step last)
    (contained : Program.Contained program) : Gives process program world step last := by
  have attempted := @Program.Contained.run_attempt daemon Fault α machine process _ contained world
  have marked : Gives process (program.attempt >>= fun outcome =>
      Program.perform (I := daemon) (.mark .leave) >>= fun _ => Vcd.ofExcept outcome)
        world step last := by
    rcases List.mem_cons.mp gives.mem with first | later
    · exact absurd gives.naming (by rw [first]; exact id)
    · exact ⟨later, gives.naming, gives.ended⟩
  obtain ⟨mem, naming, ended⟩ := marked
  rw [@Program.Contained.run_bind daemon Fault (Except Fault α) α machine process _
    contained.attempt _ world, attempted] at mem ended
  have leaves {final : World} (mem : step ∈ (program.run machine process world).trace ++
      [(final, Op.mark .leave)]) : step ∈ (program.run machine process world).trace := by
    rcases List.mem_append.mp mem with inner | left
    · exact inner
    · obtain rfl := List.mem_singleton.mp left
      exact naming.elim
  unfold Program.Completed.andThen at mem ended
  cases outcome : (program.run machine process world).outcome with
  | returned value =>
      rw [outcome] at mem ended
      exact ⟨leaves mem, naming, ended⟩
  | failed fault =>
      rw [outcome] at mem ended
      exact ⟨leaves mem, naming, ended⟩
  | exited =>
      rw [outcome] at mem ended
      exact ⟨mem, naming, ended⟩

/-- Calls and checks of clients and of the daemon itself name no context. -/
theorem admitted {host : Host} {call : Call} {caps : UInt64} {flags : Flags}
    {rest : Xml → Method β} (gives : Gives process (methodInit host call caps flags >>= rest) world step last) :
    ∃ start, SameRows world.db start.db ∧ Gives process (rest call.params) start step last := by
  obtain ⟨entry, noFork, access, admits⟩ := methodInit_call host call caps flags
  rw [admits] at gives
  have unnamed (step : World × Op) (mem : step ∈ (entry.run machine process world).trace) :
      ¬ Naming step.2 := by
    have known := @Program.Within.run_trace daemon Fault Unit machine process _ _ _ access world step mem
    exact not_naming_of_access (or_self_iff.mp known)
  obtain ⟨-, -, later⟩ := gives.bind noFork.contained unnamed
  refine ⟨_, ?_, later⟩
  exact sameRows_run process noFork (access.mono fun _ => Access.counting) world

end Gives

/-- A silent program leaves the database as it is. -/
theorem db_run_silent {program : Method α} (silent : Silent program) (process : Nat)
    (world : World) : (program.run machine process world).state.db = world.db := by
  refine @Program.Within.run_keeps daemon Fault α machine process
    (fun state => state.db = world.db) Quiet Quiet world program silent ?_ rfl
  intro state op quiet same
  exact (performs_quiet (or_self_iff.mp quiet)).trans same

/-- A call that must not fail, at the end of a program. -/
theorem Gives.lastly {function message : Str} {call : Sys} {answer : α}
    (gives : Gives process (sysOrFault function message call >>= fun _ => pure answer) world step
      last) (quiet : Quiet (.sys call)) : step.2 = .sys call ∧ last.db = world.db := by
  have silent : Silent (sysOrFault function message call >>= fun _ => (pure answer : Method α)) :=
    within_call quiet trivial
  have same := db_run_silent silent process world
  rw [gives.ended] at same
  have only : ((sysOrFault function message call >>= fun _ => (pure answer : Method α)).run machine
      process world).trace = [(world, .sys call)] := by
    unfold sysOrFault
    rw [bind_assoc, run_sys]
    split <;> rfl
  have mem := gives.mem
  rw [only, List.mem_singleton] at mem
  exact ⟨congrArg Prod.snd mem, same⟩

/-! ## vx.rename -/

/-- A renaming labels the context with the new name and the directory it has then. -/
theorem gives_vxRenameBody {host : Host} {newname : Str}
    (gives : Gives process (vxRenameBody host name newname) world step last) :
    validateName newname = true ∧ xidIn world.db.oracle name ≠ 0 ∧
      applyAll world.db [renameChange newname (xidIn world.db.oracle name)] = some last.db ∧
      step.2 = .sys (.vxUnameSet (xidIn world.db.oracle name) (cstr "CONTEXT")
        ((contextLabel newname (vdirIn last.db.oracle host newname)).take 64)) := by
  unfold vxRenameBody at gives
  obtain ⟨valid, gives⟩ := gives.check
  rw [Bool.not_eq_true', Bool.not_eq_false] at valid
  have gives := gives.lookup (lookup_vxdbGetxid newname) (answer_vxdbGetxid _ newname)
  obtain ⟨-, gives⟩ := gives.check
  have gives := gives.lookup (lookup_vxdbGetxid name) (answer_vxdbGetxid _ name)
  obtain ⟨found, gives⟩ := gives.check
  have gives := gives.exec
  obtain ⟨ok, gives⟩ := gives.check
  rw [Bool.not_eq_true', Bool.not_eq_false] at ok
  have applied := (runs_sqlVxRename (quoteFree_of_validateName valid)
    (xidIn world.db.oracle name)).succeeded ok
  generalize (execText world.db (render (sqlVxRename newname (xidIn world.db.oracle name)))).1 =
    renamed at gives applied
  have gives := gives.lookup (lookup_vxdbGetvdir host newname) (answer_vxdbGetvdir _ host newname)
  rcases gives.sys with other | gives
  · exact absurd gives.naming (by rw [other]; exact id)
  split at gives
  next running =>
    obtain ⟨labelled, same⟩ := gives.lastly trivial
    rw [same]
    exact ⟨valid, found, applied, labelled⟩
  next => cases gives.mem

theorem contained_vxRenameBody (host : Host) (name newname : Str) :
    Program.Contained (vxRenameBody host name newname) := by
  refine within_check fun _ => (lookup_vxdbGetxid newname).noFork.contained.bind fun _ => ?_
  refine within_check fun _ => (lookup_vxdbGetxid name).noFork.contained.bind fun _ => ?_
  refine within_check fun _ => ⟨trivial, fun outcome => within_check fun _ => ?_⟩
  refine (lookup_vxdbGetvdir host newname).noFork.contained.bind fun vdir => ?_
  exact within_sys trivial fun _ => within_ite (within_call trivial trivial) trivial

/-- After a renaming the context has its new name. -/
theorem named_of_rename {next : Vxdb} {newname : Str} {xid : Int} (placed : Placed db)
    (accepted : validateXid xid = true)
    (known : xidIn db.oracle name = xid) (found : xid ≠ 0)
    (applied : applyAll db [renameChange newname xid] = some next) :
    nameIn next.oracle xid = some newname := by
  obtain ⟨validName, row, mem, -, read⟩ := mem_of_xidIn (known.trans_ne found)
  obtain ⟨⟨old, oldMem, own⟩, low, high⟩ := placed.inRange.of_means ⟨validName, known, found⟩
  have updated := applyAll_singleton.symm.trans applied
  have names := Database.rows_update_same updated
  have small := int32_of_range low high
  have some : ((next.rows Table.xidNameMap).find? fun row =>
      (Table.xidNameMap.cell row (cstr "xid")).same (.int (int32 xid))).isSome = true := by
    refine List.find?_isSome.mpr ⟨[xidOf old, .str newname], ?_, ?_⟩
    · rw [names]
      refine List.mem_map.mpr ⟨old, oldMem, if_pos ?_⟩
      exact ofXid_iff.mpr (small.symm ▸ own)
    · rw [small]
      exact (Value.same_int_right _ _).mpr own
  obtain ⟨renamed, first⟩ := Option.isSome_iff_exists.mp some
  unfold nameIn
  rw [if_pos accepted, firstRow_sqlGetname, first]
  have chosen : ofXid (int32 xid) renamed = true := List.find?_some first
  have renamedMem := List.mem_of_find?_eq_some first
  rw [names] at renamedMem
  obtain ⟨before, -, rfl⟩ := List.mem_map.mp renamedMem
  split at chosen
  next own =>
    rw [if_pos own]
    rfl
  next other => exact absurd chosen other

/-- The label of a context, as the database tells it. -/
def labelIn (host : Host) (db : Vxdb) (xid : Int) : Option Str :=
  (nameIn db.oracle xid).map fun name => contextLabel name (vdirIn db.oracle host name)

/-- The call that labels a context. -/
def labelCall (xid : Int) (label : Str) : Sys :=
  .vxUnameSet xid (cstr "CONTEXT") label

/-- A renaming names no context except the one of the virtual server, and labels that as the
database tells it afterwards. -/
theorem gives_mVxRename (method : request.method = cstr "vx.rename") (placed : Placed world.db)
    (gives : Gives 0 (handle setup request) world step last) :
    Placed last.db ∧ ∃ xid text, step.2 = .sys (labelCall xid text) ∧
      (validateXid xid = true → labelIn setup.host last.db xid = some text) := by
  have handler : handle setup request =
      mVxRename setup.host (.client request.credentials request.params) := by
    rw [handle, method]
    rfl
  rw [handler] at gives
  obtain ⟨start, same, gives⟩ := Gives.admitted gives
  obtain ⟨name, -, gives⟩ := gives.ofExcept
  obtain ⟨newname, -, gives⟩ := gives.ofExcept
  obtain ⟨valid, found, applied, named⟩ := gives_vxRenameBody
    (gives.inside (contained_vxRenameBody setup.host name newname))
  have renamed := (placed.of_rows same).of_rename valid applied
  refine ⟨renamed, xidIn start.db.oracle name, _, named, fun accepted => ?_⟩
  have current := named_of_rename (placed.of_rows same) accepted rfl found applied
  have short := (renamed.label setup.host current).1
  unfold labelIn
  rw [current, List.take_of_length_le short]
  rfl

/-! ## helper.startup -/

/-- What `helper.startup` sets up before it names the context. -/
def startupParts (host : Host) (xid : Int) (name : Str) : Method Str := do
  let rows ← selectRows (cstr "m_helper_startup") (sqlInit xid)
  let init := rows.foldl (fun _ row => vxdbColumnText row 0) (cstr "/sbin/init")
  contextCapsAndFlags xid
  contextDiskLimits host xid name
  contextResourceLimits xid
  contextCpuset xid
  contextScheduler host xid
  namespaceSetup xid
  return init

/-- The last parts of `helper.startup`. -/
def startupNames (xid : Int) (name vdir init : Str) : Method Xml := do
  contextUname xid name vdir
  namespaceMount xid vdir
  return .struct [(cstr "vdir", .str vdir), (cstr "init", .str init)]

/-- `helper.startup` once it knows its target. -/
def startupBody (host : Host) (xid : Int) (name : Str) : Method Xml := do
  if (← sys (.vxInfo xid)).rc = -1 then fault .stopped
  let vdir ← vxdbGetvdir host name
  let init ← startupParts host xid name
  startupNames xid name vdir init

theorem mHelperStartup_eq (host : Host) (call : Call) : mHelperStartup host call =
    helperTarget host call >>= fun target => startupBody host target.1 target.2 := by
  unfold mHelperStartup startupBody startupParts startupNames
  simp only [bind_assoc, pure_bind]

theorem nameless_startupParts (host : Host) (xid : Int) (name : Str) :
    Nameless (startupParts host xid name) := by
  refine (nameless_selectRows _ _).bind fun rows => ?_
  refine (nameless_contextCapsAndFlags xid).bind fun _ => ?_
  refine (nameless_contextDiskLimits host xid name).bind fun _ => ?_
  refine (nameless_contextResourceLimits xid).bind fun _ => ?_
  refine (nameless_contextCpuset xid).bind fun _ => ?_
  refine (nameless_contextScheduler host xid).bind fun _ => ?_
  exact (nameless_namespaceSetup xid).bind fun _ => trivial

/-- The query for the names of a context. -/
def unamesQuery (xid : Int) : Select where
  projections := [.column none (cstr "type"), .column none (cstr "value")]
  table := cstr "vx_uname"
  join := none
  condition := some (.eq (.column none (cstr "xid")) (.int (int32 xid)))
  order := none
  limit := none

theorem read_unames (xid : Int) : readPieces [.chars (cstr "SELECT type,value FROM vx_uname"),
    .chars (cstr " WHERE xid = "), xidPiece xid] = some [some (.select (unamesQuery xid))] := by
  rfl

theorem plain_unames (xid : Int) : (unamesQuery xid).Plain vxdbSchema Table.vxUname :=
  ⟨by rfl, by rfl, by rfl, by rfl, by rfl, by rfl⟩

/-- The names of a context whose virtual server has none recorded. -/
theorem run_contextUname {xid : Int} {vdir : Str} (given : strIsempty name = false)
    (unnamed : world.db.rows Table.vxUname = []) :
    ((contextUname xid name vdir).run machine process world).trace.map Prod.snd =
      [.prepare (render [.chars (cstr "SELECT type,value FROM vx_uname"),
          .chars (cstr " WHERE xid = "), xidPiece xid]),
        .sys (labelCall xid ((contextLabel name vdir).take 64))] := by
  have rows : prepareText world.db (render [.chars (cstr "SELECT type,value FROM vx_uname"),
      .chars (cstr " WHERE xid = "), xidPiece xid]) = some [] := by
    rw [prepareText_plain (by simp [xidPiece, Piece.Free]) (read_unames xid) (plain_unames xid)]
    exact congrArg (fun rows => some (List.map _ (List.filter _ rows))) unnamed
  unfold contextUname selectXid selectRows
  simp only [bind_assoc]
  rw [run_prepare, rows]
  simp only [pure_bind, given]
  change List.map Prod.snd (_ :: ((sysOrFault _ _ _).run machine process world).trace) = _
  unfold sysOrFault
  rw [run_sys]
  split <;> rfl

theorem unnamed_of_nameless {program : Method α} (nameless : Nameless program) (process : Nat)
    (world : World) : ∀ step ∈ (program.run machine process world).trace, ¬ Naming step.2 := by
  intro step mem
  have known := @Program.Within.run_trace daemon Fault α machine process _ _ _ nameless world step mem
  exact not_naming_of_namesNothing (or_self_iff.mp known)

/-- The program names a context with this call only, and has done so if it returns. -/
structure Labels (process : Nat) (program : Method α) (world : World) (call : Sys) : Prop where
  only : ∀ step last, Gives process program world step last → step.2 = .sys call
  once : ∀ value, (program.run machine process world).outcome = .returned value →
    ∃ step ∈ (program.run machine process world).trace, step.2 = .sys call

/-- A part without names comes first. -/
theorem Labels.bind {program : Method α} {rest : α → Method β} {call : Sys}
    (nameless : Nameless program)
    (later : ∀ value (start : World), start.db = world.db →
      Labels process (rest value) start call) : Labels process (program >>= rest) world call where
  only step last gives := by
    obtain ⟨value, -, gives⟩ :=
      gives.bind nameless.contained (unnamed_of_nameless nameless process world)
    exact (later value _ (db_run_silent nameless.silent process world)).only step last gives
  once answer returned := by
    obtain ⟨value, first, rested⟩ := nameless.contained.returned_bind returned
    obtain ⟨step, mem, call⟩ :=
      (later value _ (db_run_silent nameless.silent process world)).once answer rested
    rw [run_bind_returned nameless.contained first rest]
    exact ⟨step, List.mem_append_right _ mem, call⟩

theorem Labels.check {condition : Prop} [Decidable condition] {fault : Fault}
    {other : α → Method β} {rest : Method β} {call : Sys} (later : Labels process rest world call) :
    Labels process (if condition then Program.fail fault >>= other else rest) world call := by
  split
  next =>
    constructor
    · intro step last gives
      cases gives.mem
    · intro value returned
      cases returned
  next => exact later

theorem Labels.lookup {program : Method α} {rest : α → Method β} {value : α} {call : Sys}
    (lookup : Lookup program) (known : answer world.db.oracle program = some value)
    (later : Labels process (rest value) world call) :
    Labels process (program >>= rest) world call where
  only step last gives := later.only step last (gives.lookup lookup known)
  once result returned := by
    obtain ⟨before, -, ran⟩ := lookup.run_bind world known process rest
    rw [ran] at returned ⊢
    obtain ⟨step, mem, call⟩ := later.once result returned
    exact ⟨step, List.mem_append_right _ mem, call⟩

theorem labels_startupNames {xid : Int} {vdir : Str} (init : Str) (given : strIsempty name = false)
    (unnamed : world.db.rows Table.vxUname = []) (short : (contextLabel name vdir).length ≤ 64) :
    Labels process (startupNames xid name vdir init) world
      (labelCall xid (contextLabel name vdir)) := by
  have contained := (silent_contextUname xid name vdir).contained
  have mounts : Nameless (namespaceMount xid vdir >>= fun _ => (pure (Xml.struct
      [(cstr "vdir", .str vdir), (cstr "init", .str init)]) : Method Xml)) :=
    (nameless_namespaceMount xid vdir).bind fun _ => trivial
  have trail := @run_contextUname name process world xid vdir given unnamed
  rw [List.take_of_length_le short] at trail
  constructor
  · intro step last gives
    rcases mem_trace_bind contained gives.mem with mem | ⟨_, -, mem⟩
    · have known := List.mem_map_of_mem (f := Prod.snd) mem
      rw [trail] at known
      rcases List.mem_cons.mp known with query | known
      · exact absurd gives.naming (by rw [query]; exact id)
      · exact List.mem_singleton.mp known
    · exact absurd gives.naming (unnamed_of_nameless mounts process _ step mem)
  · intro answer returned
    obtain ⟨value, first, -⟩ := contained.returned_bind returned
    have mem : Op.sys (labelCall xid (contextLabel name vdir)) ∈
        ((contextUname xid name vdir).run machine process world).trace.map Prod.snd := by
      rw [trail]
      exact .tail _ (.head _)
    obtain ⟨step, mem, call⟩ := List.mem_map.mp mem
    have ran := run_bind_returned contained first fun _ => namespaceMount xid vdir >>= fun _ =>
      (pure (Xml.struct [(cstr "vdir", .str vdir), (cstr "init", .str init)]) : Method Xml)
    refine ⟨step, ?_, call⟩
    change step ∈ ((contextUname xid name vdir >>= fun _ => namespaceMount xid vdir >>= fun _ =>
      (pure (Xml.struct [(cstr "vdir", .str vdir), (cstr "init", .str init)]) : Method Xml)).run
        machine process world).trace
    rw [ran]
    exact List.mem_append_left _ mem

/-- A startup that knows its target labels the context. -/
theorem labels_startupBody {host : Host} {xid : Int} (placed : Placed world.db)
    (named : nameIn world.db.oracle xid = some name) :
    Labels process (startupBody host xid name) world
      (labelCall xid (contextLabel name (vdirIn world.db.oracle host name))) := by
  have short := (placed.label host named).1
  obtain ⟨row, -, installed⟩ := placed.installed_of_nameIn named
  have given : strIsempty name = false := by
    have valid := installed.valid
    simp only [validateName, Bool.not_eq_true', Bool.or_eq_false_iff] at valid
    exact valid.1.1.1
  have info : Nameless (sys (.vxInfo xid)) := ⟨trivial, fun _ => trivial⟩
  refine Labels.bind info fun answer start same => Labels.check ?_
  refine Labels.lookup (lookup_vxdbGetvdir host name) (answer_vxdbGetvdir _ host name) ?_
  refine Labels.bind (nameless_startupParts host xid name) fun init later unchanged => ?_
  rw [same]
  refine labels_startupNames init given ?_ short
  rw [unchanged, same]
  exact placed.unames

theorem nameIn_of_rows (same : next.rows Table.xidNameMap = db.rows Table.xidNameMap) (xid : Int) :
    nameIn next.oracle xid = nameIn db.oracle xid := by
  unfold nameIn
  rw [firstRow_sqlGetname, firstRow_sqlGetname, same]

theorem labelIn_of_rows (same : SameRows db next) (host : Host) (xid : Int) :
    labelIn host next xid = labelIn host db xid := by
  unfold labelIn
  rw [nameIn_of_rows (same Table.xidNameMap nofun)]
  congr 1
  funext name
  rw [vdirIn_of_rows (same Table.xidNameMap nofun) (same Table.vdir nofun)]

/-- A startup labels the context it is asked for as the database tells it. -/
theorem labels_mHelperStartup (method : request.method = cstr "helper.startup")
    (placed : Placed world.db) {number : Int} {text : Str}
    (asked : request.params.getInt (cstr "xid") = .ok number)
    (label : labelIn setup.host world.db (uint32 number) = some text) :
    Labels process (handle setup request) world (labelCall (uint32 number) text) := by
  have handler : handle setup request =
      mHelperStartup setup.host (.client request.credentials request.params) := by
    rw [handle, method]
    rfl
  have target : ∀ found : Int × Str, ((helperTarget setup.host (.client request.credentials
        request.params)).run machine process world).outcome = .returned found →
      Labels process (startupBody setup.host found.1 found.2)
        ((helperTarget setup.host (.client request.credentials request.params)).run machine process
          world).state (labelCall (uint32 number) text) := by
    intro found returned
    have same := sameRows_run process
      (noFork_helperTarget setup.host (.client request.credentials request.params))
      (counting_helperTarget setup.host (.client request.credentials request.params)) world
    obtain ⟨other, read, target, named⟩ := returned_helperTarget returned
    obtain rfl : other = number := Except.ok.inj (read.symm.trans asked)
    rw [← labelIn_of_rows same, ← target, labelIn, named] at label
    rw [← target, ← Option.some.inj label]
    exact labels_startupBody (placed.of_rows same) named
  have contained := (noFork_helperTarget setup.host
    (.client request.credentials request.params)).contained
  rw [handler, mHelperStartup_eq]
  constructor
  · intro step last gives
    obtain ⟨found, returned, gives⟩ := gives.bind contained fun step mem => by
      have known := @Program.Within.run_trace daemon Fault (Int × Str) machine process _ _ _
        (access_helperTarget setup.host (.client request.credentials request.params)) world step mem
      exact not_naming_of_access (or_self_iff.mp known)
    exact (target found returned).only step last gives
  · intro answer returned
    obtain ⟨found, first, later⟩ := contained.returned_bind returned
    obtain ⟨step, mem, call⟩ := (target found first).once answer later
    rw [run_bind_returned contained first]
    exact ⟨step, List.mem_append_right _ mem, call⟩

/-! ## Both writers -/

/-- A run without quotes and percent signs in what creations paste keeps all labels complete,
and a context that is renamed gets the label that its next startup gives it. -/
theorem labels_complete (host : Host) (uptime : Int) (start world : World)
    (fresh : start.db = freshVxdb uptime)
    (serves : Serves host (fun templates request world =>
      Living ⟨host, templates⟩ request world.db) start world) :
    (∀ xid name, nameIn world.db.oracle xid = some name →
      (contextLabel name (vdirIn world.db.oracle host name)).length ≤ 64 ∧
        splitLabel (contextLabel name (vdirIn world.db.oracle host name)) =
          (name, vdirIn world.db.oracle host name)) ∧
      ∀ templates asking step, asking.method = cstr "vx.rename" →
        step ∈ ((handle ⟨host, templates⟩ asking).run machine 0 world).trace → Naming step.2 →
        ∃ xid text, step.2 = .sys (labelCall xid text) ∧ (validateXid xid = true →
          labelIn host (serve ⟨host, templates⟩ asking world).db xid = some text ∧
          ∀ setup startup process later number, setup.host = host →
            startup.method = cstr "helper.startup" →
            startup.params.getInt (cstr "xid") = .ok number → uint32 number = xid →
            later.db = (serve ⟨host, templates⟩ asking world).db →
            (∀ other ∈ ((handle setup startup).run machine process later).trace,
              Naming other.2 → other.2 = .sys (labelCall xid text)) ∧
            ∀ answer,
              ((handle setup startup).run machine process later).outcome = .returned answer →
              ∃ other ∈ ((handle setup startup).run machine process later).trace,
                other.2 = .sys (labelCall xid text)) := by
  have placed := placed_of_serves fresh serves
  refine ⟨fun xid name named => placed.label host named, ?_⟩
  intro templates asking step method mem naming
  have gives : Gives 0 (handle ⟨host, templates⟩ asking) world step
      ((handle ⟨host, templates⟩ asking).run machine 0 world).state := ⟨mem, naming, rfl⟩
  obtain ⟨renamed, xid, text, label, told⟩ := gives_mVxRename method placed gives
  refine ⟨xid, text, label, fun accepted => ⟨told accepted, ?_⟩⟩
  intro setup startup process later number same method asked wanted current
  subst same wanted
  have known : labelIn setup.host later.db (uint32 number) = some text := by
    rw [current]
    exact told accepted
  have placedLater : Placed later.db := by
    rw [current]
    exact renamed
  have labels : Labels process (handle setup startup) later (labelCall (uint32 number) text) :=
    labels_mHelperStartup method placedLater asked known
  exact ⟨fun other mem naming => labels.only other _ ⟨mem, naming, rfl⟩, labels.once⟩

/-- The virtual server `web` on a machine where its context runs. -/
def runningServer : World :=
  serve plainSetup (createRequest (cstr "web")) (World.boot (freshVxdb 0) runningKernel)

/-- The kernel reports the start of `web`. -/
def startupRequest : Request where
  method := cstr "helper.startup"
  credentials := .struct [(cstr "username", .str (cstr "vshelper")),
    (cstr "password", .str (cstr "WHIRLPOOLENC//*"))]
  params := .struct [(cstr "xid", .int 2)]

/-- A trace has a step that labels a context. -/
def labelled (call : Sys) (trace : List (World × Op)) : Bool :=
  trace.any fun step => match step.2 with
    | .sys other => decide (other = call)
    | _ => false

theorem exists_of_labelled {call : Sys} {trace : List (World × Op)}
    (found : labelled call trace = true) : ∃ step ∈ trace, step.2 = .sys call := by
  obtain ⟨step, mem, holds⟩ := List.any_eq_true.mp found
  refine ⟨step, mem, ?_⟩
  obtain ⟨before, op⟩ := step
  cases op with
  | sys other => exact congrArg Op.sys (of_decide_eq_true holds)
  | _ => cases holds

/-- The server has the label of its name, gets that of another name when it is renamed, and
keeps that when it is started again. -/
theorem labels_complete_web :
    (nameIn runningServer.db.oracle 2 = some (cstr "web") ∧
      (contextLabel (cstr "web") (vdirIn runningServer.db.oracle default (cstr "web"))).length ≤ 64 ∧
      splitLabel (contextLabel (cstr "web") (vdirIn runningServer.db.oracle default (cstr "web"))) =
        (cstr "web", vdirIn runningServer.db.oracle default (cstr "web"))) ∧
    (∃ step ∈ ((handle plainSetup wwwRequest).run machine 0 runningServer).trace,
      step.2 = .sys (labelCall 2 (cstr "www:/vservers/web"))) ∧
    labelIn default (serve plainSetup wwwRequest runningServer).db 2 =
      some (cstr "www:/vservers/web") ∧
    ∃ step ∈ ((handle plainSetup startupRequest).run machine 0
        (serve plainSetup wwwRequest runningServer)).trace,
      step.2 = .sys (labelCall 2 (cstr "www:/vservers/web")) := by
  have named : nameIn runningServer.db.oracle 2 = some (cstr "web") := by decide +kernel
  have complete := labels_complete default 0 (World.boot (freshVxdb 0) runningKernel) runningServer
    rfl (.step .refl (fun _ => .fileError) (createRequest (cstr "web"))
      ⟨by decide, fun _ _ _ => nofun, .of_params (by rfl) (by rfl) (by rfl) (by decide +kernel)⟩)
  have renames := exists_of_labelled (show labelled (labelCall 2 (cstr "www:/vservers/web"))
    ((handle plainSetup wwwRequest).run machine 0 runningServer).trace = true by decide +kernel)
  refine ⟨⟨named, complete.1 2 (cstr "web") named⟩, renames, ?_⟩
  obtain ⟨step, mem, label⟩ := renames
  obtain ⟨xid, text, same, told⟩ := complete.2 (fun _ => .fileError) wwwRequest step rfl mem
    (label ▸ trivial)
  obtain ⟨rfl, -, rfl⟩ := Sys.vxUnameSet.inj (Op.sys.inj (label.symm.trans same))
  obtain ⟨known, starts⟩ := told (by decide)
  refine ⟨known, ?_⟩
  have ended : returns (handle plainSetup startupRequest)
      (serve plainSetup wwwRequest runningServer) = true := by decide +kernel
  obtain ⟨answer, returned⟩ := exists_returned ended
  unfold ends at returned
  exact (starts plainSetup startupRequest 0 (serve plainSetup wwwRequest runningServer) 2 rfl rfl
    rfl (by decide) rfl).2 answer (Prod.mk.inj returned).1

/-- A template whose `init` carries statements of its own. -/
def carrierConf : TemplateConf where
  init := cstr "/i', '/h', '/r', 0);INSERT INTO xid_name_map (xid, name) VALUES (3, 'abc');" ++
    cstr "INSERT INTO vdir (xid, vdir) VALUES (3, '/aaaaaaaaaaaaaaaaaaaaaaaaaaaaaaaaaaaaaaa" ++
    cstr "aaaaaaaaaaaaaaaaaaaaaaaaaaaaaaaaaa');" ++
    cstr "INSERT INTO init (xid, init, halt, reboot, timeout) VALUES (3, '/i"

/-- The administrator creates a virtual server from the template. -/
def carried : World :=
  serve ⟨default, fun _ => .parsed carrierConf⟩ (createRequest (cstr "web"))
    (World.boot (freshVxdb 0) confKernel)

/-- Quotes in a template store a directory that nobody measured. -/
theorem labels_complete_template : ¬ ∀ (host : Host) (uptime : Int) (start world : World),
    start.db = freshVxdb uptime →
    Serves host (fun _ request world => request.method ∈ lifeMethods ∧
      CleanTarget host request world.db) start world →
    ∀ xid name, nameIn world.db.oracle xid = some name →
      (contextLabel name (vdirIn world.db.oracle host name)).length ≤ 64 := by
  intro complete
  have long := complete default 0 (World.boot (freshVxdb 0) confKernel) carried rfl
    (.step .refl (fun _ => .parsed carrierConf) (createRequest (cstr "web"))
      ⟨by decide, .of_params (by rfl) (by rfl) (by rfl) (by decide +kernel)⟩)
    3 (cstr "abc") (by decide +kernel)
  exact absurd long (by decide +kernel)

end Vcd
