import Vcd.Deeds
import Vcd.Interleavings
import Vcd.Process.Refinement
import Vcd.Settings

/-!
# The ledger of an interleaving

Requests without quotes are processed in any order. What becomes of the database is what a
ledger of deeds makes of it: each text that a process executes does one deed its request asks
for, as a whole or not at all, and each process finds its deeds in the ledger in its own order.
A text that meets with a locked database is a deed that is missed.
-/

namespace Vcd

open Sql Process

variable {setup : Setup} {world : Shared} {requests : List Request} {pool next : Requests}
  {self : Nat} {proc : Proc sharedMachine Request Fault Xml} {request : Request} {past : Past}
  {deed : Deed} {sql : Str} {db last : Vxdb}

/-! ## Clean runs -/

/-- The directories that are recorded are clean. -/
def CleanDirs (db : Vxdb) : Prop :=
  ∀ row ∈ db.rows Table.vdir, CleanText (vxdbColumnText [Table.vdir.cell row (cstr "vdir")] 0)

/-- The strings of requests, templates and the configuration are clean. -/
structure CleanRun (setup : Setup) (world : Shared) (requests : List Request) : Prop where
  free : ∀ request ∈ requests, request.Free
  vdirs : ∀ request ∈ requests, ∀ vdir, request.text (cstr "vdir") = .ok vdir → '%' ∉ vdir
  templates : setup.templates.Clean
  base : CleanText setup.host.vbasedir
  recorded : CleanDirs world.db

theorem cleanText_concat {dirname basename : Str} (first : CleanText dirname)
    (second : CleanText basename) : CleanText (strPathConcat dirname basename) := by
  constructor
  · intro mem
    rcases List.mem_append.mp mem with mem | mem
    · exact first.1 mem
    · exact second.1 ((List.mem_cons.mp mem).resolve_left (by decide))
  · intro mem
    rcases List.mem_append.mp mem with mem | mem
    · exact first.2 mem
    · exact second.2 ((List.mem_cons.mp mem).resolve_left (by decide))

/-- A recorded directory that a process read is clean, if all were when it read it. -/
theorem Interleaved.clean_read (reached : Interleaved setup world requests pool)
    (known : pool.procs[self]? = some proc)
    (seen : ∀ event ∈ proc.past, CleanDirs event.state.db) {xid : Int} {vdir : Str}
    (read : Read proc.history (sqlGetvdir xid) fun row => vxdbColumnText row 0 = vdir) :
    CleanText vdir := by
  obtain ⟨reply, row, asked, first, rfl⟩ := read
  obtain ⟨rows, rfl⟩ := rows_of_firstRow (Option.isSome_iff_exists.mpr ⟨row, first⟩)
  obtain ⟨event, mem, same⟩ := List.mem_map.mp asked
  obtain ⟨moment, -, -, state, answered⟩ := Pool.Reaches.happened reached
    (handlers_start fun request => rfl) self proc known event mem
  have clean := seen event mem
  obtain ⟨earlier, op, answer⟩ := event
  cases same
  change earlier = moment.state at state
  change CleanDirs earlier.db at clean
  rw [state] at clean
  have prepared : moment.state.db.oracle (render (sqlGetvdir xid)) = some rows :=
    Shared.prepared answered.symm
  rw [← prepared, firstRow_sqlGetvdir] at first
  obtain ⟨found, listed, rfl⟩ := Option.map_eq_some_iff.mp first
  exact clean found (List.mem_of_find?_eq_some listed)

/-! ## What a process executes next -/

/-- Every request begins by counting itself. -/
theorem handle_opens (setup : Setup) (request : Request) :
    (handle setup request).Opens (I := daemon) Announces (fun _ => True) Quiet := by
  have within : (handle setup request).Within (I := daemon) (fun _ => True) Quiet :=
    (handle_keeps setup request).within fun _ _ _ => trivial
  rcases handle_begins setup request with ⟨-, handler⟩ | ⟨-, rest, handler⟩
  · rw [handler] at within ⊢
    exact ⟨.inr rfl, within.2⟩
  · rw [handler] at within ⊢
    exact ⟨.inl rfl, within.2⟩

theorem Interleaved.opened (reached : Interleaved setup world requests pool) :
    ∀ proc ∈ pool.procs, proc.Opened (fun _ => Announces) (fun _ _ => True) Quiet :=
  Pool.Reaches.opened reached (handlers_start fun request tag tagged => by
    cases tagged
    exact .inl ⟨rfl, handle_opens setup request⟩)

/-- The text counts, or does a deed that the request asks for. -/
inductive Spells (setup : Setup) (request : Request) (past : Past) : Deed → Str → Prop where
  | count (counter : Counter) : Spells setup request past (.count counter) (render counter.sql)
  | asked {deed : Deed} {sql : Str} (intends : Intends setup request past deed sql) :
      Spells setup request past deed sql

/-- The deed counts a request. -/
def Deed.announces : Deed → Bool
  | .count .requests | .count .nomethod => true
  | _ => false

theorem Intends.not_announces (intends : Intends setup request past deed sql) :
    deed.announces = false := by
  cases intends <;> rfl

/-- A creation records a valid name, and a short absolute path as its directory. -/
structure Recordable (entries : Entries) : Prop where
  clean : CleanText entries.vdir
  path : validatePath entries.vdir = true
  short : entries.vdir.length ≤ 31
  name : validateName entries.name = true

/-- The text does the deed as a whole or not at all. -/
structure Doing (setup : Setup) (request : Request) (past : Past) (deed : Deed) (sql : Str) :
    Prop where
  spells : Spells setup request past deed sql
  runs : Runs sql deed.changes
  recordable : ∀ xid entries, deed = .create xid entries → Recordable entries

theorem doing_count (counter : Counter) :
    Doing setup request past (.count counter) (render counter.sql) where
  spells := .count counter
  runs := runs_counter counter
  recordable xid entries same := by cases same

theorem doing_announced (announces : Announces (.exec sql)) :
    ∃ deed, Doing setup request past deed sql ∧ deed.announces = true := by
  rcases announces with rfl | rfl
  · exact ⟨_, doing_count .requests, rfl⟩
  · exact ⟨_, doing_count .nomethod, rfl⟩

/-- What a creation pastes is clean, if all it has seen was clean. -/
theorem Interleaved.recordable (clean : CleanRun setup world requests)
    (reached : Interleaved setup world requests pool) (known : pool.procs[self]? = some proc)
    (seen : ∀ event ∈ proc.past, CleanDirs event.state.db) (listed : request ∈ requests)
    {xid : Int} {entries : Entries}
    (intends : Intends setup request proc.history (.create xid entries) sql) :
    entries.Clean ∧ Recordable entries := by
  cases intends with
  | @create user name param vdir conf _ _ method creating target template assembled =>
      have vdirClean : CleanText vdir := by
        cases creating.source with
        | given param =>
            exact ⟨clean.free request listed _ _ param, clean.vdirs request listed _ param⟩
        | @standard other named =>
            obtain rfl : name = other := Except.ok.inj (creating.name_eq.symm.trans named)
            exact cleanText_concat clean.base (cleanText_of_validateName creating.valid)
        | recorded read =>
            exact Interleaved.clean_read reached known seen (read.mono recent_subset)
      have confClean : conf.Clean := by
        rcases template with rfl | ⟨path, parsed⟩
        · exact clean_default
        · exact clean.templates path _ parsed
      refine ⟨entries_clean assembled confClean vdirClean creating.valid, ?_⟩
      obtain ⟨-, -, -, -, equal⟩ := templateEntries_eq_ok assembled
      rw [equal]
      exact ⟨vdirClean, creating.checked, creating.short, creating.valid⟩

/-- What a process executes next does a deed that its request asks for. The first deed of a
request counts it, and no other deed does. -/
theorem Interleaved.doing (clean : CleanRun setup world requests)
    (reached : Interleaved setup world requests pool) (known : pool.procs[self]? = some proc)
    (seen : ∀ event ∈ proc.past, CleanDirs event.state.db)
    {later : Sql.Outcome → Method Xml} (rest : proc.rest = .op (.exec sql) later) :
    ∃ request deed, proc.tag = some request ∧ Doing setup request proc.history deed sql ∧
      deed.announces = proc.past.isEmpty := by
  have mem := List.mem_of_getElem? known
  rcases (reached.sound proc mem).promised rest with ⟨request, tagged, permitted⟩ | ⟨-, quiet⟩
  swap
  · exact quiet.elim
  suffices does : ∃ deed, Doing setup request proc.history deed sql ∧
      deed.announces = proc.past.isEmpty by
    obtain ⟨deed, doing⟩ := does
    exact ⟨request, deed, tagged, doing⟩
  rcases Interleaved.opened reached proc mem request tagged with ⟨fresh, opens⟩ | ⟨begun, -⟩
  · rw [rest] at opens
    rw [List.isEmpty_iff.mpr fresh]
    exact doing_announced opens.1
  have listed := Interleaved.tag_mem reached mem tagged
  rw [List.isEmpty_eq_false_iff.mpr begun]
  rcases permitted with (⟨fresh, -⟩ | rfl) | ⟨kind, kindEq, write⟩
  · exact absurd (List.map_eq_nil_iff.mp fresh) begun
  · exact ⟨_, doing_count .flogins, rfl⟩
  · obtain ⟨deed, intends⟩ := write.intends kindEq (clean.free request listed)
    refine ⟨deed, ⟨.asked intends, intends.runs (clean.free request listed) ?_, ?_⟩,
      intends.not_announces⟩
    · rintro xid entries rfl
      exact (Interleaved.recordable clean reached known seen listed intends).1
    · rintro xid entries rfl
      exact (Interleaved.recordable clean reached known seen listed intends).2

/-! ## Recorded directories stay clean -/

/-- What a deed leaves of a table that is not about configuration or rights. -/
inductive Inherits (deed : Deed) (db last : Vxdb) (table : Table) : Prop where
  | same (rows : last.rows table = db.rows table)
  | fewer (removed : table ∈ removedTables) (subset : last.rows table ⊆ db.rows table)
  | rename {newname : Str} {xid : Int} (renames : deed = .rename newname xid)
      (valid : validateName newname = true) (names : table = .xidNameMap)
  | create {xid : Int} {entries : Entries} (creates : deed = .create xid entries)

theorem Intends.inherits (intends : Intends setup request past deed sql)
    (applied : applyAll db deed.changes = some last) (table : Table)
    (apart : table ∉ Table.restart :: configTables ++ (userTables ++ relationTables)) :
    Inherits deed db last table := by
  have single {change : Change} (alone : deed.changes = [change]) (other : table ≠ change.table) :
      Inherits deed db last table := by
    rw [alone, applyAll_singleton] at applied
    exact .same (Change.rows_apply_other applied other)
  have config : table ∉ Table.restart :: configTables := fun mem =>
    apart (List.mem_append_left _ mem)
  cases intends with
  | setting xid kind settling sets found =>
      refine single rfl ?_
      rw [Setting.table_change]
      rintro rfl
      exact config (.tail _ (writeKind_config kind))
  | flag given flagging param named =>
      refine single rfl ?_
      rw [Setting.table_change, flagging.sets.1]
      rintro rfl
      exact config (.head _)
  | rights write asked known =>
      refine .same ((Effect.applyAll write.stays applied).rows_eq fun row => ?_)
      exact Bool.eq_false_iff.mpr fun touched =>
        apart (List.mem_append_right _ (allOf_iff.mp touched))
  | remove xid method found =>
      have effect : Effect (rowsOf removedTables (int32 xid)) nowhere db last :=
        .applyAll (fun change listed => by
          obtain ⟨table, tableMem, rfl⟩ := List.mem_map.mp listed
          exact stays_deleteXid xid tableMem nowhere) applied
      by_cases removed : table ∈ removedTables
      · exact .fewer removed fun row mem =>
          (effect.fresh table row mem).resolve_right Bool.false_ne_true
      · refine .same (effect.rows_eq fun row => ?_)
        exact Bool.eq_false_iff.mpr fun touched => removed (rowsOf_iff.mp touched).1
  | rename xid method known valid found =>
      by_cases names : table = .xidNameMap
      · exact .rename rfl valid names
      · exact single rfl names
  | create xid method creating target known assembled => exact .create rfl

/-- A row after a creation was there before, or is one that was inserted. -/
theorem mem_rows_create {xid : Int} {entries : Entries} {table : Table} {row : Row}
    (applied : applyAll db (createChanges xid entries) = some last) (mem : row ∈ last.rows table) :
    row ∈ db.rows table ∨ (table, row) ∈ entries.rows xid := by
  rw [rows_create applied] at mem
  rcases List.mem_append.mp mem with mem | mem
  · split at mem
    · exact .inl (List.mem_filter.mp mem).1
    · exact .inl mem
  · obtain ⟨entry, listed, rfl⟩ := List.mem_map.mp mem
    obtain ⟨inserted, same⟩ := List.mem_filter.mp listed
    obtain rfl := of_decide_eq_true same
    exact .inr inserted

theorem Doing.inherits (doing : Doing setup request past deed sql) (acted : deed.act db = some last)
    (table : Table) (other : table ≠ .vcd)
    (apart : table ∉ Table.restart :: configTables ++ (userTables ++ relationTables)) :
    Inherits deed db last table := by
  cases doing.spells with
  | count counter =>
      have applied : counter.change.apply db = some last := applyAll_singleton.symm.trans acted
      exact .same (Change.rows_apply_other applied other)
  | asked intends => exact intends.inherits acted table apart

/-- A deed keeps the directories clean. -/
theorem Doing.cleanDirs (doing : Doing setup request past deed sql) (acted : deed.act db = some last)
    (clean : CleanDirs db) : CleanDirs last := by
  intro row mem
  cases doing.inherits acted Table.vdir (by decide) (by decide) with
  | same rows => exact clean row (rows ▸ mem)
  | fewer removed subset => exact clean row (subset mem)
  | rename renames valid names => cases names
  | @create xid entries creates =>
      subst creates
      rcases mem_rows_create acted mem with mem | mem
      · exact clean row mem
      · obtain rfl : row = [.int (int32 xid), .str entries.vdir] := by
          simpa [Entries.rows] using mem
        exact (doing.recordable _ _ rfl).clean

/-- What a deed keeps, the text that does it keeps. -/
theorem Doing.executed {holds : Vxdb → Prop} (doing : Doing setup request past deed sql)
    (kept : ∀ last, deed.act db = some last → holds last) (before : holds db) :
    holds (execText db sql).1 := by
  rw [(doing.runs db).1]
  cases acted : applyAll db deed.changes with
  | some last => exact kept last acted
  | none => exact before

/-- A step leaves the database as it is, or executes a text that does a deed. -/
theorem Interleaved.step_database (clean : CleanRun setup world requests)
    (reached : Interleaved setup world requests pool)
    (seen : ∀ proc ∈ pool.procs, ∀ event ∈ proc.past, CleanDirs event.state.db)
    (taken : pool.step self = some next) : next.state.db = pool.state.db ∨
      ∃ request past deed sql, Doing setup request past deed sql ∧
        next.state.db = (execText pool.state.db sql).1 := by
  obtain ⟨proc, after, children, known, advanced, -⟩ := Pool.step_cases taken
  generalize next.state = last at advanced ⊢
  cases advanced with
  | op op later rest enabled =>
      cases op with
      | exec sql =>
          have past := seen proc (List.mem_of_getElem? known)
          obtain ⟨request, deed, -, doing, -⟩ := Interleaved.doing clean reached known past rest
          by_cases same : (sharedMachine.step self pool.state (.exec sql)).2.db = pool.state.db
          · exact .inl same
          · exact .inr ⟨request, _, deed, sql, doing, Shared.db_exec same⟩
      | _ => exact .inl (Shared.db_performs (fun _ same => by cases same) pool.state self)
  | fork later rest => exact .inl rfl
  | halt => exact .inl rfl

/-- The directories are clean in every state that an interleaving comes to. -/
theorem Interleaved.cleanDirs (clean : CleanRun setup world requests)
    (reached : Interleaved setup world requests pool) : CleanDirs pool.state.db ∧
      ∀ proc ∈ pool.procs, ∀ event ∈ proc.past, CleanDirs event.state.db := by
  refine Pool.Reaches.always (fun shared : Shared => CleanDirs shared.db) reached clean.recorded
    (handlers_start fun request => rfl) fun pool next self before taken now seen => ?_
  rcases Interleaved.step_database clean before seen taken with
    same | ⟨request, past, deed, sql, doing, executed⟩
  · exact same ▸ now
  · rw [executed]
    exact doing.executed (fun last acted => doing.cleanDirs acted now) now

/-- What every deed keeps, every interleaving keeps. -/
theorem Interleaved.kept {holds : Vxdb → Prop} (clean : CleanRun setup world requests)
    (reached : Interleaved setup world requests pool) (start : holds world.db)
    (kept : ∀ request past deed sql db last, Doing setup request past deed sql →
      deed.act db = some last → holds db → holds last) : holds pool.state.db := by
  induction reached with
  | refl => exact start
  | step before taken condition ih =>
      obtain ⟨-, seen⟩ := Interleaved.cleanDirs clean before
      rcases Interleaved.step_database clean before seen taken with
        same | ⟨request, past, deed, sql, doing, executed⟩
      · exact same ▸ ih
      · rw [executed]
        exact doing.executed (fun last acted => kept _ _ _ _ _ last doing acted ih) ih

/-! ## The ledger -/

/-- The operation executes a text. -/
def executing : Op → Bool
  | .exec _ => true
  | _ => false

/-- A text does the deed of a line, or meets with a locked database. The ids of the deed are
those that its process had found out, and the process is told if the deed was done. -/
inductive Tells (setup : Setup) : Option Request → Turn sharedMachine → Line Deed → Prop where
  | intro {request : Request} {shared : Shared} {sql : Str} {outcome : Sql.Outcome}
      {earlier : List (Event sharedMachine)} {line : Line Deed}
      (spells : Spells setup request (earlier.map Event.performed) line.deed sql)
      (missed : line.fate = .missed ↔ shared.refusing = true)
      (told : line.fate = .done ↔ outcome.ok = true) :
      Tells setup (some request) ⟨⟨shared, .exec sql, outcome⟩, earlier⟩ line

/-- A child does not execute anything. -/
theorem eq_nil_of_tells {turns : List (Turn sharedMachine)} {lines : List (Line Deed)}
    (tells : List.Forall₂ (Tells setup none) turns lines) : lines = [] := by
  cases tells with
  | nil => rfl
  | cons first rest => cases first

/-- A text that a process submits is a line of the ledger. -/
theorem Doing.line {earlier : List (Event sharedMachine)}
    (doing : Doing setup request (earlier.map Event.performed) deed sql) (self : Nat)
    (shared : Shared) : ∃ line : Line Deed, line.who = self ∧
      Tells setup (some request)
        ⟨⟨shared, .exec sql, (shared.performs self (.exec sql)).1⟩, earlier⟩ line ∧
      line.replayed Deed.act shared.db = some (shared.performs self (.exec sql)).2.db := by
  cases refused : shared.refusing with
  | true =>
      have performed := Shared.performs_exec shared self sql
      rw [refused, if_pos rfl] at performed
      obtain ⟨state, reply⟩ := Prod.mk.inj performed
      refine ⟨⟨self, deed, .missed⟩, rfl, .intro doing.spells (by simp [refused]) ?_, ?_⟩
      · rw [reply]
        simp
      · rw [state]
        rfl
  | false =>
      obtain ⟨reply, executed⟩ := Shared.performs_eq refused self (.exec sql)
      obtain ⟨state, ok⟩ := doing.runs shared.db
      rw [show (shared.performs self (.exec sql)).2.db = _ from
        (congrArg World.db executed).trans state, reply]
      change ∃ line : Line Deed, line.who = self ∧
        Tells setup (some request)
          ⟨⟨shared, .exec sql, (execText shared.db sql).2⟩, earlier⟩ line ∧ _
      cases acted : applyAll shared.db deed.changes with
      | some last =>
          refine ⟨⟨self, deed, .done⟩, rfl, .intro doing.spells (by simp [refused]) ?_, acted⟩
          rw [ok, acted]
          simp
      | none =>
          refine ⟨⟨self, deed, .refused⟩, rfl, .intro doing.spells (by simp [refused]) ?_, ?_⟩
          · rw [ok, acted]
            simp
          · unfold Line.replayed Deed.act
            rw [acted]
            rfl

/-- The processes refine the machine that does deeds. -/
theorem Interleaved.refines (clean : CleanRun setup world requests) :
    Refines (fun shared : Shared => shared.db) Deed.act executing (Tells setup) Anywhere
      (handlers setup world requests) where
  halt self state := rfl
  reads self state op quiet := by
    refine Shared.db_performs (fun sql same => ?_) state self
    rw [same] at quiet
    cases quiet
  write {pool self proc op later} reached known rest writes := by
    cases op with
    | exec sql =>
        obtain ⟨-, seen⟩ := Interleaved.cleanDirs clean reached
        obtain ⟨request, deed, tagged, doing, -⟩ := Interleaved.doing clean reached known
          (seen proc (List.mem_of_getElem? known)) rest
        rw [tagged]
        exact doing.line self pool.state
    | _ => cases writes

/-- In every interleaving of requests without quotes the database is what a ledger of deeds
makes of the first one. Each deed is done as a whole, or refused, or missed where the database
was locked, and each request finds the texts that it executed in the ledger, in its order and
with the outcomes it was told. -/
theorem serialized (clean : CleanRun setup world requests)
    (reached : Interleaved setup world requests pool) :
    ∃ ledger : List (Line Deed), replay Deed.act world.db ledger = some pool.state.db ∧
      (∀ line ∈ ledger, line.who < requests.length) ∧
      ∀ self proc, pool.procs[self]? = some proc →
        List.Forall₂ (Tells setup requests[self]?) (proc.written executing) (own self ledger) := by
  obtain ⟨ledger, replayed, inside, each⟩ :=
    (Interleaved.refines clean).ledger (handlers_start fun request => rfl) reached
  have tells (self : Nat) (proc : Proc sharedMachine Request Fault Xml)
      (known : pool.procs[self]? = some proc) :
      List.Forall₂ (Tells setup requests[self]?) (proc.written executing) (own self ledger) := by
    rw [← reached.numbered.2 self proc known]
    exact each self proc known
  refine ⟨ledger, replayed, fun line mem => ?_, tells⟩
  by_contra beyond
  have lines := tells line.who _ (List.getElem?_eq_getElem (inside line mem))
  rw [List.getElem?_eq_none (Nat.le_of_not_lt beyond)] at lines
  have mine : line ∈ own line.who ledger := List.mem_filter.mpr ⟨mem, beq_self_eq_true _⟩
  rw [eq_nil_of_tells lines] at mine
  cases mine

theorem cleanRun_plain {world : Shared} {requests : List Request}
    (free : ∀ request ∈ requests, request.Free)
    (vdirs : ∀ request ∈ requests, ∀ vdir, request.text (cstr "vdir") = .ok vdir → '%' ∉ vdir)
    (recorded : CleanDirs world.db) : CleanRun plainSetup world requests where
  free
  vdirs
  templates path conf known := by cases known
  base := by decide
  recorded

theorem vdirs_taking : ∀ request ∈ [killRequest, blueRequest], ∀ vdir,
    request.text (cstr "vdir") = .ok vdir → '%' ∉ vdir := by
  intro request mem vdir given
  rcases List.mem_cons.mp mem with rfl | mem
  · exact @texts_struct _ _ _ ('%' ∉ ·) given (by decide)
  · obtain rfl := List.mem_singleton.mp mem
    exact @texts_struct _ _ _ ('%' ∉ ·) given (by decide)

/-- The database is locked when the first text is submitted, and never again. -/
def lockedOnce : Shared :=
  .boot oneServer idleKernel (· == 0)

theorem cleanRun_taking {world : Shared} (same : world.db = oneServer) :
    CleanRun plainSetup world [killRequest, blueRequest] := by
  refine cleanRun_plain free_taking vdirs_taking ?_
  rw [same]
  unfold CleanDirs
  decide

/-- The count of the first request is missed, its capability and the group are inserted. -/
theorem serialized_taking :
    ∃ ledger : List (Line Deed),
      replay Deed.act lockedOnce.db ledger =
        some (after lockedOnce [killRequest, blueRequest]
          ((List.range 18).map (· % 2))).state.db ∧
      (∀ line ∈ ledger, line.who < [killRequest, blueRequest].length) ∧
      ∀ self proc, (after lockedOnce [killRequest, blueRequest]
          ((List.range 18).map (· % 2))).procs[self]? = some proc →
        List.Forall₂ (Tells plainSetup [killRequest, blueRequest][self]?)
          (proc.written executing) (own self ledger) :=
  serialized (cleanRun_taking rfl) (interleaved_after (by decide +kernel))

end Vcd
