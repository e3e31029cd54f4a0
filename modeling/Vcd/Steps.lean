import Vcd.Sequential
import Vcd.Writes

/-!
# What a step of a request does to the database

For requests whose strings are clean, every executed text is one of a few changes, told in
terms of the database it is executed on. Invariants of whole runs are derived from this
list alone.
-/

namespace Vcd

open Sql Process

/-! ## What the answers mean -/

section Meaning

variable {oracle : Oracle} {past : Past}

/-- The id that follows the largest one, or the first. -/
def nextIdIn (oracle : Oracle) (sql : List Piece) : Int :=
  ((firstRow (oracle (render sql))).map fun row => int32 (vxdbColumnInt row 0 + 1)).getD 1

theorem Next.nextIdIn {sql : List Piece} {id : Int} (next : Next past sql id)
    (agrees : Agrees oracle past) : Vcd.nextIdIn oracle sql = id := by
  obtain ⟨reply, asked, known⟩ := next
  rw [Vcd.nextIdIn, agrees _ _ asked, known]

theorem answer_authGetnextuid (oracle : Oracle) :
    answer oracle authGetnextuid = some (Vcd.nextIdIn oracle sqlNextuid) := by
  unfold authGetnextuid Vcd.nextIdIn
  rw [answer_bind, answer_prepare, Option.bind_some]
  rcases oracle (render sqlNextuid) with _ | _ | ⟨row, rows⟩ <;> rfl

theorem HasGid.gidIn {group : Str} {gid : Int} (known : HasGid past group gid)
    (agrees : Agrees oracle past) : Vcd.gidIn oracle group = gid := by
  obtain ⟨row, first, read⟩ := known.2.2.agrees agrees
  rw [Vcd.gidIn, known.1, first]
  exact read

/-- The context id a new virtual server gets, if there is one. -/
def freeXidIn (oracle : Oracle) : Option Int :=
  (firstRow (oracle (render sqlCountMax))).bind nextXid

theorem Chosen.freeXidIn {xid : Int} (chosen : Chosen past xid) (agrees : Agrees oracle past) :
    Vcd.freeXidIn oracle = some xid := by
  obtain ⟨row, first, next⟩ := Read.agrees chosen agrees
  rw [Vcd.freeXidIn, first]
  exact next

end Meaning

/-- The name denotes the context id, as the daemon reads it. -/
def Means (db : Vxdb) (name : Str) (xid : Int) : Prop :=
  validateName name = true ∧ xidIn db.oracle name = xid ∧ xid ≠ 0

/-- The user id belongs to a user, as the daemon reads it. -/
def IsUid (db : Vxdb) (uid : Int) : Prop :=
  ∃ user, validateUsername user = true ∧ uidIn db.oracle user = uid ∧ uid ≠ 0

/-- The database right after a group was inserted. -/
def JustInserted (db : Vxdb) (gid : Int) : Prop :=
  ∃ earlier : Vxdb, ∃ group, earlier.insert Table.groups [.int gid, .str group] = some db

/-- What is so when a statement about rights is executed. -/
def RightsWrite.Meant (db : Vxdb) : RightsWrite → Prop
  | .capsAdd uid _ | .userRemove uid | .userAdmin uid _ => IsUid db uid
  | .userInsert uid _ _ _ => uid = nextIdIn db.oracle sqlNextuid
  | .ownerAdd xid uid => IsUid db uid ∧ ∃ name, Means db name xid
  | .groupInsert gid _ => gid = nextIdIn db.oracle sqlLastGid
  | .memberInsert xid gid => (∃ name, Means db name xid) ∧
      ((∃ group, validateGroup group = true ∧ gidIn db.oracle group = gid ∧ gid ≠ 0) ∨
        JustInserted db gid)
  | _ => True

/-! ## Changes -/

/-- What an executed text of a request can do, for a request that started on `first`. -/
inductive Changed (setup : Setup) (request : Request) (first db : Vxdb) : Vxdb → Prop where
  | same {next : Vxdb} (rows : SameRows db next) : Changed setup request first db next
  | config {next : Vxdb} (table : Table) (name : Str) (xid : Int) (listed : table ∈ configTables)
      (means : Means db name xid)
      (effect : Effect (rowsOf [table] (int32 xid)) (rowsOf [table] (int32 xid)) db next) :
      Changed setup request first db next
  | restart {next : Vxdb} (name : Str) (xid : Int) (named : nameIn db.oracle xid = some name)
      (effect : Effect (rowsOf [.restart] (int32 xid)) (rowsOf [.restart] (int32 xid)) db next) :
      Changed setup request first db next
  | rights {next : Vxdb} (write : RightsWrite) (kind : writeKind request.method = some .rights)
      (free : write.Free) (meant : write.Meant db)
      (applied : applyAll db write.changes = some next) : Changed setup request first db next
  | remove {next : Vxdb} (user name : Str) (xid : Int)
      (kind : writeKind request.method = some .remove)
      (user_eq : request.user = .ok user) (name_eq : request.text (cstr "name") = .ok name)
      (owned : ownerIn db.oracle user name = true) (means : Means db name xid)
      (unchanged : SameRows first db)
      (applied : applyAll db (removedTables.map (deleteXid xid)) = some next) :
      Changed setup request first db next
  | rename {next : Vxdb} (name newname : Str) (xid : Int)
      (kind : writeKind request.method = some .rename)
      (name_eq : request.text (cstr "name") = .ok name)
      (newname_eq : request.text (cstr "newname") = .ok newname)
      (valid : validateName newname = true) (means : Means db name xid)
      (unchanged : SameRows first db)
      (applied : applyAll db [renameChange newname xid] = some next) :
      Changed setup request first db next
  | create {next : Vxdb} (user name param vdir : Str) (xid : Int) (conf : TemplateConf)
      (entries : Entries) (kind : writeKind request.method = some .create)
      (user_eq : request.user = .ok user) (name_eq : request.text (cstr "name") = .ok name)
      (param_eq : request.text (cstr "vdir") = .ok param) (valid : validateName name = true)
      (checked : validatePath vdir = true) (short : vdir.length ≤ 31)
      (resolved : createVdirIn db.oracle setup.host user name param = vdir)
      (target : Means db name xid ∨ freeXidIn db.oracle = some xid)
      (known : conf = {} ∨ ∃ path, setup.templates path = .parsed conf)
      (assembled : templateEntries conf vdir name = .ok entries) (clean : entries.Clean)
      (unchanged : SameRows first db)
      (applied : applyAll db (createChanges xid entries) = some next) :
      Changed setup request first db next

/-- The directory a creation works in is clean. -/
def CleanTarget (host : Host) (request : Request) (db : Vxdb) : Prop :=
  request.method = cstr "vx.create" → ∀ user name param, request.user = .ok user →
    request.text (cstr "name") = .ok name → request.text (cstr "vdir") = .ok param →
      CleanText (createVdirIn db.oracle host user name param)

/-- A request without quotes in its strings. What a creation pastes into its script is clean. -/
structure Harmless (setup : Setup) (request : Request) (first : Vxdb) : Prop where
  free : request.Free
  templates : request.method = cstr "vx.create" → setup.templates.Clean
  target : CleanTarget setup.host request first

theorem CleanTarget.of_params {host : Host} {request : Request} {db : Vxdb}
    {user name param : Str} (userEq : request.user = .ok user)
    (nameEq : request.text (cstr "name") = .ok name)
    (paramEq : request.text (cstr "vdir") = .ok param)
    (clean : CleanText (createVdirIn db.oracle host user name param)) :
    CleanTarget host request db := by
  intro _ otherUser otherName otherParam otherUserEq otherNameEq otherParamEq
  obtain rfl := Except.ok.inj (userEq.symm.trans otherUserEq)
  obtain rfl := Except.ok.inj (nameEq.symm.trans otherNameEq)
  obtain rfl := Except.ok.inj (paramEq.symm.trans otherParamEq)
  exact clean

variable {setup : Setup} {request : Request} {first db : Vxdb} {inv : Vxdb → Prop} {past : Past}

/-- What a creation resolves its directory to does not depend on counters. -/
theorem createVdirIn_of_rows (same : SameRows first db) (host : Host) (user name param : Str) :
    createVdirIn db.oracle host user name param =
      createVdirIn first.oracle host user name param := by
  unfold createVdirIn
  rw [adminIn_of_rows (same _ nofun), vdirIn_of_rows (same _ nofun) (same _ nofun)]

theorem Creating.vdir_eq {user name param vdir : Str}
    (creating : Creating setup request past user name param vdir)
    (explained : Explained first inv past db) :
    createVdirIn first.oracle setup.host user name param = vdir := by
  rw [← createVdirIn_of_rows (explained.unchanged creating.untouched)]
  exact creating.resolved db.oracle explained.current

/-- A text that runs some changes, or none of them if it fails. -/
theorem holds_of_runs {holds : Vxdb → Prop} {sql : Str} {changes : List Change}
    (runs : Runs sql changes) (unchanged : holds db)
    (succeeds : ∀ next, applyAll db changes = some next → holds next) :
    holds (execText db sql).1 ∧
      ((execText db sql).2.ok = false → (execText db sql).1 = db) := by
  refine ⟨?_, runs.failed⟩
  cases ok : (execText db sql).2.ok with
  | true => exact succeeds _ (runs.succeeded ok)
  | false =>
      rw [runs.failed ok]
      exact unchanged

theorem changed_of_runs {sql : Str} {changes : List Change} (runs : Runs sql changes)
    (succeeds : ∀ next, applyAll db changes = some next → Changed setup request first db next) :
    Changed setup request first db (execText db sql).1 ∧
      ((execText db sql).2.ok = false → (execText db sql).1 = db) :=
  holds_of_runs runs (.same fun _ _ => rfl) succeeds

/-- What a creation pastes is clean, if its directory and its template are. -/
theorem Creating.clean {user name param vdir : Str} {conf : TemplateConf} {entries : Entries}
    (creating : Creating setup request past user name param vdir)
    (explained : Explained first inv past db) (method : request.method = cstr "vx.create")
    (target : CleanTarget setup.host request first) (templates : setup.templates.Clean)
    (known : conf = {} ∨ ∃ path, setup.templates path = .parsed conf)
    (assembled : templateEntries conf vdir name = .ok entries) : entries.Clean := by
  have vdirClean : CleanText vdir := by
    rw [← creating.vdir_eq explained]
    exact target method user name param creating.user_eq creating.name_eq creating.param_eq
  have confClean : conf.Clean := by
    rcases known with rfl | ⟨path, parsed⟩
    · exact clean_default
    · exact templates path conf parsed
  exact entries_clean assembled confClean vdirClean creating.valid

theorem Looked.means {name : Str} {xid : Int} (looked : Looked (recent past) name xid)
    (explained : Explained first inv past db) : Means db name xid :=
  ⟨looked.1, looked.xidIn explained.current, looked.2.1⟩

theorem Request.FoundXid.means {xid : Int} (found : request.FoundXid (recent past) xid)
    (explained : Explained first inv past db) : ∃ name, Means db name xid := by
  obtain ⟨name, -, looked⟩ := found
  exact ⟨name, looked.means explained⟩

theorem Request.FoundUid.isUid {uid : Int} (found : request.FoundUid (recent past) uid)
    (explained : Explained first inv past db) : IsUid db uid := by
  obtain ⟨user, -, known⟩ := found
  exact ⟨user, known.1, known.uidIn explained.current, known.2.1⟩

/-- What a request found out before it changes rights is so. -/
theorem RightsWrite.Known.meant {write : RightsWrite} (known : write.Known request past)
    (explained : Explained first inv past db) : write.Meant db := by
  cases write with
  | capsAdd uid cap => exact Request.FoundUid.isUid known explained
  | userRemove uid => exact Request.FoundUid.isUid known explained
  | userAdmin uid admin => exact Request.FoundUid.isUid known explained
  | userInsert uid user hash admin => exact (Next.nextIdIn known explained.current).symm
  | groupInsert gid group => exact (Next.nextIdIn known explained.current).symm
  | ownerAdd xid uid => exact ⟨known.1.isUid explained, known.2.means explained⟩
  | memberInsert xid gid =>
      obtain ⟨found, group, -, valid, hasGid | wrote⟩ := known
      · exact ⟨found.means explained, .inl ⟨group, valid,
          hasGid.gidIn explained.current, hasGid.2.1⟩⟩
      · obtain ⟨earlier, -, after, ok⟩ := explained.wrote _ wrote
        have free : (RightsWrite.groupInsert gid group).Free := by
          intro text mem
          obtain rfl := List.mem_singleton.mp mem
          exact quoteFree_of_validateGroup valid
        have applied : applyAll earlier (RightsWrite.groupInsert gid group).changes = some db := by
          rw [← after]
          exact (RightsWrite.runs free).succeeded ok
        exact ⟨found.means explained,
          .inr ⟨earlier, group, applyAll_singleton.symm.trans applied⟩⟩
  | _ => trivial

/-- Every text a harmless request executes is one of the changes, and has no effect if it
fails. -/
theorem changed_of_permitted (harmless : Harmless setup request first)
    (explained : Explained first inv past db) {sql : Str}
    (permitted : Permitted setup request past (.exec sql)) :
    Changed setup request first db (execText db sql).1 ∧
      ((execText db sql).2.ok = false → (execText db sql).1 = db) := by
  rcases permitted with tallying | ⟨kind, known, write⟩
  · exact ⟨.same fun _ other => tallying.counts.rows db other, tallying.counts.failed db⟩
  cases write with
  | config user name xid _ _ settling _ looked =>
      have confined := settling.confined harmless.free.closed xid
      exact ⟨.config _ name xid (writeKind_config known) (looked.means explained)
        (confined.effect db), confined.failed db⟩
  | restart name given _ flagging _ named =>
      have confined := flagging.confined (uint32 given)
      exact ⟨.restart name _ (named.nameIn explained.current) (confined.effect db),
        confined.failed db⟩
  | rights user write _ _ found asked =>
      have free := asked.free harmless.free
      exact changed_of_runs (RightsWrite.runs free) fun next applied =>
        .rights write known free (found.meant explained) applied
  | remove user name xid untouched userEq nameEq owned _ looked =>
      have recently : Looked (recent past) name xid :=
        looked.mono since_since_subset
      exact changed_of_runs (runs_sqlVxRemove xid) fun next applied =>
        .remove user name xid known userEq nameEq (owned.ownerIn explained.current)
          (recently.means explained) (explained.unchanged untouched) applied
  | rename user name newname xid untouched _ nameEq newnameEq valid _ _ looked =>
      have recently : Looked (recent past) name xid :=
        looked.mono since_since_subset
      exact changed_of_runs (runs_sqlVxRename (quoteFree_of_validateName valid) xid)
        fun next applied => .rename name newname xid known nameEq newnameEq valid
          (recently.means explained) (explained.unchanged untouched) applied
  | create user name param vdir xid conf entries creating target read assembled =>
      have method := writeKind_create known
      have clean := creating.clean explained method harmless.target (harmless.templates method)
        read assembled
      rw [printed_of_clean setup.host clean]
      have found : Means db name xid ∨ freeXidIn db.oracle = some xid :=
        target.imp (·.means explained) (·.freeXidIn explained.current)
      exact changed_of_runs (runs_sqlCreate clean xid) fun next applied =>
        .create user name param vdir xid conf entries known creating.user_eq creating.name_eq
          creating.param_eq creating.valid creating.checked creating.short
          (creating.resolved db.oracle explained.current) found read assembled clean
          (explained.unchanged creating.untouched) applied

/-- An invariant of all changes is kept by a harmless request. -/
theorem kept_of_changed (harmless : Harmless setup request first)
    (keeps : ∀ db next, inv db → Changed setup request first db next → inv next) :
    Kept setup request first inv := by
  intro past db sql explained permitted
  obtain ⟨changed, failed⟩ := changed_of_permitted harmless explained permitted
  exact ⟨keeps db _ explained.holds changed, failed⟩

end Vcd
