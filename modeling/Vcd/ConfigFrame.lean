import Vcd.Settings

/-!
# Configuration stays inside its virtual server

The methods that paste unchecked text into a statement on one table. As long as every quote
in that text is doubled, a request changes the rows of its own virtual server in that table
and the counters, and nothing else. It changes the counters only if it is refused before its
statement, and otherwise what the statement makes of the text.
-/

namespace Vcd

open Sql Process

theorem int32_uint32 (value : Int) : int32 (uint32 value) = int32 value := by
  unfold int32 uint32
  exact_mod_cast Int.emod_bmod value (2 ^ 32)

/-- The name is recorded with the context id. -/
def Denotes (db : Vxdb) (name : Str) (xid : Int) : Prop :=
  ∃ row ∈ db.rows Table.xidNameMap, Table.xidNameMap.cell row (cstr "name") = .str name ∧
    Table.xidNameMap.cell row (cstr "xid") = .int xid

/-- A lookup finds the recorded context id, as an unsigned 32-bit number. -/
theorem Denotes.xidIn {db : Vxdb} {name : Str} {xid : Int} (denotes : Denotes db name xid)
    (valid : validateName name = true) : Vcd.xidIn db.oracle name = uint32 xid := by
  obtain ⟨row, mem, named, known⟩ := denotes
  rw [xidIn_of_mem valid mem named, known]
  rfl

/-- What a name denotes depends on one table only. -/
theorem Denotes.of_rows {db next : Vxdb} {name : Str} {xid : Int} (denotes : Denotes db name xid)
    (same : next.rows Table.xidNameMap = db.rows Table.xidNameMap) : Denotes next name xid := by
  unfold Denotes
  rwa [same]

/-- The rows of a context in one table, and the counters. -/
def framed (table : Table) (xid : Int) : Region vxdbSchema :=
  fun other row => allOf [.vcd] other row || rowsOf [table] xid other row

/-- The methods that paste unchecked text, with their tables. -/
def pastingMethods : List (Str × Table) :=
  [(cstr "vxdb.init.set", .init), (cstr "vxdb.mount.set", .mount),
    (cstr "vxdb.mount.remove", .mount), (cstr "vxdb.vx.uname.set", .vxUname)]

theorem writeKind_of_pasting {method : Str} {table : Table}
    (listed : (method, table) ∈ pastingMethods) :
    writeKind method = some (.config table) ∧ table ≠ .xidNameMap := by
  have all : ∀ entry ∈ pastingMethods,
      writeKind entry.1 = some (.config entry.2) ∧ entry.2 ≠ .xidNameMap := by decide
  exact all _ listed

variable {setup : Setup} {request : Request} {table : Table} {name : Str} {xid : Int}
  {db first : Vxdb}

theorem Effect.denotes (effect : Effect (framed table xid) (framed table xid) first db)
    (other : table ≠ .xidNameMap) (denotes : Denotes first name xid) : Denotes db name xid := by
  refine denotes.of_rows (effect.rows_eq fun row => ?_)
  simp [framed, allOf, rowsOf, other.symm]

/-- Every text of a writer of configuration stays in its frame. -/
theorem kept_framed (kind : writeKind request.method = some (.config table))
    (other : table ≠ .xidNameMap) (named : request.text (cstr "name") = .ok name)
    (denotes : Denotes first name xid) (ranged : int32 xid = xid) (closed : request.Closed) :
    Kept setup request first fun db => Effect (framed table xid) (framed table xid) first db := by
  intro past db sql explained permitted
  rcases permitted with tallying | ⟨written, known, write⟩
  · have counts := tallying.counts
    refine ⟨explained.holds.trans ((counts.effect db).mono ?_ ?_), counts.failed db⟩ <;>
      exact fun table row touched => by simp [framed, touched]
  rw [kind] at known
  obtain rfl := Option.some.inj known
  cases write with
  | config user given looked _ userEq settling owned found =>
      obtain rfl : name = given := Except.ok.inj (named.symm.trans settling.name_eq)
      have still := Effect.denotes explained.holds other denotes
      have equal : int32 looked = xid := by
        rw [← found.xidIn explained.current, still.xidIn found.1, int32_uint32, ranged]
      have stays := settling.confined closed looked
      rw [equal] at stays
      refine ⟨explained.holds.trans ((stays.effect db).mono ?_ ?_), stays.failed db⟩ <;>
        exact fun table row touched => by simp [framed, touched]

/-- The request changes the rows of its own virtual server in its own table and the counters
at most. -/
def Framed (setup : Setup) (request : Request) (world : World) (table : Table) (xid : Int) : Prop :=
  Effect (framed table xid) (framed table xid) world.db
    ((handle setup request).run machine 0 world).state.db

/-- The capability a pasting method asks for, and how it reads its parameters. -/
def pastingReader (method : Str) : UInt64 × (Xml → Except Fault (Str × (Int → List Piece))) :=
  if method = cstr "vxdb.init.set" then (capInit, initSetRequest)
  else if method = cstr "vxdb.mount.set" then (capMount, mountSetRequest)
  else if method = cstr "vxdb.mount.remove" then
    (capMount, removeKeyRequest .mount (cstr "dst") validatePath (cstr "invalid dst value: "))
  else (capUname, vxUnameSetRequest)

theorem handle_pasting (setup : Setup) (listed : (request.method, table) ∈ pastingMethods) :
    ∃ function, handle setup request = configWrite setup.host function
      (pastingReader request.method).1 (pastingReader request.method).2
      (.client request.credentials request.params) := by
  simp only [pastingMethods, List.mem_cons, Prod.mk.injEq, List.not_mem_nil, or_false] at listed
  rcases listed with ⟨method, -⟩ | ⟨method, -⟩ | ⟨method, -⟩ | ⟨method, -⟩
  · refine ⟨cstr "m_vxdb_init_set", ?_⟩
    rw [handle, method]
    rfl
  · refine ⟨cstr "m_vxdb_mount_set", ?_⟩
    rw [handle, method]
    rfl
  · refine ⟨cstr "m_vxdb_mount_remove", ?_⟩
    rw [handle, method]
    rfl
  · refine ⟨cstr "m_vxdb_vx_uname_set", ?_⟩
    rw [handle, method]
    rfl

/-- The request gets to its statement, and this is the text it executes. -/
def Pastes (setup : Setup) (request : Request) (world : World) (sql : Str) : Prop :=
  ∃ name pieces, Executes setup.host (pastingReader request.method).1
      (pastingReader request.method).2 request.credentials request.params world name pieces ∧
    sql = render (pieces (xidIn world.db.oracle name))

/-- The request is refused before its statement: by its password or capability, the owner or
the lock of the virtual server, the checks of its parameters, or its name. -/
def RefusedFirst (setup : Setup) (request : Request) (world : World) : Prop :=
  ∀ sql, ¬ Pastes setup request world sql

theorem run_pastes {sql : Str} {world : World} (listed : (request.method, table) ∈ pastingMethods)
    (pastes : Pastes setup request world sql) :
    ((handle setup request).run machine 0 world).state.db = (execText (counted world.db) sql).1 := by
  obtain ⟨function, handler⟩ := handle_pasting setup listed
  obtain ⟨name, pieces, executes, rfl⟩ := pastes
  change (ends (handle setup request) world).2.db = _
  rw [handler, executes.ends_configWrite]
  cases (execText (counted world.db) (render (pieces (xidIn world.db.oracle name)))).2.ok <;> rfl

theorem framed_counted (table : Table) (xid : Int) (db : Vxdb) :
    Effect (framed table xid) (framed table xid) db (counted db) :=
  (counts_sqlRequests.effect db).mono (fun table row touched => by simp [framed, touched])
    fun table row added => by simp [framed, added]

theorem framed_refused {world : World} (listed : (request.method, table) ∈ pastingMethods)
    (refused : RefusedFirst setup request world) : Framed setup request world table xid := by
  obtain ⟨function, handler⟩ := handle_pasting setup listed
  have same : SameRows world.db (ends (handle setup request) world).2.db := by
    rw [handler]
    exact sameRows_refused fun name pieces executes => refused _ ⟨name, pieces, executes, rfl⟩
  refine Effect.iff_kept.mpr fun other => ?_
  by_cases counters : other = .vcd
  · simp [counters, framed, allOf]
  · exact congrArg _ (same other counters)

/-- A configuration request on a name recorded with a 32-bit context id changes the rows of
its own virtual server in its own table and the counters at most, if every quote it pastes is
doubled or it is refused before its statement. If it is not refused, it stays in that frame
exactly if the text it executes does. -/
theorem config_framed (setup : Setup) (request : Request) (world : World) (table : Table)
    (name : Str) (xid : Int) (listed : (request.method, table) ∈ pastingMethods)
    (named : request.text (cstr "name") = .ok name) (denotes : Denotes world.db name xid)
    (ranged : int32 xid = xid) :
    (request.Closed ∨ RefusedFirst setup request world →
        Framed setup request world table xid) ∧
      ∀ sql, Pastes setup request world sql → (Framed setup request world table xid ↔
        Effect (framed table xid) (framed table xid) (counted world.db)
          (execText (counted world.db) sql).1) := by
  obtain ⟨kind, other⟩ := writeKind_of_pasting listed
  constructor
  · rintro (closed | refused)
    · exact (handle_explained (kept_framed kind other named denotes ranged closed)
        (.refl _ _ world.db)).1
    · exact framed_refused listed refused
  · intro sql pastes
    have counts := framed_counted table xid world.db
    unfold Framed
    rw [run_pastes listed pastes]
    exact ⟨counts.symm.trans, counts.trans⟩

/-! ## Options that erase a table -/

/-- Options that end their literal, delete all rows of a table and begin another literal. -/
def erasing (left : Str) (table : Table) : Str :=
  left ++ cstr "'); DELETE FROM " ++ table.name ++ cstr "; SELECT ('"

theorem commands_erasing {src dst type left : Str} (srcClosed : QuoteClosed src)
    (dstClosed : QuoteClosed dst) (typeClosed : QuoteClosed type) (leftClosed : QuoteClosed left)
    (table : Table) (xid : Int) :
    commands vxdbSchema (render (sqlMountSet src dst type (erasing left table) xid)) =
      [some (.change (.replace Table.mount
          [.int (int32 xid), literal src, literal dst, literal type, literal left])),
        some (.change (.delete table (selection table none))), some .query] := by
  let pieces : List Piece :=
    [.chars (cstr "INSERT OR REPLACE INTO mount (xid, src, dst, type, opts) VALUES ("),
      xidPiece xid, .chars (cstr ", '"), .str src, .chars (cstr "', '"), .str dst,
      .chars (cstr "', '"), .str type, .chars (cstr "', '"), .str left,
      .chars (cstr "'); DELETE FROM "), .chars table.name, .chars (cstr "; SELECT ('"),
      .chars (cstr "')")]
  have same : render (sqlMountSet src dst type (erasing left table) xid) = render pieces := by
    simp [sqlMountSet, erasing, render, Piece.text, pieces]
  rw [same]
  refine commands_of_read ?_ ?_
  · simpa [pieces, xidPiece, Piece.Closed, QuoteClosed] using
      ⟨srcClosed, dstClosed, typeClosed, leftClosed⟩
  · cases table <;> rfl

theorem execText_erasing {text : Str} {row : Row} (db : Vxdb)
    (known : commands vxdbSchema text = [some (.change (.replace Table.mount row)),
      some (.change (.delete table (selection table none))), some .query]) :
    (execText db text).1 = (db.replace Table.mount row).delete table fun _ => true := by
  unfold execText
  rw [known]
  rfl

theorem framed_erased_iff (db : Vxdb) (xid : Int) (rest : List Value)
    (other : table ≠ .mount ∧ table ≠ .vcd) :
    Effect (framed .mount xid) (framed .mount xid) db
        ((db.replace Table.mount (.int xid :: rest)).delete table fun _ => true) ↔
      db.rows table = [] := by
  constructor
  · intro effect
    rw [← effect.rows_eq fun row => by simp [framed, allOf, rowsOf, other.1, other.2],
      Database.rows_delete_same]
    simp
  · intro empty
    have own : Table.mount ∈ contextTables := by decide
    have replaced : Effect (framed .mount xid) (framed .mount xid) db
        (db.replace Table.mount (.int xid :: rest)) :=
      (Effect.replace db (stays_replace own xid rest)).mono
        (fun table row touched => by simp [framed, touched])
        fun table row added => by simp [framed, added]
    refine replaced.trans (Effect.iff_kept.mpr fun any => ?_)
    by_cases same : any = table
    · rw [same, Database.rows_delete_same, db.rows_replace_other other.1, empty]
      rfl
    · rw [Database.rows_delete_other _ same]

/-- A mount whose options erase another table stays in its frame exactly if that table is
empty. -/
theorem framed_erasing_iff {world : World} {left : Str}
    (method : request.method = cstr "vxdb.mount.set") (named : request.text (cstr "name") = .ok name)
    (denotes : Denotes world.db name xid) (ranged : int32 xid = xid)
    (opts : request.text (cstr "opts") = .ok (erasing left table)) (leftClosed : QuoteClosed left)
    (closed : request.ClosedOn [cstr "src", cstr "dst", cstr "type"])
    (other : table ≠ .mount ∧ table ≠ .vcd) (reaches : ¬ RefusedFirst setup request world) :
    Framed setup request world .mount xid ↔ world.db.rows table = [] := by
  have listed : (request.method, Table.mount) ∈ pastingMethods := by simp [pastingMethods, method]
  obtain ⟨sql, pastes⟩ := not_forall_not.mp reaches
  have run := run_pastes listed pastes
  obtain ⟨given, pieces, executes, rfl⟩ := pastes
  have read := executes.read
  have reader : (pastingReader request.method).2 = mountSetRequest := by
    rw [method]
    rfl
  rw [reader] at read
  simp only [mountSetRequest, bind_eq_ok, refuse_bind, ite_error_eq_ok, pure_eq_ok,
    Prod.mk.injEq] at read
  obtain ⟨_, givenEq, src, srcEq, dst, dstEq, type, typeEq, _, optsEq, -, -, rfl, rfl⟩ := read
  obtain rfl := Except.ok.inj (opts.symm.trans optsEq)
  obtain rfl := Except.ok.inj (named.symm.trans givenEq)
  have pasted : methodEmptyParam (erasing left table) = some (erasing left table) := by
    have letter : strIsempty (erasing left table) = false := by
      simp [strIsempty, erasing, cstr]
    simp [methodEmptyParam, letter]
  have valid : validateName name = true := by
    by_contra invalid
    exact executes.found (by simp [xidIn, invalid])
  have srcClosed : QuoteClosed ((methodEmptyParam src).getD (cstr "none")) :=
    closed_getD (closed _ (by simp) _ srcEq) (by decide)
  have typeClosed : QuoteClosed ((methodEmptyParam type).getD (cstr "auto")) :=
    closed_getD (closed _ (by simp) _ typeEq) (by decide)
  have erased := commands_erasing srcClosed (closed _ (by simp) _ dstEq) typeClosed leftClosed
    table (xidIn world.db.oracle name)
  rw [denotes.xidIn valid, int32_uint32, ranged] at erased
  rw [pasted, Option.getD_some, denotes.xidIn valid, execText_erasing _ erased] at run
  have counts := framed_counted .mount xid world.db
  unfold Framed
  rw [run, ← rows_counted world.db other.2, ← framed_erased_iff _ xid _ other]
  exact ⟨counts.symm.trans, counts.trans⟩

/-- A virtual server in a fresh database. -/
def oneServer : Vxdb :=
  (freshVxdb 0).replace Table.xidNameMap [.int 5, .str (cstr "web")]

/-- Mount options that end their literal and delete all users. -/
def mountInjection : Request :=
  adminRequest (cstr "vxdb.mount.set") (cstr "web")
    [(cstr "src", .str (cstr "none")), (cstr "dst", .str (cstr "/mnt")),
      (cstr "type", .str (cstr "tmpfs")),
      (cstr "opts", .str (cstr "x'); DELETE FROM user; SELECT ('"))]

theorem oneServer_denotes : Denotes oneServer (cstr "web") 5 :=
  ⟨[.int 5, .str (cstr "web")], by decide, by decide, by decide⟩

/-- Mount options with a quote that is doubled, and a mount of another server. -/
def mountQuoted : Request :=
  adminRequest (cstr "vxdb.mount.set") (cstr "web")
    [(cstr "src", .str (cstr "/dev/hdv1")), (cstr "dst", .str (cstr "/mnt")),
      (cstr "type", .str (cstr "ext3")), (cstr "opts", .str (cstr "ro,label=web''s"))]

def mountedServer : Vxdb :=
  oneServer.replace Table.mount [.int 6, .str (cstr "none"), .str (cstr "/mnt"),
    .str (cstr "tmpfs"), .str (cstr "defaults")]

theorem mountedServer_denotes : Denotes mountedServer (cstr "web") 5 :=
  ⟨[.int 5, .str (cstr "web")], by decide, by decide, by decide⟩

theorem mountQuoted_closed : mountQuoted.Closed := by
  intro key listed text known
  change key ∈ [cstr "src", cstr "dst", cstr "type", cstr "opts"] at listed
  simp only [List.mem_cons, List.not_mem_nil, or_false] at listed
  rcases listed with rfl | rfl | rfl | rfl
  · obtain rfl := Except.ok.inj known
    exact closed_of_quoteFree (by decide)
  · obtain rfl := Except.ok.inj known
    exact closed_of_quoteFree (by decide)
  · obtain rfl := Except.ok.inj known
    exact closed_of_quoteFree (by decide)
  · obtain rfl := Except.ok.inj known
    rfl

theorem config_framed_mount :
    (Framed plainSetup mountQuoted (World.boot mountedServer idleKernel) .mount 5 ∧
      ∀ sql, Pastes plainSetup mountQuoted (World.boot mountedServer idleKernel) sql →
        (Framed plainSetup mountQuoted (World.boot mountedServer idleKernel) .mount 5 ↔
          Effect (framed .mount 5) (framed .mount 5) (counted mountedServer)
            (execText (counted mountedServer) sql).1)) ∧
      ((handle plainSetup mountQuoted).run machine 0
        (World.boot mountedServer idleKernel)).state.db.rows Table.mount =
          mountedServer.rows Table.mount ++ [[.int 5, .str (cstr "/dev/hdv1"), .str (cstr "/mnt"),
            .str (cstr "ext3"), .str (cstr "ro,label=web's")]] := by
  have framed := config_framed plainSetup mountQuoted (World.boot mountedServer idleKernel) .mount
    (cstr "web") 5 (by decide) (by rfl) mountedServer_denotes (by decide)
  exact ⟨⟨framed.1 (.inl mountQuoted_closed), framed.2⟩, by decide +kernel⟩

/-- Unchecked options reach the table of users. -/
theorem config_framed_injection : ¬ ∀ (setup : Setup) (request : Request) (world : World)
    (table : Table) (name : Str) (xid : Int), (request.method, table) ∈ pastingMethods →
      request.text (cstr "name") = .ok name → Denotes world.db name xid → int32 xid = xid →
        Framed setup request world table xid := by
  intro stays
  have effect := stays plainSetup mountInjection (World.boot oneServer idleKernel) .mount
    (cstr "web") 5 (by decide) (by rfl) oneServer_denotes (by decide)
  have same : ((handle plainSetup mountInjection).run machine 0
      (World.boot oneServer idleKernel)).state.db.rows Table.user = oneServer.rows Table.user :=
    effect.rows_eq fun row => rfl
  exact absurd same (by decide +kernel)

end Vcd
