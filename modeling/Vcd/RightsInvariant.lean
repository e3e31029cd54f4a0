import Vcd.Steps

/-!
# Only users with AUTH change rights

Users without the capability `AUTH` leave users and capabilities as they are, and take
ownerships away at most, as long as the directory a creation works in is clean.
-/

namespace Vcd

open Sql Process

/-! ## Unchanged rights -/

/-- Users and capabilities are the same, and no ownership is new. -/
structure RightsKept (first last : Vxdb) : Prop where
  users : last.rows Table.user = first.rows Table.user
  caps : last.rows Table.userCaps = first.rows Table.userCaps
  owners : last.rows Table.xidUidMap ⊆ first.rows Table.xidUidMap

namespace RightsKept

variable {first db last : Vxdb} {touched added : Region vxdbSchema}

theorem refl (db : Vxdb) : RightsKept db db :=
  ⟨rfl, rfl, List.Subset.refl _⟩

theorem trans (left : RightsKept first db) (right : RightsKept db last) :
    RightsKept first last :=
  ⟨right.users.trans left.users, right.caps.trans left.caps,
    List.Subset.trans right.owners left.owners⟩

/-- An effect away from users and capabilities that adds no ownership. -/
theorem of_effect (effect : Effect touched added db last)
    (users : ∀ row, touched Table.user row = false)
    (caps : ∀ row, touched Table.userCaps row = false)
    (owners : ∀ row, added Table.xidUidMap row = false) : RightsKept db last where
  users := effect.rows_eq users
  caps := effect.rows_eq caps
  owners row mem := (effect.fresh _ row mem).resolve_right (by simp [owners row])

/-- An effect on certain tables that are not about rights. -/
theorem of_tables {tables : List Table} {xid : Int}
    (effect : Effect (rowsOf tables xid) (rowsOf tables xid) db last)
    (apart : Table.user ∉ tables ∧ Table.userCaps ∉ tables ∧ Table.xidUidMap ∉ tables) :
    RightsKept db last :=
  .of_effect effect (fun row => by simp [rowsOf, apart.1]) (fun row => by simp [rowsOf, apart.2.1])
    fun row => by simp [rowsOf, apart.2.2]

end RightsKept

/-! ## Requests without AUTH -/

/-- A clean request of a user without `AUTH`. -/
structure Unprivileged (templates : Templates) (request : Request) (world : World) : Prop where
  lacks : ∀ user, request.user = .ok user →
    ¬ Granted world.db (uidIn world.db.oracle user) (cstr "AUTH")
  clean : request.Clean
  credentials : ∀ key text, request.credentials.getStr key = .ok text → CleanText text
  templates : templates.Clean

variable {setup : Setup} {request : Request} {world : World} {past : Past} {db : Vxdb}

/-- Whoever was found to have a capability has it, if rights never changed. -/
theorem Capable.granted {first : Vxdb} {inv : Vxdb → Prop} {user cap : Str}
    (capable : Capable past user cap) (explained : Explained first inv past db)
    (free : QuoteFree cap)
    (kept : ∀ db, inv db → db.rows Table.user = first.rows Table.user ∧
      db.rows Table.userCaps = first.rows Table.userCaps) :
    Granted first (uidIn first.oracle user) cap := by
  obtain ⟨uid, ⟨valid, -, uidReply, uidRow, uidAsked, uidFirst, uidRead⟩, capReply, capAsked,
    some⟩ := capable
  obtain ⟨uidDb, uidInv, uidAnswer⟩ := explained.answered _ _ uidAsked
  obtain ⟨capDb, capInv, capAnswer⟩ := explained.answered _ _ capAsked
  have known : uidIn first.oracle user = uid := by
    rw [← uidIn_of_rows (kept uidDb uidInv).1, uidIn, valid]
    simp only [if_true]
    rw [show uidDb.oracle (render (sqlGetuid user)) = uidReply from uidAnswer, uidFirst]
    exact uidRead
  rw [known, ← granted_of_rows (kept capDb capInv).2, ← firstRow_sqlHascapability uid free]
  rwa [show capDb.oracle (render (sqlHascapability uid cap)) = capReply from capAnswer]

/-- Without `AUTH`, every text a request executes keeps all rights. -/
theorem kept_rights (unprivileged : Unprivileged setup.templates request world)
    (target : CleanTarget setup.host request world.db) :
    Kept setup request world.db (RightsKept world.db) := by
  intro past db sql explained permitted
  rcases permitted with tallying | ⟨kind, known, write⟩
  · have counts := tallying.counts
    have kept : RightsKept db (execText db sql).1 :=
      .of_effect (counts.effect db) (fun row => by rfl) (fun row => by rfl) fun row => by rfl
    exact ⟨explained.holds.trans kept, counts.failed db⟩
  cases write with
  | config user name xid _ _ settling =>
      have confined := settling.confined unprivileged.clean.free.closed xid
      have apart : ∀ table ∈ configTables, Table.user ∉ [table] ∧ Table.userCaps ∉ [table] ∧
          Table.xidUidMap ∉ [table] := by decide
      have kept := RightsKept.of_tables (confined.effect db) (apart _ (writeKind_config known))
      exact ⟨explained.holds.trans kept, confined.failed db⟩
  | restart name given _ flagging =>
      have confined := flagging.confined (uint32 given)
      have kept := RightsKept.of_tables (confined.effect db) (by decide)
      exact ⟨explained.holds.trans kept, confined.failed db⟩
  | rights user write userEq capable =>
      refine absurd (capable.granted explained (by decide) fun db kept => ?_)
        (unprivileged.lacks user userEq)
      exact ⟨kept.users, kept.caps⟩
  | remove user name xid =>
      have confined := confined_remove xid
      have kept : RightsKept db (execText db (render (sqlVxRemove xid))).1 :=
        .of_effect (confined.effect db) (fun row => by rfl) (fun row => by rfl)
          fun row => by rfl
      exact ⟨explained.holds.trans kept, confined.failed db⟩
  | rename user name newname xid _ _ _ _ valid =>
      have confined := confined_rename (quoteFree_of_validateName valid) xid
      have kept : RightsKept db (execText db (render (sqlVxRename newname xid))).1 :=
        .of_tables (confined.effect db) (by decide)
      exact ⟨explained.holds.trans kept, confined.failed db⟩
  | create user name param vdir xid conf entries creating _ read assembled =>
      have clean := creating.clean explained (writeKind_create known) target
        unprivileged.templates read assembled
      have confined := confined_create setup.host clean xid
      have kept := RightsKept.of_tables (confined.effect db) (by decide)
      exact ⟨explained.holds.trans kept, confined.failed db⟩

/-- Requests of users without `AUTH` leave users and capabilities as they are and grant no
ownership, as long as the directories of all creations among them are clean. -/
theorem rights_invariant (host : Host) (first last : World)
    (serves : Serves host (fun templates request world =>
      Unprivileged templates request world ∧ CleanTarget host request world.db) first last) :
    RightsKept first.db last.db :=
  serves.invariant (.refl first.db) fun templates _ world allowed kept =>
    kept.trans (serve_keeps (@kept_rights ⟨host, templates⟩ _ world allowed.1 allowed.2)
      (.refl world.db))

/-- An owner with the capability `CREATE` whose virtual server records a directory that ends
its literal and deletes all users. -/
def injectedVdir : Vxdb :=
  (((((freshVxdb 0).replace Table.user
    [.int 3, .str (cstr "eve"), .str (cstr "*"), .int 0]).replace Table.userCaps
    [.int 3, .str (cstr "CREATE")]).replace Table.xidNameMap
    [.int 5, .str (cstr "web")]).replace Table.xidUidMap [.int 5, .int 3]).replace Table.vdir
    [.int 5, .str (cstr "/');DELETE FROM user;SELECT('")]

/-- The credentials of the owner. -/
def eveCredentials : Xml :=
  .struct [(cstr "username", .str (cstr "eve")),
    (cstr "password", .str (cstr "WHIRLPOOLENC//*"))]

/-- A rebuild in the recorded directory. -/
def rebuildRequest : Request where
  method := cstr "vx.create"
  credentials := eveCredentials
  params := .struct [(cstr "name", .str (cstr "web")), (cstr "template", .str (cstr "debian")),
    (cstr "force", .bool true), (cstr "copy", .bool false), (cstr "vdir", .str [])]

theorem unprivileged_eve {request : Request} (sender : request.credentials = eveCredentials)
    (clean : request.Clean) :
    Unprivileged (fun _ => .fileError) request (World.boot injectedVdir idleKernel) where
  lacks user known := by
    obtain rfl : cstr "eve" = user := by
      rw [Request.user, sender] at known
      exact Except.ok.inj known
    rintro ⟨row, mem, uid, cap⟩
    have all : ∀ row ∈ injectedVdir.rows Table.userCaps,
        ¬ (Table.userCaps.cell row (cstr "uid") = .int 3 ∧
          Table.userCaps.cell row (cstr "cap") = .str (cstr "AUTH")) := by decide
    have eve : uidIn injectedVdir.oracle (cstr "eve") = 3 := by decide +kernel
    exact all row mem ⟨eve ▸ uid, cap⟩
  clean
  credentials key text known := by
    rw [sender] at known
    exact texts_struct known (by decide)
  templates path conf known := by cases known

theorem unprivileged_rebuild : Unprivileged (fun _ => .fileError) rebuildRequest
    (World.boot injectedVdir idleKernel) :=
  unprivileged_eve rfl fun _ _ known => texts_struct known (by decide)

/-- The owner removes the virtual server. -/
def removeRequest : Request where
  method := cstr "vx.remove"
  credentials := eveCredentials
  params := .struct [(cstr "name", .str (cstr "web"))]

theorem rights_invariant_remove : RightsKept injectedVdir
    (serve plainSetup removeRequest (World.boot injectedVdir idleKernel)).db :=
  rights_invariant default (World.boot injectedVdir idleKernel) _
    (.step .refl (fun _ => .fileError) removeRequest
      ⟨unprivileged_eve rfl fun _ _ known => texts_struct known (by decide), nofun⟩)

/-- A recorded directory reaches the table of users. -/
theorem rights_injection : ¬ ∀ (host : Host) (first last : World),
    Serves host Unprivileged first last → RightsKept first.db last.db := by
  intro kept
  have users := (kept default (World.boot injectedVdir idleKernel) _
    (.step .refl (fun _ => .fileError) rebuildRequest unprivileged_rebuild)).users
  exact absurd users (by decide +kernel)

end Vcd
