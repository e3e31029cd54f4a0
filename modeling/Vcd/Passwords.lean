import Vcd.Accounts
import Vcd.HalfDone

/-!
# Passwords

Three programs turn a password into what is stored or compared: the login check,
`vcd.user.set` and `vxpasswd`. The first two take what follows a certain prefix as it is,
without a look at the quotes in it; the third one does not know the prefix.
-/

namespace Vcd

open Sql Process

variable {request : Request} {host : Host} {user pass hash : Str} {α β : Type}
  {db after : Vxdb} {world next : World}

/-! ## vxpasswd -/

/-- The arguments of `vxpasswd`; the password may be left out. -/
structure PasswdArgs where
  vxdbfile : Str
  username : Str
  password : Option Str

/-- `log_error_and_die`. -/
def logErrorAndDie {α : Type} (message : List Piece) : Method α :=
  .fail (.code 1 (render message))

def sqlPasswd (password username : Str) : List Piece :=
  [.chars (cstr "UPDATE user SET password = '"), .str password,
    .chars (cstr "' WHERE name = '"), .str username, .chars (cstr "'")]

/-- The program `vxpasswd` on the database it opened. A password that is not an argument is
typed twice. -/
def vxpasswd (host : Host) (args : PasswdArgs) (typed repeated : Str) : Method Unit := do
  if strIsempty args.vxdbfile then logErrorAndDie [.chars (cstr "invalid vxdbfile")]
  if strIsempty args.username || !strIsalnum args.username then
    logErrorAndDie [.chars (cstr "invalid username: "), .str args.username]
  if args.password.isNone && typed ≠ repeated then
    logErrorAndDie [.chars (cstr "passwords don't match!")]
  let password := args.password.getD typed
  if password.length < 8 then
    logErrorAndDie [.chars (cstr "password too short: "), .str args.username]
  let outcome ← vxdbExec (sqlPasswd (host.whirlpoolDigest password) args.username)
  if !outcome.ok then vxdbFault (cstr "vxpasswd")
  if outcome.changes < 1 then
    logErrorAndDie [.chars (cstr "no such user: "), .str args.username]

/-! ## The login check -/

/-- The hash the login check compares a password with. -/
def secretOf (host : Host) (pass : Str) : Str :=
  valueOf (whirlpoolPass host pass)

/-- What follows the prefix stays inside a literal. -/
def Readable (pass : Str) : Prop :=
  pass.take 14 = whirlpoolPrefix → QuoteClosed (pass.drop 14)

theorem Readable.closed (readable : Readable pass) (host : Host) :
    QuoteClosed (whirlpoolPass host pass) := by
  unfold whirlpoolPass
  split
  next encoded => exact readable encoded
  next => exact closed_of_quoteFree (quoteFree_digest host pass)

/-- The login check accepts a readable password exactly if it is not blank and the user has its
hash. -/
theorem accepts_iff (valid : validateUsername user = true) (readable : Readable pass)
    (host : Host) (world : World) :
    ends (authIsvalid host user pass) world = (.returned true, world) ↔
      strIsempty pass = false ∧ Authenticates world.db user (secretOf host pass) := by
  have ended := ends_lookup (lookup_authIsvalid host user pass)
    (answer_authIsvalid world.db.oracle host user pass) Pure.pure
  rw [bind_pure, ends_pure] at ended
  rw [ended]
  simp only [Prod.mk.injEq, Outcome.returned.injEq, and_true]
  rw [validIn, valid, Bool.true_and, Bool.and_eq_true, Bool.not_eq_true']
  exact and_congr_right fun _ =>
    firstRow_sqlIsvalid_closed (quoteFree_of_validateUsername valid) (readable.closed host)

/-! ## What the statements store -/

/-- A user's row with another password. -/
def withPassword (row : Row) (secret : Str) : Row :=
  [Table.user.cell row (cstr "uid"), Table.user.cell row (cstr "name"), .str secret,
    Table.user.cell row (cstr "admin")]

/-- What setting the password of selected users does. -/
theorem execText_setPassword {pieces : List Piece} {selected : Row → Bool} {secret : Str}
    (closed : ∀ piece ∈ pieces, piece.Closed)
    (read : readCommands pieces = some [some (.change (.update Table.user (fun _ => selected)
      (setUser (cstr "password") (.str secret))))]) (db : Vxdb) :
    (execText db (render pieces)).2.changes = ((db.rows Table.user).filter selected).length ∧
      (execText db (render pieces)).1.rows Table.user = (db.rows Table.user).map fun row =>
        if selected row then withPassword row secret else row := by
  obtain ⟨next, updated⟩ := update_user_succeeds db selected (.str secret) (.inr rfl)
  have known := commands_of_read closed read
  refine ⟨changes_execText_single known updated, ?_⟩
  rw [(execText_single known).1]
  change ((db.update Table.user selected _).getD db).rows Table.user = _
  rw [updated]
  exact Database.rows_update_same updated

theorem execText_sqlPasswd (userFree : QuoteFree user) (free : QuoteFree hash) (db : Vxdb) :
    (execText db (render (sqlPasswd hash user))).2.changes =
        ((db.rows Table.user).filter fun row =>
          (Table.user.cell row (cstr "name")).same (.str user)).length ∧
      (execText db (render (sqlPasswd hash user))).1.rows Table.user =
        (db.rows Table.user).map fun row =>
          if (Table.user.cell row (cstr "name")).same (.str user) then withPassword row hash
          else row := by
  have read : readCommands (sqlPasswd hash user) = some [some (.change (.update Table.user
      (fun _ row => (Table.user.cell row (cstr "name")).same (.str (valueOf user)))
      (setUser (cstr "password") (.str (valueOf hash)))))] := by
    rfl
  rw [valueOf_quoteFree userFree, valueOf_quoteFree free] at read
  refine execText_setPassword ?_ read db
  simp [sqlPasswd, Piece.Closed, unquote_of_quoteFree userFree, unquote_of_quoteFree free]

theorem rows_sqlUserPassword (closed : QuoteClosed hash) (uid : Int) (db : Vxdb) :
    (execText db (render (sqlUserPassword uid hash))).1.rows Table.user =
      (db.rows Table.user).map fun row =>
        if byId (cstr "uid") uid .user row then withPassword row (valueOf hash) else row := by
  have read : readCommands (sqlUserPassword uid hash) = some [some (.change (.update Table.user
      (fun _ => byId (cstr "uid") uid .user) (setUser (cstr "password") (.str (valueOf hash)))))] := by
    rfl
  refine (execText_setPassword ?_ read db).2
  simpa [sqlUserPassword, Piece.Closed, QuoteClosed] using closed

theorem runs_sqlUserInsert (userFree : QuoteFree user) (closed : QuoteClosed hash)
    (uid admin : Int) : Runs (render (sqlUserInsert uid user hash admin))
      ([.insert Table.user [.int uid, .str user, .str (valueOf hash), .int admin]] :
        List Change) := by
  have read : readCommands (sqlUserInsert uid user hash admin) = some [some (.change
      (.insert Table.user [.int uid, .str (valueOf user), .str (valueOf hash), .int admin]))] := by
    rfl
  rw [valueOf_quoteFree userFree] at read
  refine runs_of_read ?_ read
  simpa [sqlUserInsert, Piece.Closed, unquote_of_quoteFree userFree, QuoteClosed] using closed

/-! ## Stored passwords -/

/-- How a password gets into the database. -/
inductive Route where
  | vxpasswd | userSet

/-- The password was stored for the user, by a program that reported success. -/
def Stored (setup : Setup) (user pass : Str) (world next : World) : Route → Prop
  | .vxpasswd => ∃ args typed repeated, args.username = user ∧
      args.password.getD typed = pass ∧
      ends (vxpasswd setup.host args typed repeated) world = (.returned (), next)
  | .userSet => ∃ request answer, request.method = cstr "vcd.user.set" ∧
      request.text (cstr "username") = .ok user ∧ request.text (cstr "password") = .ok pass ∧
      ends (handle setup request) world = (.returned answer, next)

/-- The user's row is the one with the id the user is found by. -/
def Numbered (db : Vxdb) (user : Str) : Prop :=
  ∀ row ∈ db.rows Table.user, Table.user.cell row (cstr "name") = .str user →
    Table.user.cell row (cstr "uid") = .int (uidIn db.oracle user)

/-- The password is not blank, and what is stored for it is what the login check compares
with. -/
def Faithful (host : Host) (db : Vxdb) (user pass : Str) : Route → Prop
  | .vxpasswd => strIsempty pass = false ∧ (pass.take 14 = whirlpoolPrefix →
      unquote (pass.drop 14) = some (host.whirlpoolDigest pass))
  | .userSet => strIsempty pass = false ∧ Readable pass ∧
      (Numbered db user ∨ Authenticates db user (secretOf host pass))

theorem Faithful.readable {route : Route} (faithful : Faithful host db user pass route) :
    Readable pass := by
  cases route with
  | vxpasswd =>
      intro encoded
      unfold QuoteClosed
      rw [faithful.2 encoded]
      rfl
  | userSet => exact faithful.2.1

theorem secretOf_eq_iff (readable : Readable pass) (host : Host) :
    secretOf host pass = host.whirlpoolDigest pass ↔ (pass.take 14 = whirlpoolPrefix →
      unquote (pass.drop 14) = some (host.whirlpoolDigest pass)) := by
  unfold secretOf whirlpoolPass
  split
  next encoded =>
    rw [imp_iff_right encoded]
    obtain ⟨value, known⟩ := Option.isSome_iff_exists.mp (readable encoded)
    rw [valueOf, known, Option.getD_some, Option.some.injEq]
  next plain => exact iff_of_true (valueOf_quoteFree (quoteFree_digest host pass)) fun encoded => absurd encoded plain

/-- What `vxpasswd` leaves when it returns. -/
theorem returned_vxpasswd {args : PasswdArgs} {typed repeated : Str}
    (ended : ends (vxpasswd host args typed repeated) world = (.returned (), next)) :
    (∃ row ∈ world.db.rows Table.user, Table.user.cell row (cstr "name") = .str args.username) ∧
      next.db.rows Table.user = (world.db.rows Table.user).map fun row =>
        if (Table.user.cell row (cstr "name")).same (.str args.username) then
          withPassword row (host.whirlpoolDigest (args.password.getD typed))
        else row := by
  obtain ⟨-, ended⟩ := returned_check ended
  obtain ⟨accepted, ended⟩ := returned_check ended
  obtain ⟨-, ended⟩ := returned_check ended
  obtain ⟨-, ended⟩ := returned_check ended
  rw [ends_exec] at ended
  obtain ⟨-, ended⟩ := returned_check ended
  have valid : validateUsername args.username = true := by
    unfold validateUsername
    rw [Bool.eq_false_iff.mpr accepted]
    rfl
  obtain ⟨changes, rows⟩ := execText_sqlPasswd (quoteFree_of_validateUsername valid)
    (quoteFree_digest host (args.password.getD typed)) world.db
  split at ended
  next => cases ended
  next found =>
    obtain rfl := (Prod.mk.inj ended).2
    refine ⟨?_, rows⟩
    rw [changes, Nat.not_lt, Nat.one_le_iff_ne_zero, ← Nat.pos_iff_ne_zero,
      List.length_pos_iff_exists_mem] at found
    obtain ⟨row, mem⟩ := found
    obtain ⟨mem, named⟩ := List.mem_filter.mp mem
    exact ⟨row, mem, (Value.same_str_right _ _).mp named⟩

/-- A password that `vxpasswd` stored is accepted exactly if its digest is what the login check
compares with. -/
theorem vxpasswd_authenticates_iff {args : PasswdArgs} {typed repeated secret : Str}
    (ended : ends (vxpasswd host args typed repeated) world = (.returned (), next)) :
    Authenticates next.db args.username secret ↔
      secret = host.whirlpoolDigest (args.password.getD typed) := by
  obtain ⟨⟨row, mem, named⟩, rows⟩ := returned_vxpasswd ended
  unfold Authenticates
  rw [rows]
  constructor
  · rintro ⟨stored, storedMem, storedName, storedSecret⟩
    obtain ⟨old, -, rfl⟩ := List.mem_map.mp storedMem
    split at storedSecret
    next => exact (Value.str.inj storedSecret).symm
    next other =>
      rw [if_neg other] at storedName
      exact absurd ((Value.same_str_right _ _).mpr storedName) other
  · rintro rfl
    refine ⟨_, List.mem_map_of_mem mem, ?_⟩
    rw [if_pos ((Value.same_str_right _ _).mpr named)]
    exact ⟨named, rfl⟩

/-- A user that is not found by name but can be inserted has no row. -/
theorem numbered_of_inserted {row : Row} (inserted : db.insert Table.user row = some after)
    (named : Table.user.cell row (cstr "name") = .str user) : Numbered db user := by
  intro other mem otherName
  have apart := (insert_isSome_iff db Table.user row).mp (inserted ▸ rfl) other mem
  refine absurd ((vxdbSchema.conflict_iff).mpr ⟨[cstr "name"], by decide, ?_⟩)
    (Bool.eq_false_iff.mp apart)
  intro column listed
  obtain rfl := List.mem_singleton.mp listed
  change (Table.user.cell other (cstr "name")).same (Table.user.cell row (cstr "name")) = true
  rw [otherName, named]
  exact Value.same_self nofun

theorem authenticates_inserted {uid admin : Int} {secret : Str}
    (inserted : db.insert Table.user [.int uid, .str user, .str secret, .int admin] = some after) :
    Authenticates after user secret := by
  unfold Authenticates
  rw [Database.rows_insert_same inserted]
  exact ⟨_, List.mem_append_right _ (List.mem_singleton_self _), rfl, rfl⟩

/-- Setting flag and password by id gives the user the password exactly if the user's row has
the id, or had the password before. -/
theorem authenticates_updated_iff {uid admin : Int} {secret : Str}
    (rows : after.rows Table.user = ((db.rows Table.user).map fun row =>
      if byId (cstr "uid") uid .user row then withAdmin row admin else row).map fun row =>
        if byId (cstr "uid") uid .user row then withPassword row secret else row) :
    Authenticates after user secret ↔
      (∃ row ∈ db.rows Table.user, Table.user.cell row (cstr "name") = .str user ∧
        byId (cstr "uid") uid .user row = true) ∨ Authenticates db user secret := by
  have cells (row : Row) (chosen : byId (cstr "uid") uid .user row = true) :
      byId (cstr "uid") uid .user (withAdmin row admin) = true :=
    chosen
  unfold Authenticates
  rw [rows, List.map_map]
  constructor
  · rintro ⟨stored, mem, named, known⟩
    obtain ⟨old, oldMem, rfl⟩ := List.mem_map.mp mem
    rw [Function.comp_apply] at named known
    cases chosen : byId (cstr "uid") uid .user old with
    | true =>
        rw [if_pos chosen, if_pos (cells old chosen)] at named
        exact .inl ⟨old, oldMem, named, chosen⟩
    | false =>
        simp only [chosen, Bool.false_eq_true, if_false] at named known
        exact .inr ⟨old, oldMem, named, known⟩
  · rintro (⟨old, oldMem, named, chosen⟩ | ⟨old, oldMem, named, known⟩)
    · refine ⟨_, List.mem_map_of_mem oldMem, ?_⟩
      rw [Function.comp_apply, if_pos chosen, if_pos (cells old chosen)]
      exact ⟨named, rfl⟩
    · refine ⟨_, List.mem_map_of_mem oldMem, ?_⟩
      rw [Function.comp_apply]
      cases chosen : byId (cstr "uid") uid .user old with
      | true =>
          rw [if_pos rfl, if_pos (cells old chosen)]
          exact ⟨named, rfl⟩
      | false =>
          simp only [chosen, Bool.false_eq_true, if_false]
          exact ⟨named, known⟩

/-- There is a row with the id a name stands for exactly if that is the row of the name. -/
theorem numbered_iff (found : uidIn db.oracle user ≠ 0) :
    (∃ row ∈ db.rows Table.user, Table.user.cell row (cstr "name") = .str user ∧
      byId (cstr "uid") (uidIn db.oracle user) .user row = true) ↔ Numbered db user := by
  constructor
  · rintro ⟨row, mem, named, chosen⟩ other otherMem otherName
    obtain rfl : other = row := eq_of_index (by decide : [cstr "name"] ∈ Table.user.unique)
      otherMem mem fun column listed => by
        obtain rfl := List.mem_singleton.mp listed
        rw [otherName, named]
        exact Value.same_self nofun
    exact (Value.same_int_right _ _).mp chosen
  · intro numbered
    obtain ⟨-, row, mem, named⟩ := mem_of_uidIn found
    exact ⟨row, mem, named, (Value.same_int_right _ _).mpr (numbered row mem named)⟩

/-- A password that `vcd.user.set` stored is accepted exactly if it was stored in the row of the
user, or was there before. -/
theorem userSet_authenticates_iff (readable : Readable pass) (given : strIsempty pass = false) {answer : Xml}
    (userEq : request.text (cstr "username") = .ok user)
    (passEq : request.text (cstr "password") = .ok pass)
    (ended : ends (mVcdUserSet host (.client request.credentials request.params)) world =
      (.returned answer, next)) :
    Authenticates next.db user (secretOf host pass) ↔
      Numbered world.db user ∨ Authenticates world.db user (secretOf host pass) := by
  have closed := readable.closed host
  obtain ⟨start, same, ended⟩ := returned_methodInit ended
  obtain ⟨_, equal, ended⟩ := returned_ofExcept ended
  cases userEq.symm.trans equal
  obtain ⟨_, equal, ended⟩ := returned_ofExcept ended
  cases passEq.symm.trans equal
  obtain ⟨admin, -, ended⟩ := returned_ofExcept ended
  have some : methodEmptyParam pass = some pass := by simp [methodEmptyParam, given]
  rw [some] at ended
  obtain ⟨valid, ended⟩ := returned_check ended
  rw [Bool.not_eq_true', Bool.not_eq_false] at valid
  have free := quoteFree_of_validateUsername valid
  have lookedUp := uidIn_of_rows (same Table.user (by decide)) user
  rw [ends_lookup (lookup_authGetuid user) (answer_authGetuid _ user), lookedUp] at ended
  by_cases found : uidIn world.db.oracle user = 0
  · rw [if_pos found] at ended
    obtain ⟨-, ended⟩ := returned_check ended
    rw [ends_lookup lookup_authGetnextuid (answer_authGetnextuid _), ends_exec,
      Option.getD_some] at ended
    obtain ⟨succeeded, ended⟩ := returned_check ended
    rw [Bool.not_eq_true', Bool.not_eq_false] at succeeded
    have inserted := (runs_sqlUserInsert free closed _ admin.toInt).succeeded succeeded
    rw [applyAll_singleton] at inserted
    have last := congrArg World.db (returned_pure ended)
    dsimp only at last
    rw [last] at inserted
    refine iff_of_true (authenticates_inserted inserted) (.inl ?_)
    have fresh : Numbered start.db user := numbered_of_inserted inserted rfl
    intro row mem named
    rw [← same Table.user (by decide)] at mem
    exact (fresh row mem named).trans (congrArg Value.int lookedUp)
  · rw [if_neg found, ends_exec] at ended
    obtain ⟨-, rows⟩ := execText_sqlUserAdmin start.db (uidIn world.db.oracle user) admin.toInt
    obtain ⟨-, ended⟩ := returned_check ended
    obtain ⟨-, ended⟩ := returned_check ended
    rw [ends_exec] at ended
    obtain ⟨-, ended⟩ := returned_check ended
    have last := congrArg World.db (returned_pure ended)
    dsimp only at last
    rw [← numbered_iff found]
    refine @authenticates_updated_iff user _ _ _ admin.toInt _ ?_
    rw [← last, rows_sqlUserPassword closed, rows, if_pos rfl,
      same Table.user (by decide)]
    rfl

/-- The ids that clean requests hand out are such. -/
theorem Accounted.numbered (accounted : Accounted db) (valid : validateUsername user = true) :
    Numbered db user := by
  intro row mem named
  obtain ⟨id, known, small⟩ := accounted.users row mem
  rw [uidIn_of_mem valid mem named, known]
  exact congrArg Value.int small.symm

/-- The login check accepts a password that was stored if it keeps the conditions of the way it
was stored, and only then if what follows the prefix stays inside a literal. -/
theorem stored_password_accepted (setup : Setup) (user pass : Str)
    (valid : validateUsername user = true) (route : Route) (world next : World)
    (stored : Stored setup user pass world next route) :
    (Faithful setup.host world.db user pass route →
        ends (authIsvalid setup.host user pass) next = (.returned true, next)) ∧
      (Readable pass → ends (authIsvalid setup.host user pass) next = (.returned true, next) →
        Faithful setup.host world.db user pass route) := by
  have exact_ (readable : Readable pass) :
      ends (authIsvalid setup.host user pass) next = (.returned true, next) ↔
        Faithful setup.host world.db user pass route := by
    rw [accepts_iff valid readable setup.host]
    cases route with
    | vxpasswd =>
        obtain ⟨args, typed, repeated, rfl, rfl, ended⟩ := stored
        rw [vxpasswd_authenticates_iff ended, secretOf_eq_iff readable setup.host]
        rfl
    | userSet =>
        obtain ⟨request, answer, method, userEq, passEq, ended⟩ := stored
        have handler : handle setup request =
            mVcdUserSet setup.host (.client request.credentials request.params) := by
          rw [handle, method]
          rfl
        rw [handler] at ended
        refine and_congr_right fun given => ?_
        rw [userSet_authenticates_iff readable given userEq passEq ended]
        exact (and_iff_right readable).symm
  exact ⟨fun faithful => (exact_ faithful.readable).mpr faithful,
    fun readable => (exact_ readable).mp⟩

/-- The digests of the two passwords of the examples. -/
def whirlpoolExamples (pass : Str) : Str :=
  if pass = cstr "password" then
    cstr "74dfc2b27acfa364da55f93a5caee29ccad3557247eda238831b3e9bd931b01d" ++
      cstr "77fe994e4f12b9d4cfa92a124461d2065197d8cf7f33fc88566da2db2a4d6eae"
  else
    cstr "0a8377a4edef5dec2a6fdf920a6b69a8ebed735b3dda749b4c25ed3f1cb50aa1" ++
      cstr "fb97fc5bcb8df9f23e95afc2206c60299e1024deb8ad58237b518314da232f4f"

def digestSetup : Setup where
  host := { (default : Host) with
    whirlpoolDigest := whirlpoolExamples
    digest_hex := fun pass => by
      unfold whirlpoolExamples
      split
      · decide
      · decide }
  templates := fun _ => .fileError

/-- The administrator's password is set from the command line. -/
def adminArgs (pass : Str) : PasswdArgs where
  vxdbfile := cstr "vxdb"
  username := cstr "admin"
  password := some pass

/-- The world after the administrator's password is set. -/
def afterPasswd (pass : Str) : World :=
  (ends (vxpasswd digestSetup.host (adminArgs pass) [] []) (World.boot (freshVxdb 0) idleKernel)).2

theorem stored_passwd {pass : Str} (returned : returns (vxpasswd digestSetup.host (adminArgs pass) [] [])
      (World.boot (freshVxdb 0) idleKernel) = true) :
    Stored digestSetup (cstr "admin") pass (World.boot (freshVxdb 0) idleKernel) (afterPasswd pass)
      .vxpasswd := by
  obtain ⟨_, ended⟩ := exists_returned returned
  exact ⟨adminArgs pass, [], [], rfl, rfl, ended⟩

theorem stored_password_accepted_passwd :
    (Faithful digestSetup.host (freshVxdb 0) (cstr "admin") (cstr "password") .vxpasswd →
        ends (authIsvalid digestSetup.host (cstr "admin") (cstr "password"))
          (afterPasswd (cstr "password")) = (.returned true, afterPasswd (cstr "password"))) ∧
      (Readable (cstr "password") →
        ends (authIsvalid digestSetup.host (cstr "admin") (cstr "password"))
          (afterPasswd (cstr "password")) = (.returned true, afterPasswd (cstr "password")) →
        Faithful digestSetup.host (freshVxdb 0) (cstr "admin") (cstr "password") .vxpasswd) :=
  stored_password_accepted digestSetup (cstr "admin") (cstr "password") (by decide)
    .vxpasswd (World.boot (freshVxdb 0) idleKernel) (afterPasswd (cstr "password"))
    (stored_passwd (by decide +kernel))

/-- The check of a password did not refuse it. -/
def unrefused : Process.Outcome Fault Bool → Bool
  | .returned valid => valid
  | _ => true

/-- A password with the prefix locks the administrator out. -/
theorem stored_password_rejected : ¬ ∀ (setup : Setup) (user pass : Str),
    validateUsername user = true → 8 ≤ pass.length → ∀ (route : Route) (world next : World),
      Stored setup user pass world next route →
        ends (authIsvalid setup.host user pass) next = (.returned true, next) := by
  intro all
  have accepts := all digestSetup (cstr "admin") (cstr "WHIRLPOOLENC//secret")
    (by decide) (by decide) .vxpasswd _ _ (stored_passwd (by decide +kernel))
  have answer := congrArg (fun ended => unrefused ended.1) accepts
  exact absurd answer (by decide +kernel)

end Vcd
