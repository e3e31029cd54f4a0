import Vcd.Refusals

/-!
# Requests that are half done

`vcd.user.set` changes the flag of an existing user before it looks at the new password, and
`vg.add` creates the group before it looks at the member. Apart from these two cases a
refused request changes nothing.
-/

namespace Vcd

open Sql Process

variable {setup : Setup} {request : Request} {α β : Type} {base : Vxdb} {world : World}

/-! ## Refusals on the way -/

/-- If the program fails, the tables are those of the database it is compared with. -/
def RefusesTo (base : Vxdb) (program : Method α) (world : World) : Prop :=
  ∀ fault after, ends program world = (.failed fault, after) → SameRows base after.db

namespace RefusesTo

theorem of_returned {program : Method α} {value : α} {after : World}
    (ended : ends program world = (.returned value, after)) : RefusesTo base program world := by
  intro fault other failed
  rw [ended] at failed
  cases failed

theorem pure (value : α) : RefusesTo base (Pure.pure value) world :=
  of_returned (ends_pure value world)

theorem failed_iff {fault : Fault} :
    RefusesTo base (.fail fault : Method α) world ↔ SameRows base world.db := by
  constructor
  · intro refuses
    exact refuses fault world rfl
  · intro same other after failed
    cases failed
    exact same

theorem ends_iff {program : Method α} {other : Method α} {last : World}
    (equal : ends program world = ends other last) :
    RefusesTo base program world ↔ RefusesTo base other last := by
  unfold RefusesTo
  rw [equal]

theorem ofExcept_iff {known : Except Fault α} {rest : α → Method β}
    (same : SameRows base world.db) : RefusesTo base (ofExcept known >>= rest) world ↔
      ∀ value, known = .ok value → RefusesTo base (rest value) world := by
  cases known with
  | ok value => exact ⟨fun refuses other equal => by cases equal; exact refuses, fun all => all value rfl⟩
  | error fault => exact iff_of_true (failed_iff.mpr same) nofun

theorem check_iff {condition : Prop} [Decidable condition] {fault : Fault} {other : α → Method β}
    {rest : Method β} (same : condition → SameRows base world.db) :
    RefusesTo base (if condition then Program.fail fault >>= other else rest) world ↔
      (¬ condition → RefusesTo base rest world) := by
  split
  next holds => exact iff_of_true (failed_iff.mpr (same holds)) fun fails => absurd holds fails
  next fails => exact ⟨fun refuses _ => refuses, fun refuses => refuses fails⟩

/-- A check after something was written. -/
theorem late_check_iff {condition : Prop} [Decidable condition] {fault : Fault}
    {other : α → Method β} {rest : Method β} :
    RefusesTo base (if condition then Program.fail fault >>= other else rest) world ↔
      (condition → SameRows base world.db) ∧ (¬ condition → RefusesTo base rest world) := by
  split
  next holds => exact failed_iff.trans (by simp [holds])
  next fails => simp [fails]

theorem lookup_iff {program : Method α} (lookup : Lookup program) {value : α}
    (known : answer world.db.oracle program = some value) {rest : α → Method β} :
    RefusesTo base (program >>= rest) world ↔ RefusesTo base (rest value) world := by
  unfold RefusesTo
  rw [ends_lookup lookup known]

theorem exec_iff {sql : List Piece} {rest : Sql.Outcome → Method β} :
    RefusesTo base (vxdbExec sql >>= rest) world ↔
      RefusesTo base (rest (execText world.db (render sql)).2)
        { world with db := (execText world.db (render sql)).1 } := Iff.rfl

/-- The end of a method that fails if its statement did. -/
theorem last {sql : List Piece} {function : Str} (same : SameRows base world.db)
    (unchanged : (execText world.db (render sql)).2.ok = false →
      (execText world.db (render sql)).1 = world.db) :
    RefusesTo base (do
      let outcome ← vxdbExec sql
      if !outcome.ok then vxdbFault function
      return Xml.nil) world := by
  rw [exec_iff]
  cases ok : (execText world.db (render sql)).2.ok with
  | true =>
      exact (check_iff nofun).mpr fun _ => pure _
  | false =>
      refine (check_iff fun _ => ?_).mpr fun succeeded => absurd rfl succeeded
      rwa [unchanged ok]

/-- A client's request that is admitted. -/
theorem admitted_iff {credentials params : Xml} {host : Host} {caps : UInt64}
    {rest : Xml → Method β} :
    RefusesTo world.db (methodInit host (.client credentials params) caps {} >>= rest) world ↔
      ((∃ user, authenticationIn (counted world.db).oracle host credentials caps = .ok user) →
        RefusesTo world.db (rest params) { world with db := counted world.db }) := by
  have results := results_methodAuthenticate host credentials caps world
  have contained := (counting_methodAuthenticate host credentials caps).contained
  have split : methodInit host (.client credentials params) caps {} >>= rest =
      methodAuthenticate host credentials caps >>= fun _ => rest params := by
    rw [methodInit, bind_assoc]
    rfl
  unfold RefusesTo
  rw [split, ends_bind contained]
  cases known : authenticationIn (counted world.db).oracle host credentials caps with
  | ok user =>
      rw [known] at results
      rw [show ends (methodAuthenticate host credentials caps) world = _ from results]
      exact ⟨fun refuses _ => refuses, fun refuses => refuses ⟨user, rfl⟩⟩
  | error fault =>
      rw [known] at results
      obtain ⟨after, same, ended⟩ := results
      rw [ended]
      refine iff_of_true (fun other last failed => ?_) ?_
      · cases failed
        exact same
      · rintro ⟨user, authentic⟩
        cases authentic

end RefusesTo

/-! ## vcd.user.set -/

/-- A user's row with another flag. -/
def withAdmin (row : Row) (admin : Int) : Row :=
  [Table.user.cell row (cstr "uid"), Table.user.cell row (cstr "name"),
    Table.user.cell row (cstr "password"), .int admin]

/-- A column of users that no index has can always be set. -/
theorem update_user_succeeds (db : Vxdb) (selected : Row → Bool) {column : Str} (value : Expr)
    (free : column = cstr "admin" ∨ column = cstr "password") :
    ∃ next, db.update Table.user selected (setUser column value db) = some next := by
  refine db.update_steady fun row _ other => ?_
  rcases free with rfl | rfl <;> rfl

/-- The flag of an existing user is changed, and then the new password is refused. -/
def SetsOnlyFlag (host : Host) (request : Request) (db : Vxdb) : Prop :=
  (∃ sender, authenticationIn (counted db).oracle host request.credentials capAuth = .ok sender) ∧
    ∃ user pass admin, request.text (cstr "username") = .ok user ∧
      request.text (cstr "password") = .ok pass ∧
      request.params.getBool (cstr "admin") = .ok admin ∧ validateUsername user = true ∧
      uidIn db.oracle user ≠ 0 ∧ strIsempty pass = false ∧ validatePassword pass = false ∧
      ∃ row ∈ db.rows Table.user, byId (cstr "uid") (uidIn db.oracle user) .user row = true ∧
        withAdmin row admin.toInt ≠ row

/-- What setting the flag does. -/
theorem execText_sqlUserAdmin (db : Vxdb) (uid admin : Int) :
    (execText db (render (sqlUserAdmin uid admin))).2.ok = true ∧
      ∀ table, (execText db (render (sqlUserAdmin uid admin))).1.rows table =
        if table = .user then (db.rows Table.user).map fun row =>
          if byId (cstr "uid") uid .user row then withAdmin row admin else row
        else db.rows table := by
  obtain ⟨next, updated⟩ := update_user_succeeds db (byId (cstr "uid") uid .user) (.int admin)
    (.inl rfl)
  have free : (RightsWrite.userAdmin uid admin).Free := nofun
  obtain ⟨after, ok⟩ := RightsWrite.runs free db
  have applied : applyAll db (RightsWrite.userAdmin uid admin).changes = some next :=
    applyAll_singleton.trans updated
  change (execText db (render (sqlUserAdmin uid admin))).1 = _ at after
  rw [applied] at after ok
  refine ⟨ok, fun table => ?_⟩
  rw [after]
  split
  next same =>
    subst same
    exact Database.rows_update_same updated
  next other => exact Database.rows_update_other updated other

/-- Setting the flag changes nothing exactly if all rows of the user have it. -/
theorem sameRows_sqlUserAdmin {base db : Vxdb} (same : SameRows base db) (uid admin : Int) :
    SameRows base (execText db (render (sqlUserAdmin uid admin))).1 ↔
      ∀ row ∈ base.rows Table.user, byId (cstr "uid") uid .user row = true →
        withAdmin row admin = row := by
  obtain ⟨-, rows⟩ := execText_sqlUserAdmin db uid admin
  constructor
  · intro kept row mem chosen
    have equal := kept Table.user nofun
    rw [rows, if_pos rfl, same Table.user nofun] at equal
    have fixed := List.map_inj_left.mp (equal.trans (List.map_id _).symm) row mem
    rwa [if_pos chosen] at fixed
  · intro fixed table other
    rw [rows]
    split
    next users =>
      subst users
      rw [same Table.user nofun]
      refine (List.map_congr_left fun row mem => ?_).trans (List.map_id _)
      split
      next chosen => exact fixed row mem chosen
      next => rfl
    next => exact same table other

theorem execText_sqlUserPassword (db : Vxdb) (uid : Int) {hash : Str} (free : QuoteFree hash) :
    (execText db (render (sqlUserPassword uid hash))).2.ok = true := by
  obtain ⟨next, updated⟩ := update_user_succeeds db (byId (cstr "uid") uid .user) (.str hash)
    (.inr rfl)
  have free : (RightsWrite.userPassword uid hash).Free := free_singleton free
  have applied : applyAll db (RightsWrite.userPassword uid hash).changes = some next :=
    applyAll_singleton.trans updated
  have ok := (RightsWrite.runs free db).2
  rw [applied] at ok
  exact ok

theorem failed_sqlUserInsert (db : Vxdb) (uid : Int) {user hash : Str} (userFree : QuoteFree user)
    (hashFree : QuoteFree hash) (admin : Int)
    (failed : (execText db (render (sqlUserInsert uid user hash admin))).2.ok = false) :
    (execText db (render (sqlUserInsert uid user hash admin))).1 = db := by
  have free : (RightsWrite.userInsert uid user hash admin).Free := by
    intro text mem
    rcases List.mem_cons.mp mem with rfl | mem
    · exact userFree
    · exact List.mem_singleton.mp mem ▸ hashFree
  exact (RightsWrite.runs free).failed failed

theorem mVcdUserSet_iff (host : Host) (free : request.Free) (world : World) :
    RefusesTo world.db (mVcdUserSet host (.client request.credentials request.params)) world ↔
      ¬ SetsOnlyFlag host request world.db := by
  have same : SameRows world.db (counted world.db) := sameRows_counts counts_sqlRequests world.db
  have stepped : RefusesTo world.db
        (mVcdUserSet host (.client request.credentials request.params)) world ↔
      ((∃ sender, authenticationIn (counted world.db).oracle host request.credentials capAuth =
          .ok sender) → ∀ user, request.text (cstr "username") = .ok user →
        ∀ pass, request.text (cstr "password") = .ok pass →
        ∀ admin, request.params.getBool (cstr "admin") = .ok admin →
          validateUsername user = true → uidIn world.db.oracle user ≠ 0 →
            strIsempty pass = false → validatePassword pass = false →
              ∀ row ∈ world.db.rows Table.user,
                byId (cstr "uid") (uidIn world.db.oracle user) .user row = true →
                  withAdmin row admin.toInt = row) := by
    rw [mVcdUserSet, RefusesTo.admitted_iff]
    refine imp_congr_right fun _ => ?_
    rw [RefusesTo.ofExcept_iff same]
    refine forall₂_congr fun user userEq => ?_
    rw [RefusesTo.ofExcept_iff same]
    refine forall₂_congr fun pass passEq => ?_
    rw [RefusesTo.ofExcept_iff same]
    refine forall₂_congr fun admin adminEq => ?_
    refine (RefusesTo.check_iff fun _ => same).trans ?_
    rw [Bool.not_eq_true', Bool.not_eq_false]
    refine imp_congr_right fun valid => ?_
    refine (RefusesTo.lookup_iff (lookup_authGetuid user) (answer_authGetuid _ user)).trans ?_
    rw [uidIn_of_rows (same _ (by decide))]
    by_cases found : uidIn world.db.oracle user = 0
    · refine iff_of_true ?_ (fun known => absurd found known)
      rw [if_pos found]
      refine (RefusesTo.check_iff fun _ => same).mpr fun _ => ?_
      refine (RefusesTo.lookup_iff lookup_authGetnextuid (answer_authGetnextuid _)).mpr ?_
      exact .last same (failed_sqlUserInsert _ _ (free _ _ userEq)
        (quoteFree_newHash host (free _ _ passEq)) _)
    · rw [if_neg found, imp_iff_right found]
      refine RefusesTo.exec_iff.trans ?_
      obtain ⟨ok, -⟩ := execText_sqlUserAdmin (counted world.db) (uidIn world.db.oracle user)
        admin.toInt
      refine (RefusesTo.check_iff fun failed => absurd failed (by simp [ok])).trans ?_
      refine (forall_prop_of_true (by simp [ok])).trans ?_
      cases given : strIsempty pass with
      | true =>
          have none : methodEmptyParam pass = none := by simp [methodEmptyParam, given]
          rw [none]
          exact iff_of_true (RefusesTo.pure Xml.nil) fun given => by cases given
      | false =>
          have some : methodEmptyParam pass = some pass := by simp [methodEmptyParam, given]
          rw [some]
          refine RefusesTo.late_check_iff.trans ?_
          rw [Bool.not_eq_true', sameRows_sqlUserAdmin same (uidIn world.db.oracle user) admin.toInt,
            imp_iff_right rfl]
          refine and_iff_left fun _ => ?_
          have stored := execText_sqlUserPassword
            (execText (counted world.db) (render (sqlUserAdmin (uidIn world.db.oracle user)
              admin.toInt))).1 (uidIn world.db.oracle user)
            (quoteFree_hash host (free _ _ passEq))
          refine RefusesTo.exec_iff.mpr ?_
          refine (RefusesTo.check_iff fun failed => ?_).mpr fun _ => .pure _
          dsimp only at failed
          rw [stored] at failed
          cases failed
  rw [stepped]
  constructor
  · rintro all ⟨authentic, user, pass, admin, userEq, passEq, adminEq, valid, found, given, invalid,
      row, mem, chosen, differs⟩
    exact differs (all authentic user userEq pass passEq admin adminEq valid found given invalid row
      mem chosen)
  · intro none authentic user userEq pass passEq admin adminEq valid found given invalid row mem chosen
    by_contra differs
    exact none ⟨authentic, user, pass, admin, userEq, passEq, adminEq, valid, found, given, invalid,
      row, mem, chosen, differs⟩

/-! ## vg.add -/

/-- A group is created, and then the member is refused. -/
def AddsOnlyGroup (host : Host) (request : Request) (db : Vxdb) : Prop :=
  (∃ sender, authenticationIn (counted db).oracle host request.credentials capAuth = .ok sender) ∧
    ∃ group name, request.text (cstr "group") = .ok group ∧
      request.text (cstr "name") = .ok name ∧ validateGroup group = true ∧
      group ≠ cstr "all" ∧ gidIn db.oracle group = 0 ∧
      (∀ row ∈ db.rows Table.groups, vxdbSchema.conflict Table.groups row
        [.int (nextIdIn db.oracle sqlLastGid), .str group] = false) ∧
      strIsempty name = false ∧ (validateName name = false ∨ xidIn db.oracle name = 0 ∨
        ∃ row ∈ db.rows Table.xidGidMap, vxdbSchema.conflict Table.xidGidMap row
          [.int (int32 (xidIn db.oracle name)), .int (nextIdIn db.oracle sqlLastGid)] = true)

theorem gidIn_of_rows {db next : Vxdb} (same : next.rows Table.groups = db.rows Table.groups)
    (group : Str) : gidIn next.oracle group = gidIn db.oracle group := by
  unfold gidIn
  split
  next valid =>
    have free := quoteFree_of_validateGroup valid
    rw [firstRow_sqlGetgid free, firstRow_sqlGetgid free, same]
  · rfl

/-- A row can be inserted if it is in conflict with none. -/
theorem insert_isSome_iff {schema : Schema} (db : Database schema) (table : schema.Table) (row : Row) :
    (db.insert table row).isSome ↔
      ∀ other ∈ db.rows table, schema.conflict table other row = false := by
  unfold Database.insert
  split
  next clash =>
    refine iff_of_false nofun fun apart => ?_
    obtain ⟨other, mem, conflict⟩ := List.any_eq_true.mp clash
    exact absurd (conflict.symm.trans (apart other mem)) nofun
  next apart =>
    refine iff_of_true rfl fun other mem => ?_
    simp only [List.any_eq_true, not_exists, not_and, Bool.not_eq_true] at apart
    exact apart other mem

theorem ends_validateMember (name : Str) (rest : Int → Method α) (world : World) :
    ends (validateMember name >>= rest) world =
      if validateName name = false then (.failed (.ofFormat .inval
        [.chars (cstr "invalid name value: "), .str name]), world)
      else if xidIn world.db.oracle name = 0 then (.failed (.of .novps), world)
      else ends (rest (xidIn world.db.oracle name)) world := by
  rw [ends_bind (counting_validateMember name).contained]
  unfold validateMember
  cases valid : validateName name with
  | false => rfl
  | true =>
      change follow (ends (vxdbGetxid name >>= _) world) rest = _
      rw [ends_lookup (lookup_vxdbGetxid name) (answer_vxdbGetxid _ name)]
      simp only [Bool.true_eq_false, if_false]
      split <;> rfl

/-- What a single insertion does. -/
theorem ends_insert {sql : List Piece} {table : Table} {row : Row} (runs : Runs (render sql)
      [(.insert table row : Change)]) (function : Str) (rest : Unit → Method α) (world : World) :
    ends (do
      let outcome ← vxdbExec sql
      if !outcome.ok then vxdbFault function
      rest ()) world =
      match world.db.insert table row with
      | some next => ends (rest ()) { world with db := next }
      | none => (.failed (.vxdb function), world) := by
  obtain ⟨after, ok⟩ := runs world.db
  rw [applyAll_singleton] at after ok
  change _ = (world.db.insert table row).getD world.db at after
  change _ = (world.db.insert table row).isSome at ok
  rw [ends_exec, after, ok]
  cases world.db.insert table row <;> rfl

/-- The last part of `vg.add`, which adds a member to the group. -/
theorem addMember_iff (gid : Int) (name : Str) :
    RefusesTo base (do
      let xid ← validateMember name
      let outcome ← vxdbExec (sqlMemberInsert xid gid)
      if !outcome.ok then vxdbFault (cstr "m_vg_add")
      return Xml.nil) world ↔
      SameRows base world.db ∨ validateName name = true ∧ xidIn world.db.oracle name ≠ 0 ∧
        ∀ row ∈ world.db.rows Table.xidGidMap, vxdbSchema.conflict Table.xidGidMap row
          [.int (int32 (xidIn world.db.oracle name)), .int gid] = false := by
  have free : (RightsWrite.memberInsert (xidIn world.db.oracle name) gid).Free := nofun
  have inserted := ends_insert (RightsWrite.runs free) (cstr "m_vg_add")
    (fun _ => Pure.pure Xml.nil) world
  have refused {program : Method Xml} {fault : Fault} (ended : ends program world = (.failed fault, world)) :
      RefusesTo base program world ↔ SameRows base world.db :=
    ⟨fun refuses => refuses fault world ended, fun same other after failed => by
      rw [ended] at failed
      cases failed
      exact same⟩
  by_cases valid : validateName name = true
  · by_cases missing : xidIn world.db.oracle name = 0
    · rw [refused ((ends_validateMember name _ world).trans (by simp [valid, missing]; rfl))]
      simp [missing]
    · have whole := ends_validateMember name (fun xid => do
        let outcome ← vxdbExec (sqlMemberInsert xid gid)
        if !outcome.ok then vxdbFault (cstr "m_vg_add")
        return Xml.nil) world
      rw [if_neg (by simp [valid]), if_neg missing] at whole
      have ended := whole.trans inserted
      have accepted := insert_isSome_iff world.db Table.xidGidMap
        [.int (int32 (xidIn world.db.oracle name)), .int gid]
      cases known : world.db.insert Table.xidGidMap
          [.int (int32 (xidIn world.db.oracle name)), .int gid] with
      | some next =>
          rw [known] at ended accepted
          exact iff_of_true (RefusesTo.of_returned ended)
            (.inr ⟨valid, missing, accepted.mp rfl⟩)
      | none =>
          rw [known] at ended accepted
          refine (refused ended).trans (or_iff_left fun other => ?_).symm
          exact absurd (accepted.mpr other.2.2) nofun
  · rw [refused ((ends_validateMember name _ world).trans (by simp [valid]; rfl))]
    simp [valid]

theorem contained_vgAddGroup (group : Str) : Program.Contained (vgAddGroup group) := by
  refine (lookup_vxdbGetgid group).counting.contained.bind fun gid => ?_
  split
  · trivial
  refine ⟨trivial, fun reply => ?_⟩
  have created (gid : Int) : Program.Contained (do
      let outcome ← vxdbExec (sqlGroupInsert gid group)
      if !outcome.ok then vxdbFault (cstr "m_vg_add")
      return gid) :=
    ⟨trivial, fun outcome => by rcases outcome with ⟨_ | _, _⟩ <;> trivial⟩
  rcases reply with _ | _ | ⟨row, rows⟩ <;> exact created _

/-- What `vg.add` does to get the id of the group. -/
theorem ends_vgAddGroup {group : Str} (valid : validateGroup group = true)
    (rest : Int → Method α) (world : World) :
    ends (vgAddGroup group >>= rest) world =
      if gidIn world.db.oracle group ≠ 0 then ends (rest (gidIn world.db.oracle group)) world
      else match world.db.insert Table.groups
          [.int (nextIdIn world.db.oracle sqlLastGid), .str group] with
        | some next => ends (rest (nextIdIn world.db.oracle sqlLastGid)) { world with db := next }
        | none => (.failed (.vxdb (cstr "m_vg_add")), world) := by
  rw [ends_bind (contained_vgAddGroup group)]
  unfold vgAddGroup
  rw [ends_lookup (lookup_vxdbGetgid group) (answer_vxdbGetgid _ group)]
  by_cases known : gidIn world.db.oracle group = 0
  · rw [known]
    have free : (RightsWrite.groupInsert (nextIdIn world.db.oracle sqlLastGid) group).Free :=
      free_singleton (quoteFree_of_validateGroup valid)
    have inserted := ends_insert (RightsWrite.runs free) (cstr "m_vg_add")
      (fun _ => pure (nextIdIn world.db.oracle sqlLastGid)) world
    rw [if_neg (not_not.mpr rfl), if_neg (not_not.mpr rfl)]
    refine (congrArg (follow · rest) (Eq.trans ?_ inserted)).trans ?_
    · unfold nextIdIn Vxdb.oracle
      rw [ends_prepare]
      rcases prepareText world.db (render sqlLastGid) with _ | _ | ⟨row, rows⟩ <;> rfl
    · cases world.db.insert Table.groups _ <;> rfl
  · rw [if_pos known, if_pos known]
    rfl

/-- A query without a condition on one table depends on the rows of that table only. -/
theorem run_of_rows {schema : Schema} {query : Select} {table : schema.Table}
    (named : schema.named query.table = some table) (join : query.join = none)
    (condition : query.condition = none) {db next : Database schema}
    (same : next.rows table = db.rows table) : query.run next = query.run db := by
  simp only [Select.run, Select.source, named, join, Select.answer, Select.chosen, condition, same,
    Option.bind_eq_bind, Option.bind_some]

theorem nextgid_of_rows {db next : Vxdb} (same : next.rows Table.groups = db.rows Table.groups) :
    nextIdIn next.oracle sqlLastGid = nextIdIn db.oracle sqlLastGid := by
  have query (db : Vxdb) : prepareText db (render sqlLastGid) = _ :=
    prepareText_query (by simp [sqlLastGid, Piece.Free]) (by rfl) db
  unfold nextIdIn Vxdb.oracle
  rw [query, query, run_of_rows (by rfl) (by rfl) (by rfl) same]

/-- What `vg.add` does after the group was found or created. -/
theorem vgAddGroup_iff {group : Str} (valid : validateGroup group = true)
    {rest : Int → Method Xml} (same : SameRows base world.db) :
    RefusesTo base (vgAddGroup group >>= rest) world ↔
      (gidIn world.db.oracle group ≠ 0 →
        RefusesTo base (rest (gidIn world.db.oracle group)) world) ∧
      (gidIn world.db.oracle group = 0 → ∀ next, world.db.insert Table.groups
          [.int (nextIdIn world.db.oracle sqlLastGid), .str group] = some next →
        RefusesTo base (rest (nextIdIn world.db.oracle sqlLastGid)) { world with db := next }) := by
  have ended := ends_vgAddGroup valid rest world
  by_cases known : gidIn world.db.oracle group = 0
  · rw [if_neg (not_not.mpr known)] at ended
    simp only [known, ne_eq, not_true_eq_false, false_implies, true_and, forall_const]
    cases inserted : world.db.insert Table.groups
        [.int (nextIdIn world.db.oracle sqlLastGid), .str group] with
    | none =>
        rw [inserted] at ended
        refine iff_of_true (fun fault after failed => ?_) nofun
        rw [ended] at failed
        cases failed
        exact same
    | some next =>
        rw [inserted] at ended
        rw [RefusesTo.ends_iff ended]
        simp
  · rw [if_pos known] at ended
    rw [RefusesTo.ends_iff ended]
    simp [known]

theorem optionalMember_iff (gid : Int) (name : Str) :
    RefusesTo base (do
      if !strIsempty name then
        let xid ← validateMember name
        let outcome ← vxdbExec (sqlMemberInsert xid gid)
        if !outcome.ok then vxdbFault (cstr "m_vg_add")
      return Xml.nil) world ↔
      (strIsempty name = false → SameRows base world.db ∨
        validateName name = true ∧ xidIn world.db.oracle name ≠ 0 ∧
          ∀ row ∈ world.db.rows Table.xidGidMap, vxdbSchema.conflict Table.xidGidMap row
            [.int (int32 (xidIn world.db.oracle name)), .int gid] = false) := by
  cases strIsempty name with
  | true => exact iff_of_true (RefusesTo.pure Xml.nil) nofun
  | false => exact (addMember_iff gid name).trans (imp_iff_right rfl).symm

theorem mVgAdd_iff (host : Host) (world : World) :
    RefusesTo world.db (mVgAdd host (.client request.credentials request.params)) world ↔
      ¬ AddsOnlyGroup host request world.db := by
  have same : SameRows world.db (counted world.db) := sameRows_counts counts_sqlRequests world.db
  have stepped : RefusesTo world.db
        (mVgAdd host (.client request.credentials request.params)) world ↔
      ((∃ sender, authenticationIn (counted world.db).oracle host request.credentials capAuth =
          .ok sender) → ∀ group, request.text (cstr "group") = .ok group →
        ∀ name, request.text (cstr "name") = .ok name → validateGroup group = true →
          group ≠ cstr "all" → gidIn world.db.oracle group = 0 →
            (∀ row ∈ world.db.rows Table.groups, vxdbSchema.conflict Table.groups row
              [.int (nextIdIn world.db.oracle sqlLastGid), .str group] = false) →
            strIsempty name = false → validateName name = true ∧ xidIn world.db.oracle name ≠ 0 ∧
              ∀ row ∈ world.db.rows Table.xidGidMap, vxdbSchema.conflict Table.xidGidMap row
                [.int (int32 (xidIn world.db.oracle name)),
                  .int (nextIdIn world.db.oracle sqlLastGid)] = false) := by
    rw [mVgAdd, RefusesTo.admitted_iff]
    refine imp_congr_right fun _ => ?_
    rw [RefusesTo.ofExcept_iff same]
    refine forall₂_congr fun group groupEq => ?_
    rw [RefusesTo.ofExcept_iff same]
    refine forall₂_congr fun name nameEq => ?_
    refine (RefusesTo.check_iff fun _ => same).trans ?_
    rw [Bool.not_eq_true', Bool.not_eq_false]
    refine imp_congr_right fun valid => ?_
    by_cases reserved : group = cstr "all"
    · rw [if_pos reserved]
      exact iff_of_true (RefusesTo.pure _) fun other => absurd reserved other
    · rw [if_neg reserved, imp_iff_right reserved]
      refine (vgAddGroup_iff valid same).trans ?_
      rw [gidIn_of_rows (same _ (by decide)), nextgid_of_rows (same _ (by decide))]
      refine (and_iff_right fun _ => (optionalMember_iff _ name).mpr fun _ => .inl same).trans ?_
      refine imp_congr_right fun _ => ?_
      have insertable := insert_isSome_iff (counted world.db) Table.groups
        [.int (nextIdIn world.db.oracle sqlLastGid), .str group]
      rw [same Table.groups (by decide)] at insertable
      cases inserted : (counted world.db).insert Table.groups
          [.int (nextIdIn world.db.oracle sqlLastGid), .str group] with
      | none =>
          rw [inserted] at insertable
          exact iff_of_true (fun next equal => by cases equal)
            fun apart => by cases insertable.mpr apart
      | some next =>
          rw [inserted] at insertable
          rw [imp_iff_right (insertable.mp rfl)]
          simp only [Option.some.injEq, forall_eq']
          refine (optionalMember_iff _ name).trans (imp_congr_right fun _ => ?_)
          obtain ⟨rfl, -⟩ := Database.insert_eq_some inserted
          have grown : ¬ SameRows world.db ((counted world.db).replace Table.groups
              [.int (nextIdIn world.db.oracle sqlLastGid), .str group]) := by
            intro unchanged
            have lengths := congrArg List.length
              ((Database.rows_insert_same inserted).symm.trans (unchanged Table.groups (by decide)))
            rw [same Table.groups (by decide), List.length_append] at lengths
            exact absurd lengths (by simp)
          have others (table : Table) (apart : table ≠ .groups) (counter : table ≠ .vcd) :
              ((counted world.db).replace Table.groups
                [.int (nextIdIn world.db.oracle sqlLastGid), .str group]).rows table =
                  world.db.rows table :=
            (Database.rows_replace_other _ apart _).trans (same table counter)
          rw [or_iff_right grown]
          dsimp only
          rw [xidIn_of_rows (others .xidNameMap (by decide) (by decide)),
            others .xidGidMap (by decide) (by decide)]
  rw [stepped]
  constructor
  · rintro all ⟨authentic, group, name, groupEq, nameEq, valid, other, absent, apart, given, refused⟩
    obtain ⟨validName, found, fresh⟩ :=
      all authentic group groupEq name nameEq valid other absent apart given
    rcases refused with invalid | missing | ⟨row, mem, clash⟩
    · cases validName.symm.trans invalid
    · exact found missing
    · cases clash.symm.trans (fresh row mem)
  · intro none authentic group groupEq name nameEq valid other absent apart given
    by_contra refused
    refine none ⟨authentic, group, name, groupEq, nameEq, valid, other, absent, apart, given, ?_⟩
    by_contra accepted
    simp only [not_or, Bool.not_eq_false, not_exists, not_and, Bool.not_eq_true] at accepted
    exact refused accepted

/-! ## All guarded methods -/

/-- The request is one of the two cases in which a refusal comes after a change. -/
def HalfDone (host : Host) (request : Request) (db : Vxdb) : Prop :=
  request.method = cstr "vcd.user.set" ∧ SetsOnlyFlag host request db ∨
    request.method = cstr "vg.add" ∧ AddsOnlyGroup host request db

theorem kept_true (free : request.Free) (other : request.method ≠ cstr "vx.create") (first : Vxdb) :
    Kept setup request first fun _ => True :=
  kept_of_changed ⟨free, fun create => absurd create other, fun create => absurd create other⟩
    fun _ _ _ _ => trivial

/-- A refused request to change configuration, users or groups leaves all tables but the
counters as they were, exactly if it is not half done. -/
theorem refused_changes_nothing_iff (setup : Setup) (request : Request) (world : World)
    (guarded : Guarded request.method) (free : request.Free) :
    (∀ fault after, ends (handle setup request) world = (.failed fault, after) →
        SameRows world.db after.db) ↔ ¬ HalfDone setup.host request world.db := by
  by_cases isSet : request.method = cstr "vcd.user.set"
  · have handler : handle setup request =
        mVcdUserSet setup.host (.client request.credentials request.params) := by
      rw [handle, isSet]
      rfl
    have notAdd : request.method ≠ cstr "vg.add" := by
      rw [isSet]
      decide
    rw [handler]
    refine (mVcdUserSet_iff setup.host free world).trans (not_congr ?_)
    simp only [HalfDone, notAdd, false_and, or_false]
    simp [isSet]
  · by_cases isAdd : request.method = cstr "vg.add"
    · have handler : handle setup request =
          mVgAdd setup.host (.client request.credentials request.params) := by
        rw [handle, isAdd]
        rfl
      rw [handler]
      refine (mVgAdd_iff setup.host world).trans (not_congr ?_)
      simp only [HalfDone, isSet, false_and, false_or]
      simp [isAdd]
    · have other : request.method ≠ cstr "vx.create" := by
        intro create
        rw [create] at guarded
        exact absurd guarded (by decide)
      refine iff_of_true (fun fault after failed => ?_) (by simp [HalfDone, isSet, isAdd])
      exact unchanged_of_writesLast (writesLast_handle guarded isSet isAdd)
        (kept_true free other world.db) failed

/-- The user `vshelper` becomes an administrator, with a password that is too short. -/
def promoteRequest : Request where
  method := cstr "vcd.user.set"
  credentials := adminCredentials
  params := .struct [(cstr "username", .str (cstr "vshelper")),
    (cstr "password", .str (cstr "short")), (cstr "admin", .bool true)]

theorem free_promoteRequest : promoteRequest.Free :=
  fun _ _ known => texts_struct known (by decide)

theorem refused_changes_nothing_promote :
    (∀ fault after, ends (handle plainSetup promoteRequest) (World.boot (freshVxdb 0) idleKernel) =
        (.failed fault, after) → SameRows (freshVxdb 0) after.db) ↔
      ¬ HalfDone plainSetup.host promoteRequest (freshVxdb 0) :=
  refused_changes_nothing_iff plainSetup promoteRequest (World.boot (freshVxdb 0) idleKernel)
    (by decide) free_promoteRequest

theorem refused_changes_flag : ¬ ∀ (setup : Setup) (request : Request) (world : World),
    Guarded request.method → request.Free → ∀ fault after,
      ends (handle setup request) world = (.failed fault, after) → SameRows world.db after.db := by
  intro unchanged
  have refuses := unchanged plainSetup promoteRequest (World.boot (freshVxdb 0) idleKernel)
    (by decide) free_promoteRequest
  refine (mVcdUserSet_iff plainSetup.host free_promoteRequest (World.boot (freshVxdb 0) idleKernel)).mp refuses ?_
  refine ⟨⟨cstr "admin", by decide +kernel⟩, cstr "vshelper", cstr "short", true, by rfl, by rfl,
    by rfl, by decide, by decide +kernel, by decide, by decide,
    [.int 2, .str (cstr "vshelper"), .str (cstr "*"), .int 0], by decide, by decide +kernel,
    by decide⟩

end Vcd
