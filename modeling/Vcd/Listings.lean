import Vcd.ConfigFrame
import Vcd.Endings

/-!
# Lists of virtual servers

The answers of `vxdb.list` against what its documentation promises. The value zero stands
for "no filter" as well as for an unknown user, so an unknown user's list is everybody's.
-/

namespace Vcd

open Sql Process

variable {db : Vxdb} {world : World} {host : Host} {credentials params : Xml} {user who : Str}

/-! ## The servers of a user -/

/-- The name of a virtual server. -/
def serverName (row : Row) : Value :=
  Table.xidNameMap.cell row (cstr "name")

/-- Names are texts and user ids are signed 32-bit numbers, as the daemon stores them. -/
structure Typed (db : Vxdb) : Prop where
  names : ∀ row ∈ db.rows Table.xidNameMap, ∃ name, serverName row = .str name
  uids : ∀ row ∈ db.rows Table.user, ∃ uid, Table.user.cell row (cstr "uid") = .int uid ∧
    int32 uid = uid

/-- The virtual server of a row belongs to the user id. -/
def BelongsTo (db : Vxdb) (uid : Int) (row : Row) : Prop :=
  ∃ owner ∈ db.rows Table.xidUidMap,
    (Table.xidNameMap.cell row (cstr "xid")).same (Table.xidUidMap.cell owner (cstr "xid")) = true ∧
      Table.xidUidMap.cell owner (cstr "uid") = .int uid

/-- The user of that name owns the virtual server of a row. -/
def OwnedBy (db : Vxdb) (who : Str) (row : Row) : Prop :=
  ∃ account ∈ db.rows Table.user, Table.user.cell account (cstr "name") = .str who ∧
    ∃ uid, Table.user.cell account (cstr "uid") = .int uid ∧ BelongsTo db uid row

/-- The names of exactly these virtual servers, each once and in ascending order. -/
def Names (db : Vxdb) (these : Row → Prop) (names : List Str) : Prop :=
  names.Pairwise (· < ·) ∧
    ∀ name, name ∈ names ↔ ∃ row ∈ db.rows Table.xidNameMap, serverName row = .str name ∧ these row

/-! ## Sorted names -/

theorem pairwise_lt {names : List Str}
    (ascending : names.Pairwise fun left right => (Value.str left).le (.str right) = true)
    (nodup : names.Nodup) : names.Pairwise (· < ·) := by
  apply (ascending.and nodup).imp
  intro left right ⟨below, ne⟩
  apply Classical.byContradiction
  intro notLess
  have leftLe := List.not_lt.mp (Value.le_str.mp below)
  exact ne (List.le_antisymm leftLe (List.not_lt.mp notLess))

/-- Names are unique. -/
theorem Typed.apart (typed : Typed db) : (db.rows Table.xidNameMap).Pairwise fun left right =>
    serverName left ≠ serverName right := by
  apply (db.distinct Table.xidNameMap).imp_of_mem
  intro left right leftMem _ apart equal
  obtain ⟨name, known⟩ := typed.names left leftMem
  have clash : vxdbSchema.conflict Table.xidNameMap left right = true := by
    apply vxdbSchema.conflict_iff.mpr
    refine ⟨[cstr "name"], by decide, fun column mem => ?_⟩
    obtain rfl := List.mem_singleton.mp mem
    change (serverName left).same (serverName right) = true
    rw [← equal, known]
    exact Value.same_self nofun
  rw [clash] at apart
  cases apart

/-- The sorted names of some virtual servers. -/
theorem Typed.names_sorted (typed : Typed db) {these : Row → Bool} {values : List Value}
    (ascending : values.Pairwise fun left right => left.le right = true)
    (perm : values.Perm (((db.rows Table.xidNameMap).filter these).map serverName)) :
    ∃ names, values = names.map Value.str ∧ Names db (fun row => these row = true) names := by
  obtain ⟨names, rfl⟩ : ∃ names : List Str, values = names.map Value.str := by
    refine ⟨values.map fun value => vxdbColumnText [value] 0, ?_⟩
    rw [List.map_map]
    refine (List.map_id'' (fun _ => rfl) values).symm.trans (List.map_congr_left fun value mem => ?_)
    obtain ⟨row, rowMem, rfl⟩ := List.mem_map.mp (perm.subset mem)
    obtain ⟨name, known⟩ := typed.names row (List.mem_filter.mp rowMem).1
    rw [known]
    rfl
  have injective : Function.Injective Value.str := fun _ _ equal => Value.str.inj equal
  refine ⟨names, rfl, pairwise_lt (List.pairwise_map.mp ascending) ?_, fun name => ?_⟩
  · apply List.Nodup.of_map Value.str
    apply perm.nodup_iff.mpr
    exact List.pairwise_map.mpr (typed.apart.sublist List.filter_sublist)
  · rw [← List.mem_map_of_injective injective, perm.mem_iff, List.mem_map]
    constructor
    · rintro ⟨row, mem, known⟩
      obtain ⟨mem, selected⟩ := List.mem_filter.mp mem
      exact ⟨row, mem, known, selected⟩
    · rintro ⟨row, mem, known, selected⟩
      exact ⟨row, List.mem_filter.mpr ⟨mem, selected⟩, known⟩

/-! ## The two queries -/

theorem prepareText_sqlList (typed : Typed db) : ∃ names,
    prepareText db (render sqlList) = some (names.map fun name => [.str name]) ∧
      Names db (fun _ => True) names := by
  have query := @prepareText_query vxdbSchema sqlList {
      projections := [.column none (cstr "name")], table := cstr "xid_name_map", join := none
      condition := none, order := some (none, cstr "name", false), limit := none }
    (by simp [sqlList, Piece.Free]) (by rfl) db
  obtain ⟨sorted, perm, ascending, ran⟩ := @Select.run_table_ascending vxdbSchema {
      projections := [.column none (cstr "name")], table := cstr "xid_name_map", join := none
      condition := none, order := some (none, cstr "name", false), limit := none }
    Table.xidNameMap (cstr "name") (by rfl) (by rfl) (by rfl) (by rfl) (by rfl) (by rfl) db
  have same : (sorted.map serverName).Perm
      (((db.rows Table.xidNameMap).filter fun _ => true).map serverName) := perm.map serverName
  have ordered : (sorted.map serverName).Pairwise fun left right => left.le right = true :=
    List.pairwise_map.mpr ascending
  obtain ⟨names, equal, sound⟩ := typed.names_sorted ordered same
  refine ⟨names, ?_, sound.1, fun name => (sound.2 name).trans (by simp)⟩
  rw [query, ran]
  have rows : sorted.map (fun row => [serverName row]) = names.map fun name => [Value.str name] := by
    have listed := congrArg (List.map fun value => [value]) equal
    simpa only [List.map_map, Function.comp_def] using listed
  exact congrArg some rows

/-- The virtual server of a row belongs to the user id, as a test. -/
def belongsTo (db : Vxdb) (uid : Int) (row : Row) : Bool :=
  (db.rows Table.xidUidMap).any fun owner =>
    (Table.xidNameMap.cell row (cstr "xid")).same (Table.xidUidMap.cell owner (cstr "xid")) &&
      (Table.xidUidMap.cell owner (cstr "uid")).same (.int uid)

theorem belongsTo_iff {uid : Int} {row : Row} : belongsTo db uid row = true ↔ BelongsTo db uid row := by
  simp [belongsTo, BelongsTo]

/-- At most one of some rows that are apart is selected, when the selected ones clash. -/
theorem map_filter_const {rows : List Row} {apart : Row → Row → Bool} {selected : Row → Bool}
    (distinct : rows.Pairwise fun left right => apart left right = false)
    (clash : ∀ left right, selected left = true → selected right = true → apart left right = true)
    (value : Value) :
    ((rows.filter selected).map fun _ => value) = if rows.any selected then [value] else [] := by
  induction rows with
  | nil => rfl
  | cons row rest ih =>
      obtain ⟨alone, distinct⟩ := List.pairwise_cons.mp distinct
      cases chosen : selected row with
      | false => simpa [chosen] using ih distinct
      | true =>
          have others : rest.filter selected = [] := by
            apply List.filter_eq_nil_iff.mpr
            intro other mem picked
            have free := alone other mem
            rw [clash row other chosen picked] at free
            cases free
          simp [chosen, others]

theorem flatMap_ite (rows : List Row) (these : Row → Bool) (value : Row → Value) :
    (rows.flatMap fun row => if these row then [value row] else []) =
      (rows.filter these).map value := by
  induction rows with
  | nil => rfl
  | cons row rest ih =>
      rw [List.flatMap_cons, ih]
      cases chosen : these row <;> simp [chosen]

/-- The query for the virtual servers of a user id. -/
def ownerQuery (uid : Int) : Select where
  projections := [.column (some (cstr "xid_name_map")) (cstr "name")]
  table := cstr "xid_name_map"
  join := some (cstr "xid_uid_map", .eq (.column (some (cstr "xid_name_map")) (cstr "xid"))
    (.column (some (cstr "xid_uid_map")) (cstr "xid")))
  condition := some (.eq (.column (some (cstr "xid_uid_map")) (cstr "uid")) (.int uid))
  order := some (some (cstr "xid_name_map"), cstr "name", false)
  limit := none

/-- The owner entries of one virtual server with one user id clash. -/
theorem owners_clash (row : Row) (uid : Int) (left right : Row)
    (one : ((Table.xidNameMap.cell row (cstr "xid")).same
      (Table.xidUidMap.cell left (cstr "xid")) &&
        (Table.xidUidMap.cell left (cstr "uid")).same (.int uid)) = true)
    (two : ((Table.xidNameMap.cell row (cstr "xid")).same
      (Table.xidUidMap.cell right (cstr "xid")) &&
        (Table.xidUidMap.cell right (cstr "uid")).same (.int uid)) = true) :
    vxdbSchema.conflict Table.xidUidMap left right = true := by
  rw [Bool.and_eq_true] at one two
  apply vxdbSchema.conflict_iff.mpr
  refine ⟨[cstr "xid", cstr "uid"], by decide, fun column mem => ?_⟩
  rcases List.mem_cons.mp mem with rfl | mem
  · change (Table.xidUidMap.cell left (cstr "xid")).same
      (Table.xidUidMap.cell right (cstr "xid")) = true
    rw [← Value.eq_of_same one.1]
    exact two.1
  · obtain rfl := List.mem_singleton.mp mem
    change (Table.xidUidMap.cell left (cstr "uid")).same
      (Table.xidUidMap.cell right (cstr "uid")) = true
    rw [Value.eq_of_same one.2, Value.eq_of_same two.2]
    exact Value.same_self nofun

theorem prepareText_sqlListOfUser (typed : Typed db) (uid : Int) : ∃ names,
    prepareText db (render (sqlListOfUser uid)) = some (names.map fun name => [.str name]) ∧
      Names db (BelongsTo db uid) names := by
  have query := @prepareText_query vxdbSchema (sqlListOfUser uid) (ownerQuery uid)
    (by simp [sqlListOfUser, Piece.Free]) (by rfl) db
  obtain ⟨sorted, perm, ascending, ran⟩ := @Select.run_ascending vxdbSchema (ownerQuery uid) _ _
    (some (cstr "xid_name_map")) (cstr "name") (by rfl) (by rfl) (by rfl) (by rfl) (by rfl) db
  let named (env : Env) : Value := env (some (cstr "xid_name_map")) (cstr "name")
  have same : (sorted.map named).Perm
      (((db.rows Table.xidNameMap).filter (belongsTo db uid)).map serverName) := by
    refine (perm.map named).trans (List.Perm.of_eq ?_)
    rw [Select.chosen, ownerQuery]
    dsimp only
    rw [List.filter_flatMap, List.map_flatMap, ← flatMap_ite]
    congr 1
    funext row
    rw [List.filter_filter, List.filter_map, List.map_map]
    exact (congrArg (List.map _) (List.filter_congr fun owner _ => Bool.and_comm _ _)).trans
      (map_filter_const (db.distinct Table.xidUidMap) (owners_clash row uid) (serverName row))
  have ordered : (sorted.map named).Pairwise fun left right => left.le right = true :=
    List.pairwise_map.mpr ascending
  obtain ⟨names, equal, sound⟩ := typed.names_sorted ordered same
  refine ⟨names, ?_, sound.1, fun name => (sound.2 name).trans (by simp [belongsTo_iff])⟩
  rw [query, ran]
  have rows : sorted.map (fun env => [named env]) = names.map fun name => [Value.str name] := by
    have listed := congrArg (List.map fun value => [value]) equal
    simpa only [List.map_map, Function.comp_def] using listed
  exact congrArg some rows

/-! ## The answer -/

/-- Whose virtual servers a request lists; `none` stands for everybody's. -/
def listOwner (admin : Bool) (user who : Str) : Except Fault (Option Str) :=
  if admin then .ok (if strIsempty who then none else some who)
  else if strIsempty who || who = user then .ok (some user)
  else .error (.ofFormat .perm [.chars (cstr "cannot list foreign user: "), .str who])

/-- The answer with the names, or the fault that there are none. -/
def listAnswer (names : List Str) : Process.Outcome Fault Xml :=
  if names = [] then .failed (.ofFormat .novps [.chars (cstr "no virtual servers found")])
  else .returned (.array (names.map .str))

/-- The request is answered with exactly the virtual servers it asks for. -/
def ListsExactly (outcome : Process.Outcome Fault Xml) (db : Vxdb) (user who : Str) : Prop :=
  match listOwner (adminIn db.oracle user) user who with
  | .error fault => outcome = .failed fault
  | .ok owner => ∃ names, outcome = listAnswer names ∧
      Names db (fun row => ∀ name ∈ owner, OwnedBy db name row) names

/-- The servers of a user id; zero stands for everybody's. -/
def Selected (db : Vxdb) (uid : Int) (row : Row) : Prop :=
  uid ≠ 0 → BelongsTo db uid row

/-- The end of `vxdb.list`. -/
def listing (uid : Int) : Method Xml := do
  match ← vxdbPrepare (if uid ≠ 0 then sqlListOfUser uid else sqlList) with
  | none => vxdbFault (cstr "m_vxdb_list")
  | some [] => faultf .novps [.chars (cstr "no virtual servers found")]
  | some rows => return textList rows

theorem ends_listing (typed : Typed world.db) (uid : Int) : ∃ names,
    ends (listing uid) world = (listAnswer names, world) ∧
      Names world.db (Selected world.db uid) names := by
  obtain ⟨names, known, sound⟩ : ∃ names,
      prepareText world.db (render (if uid ≠ 0 then sqlListOfUser uid else sqlList)) =
        some (names.map fun name => [.str name]) ∧
      Names world.db (Selected world.db uid) names := by
    by_cases zero : uid = 0
    · obtain ⟨names, known, sound⟩ := prepareText_sqlList typed
      refine ⟨names, ?_, sound.1, fun name => (sound.2 name).trans (by simp [Selected, zero])⟩
      rwa [if_neg (by simpa using zero)]
    · obtain ⟨names, known, sound⟩ := prepareText_sqlListOfUser typed uid
      refine ⟨names, ?_, sound.1, fun name => (sound.2 name).trans (by simp [Selected, zero])⟩
      rwa [if_pos zero]
  refine ⟨names, ?_, sound⟩
  unfold listing
  rw [ends_prepare, known]
  cases names with
  | nil => rfl
  | cons name rest =>
      have texts : textList ((name :: rest).map fun name => [.str name]) =
          .array ((name :: rest).map .str) := by
        simp [textList, vxdbColumnText, column, Function.comp_def]
      rw [listAnswer, if_neg (List.cons_ne_nil _ _), ← texts]
      rfl

/-- Whose servers are listed. -/
theorem ends_listUid {β : Type} (rest : Int → Method β) :
    ends (listUid user (methodEmptyParam who) >>= rest) world =
      match listOwner (adminIn world.db.oracle user) user who with
      | .error fault => (.failed fault, world)
      | .ok owner => ends (rest ((owner.map (uidIn world.db.oracle)).getD 0)) world := by
  unfold listUid listOwner methodEmptyParam
  rw [bind_assoc, ends_lookup (lookup_authIsadmin user) (answer_authIsadmin _ user)]
  cases adminIn world.db.oracle user with
  | true =>
      cases blank : strIsempty who with
      | true => rfl
      | false => exact ends_lookup (lookup_authGetuid who) (answer_authGetuid _ who) _
  | false =>
      have own : ends (authGetuid user >>= rest) world =
          ends (rest (uidIn world.db.oracle user)) world :=
        ends_lookup (lookup_authGetuid user) (answer_authGetuid _ user) _
      cases blank : strIsempty who with
      | true => exact own
      | false =>
          by_cases same : who = user
          · subst same
            simpa using own
          · have other : user ≠ who := fun equal => same equal.symm
            simp [other, same]
            rfl

/-! ## The request -/

section SameTables

variable {next : Vxdb} (same : SameRows db next)

include same

theorem Typed.of_same (typed : Typed db) : Typed next where
  names := by
    rw [same Table.xidNameMap (by decide)]
    exact typed.names
  uids := by
    rw [same Table.user (by decide)]
    exact typed.uids

theorem names_selected_of_same (uid : Int) (names : List Str) :
    Names next (Selected next uid) names ↔ Names db (Selected db uid) names := by
  have owners : next.rows Table.xidUidMap = db.rows Table.xidUidMap :=
    same Table.xidUidMap (by decide)
  have servers : next.rows Table.xidNameMap = db.rows Table.xidNameMap :=
    same Table.xidNameMap (by decide)
  simp only [Names, Selected, BelongsTo, owners, servers]

end SameTables

/-- What `vxdb.list` answers. -/
theorem ends_mVxdbList (typed : Typed world.db)
    (admitted : authenticationIn (counted world.db).oracle host credentials capInfo = .ok user)
    (asks : params.getStr (cstr "username") = .ok who)
    (accepted : strIsempty who = true ∨ validateUsername who = true) :
    match listOwner (adminIn world.db.oracle user) user who with
    | .error fault => (ends (mVxdbList host (.client credentials params)) world).1 = .failed fault
    | .ok owner => ∃ names,
        (ends (mVxdbList host (.client credentials params)) world).1 = listAnswer names ∧
          Names world.db (Selected world.db ((owner.map (uidIn world.db.oracle)).getD 0)) names := by
  have same := sameRows_counts counts_sqlRequests world.db
  have named : credentials.getStr (cstr "username") = .ok user := by
    unfold authenticationIn at admitted
    obtain ⟨name, known, admitted⟩ := bind_eq_ok.mp admitted
    obtain ⟨pass, -, admitted⟩ := bind_eq_ok.mp admitted
    split at admitted
    · cases admitted
    split at admitted
    · cases admitted
    rw [known, Except.ok.inj admitted]
  have ended : ends (mVxdbList host (.client credentials params)) world =
      ends (listUid user (methodEmptyParam who) >>= listing)
        { world with db := counted world.db } := by
    unfold mVxdbList
    rw [ends_admitted admitted, ends_ofExcept, named]
    dsimp only
    rw [ends_ofExcept, asks]
    dsimp only
    cases blank : strIsempty who with
    | true =>
        simp only [methodEmptyParam, blank, if_true]
        rfl
    | false =>
        have valid := accepted.resolve_left (Bool.eq_false_iff.mp blank)
        simp only [methodEmptyParam, blank, Bool.false_eq_true, if_false, valid, Bool.not_true]
        rfl
  have users := same Table.user (by decide)
  have admin : adminIn (counted world.db).oracle user = adminIn world.db.oracle user :=
    adminIn_of_rows users user
  have uids : uidIn (counted world.db).oracle = uidIn world.db.oracle := by
    funext name
    exact uidIn_of_rows users name
  rw [ended, ends_listUid, admin]
  cases listOwner (adminIn world.db.oracle user) user who with
  | error fault => rfl
  | ok owner =>
      obtain ⟨names, listed, sound⟩ := @ends_listing { world with db := counted world.db }
        (typed.of_same same) ((owner.map (uidIn (counted world.db).oracle)).getD 0)
      rw [uids] at sound
      refine ⟨names, congrArg Prod.fst listed, (names_selected_of_same same _ names).mp sound⟩

/-! ## What is listed and what is owned -/

theorem listAnswer_injective {left right : List Str} (same : listAnswer left = listAnswer right) :
    left = right := by
  unfold listAnswer at same
  split at same
  next leftEmpty =>
    split at same
    next rightEmpty => rw [leftEmpty, rightEmpty]
    next => cases same
  next =>
    split at same
    next => cases same
    next =>
      injection same with same
      injection same with same
      exact List.map_injective_iff.mpr (fun _ _ equal => Xml.str.inj equal) same

/-- Two descriptions of the servers with the same names. -/
theorem Names.same {these those : Row → Prop} {names : List Str} (typed : Typed db)
    (one : Names db these names) (two : Names db those names) {row : Row}
    (mem : row ∈ db.rows Table.xidNameMap) (holds : these row) : those row := by
  obtain ⟨name, known⟩ := typed.names row mem
  obtain ⟨other, otherMem, otherName, otherHolds⟩ :=
    (two.2 name).mp ((one.2 name).mpr ⟨row, mem, known, holds⟩)
  have equal : other = row := by
    refine @eq_of_index db Table.xidNameMap [cstr "name"] (by decide) _ _ otherMem mem ?_
    intro column listed
    obtain rfl := List.mem_singleton.mp listed
    change (serverName other).same (serverName row) = true
    rw [otherName, known]
    exact Value.same_self nofun
  rwa [equal] at otherHolds

/-- A user with a user id owns what belongs to it. -/
theorem Typed.ownedBy_iff (typed : Typed db) {owner : Str} (found : uidIn db.oracle owner ≠ 0)
    (row : Row) : OwnedBy db owner row ↔ BelongsTo db (uidIn db.oracle owner) row := by
  obtain ⟨valid, account, mem, named⟩ := mem_of_uidIn found
  have stored (account : Row) (mem : account ∈ db.rows Table.user)
      (named : Table.user.cell account (cstr "name") = .str owner) :
      Table.user.cell account (cstr "uid") = .int (uidIn db.oracle owner) := by
    obtain ⟨uid, known, small⟩ := typed.uids account mem
    rw [uidIn_of_mem valid mem named, known]
    exact congrArg Value.int small.symm
  constructor
  · rintro ⟨account, mem, named, uid, known, belongs⟩
    obtain rfl := Value.int.inj ((stored account mem named).symm.trans known)
    exact belongs
  · intro belongs
    exact ⟨account, mem, named, _, stored account mem named, belongs⟩

/-- `vxdb.list` answers exactly the servers that are asked for, unless the user id that
stands for them is zero: then everything is listed. -/
theorem lists_exactly_iff (host : Host) (credentials params : Xml) (user who : Str) (world : World)
    (typed : Typed world.db)
    (admitted : authenticationIn (counted world.db).oracle host credentials capInfo = .ok user)
    (asks : params.getStr (cstr "username") = .ok who)
    (accepted : strIsempty who = true ∨ validateUsername who = true) :
    ListsExactly (ends (mVxdbList host (.client credentials params)) world).1 world.db user who ↔
      ∀ owner, listOwner (adminIn world.db.oracle user) user who = .ok (some owner) →
        uidIn world.db.oracle owner ≠ 0 ∨
          ∀ row ∈ world.db.rows Table.xidNameMap, OwnedBy world.db owner row := by
  have answered := ends_mVxdbList typed admitted asks accepted
  unfold ListsExactly
  cases target : listOwner (adminIn world.db.oracle user) user who with
  | error fault =>
      rw [target] at answered
      exact iff_of_true answered nofun
  | ok owner =>
      rw [target] at answered
      obtain ⟨names, outcome, sound⟩ := answered
      cases owner with
      | none =>
          refine iff_of_true ⟨names, outcome, sound.1, fun name => ?_⟩ nofun
          refine (sound.2 name).trans ?_
          simp [Selected]
      | some owner =>
          constructor
          · rintro ⟨others, same, exact⟩ _ ⟨⟩
            obtain rfl := listAnswer_injective (outcome.symm.trans same)
            by_cases found : uidIn world.db.oracle owner = 0
            · refine .inr fun row mem => ?_
              exact sound.same typed exact mem (fun nonzero => absurd found nonzero) owner rfl
            · exact .inl found
          · intro settled
            refine ⟨names, outcome, sound.1, fun name => ?_⟩
            refine (sound.2 name).trans ?_
            refine exists_congr fun row => and_congr_right fun mem => and_congr_right fun _ => ?_
            constructor
            · rintro selected _ ⟨⟩
              rcases settled owner rfl with found | all
              · exact (typed.ownedBy_iff found row).mpr (selected found)
              · exact all row mem
            · intro owned found
              exact (typed.ownedBy_iff found row).mp (owned owner rfl)

/-! ## An unknown user -/

/-- A request for the servers of a user that does not exist. -/
def nobodyParams : Xml :=
  .struct [(cstr "username", .str (cstr "nobody"))]

theorem typed_oneServer : Typed oneServer where
  names row mem := by
    obtain rfl := List.mem_singleton.mp mem
    exact ⟨cstr "web", rfl⟩
  uids row mem := by
    rcases List.mem_cons.mp mem with rfl | mem
    · exact ⟨1, rfl, rfl⟩
    · obtain rfl := List.mem_singleton.mp mem
      exact ⟨2, rfl, rfl⟩

theorem lists_exactly_iff_nobody :
    ListsExactly (ends (mVxdbList default (.client adminCredentials nobodyParams))
        (World.boot oneServer idleKernel)).1 oneServer (cstr "admin") (cstr "nobody") ↔
      ∀ owner, listOwner (adminIn oneServer.oracle (cstr "admin")) (cstr "admin")
          (cstr "nobody") = .ok (some owner) →
        uidIn oneServer.oracle owner ≠ 0 ∨
          ∀ row ∈ oneServer.rows Table.xidNameMap, OwnedBy oneServer owner row :=
  lists_exactly_iff default adminCredentials nobodyParams (cstr "admin") (cstr "nobody")
    (World.boot oneServer idleKernel) typed_oneServer (by rfl) rfl (.inr (by decide))

/-- An administrator who asks for the servers of an unknown user is told all servers. -/
theorem unknown_user_lists_all : ¬ ∀ (host : Host) (credentials params : Xml) (user who : Str)
    (world : World), Typed world.db →
    authenticationIn (counted world.db).oracle host credentials capInfo = .ok user →
    params.getStr (cstr "username") = .ok who →
    strIsempty who = true ∨ validateUsername who = true →
    ListsExactly (ends (mVxdbList host (.client credentials params)) world).1 world.db user who := by
  intro exactness
  have exact := exactness default adminCredentials nobodyParams (cstr "admin") (cstr "nobody")
    (World.boot oneServer idleKernel) typed_oneServer (by rfl) rfl (.inr (by decide))
  have listed : (ends (mVxdbList default (.client adminCredentials nobodyParams))
      (World.boot oneServer idleKernel)).1 = listAnswer [cstr "web"] := by rfl
  have target : listOwner (adminIn (World.boot oneServer idleKernel).db.oracle (cstr "admin"))
      (cstr "admin") (cstr "nobody") = .ok (some (cstr "nobody")) := by rfl
  unfold ListsExactly at exact
  rw [target] at exact
  obtain ⟨names, same, sound⟩ := exact
  obtain rfl := listAnswer_injective (listed.symm.trans same)
  obtain ⟨row, -, -, owned⟩ := (sound.2 (cstr "web")).mp (.head _)
  obtain ⟨account, mem, named, -⟩ := owned _ rfl
  have nobody : ∀ account ∈ oneServer.rows Table.user,
      Table.user.cell account (cstr "name") ≠ .str (cstr "nobody") := by decide
  exact nobody account mem named

end Vcd
