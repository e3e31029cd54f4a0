import Vcd.Endings
import Vcd.Housed
import Mathlib.Data.Int.Interval

/-!
# Free context ids

The search for a free context id, down to the steps of the global statement handle. Looking
up names while the outer query is being stepped finalizes the handle under it.
-/

namespace Vcd

open Sql Process

variable {db : Vxdb} {name : Str} {world : World}

/-! ## The global statement handle -/

/-- The rows the handle has still to give, or nothing if it is finalized, and whether it was
ever stepped without a statement. -/
structure Handle where
  dbr : Option (List Row)
  stale : Bool

/-- The result of a step. -/
inductive StepRc where
  | row (row : Row)
  | done
  | error

namespace Handle

/-- `vxdb_prepare` on the global handle: whether it succeeded. -/
def prepare (db : Vxdb) (sql : List Piece) (handle : Handle) : Bool × Handle :=
  let rows := prepareText db (render sql)
  (rows.isSome, { handle with dbr := rows })

def step (handle : Handle) : StepRc × Handle :=
  match handle.dbr with
  | some (row :: rest) => (.row row, { handle with dbr := some rest })
  | some [] => (.done, handle)
  | none => (.error, { handle with stale := true })

def finalize (handle : Handle) : Handle :=
  { handle with dbr := none }

/-- `vxdb_getname`, which uses the global handle. -/
def vxdbGetname (db : Vxdb) (xid : Int) (handle : Handle) : Option Str × Handle :=
  if !validateXid xid then (none, handle)
  else
    match handle.prepare db (sqlGetname xid) with
    | (false, handle) => (none, handle.finalize)
    | (true, handle) =>
        match handle.step with
        | (.row row, handle) => (some (vxdbColumnText row 0), handle.finalize)
        | (_, handle) => (none, handle.finalize)

/-- The loop over the context ids. -/
def scanFreeXid (db : Vxdb) (xid : Int) : Nat → Handle → Option Int × Handle
  | 0, handle => (none, handle)
  | remaining + 1, handle =>
      match vxdbGetname db xid handle with
      | (none, handle) => (some xid, handle)
      | (some _, handle) => scanFreeXid db (xid + 1) remaining handle

/-- The body of the loop over the result rows. -/
def chooseXid (db : Vxdb) (row : Row) (xid : Int) (handle : Handle) : Int × Handle :=
  let cnt := vxdbColumnInt row 0
  if cnt < 1 then (2, handle)
  else
    let max := vxdbColumnInt row 1
    if max < 65535 then (uint32 (max + 1), handle)
    else if cnt < 65535 then
      let (found, handle) := scanFreeXid db 2 65533 handle
      (found.getD xid, handle)
    else (xid, handle)

/-- `vxdb_foreach_step`; nothing if it needs more than `fuel` steps. -/
def foreachStep (db : Vxdb) : Nat → Int → Handle → Option (Int × StepRc × Handle)
  | 0, _, _ => none
  | fuel + 1, xid, handle =>
      match handle.step with
      | (.row row, handle) =>
          let (xid, handle) := chooseXid db row xid handle
          foreachStep db fuel xid handle
      | (rc, handle) => some (xid, rc, handle)

/-- The environment after the loop; the later fault replaces the earlier one. -/
def envAfter (name : Str) (xid : Int) (rc : StepRc) : Option Fault :=
  let env := match rc with
    | .done => none
    | _ => some (.vxdb (cstr "find_free_xid"))
  if xid = 0 then
    some (.ofFormat .vxdb [.chars (cstr "no free context id available: "), .str name])
  else env

/-- The context id, the environment and the handle after `find_free_xid`. -/
def findFreeXid (db : Vxdb) (name : Str) (fuel : Nat) (xid : Int) (handle : Handle) :
    Option (Int × Option Fault × Handle) :=
  if xid ≠ 0 then some (xid, none, handle)
  else
    match handle.prepare db sqlCountMax with
    | (false, handle) => some (xid, envAfter name xid .error, handle.finalize)
    | (true, handle) => (foreachStep db fuel xid handle).map fun (xid, rc, handle) =>
        (xid, envAfter name xid rc, handle.finalize)

end Handle

/-! ## What the handle does -/

namespace Handle

variable {handle : Handle}

theorem vxdbGetname_fst (db : Vxdb) (xid : Int) (handle : Handle) :
    (vxdbGetname db xid handle).1 = nameIn db.oracle xid := by
  unfold vxdbGetname nameIn prepare Vxdb.oracle
  cases validateXid xid with
  | false => rfl
  | true => rcases prepareText db (render (sqlGetname xid)) with _ | _ | ⟨row, rest⟩ <;> rfl

/-- Looking up a name leaves the handle finalized. -/
theorem vxdbGetname_snd {xid : Int} (valid : validateXid xid = true) :
    (vxdbGetname db xid handle).2 = handle.finalize := by
  unfold vxdbGetname prepare
  rw [valid]
  rcases prepareText db (render (sqlGetname xid)) with _ | _ | ⟨row, rest⟩ <;> rfl

/-- So does a scan that looks up a name. -/
theorem scanFreeXid_snd {xid : Int} {remaining : Nat} (low : 2 ≤ xid) (some : 0 < remaining)
    (high : xid + remaining ≤ 65535) :
    (scanFreeXid db xid remaining handle).2 = handle.finalize := by
  induction remaining generalizing xid handle with
  | zero => exact absurd some (Nat.lt_irrefl 0)
  | succ remaining ih =>
      have valid : validateXid xid = true := by
        simp only [validateXid, Bool.and_eq_true, decide_eq_true_eq]
        omega
      have looked := @vxdbGetname_snd db handle xid valid
      unfold scanFreeXid
      rcases known : vxdbGetname db xid handle with ⟨_ | found, next⟩
      · rw [known] at looked
        exact looked
      · rw [known] at looked
        obtain rfl : next = handle.finalize := looked
        cases remaining with
        | zero => rfl
        | succ more => exact ih (by omega) (Nat.succ_pos _) (by omega)

/-- The scan of the daemon finds what the scan on the handle finds. -/
theorem ends_scanFreeXid {β : Type} (xid : Int) (remaining : Nat) (handle : Handle)
    (rest : Int → Method β) (world : World) :
    ends (Vcd.scanFreeXid xid remaining >>= rest) world =
      ends (rest ((scanFreeXid world.db xid remaining handle).1.getD 0)) world := by
  induction remaining generalizing xid handle with
  | zero => rfl
  | succ remaining ih =>
      unfold Vcd.scanFreeXid scanFreeXid
      rw [bind_assoc, ends_lookup (lookup_vxdbGetname xid) (answer_vxdbGetname _ xid)]
      have looked := vxdbGetname_fst world.db xid handle
      rcases known : vxdbGetname world.db xid handle with ⟨_ | found, next⟩
      · rw [known] at looked
        rw [← looked]
        rfl
      · rw [known] at looked
        rw [← looked]
        exact ih (xid + 1) next

end Handle

/-! ## The table of names -/

/-- The context ids with names are in range. -/
def XidsInRange (db : Vxdb) : Prop :=
  ∀ row ∈ db.rows Table.xidNameMap, ∃ xid, xidOf row = .int xid ∧ 2 ≤ xid ∧ xid ≤ 65535

theorem nodup_xids (inRange : XidsInRange db) :
    ((db.rows Table.xidNameMap).map xidOf).Nodup := by
  refine List.pairwise_map.mpr ((db.distinct Table.xidNameMap).imp_of_mem ?_)
  intro left right leftMem rightMem apart same
  obtain ⟨xid, known, -, -⟩ := inRange left leftMem
  have conflict : vxdbSchema.conflict Table.xidNameMap left right = true := by
    refine vxdbSchema.conflict_iff.mpr ⟨[cstr "xid"], by decide, fun column listed => ?_⟩
    obtain rfl := List.mem_singleton.mp listed
    have value : vxdbSchema.cell Table.xidNameMap left (cstr "xid") = .int xid := known
    have other : vxdbSchema.cell Table.xidNameMap right (cstr "xid") = .int xid :=
      same.symm.trans known
    rw [value, other]
    exact (Value.same_int_right _ _).mpr rfl
  rw [conflict] at apart
  cases apart

/-- There are fewer names than context ids in range and one more. -/
theorem length_lt_of_inRange (inRange : XidsInRange db) :
    (db.rows Table.xidNameMap).length < 65535 := by
  have subset : ((db.rows Table.xidNameMap).map xidOf).toFinset ⊆
      (Finset.Icc (2 : Int) 65535).image Value.int := by
    intro value mem
    obtain ⟨row, rowMem, rfl⟩ := List.mem_map.mp (List.mem_toFinset.mp mem)
    obtain ⟨xid, known, low, high⟩ := inRange row rowMem
    exact Finset.mem_image.mpr ⟨xid, Finset.mem_Icc.mpr ⟨low, high⟩, known.symm⟩
  have card := (Finset.card_le_card subset).trans Finset.card_image_le
  rw [List.toFinset_card_of_nodup (nodup_xids inRange), List.length_map, Int.card_Icc] at card
  omega

/-- The answer to the query for a new context id when there are names. -/
theorem exists_largest (inRange : XidsInRange db) (nonempty : db.rows Table.xidNameMap ≠ []) :
    ∃ cnt max, 1 ≤ cnt ∧ cnt < 65535 ∧ HasName db max ∧ (∀ xid, HasName db xid → xid ≤ max) ∧
      2 ≤ max ∧ max ≤ 65535 ∧
      prepareText db (render sqlCountMax) = some [[.int cnt, .int max]] := by
  have some_xid : (db.rows Table.xidNameMap).map xidOf ≠ [] := by simpa using nonempty
  obtain ⟨row, mem, largest⟩ := List.mem_map.mp (Value.maximum_mem some_xid)
  obtain ⟨max, known, low, high⟩ := inRange row mem
  have counted : ((db.rows Table.xidNameMap).filter fun row =>
      Table.xidNameMap.cell row (cstr "xid") != .null) = db.rows Table.xidNameMap := by
    refine List.filter_eq_self.mpr fun row mem => ?_
    obtain ⟨xid, known, -, -⟩ := inRange row mem
    have value : Table.xidNameMap.cell row (cstr "xid") = .int xid := known
    rw [value]
    rfl
  have few := length_lt_of_inRange inRange
  have many := List.length_pos_iff.mpr nonempty
  refine ⟨(db.rows Table.xidNameMap).length, max, by omega, by omega, ⟨row, mem, known⟩,
    ?_, low, high, ?_⟩
  · rintro xid ⟨other, otherMem, otherKnown⟩
    have below := Value.le_maximum (List.mem_map_of_mem (f := xidOf) otherMem)
    rw [← largest, known, show xidOf other = .int xid from otherKnown] at below
    exact of_decide_eq_true below
  · rw [prepareText_sqlCountMax, counted, ← largest, known]

/-- An allocation as it should be: an acceptable id without a name if there is one, else a
fault; and no finalized handle is stepped. -/
structure Allocates (db : Vxdb) (xid : Int) (env : Option Fault) (handle : Handle) : Prop where
  fresh : (∃ free, validateXid free = true ∧ ¬ HasName db free) →
    env = none ∧ validateXid xid = true ∧ ¬ HasName db xid
  full : (∀ free, validateXid free = true → HasName db free) → env.isSome ∧ xid = 0
  live : handle.stale = false

namespace Handle

variable {handle : Handle}

/-- The search on a table without names. -/
theorem findFreeXid_empty (empty : db.rows Table.xidNameMap = []) (name : Str) (fuel : Nat) :
    findFreeXid db name (fuel + 2) 0 handle = some (2, none, handle.finalize) := by
  unfold findFreeXid prepare
  rw [prepareText_sqlCountMax, empty]
  rfl

/-- The columns of the count and the maximum. -/
theorem columns_countMax {cnt max : Int} (some_xid : 1 ≤ cnt) (few : cnt < 65535) (low : 2 ≤ max)
    (high : max ≤ 65535) : vxdbColumnInt [.int cnt, .int max] 0 = cnt ∧
      vxdbColumnInt [.int cnt, .int max] 1 = max := by
  have cntSmall : int32 cnt = cnt := int32_of_small (by omega) (by omega)
  have maxSmall : int32 max = max := int32_of_small (by omega) (by omega)
  exact ⟨cntSmall, maxSmall⟩

/-- The search below the largest id of all. -/
theorem findFreeXid_next {cnt max : Int} (some_xid : 1 ≤ cnt) (few : cnt < 65535) (low : 2 ≤ max)
    (high : max < 65535) (read : prepareText db (render sqlCountMax) = some [[.int cnt, .int max]])
    (name : Str) (fuel : Nat) :
    findFreeXid db name (fuel + 2) 0 handle = some (max + 1, none, handle.finalize) := by
  obtain ⟨first, second⟩ := columns_countMax some_xid few low (by omega)
  have chosen (handle : Handle) :
      chooseXid db [.int cnt, .int max] 0 handle = (max + 1, handle) := by
    unfold chooseXid
    rw [first, second, if_neg (by omega), if_pos high, uint32_of_small (by omega) (by omega)]
  have nonzero : max + 1 ≠ 0 := by omega
  unfold findFreeXid prepare
  rw [read]
  simp [foreachStep, step, chosen, envAfter, nonzero, finalize]

/-- The search by a scan steps the handle after it finalized it. -/
theorem findFreeXid_scan {cnt : Int} (some_xid : 1 ≤ cnt) (few : cnt < 65535)
    (read : prepareText db (render sqlCountMax) = some [[.int cnt, .int 65535]])
    (name : Str) (fuel : Nat) :
    ∃ xid env, findFreeXid db name (fuel + 2) 0 handle = some (xid, env, ⟨none, true⟩) := by
  obtain ⟨first, second⟩ := columns_countMax some_xid few (by decide) (le_refl (65535 : Int))
  have chosen (handle : Handle) : ∃ xid,
      chooseXid db [.int cnt, .int 65535] 0 handle = (xid, handle.finalize) := by
    have scanned := @scanFreeXid_snd db handle 2 65533 (le_refl 2) (by decide) (by decide)
    unfold chooseXid
    rw [first, second, if_neg (by omega), if_neg (by decide), if_pos few]
    exact ⟨_, Prod.ext rfl scanned⟩
  unfold findFreeXid prepare
  rw [read]
  obtain ⟨xid, known⟩ := chosen ⟨some [], handle.stale⟩
  refine ⟨xid, envAfter name xid .error, ?_⟩
  simp [foreachStep, step, known, finalize]

end Handle

theorem validateXid_iff {xid : Int} : validateXid xid = true ↔ 2 ≤ xid ∧ xid < 65535 := by
  simp only [validateXid, Bool.and_eq_true, decide_eq_true_eq]
  omega

/-- The next id below the last acceptable one. -/
theorem allocates_next {xid : Int} (valid : validateXid xid = true) (unnamed : ¬ HasName db xid)
    {handle : Handle} (live : handle.stale = false) : Allocates db xid none handle where
  fresh _ := ⟨rfl, valid, unnamed⟩
  full all := absurd (all xid valid) unnamed
  live := live

/-- An id that is not acceptable is no allocation, whether there is a free one or not. -/
theorem not_allocates_invalid {xid : Int} (invalid : validateXid xid = false) {handle : Handle} :
    ¬ Allocates db xid none handle := by
  intro allocates
  by_cases free : ∃ free, validateXid free = true ∧ ¬ HasName db free
  · have valid := (allocates.fresh free).2.1
    rw [invalid] at valid
    cases valid
  · have all : ∀ xid, validateXid xid = true → HasName db xid := fun xid valid =>
      by_contra fun unnamed => free ⟨xid, valid, unnamed⟩
    cases (allocates.full all).1

/-- The search for a context id does as it should exactly if the last acceptable id and the id
after it have no names. -/
theorem findFreeXid_allocates_iff (inRange : XidsInRange db) (name : Str) {handle : Handle}
    (live : handle.stale = false) {fuel : Nat} (enough : 2 ≤ fuel) :
    ∃ xid env last, Handle.findFreeXid db name fuel 0 handle = some (xid, env, last) ∧
      (Allocates db xid env last ↔ ∀ taken, HasName db taken → taken < 65534) := by
  obtain ⟨fuel, rfl⟩ := Nat.exists_eq_add_of_le' enough
  by_cases empty : db.rows Table.xidNameMap = []
  · have none_named : ∀ xid, ¬ HasName db xid := by
      rintro xid ⟨row, mem, -⟩
      rw [empty] at mem
      cases mem
    refine ⟨_, _, _, Handle.findFreeXid_empty empty name fuel, ?_⟩
    exact iff_of_true (allocates_next (by decide) (none_named 2) live)
      fun taken named => absurd named (none_named taken)
  · obtain ⟨cnt, max, some_xid, few, named, largest, low, high, read⟩ :=
      exists_largest inRange empty
    have unnamed : ¬ HasName db (max + 1) := fun named => by
      have := largest _ named
      omega
    by_cases scan : max = 65535
    · subst scan
      obtain ⟨xid, env, found⟩ := @Handle.findFreeXid_scan db handle cnt some_xid few read name fuel
      refine ⟨xid, env, _, found, iff_of_false (fun allocates => ?_) fun below => ?_⟩
      · cases allocates.live
      · exact absurd (below _ named) (by decide)
    · refine ⟨_, _, _, Handle.findFreeXid_next some_xid few low (by omega) read name fuel, ?_⟩
      by_cases last : max = 65534
      · subst last
        exact iff_of_false (not_allocates_invalid (by decide)) fun below =>
          absurd (below _ named) (by decide)
      · refine iff_of_true (allocates_next (validateXid_iff.mpr ⟨by omega, by omega⟩) unnamed live)
          fun taken known => ?_
        have below := largest taken known
        omega

/-- The loop over a result of one row. -/
theorem Handle.foreachStep_single {fuel : Nat} {xid chosen : Int} {row : Row} {rc : StepRc}
    {handle next last : Handle} {result : Int × StepRc × Handle}
    (single : handle.dbr = some [row])
    (choice : chooseXid db row xid { handle with dbr := some [] } = (chosen, next))
    (ended : next.step = (rc, last)) (noRow : ∀ found, rc ≠ .row found)
    (looped : foreachStep db fuel xid handle = some result) : result = (chosen, rc, last) := by
  have first : handle.step = (.row row, { handle with dbr := some [] }) := by
    unfold step
    rw [single]
  cases fuel with
  | zero => cases looped
  | succ fuel =>
      unfold foreachStep at looped
      rw [first] at looped
      simp only [choice] at looped
      cases fuel with
      | zero => cases looped
      | succ fuel =>
          unfold foreachStep at looped
          rw [ended] at looped
          cases rc with
          | row found => exact absurd rfl (noRow found)
          | done => exact (Option.some.inj looped).symm
          | error => exact (Option.some.inj looped).symm

/-- A database with one name. -/
def oneName (xid : Int) : Vxdb :=
  (freshVxdb 0).replace Table.xidNameMap [.int xid, .str (cstr "web")]

theorem inRange_oneName {xid : Int} (low : 2 ≤ xid) (high : xid ≤ 65535) :
    XidsInRange (oneName xid) := by
  intro row mem
  obtain rfl := List.mem_singleton.mp (show row ∈ [[.int xid, .str (cstr "web")]] from mem)
  exact ⟨xid, rfl, low, high⟩

theorem findFreeXid_allocates_middle : ∃ xid env last,
    Handle.findFreeXid (oneName 5) (cstr "new") 2 0 ⟨none, false⟩ = some (xid, env, last) ∧
      (Allocates (oneName 5) xid env last ↔ ∀ taken, HasName (oneName 5) taken → taken < 65534) :=
  findFreeXid_allocates_iff (inRange_oneName (by decide) (by decide)) (cstr "new") rfl (le_refl 2)

/-- Above the last acceptable id the search goes on with an id that is not acceptable. -/
theorem findFreeXid_unacceptable : ¬ ∀ (db : Vxdb) (name : Str) (handle : Handle) (fuel : Nat)
    (xid : Int) (env : Option Fault) (last : Handle), XidsInRange db → handle.stale = false →
      Handle.findFreeXid db name fuel 0 handle = some (xid, env, last) →
      Allocates db xid env last := by
  intro allocation
  have found := @Handle.findFreeXid_next (oneName 65534) ⟨none, false⟩ 1 65534 (by decide)
    (by decide) (by decide) (by decide) (by decide +kernel) (cstr "new") 0
  have allocates := allocation _ _ _ _ _ _ _ (inRange_oneName (by decide) (by decide)) rfl found
  exact not_allocates_invalid (by decide) allocates

/-! ## The search of a request -/

/-- How `find_free_xid` ends, by the context id and the environment. -/
def allocated (xid : Int) : Option Fault → Process.Outcome Fault Int
  | none => .returned xid
  | some fault => .failed fault

/-- The last step finds the result at its end, or the handle finalized. -/
def Ended (finalized : Bool) (rc : StepRc) : Prop :=
  (finalized = false ∧ rc = .done) ∨ (finalized = true ∧ rc = .error)

/-- What follows the loop. -/
theorem ends_allocated (xid : Int) {finalized : Bool} {rc : StepRc}
    (ended : Ended finalized rc) :
    ends (do
        if xid = 0 then noFreeXid name
        if finalized then vxdbFault (cstr "find_free_xid")
        return xid : Method Int) world =
      (allocated xid (Handle.envAfter name xid rc), world) := by
  unfold Handle.envAfter
  by_cases zero : xid = 0
  · rw [if_pos zero, if_pos zero]
    rfl
  · rw [if_neg zero, if_neg zero]
    rcases ended with ⟨rfl, rfl⟩ | ⟨rfl, rfl⟩ <;> rfl

/-- The choice of the daemon's model is the choice on the handle. -/
theorem ends_chooseXid {β : Type} (row : Row) (rest : Int × Bool → Method β) {handle : Handle}
    (finished : handle.dbr = some []) : ∃ xid finalized rc next last,
      Handle.chooseXid world.db row 0 handle = (xid, next) ∧ next.step = (rc, last) ∧
      Ended finalized rc ∧ ends (chooseXid row >>= rest) world = ends (rest (xid, finalized)) world := by
  have done : handle.step = (.done, handle) := by
    unfold Handle.step
    rw [finished]
  unfold chooseXid Handle.chooseXid
  by_cases empty : vxdbColumnInt row 0 < 1
  · simp only [empty, if_true]
    exact ⟨_, _, _, _, _, rfl, done, .inl ⟨rfl, rfl⟩, rfl⟩
  by_cases below : vxdbColumnInt row 1 < 65535
  · simp only [empty, below, if_true, if_false]
    exact ⟨_, _, _, _, _, rfl, done, .inl ⟨rfl, rfl⟩, rfl⟩
  by_cases few : vxdbColumnInt row 0 < 65535
  · have scanned := @Handle.scanFreeXid_snd world.db handle 2 65533 (le_refl 2) (by decide)
      (by decide)
    simp only [empty, below, few, if_true, if_false]
    refine ⟨_, true, .error, handle.finalize, ⟨none, true⟩, Prod.ext rfl scanned, rfl,
      .inr ⟨rfl, rfl⟩, ?_⟩
    rw [bind_assoc, Handle.ends_scanFreeXid 2 65533 handle]
    rfl
  · simp only [empty, below, few, if_false]
    exact ⟨_, _, _, _, _, rfl, done, .inl ⟨rfl, rfl⟩, rfl⟩

/-- The search of the daemon's model is the search on the handle. -/
theorem ends_findFreeXid {fuel : Nat} {handle last : Handle} {xid : Int} {env : Option Fault}
    (found : Handle.findFreeXid world.db name fuel 0 handle = some (xid, env, last)) :
    ends (findFreeXid name 0) world = (allocated xid env, world) := by
  unfold Handle.findFreeXid Handle.prepare at found
  unfold findFreeXid
  rw [if_neg (by decide)] at found
  simp only [ne_eq, not_true_eq_false, if_false]
  rw [ends_prepare]
  rw [prepareText_sqlCountMax] at found ⊢
  generalize ([_, _] : Row) = row at found ⊢
  obtain ⟨result, looped, same⟩ := Option.map_eq_some_iff.mp found
  obtain ⟨chosen, finalized, rc, next, after, choice, stepped, ended, ran⟩ :=
    @ends_chooseXid world _ row (fun chosen => do
      if chosen.1 = 0 then noFreeXid name
      if chosen.2 then vxdbFault (cstr "find_free_xid")
      return chosen.1) ⟨some [], handle.stale⟩ rfl
  have noRow : ∀ found, rc ≠ .row found := by
    rcases ended with ⟨-, rfl⟩ | ⟨-, rfl⟩ <;> exact fun _ equal => by cases equal
  obtain rfl := @Handle.foreachStep_single world.db fuel 0 chosen row rc
    ⟨some [row], handle.stale⟩ next after result rfl choice stepped noRow looped
  obtain ⟨rfl, rfl, -⟩ := same
  exact ran.trans (ends_allocated _ ended)

end Vcd
