import Vcd.Addresses
import Vcd.Methods.Queries
import Mathlib.Data.List.TakeWhile

/-!
# Resource limits in bytes and in pages

`vxdb.vx.limit.set` stores the page-counted limits in pages, and `vxdb.vx.limit.get` turns
them back into the unit of the request. Both conversions multiply modulo two to the power
of 64.
-/

namespace Vcd

open Sql Process

variable {host : Host} {params : Xml} {name type : Str} {soft max : Int}
  {sql : Int → List Piece}

/-! ## Numbers and their texts -/

theorem charIsdigit_digitChar {digit : Nat} (small : digit < 10) :
    charIsdigit digit.digitChar = true ∧ digit.digitChar.toNat - 48 = digit := by
  interval_cases digit <;> decide

theorem foldl_toDigits (value : Nat) :
    (Nat.toDigits 10 value).foldl (fun value char => value * 10 + (char.toNat - 48)) 0 = value ∧
      (Nat.toDigits 10 value).all charIsdigit = true := by
  induction value using Nat.strong_induction_on with
  | _ value ih =>
      by_cases small : value < 10
      · rw [Nat.toDigits_of_lt_base small]
        simp [charIsdigit_digitChar small]
      · obtain ⟨folded, digits⟩ := ih (value / 10) (by omega)
        have last : value % 10 < 10 := Nat.mod_lt _ (by decide)
        rw [Nat.toDigits_of_base_le (by decide) (by omega)]
        simp [folded, digits, charIsdigit_digitChar last]
        omega

theorem scanDigits_toDigits (value : Nat) : scanDigits (Nat.toDigits 10 value) = value := by
  obtain ⟨folded, digits⟩ := foldl_toDigits value
  unfold scanDigits
  rw [List.takeWhile_eq_self_iff.mpr (List.all_eq_true.mp digits), folded]

theorem decimal_of_nonneg {value : Int} (nonneg : 0 ≤ value) :
    decimal value = Nat.toDigits 10 value.natAbs := by
  unfold decimal
  rw [if_neg (by omega)]

/-- What is printed is read back. -/
theorem scanDigits_decimal {value : Int} (nonneg : 0 ≤ value) :
    (scanDigits (decimal value) : Int) = value := by
  rw [decimal_of_nonneg nonneg, scanDigits_toDigits]
  omega

theorem strIsdigit_decimal {value : Int} (nonneg : 0 ≤ value) :
    strIsdigit (decimal value) = true := by
  rw [decimal_of_nonneg nonneg]
  exact (foldl_toDigits value.natAbs).2

theorem scanInt_of_isdigit {text : Str} (digit : strIsdigit text = true) :
    scanInt text = scanDigits text := by
  unfold scanInt
  split
  next => simp [strIsdigit, charIsdigit] at digit
  next => simp [strIsdigit, charIsdigit] at digit
  next => rfl

/-! ## Units -/

/-- A limit as it is stored. -/
def limitStored (host : Host) (type : Str) (value : Int) : Int :=
  if limtype.contains type then bytestopages host value else value

/-- A stored limit as it is returned. -/
def limitReturned (host : Host) (type : Str) (value : Int) : Int :=
  if limtype.contains type then pagestobytes host value else value

/-- The page size is a power of two, and a page has at least the size of the unit. -/
structure PageSize (host : Host) (exponent : Nat) : Prop where
  power : host.pagesize = 2 ^ exponent
  unit : 10 ≤ exponent
  small : exponent < 64

/-- The number of units in a page. -/
def unitsOf (exponent : Nat) : Int :=
  2 ^ (exponent - 10)

theorem unitsOf_pos (exponent : Nat) : 0 < unitsOf exponent :=
  pow_pos (by decide) _

section Pages

variable {exponent : Nat} (page : PageSize host exponent)

include page

theorem PageSize.eq_units : (host.pagesize : Int) = unitsOf exponent * 1024 := by
  obtain ⟨more, rfl⟩ := Nat.exists_eq_add_of_le page.unit
  rw [page.power, unitsOf, Nat.add_sub_cancel_left, pow_add]
  push_cast
  exact mul_comm _ _

theorem PageSize.units_le : unitsOf exponent ≤ 2 ^ 53 :=
  pow_le_pow_right₀ (by decide) (by have := page.small; omega)

/-- What is stored counts whole pages, of what is left modulo two to the power of 54. -/
theorem bytestopages_eq (bytes : Int) :
    bytestopages host bytes = bytes % 2 ^ 54 / unitsOf exponent := by
  have scaled : bytes * 1024 % 2 ^ 64 = bytes % 2 ^ 54 * 1024 := by omega
  unfold bytestopages uint64
  rw [page.eq_units, scaled, Int.mul_ediv_mul_of_pos_left _ _ (by decide)]

/-- What is returned are the whole pages. -/
theorem pagestobytes_bytestopages (bytes : Int) :
    pagestobytes host (bytestopages host bytes) =
      bytes % 2 ^ 54 / unitsOf exponent * unitsOf exponent := by
  rw [bytestopages_eq page]
  have positive := unitsOf_pos exponent
  have whole := Int.ediv_mul_le (bytes % 2 ^ 54) (ne_of_gt positive)
  have below := Int.emod_lt_of_pos bytes (by decide : (0 : Int) < 2 ^ 54)
  have pages : 0 ≤ bytes % 2 ^ 54 / unitsOf exponent :=
    Int.ediv_nonneg (Int.emod_nonneg _ (by decide)) positive.le
  have units := mul_nonneg pages positive.le
  unfold pagestobytes uint64
  rw [page.eq_units, ← mul_assoc, Int.emod_eq_of_lt (by omega) (by omega),
    Int.mul_ediv_cancel _ (by decide)]

/-- A value comes back as the last whole page below it exactly if it does not overflow. -/
theorem pagestobytes_close_iff {bytes : Int} (nonneg : 0 ≤ bytes) :
    (pagestobytes host (bytestopages host bytes) ≤ bytes ∧
      bytes < pagestobytes host (bytestopages host bytes) + host.pagesize / 1024) ↔
        bytes < 2 ^ 54 := by
  have positive := unitsOf_pos exponent
  have small := page.units_le
  have whole := Int.ediv_mul_le (bytes % 2 ^ 54) (ne_of_gt positive)
  have next := Int.lt_ediv_add_one_mul_self (bytes % 2 ^ 54) positive
  rw [add_mul, one_mul] at next
  rw [pagestobytes_bytestopages page, page.eq_units, Int.mul_ediv_cancel _ (by decide)]
  omega

/-- Values that do not overflow keep their order. -/
theorem bytestopages_le {soft max : Int} (nonneg : 0 ≤ soft) (ordered : soft ≤ max)
    (small : max < 2 ^ 54) : bytestopages host soft ≤ bytestopages host max := by
  rw [bytestopages_eq page, bytestopages_eq page, Int.emod_eq_of_lt nonneg (by omega),
    Int.emod_eq_of_lt (by omega) small]
  exact Int.ediv_le_ediv (unitsOf_pos exponent) ordered

/-- What is returned is stored as the same number of pages. -/
theorem bytestopages_pagestobytes (bytes : Int) :
    bytestopages host (pagestobytes host (bytestopages host bytes)) = bytestopages host bytes := by
  have positive := unitsOf_pos exponent
  have whole := Int.ediv_mul_le (bytes % 2 ^ 54) (ne_of_gt positive)
  have below := Int.emod_lt_of_pos bytes (by decide : (0 : Int) < 2 ^ 54)
  have units := mul_nonneg (Int.ediv_nonneg (Int.emod_nonneg bytes (by decide : (2 : Int) ^ 54 ≠ 0))
    positive.le) positive.le
  rw [pagestobytes_bytestopages page, bytestopages_eq page, bytestopages_eq page,
    Int.emod_eq_of_lt units (by omega), Int.mul_ediv_cancel _ (ne_of_gt positive)]

end Pages

/-! ## Requests -/

/-- The type and the limits of a request, as unsigned numbers of 64 bits. -/
structure LimitOf (params : Xml) (type : Str) (soft max : Int) : Prop where
  type_eq : params.getStr (cstr "type") = .ok type
  soft_eq : ∃ text, params.getStr (cstr "soft") = .ok text ∧ text ≠ [] ∧
    (scanDigits text : Int) = soft
  max_eq : ∃ text, params.getStr (cstr "max") = .ok text ∧ text ≠ [] ∧
    (scanDigits text : Int) = max
  soft_small : soft < 2 ^ 64
  max_small : max < 2 ^ 64

theorem scanUnsigned_eq {text : Str} {value : Int} (nonempty : text ≠ [])
    (read : (scanDigits text : Int) = value) (small : value < 2 ^ 64) :
    scanUnsigned uint64 crlimKeep text = value := by
  unfold scanUnsigned uint64
  rw [if_neg nonempty, read]
  omega

/-- What is known about an accepted request. -/
theorem LimitOf.accepted (limits : LimitOf params type soft max)
    (accepted : vxLimitSetRequest host params = .ok (name, sql)) :
    validateRlimit type = true ∧ validateRlimits soft max = true ∧
      sql = sqlVxLimitSet type (limitStored host type soft) (limitStored host type max) := by
  obtain ⟨softText, softEq, softNonempty, softRead⟩ := limits.soft_eq
  obtain ⟨maxText, maxEq, maxNonempty, maxRead⟩ := limits.max_eq
  obtain ⟨readName, -, accepted⟩ := bind_eq_ok.mp accepted
  obtain ⟨readType, readTypeEq, accepted⟩ := bind_eq_ok.mp accepted
  obtain ⟨readSoft, readSoftEq, accepted⟩ := bind_eq_ok.mp accepted
  obtain ⟨readMax, readMaxEq, accepted⟩ := bind_eq_ok.mp accepted
  obtain rfl : readType = type := Except.ok.inj (readTypeEq.symm.trans limits.type_eq)
  obtain rfl : readSoft = softText := Except.ok.inj (readSoftEq.symm.trans softEq)
  obtain rfl : readMax = maxText := Except.ok.inj (readMaxEq.symm.trans maxEq)
  simp only [refuse_bind, scanUnsigned_eq softNonempty softRead limits.soft_small,
    scanUnsigned_eq maxNonempty maxRead limits.max_small] at accepted
  split at accepted
  next => cases accepted
  split at accepted
  next => cases accepted
  split at accepted
  next => cases accepted
  next validType =>
    split at accepted
    next => cases accepted
    next validLimits =>
      refine ⟨by simpa using validType, by simpa using validLimits, ?_⟩
      unfold limitStored
      cases known : limtype.contains readType <;> rw [known] at accepted <;>
        exact (congrArg Prod.snd (Except.ok.inj accepted)).symm

/-- The parameters of a request for limits that are numbers. -/
def limitParams (name type : Str) (soft max : Int) : Xml :=
  .struct [(cstr "name", .str name), (cstr "type", .str type), (cstr "soft", .str (decimal soft)),
    (cstr "max", .str (decimal max))]

theorem decimal_ne_nil {value : Int} (nonneg : 0 ≤ value) : decimal value ≠ [] := by
  rw [decimal_of_nonneg nonneg]
  exact Nat.toDigits_ne_nil

/-- Valid limits are accepted. -/
theorem vxLimitSetRequest_limitParams (host : Host) (name : Str)
    (validType : validateRlimit type = true) (softNonneg : 0 ≤ soft) (maxNonneg : 0 ≤ max)
    (softSmall : soft < 2 ^ 64) (maxSmall : max < 2 ^ 64)
    (valid : validateRlimits soft max = true) :
    vxLimitSetRequest host (limitParams name type soft max) =
      .ok (name, sqlVxLimitSet type (limitStored host type soft) (limitStored host type max)) := by
  have softEq : (limitParams name type soft max).getStr (cstr "soft") = .ok (decimal soft) := rfl
  have maxEq : (limitParams name type soft max).getStr (cstr "max") = .ok (decimal max) := rfl
  have nameEq : (limitParams name type soft max).getStr (cstr "name") = .ok name := rfl
  have typeEq : (limitParams name type soft max).getStr (cstr "type") = .ok type := rfl
  have softScan := scanUnsigned_eq (decimal_ne_nil softNonneg) (scanDigits_decimal softNonneg)
    softSmall
  have maxScan := scanUnsigned_eq (decimal_ne_nil maxNonneg) (scanDigits_decimal maxNonneg) maxSmall
  unfold vxLimitSetRequest limitStored
  simp only [nameEq, typeEq, softEq, maxEq, bind, Except.bind, strIsdigit_decimal softNonneg,
    strIsdigit_decimal maxNonneg, softScan, maxScan, validType, valid, Bool.not_true,
    Bool.false_eq_true, if_false]
  cases limtype.contains type <;> rfl

/-! ## What is stored and what is returned -/

/-- A stored row of limits. -/
def limitRow (xid : Int) (type : Str) (soft max : Int) : Row :=
  [.int (int32 xid), .str type, .str (decimal soft), .str (decimal max)]

theorem quoteFree_of_validateRlimit (valid : validateRlimit type = true) : QuoteFree type :=
  quoteFree_of_mem_list (List.mem_append_right _ (mem_of_validateListed valid))

theorem execText_sqlVxLimitSet (free : QuoteFree type) (soft max xid : Int) (db : Vxdb) :
    (execText db (render (sqlVxLimitSet type soft max xid))).1 =
      db.replace Table.vxLimit (limitRow xid type soft max) := by
  have read : readCommands (sqlVxLimitSet type soft max xid) = some [some (.change
      (.replace Table.vxLimit [.int (int32 xid), .str (valueOf type), .str (decimal soft),
        .str (decimal max)]))] := by
    rfl
  rw [valueOf_quoteFree free] at read
  refine (mem_execText_replace ?_ read db).2
  simp [sqlVxLimitSet, xidPiece, Piece.Closed, unquote_of_quoteFree free]

/-- One item of the answer of `vxdb.vx.limit.get`. -/
def limitItem (host : Host) (row : Row) : Xml :=
  let typedb := vxdbColumnText row 0
  .struct [(cstr "type", .str typedb),
    (cstr "soft", .str (decimal (limitReturned host typedb (vxdbColumnUint64 row 1)))),
    (cstr "max", .str (decimal (limitReturned host typedb (vxdbColumnUint64 row 2))))]

def sqlLimitGet (type : Str) (xid : Int) : List Piece :=
  sqlOfXid (cstr "SELECT type,soft,max FROM vx_limit") xid ++
    [.chars (cstr " AND "), .chars (cstr "type"), .chars (cstr " = '"), .str type,
      .chars (cstr "'")]

theorem mVxdbVxLimitGet_eq (host : Host) : mVxdbVxLimitGet host =
    configGet host (cstr "m_vxdb_vx_limit_get") capRlim owned
      (keyRequest (cstr "SELECT type,soft,max FROM vx_limit") (cstr "type") validateRlimit
        (cstr "invalid type value: ") []) fun rows => .array (rows.map (limitItem host)) := rfl

theorem prepareText_sqlLimitGet (free : QuoteFree type) (xid : Int) (db : Vxdb) :
    prepareText db (render (sqlLimitGet type xid)) =
      some (((db.rows Table.vxLimit).filter fun row =>
        (Table.vxLimit.cell row (cstr "xid")).same (.int (int32 xid)) &&
          (Table.vxLimit.cell row (cstr "type")).same (.str type)).map fun row =>
        [Table.vxLimit.cell row (cstr "type"), Table.vxLimit.cell row (cstr "soft"),
          Table.vxLimit.cell row (cstr "max")]) := by
  rw [@prepareText_plain vxdbSchema (sqlLimitGet type xid) {
      projections := [.column none (cstr "type"), .column none (cstr "soft"),
        .column none (cstr "max")]
      table := cstr "vx_limit", join := none
      condition := some (.and (.eq (.column none (cstr "xid")) (.int (int32 xid)))
        (.eq (.column none (cstr "type")) (.str type)))
      order := none, limit := none } Table.vxLimit
    (by simp [sqlLimitGet, sqlOfXid, xidPiece, Piece.Free, free]) (by rfl)
    ⟨by rfl, by rfl, by rfl, by rfl, by rfl, by rfl⟩]
  rfl

/-- After limits are stored, the query for their type reads them and nothing else. -/
theorem prepareText_stored (free : QuoteFree type) (soft max xid : Int) (db : Vxdb) :
    prepareText (execText db (render (sqlVxLimitSet type soft max xid))).1
      (render (sqlLimitGet type xid)) = some [[.str type, .str (decimal soft), .str (decimal max)]] := by
  rw [execText_sqlVxLimitSet free, prepareText_sqlLimitGet free, Database.rows_replace_same,
    List.filter_append]
  have others : (db.spared Table.vxLimit (limitRow xid type soft max)).filter (fun row =>
      (Table.vxLimit.cell row (cstr "xid")).same (.int (int32 xid)) &&
        (Table.vxLimit.cell row (cstr "type")).same (.str type)) = [] := by
    refine List.filter_eq_nil_iff.mpr fun row mem selected => ?_
    rw [Bool.and_eq_true] at selected
    have apart := (List.mem_filter.mp mem).2
    have conflict : vxdbSchema.conflict Table.vxLimit row (limitRow xid type soft max) = true := by
      refine vxdbSchema.conflict_iff.mpr ⟨[cstr "xid", cstr "type"], by decide, fun column listed => ?_⟩
      simp only [List.mem_cons, List.not_mem_nil, or_false] at listed
      rcases listed with rfl | rfl
      · exact selected.1
      · exact selected.2
    rw [conflict] at apart
    cases apart
  have own : ((Table.vxLimit.cell (limitRow xid type soft max) (cstr "xid")).same
      (.int (int32 xid)) && (Table.vxLimit.cell (limitRow xid type soft max) (cstr "type")).same
        (.str type)) = true :=
    Bool.and_eq_true_iff.mpr ⟨(Value.same_int_right _ _).mpr rfl, (Value.same_str_right _ _).mpr rfl⟩
  rw [others, List.nil_append, List.filter_cons, if_pos own]
  rfl

/-- A value as the item of the answer has it, after it was stored. -/
def limitBack (host : Host) (type : Str) (value : Int) : Int :=
  limitReturned host type (limitStored host type value)

/-- The item of the answer for stored limits. -/
theorem limitItem_stored (host : Host) (type : Str) {soft max : Int} (softNonneg : 0 ≤ soft)
    (maxNonneg : 0 ≤ max) (softSmall : soft < 2 ^ 64) (maxSmall : max < 2 ^ 64) :
    limitItem host [.str type, .str (decimal soft), .str (decimal max)] =
      .struct [(cstr "type", .str type),
        (cstr "soft", .str (decimal (limitReturned host type soft))),
        (cstr "max", .str (decimal (limitReturned host type max)))] := by
  have column {value : Int} (nonneg : 0 ≤ value) (small : value < 2 ^ 64) :
      uint64 (scanInt (decimal value)) = value := by
    rw [scanInt_of_isdigit (strIsdigit_decimal nonneg), scanDigits_decimal nonneg]
    exact Int.emod_eq_of_lt nonneg small
  have softColumn : vxdbColumnUint64 [.str type, .str (decimal soft), .str (decimal max)] 1 = soft :=
    column softNonneg softSmall
  have maxColumn : vxdbColumnUint64 [.str type, .str (decimal soft), .str (decimal max)] 2 = max :=
    column maxNonneg maxSmall
  unfold limitItem
  rw [softColumn, maxColumn]
  rfl

/-- A value comes back as it was, or as the whole page below it. -/
def ComesBack (host : Host) (type : Str) (value : Int) : Prop :=
  if limtype.contains type then
    limitBack host type value ≤ value ∧ value < limitBack host type value + host.pagesize / 1024
  else limitBack host type value = value

/-- Limits survive the conversion: they come back, setting what came back stores the same, and
they keep their order. -/
structure Survives (host : Host) (name type : Str) (soft max : Int) : Prop where
  soft_back : ComesBack host type soft
  max_back : ComesBack host type max
  again : vxLimitSetRequest host (limitParams name type (limitBack host type soft)
    (limitBack host type max)) = .ok (name, sqlVxLimitSet type (limitStored host type soft)
      (limitStored host type max))
  ordered : soft ≤ max → limitStored host type soft ≤ limitStored host type max

section Back

variable {exponent : Nat} (page : PageSize host exponent)

include page

theorem comesBack_iff {value : Int} (nonneg : 0 ≤ value) :
    ComesBack host type value ↔ (limtype.contains type = true → value < 2 ^ 54) := by
  unfold ComesBack limitBack limitReturned limitStored
  cases limtype.contains type with
  | false => simp
  | true =>
      simp only [if_true, forall_const]
      exact pagestobytes_close_iff page nonneg

theorem limitStored_limitBack (value : Int) :
    limitStored host type (limitBack host type value) = limitStored host type value := by
  unfold limitBack limitReturned limitStored
  cases limtype.contains type with
  | false => rfl
  | true => exact bytestopages_pagestobytes page value

/-- What comes back is not above what was set. -/
theorem limitBack_bounds {value : Int} (nonneg : 0 ≤ value) :
    0 ≤ limitBack host type value ∧ limitBack host type value ≤ value := by
  unfold limitBack limitReturned limitStored
  cases limtype.contains type with
  | false => exact ⟨nonneg, le_refl value⟩
  | true =>
      have whole := Int.ediv_mul_le (value % 2 ^ 54) (ne_of_gt (unitsOf_pos exponent))
      have units := mul_nonneg (Int.ediv_nonneg (Int.emod_nonneg value
        (by decide : (2 : Int) ^ 54 ≠ 0)) (unitsOf_pos exponent).le) (unitsOf_pos exponent).le
      simp only [if_true]
      rw [pagestobytes_bytestopages page]
      omega

/-- Stored limits are unsigned numbers of 64 bits. -/
theorem limitStored_bounds {value : Int} (nonneg : 0 ≤ value) (small : value < 2 ^ 64) :
    0 ≤ limitStored host type value ∧ limitStored host type value < 2 ^ 64 := by
  unfold limitStored
  cases limtype.contains type with
  | false => exact ⟨nonneg, small⟩
  | true =>
      have low : 0 ≤ value % 2 ^ 54 := Int.emod_nonneg value (by decide)
      have pages := Int.ediv_nonneg low (unitsOf_pos exponent).le
      have fewer := Int.ediv_le_self (unitsOf exponent) low
      simp only [if_true]
      rw [bytestopages_eq page]
      omega

end Back

/-- Valid limits are those below the two special values. -/
theorem validateRlimits_iff (softSmall : soft < 2 ^ 64) (maxSmall : max < 2 ^ 64) :
    validateRlimits soft max = true ↔ soft < 2 ^ 64 - 2 ∧ max < 2 ^ 64 - 2 := by
  unfold validateRlimits crlimKeep crlimInfinity
  grind

theorem LimitOf.nonneg (limits : LimitOf params type soft max) : 0 ≤ soft ∧ 0 ≤ max := by
  obtain ⟨softText, -, -, softRead⟩ := limits.soft_eq
  obtain ⟨maxText, -, -, maxRead⟩ := limits.max_eq
  omega

/-- Valid limits survive exactly if they do not overflow when they are counted in pages. -/
theorem survives_iff {exponent : Nat} (page : PageSize host exponent) (name : Str)
    (validType : validateRlimit type = true) (valid : validateRlimits soft max = true)
    (softNonneg : 0 ≤ soft) (maxNonneg : 0 ≤ max) (softSmall : soft < 2 ^ 64)
    (maxSmall : max < 2 ^ 64) : Survives host name type soft max ↔
      (limtype.contains type = true → soft < 2 ^ 54 ∧ max < 2 ^ 54) := by
  constructor
  · intro survives paged
    exact ⟨(comesBack_iff page softNonneg).mp survives.soft_back paged,
      (comesBack_iff page maxNonneg).mp survives.max_back paged⟩
  · intro small
    refine ⟨(comesBack_iff page softNonneg).mpr fun paged => (small paged).1,
      (comesBack_iff page maxNonneg).mpr fun paged => (small paged).2, ?_, fun ordered => ?_⟩
    · have softBounds := @limitBack_bounds host type _ page soft softNonneg
      have maxBounds := @limitBack_bounds host type _ page max maxNonneg
      have below := (validateRlimits_iff softSmall maxSmall).mp valid
      have accepted := vxLimitSetRequest_limitParams host name validType softBounds.1 maxBounds.1
        (by omega) (by omega) ((validateRlimits_iff (by omega) (by omega)).mpr (by omega))
      rwa [limitStored_limitBack page, limitStored_limitBack page] at accepted
    · unfold limitStored
      cases paged : limtype.contains type with
      | false => exact ordered
      | true => exact bytestopages_le page softNonneg ordered (small paged).2

/-- Limits that are set are returned by the query for their type, and survive exactly if the type
is not counted in pages or both are below two to the power of 54. -/
theorem limits_survive_iff {exponent : Nat} (page : PageSize host exponent)
    (accepted : vxLimitSetRequest host params = .ok (name, sql))
    (limits : LimitOf params type soft max) (xid : Int) (db : Vxdb) :
    (prepareText (execText db (render (sql xid))).1 (render (sqlLimitGet type xid))).map
        (List.map (limitItem host)) = some [.struct [(cstr "type", .str type),
          (cstr "soft", .str (decimal (limitBack host type soft))),
          (cstr "max", .str (decimal (limitBack host type max)))]] ∧
      (Survives host name type soft max ↔
        (limtype.contains type = true → soft < 2 ^ 54 ∧ max < 2 ^ 54)) := by
  obtain ⟨validType, valid, rfl⟩ := limits.accepted accepted
  obtain ⟨softNonneg, maxNonneg⟩ := limits.nonneg
  have softBounds := @limitStored_bounds host type _ page soft softNonneg limits.soft_small
  have maxBounds := @limitStored_bounds host type _ page max maxNonneg limits.max_small
  constructor
  · rw [prepareText_stored (quoteFree_of_validateRlimit validType)]
    exact congrArg (fun item => some [item])
      (limitItem_stored host type softBounds.1 maxBounds.1 softBounds.2 maxBounds.2)
  · exact survives_iff page name validType valid softNonneg maxNonneg limits.soft_small
      limits.max_small

theorem pageSize_default : PageSize default 12 where
  power := rfl
  unit := by decide
  small := by decide

theorem limitOf_params (name type : Str) (softNonneg : 0 ≤ soft) (maxNonneg : 0 ≤ max)
    (softSmall : soft < 2 ^ 64) (maxSmall : max < 2 ^ 64) :
    LimitOf (limitParams name type soft max) type soft max where
  type_eq := rfl
  soft_eq := ⟨_, rfl, decimal_ne_nil softNonneg, scanDigits_decimal softNonneg⟩
  max_eq := ⟨_, rfl, decimal_ne_nil maxNonneg, scanDigits_decimal maxNonneg⟩
  soft_small := softSmall
  max_small := maxSmall

theorem limits_survive_rss :
    (prepareText (execText (freshVxdb 0) (render (sqlVxLimitSet (cstr "RSS")
        (limitStored default (cstr "RSS") 1000) (limitStored default (cstr "RSS") 2000) 5))).1
        (render (sqlLimitGet (cstr "RSS") 5))).map (List.map (limitItem default)) =
        some [.struct [(cstr "type", .str (cstr "RSS")),
          (cstr "soft", .str (decimal (limitBack default (cstr "RSS") 1000))),
          (cstr "max", .str (decimal (limitBack default (cstr "RSS") 2000)))]] ∧
      (Survives default (cstr "web") (cstr "RSS") 1000 2000 ↔
        (limtype.contains (cstr "RSS") = true → (1000 : Int) < 2 ^ 54 ∧ (2000 : Int) < 2 ^ 54)) :=
  limits_survive_iff pageSize_default
    (vxLimitSetRequest_limitParams default (cstr "web")
      (by decide : validateRlimit (cstr "RSS") = true) (by decide) (by decide) (by decide)
      (by decide) (by decide))
    (limitOf_params (cstr "web") (cstr "RSS") (by decide) (by decide) (by decide) (by decide)) 5
    (freshVxdb 0)

/-- A limit of two to the power of 54 comes back as zero. -/
theorem limit_overflows : ¬ ∀ (host : Host) (exponent : Nat) (params : Xml) (name type : Str)
    (soft max : Int) (sql : Int → List Piece), PageSize host exponent →
      vxLimitSetRequest host params = .ok (name, sql) → LimitOf params type soft max →
      Survives host name type soft max := by
  intro survival
  have survives := survival default 12 _ (cstr "web") (cstr "RSS") 0 (2 ^ 54) _ pageSize_default
    (vxLimitSetRequest_limitParams default (cstr "web")
      (by decide : validateRlimit (cstr "RSS") = true) (by decide) (by decide) (by decide)
      (by decide) (by decide))
    (limitOf_params (cstr "web") (cstr "RSS") (by decide) (by decide) (by decide) (by decide))
  exact absurd ((comesBack_iff pageSize_default (by decide)).mp survives.max_back (by decide))
    (by decide)

end Vcd
