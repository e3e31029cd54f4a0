import Vcd.Discipline

/-!
# Addresses on their way to the kernel

What `vxdb.nx.addr.set` stores, and the buffer `helper.netup` prints it into.
-/

namespace Vcd

open Sql Process

variable {host : Host} {params : Xml} {name addr mask netmask : Str} {xid : Int}
  {sql : Int → List Piece} {row : Row}

/-! ## The buffer -/

/-- `snprintf` stores one character less than the size it is given. -/
def snprintf (size : Nat) (text : Str) : Str :=
  text.take (size - 1)

/-- The text of an address and its mask. -/
def interfaceText (ip netm : Str) : Str :=
  ip ++ '/' :: netm

/-- The buffer of `network_interfaces`. -/
def interfaceBuf (row : Row) : Str :=
  snprintf 31 (interfaceText (vxdbColumnText row 0) (vxdbColumnText row 1))

/-- A text is parsed, and the kernel gets what it says. -/
def handInterface (xid : Int) (host : Host) (text : Str) : Method Unit := do
  if host.addrFromStr text = -1 then
    faultf .conf [.chars (cstr "invalid interface: "), .str text]
  sysOrFault (cstr "network_interfaces") (cstr "nx_add_addr") (.nxAddrAdd xid text false)

theorem networkInterface_eq (xid : Int) (host : Host) (row : Row) :
    networkInterface xid host row = handInterface xid host (interfaceBuf row) := rfl

theorem snprintf_eq_self_iff {size : Nat} {text : Str} :
    snprintf size text = text ↔ text.length ≤ size - 1 := by
  constructor
  · intro same
    have length := congrArg List.length same
    rw [snprintf, List.length_take] at length
    omega
  · exact List.take_of_length_le

/-! ## Dotted-decimal notation -/

/-- Four numbers in dotted-decimal notation. -/
def dotted (first second third fourth : Fin 256) : Str :=
  decimal first ++ '.' :: decimal second ++ '.' :: decimal third ++ '.' :: decimal fourth

def IsDotted (text : Str) : Prop :=
  ∃ first second third fourth, text = dotted first second third fourth

theorem length_octet (octet : Fin 256) : (decimal octet).length ≤ 3 := by
  revert octet
  decide +kernel

theorem IsDotted.length_le (isDotted : IsDotted addr) : addr.length ≤ 15 := by
  obtain ⟨first, second, third, fourth, rfl⟩ := isDotted
  have := length_octet first
  have := length_octet second
  have := length_octet third
  have := length_octet fourth
  simp only [dotted, List.length_append, List.length_cons]
  omega

theorem IsDotted.quoteFree (isDotted : IsDotted addr) : QuoteFree addr := by
  obtain ⟨first, second, third, fourth, rfl⟩ := isDotted
  have free (octet : Fin 256) : '\'' ∉ decimal octet := quoteFree_decimal octet
  simp [dotted, QuoteFree, free]

theorem isDotted_default : IsDotted (cstr "255.255.255.255") :=
  ⟨255, 255, 255, 255, by decide⟩

/-- The buffer is too short for two texts of full length only. -/
theorem interfaceBuf_eq_iff (addrDotted : IsDotted addr) (maskDotted : IsDotted netmask) :
    interfaceBuf [.str addr, .str netmask] = interfaceText addr netmask ↔
      ¬ (addr.length = 15 ∧ netmask.length = 15) := by
  have addrShort := addrDotted.length_le
  have maskShort := maskDotted.length_le
  change snprintf 31 (interfaceText addr netmask) = _ ↔ _
  rw [snprintf_eq_self_iff]
  simp only [interfaceText, List.length_append, List.length_cons]
  omega

/-! ## What is stored -/

/-- The query of `network_interfaces`. -/
def sqlInterfaces (xid : Int) : List Piece :=
  [.chars (cstr "SELECT addr,netmask FROM nx_addr"), .chars (cstr " WHERE xid = "), xidPiece xid]

/-- A single replacing insertion stores its row. -/
theorem mem_execText_replace {pieces : List Piece} {table : Table} {row : Row}
    (closed : ∀ piece ∈ pieces, piece.Closed)
    (read : readCommands pieces = some [some (.change (.replace table row))]) (db : Vxdb) :
    (execText db (render pieces)).2.ok = true ∧
      (execText db (render pieces)).1 = db.replace table row := by
  have single := @execText_single vxdbSchema db _ _ (commands_of_read closed read)
  exact ⟨single.2, single.1⟩

theorem execText_sqlNxAddrSet (addrFree : QuoteFree addr) (maskFree : QuoteFree netmask)
    (xid : Int) (db : Vxdb) :
    (execText db (render (sqlNxAddrSet addr netmask xid))).1 =
      db.replace Table.nxAddr [.int (int32 xid), .str addr, .str netmask] := by
  have read : readCommands (sqlNxAddrSet addr netmask xid) = some [some (.change
      (.replace Table.nxAddr [.int (int32 xid), .str (valueOf addr), .str (valueOf netmask)]))] := by
    rfl
  rw [valueOf_quoteFree addrFree, valueOf_quoteFree maskFree] at read
  refine (mem_execText_replace ?_ read db).2
  simp [sqlNxAddrSet, xidPiece, Piece.Closed, unquote_of_quoteFree addrFree,
    unquote_of_quoteFree maskFree]

/-- `network_interfaces` reads the addresses of the context. -/
theorem prepareText_sqlInterfaces (xid : Int) (db : Vxdb) :
    prepareText db (render (sqlInterfaces xid)) =
      some (((db.rows Table.nxAddr).filter fun row =>
        (Table.nxAddr.cell row (cstr "xid")).same (.int (int32 xid))).map fun row =>
          [Table.nxAddr.cell row (cstr "addr"), Table.nxAddr.cell row (cstr "netmask")]) := by
  rw [@prepareText_plain vxdbSchema (sqlInterfaces xid) {
      projections := [.column none (cstr "addr"), .column none (cstr "netmask")]
      table := cstr "nx_addr", join := none
      condition := some (.eq (.column none (cstr "xid")) (.int (int32 xid)))
      order := none, limit := none } Table.nxAddr
    (by simp [sqlInterfaces, xidPiece, Piece.Free]) (by rfl)
    ⟨by rfl, by rfl, by rfl, by rfl, by rfl, by rfl⟩]
  rfl

/-- An address and its mask as a request gives them; an empty mask stands for the mask of one
address. -/
structure AddressOf (params : Xml) (addr netmask : Str) : Prop where
  addr_eq : params.getStr (cstr "addr") = .ok addr
  mask_eq : ∃ mask, params.getStr (cstr "netmask") = .ok mask ∧
    (methodEmptyParam mask).getD (cstr "255.255.255.255") = netmask
  addr_dotted : IsDotted addr
  mask_dotted : IsDotted netmask

theorem AddressOf.sql_eq (address : AddressOf params addr netmask)
    (accepted : nxAddrSetRequest host params = .ok (name, sql)) :
    sql = sqlNxAddrSet addr netmask := by
  obtain ⟨mask, maskEq, rfl⟩ := address.mask_eq
  obtain ⟨readName, -, accepted⟩ := bind_eq_ok.mp accepted
  obtain ⟨readAddr, addrEq, accepted⟩ := bind_eq_ok.mp accepted
  obtain ⟨readMask, readMaskEq, accepted⟩ := bind_eq_ok.mp accepted
  obtain rfl : readAddr = addr := Except.ok.inj (addrEq.symm.trans address.addr_eq)
  obtain rfl : readMask = mask := Except.ok.inj (readMaskEq.symm.trans maskEq)
  simp only [refuse_bind] at accepted
  have stored (accepted : (pure (readName, sqlNxAddrSet readAddr ((methodEmptyParam readMask).getD
      (cstr "255.255.255.255"))) : Except Fault (Str × (Int → List Piece))) = .ok (name, sql)) :
      sql = sqlNxAddrSet readAddr ((methodEmptyParam readMask).getD (cstr "255.255.255.255")) :=
    (congrArg Prod.snd (Except.ok.inj accepted)).symm
  split at accepted
  next => cases accepted
  next =>
    split at accepted
    next =>
      split at accepted
      next => cases accepted
      next => exact stored accepted
    next => exact stored accepted

/-- The address and the mask of an accepted request are read by `network_interfaces` and reach
the kernel as they are, unless both texts have their full length. -/
theorem interface_complete_iff (accepted : nxAddrSetRequest host params = .ok (name, sql))
    (address : AddressOf params addr netmask) (xid : Int) (db : Vxdb) :
    ∃ rows, prepareText (execText db (render (sql xid))).1 (render (sqlInterfaces xid)) =
        some rows ∧ [.str addr, .str netmask] ∈ rows ∧
      networkInterface xid host [.str addr, .str netmask] =
        handInterface xid host (interfaceBuf [.str addr, .str netmask]) ∧
      (interfaceBuf [.str addr, .str netmask] = interfaceText addr netmask ↔
        ¬ (addr.length = 15 ∧ netmask.length = 15)) := by
  rw [address.sql_eq accepted, execText_sqlNxAddrSet address.addr_dotted.quoteFree
    address.mask_dotted.quoteFree, prepareText_sqlInterfaces]
  refine ⟨_, rfl, List.mem_map.mpr ⟨[.int (int32 xid), .str addr, .str netmask],
    List.mem_filter.mpr ⟨?_, ?_⟩, rfl⟩, networkInterface_eq xid host _,
    interfaceBuf_eq_iff address.addr_dotted address.mask_dotted⟩
  · rw [Database.rows_replace_same]
    exact List.mem_append_right _ List.mem_cons_self
  · exact (Value.same_int_right _ _).mpr rfl

/-- Parameters for an address with the default mask. -/
def addressParams (addr : Str) : Xml :=
  .struct [(cstr "name", .str (cstr "web")), (cstr "addr", .str addr), (cstr "netmask", .str [])]

theorem addressOf_params (first second third fourth : Fin 256) :
    AddressOf (addressParams (dotted first second third fourth))
      (dotted first second third fourth) (cstr "255.255.255.255") where
  addr_eq := rfl
  mask_eq := ⟨[], rfl, rfl⟩
  addr_dotted := ⟨first, second, third, fourth, rfl⟩
  mask_dotted := isDotted_default

theorem interface_complete_local : ∃ rows,
    prepareText (execText (freshVxdb 0) (render (sqlNxAddrSet (dotted 10 0 0 1)
        (cstr "255.255.255.255") 5))).1 (render (sqlInterfaces 5)) = some rows ∧
      [.str (dotted 10 0 0 1), .str (cstr "255.255.255.255")] ∈ rows ∧
      networkInterface 5 default [.str (dotted 10 0 0 1), .str (cstr "255.255.255.255")] =
        handInterface 5 default
          (interfaceBuf [.str (dotted 10 0 0 1), .str (cstr "255.255.255.255")]) ∧
      (interfaceBuf [.str (dotted 10 0 0 1), .str (cstr "255.255.255.255")] =
          interfaceText (dotted 10 0 0 1) (cstr "255.255.255.255") ↔
        ¬ ((dotted 10 0 0 1).length = 15 ∧ (cstr "255.255.255.255").length = 15)) :=
  @interface_complete_iff default (addressParams (dotted 10 0 0 1)) (cstr "web") (dotted 10 0 0 1)
    (cstr "255.255.255.255") (sqlNxAddrSet (dotted 10 0 0 1) (cstr "255.255.255.255")) (by rfl)
    (addressOf_params 10 0 0 1) 5 (freshVxdb 0)

/-- The default mask of an address with full length loses its last digit. -/
theorem interface_truncated : ¬ ∀ (host : Host) (params : Xml) (name addr netmask : Str)
    (sql : Int → List Piece), nxAddrSetRequest host params = .ok (name, sql) →
      AddressOf params addr netmask →
      interfaceBuf [.str addr, .str netmask] = interfaceText addr netmask := by
  intro completeness
  have complete := completeness default (addressParams (dotted 192 168 100 200)) (cstr "web") _ _ _
    (by rfl) (addressOf_params 192 168 100 200)
  exact absurd complete (by decide +kernel)

end Vcd
