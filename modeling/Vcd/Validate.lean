import Vcd.Lists

/-!
# Validation of request parameters

The checks of `validate.c`. What they ask of the machine (the number of processors and
memory nodes, the parser of addresses) belongs to the host.
-/

namespace Vcd

open Sql

/-- What the daemon asks of its machine and configuration. -/
structure Host where
  vbasedir : Str
  templatedir : Str
  datadir : Str
  pagesize : Nat
  nproc : Int
  maxMemNode : Int
  /-- The result of `addr_from_str`; below one for a string it cannot parse. -/
  addrFromStr : Str → Int
  /-- What a formatted print makes of a text with conversions it has no arguments for. -/
  strayFormat : Str → Str
  whirlpoolDigest : Str → Str
  /-- A digest is a string of hexadecimal digits. -/
  digest_hex : ∀ text, (whirlpoolDigest text).all
    (fun char => charIsdigit char || ('a' ≤ char && char ≤ 'f')) = true

/-- A machine with one processor and an empty digest of everything. -/
instance : Inhabited Host where
  default := {
    vbasedir := cstr "/vservers"
    templatedir := cstr "/templates"
    datadir := cstr "/data"
    pagesize := 4096
    nproc := 1
    maxMemNode := 0
    addrFromStr := fun _ => 1
    strayFormat := id
    whirlpoolDigest := fun _ => []
    digest_hex := fun _ => rfl }

/-- Letters, digits, dashes and underscores. -/
def strIsalnumextended (text : Str) : Bool :=
  text.all fun char => charIsalpha char || charIsdigit char || char = '-' || char = '_'

def validateName (name : Str) : Bool :=
  !(strIsempty name || name.length < 3 || name.length > 32 || !strIsalnumextended name)

def validateXid (xid : Int) : Bool :=
  xid > 1 && xid < 65535

def validatePath (path : Str) : Bool :=
  !(strIsempty path || !strPathIsabs path)

/-- `CDLIM_KEEP` and `CDLIM_INFINITY`. -/
def cdlimKeep : Int := 2 ^ 32 - 2
def cdlimInfinity : Int := 2 ^ 32 - 1

def validateDlimits (inodes space reserved : Int) : Bool :=
  reserved > 0 && reserved < 100 &&
    inodes ≠ cdlimKeep && inodes ≠ cdlimInfinity &&
    space ≠ cdlimKeep && space ≠ cdlimInfinity

def validateAddr (host : Host) (addr : Str) : Bool :=
  !(strIsempty addr || host.addrFromStr addr < 1)

def validateUsername (username : Str) : Bool :=
  !(strIsempty username || !strIsalnum username)

def validatePassword (password : Str) : Bool :=
  !(strIsempty password || password.length < 8)

def validateGroup (group : Str) : Bool :=
  !(strIsempty group || !strIsalnum group)

def validateVcdCap (cap : Str) : Bool :=
  !(strIsempty cap || flist64Getval vcdCapsList cap = 0)

/-- The validators of listed names: `validate_bcap`, `validate_ccap`, `validate_cflag`,
`validate_rlimit` and `validate_uname`. -/
def validateListed (list : List Str) (name : Str) : Bool :=
  !(strIsempty name || !list.contains name)

def validateBcap : Str → Bool := validateListed bcapsList
def validateCcap : Str → Bool := validateListed ccapsList
def validateCflag : Str → Bool := validateListed cflagsList
def validateRlimit : Str → Bool := validateListed rlimitList
def validateUname : Str → Bool := validateListed unameList

/-- `CRLIM_KEEP` and `CRLIM_INFINITY`. -/
def crlimKeep : Int := 2 ^ 64 - 2
def crlimInfinity : Int := 2 ^ 64 - 1

def validateRlimits (soft max : Int) : Bool :=
  soft ≠ crlimKeep && soft ≠ crlimInfinity && max ≠ crlimKeep && max ≠ crlimInfinity

def validateCpuid (host : Host) (cpuid : Int) : Bool :=
  cpuid ≥ -1 && cpuid < host.nproc

def validateTokenBucket (fillrate interval fillrate2 interval2 tokensmin tokensmax : Int) :
    Bool :=
  !((fillrate < 1 || interval < 1 || tokensmax < 1) ||
    (fillrate2 < 1 && interval2 > 0) ||
    (interval2 < 1 && fillrate2 > 0) ||
    (interval < fillrate || interval2 < fillrate2) ||
    (tokensmax < fillrate || tokensmax < fillrate2) ||
    tokensmin > tokensmax)

/-- Ids between commas: type 0 for processors, type 1 for memory nodes. Splitting drops
empty ids; `scan` is what `sscanf` reads from an id. -/
def validateCpusetWith (scan : Str → Int) (host : Host) (cpuset : Str) (type : Int) : Bool :=
  if strIsempty cpuset then false
  else if cpuset.head? = some ',' || cpuset.getLast? = some ',' then false
  else if type = 0 then ids.all fun id => strIsdigit id && scan id ≥ 0 && scan id < host.nproc
  else if type = 1 then ids.all fun id => strIsdigit id && scan id ≥ 0 &&
    scan id ≤ host.maxMemNode
  else false
where
  ids := (cpuset.splitOn ',').filter (· ≠ [])

/-- With a `sscanf` that keeps the low 32 bits of a large number. -/
def validateCpuset : Host → Str → Int → Bool :=
  validateCpusetWith fun id => int32 (scanInt id)

def validateUnameValue (value : Str) : Bool :=
  !(strIsempty value || value.length > 64)

/-! ## Validated strings contain no quote -/

theorem quoteFree_of_validateName {name : Str} (valid : validateName name = true) :
    QuoteFree name := by
  simp only [validateName, Bool.not_eq_true', Bool.or_eq_false_iff, Bool.not_eq_false'] at valid
  exact quoteFree_of_all valid.2 (by decide)

theorem quoteFree_of_validateUsername {name : Str} (valid : validateUsername name = true) :
    QuoteFree name := by
  simp only [validateUsername, Bool.not_eq_true', Bool.or_eq_false_iff,
    Bool.not_eq_false'] at valid
  exact quoteFree_of_isalnum valid.2

theorem quoteFree_of_validateGroup {name : Str} (valid : validateGroup name = true) :
    QuoteFree name := by
  simp only [validateGroup, Bool.not_eq_true', Bool.or_eq_false_iff,
    Bool.not_eq_false'] at valid
  exact quoteFree_of_isalnum valid.2

theorem mem_of_validateListed {list : List Str} {name : Str}
    (valid : validateListed list name = true) : name ∈ list := by
  simp only [validateListed, Bool.not_eq_true', Bool.or_eq_false_iff,
    Bool.not_eq_false'] at valid
  exact List.contains_iff_mem.mp valid.2

theorem quoteFree_digest (host : Host) (text : Str) : QuoteFree (host.whirlpoolDigest text) :=
  quoteFree_of_all (host.digest_hex text) (by decide)

end Vcd
