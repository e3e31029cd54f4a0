import Vcd.Admission
import Vcd.ConfigFrame
import Vcd.Creations
import Vcd.Process.Moments
import Vcd.Steps

/-!
# Requests at the same time

The daemon forks a process for every request, and the processes take their steps in any
order. What a request found out was so at an earlier moment of the run.
-/

namespace Vcd

open Sql Process

/-- The requests and the state they share. -/
abbrev Requests := Pool sharedMachine Request Fault Xml

/-- No step is ruled out. -/
abbrev Anywhere (_ : Requests) (_ : Nat) (_ : Requests) : Prop :=
  True

/-- A process for each request. -/
def handlers (setup : Setup) (world : Shared) (requests : List Request) : Requests :=
  .start world (requests.map fun request => (request, handle setup request))

/-- The pools that some order of steps leads to. -/
abbrev Interleaved (setup : Setup) (world : Shared) (requests : List Request) (pool : Requests) :
    Prop :=
  Pool.Reaches Anywhere (handlers setup world requests) pool

/-- The shared state had a property at an earlier moment. -/
abbrev Once (setup : Setup) (world : Shared) (requests : List Request) (pool : Requests)
    (holds : Shared → Prop) : Prop :=
  Pool.Once Anywhere (handlers setup world requests) pool holds

variable {setup : Setup} {world : Shared} {requests : List Request} {pool next : Requests}
  {self : Nat} {proc : Proc sharedMachine Request Fault Xml} {request : Request}

/-! ## At the start -/

/-- What is so of the programs of all requests is so of the processes at the start. -/
theorem handlers_start {holds : Proc sharedMachine Request Fault Xml → Prop}
    (all : ∀ request : Request, holds
      { tag := some request, past := [], rest := handle setup request, halted := false }) :
    ∀ proc ∈ (handlers setup world requests).procs, holds proc := by
  intro proc mem
  obtain ⟨entry, listed, rfl⟩ := List.mem_map.mp mem
  obtain ⟨request, -, rfl⟩ := List.mem_map.mp listed
  exact all request

/-- Every request keeps its discipline, whatever the others do. -/
theorem Interleaved.sound (reached : Interleaved setup world requests pool) :
    ∀ proc ∈ pool.procs, proc.Sound (Permitted setup) Quiet fun _ _ _ => True :=
  Pool.Reaches.sound reached (handlers_start fun request => handle_keeps setup request)

/-- Every request is mediated, whatever the others do. -/
theorem Interleaved.mediated (reached : Interleaved setup world requests pool) :
    ∀ proc ∈ pool.procs, proc.Mediated Entry (Clearance setup.host) :=
  Pool.Reaches.mediated (lasting_clearance setup.host) reached
    (handlers_start fun request => .start (handle_mediated setup request))

/-! ## Earlier moments -/

theorem agrees_answer (oracle : Oracle) (sql : Str) :
    Agrees oracle [⟨.prepare sql, oracle sql⟩] := by
  intro other reply mem
  cases List.mem_singleton.mp mem
  rfl

/-- A reply with a row is no refusal. -/
theorem rows_of_firstRow {reply : Option (List Row)} (found : (firstRow reply).isSome) :
    ∃ rows, reply = some rows := by
  cases reply with
  | none => cases found
  | some rows => exact ⟨rows, rfl⟩

section Moments

variable (reached : Interleaved setup world requests pool) (known : pool.procs[self]? = some proc)

include reached known

/-- A query that was answered was answered by the database of an earlier moment. -/
theorem Asked.once {sql : List Piece} {rows : List Row}
    (asked : Asked proc.history sql (some rows)) :
    Once setup world requests pool fun world => world.db.oracle (render sql) = some rows := by
  obtain ⟨event, mem, same⟩ := List.mem_map.mp asked
  have happened := Pool.Reaches.happened reached (handlers_start fun request => rfl) self proc
    known event mem
  obtain ⟨state, op, answer⟩ := event
  cases same
  exact happened.once.mono fun state answered => Shared.prepared answered.symm

/-- What was read was so at an earlier moment. -/
theorem Read.once {sql : List Piece} {holds : Row → Prop} (read : Read proc.history sql holds) :
    Once setup world requests pool fun world =>
      Read [⟨.prepare (render sql), world.db.oracle (render sql)⟩] sql holds := by
  obtain ⟨reply, row, asked, first, found⟩ := read
  obtain ⟨rows, rfl⟩ := rows_of_firstRow (Option.isSome_iff_exists.mpr ⟨row, first⟩)
  exact (Asked.once reached known asked).mono fun world answered =>
    ⟨some rows, row, answered ▸ .head _, first, found⟩

theorem Found.once {sql : List Piece} (found : Found proc.history sql) :
    Once setup world requests pool fun world =>
      (firstRow (world.db.oracle (render sql))).isSome := by
  obtain ⟨reply, asked, first⟩ := found
  obtain ⟨rows, rfl⟩ := rows_of_firstRow first
  exact (Asked.once reached known asked).mono fun world answered => answered ▸ first

theorem Looked.once {name : Str} {xid : Int} (looked : Looked proc.history name xid) :
    Once setup world requests pool fun world => Vcd.xidIn world.db.oracle name = xid :=
  (looked.2.2.once reached known).mono fun world read =>
    Looked.xidIn ⟨looked.1, looked.2.1, read⟩ (agrees_answer world.db.oracle _)

theorem Chosen.once {xid : Int} (chosen : Chosen proc.history xid) :
    Once setup world requests pool fun world => Vcd.freeXidIn world.db.oracle = some xid :=
  (Read.once reached known chosen).mono fun world read =>
    Chosen.freeXidIn read (agrees_answer world.db.oracle _)

theorem HasUid.once {user : Str} {uid : Int} (found : HasUid proc.history user uid) :
    Once setup world requests pool fun world => Vcd.uidIn world.db.oracle user = uid :=
  (found.2.2.once reached known).mono fun world read =>
    HasUid.uidIn ⟨found.1, found.2.1, read⟩ (agrees_answer world.db.oracle _)

end Moments

/-! ## What was so of the sender -/

section Vouched

variable (setup : Setup) (world : Shared) (requests : List Request) (pool : Requests)

/-- The user had the capability: his id was looked up at one moment, the capability of the id
at another. -/
def HadCap (user cap : Str) : Prop :=
  ∃ uid, uid ≠ 0 ∧ Once setup world requests pool (fun world => uidIn world.db.oracle user = uid) ∧
    Once setup world requests pool fun world => Granted world.db uid cap

/-- The user was an administrator, or his id owned what the name denoted. -/
def WasOwner (user name : Str) : Prop :=
  ∃ uid, uid ≠ 0 ∧ Once setup world requests pool (fun world => uidIn world.db.oracle user = uid) ∧
    (Once setup world requests pool (fun world => IsAdmin world.db user) ∨
      ∃ xid, xid ≠ 0 ∧
        Once setup world requests pool (fun world => xidIn world.db.oracle name = xid) ∧
        Once setup world requests pool fun world => Owns world.db uid xid)

/-- What the method asks for was so of its sender at earlier moments: the password, each
capability in the list, and the ownership. -/
structure Vouched (request : Request) (user pass : Str) : Prop where
  registered : request.method ∈ admissions.map Prod.fst
  user_eq : request.user = .ok user
  pass_eq : request.credentials.getStr (cstr "password") = .ok pass
  password : Once setup world requests pool fun world =>
    validIn world.db.oracle setup.host user pass = true
  capable : ∀ cap ∈ vcdCapsList, (admission request.method).1 &&& cap.2 ≠ 0 →
    HadCap setup world requests pool user cap.1
  owner : (admission request.method).2.owner = true → ∃ name,
    request.text (cstr "name") = .ok name ∧ WasOwner setup world requests pool user name

end Vouched

section Meaning

variable (reached : Interleaved setup world requests pool) (known : pool.procs[self]? = some proc)

include reached known

theorem Authentic.once {user pass : Str} (authentic : Authentic setup.host proc.history user pass) :
    Once setup world requests pool fun world =>
      validIn world.db.oracle setup.host user pass = true :=
  (authentic.2.2.once reached known).mono fun world found => by
    simp only [validIn, authentic.1, authentic.2.1, found, Bool.not_false, Bool.and_self]

theorem Capable.once {user cap : Str} (capable : Capable proc.history user cap)
    (free : QuoteFree cap) : HadCap setup world requests pool user cap := by
  obtain ⟨uid, found, granted⟩ := capable
  exact ⟨uid, found.2.1, found.once reached known, (granted.once reached known).mono
    fun world row => (firstRow_sqlHascapability uid free).mp row⟩

theorem Owned.once {user name : Str} (owned : Owned proc.history user name) :
    WasOwner setup world requests pool user name := by
  obtain ⟨uid, found, admin | ⟨xid, looked, owner⟩⟩ := owned
  · refine ⟨uid, found.2.1, found.once reached known, .inl ?_⟩
    exact (admin.once reached known).mono fun world row =>
      (firstRow_sqlIsadmin (quoteFree_of_validateUsername found.1)).mp row
  · refine ⟨uid, found.2.1, found.once reached known, .inr ⟨xid, looked.2.1, ?_, ?_⟩⟩
    · exact looked.once reached known
    · exact (owner.once reached known).mono fun world row => (firstRow_sqlIsowner uid xid).mp row

theorem Clearance.once (clearance : Clearance setup.host request proc.history) :
    ∃ user pass, Vouched setup world requests pool request user pass := by
  obtain ⟨registered, user, pass, cleared⟩ := clearance
  refine ⟨user, pass, registered, cleared.user_eq, cleared.pass_eq, ?_, ?_, ?_⟩
  · exact cleared.authentic.once reached known
  · intro cap mem asked
    exact (cleared.capable cap mem asked).once reached known (quoteFree_of_mem_caps mem)
  · intro owner
    have any : (admission request.method).2.any = true := by
      unfold Flags.any
      rw [owner, Bool.true_or]
    obtain ⟨name, nameEq, -, owned, -⟩ := cleared.named any
    exact ⟨name, nameEq, (owned owner).once reached known⟩

end Meaning

/-! ## A run of two requests -/

/-- A capability for the virtual server. -/
def killRequest : Request :=
  adminRequest (cstr "vxdb.vx.bcaps.add") (cstr "web") [(cstr "bcap", .str (cstr "KILL"))]

/-- A new group with the virtual server. -/
def blueRequest : Request :=
  adminRequest (cstr "vg.add") (cstr "web") [(cstr "group", .str (cstr "blue"))]

/-- The virtual server in a database file that is never locked for long. -/
def quietFile : Shared :=
  .boot oneServer idleKernel fun _ => false

/-- The pool after some steps, in this order. -/
def after (world : Shared) (requests : List Request) (schedule : List Nat) : Requests :=
  ((handlers plainSetup world requests).runs schedule).getD ⟨world, []⟩

theorem runs_after {world : Shared} {requests : List Request} {schedule : List Nat}
    (runs : ((handlers plainSetup world requests).runs schedule).isSome) :
    (handlers plainSetup world requests).runs schedule = some (after world requests schedule) := by
  obtain ⟨pool, ran⟩ := Option.isSome_iff_exists.mp runs
  unfold after
  rw [ran]
  rfl

theorem interleaved_after {world : Shared} {requests : List Request} {schedule : List Nat}
    (runs : ((handlers plainSetup world requests).runs schedule).isSome) :
    Interleaved plainSetup world requests (after world requests schedule) :=
  Pool.reaches_of_runs (runs_after runs)

theorem step_after {world : Shared} {requests : List Request} {schedule : List Nat} {self : Nat}
    (runs : ((handlers plainSetup world requests).runs (schedule ++ [self])).isSome) :
    (after world requests schedule).step self = some (after world requests (schedule ++ [self])) := by
  have ran := runs_after runs
  rw [Pool.runs_append] at ran
  obtain ⟨pool, first, last⟩ := Option.bind_eq_some_iff.mp ran
  obtain ⟨next, taken, ended⟩ := Option.bind_eq_some_iff.mp last
  obtain rfl := Option.some.inj ended
  have before : after world requests schedule = pool := by
    unfold after
    rw [first]
    rfl
  rw [before]
  exact taken

/-- Both requests, one step of each after the other. -/
abbrev taking (turns : Nat) : Requests :=
  after quietFile [killRequest, blueRequest] ((List.range turns).map (· % 2))

theorem step_taking {turns : Nat} (runs : ((handlers plainSetup quietFile
      [killRequest, blueRequest]).runs ((List.range (turns + 1)).map (· % 2))).isSome) :
    (taking turns).step (turns % 2) = some (taking (turns + 1)) := by
  unfold taking
  rw [List.range_succ, List.map_append] at runs ⊢
  exact step_after runs

theorem free_taking : ∀ request ∈ [killRequest, blueRequest], request.Free := by
  intro request mem
  rcases List.mem_cons.mp mem with rfl | mem
  · exact fun _ _ known => texts_struct known (by decide)
  · obtain rfl := List.mem_singleton.mp mem
    exact fun _ _ known => texts_struct known (by decide)

/-! ## Complete mediation -/

section Later

variable {last : Requests} (onward : Pool.Reaches Anywhere pool last)

include onward

theorem HadCap.later {user cap : Str} (had : HadCap setup world requests pool user cap) :
    HadCap setup world requests last user cap := by
  obtain ⟨uid, nonzero, found, granted⟩ := had
  exact ⟨uid, nonzero, found.later onward, granted.later onward⟩

theorem WasOwner.later {user name : Str} (was : WasOwner setup world requests pool user name) :
    WasOwner setup world requests last user name := by
  obtain ⟨uid, nonzero, found, admin | ⟨xid, named, looked, owner⟩⟩ := was
  · exact ⟨uid, nonzero, found.later onward, .inl (admin.later onward)⟩
  · exact ⟨uid, nonzero, found.later onward, .inr ⟨xid, named, looked.later onward,
      owner.later onward⟩⟩

theorem Vouched.later {user pass : Str}
    (vouched : Vouched setup world requests pool request user pass) :
    Vouched setup world requests last request user pass where
  registered := vouched.registered
  user_eq := vouched.user_eq
  pass_eq := vouched.pass_eq
  password := vouched.password.later onward
  capable cap mem asked := (vouched.capable cap mem asked).later onward
  owner asked := by
    obtain ⟨name, nameEq, was⟩ := vouched.owner asked
    exact ⟨name, nameEq, was.later onward⟩

end Later

/-- What the process does next is no part of the checks: it writes, calls the kernel, enters
a body, or forks. -/
inductive Acts (request : Request) : Method Xml → Prop where
  | op {op : Op} {next : op.Reply → Method Xml} (late : ¬ Entry request op) :
      Acts request (.op op next)
  | fork {next : Bool → Method Xml} : Acts request (.fork next)

instance (request : Request) : (op : Op) → Decidable (Entry request op)
  | .prepare _ => isTrue trivial
  | .exec sql => inferInstanceAs (Decidable (sql ∈ counterTexts))
  | .testLock name | .lock name =>
      inferInstanceAs (Decidable (request.text (cstr "name") = .ok name))
  | .sys _ | .mark _ => isFalse id

instance (request : Request) : (program : Method Xml) → Decidable (Acts request program)
  | .op op _ => decidable_of_iff (¬ Entry request op)
      ⟨fun late => .op late, fun acts => by cases acts; assumption⟩
  | .fork _ => isTrue .fork
  | .pure _ | .fail _ | .exit => isFalse fun acts => by cases acts

theorem Interleaved.cleared (reached : Interleaved setup world requests pool)
    (mem : proc ∈ pool.procs) (tagged : proc.tag = some request) (acts : Acts request proc.rest) :
    Clearance setup.host request proc.history := by
  have mediated := reached.mediated proc mem
  cases rest : proc.rest with
  | op op next =>
      rw [rest] at acts
      cases acts with
      | op late => exact mediated.known_of_op tagged rest late
  | fork next => exact mediated.known_of_fork tagged rest
  | pure value =>
      rw [rest] at acts
      cases acts
  | fail fault =>
      rw [rest] at acts
      cases acts
  | exit =>
      rw [rest] at acts
      cases acts

/-- The first processes handle the requests, in their order, and the others are children. -/
theorem Interleaved.numbered (reached : Interleaved setup world requests pool) :
    requests.length ≤ pool.procs.length ∧
      ∀ (self : Nat) (proc : Proc sharedMachine Request Fault Xml),
        pool.procs[self]? = some proc → proc.tag = requests[self]? := by
  induction reached with
  | refl =>
      have procs : (handlers setup world requests).procs = requests.map fun request =>
          { tag := some request, past := [], rest := handle setup request, halted := false } :=
        List.map_map
      rw [procs, List.length_map]
      refine ⟨Nat.le_refl _, fun self proc known => ?_⟩
      rw [List.getElem?_map] at known
      obtain ⟨request, listed, rfl⟩ := Option.map_eq_some_iff.mp known
      exact listed.symm
  | @step pool next self before taken condition ih =>
      obtain ⟨proc, after, children, known, advanced, procs⟩ := Pool.step_cases taken
      obtain ⟨count, tags⟩ := ih
      constructor
      · rw [procs, List.length_append, List.length_set]
        exact Nat.le_add_right_of_le count
      · intro other otherProc otherKnown
        cases Pool.successor procs otherKnown with
        | old oldKnown apart => exact tags other otherProc oldKnown
        | stepped same equal =>
            subst same equal
            rw [advanced.tag_eq]
            exact tags other proc known
        | child fresh mem =>
            rw [(advanced.past_child otherProc mem).2.1]
            exact (List.getElem?_eq_none (count.trans fresh)).symm

theorem Interleaved.tag_mem (reached : Interleaved setup world requests pool)
    (mem : proc ∈ pool.procs) {request : Request} (tagged : proc.tag = some request) :
    request ∈ requests := by
  obtain ⟨self, known⟩ := List.getElem?_of_mem mem
  exact List.mem_of_getElem? (((reached.numbered).2 self proc known).symm.trans tagged)

/-- The process descends from one that handles a request whose sender was vouched for. -/
def Delegated (setup : Setup) (world : Shared) (requests : List Request) (pool : Requests)
    (self : Nat) : Prop :=
  ∃ ancestor, pool.Descends ancestor self ∧ ∃ proc request, pool.procs[ancestor]? = some proc ∧
    proc.tag = some request ∧ ∃ user pass, Vouched setup world requests pool request user pass

theorem Delegated.step (delegated : Delegated setup world requests pool self) {stepping : Nat}
    (taken : pool.step stepping = some next) : Delegated setup world requests next self := by
  obtain ⟨ancestor, descends, proc, request, known, tagged, user, pass, vouched⟩ := delegated
  obtain ⟨later, laterKnown, tag, -⟩ := Pool.known_step taken known
  exact ⟨ancestor, descends.step taken, later, request, laterKnown, tag.trans tagged, user, pass,
    vouched.later (.step .refl taken trivial)⟩

/-- A child descends from the process of a request whose sender was vouched for. -/
theorem Interleaved.delegated (reached : Interleaved setup world requests pool) :
    ∀ (other : Nat) (proc : Proc sharedMachine Request Fault Xml),
      pool.procs[other]? = some proc → proc.tag = none →
        Delegated setup world requests pool other := by
  induction reached with
  | refl =>
      intro other proc known untagged
      have mem : proc ∈ (handlers setup world requests).procs := List.mem_of_getElem? known
      obtain ⟨entry, listed, rfl⟩ := List.mem_map.mp mem
      cases untagged
  | @step pool next self before taken condition ih =>
      obtain ⟨proc, after, children, known, advanced, procs⟩ := Pool.step_cases taken
      intro other otherProc otherKnown untagged
      cases Pool.successor procs otherKnown with
      | old oldKnown apart => exact (ih other otherProc oldKnown untagged).step taken
      | stepped same equal =>
          subst same equal
          exact (ih other proc known (advanced.tag_eq ▸ untagged)).step taken
      | child fresh mem =>
          have forker : Delegated setup world requests next self := by
            refine Delegated.step ?_ taken
            generalize next.state = last at advanced
            cases advanced with
            | op request rest found enabled => cases mem
            | halt => cases mem
            | fork rest found =>
                cases tagged : proc.tag with
                | none => exact ih self proc known tagged
                | some request =>
                    have procMem := List.mem_of_getElem? known
                    have cleared := Interleaved.cleared before procMem tagged (found ▸ .fork)
                    obtain ⟨user, pass, vouched⟩ := cleared.once before known
                    exact ⟨self, .same, proc, request, known, tagged, user, pass, vouched⟩
          obtain ⟨ancestor, descends, vouched⟩ := forker
          exact ⟨ancestor, .forked otherKnown (advanced.past_child otherProc mem).2.2 descends,
            vouched⟩

/-- Complete mediation: in every interleaving, a process acts only for a request of a
registered method whose sender's password was valid, who had each listed capability that the
method asks for, and who was the owner where the method asks for it, each at an earlier moment
of the run. A child descends from the process of such a request. -/
theorem complete_mediation (reached : Interleaved setup world requests pool) :
    ∀ (self : Nat) (proc : Proc sharedMachine Request Fault Xml), pool.procs[self]? = some proc →
      (∀ request, proc.tag = some request → Acts request proc.rest →
        ∃ user pass, Vouched setup world requests pool request user pass) ∧
      (proc.tag = none → Delegated setup world requests pool self) := by
  intro self proc known
  constructor
  · intro request tagged acts
    exact (reached.cleared (List.mem_of_getElem? known) tagged acts).once reached known
  · exact Interleaved.delegated reached self proc known

/-- The virtual server is about to be started again. -/
def restarting : Shared :=
  .boot (oneServer.replace Table.restart [.int 5]) idleKernel fun _ => false

def shutdownRequest : Request :=
  adminRequest (cstr "helper.shutdown") (cstr "web") [(cstr "xid", .int 5)]

/-- The group is about to be inserted, and in another run a child was forked. -/
theorem complete_mediation_taking :
    (∃ proc, (taking 13).procs[1]? = some proc ∧ Acts blueRequest proc.rest ∧ ∃ user pass,
      Vouched plainSetup quietFile [killRequest, blueRequest] (taking 13) blueRequest user pass) ∧
    Delegated plainSetup restarting [shutdownRequest]
      (after restarting [shutdownRequest] (List.replicate 8 0)) 1 := by
  constructor
  · have ran : (taking 13).procs[1]?.any (fun proc =>
        decide (Acts blueRequest proc.rest)) = true := by decide +kernel
    obtain ⟨proc, known, holds⟩ := (Option.any_eq_true _ _).mp ran
    have acts : Acts blueRequest proc.rest := of_decide_eq_true holds
    have reached : Interleaved plainSetup quietFile [killRequest, blueRequest] (taking 13) :=
      interleaved_after (by decide +kernel)
    have tagged : proc.tag = some blueRequest := reached.numbered.2 1 proc known
    have mediated := complete_mediation reached 1 proc known
    exact ⟨proc, known, acts, mediated.1 blueRequest tagged acts⟩
  · have ran : (after restarting [shutdownRequest] (List.replicate 8 0)).procs[1]?.any
        (fun proc => proc.tag.isNone) = true := by decide +kernel
    obtain ⟨proc, known, untagged⟩ := (Option.any_eq_true _ _).mp ran
    exact (complete_mediation (interleaved_after (by decide +kernel)) 1 proc known).2
      (Option.isNone_iff_eq_none.mp untagged)

/-! ## Who changes what -/

/-- A step that changes the database is that of a request that executes a permitted text. -/
theorem Interleaved.writer (reached : Interleaved setup world requests pool)
    (taken : pool.step self = some next) (changed : next.state.db ≠ pool.state.db) :
    ∃ proc request sql, pool.procs[self]? = some proc ∧ proc.tag = some request ∧
      request ∈ requests ∧ Permitted setup request proc.history (.exec sql) ∧
      next.state.db = (execText pool.state.db sql).1 ∧
      (¬ Entry request (.exec sql) → Clearance setup.host request proc.history) := by
  obtain ⟨proc, after, children, known, advanced, -⟩ := Pool.step_cases taken
  have mem : proc ∈ pool.procs := List.mem_of_getElem? known
  generalize reach : next.state = last at advanced changed
  cases advanced with
  | fork rest found => exact absurd rfl changed
  | halt => exact absurd rfl changed
  | op op rest found enabled =>
      cases op with
      | exec sql =>
          rcases (reached.sound proc mem).promised found with
            ⟨request, tagged, permitted⟩ | ⟨-, quiet⟩
          · refine ⟨proc, request, sql, known, tagged, Interleaved.tag_mem reached mem tagged,
              permitted, Shared.db_exec changed, fun late => ?_⟩
            exact (reached.mediated proc mem).known_of_op tagged found late
          · exact quiet.elim
      | _ => exact absurd (Shared.db_performs (fun _ same => by cases same) pool.state self) changed

/-- The process executes a text of a kind that its method writes. -/
structure Writing (setup : Setup) (requests : List Request) (pool next : Requests) (self : Nat)
    (request : Request) (past : Past) (kind : WriteKind) (sql : Str) : Prop where
  sender : ∃ proc, pool.procs[self]? = some proc ∧ proc.tag = some request ∧ proc.history = past
  listed : request ∈ requests
  kind_eq : writeKind request.method = some kind
  write : Write setup request past kind sql
  executed : next.state.db = (execText pool.state.db sql).1
  cleared : Clearance setup.host request past

/-- Only a write of an admitted request changes anything besides the statistics. -/
theorem Interleaved.writing (reached : Interleaved setup world requests pool)
    (taken : pool.step self = some next) {table : Table} (other : table ≠ .vcd)
    (changed : next.state.db.rows table ≠ pool.state.db.rows table) :
    ∃ request past kind sql, Writing setup requests pool next self request past kind sql := by
  obtain ⟨proc, request, sql, known, tagged, listed, permitted, executed, cleared⟩ :=
    Interleaved.writer reached taken fun same => changed (by rw [same])
  have uncounted : ¬ Counts sql := by
    intro counts
    rw [executed] at changed
    exact changed (counts.rows _ other)
  rcases permitted with tallying | ⟨kind, kindEq, write⟩
  · exact absurd tallying.counts uncounted
  · exact ⟨request, proc.history, kind, sql, ⟨proc, known, tagged, rfl⟩, listed, kindEq, write,
      executed, cleared fun entry => uncounted (counts_of_mem entry)⟩

/-- An effect on the rows of another context leaves those of a context as they are. -/
theorem contextRows_of_effect {db last : Vxdb} {touched added : Region vxdbSchema} {table : Table}
    {xid : Int} (effect : Effect touched added db last)
    (apart : ∀ row, xidOf row = .int xid → touched table row = false) :
    contextRows last xid table = contextRows db xid table := by
  have narrow (rows : List Row) : rows.filter (ofXid xid) =
      (rows.filter (!touched table ·)).filter (ofXid xid) := by
    rw [List.filter_filter]
    refine List.filter_congr fun row _ => ?_
    cases own : ofXid xid row with
    | false => rfl
    | true => rw [apart row (ofXid_iff.mp own), Bool.not_false, Bool.and_true]
  unfold contextRows
  rw [narrow, effect.kept, ← narrow]

theorem apart_of_context {tables : List Table} {table : Table} {xid other : Int}
    (apart : table ∈ tables → other ≠ xid) (row : Row) (own : xidOf row = .int xid) :
    rowsOf tables other table row = false := by
  refine Bool.eq_false_iff.mpr fun touched => ?_
  obtain ⟨mem, known⟩ := rowsOf_iff.mp touched
  rw [own] at known
  exact apart mem (Value.int.inj known).symm

/-- The name of the request denoted the context at an earlier moment, and its sender was an
administrator or the owner of what the name denoted. -/
def Targeted (setup : Setup) (world : Shared) (requests : List Request) (pool : Requests)
    (request : Request) (xid : Int) : Prop :=
  ∃ user name found, request.user = .ok user ∧ request.text (cstr "name") = .ok name ∧
    WasOwner setup world requests pool user name ∧ int32 found = xid ∧ found ≠ 0 ∧
    Once setup world requests pool fun world => xidIn world.db.oracle name = found

/-- A creation for the name of the request records the entries for the context. The name denoted
the context at an earlier moment, or the count and the maximum then gave it as the next one. -/
structure CreatesFor (setup : Setup) (world : Shared) (requests : List Request) (pool : Requests)
    (request : Request) (entries : Entries) (found : Int) : Prop where
  name_eq : request.text (cstr "name") = .ok entries.name
  assembled : ∃ conf, (conf = {} ∨ ∃ path, setup.templates path = .parsed conf) ∧
    templateEntries conf entries.vdir entries.name = .ok entries
  target : found ≠ 0 ∧ Once setup world requests pool (fun world =>
      xidIn world.db.oracle entries.name = found) ∨
    Once setup world requests pool fun world => freeXidIn world.db.oracle = some found

/-- Which requests change the configuration of a context. -/
inductive Reconfigures (setup : Setup) (world : Shared) (requests : List Request)
    (pool : Requests) (request : Request) (table : Table) (xid : Int) : Prop where
  | config (kind : writeKind request.method = some (.config table))
      (targeted : Targeted setup world requests pool request xid)
  | remove (kind : writeKind request.method = some .remove)
      (targeted : Targeted setup world requests pool request xid)
  | create {entries : Entries} (found : Int) (kind : writeKind request.method = some .create)
      (creates : CreatesFor setup world requests pool request entries found)
      (own : entries.Clean → int32 found = xid)

/-- Isolation of virtual servers: in every interleaving of requests without quotes, a step
that changes the configuration of a context is of a request for the name of this context by its
owner, to the method of that table or to `vx.remove`, or of a `vx.create` for the context, if
what it records is clean. -/
theorem isolation (free : ∀ request ∈ requests, request.Free)
    (reached : Interleaved setup world requests pool) (taken : pool.step self = some next)
    {table : Table} (listed : table ∈ configTables) {xid : Int}
    (changed : contextRows next.state.db xid table ≠ contextRows pool.state.db xid table) :
    ∃ request ∈ requests, (∃ proc, pool.procs[self]? = some proc ∧ proc.tag = some request) ∧
      (∃ user pass, Vouched setup world requests pool request user pass) ∧
      Reconfigures setup world requests pool request table xid := by
  have other : table ≠ .vcd := by
    rintro rfl
    revert listed
    decide
  have rows : next.state.db.rows table ≠ pool.state.db.rows table := by
    intro same
    exact changed (by rw [contextRows, same, contextRows])
  obtain ⟨request, past, kind, sql, ⟨proc, known, tagged, rfl⟩, mem, kindEq, write, executed,
    cleared⟩ := Interleaved.writing reached taken other rows
  refine ⟨request, mem, ⟨proc, known, tagged⟩, cleared.once reached known, ?_⟩
  have untouched {touched added : Region vxdbSchema} (confined : Confined touched added sql) :
      ¬ ∀ row, xidOf row = .int xid → touched table row = false := by
    intro apart
    rw [executed] at changed
    exact changed (contextRows_of_effect (confined.effect pool.state.db) apart)
  have targeted {user name : Str} {found : Int} (userEq : request.user = .ok user)
      (nameEq : request.text (cstr "name") = .ok name)
      (owned : Owned (recent proc.history) user name) (same : int32 found = xid)
      (looked : Looked (recent proc.history) name found) :
      Targeted setup world requests pool request xid :=
    ⟨user, name, found, userEq, nameEq, (owned.mono recent_subset).once reached known, same,
      looked.2.1, (looked.mono recent_subset).once reached known⟩
  cases write with
  | @config written _ user name found _ userEq settling owned looked =>
      have confined := settling.confined (free request mem).closed found
      by_cases same : written = table ∧ int32 found = xid
      · rw [same.1] at kindEq
        exact .config kindEq (targeted userEq settling.name_eq owned same.2 looked)
      · have elsewhere : ∀ row, xidOf row = .int xid →
            rowsOf [written] (int32 found) table row = false :=
          apart_of_context fun mem equal => same ⟨(List.mem_singleton.mp mem).symm, equal⟩
        exact absurd elsewhere (untouched confined)
  | restart name given _ flagging =>
      have apart : ∀ table ∈ configTables, table ∉ [Table.restart] := by decide
      exact absurd (apart_of_context fun mem => absurd mem (apart table listed))
        (untouched (flagging.confined (uint32 given)))
  | rights user write userEq capable _ asked =>
      have confined : Confined (allOf (userTables ++ relationTables)) (granted _)
          (render write.sql) :=
        (RightsWrite.runs (asked.free (free request mem))).confined write.stays
      have apart : ∀ table ∈ configTables,
          (userTables ++ relationTables).contains table = false := by decide
      exact absurd (fun row _ => apart table listed) (untouched confined)
  | remove user name found _ userEq nameEq owned _ looked =>
      by_cases same : int32 found = xid
      · exact .remove kindEq (targeted userEq nameEq owned same (looked.mono since_since_subset))
      · exact absurd (apart_of_context fun _ => same) (untouched (confined_remove found))
  | rename user name newname found _ _ _ _ valid =>
      have confined := confined_rename (quoteFree_of_validateName valid) found
      have apart : ∀ table ∈ configTables, table ∉ [Table.xidNameMap] := by decide
      exact absurd (apart_of_context fun mem => absurd mem (apart table listed))
        (untouched confined)
  | create user name param vdir found conf entries creating target template assembled =>
      have equal := (templateEntries_eq_ok assembled).2.2.2.2
      obtain rfl : entries.name = name := congrArg Entries.name equal
      obtain rfl : entries.vdir = vdir := congrArg Entries.vdir equal
      refine .create found kindEq ⟨creating.name_eq, ⟨conf, template, assembled⟩, ?_⟩ fun clean => ?_
      · refine target.imp (fun looked => ⟨looked.2.1, ?_⟩) fun chosen => ?_
        · exact (looked.mono recent_subset).once reached known
        · exact Chosen.once reached known (Read.mono recent_subset chosen)
      · by_contra apart
        exact absurd (apart_of_context fun _ => apart)
          (untouched (confined_create setup.host clean found))

/-- The capability is inserted. -/
theorem isolation_taking : ∃ request ∈ [killRequest, blueRequest],
    (∃ proc, (taking 18).procs[0]? = some proc ∧ proc.tag = some request) ∧
    (∃ user pass, Vouched plainSetup quietFile
      [killRequest, blueRequest] (taking 18) request user pass) ∧
    Reconfigures plainSetup quietFile [killRequest, blueRequest]
      (taking 18) request .vxBcaps 5 :=
  isolation free_taking (interleaved_after (by decide +kernel))
    (step_taking (by decide +kernel)) (by decide) (by decide +kernel)

/-- A step changes users, capabilities or groups, or relates a virtual server to somebody. -/
def Empowers (db last : Vxdb) : Prop :=
  (∃ table ∈ userTables, last.rows table ≠ db.rows table) ∨
    ∃ table ∈ relationTables, ¬ last.rows table ⊆ db.rows table

theorem not_empowers_of_effect {db last : Vxdb} {touched added : Region vxdbSchema}
    (effect : Effect touched added db last)
    (users : ∀ table ∈ userTables, ∀ row, touched table row = false)
    (relations : ∀ table ∈ relationTables, ∀ row, added table row = false) :
    ¬ Empowers db last := by
  rintro (⟨table, listed, changed⟩ | ⟨table, listed, new⟩)
  · exact changed (effect.rows_eq (users table listed))
  · refine new fun row mem => (effect.fresh table row mem).resolve_right fun fresh => ?_
    rw [relations table listed row] at fresh
    cases fresh

theorem Empowers.rows {db last : Vxdb} (empowers : Empowers db last) :
    ∃ table, table ≠ .vcd ∧ last.rows table ≠ db.rows table := by
  have users : ∀ table ∈ userTables, table ≠ Table.vcd := by decide
  have relations : ∀ table ∈ relationTables, table ≠ Table.vcd := by decide
  rcases empowers with ⟨table, listed, changed⟩ | ⟨table, listed, new⟩
  · exact ⟨table, users table listed, changed⟩
  · exact ⟨table, relations table listed, fun same => new (same ▸ List.Subset.refl _)⟩

/-- In every interleaving of requests without quotes, a step that gives or takes rights is one
of `vx.create`, or of a request whose sender had the capability `AUTH` at an earlier
moment. -/
theorem rights_authorized (free : ∀ request ∈ requests, request.Free)
    (reached : Interleaved setup world requests pool) (taken : pool.step self = some next)
    (empowers : Empowers pool.state.db next.state.db) :
    ∃ request ∈ requests, (∃ proc, pool.procs[self]? = some proc ∧ proc.tag = some request) ∧
      (∃ user pass, Vouched setup world requests pool request user pass) ∧
      (writeKind request.method = some .create ∨
        writeKind request.method = some .rights ∧ ∃ user, request.user = .ok user ∧
          HadCap setup world requests pool user (cstr "AUTH")) := by
  obtain ⟨table, other, rows⟩ := empowers.rows
  obtain ⟨request, past, kind, sql, ⟨proc, known, tagged, rfl⟩, mem, kindEq, write, executed,
    cleared⟩ := Interleaved.writing reached taken other rows
  refine ⟨request, mem, ⟨proc, known, tagged⟩, cleared.once reached known, ?_⟩
  rw [executed] at empowers
  have outside {tables removed : List Table} {xid : Int}
      (confined : Confined (rowsOf tables xid) (rowsOf removed xid) sql)
      (users : ∀ table ∈ userTables, table ∉ tables)
      (relations : ∀ table ∈ relationTables, table ∉ removed) : False := by
    refine not_empowers_of_effect (confined.effect pool.state.db) ?_ ?_ empowers
    · intro table listed row
      exact Bool.eq_false_iff.mpr fun touched => users table listed (rowsOf_iff.mp touched).1
    · intro table listed row
      exact Bool.eq_false_iff.mpr fun added => relations table listed (rowsOf_iff.mp added).1
  cases write with
  | @config written _ user name found _ _ settling =>
      have apart : ∀ written ∈ configTables, (∀ table ∈ userTables, table ∉ [written]) ∧
          ∀ table ∈ relationTables, table ∉ [written] := by decide
      obtain ⟨users, relations⟩ := apart written (writeKind_config kindEq)
      have confined := settling.confined (free request mem).closed found
      exact (outside confined users relations).elim
  | restart name given _ flagging =>
      exact (outside (flagging.confined (uint32 given)) (by decide) (by decide)).elim
  | rights user write userEq capable =>
      exact .inr ⟨kindEq, user, userEq, capable.once reached known (by decide)⟩
  | remove user name found =>
      refine absurd empowers (not_empowers_of_effect
        ((confined_remove found).effect pool.state.db) ?_ fun _ _ _ => rfl)
      have apart : ∀ table ∈ userTables, table ∉ removedTables := by decide
      intro table listed row
      exact Bool.eq_false_iff.mpr fun touched => apart table listed (rowsOf_iff.mp touched).1
  | rename user name newname found _ _ _ _ valid =>
      have confined := confined_rename (quoteFree_of_validateName valid) found
      exact (outside confined (by decide) (by decide)).elim
  | create => exact .inl kindEq

/-- The group is inserted. -/
theorem rights_authorized_taking : ∃ request ∈ [killRequest, blueRequest],
    (∃ proc, (taking 13).procs[1]? = some proc ∧ proc.tag = some request) ∧
    (∃ user pass, Vouched plainSetup quietFile
      [killRequest, blueRequest] (taking 13) request user pass) ∧
    (writeKind request.method = some .create ∨
      writeKind request.method = some .rights ∧ ∃ user, request.user = .ok user ∧
        HadCap plainSetup quietFile [killRequest, blueRequest]
          (taking 13) user (cstr "AUTH")) :=
  rights_authorized free_taking (interleaved_after (by decide +kernel))
    (step_taking (by decide +kernel))
    (.inl ⟨.groups, by decide, by decide +kernel⟩)

end Vcd
