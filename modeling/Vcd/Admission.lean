import Mathlib.Data.List.Forall2
import Vcd.Children
import Vcd.Process.Mediation

/-!
# Admission

The capabilities and flags every registered method asks for. Whatever a client sends, a
request only queries, counts and takes the lock of its name until it was admitted.
-/

namespace Vcd

open Sql Process

variable {setup : Setup} {request : Request} {past : Past} {α β : Type}

/-- The flags of methods that work on a virtual server and must not disturb each other. -/
def exclusive : Flags := { owner := true, lock := true }

/-- What the registered methods ask `method_init` for, in the order of the registry. -/
def admissions : List (Str × UInt64 × Flags) :=
  [(cstr "helper.netup", capHelper, {}), (cstr "helper.restart", capHelper, {}),
    (cstr "helper.shutdown", capHelper, {}), (cstr "helper.startup", capHelper, {}),
    (cstr "vcd.hostinfo", capInfo, {}), (cstr "vcd.login", 0, {}),
    (cstr "vcd.status", capInfo, {}), (cstr "vcd.user.caps.add", capAuth, {}),
    (cstr "vcd.user.caps.get", capAuth, {}), (cstr "vcd.user.caps.remove", capAuth, {}),
    (cstr "vcd.user.get", capAuth, {}), (cstr "vcd.user.remove", capAuth, {}),
    (cstr "vcd.user.set", capAuth, {}),
    (cstr "vg.add", capAuth, {}), (cstr "vg.list", capAuth, {}), (cstr "vg.remove", capAuth, {}),
    (cstr "vg.vx.reboot", capInit, {}), (cstr "vg.vx.restart", capInit, {}),
    (cstr "vg.vx.start", capInit, {}), (cstr "vg.vx.stop", capInit, {}),
    (cstr "vx.create", capCreate, { lock := true }), (cstr "vx.exec", capExec, owned),
    (cstr "vx.kill", capInit, exclusive), (cstr "vx.limstatus", capInfo, owned),
    (cstr "vx.netstatus", capInfo, owned), (cstr "vx.reboot", capInit, exclusive),
    (cstr "vx.remove", capCreate, exclusive), (cstr "vx.rename", capCreate, exclusive),
    (cstr "vx.restart", capInit, exclusive), (cstr "vx.start", capInit, exclusive),
    (cstr "vx.status", capInfo, owned), (cstr "vx.stop", capInit, exclusive),
    (cstr "vx.templates", capCreate, {}),
    (cstr "vxdb.dx.limit.remove", capDlim, exclusive),
    (cstr "vxdb.dx.limit.set", capDlim, exclusive), (cstr "vxdb.init.set", capInit, exclusive),
    (cstr "vxdb.mount.remove", capMount, exclusive), (cstr "vxdb.mount.set", capMount, exclusive),
    (cstr "vxdb.nx.addr.remove", capNet, exclusive), (cstr "vxdb.nx.addr.set", capNet, exclusive),
    (cstr "vxdb.nx.broadcast.remove", capNet, exclusive),
    (cstr "vxdb.nx.broadcast.set", capNet, exclusive),
    (cstr "vxdb.vx.bcaps.add", capBcap, exclusive),
    (cstr "vxdb.vx.bcaps.remove", capBcap, exclusive),
    (cstr "vxdb.vx.ccaps.add", capCcap, exclusive),
    (cstr "vxdb.vx.ccaps.remove", capCcap, exclusive),
    (cstr "vxdb.vx.cpuset.remove", capSched, exclusive),
    (cstr "vxdb.vx.cpuset.set", capSched, exclusive),
    (cstr "vxdb.vx.flags.add", capCflag, exclusive),
    (cstr "vxdb.vx.flags.remove", capCflag, exclusive),
    (cstr "vxdb.vx.limit.remove", capRlim, exclusive),
    (cstr "vxdb.vx.limit.set", capRlim, exclusive),
    (cstr "vxdb.vx.sched.remove", capSched, exclusive),
    (cstr "vxdb.vx.sched.set", capSched, exclusive),
    (cstr "vxdb.vx.uname.remove", capUname, exclusive),
    (cstr "vxdb.vx.uname.set", capUname, exclusive),
    (cstr "vxdb.dx.limit.get", capDlim, owned), (cstr "vxdb.init.get", capInit, owned),
    (cstr "vxdb.list", capInfo, {}), (cstr "vxdb.mount.get", capMount, owned),
    (cstr "vxdb.name.get", capInfo, {}), (cstr "vxdb.nx.addr.get", capNet, owned),
    (cstr "vxdb.nx.broadcast.get", capNet, owned), (cstr "vxdb.owner.get", capAuth, {}),
    (cstr "vxdb.vdir.get", capInfo, {}), (cstr "vxdb.vx.bcaps.get", capBcap, owned),
    (cstr "vxdb.vx.ccaps.get", capCcap, owned), (cstr "vxdb.vx.cpuset.get", capSched, owned),
    (cstr "vxdb.vx.flags.get", capCflag, owned), (cstr "vxdb.vx.limit.get", capRlim, owned),
    (cstr "vxdb.vx.sched.get", capSched, owned), (cstr "vxdb.vx.uname.get", capUname, owned),
    (cstr "vxdb.xid.get", capInfo, {}),
    (cstr "vxdb.owner.add", capAuth, {}), (cstr "vxdb.owner.remove", capAuth, {})]

/-- A registered method begins with the check of its capabilities and flags. -/
def Begins (host : Host) (entry : Str × (Call → Method Xml))
    (admission : Str × UInt64 × Flags) : Prop :=
  entry.1 = admission.1 ∧ ∀ call, ∃ rest : Xml → Method Xml,
    entry.2 call = methodInit host call admission.2.1 admission.2.2 >>= rest

theorem registry_begins (setup : Setup) :
    List.Forall₂ (Begins setup.host) (registry setup) admissions := by
  unfold registry helperMethods vcdMethods vgMethods vxMethods vxdbWriters vxdbReaders
    vxdbOwnerMethods admissions
  repeat' first | exact .nil | apply List.Forall₂.cons
  all_goals refine ⟨rfl, fun call => ?_⟩
  · exact ⟨_, by simp only [mHelperNetup, helperTarget, bind_assoc]; rfl⟩
  · exact ⟨_, by simp only [mHelperRestart, helperTarget, bind_assoc]; rfl⟩
  · exact ⟨_, by simp only [mHelperShutdown, helperTarget, bind_assoc]; rfl⟩
  · exact ⟨_, by simp only [mHelperStartup, helperTarget, bind_assoc]; rfl⟩
  all_goals exact ⟨_, rfl⟩

/-- Keys that agree find entries that are related. -/
theorem lookup_forall₂ {key γ δ : Type} [BEq key] {related : key × γ → key × δ → Prop}
    (same : ∀ left right, related left right → left.1 = right.1) {left : List (key × γ)}
    {right : List (key × δ)} (all : List.Forall₂ related left right) (wanted : key) :
    (left.lookup wanted = none ∧ right.lookup wanted = none) ∨
      ∃ found value other, left.lookup wanted = some value ∧
        right.lookup wanted = some other ∧ related (found, value) (found, other) := by
  induction all with
  | nil => exact .inl ⟨rfl, rfl⟩
  | @cons first second left right pair rest ih =>
      obtain ⟨found, value⟩ := first
      obtain ⟨other, admission⟩ := second
      obtain rfl : found = other := same _ _ pair
      rw [List.lookup_cons, List.lookup_cons]
      cases wanted == found with
      | true => exact .inr ⟨found, value, admission, rfl, rfl, pair⟩
      | false => exact ih

/-- What a request asks `method_init` for. -/
def admission (method : Str) : UInt64 × Flags :=
  (admissions.lookup method).getD (0, {})

/-- Every request begins with the check of its method, or names no method. -/
theorem handle_begins (setup : Setup) (request : Request) :
    (admissions.lookup request.method = none ∧
        handle setup request = methodDefault request.method) ∨
      admissions.lookup request.method = some (admission request.method) ∧
        ∃ rest : Xml → Method Xml, handle setup request =
          methodInit setup.host (.client request.credentials request.params)
            (admission request.method).1 (admission request.method).2 >>= rest := by
  unfold handle admission
  rcases lookup_forall₂ (fun _ _ begins => begins.1) (registry_begins setup) request.method with
    ⟨unknown, none⟩ | ⟨found, method, asked, known, listed, begins⟩
  · rw [unknown]
    exact .inl ⟨none, rfl⟩
  · rw [known, listed]
    exact .inr ⟨rfl, begins.2 (.client request.credentials request.params)⟩

/-! ## Clearance -/

/-- The password was found to be valid for the user. -/
def Authentic (host : Host) (past : Past) (user pass : Str) : Prop :=
  validateUsername user = true ∧ strIsempty pass = false ∧
    Found past (sqlIsvalid user (whirlpoolPass host pass))

/-- Every listed capability that is asked for was found. -/
def CapableOf (past : Past) (user : Str) (caps : UInt64) : Prop :=
  ∀ cap ∈ vcdCapsList, caps &&& cap.2 ≠ 0 → Capable past user cap.1

/-- The name was found to be the user's, and its lock was taken, as far as the flags ask for
it. -/
def ClearedName (request : Request) (past : Past) (user : Str) (flags : Flags) : Prop :=
  ∃ name, request.text (cstr "name") = .ok name ∧ validateName name = true ∧
    (flags.owner = true → Owned past user name) ∧
    (flags.lock = true → (⟨.lock name, ()⟩ : Performed daemon) ∈ past)

/-- What a request found out about its sender before anything else. -/
structure Cleared (host : Host) (request : Request) (past : Past) (user pass : Str) : Prop where
  user_eq : request.user = .ok user
  pass_eq : request.credentials.getStr (cstr "password") = .ok pass
  authentic : Authentic host past user pass
  capable : CapableOf past user (admission request.method).1
  named : (admission request.method).2.any = true →
    ClearedName request past user (admission request.method).2

/-- The request was admitted. -/
def Clearance (host : Host) (request : Request) (past : Past) : Prop :=
  request.method ∈ admissions.map Prod.fst ∧ ∃ user pass, Cleared host request past user pass

section Mono

variable {host : Host} {fewer : Past} {user pass : Str} (subset : fewer ⊆ past)

include subset

theorem Authentic.mono (authentic : Authentic host fewer user pass) :
    Authentic host past user pass :=
  ⟨authentic.1, authentic.2.1, authentic.2.2.mono subset⟩

theorem CapableOf.mono {caps : UInt64} (capable : CapableOf fewer user caps) :
    CapableOf past user caps :=
  fun cap mem asked => (capable cap mem asked).mono subset

theorem ClearedName.mono {flags : Flags} (named : ClearedName request fewer user flags) :
    ClearedName request past user flags := by
  obtain ⟨name, nameEq, valid, owner, lock⟩ := named
  exact ⟨name, nameEq, valid, fun asked => (owner asked).mono subset,
    fun asked => subset (lock asked)⟩

theorem Clearance.mono (clearance : Clearance host request fewer) :
    Clearance host request past := by
  obtain ⟨listed, user, pass, userEq, passEq, authentic, capable, named⟩ := clearance
  exact ⟨listed, user, pass, userEq, passEq, authentic.mono subset, capable.mono subset,
    fun asked => (named asked).mono subset⟩

end Mono

theorem lasting_clearance (host : Host) (request : Request) :
    Lasting (Clearance host request) :=
  fun history event clearance => clearance.mono (List.subset_cons_self event history)

theorem traced_authIsvalid {host : Host} {user pass : Str} {trace : Past}
    (traced : Traced (authIsvalid host user pass) trace true) :
    Authentic host trace user pass := by
  unfold authIsvalid at traced
  split at traced
  next => exact absurd (traced_pure traced).2 (by simp)
  next valid =>
    simp only [Bool.or_eq_true, Bool.not_eq_true', not_or, Bool.not_eq_false,
      Bool.not_eq_true] at valid
    refine ⟨valid.1, valid.2, ?_⟩
    exact traced_found (fun reply => by rcases reply with _ | _ | ⟨row, rows⟩ <;> rfl) traced

/-- The loop of `auth_capable` looks for every listed capability that is asked for. -/
theorem traced_authCapableIn {user : Str} {caps : UInt64} {list : Flist}
    (listed : list ⊆ vcdCapsList) {trace : Past}
    (traced : Traced (authCapableIn user caps list) trace true) :
    ∀ cap ∈ list, caps &&& cap.2 ≠ 0 → Capable trace user cap.1 := by
  induction list generalizing trace with
  | nil => exact fun cap mem => absurd mem List.not_mem_nil
  | cons first rest ih =>
      obtain ⟨key, value⟩ := first
      have later := fun trace => @ih (fun cap mem => listed (.tail _ mem)) trace
      unfold authCapableIn at traced
      intro cap mem asked
      split at traced
      next wanted =>
        obtain ⟨has, earlier, last, rfl, hascap, after⟩ := traced_bind traced
        cases has with
        | false => exact absurd (traced_pure after).2 (by simp)
        | true =>
            rcases List.mem_cons.mp mem with rfl | mem
            · have known : flist64Getkey vcdCapsList value = some key :=
                getkey_of_mem (listed (.head _))
              exact (traced_authHascapability known hascap).mono (by simp)
            · exact (later last after cap mem asked).mono (by simp)
      next unwanted =>
        rcases List.mem_cons.mp mem with rfl | mem
        · exact absurd asked unwanted
        · exact later trace traced cap mem asked

/-! ## The check of every method -/

/-- What a request performs before it was admitted: queries, the counters, and the lock of
its name. -/
def Entry (request : Request) : Op → Prop
  | .prepare _ => True
  | .exec sql => sql ∈ counterTexts
  | .testLock name | .lock name => request.text (cstr "name") = .ok name
  | .sys _ | .mark _ => False

/-- The program performs entry operations only and has found something out if it returns. -/
abbrev EntryFinds (request : Request) (past : Past) (program : Method α)
    (found : Past → α → Prop) : Prop :=
  program.Meets (.ofHistory (fun _ => Entry request) Quiet) past (Finds found)

section EntryFinds

variable {found : Past → α → Prop} {program : Method β} {rest : β → Method α}

theorem EntryFinds.lookup (lookup : Lookup program)
    (later : ∀ value trace, Traced program trace value →
      EntryFinds request (trace ++ past) (rest value) found) :
    EntryFinds request past (program >>= rest) found := by
  induction program generalizing past with
  | pure value => exact later value [] ⟨rfl, rfl⟩
  | fail fault => exact lookup.elim
  | exit => exact lookup.elim
  | op op next ih =>
      cases op with
      | prepare sql =>
          refine ⟨trivial, fun reply => ih reply (lookup reply) fun value trace traced => ?_⟩
          have whole := later value (trace ++ [⟨.prepare sql, reply⟩]) ⟨reply, trace, rfl, traced⟩
          rwa [List.append_assoc] at whole
      | _ => exact lookup.elim
  | fork next ih => exact lookup.elim

theorem EntryFinds.ofExcept {known : Except Fault β}
    (later : ∀ value, known = .ok value → EntryFinds request past (rest value) found) :
    EntryFinds request past (Vcd.ofExcept known >>= rest) found := by
  cases known with
  | ok value => exact later value rfl
  | error fault => trivial

theorem EntryFinds.bind {middle : Past → β → Prop}
    (first : EntryFinds request past program middle)
    (later : ∀ after value, middle after value → EntryFinds request after (rest value) found) :
    EntryFinds request past (program >>= rest) found :=
  Program.meets_seq middle (first.mono fun after outcome known => by
    cases outcome with
    | ok value => exact known
    | error fault => trivial) later

end EntryFinds

/-- What authentication finds out. -/
structure Known (host : Host) (request : Request) (caps : UInt64) (past : Past)
    (user pass : Str) : Prop where
  user_eq : request.user = .ok user
  pass_eq : request.credentials.getStr (cstr "password") = .ok pass
  authentic : Authentic host past user pass
  capable : CapableOf past user caps

theorem finds_methodAuthenticate (host : Host) (request : Request) (caps : UInt64) :
    EntryFinds request [] (methodAuthenticate host request.credentials caps)
      fun after user => ∃ pass, Known host request caps after user pass := by
  refine ⟨List.mem_cons_self, fun outcome => ?_⟩
  refine EntryFinds.ofExcept fun user userEq => ?_
  refine EntryFinds.ofExcept fun pass passEq => ?_
  refine EntryFinds.lookup (lookup_authIsvalid host user pass) fun valid trace validTraced => ?_
  cases valid with
  | false => exact ⟨List.mem_cons_of_mem _ List.mem_cons_self, fun outcome => trivial⟩
  | true =>
      refine EntryFinds.lookup (lookup_authCapable user caps) fun capable granted traced => ?_
      cases capable with
      | false => trivial
      | true =>
          have authentic := traced_authIsvalid validTraced
          have capable := traced_authCapableIn (List.Subset.refl vcdCapsList) traced
          refine ⟨pass, userEq, passEq, authentic.mono ?_, CapableOf.mono ?_ capable⟩
          · exact List.subset_append_of_subset_right _ (List.subset_append_left _ _)
          · exact List.subset_append_left _ _

theorem finds_methodLock {name : Str} (nameEq : request.text (cstr "name") = .ok name) :
    EntryFinds request past (methodLock name) fun after _ =>
      past ⊆ after ∧ (⟨.lock name, ()⟩ : Performed daemon) ∈ after := by
  refine ⟨nameEq, fun free => ?_⟩
  cases free with
  | false => trivial
  | true =>
      refine ⟨nameEq, fun reply => ?_⟩
      exact ⟨fun event mem => .tail _ (.tail _ mem), .head _⟩

theorem finds_methodCheckFlags {user : Str} (flags : Flags) :
    EntryFinds request past (methodCheckFlags request.params (some user) flags)
      fun after _ => past ⊆ after ∧ ClearedName request after user flags := by
  refine EntryFinds.ofExcept fun name nameEq => ?_
  cases valid : validateName name with
  | false => trivial
  | true =>
      simp only [Bool.not_true, Bool.false_eq_true, if_false]
      have locking (trace : Past) (owner : flags.owner = true → Owned (trace ++ past) user name) :
          EntryFinds request (trace ++ past)
            (if flags.lock = true then methodLock name else pure ())
            fun after _ => past ⊆ after ∧ ClearedName request after user flags := by
        have earlier : past ⊆ trace ++ past := List.subset_append_right _ _
        split
        next =>
          refine (finds_methodLock nameEq).mono fun after outcome known => ?_
          cases outcome with
          | error fault => trivial
          | ok value =>
              exact ⟨List.Subset.trans earlier known.1, name, nameEq, valid,
                fun asked => (owner asked).mono known.1, fun _ => known.2⟩
        next unlocked =>
          exact ⟨earlier, name, nameEq, valid, owner, fun asked => absurd asked unlocked⟩
      split
      next owner =>
        refine EntryFinds.lookup (lookup_authIsowner user name) fun isowner trace traced => ?_
        cases isowner with
        | false => trivial
        | true =>
            exact locking trace fun _ => (traced_authIsowner traced).mono
              (List.subset_append_left _ _)
      next stranger => exact locking [] fun asked => absurd asked stranger

/-- `method_init` returns only to requests that it cleared. -/
theorem finds_methodInit (host : Host) (request : Request) :
    EntryFinds request [] (methodInit host (.client request.credentials request.params)
      (admission request.method).1 (admission request.method).2)
      fun after _ => ∃ user pass, Cleared host request after user pass := by
  refine EntryFinds.bind (finds_methodAuthenticate host request _) fun after user known => ?_
  obtain ⟨pass, userEq, passEq, authentic, capable⟩ := known
  split
  next any =>
    refine EntryFinds.bind (finds_methodCheckFlags _) fun last _ checked => ?_
    exact ⟨user, pass, userEq, passEq, authentic.mono checked.1, capable.mono checked.1,
      fun _ => checked.2⟩
  next none =>
    exact ⟨user, pass, userEq, passEq, authentic, capable, fun any => absurd any none⟩

/-- Until it was admitted, a request performs entry operations only and forks nothing. -/
theorem handle_mediated (setup : Setup) (request : Request) :
    (handle setup request).Mediated (Entry request) (Clearance setup.host request) [] := by
  rcases handle_begins setup request with ⟨-, handler⟩ | ⟨known, rest, handler⟩
  · rw [handler]
    refine ⟨.inr ?_, fun outcome => trivial⟩
    exact List.mem_cons_of_mem _ (List.mem_cons_of_mem _ List.mem_cons_self)
  · rw [handler]
    have listed : request.method ∈ admissions.map Prod.fst :=
      List.mem_map_of_mem (mem_of_lookup_eq_some known)
    refine Program.mediated_bind (noFork_methodInit setup.host _ _ _)
      ((finds_methodInit setup.host request).mono fun after outcome cleared => ?_)
      (lasting_clearance setup.host request) rest
    cases outcome with
    | ok value => exact ⟨listed, cleared⟩
    | error fault => trivial

end Vcd
