import Vcd.Methods.Registry
import Vcd.Vxdb.Statements

/-!
# Capability checks

`auth_capable` asks for the listed capabilities only. `HELPER` is not listed, so it is
granted to everybody who is granted the rest.
-/

namespace Vcd

open Sql Process

/-- A user exists and has the row of a capability. -/
def HasCap (db : Vxdb) (user cap : Str) : Prop :=
  uidIn db.oracle user ≠ 0 ∧ Granted db (uidIn db.oracle user) cap

theorem getkey_of_mem {cap : Str × UInt64} (mem : cap ∈ vcdCapsList) :
    flist64Getkey vcdCapsList cap.2 = some cap.1 := by
  have all : vcdCapsList.all fun cap => flist64Getkey vcdCapsList cap.2 = some cap.1 := by
    decide
  exact of_decide_eq_true (List.all_eq_true.mp all cap mem)

theorem capabilityIn_iff {db : Vxdb} {user : Str} {cap : Str × UInt64}
    (mem : cap ∈ vcdCapsList) :
    capabilityIn db.oracle user cap.2 = true ↔ HasCap db user cap.1 := by
  simp only [capabilityIn, getkey_of_mem mem, Option.any_some, Bool.and_eq_true,
    decide_eq_true_eq, HasCap, firstRow_sqlHascapability _ (quoteFree_of_mem_caps mem)]

/-- `auth_capable` compares the request with the list. -/
theorem capableIn_iff {db : Vxdb} {user : Str} {caps : UInt64} :
    capableIn db.oracle user caps = true ↔
      ∀ cap ∈ vcdCapsList, caps &&& cap.2 ≠ 0 → HasCap db user cap.1 := by
  simp only [capableIn, List.all_eq_true, Bool.or_eq_true, decide_eq_true_eq]
  refine forall₂_congr fun cap mem => ?_
  rw [capabilityIn_iff mem, or_iff_not_imp_left]

theorem authCapable_returns (user : Str) (caps : UInt64) (world : World) (self : Nat) :
    ((authCapable user caps).run machine self world).outcome =
      .returned (capableIn world.db.oracle user caps) :=
  (lookup_authCapable user caps).outcome world (answer_authCapable _ user caps) self

/-- Every capability of `auth.h` that is asked for is granted. -/
def AllGranted (db : Vxdb) (user : Str) (caps : UInt64) : Prop :=
  ∀ cap ∈ capConstants, caps &&& cap.2 ≠ 0 → HasCap db user cap.1

theorem allGranted_iff {db : Vxdb} {user : Str} {caps : UInt64} :
    AllGranted db user caps ↔ capableIn db.oracle user caps = true ∧
      (caps &&& capHelper ≠ 0 → HasCap db user (cstr "HELPER")) := by
  simp only [AllGranted, capConstants, List.mem_append, List.mem_singleton, or_imp,
    forall_and, forall_eq, capableIn_iff]

/-! ## The check of every method -/

/-- The database with the request counted, which is the one the checks read. -/
def counted (db : Vxdb) : Vxdb :=
  (execText db (render sqlRequests)).1

theorem rows_counted (db : Vxdb) {table : Table} (ne : table ≠ .vcd) :
    (counted db).rows table = db.rows table :=
  counts_sqlRequests.rows db ne

/-- The credentials name a user and a valid password. -/
def Credentials (host : Host) (db : Vxdb) (credentials : Xml) (user : Str) : Prop :=
  credentials.getStr (cstr "username") = .ok user ∧ ∃ pass,
    credentials.getStr (cstr "password") = .ok pass ∧ validIn db.oracle host user pass = true

/-- `method_init` lets a client's call pass exactly if the credentials are valid and the
capabilities granted. -/
theorem methodAuthenticate_returns (host : Host) (credentials : Xml) (caps : UInt64)
    (user : Str) (world : World) (self : Nat) :
    ((methodAuthenticate host credentials caps).run machine self world).outcome =
        .returned user ↔
      Credentials host (counted world.db) credentials user ∧
        capableIn (counted world.db).oracle user caps = true := by
  unfold methodAuthenticate Credentials
  rw [outcome_exec_bind]
  change ((_ : Method Str).run machine self { world with db := counted world.db }).outcome = _ ↔ _
  generalize counted world.db = db
  cases credentials.getStr (cstr "username") with
  | error fault => simp [Program.run]
  | ok name =>
      rw [ofExcept_ok_bind]
      cases credentials.getStr (cstr "password") with
      | error fault => simp [Program.run]
      | ok pass =>
          rw [ofExcept_ok_bind, (lookup_authIsvalid host name pass).outcome_bind
            { world with db } (answer_authIsvalid db.oracle host name pass)]
          cases valid : validIn db.oracle host name pass with
          | false =>
              simp only [Bool.not_false, if_true, outcome_exec_bind, fault, fail_bind,
                Program.run, reduceCtorEq, false_iff]
              rintro ⟨⟨equal, other, otherEqual, accepted⟩, -⟩
              cases equal
              cases otherEqual
              simp [valid] at accepted
          | true =>
              simp only [Bool.not_true, Bool.false_eq_true, if_false]
              rw [(lookup_authCapable name caps).outcome_bind
                { world with db } (answer_authCapable db.oracle name caps)]
              cases capable : capableIn db.oracle name caps with
              | false =>
                  simp only [Bool.not_false, if_true, fault, fail_bind, Program.run,
                    reduceCtorEq, false_iff]
                  rintro ⟨⟨equal, -⟩, granted⟩
                  cases equal
                  simp [capable] at granted
              | true =>
                  simp only [Bool.not_true, Bool.false_eq_true, if_false]
                  constructor
                  · intro returned
                    cases returned
                    exact ⟨⟨rfl, pass, rfl, valid⟩, capable⟩
                  · rintro ⟨⟨equal, -⟩, -⟩
                    cases equal
                    rfl

/-- The helper methods begin with the check for `HELPER`. -/
theorem helperMethods_init (setup : Setup) {entry : Str × (Call → Method Xml)}
    (mem : entry ∈ helperMethods setup) :
    ∃ rest : Xml → Method Xml, ∀ call,
      entry.2 call = methodInit setup.host call capHelper {} >>= rest := by
  simp only [helperMethods, List.mem_cons, List.not_mem_nil, or_false] at mem
  rcases mem with rfl | rfl | rfl | rfl
  · exact ⟨_, fun call => by simp only [mHelperNetup, helperTarget, bind_assoc]; rfl⟩
  · exact ⟨_, fun call => by simp only [mHelperRestart, helperTarget, bind_assoc]; rfl⟩
  · exact ⟨_, fun call => by simp only [mHelperShutdown, helperTarget, bind_assoc]; rfl⟩
  · exact ⟨_, fun call => by simp only [mHelperStartup, helperTarget, bind_assoc]; rfl⟩

theorem capableIn_helper (oracle : Oracle) (user : Str) :
    capableIn oracle user capHelper = true := by
  have none : ∀ cap ∈ vcdCapsList, capHelper &&& cap.2 = 0 := by decide
  simp only [capableIn, List.all_eq_true, Bool.or_eq_true, decide_eq_true_eq]
  exact fun cap mem => .inl (none cap mem)

theorem methodInit_helper {host : Host} {credentials params : Xml} {world : World}
    {self : Nat} :
    (∃ result, ((methodInit host (.client credentials params) capHelper {}).run machine self
        world).outcome = .returned result) ↔
      ∃ user, Credentials host (counted world.db) credentials user := by
  have authenticates (user : Str) :=
    methodAuthenticate_returns host credentials capHelper user world self
  simp only [capableIn_helper, and_true] at authenticates
  have init : methodInit host (.client credentials params) capHelper {} =
      methodAuthenticate host credentials capHelper >>= fun _ => pure params := rfl
  rw [init, Program.run_bind_pure]
  simp only [← authenticates]
  cases ((methodAuthenticate host credentials capHelper).run machine self world).outcome <;>
    simp

/-- `auth_capable` is right about a request exactly if it does not ask for `HELPER`, or the
user has it, or the user lacks a listed capability of the request. The check the helper
methods begin with is right exactly about credentials of users with `HELPER`. -/
theorem authCapable_complete_iff (setup : Setup) :
    (∀ (world : World) (self : Nat) (user : Str) (caps : UInt64),
      (((authCapable user caps).run machine self world).outcome = .returned true →
          AllGranted world.db user caps) ↔
        caps &&& capHelper = 0 ∨ HasCap world.db user (cstr "HELPER") ∨
          ∃ cap ∈ vcdCapsList, caps &&& cap.2 ≠ 0 ∧ ¬ HasCap world.db user cap.1) ∧
    (∀ entry ∈ helperMethods setup, ∃ rest : Xml → Method Xml, ∀ call,
      entry.2 call = methodInit setup.host call capHelper {} >>= rest) ∧
    ∀ (world : World) (self : Nat) (credentials params : Xml),
      ((∃ result, ((methodInit setup.host (.client credentials params) capHelper {}).run
          machine self world).outcome = .returned result) →
        ∃ user, credentials.getStr (cstr "username") = .ok user ∧
          HasCap world.db user (cstr "HELPER")) ↔
      ∀ user, Credentials setup.host (counted world.db) credentials user →
        HasCap world.db user (cstr "HELPER") := by
  refine ⟨fun world self user caps => ?_, fun entry mem => helperMethods_init setup mem,
    fun world self credentials params => ?_⟩
  · rw [authCapable_returns, Outcome.returned.injEq, allGranted_iff]
    constructor
    · intro sound
      by_contra others
      simp only [not_or, not_exists, not_and, not_not] at others
      obtain ⟨asked, missing, listed⟩ := others
      exact missing ((sound (capableIn_iff.mpr listed)).2 asked)
    · intro condition capable
      refine ⟨capable, fun asked => ?_⟩
      rcases condition with unasked | granted | ⟨cap, mem, listed, missing⟩
      · exact absurd unasked asked
      · exact granted
      · exact absurd (capableIn_iff.mp capable cap mem listed) missing
  · rw [methodInit_helper]
    constructor
    · rintro sound user ⟨named, accepted⟩
      obtain ⟨other, otherNamed, granted⟩ := sound ⟨user, named, accepted⟩
      rw [named] at otherNamed
      cases otherNamed
      exact granted
    · rintro sound ⟨user, named, accepted⟩
      exact ⟨user, named, sound user ⟨named, accepted⟩⟩

/-- The administrator of a fresh database passes the check for `HELPER` without having
it. -/
theorem authCapable_helper_admin :
    ((authCapable (cstr "admin") capHelper).run machine 0
        (.boot (freshVxdb 0) fun _ => { rc := 0 })).outcome = .returned true ∧
      ¬ AllGranted (freshVxdb 0) (cstr "admin") capHelper := by
  refine ⟨by rw [authCapable_returns, capableIn_helper], fun all => ?_⟩
  obtain ⟨-, row, mem, uid, cap⟩ := all (cstr "HELPER", capHelper) (by decide) (by decide)
  have owner : uidIn (freshVxdb 0).oracle (cstr "admin") = 1 := by decide +kernel
  rw [owner] at uid
  revert row
  decide

end Vcd
