import Vcd.Endings
import Vcd.Steps

/-!
# Refused requests

A method that writes last leaves everything as it was when it fails. Two of the methods that
change rights do not write last.
-/

namespace Vcd

open Sql Process

variable {setup : Setup} {request : Request} {past : Past} {α β : Type}

/-! ## Methods that write last -/

/-- After a text that succeeds and does not only count, the program returns at once. -/
def WritesLast : Method α → Prop
  | .pure _ | .fail _ | .exit => True
  | .op (.exec sql) next => ∀ outcome, WritesLast (next outcome) ∧
      (Counts sql ∨ outcome.ok = false ∨ ∃ value, next outcome = .pure value)
  | .op _ next => ∀ reply, WritesLast (next reply)
  | .fork next => WritesLast (next false)

theorem Untouched.steady {event : Performed daemon} (untouched : Untouched past)
    (steady : ¬ event.request.IsExec) : Untouched (event :: past) := by
  intro sql outcome mem
  rcases List.mem_cons.mp mem with equal | mem
  · cases equal
    exact absurd trivial steady
  · exact untouched sql outcome mem

namespace WritesLast

theorem of_counting {program : Method α}
    (counting : program.Within (I := daemon) Counting Quiet) : WritesLast program := by
  induction program with
  | pure value => trivial
  | fail fault => trivial
  | exit => trivial
  | op request next ih =>
      have later (reply : request.Reply) := ih reply (counting.2 reply)
      cases request with
      | exec sql => exact fun outcome => ⟨later outcome, .inl (counts_of_mem counting.1)⟩
      | _ => exact later
  | fork next ih => exact ih false counting.2

theorem bind {program : Method α} {rest : α → Method β}
    (counting : program.Within (I := daemon) Counting Quiet)
    (later : ∀ value, WritesLast (rest value)) : WritesLast (program >>= rest) := by
  induction program with
  | pure value => exact later value
  | fail fault => trivial
  | exit => trivial
  | op request next ih =>
      have rest (reply : request.Reply) := ih reply (counting.2 reply)
      cases request with
      | exec sql => exact fun outcome => ⟨rest outcome, .inl (counts_of_mem counting.1)⟩
      | _ => exact rest
  | fork next ih => exact ih false counting.2

theorem check {condition : Prop} [Decidable condition] {fault : Fault} {other : α → Method β}
    {rest : Method β} (later : WritesLast rest) :
    WritesLast (if condition then Program.fail fault >>= other else rest) := by
  split
  · trivial
  · exact later

theorem ofExcept {known : Except Fault α} {rest : α → Method β}
    (later : ∀ value, WritesLast (rest value)) : WritesLast (Vcd.ofExcept known >>= rest) :=
  bind (silent_ofExcept known).counting later

theorem lookup {program : Method α} (lookup : Lookup program) {rest : α → Method β}
    (later : ∀ value, WritesLast (rest value)) : WritesLast (program >>= rest) :=
  bind lookup.counting later

/-- The end of a method that fails if its statement did. -/
theorem exec (sql : List Piece) (function : Str) : WritesLast (do
    let outcome ← vxdbExec sql
    if !outcome.ok then vxdbFault function
    return Xml.nil) := by
  rintro ⟨ok, changes⟩
  cases ok with
  | false => exact ⟨trivial, .inr (.inl rfl)⟩
  | true => exact ⟨trivial, .inr (.inr ⟨.nil, rfl⟩)⟩

/-- A program that writes last has written nothing when it fails. -/
theorem meets {program : Method α} (last : WritesLast program)
    (keeps : Keeps setup request past program) :
    program.Meets (discipline setup request) past fun after outcome =>
      ∀ fault, outcome = .error fault → Untouched past → Untouched after := by
  induction program generalizing past with
  | pure value => exact fun fault equal => by cases equal
  | fail fault => exact fun _ _ => id
  | exit => trivial
  | op request next ih =>
      refine ⟨keeps.1, fun reply => ?_⟩
      have later (last : WritesLast (next reply)) (grown : Untouched past →
          Untouched (⟨request, reply⟩ :: past)) := (ih reply last (keeps.2 reply)).mono
        fun after outcome known fault failed untouched =>
          known fault failed (grown untouched)
      cases request with
      | exec sql =>
          obtain ⟨rest, counts | failed | ⟨value, returns⟩⟩ := last reply
          · exact later rest fun untouched => untouched.counts counts reply
          · exact later rest (Later.failed failed).untouched
          · change (next reply).Meets _ _ _
            rw [returns]
            exact fun fault equal => by cases equal
      | _ => exact later (last reply) fun untouched => untouched.steady id
  | fork next ih => exact ⟨keeps.1, ih false last keeps.2⟩

end WritesLast

/-- A refused request that writes last leaves all tables but the counters as they were. -/
theorem unchanged_of_writesLast (last : WritesLast (handle setup request)) {world : World}
    (kept : Kept setup request world.db fun _ => True) {fault : Fault} {after : World}
    (failed : ends (handle setup request) world = (.failed fault, after)) :
    SameRows world.db after.db := by
  obtain ⟨⟨past, explained, ended⟩, -⟩ :=
    @run_explained _ setup request _ 0 world _ _ kept trivial (last.meets (handle_keeps setup request))
  obtain ⟨outcome, rfl⟩ := Prod.mk.inj failed
  rw [outcome] at ended
  exact explained.unchanged (ended fault rfl untouched_nil)

/-! ## The methods -/

section Methods

variable (host : Host) (credentials params : Xml)

theorem writesLast_configWrite (function : Str) (cap : UInt64)
    (reader : Xml → Except Fault (Str × (Int → List Piece))) :
    WritesLast (configWrite host function cap reader (.client credentials params)) := by
  refine .bind (counting_methodInit host credentials params cap _) fun params => ?_
  refine .ofExcept fun (name, sql) => .lookup (lookup_vxdbGetxid name) fun xid => ?_
  exact .check (.exec (sql xid) function)

theorem writesLast_mVcdUserCapsAdd :
    WritesLast (mVcdUserCapsAdd host (.client credentials params)) := by
  refine .bind (counting_methodInit host credentials params _ _) fun params => ?_
  refine .ofExcept fun user => .ofExcept fun cap => .check ?_
  exact .lookup (lookup_authGetuid user) fun uid => .check (.exec _ _)

theorem writesLast_mVcdUserCapsRemove :
    WritesLast (mVcdUserCapsRemove host (.client credentials params)) := by
  refine .bind (counting_methodInit host credentials params _ _) fun params => ?_
  refine .ofExcept fun user => .ofExcept fun cap => ?_
  cases methodEmptyParam cap with
  | none => exact .lookup (lookup_authGetuid user) fun uid => .check (.exec _ _)
  | some cap =>
      exact .check (.lookup (lookup_authGetuid user) fun uid => .check (.exec _ _))

theorem writesLast_mVcdUserRemove :
    WritesLast (mVcdUserRemove host (.client credentials params)) := by
  refine .bind (counting_methodInit host credentials params _ _) fun params => ?_
  refine .ofExcept fun user => .lookup (lookup_authGetuid user) fun uid => ?_
  exact .check (.exec _ _)

theorem writesLast_mVxdbOwnerAdd :
    WritesLast (mVxdbOwnerAdd host (.client credentials params)) := by
  refine .bind (counting_methodInit host credentials params _ _) fun params => ?_
  refine .ofExcept fun name => .ofExcept fun user => ?_
  refine .lookup (lookup_authGetuid user) fun uid => .check ?_
  exact .lookup (lookup_vxdbGetxid name) fun xid => .check (.exec _ _)

theorem writesLast_mVxdbOwnerRemove :
    WritesLast (mVxdbOwnerRemove host (.client credentials params)) := by
  refine .bind (counting_methodInit host credentials params _ _) fun params => ?_
  refine .ofExcept fun name => .ofExcept fun user => ?_
  refine .lookup (lookup_vxdbGetxid name) fun xid => .check ?_
  cases methodEmptyParam user with
  | none => exact .exec _ _
  | some user => exact .lookup (lookup_authGetuid user) fun uid => .check (.exec _ _)

theorem counting_validateMember (name : Str) :
    (validateMember name).Within (I := daemon) Counting Quiet := by
  unfold validateMember
  cases validateName name with
  | false => trivial
  | true =>
      refine (lookup_vxdbGetxid name).counting.bind fun xid => ?_
      split <;> trivial

theorem writesLast_mVgRemove : WritesLast (mVgRemove host (.client credentials params)) := by
  refine .bind (counting_methodInit host credentials params _ _) fun params => ?_
  refine .ofExcept fun group => .ofExcept fun name => .check <| .check ?_
  refine .lookup (lookup_vxdbGetgid group) fun gid => .check ?_
  split
  · exact .exec _ _
  · exact .bind (counting_validateMember name) fun xid => .exec _ _

theorem writesLast_silent {method : Call → Method Xml} (silent : SilentMethod host method) :
    WritesLast (method (.client credentials params)) := by
  obtain ⟨caps, flags, rest, equal, silent⟩ := silent
  rw [equal]
  exact .bind (counting_methodInit host credentials params caps flags) fun params =>
    .of_counting (silent params).counting

end Methods

/-! ## Registered methods -/

/-- The methods whose refusals are to change nothing. -/
def Guarded (method : Str) : Prop :=
  (cstr "vcd.user.").isPrefixOf method ∨ method = cstr "vg.add" ∨ method = cstr "vg.remove" ∨
    (cstr "vxdb.").isPrefixOf method

instance (method : Str) : Decidable (Guarded method) :=
  inferInstanceAs (Decidable (_ ∨ _))

theorem vxdbWriters_configWrite {method : Call → Method Xml} {name : Str}
    (mem : (name, method) ∈ vxdbWriters setup) :
    ∃ function cap reader, method = configWrite setup.host function cap reader := by
  simp only [vxdbWriters, List.mem_cons, Prod.mk.injEq, List.not_mem_nil, or_false] at mem
  rcases mem with ⟨-, rfl⟩ | ⟨-, rfl⟩ | ⟨-, rfl⟩ | ⟨-, rfl⟩ | ⟨-, rfl⟩ | ⟨-, rfl⟩ | ⟨-, rfl⟩ |
    ⟨-, rfl⟩ | ⟨-, rfl⟩ | ⟨-, rfl⟩ | ⟨-, rfl⟩ | ⟨-, rfl⟩ | ⟨-, rfl⟩ | ⟨-, rfl⟩ | ⟨-, rfl⟩ |
    ⟨-, rfl⟩ | ⟨-, rfl⟩ | ⟨-, rfl⟩ | ⟨-, rfl⟩ | ⟨-, rfl⟩ | ⟨-, rfl⟩ | ⟨-, rfl⟩ | ⟨-, rfl⟩ <;>
    exact ⟨_, _, _, rfl⟩

/-- A table of methods that are not guarded. -/
theorem not_guarded {entries : List (Str × (Call → Method Xml))} {method : Call → Method Xml}
    {name : Str} (mem : (name, method) ∈ entries)
    (none : ∀ other ∈ entries.map Prod.fst, ¬ Guarded other) : ¬ Guarded name :=
  none name (List.mem_map_of_mem mem)

/-- All guarded methods but two write last. -/
theorem writesLast_handle (guarded : Guarded request.method)
    (notSet : request.method ≠ cstr "vcd.user.set") (notAdd : request.method ≠ cstr "vg.add") :
    WritesLast (handle setup request) := by
  unfold handle
  split
  next method found =>
    have mem := mem_of_lookup_eq_some found
    simp only [registry, List.mem_append] at mem
    rcases mem with (((((mem | mem) | mem) | mem) | mem) | mem) | mem
    · refine absurd guarded (not_guarded mem ?_)
      simp only [helperMethods, List.map_cons, List.map_nil]
      decide
    · simp only [vcdMethods, List.mem_cons, Prod.mk.injEq, List.not_mem_nil, or_false] at mem
      rcases mem with ⟨name, rfl⟩ | ⟨name, rfl⟩ | ⟨name, rfl⟩ | ⟨-, rfl⟩ | ⟨-, rfl⟩ | ⟨-, rfl⟩ |
        ⟨-, rfl⟩ | ⟨-, rfl⟩ | ⟨name, rfl⟩
      · exact absurd (name ▸ guarded) (by decide)
      · exact absurd (name ▸ guarded) (by decide)
      · exact absurd (name ▸ guarded) (by decide)
      · exact writesLast_mVcdUserCapsAdd _ _ _
      · exact writesLast_silent _ _ _ (silent_mVcdUserCapsGet _)
      · exact writesLast_mVcdUserCapsRemove _ _ _
      · exact writesLast_silent _ _ _ (silent_mVcdUserGet _)
      · exact writesLast_mVcdUserRemove _ _ _
      · exact absurd name notSet
    · simp only [vgMethods, List.mem_cons, Prod.mk.injEq, List.not_mem_nil, or_false] at mem
      rcases mem with ⟨name, rfl⟩ | ⟨name, rfl⟩ | ⟨-, rfl⟩ | ⟨name, rfl⟩ | ⟨name, rfl⟩ |
        ⟨name, rfl⟩ | ⟨name, rfl⟩
      · exact absurd name notAdd
      · exact absurd (name ▸ guarded) (by decide)
      · exact writesLast_mVgRemove _ _ _
      · exact absurd (name ▸ guarded) (by decide)
      · exact absurd (name ▸ guarded) (by decide)
      · exact absurd (name ▸ guarded) (by decide)
      · exact absurd (name ▸ guarded) (by decide)
    · refine absurd guarded (not_guarded mem ?_)
      simp only [vxMethods, List.map_cons, List.map_nil]
      decide
    · obtain ⟨function, cap, reader, rfl⟩ := vxdbWriters_configWrite mem
      exact writesLast_configWrite _ _ _ function cap reader
    · obtain ⟨caps, flags, rest, equal, silent⟩ :=
        vxdbReaders_silent mem request.credentials request.params
      rw [equal]
      exact .bind (counting_methodInit _ _ _ caps flags) fun params =>
        .of_counting (silent params).counting
    · simp only [vxdbOwnerMethods, List.mem_cons, Prod.mk.injEq, List.not_mem_nil, or_false] at mem
      rcases mem with ⟨-, rfl⟩ | ⟨-, rfl⟩
      · exact writesLast_mVxdbOwnerAdd _ _ _
      · exact writesLast_mVxdbOwnerRemove _ _ _
  next missing => exact fun outcome => ⟨trivial, .inl counts_sqlNomethod⟩

end Vcd
