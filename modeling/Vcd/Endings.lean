import Vcd.Capabilities
import Vcd.Process.Sequence
import Vcd.Sequential

/-!
# How requests end

The outcome and the last state of a program that runs alone, step by step, and of the
checks every method begins with.
-/

namespace Vcd

open Sql Process

variable {α β : Type} {world : World}

/-- How a program that runs alone ends, and in which state. -/
def ends (program : Method α) (world : World) : Process.Outcome Fault α × World :=
  ((program.run machine 0 world).outcome, (program.run machine 0 world).state)

/-- A program goes on from where its first part ended. -/
def follow (how : Process.Outcome Fault α × World) (rest : α → Method β) :
    Process.Outcome Fault β × World :=
  match how.1 with
  | .returned value => ends (rest value) how.2
  | .failed fault => (.failed fault, how.2)
  | .exited => (.exited, how.2)

theorem ends_bind {program : Method α} (contained : program.Contained) (rest : α → Method β)
    (world : World) : ends (program >>= rest) world = follow (ends program world) rest := by
  have ran : (program >>= rest).run machine 0 world =
      Program.Completed.andThen (program.run machine 0 world) rest 0 :=
    @Program.Contained.run_bind daemon Fault α β machine 0 program contained rest world
  unfold ends follow
  rw [ran]
  unfold Program.Completed.andThen
  cases (program.run machine 0 world).outcome <;> rfl

@[simp] theorem ends_pure (value : α) (world : World) :
    ends (pure value) world = (.returned value, world) := rfl

@[simp] theorem ends_fail (fault : Fault) (world : World) :
    ends (.fail fault : Method α) world = (.failed fault, world) := rfl

theorem ends_lookup {program : Method α} (lookup : Lookup program) {value : α}
    (known : answer world.db.oracle program = some value) (rest : α → Method β) :
    ends (program >>= rest) world = ends (rest value) world := by
  obtain ⟨before, -, ran⟩ := lookup.run_bind world known 0 rest
  unfold ends
  rw [ran]

theorem ends_ofExcept (known : Except Fault α) (rest : α → Method β) (world : World) :
    ends (ofExcept known >>= rest) world =
      match known with
      | .ok value => ends (rest value) world
      | .error fault => (.failed fault, world) := by
  cases known <;> rfl

theorem ends_exec (sql : List Piece) (rest : Sql.Outcome → Method β) (world : World) :
    ends (vxdbExec sql >>= rest) world =
      ends (rest (execText world.db (render sql)).2)
        { world with db := (execText world.db (render sql)).1 } := rfl

theorem SameRows.trans {first second third : Vxdb} (left : SameRows first second)
    (right : SameRows second third) : SameRows first third :=
  fun table other => (right table other).trans (left table other)

theorem sameRows_counts {sql : Str} (counts : Counts sql) (db : Vxdb) :
    SameRows db (execText db sql).1 :=
  fun _ other => counts.rows db other

theorem ends_prepare (sql : List Piece) (rest : Option (List Row) → Method β) (world : World) :
    ends (vxdbPrepare sql >>= rest) world =
      ends (rest (prepareText world.db (render sql))) world := rfl

/-! ## Checks -/

/-- A program ends with this result: it returns in a certain state, or it fails and has
changed nothing but counters. -/
def Results (program : Method α) (world : World) (next : World) (result : Except Fault α) : Prop :=
  match result with
  | .ok value => ends program world = (.returned value, next)
  | .error fault => ∃ after, SameRows world.db after.db ∧
      ends program world = (.failed fault, after)

namespace Results

variable {program : Method α} {next : World} {db : Vxdb}

theorem pure (value : α) (world : World) : Results (Pure.pure value) world world (.ok value) :=
  rfl

theorem fail (fault : Fault) (world next : World) :
    Results (.fail fault : Method α) world next (.error fault) :=
  ⟨world, fun _ _ => rfl, rfl⟩

theorem ofExcept (known : Except Fault α) (rest : α → Method β) {result : α → Except Fault β}
    (later : ∀ value, Results (rest value) world next (result value)) :
    Results (Vcd.ofExcept known >>= rest) world next (known >>= result) := by
  cases known with
  | ok value => exact later value
  | error fault => exact fail fault world next

theorem lookup {program : Method α} (lookup : Lookup program) {value : α}
    (known : answer world.db.oracle program = some value) {rest : α → Method β}
    {result : Except Fault β} (later : Results (rest value) world next result) :
    Results (program >>= rest) world next result := by
  unfold Results at later ⊢
  rwa [ends_lookup lookup known]

theorem bind {program : Method α} {middle : World} {result : Except Fault α}
    (first : Results program world middle result) (contained : program.Contained)
    {rest : α → Method β} {results : α → Except Fault β} (same : SameRows world.db middle.db)
    (later : ∀ value, Results (rest value) middle next (results value)) :
    Results (program >>= rest) world next (result >>= results) := by
  unfold Results at first
  cases result with
  | ok value =>
      have rest := later value
      unfold Results
      rw [ends_bind contained, first]
      change match results value with | .ok _ => _ | .error _ => _
      unfold Results at rest
      cases known : results value with
      | ok value => rwa [known] at rest
      | error fault =>
          rw [known] at rest
          obtain ⟨after, rows, ended⟩ := rest
          exact ⟨after, same.trans rows, ended⟩
  | error fault =>
      obtain ⟨after, rows, ended⟩ := first
      refine ⟨after, rows, ?_⟩
      rw [ends_bind contained, ended]
      rfl

/-- A text that only counts, before anything else. -/
theorem counts {sql : List Piece} (counts : Counts (render sql))
    {rest : Sql.Outcome → Method β} {result : Except Fault β}
    (later : Results (rest (execText world.db (render sql)).2)
      { world with db := (execText world.db (render sql)).1 } next result) :
    Results (vxdbExec sql >>= rest) world next result := by
  have same := sameRows_counts counts world.db
  cases result with
  | ok value => exact later
  | error fault =>
      obtain ⟨after, rows, ended⟩ := later
      exact ⟨after, same.trans rows, ended⟩

theorem check {condition : Prop} [Decidable condition] {fault : Fault} {other : α → Method β}
    {rest : Method β} {result : Except Fault β}
    (later : ¬ condition → Results rest world next result) :
    Results (if condition then Program.fail fault >>= other else rest) world next
      (if condition then .error fault else result) := by
  split
  next => exact fail fault world next
  next passed => exact later passed

end Results

/-! ## Authentication -/

/-- What comes of an authentication, given the answers of the database. -/
def authenticationIn (oracle : Oracle) (host : Host) (credentials : Xml) (caps : UInt64) :
    Except Fault Str := do
  let user ← credentials.getStr (cstr "username")
  let pass ← credentials.getStr (cstr "password")
  if !validIn oracle host user pass then .error (.of .auth)
  else if !capableIn oracle user caps then .error (.of .perm)
  else .ok user

theorem results_methodAuthenticate (host : Host) (credentials : Xml) (caps : UInt64)
    (world : World) : Results (methodAuthenticate host credentials caps) world
      { world with db := counted world.db }
      (authenticationIn (counted world.db).oracle host credentials caps) := by
  refine Results.counts counts_sqlRequests ?_
  change Results _ { world with db := counted world.db } _ _
  refine Results.ofExcept _ _ fun user => Results.ofExcept _ _ fun pass => ?_
  refine Results.lookup (lookup_authIsvalid host user pass)
    (answer_authIsvalid _ host user pass) ?_
  cases validIn (counted world.db).oracle host user pass with
  | false => exact Results.counts counts_sqlFlogins (.fail _ _ _)
  | true =>
      refine Results.lookup (lookup_authCapable user caps) (answer_authCapable _ user caps) ?_
      exact Results.check fun _ => .pure user _

/-! ## Flags -/

/-- What comes of the checks of the flags, given which locks are free. -/
def flagsIn (oracle : Oracle) (free : Str → Bool) (params : Xml) (user : Str) (flags : Flags) :
    Except Fault Unit := do
  let name ← params.getStr (cstr "name")
  if !validateName name then .error (.of .inval)
  else if flags.owner && !ownerIn oracle user name then .error (.of .novps)
  else if flags.lock && !free name then .error (.of .busy)
  else .ok ()

namespace World

/-- The lock of a name is not held by another process. -/
def free (world : World) (name : Str) : Bool :=
  world.holder name |>.all (· == 0)

/-- The request holds the lock of its name, if its method takes it. -/
def locked (world : World) (params : Xml) (flags : Flags) : World :=
  match flags.lock, params.getStr (cstr "name") with
  | true, .ok name => { world with holder := Function.update world.holder name (some 0) }
  | _, _ => world

theorem db_locked (world : World) (params : Xml) (flags : Flags) :
    (world.locked params flags).db = world.db := by
  unfold locked
  split <;> rfl

end World

theorem locked_kernel (world : World) (params : Xml) (flags : Flags) :
    (world.locked params flags).kernel = world.kernel ∧
      (world.locked params flags).clock = world.clock := by
  unfold World.locked
  split <;> exact ⟨rfl, rfl⟩

theorem results_methodLock (name : Str) (world : World) :
    Results (methodLock name) world
      { world with holder := Function.update world.holder name (some 0) }
      (if world.free name then .ok () else .error (.of .busy)) := by
  have tested : ends (methodLock name) world = ends (if world.free name then
      Program.perform (I := daemon) (.lock name) else fault .busy) world := rfl
  unfold Results
  rw [tested]
  cases world.free name with
  | true => rfl
  | false => exact ⟨world, fun _ _ => rfl, rfl⟩

theorem results_methodCheckFlags (params : Xml) (user : Str) (flags : Flags) (world : World) :
    Results (methodCheckFlags params (some user) flags) world (world.locked params flags)
      (flagsIn world.db.oracle world.free params user flags) := by
  unfold methodCheckFlags flagsIn World.locked
  cases params.getStr (cstr "name") with
  | error fault => exact .fail _ _ _
  | ok name =>
      refine Results.check fun _ => ?_
      have locking : Results (if flags.lock then methodLock name else pure ()) world
          (match flags.lock, (.ok name : Except Fault Str) with
            | true, .ok name => { world with holder := Function.update world.holder name (some 0) }
            | _, _ => world)
          (if flags.lock && !world.free name then .error (.of .busy) else .ok ()) := by
        cases flags.lock with
        | false => exact .pure () world
        | true =>
            have taken := results_methodLock name world
            cases free : world.free name <;> simpa [free] using taken
      cases owner : flags.owner with
      | false => simpa [owner] using locking
      | true =>
          refine Results.lookup (lookup_authIsowner user name) (answer_authIsowner _ user name) ?_
          cases ownerIn world.db.oracle user name with
          | false => exact .fail _ _ _
          | true => exact locking

/-! ## Admission -/

/-- The texts that count requests. -/
def counterTexts : List Str :=
  [render sqlRequests, render sqlFlogins, render sqlNomethod]

/-- Whatever it executes only counts. -/
def Counting : Op → Prop
  | .exec sql => sql ∈ counterTexts
  | _ => True

theorem counts_of_mem {sql : Str} (mem : sql ∈ counterTexts) : Counts sql := by
  simp only [counterTexts, List.mem_cons, List.not_mem_nil, or_false] at mem
  rcases mem with rfl | rfl | rfl
  · exact counts_sqlRequests
  · exact counts_sqlFlogins
  · exact counts_sqlNomethod

/-- What the checks of a request perform: queries, the counters, and its lock. -/
def Access : Op → Prop
  | .exec sql => sql ∈ counterTexts
  | .sys _ | .mark _ => False
  | _ => True

theorem Access.counting : ∀ {op : Op}, Access op → Counting op
  | .exec _, access => access
  | .prepare _, _ | .testLock _, _ | .lock _, _ => trivial

variable {quiet : Op → Prop}

theorem Lookup.access {program : Method α} (lookup : Lookup program) :
    program.Within (I := daemon) Access quiet :=
  (lookup.within quiet).mono fun op query => by
    cases op with
    | exec sql => exact query.elim
    | sys call => exact query.elim
    | mark mark => exact query.elim
    | _ => trivial

theorem Lookup.counting {program : Method α} (lookup : Lookup program) :
    program.Within (I := daemon) Counting Quiet :=
  lookup.access.mono fun _ => Access.counting

theorem Silent.counting {program : Method α} (silent : Silent program) :
    program.Within (I := daemon) Counting Quiet :=
  Program.Within.mono silent fun op quiet => by
    cases op with
    | exec sql => exact quiet.elim
    | _ => trivial

theorem access_methodAuthenticate (host : Host) (credentials : Xml) (caps : UInt64) :
    (methodAuthenticate host credentials caps).Within (I := daemon) Access quiet := by
  refine ⟨List.mem_cons_self, fun _ => ?_⟩
  refine (within_ofExcept _).bind fun user => ?_
  refine (within_ofExcept _).bind fun pass => ?_
  refine (lookup_authIsvalid host user pass).access.bind fun valid => ?_
  cases valid with
  | false => exact ⟨List.mem_cons_of_mem _ List.mem_cons_self, fun _ => trivial⟩
  | true =>
      refine (lookup_authCapable user caps).access.bind fun capable => ?_
      cases capable <;> trivial

theorem counting_methodAuthenticate (host : Host) (credentials : Xml) (caps : UInt64) :
    (methodAuthenticate host credentials caps).Within (I := daemon) Counting Quiet :=
  (access_methodAuthenticate host credentials caps).mono fun _ => Access.counting

theorem access_methodLock (name : Str) :
    (methodLock name).Within (I := daemon) Access quiet := by
  refine ⟨trivial, fun free => ?_⟩
  cases free with
  | false => trivial
  | true => exact ⟨trivial, fun _ => trivial⟩

theorem access_methodCheckFlags (params : Xml) (user : Option Str) (flags : Flags) :
    (methodCheckFlags params user flags).Within (I := daemon) Access quiet := by
  refine (within_ofExcept _).bind fun name => ?_
  cases validateName name with
  | false => trivial
  | true =>
      cases user with
      | none => trivial
      | some user =>
          have locking : (if flags.lock = true then methodLock name else pure ()).Within
              (I := daemon) Access quiet := by
            split
            · exact access_methodLock name
            · trivial
          simp only [Bool.not_true, Bool.false_eq_true, if_false]
          split
          · refine (lookup_authIsowner user name).access.bind fun owner => ?_
            cases owner with
            | false => trivial
            | true => exact locking
          · exact locking

theorem counting_methodCheckFlags (params : Xml) (user : Str) (flags : Flags) :
    (methodCheckFlags params (some user) flags).Within (I := daemon) Counting Quiet :=
  (access_methodCheckFlags params (some user) flags).mono fun _ => Access.counting

theorem access_methodInit (host : Host) (call : Call) (caps : UInt64) (flags : Flags) :
    (methodInit host call caps flags).Within (I := daemon) Access quiet := by
  cases call with
  | client credentials params =>
      refine (access_methodAuthenticate host credentials caps).bind fun user => ?_
      split
      · exact (access_methodCheckFlags params (some user) flags).bind fun _ => trivial
      · trivial
  | internal params =>
      change (if _ then _ else _ : Method Xml).Within _ _
      split
      · exact (access_methodCheckFlags params none flags).bind fun _ => trivial
      · trivial

theorem counting_methodInit (host : Host) (credentials params : Xml) (caps : UInt64)
    (flags : Flags) : (methodInit host (.client credentials params) caps flags).Within
      (I := daemon) Counting Quiet :=
  (access_methodInit host (.client credentials params) caps flags).mono fun _ => Access.counting

/-- The checks of a client's call come first, and then its parameters are used. -/
theorem methodInit_client (host : Host) (credentials params : Xml) (caps : UInt64)
    (flags : Flags) : ∃ entry : Method Unit, entry.Within (I := daemon) Access quiet ∧
      ∀ {β : Type} (rest : Xml → Method β),
        (methodInit host (.client credentials params) caps flags >>= rest) =
          entry >>= fun _ => rest params := by
  refine ⟨methodAuthenticate host credentials caps >>= fun user =>
    if flags.any then methodCheckFlags params (some user) flags else pure (), ?_, ?_⟩
  · refine (access_methodAuthenticate host credentials caps).bind fun user => ?_
    split
    · exact access_methodCheckFlags params (some user) flags
    · trivial
  · intro β rest
    unfold methodInit
    simp only [bind_assoc]
    congr 1
    funext user
    split
    · simp only [bind_assoc, pure_bind]
    · rfl

/-- What comes of `method_init` for a client's call. -/
def admissionIn (oracle : Oracle) (host : Host) (free : Str → Bool) (credentials params : Xml)
    (caps : UInt64) (flags : Flags) : Except Fault Xml := do
  let user ← authenticationIn oracle host credentials caps
  if flags.any then flagsIn oracle free params user flags
  return params

theorem results_methodInit (host : Host) (credentials params : Xml) (caps : UInt64)
    (flags : Flags) (world : World) :
    Results (methodInit host (.client credentials params) caps flags) world
      ({ world with db := counted world.db }.locked params flags)
      (admissionIn (counted world.db).oracle host world.free credentials params caps flags) := by
  refine Results.bind (results_methodAuthenticate host credentials caps world)
    (counting_methodAuthenticate host credentials caps).contained
    (sameRows_counts counts_sqlRequests world.db) fun user => ?_
  cases any : flags.any with
  | false =>
      have unlocked : ({ world with db := counted world.db }).locked params flags =
          { world with db := counted world.db } := by
        simp only [Flags.any, Bool.or_eq_false_iff] at any
        simp [World.locked, any.2]
      rw [unlocked]
      exact .pure params _
  | true =>
      exact Results.bind (results_methodCheckFlags params user flags { world with db := counted world.db })
        (counting_methodCheckFlags params user flags).contained
        (by rw [World.db_locked]; exact fun _ _ => rfl) fun _ => .pure params _

/-- A client's request without flags that is admitted goes on with its counter. -/
theorem ends_admitted {credentials params : Xml} {host : Host} {caps : UInt64} {user : Str}
    (admitted : authenticationIn (counted world.db).oracle host credentials caps = .ok user)
    (rest : Xml → Method β) :
    ends (methodInit host (.client credentials params) caps {} >>= rest) world =
      ends (rest params) { world with db := counted world.db } := by
  have results := results_methodInit host credentials params caps {} world
  have known : admissionIn (counted world.db).oracle host world.free credentials params caps {} =
      .ok params := by
    unfold admissionIn
    rw [admitted]
    rfl
  rw [known] at results
  have first : ends (methodInit host (.client credentials params) caps {}) world =
      (.returned params, { world with db := counted world.db }) := results
  rw [ends_bind (counting_methodInit host credentials params caps {}).contained, first]
  rfl

/-! ## Programs that return -/

variable {host : Host} {next : World}

/-- The program returns. -/
def returns (program : Method α) (world : World) : Bool :=
  match (ends program world).1 with
  | .returned _ => true
  | _ => false

theorem exists_returned {program : Method α} (returned : returns program world = true) :
    ∃ value, ends program world = (.returned value, (ends program world).2) := by
  unfold returns at returned
  split at returned
  next value known => exact ⟨value, Prod.ext known rfl⟩
  next => cases returned

theorem returned_bind {program : Method α} (contained : program.Contained) {rest : α → Method β}
    {value : β} (ended : ends (program >>= rest) world = (.returned value, next)) :
    ∃ middle between, ends program world = (.returned middle, between) ∧
      ends (rest middle) between = (.returned value, next) := by
  rw [ends_bind contained] at ended
  unfold follow at ended
  split at ended
  next middle first => exact ⟨middle, _, Prod.ext first rfl, ended⟩
  next => cases ended
  next => cases ended

theorem returned_check {condition : Prop} [Decidable condition] {fault : Fault}
    {other : α → Method β} {rest : Method β} {value : β}
    (ended : ends (if condition then Program.fail fault >>= other else rest) world =
      (.returned value, next)) : ¬ condition ∧ ends rest world = (.returned value, next) := by
  split at ended
  next => cases ended
  next passed => exact ⟨passed, ended⟩

theorem returned_ofExcept {known : Except Fault α} {rest : α → Method β} {value : β}
    (ended : ends (ofExcept known >>= rest) world = (.returned value, next)) :
    ∃ read, known = .ok read ∧ ends (rest read) world = (.returned value, next) := by
  cases known with
  | error fault => cases ended
  | ok read => exact ⟨read, rfl, ended⟩

theorem admissionIn_eq_ok {oracle : Oracle} {free : Str → Bool} {credentials params admitted : Xml}
    {caps : UInt64} {flags : Flags}
    (known : admissionIn oracle host free credentials params caps flags = .ok admitted) :
    params = admitted := by
  unfold admissionIn at known
  obtain ⟨user, -, known⟩ := bind_eq_ok.mp known
  cases any : flags.any with
  | false =>
      rw [any] at known
      exact Except.ok.inj known
  | true =>
      rw [any] at known
      obtain ⟨_, -, known⟩ := bind_eq_ok.mp known
      exact Except.ok.inj known

theorem returned_pure {answer value : α} (ended : ends (pure answer) world = (.returned value, next)) :
    world = next :=
  (Prod.mk.inj ended).2

/-- A client's request that returns was admitted, and went on with its counter and its lock. -/
theorem returned_admitted {credentials params : Xml} {caps : UInt64} {flags : Flags}
    {rest : Xml → Method β} {value : β}
    (ended : ends (methodInit host (.client credentials params) caps flags >>= rest) world =
      (.returned value, next)) :
    admissionIn (counted world.db).oracle host world.free credentials params caps flags =
        .ok params ∧
      ends (rest params) ({ world with db := counted world.db }.locked params flags) =
        (.returned value, next) := by
  obtain ⟨read, start, first, later⟩ :=
    returned_bind (counting_methodInit host credentials params caps flags).contained ended
  have results := results_methodInit host credentials params caps flags world
  unfold Results at results
  split at results
  next admitted known =>
    obtain rfl := admissionIn_eq_ok known
    rw [first] at results
    cases results
    exact ⟨known, later⟩
  next =>
    obtain ⟨after, -, failed⟩ := results
    rw [first] at failed
    cases failed

theorem returned_methodInit {credentials params : Xml} {caps : UInt64} {flags : Flags}
    {rest : Xml → Method β} {value : β}
    (ended : ends (methodInit host (.client credentials params) caps flags >>= rest) world =
      (.returned value, next)) :
    ∃ start, SameRows world.db start.db ∧ ends (rest params) start = (.returned value, next) := by
  refine ⟨_, ?_, (returned_admitted ended).2⟩
  rw [World.db_locked]
  exact sameRows_counts counts_sqlRequests world.db

end Vcd
