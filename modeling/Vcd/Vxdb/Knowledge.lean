import Vcd.Vxdb.Lookups

/-!
# What a request finds out

Facts about the history of a request: which queries it made and what it learnt from the
answers. Every lookup leaves a trace of queries, and its value is a fact about that trace.
-/

namespace Vcd

open Sql Process

/-- What a request has done, the last operation first. -/
abbrev Past := History daemon

variable {α β : Type}

/-! ## Traces of lookups -/

/-- The program makes the queries of the trace, gets the answers of the trace, and returns
the value. -/
def Traced : Method α → Past → α → Prop
  | .pure result, trace, value => trace = [] ∧ result = value
  | .op (.prepare sql) next, trace, value => ∃ reply later,
      trace = later ++ [⟨.prepare sql, reply⟩] ∧ Traced (next reply) later value
  | _, _, _ => False

theorem traced_pure {result value : α} {trace : Past}
    (traced : Traced (pure result) trace value) : trace = [] ∧ result = value :=
  traced

theorem traced_bind {program : Method α} {rest : α → Method β} {trace : Past} {value : β}
    (traced : Traced (program >>= rest) trace value) :
    ∃ middle first second, trace = second ++ first ∧ Traced program first middle ∧
      Traced (rest middle) second value := by
  induction program generalizing trace with
  | pure result => exact ⟨result, [], trace, by simp, ⟨rfl, rfl⟩, traced⟩
  | fail fault => exact traced.elim
  | exit => exact traced.elim
  | op request next ih =>
      cases request with
      | prepare sql =>
          obtain ⟨reply, later, rfl, traced⟩ := traced
          obtain ⟨middle, first, second, rfl, firstTraced, secondTraced⟩ := ih reply traced
          exact ⟨middle, first ++ [⟨.prepare sql, reply⟩], second, List.append_assoc _ _ _,
            ⟨reply, first, rfl, firstTraced⟩, secondTraced⟩
      | _ => exact traced.elim
  | fork next ih => exact traced.elim

theorem traced_prepare {sql : List Piece} {trace : Past} {reply : Option (List Row)}
    (traced : Traced (vxdbPrepare sql) trace reply) :
    trace = [⟨.prepare (render sql), reply⟩] := by
  obtain ⟨answer, later, rfl, rfl, rfl⟩ := traced
  rfl

theorem Traced.isPrepare {program : Method α} {trace : Past} {value : α}
    (traced : Traced program trace value) : ∀ event ∈ trace, event.request.IsPrepare := by
  induction program generalizing trace with
  | pure result =>
      obtain ⟨rfl, -⟩ := traced
      simp
  | fail fault => exact traced.elim
  | exit => exact traced.elim
  | op request next ih =>
      cases request with
      | prepare sql =>
          obtain ⟨reply, later, rfl, traced⟩ := traced
          intro event mem
          rcases List.mem_append.mp mem with mem | mem
          · exact ih reply traced event mem
          · obtain rfl := List.mem_singleton.mp mem
            trivial
      | _ => exact traced.elim
  | fork next ih => exact traced.elim

/-- The oracle gives the answers of the past. -/
def Agrees (oracle : Oracle) (past : Past) : Prop :=
  ∀ sql reply, (⟨.prepare sql, reply⟩ : Performed daemon) ∈ past → oracle sql = reply

theorem Agrees.mono {oracle : Oracle} {past fewer : Past} (agrees : Agrees oracle past)
    (subset : fewer ⊆ past) : Agrees oracle fewer :=
  fun sql reply mem => agrees sql reply (subset mem)

/-- The value of a lookup is the one for any oracle that agrees with its trace. -/
theorem Traced.answer {program : Method α} {trace : Past} {value : α}
    (traced : Traced program trace value) {oracle : Oracle} (agrees : Agrees oracle trace) :
    answer oracle program = some value := by
  induction program generalizing trace with
  | pure result =>
      obtain ⟨-, rfl⟩ := traced
      rfl
  | fail fault => exact traced.elim
  | exit => exact traced.elim
  | op request next ih =>
      cases request with
      | prepare sql =>
          obtain ⟨reply, later, rfl, traced⟩ := traced
          have same : oracle sql = reply := agrees sql reply (by simp)
          rw [Vcd.answer, same]
          exact ih reply traced (agrees.mono (by simp))
      | _ => exact traced.elim
  | fork next ih => exact traced.elim

/-! ## Facts -/

/-- The past contains the query with this answer. -/
def Asked (past : Past) (sql : List Piece) (reply : Option (List Row)) : Prop :=
  (⟨.prepare (render sql), reply⟩ : Performed daemon) ∈ past

/-- The query was answered with a row. -/
def Found (past : Past) (sql : List Piece) : Prop :=
  ∃ reply, Asked past sql reply ∧ (firstRow reply).isSome

/-- The first row of the answer has a certain property. -/
def Read (past : Past) (sql : List Piece) (holds : Row → Prop) : Prop :=
  ∃ reply row, Asked past sql reply ∧ firstRow reply = some row ∧ holds row

/-- The name was found to denote the context id. -/
def Looked (past : Past) (name : Str) (xid : Int) : Prop :=
  validateName name = true ∧ xid ≠ 0 ∧
    Read past (sqlGetxid name) fun row => vxdbColumnUint32 row 0 = xid

/-- The context id was found to have the name. -/
def Named (past : Past) (xid : Int) (name : Str) : Prop :=
  validateXid xid = true ∧ Read past (sqlGetname xid) fun row => vxdbColumnText row 0 = name

/-- The user was found to have the id. -/
def HasUid (past : Past) (user : Str) (uid : Int) : Prop :=
  validateUsername user = true ∧ uid ≠ 0 ∧
    Read past (sqlGetuid user) fun row => vxdbColumnInt row 0 = uid

/-- The group was found to have the id. -/
def HasGid (past : Past) (group : Str) (gid : Int) : Prop :=
  validateGroup group = true ∧ gid ≠ 0 ∧
    Read past (sqlGetgid group) fun row => vxdbColumnInt row 0 = gid

/-- The id follows the largest one found, or is the first. -/
def Next (past : Past) (sql : List Piece) (id : Int) : Prop :=
  ∃ reply, Asked past sql reply ∧
    id = ((firstRow reply).map fun row => int32 (vxdbColumnInt row 0 + 1)).getD 1

/-- The last text executed was this one, and it succeeded. -/
def Wrote (past : Past) (sql : List Piece) : Prop :=
  ∃ new outcome old, past = new ++ ⟨.exec (render sql), outcome⟩ :: old ∧ outcome.ok = true ∧
    ∀ event ∈ new, event.request.IsPrepare

/-- The user was found to be an administrator, or to own what the name denotes. -/
def Owned (past : Past) (user name : Str) : Prop :=
  ∃ uid, HasUid past user uid ∧ (Found past (sqlIsadmin user) ∨
    ∃ xid, Looked past name xid ∧ Found past (sqlIsowner uid xid))

/-- The user was found to have the capability. -/
def Capable (past : Past) (user cap : Str) : Prop :=
  ∃ uid, HasUid past user uid ∧ Found past (sqlHascapability uid cap)

section Mono

variable {fewer past : Past} (subset : fewer ⊆ past)

include subset

theorem Read.mono {sql : List Piece} {holds : Row → Prop} (read : Read fewer sql holds) :
    Read past sql holds := by
  obtain ⟨reply, row, asked, first, known⟩ := read
  exact ⟨reply, row, subset asked, first, known⟩

theorem Found.mono {sql : List Piece} (found : Found fewer sql) : Found past sql := by
  obtain ⟨reply, asked, some⟩ := found
  exact ⟨reply, subset asked, some⟩

theorem Looked.mono {name : Str} {xid : Int} (looked : Looked fewer name xid) :
    Looked past name xid :=
  ⟨looked.1, looked.2.1, looked.2.2.mono subset⟩

theorem Named.mono {name : Str} {xid : Int} (named : Named fewer xid name) :
    Named past xid name :=
  ⟨named.1, named.2.mono subset⟩

theorem HasUid.mono {user : Str} {uid : Int} (known : HasUid fewer user uid) :
    HasUid past user uid :=
  ⟨known.1, known.2.1, known.2.2.mono subset⟩

theorem HasGid.mono {group : Str} {gid : Int} (known : HasGid fewer group gid) :
    HasGid past group gid :=
  ⟨known.1, known.2.1, known.2.2.mono subset⟩

theorem Next.mono {sql : List Piece} {id : Int} (next : Next fewer sql id) :
    Next past sql id := by
  obtain ⟨reply, asked, known⟩ := next
  exact ⟨reply, subset asked, known⟩

theorem Owned.mono {user name : Str} (owned : Owned fewer user name) :
    Owned past user name := by
  obtain ⟨uid, known, found | ⟨xid, looked, found⟩⟩ := owned
  · exact ⟨uid, known.mono subset, .inl (found.mono subset)⟩
  · exact ⟨uid, known.mono subset, .inr ⟨xid, looked.mono subset, found.mono subset⟩⟩

theorem Capable.mono {user cap : Str} (capable : Capable fewer user cap) :
    Capable past user cap := by
  obtain ⟨uid, known, found⟩ := capable
  exact ⟨uid, known.mono subset, found.mono subset⟩

end Mono

/-! ## What lookups find out -/

/-- A query and what is made of its answer. -/
theorem traced_query {sql : List Piece} {rest : Option (List Row) → Method α} {trace : Past}
    {value : α} (traced : Traced (vxdbPrepare sql >>= rest) trace value) :
    ∃ reply later, trace = later ++ [⟨.prepare (render sql), reply⟩] ∧
      Traced (rest reply) later value :=
  traced

/-- A query of which only the first row counts. -/
theorem traced_firstRow {sql : List Piece} {rest : Option (List Row) → Method α}
    (reading : Row → α) (missing : α)
    (returns : ∀ reply, rest reply = pure (((firstRow reply).map reading).getD missing))
    {trace : Past} {value : α} (traced : Traced (vxdbPrepare sql >>= rest) trace value) :
    value = missing ∨ Read trace sql fun row => reading row = value := by
  obtain ⟨reply, later, rfl, after⟩ := traced_query traced
  rw [returns] at after
  obtain ⟨rfl, rfl⟩ := traced_pure after
  cases first : firstRow reply with
  | none => exact .inl rfl
  | some row => exact .inr ⟨reply, row, List.mem_append_right _ (by simp), first, rfl⟩

theorem traced_vxdbGetxid {name : Str} {trace : Past} {xid : Int}
    (traced : Traced (vxdbGetxid name) trace xid) : xid = 0 ∨ Looked trace name xid := by
  unfold vxdbGetxid at traced
  cases valid : validateName name with
  | false =>
      rw [valid] at traced
      exact .inl (traced_pure traced).2.symm
  | true =>
      rw [valid] at traced
      by_cases zero : xid = 0
      · exact .inl zero
      · have known := traced_firstRow (fun row => vxdbColumnUint32 row 0) 0
          (fun reply => by rcases reply with _ | _ | ⟨row, rows⟩ <;> rfl) traced
        exact .inr ⟨valid, zero, known.resolve_left zero⟩

theorem traced_vxdbGetname {xid : Int} {trace : Past} {name : Str}
    (traced : Traced (vxdbGetname xid) trace (some name)) : Named trace xid name := by
  unfold vxdbGetname at traced
  cases valid : validateXid xid with
  | false =>
      rw [valid] at traced
      exact absurd (traced_pure traced).2 (by simp)
  | true =>
      rw [valid] at traced
      have known := traced_firstRow (fun row => some (vxdbColumnText row 0)) none
        (fun reply => by rcases reply with _ | _ | ⟨row, rows⟩ <;> rfl) traced
      obtain ⟨reply, row, asked, first, text⟩ := known.resolve_left (by simp)
      exact ⟨valid, reply, row, asked, first, Option.some.inj text⟩

theorem traced_authGetuid {user : Str} {trace : Past} {uid : Int}
    (traced : Traced (authGetuid user) trace uid) : uid = 0 ∨ HasUid trace user uid := by
  unfold authGetuid at traced
  cases valid : validateUsername user with
  | false =>
      rw [valid] at traced
      exact .inl (traced_pure traced).2.symm
  | true =>
      rw [valid] at traced
      by_cases zero : uid = 0
      · exact .inl zero
      · have known := traced_firstRow (fun row => vxdbColumnInt row 0) 0
          (fun reply => by rcases reply with _ | _ | ⟨row, rows⟩ <;> rfl) traced
        exact .inr ⟨valid, zero, known.resolve_left zero⟩

theorem traced_vxdbGetgid {group : Str} {trace : Past} {gid : Int}
    (traced : Traced (vxdbGetgid group) trace gid) : gid = 0 ∨ HasGid trace group gid := by
  unfold vxdbGetgid at traced
  cases valid : validateGroup group with
  | false =>
      rw [valid] at traced
      exact .inl (traced_pure traced).2.symm
  | true =>
      rw [valid] at traced
      by_cases zero : gid = 0
      · exact .inl zero
      · have known := traced_firstRow (fun row => vxdbColumnInt row 0) 0
          (fun reply => by rcases reply with _ | _ | ⟨row, rows⟩ <;> rfl) traced
        exact .inr ⟨valid, zero, known.resolve_left zero⟩

theorem traced_authGetnextuid {trace : Past} {uid : Int}
    (traced : Traced authGetnextuid trace uid) : Next trace sqlNextuid uid := by
  obtain ⟨reply, later, rfl, after⟩ := traced_query traced
  refine ⟨reply, List.mem_append_right _ (by simp), ?_⟩
  rcases reply with _ | _ | ⟨row, rows⟩ <;> exact (traced_pure after).2.symm

/-- A query that asks whether there is a row. -/
theorem traced_found {sql : List Piece} {rest : Option (List Row) → Method Bool}
    (returns : ∀ reply, rest reply = pure (firstRow reply).isSome) {trace : Past}
    (traced : Traced (vxdbPrepare sql >>= rest) trace true) : Found trace sql := by
  obtain ⟨reply, later, rfl, after⟩ := traced_query traced
  rw [returns] at after
  obtain ⟨rfl, some⟩ := traced_pure after
  exact ⟨reply, List.mem_append_right _ (by simp), some⟩

theorem traced_authIsadmin {user : Str} {trace : Past}
    (traced : Traced (authIsadmin user) trace true) : Found trace (sqlIsadmin user) := by
  unfold authIsadmin at traced
  split at traced
  · exact absurd (traced_pure traced).2 (by simp)
  · exact traced_found (fun reply => by rcases reply with _ | _ | ⟨row, rows⟩ <;> rfl) traced

theorem traced_authIsowner {user name : Str} {trace : Past}
    (traced : Traced (authIsowner user name) trace true) : Owned trace user name := by
  obtain ⟨uid, first, others, rfl, getuid, afterUid⟩ := traced_bind traced
  split at afterUid
  · exact absurd (traced_pure afterUid).2 (by simp)
  next nonzero =>
    have known := (traced_authGetuid getuid).resolve_left nonzero
    obtain ⟨admin, second, others, rfl, isadmin, afterAdmin⟩ := traced_bind afterUid
    cases admin with
    | true =>
        exact ⟨uid, known.mono (by simp), .inl ((traced_authIsadmin isadmin).mono (by simp))⟩
    | false =>
        obtain ⟨xid, third, last, rfl, getxid, afterXid⟩ := traced_bind afterAdmin
        split at afterXid
        · exact absurd (traced_pure afterXid).2 (by simp)
        next found =>
          have looked := (traced_vxdbGetxid getxid).resolve_left found
          have owner := traced_found
            (fun reply => by rcases reply with _ | _ | ⟨row, rows⟩ <;> rfl) afterXid
          exact ⟨uid, known.mono fun event mem => by simp [mem], .inr ⟨xid,
            looked.mono fun event mem => by simp [mem],
            owner.mono fun event mem => by simp [mem]⟩⟩

theorem traced_authHascapability {user key : Str} {cap : UInt64}
    (listed : flist64Getkey vcdCapsList cap = some key) {trace : Past}
    (traced : Traced (authHascapability user cap) trace true) : Capable trace user key := by
  obtain ⟨uid, first, last, rfl, getuid, after⟩ := traced_bind traced
  split at after
  · exact absurd (traced_pure after).2 (by simp)
  next nonzero =>
    have known := (traced_authGetuid getuid).resolve_left nonzero
    rw [listed] at after
    have found := traced_found
      (fun reply => by rcases reply with _ | _ | ⟨row, rows⟩ <;> rfl) after
    exact ⟨uid, known.mono (by simp), found.mono (by simp)⟩

/-- A request for `AUTH` is granted to users who were found to have it. -/
theorem traced_authCapable {user : Str} {trace : Past}
    (traced : Traced (authCapable user capAuth) trace true) :
    Capable trace user (cstr "AUTH") := by
  have first : authCapable user capAuth = (do
      if !(← authHascapability user capAuth) then return false
      authCapableIn user capAuth (vcdCapsList.drop 1)) := by rfl
  rw [first] at traced
  obtain ⟨has, earlier, later, rfl, hascap, after⟩ := traced_bind traced
  cases has with
  | false => exact absurd (traced_pure after).2 (by simp)
  | true => exact (traced_authHascapability (by decide) hascap).mono (by simp)

/-! ## Eras -/

/-- A successful write ends what was known about the database. -/
def endsEra : Performed daemon → Bool
  | ⟨.exec _, outcome⟩ => outcome.ok
  | _ => false

/-- The events since the last successful write. -/
def recent (past : Past) : Past :=
  since endsEra past

def Op.IsExec : Op → Prop
  | .exec _ => True
  | _ => False

theorem endsEra_eq_false {event : Performed daemon} (steady : ¬ event.request.IsExec) :
    endsEra event = false := by
  obtain ⟨request, reply⟩ := event
  cases request with
  | exec sql => exact absurd trivial steady
  | _ => rfl

/-- What was known stays known while nothing is written. -/
theorem recent_append {past new : Past} (steady : ∀ event ∈ new, ¬ event.request.IsExec) :
    recent (new ++ past) = new ++ recent past := by
  rw [recent, since, List.takeWhile_append_of_pos fun event mem => ?_]
  · rfl
  · simp [endsEra_eq_false (steady event mem)]

theorem recent_cons {past : Past} {event : Performed daemon} (steady : ¬ event.request.IsExec) :
    recent (event :: past) = event :: recent past := by
  have single : ∀ other ∈ [event], ¬ other.request.IsExec := by simpa using steady
  exact recent_append single

theorem recent_subset {past : Past} : recent past ⊆ past :=
  fun _ mem => mem_of_mem_since mem

/-- A trace of queries is recent knowledge. -/
theorem Traced.recent {program : Method α} {trace : Past} {value : α}
    (traced : Traced program trace value) (past : Past) :
    Vcd.recent (trace ++ past) = trace ++ Vcd.recent past :=
  recent_append fun event mem exec => by
    have query := traced.isPrepare event mem
    obtain ⟨request, reply⟩ := event
    cases request with
    | exec sql => exact query
    | _ => exact exec

/-! ## Bodies of methods -/

def markOf : Performed daemon → Option Mark
  | ⟨.mark mark, _⟩ => some mark
  | _ => none

/-- The method body the request is inside, with the name it works on. -/
def entered (past : Past) : Option (Body × Str) :=
  match past.findSome? markOf with
  | some (.enter body name) => some (body, name)
  | _ => none

/-- The events since the last mark. -/
def sinceMark (past : Past) : Past :=
  since (fun event => (markOf event).isSome) past

theorem sinceMark_append {past new : Past} (unmarked : ∀ event ∈ new, markOf event = none) :
    sinceMark (new ++ past) = new ++ sinceMark past := by
  rw [sinceMark, since, List.takeWhile_append_of_pos fun event mem => ?_]
  · rfl
  · simp [unmarked event mem]

theorem entered_append {past new : Past} (unmarked : ∀ event ∈ new, markOf event = none) :
    entered (new ++ past) = entered past := by
  have none : new.findSome? markOf = none := List.findSome?_eq_none_iff.mpr unmarked
  rw [entered, List.findSome?_append, none]
  rfl

theorem Traced.unmarked {program : Method α} {trace : Past} {value : α}
    (traced : Traced program trace value) : ∀ event ∈ trace, markOf event = none := by
  intro event mem
  have query := traced.isPrepare event mem
  obtain ⟨request, reply⟩ := event
  cases request with
  | mark mark => exact query.elim
  | _ => rfl

end Vcd
