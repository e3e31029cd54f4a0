import Vcd.Discipline.Readers

/-!
# Removal and renaming keep the discipline

The bodies of `vx.remove` and `vx.rename` run inside a mark. Inside it they look the name up
again before they write.
-/

namespace Vcd

open Sql Process

variable {setup : Setup} {request : Request} {past new : Past} {name : Str} {body : Body}

/-! ## Inside a body -/

/-- Events that neither write nor mark anything. -/
def Plain (new : Past) : Prop :=
  ∀ event ∈ new, ¬ event.request.IsExec ∧ markOf event = none

theorem Plain.append {newer : Past} (later : Plain newer) (plain : Plain new) :
    Plain (newer ++ new) := by
  intro event mem
  rcases List.mem_append.mp mem with mem | mem
  · exact later event mem
  · exact plain event mem

theorem Plain.sys (plain : Plain new) (call : Sys) (reply : Answer) :
    Plain (⟨.sys call, reply⟩ :: new) := by
  intro event mem
  rcases List.mem_cons.mp mem with rfl | mem
  · exact ⟨id, rfl⟩
  · exact plain event mem

theorem Traced.plain {α : Type} {program : Method α} {trace : Past} {value : α}
    (traced : Traced program trace value) : Plain trace := by
  intro event mem
  exact ⟨traced.steady event mem, traced.unmarked event mem⟩

/-- The past of a request that entered a body and did something plain since. -/
abbrev insidePast (body : Body) (name : Str) (new past : Past) : Past :=
  new ++ ⟨.mark (.enter body name), ()⟩ :: past

theorem Plain.entered (plain : Plain new) :
    entered (insidePast body name new past) = some (body, name) := by
  rw [entered_append fun event mem => (plain event mem).2]
  rfl

theorem Plain.recent_sinceMark (plain : Plain new) :
    recent (sinceMark (insidePast body name new past)) = new := by
  have nothing : sinceMark (⟨.mark (.enter body name), ()⟩ :: past) = [] := rfl
  rw [sinceMark_append fun event mem => (plain event mem).2, nothing,
    recent_append fun event mem => (plain event mem).1]
  exact List.append_nil new

theorem Plain.recent_subset (plain : Plain new) :
    recent past ⊆ recent (insidePast body name new past) := by
  rw [recent_append fun event mem => (plain event mem).1, recent_cons id]
  intro event mem
  simp [mem]

theorem untouched_inside (untouched : Untouched past) (plain : Plain new) :
    Untouched (insidePast body name new past) := by
  have entering : Later past (⟨.mark (.enter body name), ()⟩ :: past) := by
    have steady : ∀ event ∈ [(⟨.mark (.enter body name), ()⟩ : Performed daemon)],
        ¬ event.request.IsExec := by
      simp [Op.IsExec]
    exact .append steady
  exact (entering.trans (.append fun event mem => (plain event mem).1)).untouched untouched

/-- The body of a method runs between two marks. -/
theorem meets_inside {program : Method Xml}
    (keeps : Keeps setup request (insidePast body name [] past) program) :
    Keeps setup request past (inside body name program) := by
  refine ⟨trivial, fun _ => ?_⟩
  change (program.attempt >>= _).Meets _ _ _
  refine Program.meets_bind (Program.meets_attempt ?_)
  refine keeps.mono fun after outcome _ => ⟨trivial, fun _ => ?_⟩
  cases outcome with
  | ok value => trivial
  | error fault => trivial

/-! ## Calls after the write -/

theorem keeps_sysOrFault {function message : Str} {call : Sys} {rest : Unit → Method Xml}
    (permitted : ∀ past, Permitted setup request past (.sys call))
    (later : ∀ past, Keeps setup request past (rest ())) :
    Keeps setup request past (sysOrFault function message call >>= rest) := by
  refine Program.meets_bind (meets_sys (permitted past) fun answer => ?_)
  split
  · trivial
  · exact later _

/-- Methods other than `vx.create` may unlink. -/
theorem permitted_runlink {kind : WriteKind} (known : writeKind request.method = some kind)
    (other : kind ≠ .create) (path : Str) (past : Past) :
    Permitted setup request past (.sys (.runlink path)) := by
  intro create
  rw [create] at known
  exact absurd (Option.some.inj known).symm other

/-! ## The methods -/

theorem mVxRemove_keeps (host : Host) (kind : writeKind request.method = some .remove) :
    Keeps setup request []
      (mVxRemove host (.client request.credentials request.params)) := by
  refine meets_admitted host capCreate { owner := true, lock := true } lenient_true
    fun after user admitted => ?_
  refine meets_ofExcept lenient_true fun name nameEq => meets_inside ?_
  obtain ⟨known, knownEq, valid, owner⟩ := admitted.checked rfl
  obtain rfl : known = name := Except.ok.inj (knownEq.symm.trans nameEq)
  refine meets_lookup (lookup_vxdbGetxid known) fun xid first firstTraced => ?_
  refine meets_check lenient_true fun found => ?_
  refine meets_sys trivial fun info => meets_check lenient_true fun _ => ?_
  refine meets_lookup (lookup_vxdbGetvdir host known) fun vdir last lastTraced => ?_
  have looked := (traced_vxdbGetxid firstTraced).resolve_left found
  have plain : Plain (last ++ ⟨.sys (.vxInfo xid), info⟩ :: first) :=
    lastTraced.plain.append (firstTraced.plain.sys _ info)
  have past_eq : last ++ (⟨.sys (.vxInfo xid), info⟩ :: (first ++ insidePast .remove known []
      after)) = insidePast .remove known (last ++ ⟨.sys (.vxInfo xid), info⟩ :: first) after := by
    simp
  rw [past_eq]
  refine meets_exec (.inr ⟨_, kind, .remove user known xid
    (untouched_inside admitted.untouched plain) admitted.user_eq nameEq ?_ plain.entered
    ?_⟩) fun outcome => meets_check lenient_true fun _ => ?_
  · exact (owner rfl).mono plain.recent_subset
  · rw [plain.recent_sinceMark]
    exact looked.mono (by simp)
  · refine keeps_sysOrFault (permitted_runlink kind (by decide) vdir) fun past => ?_
    refine meets_sys trivial fun isdir => meets_ite (fun _ => ?_) fun _ => trivial
    exact meets_sys trivial fun ismount => meets_check lenient_true fun _ => trivial

theorem mVxRename_keeps (host : Host) (kind : writeKind request.method = some .rename) :
    Keeps setup request []
      (mVxRename host (.client request.credentials request.params)) := by
  refine meets_admitted host capCreate { owner := true, lock := true } lenient_true
    fun after user admitted => ?_
  refine meets_ofExcept lenient_true fun name nameEq => ?_
  refine meets_ofExcept lenient_true fun newname newnameEq => meets_inside ?_
  obtain ⟨known, knownEq, valid, owner⟩ := admitted.checked rfl
  obtain rfl : known = name := Except.ok.inj (knownEq.symm.trans nameEq)
  refine meets_check lenient_true fun newValid => ?_
  refine meets_lookup (lookup_vxdbGetxid newname) fun taken first firstTraced => ?_
  refine meets_check lenient_true fun _ => ?_
  refine meets_lookup (lookup_vxdbGetxid known) fun xid last lastTraced => ?_
  refine meets_check lenient_true fun found => ?_
  have looked := (traced_vxdbGetxid lastTraced).resolve_left found
  have plain : Plain (last ++ first) := lastTraced.plain.append firstTraced.plain
  have past_eq : last ++ (first ++ insidePast .rename known [] after) =
      insidePast .rename known (last ++ first) after := by
    simp
  rw [past_eq]
  refine meets_exec (.inr ⟨_, kind, .rename user known newname xid
    (untouched_inside admitted.untouched plain) admitted.user_eq nameEq newnameEq
    (by simpa using newValid) ?_ plain.entered ?_⟩) fun outcome =>
      meets_check lenient_true fun _ => ?_
  · exact (owner rfl).mono plain.recent_subset
  · rw [plain.recent_sinceMark]
    exact looked.mono (by simp)
  · refine meets_lookup (lookup_vxdbGetvdir host newname) fun vdir trace _ => ?_
    refine meets_sys trivial fun info => meets_ite (fun _ => ?_) fun _ => trivial
    exact keeps_sysOrFault (fun _ => trivial) fun _ => trivial

end Vcd
