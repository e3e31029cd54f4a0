import Vcd.Discipline.Config
import Vcd.Discipline.Create
import Vcd.Discipline.Helpers
import Vcd.Discipline.Rights
import Vcd.Discipline.Servers

/-!
# Every request keeps the discipline

The registered methods one by one, and the answer to a call of a method that is not
registered.
-/

namespace Vcd

open Sql Process

variable {setup : Setup} {request : Request} {past : Past} {method : Call → Method Xml}

theorem helperMethods_keep (mem : (request.method, method) ∈ helperMethods setup) :
    Keeps setup request [] (method (.client request.credentials request.params)) := by
  simp only [helperMethods, List.mem_cons, Prod.mk.injEq, List.not_mem_nil, or_false] at mem
  rcases mem with ⟨-, rfl⟩ | ⟨name, rfl⟩ | ⟨name, rfl⟩ | ⟨-, rfl⟩
  · exact mHelperNetup_keeps _
  · exact mHelperRestart_keeps _ name
  · exact mHelperShutdown_keeps _ name
  · exact mHelperStartup_keeps _

theorem vcdMethods_keep (mem : (request.method, method) ∈ vcdMethods setup) :
    Keeps setup request [] (method (.client request.credentials request.params)) := by
  simp only [vcdMethods, List.mem_cons, Prod.mk.injEq, List.not_mem_nil, or_false] at mem
  rcases mem with ⟨-, rfl⟩ | ⟨-, rfl⟩ | ⟨-, rfl⟩ | ⟨name, rfl⟩ | ⟨-, rfl⟩ | ⟨name, rfl⟩ |
    ⟨-, rfl⟩ | ⟨name, rfl⟩ | ⟨name, rfl⟩
  · exact (silent_mVcdHostinfo _).keeps
  · exact (silent_mVcdLogin _).keeps
  · exact (silent_mVcdStatus _).keeps
  · exact mVcdUserCapsAdd_keeps name
  · exact (silent_mVcdUserCapsGet _).keeps
  · exact mVcdUserCapsRemove_keeps name
  · exact (silent_mVcdUserGet _).keeps
  · exact mVcdUserRemove_keeps name
  · exact mVcdUserSet_keeps name

theorem vgMethods_keep (mem : (request.method, method) ∈ vgMethods setup) :
    Keeps setup request [] (method (.client request.credentials request.params)) := by
  simp only [vgMethods, List.mem_cons, Prod.mk.injEq, List.not_mem_nil, or_false] at mem
  rcases mem with ⟨name, rfl⟩ | ⟨-, rfl⟩ | ⟨name, rfl⟩ | ⟨-, rfl⟩ | ⟨-, rfl⟩ | ⟨-, rfl⟩ |
    ⟨-, rfl⟩
  · exact mVgAdd_keeps name
  · exact (silent_mVgList _).keeps
  · exact mVgRemove_keeps name
  · exact (silent_mVgVxReboot _).keeps
  · exact (silent_mVgVxRestart _).keeps
  · exact (silent_mVgVxStart _).keeps
  · exact (silent_mVgVxStop _).keeps

theorem vxMethods_keep (mem : (request.method, method) ∈ vxMethods setup) :
    Keeps setup request [] (method (.client request.credentials request.params)) := by
  simp only [vxMethods, List.mem_cons, Prod.mk.injEq, List.not_mem_nil, or_false] at mem
  rcases mem with ⟨name, rfl⟩ | ⟨-, rfl⟩ | ⟨-, rfl⟩ | ⟨-, rfl⟩ | ⟨-, rfl⟩ | ⟨-, rfl⟩ |
    ⟨name, rfl⟩ | ⟨name, rfl⟩ | ⟨-, rfl⟩ | ⟨-, rfl⟩ | ⟨-, rfl⟩ | ⟨-, rfl⟩ | ⟨-, rfl⟩
  · exact mVxCreate_keeps (by rw [name]; rfl)
  · exact (silent_mVxExec _).keeps
  · exact (silent_mVxKill _).keeps
  · exact (silent_mVxLimstatus _).keeps
  · exact (silent_mVxNetstatus _).keeps
  · exact (silent_mVxReboot _).keeps
  · exact mVxRemove_keeps _ (by rw [name]; rfl)
  · exact mVxRename_keeps _ (by rw [name]; rfl)
  · exact (silent_mVxRestart _).keeps
  · exact (silent_mVxStart _).keeps
  · exact (silent_mVxStatus _).keeps
  · exact (silent_mVxStop _).keeps
  · exact (silent_mVxTemplates _).keeps

theorem vxdbOwnerMethods_keep (mem : (request.method, method) ∈ vxdbOwnerMethods setup) :
    Keeps setup request [] (method (.client request.credentials request.params)) := by
  simp only [vxdbOwnerMethods, List.mem_cons, Prod.mk.injEq, List.not_mem_nil, or_false] at mem
  rcases mem with ⟨name, rfl⟩ | ⟨name, rfl⟩
  · exact mVxdbOwnerAdd_keeps name
  · exact mVxdbOwnerRemove_keeps name

/-- Every request keeps the discipline. -/
theorem handle_keeps (setup : Setup) (request : Request) :
    Keeps setup request [] (handle setup request) := by
  have registered (method : Call → Method Xml)
      (found : (registry setup).lookup request.method = some method)
      (handler : handle setup request = method (.client request.credentials request.params)) :
      Keeps setup request [] (method (.client request.credentials request.params)) := by
    have mem := mem_of_lookup_eq_some found
    simp only [registry, List.mem_append] at mem
    rcases mem with (((((mem | mem) | mem) | mem) | mem) | mem) | mem
    · exact helperMethods_keep mem
    · exact vcdMethods_keep mem
    · exact vgMethods_keep mem
    · exact vxMethods_keep mem
    · exact vxdbWriters_keep mem handler
    · exact vxdbReaders_keep mem
    · exact vxdbOwnerMethods_keep mem
  cases found : (registry setup).lookup request.method with
  | some method =>
      have handler : handle setup request =
          method (.client request.credentials request.params) := by
        unfold handle
        rw [found]
      rw [handler]
      exact registered method found handler
  | none =>
      unfold handle
      rw [found]
      exact meets_exec (.inl (.inl ⟨rfl, .inr rfl⟩)) fun outcome => trivial

end Vcd
