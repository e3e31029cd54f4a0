import Vcd.Ledger

/-!
# Recorded names and directories

Requests at the same time record valid names only, and short absolute paths as directories,
whatever the requests ask for.
-/

namespace Vcd

open Sql Process

variable {setup : Setup} {world : Shared} {requests : List Request} {pool : Requests}
  {request : Request} {deed : Deed} {sql : Str} {db last : Vxdb}

/-- The recorded names are valid, and the recorded directories are short absolute paths. -/
structure WellRecorded (db : Vxdb) : Prop where
  names : ∀ row ∈ db.rows Table.xidNameMap, ∃ name,
    Table.xidNameMap.cell row (cstr "name") = .str name ∧ validateName name = true
  dirs : ∀ row ∈ db.rows Table.vdir, ∃ vdir,
    Table.vdir.cell row (cstr "vdir") = .str vdir ∧ validatePath vdir = true ∧ vdir.length ≤ 31

theorem rows_names_rename {newname : Str} {xid : Int}
    (applied : applyAll db [renameChange newname xid] = some last) {row : Row}
    (mem : row ∈ last.rows Table.xidNameMap) :
    row ∈ db.rows Table.xidNameMap ∨ Table.xidNameMap.cell row (cstr "name") = .str newname := by
  rw [applyAll_singleton] at applied
  rw [Database.rows_update_same applied] at mem
  obtain ⟨old, listed, rfl⟩ := List.mem_map.mp mem
  split
  · exact .inr rfl
  · exact .inl listed

theorem Doing.wellRecorded (doing : Doing setup request past deed sql) (acted : deed.act db = some last)
    (well : WellRecorded db) : WellRecorded last := by
  constructor
  · intro row mem
    cases doing.inherits acted Table.xidNameMap (by decide) (by decide) with
    | same rows => exact well.names row (rows ▸ mem)
    | fewer removed subset => exact well.names row (subset mem)
    | rename renames valid names =>
        subst renames
        rcases rows_names_rename acted mem with mem | named
        · exact well.names row mem
        · exact ⟨_, named, valid⟩
    | @create xid entries creates =>
        subst creates
        rcases mem_rows_create acted mem with mem | mem
        · exact well.names row mem
        · obtain rfl : row = [.int (int32 xid), .str entries.name] := by
            simpa [Entries.rows] using mem
          exact ⟨_, rfl, (doing.recordable _ _ rfl).name⟩
  · intro row mem
    cases doing.inherits acted Table.vdir (by decide) (by decide) with
    | same rows => exact well.dirs row (rows ▸ mem)
    | fewer removed subset => exact well.dirs row (subset mem)
    | rename renames valid names => cases names
    | @create xid entries creates =>
        subst creates
        rcases mem_rows_create acted mem with mem | mem
        · exact well.dirs row mem
        · obtain rfl : row = [.int (int32 xid), .str entries.vdir] := by
            simpa [Entries.rows] using mem
          have recordable := doing.recordable _ _ rfl
          exact ⟨_, rfl, recordable.path, recordable.short⟩

/-- In every interleaving of requests without quotes, recorded names stay valid and recorded
directories stay short absolute paths. -/
theorem well_recorded (clean : CleanRun setup world requests)
    (reached : Interleaved setup world requests pool) (start : WellRecorded world.db) :
    WellRecorded pool.state.db :=
  Interleaved.kept clean reached start fun _ _ _ _ _ _ doing acted => doing.wellRecorded acted

/-- A creation and a renaming in turn, and then the creation to its end. -/
def recording : Requests :=
  after quietFile [createRequest (cstr "mail"), wwwRequest]
    ((List.range 34).map (· % 2) ++ List.replicate 12 0)

theorem cleanRun_recording :
    CleanRun plainSetup quietFile [createRequest (cstr "mail"), wwwRequest] := by
  refine cleanRun_plain ?_ ?_ (by unfold CleanDirs; decide)
  · intro request mem
    rcases List.mem_cons.mp mem with rfl | mem
    · exact fun _ _ known => texts_struct known (by decide)
    · obtain rfl := List.mem_singleton.mp mem
      exact fun _ _ known => texts_struct known (by decide)
  · intro request mem vdir given
    rcases List.mem_cons.mp mem with rfl | mem
    · exact @texts_struct _ _ _ ('%' ∉ ·) given (by decide)
    · obtain rfl := List.mem_singleton.mp mem
      exact @texts_struct _ _ _ ('%' ∉ ·) given (by decide)

/-- The new names and the new directory are recorded. -/
theorem well_recorded_recording : WellRecorded recording.state.db ∧
    (recording.state.db.rows Table.xidNameMap).map (Table.xidNameMap.cell · (cstr "name")) =
      [.str (cstr "www"), .str (cstr "mail")] ∧
    recording.state.db.rows Table.vdir = [[.int 6, .str (cstr "/vservers/mail")]] := by
  refine ⟨?_, by decide +kernel, by decide +kernel⟩
  refine well_recorded cleanRun_recording (interleaved_after (by decide +kernel)) ⟨?_, ?_⟩
  · intro row mem
    obtain rfl : row = [.int 5, .str (cstr "web")] := List.mem_singleton.mp mem
    exact ⟨_, rfl, by decide⟩
  · intro row mem
    cases mem

end Vcd
