import Vcd.Discipline.Create

/-!
# What permitted writes do

The effect of each kind of write, given that the strings it pastes are clean. Rows of other
context ids are never touched, and each kind writes to certain tables only.
-/

namespace Vcd

open Sql Process

/-! ## Clean strings -/

/-- A text without quotes and percent signs. -/
def CleanText (text : Str) : Prop :=
  QuoteFree text ∧ '%' ∉ text

instance (text : Str) : Decidable (CleanText text) :=
  inferInstanceAs (Decidable (_ ∧ _))

theorem cleanText_of_all {text : Str} {accepts : Char → Bool} (all : text.all accepts = true)
    (quote : accepts '\'' = false) (percent : accepts '%' = false) : CleanText text := by
  refine ⟨quoteFree_of_all all quote, fun mem => ?_⟩
  have accepted := List.all_eq_true.mp all _ mem
  simp [percent] at accepted

theorem cleanText_of_validateName {name : Str} (valid : validateName name = true) :
    CleanText name := by
  simp only [validateName, Bool.not_eq_true', Bool.or_eq_false_iff, Bool.not_eq_false'] at valid
  exact cleanText_of_all valid.2 (by decide) (by decide)

/-- All strings of a template configuration that are pasted have a property. -/
structure TemplateConf.All (holds : Str → Prop) (conf : TemplateConf) : Prop where
  init : holds conf.init
  halt : holds conf.halt
  reboot : holds conf.reboot
  mounts : ∀ mount ∈ conf.mounts, holds mount.dst ∧ holds (mount.src.getD []) ∧
    holds (mount.type.getD []) ∧ holds (mount.opts.getD [])

/-- All strings of all template configurations have a property. -/
def Templates.All (holds : Str → Prop) (templates : Templates) : Prop :=
  ∀ path conf, templates path = .parsed conf → conf.All holds

abbrev TemplateConf.Clean (conf : TemplateConf) : Prop :=
  conf.All CleanText

abbrev Templates.Clean (templates : Templates) : Prop :=
  templates.All CleanText

/-- The string parameters of a request are clean. -/
def Request.Clean (request : Request) : Prop :=
  ∀ key text, request.text key = .ok text → CleanText text

theorem Request.Clean.free {request : Request} (clean : request.Clean) : request.Free :=
  fun key text known => (clean key text known).1

theorem clean_default : ({} : TemplateConf).Clean where
  init := by decide
  halt := by decide
  reboot := by decide
  mounts := by decide

/-- The row of a mount section, once it is checked. -/
def mountRow (mount : MountConf) : Str × Str × Str × Str :=
  (mount.src.getD [], mount.dst, mount.type.getD [], mount.opts.getD [])

theorem mountEntry_eq_ok {mount : MountConf} {entry : Str × Str × Str × Str}
    (checked : mountEntry mount = .ok entry) : entry = mountRow mount := by
  simp only [mountEntry, confFault_bind, ite_error_eq_ok, pure_eq_ok] at checked
  exact checked.2.2.2.2.symm

/-- Checking every item of a list converts it item by item. -/
theorem mapM_eq_ok {α β : Type} {check : α → Except Fault β} {convert : α → β}
    (each : ∀ item result, check item = .ok result → result = convert item) {items : List α}
    {results : List β} (checked : items.mapM check = .ok results) :
    results = items.map convert := by
  rw [← List.mapM'_eq_mapM] at checked
  induction items generalizing results with
  | nil => exact (Except.ok.inj checked).symm
  | cons item items ih =>
      simp only [List.mapM', bind_eq_ok, pure_eq_ok] at checked
      obtain ⟨first, firstEq, rest, restEq, rfl⟩ := checked
      rw [each item first firstEq, ih restEq]
      rfl

/-- A script assembled from clean strings is clean. -/
theorem entries_clean {conf : TemplateConf} {vdir name : Str} {entries : Entries}
    (assembled : templateEntries conf vdir name = .ok entries) (clean : conf.Clean)
    (vdirClean : CleanText vdir) (valid : validateName name = true) : entries.Clean := by
  obtain ⟨mounts, bcaps, ccaps, flags, equal⟩ := templateEntries_eq_ok assembled
  have mountsClean : ∀ entry ∈ entries.mounts, CleanText entry.1 ∧ CleanText entry.2.1 ∧
      CleanText entry.2.2.1 ∧ CleanText entry.2.2.2 := by
    rcases mounts with ⟨-, defaults⟩ | ⟨-, checked⟩
    · rw [defaults]
      decide
    · rw [mapM_eq_ok (fun _ _ => mountEntry_eq_ok) checked]
      intro entry mem
      obtain ⟨mount, listed, rfl⟩ := List.mem_map.mp mem
      obtain ⟨dst, src, type, opts⟩ := clean.mounts mount listed
      exact ⟨src, dst, type, opts⟩
  have bcapsClean : ∀ bcap ∈ bcapsList, CleanText bcap := by decide
  have ccapsClean : ∀ ccap ∈ ccapsList, CleanText ccap := by decide
  have flagsClean : ∀ flag ∈ cflagsList, CleanText flag := by decide
  rw [equal]
  intro text mem
  simp only [Entries.strings, List.mem_append, List.mem_cons, List.not_mem_nil, or_false,
    List.mem_flatMap] at mem
  rcases mem with ((((mem | mem) | mem) | mem) | mem) | mem
  · rcases mem with rfl | rfl | rfl
    · exact clean.init
    · exact clean.halt
    · exact clean.reboot
  · obtain ⟨⟨src, dst, type, opts⟩, listed, mem⟩ := mem
    obtain ⟨srcClean, dstClean, typeClean, optsClean⟩ := mountsClean _ listed
    rcases mem with rfl | rfl | rfl | rfl
    · exact srcClean
    · exact dstClean
    · exact typeClean
    · exact optsClean
  · exact bcapsClean text (bcaps text mem)
  · exact ccapsClean text (ccaps text mem)
  · exact flagsClean text (flags text mem)
  · rcases mem with rfl | rfl
    · exact vdirClean
    · exact cleanText_of_validateName valid

/-! ## Regions of the scripts -/

theorem stays_deleteXid {tables : List Table} (xid : Int) {table : Table} (mem : table ∈ tables)
    (added : Region vxdbSchema) :
    (deleteXid xid table).Stays (rowsOf tables (int32 xid)) added :=
  fun _ _ chosen => rowsOf_iff.mpr ⟨mem, ofXid_iff.mp chosen⟩

theorem confined_remove (xid : Int) :
    Confined (rowsOf removedTables (int32 xid)) nowhere (render (sqlVxRemove xid)) :=
  (runs_sqlVxRemove xid).confined fun change listed => by
    obtain ⟨table, mem, rfl⟩ := List.mem_map.mp listed
    exact stays_deleteXid xid mem nowhere

theorem confined_rename {newname : Str} (free : QuoteFree newname) (xid : Int) :
    Confined (rowsOf [.xidNameMap] (int32 xid)) (rowsOf [.xidNameMap] (int32 xid))
      (render (sqlVxRename newname xid)) :=
  (runs_sqlVxRename free xid).confined fun change listed => by
    obtain rfl := List.mem_singleton.mp listed
    intro db row chosen
    have own : xidOf row = .int (int32 xid) := ofXid_iff.mp chosen
    refine ⟨rowsOf_iff.mpr ⟨List.mem_singleton_self _, own⟩, ?_, ?_⟩ <;>
      exact rowsOf_iff.mpr ⟨List.mem_singleton_self _, own⟩

theorem printed_of_clean (host : Host) {entries : Entries} (clean : entries.Clean) (xid : Int) :
    printed host (sqlCreate xid entries) = render (sqlCreate xid entries) :=
  if_neg (not_mem_render_sqlCreate clean xid)

/-- The rows the script inserts belong to its context, in the tables it cleared. -/
theorem rows_region (entries : Entries) (xid : Int) :
    ∀ entry ∈ entries.rows xid, entry.1 ∈ clearedTables ∧ xidOf entry.2 = .int (int32 xid) := by
  intro entry mem
  simp only [Entries.rows, List.mem_append, List.mem_cons, List.mem_map, List.not_mem_nil,
    or_false, List.cons_append] at mem
  rcases mem with rfl | (((mem | mem) | mem) | mem) | mem
  · exact ⟨by simp [clearedTables], rfl⟩
  · obtain ⟨_, _, rfl⟩ := mem
    exact ⟨by simp [clearedTables], rfl⟩
  · obtain ⟨_, _, rfl⟩ := mem
    exact ⟨by simp [clearedTables], rfl⟩
  · obtain ⟨_, _, rfl⟩ := mem
    exact ⟨by simp [clearedTables], rfl⟩
  · obtain ⟨_, _, rfl⟩ := mem
    exact ⟨by simp [clearedTables], rfl⟩
  · rcases mem with rfl | rfl
    · exact ⟨by simp [clearedTables], rfl⟩
    · exact ⟨by simp [clearedTables], rfl⟩

theorem stays_create (entries : Entries) (xid : Int) :
    ∀ change ∈ createChanges xid entries,
      change.Stays (rowsOf clearedTables (int32 xid)) (rowsOf clearedTables (int32 xid)) := by
  intro change listed
  rcases List.mem_append.mp listed with mem | mem
  · obtain ⟨table, tableMem, rfl⟩ := List.mem_map.mp mem
    exact stays_deleteXid xid tableMem _
  · obtain ⟨entry, entryMem, rfl⟩ := List.mem_map.mp mem
    have own := rowsOf_iff.mpr (rows_region entries xid entry entryMem)
    exact ⟨own, own⟩

/-- The rows after the script: what is not of the context, and the new rows. -/
theorem rows_create {entries : Entries} {xid : Int} {db next : Vxdb}
    (applied : applyAll db (createChanges xid entries) = some next) (table : Table) :
    next.rows table =
      (if table ∈ clearedTables then (db.rows table).filter (!ofXid (int32 xid) ·)
        else db.rows table) ++
      ((entries.rows xid).filter fun entry => entry.1 = table).map Prod.snd := by
  obtain ⟨cleared, deleted, rows⟩ := applyAll_deletes db clearedTables fun _ => ofXid (int32 xid)
  rw [createChanges, applyAll_append] at applied
  obtain ⟨between, first, later⟩ := Option.bind_eq_some_iff.mp applied
  obtain rfl : cleared = between := Option.some.inj (deleted.symm.trans first)
  rw [applyAll_inserts later, rows]

theorem effect_create {entries : Entries} {xid : Int} {db next : Vxdb}
    (applied : applyAll db (createChanges xid entries) = some next) :
    Effect (rowsOf clearedTables (int32 xid)) (rowsOf clearedTables (int32 xid)) db next :=
  .applyAll (stays_create entries xid) applied

theorem confined_create (host : Host) {entries : Entries} (clean : entries.Clean) (xid : Int) :
    Confined (rowsOf clearedTables (int32 xid)) (rowsOf clearedTables (int32 xid))
      (printed host (sqlCreate xid entries)) := by
  rw [printed_of_clean host clean]
  exact (runs_sqlCreate clean xid).confined (stays_create entries xid)

/-! ## Kinds of writes -/

/-- The tables of configuration. -/
def configTables : List Table :=
  [.dxLimit, .init, .mount, .nxAddr, .nxBroadcast, .vxBcaps, .vxCcaps, .vxCpuset, .vxFlags,
    .vxLimit, .vxSched, .vxUname]

theorem writeKind_config {method : Str} {table : Table}
    (kind : writeKind method = some (.config table)) : table ∈ configTables := by
  have config : ∀ entry ∈ configWriters, entry.2 ∈ configTables := by decide
  have others : ∀ entry ∈ otherWriters, ∀ table, entry.2 ≠ .config table := by
    intro entry mem table
    simp only [otherWriters, List.mem_cons, List.not_mem_nil, or_false] at mem
    rcases mem with rfl | rfl | rfl | rfl | rfl | rfl | rfl | rfl | rfl | rfl | rfl | rfl | rfl <;>
      simp
  unfold writeKind at kind
  split at kind
  next found =>
    cases kind
    exact config _ (mem_of_lookup_eq_some found)
  next missing => exact absurd rfl (others _ (mem_of_lookup_eq_some kind) table)

end Vcd
