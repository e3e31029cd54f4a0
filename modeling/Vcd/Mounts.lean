import Vcd.ConfigFrame
import Vcd.Trails

/-!
# Mounts at startup

The mounts that `namespace_mount` performs and the table of them that it writes, when all
system calls succeed.
-/

namespace Vcd

open Sql Process

variable {process : Nat} {world last : World}

/-! ## What the calls do -/

/-- The directory that was entered last, the mounts performed so far with the directories they
were performed on, and the text of `/etc/mtab`. -/
structure Filesystem where
  directory : Str
  mounts : List (Str × Str)
  mtab : Str

namespace Filesystem

def perform (files : Filesystem) : Op → Filesystem
  | .sys (.chrootSecureChdir _ path) => { files with directory := path }
  | .sys (.execReplace command) =>
      { files with mounts := files.mounts ++ [(files.directory, command)] }
  | .sys (.unlink path) | .sys (.openTrunc path) =>
      if path = cstr "mtab" then { files with mtab := [] } else files
  | .sys (.dprintf path text) =>
      if path = cstr "mtab" then { files with mtab := files.mtab ++ text } else files
  | _ => files

/-- The file system after a run, before which nothing was mounted. -/
def after (directory mtab : Str) (ops : List Op) : Filesystem :=
  ops.foldl perform ⟨directory, [], mtab⟩

end Filesystem

/-! ## Entries of the mount table -/

/-- The entries of a context: source, directory, type and options. -/
def mountEntries (db : Vxdb) (xid : Int) : List Row :=
  ((db.rows Table.mount).filter (ofXid (int32 xid))).map fun row =>
    [Table.mount.cell row (cstr "src"), Table.mount.cell row (cstr "dst"),
      Table.mount.cell row (cstr "type"), Table.mount.cell row (cstr "opts")]

def entryDst (row : Row) : Str :=
  vxdbColumnText row 1

/-- The entry is the one of the root directory. -/
def isRoot (row : Row) : Bool :=
  (row.getD 1 .null).same (.str (cstr "/"))

def entryType (row : Row) : Str :=
  if strIsempty (vxdbColumnText row 2) then cstr "auto" else vxdbColumnText row 2

def entryOpts (row : Row) : Str :=
  if strIsempty (vxdbColumnText row 3) then cstr "defaults" else vxdbColumnText row 3

/-- The directory and the command of the mount of an entry. -/
def entryMount (row : Row) : Str × Str :=
  (entryDst row, render [.chars (cstr "/bin/mount -n -t "), .str (entryType row),
    .chars (cstr " -o "), .str (entryOpts row), .chars (cstr " "), .str (vxdbColumnText row 0),
    .chars (cstr " "), .str (cstr ".")])

/-- The line of an entry in `/etc/mtab`. -/
def entryLine (row : Row) : Str :=
  render [.str (vxdbColumnText row 0), .chars (cstr " "), .str (entryDst row),
    .chars (cstr " "), .str (entryType row), .chars (cstr " "), .str (entryOpts row),
    .chars (cstr " 0 0\n")]

def rootLine : Str :=
  cstr "/dev/root / ufs defaults 0 0\n"

theorem prepareText_mounts (xid : Int) (db : Vxdb) :
    prepareText db (render [.chars (cstr "SELECT src,dst,type,opts FROM mount"),
      .chars (cstr " WHERE xid = "), xidPiece xid]) = some (mountEntries db xid) := by
  rw [@prepareText_plain vxdbSchema _ {
      projections := [.column none (cstr "src"), .column none (cstr "dst"),
        .column none (cstr "type"), .column none (cstr "opts")]
      table := cstr "mount", join := none
      condition := some (.eq (.column none (cstr "xid")) (.int (int32 xid)))
      order := none, limit := none } Table.mount
    (by simp [xidPiece, Piece.Free]) (by rfl)
    ⟨by rfl, by rfl, by rfl, by rfl, by rfl, by rfl⟩]
  rfl

/-- The first query finds the entries whose directory is the root. -/
theorem prepareText_sqlRootMount (xid : Int) (db : Vxdb) :
    prepareText db (render (sqlRootMount xid)) =
      some ((mountEntries db xid).filter isRoot) := by
  rw [@prepareText_plain vxdbSchema _ {
      projections := [.column none (cstr "src"), .column none (cstr "dst"),
        .column none (cstr "type"), .column none (cstr "opts")]
      table := cstr "mount", join := none
      condition := some (.and (.eq (.column none (cstr "xid")) (.int (int32 xid)))
        (.eq (.column none (cstr "dst")) (.str (cstr "/"))))
      order := none, limit := none } Table.mount
    (by simp [sqlRootMount, xidPiece, Piece.Free]) (by rfl)
    ⟨by rfl, by rfl, by rfl, by rfl, by rfl, by rfl⟩]
  unfold mountEntries
  rw [List.filter_map, List.filter_filter]
  congr 2
  refine List.filter_congr fun row _ => ?_
  exact Bool.and_comm _ _

/-! ## Runs in which every call succeeds -/

/-- Every call succeeds, and a child that is waited for has exited with status zero. -/
structure Succeeds (kernel : Nat → Sys → Answer) : Prop where
  rc : ∀ clock call, (kernel clock call).rc ≠ -1
  status : ∀ clock call, (kernel clock call).words.headD 0 = 0
  signal : ∀ clock call, (kernel clock call).words.getD 1 0 = 0

/-- What `do_mount` does once it has forked. -/
def awaitMount (mtab : Bool) (row : Row) : Method Unit := do
  let function := cstr "do_mount"
  let command := render [.chars (cstr "/bin/mount -n -t "), .str (entryType row),
    .chars (cstr " -o "), .str (entryOpts row), .chars (cstr " "), .str (vxdbColumnText row 0),
    .chars (cstr " "), .str (entryDst row)]
  let status ← sys .waitpid
  if status.rc = -1 then sysFault function (cstr "waitpid")
  if status.words.headD 0 ≠ 0 then
    .fail (.code (meexec + status.words.headD 0)
      (cstr "command '" ++ command ++ cstr "' failed"))
  if status.words.getD 1 0 ≠ 0 then
    .fail (.code meexec (cstr "command '" ++ command ++ cstr "' caught signal: " ++
      status.text))
  if mtab then
    let _ ← sys (.dprintf (cstr "mtab") (entryLine row))

theorem doMount_eq (xid : Int) (vdir : Str) (mtab : Bool) (row : Row) :
    doMount xid vdir mtab row = sysOrFault (cstr "do_mount") (cstr "fork") .fork >>= fun _ =>
      Program.spawn (mountChild xid vdir (entryDst row) (entryMount row).2) >>= fun _ =>
        awaitMount mtab row :=
  rfl

/-- What the mount of an entry performs. -/
def mountOps (xid : Int) (vdir : Str) (mtab : Bool) (row : Row) : List Op :=
  .sys .fork :: ([.sys (.nsEnter xid), .sys (.chrootSecureChdir vdir (entryDst row)),
    .sys (.execReplace (entryMount row).2)] ++ .sys .waitpid ::
      if mtab then [.sys (.dprintf (cstr "mtab") (entryLine row))] else [])

/-- What `namespace_mount` does after the mount of the root entry. -/
def mountNonRoot (xid : Int) (vdir : Str) : Method Unit := do
  let function := cstr "namespace_mount"
  sysOrFault function (cstr "chroot_secure_chdir(/etc)")
    (.chrootSecureChdir vdir (cstr "/etc"))
  let _ ← sys (.unlink (cstr "mtab"))
  sysOrFault function (cstr "open_trunc(/etc/mtab)") (.openTrunc (cstr "mtab"))
  let _ ← sys (.dprintf (cstr "mtab") rootLine)
  let rows ← selectXid function (cstr "SELECT src,dst,type,opts FROM mount") xid
  rows.forM (doMount xid vdir true)

def nonRootOps (xid : Int) (vdir : Str) (entries : List Row) : List Op :=
  .sys (.chrootSecureChdir vdir (cstr "/etc")) :: .sys (.unlink (cstr "mtab")) ::
    .sys (.openTrunc (cstr "mtab")) :: .sys (.dprintf (cstr "mtab") rootLine) ::
    ([.prepare (render [.chars (cstr "SELECT src,dst,type,opts FROM mount"),
      .chars (cstr " WHERE xid = "), xidPiece xid])] ++
        entries.flatMap (mountOps xid vdir true))

section Succeeds

variable (succeeds : Succeeds world.kernel)

include succeeds

theorem run_mountChild (xid : Int) (vdir dst command : Str) :
    ((mountChild xid vdir dst command).run machine process world).state =
      { world with clock := world.clock + 3 } ∧
    ((mountChild xid vdir dst command).run machine process world).trace.map Prod.snd =
      [.sys (.nsEnter xid), .sys (.chrootSecureChdir vdir dst),
        .sys (.execReplace command)] := by
  have entered : (world.kernel world.clock (.nsEnter xid)).rc ≠ -1 := succeeds.rc _ _
  have changed : (world.kernel (world.clock + 1) (.chrootSecureChdir vdir dst)).rc ≠ -1 :=
    succeeds.rc _ _
  unfold mountChild
  simp only [run_sys, if_pos entered, if_pos changed]
  exact ⟨rfl, rfl⟩

theorem passes_awaitMount (mtab : Bool) (row : Row) :
    ∃ clock, Passes process (awaitMount mtab row) world
      (.sys .waitpid :: if mtab then [.sys (.dprintf (cstr "mtab") (entryLine row))] else []) ()
      { world with clock } := by
  have written : ∃ clock, Passes process (if mtab = true then do
        let _ ← sys (.dprintf (cstr "mtab") (entryLine row))
        pure ()
      else pure () : Method Unit) { world with clock := world.clock + 1 }
      (if mtab then [.sys (.dprintf (cstr "mtab") (entryLine row))] else []) ()
      { world with clock } := by
    cases mtab with
    | false => exact ⟨_, .pure () _⟩
    | true => exact ⟨_, .sys _ (.pure () _)⟩
  obtain ⟨clock, written⟩ := written
  refine ⟨clock, .sys _ (.check (succeeds.rc _ _) (.check ?_ (.check ?_ written)))⟩
  · exact not_not_intro (succeeds.status _ _)
  · exact not_not_intro (succeeds.signal _ _)

theorem passes_doMount (xid : Int) (vdir : Str) (mtab : Bool) (row : Row) :
    ∃ clock, Passes process (doMount xid vdir mtab row) world (mountOps xid vdir mtab row) ()
      { world with clock } := by
  obtain ⟨state, trail⟩ := @run_mountChild process { world with clock := world.clock + 1 }
    succeeds xid vdir (entryDst row) (entryMount row).2
  obtain ⟨clock, waited⟩ := @passes_awaitMount process { world with clock := world.clock + 4 }
    succeeds mtab row
  rw [doMount_eq]
  exact ⟨clock, .call (succeeds.rc _ _) (.spawn state trail waited)⟩

/-- The mounts of several entries, one after the other. -/
theorem passes_mounts (xid : Int) (vdir : Str) (rows : List Row) :
    ∃ clock, Passes process (rows.forM (doMount xid vdir true)) world
      (rows.flatMap (mountOps xid vdir true)) () { world with clock } := by
  induction rows generalizing world with
  | nil => exact ⟨world.clock, .pure () world⟩
  | cons row rows ih =>
      obtain ⟨clock, first⟩ := @passes_doMount process world succeeds xid vdir true row
      obtain ⟨last, later⟩ := @ih { world with clock } succeeds
      rw [List.flatMap_cons]
      exact ⟨last, first.bind (nameless_doMount xid vdir true row).contained later⟩

theorem passes_mountNonRoot (xid : Int) (vdir : Str) :
    ∃ clock, Passes process (mountNonRoot xid vdir) world
      (nonRootOps xid vdir (mountEntries world.db xid)) () { world with clock } := by
  obtain ⟨clock, mounts⟩ := @passes_mounts process { world with clock := world.clock + 4 }
    succeeds xid vdir (mountEntries world.db xid)
  have selected : Passes process (selectXid (cstr "namespace_mount")
      (cstr "SELECT src,dst,type,opts FROM mount") xid)
      { world with clock := world.clock + 4 }
      [.prepare (render [.chars (cstr "SELECT src,dst,type,opts FROM mount"),
        .chars (cstr " WHERE xid = "), xidPiece xid])] (mountEntries world.db xid)
      { world with clock := world.clock + 4 } := by
    refine .prepare _ ?_
    rw [prepareText_mounts]
    exact .pure _ _
  refine ⟨clock, .call (succeeds.rc _ _) (.sys _ (.call (succeeds.rc _ _) (.sys _ ?_)))⟩
  exact selected.bind (silent_selectXid _ _ xid).contained mounts

theorem passes_namespaceMount (xid : Int) (vdir : Str) :
    ∃ clock, Passes process (namespaceMount xid vdir) world
      (.prepare (render (sqlRootMount xid)) ::
        ((((mountEntries world.db xid).filter isRoot).take 1).flatMap (mountOps xid vdir false) ++
          nonRootOps xid vdir (mountEntries world.db xid))) () { world with clock } := by
  cases known : (mountEntries world.db xid).filter isRoot with
  | nil =>
      obtain ⟨clock, rest⟩ := @passes_mountNonRoot process world succeeds xid vdir
      refine ⟨clock, .prepare _ ?_⟩
      rw [prepareText_sqlRootMount, known]
      exact rest
  | cons row rows =>
      obtain ⟨clock, root⟩ := @passes_doMount process world succeeds xid vdir false row
      obtain ⟨last, rest⟩ := @passes_mountNonRoot process { world with clock } succeeds xid vdir
      refine ⟨last, .prepare _ ?_⟩
      rw [prepareText_sqlRootMount, known]
      rw [List.take_succ_cons, List.take_zero, List.flatMap_singleton]
      change Passes process (doMount xid vdir false row >>= fun _ => mountNonRoot xid vdir) world
        _ () _
      exact root.bind (nameless_doMount xid vdir false row).contained rest

end Succeeds

/-! ## The performed mounts -/

/-- The file system after a run of `namespace_mount`. -/
def namespaceFiles (process : Nat) (directory mtab : Str) (xid : Int) (vdir : Str)
    (world : World) : Filesystem :=
  .after directory mtab
    (((namespaceMount xid vdir).run machine process world).trace.map Prod.snd)

theorem perform_mountOps (xid : Int) (vdir : Str) (mtab : Bool) (row : Row)
    (files : Filesystem) :
    (mountOps xid vdir mtab row).foldl Filesystem.perform files =
      ⟨entryDst row, files.mounts ++ [entryMount row],
        files.mtab ++ if mtab then entryLine row else []⟩ := by
  cases mtab with
  | false =>
      have same : files.mtab ++ [] = files.mtab := List.append_nil _
      exact congrArg (Filesystem.mk _ _) same.symm
  | true => rfl

theorem perform_mounts (xid : Int) (vdir : Str) (mtab : Bool) (rows : List Row)
    (files : Filesystem) :
    ((rows.flatMap (mountOps xid vdir mtab)).foldl Filesystem.perform files).mounts =
      files.mounts ++ rows.map entryMount ∧
    ((rows.flatMap (mountOps xid vdir mtab)).foldl Filesystem.perform files).mtab =
      files.mtab ++ rows.flatMap fun row => if mtab then entryLine row else [] := by
  induction rows generalizing files with
  | nil => exact ⟨(List.append_nil _).symm, (List.append_nil _).symm⟩
  | cons row rows ih =>
      rw [List.flatMap_cons, List.foldl_append, perform_mountOps]
      obtain ⟨mounts, lines⟩ := ih ⟨entryDst row, files.mounts ++ [entryMount row],
        files.mtab ++ if mtab then entryLine row else []⟩
      constructor
      · rw [mounts, List.map_cons, List.append_assoc, List.singleton_append]
      · rw [lines, List.flatMap_cons, List.append_assoc]

/-- The old table of mounts is replaced, and the line of the root is written first. -/
theorem perform_nonRootOps (xid : Int) (vdir : Str) (entries : List Row) (files : Filesystem) :
    ((nonRootOps xid vdir entries).foldl Filesystem.perform files).mounts =
      files.mounts ++ entries.map entryMount ∧
    ((nonRootOps xid vdir entries).foldl Filesystem.perform files).mtab =
      rootLine ++ entries.flatMap entryLine := by
  have start : (nonRootOps xid vdir entries).foldl Filesystem.perform files =
      (entries.flatMap (mountOps xid vdir true)).foldl Filesystem.perform
        ⟨cstr "/etc", files.mounts, rootLine⟩ := rfl
  rw [start]
  exact perform_mounts xid vdir true entries ⟨cstr "/etc", files.mounts, rootLine⟩

/-- What is mounted, and what `/etc/mtab` says, when `namespace_mount` is done. -/
theorem perform_namespaceMount (succeeds : Succeeds world.kernel) (xid : Int) (vdir : Str)
    (directory mtab : Str) :
    (namespaceFiles process directory mtab xid vdir world).mounts =
      (((mountEntries world.db xid).filter isRoot).take 1).map entryMount ++
        (mountEntries world.db xid).map entryMount ∧
    (namespaceFiles process directory mtab xid vdir world).mtab =
      rootLine ++ (mountEntries world.db xid).flatMap entryLine := by
  obtain ⟨clock, passes⟩ := @passes_namespaceMount process world succeeds xid vdir
  unfold namespaceFiles Filesystem.after
  rw [passes.trail, List.foldl_cons, List.foldl_append]
  obtain ⟨mounts, lines⟩ := perform_nonRootOps xid vdir (mountEntries world.db xid)
    (((((mountEntries world.db xid).filter isRoot).take 1).flatMap
      (mountOps xid vdir false)).foldl Filesystem.perform ⟨directory, [], mtab⟩)
  refine ⟨?_, lines⟩
  refine mounts.trans ?_
  rw [(perform_mounts xid vdir false _ _).1]
  rfl

/-! ## When every entry is mounted once -/

/-- The entry of the root directory is mounted first, if there is one, and then every other
entry once; `/etc/mtab` has a line for the root directory and one for each other entry, in the
order of the mounts. -/
def MountedOnce (files : Filesystem) (entries : List Row) : Prop :=
  files.mounts = (entries.filter isRoot).map entryMount ++
    (entries.filter (!isRoot ·)).map entryMount ∧
  files.mtab = rootLine ++ (entries.filter (!isRoot ·)).flatMap entryLine

/-- Every configured mount of a context is performed once, with its line in `/etc/mtab`, exactly
when none is configured for the root directory. -/
theorem mounted_once_iff (process : Nat) (directory mtab : Str) (xid : Int) (vdir : Str)
    (world : World) (succeeds : Succeeds world.kernel) :
    MountedOnce (namespaceFiles process directory mtab xid vdir world)
        (mountEntries world.db xid) ↔
      ∀ row ∈ mountEntries world.db xid, isRoot row = false := by
  obtain ⟨mounts, lines⟩ :=
    @perform_namespaceMount process world succeeds xid vdir directory mtab
  unfold MountedOnce
  rw [mounts, lines]
  generalize mountEntries world.db xid = entries
  constructor
  · intro ⟨same, _⟩ row mem
    have lengths := congrArg List.length same
    have parts := List.length_eq_length_filter_add (l := entries) isRoot
    simp only [List.length_append, List.length_map, List.length_take] at lengths
    by_contra root
    have mounted : row ∈ entries.filter isRoot :=
      List.mem_filter.mpr ⟨mem, Bool.eq_true_of_not_eq_false root⟩
    have some := List.length_pos_of_mem mounted
    omega
  · intro none
    have noRoots : entries.filter isRoot = [] :=
      List.filter_eq_nil_iff.mpr fun row mem => by simp [none row mem]
    have others : entries.filter (!isRoot ·) = entries :=
      List.filter_eq_self.mpr fun row mem => by simp [none row mem]
    rw [noRoots, others]
    exact ⟨rfl, rfl⟩

/-- The server `web` with an entry for its root directory. -/
def rootEntry : World where
  db := oneServer.replace Table.mount [.int 5, .str (cstr "/dev/hdv1"), .str (cstr "/"),
    .str (cstr "ext3"), .str (cstr "defaults")]
  holder := fun _ => none
  kernel := fun _ _ => { rc := 0 }
  clock := 0

theorem succeeds_rootEntry : Succeeds rootEntry.kernel :=
  ⟨fun _ _ => (by decide : (0 : Int) ≠ -1), fun _ _ => rfl, fun _ _ => rfl⟩

theorem mounted_once_rootEntry :
    MountedOnce (namespaceFiles 0 [] [] 5 (cstr "/vservers/web") rootEntry)
        (mountEntries rootEntry.db 5) ↔
      ∀ row ∈ mountEntries rootEntry.db 5, isRoot row = false :=
  mounted_once_iff 0 [] [] 5 (cstr "/vservers/web") rootEntry succeeds_rootEntry

/-- An entry for the root directory is mounted twice. -/
theorem root_mounted_twice : ¬ ∀ (process : Nat) (directory mtab : Str) (xid : Int) (vdir : Str)
    (world : World), Succeeds world.kernel → ((mountEntries world.db xid).map entryDst).Nodup →
    MountedOnce (namespaceFiles process directory mtab xid vdir world)
      (mountEntries world.db xid) := by
  intro once
  obtain ⟨mounts, -⟩ := once 0 [] [] 5 (cstr "/vservers/web") rootEntry succeeds_rootEntry
    (by decide)
  rw [(perform_namespaceMount succeeds_rootEntry 5 (cstr "/vservers/web") [] []).1] at mounts
  revert mounts
  decide

end Vcd
