import Mathlib.Algebra.BigOperators.Group.Finset.Basic
import Mathlib.Algebra.GroupWithZero.Nat
import Mathlib.Data.Finset.Card

/-!
# Disk usage of a context

The walk of `context_disk_limits` over the files below a directory. The search tree of
`handle_file` holds pointers into the storage that `nftw` passes to it, so what the tree
finds depends on which storage `nftw` uses for a later file.
-/

namespace Vcd

/-! ## Files -/

/-- What `stat` and `ix_attr_get` tell about an inode. -/
structure Inode where
  nlink : Nat
  blocks : Nat
  tagged : Bool
  xid : Int

/-- The inodes of a file system, and those below a directory in the order of the visits, one
visit for each name. An inode with a single link has a single name. -/
structure FileTree where
  inode : Nat → Inode
  visits : List Nat
  single : ∀ ino ∈ visits, (inode ino).nlink = 1 → visits.count ino = 1

/-- The inode belongs to the context. -/
def FileTree.owned (files : FileTree) (xid : Int) (ino : Nat) : Bool :=
  (files.inode ino).tagged && (files.inode ino).xid == xid

/-! ## The search tree of the library -/

/-- A search tree over pointers, compared by what they point to. How the library balances a
tree with more than one node is left open. -/
structure SearchTree where
  Tree : Type
  empty : Tree
  single : Nat → Tree
  tfind : (Nat → Nat) → Tree → Nat → Bool
  tsearch : (Nat → Nat) → Tree → Nat → Tree
  find_empty : ∀ memory key, tfind memory empty key = false
  find_single : ∀ memory node key,
    tfind memory (single node) key = true ↔ memory key = memory node
  search_empty : ∀ memory key, tsearch memory empty key = single key
  search_single : ∀ memory node key, memory key = memory node →
    tsearch memory (single node) key = single node

/-! ## The walk -/

section Walk

variable (library : SearchTree) (files : FileTree) (xid : Int)

/-- The inode number in every storage, the tree, and the two sums, which are assumed to fit. -/
structure Usage where
  memory : Nat → Nat
  inotable : library.Tree
  usedInodes : Nat
  usedBlocks : Nat

variable {library}

/-- `handle_file` on an inode whose `stat` stands in a certain storage. -/
def handleFile (usage : Usage library) (sb ino : Nat) : Usage library :=
  let usage := { usage with memory := Function.update usage.memory sb ino }
  let inode := files.inode ino
  if !inode.tagged then usage
  else if inode.nlink = 1 || !library.tfind usage.memory usage.inotable sb then
    let usage := if inode.xid = xid then
        { usage with
          usedBlocks := usage.usedBlocks + inode.blocks
          usedInodes := usage.usedInodes + 1 }
      else usage
    { usage with inotable := library.tsearch usage.memory usage.inotable sb }
  else usage

/-- `nftw` visits one name after the other and may use any storage for each. -/
inductive Nftw : Usage library → List Nat → Usage library → Prop where
  | nil {usage : Usage library} : Nftw usage [] usage
  | cons {usage last : Usage library} {ino : Nat} {rest : List Nat} (sb : Nat)
      (later : Nftw (handleFile files xid usage sb ino) rest last) : Nftw usage (ino :: rest) last

variable (library) in
/-- Before the walk the tree is empty and the sums are zero. -/
def Usage.start (memory : Nat → Nat) : Usage library where
  memory
  inotable := library.empty
  usedInodes := 0
  usedBlocks := 0

/-- The inodes of the context below the directory. -/
def FileTree.ownedInodes : Finset Nat :=
  files.visits.toFinset.filter fun ino => files.owned xid ino = true

/-- The sums count every inode of the context once. -/
def Counted (usage : Usage library) : Prop :=
  usage.usedInodes = (files.ownedInodes xid).card ∧
    usage.usedBlocks = ∑ ino ∈ files.ownedInodes xid, (files.inode ino).blocks

end Walk

/-! ## Steps of the walk -/

section Steps

variable {library : SearchTree} {files : FileTree} {xid : Int} {usage last : Usage library}
  {sb ino : Nat} {before after : List Nat}

@[simp] theorem handleFile_memory :
    (handleFile files xid usage sb ino).memory = Function.update usage.memory sb ino := by
  unfold handleFile
  simp only
  split
  · rfl
  · split
    · split <;> rfl
    · rfl

/-- A file that is not tagged only leaves its number in its storage. -/
theorem handleFile_untagged (untagged : (files.inode ino).tagged = false) :
    handleFile files xid usage sb ino =
      { usage with memory := Function.update usage.memory sb ino } := by
  simp [handleFile, untagged]

/-- A visit counts its inode: one of the context with a single name, or one not found. -/
def Charged (files : FileTree) (xid : Int) (usage : Usage library) (sb ino : Nat) : Prop :=
  files.owned xid ino = true ∧ ((files.inode ino).nlink = 1 ∨
    library.tfind (Function.update usage.memory sb ino) usage.inotable sb = false)

theorem owned_iff : files.owned xid ino = true ↔
    (files.inode ino).tagged = true ∧ (files.inode ino).xid = xid := by
  simp [FileTree.owned]

theorem handleFile_counts (counts : Charged files xid usage sb ino) :
    (handleFile files xid usage sb ino).usedInodes = usage.usedInodes + 1 ∧
      (handleFile files xid usage sb ino).usedBlocks =
        usage.usedBlocks + (files.inode ino).blocks := by
  obtain ⟨owned, found⟩ := counts
  obtain ⟨tagged, same⟩ := owned_iff.mp owned
  have chosen : ((files.inode ino).nlink = 1 || !library.tfind
      (Function.update usage.memory sb ino) usage.inotable sb) = true := by
    rcases found with one | missing
    · simp [one]
    · simp [missing]
  unfold handleFile
  simp only [tagged, Bool.not_true, Bool.false_eq_true, if_false, if_pos chosen, if_pos same,
    and_self]

theorem handleFile_skips (skips : ¬ Charged files xid usage sb ino) :
    (handleFile files xid usage sb ino).usedInodes = usage.usedInodes ∧
      (handleFile files xid usage sb ino).usedBlocks = usage.usedBlocks := by
  unfold handleFile
  simp only
  split
  · exact ⟨rfl, rfl⟩
  next tagged =>
    split
    next chosen =>
      have other : ¬ (files.inode ino).xid = xid := fun same =>
        skips ⟨owned_iff.mpr ⟨by simpa using tagged, same⟩, by simpa using chosen⟩
      rw [if_neg other]
      exact ⟨rfl, rfl⟩
    next => exact ⟨rfl, rfl⟩

theorem Nftw.append {middle : Usage library} (first : Nftw files xid usage before middle)
    (later : Nftw files xid middle after last) : Nftw files xid usage (before ++ after) last := by
  induction first with
  | nil => exact later
  | cons sb _ ih => exact .cons sb (ih later)

theorem Nftw.split (walk : Nftw files xid usage (before ++ after) last) :
    ∃ middle, Nftw files xid usage before middle ∧ Nftw files xid middle after last := by
  induction before generalizing usage with
  | nil => exact ⟨usage, .nil, walk⟩
  | cons ino rest ih =>
      cases walk with
      | cons sb later =>
          obtain ⟨middle, first, second⟩ := ih later
          exact ⟨middle, .cons sb first, second⟩

/-! ## Inodes with a single name -/

/-- The inode belongs to the context and has a single name. -/
def alone (files : FileTree) (xid : Int) (ino : Nat) : Bool :=
  files.owned xid ino && (files.inode ino).nlink == 1

/-- The inode belongs to the context and has several names. -/
def shared (files : FileTree) (xid : Int) (ino : Nat) : Bool :=
  files.owned xid ino && (files.inode ino).nlink != 1

theorem alone_iff : alone files xid ino = true ↔
    files.owned xid ino = true ∧ (files.inode ino).nlink = 1 := by
  simp [alone]

theorem shared_iff : shared files xid ino = true ↔
    files.owned xid ino = true ∧ (files.inode ino).nlink ≠ 1 := by
  simp [shared]

/-- An inode with a single name is counted wherever the walk meets it. -/
theorem le_used (walk : Nftw files xid usage after last) :
    usage.usedInodes + (after.filter (alone files xid)).length ≤ last.usedInodes := by
  induction walk with
  | nil => simp
  | @cons usage last ino rest sb _ ih =>
      by_cases counts : Charged files xid usage sb ino
      · have one := (handleFile_counts counts).1
        rw [List.filter_cons]
        split
        · rw [List.length_cons]
          omega
        · omega
      · have none := (handleFile_skips counts).1
        have other : ¬ alone files xid ino = true := fun single =>
          counts ⟨(alone_iff.mp single).1, .inl (alone_iff.mp single).2⟩
        rw [List.filter_cons_of_neg other]
        omega

/-- Where all inodes of the context have single names, the sums count the visits. -/
theorem used_of_alone (walk : Nftw files xid usage after last)
    (single : ∀ ino ∈ after, shared files xid ino = false) :
    last.usedInodes = usage.usedInodes + (after.filter (alone files xid)).length ∧
      last.usedBlocks = usage.usedBlocks +
        ((after.filter (alone files xid)).map fun ino => (files.inode ino).blocks).sum := by
  induction walk with
  | nil => simp
  | @cons usage last ino rest sb _ ih =>
      obtain ⟨inodes, blocks⟩ := ih fun other mem => single other (List.mem_cons_of_mem _ mem)
      have notShared := single ino List.mem_cons_self
      by_cases counts : Charged files xid usage sb ino
      · obtain ⟨one, more⟩ := handleFile_counts counts
        have own : alone files xid ino = true := by
          refine alone_iff.mpr ⟨counts.1, by_contra fun several => ?_⟩
          rw [shared_iff.mpr ⟨counts.1, several⟩] at notShared
          cases notShared
        rw [List.filter_cons_of_pos own]
        simp only [List.length_cons, List.map_cons, List.sum_cons]
        omega
      · obtain ⟨none, same⟩ := handleFile_skips counts
        have other : ¬ alone files xid ino = true := fun single =>
          counts ⟨(alone_iff.mp single).1, .inl (alone_iff.mp single).2⟩
        rw [List.filter_cons_of_neg other]
        omega

/-- Files that are not tagged change neither the tree nor the sums. -/
theorem untagged_walk (walk : Nftw files xid usage before last)
    (untagged : ∀ ino ∈ before, (files.inode ino).tagged = false) :
    last.inotable = usage.inotable ∧ last.usedInodes = usage.usedInodes ∧
      last.usedBlocks = usage.usedBlocks := by
  induction walk with
  | nil => exact ⟨rfl, rfl, rfl⟩
  | @cons usage last ino rest sb _ ih =>
      have later := ih fun other mem => untagged other (List.mem_cons_of_mem _ mem)
      rwa [handleFile_untagged (untagged ino List.mem_cons_self)] at later

/-! ## A single storage -/

theorem handleFile_inotable :
    (handleFile files xid usage sb ino).inotable = usage.inotable ∨
      (handleFile files xid usage sb ino).inotable =
        library.tsearch (Function.update usage.memory sb ino) usage.inotable sb := by
  unfold handleFile
  simp only
  split
  · exact .inl rfl
  · split
    · split <;> exact .inr rfl
    · exact .inl rfl

/-- The first tagged file is not found in the empty tree, and its storage is put there. -/
theorem handleFile_first (empty : usage.inotable = library.empty)
    (tagged : (files.inode ino).tagged = true) :
    (handleFile files xid usage sb ino).inotable = library.single sb := by
  have missing := library.find_empty (Function.update usage.memory sb ino) sb
  unfold handleFile
  rw [empty]
  simp only [tagged, missing, Bool.not_true, Bool.false_eq_true, if_false, Bool.not_false,
    Bool.or_true, if_true]
  split
  · exact library.search_empty _ _
  · exact library.search_empty _ _

/-- In the storage the tree points to, every file is found. -/
theorem handleFile_found (single : usage.inotable = library.single sb) :
    (handleFile files xid usage sb ino).inotable = library.single sb ∧
      (handleFile files xid usage sb ino).usedInodes = usage.usedInodes +
        if alone files xid ino = true then 1 else 0 := by
  have found := (library.find_single (Function.update usage.memory sb ino) sb sb).mpr rfl
  constructor
  · rcases @handleFile_inotable library files xid usage sb ino with same | searched
    · exact same.trans single
    · rw [searched, single, library.search_single _ _ _ rfl]
  · split
    next own =>
      exact (handleFile_counts ⟨(alone_iff.mp own).1, .inl (alone_iff.mp own).2⟩).1
    next other =>
      refine (handleFile_skips fun counts => ?_).1
      rcases counts.2 with one | missing
      · exact other (alone_iff.mpr ⟨counts.1, one⟩)
      · rw [single, found] at missing
        cases missing

/-- A walk may use the storage the tree points to for every file. -/
theorem exists_walk_same (single : usage.inotable = library.single sb) (after : List Nat) :
    ∃ last, Nftw files xid usage after last ∧ last.inotable = library.single sb ∧
      last.usedInodes = usage.usedInodes + (after.filter (alone files xid)).length ∧
      last.memory sb = after.getLast?.getD (usage.memory sb) := by
  induction after generalizing usage with
  | nil => exact ⟨usage, .nil, single, rfl, rfl⟩
  | cons ino rest ih =>
      obtain ⟨tree, used⟩ := @handleFile_found library files xid usage sb ino single
      obtain ⟨last, walk, lastTree, lastUsed, memory⟩ := ih tree
      refine ⟨last, .cons sb walk, lastTree, ?_, ?_⟩
      · rw [lastUsed, used, List.filter_cons]
        split
        · rw [List.length_cons]
          omega
        · omega
      · rw [memory, handleFile_memory, Function.update_self, List.getLast?_cons]
        rfl

/-- A walk over files that are not tagged. -/
theorem exists_walk (usage : Usage library) (after : List Nat) :
    ∃ last, Nftw files xid usage after last := by
  induction after generalizing usage with
  | nil => exact ⟨usage, .nil⟩
  | cons ino rest ih =>
      obtain ⟨last, walk⟩ := ih (handleFile files xid usage 0 ino)
      exact ⟨last, .cons 0 walk⟩

/-! ## The inodes of a context -/

variable (files xid)

/-- The inodes of the context with several names. -/
def sharedInodes : Finset Nat :=
  files.visits.toFinset.filter fun ino => shared files xid ino = true

theorem nodup_alone : (files.visits.filter (alone files xid)).Nodup := by
  refine List.nodup_iff_count_le_one.mpr fun ino => ?_
  by_cases own : alone files xid ino = true
  · rw [List.count_filter own]
    by_cases mem : ino ∈ files.visits
    · exact (files.single ino mem (alone_iff.mp own).2).le
    · rw [List.count_eq_zero_of_not_mem mem]
      exact Nat.zero_le 1
  · rw [List.count_eq_zero_of_not_mem fun mem => own (List.mem_filter.mp mem).2]
    exact Nat.zero_le 1

theorem ownedInodes_eq : files.ownedInodes xid =
    (files.visits.filter (alone files xid)).toFinset ∪ sharedInodes files xid := by
  ext ino
  simp only [FileTree.ownedInodes, sharedInodes, Finset.mem_union, Finset.mem_filter,
    List.mem_toFinset, List.mem_filter, alone_iff, shared_iff]
  tauto

theorem disjoint_shared :
    Disjoint (files.visits.filter (alone files xid)).toFinset (sharedInodes files xid) := by
  refine Finset.disjoint_left.mpr fun ino mem other => ?_
  have single := (List.mem_filter.mp (List.mem_toFinset.mp mem)).2
  exact (shared_iff.mp (Finset.mem_filter.mp other).2).2 (alone_iff.mp single).2

theorem card_ownedInodes : (files.ownedInodes xid).card =
    (files.visits.filter (alone files xid)).length + (sharedInodes files xid).card := by
  rw [ownedInodes_eq, Finset.card_union_of_disjoint (disjoint_shared files xid),
    List.toFinset_card_of_nodup (nodup_alone files xid)]

theorem sum_ownedInodes : ∑ ino ∈ files.ownedInodes xid, (files.inode ino).blocks =
    ((files.visits.filter (alone files xid)).map fun ino => (files.inode ino).blocks).sum +
      ∑ ino ∈ sharedInodes files xid, (files.inode ino).blocks := by
  rw [ownedInodes_eq, Finset.sum_union (disjoint_shared files xid),
    List.sum_toFinset _ (nodup_alone files xid)]

/-! ## When every inode is counted once -/

/-- The names of the inode are visited one right after the other, and no tagged file is
visited before them. -/
def Together (ino : Nat) : Prop :=
  ∃ before after more,
    files.visits = before ++ ino :: (List.replicate more ino ++ after) ∧ ino ∉ after ∧
      ∀ other ∈ before, (files.inode other).tagged = false

/-- Every inode of the context with several names has them together and first. -/
def Orderly : Prop :=
  ∀ ino ∈ files.visits, shared files xid ino = true → Together files ino

variable {files xid}

theorem tagged_of_shared (several : shared files xid ino = true) :
    (files.inode ino).tagged = true :=
  (owned_iff.mp (shared_iff.mp several).1).1

theorem not_alone_of_shared (several : shared files xid ino = true) :
    ¬ alone files xid ino = true := by
  intro single
  exact (shared_iff.mp several).2 (alone_iff.mp single).2

theorem not_alone_of_untagged (untagged : (files.inode ino).tagged = false) :
    ¬ alone files xid ino = true := by
  intro single
  have tagged := (owned_iff.mp (alone_iff.mp single).1).1
  rw [untagged] at tagged
  cases tagged

/-- The names of an inode are found while its own number stands behind the tree. -/
theorem replicate_walk {names node : Nat} (several : (files.inode ino).nlink ≠ 1)
    (walk : Nftw files xid usage (List.replicate names ino) last)
    (single : usage.inotable = library.single node) (number : usage.memory node = ino) :
    last.usedInodes = usage.usedInodes ∧ last.usedBlocks = usage.usedBlocks := by
  induction names generalizing usage with
  | zero =>
      cases walk
      exact ⟨rfl, rfl⟩
  | succ names ih =>
      cases walk with
      | cons sb later =>
          have kept : Function.update usage.memory sb ino node = ino := by
            by_cases same : node = sb
            · rw [same, Function.update_self]
            · rw [Function.update_of_ne same, number]
          have equal : Function.update usage.memory sb ino sb =
              Function.update usage.memory sb ino node := by
            rw [kept, Function.update_self]
          have found := (library.find_single _ node sb).mpr equal
          have skips : ¬ Charged files xid usage sb ino := by
            intro counts
            rcases counts.2 with one | missing
            · exact several one
            · rw [single, found] at missing
              cases missing
          have tree : (handleFile files xid usage sb ino).inotable = library.single node := by
            rcases @handleFile_inotable library files xid usage sb ino with same | searched
            · exact same.trans single
            · rw [searched, single, library.search_single _ _ _ equal]
          obtain ⟨inodes, blocks⟩ := ih later tree (by rw [handleFile_memory, kept])
          obtain ⟨sameInodes, sameBlocks⟩ := handleFile_skips skips
          exact ⟨inodes.trans sameInodes, blocks.trans sameBlocks⟩

/-- The inode is the first tagged one of the walk. -/
theorem Together.find (together : Together files ino)
    (tagged : (files.inode ino).tagged = true) :
    files.visits.find? (fun other => (files.inode other).tagged) = some ino := by
  obtain ⟨before, after, more, visits, -, untagged⟩ := together
  have none : before.find? (fun other => (files.inode other).tagged) = none := by
    rw [List.find?_eq_none]
    intro other early
    rw [untagged other early]
    exact Bool.false_ne_true
  rw [visits, List.find?_append, none, List.find?_cons, tagged]
  rfl

/-- No second inode of the context has several names. -/
theorem Orderly.only (orderly : Orderly files xid) {other : Nat} (mem : ino ∈ files.visits)
    (several : shared files xid ino = true) (visited : other ∈ files.visits)
    (too : shared files xid other = true) : other = ino := by
  have one := (orderly ino mem several).find (tagged_of_shared several)
  have two := (orderly other visited too).find (tagged_of_shared too)
  rw [one] at two
  exact (Option.some.inj two).symm

theorem sharedInodes_eq_empty (none : ∀ ino ∈ files.visits, shared files xid ino = false) :
    sharedInodes files xid = ∅ := by
  refine Finset.filter_eq_empty_iff.mpr fun ino mem several => ?_
  rw [none ino (List.mem_toFinset.mp mem)] at several
  cases several

theorem sharedInodes_eq_singleton (mem : ino ∈ files.visits)
    (several : shared files xid ino = true)
    (only : ∀ other ∈ files.visits, shared files xid other = true → other = ino) :
    sharedInodes files xid = {ino} := by
  ext other
  simp only [sharedInodes, Finset.mem_filter, List.mem_toFinset, Finset.mem_singleton]
  constructor
  · intro ⟨visited, too⟩
    exact only other visited too
  · intro same
    rw [same]
    exact ⟨mem, several⟩

theorem filter_alone_before (untagged : ∀ other ∈ before, (files.inode other).tagged = false) :
    before.filter (alone files xid) = [] := by
  refine List.filter_eq_nil_iff.mpr fun other early => ?_
  exact not_alone_of_untagged (untagged other early)

theorem filter_alone_names {more : Nat} (several : shared files xid ino = true) :
    (List.replicate more ino).filter (alone files xid) = [] := by
  refine List.filter_eq_nil_iff.mpr fun other name => ?_
  rw [List.eq_of_mem_replicate name]
  exact not_alone_of_shared several

/-- The walk over the names of an inode that stand together and first. -/
theorem together_walk {more : Nat} (empty : usage.inotable = library.empty)
    (several : shared files xid ino = true)
    (untagged : ∀ other ∈ before, (files.inode other).tagged = false)
    (walk : Nftw files xid usage (before ++ ino :: List.replicate more ino) last) :
    last.usedInodes = usage.usedInodes + 1 ∧
      last.usedBlocks = usage.usedBlocks + (files.inode ino).blocks := by
  obtain ⟨owned, links⟩ := shared_iff.mp several
  obtain ⟨middle, first, second⟩ := walk.split
  obtain ⟨tree, inodes, blocks⟩ := untagged_walk first untagged
  cases second with
  | cons sb names =>
      have start := tree.trans empty
      have counts : Charged files xid middle sb ino := by
        refine ⟨owned, .inr ?_⟩
        rw [start]
        exact library.find_empty _ _
      obtain ⟨oneInode, itsBlocks⟩ := handleFile_counts counts
      have single := @handleFile_first library files xid middle sb ino start
        (tagged_of_shared several)
      have number : (handleFile files xid middle sb ino).memory sb = ino := by
        rw [handleFile_memory, Function.update_self]
      obtain ⟨sameInodes, sameBlocks⟩ := replicate_walk links names single number
      omega

theorem counted_of_orderly (orderly : Orderly files xid) {memory : Nat → Nat}
    (walk : Nftw files xid (Usage.start library memory) files.visits last) :
    Counted files xid last := by
  unfold Counted
  rw [card_ownedInodes, sum_ownedInodes]
  by_cases any : ∃ ino ∈ files.visits, shared files xid ino = true
  · obtain ⟨ino, mem, several⟩ := any
    rw [sharedInodes_eq_singleton mem several
      fun other visited too => orderly.only mem several visited too, Finset.card_singleton,
      Finset.sum_singleton]
    obtain ⟨before, after, more, visits, fresh, untagged⟩ := orderly ino mem several
    have whole : files.visits = (before ++ ino :: List.replicate more ino) ++ after := by
      rw [visits, List.append_assoc, List.cons_append]
    have single : ∀ other ∈ after, shared files xid other = false := by
      intro other late
      by_contra too
      have visited : other ∈ files.visits := by
        rw [whole]
        exact List.mem_append_right _ late
      have same := orderly.only mem several visited (Bool.eq_true_of_not_eq_false too)
      rw [same] at late
      exact fresh late
    have alones : files.visits.filter (alone files xid) = after.filter (alone files xid) := by
      rw [whole, List.filter_append, List.filter_append, filter_alone_before untagged,
        List.filter_cons_of_neg (not_alone_of_shared several), filter_alone_names several]
      rfl
    rw [whole] at walk
    obtain ⟨middle, first, second⟩ := walk.split
    obtain ⟨oneInode, itsBlocks⟩ := together_walk rfl several untagged first
    obtain ⟨inodes, blocks⟩ := used_of_alone second single
    have zeroInodes : (Usage.start library memory).usedInodes = 0 := rfl
    have zeroBlocks : (Usage.start library memory).usedBlocks = 0 := rfl
    rw [alones]
    omega
  · have none : ∀ ino ∈ files.visits, shared files xid ino = false := by
      intro ino mem
      by_contra several
      exact any ⟨ino, mem, Bool.eq_true_of_not_eq_false several⟩
    obtain ⟨inodes, blocks⟩ := used_of_alone walk none
    rw [sharedInodes_eq_empty none, Finset.card_empty, Finset.sum_empty, inodes, blocks]
    exact ⟨Nat.add_comm _ _, Nat.add_comm _ _⟩

theorem first_tagged (mem : ino ∈ files.visits) (tagged : (files.inode ino).tagged = true) :
    ∃ before first after, files.visits = before ++ first :: after ∧
      (∀ other ∈ before, (files.inode other).tagged = false) ∧
      (files.inode first).tagged = true := by
  have some : (files.visits.find? fun other => (files.inode other).tagged).isSome = true :=
    List.find?_isSome.mpr ⟨ino, mem, tagged⟩
  obtain ⟨first, found⟩ := Option.isSome_iff_exists.mp some
  obtain ⟨isTagged, before, after, visits, untagged⟩ := List.find?_eq_some_iff_append.mp found
  exact ⟨before, first, after, visits, fun other early => by simpa using untagged other early,
    isTagged⟩

/-- A walk that uses one storage for all files. -/
theorem exists_walk_first {first : Nat} (memory : Nat → Nat)
    (untagged : ∀ other ∈ before, (files.inode other).tagged = false)
    (tagged : (files.inode first).tagged = true) (after : List Nat) :
    ∃ last, Nftw files xid (Usage.start library memory) (before ++ first :: after) last ∧
      last.inotable = library.single 0 ∧
      last.usedInodes = (if files.owned xid first = true then 1 else 0) +
        (after.filter (alone files xid)).length ∧
      last.memory 0 = after.getLast?.getD first := by
  obtain ⟨middle, walk⟩ := exists_walk (Usage.start library memory) before
  obtain ⟨tree, inodes, -⟩ := untagged_walk walk untagged
  have start : middle.inotable = library.empty := tree
  have single := @handleFile_first library files xid middle 0 first start tagged
  obtain ⟨last, later, lastTree, used, number⟩ :=
    @exists_walk_same library files xid _ 0 single after
  have one : (handleFile files xid middle 0 first).usedInodes =
      if files.owned xid first = true then 1 else 0 := by
    have zero : middle.usedInodes = 0 := inodes
    split
    next own =>
      have counts : Charged files xid middle 0 first := by
        refine ⟨own, .inr ?_⟩
        rw [start]
        exact library.find_empty _ _
      rw [(handleFile_counts counts).1, zero]
    next other =>
      rw [(handleFile_skips fun counts => other counts.1).1, zero]
  refine ⟨last, walk.append (.cons 0 later), lastTree, ?_, ?_⟩
  · rw [used, one]
  · rw [number, handleFile_memory, Function.update_self]

/-- The names stand together, or one comes right after another file. -/
theorem replicate_or_again (ino : Nat) (visits : List Nat) :
    (∃ more after, visits = List.replicate more ino ++ after ∧ ino ∉ after) ∨
      ∃ early other late, visits = early ++ other :: ino :: late ∧ other ≠ ino := by
  induction visits with
  | nil => exact .inl ⟨0, [], rfl, List.not_mem_nil⟩
  | cons visit rest ih =>
      rcases ih with ⟨more, after, rfl, fresh⟩ | ⟨early, other, late, rfl, different⟩
      · by_cases same : visit = ino
        · exact .inl ⟨more + 1, after, by rw [same, List.replicate_succ, List.cons_append], fresh⟩
        · cases more with
          | zero =>
              refine .inl ⟨0, visit :: after, rfl, ?_⟩
              rw [List.mem_cons, not_or]
              exact ⟨fun here => same here.symm, fresh⟩
          | succ more =>
              exact .inr ⟨[], visit, List.replicate more ino ++ after, rfl, same⟩
      · exact .inr ⟨visit :: early, other, late, rfl, different⟩

/-- Where one storage is used for all files, the first tagged inode is the only one of those
with several names that is counted. -/
theorem shared_eq_first {first : Nat}
    (counted : ∀ memory last, Nftw files xid (Usage.start library memory) files.visits last →
      Counted files xid last)
    (visits : files.visits = before ++ first :: after)
    (untagged : ∀ other ∈ before, (files.inode other).tagged = false)
    (tagged : (files.inode first).tagged = true) (mem : ino ∈ files.visits)
    (several : shared files xid ino = true) :
    ino = first ∧ (sharedInodes files xid).card = 1 := by
  obtain ⟨last, walk, -, used, -⟩ :=
    @exists_walk_first library files xid before first (fun _ => 0) untagged tagged after
  rw [← visits] at walk
  have inodes := (counted _ _ walk).1
  rw [card_ownedInodes, used, visits, List.filter_append, filter_alone_before untagged,
    List.nil_append] at inodes
  have inShared : ino ∈ sharedInodes files xid :=
    Finset.mem_filter.mpr ⟨List.mem_toFinset.mpr mem, several⟩
  have some : 0 < (sharedInodes files xid).card := Finset.card_pos.mpr ⟨ino, inShared⟩
  by_cases firstShared : shared files xid first = true
  · rw [List.filter_cons_of_neg (not_alone_of_shared firstShared),
      if_pos (shared_iff.mp firstShared).1] at inodes
    have one : (sharedInodes files xid).card = 1 := by omega
    have inShared' : first ∈ sharedInodes files xid := by
      refine Finset.mem_filter.mpr ⟨List.mem_toFinset.mpr ?_, firstShared⟩
      rw [visits]
      exact List.mem_append_right _ List.mem_cons_self
    obtain ⟨only, single⟩ := Finset.card_eq_one.mp one
    rw [single, Finset.mem_singleton] at inShared inShared'
    exact ⟨inShared.trans inShared'.symm, one⟩
  · by_cases own : files.owned xid first = true
    · have single : alone files xid first = true := by
        refine alone_iff.mpr ⟨own, ?_⟩
        by_contra links
        exact firstShared (shared_iff.mpr ⟨own, links⟩)
      rw [List.filter_cons_of_pos single, if_pos own, List.length_cons] at inodes
      omega
    · have other : ¬ alone files xid first = true := fun single => own (alone_iff.mp single).1
      rw [List.filter_cons_of_neg other, if_neg own] at inodes
      omega

/-- In a storage of its own a name that comes after another file is counted again. -/
theorem again_counted {early late : List Nat} {other : Nat}
    (counted : ∀ memory last, Nftw files xid (Usage.start library memory) files.visits last →
      Counted files xid last)
    (visits : files.visits = before ++ ino :: (early ++ other :: ino :: late))
    (untagged : ∀ other ∈ before, (files.inode other).tagged = false)
    (several : shared files xid ino = true) (one : (sharedInodes files xid).card = 1) :
    other = ino := by
  by_contra different
  obtain ⟨owned, -⟩ := shared_iff.mp several
  obtain ⟨middle, walk, tree, used, number⟩ :=
    @exists_walk_first library files xid before ino (fun _ => 0) untagged
      (tagged_of_shared several) (early ++ [other])
  have points : middle.memory 0 = other := by
    rw [number, List.getLast?_concat]
    rfl
  have counts : Charged files xid middle 1 ino := by
    refine ⟨owned, .inr ?_⟩
    rw [tree]
    by_contra found
    have equal := (library.find_single _ 0 1).mp (Bool.eq_true_of_not_eq_false found)
    rw [Function.update_self, Function.update_of_ne Nat.zero_ne_one, points] at equal
    exact different equal.symm
  obtain ⟨last, rest⟩ := @exists_walk library files xid (handleFile files xid middle 1 ino) late
  have whole : files.visits = (before ++ ino :: (early ++ [other])) ++ ino :: late := by
    rw [visits]
    simp
  have inodes := (counted _ _ (by rw [whole]; exact walk.append (.cons 1 rest))).1
  have atLeast := le_used rest
  rw [(handleFile_counts counts).1, used, if_pos owned] at atLeast
  rw [card_ownedInodes, one, whole, List.filter_append, List.filter_append,
    filter_alone_before untagged, List.filter_cons_of_neg (not_alone_of_shared several),
    List.filter_cons_of_neg (not_alone_of_shared several), List.length_append,
    List.nil_append] at inodes
  omega

theorem orderly_of_counted
    (counted : ∀ memory last, Nftw files xid (Usage.start library memory) files.visits last →
      Counted files xid last) : Orderly files xid := by
  intro ino mem several
  obtain ⟨before, first, after, visits, untagged, tagged⟩ :=
    first_tagged mem (tagged_of_shared several)
  obtain ⟨same, one⟩ := shared_eq_first counted visits untagged tagged mem several
  rw [← same] at visits
  rcases replicate_or_again ino after with
    ⟨more, rest, rfl, fresh⟩ | ⟨early, other, late, rfl, different⟩
  · exact ⟨before, rest, more, visits, fresh, untagged⟩
  · exact absurd (again_counted counted visits untagged several one) different

end Steps

/-! ## The result -/

/-- A search tree that is not balanced. -/
inductive PointerTree where
  | nil
  | node (left : PointerTree) (pointer : Nat) (right : PointerTree)

/-- `tfind` with `inocmp`. -/
def PointerTree.find (memory : Nat → Nat) : PointerTree → Nat → Bool
  | .nil, _ => false
  | .node left pointer right, key =>
      if memory key < memory pointer then left.find memory key
      else if memory pointer < memory key then right.find memory key
      else true

/-- `tsearch` with `inocmp`. -/
def PointerTree.search (memory : Nat → Nat) : PointerTree → Nat → PointerTree
  | .nil, key => .node .nil key .nil
  | .node left pointer right, key =>
      if memory key < memory pointer then .node (left.search memory key) pointer right
      else if memory pointer < memory key then .node left pointer (right.search memory key)
      else .node left pointer right

def pointerTree : SearchTree where
  Tree := PointerTree
  empty := .nil
  single pointer := .node .nil pointer .nil
  tfind := PointerTree.find
  tsearch := PointerTree.search
  find_empty _ _ := rfl
  find_single memory node key := by
    simp only [PointerTree.find]
    split
    · simp
      omega
    · split
      · simp
        omega
      · simp
        omega
  search_empty _ _ := rfl
  search_single memory node key equal := by
    simp only [PointerTree.search, equal, lt_irrefl, if_false]

/-- A directory of the context with two directories below it. -/
def siblingDirectories : FileTree where
  inode ino := if ino = 1 then ⟨4, 8, true, 100⟩ else ⟨2, 8, true, 100⟩
  visits := [1, 2, 3]
  single := by decide

end Vcd
