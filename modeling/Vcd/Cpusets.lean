import Vcd.Validate

/-!
# Lists of ids

What `validate_cpuset` accepts. The library splits at commas and drops empty ids, so the
tokens alone do not tell a list from a text with two commas in a row.
-/

namespace Vcd

open Sql

variable {scan : Str → Int} {host : Host} {bound : Int → Prop} {text : Str}

/-- Non-empty runs of digits that denote numbers in bounds, separated by single commas. -/
def IdList (bound : Int → Prop) (text : Str) : Prop :=
  ∃ ids : List Str, ids ≠ [] ∧ text = [','].intercalate ids ∧
    ∀ id ∈ ids, id ≠ [] ∧ strIsdigit id = true ∧ bound (scanDigits id)

/-- A conversion of `sscanf` that reads a decimal number that fits in an `int`. -/
def ReadsInts (scan : Str → Int) : Prop :=
  ∀ id, strIsdigit id = true → scanDigits id < 2 ^ 31 → scan id = scanDigits id

/-- No two commas in a row, and no number too large for an `int`. -/
def Regular (text : Str) : Prop :=
  ∀ id ∈ text.splitOn ',', id ≠ [] ∧ (strIsdigit id = true → scanDigits id < 2 ^ 31)

/-- Everything between the commas reads as an id in bounds, and the commas are inside. -/
def ReadsAsIds (scan : Str → Int) (bound : Int → Prop) (text : Str) : Prop :=
  text ≠ [] ∧ text.head? ≠ some ',' ∧ text.getLast? ≠ some ',' ∧
    ∀ id ∈ text.splitOn ',', id ≠ [] → strIsdigit id = true ∧ 0 ≤ scan id ∧ bound (scan id)

/-! ## Runs of digits -/

theorem comma_not_mem {id : Str} (digits : strIsdigit id = true) : ',' ∉ id := by
  intro mem
  have digit := List.all_eq_true.mp digits ',' mem
  revert digit
  decide

/-- The conversion of the daemon's model reads decimal numbers. -/
theorem readsInts_scanInt : ReadsInts fun id => int32 (scanInt id) := by
  intro id digits fits
  have unsigned : scanInt id = scanDigits id := by
    cases id with
    | nil => rfl
    | cons char rest =>
        have digit := List.all_eq_true.mp digits char (.head _)
        unfold scanInt
        split
        next equal =>
          cases equal
          exact absurd digit (by decide)
        next equal =>
          cases equal
          exact absurd digit (by decide)
        next => rfl
  change int32 (scanInt id) = scanDigits id
  rw [unsigned]
  exact int32_of_small (by omega) (by exact_mod_cast fits)

/-! ## Pieces between commas -/

theorem idList_iff : IdList bound text ↔ ∀ id ∈ text.splitOn ',',
    id ≠ [] ∧ strIsdigit id = true ∧ bound (scanDigits id) := by
  constructor
  · rintro ⟨ids, nonempty, rfl, listed⟩
    rw [List.splitOn_intercalate ',' (fun id mem => comma_not_mem (listed id mem).2.1) nonempty]
    exact listed
  · intro listed
    exact ⟨text.splitOn ',', List.splitOn_ne_nil ',' text, (List.intercalate_splitOn ',').symm,
      listed⟩

/-- Pieces that are not empty leave no comma at the ends. -/
theorem ends_of_pieces (pieces : ∀ id ∈ text.splitOn ',', id ≠ []) :
    text ≠ [] ∧ text.head? ≠ some ',' ∧ text.getLast? ≠ some ',' := by
  refine ⟨?_, ?_, ?_⟩
  · rintro rfl
    exact pieces [] (.head _) rfl
  · intro head
    obtain ⟨rest, rfl⟩ := List.head?_eq_some_iff.mp head
    refine pieces [] ?_ rfl
    rw [List.splitOn_cons_eq_if_modifyHead]
    exact .head _
  · intro last
    obtain ⟨rest, rfl⟩ := List.getLast?_eq_some_iff.mp last
    refine pieces [] ?_ rfl
    rw [List.splitOn_append_cons_self]
    exact List.mem_append_right _ (.head _)

/-- The first character of a text that does not begin with a comma is that of a piece. -/
theorem exists_first_piece {char : Char} {rest : Str} (other : char ≠ ',') :
    ∃ more, char :: more ∈ (char :: rest).splitOn ',' := by
  rw [List.splitOn_cons_eq_if_modifyHead, if_neg (by simpa using other)]
  cases pieces : rest.splitOn ',' with
  | nil => exact absurd pieces (List.splitOn_ne_nil ',' rest)
  | cons more others => exact ⟨more, .head _⟩

/-- A text that begins with a digit is not blank. -/
theorem strIsempty_digit {char : Char} (rest : Str) (digit : charIsdigit char = true) :
    strIsempty (char :: rest) = false := by
  apply Bool.eq_false_iff.mpr
  intro blank
  have white := List.all_eq_true.mp blank char (.head _)
  simp only [charIsdigit, Bool.and_eq_true, Bool.or_eq_true, decide_eq_true_eq] at white digit
  rcases white with rfl | white
  · exact absurd digit.1 (by decide)
  · exact absurd (Char.le_trans digit.1 white.2) (by decide)

theorem ReadsAsIds.not_blank (reads : ReadsAsIds scan bound text) : strIsempty text = false := by
  obtain ⟨nonempty, head, -, pieces⟩ := reads
  cases text with
  | nil => exact absurd rfl nonempty
  | cons char rest =>
      obtain ⟨more, mem⟩ := @exists_first_piece char rest fun equal => head (by rw [equal]; rfl)
      have digits := (pieces _ mem (List.cons_ne_nil _ _)).1
      exact strIsempty_digit rest (List.all_eq_true.mp digits char (.head _))

/-! ## What is accepted -/

/-- The validator accepts what reads as ids below a bound it tests. -/
theorem ids_accepted_iff {test : Int → Bool} :
    (if strIsempty text then false
      else if text.head? = some ',' || text.getLast? = some ',' then false
      else ((text.splitOn ',').filter (· ≠ [])).all fun id =>
        strIsdigit id && scan id ≥ 0 && test (scan id)) = true ↔
      ReadsAsIds scan (fun value => test value = true) text := by
  constructor
  · intro accepted
    split at accepted
    · cases accepted
    next nonblank =>
      split at accepted
      · cases accepted
      next inner =>
        simp only [Bool.or_eq_true, decide_eq_true_eq, not_or] at inner
        refine ⟨?_, inner.1, inner.2, fun id mem nonempty => ?_⟩
        · rintro rfl
          exact nonblank rfl
        · have read := List.all_eq_true.mp accepted id
            (List.mem_filter.mpr ⟨mem, by simpa using nonempty⟩)
          simp only [Bool.and_eq_true, decide_eq_true_eq] at read
          exact ⟨read.1.1, read.1.2, read.2⟩
  · intro reads
    have nonblank := reads.not_blank
    obtain ⟨-, head, last, pieces⟩ := reads
    rw [nonblank, if_neg (by simp), if_neg (by simp [head, last])]
    apply List.all_eq_true.mpr
    intro id mem
    obtain ⟨mem, nonempty⟩ := List.mem_filter.mp mem
    obtain ⟨digits, low, high⟩ := pieces id mem (by simpa using nonempty)
    simp [digits, low, high]

theorem validateCpusetWith_cpus : validateCpusetWith scan host text 0 = true ↔
    ReadsAsIds scan (· < host.nproc) text := by
  have accepts := @ids_accepted_iff scan text fun value => decide (value < host.nproc)
  simp only [decide_eq_true_eq] at accepts
  exact accepts

theorem validateCpusetWith_mems : validateCpusetWith scan host text 1 = true ↔
    ReadsAsIds scan (· ≤ host.maxMemNode) text := by
  have accepts := @ids_accepted_iff scan text fun value => decide (value ≤ host.maxMemNode)
  simp only [decide_eq_true_eq] at accepts
  exact accepts

/-! ## Lists and what is accepted -/

section Reads

variable (reads : ReadsInts scan)

include reads

/-- Every list of small ids is accepted, and regular. -/
theorem IdList.accepted (small : ∀ value, bound value → value < 2 ^ 31)
    (listed : IdList bound text) : Regular text ∧ ReadsAsIds scan bound text := by
  have pieces := idList_iff.mp listed
  have fits (id : Str) (mem : id ∈ text.splitOn ',') : scanDigits id < 2 ^ 31 := by
    have below := small _ (pieces id mem).2.2
    exact_mod_cast below
  obtain ⟨nonempty, head, last⟩ := ends_of_pieces fun id mem => (pieces id mem).1
  refine ⟨fun id mem => ⟨(pieces id mem).1, fun _ => fits id mem⟩, nonempty, head, last, ?_⟩
  intro id mem _
  obtain ⟨-, digits, inside⟩ := pieces id mem
  rw [reads id digits (fits id mem)]
  exact ⟨digits, Int.natCast_nonneg _, inside⟩

/-- A regular text that is accepted is a list. -/
theorem Regular.idList (regular : Regular text) (accepted : ReadsAsIds scan bound text) :
    IdList bound text := by
  apply idList_iff.mpr
  intro id mem
  obtain ⟨nonempty, fits⟩ := regular id mem
  obtain ⟨digits, -, inside⟩ := accepted.2.2.2 id mem nonempty
  rw [reads id digits (fits digits)] at inside
  exact ⟨nonempty, digits, inside⟩

theorem accepted_iff_idList (small : ∀ value, bound value → value < 2 ^ 31) :
    (ReadsAsIds scan bound text ↔ IdList bound text) ↔
      (Regular text ∨ ¬ ReadsAsIds scan bound text) := by
  constructor
  · intro same
    by_cases accepted : ReadsAsIds scan bound text
    · exact .inl ((same.mp accepted).accepted reads small).1
    · exact .inr accepted
  · intro settled
    constructor
    · intro accepted
      rcases settled with regular | refused
      · exact regular.idList reads accepted
      · exact absurd accepted refused
    · intro listed
      exact (listed.accepted reads small).2

/-- `validate_cpuset` accepts exactly the lists of ids, unless commas follow each other or a
number is too large: then nothing is a list, and what the tokens read as decides. -/
theorem validate_cpuset_iff (cpus : host.nproc ≤ 2 ^ 31) (mems : host.maxMemNode < 2 ^ 31)
    (text : Str) :
    ((validateCpusetWith scan host text 0 = true ↔ IdList (· < host.nproc) text) ↔
      (Regular text ∨ ¬ ReadsAsIds scan (· < host.nproc) text)) ∧
    ((validateCpusetWith scan host text 1 = true ↔ IdList (· ≤ host.maxMemNode) text) ↔
      (Regular text ∨ ¬ ReadsAsIds scan (· ≤ host.maxMemNode) text)) := by
  constructor
  · rw [validateCpusetWith_cpus]
    exact accepted_iff_idList reads fun value below => by omega
  · rw [validateCpusetWith_mems]
    exact accepted_iff_idList reads fun value below => by omega

end Reads

/-- A machine with two processors. -/
def twoProcessors : Host :=
  { (default : Host) with nproc := 2 }

/-- The daemon's validator on a list of both processors. -/
theorem validate_cpuset_plain :
    ((validateCpuset twoProcessors (cstr "0,1") 0 = true ↔
        IdList (· < twoProcessors.nproc) (cstr "0,1")) ↔
      (Regular (cstr "0,1") ∨
        ¬ ReadsAsIds (fun id => int32 (scanInt id)) (· < twoProcessors.nproc) (cstr "0,1"))) ∧
    ((validateCpuset twoProcessors (cstr "0,1") 1 = true ↔
        IdList (· ≤ twoProcessors.maxMemNode) (cstr "0,1")) ↔
      (Regular (cstr "0,1") ∨
        ¬ ReadsAsIds (fun id => int32 (scanInt id)) (· ≤ twoProcessors.maxMemNode)
          (cstr "0,1"))) :=
  validate_cpuset_iff readsInts_scanInt (by decide) (by decide) (cstr "0,1")

/-- Two commas in a row are accepted. -/
theorem doubled_comma_accepted : ¬ ∀ (scan : Str → Int) (host : Host) (text : Str),
    ReadsInts scan → host.nproc ≤ 2 ^ 31 → host.maxMemNode < 2 ^ 31 →
    (validateCpusetWith scan host text 0 = true ↔ IdList (· < host.nproc) text) ∧
      (validateCpusetWith scan host text 1 = true ↔ IdList (· ≤ host.maxMemNode) text) := by
  intro exactness
  have accepted : validateCpuset default (cstr "0,,0") 0 = true := by decide
  have listed := (exactness _ default (cstr "0,,0") readsInts_scanInt (by decide) (by decide)).1.mp
    accepted
  have piece : ([] : Str) ∈ (cstr "0,,0").splitOn ',' := by decide
  exact (idList_iff.mp listed [] piece).1 rfl

end Vcd
