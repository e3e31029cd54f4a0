import Vcd.Sql.Origins
import Vcd.Vxdb.Meaning

/-!
# Soundness of authentication

`auth_isvalid` pastes the submitted hash between quotes. It is sound for hashes without a
quote. A hash with quotes defeats it if the quotes are all doubled, and if it makes another
query that some database answers.
-/

namespace Vcd

open Sql Process

/-- Whatever the database, `auth_isvalid` accepts the password only if some user has the
name and the submitted hash. -/
def AuthSound (host : Host) (user pass : Str) : Prop :=
  ∀ (world : World) (self : Nat),
    ((authIsvalid host user pass).run machine self world).outcome = .returned true →
      Authenticates world.db user (whirlpoolPass host pass)

theorem authIsvalid_returns (host : Host) (user pass : Str) (world : World) (self : Nat) :
    ((authIsvalid host user pass).run machine self world).outcome =
      .returned (validIn world.db.oracle host user pass) :=
  (lookup_authIsvalid host user pass).outcome world (answer_authIsvalid _ host user pass) self

theorem authSound_iff {host : Host} {user pass : Str} :
    AuthSound host user pass ↔ ∀ db : Vxdb, validIn db.oracle host user pass = true →
      Authenticates db user (whirlpoolPass host pass) := by
  constructor
  · intro sound db valid
    refine sound (.boot db fun _ => ⟨0, 0, [], [], []⟩) 0 ?_
    rw [authIsvalid_returns]
    exact congrArg _ valid
  · intro sound world self accepted
    rw [authIsvalid_returns] at accepted
    injection accepted with valid
    exact sound world.db valid

/-! ## The query for a hash with quotes -/

/-- The tokens of the query before the hash. -/
def isvalidTokens (user : Str) : List Token :=
  [.key .select, .name (cstr "uid"), .key .from, .name (cstr "user"), .key .where,
    .name (cstr "name"), .sym '=', .str user, .key .and, .name (cstr "password"), .sym '=']

theorem lex_sqlIsvalid {user : Str} (free : QuoteFree user) (hash : Str) :
    lex (render (sqlIsvalid user hash)) =
      isvalidTokens user ++ scan (hash ++ ['\'']) (.quoted []) finish := by
  let last (mode : Mode) : List Token := scan (hash ++ ['\'']) mode finish
  let middle (mode : Mode) : List Token := scan (cstr "' AND password = '") mode last
  calc lex (render (sqlIsvalid user hash))
      = scan (cstr "SELECT uid FROM user WHERE name = '") .start fun mode =>
          scan user mode middle := by
        simp only [lex, render, sqlIsvalid, Piece.text, List.flatMap_cons, List.flatMap_nil,
          List.append_nil, scan_append, middle, last]
        rfl
    _ = (isvalidTokens user).take 7 ++ scan user (.quoted []) middle := by rfl
    _ = (isvalidTokens user).take 7 ++ middle (.quoted user) := by
        rw [scan_quoted (unquote_of_quoteFree free), List.nil_append]
    _ = isvalidTokens user ++ last (.quoted []) := by rfl

/-- A query for ids of users. -/
def uidQuery (condition : Option Expr) (order : Option (Option Str × Str × Bool))
    (limit : Option Nat) : Select where
  projections := [.column none (cstr "uid")]
  table := cstr "user"
  join := none
  condition
  order
  limit

/-- The first statement of the query for any hash: the beginning is the intended one, and
every string of the condition other than the user's name comes from the hash. -/
theorem parse_sqlIsvalid {user hash : Str} (free : QuoteFree user) {query : Select}
    (parsed : (parse (render (sqlIsvalid user hash))).head? = some (some (.select query))) :
    ∃ condition order limit,
      (∀ text ∈ condition.strings, text = user ∨ weight text ≤ hash.length) ∧
      query = uidQuery (some condition) order limit := by
  rw [parse, lex_sqlIsvalid free] at parsed
  obtain ⟨rest, subset, first⟩ := statements_cons (isvalidTokens user)
    (by simp [isvalidTokens]) (by simp [isvalidTokens])
    (scan (hash ++ ['\'']) (.quoted []) finish)
  rw [first] at parsed
  have clause : Statement.parse (isvalidTokens user ++ rest) =
      ((uidQuery none none none).parseWhere
        (.key .where :: ((isvalidTokens user).drop 5 ++ rest))).map .select := by rfl
  rw [clause, Option.some.injEq, Option.map_eq_some_iff] at parsed
  obtain ⟨result, parsed, equal⟩ := parsed
  obtain rfl := Statement.select.inj equal
  obtain ⟨condition, order, limit, originates, rfl⟩ := Select.parseWhere_condition parsed
  refine ⟨condition, order, limit, fun text mem => ?_, rfl⟩
  rcases List.mem_append.mp (originates text mem) with mem | mem
  · left
    simpa [isvalidTokens] using mem
  · right
    have light := weight_of_mem_scan (subset _ mem)
    simp only [List.length_append, List.length_singleton, Mode.weight, weight,
      List.length_nil, List.count_nil] at light
    simp only [weight]
    omega

/-- Some database answers the query for the password with a row. What the grammar does not
read is no query here, whatever the library makes of it. -/
def Admissible (host : Host) (user pass : Str) : Prop :=
  ∃ (db : Vxdb) (row : Row) (rows : List Row),
    prepareText db (render (sqlIsvalid user (whirlpoolPass host pass))) = some (row :: rows)

theorem firstRow_isSome {reply : Option (List Row)} :
    (firstRow reply).isSome ↔ ∃ row rows, reply = some (row :: rows) := by
  rcases reply with _ | _ | ⟨row, rows⟩ <;> simp [firstRow]

theorem run_of_prepareText {schema : Schema} {db : Database schema} {text : Str}
    {rows : List Row} (prepared : prepareText db text = some rows) :
    ∃ query : Select, (parse text).head? = some (some (.select query)) ∧
      query.run db = some rows := by
  unfold prepareText at prepared
  split at prepared
  next query _ equal => exact ⟨query, by rw [equal]; rfl, prepared⟩
  · contradiction

theorem prepareText_of_run {schema : Schema} {db : Database schema} {text : Str}
    {query : Select} (parsed : (parse text).head? = some (some (.select query))) :
    prepareText db text = query.run db := by
  unfold prepareText
  split
  next other _ equal =>
    rw [equal] at parsed
    obtain rfl : other = query := by simpa using parsed
    rfl
  next other =>
    cases known : parse text with
    | nil => simp [known] at parsed
    | cons first rest =>
        rw [known, List.head?_cons, Option.some.injEq] at parsed
        exact absurd known (parsed ▸ other query rest)

/-- A hash with a quote that anybody can log in with lets somebody in without it: a
database with a row for the query has a copy that does not contain the hash. -/
theorem not_authSound {host : Host} {user pass : Str} (valid : validateUsername user = true)
    (nonempty : strIsempty pass = false) (quoted : ¬ QuoteFree (whirlpoolPass host pass))
    (admissible : Admissible host user pass) : ¬ AuthSound host user pass := by
  have free := quoteFree_of_validateUsername valid
  obtain ⟨db, row, rows, prepared⟩ := admissible
  obtain ⟨query, parsed, ran⟩ := run_of_prepareText prepared
  obtain ⟨condition, order, limit, strings, rfl⟩ := parse_sqlIsvalid free parsed
  have answers (db : Vxdb) := (uidQuery (some condition) order limit).run_nonempty_iff db
    Table.user (by rfl) (by rfl) (by rfl)
  obtain ⟨resolves, limited, row, mem, selected⟩ := (answers db).mp ⟨row, rows, ran⟩
  have apart : ∀ text ∈ condition.strings, ¬ whirlpoolPass host pass <+: text := by
    intro text textMem begins
    have quote := not_not.mp quoted
    rcases strings text textMem with rfl | light
    · exact free (begins.subset quote)
    · have longer := begins.length_le
      have counted := List.one_le_count_iff.mpr (begins.subset quote)
      simp only [weight] at light
      omega
  obtain ⟨other, ⟨found, foundMem, foundSelected⟩, without⟩ :=
    exists_row_without (not_not.mp quoted) apart mem selected
  rw [authSound_iff]
  intro sound
  obtain ⟨row, rowMem, -, hash⟩ := sound other (by
    simp only [validIn, valid, nonempty, Bool.not_false, Bool.and_self, Bool.true_and]
    rw [firstRow_isSome, Vxdb.oracle, prepareText_of_run parsed]
    exact (answers other).mpr ⟨resolves, limited, found, foundMem, foundSelected⟩)
  exact without Table.user row rowMem (vxdbSchema.mem_of_cell hash (by simp))

theorem quoteFree_whirlpoolPass (host : Host) {pass : Str} :
    QuoteFree (whirlpoolPass host pass) ↔
      (pass.take 14 = whirlpoolPrefix → QuoteFree (pass.drop 14)) := by
  unfold whirlpoolPass
  split
  next encoded => simp [encoded]
  next plain => simp [plain, quoteFree_digest]

/-- A user may well have a hash with quotes, which a text with all of them doubled finds. -/
theorem admissible_of_closed {host : Host} {user pass : Str}
    (valid : validateUsername user = true) (closed : (unquote (whirlpoolPass host pass)).isSome) :
    Admissible host user pass := by
  let row : Row := [.int 3, .str user, .str (valueOf (whirlpoolPass host pass)), .int 0]
  let db : Vxdb := (freshVxdb 0).replace Table.user row
  have authenticates : Authenticates db user (valueOf (whirlpoolPass host pass)) :=
    ⟨row, by simp [db, Database.rows_replace_same], rfl, rfl⟩
  have found :=
    (firstRow_sqlIsvalid_closed (quoteFree_of_validateUsername valid) closed).mpr authenticates
  exact ⟨db, firstRow_isSome.mp found⟩

/-- `auth_isvalid` pastes nothing with a quote into its query. -/
def PastesNoQuote (user pass : Str) : Prop :=
  validateUsername user = false ∨ strIsempty pass = true ∨
    (pass.take 14 = whirlpoolPrefix → QuoteFree (pass.drop 14))

/-- Authentication is sound for a name and a password if the name is not valid, the password
is empty, or the part of it that is pasted into the query has no quote. No other password
makes it sound if its quotes are all doubled or some database answers the query. -/
theorem authSound_of_pastesNoQuote (host : Host) (user pass : Str) :
    (PastesNoQuote user pass → AuthSound host user pass) ∧
      ((unquote (whirlpoolPass host pass)).isSome ∨ Admissible host user pass →
        AuthSound host user pass → PastesNoQuote user pass) := by
  rw [PastesNoQuote, ← quoteFree_whirlpoolPass host]
  constructor
  · intro condition
    rw [authSound_iff]
    intro db accepted
    simp only [validIn, Bool.and_eq_true, Bool.not_eq_true'] at accepted
    obtain ⟨⟨valid, nonempty⟩, found⟩ := accepted
    rcases condition with invalid | empty | free
    · simp [valid] at invalid
    · simp [nonempty] at empty
    · exact (firstRow_sqlIsvalid (quoteFree_of_validateUsername valid) free).mp found
  · intro answered sound
    by_contra other
    simp only [not_or, Bool.not_eq_false, Bool.not_eq_true] at other
    obtain ⟨valid, nonempty, quoted⟩ := other
    have admissible := answered.elim (admissible_of_closed valid) id
    exact not_authSound valid nonempty quoted admissible sound

/-- A password with a condition of its own logs in as the administrator. -/
theorem authSound_injection :
    ¬ AuthSound default (cstr "admin") (cstr "WHIRLPOOLENC//' OR '1'='1") := by
  rw [authSound_iff]
  intro sound
  obtain ⟨row, mem, -, hash⟩ := sound (freshVxdb 0) (by decide +kernel)
  rcases List.mem_cons.mp mem with rfl | mem
  · exact absurd hash (by decide)
  · obtain rfl := List.mem_singleton.mp mem
    exact absurd hash (by decide)

end Vcd
