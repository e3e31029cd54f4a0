import Vcd.Sql.Reading

/-!
# Effects of texts

What a text does to the rows of a database, told by two predicates: the rows it may touch,
and the rows it may add. Effects compose, and the effect of a text is that of its changes.
-/

namespace Sql

variable {schema : Schema}

/-- A choice of rows in each table. -/
abbrev Region (schema : Schema) := schema.Table → Row → Bool

/-- Rows outside the touched region stay, in their order, and a row that was not there
before lies in the added region. -/
structure Effect (touched added : Region schema) (db next : Database schema) : Prop where
  kept : ∀ table, (next.rows table).filter (!touched table ·) =
    (db.rows table).filter (!touched table ·)
  fresh : ∀ table, ∀ row ∈ next.rows table, row ∈ db.rows table ∨ added table row = true

namespace Effect

variable {touched added wider more : Region schema} {db next last : Database schema}
  {table : schema.Table} {row : Row}

theorem refl (touched added : Region schema) (db : Database schema) :
    Effect touched added db db :=
  ⟨fun _ => rfl, fun _ _ mem => .inl mem⟩

theorem trans (first : Effect touched added db next) (second : Effect touched added next last) :
    Effect touched added db last where
  kept table := (second.kept table).trans (first.kept table)
  fresh table row mem := by
    rcases second.fresh table row mem with mem | new
    · exact first.fresh table row mem
    · exact .inr new

theorem mono (effect : Effect touched added db next)
    (touchedImplies : ∀ table row, touched table row = true → wider table row = true)
    (addedImplies : ∀ table row, added table row = true → more table row = true) :
    Effect wider more db next where
  kept table := by
    have narrow (rows : List Row) : rows.filter (!wider table ·) =
        (rows.filter (!touched table ·)).filter (!wider table ·) := by
      rw [List.filter_filter]
      refine List.filter_congr fun row _ => ?_
      cases touches : touched table row with
      | true => simp [touchedImplies table row touches]
      | false => simp
    rw [narrow, effect.kept, ← narrow]
  fresh table row mem := (effect.fresh table row mem).imp_right (addedImplies table row)

/-- A table outside the touched region is left as it is. -/
theorem rows_eq (effect : Effect touched added db next)
    (outside : ∀ row, touched table row = false) : next.rows table = db.rows table := by
  simpa [outside] using effect.kept table

theorem mem_of_mem (effect : Effect touched added db next) (mem : row ∈ db.rows table)
    (outside : touched table row = false) : row ∈ next.rows table := by
  have kept : row ∈ (db.rows table).filter (!touched table ·) :=
    List.mem_filter.mpr ⟨mem, by simp [outside]⟩
  rw [← effect.kept] at kept
  exact List.mem_of_mem_filter kept

/-- An effect that may add whatever it may touch says only what it keeps. -/
theorem iff_kept : Effect touched touched db next ↔ ∀ table,
    (next.rows table).filter (!touched table ·) = (db.rows table).filter (!touched table ·) := by
  refine ⟨Effect.kept, fun kept => ⟨kept, fun table row mem => ?_⟩⟩
  cases touches : touched table row with
  | true => exact .inr rfl
  | false =>
      have outside : row ∈ (next.rows table).filter (!touched table ·) :=
        List.mem_filter.mpr ⟨mem, by simp [touches]⟩
      rw [kept] at outside
      exact .inl (List.mem_of_mem_filter outside)

theorem symm (effect : Effect touched touched db next) : Effect touched touched next db :=
  iff_kept.mpr fun table => (effect.kept table).symm

end Effect

/-! ## Changes -/

/-- A change touches and adds rows of certain regions only. -/
def Change.Stays (touched added : Region schema) : Change schema → Prop
  | .insert table row => touched table row = true ∧ added table row = true
  | .replace table row => touched table row = true ∧ added table row = true ∧
      ∀ other, schema.conflict table other row = true → touched table other = true
  | .delete table selected => ∀ db row, selected db row = true → touched table row = true
  | .update table selected assign => ∀ db row, selected db row = true →
      touched table row = true ∧ touched table (assign db row) = true ∧
        added table (assign db row) = true

/-- An effect on one table, of which all others know nothing. -/
theorem Effect.of_table {touched added : Region schema} {db next : Database schema}
    (table : schema.Table) (other : ∀ other, other ≠ table → next.rows other = db.rows other)
    (kept : (next.rows table).filter (!touched table ·) =
      (db.rows table).filter (!touched table ·))
    (fresh : ∀ row ∈ next.rows table, row ∈ db.rows table ∨ added table row = true) :
    Effect touched added db next where
  kept any := by
    by_cases same : any = table
    · rw [same, kept]
    · rw [other any same]
  fresh any row mem := by
    by_cases same : any = table
    · subst same
      exact fresh row mem
    · exact .inl (other any same ▸ mem)

theorem Effect.replace {touched added : Region schema} (db : Database schema)
    {table : schema.Table} {row : Row} (stays : (Change.replace table row).Stays touched added) :
    Effect touched added db (db.replace table row) := by
  obtain ⟨touches, adds, conflicts⟩ := stays
  refine .of_table table (fun other ne => db.rows_replace_other ne row) ?_ ?_
  · rw [db.rows_replace_same, List.filter_append, Database.spared, List.filter_filter]
    simp only [touches, Bool.not_true, List.filter_cons_of_neg, Bool.false_eq_true,
      not_false_eq_true, List.filter_nil, List.append_nil]
    refine List.filter_congr fun other _ => ?_
    cases clash : schema.conflict table other row with
    | true => simp [conflicts other clash]
    | false => simp
  · intro other mem
    rw [db.rows_replace_same] at mem
    rcases List.mem_append.mp mem with mem | mem
    · exact .inl (List.mem_of_mem_filter mem)
    · obtain rfl := List.mem_singleton.mp mem
      exact .inr adds

theorem Change.Stays.effect {touched added : Region schema} {change : Change schema}
    {db next : Database schema} (stays : change.Stays touched added)
    (applied : change.apply db = some next) : Effect touched added db next := by
  cases change with
  | insert table row =>
      refine .of_table table (fun other ne => rows_apply_other applied ne) ?_ ?_
      · rw [Database.rows_insert_same applied, List.filter_append]
        simp [stays.1]
      · intro other mem
        rw [Database.rows_insert_same applied] at mem
        rcases List.mem_append.mp mem with mem | mem
        · exact .inl mem
        · obtain rfl := List.mem_singleton.mp mem
          exact .inr stays.2
  | replace table row =>
      obtain rfl := Option.some.inj applied
      exact .replace db stays
  | delete table selected =>
      obtain rfl := Option.some.inj applied
      refine .of_table table (fun other ne => db.rows_delete_other ne _) ?_ ?_
      · rw [db.rows_delete_same, List.filter_filter]
        refine List.filter_congr fun row _ => ?_
        cases chosen : selected db row with
        | true => simp [stays db row chosen]
        | false => simp
      · intro row mem
        rw [db.rows_delete_same] at mem
        exact .inl (List.mem_of_mem_filter mem)
  | update table selected assign =>
      refine .of_table table (fun other ne => rows_apply_other applied ne) ?_ ?_
      · rw [Database.rows_update_same applied]
        induction db.rows table with
        | nil => rfl
        | cons row rows ih =>
            simp only [List.map_cons, List.filter_cons, ih]
            cases chosen : selected db row with
            | true =>
                obtain ⟨old, new, -⟩ := stays db row chosen
                simp [old, new]
            | false => simp
      · intro row mem
        rw [Database.rows_update_same applied] at mem
        obtain ⟨old, oldMem, rfl⟩ := List.mem_map.mp mem
        cases chosen : selected db old with
        | true =>
            obtain ⟨-, -, adds⟩ := stays db old chosen
            exact .inr (by simpa [chosen] using adds)
        | false => exact .inl (by simpa [chosen] using oldMem)

/-! ## Texts -/

/-- On every database, the text applies the changes, all or none. -/
def Runs (text : Str) (changes : List (Change schema)) : Prop :=
  ∀ db : Database schema, (execText db text).1 = (applyAll db changes).getD db ∧
    (execText db text).2.ok = (applyAll db changes).isSome

namespace Runs

variable {text : Str} {changes : List (Change schema)} {db : Database schema}

theorem single {change : Change schema}
    (known : commands schema text = [some (.change change)]) : Runs text [change] := by
  intro db
  rw [applyAll_singleton]
  exact execText_single known

theorem transaction (known : commands schema text =
    some .begin :: changes.map (some ∘ .change) ++ [some .commit]) : Runs text changes :=
  fun _ => execText_transaction known

/-- A text that fails has no effect. -/
theorem failed (runs : Runs text changes) (failed : (execText db text).2.ok = false) :
    (execText db text).1 = db := by
  obtain ⟨after, ok⟩ := runs db
  rw [failed] at ok
  have none : applyAll db changes = none := by simpa using ok.symm
  rw [after, none]
  rfl

/-- A text that succeeds applies its changes. -/
theorem succeeded (runs : Runs text changes) (ok : (execText db text).2.ok = true) :
    applyAll db changes = some (execText db text).1 := by
  obtain ⟨after, known⟩ := runs db
  rw [ok] at known
  obtain ⟨next, applied⟩ := Option.isSome_iff_exists.mp known.symm
  rw [after, applied]
  rfl

end Runs

theorem Effect.applyAll {touched added : Region schema} {changes : List (Change schema)}
    {db next : Database schema} (stay : ∀ change ∈ changes, change.Stays touched added)
    (applied : applyAll db changes = some next) : Effect touched added db next := by
  induction changes generalizing db with
  | nil =>
      obtain rfl := Option.some.inj applied
      exact .refl touched added db
  | cons change changes ih =>
      obtain ⟨between, first, later⟩ := Option.bind_eq_some_iff.mp applied
      exact ((stay change (by simp)).effect first).trans
        (ih (fun change mem => stay change (by simp [mem])) later)

/-- A text has an effect within certain regions, and none at all if it fails. -/
structure Confined (touched added : Region schema) (text : Str) : Prop where
  effect : ∀ db, Effect touched added db (execText db text).1
  failed : ∀ db : Database schema, (execText db text).2.ok = false → (execText db text).1 = db

theorem Runs.confined {touched added : Region schema} {text : Str}
    {changes : List (Change schema)} (runs : Runs text changes)
    (stay : ∀ change ∈ changes, change.Stays touched added) : Confined touched added text where
  effect db := by
    cases ok : (execText db text).2.ok with
    | true => exact .applyAll stay (runs.succeeded ok)
    | false =>
        rw [runs.failed ok]
        exact .refl touched added db
  failed _ := runs.failed

/-! ## Scripts of deletions and insertions -/

/-- Deleting a selection of rows from each of several tables. -/
theorem applyAll_deletes (db : Database schema) (tables : List schema.Table)
    (selected : schema.Table → Row → Bool) : ∃ next,
      applyAll db (tables.map fun table => .delete table fun _ => selected table) = some next ∧
        ∀ table, next.rows table =
          if table ∈ tables then (db.rows table).filter (!selected table ·)
          else db.rows table := by
  induction tables generalizing db with
  | nil => exact ⟨db, rfl, by simp⟩
  | cons first tables ih =>
      obtain ⟨next, applied, rows⟩ := ih (db.delete first (selected first))
      refine ⟨next, applied, fun table => ?_⟩
      rw [rows]
      by_cases same : table = first
      · subst same
        rw [db.rows_delete_same]
        simp [List.filter_filter]
      · rw [db.rows_delete_other same]
        simp [same]

/-- Rows inserted one after the other stand behind the old ones. -/
theorem applyAll_inserts {db next : Database schema} {rows : List (schema.Table × Row)}
    (applied : applyAll db (rows.map fun (table, row) => .insert table row) = some next)
    (table : schema.Table) :
    next.rows table =
      db.rows table ++ (rows.filter fun entry => entry.1 = table).map Prod.snd := by
  induction rows generalizing db with
  | nil =>
      obtain rfl := Option.some.inj applied
      simp
  | cons entry rows ih =>
      obtain ⟨between, first, later⟩ := Option.bind_eq_some_iff.mp applied
      rw [ih later]
      by_cases same : entry.1 = table
      · subst same
        rw [Database.rows_insert_same first]
        simp
      · rw [Change.rows_apply_other first fun equal => same equal.symm]
        simp [same]

/-- Rows in conflict with nothing can all be inserted. -/
theorem applyAll_inserts_succeeds {db : Database schema} {rows : List (schema.Table × Row)}
    (apart : ∀ entry ∈ rows, ∀ other ∈ db.rows entry.1,
      schema.conflict entry.1 other entry.2 = false)
    (distinct : rows.Pairwise fun left right =>
      left.1 = right.1 → schema.conflict left.1 left.2 right.2 = false) :
    ∃ next, applyAll db (rows.map fun (table, row) => .insert table row) = some next := by
  induction rows generalizing db with
  | nil => exact ⟨db, rfl⟩
  | cons entry rows ih =>
      obtain ⟨later, distinct⟩ := List.pairwise_cons.mp distinct
      have inserted : db.insert entry.1 entry.2 = some (db.replace entry.1 entry.2) := by
        refine if_neg fun clash => ?_
        obtain ⟨other, mem, clash⟩ := List.any_eq_true.mp clash
        simp [apart entry List.mem_cons_self other mem] at clash
      have stillApart : ∀ following ∈ rows, ∀ other ∈ (db.replace entry.1 entry.2).rows following.1,
          schema.conflict following.1 other following.2 = false := by
        intro following mem other otherMem
        by_cases same : following.1 = entry.1
        · rw [same, Database.rows_insert_same inserted] at otherMem
          rcases List.mem_append.mp otherMem with old | new
          · exact apart following (List.mem_cons_of_mem _ mem) other (same ▸ old)
          · obtain rfl := List.mem_singleton.mp new
            rw [same]
            exact later following mem same.symm
        · rw [db.rows_replace_other same] at otherMem
          exact apart following (List.mem_cons_of_mem _ mem) other otherMem
      obtain ⟨next, applied⟩ := ih stillApart distinct
      exact ⟨next, by simpa [applyAll, Change.apply, inserted] using applied⟩

/-- The pieces read as statements that are changes. -/
def IsScript (pieces : List Piece) (changes : List (Change schema)) : Prop :=
  ∃ parsed, ReadsAs pieces parsed ∧ resolve schema parsed = changes.map (some ∘ .change)

namespace IsScript

/-- One statement, with the tokens before its semicolon. -/
theorem single {pieces : List Piece} {change : Change schema} (tokens : List Token)
    (scanned : ∀ next, scanPieces pieces .start next = (tokens ++ [.sym ';']) ++ next .start)
    (nonempty : tokens ≠ []) (plain : .sym ';' ∉ tokens)
    (clean : tokens.any Token.isBad = false)
    (resolved : resolve schema [Statement.parse tokens] = [some (.change change)]) :
    IsScript pieces [change] :=
  ⟨_, .single tokens scanned nonempty plain clean, resolved⟩

theorem append {left right : List Piece} {leftChanges rightChanges : List (Change schema)}
    (leftScript : IsScript left leftChanges) (rightScript : IsScript right rightChanges) :
    IsScript (left ++ right) (leftChanges ++ rightChanges) := by
  obtain ⟨leftParsed, leftReads, leftResolved⟩ := leftScript
  obtain ⟨rightParsed, rightReads, rightResolved⟩ := rightScript
  refine ⟨leftParsed ++ rightParsed, leftReads.append rightReads, ?_⟩
  rw [resolve, List.map_append, ← resolve, ← resolve, leftResolved, rightResolved,
    List.map_append]

theorem map {α : Type} {items : List α} {pieces : α → List Piece} {change : α → Change schema}
    (each : ∀ item ∈ items, IsScript (pieces item) [change item]) :
    IsScript (items.flatMap pieces) (items.map change) := by
  induction items with
  | nil => exact ⟨[], .nil, rfl⟩
  | cons item items ih =>
      exact (each item (by simp)).append (ih fun item mem => each item (by simp [mem]))

/-- A script between the statements that begin and end a transaction. -/
theorem commands_transaction {pieces : List Piece} {changes : List (Change schema)}
    (script : IsScript pieces changes) (free : ∀ piece ∈ pieces, piece.Free) :
    commands schema (render (.chars (cstr "BEGIN EXCLUSIVE TRANSACTION;") :: pieces ++
      [.chars (cstr "COMMIT TRANSACTION;")])) =
        some .begin :: changes.map (some ∘ .change) ++ [some .commit] := by
  obtain ⟨parsed, reads, resolved⟩ := script
  have opens : ReadsAs [.chars (cstr "BEGIN EXCLUSIVE TRANSACTION;")] [some .begin] :=
    .single [.key .begin, .key .exclusive, .key .transaction] (fun _ => rfl) (by simp)
      (by simp) (by rfl)
  have closes : ReadsAs [.chars (cstr "COMMIT TRANSACTION;")] [some .commit] :=
    .single [.key .commit, .key .transaction] (fun _ => rfl) (by simp) (by simp) (by rfl)
  have whole : ReadsAs (.chars (cstr "BEGIN EXCLUSIVE TRANSACTION;") :: pieces ++
      [.chars (cstr "COMMIT TRANSACTION;")]) (some .begin :: parsed ++ [some .commit]) :=
    (opens.append reads).append closes
  rw [commands, parse_render_of_free (fun piece mem => ?_) whole.read]
  · rw [resolve, List.map_append, List.map_cons, ← resolve, resolved]
    rfl
  · simp only [List.cons_append, List.mem_cons, List.mem_append, List.not_mem_nil,
      or_false] at mem
    rcases mem with rfl | mem | rfl
    · trivial
    · exact free piece mem
    · trivial

theorem runs {pieces : List Piece} {changes : List (Change schema)}
    (script : IsScript pieces changes) (free : ∀ piece ∈ pieces, piece.Free) :
    Runs (render (.chars (cstr "BEGIN EXCLUSIVE TRANSACTION;") :: pieces ++
      [.chars (cstr "COMMIT TRANSACTION;")])) changes :=
  .transaction (script.commands_transaction free)

end IsScript

end Sql
