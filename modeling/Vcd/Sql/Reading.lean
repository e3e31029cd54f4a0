import Vcd.Sql.Engine
import Mathlib.Data.List.Perm.Basic

/-!
# Reading formatted texts

What a formatted text means to the engine, in terms of its pieces: the statements of the
text are those of the pieces, and a query on one table is a filter and a projection.
-/

namespace Sql

def Token.isBad : Token → Bool
  | .bad => true
  | _ => false

/-- The statements of a formatted text, unless an argument stands outside a literal. -/
def readPieces (pieces : List Piece) : Option (List (Option Statement)) :=
  let tokens := lexPieces pieces
  if tokens.any Token.isBad then none else some (statements tokens)

theorem bad_not_mem {tokens : List Token} (clean : tokens.any Token.isBad = false) :
    .bad ∉ tokens := by
  intro mem
  have := List.any_eq_false.mp clean _ mem
  exact this rfl

/-- A formatted text whose string arguments stay inside their literals is read as its
pieces, with the values of the arguments. -/
theorem parse_render {pieces : List Piece} {parsed : List (Option Statement)}
    (closed : ∀ piece ∈ pieces, piece.Closed)
    (read : readPieces (pieces.map Piece.unquoted) = some parsed) :
    parse (render pieces) = parsed := by
  simp only [readPieces, Option.ite_none_left_eq_some, Option.some.injEq,
    Bool.not_eq_true] at read
  rw [parse, lex_render closed (bad_not_mem read.1), read.2]

theorem parse_render_of_free {pieces : List Piece} {parsed : List (Option Statement)}
    (free : ∀ piece ∈ pieces, piece.Free) (read : readPieces pieces = some parsed) :
    parse (render pieces) = parsed := by
  simp only [readPieces, Option.ite_none_left_eq_some, Option.some.injEq,
    Bool.not_eq_true] at read
  rw [parse, lex_render_of_free free (bad_not_mem read.1), read.2]

/-! ## Queries on one table -/

variable {schema : Schema}

namespace Select

/-- The condition of a query on a row of its table. -/
def selects (query : Select) (db : Database schema) (table : schema.Table) (row : Row) : Bool :=
  query.condition.all (·.holds db (schema.env table row))

/-- The result row for a row of the table. -/
def project (query : Select) (schema : Schema) (table : schema.Table) (row : Row) : Row :=
  query.projections.map (Projection.single (schema.env table row))

theorem chosen_env (query : Select) (db : Database schema) (table : schema.Table) :
    query.chosen db ((db.rows table).map (schema.env table)) =
      ((db.rows table).filter (query.selects db table)).map (schema.env table) := by
  unfold chosen selects
  cases query.condition with
  | none => simp
  | some condition => simp [List.filter_map, Function.comp_def]

/-- A query on one table that counts and orders nothing. -/
def Plain (query : Select) (schema : Schema) (table : schema.Table) : Prop :=
  schema.named query.table = some table ∧ query.join = none ∧ query.order = none ∧
    query.limit = none ∧ query.projections.any (·.aggregates) = false ∧
    query.resolves schema (schema.knows table) = true

theorem Plain.run {query : Select} {table : schema.Table} (plain : query.Plain schema table)
    (db : Database schema) :
    query.run db =
      some (((db.rows table).filter (query.selects db table)).map (query.project schema table)) := by
  obtain ⟨named, join, order, limit, aggregates, resolves⟩ := plain
  simp only [Select.run, source, named, join, Option.bind_eq_bind, Option.bind_some, resolves,
    if_true, answer, aggregates, Bool.false_eq_true, if_false, chosen_env, limited, limit,
    ordered, order, List.map_map, Function.comp_def]
  rfl

theorem ordered_eq_nil (query : Select) (envs : List Env) :
    query.ordered envs = [] ↔ envs = [] := by
  unfold ordered
  split
  · rfl
  · rw [← List.length_eq_zero_iff, List.length_insertionSort, List.length_eq_zero_iff]
  · rw [← List.length_eq_zero_iff, List.length_insertionSort, List.length_eq_zero_iff]

/-- A query on one table that counts nothing has a result row if it selects a row and its
limit lets one through. -/
theorem run_nonempty_iff (query : Select) (db : Database schema) (table : schema.Table)
    (named : schema.named query.table = some table) (join : query.join = none)
    (aggregates : query.projections.any (·.aggregates) = false) :
    (∃ row rows, query.run db = some (row :: rows)) ↔
      query.resolves schema (schema.knows table) = true ∧ query.limit ≠ some 0 ∧
        ∃ row ∈ db.rows table, query.selects db table row = true := by
  have selected : ((db.rows table).filter (query.selects db table)).map (schema.env table) ≠ [] ↔
      ∃ row ∈ db.rows table, query.selects db table row = true := by
    simp [List.filter_eq_nil_iff]
  have sorted := query.ordered_eq_nil
  simp only [Select.run, source, named, join, Option.bind_eq_bind, Option.bind_some, answer,
    aggregates, Bool.false_eq_true, if_false, chosen_env, Option.ite_none_right_eq_some,
    Option.some.injEq, exists_and_left, ← List.ne_nil_iff_exists_cons, ← selected]
  refine and_congr_right fun _ => ?_
  unfold limited
  cases query.limit with
  | none => simp [sorted]
  | some count => simp [sorted]

/-- What a query that counts over all rows of one table answers. -/
theorem run_summary {query : Select} {table : schema.Table}
    (named : schema.named query.table = some table) (join : query.join = none)
    (aggregates : query.projections.any (·.aggregates) = true)
    (condition : query.condition = none)
    (resolves : query.resolves schema (schema.knows table) = true) (db : Database schema) :
    query.run db = some
      [query.projections.map (Projection.summary ((db.rows table).map (schema.env table)))] := by
  simp only [run, source, named, join, Option.bind_eq_bind, Option.bind_some, resolves, if_true,
    answer, aggregates, chosen, condition]

/-- What a query for the row with the largest value of a column answers. -/
theorem run_largest {query : Select} {table : schema.Table} {column : Str} {count : Nat}
    (named : schema.named query.table = some table) (join : query.join = none)
    (aggregates : query.projections.any (·.aggregates) = false)
    (condition : query.condition = none) (order : query.order = some (none, column, true))
    (limit : query.limit = some (count + 1))
    (resolves : query.resolves schema (schema.knows table) = true) (db : Database schema) :
    (query.run db = some [] ∧ db.rows table = []) ∨
      ∃ row ∈ db.rows table, (∀ other ∈ db.rows table,
        (schema.cell table other column).le (schema.cell table row column) = true) ∧
        ∃ rest, query.run db = some (query.project schema table row :: rest) := by
  let larger (left right : Env) : Prop := (right none column).le (left none column) = true
  have total : Std.Total larger := ⟨fun _ _ => Value.le_total _ _⟩
  have trans : IsTrans Env larger := ⟨fun _ _ _ left right => Value.le_trans right left⟩
  let sorted := ((db.rows table).map (schema.env table)).insertionSort larger
  have ran : query.run db =
      some ((sorted.take (count + 1)).map fun env => query.projections.map (Projection.single env)) := by
    simp only [run, source, named, join, Option.bind_eq_bind, Option.bind_some, resolves, if_true,
      answer, aggregates, Bool.false_eq_true, if_false, chosen, condition, limited, limit, ordered,
      order]
    rfl
  have perm : sorted.Perm ((db.rows table).map (schema.env table)) := List.perm_insertionSort _ _
  have apart : sorted.Pairwise larger := List.pairwise_insertionSort larger _
  cases known : sorted with
  | nil =>
      rw [known] at perm ran
      exact .inl ⟨ran, by simpa using perm.symm.eq_nil⟩
  | cons env rest =>
      rw [known] at perm apart ran
      obtain ⟨row, mem, rfl⟩ := List.mem_map.mp (perm.subset List.mem_cons_self)
      refine .inr ⟨row, mem, fun other otherMem => ?_, _, ran⟩
      rcases List.mem_cons.mp (perm.symm.subset (List.mem_map_of_mem otherMem)) with same | later
      · have equal := congrFun (congrFun same none) column
        exact (congrArg (Value.le · _) equal).trans ((Value.le_total _ _).elim id id)
      · exact List.rel_of_pairwise_cons apart later

/-- What a query in ascending order of a column answers. -/
theorem run_ascending {query : Select} {knows : Option Str → Str → Bool}
    {envs : Database schema → List Env} {qualifier : Option Str} {column : Str}
    (source : query.source schema = some (knows, envs))
    (resolves : query.resolves schema knows = true)
    (aggregates : query.projections.any (·.aggregates) = false)
    (order : query.order = some (qualifier, column, false)) (limit : query.limit = none)
    (db : Database schema) :
    ∃ sorted : List Env, sorted.Perm (query.chosen db (envs db)) ∧
      sorted.Pairwise (fun left right =>
        (left qualifier column).le (right qualifier column) = true) ∧
      query.run db =
        some (sorted.map fun env => query.projections.map (Projection.single env)) := by
  let smaller (left right : Env) : Prop :=
    (left qualifier column).le (right qualifier column) = true
  have total : Std.Total smaller := ⟨fun _ _ => Value.le_total _ _⟩
  have trans : IsTrans Env smaller := ⟨fun _ _ _ left right => Value.le_trans left right⟩
  refine ⟨(query.chosen db (envs db)).insertionSort smaller, List.perm_insertionSort _ _,
    List.pairwise_insertionSort smaller _, ?_⟩
  simp only [run, source, Option.bind_eq_bind, Option.bind_some, resolves, if_true, answer,
    aggregates, Bool.false_eq_true, if_false, limited, limit, ordered, order]
  rfl

/-- The rows of one table a query selects, in ascending order of a column. -/
theorem run_table_ascending {query : Select} {table : schema.Table} {column : Str}
    (named : schema.named query.table = some table) (join : query.join = none)
    (aggregates : query.projections.any (·.aggregates) = false)
    (order : query.order = some (none, column, false)) (limit : query.limit = none)
    (resolves : query.resolves schema (schema.knows table) = true) (db : Database schema) :
    ∃ sorted : List Row, sorted.Perm ((db.rows table).filter (query.selects db table)) ∧
      sorted.Pairwise (fun left right =>
        (schema.cell table left column).le (schema.cell table right column) = true) ∧
      query.run db = some (sorted.map (query.project schema table)) := by
  have source : query.source schema =
      some (schema.knows table, fun db => (db.rows table).map (schema.env table)) := by
    simp only [Select.source, named, join, Option.bind_eq_bind, Option.bind_some]
  obtain ⟨envs, perm, ascending, ran⟩ :=
    query.run_ascending source resolves aggregates order limit db
  rw [chosen_env] at perm
  obtain ⟨sorted, rfl, same⟩ := (congrFun (congrFun
    (List.eq_map_comp_perm (schema.env table)) envs) _).mpr perm
  refine ⟨sorted, same, List.pairwise_map.mp ascending, ?_⟩
  rw [ran, List.map_map]
  rfl

end Select

theorem prepareText_query {pieces : List Piece} {query : Select}
    (free : ∀ piece ∈ pieces, piece.Free)
    (read : readPieces pieces = some [some (.select query)]) (db : Database schema) :
    prepareText db (render pieces) = query.run db := by
  rw [prepareText, parse_render_of_free free read]

/-- What a plain query reads, for a text formatted from clean pieces. -/
theorem prepareText_plain {pieces : List Piece} {query : Select} {table : schema.Table}
    (free : ∀ piece ∈ pieces, piece.Free)
    (read : readPieces pieces = some [some (.select query)]) (plain : query.Plain schema table)
    (db : Database schema) :
    prepareText db (render pieces) =
      some (((db.rows table).filter (query.selects db table)).map (query.project schema table)) := by
  rw [prepareText_query free read]
  exact plain.run db

/-- The commands of a text formatted from closed pieces. -/
theorem commands_render {pieces : List Piece} {parsed : List (Option Statement)}
    (closed : ∀ piece ∈ pieces, piece.Closed)
    (read : readPieces (pieces.map Piece.unquoted) = some parsed) :
    commands schema (render pieces) = resolve schema parsed := by
  rw [commands, parse_render closed read]

/-! ## Scripts -/

/-- The pieces read as complete statements, each ended by its semicolon. -/
def ReadsAs (pieces : List Piece) (parsed : List (Option Statement)) : Prop :=
  ∃ tokens, (∀ next, scanPieces pieces .start next = tokens ++ next .start) ∧
    tokens.any Token.isBad = false ∧
      ∀ rest, statements (tokens ++ rest) = parsed ++ statements rest

namespace ReadsAs

/-- One statement and its semicolon. -/
theorem single {pieces : List Piece} (tokens : List Token)
    (scanned : ∀ next, scanPieces pieces .start next = (tokens ++ [.sym ';']) ++ next .start)
    (nonempty : tokens ≠ []) (plain : .sym ';' ∉ tokens)
    (clean : tokens.any Token.isBad = false) :
    ReadsAs pieces [Statement.parse tokens] := by
  refine ⟨tokens ++ [.sym ';'], scanned, by simp [clean, Token.isBad], fun rest => ?_⟩
  have alone : statements tokens = [Statement.parse tokens] := by
    simp only [statements, List.splitOn_eq_singleton plain]
    simp [nonempty]
  rw [List.append_assoc, List.singleton_append, statements_append, alone]

theorem nil : ReadsAs [] [] :=
  ⟨[], fun _ => rfl, rfl, fun _ => rfl⟩

theorem append {left right : List Piece} {leftParsed rightParsed : List (Option Statement)}
    (leftReads : ReadsAs left leftParsed) (rightReads : ReadsAs right rightParsed) :
    ReadsAs (left ++ right) (leftParsed ++ rightParsed) := by
  obtain ⟨leftTokens, leftScanned, leftClean, leftStatements⟩ := leftReads
  obtain ⟨rightTokens, rightScanned, rightClean, rightStatements⟩ := rightReads
  refine ⟨leftTokens ++ rightTokens, fun next => ?_, by simp [leftClean, rightClean],
    fun rest => ?_⟩
  · rw [scanPieces_append, leftScanned, rightScanned, List.append_assoc]
  · rw [List.append_assoc, leftStatements, rightStatements, List.append_assoc]

/-- A script is read statement by statement. -/
theorem read {pieces : List Piece} {parsed : List (Option Statement)}
    (reads : ReadsAs pieces parsed) : readPieces pieces = some parsed := by
  obtain ⟨tokens, scanned, clean, together⟩ := reads
  have all := together []
  rw [List.append_nil, show statements [] = [] from rfl, List.append_nil] at all
  have lexed : lexPieces pieces = tokens := by
    rw [lexPieces, scanned, finish, List.append_nil]
  rw [readPieces, lexed, clean, all]
  rfl

end ReadsAs

end Sql
