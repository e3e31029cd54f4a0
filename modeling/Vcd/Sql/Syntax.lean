import Vcd.Sql.Lexical

/-!
# Syntax of SQL statements

The fragment of SQL the modelled texts are written in, and its parser. A text is cut at
its semicolons and every segment is parsed on its own; a segment outside the fragment
parses to `none`, which stands for a syntax error.

Operators are parsed by cutting the tokens at the weakest one first, so a bracket holds
no more than one string or the `MAX` subquery.
-/

namespace Sql

inductive Expr where
  | int (value : Int)
  | str (value : Str)
  | column (table : Option Str) (name : Str)
  | maxOf (name table : Str)
  | add (left right : Expr)
  | eq (left right : Expr)
  | and (left right : Expr)
  | or (left right : Expr)
  deriving DecidableEq, Repr

/-- One column of a result. -/
inductive Projection where
  | column (table : Option Str) (name : Str)
  | count (name : Str)
  | max (name : Str)
  deriving DecidableEq, Repr

structure Select where
  projections : List Projection
  table : Str
  join : Option (Str × Expr)
  condition : Option Expr
  order : Option (Option Str × Str × Bool)
  limit : Option Nat
  deriving DecidableEq, Repr

inductive Statement where
  | begin
  | commit
  | select (query : Select)
  | evaluate (expr : Expr)
  | insert (orReplace : Bool) (table : Str) (columns : Option (List Str)) (values : List Expr)
  | delete (table : Str) (condition : Option Expr)
  | update (table : Str) (assignments : List (Str × Expr)) (condition : Option Expr)
  deriving DecidableEq, Repr

/-! ## Expressions -/

def Expr.parseAtom : List Token → Option Expr
  | [.int value] => some (.int value)
  | [.str value] => some (.str value)
  | [.sym '(', .str value, .sym ')'] => some (.str value)
  | [.name name] => some (.column none name)
  | [.name table, .sym '.', .name name] => some (.column (some table) name)
  | [.sym '(', .key .select, .name ['m', 'a', 'x'], .sym '(', .name name, .sym ')',
      .key .from, .name table, .sym ')'] => some (.maxOf name table)
  | _ => none

/-- Operands between occurrences of an operator that associates to the left. -/
def Expr.parseInfix (operator : Token) (combine : Expr → Expr → Expr)
    (parseOperand : List Token → Option Expr) (tokens : List Token) : Option Expr := do
  match ← (tokens.splitOn operator).mapM parseOperand with
  | [] => none
  | first :: rest => some (rest.foldl combine first)

def Expr.parse : List Token → Option Expr :=
  parseInfix (.key .or) .or <|
  parseInfix (.key .and) .and <|
  parseInfix (.sym '=') .eq <|
  parseInfix (.sym '+') .add parseAtom

/-! ## Statements -/

def parseNames (tokens : List Token) : Option (List Str) :=
  (tokens.splitOn (.sym ',')).mapM fun
    | [.name name] => some name
    | _ => none

def parseExprs (tokens : List Token) : Option (List Expr) :=
  (tokens.splitOn (.sym ',')).mapM Expr.parse

def parseAssignments (tokens : List Token) : Option (List (Str × Expr)) :=
  (tokens.splitOn (.sym ',')).mapM fun
    | .name name :: .sym '=' :: value => (Expr.parse value).map (name, ·)
    | _ => none

/-- The content of a bracket that ends the tokens. -/
def bracketed (tokens : List Token) : Option (List Token) :=
  match tokens.getLast? with
  | some (.sym ')') => some tokens.dropLast
  | _ => none

def parseCondition : List Token → Option (Option Expr)
  | [] => some none
  | .key .where :: tokens => (Expr.parse tokens).map some
  | _ => none

def parseValues (orReplace : Bool) (table : Str) (columns : Option (List Str)) :
    List Token → Option Statement
  | .key .values :: .sym '(' :: tokens => do
      some (.insert orReplace table columns (← parseExprs (← bracketed tokens)))
  | _ => none

def parseInsert (orReplace : Bool) : List Token → Option Statement
  | .name table :: .sym '(' :: tokens => do
      let (columns, rest) := tokens.span (· != .sym ')')
      parseValues orReplace table (some (← parseNames columns)) rest.tail
  | .name table :: tokens => parseValues orReplace table none tokens
  | _ => none

def Projection.parse : List Token → Option Projection
  | [.name name] => some (.column none name)
  | [.name table, .sym '.', .name name] => some (.column (some table) name)
  | [.name ['c', 'o', 'u', 'n', 't'], .sym '(', .name name, .sym ')'] => some (.count name)
  | [.name ['m', 'a', 'x'], .sym '(', .name name, .sym ')'] => some (.max name)
  | _ => none

def startsClause : Token → Bool
  | .key .where | .key .order | .key .limit => true
  | _ => false

def Select.parseLimit (query : Select) : List Token → Option Select
  | [] => some query
  | [.key .limit, .int count] => some { query with limit := some count.toNat }
  | _ => none

def parseDirection : List Token → Bool × List Token
  | .key .asc :: tokens => (false, tokens)
  | .key .desc :: tokens => (true, tokens)
  | tokens => (false, tokens)

def Select.parseOrder (query : Select) : List Token → Option Select
  | .key .order :: .key .by :: .name table :: .sym '.' :: .name name :: tokens =>
      let (descending, tokens) := parseDirection tokens
      { query with order := some (some table, name, descending) }.parseLimit tokens
  | .key .order :: .key .by :: .name name :: tokens =>
      let (descending, tokens) := parseDirection tokens
      { query with order := some (none, name, descending) }.parseLimit tokens
  | tokens => query.parseLimit tokens

def Select.parseWhere (query : Select) : List Token → Option Select
  | .key .where :: tokens => do
      let (condition, rest) := tokens.span (!startsClause ·)
      { query with condition := some (← Expr.parse condition) }.parseOrder rest
  | tokens => query.parseOrder tokens

def Select.parseJoin (query : Select) : List Token → Option Select
  | .key .inner :: .key .join :: .name table :: .key .on :: tokens => do
      let (condition, rest) := tokens.span (!startsClause ·)
      { query with join := some (table, ← Expr.parse condition) }.parseWhere rest
  | tokens => query.parseWhere tokens

def Select.parse (tokens : List Token) : Option Select := do
  let (projections, rest) := tokens.span (· != .key .from)
  let projections ← (projections.splitOn (.sym ',')).mapM Projection.parse
  match rest with
  | .key .from :: .name table :: rest =>
      Select.parseJoin
        { projections, table, join := none, condition := none, order := none, limit := none }
        rest
  | _ => none

/-- The statements of the modelled texts. Conditions are made of `=`, `AND` and `OR`, sums and
`MAX`; the rest of SQL (`NOT`, `<`, `LIKE`, `UNION` and so on) is a syntax error here. -/
def Statement.parse : List Token → Option Statement
  | [.key .begin, .key .transaction] => some .begin
  | [.key .begin, .key .exclusive, .key .transaction] => some .begin
  | [.key .commit, .key .transaction] => some .commit
  | .key .select :: tokens =>
      if tokens.contains (.key .from) then (Select.parse tokens).map .select
      else (Expr.parse tokens).map .evaluate
  | .key .insert :: .key .or :: .key .replace :: .key .into :: tokens => parseInsert true tokens
  | .key .insert :: .key .into :: tokens => parseInsert false tokens
  | .key .delete :: .key .from :: .name table :: tokens =>
      (parseCondition tokens).map (.delete table)
  | .key .update :: .name table :: .key .set :: tokens => do
      let (assignments, rest) := tokens.span (· != .key .where)
      some (.update table (← parseAssignments assignments) (← parseCondition rest))
  | _ => none

/-! ## Texts -/

/-- The statements of a token list in order. An empty segment is no statement. -/
def statements (tokens : List Token) : List (Option Statement) :=
  (tokens.splitOn (.sym ';')).filter (· ≠ []) |>.map Statement.parse

theorem statements_append (left right : List Token) :
    statements (left ++ .sym ';' :: right) = statements left ++ statements right := by
  simp only [statements, List.splitOn_append_cons_self, List.filter_append, List.map_append]

/-- The statements of a text. -/
def parse (text : Str) : List (Option Statement) :=
  statements (lex text)

end Sql
