import Vcd.Sql.Renaming
import Mathlib.Data.List.TakeDrop

/-!
# Where the strings of a query come from

The strings of a parsed query are string tokens, and a string token is no longer than the
part of the text it was read from, quotes counted twice.
-/

namespace Sql

/-! ## Tokens -/

/-- The length of a string between quotes. -/
def weight (text : Str) : Nat :=
  text.length + text.count '\''

/-- What has been read of the current string. -/
def Mode.weight : Mode → Nat
  | .quoted value => Sql.weight value
  | .quote value => Sql.weight value + 1
  | _ => 0

theorem weight_append_char {char : Char} (value : Str) (ne : char ≠ '\'') :
    weight (value ++ [char]) = weight value + 1 := by
  simp only [weight, List.length_append, List.length_singleton, List.count_append,
    List.count_singleton, beq_iff_eq, ne, if_false]
  omega

theorem weight_append_le (value : Str) (char : Char) :
    weight (value ++ [char]) ≤ weight value + 2 := by
  have := List.count_le_length (a := '\'') (l := [char])
  simp only [weight, List.length_append, List.count_append, List.length_singleton] at this ⊢
  omega

theorem mem_enter {char : Char} {next : Mode → List Token} {cls : CharClass} {text : Str}
    (mem : .str text ∈ enter char next cls) :
    ∃ reached : Mode, reached.weight = 0 ∧ .str text ∈ next reached := by
  cases cls with
  | star | other =>
      simp only [enter, List.mem_cons, reduceCtorEq, false_or] at mem
      exact ⟨.start, rfl, mem⟩
  | quote => exact ⟨.quoted [], rfl, mem⟩
  | _ => exact ⟨_, rfl, mem⟩

theorem str_ne_ofWord (text word : Str) : Token.str text ≠ .ofWord word := by
  unfold Token.ofWord
  split <;> simp

/-- One character either ends the current string or adds at most one to its weight. -/
theorem mem_step {char : Char} {next : Mode → List Token} {mode : Mode} {text : Str}
    (mem : .str text ∈ step char next mode (.of char)) :
    (∃ reached : Mode, reached.weight ≤ mode.weight + 1 ∧ .str text ∈ next reached) ∨
      weight text + 1 ≤ mode.weight := by
  generalize class_eq : CharClass.of char = cls at mem
  have entered {current : Mode} (mem : .str text ∈ enter char next cls) :
      (∃ reached : Mode, reached.weight ≤ current.weight + 1 ∧ .str text ∈ next reached) ∨
        weight text + 1 ≤ current.weight := by
    obtain ⟨reached, light, mem⟩ := mem_enter mem
    exact .inl ⟨reached, by omega, mem⟩
  revert mem
  fun_cases step char next mode cls <;> intro mem
  case case4 word _ _ => exact entered (List.mem_of_ne_of_mem (str_ne_ofWord text word) mem)
  case case8 value => exact .inl ⟨.quote value, Nat.le_refl _, mem⟩
  case case9 value other =>
      have ne : char ≠ '\'' := by
        rintro rfl
        exact other class_eq.symm
      exact .inl ⟨.quoted (value ++ [char]), (weight_append_char value ne).le, mem⟩
  case case10 value =>
      exact .inl ⟨.quoted (value ++ [char]), weight_append_le value char, mem⟩
  case case11 value _ =>
      rcases List.mem_cons.mp mem with equal | mem
      · obtain rfl := Token.str.inj equal
        exact .inr (Nat.le_refl _)
      · exact entered mem
  all_goals first
    | exact .inl ⟨_, Nat.zero_le _, mem⟩
    | exact .inl ⟨.start, Nat.zero_le _, by simpa using mem⟩
    | exact entered (by simpa using mem)

/-- The strings a text is scanned to weigh less than the text. -/
theorem weight_of_mem_scan {source : Str} {mode : Mode} {text : Str}
    (mem : .str text ∈ scan source mode finish) :
    weight text + 1 ≤ source.length + mode.weight := by
  induction source generalizing mode with
  | nil =>
      cases mode with
      | quote value =>
          obtain rfl := Token.str.inj (List.mem_singleton.mp mem)
          simp [Mode.weight]
      | word read => exact absurd (List.mem_singleton.mp mem) (str_ne_ofWord text read)
      | _ => simp [scan, finish] at mem
  | cons char rest ih =>
      rw [List.length_cons]
      rcases mem_step mem with ⟨reached, light, mem⟩ | ended
      · have := ih mem
        omega
      · omega

/-! ## Expressions -/

theorem mem_of_mem_splitOn {tokens segment : List Token} {operator token : Token}
    (segmentMem : segment ∈ tokens.splitOn operator) (mem : token ∈ segment) :
    token ∈ tokens := by
  induction tokens generalizing segment with
  | nil =>
      obtain rfl : segment = [] := by simpa using segmentMem
      exact mem
  | cons first rest ih =>
      rw [List.splitOn_cons_eq_if_modifyHead] at segmentMem
      split at segmentMem
      · rcases List.mem_cons.mp segmentMem with rfl | segmentMem
        · simp at mem
        · exact List.mem_cons_of_mem _ (ih segmentMem mem)
      · cases known : rest.splitOn operator with
        | nil => simp [known] at segmentMem
        | cons head others =>
            rw [known, List.modifyHead_cons] at segmentMem
            rcases List.mem_cons.mp segmentMem with rfl | segmentMem
            · rcases List.mem_cons.mp mem with rfl | mem
              · exact List.mem_cons_self
              · exact List.mem_cons_of_mem _ (ih (by simp [known]) mem)
            · exact List.mem_cons_of_mem _ (ih (by simp [known, segmentMem]) mem)

theorem exists_of_mem_mapM {α β : Type} {read : α → Option β} {items : List α}
    {values : List β} (known : items.mapM read = some values) {value : β}
    (mem : value ∈ values) : ∃ item ∈ items, read item = some value := by
  induction items generalizing values with
  | nil =>
      obtain rfl : values = [] := by simpa using known.symm
      simp at mem
  | cons item items ih =>
      simp only [List.mapM_cons, Option.bind_eq_bind, Option.bind_eq_some_iff,
        Option.pure_def, Option.some.injEq] at known
      obtain ⟨first, firstKnown, rest, restKnown, rfl⟩ := known
      rcases List.mem_cons.mp mem with rfl | mem
      · exact ⟨item, List.mem_cons_self, firstKnown⟩
      · obtain ⟨other, otherMem, otherKnown⟩ := ih restKnown mem
        exact ⟨other, List.mem_cons_of_mem _ otherMem, otherKnown⟩

/-- The strings of the expression are string tokens. -/
def Originates (tokens : List Token) (expr : Expr) : Prop :=
  ∀ text ∈ expr.strings, .str text ∈ tokens

theorem Originates.mono {fewer tokens : List Token} {expr : Expr}
    (originates : Originates fewer expr) (subset : ∀ token ∈ fewer, token ∈ tokens) :
    Originates tokens expr :=
  fun text mem => subset _ (originates text mem)

theorem originates_parseAtom {tokens : List Token} {expr : Expr}
    (parsed : Expr.parseAtom tokens = some expr) : Originates tokens expr := by
  unfold Expr.parseAtom at parsed
  split at parsed <;> cases parsed <;> simp [Originates, Expr.strings]

theorem originates_parseInfix {operator : Token} {combine : Expr → Expr → Expr}
    {parseOperand : List Token → Option Expr}
    (operand : ∀ tokens expr, parseOperand tokens = some expr → Originates tokens expr)
    (combined : ∀ left right, (combine left right).strings = left.strings ++ right.strings)
    {tokens : List Token} {expr : Expr}
    (parsed : Expr.parseInfix operator combine parseOperand tokens = some expr) :
    Originates tokens expr := by
  have fold (operands : List Expr) (first : Expr) (firstFrom : Originates tokens first)
      (restFrom : ∀ expr ∈ operands, Originates tokens expr) :
      Originates tokens (operands.foldl combine first) := by
    induction operands generalizing first with
    | nil => exact firstFrom
    | cons second rest ih =>
        refine ih _ (fun text mem => ?_) fun expr mem => restFrom expr (by simp [mem])
        rw [combined] at mem
        rcases List.mem_append.mp mem with mem | mem
        · exact firstFrom text mem
        · exact restFrom second (by simp) text mem
  obtain ⟨operands, known, parsed⟩ := Option.bind_eq_some_iff.mp parsed
  have each : ∀ expr ∈ operands, Originates tokens expr := by
    intro expr mem
    obtain ⟨segment, segmentMem, segmentParsed⟩ := exists_of_mem_mapM known mem
    exact (operand segment expr segmentParsed).mono fun token mem =>
      mem_of_mem_splitOn segmentMem mem
  cases operands with
  | nil => cases parsed
  | cons first rest =>
      obtain rfl := Option.some.inj parsed
      exact fold rest first (each first (by simp)) fun expr mem => each expr (by simp [mem])

theorem originates_parse {tokens : List Token} {expr : Expr}
    (parsed : Expr.parse tokens = some expr) : Originates tokens expr := by
  refine originates_parseInfix (fun _ _ => ?_) (fun _ _ => rfl) parsed
  refine originates_parseInfix (fun _ _ => ?_) (fun _ _ => rfl)
  refine originates_parseInfix (fun _ _ => ?_) (fun _ _ => rfl)
  exact originates_parseInfix (fun _ _ => originates_parseAtom) (fun _ _ => rfl)

/-! ## Clauses -/

theorem Select.parseLimit_keeps {query result : Select} {tokens : List Token}
    (parsed : query.parseLimit tokens = some result) :
    ∃ limit, result = { query with limit } := by
  unfold Select.parseLimit at parsed
  split at parsed
  · exact ⟨query.limit, (Option.some.inj parsed).symm⟩
  · exact ⟨_, (Option.some.inj parsed).symm⟩
  · contradiction

theorem Select.parseOrder_keeps {query result : Select} {tokens : List Token}
    (parsed : query.parseOrder tokens = some result) :
    ∃ order limit, result = { query with order, limit } := by
  unfold Select.parseOrder at parsed
  split at parsed
  · obtain ⟨limit, rfl⟩ := Select.parseLimit_keeps parsed
    exact ⟨_, limit, rfl⟩
  · obtain ⟨limit, rfl⟩ := Select.parseLimit_keeps parsed
    exact ⟨_, limit, rfl⟩
  · obtain ⟨limit, rfl⟩ := Select.parseLimit_keeps parsed
    exact ⟨query.order, limit, rfl⟩

/-- A `WHERE` clause gives the query a condition whose strings are tokens of the clause. -/
theorem Select.parseWhere_condition {query result : Select} {tokens : List Token}
    (parsed : query.parseWhere (.key .where :: tokens) = some result) :
    ∃ condition order limit, Originates tokens condition ∧
      result = { query with condition := some condition, order, limit } := by
  simp only [Select.parseWhere, List.span_eq_takeWhile_dropWhile, Option.bind_eq_bind,
    Option.bind_eq_some_iff] at parsed
  obtain ⟨condition, conditionParsed, parsed⟩ := parsed
  obtain ⟨order, limit, rfl⟩ := Select.parseOrder_keeps parsed
  exact ⟨condition, order, limit, (originates_parse conditionParsed).mono fun token mem =>
    (List.takeWhile_sublist _).subset mem, rfl⟩

/-- The first statement of a token list that begins with tokens other than a semicolon. -/
theorem statements_cons (first : List Token) (nonempty : first ≠ [])
    (plain : .sym ';' ∉ first) (tokens : List Token) :
    ∃ rest, (∀ token ∈ rest, token ∈ tokens) ∧
      (statements (first ++ tokens)).head? = some (Statement.parse (first ++ rest)) := by
  have split : ∃ rest others, (∀ token ∈ rest, token ∈ tokens) ∧
      (first ++ tokens).splitOn (.sym ';') = (first ++ rest) :: others := by
    by_cases found : Token.sym ';' ∈ tokens
    · obtain ⟨before, after, rfl, apart⟩ := List.eq_append_cons_of_mem found
      refine ⟨before, after.splitOn (.sym ';'), fun token mem => List.mem_append_left _ mem, ?_⟩
      rw [← List.append_assoc, List.splitOn_append_cons_self_of_not_mem (by simp [plain, apart])]
    · exact ⟨tokens, [], fun _ mem => mem, List.splitOn_eq_singleton (by simp [plain, found])⟩
  obtain ⟨rest, others, subset, split⟩ := split
  refine ⟨rest, subset, ?_⟩
  rw [statements, split, List.filter_cons_of_pos (by simp [nonempty])]
  rfl

end Sql
