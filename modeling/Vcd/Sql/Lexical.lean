import Mathlib.Data.List.Basic
import Mathlib.Tactic.IntervalCases

/-!
# Lexical structure of SQL texts

SQL texts are assembled with a printf-like formatter and read by a lexer. This
module defines both ends and the theorem between them: a text made of literal
pieces, decimal integers and quoted strings lexes to the tokens of its pieces as
long as every quote inside the strings is doubled.

The lexer is a one-character state machine in continuation-passing style, so it
is a single structural pass over the text and it composes over `++`.
-/

namespace Sql

/-- A C string: its characters without the terminating zero. -/
abbrev Str := List Char

/-- A string literal of the source. The equation is found by unification, so the
characters are at hand without decoding the literal. -/
def cstr (text : String) {chars : Str} (_ : text = String.ofList chars := by rfl) : Str :=
  chars

/-- The reserved words the modelled statements use. -/
inductive Keyword where
  | select | from | inner | join | on | where | and | or | order | by | asc | desc | limit
  | insert | replace | into | values | delete | update | set
  | begin | exclusive | transaction | commit
  deriving DecidableEq, Repr

/-- Reserved words by their lower-case spelling. -/
def Keyword.named : Str → Option Keyword
  | ['s', 'e', 'l', 'e', 'c', 't'] => some .select
  | ['f', 'r', 'o', 'm'] => some .from
  | ['i', 'n', 'n', 'e', 'r'] => some .inner
  | ['j', 'o', 'i', 'n'] => some .join
  | ['o', 'n'] => some .on
  | ['w', 'h', 'e', 'r', 'e'] => some .where
  | ['a', 'n', 'd'] => some .and
  | ['o', 'r'] => some .or
  | ['o', 'r', 'd', 'e', 'r'] => some .order
  | ['b', 'y'] => some .by
  | ['a', 's', 'c'] => some .asc
  | ['d', 'e', 's', 'c'] => some .desc
  | ['l', 'i', 'm', 'i', 't'] => some .limit
  | ['i', 'n', 's', 'e', 'r', 't'] => some .insert
  | ['r', 'e', 'p', 'l', 'a', 'c', 'e'] => some .replace
  | ['i', 'n', 't', 'o'] => some .into
  | ['v', 'a', 'l', 'u', 'e', 's'] => some .values
  | ['d', 'e', 'l', 'e', 't', 'e'] => some .delete
  | ['u', 'p', 'd', 'a', 't', 'e'] => some .update
  | ['s', 'e', 't'] => some .set
  | ['b', 'e', 'g', 'i', 'n'] => some .begin
  | ['e', 'x', 'c', 'l', 'u', 's', 'i', 'v', 'e'] => some .exclusive
  | ['t', 'r', 'a', 'n', 's', 'a', 'c', 't', 'i', 'o', 'n'] => some .transaction
  | ['c', 'o', 'm', 'm', 'i', 't'] => some .commit
  | _ => none

inductive Token where
  | key (word : Keyword)
  | name (text : Str)
  | int (value : Int)
  | str (value : Str)
  | sym (char : Char)
  | bad
  deriving DecidableEq, Repr

/-- A word is a reserved word or a name; letter case does not count. -/
def Token.ofWord (word : Str) : Token :=
  match Keyword.named word with
  | some reserved => .key reserved
  | none => .name word

/-- What the lexer has read of the current token. -/
inductive Mode where
  | start
  | word (read : Str)
  | number (negative : Bool) (value : Int)
  | quoted (value : Str)
  | quote (value : Str)
  | dash
  | comment
  | slash
  | block
  | star
  | ident (read : Str)
  deriving DecidableEq, Repr

/-- Character classes; a letter carries its lower-case form. -/
inductive CharClass where
  | space | newline | quote | dquote | dash | slash | star | other
  | digit (value : Nat)
  | letter (lower : Char)

def CharClass.of (char : Char) : CharClass :=
  let code := char.toNat
  if code = 39 then .quote
  else if 97 ≤ code then (if code ≤ 122 then .letter char else .other)
  else if code = 32 then .space
  else if 65 ≤ code then
    (if code ≤ 90 then .letter (Char.ofNat (code + 32))
      else if code = 95 then .letter char else .other)
  else if 48 ≤ code then (if code ≤ 57 then .digit (code - 48) else .other)
  else if code = 10 then .newline
  else if code = 9 ∨ code = 13 then .space
  else if code = 34 then .dquote
  else if code = 45 then .dash
  else if code = 47 then .slash
  else if code = 42 then .star
  else .other

/-- The first character of a token. -/
def enter (char : Char) (next : Mode → List Token) : CharClass → List Token
  | .space | .newline => next .start
  | .digit value => next (.number false value)
  | .letter lower => next (.word [lower])
  | .quote => next (.quoted [])
  | .dquote => next (.ident [])
  | .dash => next .dash
  | .slash => next .slash
  | .star | .other => .sym char :: next .start

/-- One character. A token that ends before `char` is emitted first, and `char`
starts the next one. A minus sign directly before a digit belongs to the number. -/
def step (char : Char) (next : Mode → List Token) : Mode → CharClass → List Token
  | .start, cls => enter char next cls
  | .word read, .letter lower => next (.word (read ++ [lower]))
  | .word read, .digit _ => next (.word (read ++ [char]))
  | .word read, cls => .ofWord read :: enter char next cls
  | .number negative value, .digit digit =>
      next (.number negative (if negative then value * 10 - digit else value * 10 + digit))
  | .number _ _, .letter _ => .bad :: next .start
  | .number _ value, cls => .int value :: enter char next cls
  | .quoted value, .quote => next (.quote value)
  | .quoted value, _ => next (.quoted (value ++ [char]))
  | .quote value, .quote => next (.quoted (value ++ [char]))
  | .quote value, cls => .str value :: enter char next cls
  | .dash, .dash => next .comment
  | .dash, .digit digit => next (.number true (-digit))
  | .dash, cls => .sym '-' :: enter char next cls
  | .comment, .newline => next .start
  | .comment, _ => next .comment
  | .slash, .star => next .block
  | .slash, cls => .sym '/' :: enter char next cls
  | .block, .star => next .star
  | .block, _ => next .block
  | .star, .slash => next .start
  | .star, .star => next .star
  | .star, _ => next .block
  | .ident read, .dquote => .name read :: next .start
  | .ident read, .letter lower => next (.ident (read ++ [lower]))
  | .ident read, _ => next (.ident (read ++ [char]))

/-- What the end of the current token emits when a character of this class follows. -/
def ended : Mode → CharClass → List Token
  | .word _, .letter _ | .word _, .digit _ => []
  | .word read, _ => [.ofWord read]
  | .number _ _, .digit _ => []
  | .number _ _, .letter _ => [.bad]
  | .number _ value, _ => [.int value]
  | .quote _, .quote => []
  | .quote value, _ => [.str value]
  | .dash, .dash | .dash, .digit _ => []
  | .dash, _ => [.sym '-']
  | .slash, .star => []
  | .slash, _ => [.sym '/']
  | .ident read, .dquote => [.name read]
  | _, _ => []

/-- The mode after a character outside a token. -/
def CharClass.mode : CharClass → Mode
  | .space | .newline | .star | .other => .start
  | .digit value => .number false value
  | .letter lower => .word [lower]
  | .quote => .quoted []
  | .dquote => .ident []
  | .dash => .dash
  | .slash => .slash

/-- The mode after a character. -/
def reached (char : Char) : Mode → CharClass → Mode
  | .word read, .letter lower => .word (read ++ [lower])
  | .word read, .digit _ => .word (read ++ [char])
  | .number negative value, .digit digit =>
      .number negative (if negative then value * 10 - digit else value * 10 + digit)
  | .number _ _, .letter _ => .start
  | .quoted value, .quote => .quote value
  | .quoted value, _ => .quoted (value ++ [char])
  | .quote value, .quote => .quoted (value ++ [char])
  | .dash, .dash => .comment
  | .dash, .digit digit => .number true (-digit)
  | .comment, .newline => .start
  | .comment, _ => .comment
  | .slash, .star => .block
  | .block, .star => .star
  | .block, _ => .block
  | .star, .slash => .start
  | .star, .star => .star
  | .star, _ => .block
  | .ident _, .dquote => .start
  | .ident read, .letter lower => .ident (read ++ [lower])
  | .ident read, _ => .ident (read ++ [char])
  | _, cls => cls.mode

/-- What a character is by itself. -/
def alone (char : Char) : Mode → CharClass → List Token
  | .quoted _, _ | .comment, _ | .block, _ | .star, _ | .ident _, _ | .slash, .star => []
  | _, .star | _, .other => [.sym char]
  | _, _ => []

theorem step_eq (char : Char) (next : Mode → List Token) (mode : Mode) (cls : CharClass) :
    step char next mode cls =
      ended mode cls ++ (alone char mode cls ++ next (reached char mode cls)) := by
  cases mode <;> cases cls <;> rfl

def scan : Str → Mode → (Mode → List Token) → List Token
  | [], mode, next => next mode
  | char :: rest, mode, next =>
      step char (fun mode => scan rest mode next) mode (.of char)

/-- The end of the text. An open string or quoted identifier is an error. -/
def finish : Mode → List Token
  | .start | .comment | .block | .star => []
  | .word read => [.ofWord read]
  | .number _ value => [.int value]
  | .quote value => [.str value]
  | .quoted _ | .ident _ => [.bad]
  | .dash => [.sym '-']
  | .slash => [.sym '/']

def lex (text : Str) : List Token :=
  scan text .start finish

example : lex (cstr "SELECT uid FROM user -- all") =
    [.key .select, .name (cstr "uid"), .key .from, .name (cstr "user")] := by
  decide

theorem scan_append (left right : Str) (mode : Mode) (next : Mode → List Token) :
    scan (left ++ right) mode next =
      scan left mode fun mode => scan right mode next := by
  induction left generalizing mode with
  | nil => rfl
  | cons char rest ih => simp only [List.cons_append, scan, ih]

/-! ## Strings between quotes -/

/-- The value of a string literal whose content is `text`, if the content does not
end the literal: every quote in it must come doubled. -/
def unquote : Str → Option Str
  | [] => some []
  | '\'' :: '\'' :: rest => (unquote rest).map ('\'' :: ·)
  | '\'' :: _ => none
  | char :: rest => (unquote rest).map (char :: ·)

/-- No single quote occurs in the text. -/
def QuoteFree (text : Str) : Prop :=
  '\'' ∉ text

instance (text : Str) : Decidable (QuoteFree text) :=
  inferInstanceAs (Decidable (_ ∉ _))

@[simp] theorem quoteFree_nil : QuoteFree [] := by
  simp [QuoteFree]

theorem quoteFree_cons {char : Char} {rest : Str} :
    QuoteFree (char :: rest) ↔ char ≠ '\'' ∧ QuoteFree rest := by
  simp [QuoteFree, eq_comm]

theorem unquote_cons_of_ne {char : Char} (rest : Str) (ne : char ≠ '\'') :
    unquote (char :: rest) = (unquote rest).map (char :: ·) := by
  rw [unquote]
  · exact fun _ equal => absurd equal ne
  · exact ne

theorem unquote_of_quoteFree {text : Str} (free : QuoteFree text) :
    unquote text = some text := by
  induction text with
  | nil => rfl
  | cons char rest ih =>
      obtain ⟨ne, free⟩ := quoteFree_cons.mp free
      rw [unquote_cons_of_ne rest ne, ih free]
      rfl

theorem charClass_ne_quote {char : Char} (ne : char ≠ '\'') :
    CharClass.of char ≠ .quote := by
  have code : char.toNat ≠ 39 := fun equal => ne (Char.toNat_inj.mp equal)
  unfold CharClass.of
  simp only [code, if_false]
  repeat' split
  all_goals simp

/-- Inside a literal, a text whose quotes are all doubled stays inside. -/
theorem scan_quoted {text value : Str} (known : unquote text = some value)
    (read : Str) (next : Mode → List Token) :
    scan text (.quoted read) next = next (.quoted (read ++ value)) := by
  induction text using unquote.induct generalizing read value with
  | case1 => simp_all [unquote, scan]
  | case2 rest ih =>
      simp only [unquote, Option.map_eq_some_iff] at known
      obtain ⟨tail, tailKnown, rfl⟩ := known
      have quote : CharClass.of '\'' = .quote := rfl
      simp only [scan, quote, step, ih tailKnown, List.append_assoc, List.singleton_append]
  | case3 rest h => simp [unquote] at known
  | case4 char rest _ ne ih =>
      rw [unquote_cons_of_ne rest ne, Option.map_eq_some_iff] at known
      obtain ⟨tail, tailKnown, rfl⟩ := known
      have stays : step char (fun mode => scan rest mode next) (.quoted read) (.of char) =
          scan rest (.quoted (read ++ [char])) next := by
        rw [step]
        exact charClass_ne_quote ne
      rw [scan, stays, ih tailKnown, List.append_assoc]
      rfl

/-! ## Decimal integers -/

/-- The text printf writes for `%d`. -/
def decimal (value : Int) : Str :=
  if value < 0 then '-' :: Nat.toDigits 10 value.natAbs else Nat.toDigits 10 value.natAbs

theorem charClass_digitChar {digit : Nat} (small : digit < 10) :
    CharClass.of digit.digitChar = .digit digit := by
  interval_cases digit <;> rfl

/-- Digits read from the start of a number accumulate its value; `sign` tells both
kinds of start, a fresh one and one after a minus sign, apart. -/
theorem scan_toDigits (value : Nat) (negative : Bool) (next : Mode → List Token) :
    scan (Nat.toDigits 10 value) (if negative then .dash else .start) next =
      next (.number negative (if negative then -value else value)) := by
  induction value using Nat.strong_induction_on generalizing next with
  | _ value ih =>
      by_cases small : value < 10
      · rw [Nat.toDigits_of_lt_base small]
        cases negative <;> simp [scan, charClass_digitChar small, step, enter]
      · rw [Nat.toDigits_of_base_le (by decide) (by omega), scan_append,
          ih (value / 10) (by omega)]
        have last : value % 10 < 10 := Nat.mod_lt _ (by decide)
        simp only [scan, charClass_digitChar last, step]
        congr 2
        cases negative <;> simp <;> omega

theorem scan_decimal (value : Int) (next : Mode → List Token) :
    scan (decimal value) .start next = next (.number (decide (value < 0)) value) := by
  unfold decimal
  split
  next negative =>
    have digits := scan_toDigits value.natAbs true next
    have dash : CharClass.of '-' = .dash := rfl
    simp only [if_true] at digits
    simp only [scan, dash, step, enter, digits, negative, decide_true]
    congr 2
    omega
  next nonneg =>
    have digits := scan_toDigits value.natAbs false next
    simp only [Bool.false_eq_true, if_false] at digits
    simp only [digits, nonneg, decide_false]
    congr 2
    omega

theorem mem_decimal {value : Int} {char : Char} (mem : char ∈ decimal value) :
    char = '-' ∨ char.isDigit := by
  have digit {chars : Nat} (mem : char ∈ Nat.toDigits 10 chars) : char.isDigit :=
    Nat.isDigit_of_mem_toDigits (by decide) (by decide) mem
  unfold decimal at mem
  split at mem
  · rcases List.mem_cons.mp mem with minus | mem
    · exact .inl minus
    · exact .inr (digit mem)
  · exact .inr (digit mem)

@[simp] theorem quoteFree_decimal (value : Int) : QuoteFree (decimal value) := by
  intro mem
  rcases mem_decimal mem with minus | digit
  · exact absurd minus (by decide)
  · exact absurd digit (by decide)

/-! ## Formatted texts -/

/-- One piece of a formatted text: a run of literal characters, a `%d` or a `%s`. -/
inductive Piece where
  | chars (text : Str)
  | int (value : Int)
  | str (text : Str)

namespace Piece

def text : Piece → Str
  | .chars text => text
  | .int value => decimal value
  | .str text => text

/-- Every quote in a string argument is doubled. -/
def Closed : Piece → Prop
  | .str text => (unquote text).isSome
  | _ => True

/-- No quote occurs in a string argument. -/
def Free : Piece → Prop
  | .str text => QuoteFree text
  | _ => True

/-- The piece whose string argument is the value it has as a literal. -/
def unquoted : Piece → Piece
  | .str text => .str ((unquote text).getD text)
  | piece => piece

theorem Free.closed {piece : Piece} (free : piece.Free) : piece.Closed := by
  cases piece with
  | str text => simp [Closed, unquote_of_quoteFree free]
  | _ => trivial

theorem Free.unquoted {piece : Piece} (free : piece.Free) : piece.unquoted = piece := by
  cases piece with
  | str text => simp [Piece.unquoted, unquote_of_quoteFree free]
  | _ => rfl

end Piece

/-- The text a formatted print produces. -/
def render (pieces : List Piece) : Str :=
  pieces.flatMap Piece.text

/-- Lex a formatted text without looking into its arguments: an integer starts a token
or stands in a literal, and a string stands in a literal. -/
def scanPieces : List Piece → Mode → (Mode → List Token) → List Token
  | [], mode, next => next mode
  | .chars text :: rest, mode, next => scan text mode fun mode => scanPieces rest mode next
  | .int value :: rest, .start, next =>
      scanPieces rest (.number (decide (value < 0)) value) next
  | .int value :: rest, .quoted read, next =>
      scanPieces rest (.quoted (read ++ decimal value)) next
  | .str text :: rest, .quoted read, next =>
      scanPieces rest (.quoted (read ++ text)) next
  | _ :: _, _, _ => [.bad]

def lexPieces (pieces : List Piece) : List Token :=
  scanPieces pieces .start finish

theorem scanPieces_append (left right : List Piece) (mode : Mode)
    (next : Mode → List Token) :
    scanPieces (left ++ right) mode next =
      scanPieces left mode fun mode => scanPieces right mode next := by
  induction left generalizing mode with
  | nil => rfl
  | cons piece rest ih =>
      cases piece with
      | chars text => simp only [List.cons_append, scanPieces, ih]
      | _ => cases mode <;> simp only [List.cons_append, scanPieces, ih]

theorem scan_factor (text : Str) (mode : Mode) :
    ∃ tokens reached, ∀ next, scan text mode next = tokens ++ next reached := by
  induction text generalizing mode with
  | nil => exact ⟨[], mode, fun _ => rfl⟩
  | cons char rest ih =>
      obtain ⟨tokens, last, factor⟩ := ih (reached char mode (.of char))
      exact ⟨ended mode (.of char) ++ (alone char mode (.of char) ++ tokens), last, fun next => by
        rw [scan, step_eq, factor, List.append_assoc, List.append_assoc]⟩

/-- A formatted text lexes piece by piece: closed string arguments become the values of
the literals they stand in. -/
theorem scan_render {pieces : List Piece} (closed : ∀ piece ∈ pieces, piece.Closed)
    {mode : Mode} {next : Mode → List Token}
    (clean : .bad ∉ scanPieces (pieces.map Piece.unquoted) mode next) :
    scan (render pieces) mode next = scanPieces (pieces.map Piece.unquoted) mode next := by
  induction pieces generalizing mode with
  | nil => rfl
  | cons piece rest ih =>
      have restClosed : ∀ piece ∈ rest, piece.Closed :=
        fun piece mem => closed piece (List.mem_cons_of_mem _ mem)
      rw [render, List.flatMap_cons, scan_append]
      cases piece with
      | chars text =>
          obtain ⟨tokens, reached, factor⟩ := scan_factor text mode
          simp only [List.map_cons, Piece.unquoted, scanPieces, Piece.text, factor] at clean ⊢
          exact congrArg (tokens ++ ·) (ih restClosed fun mem => clean (by simp [mem]))
      | int value =>
          cases mode with
          | start =>
              rw [Piece.text, scan_decimal]
              exact ih restClosed clean
          | quoted read =>
              rw [Piece.text, scan_quoted (unquote_of_quoteFree (quoteFree_decimal value))]
              exact ih restClosed clean
          | _ => exact absurd List.mem_cons_self clean
      | str text =>
          obtain ⟨value, known⟩ := Option.isSome_iff_exists.mp
            (closed _ List.mem_cons_self)
          cases mode with
          | quoted read =>
              simp only [List.map_cons, Piece.unquoted, scanPieces, known,
                Option.getD_some] at clean ⊢
              rw [Piece.text, scan_quoted known]
              exact ih restClosed clean
          | _ => exact absurd List.mem_cons_self clean

/-- The lexer reads a template's own tokens, each string argument as one literal. -/
theorem lex_render {pieces : List Piece} (closed : ∀ piece ∈ pieces, piece.Closed)
    (clean : .bad ∉ lexPieces (pieces.map Piece.unquoted)) :
    lex (render pieces) = lexPieces (pieces.map Piece.unquoted) :=
  scan_render closed clean

theorem lex_render_of_free {pieces : List Piece} (free : ∀ piece ∈ pieces, piece.Free)
    (clean : .bad ∉ lexPieces pieces) :
    lex (render pieces) = lexPieces pieces := by
  have same : pieces.map Piece.unquoted = pieces :=
    List.map_congr_left (fun piece mem => (free piece mem).unquoted) |>.trans (List.map_id _)
  have lexed := lex_render (fun piece mem => (free piece mem).closed) (same.symm ▸ clean)
  rwa [same] at lexed

end Sql
