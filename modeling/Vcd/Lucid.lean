import Vcd.Sql.Lexical

/-!
# String functions of the lucid library

The functions of the lucid library the daemon uses on strings, by their documented
behaviour. A character of a string stands for one byte.
-/

namespace Vcd

open Sql

/-- A null pointer or a string of white space only. -/
def strIsempty (text : Str) : Bool :=
  text.all fun char => char = ' ' || ('\t' ≤ char && char ≤ '\r')

def charIsalpha (char : Char) : Bool :=
  ('a' ≤ char && char ≤ 'z') || ('A' ≤ char && char ≤ 'Z')

def charIsdigit (char : Char) : Bool :=
  '0' ≤ char && char ≤ '9'

def strIsalnum (text : Str) : Bool :=
  text.all fun char => charIsalpha char || charIsdigit char

def strIsdigit (text : Str) : Bool :=
  text.all charIsdigit

/-- Printable characters other than the blank. -/
def strIsgraph (text : Str) : Bool :=
  text.all fun char => '!' ≤ char && char ≤ '~'

def strIsascii (text : Str) : Bool :=
  text.all fun char => char.toNat < 128

def strPathIsabs (path : Str) : Bool :=
  path.head? = some '/'

def strPathConcat (dirname basename : Str) : Str :=
  dirname ++ '/' :: basename

/-- What `sscanf` reads with an unsigned conversion: the digits at the start. -/
def scanDigits (text : Str) : Nat :=
  (text.takeWhile charIsdigit).foldl (fun value char => value * 10 + (char.toNat - 48)) 0

/-- What `sscanf` reads with a signed conversion. -/
def scanInt : Str → Int
  | '-' :: rest => -(scanDigits rest : Int)
  | '+' :: rest => scanDigits rest
  | text => scanDigits text

/-- The value of a signed 32-bit variable. -/
def int32 (value : Int) : Int :=
  value.bmod (2 ^ 32)

/-- The value of an unsigned 32-bit variable. -/
def uint32 (value : Int) : Int :=
  value % 2 ^ 32

/-- The value of an unsigned 64-bit variable. -/
def uint64 (value : Int) : Int :=
  value % 2 ^ 64

theorem int32_of_small {value : Int} (nonneg : 0 ≤ value) (small : value < 2 ^ 31) :
    int32 value = value :=
  Int.bmod_eq_of_le (by omega) (by omega)

theorem uint32_of_small {value : Int} (nonneg : 0 ≤ value) (small : value < 2 ^ 32) :
    uint32 value = value :=
  Int.emod_eq_of_lt nonneg small

theorem quoteFree_of_all {text : Str} {accepts : Char → Bool}
    (all : text.all accepts = true) (rejects : accepts '\'' = false) : QuoteFree text := by
  intro mem
  have := List.all_eq_true.mp all _ mem
  simp [rejects] at this

theorem quoteFree_of_isalnum {text : Str} (alnum : strIsalnum text = true) : QuoteFree text :=
  quoteFree_of_all alnum (by decide)

end Vcd
