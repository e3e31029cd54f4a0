import Vcd.Sql.Reading

/-!
# Statement templates

The format of a statement as the source has it, with its conversions `%d` and `%s` in place.
Its own tokens are those of the format as a text: a `%s` in quotes is a literal, and a `%d` is
a percent sign and a name. If every conversion stands where its argument is a token of its own,
the formatted text has these tokens with the values of the arguments.
-/

namespace Sql

/-! ## Formats -/

/-- An argument of a formatted print. -/
inductive Arg where
  | int (value : Int)
  | str (text : Str)

/-- What a formatted print makes of its format; `%u` stands for all unsigned conversions. -/
def format : Str → List Arg → Str
  | '%' :: 'd' :: rest, .int value :: args => decimal value ++ format rest args
  | '%' :: 'u' :: rest, .int value :: args => decimal value ++ format rest args
  | '%' :: 's' :: rest, .str text :: args => text ++ format rest args
  | char :: rest, args => char :: format rest args
  | [], _ => []

example : format (cstr "a = '%s' AND b = %d") [.str (cstr "x"), .int (-1)] =
    cstr "a = 'x' AND b = -1" := by
  decide

/-- There is an argument of its kind for each conversion, and no other one. -/
def fits : Str → List Arg → Bool
  | '%' :: 'd' :: rest, .int _ :: args => fits rest args
  | '%' :: 'u' :: rest, .int _ :: args => fits rest args
  | '%' :: 's' :: rest, .str _ :: args => fits rest args
  | char :: rest, args => char != '%' && fits rest args
  | [], args => args.isEmpty

/-- The tokens of a format with the values of its arguments: each `'%s'` is a literal with the
argument as its value, each `%d` an integer, and each `'%u'` a literal with its digits. -/
def instantiate : List Token → List Arg → List Token
  | .sym '%' :: .name ['d'] :: rest, .int value :: args => .int value :: instantiate rest args
  | .str ['%', 'u'] :: rest, .int value :: args => .str (decimal value) :: instantiate rest args
  | .str ['%', 's'] :: rest, .str text :: args => .str text :: instantiate rest args
  | token :: rest, args => token :: instantiate rest args
  | [], _ => []

/-- The text ends, or goes on with a character that is no conversion and in none of some
classes. -/
def endsBefore (joins : CharClass → Bool) : Str → Bool
  | [] => true
  | char :: _ => char != '%' && !joins (.of char)

/-- The characters that can be part of a number. -/
def CharClass.joinsNumber : CharClass → Bool
  | .letter _ | .digit _ => true
  | _ => false

/-- The character that can go on with a literal. -/
def CharClass.joinsLiteral : CharClass → Bool
  | .quote => true
  | _ => false

/-- Read from the mode, every `%d` starts a token, every `%s` and `%u` is a whole literal, and
no argument runs into what follows. -/
def sound : Str → Mode → Bool
  | '%' :: 'd' :: rest, .start => endsBefore CharClass.joinsNumber rest && sound rest .start
  | '%' :: 's' :: '\'' :: rest, .quoted [] =>
      endsBefore CharClass.joinsLiteral rest && sound rest .start
  | '%' :: 'u' :: '\'' :: rest, .quoted [] =>
      endsBefore CharClass.joinsLiteral rest && sound rest .start
  | char :: rest, mode => char != '%' && sound rest (reached char mode (.of char))
  | [], _ => true

/-! ## Tokens of a format -/

/-- The token is not part of a conversion. -/
def Token.Plain : Token → Prop
  | .sym char => char ≠ '%'
  | .str value => '%' ∉ value
  | _ => True

/-- No conversion has been read into a literal. -/
def Mode.Plain : Mode → Prop
  | .quoted value | .quote value => '%' ∉ value
  | _ => True

theorem instantiate_plain {token : Token} (plain : token.Plain) (rest : List Token)
    (args : List Arg) : instantiate (token :: rest) args = token :: instantiate rest args := by
  rw [instantiate]
  · rintro _ _ _ - rfl -
    exact plain rfl
  · rintro _ _ - rfl
    exact plain List.mem_cons_self
  · rintro _ _ - rfl
    exact plain List.mem_cons_self

theorem instantiate_append {tokens : List Token} (plain : ∀ token ∈ tokens, token.Plain)
    (rest : List Token) (args : List Arg) :
    instantiate (tokens ++ rest) args = tokens ++ instantiate rest args := by
  induction tokens with
  | nil => rfl
  | cons token tokens ih =>
      rw [List.cons_append, instantiate_plain (plain token List.mem_cons_self), ih]
      · rfl
      · intro other mem
        exact plain other (List.mem_cons_of_mem _ mem)

theorem instantiate_nil (tokens : List Token) : instantiate tokens [] = tokens := by
  induction tokens with
  | nil => rfl
  | cons token tokens ih =>
      rw [instantiate, ih]
      · exact fun _ _ _ => nofun
      · exact fun _ _ => nofun
      · exact fun _ _ => nofun

theorem plain_ofWord (word : Str) : (Token.ofWord word).Plain := by
  unfold Token.ofWord
  split <;> trivial

theorem plain_ended {mode : Mode} (plain : mode.Plain) (cls : CharClass) :
    ∀ token ∈ ended mode cls, token.Plain := by
  intro token mem
  unfold ended at mem
  split at mem
  case h_3 =>
    obtain rfl := List.mem_singleton.mp mem
    exact plain_ofWord _
  case h_8 =>
    obtain rfl := List.mem_singleton.mp mem
    exact plain
  all_goals first
    | exact absurd mem List.not_mem_nil
    | (obtain rfl := List.mem_singleton.mp mem
       first | trivial | exact fun equal => absurd equal (by decide))

theorem plain_alone {char : Char} (other : char ≠ '%') (mode : Mode) (cls : CharClass) :
    ∀ token ∈ alone char mode cls, token.Plain := by
  intro token mem
  unfold alone at mem
  split at mem
  all_goals first
    | exact absurd mem List.not_mem_nil
    | (obtain rfl := List.mem_singleton.mp mem
       exact other)

theorem plain_reached {char : Char} (other : char ≠ '%') {mode : Mode} (plain : mode.Plain)
    (cls : CharClass) : (reached char mode cls).Plain := by
  have longer {value : Str} (free : '%' ∉ value) : '%' ∉ value ++ [char] := by
    simp [free, other.symm]
  cases mode with
  | quoted value => cases cls <;> first | exact plain | exact longer plain
  | quote value => cases cls <;> first | exact longer plain | trivial
  | _ => cases cls <;> first | trivial | exact List.not_mem_nil

/-! ## Formatted texts -/

variable {rest : Str} {args : List Arg}

theorem format_cons {char : Char} (other : char ≠ '%') (rest : Str) (args : List Arg) :
    format (char :: rest) args = char :: format rest args := by
  rw [format]
  · rintro _ _ _ - equal
    exact absurd equal other
  · rintro _ _ _ - equal
    exact absurd equal other
  · rintro _ _ _ - equal
    exact absurd equal other

/-- The text is empty or begins with a character in none of some classes. -/
def Apart (joins : CharClass → Bool) (text : Str) : Prop :=
  ∀ char ∈ text.head?, joins (.of char) = false

theorem apart_of_endsBefore {joins : CharClass → Bool} (ends : endsBefore joins rest = true) :
    Apart joins rest ∧ ∀ args, Apart joins (format rest args) := by
  cases rest with
  | nil => exact ⟨fun _ => nofun, fun _ _ => nofun⟩
  | cons char rest =>
      obtain ⟨other, free⟩ := Bool.and_eq_true_iff.mp ends
      have head : ∀ first ∈ some char, joins (.of first) = false := by
        intro first mem
        obtain rfl := Option.some.inj mem
        simpa using free
      refine ⟨head, fun args => ?_⟩
      rw [format_cons (bne_iff_ne.mp other)]
      exact head

/-- Text that does not join a number ends it. -/
theorem scan_number (apart : Apart CharClass.joinsNumber rest) (negative : Bool) (value : Int) :
    scan rest (.number negative value) finish = .int value :: scan rest .start finish := by
  cases rest with
  | nil => rfl
  | cons char rest =>
      have apart := apart char rfl
      rw [scan, scan]
      cases known : CharClass.of char <;> rw [known] at apart <;> first | rfl | cases apart

/-- It also ends a word. -/
theorem scan_word (apart : Apart CharClass.joinsNumber rest) (word : Str) :
    scan rest (.word word) finish = .ofWord word :: scan rest .start finish := by
  cases rest with
  | nil => rfl
  | cons char rest =>
      have apart := apart char rfl
      rw [scan, scan]
      cases known : CharClass.of char <;> rw [known] at apart <;> first | rfl | cases apart

/-- Text that begins with no quote ends a literal. -/
theorem scan_literal (apart : Apart CharClass.joinsLiteral rest) (value : Str) :
    scan rest (.quote value) finish = .str value :: scan rest .start finish := by
  cases rest with
  | nil => rfl
  | cons char rest =>
      have apart := apart char rfl
      rw [scan, scan]
      cases known : CharClass.of char <;> rw [known] at apart <;> first | rfl | cases apart

/-- A whole literal around an argument. -/
theorem scan_argument {value : Str} (free : QuoteFree value)
    (apart : Apart CharClass.joinsLiteral rest) :
    scan (value ++ '\'' :: rest) (.quoted []) finish = .str value :: scan rest .start finish := by
  rw [scan_append, scan_quoted (unquote_of_quoteFree free)]
  exact scan_literal apart value

/-- Arguments without quotes do not change how a sound format is read. -/
theorem scan_format {text : Str} {mode : Mode} {args : List Arg} (checked : sound text mode = true)
    (plain : mode.Plain) (matched : fits text args = true)
    (free : ∀ arg, .str arg ∈ args → QuoteFree arg) :
    scan (format text args) mode finish = instantiate (scan text mode finish) args := by
  induction text, mode using sound.induct generalizing args with
  | case1 rest ih =>
      rw [sound, Bool.and_eq_true] at checked
      obtain ⟨apart, formatted⟩ := apart_of_endsBefore checked.1
      match args, matched, free with
      | .int value :: args, matched, free =>
          have later := ih checked.2 trivial matched fun arg mem => free arg (.tail _ mem)
          change scan (decimal value ++ format rest args) .start finish =
            instantiate (.sym '%' :: scan rest (.word ['d']) finish) _
          rw [scan_append, scan_decimal, scan_number (formatted args), later, scan_word apart]
          rfl
  | case2 rest ih =>
      rw [sound, Bool.and_eq_true] at checked
      obtain ⟨apart, formatted⟩ := apart_of_endsBefore checked.1
      match args, matched, free with
      | .str text :: args, matched, free =>
          have later := ih checked.2 trivial matched fun arg mem => free arg (.tail _ mem)
          have own := scan_argument (by decide : QuoteFree ['%', 's']) apart
          change scan (text ++ '\'' :: format rest args) (.quoted []) finish =
            instantiate (scan (['%', 's'] ++ '\'' :: rest) (.quoted []) finish) _
          rw [scan_argument (free text (.head _)) (formatted args), later, own]
          rfl
  | case3 rest ih =>
      rw [sound, Bool.and_eq_true] at checked
      obtain ⟨apart, formatted⟩ := apart_of_endsBefore checked.1
      match args, matched, free with
      | .int value :: args, matched, free =>
          have later := ih checked.2 trivial matched fun arg mem => free arg (.tail _ mem)
          have own := scan_argument (by decide : QuoteFree ['%', 'u']) apart
          change scan (decimal value ++ '\'' :: format rest args) (.quoted []) finish =
            instantiate (scan (['%', 'u'] ++ '\'' :: rest) (.quoted []) finish) _
          rw [scan_argument (quoteFree_decimal value) (formatted args), later, own]
          rfl
  | case4 char rest mode integer literal digits ih =>
      rw [sound, Bool.and_eq_true] at checked
      · have other := bne_iff_ne.mp checked.1
        rw [fits, Bool.and_eq_true] at matched
        · have later := ih checked.2 (plain_reached other plain _) matched.2 free
          rw [format_cons other, scan, scan, step_eq, step_eq, later,
            instantiate_append (plain_ended plain _), instantiate_append (plain_alone other _ _)]
        all_goals
          rintro _ _ _ - equal
          exact absurd equal other
      · exact integer
      · exact literal
      · exact digits
  | case5 mode =>
      obtain rfl := List.isEmpty_iff.mp matched
      exact (instantiate_nil _).symm

/-- A format whose string arguments have no quotes lexes to its own tokens with the values of
the arguments. -/
theorem lex_format {text : Str} {args : List Arg} (checked : sound text .start = true)
    (matched : fits text args = true) (free : ∀ arg, .str arg ∈ args → QuoteFree arg) :
    lex (format text args) = instantiate (lex text) args :=
  scan_format checked trivial matched free

/-! ## Outlines -/

namespace Piece

/-- The piece as it stands in a format. -/
def conversion : Piece → Str
  | .chars text => text
  | .int _ => ['%', 'd']
  | .str _ => ['%', 's']

def arg : Piece → Option Arg
  | .chars _ => none
  | .int value => some (.int value)
  | .str text => some (.str text)

/-- The piece is no text with a percent sign. -/
def percentFree : Piece → Bool
  | .chars text => text.all (· != '%')
  | _ => true

end Piece

/-- The format that some pieces are printed with. -/
def outline (pieces : List Piece) : Str :=
  pieces.flatMap Piece.conversion

theorem format_append {text : Str} (free : text.all (· != '%') = true) (rest : Str)
    (args : List Arg) : format (text ++ rest) args = text ++ format rest args := by
  induction text with
  | nil => rfl
  | cons char text ih =>
      rw [List.all_cons, Bool.and_eq_true] at free
      rw [List.cons_append, format_cons (bne_iff_ne.mp free.1), ih free.2]
      rfl

theorem fits_append {text : Str} (free : text.all (· != '%') = true) (rest : Str)
    (args : List Arg) : fits (text ++ rest) args = fits rest args := by
  induction text with
  | nil => rfl
  | cons char text ih =>
      rw [List.all_cons, Bool.and_eq_true] at free
      rw [List.cons_append, fits, ih free.2, free.1, Bool.true_and]
      all_goals
        rintro _ _ _ - equal
        exact absurd equal (bne_iff_ne.mp free.1)

/-- Pieces are printed with their outline. -/
theorem render_eq_format {pieces : List Piece} (free : pieces.all Piece.percentFree = true) :
    render pieces = format (outline pieces) (pieces.filterMap Piece.arg) ∧
      fits (outline pieces) (pieces.filterMap Piece.arg) = true := by
  induction pieces with
  | nil => exact ⟨rfl, rfl⟩
  | cons piece rest ih =>
      rw [List.all_cons, Bool.and_eq_true] at free
      obtain ⟨text, matched⟩ := ih free.2
      cases piece with
      | chars own =>
          constructor
          · exact (congrArg (own ++ ·) text).trans (format_append free.1 _ _).symm
          · exact (fits_append free.1 _ _).trans matched
      | int value => exact ⟨congrArg (decimal value ++ ·) text, matched⟩
      | str value => exact ⟨congrArg (value ++ ·) text, matched⟩

end Sql
