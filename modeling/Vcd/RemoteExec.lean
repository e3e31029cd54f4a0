import Vcd.Endings
import Vcd.ConfigFrame

/-!
# Arguments of remote commands

`vcc exec` joins the arguments of a command with blanks, and `exec_replace` prints the text
as a format and splits it again. The arguments arrive as they were given exactly if none of
them means anything to the print or to the split.
-/

namespace Vcd

open Sql Process

variable {setup : Setup} {credentials params : Xml} {name command text : Str} {args : List Str}
  {empties : Bool} {world : World}

/-! ## The client -/

/-- `strtok_tostr` on a list of arguments. -/
def strtokTostr (args : List Str) : Str :=
  [' '].intercalate args

/-- The parameters of the call of `vcc exec`, whose first argument is the name; without a
command it prints its usage. -/
def cmdExec : List Str → Option Xml
  | name :: first :: rest => some (.struct [(cstr "name", .str name),
      (cstr "command", .str (strtokTostr (first :: rest)))])
  | _ => none

/-! ## The library -/

/-- A print of a text without arguments. What comes of a conversion and the text after it
depends on what is found in place of its argument. -/
def printFormat (stray : Str → Str) : Str → Str
  | '%' :: '%' :: rest => '%' :: printFormat stray rest
  | '%' :: rest => stray ('%' :: rest)
  | char :: rest => char :: printFormat stray rest
  | [] => []

/-- The words between the blanks, with or without the empty ones. -/
def splitBlanks (empties : Bool) (text : Str) : List Str :=
  (text.splitOn ' ').filter fun word => empties || !word.isEmpty

/-- The arguments of the program that `exec_replace` executes. -/
def execReplace (stray : Str → Str) (empties : Bool) (command : Str) : List Str :=
  splitBlanks empties (printFormat stray command)

/-! ## Formats -/

theorem printFormat_plain (stray : Str → Str) (plain : '%' ∉ text) :
    printFormat stray text = text := by
  induction text with
  | nil => rfl
  | cons char rest ih =>
      have other : char ≠ '%' := fun same => plain (same ▸ List.mem_cons_self)
      have rest := ih fun mem => plain (List.mem_cons_of_mem _ mem)
      rw [printFormat, rest]
      · exact fun _ same => absurd same other
      · exact fun same => absurd same other

/-- A character is not a blank. -/
def visible (char : Char) : Bool :=
  char != ' '

/-- If nothing is found for a conversion, a print never adds a visible character. -/
theorem count_printFormat_le (text : Str) :
    (printFormat (fun _ => []) text).countP visible ≤ text.countP visible := by
  fun_induction printFormat (fun _ => ([] : Str)) text with
  | case1 rest ih => simp only [List.countP_cons]; omega
  | case2 rest => simp
  | case3 char rest => simp only [List.countP_cons]; omega
  | case4 => simp

/-- A print loses a percent sign. -/
theorem count_printFormat_lt (text : Str) (mem : '%' ∈ text) :
    (printFormat (fun _ => []) text).countP visible < text.countP visible := by
  have sign : visible '%' = true := by decide
  fun_induction printFormat (fun _ => ([] : Str)) text with
  | case1 rest ih =>
      have less := count_printFormat_le rest
      rw [List.countP_cons_of_pos sign, List.countP_cons_of_pos sign, List.countP_cons_of_pos sign]
      omega
  | case2 rest => simp [sign]
  | case3 char rest other more ih =>
      have later := ih (List.mem_of_ne_of_mem (fun same => more same.symm) mem)
      simp only [List.countP_cons]
      omega
  | case4 => cases mem

/-! ## Words -/

theorem flatten_splitOn (text : Str) :
    (text.splitOn ' ').flatten = text.filter visible := by
  induction text with
  | nil => rfl
  | cons char rest ih =>
      rw [List.splitOn_cons_eq_if_modifyHead]
      split
      next blank =>
        rw [beq_iff_eq] at blank
        subst blank
        exact ih
      next other =>
        have seen : visible char = true := by simpa [visible] using other
        rw [List.filter_cons_of_pos seen, ← ih]
        cases words : rest.splitOn ' ' with
        | nil => exact absurd words (List.splitOn_ne_nil _ _)
        | cons word words => rfl

theorem flatten_splitBlanks (empties : Bool) (text : Str) :
    (splitBlanks empties text).flatten = text.filter visible := by
  rw [← flatten_splitOn, splitBlanks]
  induction text.splitOn ' ' with
  | nil => rfl
  | cons word words ih =>
      rw [List.filter_cons]
      split
      · exact congrArg (word ++ ·) ih
      next dropped =>
        rw [ih, List.flatten_cons]
        simp only [Bool.or_eq_true, Bool.not_eq_true', not_or, Bool.not_eq_false,
          List.isEmpty_iff] at dropped
        rw [dropped.2, List.nil_append]

/-- Words are not empty, if the empty ones are left out, and have no blanks. -/
theorem word_of_mem {word : Str} (mem : word ∈ splitBlanks empties text) :
    ' ' ∉ word ∧ (word = [] → empties = true) := by
  obtain ⟨split, kept⟩ := List.mem_filter.mp mem
  constructor
  · intro blank
    have inside : ' ' ∈ (text.splitOn ' ').flatten := List.mem_flatten.mpr ⟨word, split, blank⟩
    rw [flatten_splitOn, List.mem_filter] at inside
    exact absurd inside.2 (by decide)
  · rintro rfl
    simpa using kept

theorem splitBlanks_strtokTostr (nonempty : args ≠ [])
    (words : ∀ arg ∈ args, ' ' ∉ arg ∧ (arg = [] → empties = true)) :
    splitBlanks empties (strtokTostr args) = args := by
  unfold splitBlanks strtokTostr
  rw [List.splitOn_intercalate ' ' (fun arg mem => (words arg mem).1) nonempty,
    List.filter_eq_self]
  intro arg mem
  cases arg with
  | nil => simp [(words [] mem).2 rfl]
  | cons char rest => simp

theorem mem_strtokTostr {char : Char} (other : char ≠ ' ') :
    char ∈ strtokTostr args ↔ ∃ arg ∈ args, char ∈ arg := by
  unfold strtokTostr
  induction args with
  | nil => simp
  | cons first rest ih =>
      cases rest with
      | nil => simp
      | cons second rest =>
          rw [List.intercalate_cons_cons]
          simp [ih, other]

/-- An argument means nothing to the print and to the split. -/
def Verbatim (empties : Bool) (arg : Str) : Prop :=
  ' ' ∉ arg ∧ '%' ∉ arg ∧ (arg = [] → empties = true)

/-- The arguments of the joined command are the given ones exactly if they are plain. -/
theorem execReplace_strtokTostr_iff (nonempty : args ≠ []) :
    (∀ stray, execReplace stray empties (strtokTostr args) = args) ↔
      ∀ arg ∈ args, Verbatim empties arg := by
  constructor
  · intro same
    have words : ∀ arg ∈ args, ' ' ∉ arg ∧ (arg = [] → empties = true) := by
      intro arg mem
      rw [← same fun _ => []] at mem
      exact word_of_mem mem
    intro arg mem
    refine ⟨(words arg mem).1, fun sign => ?_, (words arg mem).2⟩
    have joined : '%' ∈ strtokTostr args := (mem_strtokTostr (by decide)).mpr ⟨arg, mem, sign⟩
    -- printing loses the sign, and splitting neither adds nor loses a visible character
    have less := count_printFormat_lt _ joined
    have before := flatten_splitBlanks empties (strtokTostr args)
    have after := flatten_splitBlanks empties (printFormat (fun _ => []) (strtokTostr args))
    rw [splitBlanks_strtokTostr nonempty words] at before
    rw [show splitBlanks empties _ = args from same fun _ => [], before] at after
    rw [List.countP_eq_length_filter, List.countP_eq_length_filter, after] at less
    exact absurd less (Nat.lt_irrefl _)
  · intro plain stray
    have signs : '%' ∉ strtokTostr args := fun mem => by
      obtain ⟨arg, arg_mem, sign⟩ := (mem_strtokTostr (by decide)).mp mem
      exact (plain arg arg_mem).2.1 sign
    rw [execReplace, printFormat_plain stray signs]
    exact splitBlanks_strtokTostr nonempty fun arg mem => ⟨(plain arg mem).1, (plain arg mem).2.2⟩

/-! ## The daemon -/

/-- The only program that is executed is this command. -/
def ExecsOnly (command : Str) (op : Op) : Prop :=
  ∀ other, op = .sys (.execReplace other) → other = command

theorem Access.execsOnly {op : Op} (access : Access op) : ExecsOnly command op := by
  rintro other rfl
  exact access.elim

/-- The program and its children execute only this command. -/
def Executing (command : Str) (program : Method α) : Prop :=
  program.Within (I := daemon) (ExecsOnly command) (ExecsOnly command)

theorem executing_of_access {program : Method α}
    (access : program.Within (I := daemon) Access (ExecsOnly command)) :
    Executing command program :=
  Program.Within.mono access fun _ => Access.execsOnly

theorem executing_vxExecChild (xid : Int) : Executing command (vxExecChild xid command) := by
  refine within_sys nofun fun migrated => ?_
  split
  · exact within_sys (fun other same => by cases same; rfl) fun _ => trivial
  · trivial

/-- `vx.exec` executes the command it is given. -/
theorem executing_mVxExec (host : Host) (commandEq : params.getStr (cstr "command") = .ok command) :
    Executing command (mVxExec host (.client credentials params)) := by
  obtain ⟨entry, access, equal⟩ := @methodInit_client (ExecsOnly command) host credentials params
    capExec { owner := true }
  unfold mVxExec
  rw [equal]
  refine (executing_of_access access).bind fun _ => ?_
  refine (within_ofExcept _).bind fun name => ?_
  rw [commandEq]
  change Executing command (vxdbGetxid name >>= _)
  refine (executing_of_access (lookup_vxdbGetxid name).access).bind fun xid => ?_
  refine within_check fun _ => (within_requireRunning _ nofun).bind fun _ => ?_
  refine (executing_of_access (lookup_vxdbGetvdir host name).access).bind fun vdir => ?_
  refine within_call nofun <| within_call nofun <| within_call nofun <| ?_
  refine within_call nofun <| within_call nofun <| within_call nofun <| ?_
  refine within_spawn (executing_vxExecChild xid) <| within_sys nofun fun output => ?_
  refine within_check fun _ => within_sys nofun fun status => ?_
  exact within_check fun _ => within_check fun _ => trivial

/-- Whatever program a request of `vcc exec` executes, its arguments are the given ones exactly
if each of them is plain. -/
theorem remote_exec_iff {request : Request} (called : cmdExec (name :: args) = some request.params)
    (method : request.method = cstr "vx.exec") {self : Nat} {state : World}
    (executed : (state, Op.sys (.execReplace command)) ∈
      ((handle setup request).run machine self world).trace) :
    (∀ stray, execReplace stray empties command = args) ↔ ∀ arg ∈ args, Verbatim empties arg := by
  cases args with
  | nil => cases called
  | cons first rest =>
      have commandEq : request.params.getStr (cstr "command") =
          .ok (strtokTostr (first :: rest)) := by
        rw [← Option.some.inj called]
        rfl
      have handler : handle setup request =
          mVxExec setup.host (.client request.credentials request.params) := by
        rw [handle, method]
        rfl
      rw [handler] at executed
      have execs := @Program.Within.run_trace daemon Fault Xml machine self _ _ _
        (executing_mVxExec setup.host commandEq) world _ executed
      have only : ExecsOnly (strtokTostr (first :: rest)) (.sys (.execReplace command)) :=
        or_self_iff.mp execs
      obtain rfl := only command rfl
      exact execReplace_strtokTostr_iff (List.cons_ne_nil first rest)

/-- A command of the administrator for a virtual server. -/
def execRequest (args : List Str) : Request where
  method := cstr "vx.exec"
  credentials := adminCredentials
  params := (cmdExec (cstr "web" :: args)).getD .nil

def echoArgs (arg : Str) : List Str :=
  [cstr "/bin/echo", arg]

/-- The commands a request executes. -/
def executedCommands (request : Request) : List Str :=
  ((handle plainSetup request).run machine 0 (World.boot oneServer runningKernel)).trace.filterMap
    fun step => match step.2 with
    | .sys (.execReplace command) => some command
    | _ => none

theorem executed_of_mem {request : Request} (mem : command ∈ executedCommands request) :
    ∃ state, (state, Op.sys (.execReplace command)) ∈
      ((handle plainSetup request).run machine 0 (World.boot oneServer runningKernel)).trace := by
  obtain ⟨⟨state, op⟩, mem, known⟩ := List.mem_filterMap.mp mem
  refine ⟨state, ?_⟩
  split at known
  next other performed =>
    cases known
    rwa [← show op = _ from performed]
  next => cases known

theorem remote_exec_echo : (∀ stray, execReplace stray false (cstr "/bin/echo hello") =
      echoArgs (cstr "hello")) ↔ ∀ arg ∈ echoArgs (cstr "hello"), Verbatim false arg := by
  obtain ⟨state, executed⟩ := @executed_of_mem (cstr "/bin/echo hello")
    (execRequest (echoArgs (cstr "hello"))) (by decide +kernel)
  exact remote_exec_iff (by rfl) (by rfl) executed

/-- Percent signs, blanks and empty arguments do not survive. -/
theorem remote_exec_mangled : ¬ ∀ (setup : Setup) (request : Request) (name : Str)
    (args : List Str) (world state : World) (command : Str) (stray : Str → Str) (empties : Bool),
      cmdExec (name :: args) = some request.params → request.method = cstr "vx.exec" →
      (state, Op.sys (.execReplace command)) ∈ ((handle setup request).run machine 0 world).trace →
      execReplace stray empties command = args := by
  intro faithful
  obtain ⟨state, executed⟩ := @executed_of_mem (cstr "/bin/echo 100%%")
    (execRequest (echoArgs (cstr "100%%"))) (by decide +kernel)
  exact absurd (faithful plainSetup _ (cstr "web") (echoArgs (cstr "100%%")) _ state _ id true (by rfl)
    (by rfl) executed) (by decide)

end Vcd
