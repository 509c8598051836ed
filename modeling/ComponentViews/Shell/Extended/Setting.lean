import ComponentViews.Shell.Extended.Usage

/-! Settings of the extended dialect: options that have letters, those that have only names, and
the further ones that a command of their own sets. -/

namespace ComponentViews.Shell.Builtin.Extended
open Step

namespace Setting

/-- Options by their names, with the letters of those that have one. -/
def options : List (String × Option Char) :=
  [("allexport", some 'a'), ("braceexpand", some 'B'), ("emacs", none), ("errexit", some 'e'), ("errtrace", some 'E'),
    ("functrace", some 'T'), ("hashall", some 'h'), ("histexpand", some 'H'), ("history", none), ("ignoreeof", none),
    ("interactive-comments", none), ("keyword", some 'k'), ("monitor", some 'm'), ("noclobber", some 'C'),
    ("noexec", some 'n'), ("noglob", some 'f'), ("nolog", none), ("notify", some 'b'), ("nounset", some 'u'),
    ("onecmd", some 't'), ("physical", some 'P'), ("pipefail", none), ("posix", none), ("privileged", some 'p'),
    ("verbose", some 'v'), ("vi", none), ("xtrace", some 'x')]

/-- The letters in the order in which they are listed. -/
def letters : List Char := "abefhkmnptuvxBCEHPTcs".toList

/-- The names of further settings. -/
def further : List String :=
  ["autocd", "assoc_expand_once", "cdable_vars", "cdspell", "checkhash", "checkjobs", "checkwinsize", "cmdhist",
    "compat31", "compat32", "compat40", "compat41", "compat42", "compat43", "compat44", "complete_fullquote",
    "direxpand", "dirspell", "dotglob", "execfail", "expand_aliases", "extdebug", "extglob", "extquote", "failglob",
    "force_fignore", "globasciiranges", "globskipdots", "globstar", "gnu_errfmt", "histappend", "histreedit",
    "histverify", "hostcomplete", "huponexit", "inherit_errexit", "interactive_comments", "lastpipe", "lithist",
    "localvar_inherit", "localvar_unset", "login_shell", "mailwarn", "no_empty_cmd_completion", "nocaseglob",
    "nocasematch", "noexpand_translation", "nullglob", "patsub_replacement", "progcomp", "progcomp_alias",
    "promptvars", "restricted_shell", "shift_verbose", "sourcepath", "varredir_close", "xpg_echo"]

/-- Names of settings that are on at the start. -/
def usual : List String :=
  ["checkwinsize", "cmdhist", "complete_fullquote", "extquote", "force_fignore", "globasciiranges", "globskipdots",
    "hostcomplete", "interactive_comments", "patsub_replacement", "progcomp", "promptvars", "sourcepath",
    "interactive-comments"]

def isOn (state : State) (name : String) : Bool :=
  match options.lookup name with
  | some (some letter) => state.hasOption letter
  | _ => state.hasSwitch name

def optionsVariable : Octets := .ofText "SHELLOPTS"

def furtherVariable : Octets := .ofText "BASHOPTS"

/-- Lets variables tell what is on. -/
def tell (state : State) : State :=
  let join (names : List String) : Octets := .ofText (":".intercalate (names.filter (isOn state)))
  (state.assign optionsVariable (join (options.map Prod.fst))).assign furtherVariable (join further)

def turnLetter (letter : Char) (on : Bool) (state : State) : State :=
  let turned := state.setOption letter on
  tell (turned.adjust fun process => { process with options := letters.filter process.options.contains })

def turnName (name : String) (on : Bool) (state : State) : State :=
  match options.lookup name with
  | some (some letter) => turnLetter letter on state
  | _ =>
    let text : Octets := .ofText name
    tell (state.adjust fun process =>
      let others := process.switches.filter (· ≠ text)
      { process with switches := if on then text :: others else others })

/-- The settings that a script starts with. -/
def initial (state : State) : State :=
  tell (state.adjust fun process => { process with options := ['h', 'B'], switches := usual.map Octets.ofText })

/-- A setting on a line, as a table shows it. -/
def row (name : String) (on : Bool) : Octets :=
  .ofText (name ++ "".pushn ' ' (15 - name.length) ++ "\t" ++ (if on then "on" else "off"))

/-- A setting as the command that makes it. -/
def commandOf (state : State) (name : String) : Octets :=
  .ofText ((if isOn state name then "set -o " else "set +o ") ++ name)

def listOptions (asTable : Bool) (state : State) : State :=
  state.print (Octets.ofLines (options.map fun (name, _) =>
    if asTable then row name (isOn state name) else commandOf state name))

end Setting

open Setting

/-- Sets options by letters, of which `o` takes a name from the arguments; yields those left, unless
something is wrong. -/
def setLetters (on : Bool) : List Char → List Octets → Step (Option (List Octets))
  | [], arguments => pure (some arguments)
  | 'o' :: letters, [] => do
    modify (listOptions on)
    setLetters on letters []
  | 'o' :: letters, name :: arguments => do
    if (options.lookup (String.ofList name)).isSome then
      modify (turnName (String.ofList name) on)
      setLetters on letters arguments
    else
      fail 2 (name ++ .ofText ": invalid option name")
      pure none
  | letter :: letters, arguments => do
    modify (turnLetter letter on)
    setLetters on letters arguments

/-- The first letter among options that means nothing. -/
def unknownOption? : Nat → List Octets → Option (Char × Char)
  | 0, _ => none
  | fuel + 1, (sign :: letter :: letters) :: rest =>
    if (sign = '-' || sign = '+') && (sign :: letter :: letters) ≠ ['-', '-'] then
      let known (letter : Char) : Bool := letter = 'o' || (Setting.letters.take 19).contains letter
      match (letter :: letters).find? fun letter => !known letter with
      | some unknown => some (sign, unknown)
      | none => unknownOption? fuel (rest.drop ((letter :: letters).count 'o'))
    else none
  | _ + 1, _ => none

/-- Sets options, and arguments by what stands behind them. -/
def setUp : Nat → List Octets → Step Unit
  | 0, _ => pure ()
  | _ + 1, [] => setStatus 0
  | _ + 1, ['-', '-'] :: arguments => modify fun state => (state.withArguments arguments).succeed
  | _ + 1, ['-'] :: arguments => modify fun state =>
    let state := turnLetter 'v' false (turnLetter 'x' false state)
    (if arguments.isEmpty then state else state.withArguments arguments).succeed
  | fuel + 1, (sign :: letter :: letters) :: rest => do
    if sign = '-' || sign = '+' then
      match ← setLetters (sign = '-') (letter :: letters) rest with
      | some rest => setUp fuel rest
      | none => pure ()
    else modify fun state => (state.withArguments ((sign :: letter :: letters) :: rest)).succeed
  | _ + 1, arguments => modify fun state => (state.withArguments arguments).succeed

/-- Sets options and arguments. -/
def setOptions (arguments : List Octets) : Step Unit := do
  match unknownOption? (arguments.length + 1) arguments with
  | some (sign, letter) =>
    modify (·.complain (sign :: letter :: Octets.ofText ": invalid option"))
    tellUsage
  | none => setUp (arguments.length + 1) arguments

/-- Sets further settings, or tells which ones are on. -/
def setFurther (arguments : List Octets) : Step Unit := withGiven ['p', 'q', 's', 'u', 'o'] [] arguments fun given => do
  let among := if given.has 'o' then options.map Prod.fst else further
  let kind := if given.has 'o' then ": invalid option name" else ": invalid shell option name"
  if given.has 's' && given.has 'u' then fail 1 (.ofText "cannot set and unset shell options simultaneously")
  else
    setStatus 0
    let shown (state : State) (name : String) : Octets :=
      if !given.has 'p' then row name (isOn state name)
      else if given.has 'o' then commandOf state name
      else .ofText ((if isOn state name then "shopt -s " else "shopt -u ") ++ name)
    if given.operands.isEmpty then
      let state ← get
      let isWanted (name : String) : Bool :=
        if given.has 's' then isOn state name else if given.has 'u' then !isOn state name else true
      if !given.has 'q' then set (state.print (Octets.ofLines ((among.filter isWanted).map (shown state))))
    else
      for operand in given.operands do
        let name := String.ofList operand
        let state ← get
        if !among.contains name then fail 1 (operand ++ .ofText kind)
        else if given.has 's' || given.has 'u' then set (turnName name (given.has 's') state)
        else
          if !given.has 'q' then set (state.print (shown state name ++ ['\n']))
          if !isOn state name then setStatus 1

/-! ### Starting -/

/-- What a shell tells that does not know an option. -/
def startUsage (name : Octets) : Octets :=
  let start : Octets := .ofText "Usage:\t" ++ name
  Octets.ofLines ([start ++ .ofText " [GNU long option] [option] ...",
    ['\t'] ++ name ++ .ofText " [GNU long option] [option] script-file ...", .ofText "GNU long options:"] ++
    startWords.map (fun word => .ofText ("\t--" ++ word)) ++
    [.ofText "Shell options:", .ofText "\t-ilrsD or -c command or -O shopt_option\t\t(invocation only)",
      .ofText "\t-abefhkmnptuvxBCEHPT or -o option"])
where
  startWords : List String :=
    ["debug", "debugger", "dump-po-strings", "dump-strings", "help", "init-file", "login", "noediting", "noprofile",
      "norc", "posix", "pretty-print", "rcfile", "restricted", "verbose", "version"]

/-- Words that may stand as options when a shell starts, and how many words each takes with it. -/
def startOptions : List (String × Nat) :=
  [("--debug", 0), ("--debugger", 0), ("--init-file", 1), ("--login", 0), ("--noediting", 0), ("--noprofile", 0),
    ("--norc", 0), ("--posix", 0), ("--rcfile", 1), ("--restricted", 0), ("--verbose", 0)]

end ComponentViews.Shell.Builtin.Extended
