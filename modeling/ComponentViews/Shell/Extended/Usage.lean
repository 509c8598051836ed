import ComponentViews.Shell.Step

/-! How commands of the extended dialect are to be used, and what they say if they are not. -/

namespace ComponentViews.Shell.Builtin.Extended
open Step

/-- The arguments that commands take. -/
def usages : List (String × String) :=
  [("alias", "[-p] [name[=value] ... ]"), ("bg", "[job_spec ...]"), ("break", "[n]"),
    ("builtin", "[shell-builtin [arg ...]]"), ("caller", "[expr]"), ("cd", "[-L|[-P [-e]] [-@]] [dir]"),
    ("command", "[-pVv] command [arg ...]"), ("continue", "[n]"),
    ("declare", "[-aAfFgiIlnrtux] [name[=value] ...] or declare -p [-aAfFilnrtux] [name ...]"),
    ("dirs", "[-clpv] [+N] [-N]"), ("disown", "[-h] [-ar] [jobspec ... | pid ...]"), ("eval", "[arg ...]"),
    ("enable", "[-a] [-dnps] [-f filename] [name ...]"),
    ("exec", "[-cl] [-a name] [command [argument ...]] [redirection ...]"), ("exit", "[n]"),
    ("export", "[-fn] [name[=value] ...] or export -p"), ("fg", "[job_spec]"), ("getopts", "optstring name [arg ...]"),
    ("hash", "[-lr] [-p pathname] [-dt] [name ...]"), ("help", "[-dms] [pattern ...]"),
    ("jobs", "[-lnprs] [jobspec ...] or jobs -x command [args]"),
    ("kill", "[-s sigspec | -n signum | -sigspec] pid | jobspec ... or kill -l [sigspec]"), ("let", "arg [arg ...]"),
    ("local", "[option] name[=value] ..."), ("logout", "[n]"), ("mapfile", mapping), ("popd", "[-n] [+N | -N]"),
    ("printf", "[-v var] format [arguments]"), ("pushd", "[-n] [+N | -N | dir]"), ("pwd", "[-LP]"),
    ("read", "[-ers] [-a array] [-d delim] [-i text] [-n nchars] [-N nchars] [-p prompt] [-t timeout] [-u fd] [name ...]"),
    ("readarray", mapping), ("readonly", "[-aAf] [name[=value] ...] or readonly -p"), ("return", "[n]"),
    ("set", "[-abefhkmnptuvxBCEHPT] [-o option-name] [--] [-] [arg ...]"), ("shift", "[n]"),
    ("shopt", "[-pqsu] [-o] [optname ...]"), ("source", "filename [arguments]"), ("suspend", "[-f]"),
    (".", "filename [arguments]"), ("trap", "[-lp] [[arg] signal_spec ...]"), ("type", "[-afptP] name [name ...]"),
    ("typeset", "[-aAfFgiIlnrtux] name[=value] ... or typeset -p [-aAfFilnrtux] [name ...]"),
    ("ulimit", "[-SHabcdefiklmnpqrstuvxPRT] [limit]"), ("umask", "[-p] [-S] [mode]"),
    ("unalias", "[-a] name [name ...]"), ("unset", "[-f] [-v] [-n] [name ...]"), ("wait", "[-fn] [-p var] [id ...]")]
where
  mapping : String :=
    "[-d delim] [-n count] [-O origin] [-s count] [-t] [-u fd] [-C callback] [-c quantum] [array]"

/-- The names of the commands. -/
def commandNames : List String :=
  [".", ":", "[", "alias", "bg", "bind", "break", "builtin", "caller", "cd", "command", "compgen", "complete", "compopt",
    "continue", "declare", "dirs", "disown", "echo", "enable", "eval", "exec", "exit", "export", "false", "fc", "fg",
    "getopts", "hash", "help", "history", "jobs", "kill", "let", "local", "logout", "mapfile", "popd", "printf", "pushd",
    "pwd", "read", "readarray", "readonly", "return", "set", "shift", "shopt", "source", "suspend", "test", "times",
    "trap", "true", "type", "typeset", "ulimit", "umask", "unalias", "unset", "wait"]

def isCommand (name : String) : Bool := commandNames.contains name

/-- Complains, and gives up on the command with a status. -/
def fail (status : Nat) (message : Octets) : Step Unit := modify fun state =>
  (state.complain message).withStatus status

/-- Complains about an argument, which fails the command, and goes on. -/
def blame (argument : Octets) (text : String) : Step Unit := fail 1 (argument ++ .ofText (": " ++ text))

/-- Tells how the running command is to be used. -/
def tellUsage : Step Unit := modify fun state =>
  let name := String.ofList (state.process.command.getD [])
  let usage := (usages.lookup name).getD ""
  (state.report (.ofText (name ++ ": usage: " ++ name ++ " " ++ usage ++ "\n"))).withStatus 2

/-- Complains about how a command is used, and tells how it is to be. -/
def misuse (message : String) : Step Unit := do
  modify (·.complain (.ofText message))
  tellUsage

def refuseOption (letter : Char) : Step Unit := do
  modify (·.complain ('-' :: letter :: Octets.ofText ": invalid option"))
  tellUsage

def lackValue (letter : Char) : Step Unit := misuse ("-" ++ letter.toString ++ ": option requires an argument")

def wantNumber (argument : Octets) : Octets := argument ++ .ofText ": numeric argument required"

def badIdentifier (argument : Octets) : Octets := '\x60' :: argument ++ .ofText "': not a valid identifier"

/-- Options in front of the arguments, each with its value where it takes one. -/
structure Given where
  options : List (Char × Octets)
  operands : List Octets

namespace Given

def has (given : Given) (letter : Char) : Bool := given.options.any (·.1 = letter)

def value? (given : Given) (letter : Char) : Option Octets := given.options.reverse.lookup letter

end Given

/-- The options in a group of letters: those known, and what stops the reading. -/
def readLetters (alone valued : List Char) : Octets → List (Char × Octets) × Option (Char × Bool)
  | [] => ([], none)
  | letter :: rest =>
    if alone.contains letter then
      let (found, stop) := readLetters alone valued rest
      ((letter, []) :: found, stop)
    else if valued.contains letter then
      if rest.isEmpty then ([], some (letter, true)) else ([(letter, rest)], none)
    else ([], some (letter, false))

/-- Reads options up to the first argument that is none; nothing if they make no sense, which is
complained about. -/
def readOptions (alone valued : List Char) : List Octets → Step (Option Given)
  | [] => pure (some { options := [], operands := [] })
  | ['-', '-'] :: rest => pure (some { options := [], operands := rest })
  | ('-' :: letter :: letters) :: rest => do
    match readLetters alone valued (letter :: letters), rest with
    | (found, none), rest => do
      match ← readOptions alone valued rest with
      | some given => pure (some { given with options := found ++ given.options })
      | none => pure none
    | (found, some (letter, true)), value :: rest => do
      match ← readOptions alone valued rest with
      | some given => pure (some { given with options := found ++ (letter, value) :: given.options })
      | none => pure none
    | (_, some (letter, true)), [] => do
      lackValue letter
      pure none
    | (_, some (letter, false)), _ => do
      refuseOption letter
      pure none
  | operands => pure (some { options := [], operands })

/-- Reads options and goes on with them, if they make sense. -/
def withGiven (alone valued : List Char) (arguments : List Octets) (body : Given → Step Unit) : Step Unit := do
  match ← readOptions alone valued arguments with
  | some given => body given
  | none => pure ()

end ComponentViews.Shell.Builtin.Extended
