import ComponentViews.Shell.Utility.DateText
import ComponentViews.Shell.Utility.Sorting

/-! The utility that prints the time, or a time that it is given. -/

namespace ComponentViews.Shell.Utility

def dateUsage : Usage where
  alone := ['u', 'I', 'R', 'α']
  valued := ['d', 'f', 'r', 's', 'ρ']
  words := [("date", 'd'), ("debug", 'α'), ("file", 'f'), ("iso-8601", 'I'), ("reference", 'r'), ("resolution", 'α'),
    ("rfc-3339", 'ρ'), ("rfc-email", 'R'), ("rfc-822", 'R'), ("rfc-2822", 'R'), ("set", 's'), ("universal", 'u'),
    ("uct", 'u'), ("utc", 'u')]
  anywhere := true
  optional := ['I']

/-- How exactly a standard's format tells the time. -/
def timeSpecs : List (String × String × String) :=
  [("date", "%Y-%m-%d", "%Y-%m-%d"), ("hours", "%Y-%m-%dT%H%:z", ""), ("minutes", "%Y-%m-%dT%H:%M%:z", ""),
    ("seconds", "%Y-%m-%dT%H:%M:%S%:z", "%Y-%m-%d %H:%M:%S%:z"),
    ("ns", "%Y-%m-%dT%H:%M:%S,%N%:z", "%Y-%m-%d %H:%M:%S.%N%:z")]

/-- The formats of a standard, by names of which a start is enough. -/
def timeFormat? (name : Octets) : Option (String × String) :=
  if name = [] then none else (timeSpecs.find? fun entry => name.isPrefixOf entry.1.toList).map Prod.snd

/-- Letters with the option that takes the rest of the word behind them as its value, if any is there. -/
def splitTimeSpec (arguments : List Octets) : List Octets :=
  arguments.map fun argument =>
    match argument with
    | '-' :: 'I' :: spec => if spec = [] then argument else Octets.ofText "--iso-8601=" ++ spec
    | argument => argument

/-- What keeps a date from being printed. -/
inductive DateFault where
  | severalFormats
  /-- A standard has no format of that name. -/
  | noFormat (option : String) (value : Octets)

/-- How a date is to be printed. -/
def dateFormat (options : Options) (operands : List Octets) : Except DateFault Octets :=
  let asked := match operands with
    | ('+' :: format) :: _ => some format
    | _ => none
  match options.value? 'I', options.value? 'ρ', options.has 'R', asked with
  | some [], none, false, none => .ok (.ofText "%Y-%m-%d")
  | some name, none, false, none =>
    match timeFormat? name with
    | some (format, _) => .ok (.ofText format)
    | none => .error (.noFormat "--iso-8601" name)
  | none, some name, false, none =>
    match timeFormat? name with
    | some (_, "") => .error (.noFormat "--rfc-3339" name)
    | some (_, format) => .ok (.ofText format)
    | none => .error (.noFormat "--rfc-3339" name)
  | none, none, true, none => .ok (.ofText "%a, %d %b %Y %H:%M:%S %z")
  | none, none, false, some format => .ok format
  | none, none, false, none => .ok (.ofText "%a %b %e %H:%M:%S %Z %Y")
  | _, _, _, _ => .error .severalFormats

/-- Complains about a date that cannot be printed. -/
def DateFault.tell (state : State) : DateFault → State
  | .severalFormats => fault "date" (.ofText "multiple output formats specified") state
  | .noFormat "--rfc-3339" value => invalidArgument "date" "--rfc-3339" value [["date"], ["seconds"], ["ns"]] state
  | .noFormat option value =>
    invalidArgument "date" option value [["hours"], ["minutes"], ["date"], ["seconds"], ["ns"]] state

/-- The zone that a process is in. -/
def zoneOf (options : Options) (state : State) : Zone :=
  if options.has 'u' then .universal else ((state.value? (.ofText "TZ")).map Zone.ofText).getD .universal

/-- Prints the date that each text means. -/
def printDates (zone : Zone) (format : Octets) (texts : List Octets) (state : State) : State :=
  let now := Moment.ofClock state.world.clock
  texts.foldl (fun state text =>
    match DateText.read? now zone text with
    | some moment => state.print (moment.print zone format ++ ['\n'])
    | none => fault "date" (.ofText "invalid date " ++ quoted text) state) state

def date (arguments : List Octets) (state : State) : State :=
  withOptions "date" dateUsage 1 (splitTimeSpec arguments) state fun options state =>
    let zone := zoneOf options state
    let sources := options.found.filter fun option => option.1 ∈ ['d', 'f', 'r']
    match dateFormat options options.operands with
    | .error problem => problem.tell state
    | .ok format =>
      match options.operands with
      | _ :: extra :: _ => hinted "date" (.ofText "extra operand " ++ quoted extra) state
      | [('+' :: _)] => shown zone format sources state
      | [] => shown zone format sources state
      | [operand] =>
        if sources = [] then
          fault "date" (.ofText "invalid date " ++ quoted operand) state
        else
          hinted "date" (.ofText "the argument " ++ quoted operand ++ .ofText
            (" lacks a leading '+';\nwhen using an option to specify date(s), any non-option\n" ++
              "argument must be a format string beginning with '+'")) state
where
  /-- Prints what the options ask for. -/
  shown (zone : Zone) (format : Octets) (sources : List (Char × Octets)) (state : State) : State :=
    let now := Moment.ofClock state.world.clock
    match sources with
    | [] => state.print (now.print zone format ++ ['\n'])
    | [('d', text)] => printDates zone format [text] state
    | [('r', path)] =>
      match state.changed? path with
      | some clock => state.print ((Moment.ofClock clock).print zone format ++ ['\n'])
      | none => faultOf "date" path Trouble.missing.message state
    | [(_, path)] =>
      match contentOf path state with
      | .ok (content, state) => printDates zone format (Octets.lines content) state
      | .error trouble => faultOf "date" path trouble.message state
    | _ => hinted "date" (.ofText "the options to specify dates for printing are mutually exclusive") state

end ComponentViews.Shell.Utility
