import ComponentViews.Shell.Regex
import ComponentViews.Shell.Utility.Options

/-! Lines with numbers in front. Pages have a head, a body and a foot, each of which has its
own way of numbering and begins behind a line of marks. -/

namespace ComponentViews.Shell.Utility

namespace Numbering

/-- Which lines get a number. -/
inductive Style where
  | all
  | written
  | none
  | fitting (regex : Regex)

/-- How lines are numbered. -/
structure Plan where
  /-- The styles of heads, bodies and feet. -/
  styles : Style × Style × Style
  marks : Octets
  first : Int
  step : Int
  /-- How many empty lines in a row count as one. -/
  blanks : Nat
  restarts : Bool
  separator : Octets
  width : Nat
  layout : String

inductive Fault where
  | style (part : String) (value : Octets)
  | regex
  | number (kind : String) (value : Octets) (small : Bool)
  | layout (value : Octets)

def Fault.tell (state : State) : Fault → State
  | .style part value => hinted "nl" (.ofText ("invalid " ++ part ++ " numbering style: ") ++ quoted value) state
  | .regex => fault "nl" (.ofText "Invalid regular expression") state
  | .number kind value small =>
    fault "nl" (.ofText ("invalid " ++ kind ++ ": ") ++ quoted value ++
      (if small then Octets.ofText ": Numerical result out of range" else [])) state
  | .layout value => hinted "nl" (.ofText "invalid line numbering format: " ++ quoted value) state

def usage : Usage where
  alone := ['p']
  valued := ['b', 'd', 'f', 'h', 'i', 'l', 'n', 's', 'v', 'w']
  words := [("body-numbering", 'b'), ("section-delimiter", 'd'), ("footer-numbering", 'f'), ("header-numbering", 'h'),
    ("line-increment", 'i'), ("join-blank-lines", 'l'), ("number-format", 'n'), ("no-renumber", 'p'),
    ("number-separator", 's'), ("starting-line-number", 'v'), ("number-width", 'w')]
  anywhere := true

def readStyle (part : String) (value : Octets) : Except Fault Style :=
  match value with
  | ['a'] => .ok .all
  | ['t'] => .ok .written
  | ['n'] => .ok .none
  | 'p' :: source =>
    match Regex.parse .basic source with
    | .ok (regex, _) => .ok (.fitting regex)
    | .error _ => .error .regex
  | value => .error (.style part value)

/-- The plan that options ask for. -/
def plan (options : Options) : Except Fault Plan := do
  let style (letter : Char) (part : String) (usual : Style) : Except Fault Style :=
    match options.value? letter with
    | some value => readStyle part value
    | none => .ok usual
  let natural (letter : Char) (kind : String) (usual : Nat) : Except Fault Nat :=
    match options.value? letter with
    | none => .ok usual
    | some value =>
      match Format.natural? value with
      | some 0 => .error (.number kind value true)
      | some number => .ok number
      | none => .error (.number kind value false)
  let whole (letter : Char) (kind : String) : Except Fault Int :=
    match options.value? letter with
    | none => .ok 1
    | some value =>
      match Format.integer? value with
      | some number => .ok number
      | none => .error (.number kind value false)
  let layout : Octets := (options.value? 'n').getD (.ofText "rn")
  let marks : Octets := (options.value? 'd').getD (.ofText "\\:")
  let head ← style 'h' "header" .none
  let body ← style 'b' "body" .written
  let foot ← style 'f' "footer" .none
  let first ← whole 'v' "starting line number"
  let step ← whole 'i' "line number increment"
  let blanks ← natural 'l' "line number of blank lines" 1
  let width ← natural 'w' "line number field width" 6
  if !([Octets.ofText "ln", Octets.ofText "rn", Octets.ofText "rz"].contains layout) then .error (.layout layout)
  pure {
    styles := (head, body, foot), marks := if marks.length = 1 then marks ++ [':'] else marks, first, step, blanks
    restarts := !options.has 'p', separator := (options.value? 's').getD ['\t'], width
    layout := String.ofList layout }

namespace Plan

/-- A number with what separates it from its line. -/
def number (plan : Plan) (value : Int) : Octets :=
  let digits := Expression.digits value
  let missing := plan.width - digits.length
  let field := match plan.layout with
    | "ln" => digits ++ List.replicate missing ' '
    | "rz" =>
      let sign := digits.takeWhile (· = '-')
      sign ++ List.replicate missing '0' ++ digits.drop sign.length
    | _ => List.replicate missing ' ' ++ digits
  field ++ plan.separator

/-- The style behind a line of marks. -/
def section? (plan : Plan) (line : Octets) : Option Style :=
  let marks := plan.marks
  if marks.length < 2 then none
  else if line = marks ++ marks ++ marks then some plan.styles.1
  else if line = marks ++ marks then some plan.styles.2.1
  else if line = marks then some plan.styles.2.2
  else none

/-- Lines from one on, with the style, the number and the count of empty lines there. -/
def rows (plan : Plan) (style : Style) (next : Int) (empty : Nat) : List Octets → List Octets
  | [] => []
  | line :: rest =>
    match plan.section? line with
    | some style => [] :: plan.rows style (if plan.restarts then plan.first else next) empty rest
    | none =>
      let counts := match style with
        | .all => line ≠ [] || empty + 1 = plan.blanks
        | .written => line ≠ []
        | .none => false
        | .fitting regex => regex.isIn line
      let blank := List.replicate (plan.width + plan.separator.length) ' '
      if counts then (plan.number next ++ line) :: plan.rows style (next + plan.step) 0 rest
      else (blank ++ line) :: plan.rows style next (empty + 1) rest

end Plan
end Numbering

open Utility.Numbering in
/-- Prints lines with numbers in front. -/
def number (arguments : List Octets) (state : State) : State :=
  withOptions "nl" usage 1 arguments state fun options state =>
    match plan options with
    | .error problem => problem.tell state
    | .ok plan =>
      let (content, state) := gather "nl" options.operands state
      state.print (Octets.ofLines (plan.rows plan.styles.2.1 plan.first 0 content.lines))

end ComponentViews.Shell.Utility
