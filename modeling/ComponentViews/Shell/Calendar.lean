import ComponentViews.Shell.Real

/-! The calendar: days and the dates they are, and dates printed by formats. -/

namespace ComponentViews.Shell

/-- A time in whole seconds since the start of 1970, and the parts of the second behind. -/
structure Moment where
  seconds : Int
  nanoseconds : Nat
  deriving DecidableEq, Repr

/-- The moment at which the clock starts. -/
def Moment.start : Int := 1795000000

/-- The moment that a clock shows which counts millionths of a second. -/
def Moment.ofClock (clock : Int) : Moment :=
  { seconds := Moment.start + clock.fdiv 1000000, nanoseconds := (clock.fmod 1000000).toNat * 1000 }

/-- What the clock shows at a moment. -/
def Moment.clock (moment : Moment) : Int := (moment.seconds - Moment.start) * 1000000 + moment.nanoseconds / 1000

/-- A date with a time of the day. Months and days count from one. -/
structure Date where
  year : Int
  month : Int
  day : Int
  hour : Int
  minute : Int
  second : Int
  deriving DecidableEq, Repr

namespace Date

def secondsPerDay : Int := 86400

/-- The day on which a year begins that has its start in March, which puts leap days last. -/
def startOfYear (year : Int) : Int := 365 * year + year.fdiv 4 - year.fdiv 100 + year.fdiv 400

/-- How many days a date is behind the first one of 1970. Months may be out of range. -/
def dayNumber (year month day : Int) : Int :=
  let months := year * 12 + month - 3
  startOfYear (months.fdiv 12) + (153 * months.fmod 12 + 2) / 5 + day - 1 - 719468

def toSeconds (date : Date) : Int :=
  dayNumber date.year date.month date.day * secondsPerDay + date.hour * 3600 + date.minute * 60 + date.second

/-- The year, month and day of a day's number. -/
def ofDay (number : Int) : Int × Int × Int :=
  let days := number + 719468
  let era := days.fdiv 146097
  let inEra := days.fmod 146097
  let yearOfEra := (inEra - inEra / 1460 + inEra / 36524 - inEra / 146096) / 365
  let inYear := inEra - (365 * yearOfEra + yearOfEra / 4 - yearOfEra / 100)
  let month := (5 * inYear + 2) / 153
  let day := inYear - (153 * month + 2) / 5 + 1
  let year := yearOfEra + era * 400
  if month < 10 then (year, month + 3, day) else (year + 1, month - 9, day)

def ofSeconds (seconds : Int) : Date :=
  let (year, month, day) := ofDay (seconds.fdiv secondsPerDay)
  let rest := seconds.fmod secondsPerDay
  { year, month, day, hour := rest / 3600, minute := rest / 60 % 60, second := rest % 60 }

/-- The day of the week; Sunday is the first one. -/
def weekday (date : Date) : Int := (dayNumber date.year date.month date.day + 4).fmod 7

/-- How many days of the year have passed. -/
def dayOfYear (date : Date) : Int := dayNumber date.year date.month date.day - dayNumber date.year 1 1

/-- The year and the number of a week; weeks begin on Monday and belong to the year of their Thursday. -/
def week (date : Date) : Int × Int :=
  let thursday := dayNumber date.year date.month date.day - (date.weekday + 6).fmod 7 + 3
  let year := (ofDay thursday).1
  (year, (thursday - dayNumber year 1 1) / 7 + 1)

def monthNames : List String :=
  ["January", "February", "March", "April", "May", "June", "July", "August", "September", "October", "November",
    "December"]

def weekdayNames : List String :=
  ["Sunday", "Monday", "Tuesday", "Wednesday", "Thursday", "Friday", "Saturday"]

def monthName (date : Date) : String := monthNames.getD (date.month - 1).toNat ""

def weekdayName (date : Date) : String := weekdayNames.getD date.weekday.toNat ""

end Date

/-- A zone: its name, and by how many seconds it is ahead. -/
structure Zone where
  name : String
  offset : Int
  deriving DecidableEq, Repr

namespace Zone

def universal : Zone := { name := "UTC", offset := 0 }

/-- The difference in hours and minutes behind a sign, with colons between so many parts. -/
def image (colons : Nat) (zone : Zone) : Octets :=
  let seconds := zone.offset.natAbs
  let two (value : Nat) : Octets := Numeral.digitsOf 2 value
  let sign := if zone.offset < 0 then '-' else '+'
  let (hours, minutes, rest) := (two (seconds / 3600), two (seconds / 60 % 60), two (seconds % 60))
  match colons with
  | 0 => sign :: hours ++ minutes
  | 1 => sign :: hours ++ ':' :: minutes
  | 2 => sign :: hours ++ ':' :: minutes ++ ':' :: rest
  | _ =>
    if seconds % 3600 = 0 then sign :: hours
    else if seconds % 60 = 0 then sign :: hours ++ ':' :: minutes
    else sign :: hours ++ ':' :: minutes ++ ':' :: rest

/-- A zone such as `EST5`, a name with the hours that it is behind; others count as no zone. -/
def ofText (text : Octets) : Zone :=
  let name := text.takeWhile fun c => 'a' ≤ c && c ≤ 'z' || 'A' ≤ c && c ≤ 'Z'
  let behind := text.drop name.length
  let digits := behind.dropWhile fun c => c = '+' ∨ c = '-'
  if name.length < 3 ∨ digits = [] ∨ !digits.all Name.isDigit then
    { name := String.ofList (if name = [] then Octets.ofText "UTC" else name), offset := 0 }
  else
    let hours : Int := Numeral.digitsValue digits
    { name := String.ofList name, offset := (if behind.head? = some '-' then hours else -hours) * 3600 }

end Zone

/-! ### Formats -/

namespace Date

/-- What a directive yields: a number with a filler and a width, or a text. -/
inductive Piece where
  | number (filler : Char) (width : Nat) (value : Int)
  | text (value : Octets)

/-- How a directive is to be printed. -/
structure Flags where
  filler : Option Char
  bare : Bool
  upper : Bool
  swapped : Bool
  width : Nat

def Piece.image (flags : Flags) (letter : Char) : Piece → Octets
  | .number filler width value =>
    let digits := Octets.ofNat value.natAbs
    let filler := flags.filler.getD filler
    let sign := if value < 0 then ['-'] else []
    if flags.bare then sign ++ digits
    else
      let fill := List.replicate (max width flags.width - sign.length - digits.length) filler
      if filler = '0' then sign ++ fill ++ digits else fill ++ sign ++ digits
  | .text value =>
    let value := if flags.upper then value.map Char.toUpper
      else if flags.swapped then
        if letter = 'p' ∨ letter = 'Z' then value.map Char.toLower else value.map Char.toUpper
      else value
    if flags.bare then value
    else List.replicate (flags.width - value.length) (flags.filler.getD ' ') ++ value

/-- What simple directives yield. -/
def piece? (date : Date) (moment : Moment) (zone : Zone) (width : Nat) (letter : Char) : Option Piece :=
  let two (value : Int) : Option Piece := some (.number '0' 2 value)
  let blank (value : Int) : Option Piece := some (.number ' ' 2 value)
  let text (value : String) : Option Piece := some (.text (.ofText value))
  let twelve := if date.hour % 12 = 0 then 12 else date.hour % 12
  match letter with
  | 'a' => text (String.ofList (date.weekdayName.toList.take 3))
  | 'A' => text date.weekdayName
  | 'b' => text (String.ofList (date.monthName.toList.take 3))
  | 'h' => text (String.ofList (date.monthName.toList.take 3))
  | 'B' => text date.monthName
  | 'C' => two (date.year.fdiv 100)
  | 'd' => two date.day
  | 'e' => blank date.day
  | 'g' => two (date.week.1.fmod 100)
  | 'G' => some (.number '0' 4 date.week.1)
  | 'H' => two date.hour
  | 'I' => two twelve
  | 'j' => some (.number '0' 3 (date.dayOfYear + 1))
  | 'k' => blank date.hour
  | 'l' => blank twelve
  | 'm' => two date.month
  | 'M' => two date.minute
  | 'n' => text "\n"
  | 'N' =>
    let digits := Numeral.digitsOf 9 moment.nanoseconds
    some (.text (if width = 0 then digits else digits.take width ++ List.replicate (width - 9) '0'))
  | 'p' => text (if date.hour < 12 then "AM" else "PM")
  | 'P' => text (if date.hour < 12 then "am" else "pm")
  | 'q' => some (.number '0' 1 ((date.month + 2) / 3))
  | 's' => some (.number '0' 1 moment.seconds)
  | 'S' => two date.second
  | 't' => text "\t"
  | 'u' => some (.number '0' 1 (if date.weekday = 0 then 7 else date.weekday))
  | 'U' => two ((date.dayOfYear + 7 - date.weekday) / 7)
  | 'V' => two date.week.2
  | 'w' => some (.number '0' 1 date.weekday)
  | 'W' => two ((date.dayOfYear + 7 - (date.weekday + 6) % 7) / 7)
  | 'y' => two (date.year.fmod 100)
  | 'Y' => some (.number '0' 4 date.year)
  | 'z' => some (.text (zone.image 0))
  | 'Z' => text zone.name
  | '%' => text "%"
  | _ => none

/-- Directives that stand for several others. -/
def spelledOut? (letter : Char) : Option String :=
  match letter with
  | 'c' => some "%a %b %e %H:%M:%S %Y"
  | 'D' => some "%m/%d/%y"
  | 'F' => some "%Y-%m-%d"
  | 'r' => some "%I:%M:%S %p"
  | 'R' => some "%H:%M"
  | 'T' => some "%H:%M:%S"
  | 'x' => some "%m/%d/%y"
  | 'X' => some "%H:%M:%S"
  | _ => none

/-- A date by a format. -/
def print (date : Date) (moment : Moment) (zone : Zone) : Nat → Octets → Octets
  | 0, _ => []
  | _ + 1, [] => []
  | fuel + 1, '%' :: directive =>
    let isFlag (c : Char) : Bool := c ∈ ['_', '-', '0', '^', '#', '+']
    let marks := directive.takeWhile isFlag
    let behind := directive.drop marks.length
    let digits := behind.takeWhile Name.isDigit
    let behind := behind.drop digits.length
    let colons := (behind.takeWhile (· = ':')).length
    let behind := behind.drop colons
    let modified := behind.head? = some 'E' || behind.head? = some 'O'
    let behind := if modified then behind.drop 1 else behind
    let width := Numeral.digitsValue digits
    let last := (marks.filter fun c => c ∈ ['_', '-', '0', '+']).getLast?
    let flags : Flags := {
      filler := if last = some '_' then some ' ' else if last = some '0' ∨ last = some '+' then some '0' else none
      bare := last = some '-', upper := marks.contains '^', swapped := marks.contains '#', width }
    let unknown (length : Nat) : Octets :=
      '%' :: directive.take length ++ print date moment zone fuel (directive.drop length)
    match behind with
    | [] => '%' :: directive
    | letter :: rest =>
      if colons > 0 then
        if letter = 'z' then (Piece.text (zone.image colons)).image flags letter ++ print date moment zone fuel rest
        else unknown (directive.length - rest.length)
      else match spelledOut? letter with
        | some format =>
          (Piece.text (print date moment zone fuel (.ofText format))).image flags letter ++
            print date moment zone fuel rest
        | none =>
          match date.piece? moment zone width letter with
          | some piece => piece.image flags letter ++ print date moment zone fuel rest
          | none => unknown (directive.length - rest.length)
  | fuel + 1, c :: rest => c :: print date moment zone fuel rest

end Date

/-- A moment by a format, in a zone. -/
def Moment.print (moment : Moment) (zone : Zone) (format : Octets) : Octets :=
  (Date.ofSeconds (moment.seconds + zone.offset)).print moment zone (format.length + 24) format

end ComponentViews.Shell
