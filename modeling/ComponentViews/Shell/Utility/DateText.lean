import ComponentViews.Shell.Calendar
import ComponentViews.Shell.Format

/-! Dates in the words of people: days, times, zones, and how far from there. -/

namespace ComponentViews.Shell.DateText

/-- Units of time: some by months, some by days, the rest by seconds. -/
inductive Measure where
  | months (count : Int)
  | days (count : Int)
  | seconds (count : Int)

def units : List (String × Measure) :=
  [("year", .months 12), ("month", .months 1), ("fortnight", .days 14), ("week", .days 7), ("day", .days 1),
    ("hour", .seconds 3600), ("minute", .seconds 60), ("min", .seconds 60), ("second", .seconds 1), ("sec", .seconds 1)]

/-- Words that count. -/
def ordinals : List (String × Int) :=
  [("last", -1), ("this", 0), ("next", 1), ("first", 1), ("third", 3), ("fourth", 4), ("fifth", 5), ("sixth", 6),
    ("seventh", 7), ("eighth", 8), ("ninth", 9), ("tenth", 10), ("eleventh", 11), ("twelfth", 12)]

/-- Words for days near today. -/
def nearDays : List (String × Int) := [("yesterday", -1), ("today", 0), ("now", 0), ("tomorrow", 1)]

/-- Zones by their names, with the hours that they are ahead. -/
def zones : List (String × Int) :=
  [("utc", 0), ("gmt", 0), ("z", 0), ("ut", 0), ("est", -5), ("edt", -4), ("cst", -6), ("cdt", -5), ("mst", -7),
    ("mdt", -6), ("pst", -8), ("pdt", -7), ("cet", 1), ("cest", 2), ("eet", 2), ("eest", 3), ("wet", 0), ("west", 1),
    ("bst", 1), ("msk", 3), ("jst", 9)]

/-- What has been read so far. -/
structure Reading where
  date : Option (Option Int × Int × Int)
  time : Option (Int × Int × Int × Nat)
  zone : Option Int
  /-- A day of the week, and how many weeks off. -/
  weekday : Option (Int × Int)
  months : Int
  days : Int
  seconds : Int
  moved : Bool

namespace Reading

def nothing : Reading where
  date := none
  time := none
  zone := none
  weekday := none
  months := 0
  days := 0
  seconds := 0
  moved := false

def move (reading : Reading) (count : Int) : Measure → Reading
  | .months unit => { reading with months := reading.months + count * unit, moved := true }
  | .days unit => { reading with days := reading.days + count * unit, moved := true }
  | .seconds unit => { reading with seconds := reading.seconds + count * unit, moved := true }

end Reading

def isLetter (c : Char) : Bool := 'a' ≤ c && c ≤ 'z'

def wordAt (text : Octets) : Octets := text.takeWhile isLetter

def digitsAt (text : Octets) : Octets := text.takeWhile Name.isDigit

def skip (text : Octets) : Octets := text.dropWhile fun c => Name.isBlank c || c = ',' || c = '\n'

def unit? (word : Octets) : Option Measure :=
  let name := String.ofList word
  (units.lookup name).or (if word.getLast? = some 's' then units.lookup (String.ofList word.dropLast) else none)

/-- The number of a name, of which three letters are enough. -/
def indexOf? (names : List String) (word : Octets) : Option Int :=
  (names.findIdx? fun name =>
    let name := name.toList.map Char.toLower
    name = word || name.take 3 = word || (name.take 3 = ['s', 'e', 'p'] && word = ['s', 'e', 'p', 't'])).map fun index =>
      (index : Int)

def month? (word : Octets) : Option Int := (indexOf? Date.monthNames word).map (· + 1)

def weekday? (word : Octets) : Option Int :=
  match String.ofList word with
  | "tues" => some 2
  | "wednes" => some 3
  | "thur" => some 4
  | "thurs" => some 4
  | _ => indexOf? Date.weekdayNames word

def value (digits : Octets) : Int := Numeral.digitsValue digits

/-- A year of two digits belongs to the century around. -/
def fullYear (digits : Octets) : Int :=
  let year := value digits
  if digits.length > 2 then year else if year < 69 then year + 2000 else year + 1900

/-- A difference from the zone of everybody, such as `+01:00`. -/
def offset? (text : Octets) : Option (Int × Octets) :=
  match text with
  | sign :: rest =>
    let digits := digitsAt rest
    let behind := rest.drop digits.length
    let signed (seconds : Int) : Int := if sign = '-' then -seconds else seconds
    if sign ≠ '+' ∧ sign ≠ '-' then none
    else match behind with
      | ':' :: more =>
        let minutes := digitsAt more
        if digits.length ≤ 2 ∧ minutes.length = 2 then
          some (signed (value digits * 3600 + value minutes * 60), more.drop 2)
        else none
      | behind =>
        if digits.length = 4 then
          some (signed (value (digits.take 2) * 3600 + value (digits.drop 2) * 60), behind)
        else if 0 < digits.length ∧ digits.length ≤ 2 then some (signed (value digits * 3600), behind)
        else none
  | [] => none

/-- Which half of the day an hour is in. -/
def halved? (hour : Int) (word : Octets) : Option Int :=
  if hour < 1 ∨ 12 < hour then none
  else match String.ofList word with
    | "am" => some (hour % 12)
    | "pm" => some (hour % 12 + 12)
    | _ => none

/-- A time such as `12:34:56.5` behind its hour, and what may follow: half of the day, and a zone. -/
def timeAt? (reading : Reading) (hour : Octets) (behind : Octets) : Option (Reading × Octets) :=
  let minutes := digitsAt behind
  let rest := behind.drop minutes.length
  let (seconds, fraction, rest) : Octets × Octets × Octets := match rest with
    | ':' :: more =>
      let seconds := digitsAt more
      match more.drop seconds.length with
      | '.' :: part => (seconds, digitsAt part, part.drop (digitsAt part).length)
      | rest => (seconds, [], rest)
    | rest => ([], [], rest)
  let nanoseconds := Numeral.digitsValue ((fraction ++ List.replicate 9 '0').take 9)
  let word := wordAt (skip rest)
  let half := halved? (value hour) word
  let rest := if half.isSome then (skip rest).drop word.length else rest
  let fits := minutes.length = 2 && value hour < 24 && value minutes < 60 && value seconds ≤ 60
  if !fits ∨ reading.time.isSome then none
  else
    let found := { reading with time := some (half.getD (value hour), value minutes, value seconds, nanoseconds) }
    match offset? (rest.dropWhile Name.isBlank) with
    | some (zone, after) =>
      let isMove := (unit? (wordAt (skip after))).isSome
      some (if isMove then (found, rest) else ({ found with zone := some zone }, after))
    | none => some (found, rest)

/-- What begins with digits. -/
def numberAt? (reading : Reading) (digits behind : Octets) : Option (Reading × Octets) :=
  let spaced := skip behind
  let word := wordAt spaced
  let after := spaced.drop word.length
  match behind with
  | ':' :: rest => timeAt? reading digits rest
  | '-' :: rest =>
    let month := digitsAt rest
    match rest.drop month.length with
    | '-' :: more =>
      let day := digitsAt more
      let after := more.drop day.length
      let after := if after.head? = some 't' then after.drop 1 else after
      if month = [] ∨ day = [] then none
      else some ({ reading with date := some (some (fullYear digits), value month, value day) }, after)
    | _ =>
      (month? (wordAt rest)).bind fun month =>
        let more := (rest.drop (wordAt rest).length).drop 1
        let year := digitsAt more
        if year = [] then none
        else some ({ reading with date := some (some (fullYear year), month, value digits) }, more.drop year.length)
  | '/' :: rest =>
    let second := digitsAt rest
    match rest.drop second.length with
    | '/' :: more =>
      let third := digitsAt more
      let date := if digits.length > 2 then (some (value digits), value second, value third)
        else (some (fullYear third), value digits, value second)
      some ({ reading with date := some date }, more.drop third.length)
    | rest => some ({ reading with date := some (none, value digits, value second) }, rest)
  | behind =>
    match unit? word, month? word, halved? (value digits) word with
    | some unit, _, _ => some (reading.move (value digits) unit, after)
    | none, some month, _ =>
      let year := digitsAt (skip after)
      let hasYear := year.length ≥ 3 && ((skip after).drop year.length).head? ≠ some ':'
      let date := (if hasYear then some (fullYear year) else none, month, value digits)
      some ({ reading with date := some date }, if hasYear then (skip after).drop year.length else after)
    | none, none, some hour => some ({ reading with time := some (hour, 0, 0, 0) }, after)
    | none, none, none =>
      match reading.date, digits.length with
      | some (none, month, day), 4 => some ({ reading with date := some (some (value digits), month, day) }, behind)
      | _, 8 =>
        let date := (some (value (digits.take 4)), value ((digits.drop 4).take 2), value (digits.drop 6))
        some ({ reading with date := some date }, behind)
      | _, count =>
        if reading.time.isSome ∨ count > 4 ∨ count = 3 then none
        else
          let (hour, minute) := if count ≤ 2 then (value digits, 0) else (value (digits.take 2), value (digits.drop 2))
          if hour < 24 ∧ minute < 60 then some ({ reading with time := some (hour, minute, 0, 0) }, behind) else none

/-- What begins with a word. -/
def wordRead? (reading : Reading) (word rest : Octets) : Option (Reading × Octets) :=
  let name := String.ofList word
  let spaced := skip rest
  match nearDays.lookup name, month? word, weekday? word with
  | some count, _, _ => some (reading.move count (.days 1), rest)
  | none, some month, _ =>
    let day := digitsAt spaced
    let after := spaced.drop day.length
    let year := digitsAt (skip after)
    let hasYear := year.length ≥ 3 && ((skip after).drop year.length).head? ≠ some ':'
    if day = [] ∨ day.length > 2 then none
    else
      let date := (if hasYear then some (fullYear year) else none, month, value day)
      some ({ reading with date := some date }, if hasYear then (skip after).drop year.length else after)
  | none, none, some day => some ({ reading with weekday := some (day, 0) }, rest.dropWhile (· = '.'))
  | none, none, none =>
    match ordinals.lookup name, unit? word, zones.lookup name with
    | some count, _, _ =>
      let next := wordAt spaced
      match unit? next, weekday? next with
      | some unit, _ => some (reading.move count unit, spaced.drop next.length)
      | none, some day => some ({ reading with weekday := some (day, count) }, spaced.drop next.length)
      | none, none => none
    | none, some unit, _ => some (reading.move 1 unit, rest)
    | none, none, some hours => some ({ reading with zone := some (hours * 3600) }, rest)
    | none, none, none =>
      if name = "t" ∧ reading.date.isSome then some (reading, rest)
      else if name = "ago" then
        some ({ reading with months := -reading.months, days := -reading.days, seconds := -reading.seconds }, rest)
      else none

/-- Reads a text piece by piece. -/
def readFrom : Nat → Reading → Octets → Option Reading
  | 0, _, _ => none
  | fuel + 1, reading, text =>
    match skip text with
    | [] => some reading
    | c :: rest =>
      if Name.isDigit c then
        let digits := digitsAt (c :: rest)
        (numberAt? reading digits ((c :: rest).drop digits.length)).bind fun (reading, rest) =>
          readFrom fuel reading rest
      else if isLetter c then
        let word := wordAt (c :: rest)
        (wordRead? reading word ((c :: rest).drop word.length)).bind fun (reading, rest) =>
          readFrom fuel reading rest
      else if c = '+' ∨ c = '-' then
        let spaced := skip rest
        let digits := digitsAt spaced
        let behind := skip (spaced.drop digits.length)
        let word := wordAt behind
        match unit? word, offset? (c :: rest) with
        | some unit, _ =>
          if digits = [] then none
          else
            readFrom fuel (reading.move (if c = '-' then -value digits else value digits) unit) (behind.drop word.length)
        | none, some (zone, rest) => readFrom fuel { reading with zone := some zone } rest
        | none, none => none
      else none

/-- The moment that a reading means, as seen from another one. -/
def resolve? (now : Moment) (zone : Zone) (reading : Reading) : Option Moment :=
  let today := Date.ofSeconds (now.seconds + zone.offset)
  let (year, month, day) := match reading.date with
    | some (year, month, day) => (year.getD today.year, month, day)
    | none => (today.year, today.month, today.day)
  let plain := reading.date.isNone && reading.weekday.isNone && reading.time.isNone && reading.moved
  let (hour, minute, second, nanoseconds) := match reading.time with
    | some time => time
    | none => if plain then (today.hour, today.minute, today.second, now.nanoseconds) else (0, 0, 0, 0)
  let number := Date.dayNumber year month day
  if Date.ofDay number ≠ (year, month, day) then none
  else
    let shifted := Date.dayNumber year (month + reading.months) day + reading.days
    let shifted := match reading.date, reading.weekday with
      | none, some (weekday, weeks) =>
        let ahead := (weekday - (shifted + 4)).fmod 7
        shifted + ahead + 7 * (if weeks > 0 ∧ ahead ≠ 0 then weeks - 1 else weeks)
      | _, _ => shifted
    let seconds := shifted * Date.secondsPerDay + hour * 3600 + minute * 60 + second
    some { seconds := seconds - reading.zone.getD zone.offset + reading.seconds, nanoseconds }

/-- The moment that a text means. -/
def read? (now : Moment) (zone : Zone) (text : Octets) : Option Moment :=
  match text.dropWhile Name.isBlank with
  | '@' :: stamp =>
    let negative := stamp.head? = some '-'
    let digits := digitsAt (if negative then stamp.drop 1 else stamp)
    let behind := (if negative then stamp.drop 1 else stamp).drop digits.length
    let fraction := if behind.head? = some '.' then digitsAt (behind.drop 1) else []
    let rest := behind.drop (fraction.length + if behind.head? = some '.' then 1 else 0)
    if digits = [] ∨ !rest.all Name.isBlank then none
    else
      let nanoseconds := Numeral.digitsValue ((fraction ++ List.replicate 9 '0').take 9)
      if negative ∧ nanoseconds > 0 then
        some { seconds := -value digits - 1, nanoseconds := 1000000000 - nanoseconds }
      else some { seconds := if negative then -value digits else value digits, nanoseconds }
  | text => (readFrom (text.length + 2) .nothing (text.map Char.toLower)).bind (resolve? now zone)

end ComponentViews.Shell.DateText
