import GrammarStudio.Machine.Octets

/-!
# Days and times

* `Moment` — a day with a time, and `Moment.ofSeconds`, `Moment.seconds` from and to the seconds since 1970;
* `Moment.weekday`, `Moment.dayOfYear` — the place of a day;
* `write` — a moment as a format says;
* `read?` — the moment that a text names.

All times are those of the zero meridian.
-/

namespace GrammarStudio.Calendar

open Machine

/-! ### Moments -/

/-- A day with a time. -/
structure Moment where
  year : Int
  month : Nat
  day : Nat
  hour : Nat
  minute : Nat
  second : Nat
  deriving DecidableEq, Repr

/-- The days from the first of January 1970 to a day. -/
def daysTo (year : Int) (month day : Nat) : Int :=
  -- years begin in March, so that the day too many comes last
  let y := if month ≤ 2 then year - 1 else year
  let era := y.fdiv 400
  let ofEra := (y - era * 400).toNat
  let m := if month > 2 then month - 3 else month + 9
  let ofYear := (153 * m + 2) / 5 + day - 1
  let inEra := ofEra * 365 + ofEra / 4 - ofEra / 100 + ofYear
  era * 146097 + inEra - 719468

/-- The day that comes so many days behind the first of January 1970: year, month and day. -/
def dayAt (days : Int) : Int × Nat × Nat :=
  let z := days + 719468
  let era := z.fdiv 146097
  let inEra := (z - era * 146097).toNat
  let ofEra := (inEra - inEra / 1460 + inEra / 36524 - inEra / 146096) / 365
  let ofYear := inEra - (365 * ofEra + ofEra / 4 - ofEra / 100)
  let m := (5 * ofYear + 2) / 153
  let day := ofYear - (153 * m + 2) / 5 + 1
  let month := if m < 10 then m + 3 else m - 9
  (ofEra + era * 400 + (if month ≤ 2 then 1 else 0), month, day)

namespace Moment

def ofSeconds (s : Int) : Moment :=
  let days := s.fdiv 86400
  let rest := (s - days * 86400).toNat
  let (year, month, day) := dayAt days
  ⟨year, month, day, rest / 3600, rest / 60 % 60, rest % 60⟩

def seconds (m : Moment) : Int := daysTo m.year m.month m.day * 86400 + m.hour * 3600 + m.minute * 60 + m.second

/-- The day of the week; Sunday is zero. -/
def weekday (m : Moment) : Nat := ((daysTo m.year m.month m.day + 4) % 7).toNat

/-- The day of the year, from one on. -/
def dayOfYear (m : Moment) : Nat := (daysTo m.year m.month m.day - daysTo m.year 1 1 + 1).toNat

/-- The year and the week, where weeks begin on Monday and the first one has the first Thursday. -/
def isoWeek (m : Moment) : Int × Nat :=
  let monday := (m.weekday + 6) % 7
  let thursday := daysTo m.year m.month m.day - monday + 3
  let (year, _, _) := dayAt thursday
  (year, ((thursday - daysTo year 1 1) / 7 + 1).toNat)

end Moment

def weekdays : List String := ["Sunday", "Monday", "Tuesday", "Wednesday", "Thursday", "Friday", "Saturday"]

def months : List String :=
  ["January", "February", "March", "April", "May", "June", "July", "August", "September", "October", "November", "December"]

example : (Moment.ofSeconds 951782400).month = 2 ∧ (Moment.ofSeconds 951782400).day = 29 := by decide

/-! ### Moments as text -/

def twoDigits (n : Nat) : Octets := Octets.padLeftWith '0' 2 (Octets.ofNat n)

/-- A name cut to three letters. -/
def shortName (names : List String) (n : Nat) : Octets := ((names[n]?).getD "").toList.take 3

def longName (names : List String) (n : Nat) : Octets := ((names[n]?).getD "").toList

/-- What a letter behind a percent sign stands for.  `millionths` is the part of a second. -/
def field? (m : Moment) (millionths : Nat) (c : Char) : Option Octets :=
  let hour12 := if m.hour % 12 = 0 then 12 else m.hour % 12
  let year := Octets.ofInt m.year
  let time := twoDigits m.hour ++ ':' :: twoDigits m.minute ++ ':' :: twoDigits m.second
  let short := shortName weekdays m.weekday ++ [' '] ++ shortName months (m.month - 1)
  match c with
  | 'a' => some (shortName weekdays m.weekday)
  | 'A' => some (longName weekdays m.weekday)
  | 'b' | 'h' => some (shortName months (m.month - 1))
  | 'B' => some (longName months (m.month - 1))
  | 'c' => some (short ++ [' '] ++ Octets.padLeft 2 (Octets.ofNat m.day) ++ [' '] ++ time ++ [' '] ++ year)
  | 'C' => some (twoDigits (m.year.toNat / 100))
  | 'd' => some (twoDigits m.day)
  | 'D' | 'x' => some (twoDigits m.month ++ '/' :: twoDigits m.day ++ '/' :: twoDigits (m.year % 100).toNat)
  | 'e' => some (Octets.padLeft 2 (Octets.ofNat m.day))
  | 'F' => some (year ++ '-' :: twoDigits m.month ++ '-' :: twoDigits m.day)
  | 'g' => some (twoDigits (m.isoWeek.1 % 100).toNat)
  | 'G' => some (Octets.ofInt m.isoWeek.1)
  | 'H' => some (twoDigits m.hour)
  | 'I' => some (twoDigits hour12)
  | 'j' => some (Octets.padLeftWith '0' 3 (Octets.ofNat m.dayOfYear))
  | 'k' => some (Octets.padLeft 2 (Octets.ofNat m.hour))
  | 'l' => some (Octets.padLeft 2 (Octets.ofNat hour12))
  | 'm' => some (twoDigits m.month)
  | 'M' => some (twoDigits m.minute)
  | 'n' => some ['\n']
  | 'N' => some (Octets.padLeftWith '0' 9 (Octets.ofNat (millionths * 1000)))
  | 'p' => some (ascii (if m.hour < 12 then "AM" else "PM"))
  | 'P' => some (ascii (if m.hour < 12 then "am" else "pm"))
  | 'q' => some (Octets.ofNat ((m.month + 2) / 3))
  | 'r' => some (twoDigits hour12 ++ ':' :: twoDigits m.minute ++ ':' :: twoDigits m.second ++ ascii (if m.hour < 12 then " AM" else " PM"))
  | 'R' => some (twoDigits m.hour ++ ':' :: twoDigits m.minute)
  | 's' => some (Octets.ofInt m.seconds)
  | 'S' => some (twoDigits m.second)
  | 't' => some ['\t']
  | 'T' | 'X' => some time
  | 'u' => some (Octets.ofNat (if m.weekday = 0 then 7 else m.weekday))
  | 'U' => some (twoDigits ((m.dayOfYear + 6 - m.weekday) / 7))
  | 'V' => some (twoDigits m.isoWeek.2)
  | 'w' => some (Octets.ofNat m.weekday)
  | 'W' => some (twoDigits ((m.dayOfYear + 6 - (m.weekday + 6) % 7) / 7))
  | 'y' => some (twoDigits (m.year % 100).toNat)
  | 'Y' => some year
  | 'z' => some (ascii "+0000")
  | 'Z' => some (ascii "UTC")
  | '%' => some ['%']
  | _ => none

/-- Writes a moment as a format says. -/
def writeOn (m : Moment) (millionths : Nat) : (fuel : Nat) → Octets → Octets
  | 0, _ => []
  | _ + 1, [] => []
  | fuel + 1, '%' :: rest =>
    let flags := rest.takeWhile fun c => (ascii "_-0^#").contains c
    let behind := rest.drop flags.length
    let digits := behind.takeWhile Char.isDigit
    let behind := behind.drop digits.length
    match behind with
    | ':' :: 'z' :: more => ascii "+00:00" ++ writeOn m millionths fuel more
    | c :: more =>
      match field? m millionths c with
      | none => '%' :: writeOn m millionths fuel rest
      | some o =>
        let padded := (ascii "deHIjklmMNSUVWyCg").contains c
        let bare := if flags.contains '-' && padded then
            let cut := o.dropWhile fun c => c = '0' || c = ' '
            if cut.isEmpty then ['0'] else cut
          else if flags.contains '_' && padded then
            let zeros := (o.dropLast).takeWhile (· = '0')
            List.replicate zeros.length ' ' ++ o.drop zeros.length
          else if flags.contains '0' && padded then o.map fun c => if c = ' ' then '0' else c
          else o
        let bare := if flags.contains '^' then Octets.upper bare else bare
        let bare := if c = 'N' && !digits.isEmpty then bare.take (Octets.valueIn 10 digits)
          else Octets.padLeftWith (if flags.contains '_' then ' ' else '0') (Octets.valueIn 10 digits) bare
        bare ++ writeOn m millionths fuel more
    | [] => '%' :: rest
  | fuel + 1, c :: rest => c :: writeOn m millionths fuel rest

def write (m : Moment) (millionths : Nat) (format : Octets) : Octets := writeOn m millionths (format.length + 1) format

/-! ### Reading -/

/-- Numbers between signs. -/
def numbers? (sign : Char) (o : Octets) : Option (List Nat) := (Octets.splitOn sign o).mapM Octets.nat?

/-- The month that a word names. -/
def month? (word : Octets) : Option Nat :=
  (months.findIdx? fun n => (Octets.lower word) = Octets.lower n.toList || (Octets.lower word) = (Octets.lower n.toList).take 3).map (· + 1)

def isValidDay (year : Int) (month day : Nat) : Bool :=
  1 ≤ month && month ≤ 12 && 1 ≤ day && dayAt (daysTo year month day) = (year, month, day)

/-- Seconds of a unit of time. -/
def unitSeconds? (word : Octets) : Option Int :=
  let w := Octets.lower word
  let w := if w.getLast? = some 's' && w.length > 2 then w.dropLast else w
  match String.ofList w with
  | "sec" | "second" => some 1
  | "min" | "minute" => some 60
  | "hour" => some 3600
  | "day" => some 86400
  | "week" => some 604800
  | "fortnight" => some 1209600
  | _ => none

/-- A time of the day, in seconds. -/
def time? (o : Octets) : Option Nat :=
  let o := o.takeWhile (· ≠ '.')
  match numbers? ':' o with
  | some [h, m] => if h < 24 && m < 60 then some (h * 3600 + m * 60) else none
  | some [h, m, s] => if h < 24 && m < 60 && s ≤ 60 then some (h * 3600 + m * 60 + s) else none
  | _ => none

/-- Where the reading of words has come to. -/
structure Reading where
  day : Option (Int × Nat × Nat) := none
  time : Option Nat := none
  seconds : Int := 0
  months : Int := 0

/-- Reads words, one after the other. -/
def readWords (today : Int × Nat × Nat) : (fuel : Nat) → List Octets → Reading → Option Reading
  | 0, _, _ => none
  | _ + 1, [], r => some r
  | fuel + 1, word :: rest, r =>
    let lower := Octets.lower word
    let go := readWords today fuel
    if [ascii "now", ascii "today", ascii "utc", ascii "z", ascii "gmt", ascii "+0000", ascii "+00:00"].contains lower then go rest r
    else if lower = ascii "tomorrow" then go rest { r with seconds := r.seconds + 86400 }
    else if lower = ascii "yesterday" then go rest { r with seconds := r.seconds - 86400 }
    else if lower = ascii "midnight" then go rest { r with time := some 0 }
    else if word.contains ':' then
      match time? (if word.getLast? = some 'Z' then word.dropLast else word) with
      | some t =>
        match rest with
        | next :: more =>
          if Octets.lower next = ascii "pm" && t < 43200 then go more { r with time := some (t + 43200) }
          else if Octets.lower next = ascii "am" then go more { r with time := some (t % 43200) }
          else go rest { r with time := some t }
        | [] => go rest { r with time := some t }
      | none => none
    else
      match numbers? '-' word with
      | some [y, m, d] => if isValidDay y m d then go rest { r with day := some (y, m, d) } else none
      | _ =>
        match numbers? '/' word with
        | some [m, d, y] => if isValidDay y m d then go rest { r with day := some (y, m, d) } else none
        | some [m, d] => if isValidDay today.1 m d then go rest { r with day := some (today.1, m, d) } else none
        | _ =>
          match month? word, rest with
          | some m, d :: more =>
            match Octets.nat? (d.filter (· ≠ ',')), more with
            | some d, y :: others =>
              match Octets.nat? y with
              | some y => if isValidDay y m d then go others { r with day := some (y, m, d) } else none
              | none => if isValidDay today.1 m d then go more { r with day := some (today.1, m, d) } else none
            | some d, [] => if isValidDay today.1 m d then go [] { r with day := some (today.1, m, d) } else none
            | none, _ => none
          | _, _ =>
            if (shortName weekdays 0 :: (weekdays.map fun w => w.toList) ++ weekdays.map fun w => w.toList.take 3).any fun w => Octets.lower w = lower then go rest r
            else
              let relative (n : Int) (unit : Octets) (more : List Octets) : Option Reading :=
                let (n, more) := match more with
                  | ago :: others => if Octets.lower ago = ascii "ago" then (-n, others) else (n, more)
                  | [] => (n, more)
                let plain := Octets.lower (if unit.getLast? = some 's' then unit.dropLast else unit)
                if plain = ascii "month" then go more { r with months := r.months + n }
                else if plain = ascii "year" then go more { r with months := r.months + 12 * n }
                else
                  match unitSeconds? unit with
                  | some s => go more { r with seconds := r.seconds + n * s }
                  | none => none
              if lower = ascii "next" || lower = ascii "last" then
                match rest with
                | unit :: more => relative (if lower = ascii "next" then 1 else -1) unit more
                | [] => none
              else
                let digits := (if word.head?.any fun c => c = '+' || c = '-' then word.drop 1 else word).takeWhile Char.isDigit
                let glued := word.drop ((if word.head?.any fun c => c = '+' || c = '-' then 1 else 0) + digits.length)
                let n : Int := if word.head? = some '-' then -(Octets.valueIn 10 digits : Int) else Octets.valueIn 10 digits
                if digits.isEmpty then (match unitSeconds? word with
                  | some _ => relative 1 word rest
                  | none => if lower = ascii "month" || lower = ascii "year" then relative 1 word rest else none)
                else if !glued.isEmpty then relative n glued rest
                else
                  match rest with
                  | next :: more =>
                    if (unitSeconds? next).isSome || [ascii "month", ascii "months", ascii "year", ascii "years"].contains (Octets.lower next) then
                      relative n next more
                    else if (month? next).isSome then
                      -- a day before its month
                      match more with
                      | y :: others =>
                        match Octets.nat? y, month? next with
                        | some y, some m => if isValidDay y m n.toNat then go others { r with day := some (y, m, n.toNat) } else none
                        | _, _ => none
                      | [] => (month? next).bind fun m => if isValidDay today.1 m n.toNat then go [] { r with day := some (today.1, m, n.toNat) } else none
                    else none
                  | [] =>
                    if digits.length = 8 then
                      let v := Octets.valueIn 10 digits
                      if isValidDay (v / 10000) (v / 100 % 100) (v % 100) then go [] { r with day := some ((v / 10000 : Nat), v / 100 % 100, v % 100) } else none
                    else if digits.length = 4 then
                      let v := Octets.valueIn 10 digits
                      if v / 100 < 24 && v % 100 < 60 then go [] { r with time := some (v / 100 * 3600 + v % 100 * 60) } else none
                    else none

/-- The seconds since 1970 that a text names, where `now` is this moment. -/
def read? (now : Int) (o : Octets) : Option Int :=
  let o := Octets.trimLeft (Octets.trimRight o)
  match o with
  | '@' :: rest => Octets.number? (rest.takeWhile (· ≠ '.'))
  | o => do
    let here := Moment.ofSeconds now
    let today := (here.year, here.month, here.day)
    -- a letter between day and time
    let o := o.foldr (fun c acc => match acc with
      | d :: _ => if c = 'T' && d.isDigit then ' ' :: acc else c :: acc
      | [] => [c]) []
    let words := Octets.words o
    let r ← readWords today (words.length + 1) words {}
    let (y, m, d) := r.day.getD today
    let time : Int := match r.time, r.day with
      | some t, _ => t
      | none, some _ => 0
      | none, none => if words.isEmpty then 0 else here.hour * 3600 + here.minute * 60 + here.second
    let months := y * 12 + (m - 1 : Nat) + r.months
    return daysTo (months.fdiv 12) ((months % 12).toNat + 1) d * 86400 + time + r.seconds

end GrammarStudio.Calendar
