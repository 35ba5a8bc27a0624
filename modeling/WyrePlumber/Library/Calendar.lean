import WyrePlumber.Library.Python

/-!
# Dates and times with an offset

The part of Python's `datetime` that timestamps need: the ISO 8601 forms that
`fromisoformat` reads (calendar and week dates, extended and basic times, UTC
offsets), the move to UTC, and `isoformat`.  What `isoformat` writes for a UTC
time is read back as that time.
-/

set_option autoImplicit false

namespace Calendar

open Python

section Days

def isLeap (year : Nat) : Bool :=
  year % 4 = 0 && (year % 100 ≠ 0 || year % 400 = 0)

def daysInMonth (year month : Nat) : Nat :=
  if month = 2 then (if isLeap year then 29 else 28)
  else if month = 4 ∨ month = 6 ∨ month = 9 ∨ month = 11 then 30
  else 31

def daysInYear (year : Nat) : Nat := if isLeap year then 366 else 365

def daysBeforeYear (year : Nat) : Nat :=
  let past := year - 1
  past * 365 + past / 4 - past / 100 + past / 400

def daysBeforeMonth (year : Nat) : Nat → Nat
  | 0 => 0
  | month + 1 => if month = 0 then 0 else daysBeforeMonth year month + daysInMonth year month

/-- The proleptic Gregorian ordinal; 0001-01-01 is day 1. -/
def ymdToOrdinal (year month day : Nat) : Nat :=
  daysBeforeYear year + daysBeforeMonth year month + day

end Days

def microsecondsPerDay : Int := 86400000000

/-- A `datetime`.  `offset` is the UTC offset of its time zone in microseconds,
absent for a naive time. -/
structure DateTime where
  year : Nat
  month : Nat
  day : Nat
  hour : Nat
  minute : Nat
  second : Nat
  microsecond : Nat
  offset : Option Int
  dateValid : 1 ≤ year ∧ year ≤ 9999 ∧ 1 ≤ month ∧ month ≤ 12 ∧
    1 ≤ day ∧ day ≤ daysInMonth year month
  timeValid : hour < 24 ∧ minute < 60 ∧ second < 60 ∧ microsecond < 1000000
  offsetValid : ∀ microseconds ∈ offset,
    -microsecondsPerDay < microseconds ∧ microseconds < microsecondsPerDay
  deriving DecidableEq

/-- The constructor: none for a field out of range. -/
def mk? (year month day hour minute second microsecond : Nat) (offset : Option Int) :
    Option DateTime :=
  if dateValid : 1 ≤ year ∧ year ≤ 9999 ∧ 1 ≤ month ∧ month ≤ 12 ∧
      1 ≤ day ∧ day ≤ daysInMonth year month then
    if timeValid : hour < 24 ∧ minute < 60 ∧ second < 60 ∧ microsecond < 1000000 then
      if offsetValid : ∀ microseconds ∈ offset,
          -microsecondsPerDay < microseconds ∧ microseconds < microsecondsPerDay then
        some ⟨year, month, day, hour, minute, second, microsecond, offset,
          dateValid, timeValid, offsetValid⟩
      else none
    else none
  else none

theorem mk?_fields (moment : DateTime) :
    mk? moment.year moment.month moment.day moment.hour moment.minute moment.second
      moment.microsecond moment.offset = some moment := by
  simp only [mk?, dif_pos moment.dateValid, dif_pos moment.timeValid,
    dif_pos moment.offsetValid]

section Utc

def timeOfDay (moment : DateTime) : Int :=
  ((moment.hour * 60 + moment.minute) * 60 + moment.second) * 1000000 + moment.microsecond

/-- Microseconds since the day before 0001-01-01 in UTC; two aware times are
compared by it. -/
def instant (moment : DateTime) : Int :=
  ymdToOrdinal moment.year moment.month moment.day * microsecondsPerDay + timeOfDay moment -
    moment.offset.getD 0

def previousDay (year month day : Nat) : Nat × Nat × Nat :=
  if 1 < day then (year, month, day - 1)
  else if 1 < month then (year, month - 1, daysInMonth year (month - 1))
  else (year - 1, 12, 31)

def nextDay (year month day : Nat) : Nat × Nat × Nat :=
  if day < daysInMonth year month then (year, month, day + 1)
  else if month < 12 then (year, month + 1, 1)
  else (year + 1, 1, 1)

/-- The time of day `microseconds` of a date, in UTC. -/
def atTimeOfDay (date : Nat × Nat × Nat) (microseconds : Nat) : Option DateTime :=
  let seconds := microseconds / 1000000
  mk? date.1 date.2.1 date.2.2 (seconds / 3600) (seconds / 60 % 60) (seconds % 60)
    (microseconds % 1000000) (some 0)

/-- `astimezone(timezone.utc)` of an aware time; none when the date leaves the
years 1 to 9999. -/
def astimezoneUtc (moment : DateTime) (offset : Int) : Option DateTime :=
  if offset = 0 then
    mk? moment.year moment.month moment.day moment.hour moment.minute moment.second
      moment.microsecond (some 0)
  else
    let shifted := timeOfDay moment - offset
    if shifted < 0 then
      atTimeOfDay (previousDay moment.year moment.month moment.day)
        (shifted + microsecondsPerDay).toNat
    else if microsecondsPerDay ≤ shifted then
      atTimeOfDay (nextDay moment.year moment.month moment.day)
        (shifted - microsecondsPerDay).toNat
    else atTimeOfDay (moment.year, moment.month, moment.day) shifted.toNat

theorem mk?_offset {year month day hour minute second microsecond : Nat}
    {offset : Option Int} {moment : DateTime}
    (made : mk? year month day hour minute second microsecond offset = some moment) :
    moment.offset = offset := by
  unfold mk? at made
  split at made
  · split at made
    · split at made
      · rw [← Option.some.inj made]
      · cases made
    · cases made
  · cases made

theorem isUtc_astimezoneUtc {moment utc : DateTime} {offset : Int}
    (moved : astimezoneUtc moment offset = some utc) : utc.offset = some 0 := by
  unfold astimezoneUtc at moved
  split at moved
  · exact mk?_offset moved
  · simp only at moved
    split at moved
    · exact mk?_offset moved
    · split at moved
      · exact mk?_offset moved
      · exact mk?_offset moved

theorem astimezoneUtc_utc {moment : DateTime} (utc : moment.offset = some 0) :
    astimezoneUtc moment 0 = some moment := by
  rw [astimezoneUtc, if_pos rfl, ← utc]
  exact mk?_fields moment

end Utc

section Print

def isoDate (year month day : Nat) : PyString :=
  digits 4 year ++ text "-" ++ digits 2 month ++ text "-" ++ digits 2 day

/-- The fraction of a second, absent for a whole one. -/
def isoFraction (microsecond : Nat) : PyString :=
  if microsecond = 0 then [] else text "." ++ digits 6 microsecond

def isoTime (hour minute second microsecond : Nat) : PyString :=
  digits 2 hour ++ text ":" ++ digits 2 minute ++ text ":" ++ digits 2 second ++
    isoFraction microsecond

/-- The date and time of day, without the offset. -/
def isoformatLocal (moment : DateTime) : PyString :=
  isoDate moment.year moment.month moment.day ++ text "T" ++
    isoTime moment.hour moment.minute moment.second moment.microsecond

/-- `isoformat()` of a time in UTC. -/
def isoformatUtc (moment : DateTime) : PyString := isoformatLocal moment ++ text "+00:00"

end Print

section Parse

def isDigit (codePoint : Nat) : Bool := (digit? codePoint).isSome

/-- Where the date ends: `_find_isoformat_datetime_separator`. -/
def findSeparator (string : PyString) : Option Nat :=
  if string.length = 7 then some 7
  else if string.getD 4 0 = 45 then
    if string.getD 5 0 = 87 then
      if string.length > 8 ∧ string.getD 8 0 = 45 then
        if string.length = 9 then none
        else if string.length > 10 ∧ isDigit (string.getD 10 0) then some 8
        else some 10
      else some 8
    else some 10
  else if string.getD 4 0 = 87 then
    let last := 7 + ((string.drop 7).takeWhile isDigit).length
    if last < 9 then some last else if last % 2 = 0 then some 7 else some 8
  else some 8

/-- The date `days` after the first day of the year. -/
def monthWalk (year : Nat) : Nat → Nat → Nat → Nat × Nat × Nat
  | 0, month, days => (year, month, days + 1)
  | fuel + 1, month, days =>
      if days < daysInMonth year month then (year, month, days + 1)
      else monthWalk year fuel (month + 1) (days - daysInMonth year month)

/-- A date by the ordinal of a day at most a year from the given year. -/
def ordinalToYmd (year : Nat) (ordinal : Nat) : Nat × Nat × Nat :=
  let first := ymdToOrdinal year 1 1
  if ordinal < first then
    monthWalk (year - 1) 12 1 (ordinal + daysInYear (year - 1) - first)
  else if ordinal - first < daysInYear year then monthWalk year 12 1 (ordinal - first)
  else monthWalk (year + 1) 12 1 (ordinal - first - daysInYear year)

/-- The date of an ordinal, by the cycles of 400, 100, 4 and 1 years. -/
def dateOfOrdinal (ordinal : Nat) : Nat × Nat × Nat :=
  let days := ordinal - 1
  let inLong := days % 146097
  let inCentury := inLong % 36524
  let inFour := inCentury % 1461
  let year := 1 + days / 146097 * 400 + inLong / 36524 * 100 + inCentury / 1461 * 4 + inFour / 365
  if inFour / 365 = 4 ∨ inLong / 36524 = 4 then (year - 1, 12, 31)
  else monthWalk year 12 1 (inFour % 365)

/-- `datetime + timedelta` of a UTC time; none when the date leaves the years 1
to 9999. -/
def addMicroseconds (moment : DateTime) (microseconds : Int) : Option DateTime :=
  let shifted := instant moment + microseconds
  let ordinal := shifted / microsecondsPerDay
  if 1 ≤ ordinal ∧ ordinal ≤ 3652059 then
    atTimeOfDay (dateOfOrdinal ordinal.toNat) (shifted % microsecondsPerDay).toNat
  else none

example : dateOfOrdinal (ymdToOrdinal 2024 12 31) = (2024, 12, 31) ∧
    dateOfOrdinal (ymdToOrdinal 2000 2 29) = (2000, 2, 29) := by decide

/-- `_isoweek_to_gregorian`. -/
def isoweekToGregorian (year week day : Nat) : Option (Nat × Nat × Nat) :=
  let firstDay := ymdToOrdinal year 1 1
  let firstWeekday := firstDay % 7
  let longYear := firstWeekday = 4 ∨ (firstWeekday = 3 ∧ isLeap year)
  if 1 ≤ year ∧ year ≤ 9999 ∧ 0 < week ∧ (week < 53 ∨ week = 53 ∧ longYear) ∧
      0 < day ∧ day < 8 then
    let monday := firstDay - (firstDay + 6) % 7
    let weekOne := if (firstDay + 6) % 7 > 3 then monday + 7 else monday
    some (ordinalToYmd year (weekOne + (week - 1) * 7 + (day - 1)))
  else none

def slice (string : PyString) (start stop : Nat) : PyString :=
  (string.take stop).drop start

def field (string : PyString) (start stop : Nat) : Option Nat :=
  let digitsThere := slice string start stop
  if digitsThere.length = stop - start then parseDigits digitsThere else none

/-- `_parse_isoformat_date`. -/
def parseDate (string : PyString) : Option (Nat × Nat × Nat) := do
  let year ← field string 0 4
  let separated := string[4]? = some 45
  let start := if separated then 5 else 4
  if string[start]? = some 87 then
    let week ← field string (start + 1) (start + 3)
    if string.length = start + 3 then isoweekToGregorian year week 1
    else if (string[start + 3]? = some 45) ≠ separated then none
    else
      let dayStart := if separated then start + 4 else start + 3
      let day ← field string dayStart (dayStart + 1)
      if string.length = dayStart + 1 then isoweekToGregorian year week day else none
  else
    let month ← field string start (start + 2)
    if (string[start + 2]? = some 45) ≠ separated then none
    else
      let dayStart := if separated then start + 3 else start + 2
      let day ← field string dayStart (dayStart + 2)
      if string.length = dayStart + 2 then some (year, month, day) else none

/-- A fraction of a second in microseconds; digits past the sixth are dropped. -/
def parseFraction (string : PyString) : Option Nat :=
  let kept := string.take 6
  if kept.isEmpty ∨ ¬ (string.drop 6).all isDigit then none
  else (parseDigits kept).map fun value => value * 10 ^ (6 - kept.length)

/-- The optional fraction after the last time component that was read. -/
def parseRest (hour minute second : Nat) : PyString → Option (Nat × Nat × Nat × Nat)
  | [] => some (hour, minute, second, 0)
  | mark :: rest =>
      if mark = 46 ∨ mark = 44 then
        (parseFraction rest).map fun microsecond => (hour, minute, second, microsecond)
      else none

/-- `_parse_hh_mm_ss_ff`. -/
def parseTimeOfDay (string : PyString) : Option (Nat × Nat × Nat × Nat) := do
  let hour ← field string 0 2
  let separated := string[2]? = some 58
  if string.length = 2 then some (hour, 0, 0, 0)
  else
    let minuteStart := if separated then 3 else 2
    let minute ← field string minuteStart (minuteStart + 2)
    if string.length = minuteStart + 2 then some (hour, minute, 0, 0)
    else if separated ∧ string[minuteStart + 2]? ≠ some 58 then none
    else
      let secondStart := if separated then minuteStart + 3 else minuteStart + 2
      let second ← field string secondStart (secondStart + 2)
      parseRest hour minute second (string.drop (secondStart + 2))

def componentMicroseconds (components : Nat × Nat × Nat × Nat) : Int :=
  ((components.1 * 60 + components.2.1) * 60 + components.2.2.1) * 1000000 +
    components.2.2.2

/-- `_parse_isoformat_time`: the time of day and the offset, absent without a zone. -/
def parseTime (string : PyString) : Option ((Nat × Nat × Nat × Nat) × Option Int) := do
  if string.length < 2 then none
  else
    let zone := (string.idxOf? 45).orElse fun _ =>
      (string.idxOf? 43).orElse fun _ => string.idxOf? 90
    match zone with
    | none =>
        let components ← parseTimeOfDay string
        some (components, none)
    | some position =>
        let components ← parseTimeOfDay (string.take position)
        let mark := string.getD position 0
        let rest := string.drop (position + 1)
        if rest.isEmpty ∧ mark = 90 then some (components, some 0)
        else if rest.length = 0 ∨ rest.length = 1 ∨ rest.length = 3 then none
        else
          let offset ← parseTimeOfDay rest
          let microseconds := componentMicroseconds offset
          some (components, some (if mark = 45 then -microseconds else microseconds))

/-- `datetime.fromisoformat`. -/
def fromisoformat (string : PyString) : Option DateTime := do
  if string.length < 7 then none
  else
    let separator ← findSeparator string
    let date ← parseDate (string.take separator)
    let timeString := string.drop (separator + 1)
    if timeString.isEmpty then mk? date.1 date.2.1 date.2.2 0 0 0 0 none
    else
      let (time, offset) ← parseTime timeString
      mk? date.1 date.2.1 date.2.2 time.1 time.2.1 time.2.2.1 time.2.2.2 offset

end Parse

section RoundTrip

theorem digits_two (number : Nat) :
    digits 2 number = [48 + number / 10 % 10, 48 + number % 10] := by
  simp [digits]

theorem digits_four (number : Nat) :
    digits 4 number = [48 + number / 1000 % 10, 48 + number / 100 % 10,
      48 + number / 10 % 10, 48 + number % 10] := by
  simp [digits, Nat.div_div_eq_div_mul]

theorem parseDate_isoformat {year month day : Nat} (yearSmall : year < 10000)
    (monthSmall : month < 100) (daySmall : day < 100) :
    parseDate (isoDate year month day) = some (year, month, day) := by
  have years : parseDigits (digits 4 year) = some year := parseDigits_digits (by omega)
  have months : parseDigits (digits 2 month) = some month := parseDigits_digits (by omega)
  have days : parseDigits (digits 2 day) = some day := parseDigits_digits (by omega)
  rw [digits_two] at months days
  rw [digits_four] at years
  rw [isoDate, digits_four, digits_two, digits_two]
  simp [parseDate, field, slice, text, years, months, days]
  omega

theorem parseTimeOfDay_isoformat {hour minute second : Nat} (hourSmall : hour < 100)
    (minuteSmall : minute < 100) (secondSmall : second < 100) (rest : PyString) :
    parseTimeOfDay (digits 2 hour ++ text ":" ++ digits 2 minute ++ text ":" ++
      digits 2 second ++ rest) = parseRest hour minute second rest := by
  have hours : parseDigits (digits 2 hour) = some hour := parseDigits_digits (by omega)
  have minutes : parseDigits (digits 2 minute) = some minute := parseDigits_digits (by omega)
  have seconds : parseDigits (digits 2 second) = some second := parseDigits_digits (by omega)
  rw [digits_two] at hours minutes seconds ⊢
  rw [digits_two, digits_two]
  simp [parseTimeOfDay, field, slice, text, hours, minutes, seconds]

theorem parseRest_isoformat {microsecond : Nat} (small : microsecond < 1000000)
    (hour minute second : Nat) :
    parseRest hour minute second (isoFraction microsecond) =
      some (hour, minute, second, microsecond) := by
  by_cases whole : microsecond = 0
  · simp [isoFraction, whole, parseRest]
  · have parsed : parseDigits (digits 6 microsecond) = some microsecond :=
      parseDigits_digits (by omega)
    have length : (digits 6 microsecond).length = 6 := length_digits 6 microsecond
    have kept : (digits 6 microsecond).take 6 = digits 6 microsecond :=
      List.take_of_length_le (by omega)
    have dropped : (digits 6 microsecond).drop 6 = [] := List.drop_of_length_le (by omega)
    have nonempty : digits 6 microsecond ≠ [] := List.ne_nil_of_length_pos (by omega)
    simp [isoFraction, whole, parseRest, text, parseFraction, kept, dropped, parsed, length,
      nonempty]

/-- A printed time of day holds digits, colons and a point only. -/
theorem isoTime_codePoints {hour minute second microsecond codePoint : Nat}
    (member : codePoint ∈ isoTime hour minute second microsecond) :
    codePoint = 46 ∨ 48 ≤ codePoint ∧ codePoint ≤ 58 := by
  have ofDigits {width number : Nat} (inDigits : codePoint ∈ digits width number) :
      codePoint = 46 ∨ 48 ≤ codePoint ∧ codePoint ≤ 58 := by
    have bounds := digits_bounds inDigits
    omega
  have ofColon (isColon : codePoint ∈ text ":") :
      codePoint = 46 ∨ 48 ≤ codePoint ∧ codePoint ≤ 58 := by
    have same : codePoint = 58 := by simpa [text] using isColon
    omega
  simp only [isoTime, List.mem_append] at member
  rcases member with ((((inHour | colon) | inMinute) | colon) | inSecond) | inFraction
  · exact ofDigits inHour
  · exact ofColon colon
  · exact ofDigits inMinute
  · exact ofColon colon
  · exact ofDigits inSecond
  · unfold isoFraction at inFraction
    split at inFraction
    · simp at inFraction
    · rcases List.mem_append.mp inFraction with isPoint | inDigits
      · exact Or.inl (by simpa [text] using isPoint)
      · exact ofDigits inDigits

/-- A printed date and time holds no `+` and no `Z`. -/
theorem isoformatLocal_codePoints {moment : DateTime} {codePoint : Nat}
    (member : codePoint ∈ isoformatLocal moment) : 45 ≤ codePoint ∧ codePoint ≤ 84 := by
  have ofDigits {width number : Nat} (inDigits : codePoint ∈ digits width number) :
      45 ≤ codePoint ∧ codePoint ≤ 84 := by
    have bounds := digits_bounds inDigits
    omega
  have ofHyphen (isHyphen : codePoint ∈ text "-") : 45 ≤ codePoint ∧ codePoint ≤ 84 := by
    have same : codePoint = 45 := by simpa [text] using isHyphen
    omega
  simp only [isoformatLocal, isoDate, List.mem_append] at member
  rcases member with ((((((inYear | hyphen) | inMonth) | hyphen) | inDay) | separator) | inTime)
  · exact ofDigits inYear
  · exact ofHyphen hyphen
  · exact ofDigits inMonth
  · exact ofHyphen hyphen
  · exact ofDigits inDay
  · have same : codePoint = 84 := by simpa [text] using separator
    omega
  · have bounds := isoTime_codePoints inTime
    omega

theorem idxOf?_append_of_not_mem {front : PyString} {target : Nat} (absent : target ∉ front)
    (rest : PyString) :
    (front ++ target :: rest).idxOf? target = some front.length := by
  induction front with
  | nil => simp [List.idxOf?_cons]
  | cons head tail inductionHypothesis =>
      have different : head ≠ target := fun same => absent (same ▸ List.mem_cons_self)
      have inRest := inductionHypothesis fun member => absent (List.mem_cons_of_mem _ member)
      simp [List.idxOf?_cons, different, inRest]

theorem parseTime_isoformat {hour minute second microsecond : Nat} (hourSmall : hour < 100)
    (minuteSmall : minute < 100) (secondSmall : second < 100)
    (microsecondSmall : microsecond < 1000000) :
    parseTime (isoTime hour minute second microsecond ++ text "+00:00") =
      some ((hour, minute, second, microsecond), some 0) := by
  have noHyphen : 45 ∉ isoTime hour minute second microsecond ++ text "+00:00" := by
    intro member
    rcases List.mem_append.mp member with inTime | inZone
    · have bounds := isoTime_codePoints inTime
      omega
    · simp [text] at inZone
  have noPlus : 43 ∉ isoTime hour minute second microsecond := by
    intro member
    have bounds := isoTime_codePoints member
    omega
  have zone : text "+00:00" = 43 :: text "00:00" := rfl
  have long : 8 ≤ (isoTime hour minute second microsecond).length := by
    simp [isoTime, length_digits, text]
    omega
  have time : parseTimeOfDay (isoTime hour minute second microsecond) =
      some (hour, minute, second, microsecond) := by
    rw [isoTime, parseTimeOfDay_isoformat hourSmall minuteSmall secondSmall,
      parseRest_isoformat microsecondSmall]
  have offset : parseTimeOfDay (text "00:00") = some (0, 0, 0, 0) := by decide
  have position := idxOf?_append_of_not_mem noPlus (text "00:00")
  rw [parseTime, if_neg (by simp [text]), List.idxOf?_eq_none_iff.mpr noHyphen, zone,
    position]
  simp [time, offset, componentMicroseconds]
  simp [text]

theorem findSeparator_isoformat (year month day : Nat) (rest : PyString) :
    findSeparator (isoDate year month day ++ text "T" ++ rest) = some 10 := by
  rw [isoDate, digits_four, digits_two, digits_two]
  simp [findSeparator, text]
  omega

theorem daysInMonth_le (year month : Nat) : daysInMonth year month ≤ 31 := by
  unfold daysInMonth
  split
  · split <;> omega
  · split <;> omega

/-- `fromisoformat` reads what `isoformat` writes. -/
theorem fromisoformat_isoformatUtc {moment : DateTime} (utc : moment.offset = some 0) :
    fromisoformat (isoformatUtc moment) = some moment := by
  obtain ⟨-, yearSmall, -, monthSmall, -, dayInMonth⟩ := moment.dateValid
  obtain ⟨hourSmall, minuteSmall, secondSmall, microsecondSmall⟩ := moment.timeValid
  have daySmall : moment.day < 100 := by
    have bound := daysInMonth_le moment.year moment.month
    omega
  have dateLength : (isoDate moment.year moment.month moment.day).length = 10 := by
    simp [isoDate, length_digits, text]
  have split : isoformatUtc moment = isoDate moment.year moment.month moment.day ++ text "T" ++
      (isoTime moment.hour moment.minute moment.second moment.microsecond ++
        text "+00:00") := by
    rw [isoformatUtc, isoformatLocal, List.append_assoc _ _ (text "+00:00")]
  have dateTaken : (isoformatUtc moment).take 10 =
      isoDate moment.year moment.month moment.day := by
    rw [split, List.append_assoc, List.take_left' dateLength]
  have timeDropped : (isoformatUtc moment).drop 11 =
      isoTime moment.hour moment.minute moment.second moment.microsecond ++
        text "+00:00" := by
    rw [split]
    refine List.drop_left' ?_
    simp [dateLength, text]
  have date := parseDate_isoformat (show moment.year < 10000 by omega)
    (show moment.month < 100 by omega) daySmall
  have time := parseTime_isoformat (show moment.hour < 100 by omega)
    (show moment.minute < 100 by omega) (show moment.second < 100 by omega) microsecondSmall
  have nonempty : (isoTime moment.hour moment.minute moment.second moment.microsecond ++
      text "+00:00").isEmpty = false := by
    simp [text]
  have long : ¬ (isoformatUtc moment).length < 7 := by
    rw [split]
    simp [dateLength]
    omega
  have separator : findSeparator (isoformatUtc moment) = some 10 := by
    rw [split]
    exact findSeparator_isoformat _ _ _ _
  have fields := mk?_fields moment
  rw [utc] at fields
  rw [fromisoformat, if_neg long, separator]
  simp only [Option.bind_eq_bind, Option.bind_some, dateTaken, timeDropped, date, time, nonempty,
    Bool.false_eq_true, if_false, fields]

end RoundTrip

end Calendar
