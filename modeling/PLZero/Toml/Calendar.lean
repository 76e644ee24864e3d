import PLZero.Toml.Numeral

/-! How dates and times are written in a TOML document. A date has a day that its month has; the
last minute of an hour may have a leap second. A date may be followed by a time, and such a time by
its offset from universal time. -/
namespace PLZero.Toml
set_option autoImplicit false

def isLeapYear (y : Nat) : Bool := (y % 4 == 0 && y % 100 != 0) || y % 400 == 0

def daysIn (year month : Nat) : Nat :=
  if month = 2 then (if isLeapYear year then 29 else 28)
  else if month = 4 ∨ month = 6 ∨ month = 9 ∨ month = 11 then 30
  else 31

namespace Reader

/-- The number that two digits make, from `low` to `high`. -/
def pair (low high : Nat) : Reader Nat :=
  check (exactly 2 Char.isDigit) fun ds =>
    let n := digitsValue 10 ds
    if low ≤ n ∧ n ≤ high then .ok n else .error .outOfRange

def date : Reader Unit := do
  let year := digitsValue 10 (← exactly 4 Char.isDigit)
  char '-'
  commit do
    let month ← pair 1 12
    char '-'
    let u ← unread
    let day ← pair 1 31
    accept u (if day ≤ daysIn year month then .ok () else .error .outOfRange)

def time : Reader Unit := do
  let _ ← pair 0 23
  char ':'
  commit do
    let _ ← pair 0 59
    char ':'
    let _ ← pair 0 60
    let _ ← maybe (char '.' *> takeWhile1 Char.isDigit)

def offset : Reader Unit := labelled .offset <|
  (do let _ ← next fun c => c == 'Z' || c == 'z')
  <|> (do
    let _ ← next fun c => c == '+' || c == '-'
    commit do
      let _ ← pair 0 23
      char ':'
      let _ ← pair 0 59)

/-- A date, possibly with a time behind the letter `T` or a blank. -/
def dateWithTime : Reader Unit := do
  date
  let _ ← maybe do
    let _ ← next fun c => c == 'T' || c == 't' || c == ' '
    time
    let _ ← maybe offset

def datetime : Reader Unit := labelled .datetime dateWithTime <|> labelled .time time

end Reader

end PLZero.Toml
