/-
**Moments.**

A moment is kept as a day and a time of day in universal time, to the billionth of a second.  It is
written as RFC 3339 says, with no more digits of the second than it needs, in groups of three.  The
reader is more liberal than that: numbers may lack their leading zeros, blanks may stand between the
parts, and the offset from universal time may lack its colon or be called `UTC`.

Main definitions:

* `ChapterAssembly.Timestamp` — a moment;
* `Timestamp.text` — a moment as text, with a given name for universal time;
* `Timestamp.east` — the moment at which a clock ahead of universal time shows a given time;
* `Timestamp.ofText?` — the moment that a text names.
-/

import ChapterAssembly.Time.Date

set_option relaxedAutoImplicit false
set_option autoImplicit false

namespace ChapterAssembly

/-- A moment.  A leap second is the second before it, with a billion billionths or more. -/
@[ext]
structure Timestamp where
  date : Date
  /-- The second of the day. -/
  second : Nat
  nanosecond : Nat
  second_lt : second < 86400
  nanosecond_lt : nanosecond < 2000000000
  minute_ends : 1000000000 ≤ nanosecond → second % 60 = 59
deriving DecidableEq

namespace Timestamp

/-- The moment at a time of day, if there is such a time; second `60` is a leap second. -/
def of? (date : Date) (hour minute second nanosecond : Nat) : Option Timestamp :=
  let leap := second = 60
  let s := (hour * 60 + minute) * 60 + (if leap then 59 else second)
  let n := nanosecond + (if leap then 1000000000 else 0)
  if h : hour < 24 ∧ minute < 60 ∧ second ≤ 60 ∧ nanosecond < 1000000000 then
    some ⟨date, s, n, by simp only [s, leap]; split <;> omega,
      by simp only [n, leap]; split <;> omega, by simp only [n, s, leap]; split <;> omega⟩
  else none

/-! ### Writing -/

/-- A year: four digits, and a sign if these are not enough. -/
def yearText (year : Int) : Text :=
  let digits := Text.padStart 4 '0' (Text.ofNat year.natAbs)
  if year < 0 then '-' :: digits else if 9999 < year then '+' :: digits else digits

/-- A number below one hundred. -/
def twoDigits (n : Nat) : Text := Text.padStart 2 '0' (Text.ofNat n)

/-- Billionths of a second: none, three, six or nine digits. -/
def fractionText (n : Nat) : Text :=
  if n = 0 then []
  else if n % 1000000 = 0 then '.' :: Text.padStart 3 '0' (Text.ofNat (n / 1000000))
  else if n % 1000 = 0 then '.' :: Text.padStart 6 '0' (Text.ofNat (n / 1000))
  else '.' :: Text.padStart 9 '0' (Text.ofNat n)

/-- A moment as text; `zone` names universal time. -/
def text (zone : Text) (t : Timestamp) : Text :=
  yearText t.date.year ++ ['-'] ++ twoDigits t.date.month ++ ['-'] ++ twoDigits t.date.day ++
    ['T'] ++ twoDigits (t.second / 3600) ++ [':'] ++ twoDigits (t.second / 60 % 60) ++ [':'] ++
    twoDigits (t.second % 60 + t.nanosecond / 1000000000) ++
    fractionText (t.nanosecond % 1000000000) ++ zone

/-! ### Clocks ahead of universal time -/

/-- The moment at which a clock that is whole minutes ahead of universal time, less than a day,
shows the time `t`. -/
def east (minutes : Nat) (h : minutes < 1440) (t : Timestamp) : Timestamp :=
  if hs : minutes * 60 ≤ t.second then
    { t with
      second := t.second - minutes * 60
      second_lt := by have := t.second_lt; omega
      minute_ends := by have := t.minute_ends; omega }
  else
    { t with
      date := t.date.previous
      second := t.second + 86400 - minutes * 60
      second_lt := by omega
      minute_ends := by have := t.minute_ends; omega }

/-- The moment at which a clock that is whole minutes behind universal time, less than a day, shows
the time `t`. -/
def west (minutes : Nat) (h : minutes < 1440) (t : Timestamp) : Timestamp :=
  if hs : t.second + minutes * 60 < 86400 then
    { t with
      second := t.second + minutes * 60
      second_lt := hs
      minute_ends := by have := t.minute_ends; omega }
  else
    { t with
      date := t.date.next
      second := t.second + minutes * 60 - 86400
      second_lt := by have := t.second_lt; omega
      minute_ends := by have := t.minute_ends; omega }

/-! ### Reading -/

/-- Reads the start of a text. -/
abbrev Reader := StateT Text Option

namespace Reader

/-- Blank characters, or none. -/
def blanks : Reader Unit := modify Text.trimStart

/-- One of some characters. -/
def oneOf (cs : Text) : Reader Char
  | [] => none
  | c :: t => if c ∈ cs then some (c, t) else none

/-- A number of at most `most` digits behind blanks. -/
def number (most : Nat) : Reader Nat := do
  blanks
  let t ← get
  let digits := (t.take most).takeWhile Text.isAsciiDigit
  set (t.drop digits.length)
  Text.decimal? digits

/-- A number of exactly two digits. -/
def pair : Reader Nat := do
  let t ← get
  set (t.drop 2)
  if t.length < 2 then failure else Text.decimal? (t.take 2)

/-- A year: with a sign it may have any number of digits. -/
def year : Reader Int := do
  blanks
  match ← get with
  | '-' :: t => do
    if (t.head?.map Text.isAsciiDigit).getD false then
      set t
      return -(Int.ofNat (← number t.length))
    else failure
  | '+' :: t =>
    if (t.head?.map Text.isAsciiDigit).getD false then
      set t
      return Int.ofNat (← number t.length)
    else failure
  | _ => return Int.ofNat (← number 4)

/-- A mark behind blanks. -/
def mark (c : Char) : Reader Unit := do
  blanks
  let _ ← oneOf [c]

/-- A day in a year that can be kept. -/
def kept (d : Date) : Reader Date :=
  if -262143 ≤ d.year ∧ d.year ≤ 262142 then return d else failure

/-- A day. -/
def date : Reader Date := do
  let y ← year
  mark '-'
  let m ← number 2
  mark '-'
  let d ← number 2
  kept (← Date.of? y m d)

/-- Billionths of a second behind a point, if one stands there; digits after the ninth do not
count. -/
def fraction : Reader Nat := do
  match ← get with
  | '.' :: t =>
    let digits := t.takeWhile Text.isAsciiDigit
    set (t.drop digits.length)
    Text.decimal? (Text.padEnd 9 '0' (digits.take 9)) |>.filter fun _ => !digits.isEmpty
  | _ => return 0

/-- How far a clock is ahead of universal time or behind it, applied to the time that it shows. -/
def offset (t : Timestamp) : Reader Timestamp := do
  blanks
  match ← get with
  | c :: rest =>
    if c = 'Z' ∨ c = 'z' then
      set rest
      return t
    else if Text.asciiLower ((c :: rest).take 3) = "utc" then
      set (rest.drop 2)
      return t
    else
      let sign ← oneOf ['+', '-', '\u2212']
      let hours ← pair
      modify (List.dropWhile fun c => c == ':' || Text.isBlank c)
      let minutes ← pair
      if h : hours * 60 + minutes < 1440 then
        if 60 ≤ minutes then failure
        else return if sign = '+' then t.east _ h else t.west _ h
      else failure
  | [] => failure

/-- A moment. -/
def timestamp : Reader Timestamp := do
  let d ← date
  let _ ← oneOf ['T', 't', ' ']
  let hour ← number 2
  mark ':'
  let minute ← number 2
  mark ':'
  let second ← number 2
  let nanosecond ← fraction
  let t ← offset (← of? d hour minute second nanosecond)
  let _ ← kept t.date
  return t

end Reader

/-- The moment that a text names, if it names one. -/
def ofText? (t : Text) : Option Timestamp := do
  let (moment, rest) ← Reader.timestamp t
  if Text.isBlankText rest then return moment else none

end Timestamp

end ChapterAssembly
