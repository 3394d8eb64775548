/-
**Values of the programming DSL**, as the YAML loader hands them to the compiler, and the pieces of
the language that the compiler reads them with.

* `Value`, `Dict`: the loaded document; `Value.get`, `Value.iterate`, `truthy`: what the source does
  with a value whatever its kind, with an exception where it raises;
* `pyInt`, `split`: integers and time texts;
* `fromIsoformat`, `weekday`: dates;
* `CompileError`: everything that `compile_schedule` can raise.
-/

import Mathlib
import Retrovue.Core.Schedule.Types

namespace Retrovue.Core.Compiler

open Retrovue.Core.Schedule

/-! ### Values -/

section Values

/-- A loaded YAML value. -/
inductive Value
  | null
  | bool (b : Bool)
  | int (n : Int)
  | str (s : String)
  | date (ordinal : Date)
  | list (items : List Value)
  | dict (entries : List (String × Value))

/-- A `dict`, in insertion order. -/
abbrev Dict := List (String × Value)

/-- What `compile_schedule` raises. Reading a value of the wrong kind is `typeError`, whether the
source raises `TypeError` or `AttributeError`. -/
inductive CompileError
  | validation (errors : List String)
  | compile (message : String)
  | noEpisodes (collectionId : String)
  | noMovieCandidates (collections : List Value)
  | noMoviesMatch (ratingInclude maxDurationSec : Value)
  | notUtc (title : Value) (utcoffset : Int)
  | startNotAligned (title : Value) (startEpoch slotUnit : Int)
  | durationNotAligned (title : Value) (slotDurationSec slotUnit : Int)
  | keyError (key : String)
  | noZone
  | typeError
  | valueError
  | indexError
  | zeroDivision

/-- A computation that may raise. -/
abbrev Compile := Except CompileError

/-- Python's truth value. -/
def Value.truthy : Value → Bool
  | .null => false
  | .bool b => b
  | .int n => n ≠ 0
  | .str s => s ≠ ""
  | .date _ => true
  | .list items => !items.isEmpty
  | .dict entries => !entries.isEmpty

/-- `a or b`. -/
def Value.or (a b : Value) : Value := if a.truthy then a else b

/-- The value is this text. -/
def Value.isStr (v : Value) (text : String) : Bool :=
  match v with
  | .str s => s = text
  | _ => false

def Value.asDict : Value → Compile Dict
  | .dict entries => .ok entries
  | _ => .error .typeError

def Value.asStr : Value → Compile String
  | .str s => .ok s
  | _ => .error .typeError

/-- `d.get(key, default)`. -/
def Value.get (v : Value) (key : String) (default : Value) : Compile Value := do
  let entries ← v.asDict
  .ok ((entries.lookup key).getD default)

/-- The key is in the dict. -/
def Dict.has (entries : Dict) (key : String) : Bool := (entries.lookup key).isSome

/-- Iterating: the elements of a list, the characters of a text, the keys of a dict. -/
def Value.iterate : Value → Compile (List Value)
  | .list items => .ok items
  | .str s => .ok (s.toList.map fun c => .str (String.ofList [c]))
  | .dict entries => .ok (entries.map fun entry => .str entry.1)
  | _ => .error .typeError

/-- `str(v)` for the values a broadcast day is written with. -/
def Value.text : Value → String
  | .str s => s
  | .date ordinal => isoformat ordinal
  | .int n => toString n
  | .bool b => if b then "True" else "False"
  | .null => "None"
  | .list _ => "[]"
  | .dict _ => "{}"

/-- `item in v`, for an item that is a text or nothing. -/
def Value.contains (v : Value) (item : Option String) : Compile Bool :=
  match v, item with
  | .list items, some s => .ok (items.any fun member => member.isStr s)
  | .list items, none => .ok (items.any fun member => member matches .null)
  | .dict entries, some s => .ok (Dict.has entries s)
  | .dict _, none => .ok false
  | .str whole, some s => .ok (decide (s.toList <:+: whole.toList))
  | _, _ => .error .typeError

end Values

/-! ### Numbers and texts -/

section Texts

/-- The digits of a number, single underscores between them. -/
def digits (acc : Nat) : List Char → Option Nat
  | [] => some acc
  | '_' :: c :: rest => if c.isDigit then digits (acc * 10 + (c.toNat - '0'.toNat)) rest else none
  | c :: rest => if c.isDigit then digits (acc * 10 + (c.toNat - '0'.toNat)) rest else none

/-- A number without a sign. -/
def unsigned : List Char → Option Nat
  | [] => none
  | c :: rest => if c.isDigit then digits (c.toNat - '0'.toNat) rest else none

/-- `str.strip`. -/
def strip (cs : List Char) : List Char :=
  ((cs.dropWhile Char.isWhitespace).reverse.dropWhile Char.isWhitespace).reverse

/-- `int(text)`. -/
def pyInt (text : String) : Compile Int :=
  let read : Option Int := match strip text.toList with
    | '-' :: rest => (unsigned rest).map fun n => -(n : Int)
    | '+' :: rest => (unsigned rest).map fun n => (n : Int)
    | cs => (unsigned cs).map fun n => (n : Int)
  match read with
  | some n => .ok n
  | none => .error .valueError

/-- `text.split(":")`. -/
def split (text : String) : List String := (text.toList.splitOn ':').map String.ofList

/-- The hour and, where there is one, the minute of a time text. -/
def hourAndMinute (text : String) : Compile (Int × Option Int) := do
  match split text with
  | hour :: minute :: _ =>
    let minute ← pyInt minute
    let hour ← pyInt hour
    .ok (hour, some minute)
  | [hour] =>
    let hour ← pyInt hour
    .ok (hour, none)
  | [] => .error .indexError

end Texts

/-! ### Dates -/

section Dates

/-- A leap year of the proleptic Gregorian calendar. -/
def isLeap (year : Nat) : Bool := year % 4 = 0 ∧ (year % 100 ≠ 0 ∨ year % 400 = 0)

/-- The days of a month. -/
def daysInMonth (year month : Nat) : Nat :=
  if month = 2 then (if isLeap year then 29 else 28)
  else if month = 4 ∨ month = 6 ∨ month = 9 ∨ month = 11 then 30
  else 31

/-- The ordinal of a civil date, if there is one. -/
def fromCivil (year month day : Nat) : Option Date :=
  if 1 ≤ year ∧ 1 ≤ month ∧ month ≤ 12 ∧ 1 ≤ day ∧ day ≤ daysInMonth year month then
    let before := year - 1
    some (365 * before + before / 4 - before / 100 + before / 400 +
      ((List.range (month - 1)).map fun m => daysInMonth year (m + 1)).sum + day : Nat)
  else none

/-- `date.weekday()`, Monday as zero. -/
def weekday (date : Date) : Nat := ((date + 6) % 7).toNat

/-- The Monday of the first ISO week of a year. -/
def isoWeekOne (year : Nat) : Option Date :=
  (fromCivil year 1 4).map fun fourth => fourth - weekday fourth

/-- A date given by ISO week and weekday; week 53 exists where the year reaches it. -/
def fromIsoWeek (year week day : Nat) : Option Date := do
  let first ← isoWeekOne year
  let next := (isoWeekOne (year + 1)).getD (first + 371)
  if 1 ≤ week ∧ 1 ≤ day ∧ day ≤ 7 ∧ first + 7 * (week - 1 : Int) < next then
    some (first + 7 * (week - 1 : Int) + (day - 1 : Int))
  else none

/-- A number of exactly so many digits. -/
def fixedDigits (width : Nat) (cs : List Char) : Option Nat :=
  if cs.length = width ∧ cs.all Char.isDigit then unsigned cs else none

/-- `date.fromisoformat`: calendar and week dates, with or without separators. -/
def fromIsoformat (text : String) : Compile Date :=
  let cs := text.toList
  let year := fixedDigits 4 (cs.take 4)
  let read : Option Date := match cs.drop 4 with
    | '-' :: 'W' :: w₁ :: w₂ :: [] => do fromIsoWeek (← year) (← fixedDigits 2 [w₁, w₂]) 1
    | '-' :: 'W' :: w₁ :: w₂ :: '-' :: d :: [] => do
      fromIsoWeek (← year) (← fixedDigits 2 [w₁, w₂]) (← fixedDigits 1 [d])
    | 'W' :: w₁ :: w₂ :: [] => do fromIsoWeek (← year) (← fixedDigits 2 [w₁, w₂]) 1
    | 'W' :: w₁ :: w₂ :: d :: [] => do
      fromIsoWeek (← year) (← fixedDigits 2 [w₁, w₂]) (← fixedDigits 1 [d])
    | '-' :: m₁ :: m₂ :: '-' :: d₁ :: d₂ :: [] => do
      fromCivil (← year) (← fixedDigits 2 [m₁, m₂]) (← fixedDigits 2 [d₁, d₂])
    | m₁ :: m₂ :: d₁ :: d₂ :: [] => do
      fromCivil (← year) (← fixedDigits 2 [m₁, m₂]) (← fixedDigits 2 [d₁, d₂])
    | _ => none
  match read with
  | some date => .ok date
  | none => .error .valueError

example : fromIsoformat "2024-04-24" = .ok 739000 ∧ fromIsoformat "2024-W17-3" = .ok 739000 := by
  exact ⟨rfl, rfl⟩

/-- The hours and minutes before a unit letter: the first run of digits that the letter follows,
perhaps after blanks. -/
def unitCount (unit : Char) : Nat → List Char → Option Nat
  | 0, _ => none
  | fuel + 1, cs =>
    let run := (cs.dropWhile fun c => !c.isDigit)
    if run.isEmpty then none
    else
      let after := run.dropWhile Char.isDigit
      match after.dropWhile Char.isWhitespace with
      | c :: _ =>
        if c = unit then unsigned (run.takeWhile Char.isDigit) else unitCount unit fuel after
      | [] => none

/-- `_parse_duration`, in seconds. -/
def parseDuration (durStr : String) : Compile Int := do
  let cs := (strip durStr.toList).map Char.toLower
  let hours := unitCount 'h' cs.length cs
  let minutes := unitCount 'm' cs.length cs
  if hours.isNone ∧ minutes.isNone then
    let hours ← pyInt (String.ofList cs)
    .ok (hours * 3600)
  else .ok ((hours.getD 0 : Nat) * 3600 + (minutes.getD 0 : Nat) * 60)

end Dates

end Retrovue.Core.Compiler
