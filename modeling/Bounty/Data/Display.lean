import Bounty.Data
/-!
How messages show data: texts are quoted, collections stand in brackets and braces.
-/
namespace Bounty

def spread (parts : List String) : String := ", ".intercalate parts

/-- The numbers of a moment, without a time that ends in zeros. -/
def Moment.numbers (m : Moment) : List Nat :=
  [m.date.year, m.date.month, m.date.day, m.hour, m.minute] ++
    if m.microsecond ≠ 0 then [m.second, m.microsecond]
    else if m.second ≠ 0 then [m.second]
    else []

/-- A distance from universal time, as days and seconds of which only the days may be negative. -/
def zoneDisplay (minutes : Int) : String :=
  if minutes = 0 then "datetime.timezone.utc"
  else if minutes < 0 then
    let seconds := (minutes + Moment.minutesPerDay).toNat * 60
    s!"datetime.timezone(datetime.timedelta(days=-1, seconds={seconds}))"
  else s!"datetime.timezone(datetime.timedelta(seconds={minutes.toNat * 60}))"

def Scalar.display : Scalar → String
  | .text s => Text.quoted s
  | .date d => "datetime.date(" ++ spread ([d.year, d.month, d.day].map Nat.repr) ++ ")"
  | .moment m =>
    let zone := match m.offset with
      | none => []
      | some minutes => ["tzinfo=" ++ zoneDisplay minutes]
    "datetime.datetime(" ++ spread (m.numbers.map Nat.repr ++ zone) ++ ")"
  | s => s.write

/-- A set without members has no braces. -/
def setDisplay (members : List Scalar) : String :=
  if members.isEmpty then "set()"
  else "\x7b" ++ spread (members.map Scalar.display) ++ "\x7d"

namespace Data

mutual

def display : Data → String
  | .scalar s => s.display
  | .list items => "[" ++ spread (displays items) ++ "]"
  | .mapping entries => "\x7b" ++ spread (entryDisplays entries) ++ "\x7d"
  | .set members => setDisplay members
  | .pair first second => "(" ++ first.display ++ ", " ++ second.display ++ ")"

def displays : List Data → List String
  | [] => []
  | d :: rest => d.display :: displays rest

def entryDisplays : List (Scalar × Data) → List String
  | [] => []
  | (key, value) :: rest => (key.display ++ ": " ++ value.display) :: entryDisplays rest

end

end Data

end Bounty
