import TableQuery.Calendar.Date

namespace TableQuery.Calendar

inductive Bucket
  | day
  | week
  | month
  | quarter
  | year
deriving DecidableEq, Repr

namespace Bucket

def name : Bucket → String
  | .day => "day"
  | .week => "week"
  | .month => "month"
  | .quarter => "quarter"
  | .year => "year"

def all : List Bucket := [.day, .week, .month, .quarter, .year]

/-- The first day of the period that holds `d`; none when the week starts before the calendar. -/
def start? (b : Bucket) (d : Date) : Option Date :=
  match b with
  | .day => some d
  | .week => Date.ofDays? (d.toDays - d.weekday)
  | .month => some { d with day := 1 }
  | .quarter => some ⟨d.year, (d.month - 1) / 3 * 3 + 1, 1⟩
  | .year => some ⟨d.year, 1, 1⟩

end Bucket
end TableQuery.Calendar
