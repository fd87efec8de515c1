import GeneralExecution.Objects.Errors

namespace GeneralExecution

-- `raw.replace("Z", "+00:00")`
def replaceZulu (cs : List Char) : List Char :=
  cs.flatMap fun c => if c = 'Z' then "+00:00".toList else [c]

-- `datetime`: the time on the clock in microseconds, and the offset of its time zone if it has one.
@[ext]
structure Datetime where
  clock  : Int
  offset : Option Int
deriving DecidableEq

-- `datetime.fromisoformat` and `datetime.isoformat`
class IsoFormat where
  fromisoformat? : List Char → Option Datetime
  isoformat      : Datetime → String

-- An hour of the first of January 2026, and how it is written.
def Datetime.hour (n : Nat) : Datetime :=
  ⟨63902822400000000 + 3600000000 * n, some 0⟩

def Datetime.hourText (n : Nat) : List Char :=
  "2026-01-01T".toList ++ [Char.ofNat (48 + n / 10), Char.ofNat (48 + n % 10)] ++
    ":00:00+00:00".toList

-- The part of the two functions that is about the hours of that day.
@[reducible]
def IsoFormat.hours : IsoFormat where
  fromisoformat? cs :=
    ((List.range 24).find? fun n => Datetime.hourText n = cs).map Datetime.hour
  isoformat d       :=
    String.ofList <| ((List.range 24).find? fun n => Datetime.hour n = d).elim [] Datetime.hourText

-- A time with a time zone.
def Datetime.Aware (d : Datetime) : Prop :=
  d.offset.isSome = true

instance : DecidablePred Datetime.Aware :=
  fun d => inferInstanceAs <| Decidable (d.offset.isSome = true)

-- The order of two times that both have a time zone or both have none.
def Datetime.lt (a b : Datetime) : Py Bool :=
  match a.offset, b.offset with
  | none,   none   => return a.clock < b.clock
  | some o, some p => return a.clock - o < b.clock - p
  | _,      _      => Py.raise .typeError "can't compare offset-naive and offset-aware datetimes"

-- The point in time of a clock.
def Datetime.instant (d : Datetime) : Int :=
  d.clock - d.offset.getD 0

theorem Datetime.lt_eq_ok {a b : Datetime} {before : Bool} :
    a.lt b = .ok before ↔
      a.offset.isSome = b.offset.isSome ∧ before = decide (a.instant < b.instant) := by
  unfold lt instant
  split
  case h_1 h h' =>
    rw [h, h', Except.pure_eq_ok, eq_comm]
    simp
  case h_2 h h' =>
    rw [h, h', Except.pure_eq_ok, eq_comm]
    simp
  case h_3 hn hs =>
    have ho : a.offset.isSome ≠ b.offset.isSome := by
      cases ha : a.offset <;> cases hb : b.offset <;> simp_all
    simp [ho, Py.raise]

end GeneralExecution
