import Sentential.Rows

/-! Rows as the wheels of an odometer. Each wheel is a byte, 0 or 1. The wheels turn in place from the
last one on, and what a full turn leaves behind is thrown away. The rows still to come are counted in a
word of 64 bits, where they fit into one. -/
namespace Sentential

/-- The number of rows as a word: a single row, doubled for each wheel. -/
def wordCount? (width : Nat) : Option UInt64 :=
  if width < 64 then some (1 <<< width.toUInt64) else none

/-- One less, but not below zero. -/
def saturatingPred (count : UInt64) : UInt64 := if count = 0 then 0 else count - 1

structure Odometer where
  current? : Option (List UInt8)
  reversed : Bool
  remaining? : Option UInt64
  deriving DecidableEq, Repr

namespace Odometer

def start (width : Nat) (reversed : Bool) : Odometer :=
  ⟨some (List.replicate width (if reversed then 1 else 0)), reversed, wordCount? width⟩

/-- Turns wheels, given from the last to the first. Those that are spent start afresh, up to one that
is not, which turns and stops the rest. Whether there was one comes second. -/
def turn (spent fresh : UInt8) : List UInt8 → List UInt8 × Bool
  | [] => ([], false)
  | wheel :: wheels =>
    if wheel = spent then
      let (turned, stopped) := turn spent fresh wheels
      (fresh :: turned, stopped)
    else (spent :: wheels, true)

/-- Turns a row to the one after it. After the last row it comes round to the first, and says so. -/
def step (reversed : Bool) (row : List UInt8) : List UInt8 × Bool :=
  let (spent, fresh) := if reversed then (0, 1) else (1, 0)
  let (turned, stopped) := turn spent fresh row.reverse
  (turned.reverse, stopped)

/-- The row to come, and the odometer with that row taken. -/
def next (odometer : Odometer) : Option (List UInt8) × Odometer :=
  match odometer.current? with
  | none => (none, odometer)
  | some row =>
    let (turned, stopped) := step odometer.reversed row
    (some row,
      { odometer with
        current? := if stopped then some turned else none
        remaining? := odometer.remaining?.map saturatingPred })

def sizeBounds (odometer : Odometer) : UInt64 × Option UInt64 :=
  match odometer.current?.isSome, odometer.remaining? with
  | false, _ => (0, some 0)
  | true, some count => (count, some count)
  | true, none => (.ofNat maxCount, none)

end Odometer
end Sentential
