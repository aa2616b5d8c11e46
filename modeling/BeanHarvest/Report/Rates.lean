import BeanHarvest.Decimal.Notation
import BeanHarvest.Keyed

/-! Rates: change per second between a value and the one before it. The last value of every series is
kept, by instance and by the identity of the series. -/
namespace BeanHarvest

/-- A value and the millisecond at which it was taken. -/
structure Baseline where
  value : Float
  time : Int

namespace Baseline

/-- The change per second from a baseline to a value, if it is finite. -/
def rate? (before : Baseline) (value : Float) (time : Int) : Option Float :=
  let elapsed := Number.toFloat (.whole (time - before.time))
  let rate := 1000.0 * (value - before.value) / elapsed
  if isFinite rate then some rate else none

end Baseline

abbrev Baselines := Keyed (Keyed Baseline)

namespace Baselines

def ofInstance (baselines : Baselines) (name : String) : Keyed Baseline :=
  (Keyed.get? baselines name).getD []

def get? (baselines : Baselines) (name identity : String) : Option Baseline :=
  Keyed.get? (baselines.ofInstance name) identity

def tracked (baselines : Baselines) (name : String) : Nat := (baselines.ofInstance name).length

/-- Take in a value: it is the new baseline, and it gives a rate if there was one before. -/
def observe (baselines : Baselines) (name identity : String) (value : Float) (time : Int) :
    Option Float × Baselines :=
  let before := baselines.get? name identity
  (before.bind (·.rate? value time),
    Keyed.insert baselines name
      (Keyed.insert (baselines.ofInstance name) identity ⟨value, time⟩))

def clear (baselines : Baselines) (name : String) : Baselines :=
  baselines.filter (·.1 ≠ name)

/-- Keep of an instance's baselines only those of some series. -/
def retain (baselines : Baselines) (name : String) (live : List String) : Baselines :=
  baselines.map fun (other, series) =>
    if other = name then (other, series.filter fun (identity, _) => live.contains identity)
    else (other, series)

end Baselines
end BeanHarvest
