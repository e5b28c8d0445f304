/-!
# Histograms

A histogram counts how many observations reach up to each of its bounds, and
keeps their sum and number.
-/

namespace Switchboard

/-- The bounds of the buckets: half a thousandth, doubled fifteen times. -/
def latencyBounds : List Float :=
  doublings 15 0.0005
where
  doublings : Nat → Float → List Float
    | 0, bound => [bound]
    | count + 1, bound => bound :: doublings count (bound * 2)

structure Histogram where
  /-- For each bound, the observations that reach no lower one. -/
  buckets : List (Float × UInt64)
  sum : Float
  count : UInt64
  deriving Repr

namespace Histogram

def empty (bounds : List Float) : Histogram :=
  { buckets := bounds.map fun bound => (bound, 0), sum := 0, count := 0 }

/-- Counts a value in the first bucket whose bound it does not pass. -/
def countIn (value : Float) :
    List (Float × UInt64) → List (Float × UInt64)
  | [] => []
  | (bound, count) :: rest =>
      if value ≤ bound then
        (bound, count + 1) :: rest
      else
        (bound, count) :: countIn value rest

def observe (histogram : Histogram) (value : Float) : Histogram :=
  { buckets := countIn value histogram.buckets
    sum := histogram.sum + value
    count := histogram.count + 1 }

/-- For each bound, the observations up to it. -/
def cumulative (histogram : Histogram) : List (Float × UInt64) :=
  go 0 histogram.buckets
where
  go (below : UInt64) : List (Float × UInt64) → List (Float × UInt64)
    | [] => []
    | (bound, count) :: rest =>
        (bound, below + count) :: go (below + count) rest

end Histogram

end Switchboard
