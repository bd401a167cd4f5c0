import BeanGauge.Number.Double
/-!
Histograms: for each bound how many observations did not exceed it, and the sum and the number of
all observations.
-/

namespace BeanGauge

/-- The bounds with their counts, and what was observed altogether. Fewer than 2^64 observations are
assumed, so that counters of 64 bits would do. -/
structure Histogram where
  buckets : List (Float × Nat)
  sum : Float
  count : Nat

namespace Histogram

/-- Puts a bound among falling ones, before the first that is not greater. -/
def insertFalling (x : Float) : List Float → List Float
  | [] => [x]
  | y :: ys => if x < y then y :: insertFalling x ys else x :: y :: ys

/-- The bounds in rising order; equal ones keep their order. -/
def sortBounds (bounds : List Float) : List Float :=
  (bounds.foldl (fun falling x => insertFalling x falling) []).reverse

/-- The bounds of a histogram: the given ones in rising order, and infinity after them. -/
def completeBounds (bounds : List Float) : List Float :=
  let sorted := sortBounds bounds
  if (sorted.getLast?.map Float.isInf).getD false then sorted
  else sorted ++ [Float.ofBits 0x7ff0000000000000]

def ofBounds (bounds : List Float) : Histogram :=
  ⟨(completeBounds bounds).map fun b => (b, 0), 0.0, 0⟩

def observe (h : Histogram) (x : Float) : Histogram where
  buckets := h.buckets.map fun b => if x ≤ b.1 then (b.1, b.2 + 1) else b
  sum := h.sum + x
  count := h.count + 1

/-- The bounds for the duration of dumps, in seconds. -/
def dumpBounds : List Float := [0.1, 0.25, 0.5, 1.0, 2.5, 5.0, 10.0, 20.0, 30.0, 60.0]

end Histogram

end BeanGauge
