import Phrasebook.Number.Basic

/-!
Counters of renderings by outcome.
-/
namespace Phrasebook

structure Metrics where
  /-- Renderings with a text from a catalog. -/
  catalogHits : Nat := 0
  /-- Renderings of the pattern itself. -/
  passthroughRenders : Nat := 0
  renderFailures : Nat := 0
  deriving DecidableEq

namespace Metrics

def countHit (metrics : Metrics) : Metrics :=
  { metrics with catalogHits := metrics.catalogHits + 1 }

def countPassthrough (metrics : Metrics) : Metrics :=
  { metrics with passthroughRenders := metrics.passthroughRenders + 1 }

def countFailure (metrics : Metrics) : Metrics :=
  { metrics with renderFailures := metrics.renderFailures + 1 }

def total (metrics : Metrics) : Nat :=
  metrics.catalogHits + metrics.passthroughRenders + metrics.renderFailures

/-- The percentage of catalog texts among the renderings that did not fail. The quotient is rounded
before it is multiplied. -/
def hitRate (metrics : Metrics) : Number :=
  let rendered := metrics.catalogHits + metrics.passthroughRenders
  if 0 < rendered then
    ((Number.ofNat metrics.catalogHits).div (Number.ofNat rendered)).mul (Number.ofNat 100)
  else Number.zero false

@[simp] theorem total_countHit (metrics : Metrics) :
    metrics.countHit.total = metrics.total + 1 := by
  simp only [total, countHit]
  omega

@[simp] theorem total_countPassthrough (metrics : Metrics) :
    metrics.countPassthrough.total = metrics.total + 1 := by
  simp only [total, countPassthrough]
  omega

@[simp] theorem total_countFailure (metrics : Metrics) :
    metrics.countFailure.total = metrics.total + 1 := by
  simp only [total, countFailure]
  omega

end Metrics

end Phrasebook
