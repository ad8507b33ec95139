/-! What an interceptor tells about its cache. -/

namespace Lifecycle

/-- Sizes of the two caches and the counters of an interceptor, at one moment. -/
structure Stats where
  cachedListeners : Nat
  cachedClasses : Nat
  listenersCreated : Nat
  eligibilityChecks : Nat
  cacheHits : Nat
  deriving DecidableEq, Repr

/-- The statistics as one line of text. -/
def Stats.summary (stats : Stats) : String :=
  "Interceptor Stats: " ++ toString stats.cachedListeners ++ " listeners for "
    ++ toString stats.cachedClasses ++ " classes, " ++ toString stats.listenersCreated
    ++ " created, " ++ toString stats.eligibilityChecks ++ " eligibility checks, "
    ++ toString stats.cacheHits ++ " cache hits"

end Lifecycle
