/-!
# The six statistics

The counts that a cache keeps about itself, with the attribute under which a bean gives each of them
and the metric under which it is exported. All lists are in the order in which counts are read and
metrics are exported.
-/

namespace CacheTelemetry

/-- The statistics of a cache. -/
inductive Statistic where
  | hits
  | misses
  | gets
  | puts
  | evictions
  | removals
  deriving DecidableEq, Repr, Inhabited

namespace Statistic

/-- All statistics, in order. -/
def all : List Statistic := [.hits, .misses, .gets, .puts, .evictions, .removals]

/-- The attribute of a bean that gives a statistic. -/
def attrName : Statistic → String
  | .hits => "CacheHits"
  | .misses => "CacheMisses"
  | .gets => "CacheGets"
  | .puts => "CachePuts"
  | .evictions => "CacheEvictions"
  | .removals => "CacheRemovals"

/-- The name that the family of a statistic goes by. -/
def familyName : Statistic → String
  | .hits => "jcache_cache_hit"
  | .misses => "jcache_cache_miss"
  | .gets => "jcache_cache_requests"
  | .puts => "jcache_cache_put"
  | .evictions => "jcache_cache_eviction"
  | .removals => "jcache_cache_remove"

/-- The name of the metric, and of each of its samples. -/
def metricName (s : Statistic) : String := s.familyName ++ "_total"

/-- What the metric counts. -/
def documentation : Statistic → String
  | .hits => "Cache hit totals"
  | .misses => "Cache miss totals"
  | .gets => "Cache request totals, hits + misses"
  | .puts => "Cache put totals, the number of manually added entries"
  | .evictions => "Cache eviction totals, doesn't include manually removed entries"
  | .removals => "Cache removal totals, the number of manually removed entries"

/-- Every statistic is listed. -/
theorem mem_all (s : Statistic) : s ∈ all := by cases s <;> decide

end Statistic

/-- The name of the label that tells caches apart. -/
def labelName : String := "cache"

/-- A count for each statistic. -/
structure Counts where
  hits : Int
  misses : Int
  gets : Int
  puts : Int
  evictions : Int
  removals : Int
  deriving DecidableEq, Repr, Inhabited

namespace Counts

/-- The count of a statistic. -/
def get (c : Counts) : Statistic → Int
  | .hits => c.hits
  | .misses => c.misses
  | .gets => c.gets
  | .puts => c.puts
  | .evictions => c.evictions
  | .removals => c.removals

/-- Counts read one after the other, in order. -/
def readAll {m : Type → Type} [Monad m] (read : Statistic → m Int) : m Counts := do
  let hits ← read .hits
  let misses ← read .misses
  let gets ← read .gets
  let puts ← read .puts
  let evictions ← read .evictions
  let removals ← read .removals
  return ⟨hits, misses, gets, puts, evictions, removals⟩

end Counts

end CacheTelemetry
