import CacheTelemetry.Datum
import CacheTelemetry.ObjectName.Basic

/-!
# The object name of a cache's statistics

The statistics of a cache are found under a name composed of the statistics type, the address of the
cache's manager and the name of the cache. Before they go into the name, manager and cache name are
sanitized: the four characters that separate the parts of a written name become points.
-/

namespace CacheTelemetry

/-- A character that sanitizing replaces. -/
def isSeparator (c : Char) : Bool := c == ',' || c == ':' || c == '=' || c == '\n'

/-- Sanitizing of one character. -/
def sanitizeChar (c : Char) : Char := if isSeparator c then '.' else c

/-- A text with points in the place of separators. -/
def sanitizeText (s : String) : String := s.map sanitizeChar

/-- The sanitized text of a value; null has the empty text. -/
def sanitize {α : Type} (leaf : α → String) : Datum α → String
  | .null => ""
  | x => sanitizeText (x.plainWith leaf)

/-- A composed name that broke a rule: the cache name that was to go into it, and the rule. -/
structure UnusableCacheName where
  cacheName : String
  fault : Malformed
  deriving DecidableEq, Repr, Inhabited

/-- The wording for a composed name that broke a rule. -/
def UnusableCacheName.message (u : UnusableCacheName) : String :=
  "Cache name '" ++ u.cacheName ++ "' results in an invalid object name"

/-- The name under which the statistics of a cache are registered. -/
def statisticsName (domain statisticsType manager cacheName : String) :
    Except UnusableCacheName ObjectName :=
  (ObjectName.ofProperties domain
    [("type", statisticsType), ("CacheManager", manager), ("Cache", cacheName)]).mapError
    fun fault => ⟨cacheName, fault⟩

/-- What a composed name is written like. -/
def statisticsText (domain statisticsType manager cacheName : String) : String :=
  domain ++ ":type=" ++ statisticsType ++ ",CacheManager=" ++ manager ++ ",Cache=" ++ cacheName

end CacheTelemetry
