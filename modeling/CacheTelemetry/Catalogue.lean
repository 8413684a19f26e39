import CacheTelemetry.Metric.Statistic

/-!
# Catalogue

What the library makes known about itself: its version, the attributes that a bean of statistics
must have, the metrics that are exported, and the names that each of its parts makes public.
-/

namespace CacheTelemetry.Catalogue

/-- The version of the library. -/
def version : String := "0.1.0"

/-- The attributes of a bean of statistics, in the order of the exported families. -/
def attrNames : List String := Statistic.all.map Statistic.attrName

/-- Name, documentation and attribute of each metric, in order. -/
def metrics : List (String × String × String) :=
  Statistic.all.map fun s => (s.metricName, s.documentation, s.attrName)

/-- The labels of every sample. -/
def labels : List String := [labelName]

/-- The public names of each part, in the order of code points. -/
def publicNames : List (String × List String) :=
  [("cache_exporter",
      ["AttributeNotFoundError", "BeanOperationError", "CacheExporterError", "CacheExports",
        "CacheManagerHandle", "CacheMetricsCollector", "ExporterConfig", "ExporterConfigError",
        "InstanceAlreadyExistsError", "InstanceNotFoundError", "MalformedObjectNameError",
        "ManagementError", "ManagementRegistry", "MonitoredCache", "ObjectName",
        "PlatformManagementRegistry", "STATISTICS_ATTRIBUTES", "StatisticsReadError",
        "__version__", "cache_statistics_object_name", "get_platform_registry", "registered",
        "sanitize"]),
    ("collector",
      ["CacheMetricsCollector", "METRIC_DEFINITIONS", "cache_statistics_object_name", "sanitize"]),
    ("exceptions",
      ["AttributeNotFoundError", "BeanOperationError", "CacheExporterError",
        "ExporterConfigError", "InstanceAlreadyExistsError", "InstanceNotFoundError",
        "MalformedObjectNameError", "ManagementError", "StatisticsReadError"]),
    ("exports", ["CacheExports", "registered"]),
    ("management",
      ["ManagementRegistry", "ObjectName", "PlatformManagementRegistry", "get_platform_registry"]),
    ("types",
      ["CACHE_EVICTIONS", "CACHE_GETS", "CACHE_HITS", "CACHE_MISSES", "CACHE_PUTS",
        "CACHE_REMOVALS", "CacheManagerHandle", "MonitoredCache", "STATISTICS_ATTRIBUTES"])]

end CacheTelemetry.Catalogue
