import BeanGauge.Metric.Basic
/-!
Allow lists: tables of the leaves that an integration sends, each with the tag it must carry, its
name and its kind.
-/

namespace BeanGauge

/-- A leaf that is sent when its bean has the tag, under the name and as the kind given. -/
structure AllowRule where
  leaf : String
  tagKey : String
  tagValue : String
  name : String
  kind : MetricKind
  deriving DecidableEq

/-- Whether the rule speaks of the metric. -/
def AllowRule.applies (r : AllowRule) (m : Metric) : Bool :=
  r.leaf == m.leaf && m.tag? r.tagKey == some r.tagValue

/-- The first rule that speaks of the metric. -/
def AllowRule.lookup? (rules : List AllowRule) (m : Metric) : Option AllowRule :=
  rules.find? (·.applies m)

namespace AllowRule

def activemq : List AllowRule :=
  let queue (leaf name : String) (kind : MetricKind) : AllowRule :=
    ⟨leaf, "Type", "Queue", "activemq.queue." ++ name, kind⟩
  let broker (leaf name : String) : AllowRule :=
    ⟨leaf, "Type", "Broker", "activemq.broker." ++ name, .gauge⟩
  [ queue "AverageEnqueueTime" "avg_enqueue_time" .gauge,
    queue "ConsumerCount" "consumer_count" .gauge,
    queue "ProducerCount" "producer_count" .gauge,
    queue "MaxEnqueueTime" "max_enqueue_time" .gauge,
    queue "MinEnqueueTime" "min_enqueue_time" .gauge,
    queue "MemoryPercentUsage" "memory_pct" .gauge,
    queue "QueueSize" "size" .gauge,
    queue "DequeueCount" "dequeue_count" .counter,
    queue "DispatchCount" "dispatch_count" .counter,
    queue "EnqueueCount" "enqueue_count" .counter,
    queue "ExpiredCount" "expired_count" .counter,
    queue "InFlightCount" "in_flight_count" .counter,
    broker "MemoryPercentUsage" "memory_pct",
    broker "StorePercentUsage" "store_pct",
    broker "TempPercentUsage" "temp_pct" ]

/-- Searchers, caches and search handlers. -/
def solr : List AllowRule :=
  let searcher (leaf name : String) : AllowRule :=
    ⟨leaf, "type", "searcher", "solr.searcher." ++ name, .gauge⟩
  let fastLru (leaf name : String) : AllowRule :=
    ⟨leaf, "id", "org.apache.solr.search.FastLRUCache", "solr.cache." ++ name, .counter⟩
  let lru (leaf name : String) : AllowRule :=
    ⟨leaf, "id", "org.apache.solr.search.LRUCache", "solr.cache." ++ name, .counter⟩
  let handler (leaf name : String) (kind : MetricKind) : AllowRule :=
    ⟨leaf, "id", "org.apache.solr.handler.component.SearchHandler",
      "solr.search_handler." ++ name, kind⟩
  [ searcher "maxDoc" "maxdoc",
    searcher "numDocs" "numdocs",
    searcher "warmupTime" "warmup",
    fastLru "cumulative_lookups" "lookups",
    lru "cumulative_lookups" "lookups",
    fastLru "cumulative_hits" "hits",
    lru "cumulative_hits" "hits",
    fastLru "cumulative_inserts" "inserts",
    lru "cumulative_inserts" "inserts",
    fastLru "cumulative_evictions" "evictions",
    lru "cumulative_evictions" "evictions",
    handler "errors" "errors" .counter,
    handler "requests" "requests" .counter,
    handler "timeouts" "timeouts" .counter,
    handler "totalTime" "time" .counter,
    handler "avgTimePerRequest" "avg_time_per_req" .gauge,
    handler "avgRequestsPerSecond" "avg_requests_per_sec" .gauge ]

/-- Thread pools, request processors, caches, pages and servlets. -/
def tomcat : List AllowRule :=
  let rule (tagKey tagValue leaf name : String) (kind : MetricKind) : AllowRule :=
    ⟨leaf, tagKey, tagValue, "tomcat." ++ name, kind⟩
  let pool := rule "type" "ThreadPool"
  let processor := rule "type" "GlobalRequestProcessor"
  let cache := rule "type" "Cache"
  let pages := rule "type" "JspMonitor"
  let servlet := rule "j2eeType" "Servlet"
  [ pool "maxThreads" "threads.max" .gauge,
    pool "currentThreadCount" "threads.count" .gauge,
    pool "currentThreadsBusy" "threads.busy" .gauge,
    processor "bytesSent" "bytes_sent" .counter,
    processor "bytesReceived" "bytes_rcvd" .counter,
    processor "processingTime" "processing_time" .counter,
    processor "errorCount" "error_count" .counter,
    processor "requestCount" "request_count" .counter,
    processor "maxTime" "max_time" .gauge,
    cache "accessCount" "cache.access_count" .counter,
    cache "hitsCount" "cache.hits_count" .counter,
    pages "jspCount" "jsp.count" .counter,
    pages "jspReloadCount" "jsp.reload_count" .counter,
    servlet "errorCount" "servlet.error_count" .counter,
    servlet "processingTime" "servlet.processing_time" .counter,
    servlet "requestCount" "servlet.request_count" .counter ]

end AllowRule

end BeanGauge
