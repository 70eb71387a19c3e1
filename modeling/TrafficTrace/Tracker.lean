/-! Hosts of analytics and advertising services. A host is a tracker when it is one of the domains or
lies below one. -/
namespace TrafficTrace.Tracker

def domains : List String := [
  "google-analytics.com", "googletagmanager.com", "doubleclick.net", "googlesyndication.com",
  "googleadservices.com", "facebook.net", "connect.facebook.com", "segment.io", "segment.com",
  "mixpanel.com", "amplitude.com", "hotjar.com", "fullstory.com", "heapanalytics.com",
  "intercom.io", "newrelic.com", "nr-data.net", "sentry.io", "bugsnag.com", "datadoghq.com",
  "browser-intake-datadoghq.com", "optimizely.com", "launchdarkly.com", "clarity.ms",
  "bat.bing.com", "ads.linkedin.com", "analytics.tiktok.com", "stats.wp.com"]

/-- What follows each dot, the longest first. -/
def afterDots : List Char → List (List Char)
  | [] => []
  | c :: cs => if c = '.' then cs :: afterDots cs else afterDots cs

/-- The host and the domains above it that still have a dot. -/
def candidates (host : List Char) : List (List Char) :=
  host :: (afterDots host).takeWhile (·.contains '.')

/-- For a host in lower case without its port. -/
def isTrackerHost (host : String) : Bool :=
  (candidates host.toList).any fun c => domains.any fun d => c == d.toList

example : isTrackerHost "a.sentry.io" ∧ ¬ isTrackerHost "asentry.io" ∧ ¬ isTrackerHost "io" := by
  decide +kernel

end TrafficTrace.Tracker
