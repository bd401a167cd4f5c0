import BeanGauge.Check.Runner
import BeanGauge.Json.Writer
/-!
What the bridge answers over HTTP. Only a request for the metrics does anything: it checks all
instances once and answers with everything they emitted and what the bridge counts itself.
-/

namespace BeanGauge

def version : String := "0.1.0"

namespace Web

/-- A request; only what decides the answer. -/
structure Request where
  method : String
  /-- The path with the query behind it. -/
  target : String
  deriving DecidableEq

structure Response where
  status : Nat
  contentType : Option String
  body : String
  deriving DecidableEq

inductive Route where
  | root
  | health
  | checks
  | metrics
  deriving DecidableEq

/-- What is behind the scheme and the host of a target that names them. -/
def withoutHost (target : List Char) : List Char :=
  match ["http://", "https://"].find? fun scheme => scheme.toList.isPrefixOf target with
  | some scheme => (target.drop scheme.length).dropWhile fun c => c != '/' && c != '?' && c != '#'
  | none => target

/-- The path of a target, without its query. Behind a host an empty path is the root. -/
def pathOf (target : String) : String :=
  let rest := withoutHost target.toList
  let path := rest.takeWhile fun c => c != '?' && c != '#'
  if path.isEmpty && rest.length < target.length then "/" else String.ofList path

/-- Whether a path fits a pattern, in which a part behind a colon stands for any part that is not
empty, and what is behind a star for any rest that is not empty. -/
def fits : List Char → List Char → Bool
  | '/' :: '*' :: _, '/' :: rest => !rest.isEmpty
  | '/' :: ':' :: pattern, '/' :: rest =>
    let value := rest.takeWhile (· != '/')
    !value.isEmpty && fits (pattern.dropWhile (· != '/')) (rest.drop value.length)
  | p :: pattern, c :: rest => p == c && fits pattern rest
  | [], [] => true
  | _, _ => false
termination_by pattern => pattern.length
decreasing_by
  · have := (List.dropWhile_sublist (l := pattern) (fun c => c != '/')).length_le
    simp only [List.length_cons]
    omega
  · simp

/-- What a path asks for, with the path of the metrics configured. -/
def route? (metricsPath path : String) : Option Route :=
  if path = "/" then some .root
  else if path = "/health" then some .health
  else if path = "/checks" then some .checks
  else if fits metricsPath.toList path.toList then some .metrics
  else none

def rootPage (metricsPath : String) : String :=
  "<!DOCTYPE html>\n<html>\n<head>\n    <title>rJMX-Bridge</title>\n</head>\n<body>\n" ++
  "    <h1>rJMX-Bridge</h1>\n    <p>Version: " ++ version ++ "</p>\n    <ul>\n" ++
  "        <li><a href=\"/health\">Health Check</a></li>\n" ++
  "        <li><a href=\"/checks\">Checks</a></li>\n" ++
  "        <li><a href=\"" ++ metricsPath ++ "\">Metrics</a></li>\n" ++
  "    </ul>\n</body>\n</html>"

def health : Json := .object [("status", .string "healthy"), ("version", .string version)]

/-- A configured instance as it is listed. -/
def summary (check : Check) (i : CheckInstance) : Json :=
  .object [("integration", .string check.name), ("instance", .string i.name),
    ("host", .string i.config.host), ("port", .int i.config.port.toNat),
    ("domains", Json.ofOption Json.strings i.domains)]

/-- All configured instances as they are listed. -/
def summaries (r : Runner) : Json :=
  .array (r.checks.flatMap fun check => check.instances.map (summary check))

/-- The lines behind all others: the version, and how the scrape went. -/
def trailer (seconds : Float) (failed : Nat) : String :=
  "# HELP rjmx_bridge_info rJMX-Bridge information\n# TYPE rjmx_bridge_info gauge\n" ++
  "rjmx_bridge_info\x7bversion=\"" ++ version ++ "\"\x7d 1\n" ++
  "# HELP rjmx_bridge_scrape_duration_seconds Time spent running all checks\n" ++
  "# TYPE rjmx_bridge_scrape_duration_seconds gauge\n" ++
  "rjmx_bridge_scrape_duration_seconds " ++ Number.plainStyle.write seconds ++ "\n" ++
  "# HELP rjmx_bridge_scrape_failures Number of instances that failed this scrape\n" ++
  "# TYPE rjmx_bridge_scrape_failures gauge\n" ++
  "rjmx_bridge_scrape_failures " ++ toString failed ++ "\n"

variable {π : Type}

/-- Checks all instances: the text of everything that came of it. -/
def scrape (b : Behaviour π) (r : Runner) (w : Bridge π) : String × Bridge π :=
  let (summary, sink, w') := r.runAll b ∅ w
  let seconds := Number.nearest (w'.host.clock - w.host.clock) 1000
  (Exposition.render sink ++ w'.registry.format ++ trailer seconds summary.failed, w')

/-- The answer to a request for something that is there. -/
def answer (b : Behaviour π) (c : Config) (r : Runner) (w : Bridge π) : Route → Response × Bridge π
  | .root => (⟨200, some "text/html; charset=utf-8", rootPage c.server.path⟩, w)
  | .health => (⟨200, some "application/json", health.compress⟩, w)
  | .checks => (⟨200, some "application/json", (summaries r).compress⟩, w)
  | .metrics =>
    let (body, w) := scrape b r w
    (⟨200, some "text/plain; version=0.0.4; charset=utf-8", body⟩, w)

/-- The answer to a request. Nothing but `GET` and `HEAD` is understood, and `HEAD` gets no body. -/
def respond (b : Behaviour π) (c : Config) (r : Runner) (w : Bridge π) (q : Request) :
    Response × Bridge π :=
  match route? c.server.path (pathOf q.target) with
  | none => (⟨404, none, ""⟩, w)
  | some route =>
    if q.method = "GET" then answer b c r w route
    else if q.method = "HEAD" then
      let (a, w) := answer b c r w route
      ({ a with body := "" }, w)
    else (⟨405, none, ""⟩, w)

/-- The answers to requests, one after the other. -/
def respondAll (b : Behaviour π) (c : Config) (r : Runner) :
    Bridge π → List Request → List Response × Bridge π
  | w, [] => ([], w)
  | w, q :: qs =>
    let (a, w) := respond b c r w q
    let (as, w) := respondAll b c r w qs
    (a :: as, w)

end Web

end BeanGauge
