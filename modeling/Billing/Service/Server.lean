import Billing.Service.Company
import Billing.Service.Documents
import Billing.Service.Origins

/-!
# The service

The service offers an office over requests (`Server.respond`): it finds what a path and a method
stand for (`findRoute`), and keeps the settings that are saved. The response to a request that is
broken off says nothing about origins.

* `serve_unchanged`: only saving settings changes the server.
-/

namespace Billing.Service

/-- What the service offers. -/
inductive Endpoint where
  | preview
  | create
  | showSettings
  | saveSettings
  | health
  | about
  /-- A description of the service for programs. -/
  | description
  /-- Pages that describe the service. -/
  | manual
  deriving DecidableEq, Repr

/-- A path with the methods by which it offers something. -/
structure Route where
  path : String
  methods : List String
  endpoint : Endpoint
  deriving DecidableEq, Repr

/-- The routes of the service. -/
def routes : List Route :=
  [⟨"/openapi.json", ["GET", "HEAD"], .description⟩, ⟨"/docs", ["GET", "HEAD"], .manual⟩,
    ⟨"/docs/oauth2-redirect", ["GET", "HEAD"], .manual⟩, ⟨"/redoc", ["GET", "HEAD"], .manual⟩,
    ⟨"/api/documents/preview", ["POST"], .preview⟩, ⟨"/api/documents", ["POST"], .create⟩,
    ⟨"/api/company-config", ["GET"], .showSettings⟩,
    ⟨"/api/company-config", ["POST"], .saveSettings⟩, ⟨"/health", ["GET"], .health⟩,
    ⟨"/api", ["GET"], .about⟩]

/-- The routes that a path leads to. A line break may end the path. -/
def routesAt (path : String) : List Route :=
  routes.filter fun r => path = r.path || path = r.path ++ "\n"

/-- The path that is meant: slashes at its end are passed over if there is nothing at the path as it
stands. -/
def meantPath (path : String) : String :=
  let shortened := String.ofList (Text.dropRightWhile (· == '/') path.toList)
  if (routesAt path).isEmpty && !(routesAt shortened).isEmpty then shortened else path

/-- What a path and a method stand for, or the refusal. -/
def findRoute (path method : String) : Except Response Endpoint :=
  match routesAt path with
  | [] => .error (.refusal 404 (.str "Not Found"))
  | first :: others =>
    match (first :: others).find? (·.methods.contains method) with
    | some route => .ok route.endpoint
    | none =>
      .error { Response.refusal 405 (.str "Method Not Allowed") with
        headers := [("allow", ", ".intercalate first.methods)] }

/-- The name of the service. -/
def title : String := "見積書作成 API"

/-- The version of the service. -/
def version : String := "1.0.0"

/-- The description of the service for programs: its name, and its methods by their paths. -/
def description : Json :=
  let addRoute (paths : Form) (route : Route) : Form :=
    let others := match Json.lookup? route.path paths with
      | some (.obj methods) => methods
      | _ => []
    let offers : Form := route.methods.map fun method => (↑method.toLower, .obj [])
    Json.put route.path (.obj (others ++ offers)) paths
  .obj [("openapi", .str "3.1.0"),
    ("info", .obj [("title", .str title),
      ("description", .str "品目テキストから見積書・請求書・領収書PDFを生成するAPI"),
      ("version", .str version)]),
    ("paths", .obj ((routes.filter (·.endpoint != .manual)).foldl addRoute []))]

/-- The page that describes the service. -/
def manual : String := "<!DOCTYPE html>\n<title>" ++ title ++ " " ++ version ++ "</title>\n"

/-- The service in a state. -/
structure Server where
  office : Office
  origins : Origins

namespace Server

/-- The server that an environment sets up. -/
def ofOffice (office : Office) : Server where
  office
  origins := .ofEnvironment office.environment

/-- What an endpoint does with a request. -/
def serve (s : Server) (r : Request) : Endpoint → Except Fault Response × Server
  | .preview => (withSubmission s.office r preview, s)
  | .create => (withSubmission s.office r create, s)
  | .showSettings => (.ok (showSettings s.office.settings s.office.environment), s)
  | .saveSettings =>
    let (response, settings) := saveSettings s.office.settings r
    (.ok response, { s with office := { s.office with settings } })
  | .health => (.ok { content := .json (.obj [("status", .str "ok")]) }, s)
  | .about =>
    (.ok { content := .json (.obj [("message", .str title), ("version", .str version),
      ("docs", .str "/docs")]) }, s)
  | .description => (.ok { content := .json description }, s)
  | .manual => (.ok { content := .page manual }, s)

theorem serve_unchanged (s : Server) (r : Request) {e : Endpoint} (h : e ≠ .saveSettings) :
    (s.serve r e).2 = s := by
  cases e <;> first | rfl | exact absurd rfl h

/-- The response to a request without regard to its origin. -/
def handle (s : Server) (r : Request) : Except Fault Response × Server :=
  match findRoute (meantPath r.path) r.method with
  | .ok endpoint => s.serve r endpoint
  | .error refusal => (.ok refusal, s)

/-- The path to which a request is sent on, if slashes at the end of its own are passed over. A
preflight is answered before its path is looked at. -/
def onwardPath? (r : Request) : Option String :=
  let isPreflight := (r.header? "origin").isSome && (Origins.preflightMethod? r).isSome
  let path := meantPath r.path
  if isPreflight || path = r.path then none else some path

/-- What is sent of a result, with headers added to it; a fault or a content that cannot be written
breaks the request off. -/
def send (headers : List (String × String)) : Except Fault Response → Response
  | .ok response =>
    if response.content.isSendable then { response with headers := response.headers ++ headers }
    else .broken
  | .error _ => .broken

/-- The response to a request. -/
def respond (s : Server) (r : Request) : Response × Server :=
  match r.header? "origin" with
  | none =>
    let (result, s') := s.handle r
    (send [] result, s')
  | some origin =>
    match Origins.preflightMethod? r with
    | some method => (s.origins.preflight r origin method, s)
    | none =>
      let (result, s') := s.handle r
      (send (s.origins.headers origin) result, s')

end Server

end Billing.Service
