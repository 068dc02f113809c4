import Billing.Canvas.Pdf
import Billing.Json.Writer

/-!
# Requests and responses

What reaches the service and what it answers with, together with what it tells on the console while
it does so.
-/

namespace Billing.Service

/-- A request. -/
structure Request where
  method : String
  /-- The path that is asked for. -/
  path : String
  headers : List (String × String) := []
  body : String := ""
  deriving Inhabited

namespace Request

/-- Small letters beyond ASCII whose capitals are letters of ASCII. -/
def foreignCapitals : List (Char × String) :=
  [('ß', "SS"), ('ı', "I"), ('ſ', "S"), ('ﬀ', "FF"), ('ﬁ', "FI"), ('ﬂ', "FL"), ('ﬃ', "FFI"),
    ('ﬄ', "FFL"), ('ﬅ', "ST"), ('ﬆ', "ST")]

/-- The method that a name means, which may be written in letters of either case. -/
def methodOf (name : String) : String :=
  String.join (name.toList.map fun c => (foreignCapitals.lookup c).getD (String.ofList [c.toUpper]))

/-- The value of a header, whose name may be written in letters of either case. -/
def header? (r : Request) (name : String) : Option String :=
  (r.headers.find? fun (key, _) => key.toLower = name).map (·.2)

end Request

/-- What a response holds. -/
inductive Content where
  | json (value : Json)
  | text (value : String)
  | page (value : String)
  | print (printout : Printout)

/-- The media type of a content. -/
def Content.mediaType : Content → String
  | json _ => "application/json"
  | text _ => "text/plain"
  | page _ => "text/html"
  | print _ => "application/pdf"

/-- Whether a text of the content holds a character. -/
def Content.shows (c : Char) : Content → Bool
  | json value => value.characters.contains c
  | text s | page s => s.toList.contains c
  | print _ => false

/-- Whether the content can be written. -/
def Content.isSendable : Content → Bool
  | json value => value.isSendable
  | _ => true

/-- A response. The names of its headers are in lower case. -/
structure Response where
  status : Nat := 200
  headers : List (String × String) := []
  content : Content
  /-- The lines that are told on the console. -/
  log : List String := []

namespace Response

/-- A refusal with its details. -/
def refusal (status : Nat) (detail : Json) : Response :=
  { status, content := .json (.obj [("detail", detail)]) }

/-- The refusal of a request whose answer has a message of its own. -/
def rejection (status : Nat) (message : String) : Response :=
  refusal status (.obj [("error", .str message)])

/-- The response to a request that was broken off. -/
def broken : Response := { status := 500, content := .text "Internal Server Error" }

/-- A response after these lines on the console. -/
def after (r : Response) (lines : List String) : Response := { r with log := lines ++ r.log }

end Response

end Billing.Service
