import Billing.Json.Reader
import Billing.Service.Message
import Billing.Text.Encoding

/-!
# Forms

The body of a request is a JSON object whose fields are texts. `Request.form` reads the object;
`requiredText`, `defaultText` and `optionalText` read its fields. All that is wrong with the fields
of a form is reported together, in the order in which they are read (`Checked`), each time with the
value in which it was found.

* `seq_accepted`: what is read of several fields is accepted only if each of them is.
-/

namespace Billing.Service

/-- What can be wrong with the body of a request. -/
inductive Flaw where
  | noBody
  | notObject
  /-- The body breaks the grammar of JSON after so many characters. -/
  | notJson (position : Nat)
  | noField (name : String)
  | notText (name : String)
  deriving DecidableEq, Repr

namespace Flaw

/-- The sort of the flaw. -/
def sort : Flaw → String
  | noBody | noField _ => "missing"
  | notObject => "model_attributes_type"
  | notJson _ => "json_invalid"
  | notText _ => "string_type"

/-- Where in the request the flaw is. -/
def location : Flaw → List Json
  | noBody | notObject => [.str "body"]
  | notJson position => [.str "body", .int position]
  | noField name | notText name => [.str "body", .str name]

def message : Flaw → String
  | noBody | noField _ => "Field required"
  | notObject => "Input should be a valid dictionary or object to extract fields from"
  | notJson _ => "JSON decode error"
  | notText _ => "Input should be a valid string"

end Flaw

/-- A flaw with the value in which it was found. -/
structure Problem where
  flaw : Flaw
  found : Json

namespace Problem

/-- The problem as it is reported. Members of a name that is kept for internal use are left out of
what was found. -/
def toJson (p : Problem) : Json :=
  .obj [("type", .str p.flaw.sort), ("loc", .arr p.flaw.location), ("msg", .str p.flaw.message),
    ("input", p.found.keeping (!·.startsWith "_sa"))]

end Problem

/-- What was read of a form, or all that is wrong with it. -/
inductive Checked (α : Type) where
  | accepted (value : α)
  | refused (problems : List Problem)

namespace Checked

variable {α β : Type}

/-- A function that was read applied to a value that was read. -/
def apply (f : Checked (α → β)) (x : Checked α) : Checked β :=
  match f, x with
  | accepted f, accepted x => accepted (f x)
  | accepted _, refused ps => refused ps
  | refused ps, accepted _ => refused ps
  | refused ps, refused qs => refused (ps ++ qs)

instance : Applicative Checked where
  pure := accepted
  seq f x := apply f (x ())

theorem seq_accepted {f : Checked (α → β)} {x : Checked α} {y : β} :
    f <*> x = accepted y ↔ ∃ g a, f = accepted g ∧ x = accepted a ∧ g a = y := by
  change apply f x = accepted y ↔ _
  cases f <;> cases x <;> simp [apply]

end Checked

/-- The members of an object. -/
abbrev Form := List (Text.Raw × Json)

/-- A value that has to be a text. -/
def checkText (name : String) (x : Json) : Checked Text.Raw :=
  match x.raw? with
  | some s => .accepted s
  | none => .refused [⟨.notText name, x⟩]

/-- A field that has to be there. -/
def requiredText (form : Form) (name : String) : Checked Text.Raw :=
  match Json.lookup? name form with
  | some x => checkText name x
  | none => .refused [⟨.noField name, .obj form⟩]

/-- A field that may be missing. -/
def defaultText (form : Form) (name default : String) : Checked Text.Raw :=
  match Json.lookup? name form with
  | some x => checkText name x
  | none => .accepted default

/-- A field that may be missing or null; then it is empty. -/
def optionalText (form : Form) (name : String) : Checked Text.Raw :=
  match Json.lookup? name form with
  | some .null | none => .accepted ""
  | some x => checkText name x

/-- Whether a content type is one of JSON. -/
def isJsonType (contentType : String) : Bool :=
  let name := (contentType.toList.takeWhile (· != ';'))
  match Text.splitOn '/' ((Text.trim name).map Char.toLower) with
  | [main, sub] =>
    main = "application".toList && (sub = "json".toList || "+json".toList.isSuffixOf sub)
  | _ => false

/-- Why no form is read. -/
inductive FormError where
  | problem (problem : Problem)
  /-- The body cannot be read for another reason. -/
  | unreadable

/-- A text without a byte order mark. -/
def withoutMark (text : List Char) : List Char :=
  match text with
  | '\uFEFF' :: rest => rest
  | _ => text

/-- The text of a JSON body, which may be in any encoding, with characters for its halves. -/
def bodyText? (body : ByteArray) : Option (List Char × Text.Fillers) :=
  let encoding := Text.Encoding.ofStart body.toList
  (encoding.decode? body).map fun points =>
    let (text, fillers) := Text.hold points
    (if encoding = .utf8 then withoutMark text else text, fillers)

/-- The value that a JSON body writes. -/
def readBody (body : ByteArray) : Except FormError Json :=
  match bodyText? body with
  | none => .error .unreadable
  | some (text, fillers) =>
    match Json.readNested fillers Json.nestingLimit text with
    | .ok value => .ok value
    | .error (.malformed rest) => .error (.problem ⟨.notJson (text.length - rest), .obj []⟩)
    | .error _ => .error .unreadable

/-- The form that a request holds. -/
def Request.form (r : Request) : Except FormError Form :=
  if r.body.isEmpty then .error (.problem ⟨.noBody, .null⟩)
  else if (r.header? "content-type").elim false isJsonType then do
    match ← readBody r.body.toUTF8 with
    | .obj form => .ok form
    | value => .error (.problem ⟨.notObject, value⟩)
  else .error (.problem ⟨.notObject, .str r.body⟩)

/-- The refusal of a form with problems. -/
def unprocessable (problems : List Problem) : Response :=
  .refusal 422 (.arr (problems.map Problem.toJson))

/-- The refusal of a request without a form. -/
def FormError.response : FormError → Response
  | problem p => unprocessable [p]
  | unreadable => .refusal 400 (.str "There was an error parsing the body")

end Billing.Service
