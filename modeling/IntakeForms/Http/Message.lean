import IntakeForms.Json.Reader
import IntakeForms.Shape
import IntakeForms.Text.Blank
import IntakeForms.Text.Encoding

/-!
Requests and responses.  The names of headers count in any case.  A body is read
as JSON only if its media type says that it is.
-/

namespace IntakeForms.Http

/-- A request from the address `origin`, as far as it is known. -/
structure Request where
  method : String
  path : String
  query : List (String × String) := []
  headers : List (String × String) := []
  body : String := ""
  origin : Option String := none

structure Response where
  status : Nat
  body : Value
  requestId : Option String := none
  retryAfter : Option Int := none
  location : Option String := none

def lowered (s : String) : String := String.ofList (s.toList.map Char.toLower)

namespace Request

def header? (r : Request) (name : String) : Option String :=
  (r.headers.find? fun h => lowered h.1 = lowered name).map Prod.snd

def parameter? (r : Request) (name : String) : Option String :=
  (r.query.reverse.find? (·.1 = name)).map Prod.snd

end Request

def mediaType (contentType : String) : List Char :=
  (Text.trimBy Text.isBlank (contentType.toList.takeWhile (· != ';'))).map Char.toLower

def isJson (contentType : String) : Bool :=
  let type := mediaType contentType
  let subtype := (type.dropWhile (· != '/')).drop 1
  type.takeWhile (· != '/') == "application".toList && !subtype.contains '/' &&
    (subtype == "json".toList || "+json".toList.isSuffixOf subtype)

/-- What a body turns out to be: text with a mistake is broken, and bytes that are no text, or
text that asks too much of a reader, are unreadable.  A document with halves of pairs of units in
its texts, or in the text it was sent as, is not quite what was sent. -/
inductive Payload
  | absent
  | document (v : Value)
  | halved (v : Value)
  | broken (position : Nat)
  | unreadable
  | otherType (body : String)

def readsAsJson (contentType : Option String) : Bool := contentType.any isJson

def payload (b : Json.Bounds) (contentType : Option String) (body : String) : Payload :=
  if body.isEmpty then .absent
  else if readsAsJson contentType then
    match Text.ofBytes? body.toUTF8.toList with
    | none => .unreadable
    | some points => match Json.read b (Json.textOf points) with
      | .ok t =>
        if points.all Text.Point.isChar && t.isWhole then .document t.value else .halved t.value
      | .error (.mistaken c) => .broken c.position
      | .error _ => .unreadable
  else .otherType body

def Request.payload (b : Json.Bounds) (r : Request) : Payload :=
  Http.payload b (r.header? "content-type") r.body

namespace Payload

variable {α : Type}

def step : Step := .key "body"

/-- A value without the attributes of an object, rather than one that is no object. -/
def asAttributes (p : Problem) : Problem :=
  if p.fault = .notObject then { p with fault := .noAttributes } else p

def located (p : Parsed α) : Parsed α :=
  match p.under step with
  | .problems ps => .problems (ps.map asAttributes)
  | p => p

def required? (shape : Shape α) : Payload → Option (Parsed α)
  | .absent => some (.problems [⟨.missing, [step], .null⟩])
  | .document v | .halved v => some (located (shape v))
  | .broken position => some (.problems [⟨.notJson, [step, .index position], .map []⟩])
  | .unreadable => none
  | .otherType body => some (.problems [⟨.noAttributes, [step], .text body⟩])

def defaulted? (default : α) (shape : Shape α) : Payload → Option (Parsed α)
  | .absent => some (.ok default)
  | .document .null | .halved .null => some (.ok default)
  | p => required? shape p

end Payload

end IntakeForms.Http
