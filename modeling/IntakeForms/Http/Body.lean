import IntakeForms.Http.Message
import IntakeForms.Shape.Scalar

/-!
The bodies of requests that carry more than a draft or a proposal, and the
parameters of a query.
-/

namespace IntakeForms.Http

structure CreateBody where
  title : String
  workspace : String
deriving DecidableEq, Repr

def maxTitle : Nat := 200

def CreateBody.shape : Shape CreateBody := Shape.object fun es =>
  CreateBody.mk <$> es.defaulted (.word "title") "Untitled intake" (Shape.textUpTo maxTitle)
    <*> es.required ⟨"workspaceId", "workspace_id"⟩ Shape.text

structure GenerateBody where
  intent : Option String := none
deriving DecidableEq, Repr

def maxIntent : Nat := 2000

def GenerateBody.shape : Shape GenerateBody := Shape.object fun es =>
  GenerateBody.mk <$> es.absent (.word "intent") (Shape.textUpTo maxIntent)

structure NextBody where
  sectionId : String
  answers : List (String × Value)

def NextBody.shape : Shape NextBody := Shape.object fun es =>
  NextBody.mk <$> es.required ⟨"sectionId", "section_id"⟩ Shape.text
    <*> es.defaulted (.word "answers") [] Shape.mapping

structure SubmitBody where
  answers : List (String × Value)
  metadata : Option (List (String × Value))

def SubmitBody.shape : Shape SubmitBody := Shape.object fun es =>
  SubmitBody.mk <$> es.required (.word "answers") Shape.mapping
    <*> es.absent (.word "metadata") Shape.mapping

def SubmitBody.metadataValue (b : SubmitBody) : Value := .optional .object b.metadata

def defaultLimit : Int := 100

def maxLimit : Int := 500

def limitShape (v : Value) : Parsed Int :=
  (Shape.whole v).andThen fun n =>
    if n < 1 then .fail .tooSmall v
    else if maxLimit < n then .fail .tooLarge v
    else .ok n

def Request.limit (r : Request) : Parsed Int :=
  match r.parameter? "limit" with
  | none => .ok defaultLimit
  | some s => ((limitShape (.text s)).under (.key "limit")).under (.key "query")

end IntakeForms.Http
