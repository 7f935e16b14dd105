import IntakeForms.Json.Reader
import IntakeForms.Log
import IntakeForms.Number.Nearest
import IntakeForms.Proposal
import IntakeForms.Proposal.Fence

/-!
The reply of a text model that was asked for a proposal: a document, perhaps
inside a fence, that has to have the form of a proposal.
-/

namespace IntakeForms.Reply

def document (b : Json.Bounds) (text : String) : Except Json.Refused Json.Tree :=
  Json.read b (Fence.strip text)

def unreadable (c : Json.Complaint) : String := "Invalid JSON response: " ++ c.message

def malformed (problems : List Problem) : String :=
  "Generated routing did not match the expected structure: " ++ toString problems.length ++
    " problem(s)"

def temperature : Binary64 := Binary64.ofDecimal false 4 (-1)

def generated (modelName prompt text : String) : Log.Entry :=
  ⟨.info, .model, "Generated content with Vertex AI",
    [("model", .text modelName), ("temperature", .real temperature),
      ("input_length", .int prompt.length), ("output_length", .int text.length)]⟩

def notDocument (text : String) : Log.Entry :=
  ⟨.error, .model, "Failed to parse JSON response",
    [("response_length", .int (Fence.strip text).length)]⟩

end IntakeForms.Reply
