import IntakeForms.Http.Message
import IntakeForms.Proofs.Json.Reading

/-! What a body holds.  A body of JSON text is the document that is read from it, and problems with
it are those of the document, with the same faulty values. -/

namespace IntakeForms.Http

def readsAs (b : Json.Bounds) (body : String) (v : Value) : Bool :=
  (Json.read b body).toOption.any fun t => t.isWhole && t.value = v

theorem payload_of_json {b : Json.Bounds} {contentType body : String} {v : Value}
    (htype : readsAsJson (some contentType) = true)
    (hbytes : Text.ofBytes? body.toUTF8.toList = some (body.toList.map .char))
    (hread : readsAs b body v = true) : payload b (some contentType) body = .document v := by
  obtain ⟨t, hjson, hvalue⟩ :
      ∃ t, Json.read b body = .ok t ∧ (t.isWhole && t.value = v) = true := by
    unfold readsAs at hread
    cases hjson : Json.read b body with
    | ok t =>
      rw [hjson] at hread
      exact ⟨t, rfl, hread⟩
    | error f =>
      rw [hjson] at hread
      cases hread
  obtain ⟨hwhole, hvalue⟩ := Bool.and_eq_true_iff.1 hvalue
  have hempty : body.isEmpty = false := by
    rw [← Bool.not_eq_true, String.isEmpty_iff]
    rintro rfl
    cases hjson
  have htext : Json.textOf (body.toList.map .char) = body := by
    simp [Json.textOf, Function.comp_def, Text.Point.shown]
  have hchars : (body.toList.map Text.Point.char).all Text.Point.isChar = true := by
    simp [Text.Point.isChar]
  rw [payload, if_neg (by simp [hempty]), if_pos htype]
  simp only [hbytes, htext, hjson, hchars, hwhole, Bool.and_self, if_true, of_decide_eq_true hvalue]

theorem isDocument_of_payload {b : Json.Bounds} {r : Request} {v : Value}
    (h : r.payload b = .document v) : v.isDocument = true := by
  unfold Request.payload payload at h
  split at h
  · cases h
  · split at h
    · split at h
      · cases h
      · split at h
        · split at h
          · next hwhole =>
            cases h
            exact Json.Tree.isDocument_value _ (Bool.and_eq_true_iff.1 hwhole).2
          · cases h
        · cases h
        · cases h
    · cases h

theorem Payload.located_problems {α : Type} (ps : List Problem) :
    located (.problems ps : Parsed α) =
      .problems (ps.map fun p => asAttributes { p with path := step :: p.path }) := by
  simp [located, Parsed.under]

theorem Payload.input_asAttributes (p : Problem) : (asAttributes p).input = p.input := by
  unfold asAttributes
  split <;> rfl

end IntakeForms.Http
