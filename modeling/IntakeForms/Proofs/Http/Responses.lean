import IntakeForms.Http.Server

/-! What a response tells: its status is that of the answer behind it, and where something cannot
be written it is that of a fault of the service itself. -/

namespace IntakeForms.Http

namespace Response

@[simp] theorem status_ofDetail (status : Nat) (text : String) :
    (ofDetail status text).status = status := rfl

theorem status_ofWritten (status : Nat) (written : Except Obstacle Value) :
    (ofWritten status written).status = if written.toBool then status else 500 := by
  cases written <;> rfl

theorem status_ofProblems (limits : Limits) (ps : List Problem) :
    (ofProblems limits ps).status =
      if ps.all fun p => isQuoted limits p.input then 422 else 500 := by
  unfold ofProblems
  split <;> rfl

theorem status_ofRefusal_mem (e : Refusal) : (ofRefusal e).status ∈ [400, 404, 422, 500, 503] := by
  cases e <;> simp [ofRefusal, internalError, ofReport, ofVerdict, ofValue]

end Response

namespace Server

variable {σ τ α : Type}

theorem act_fst (setup : Setup σ τ) (now : Timestamp) (status : Nat)
    (write? : α → Except Obstacle Value) (action : Action α) (s : Server σ τ) :
    (act setup now status write? action s).1 =
      match (s.world.run setup.backend now action).1 with
      | .ok a => .ofWritten status (write? a)
      | .error e => .ofRefusal e := rfl

@[simp] theorem identify_limiter (setup : Setup σ τ) (r : Request) (s : Server σ τ) :
    (s.identify setup r).2.limiter = s.limiter := by
  unfold identify
  split <;> rfl

@[simp] theorem identify_world (setup : Setup σ τ) (r : Request) (s : Server σ τ) :
    (s.identify setup r).2.world = s.world := by
  unfold identify
  split <;> rfl

section

variable [OfNat τ 0] [Add τ] [Sub τ] [LE τ] [LT τ] [DecidableLE τ] [DecidableLT τ]

theorem handle_fst (setup : Setup σ τ) (m : Moment τ) (r : Request) (s : Server σ τ) :
    (handle setup m r s).1.status = (answer setup m r (s.identify setup r).2).1.status ∧
    (handle setup m r s).1.retryAfter =
      (answer setup m r (s.identify setup r).2).1.retryAfter := by
  unfold handle headed
  dsimp only
  split <;> split <;> exact ⟨rfl, rfl⟩

end

end Server

end IntakeForms.Http
