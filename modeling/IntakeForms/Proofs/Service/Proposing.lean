import IntakeForms.Proofs.Document.Stuck
import IntakeForms.Proofs.Proposal.Legible
import IntakeForms.Proofs.Service.Respondents
import Mathlib

/-! What a request for a proposal comes to.  It gives a proposal without issues or is rejected,
and comes to nothing else, exactly if every caption has a length and none is too deep to be written;
where every block is legible the reply decides which of the two it is. -/

namespace IntakeForms.Service

open IntakeForms.Action Prompt

variable {σ : Type} {w : World σ} {sections : List Section} {intent : Option String}
  {limits : Limits} {bounds : Json.Bounds} {text : String}

/-- What a request is to come to: a proposal that nothing keeps from being applied, or a
rejection. -/
inductive Declared (sections : List Section) : Except Refusal Proposal → Prop
  | given {p} : p.issues sections = [] → Declared sections (.ok p)
  | rejected (message issues) : Declared sections (.error (.proposalRejected message issues))

/-- The reply is a document, perhaps in a fence, that reads as the proposal. -/
def Carries (bounds : Json.Bounds) (text : String) (p : Proposal) : Prop :=
  ∃ t, Reply.document bounds text = .ok t ∧ Proposal.shape t.value = .ok p

/-- What is to become of a reply: a proposal that it holds is given if nothing keeps it from
being applied, and any other reply is rejected. -/
inductive Settled (sections : List Section) (bounds : Json.Bounds) (text : String) :
    Except Refusal Proposal → Prop
  | given {p} : Carries bounds text p → p.issues sections = [] →
      Settled sections bounds text (.ok p)
  | rejected {message issues} : (∀ p, Carries bounds text p → p.issues sections ≠ []) →
      Settled sections bounds text (.error (.proposalRejected message issues))

theorem Settled.declared {x : Except Refusal Proposal} (h : Settled sections bounds text x) :
    Declared sections x := by
  cases h with
  | given _ sound => exact .given sound
  | rejected _ => exact .rejected _ _

theorem Carries.unique {p q : Proposal} (hp : Carries bounds text p) (hq : Carries bounds text q) :
    p = q := by
  obtain ⟨t, ht, hp⟩ := hp
  obtain ⟨t', ht', hq⟩ := hq
  obtain rfl : t = t' := Except.ok.inj (ht.symm.trans ht')
  exact Parsed.ok.inj (hp.symm.trans hq)

section

variable (b : Backend σ) (now : Timestamp)

theorem run_ask (prompt : String) (w : World σ) : ∃ next,
    World.run b now (ask prompt) w = (.ok w.model.reply.1, next) := ⟨_, rfl⟩

theorem run_readReply (hdeep : Reply.document bounds text ≠ .error .tooDeep) (w : World σ) :
    (∃ p, Carries bounds text p ∧ World.run b now (readReply bounds text) w = (.ok p, w)) ∨
      (∀ p, ¬ Carries bounds text p) ∧ ∃ message next,
        World.run b now (readReply bounds text) w =
          (.error (.proposalRejected message []), next) := by
  unfold readReply
  cases hdocument : Reply.document bounds text with
  | error refused =>
    refine .inr ⟨fun p ⟨t, ht, _⟩ => by simp [hdocument] at ht, ?_⟩
    cases refused with
    | mistaken complaint => exact ⟨_, _, rfl⟩
    | tooManyDigits => exact ⟨_, _, rfl⟩
    | tooDeep => exact absurd hdocument hdeep
  | ok t =>
    dsimp only
    cases hshape : Proposal.shape t.value with
    | ok p => exact .inl ⟨p, ⟨t, hdocument, hshape⟩, rfl⟩
    | problems ps =>
      refine .inr ⟨?_, _, _, rfl⟩
      rintro p ⟨t', ht', hp⟩
      obtain rfl : t = t' := Except.ok.inj (hdocument.symm.trans ht')
      simp [hshape] at hp
    | stuck => exact absurd hshape (Proposal.shape_ne_stuck t.value)

theorem run_requireSound (issues : List Flow.Issue) (e : Log.Entry) (w : World σ) :
    (issues = [] ∧ World.run b now (requireSound issues (tell e)) w = (.ok (), w)) ∨
      issues ≠ [] ∧ ∃ message next, World.run b now (requireSound issues (tell e)) w =
        (.error (.proposalRejected message issues), next) := by
  cases issues with
  | nil => exact .inl ⟨rfl, rfl⟩
  | cons first rest => exact .inr ⟨by simp, _, _, rfl⟩

theorem settled_propose {prompt : String} (hcount : 2 ≤ sections.length)
    (hprompt : build? limits.writer sections intent = .ok prompt)
    (hdeep : Reply.document limits.reader w.model.reply.1 ≠ .error .tooDeep) :
    Settled sections limits.reader w.model.reply.1
      (World.run b now (propose limits sections intent) w).1 := by
  have hpropose : propose limits sections intent = ask prompt >>= fun text =>
      readReply limits.reader text >>= fun p =>
      requireSound (p.issues sections) (tell (proposalRejected (p.issues sections))) >>= fun _ =>
        tell (proposalGenerated p) >>= fun _ => return p := by
    simp [propose, minSections, Nat.not_lt.2 hcount, hprompt]
  obtain ⟨asked, hask⟩ := run_ask b now prompt w
  rw [hpropose, World.run_bind_ok hask]
  rcases run_readReply b now hdeep asked with
    ⟨p, reads, hread⟩ | ⟨none, message, next, hread⟩
  · rw [World.run_bind_ok hread]
    rcases run_requireSound b now (p.issues sections) (proposalRejected (p.issues sections)) asked
      with ⟨sound, hsound⟩ | ⟨unsound, message, next, hsound⟩
    · rw [World.run_bind_ok hsound]
      exact .given reads sound
    · rw [World.run_bind_error hsound]
      exact .rejected fun q hq => hq.unique reads ▸ unsound
  · rw [World.run_bind_error hread]
    exact .rejected fun p hp => absurd hp (none p)

theorem run_propose_unbuilt {why : Unbuilt} (hcount : 2 ≤ sections.length)
    (hprompt : build? limits.writer sections intent = .error why) (w : World σ) :
    World.run b now (propose limits sections intent) w =
      (.error (if why = .unwritten .tooManyDigits then unparsed else .unbuilt why), w) := by
  have hmany : ¬ sections.length < minSections := Nat.not_lt.2 hcount
  rw [propose, if_neg hmany, hprompt]
  cases why with
  | captionLength => rfl
  | unwritten u => cases u <;> rfl

theorem declared_unbuilt_iff {why : Unbuilt} :
    Declared sections
        (.error (if why = .unwritten .tooManyDigits then unparsed else .unbuilt why)) ↔
      why = .unwritten .tooManyDigits := by
  split
  · next h => exact iff_of_true (.rejected _ _) h
  · next h => exact iff_of_false (fun hdeclared => by cases hdeclared) h

end

def rated (label : Value) : List Section :=
  [{ id := "start", title := "Start", description := none
     blocks := [.unknown "stars" "rating" [("label", label)]], rules := [] },
   { id := "done", title := "Done", description := none, blocks := [], rules := [] }]

def noRules : String := "\x60\x60\x60json\n\x7b\"routing\": []\x7d\n\x60\x60\x60"

def consenting : World Memory where
  store := { ids := ⟨toString, 0⟩ }
  publisher := ⟨"", .absent, []⟩
  model := ⟨"", [noRules], 0⟩

def proposed (label : Value) : Except Refusal Proposal :=
  (World.run Memory.backend ⟨2024, 5, 1, 8, 0, 0, 0, none⟩ (propose .usual (rated label) none)
    consenting).1

theorem document_noRules : Reply.document Limits.usual.reader noRules =
    .ok (.map [("routing".toList.map .char, .list [])]) := by
  cbv

theorem carries_noRules : Carries Limits.usual.reader noRules ⟨[], none⟩ :=
  ⟨_, document_noRules, rfl⟩

end IntakeForms.Service
