import IntakeForms.Proofs.Proposal.Legible
import Mathlib.Data.List.Forall2

/-! What the request for a proposal keeps to itself.  Sections that are alike in identifiers,
titles, captions and the options of choices make the same request, whatever else is in them:
addresses of images, videos and bookings, help, descriptions, rules, things to be ranked or
sorted, and all other fields of blocks of unknown kind. -/

namespace IntakeForms

structure Ask.Alike (a b : Ask) : Prop where
  id : a.id = b.id
  label : a.label = b.label

/-- The same identifiers and labels of images, in the same order. -/
def ImageOption.Alike (o p : ImageOption) : Prop := o.id = p.id ∧ o.label = p.label

/-- Blocks of one kind with the same identifier, tag, label and text as far as the kind has them,
and of choices with the same options. -/
inductive Block.Alike : Block → Block → Prop
  | context (id text) : Alike (.context id text) (.context id text)
  | heading (id text) {l m} : Alike (.heading id text l) (.heading id text m)
  | divider (id) {s t} : Alike (.divider id s) (.divider id t)
  | image (id) {url alt caption url' alt' caption'} :
      Alike (.image id url alt caption) (.image id url' alt' caption')
  | video (id) {url caption url' caption'} :
      Alike (.video id url caption) (.video id url' caption')
  | quote (id text) {source source'} : Alike (.quote id text source) (.quote id text source')
  | question {a b : Ask} (input : InputKind) {options options'} : a.Alike b →
      (input = .select ∨ input = .multi → options = options') →
      Alike (.question a input options) (.question b input options')
  | imageChoice {a b : Ask} {multi multi' options options'} : a.Alike b →
      List.Forall₂ ImageOption.Alike options options' →
      Alike (.imageChoice a multi options) (.imageChoice b multi' options')
  | links {a b : Ask} {n m} : a.Alike b → Alike (.links a n) (.links b m)
  | moodboard {a b : Ask} {items items'} : a.Alike b →
      Alike (.moodboard a items) (.moodboard b items')
  | sorting {a b : Ask} {items items'} : a.Alike b → Alike (.sorting a items) (.sorting b items')
  | bookCall {a b : Ask} {x y : Booking} : a.Alike b → x.text = y.text →
      Alike (.bookCall a x) (.bookCall b y)
  | unknown (id kind) {extras extras' : List (String × Value)} :
      Entries.get? "label" extras = Entries.get? "label" extras' →
      Entries.get? "text" extras = Entries.get? "text" extras' →
      Alike (.unknown id kind extras) (.unknown id kind extras')

/-- Sections with the same identifier and title whose blocks are alike, one by one. -/
structure Section.Alike (s t : Section) : Prop where
  id : s.id = t.id
  title : s.title = t.title
  blocks : List.Forall₂ Block.Alike s.blocks t.blocks

theorem mapM_eq_of_forall₂ {α β : Type} {R : α → α → Prop} {f : α → Option β}
    (h : ∀ a b, R a b → f a = f b) {l m : List α} (hlm : List.Forall₂ R l m) :
    l.mapM f = m.mapM f := by
  induction hlm with
  | nil => rfl
  | cons hab _ ih => rw [List.mapM_cons, List.mapM_cons, h _ _ hab, ih]

variable {b c : Block}

theorem Block.Alike.id_eq (h : b.Alike c) : b.id = c.id := by
  cases h with
  | question _ h | imageChoice h | links h | moodboard h | sorting h | bookCall h => exact h.id
  | _ => rfl

theorem Block.Alike.kind_eq (h : b.Alike c) : b.kind = c.kind := by
  cases h <;> rfl

namespace Prompt

theorem captionOf_eq_of_alike (h : b.Alike c) : captionOf b = captionOf c := by
  cases h with
  | question _ h | imageChoice h | links h | moodboard h | sorting h =>
    exact congrArg Value.text h.label
  | bookCall h htext => simp only [captionOf, h.label, htext]
  | unknown id kind hlabel htext => simp only [captionOf, hlabel, htext]
  | _ => rfl

theorem optionSummary_eq_of_alike {o p : ImageOption} (h : o.Alike p) :
    optionSummary o = optionSummary p := by
  rw [optionSummary, optionSummary, h.1, h.2]

theorem choices?_eq_of_alike {a b : Ask} {input : InputKind}
    {options options' : Option (List String)}
    (h : input = .select ∨ input = .multi → options = options') :
    (Block.question a input options).choices? = (Block.question b input options').choices? := by
  cases input with
  | select | multi => rw [h (by simp)]; rfl
  | _ => rfl

theorem details?_eq_of_alike (h : b.Alike c) : details? b = details? c := by
  have hcaption : caption? b = caption? c := by
    rw [caption?, caption?, captionOf_eq_of_alike h]
  cases h with
  | @question a b input options options' h hoptions =>
    have hchoices : (Block.question a input options).choices? =
        (Block.question b input options').choices? := choices?_eq_of_alike hoptions
    simp only [details?, h.label, hchoices]
  | @imageChoice a b _ _ options options' h hoptions =>
    have hsummaries : options.map optionSummary = options'.map optionSummary := by
      rw [← List.forall₂_eq_eq_eq, List.forall₂_map_left_iff, List.forall₂_map_right_iff]
      exact hoptions.imp fun _ _ => optionSummary_eq_of_alike
    simp only [details?, h.label, hsummaries]
  | _ => exact congrArg (Option.map fun v => [("label", v)]) hcaption

theorem blockSummary?_eq_of_alike (h : b.Alike c) : blockSummary? b = blockSummary? c := by
  rw [blockSummary?, blockSummary?, h.id_eq, h.kind_eq, details?_eq_of_alike h]

theorem sectionSummary?_eq_of_alike {s t : Section} (h : s.Alike t) :
    sectionSummary? s = sectionSummary? t := by
  have hblocks : s.blocks.mapM blockSummary? = t.blocks.mapM blockSummary? :=
    mapM_eq_of_forall₂ (f := blockSummary?) (fun _ _ => blockSummary?_eq_of_alike) h.blocks
  have htitle : s.displayTitle = t.displayTitle := by
    rw [Section.displayTitle, Section.displayTitle, h.title]
  rw [sectionSummary?, sectionSummary?, hblocks, htitle, h.id]

/-- Sections that are alike make the same request, or neither of them makes one. -/
theorem build?_eq_of_alike {sections others : List Section}
    (h : List.Forall₂ Section.Alike sections others) (bounds : Json.Bounds)
    (intent : Option String) : build? bounds sections intent = build? bounds others intent := by
  have hsummaries : sections.mapM sectionSummary? = others.mapM sectionSummary? :=
    mapM_eq_of_forall₂ (f := sectionSummary?) (fun _ _ => sectionSummary?_eq_of_alike) h
  rw [build?, build?, data?, data?, summary?, summary?, hsummaries]

def visit (kept : String) : Section :=
  { id := "visit", title := "Visit", description := some kept
    blocks :=
      [.image "map" kept (some kept) (some kept), .quote "motto" "Come in" (some kept),
       .question ⟨"day", "Which day?", some kept, true⟩ .date (some [kept]),
       .imageChoice ⟨"room", "Room", some kept, false⟩ true [⟨"a", kept, some "Attic"⟩],
       .bookCall ⟨"call", "Call us", some kept, false⟩
         ⟨kept, some kept, none, some kept, none, true⟩,
       .unknown "poll" "poll" [("label", .text "Poll"), ("token", .text kept)]]
    rules := [⟨kept, .any, none, none, kept⟩] }

theorem alike_visit (kept other : String) : (visit kept).Alike (visit other) where
  id := rfl
  title := rfl
  blocks :=
    .cons (.image _) <| .cons (.quote _ _) <| .cons (.question _ ⟨rfl, rfl⟩ (by simp)) <|
      .cons (.imageChoice ⟨rfl, rfl⟩ (.cons ⟨rfl, rfl⟩ .nil)) <|
        .cons (.bookCall ⟨rfl, rfl⟩ rfl) <| .cons (.unknown _ _ rfl rfl) .nil

theorem legible_visit (bounds : Json.Bounds) (kept : String) :
    ∀ b ∈ (visit kept).blocks, Legible bounds b := by
  have hpoll : Legible bounds
      (.unknown "poll" "poll" [("label", .text "Poll"), ("token", .text kept)]) :=
    ⟨.inr (.inl ⟨"Poll", rfl⟩), rfl⟩
  simp only [visit, List.forall_mem_cons]
  refine ⟨?_, ?_, ?_, ?_, ?_, hpoll, by simp⟩
  all_goals exact legible_of_known (by simp)

theorem build?_eq_of_alike_visit :
    List.Forall₂ Section.Alike [visit "red"] [visit "green"] ∧
      ∃ text, build? Limits.usual.writer [visit "red"] (some "Be brief") = .ok text ∧
        build? Limits.usual.writer [visit "green"] (some "Be brief") = .ok text := by
  have alike : List.Forall₂ Section.Alike [visit "red"] [visit "green"] :=
    .cons (alike_visit "red" "green") .nil
  have written : ∃ text, build? Limits.usual.writer [visit "red"] (some "Be brief") = .ok text := by
    refine (build?_eq_ok_iff _ (by decide) _ _).2 fun s hs => ?_
    rw [List.mem_singleton.1 hs]
    exact legible_visit _ "red"
  obtain ⟨text, htext⟩ := written
  exact ⟨alike, text, htext, (build?_eq_of_alike alike _ _).symm.trans htext⟩

end Prompt

end IntakeForms
