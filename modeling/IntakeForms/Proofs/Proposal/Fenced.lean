import IntakeForms.Proofs.Json.Extent
import IntakeForms.Proofs.Json.Reading
import IntakeForms.Proposal.Reply

/-! A document that a text model has wrapped in a fence.  Whichever fence opens it, whether it is
closed, and whatever blanks stand between and around, what is left is the whole document, and the
value read from it is the one of the document alone. -/

namespace IntakeForms

open Text (Trimmed trimBy_append)

namespace Fence

def AllBlank (cs : List Char) : Prop := ∀ c ∈ cs, Text.isBlank c = true

instance (cs : List Char) : Decidable (AllBlank cs) :=
  List.decidableBAll (Text.isBlank · = true) cs

abbrev Blanks : Type := { cs : List Char // AllBlank cs }

inductive Opening
  | absent
  | plain
  | json
deriving DecidableEq

def Opening.chars : Opening → List Char
  | .absent => []
  | .plain => fence
  | .json => jsonFence

/-- What may stand around a document: an opening fence, a closing one, and blanks. -/
structure Wrapping where
  opening : Opening
  closed : Bool
  before : Blanks
  inside : Blanks
  beneath : Blanks
  behind : Blanks

def closing (closed : Bool) : List Char := if closed then fence else []

/-- The text with its wrapping. -/
def Wrapping.around (w : Wrapping) (t : String) : String :=
  String.ofList (w.before.1 ++ (w.opening.chars ++ (w.inside.1 ++ t.toList ++ w.beneath.1) ++
    closing w.closed ++ w.behind.1))

section Cuts

variable {rest cs p : List Char}

theorem isPrefixOf?_append : p.isPrefixOf? (p ++ rest) = some rest :=
  List.isPrefixOf?_eq_some_iff_append_eq.2 rfl

theorem isPrefixOf?_eq_none (h : ∀ rest, cs ≠ p ++ rest) : p.isPrefixOf? cs = none :=
  Option.eq_none_iff_forall_ne_some.2 fun rest hrest =>
    h rest (List.isPrefixOf?_eq_some_iff_append_eq.1 hrest).symm

theorem dropOpening_of_head? (h : ∀ c ∈ cs.head?, c ≠ '\x60') : dropOpening cs = cs := by
  have hjson : jsonFence.isPrefixOf? cs = none :=
    isPrefixOf?_eq_none fun rest heq => h '\x60' (by rw [heq]; rfl) rfl
  have hplain : fence.isPrefixOf? cs = none :=
    isPrefixOf?_eq_none fun rest heq => h '\x60' (by rw [heq]; rfl) rfl
  rw [dropOpening, hjson, hplain]
  rfl

theorem dropOpening_plain (h : ∀ c ∈ rest.head?, c ≠ 'j') : dropOpening (fence ++ rest) = rest := by
  have hjson : jsonFence.isPrefixOf? (fence ++ rest) = none := by
    refine isPrefixOf?_eq_none fun r heq => h 'j' ?_ rfl
    rw [jsonFence, List.append_assoc] at heq
    rw [List.append_cancel_left heq]
    rfl
  rw [dropOpening, hjson, isPrefixOf?_append]
  rfl

theorem dropOpening_json : dropOpening (jsonFence ++ rest) = rest := by
  rw [dropOpening, isPrefixOf?_append]

theorem dropOpening_append (opening : Opening) (habsent : ∀ c ∈ rest.head?, c ≠ '\x60')
    (hplain : ∀ c ∈ rest.head?, c ≠ 'j') : dropOpening (opening.chars ++ rest) = rest := by
  cases opening with
  | absent => exact dropOpening_of_head? habsent
  | plain => exact dropOpening_plain hplain
  | json => exact dropOpening_json

theorem dropClosing_fence : dropClosing (rest ++ fence) = rest := by
  have hreverse : (rest ++ fence).reverse = fence ++ rest.reverse := List.reverse_append
  rw [dropClosing, hreverse, isPrefixOf?_append]
  exact List.reverse_reverse rest

theorem dropClosing_of_last (h : ∀ c ∈ cs.getLast?, c ≠ '\x60') : dropClosing cs = cs := by
  have hnone : fence.isPrefixOf? cs.reverse = none := by
    refine isPrefixOf?_eq_none fun rest heq => h '\x60' ?_ rfl
    rw [← List.head?_reverse, heq]
    rfl
  rw [dropClosing, hnone]

theorem dropClosing_append (closed : Bool) (h : ∀ c ∈ rest.getLast?, c ≠ '\x60') :
    dropClosing (rest ++ closing closed) = rest := by
  cases closed with
  | false =>
    rw [closing, if_neg (by decide), List.append_nil]
    exact dropClosing_of_last h
  | true => exact dropClosing_fence

end Cuts

theorem AllBlank.append {s t : List Char} (hs : AllBlank s) (ht : AllBlank t) :
    AllBlank (s ++ t) :=
  List.forall_mem_append.2 ⟨hs, ht⟩

theorem not_fence {c : Char} (h : Text.isBlank c = true ∨ Json.isOuter c = false) :
    c ≠ '\x60' ∧ c ≠ 'j' := by
  constructor
  all_goals
    rintro rfl
    revert h
    decide

theorem trimmed_fence : Trimmed Text.isBlank fence := .of_all (by decide)

theorem Opening.trimmed (opening : Opening) : Trimmed Text.isBlank opening.chars := by
  cases opening <;> exact .of_all (by decide)

theorem Opening.chars_ne_nil {opening : Opening} (h : opening ≠ .absent) : opening.chars ≠ [] := by
  cases opening with
  | absent => exact absurd rfl h
  | plain | json => simp [chars, jsonFence, fence]

section Document

variable {before inside beneath behind p : List Char} {c : Char}

theorem head_inside (hp : Trimmed Json.isOuter p) (hp' : p ≠ []) (hinside : AllBlank inside)
    (hc : c ∈ (inside ++ (p ++ beneath)).head?) :
    Text.isBlank c = true ∨ Json.isOuter c = false := by
  obtain ⟨d, p, rfl⟩ := List.exists_cons_of_ne_nil hp'
  rw [List.head?_append, Option.mem_def, Option.or_eq_some_iff] at hc
  exact hc.imp (fun h => hinside c (List.mem_of_mem_head? h)) fun h => hp.head c h.2

theorem last_beneath (hp : Trimmed Json.isOuter p) (hp' : p ≠ []) (hbeneath : AllBlank beneath)
    (hc : c ∈ (inside ++ (p ++ beneath)).getLast?) :
    Text.isBlank c = true ∨ Json.isOuter c = false := by
  rw [← List.append_assoc, List.getLast?_append, Option.mem_def, Option.or_eq_some_iff] at hc
  have hlast : (inside ++ p).getLast? = p.getLast? := List.getLast?_append_of_ne_nil _ hp'
  refine hc.imp (fun h => hbeneath c (List.mem_of_mem_getLast? h)) fun h => hp.last c ?_
  rw [Option.mem_def, ← hlast]
  exact h.2

theorem trimmed_fenced (opening : Opening) (closed : Bool) (hp : Trimmed Text.isBlank p)
    (hp' : p ≠ []) (habsent : opening = .absent → inside = [])
    (hopen : closed = false → beneath = []) :
    Trimmed Text.isBlank (opening.chars ++ (inside ++ (p ++ beneath)) ++ closing closed) := by
  -- four cases, by what stands at each end: the document or a fence
  by_cases ho : opening = .absent
  · subst ho
    cases closed with
    | false => simpa [Opening.chars, closing, habsent, hopen] using hp
    | true =>
      simpa [Opening.chars, closing, habsent] using hp.enclose hp' trimmed_fence (by simp [fence])
  · cases closed with
    | false =>
      simpa [closing, hopen] using opening.trimmed.enclose (Opening.chars_ne_nil ho) hp hp'
    | true =>
      rw [List.append_assoc]
      exact opening.trimmed.enclose (Opening.chars_ne_nil ho) trimmed_fence (by decide)

theorem strip_append (opening : Opening) (closed : Bool) (hp : Trimmed Json.isOuter p)
    (hp' : p ≠ []) (hbefore : AllBlank before) (hinside : AllBlank inside)
    (hbeneath : AllBlank beneath) (hbehind : AllBlank behind)
    (habsent : opening = .absent → inside = []) (hopen : closed = false → beneath = []) :
    strip (String.ofList (before ++ (opening.chars ++ (inside ++ (p ++ beneath)) ++
      closing closed ++ behind))) = String.ofList p := by
  have hblank : Trimmed Text.isBlank p := hp.mono fun _ => Json.isBlank_of_isOuter
  have hne : opening.chars ++ (inside ++ (p ++ beneath)) ++ closing closed ≠ [] := by simp [hp']
  have hassoc : inside ++ (p ++ beneath) ++ closing closed =
      inside ++ (p ++ (beneath ++ closing closed)) := by simp
  have hhead (c : Char) (hc : c ∈ (inside ++ (p ++ beneath) ++ closing closed).head?) :=
    not_fence (head_inside hp hp' hinside (hassoc ▸ hc))
  have hlast (c : Char) (hc : c ∈ (inside ++ (p ++ beneath)).getLast?) :=
    not_fence (last_beneath hp hp' hbeneath hc)
  rw [strip, String.toList_ofList,
    trimBy_append hbefore (trimmed_fenced opening closed hblank hp' habsent hopen) hne hbehind,
    List.append_assoc opening.chars,
    dropOpening_append opening (fun c hc => (hhead c hc).1) fun c hc => (hhead c hc).2,
    dropClosing_append closed fun c hc => (hlast c hc).1,
    trimBy_append hinside hblank hp' hbeneath]

theorem exists_before (opening : Opening) (hbefore : AllBlank before) (hinside : AllBlank inside) :
    ∃ x y, AllBlank x ∧ AllBlank y ∧ (opening = .absent → y = []) ∧
      before ++ (opening.chars ++ inside) = x ++ (opening.chars ++ y) := by
  by_cases h : opening = .absent
  · subst h
    exact ⟨before ++ inside, [], hbefore.append hinside, by simp [AllBlank], fun _ => rfl,
      by simp [Opening.chars]⟩
  · exact ⟨before, inside, hbefore, hinside, fun habsent => absurd habsent h, rfl⟩

theorem exists_behind (closed : Bool) (hbeneath : AllBlank beneath) (hbehind : AllBlank behind) :
    ∃ x y, AllBlank x ∧ AllBlank y ∧ (closed = false → x = []) ∧
      beneath ++ (closing closed ++ behind) = x ++ (closing closed ++ y) := by
  cases closed with
  | false =>
    exact ⟨[], beneath ++ behind, by simp [AllBlank], hbeneath.append hbehind, fun _ => rfl,
      by simp [closing]⟩
  | true => exact ⟨beneath, behind, hbeneath, hbehind, (by cases ·), rfl⟩

end Document

theorem strip_around (w : Wrapping) {t : String}
    (ht : Trimmed Json.isOuter (Text.trimBy Json.isGap t.toList))
    (ht' : Text.trimBy Json.isGap t.toList ≠ []) :
    strip (w.around t) = String.ofList (Text.trimBy Json.isGap t.toList) := by
  obtain ⟨g, g', hg, hg', hsplit⟩ := Text.exists_trimBy_append Json.isGap t.toList
  generalize Text.trimBy Json.isGap t.toList = p at ht ht' hsplit ⊢
  have hinside : AllBlank (w.inside.1 ++ g) :=
    AllBlank.append w.inside.2 fun c hc => Json.isBlank_of_isGap (hg c hc)
  have hbeneath : AllBlank (g' ++ w.beneath.1) :=
    AllBlank.append (fun c hc => Json.isBlank_of_isGap (hg' c hc)) w.beneath.2
  obtain ⟨x, y, hx, hy, habsent, hbefore⟩ := exists_before w.opening w.before.2 hinside
  obtain ⟨z, u, hz, hu, hopen, hbehind⟩ := exists_behind w.closed hbeneath w.behind.2
  have haround : w.around t = String.ofList
      (x ++ (w.opening.chars ++ (y ++ (p ++ z)) ++ closing w.closed ++ u)) := by
    have hparts :
        w.before.1 ++ (w.opening.chars ++ (w.inside.1 ++ (g ++ (p ++ g')) ++ w.beneath.1) ++
            closing w.closed ++ w.behind.1) =
          w.before.1 ++ (w.opening.chars ++ (w.inside.1 ++ g)) ++
            (p ++ (g' ++ w.beneath.1 ++ (closing w.closed ++ w.behind.1))) := by
      simp only [List.append_assoc]
    rw [Wrapping.around, hsplit, hparts, hbefore, hbehind]
    simp only [List.append_assoc]
  rw [haround, strip_append w.opening w.closed ht ht' hx hy hz hu habsent hopen]

end Fence

namespace Reply

/-- Fencing does not change what is read, whatever the reader has room for. -/
theorem document_around (b : Json.Bounds) (w : Fence.Wrapping) {text : String} {t : Json.Tree}
    (h : Json.read b text = .ok t) :
    Fence.strip (w.around text) = String.ofList (Text.trimBy Json.isGap text.toList) ∧
      document b (w.around text) = .ok t := by
  obtain ⟨hne, htrimmed, htrim⟩ := Json.document_trimBy (Json.read_eq_ok_iff.1 h)
  have hstrip := Fence.strip_around w htrimmed hne
  refine ⟨hstrip, ?_⟩
  rw [document, hstrip]
  exact Json.read_eq_ok_iff.2 (by rw [String.toList_ofList, htrim])

/-- A fenced block, each fence on a line of its own. -/
def block : Fence.Wrapping :=
  ⟨.json, true, ⟨[], by decide⟩, ⟨['\n'], by decide⟩, ⟨['\n'], by decide⟩, ⟨['\n'], by decide⟩⟩

def backquotes : Json.Tree := .list [.text (List.replicate 3 (.char '\x60'))]

theorem document_around_backquotes :
    Json.read ⟨4300, 980⟩ " [\"\x60\x60\x60\"]" = .ok backquotes ∧
      Fence.strip (block.around " [\"\x60\x60\x60\"]") =
        String.ofList (Text.trimBy Json.isGap " [\"\x60\x60\x60\"]".toList) ∧
      document ⟨4300, 980⟩ (block.around " [\"\x60\x60\x60\"]") = .ok backquotes := by
  have hread : Json.read ⟨4300, 980⟩ " [\"\x60\x60\x60\"]" = .ok backquotes := by
    cbv
  exact ⟨hread, document_around ⟨4300, 980⟩ block hread⟩

end Reply

end IntakeForms
