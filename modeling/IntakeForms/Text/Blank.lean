/-!
Blank characters, trimming and clipping of text.  Lengths count code points.
Two sets are in use: `isSpace` is the white space property, `isBlank` adds the
four information separators U+001C to U+001F.  The main statement says that a
trimmed text has no blank end.
-/

namespace IntakeForms.Text

def isSpace (c : Char) : Bool :=
  let n := c.toNat
  (9 ≤ n && n ≤ 13) || n == 0x20 || n == 0x85 || n == 0xa0 || n == 0x1680 ||
    (0x2000 ≤ n && n ≤ 0x200a) || n == 0x2028 || n == 0x2029 || n == 0x202f ||
    n == 0x205f || n == 0x3000

def isBlank (c : Char) : Bool :=
  isSpace c || (0x1c ≤ c.toNat && c.toNat ≤ 0x1f)

def trimStart (p : Char → Bool) (s : List Char) : List Char :=
  s.dropWhile p

def trimEnd (p : Char → Bool) (s : List Char) : List Char :=
  (s.reverse.dropWhile p).reverse

def trimBy (p : Char → Bool) (s : List Char) : List Char :=
  trimEnd p (trimStart p s)

/-- No character of the class `p` is at an end. -/
structure Trimmed (p : Char → Bool) (s : List Char) : Prop where
  head : ∀ c ∈ s.head?, p c = false
  last : ∀ c ∈ s.getLast?, p c = false

theorem head?_trimStart {p : Char → Bool} {s : List Char} {c : Char}
    (h : c ∈ (trimStart p s).head?) : p c = false := by
  induction s with
  | nil => simp [trimStart] at h
  | cons d s ih =>
    by_cases hd : p d = true
    · exact ih (by simpa [trimStart, hd] using h)
    · have hc : d = c := by simpa [trimStart, hd] using h
      simpa [hc] using hd

theorem trimStart_of_head {p : Char → Bool} {s : List Char} (h : ∀ c ∈ s.head?, p c = false) :
    trimStart p s = s := by
  cases s with
  | nil => rfl
  | cons d s =>
    have hd : p d = false := h d (by simp)
    simp [trimStart, hd]

theorem trimEnd_eq (p : Char → Bool) (s : List Char) :
    trimEnd p s = (trimStart p s.reverse).reverse := rfl

theorem getLast?_trimEnd {p : Char → Bool} {s : List Char} {c : Char}
    (h : c ∈ (trimEnd p s).getLast?) : p c = false := by
  rw [trimEnd_eq, List.getLast?_reverse] at h
  exact head?_trimStart h

theorem trimEnd_of_last {p : Char → Bool} {s : List Char} (h : ∀ c ∈ s.getLast?, p c = false) :
    trimEnd p s = s := by
  rw [trimEnd_eq, trimStart_of_head (by simpa [List.head?_reverse] using h), List.reverse_reverse]

theorem trimEnd_isPrefix (p : Char → Bool) (s : List Char) : trimEnd p s <+: s := by
  have h : trimStart p s.reverse <:+ s.reverse := List.dropWhile_suffix p
  have h' := List.reverse_prefix.2 h
  rwa [List.reverse_reverse] at h'

theorem trimBy_trimmed (p : Char → Bool) (s : List Char) : Trimmed p (trimBy p s) where
  head c hc := by
    obtain ⟨t, ht⟩ := trimEnd_isPrefix p (trimStart p s)
    cases hs : trimEnd p (trimStart p s) with
    | nil => simp [trimBy, hs] at hc
    | cons d u =>
      have hd : c = d := by simpa [trimBy, hs, eq_comm] using hc
      apply head?_trimStart (s := s)
      rw [← ht, hs]
      simp [hd]
  last _ hc := getLast?_trimEnd hc

theorem trimBy_of_trimmed {p : Char → Bool} {s : List Char} (h : Trimmed p s) :
    trimBy p s = s := by
  rw [trimBy, trimStart_of_head h.head, trimEnd_of_last h.last]

theorem trimBy_length_le (p : Char → Bool) (s : List Char) : (trimBy p s).length ≤ s.length :=
  Nat.le_trans (trimEnd_isPrefix p _).length_le (List.dropWhile_suffix p).length_le

def trim (s : String) : String :=
  String.ofList (trimBy isBlank s.toList)

def clip (n : Nat) (s : String) : String :=
  String.ofList (s.toList.take n)

theorem clip_length_le (n : Nat) (s : String) : (clip n s).length ≤ n := by
  simp only [clip, String.length_ofList, List.length_take]
  exact Nat.min_le_left _ _

theorem clip_of_length_le {n : Nat} {s : String} (h : s.length ≤ n) : clip n s = s := by
  have h' : s.toList.length ≤ n := by rw [String.length_toList]; exact h
  simp [clip, List.take_of_length_le h']

end IntakeForms.Text
