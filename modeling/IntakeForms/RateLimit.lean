import IntakeForms.Entries
import IntakeForms.Number.Nearest
import IntakeForms.Text.Blank

/-!
A sliding-window limit on requests by key.  The state keeps, for every key, the
times of the requests it let through that the window may still hold; from time to
time keys without any are dropped.  Times can be of any kind that can be added,
subtracted and compared, so that the same rules run on machine numbers and can be
stated of exact ones.
-/

namespace IntakeForms

namespace RateLimit

variable {τ : Type} [OfNat τ 0] [Add τ] [Sub τ] [LE τ] [LT τ] [DecidableLE τ] [DecidableLT τ]

/-- So many requests in every window; all keys are looked through after each `sweepPause`. -/
structure Limit (τ : Type) where
  max : Int
  window : τ
  sweepPause : τ

def Limit.ofWindow [OfNat τ 300] (max : Int) (window : τ) : Limit τ := ⟨max, window, 300⟩

structure State (τ : Type) where
  hits : List (String × List τ)
  lastSweep : τ

structure Decision (τ : Type) where
  allowed : Bool
  remaining : Int
  limit : Int
  resetAt : τ
  retryAfter : τ

def start (now : τ) : State τ := ⟨[], now⟩

def live (cutoff : τ) (times : List τ) : List τ := times.dropWhile (· ≤ cutoff)

def sweep (l : Limit τ) (now : τ) (s : State τ) : State τ :=
  if now - s.lastSweep < l.sweepPause then s
  else
    { hits := (s.hits.map fun (k, times) => (k, live (now - l.window) times)).filter (!·.2.isEmpty)
      lastSweep := now }

def larger (a b : τ) : τ := if a < b then b else a

def check (l : Limit τ) (now : τ) (key : String) (s : State τ) : Decision τ × State τ :=
  let cutoff := now - l.window
  let s := sweep l now s
  let times := live cutoff ((Entries.get? key s.hits).getD [])
  let resetAt := times.head?.getD now + l.window
  if l.max ≤ times.length then
    (⟨false, 0, l.max, resetAt, larger 0 (resetAt - now)⟩,
      { s with hits := Entries.put key times s.hits })
  else
    (⟨true, l.max - (times.length + 1), l.max, resetAt, 0⟩,
      { s with hits := Entries.put key (times ++ [now]) s.hits })

def tracked (s : State τ) : List String := Entries.keys s.hits

def waitSeconds (pause : Rat) : Int := max 1 (roundRat pause)

end RateLimit

/-- The address a request is counted under: the first of the forwarded ones, or the one its
proxy saw, or the one it came from. -/
def clientAddress (header? : String → Option String) (origin : Option String) : String :=
  let nonempty (s : Option String) : Option String := s.filter (!·.isEmpty)
  match nonempty (header? "x-forwarded-for") with
  | some forwarded => Text.trim (String.ofList (forwarded.toList.takeWhile (· != ',')))
  | none => match nonempty (header? "x-real-ip") with
    | some address => Text.trim address
    | none => (nonempty origin).getD "unknown"

end IntakeForms
