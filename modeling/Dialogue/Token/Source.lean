import Dialogue.Token

/-!
# Token sources

Whatever hands out tokens one by one: it has a current token, an error once it has stopped on
one, and a number of tokens that it can still give at most. The last makes every loop over a
source end.

## Main definitions

* `TokenSource σ`: states `σ` that hand out tokens
* `TokenSource.drain source`: all tokens up to the next stop
* `Replay`: a source that hands out a given list of tokens
-/

namespace Dialogue

/-- States that hand out tokens one by one. -/
class TokenSource (σ : Type) where
  /-- Moves to the next token. `false` means that there is none: the source is at an end, or has
  stopped on an error. -/
  advance : σ → Bool × σ
  /-- The token of the last move. -/
  current : σ → Token
  /-- The error on which the source has stopped. -/
  error : σ → Option LexError
  /-- A bound on the number of tokens to come. -/
  remaining : σ → Nat
  /-- Each token uses up some of the bound. -/
  remaining_advance : ∀ source, (advance source).1 = true →
    remaining (advance source).2 < remaining source

namespace TokenSource

variable {σ : Type} [TokenSource σ]

/-- The tokens up to the next stop, and the source where it stopped. -/
def drain (source : σ) : List Token × σ :=
  if _hmore : (advance source).1 = true then
    let (tokens, stopped) := drain (advance source).2
    (current (advance source).2 :: tokens, stopped)
  else ([], (advance source).2)
termination_by remaining source
decreasing_by exact remaining_advance source _hmore

end TokenSource

/-- A source that hands out given tokens and then ends, cleanly or with a given error. -/
structure Replay where
  pending : List Token
  finalError : Option LexError := none
  current : Token := .endOfInput .start
  error : Option LexError := none

namespace Replay

/-- The next of the given tokens. When they are used up the current token is an end of input
where the last one was, and the final error, if any, stops the source for good. -/
def advance (replay : Replay) : Bool × Replay :=
  match replay.error with
  | some _ => (false, replay)
  | none =>
    match replay.pending with
    | token :: pending => (true, { replay with pending, current := token })
    | [] =>
      (false, { replay with
        error := replay.finalError
        finalError := none
        current := .endOfInput replay.current.position })

/-- A token comes from the given ones. -/
theorem length_pending_advance (replay : Replay) (hmore : replay.advance.1 = true) :
    replay.advance.2.pending.length < replay.pending.length := by
  unfold advance at hmore ⊢
  split at hmore
  · simp at hmore
  · cases hpending : replay.pending <;> simp_all

instance : TokenSource Replay where
  advance := advance
  current := current
  error := error
  remaining replay := replay.pending.length
  remaining_advance := length_pending_advance

end Replay

end Dialogue
