import Phrasebook.Completion.Basic

/-!
# Joining completions

`all` collects ready successes in order and fails at once at a ready failure.
From the first pending element on the rest is driven together: each round polls
the unfinished elements in order, and the first failure met ends the join,
releasing every other unfinished element. The values keep the order of the
elements.

The scheduler of a running engine goes by rounds only while no more than 30
elements are driven together. From 31 on it polls the elements that have been
woken and takes their results in the order of the elements, so that a failure is
met only after everything in front of it has succeeded. `all` goes by rounds at
any length: above 30 it may end in the failure of another element than the
scheduler, and after other polls. A join that succeeds has the same values
either way.
-/

namespace Phrasebook
namespace Completion

variable {σ ε α β γ : Type}

/-- What polling the first of two completions led to, as a function of the
second one. -/
inductive Lead (σ ε β γ : Type) : Type where
  | blocked
  | failed (error : ε) (state : σ)
  | moved (rejoin : Completion σ (Except ε β) → Completion σ (Except ε γ))
      (release : σ → σ) (state : σ)

/-- A failure that is met at the next poll, with what it releases then. -/
def failing (error : ε) (release : σ → σ) : Completion σ (Except ε γ) :=
  .pending (fun state =>
    .advanced (.ready (.error error)) (release state)) release

mutual

/-- The second of two completions, polled after the first one has been polled by
`lead`. -/
def behind (lead : σ → Lead σ ε β γ) (leadRelease : σ → σ) :
    Completion σ (Except ε β) → Completion σ (Except ε γ)
  | .ready (.ok value) =>
    .pending (fun state =>
      match lead state with
      | .blocked => .blocked
      | .failed error state => .advanced (.ready (.error error)) state
      | .moved rejoin _ state => .advanced (rejoin (.ready (.ok value))) state)
          leadRelease
  | .ready (.error error) =>
    .pending (fun state =>
      match lead state with
      | .blocked => .advanced (.ready (.error error)) (leadRelease state)
      | .failed first state => .advanced (.ready (.error first)) state
      | .moved _ release state =>
        .advanced (.ready (.error error)) (release state)) leadRelease
  | .pending advance release =>
    .pending (fun state =>
      match lead state with
      | .blocked => behindPoll lead leadRelease (advance state)
      | .failed error state => .advanced (.ready (.error error)) (release state)
      | .moved rejoin leadRelease state =>
        match advance state with
        | .blocked => .advanced (rejoin (.pending advance release)) state
        | .advanced (.ready (.error error)) state =>
          .advanced (.ready (.error error)) (leadRelease state)
        | .advanced next state => .advanced (rejoin next) state)
      (fun state => release (leadRelease state))

/-- Goes on after the second completion was polled while the first one was
blocked. -/
def behindPoll (lead : σ → Lead σ ε β γ) (leadRelease : σ → σ) :
    Poll σ (Except ε β) → Poll σ (Except ε γ)
  | .blocked => .blocked
  | .advanced next state =>
    match next with
    | .ready (.error error) =>
      .advanced (.ready (.error error)) (leadRelease state)
    | _ => .advanced (behind lead leadRelease next) state

end

mutual

/-- Two completions driven together, the first one polled first in each
round. -/
def both (combine : α → β → γ) :
    Completion σ (Except ε α) → Completion σ (Except ε β) →
      Completion σ (Except ε γ)
  | .ready (.ok value) => fun second => second.map (combine value)
  | .ready (.error error) => fun second => failing error second.abandon
  | .pending advance release =>
    behind (fun state => leadOf combine (advance state)) release

/-- What a poll of the first completion led to. -/
def leadOf (combine : α → β → γ) : Poll σ (Except ε α) → Lead σ ε β γ
  | .blocked => .blocked
  | .advanced next state =>
    match next with
    | .ready (.error error) => .failed error state
    | _ => .moved (both combine next) next.abandon state

end

def together :
    List (Completion σ (Except ε α)) → Completion σ (Except ε (List α))
  | [] => .ready (.ok [])
  | first :: rest => both List.cons first (together rest)

def abandonAll
    (completions : List (Completion σ (Except ε α))) (state : σ) : σ :=
  completions.foldl (fun state completion => completion.abandon state) state

/-- Joins completions, keeping their order. -/
def all (completions : List (Completion σ (Except ε α))) (state : σ) :
    Completion σ (Except ε (List α)) × σ :=
  match completions with
  | [] => (.ready (.ok []), state)
  | .ready (.ok value) :: rest =>
    let (joined, state) := all rest state
    (joined.map (value :: ·), state)
  | .ready (.error error) :: rest =>
    (.ready (.error error), abandonAll rest state)
  | .pending advance release :: rest =>
    (together (.pending advance release :: rest), state)

end Completion
end Phrasebook
