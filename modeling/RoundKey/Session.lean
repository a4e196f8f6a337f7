import RoundKey.Client

/-!
# Sessions

Calls of one client, one after another, over a channel that gives back a set delivery for each.
A call posts at most one request and leaves nothing behind but fewer random bytes. A call that
aborts is over like any other, and the next one may follow.
-/
namespace RoundKey

/-- A call and what the channel gives back for it. -/
structure Step where
  /-- The call. -/
  call : Call
  /-- What comes back. -/
  delivery : Delivery

/-- What a step did. -/
structure Record where
  /-- What it posted. -/
  post : Option Post
  /-- What it reported and what it came to. -/
  outcome : Logged CallUpshot
  /-- The random bytes it left. -/
  left : Randomness

namespace Client

/-- Run one step. -/
def runStep (client : Client) (step : Step) (randomness : Randomness) : Record :=
  match client.start? step.call randomness with
  | none => ⟨none, ⟨[], step.call.undrawn⟩, randomness⟩
  | some (pending, rest) => ⟨some pending.post, client.finish step.delivery pending, rest⟩

/-- Run steps one after another. -/
def run (client : Client) : List Step → Randomness → List Record
  | [], _ => []
  | step :: steps, randomness =>
    let record := client.runStep step randomness
    record :: client.run steps record.left

/-- The random bytes that steps leave. -/
def leftAfter (client : Client) (steps : List Step) (randomness : Randomness) : Randomness :=
  steps.foldl (fun left step => (client.runStep step left).left) randomness

end Client

end RoundKey
