import RoundKey.Client

/-!
# Clients in shared use

Many callers may use one client at the same time. A call starts: it draws what it needs and posts
its request. It finishes when the channel gives something back for it. Between the two, other calls
may start and finish. All they have in common are the random bytes, which a call takes from the
front when it starts.
-/
namespace RoundKey

/-- A step of one call among many. Calls are told apart by numbers. -/
inductive Move where
  /-- A call starts. -/
  | start (number : Nat) (call : Call)
  /-- Something comes back for a call. -/
  | finish (number : Nat) (delivery : Delivery)

/-- A call that has started. -/
structure Track where
  /-- Its number. -/
  number : Nat
  /-- What it does. -/
  call : Call
  /-- What it keeps until something comes back, unless there were too few random bytes. -/
  pending : Option Pending
  /-- What it reported and what it came to, once it has finished. -/
  outcome : Option (Logged CallUpshot)

/-- A client in use. -/
structure Shared where
  /-- The random bytes that no call has drawn. -/
  left : Randomness
  /-- The calls that have started, in the order of their starts. -/
  tracks : List Track

namespace Client

/-- How a call ends with what comes back for it. A call without random bytes ends without a look
at it. -/
def conclude (client : Client) (call : Call) (delivery : Delivery) :
    Option Pending → Logged CallUpshot
  | none => ⟨[], call.undrawn⟩
  | some pending => client.finish delivery pending

/-- Start a call under a number that no call has. -/
def startTrack? (client : Client) (shared : Shared) (number : Nat) (call : Call) : Option Shared :=
  if number ∈ shared.tracks.map Track.number then none
  else
    match client.start? call shared.left with
    | some (pending, rest) => some ⟨rest, shared.tracks ++ [⟨number, call, some pending, none⟩]⟩
    | none => some ⟨shared.left, shared.tracks ++ [⟨number, call, none, none⟩]⟩

/-- A track after something has come back for the call of a number. -/
def finishTrack (client : Client) (number : Nat) (delivery : Delivery) (track : Track) : Track :=
  if track.number = number then
    { track with outcome := some (client.conclude track.call delivery track.pending) }
  else track

/-- Make a move. A number starts once, and finishes once after that. -/
def move? (client : Client) (shared : Shared) : Move → Option Shared
  | .start number call => client.startTrack? shared number call
  | .finish number delivery =>
    if shared.tracks.any fun track => track.number == number && track.outcome.isNone then
      some { shared with tracks := shared.tracks.map (client.finishTrack number delivery) }
    else none

/-- Make moves one after another. -/
def moves? (client : Client) (shared : Shared) (moves : List Move) : Option Shared :=
  moves.foldlM client.move? shared

end Client

end RoundKey
