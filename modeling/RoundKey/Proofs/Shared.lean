import RoundKey.Proofs.Client
import RoundKey.Shared

/-!
# Calls of a shared client do not disturb each other

However the starts and the finishes of calls are mixed, each call goes as it would go alone. The
random bytes that calls draw lie one behind another in the order of their starts, so no two calls
draw the same bytes. A call keeps what it drew and what it posted to itself until something comes
back for it, so an extraction opens its reply with the secret whose public key it has posted. The
fixed nonce of a box is sound for this reason. Calls that run in turn are a session.
-/
namespace RoundKey

/-- The random bytes that a call drew. -/
def Track.drawn (track : Track) : List UInt8 := (track.pending.map Pending.drawn).getD []

/-- What a call posted. -/
def Track.post? (track : Track) : Option Post := track.pending.map Pending.post

namespace Move

/-- The number and the call of a start. -/
def started? : Move → Option (Nat × Call)
  | start number call => some (number, call)
  | finish _ _ => none

/-- The number of a finish. -/
def finished? : Move → Option Nat
  | start _ _ => none
  | finish number _ => some number

end Move

/-- The calls that start, under their numbers, in order. -/
def started (moves : List Move) : List (Nat × Call) := moves.filterMap Move.started?

/-- The numbers of the calls that finish, in order. -/
def finished (moves : List Move) : List Nat := moves.filterMap Move.finished?

/-- Starts and finishes of calls in any order in which every call starts once, under a number of
its own, and finishes at most once, after its start. -/
inductive Interleaving : List Move → Prop where
  /-- Nothing has happened. -/
  | nil : Interleaving []
  /-- Another call starts. -/
  | start {moves : List Move} {number : Nat} {call : Call} (earlier : Interleaving moves)
    (fresh : number ∉ (started moves).map Prod.fst) :
    Interleaving (moves ++ [.start number call])
  /-- A call that has started finishes. -/
  | finish {moves : List Move} {number : Nat} {delivery : Delivery} (earlier : Interleaving moves)
    (running : number ∈ (started moves).map Prod.fst) (unfinished : number ∉ finished moves) :
    Interleaving (moves ++ [.finish number delivery])

/-- Another start comes after those before it. -/
theorem started_append_start (moves : List Move) (number : Nat) (call : Call) :
    started (moves ++ [.start number call]) = started moves ++ [(number, call)] := by
  rw [started, List.filterMap_append]
  rfl

/-- A finish is no start. -/
theorem started_append_finish (moves : List Move) (number : Nat) (delivery : Delivery) :
    started (moves ++ [.finish number delivery]) = started moves := by
  rw [started, List.filterMap_append]
  exact List.append_nil _

/-- The number of a finish is that of a call that finishes. -/
theorem mem_finished_of_mem {moves : List Move} {number : Nat} {delivery : Delivery}
    (inside : .finish number delivery ∈ moves) : number ∈ finished moves :=
  List.mem_filterMap.mpr ⟨_, inside, rfl⟩

/-- A call that finishes has started. -/
theorem Interleaving.mem_started {moves : List Move} (ordered : Interleaving moves) {number : Nat}
    (inside : number ∈ finished moves) : number ∈ (started moves).map Prod.fst := by
  induction ordered with
  | nil => exact absurd inside List.not_mem_nil
  | start earlier fresh ih =>
    rw [finished, List.filterMap_append, List.mem_append] at inside
    rw [started_append_start, List.map_append]
    exact List.mem_append_left _ (ih (inside.resolve_right List.not_mem_nil))
  | finish earlier running unfinished ih =>
    rw [finished, List.filterMap_append, List.mem_append] at inside
    rw [started_append_finish]
    rcases inside with before | same
    · exact ih before
    · rw [List.mem_singleton.mp same]
      exact running

/-- What holds of a client in use after some moves: the calls that started are there, their random
bytes lie one behind another, and each of them is where it would be alone. -/
structure Shared.IsSound (client : Client) (stream : Randomness) (moves : List Move)
    (shared : Shared) : Prop where
  /-- The tracks are those of the calls that started. -/
  starts : (shared.tracks.map fun track => (track.number, track.call)) = started moves
  /-- No two tracks share a number. -/
  numbers : (shared.tracks.map Track.number).Nodup
  /-- The random bytes that were drawn and those that are left make up all there were. -/
  stream_eq : stream = shared.tracks.flatMap Track.drawn ++ shared.left
  /-- Each call started as it would start with the bytes it drew. -/
  alone : ∀ track ∈ shared.tracks,
    client.start? track.call track.drawn = track.pending.map fun pending => (pending, [])
  /-- A call that found too few random bytes left them too few. -/
  starved : ∀ track ∈ shared.tracks, track.pending = none → shared.left.length < 32
  /-- A call that finished ended with what came back for it. -/
  ended : ∀ track ∈ shared.tracks, ∀ delivery, .finish track.number delivery ∈ moves →
    track.outcome = some (client.conclude track.call delivery track.pending)
  /-- A call that did not finish has not ended. -/
  waiting : ∀ track ∈ shared.tracks, track.number ∉ finished moves → track.outcome = none

namespace Shared.IsSound

variable {client : Client} {stream : Randomness} {moves : List Move} {shared : Shared}

/-- The numbers of the tracks are those of the calls that started. -/
theorem map_number (sound : shared.IsSound client stream moves) :
    shared.tracks.map Track.number = (started moves).map Prod.fst := by
  rw [← sound.starts, List.map_map]
  rfl

/-- Nothing has happened yet. -/
theorem initial (client : Client) (stream : Randomness) :
    Shared.IsSound client stream [] ⟨stream, []⟩ where
  starts := rfl
  numbers := List.nodup_nil
  stream_eq := rfl
  alone _ inside := absurd inside List.not_mem_nil
  starved _ inside := absurd inside List.not_mem_nil
  ended _ inside := absurd inside List.not_mem_nil
  waiting _ inside := absurd inside List.not_mem_nil

/-- A call that starts joins those that are there. -/
theorem add (sound : shared.IsSound client stream moves) (ordered : Interleaving moves)
    {number : Nat} (fresh : number ∉ (started moves).map Prod.fst) {call : Call}
    {pending : Option Pending} {left : Randomness}
    (draws : shared.left = ((pending.map Pending.drawn).getD []) ++ left)
    (starts : client.start? call ((pending.map Pending.drawn).getD []) =
      pending.map fun pending => (pending, []))
    (starves : pending = none → left.length < 32) :
    Shared.IsSound client stream (moves ++ [.start number call])
      ⟨left, shared.tracks ++ [⟨number, call, pending, none⟩]⟩ where
  starts := by
    rw [List.map_append, sound.starts, started_append_start]
    rfl
  numbers := by
    rw [List.map_append, List.nodup_append]
    refine ⟨sound.numbers, List.pairwise_singleton _ _, fun first inside second last same => ?_⟩
    rw [sound.map_number] at inside
    rw [List.map_singleton, List.mem_singleton] at last
    rw [same, last] at inside
    exact fresh inside
  stream_eq := by
    rw [sound.stream_eq, draws, List.flatMap_append, List.append_assoc]
    simp [Track.drawn]
  alone := by
    intro track inside
    rcases List.mem_append.mp inside with before | last
    · exact sound.alone track before
    · rw [List.mem_singleton.mp last]
      exact starts
  starved := by
    have less : left.length ≤ shared.left.length := by
      rw [draws, List.length_append]
      exact Nat.le_add_left _ _
    intro track inside none
    rcases List.mem_append.mp inside with before | last
    · exact Nat.lt_of_le_of_lt less (sound.starved track before none)
    · rw [List.mem_singleton.mp last] at none
      exact starves none
  ended := by
    intro track inside delivery finishes
    rcases List.mem_append.mp finishes with finishes | isStart
    · rcases List.mem_append.mp inside with before | last
      · exact sound.ended track before delivery finishes
      · -- A finish of the new call among the earlier moves would have had to come after its start.
        rw [List.mem_singleton.mp last] at finishes
        exact absurd (ordered.mem_started (mem_finished_of_mem finishes)) fresh
    · exact nomatch List.mem_singleton.mp isStart
  waiting := by
    intro track inside unfinished
    rcases List.mem_append.mp inside with before | last
    · have unfinished : track.number ∉ finished moves := by
        rw [finished, List.filterMap_append, List.mem_append, not_or] at unfinished
        exact unfinished.1
      exact sound.waiting track before unfinished
    · rw [List.mem_singleton.mp last]

/-- A call can start under a fresh number. -/
theorem exists_start (sound : shared.IsSound client stream moves) (ordered : Interleaving moves)
    {number : Nat} (fresh : number ∉ (started moves).map Prod.fst) (call : Call) :
    ∃ next, client.move? shared (.start number call) = some next ∧
      next.IsSound client stream (moves ++ [.start number call]) := by
  have unused : number ∉ shared.tracks.map Track.number := sound.map_number ▸ fresh
  rw [Client.move?, Client.startTrack?, if_neg unused]
  cases starts : client.start? call shared.left with
  | some found =>
    obtain ⟨pending, rest⟩ := found
    obtain ⟨draws, alone, -⟩ := Client.start?_eq_some starts
    exact ⟨_, rfl, sound.add ordered fresh draws alone nofun⟩
  | none =>
    obtain ⟨draws, few⟩ := Client.start?_eq_none_iff.mp starts
    have alone : client.start? call [] = none :=
      Client.start?_eq_none_iff.mpr ⟨draws, Nat.zero_lt_succ 31⟩
    exact ⟨_, rfl, sound.add ordered fresh rfl alone fun _ => few⟩

end Shared.IsSound

section

variable {client : Client} {number : Nat} {delivery : Delivery} {track : Track}

/-- A finish changes no other call. -/
theorem finishTrack_of_ne (other : track.number ≠ number) :
    client.finishTrack number delivery track = track := if_neg other

/-- A finish changes no number. -/
@[simp]
theorem number_finishTrack :
    (client.finishTrack number delivery track).number = track.number := by
  unfold Client.finishTrack
  split <;> rfl

/-- A finish changes no call. -/
@[simp]
theorem call_finishTrack :
    (client.finishTrack number delivery track).call = track.call := by
  unfold Client.finishTrack
  split <;> rfl

/-- A finish changes nothing that a call keeps. -/
@[simp]
theorem pending_finishTrack :
    (client.finishTrack number delivery track).pending = track.pending := by
  unfold Client.finishTrack
  split <;> rfl

/-- A finish draws nothing. -/
@[simp]
theorem drawn_finishTrack :
    (client.finishTrack number delivery track).drawn = track.drawn := by
  rw [Track.drawn, pending_finishTrack, Track.drawn]

end

namespace Shared.IsSound

variable {client : Client} {stream : Randomness} {moves : List Move} {shared : Shared}

/-- A call that has started can finish once. -/
theorem exists_finish (sound : shared.IsSound client stream moves) {number : Nat}
    (running : number ∈ (started moves).map Prod.fst) (unfinished : number ∉ finished moves)
    (delivery : Delivery) :
    ∃ next, client.move? shared (.finish number delivery) = some next ∧
      next.IsSound client stream (moves ++ [.finish number delivery]) := by
  have waits : (shared.tracks.any fun track =>
      track.number == number && track.outcome.isNone) = true := by
    rw [← sound.map_number] at running
    obtain ⟨track, inside, rfl⟩ := List.mem_map.mp running
    rw [List.any_eq_true]
    exact ⟨track, inside, by simp [sound.waiting track inside unfinished]⟩
  rw [Client.move?, if_pos waits]
  refine ⟨_, rfl, ?_⟩
  constructor
  case starts =>
    rw [started_append_finish, ← sound.starts, List.map_map]
    exact List.map_congr_left fun track _ => by simp
  case numbers =>
    have same : (shared.tracks.map (client.finishTrack number delivery)).map Track.number =
        shared.tracks.map Track.number := by
      rw [List.map_map]
      exact List.map_congr_left fun track _ => by simp
    rw [same]
    exact sound.numbers
  case stream_eq =>
    rw [List.flatMap_map]
    simp only [drawn_finishTrack]
    exact sound.stream_eq
  case alone =>
    intro _ inside
    obtain ⟨track, known, rfl⟩ := List.mem_map.mp inside
    simp only [call_finishTrack, drawn_finishTrack, pending_finishTrack]
    exact sound.alone track known
  case starved =>
    intro _ inside none
    obtain ⟨track, known, rfl⟩ := List.mem_map.mp inside
    rw [pending_finishTrack] at none
    exact sound.starved track known none
  case ended =>
    intro _ inside delivery' finishes
    obtain ⟨track, known, rfl⟩ := List.mem_map.mp inside
    rw [number_finishTrack] at finishes
    rw [pending_finishTrack]
    rcases List.mem_append.mp finishes with before | last
    · -- The call that finishes now has not finished before, so this is another one.
      have other : track.number ≠ number := by
        rintro rfl
        exact unfinished (mem_finished_of_mem before)
      rw [finishTrack_of_ne other]
      exact sound.ended track known delivery' before
    · cases List.mem_singleton.mp last
      rw [Client.finishTrack, if_pos rfl]
  case waiting =>
    intro _ inside waits
    obtain ⟨track, known, rfl⟩ := List.mem_map.mp inside
    rw [number_finishTrack, finished, List.filterMap_append, List.mem_append, not_or] at waits
    have other : track.number ≠ number := fun same => waits.2 (List.mem_singleton.mpr same)
    rw [finishTrack_of_ne other]
    exact sound.waiting track known waits.1

/-- Every interleaving can be carried out, and after it everything is as it should be. -/
theorem exists_moves (client : Client) (stream : Randomness) {moves : List Move}
    (ordered : Interleaving moves) :
    ∃ shared, client.moves? ⟨stream, []⟩ moves = some shared ∧
      shared.IsSound client stream moves := by
  induction ordered with
  | nil => exact ⟨_, rfl, initial client stream⟩
  | start earlier fresh ih =>
    obtain ⟨shared, reached, sound⟩ := ih
    obtain ⟨next, moved, kept⟩ := sound.exists_start earlier fresh _
    refine ⟨next, ?_, kept⟩
    rw [Client.moves?] at reached ⊢
    simp [List.foldlM_append, reached, moved]
  | finish earlier running unfinished ih =>
    obtain ⟨shared, reached, sound⟩ := ih
    obtain ⟨next, moved, kept⟩ := sound.exists_finish running unfinished _
    refine ⟨next, ?_, kept⟩
    rw [Client.moves?] at reached ⊢
    simp [List.foldlM_append, reached, moved]

end Shared.IsSound

/-- The moves of calls that run in turn, under numbers from one number on. -/
def inTurn : Nat → List Step → List Move
  | _, [] => []
  | number, step :: steps =>
    .start number step.call :: .finish number step.delivery :: inTurn (number + 1) steps

namespace Client

variable {shared : Shared} {number : Nat}

/-- A call that starts under a number above all others and finishes at once is one step. -/
theorem moves?_start_finish (client : Client)
    (below : ∀ track ∈ shared.tracks, track.number < number) (step : Step) :
    ∃ track, client.moves? shared [.start number step.call, .finish number step.delivery] =
        some ⟨(client.runStep step shared.left).left, shared.tracks ++ [track]⟩ ∧
      track.number = number ∧ track.post? = (client.runStep step shared.left).post ∧
      track.outcome = some (client.runStep step shared.left).outcome := by
  have fresh : number ∉ shared.tracks.map Track.number := by
    intro inside
    obtain ⟨track, known, same⟩ := List.mem_map.mp inside
    exact absurd same (Nat.ne_of_lt (below track known))
  obtain ⟨pending, started, posted, ended⟩ : ∃ pending : Option Pending,
      client.move? shared (.start number step.call) =
        some ⟨(client.runStep step shared.left).left,
          shared.tracks ++ [⟨number, step.call, pending, none⟩]⟩ ∧
      (client.runStep step shared.left).post = pending.map Pending.post ∧
      (client.runStep step shared.left).outcome =
        client.conclude step.call step.delivery pending := by
    rw [move?, startTrack?, if_neg fresh]
    cases started : client.start? step.call shared.left with
    | none =>
      rw [runStep_of_none started]
      exact ⟨none, rfl, rfl, rfl⟩
    | some found =>
      rw [runStep_of_some started]
      exact ⟨some found.1, rfl, rfl, rfl⟩
  have others : shared.tracks.map (client.finishTrack number step.delivery) = shared.tracks := by
    have same : ∀ track ∈ shared.tracks, client.finishTrack number step.delivery track = track :=
      fun track known => finishTrack_of_ne (Nat.ne_of_lt (below track known))
    rw [List.map_congr_left same, List.map_id']
  refine ⟨⟨number, step.call, pending, some (client.conclude step.call step.delivery pending)⟩,
    ?_, rfl, posted.symm, congrArg some ended.symm⟩
  rw [moves?, List.foldlM_cons, started]
  simp [move?, others, finishTrack]

/-- Calls that run in turn on a shared client are a session. -/
theorem moves?_inTurn (client : Client) (steps : List Step) (shared : Shared) (number : Nat)
    (below : ∀ track ∈ shared.tracks, track.number < number) :
    ∃ tracks, client.moves? shared (inTurn number steps) =
        some ⟨client.leftAfter steps shared.left, shared.tracks ++ tracks⟩ ∧
      tracks.map (fun track => (track.post?, track.outcome)) =
        (client.run steps shared.left).map fun record => (record.post, some record.outcome) := by
  induction steps generalizing shared number with
  | nil => exact ⟨[], by rw [List.append_nil]; rfl, rfl⟩
  | cons step steps ih =>
    obtain ⟨track, first, numbered, posted, ended⟩ := client.moves?_start_finish below step
    have stillBelow : ∀ known ∈ shared.tracks ++ [track], known.number < number + 1 := by
      intro known inside
      rcases List.mem_append.mp inside with before | last
      · exact Nat.lt_succ_of_lt (below known before)
      · rw [List.mem_singleton.mp last, numbered]
        exact Nat.lt_succ_self number
    obtain ⟨tracks, rest, same⟩ := ih ⟨_, shared.tracks ++ [track]⟩ _ stillBelow
    refine ⟨track :: tracks, ?_, ?_⟩
    · have split : inTurn number (step :: steps) =
          [.start number step.call, .finish number step.delivery] ++
            inTurn (number + 1) steps := rfl
      have left : client.leftAfter (step :: steps) shared.left =
          client.leftAfter steps (client.runStep step shared.left).left := rfl
      rw [moves?] at first rest ⊢
      rw [split, List.foldlM_append, first, left]
      simpa using rest
    · rw [List.map_cons, same, posted, ended]
      rfl

end Client

/-- Where in the stream the bytes of the call at an index begin: behind those of the calls that
started before it. -/
def Shared.offset (shared : Shared) (index : Nat) : Nat :=
  ((shared.tracks.take index).flatMap Track.drawn).length

/-- The bytes of the next call begin where those of a call end. -/
theorem Shared.offset_succ {shared : Shared} {track : Track} {index : Nat}
    (inside : shared.tracks[index]? = some track) :
    shared.offset (index + 1) = shared.offset index + track.drawn.length := by
  rw [offset, List.take_add_one, inside, Option.toList_some, List.flatMap_append,
    List.length_append, List.flatMap_singleton, offset]

/-- Later calls draw later bytes. -/
theorem Shared.offset_le_offset {shared : Shared} {first second : Nat} (order : first ≤ second) :
    shared.offset first ≤ shared.offset second := by
  obtain ⟨gap, rfl⟩ := Nat.exists_eq_add_of_le order
  rw [offset, offset, List.take_add, List.flatMap_append, List.length_append]
  exact Nat.le_add_right _ _

/-- A call on a shared client goes as it would go alone. -/
structure Track.GoesAlone (client : Client) (moves : List Move) (track : Track) : Prop where
  /-- It draws 32 bytes, or none if it needs none or finds too few. -/
  draws : track.drawn.length = if track.call.draws && track.post?.isSome then 32 else 0
  /-- Whatever comes back for it, it posts what it would post alone with the bytes it drew. -/
  posts : ∀ delivery, track.post? = (client.runStep ⟨track.call, delivery⟩ track.drawn).post
  /-- It ends as it would end alone with the bytes it drew and what comes back for it. -/
  ends : ∀ delivery, .finish track.number delivery ∈ moves →
    track.outcome = some (client.runStep ⟨track.call, delivery⟩ track.drawn).outcome
  /-- The nonce of a posted question is the bytes it drew. -/
  asks : track.call = .status → ∀ post, track.post? = some post →
    ∃ nonce : Octets 32, nonce.toList = track.drawn ∧
      post = Endpoint.post (client.statusRequest nonce)
  /-- The secret of an extraction is the bytes it drew: it posts the public key of this secret,
  and opens what comes back for it with this secret. -/
  opens : ∀ round, track.call = .extract round → ∀ post, track.post? = some post →
    ∃ (secret : Montgomery.Secret) (request : Signed ExtractRequest),
      secret.octets.toList = track.drawn ∧ post = Endpoint.post request ∧
      request.body.returnKey = secret.publicKey ∧
      ∀ delivery, .finish track.number delivery ∈ moves →
        track.outcome = some (client.finishExtract secret request
          (Endpoint.send (Signed ExtractRequest) client.identity delivery))

/-- Calls on a shared client do not disturb each other. -/
structure Shared.KeepsApart (client : Client) (stream : Randomness) (moves : List Move)
    (shared : Shared) : Prop where
  /-- The calls that started are there, in the order of their starts. -/
  starts : (shared.tracks.map fun track => (track.number, track.call)) = started moves
  /-- A call drew the bytes of one place in the stream. -/
  places : ∀ index track, shared.tracks[index]? = some track →
    (stream.drop (shared.offset index)).take track.drawn.length = track.drawn
  /-- The places of two calls share no byte. -/
  disjoint : ∀ first second track, shared.tracks[first]? = some track → first < second →
    shared.offset first + track.drawn.length ≤ shared.offset second
  /-- Every call goes as it would go alone. -/
  alone : ∀ track ∈ shared.tracks, track.GoesAlone client moves
  /-- Only a call that needs random bytes and found too few has posted nothing. -/
  starved : ∀ track ∈ shared.tracks, track.post? = none →
    track.call.draws = true ∧ shared.left.length < 32

namespace Client

variable {client : Client} {call : Call} {drawn : Randomness} {pending : Option Pending}

/-- A call that runs alone with the bytes it draws posts what it keeps. -/
theorem post_runStep_alone
    (alone : client.start? call drawn = pending.map fun pending => (pending, []))
    (delivery : Delivery) :
    (client.runStep ⟨call, delivery⟩ drawn).post = pending.map Pending.post := by
  cases pending with
  | none => rw [runStep_of_none alone, Option.map_none]
  | some pending => rw [runStep_of_some alone, Option.map_some]

/-- A call that runs alone with the bytes it draws ends with what it keeps and what comes back. -/
theorem outcome_runStep_alone
    (alone : client.start? call drawn = pending.map fun pending => (pending, []))
    (delivery : Delivery) :
    (client.runStep ⟨call, delivery⟩ drawn).outcome = client.conclude call delivery pending := by
  cases pending with
  | none => rw [runStep_of_none alone, conclude]
  | some pending => rw [runStep_of_some alone, conclude]

end Client

namespace Shared.IsSound

variable {client : Client} {stream : Randomness} {moves : List Move} {shared : Shared}
  {track : Track}

/-- The bytes that a call drew are those of its place in the stream. -/
theorem take_drop_offset (sound : shared.IsSound client stream moves) {index : Nat}
    (inside : shared.tracks[index]? = some track) :
    (stream.drop (shared.offset index)).take track.drawn.length = track.drawn := by
  obtain ⟨bound, rfl⟩ := List.getElem?_eq_some_iff.mp inside
  let before := shared.tracks.take index
  let after := shared.tracks.drop (index + 1)
  have around : shared.tracks = before ++ shared.tracks[index] :: after := by
    rw [← List.drop_eq_getElem_cons bound, List.take_append_drop]
  have bytes : stream = before.flatMap Track.drawn ++
      (shared.tracks[index].drawn ++ (after.flatMap Track.drawn ++ shared.left)) :=
    calc
      stream = shared.tracks.flatMap Track.drawn ++ shared.left := sound.stream_eq
      _ = (before ++ shared.tracks[index] :: after).flatMap Track.drawn ++ shared.left := by
        rw [← around]
      _ = _ := by simp only [List.flatMap_append, List.flatMap_cons, List.append_assoc]
  rw [offset, bytes, List.drop_left, List.take_left]

/-- A call that is where it would be alone goes as it would go alone. -/
theorem goesAlone (sound : shared.IsSound client stream moves) (inside : track ∈ shared.tracks) :
    track.GoesAlone client moves := by
  have alone := sound.alone track inside
  constructor
  case draws =>
    rw [Track.post?]
    cases kept : track.pending with
    | none => simp [Track.drawn, kept]
    | some pending =>
      rw [kept] at alone
      obtain ⟨same, -, length⟩ := Client.start?_eq_some alone
      rw [same, List.append_nil, length]
      simp
  case posts =>
    intro delivery
    exact (Client.post_runStep_alone alone delivery).symm
  case ends =>
    intro delivery finishes
    rw [sound.ended track inside delivery finishes, Client.outcome_runStep_alone alone delivery]
  case asks =>
    intro isStatus post posted
    obtain ⟨pending, kept, rfl⟩ := Option.map_eq_some_iff.mp posted
    rw [isStatus, kept, Option.map_some] at alone
    obtain ⟨nonce, front, rfl⟩ := Client.start?_status_eq_some_iff.mp alone
    rw [List.append_nil] at front
    exact ⟨nonce, front.symm, rfl⟩
  case opens =>
    intro round isExtract post posted
    obtain ⟨pending, kept, rfl⟩ := Option.map_eq_some_iff.mp posted
    rw [isExtract, kept, Option.map_some] at alone
    obtain ⟨secret, front, rfl⟩ := Client.start?_extract_eq_some_iff.mp alone
    rw [List.append_nil] at front
    refine ⟨secret, client.extractRequest round secret, front.symm, rfl, rfl, ?_⟩
    intro delivery finishes
    rw [sound.ended track inside delivery finishes, kept]
    rfl

/-- Where the invariant holds, calls do not disturb each other. -/
theorem keepsApart (sound : shared.IsSound client stream moves) :
    shared.KeepsApart client stream moves where
  starts := sound.starts
  places _ _ inside := sound.take_drop_offset inside
  disjoint first second track inside order := by
    rw [← Shared.offset_succ inside]
    exact Shared.offset_le_offset order
  alone _ inside := sound.goesAlone inside
  starved track inside posted := by
    have nothing : track.pending = none := Option.map_eq_none_iff.mp posted
    have alone := sound.alone track inside
    rw [nothing, Option.map_none] at alone
    exact ⟨(Client.start?_eq_none_iff.mp alone).1, sound.starved track inside nothing⟩

end Shared.IsSound

end RoundKey
