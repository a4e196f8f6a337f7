import RoundKey.Proofs.Session

/-!
# Calls keep apart

A step posts one request, or none if it is a question without random bytes. What it posts and how
many random bytes it leaves is settled before anything comes back, so whatever the channel gives
back for one step matters to the outcome of that step alone: no step is repeated, and nothing that
failed is remembered.
-/
namespace RoundKey

/-- The path that a call posts to. -/
def Call.path : Call → String
  | .register => "register"
  | .verify _ => "verify"
  | .status => "status"
  | .extract _ => "extract"

/-- A step makes one round trip, unless it is a question without enough random bytes. Then it ends
at once: it posts and reports nothing, and leaves the random bytes as they are. -/
structure Step.MakesRoundTrip (step : Step) (before : Randomness) (record : Record) : Prop where
  /-- It posts a request to the path of its call. -/
  posts : ¬ (step.call = .status ∧ before.length < 32) →
    ∃ post, record.post = some post ∧ post.path = step.call.path
  /-- It ends at once. -/
  declines : step.call = .status ∧ before.length < 32 →
    record = ⟨none, ⟨[], .error .lowEntropy⟩, before⟩

namespace Client

variable {client : Client}

/-- A call that starts posts to its path. -/
theorem path_post {call : Call} {randomness rest : Randomness} {pending : Pending}
    (started : client.start? call randomness = some (pending, rest)) :
    pending.post.path = call.path := by
  cases call with
  | register => cases started; rfl
  | verify token => cases started; rfl
  | status =>
    obtain ⟨nonce, -, rfl⟩ := start?_status_eq_some_iff.mp started
    rfl
  | extract round =>
    obtain ⟨secret, -, rfl⟩ := start?_extract_eq_some_iff.mp started
    rfl

/-- A step makes one round trip if it finds 32 random bytes in case it is an extraction. -/
theorem makesRoundTrip_runStep {step : Step} {before : Randomness}
    (enough : ∀ round, step.call = .extract round → 32 ≤ before.length) :
    step.MakesRoundTrip before (client.runStep step before) := by
  cases started : client.start? step.call before with
  | none =>
    obtain ⟨draws, few⟩ := start?_eq_none_iff.mp started
    have isStatus : step.call = .status := by
      cases call : step.call with
      | register => rw [call] at draws; cases draws
      | verify token => rw [call] at draws; cases draws
      | status => rfl
      | extract round => exact absurd few (Nat.not_lt.mpr (enough round call))
    rw [runStep_of_none started, isStatus]
    exact ⟨fun other => absurd ⟨isStatus, few⟩ other, fun _ => rfl⟩
  | some found =>
    obtain ⟨pending, rest⟩ := found
    rw [runStep_of_some started]
    constructor
    · intro _
      exact ⟨pending.post, rfl, path_post started⟩
    · rintro ⟨isStatus, few⟩
      have unstarted : client.start? step.call before = none :=
        start?_eq_none_iff.mpr ⟨by rw [isStatus]; rfl, few⟩
      rw [unstarted] at started
      cases started

/-- What a step posts and leaves is settled by its call and the random bytes before it. -/
theorem runStep_of_call_eq (client : Client) {first second : Step}
    (same : first.call = second.call) (before : Randomness) :
    (client.runStep first before).post = (client.runStep second before).post ∧
      (client.runStep first before).left = (client.runStep second before).left := by
  cases started : client.start? second.call before with
  | none =>
    have unstarted : client.start? first.call before = none := by rw [same, started]
    rw [runStep_of_none started, runStep_of_none unstarted]
    exact ⟨rfl, rfl⟩
  | some found =>
    obtain ⟨pending, rest⟩ := found
    have alike : client.start? first.call before = some (pending, rest) := by rw [same, started]
    rw [runStep_of_some started, runStep_of_some alike]
    exact ⟨rfl, rfl⟩

/-- The random bytes that steps leave are settled by their calls. -/
theorem leftAfter_of_calls_eq (client : Client) {first second : List Step}
    (same : first.map Step.call = second.map Step.call) (randomness : Randomness) :
    client.leftAfter first randomness = client.leftAfter second randomness := by
  induction first generalizing second randomness with
  | nil =>
    rw [List.map_nil] at same
    rw [List.map_eq_nil_iff.mp same.symm]
  | cons step first ih =>
    obtain ⟨other, second, rfl, call, calls⟩ := List.map_eq_cons_iff.mp same.symm
    have left := (client.runStep_of_call_eq call.symm randomness).2
    rw [leftAfter, leftAfter, List.foldl_cons, List.foldl_cons, left]
    exact ih calls.symm _

/-- What a session posts and leaves after each step is settled by its calls. -/
theorem map_run_of_calls_eq (client : Client) {first second : List Step}
    (same : first.map Step.call = second.map Step.call) (randomness : Randomness) :
    (client.run first randomness).map Record.post =
        (client.run second randomness).map Record.post ∧
      (client.run first randomness).map Record.left =
        (client.run second randomness).map Record.left := by
  induction first generalizing second randomness with
  | nil =>
    rw [List.map_nil] at same
    rw [List.map_eq_nil_iff.mp same.symm]
    exact ⟨rfl, rfl⟩
  | cons step first ih =>
    obtain ⟨other, second, rfl, call, calls⟩ := List.map_eq_cons_iff.mp same.symm
    obtain ⟨post, left⟩ := client.runStep_of_call_eq call.symm randomness
    obtain ⟨posts, lefts⟩ := ih calls.symm (client.runStep other randomness).left
    simp only [run, List.map_cons, post, left, posts, lefts, and_self]

/-- In two sessions of the same calls, a step for which the same thing comes back does the same. -/
theorem getElem?_run_of_calls_eq (client : Client) {first second : List Step}
    (same : first.map Step.call = second.map Step.call) (randomness : Randomness) {index : Nat}
    (step : first[index]? = second[index]?) :
    (client.run first randomness)[index]? = (client.run second randomness)[index]? := by
  have calls : (first.take index).map Step.call = (second.take index).map Step.call := by
    rw [List.map_take, List.map_take, same]
  rw [getElem?_run, getElem?_run, step, client.leftAfter_of_calls_eq calls]

/-- Every extraction of a session finds 32 random bytes. -/
def FeedsExtractions (client : Client) (steps : List Step) (randomness : Randomness) : Prop :=
  ∀ (index : Nat) (step : Step) (round : UInt32), steps[index]? = some step →
    step.call = .extract round → 32 ≤ (client.leftAfter (steps.take index) randomness).length

/-- In every session whose extractions find 32 random bytes, each step makes one round trip, or ends
at once if it is a question without enough random bytes. And whatever else comes back for one step
of a session, every step posts the same request and leaves the same random bytes, and every other
step does the same as before. -/
theorem calls_keep_apart (client : Client) (randomness : Randomness) :
    (∀ steps : List Step, client.FeedsExtractions steps randomness →
      ∀ (index : Nat) (step : Step), steps[index]? = some step →
        ∃ record, (client.run steps randomness)[index]? = some record ∧
          step.MakesRoundTrip (client.leftAfter (steps.take index) randomness) record) ∧
    (∀ (before after : List Step) (call : Call) (delivery other : Delivery),
      let first := client.run (before ++ ⟨call, delivery⟩ :: after) randomness
      let second := client.run (before ++ ⟨call, other⟩ :: after) randomness
      first.map Record.post = second.map Record.post ∧
      first.map Record.left = second.map Record.left ∧
      ∀ index, index ≠ before.length → first[index]? = second[index]?) := by
  constructor
  · intro steps fed index step inside
    refine ⟨client.runStep step (client.leftAfter (steps.take index) randomness), ?_, ?_⟩
    · rw [getElem?_run, inside, Option.map_some]
    · exact makesRoundTrip_runStep fun round isExtract => fed index step round inside isExtract
  · intro before after call delivery other first second
    have same : (before ++ ⟨call, delivery⟩ :: after).map Step.call =
        (before ++ ⟨call, other⟩ :: after).map Step.call := by
      simp
    obtain ⟨posts, lefts⟩ := client.map_run_of_calls_eq same randomness
    refine ⟨posts, lefts, ?_⟩
    intro index apart
    apply client.getElem?_run_of_calls_eq same randomness
    by_cases earlier : index < before.length
    · rw [List.getElem?_append_left earlier, List.getElem?_append_left earlier]
    · have beyond : before.length ≤ index := Nat.le_of_not_lt earlier
      obtain ⟨later, offset⟩ : ∃ later, index - before.length = later + 1 :=
        ⟨index - before.length - 1, by omega⟩
      rw [List.getElem?_append_right beyond, List.getElem?_append_right beyond, offset,
        List.getElem?_cons_succ, List.getElem?_cons_succ]

/-- With 32 random bytes, an extraction takes them all and a question after it ends at once; a
registration in between fares the same whatever comes back for the extraction. -/
theorem calls_of_three_steps_keep_apart :
    let server : ServerIdentity := ⟨"pkg.example:80", ⟨.zero 32⟩, rfl⟩
    let client : Client := ⟨server, "zoë", ⟨.ofNat 32 2⟩, ⟨.zero 32⟩⟩
    let draw : Octets 32 := .ofNat 32 5
    let after : List Step := [⟨.register, .ok ⟨.success, [0x22, 0x22]⟩⟩, ⟨.status, .error .request⟩]
    let failed := client.run (⟨.extract 7, .error .body⟩ :: after) draw.toList
    let refused := client.run (⟨.extract 7, .ok ⟨⟨403⟩, []⟩⟩ :: after) draw.toList
    client.FeedsExtractions (⟨.extract 7, .error .body⟩ :: after) draw.toList ∧
      failed[2]? = some ⟨none, ⟨[], .error .lowEntropy⟩, []⟩ ∧
      failed.map Record.post = refused.map Record.post ∧ failed[1]? = refused[1]? := by
  intro server client draw after failed refused
  obtain ⟨roundTrips, apart⟩ := calls_keep_apart client draw.toList
  have fed : client.FeedsExtractions (⟨.extract 7, .error .body⟩ :: after) draw.toList := by
    intro index step round inside isExtract
    match index with
    | 0 => exact draw.length_eq.ge
    | 1 => cases inside; cases isExtract
    | 2 => cases inside; cases isExtract
    | index + 3 => cases inside
  obtain ⟨record, found, roundTrip⟩ := roundTrips _ fed 2 ⟨.status, .error .request⟩ rfl
  have empty : client.leftAfter ((⟨.extract 7, .error .body⟩ :: after).take 2) draw.toList = [] :=
    rfl
  obtain ⟨posts, -, others⟩ :=
    apart [] after (.extract 7) (.error .body) (.ok ⟨⟨403⟩, []⟩)
  rw [empty] at roundTrip
  have declined := roundTrip.declines ⟨rfl, by decide⟩
  exact ⟨fed, by rw [found, declined], posts, others 1 (by decide)⟩

end Client

end RoundKey
