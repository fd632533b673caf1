import ServiceDiscovery.Proofs.Message.Truncation
import ServiceDiscovery.Proofs.Discovery.Operation

/-!
# Reading until the end

An endpoint is read in a loop until the loop is told to end. Each message that can be read is handed
over at once. After a read that failed the loop pauses and then goes on; where it could end and
could also read something, it does either.

What is handed over is kept by every turn: the messages of all that has been read so far, in order,
each of which depends on its own datagram only. Turns are enough to read everything as long as
nobody tells the loop to end.

* `ReadLoop`, `ReadLoop.turn`, `run`: the loop with what it will still read;
* `Arrival.message?`, `Endpoint.receiveAll_eq`: the messages of what arrives;
* `ReadLoop.HasRead`, `hasRead_turn`, `hasRead_run`: what turns hand over;
* `ReadLoop.rank`, `rank_proceed`, `rank_run`: how far a loop is from having read everything;
* `ReadLoop.hands_over`: all of it for every run.
-/

namespace ServiceDiscovery

/-! ### Messages of what arrives -/

/-- The message of an arrival, of which no more than `size` bytes are read. -/
def Arrival.message? (size : Nat) : Arrival → Option Message
  | .datagram bytes sender => (Message.decodeFrom (bytes.take size) sender).toOption
  | .failure => none

namespace Endpoint

theorem receive_fst (l : Endpoint) (arrival : Arrival) :
    (l.receive arrival).1 = arrival.message? l.bufferSize := by
  cases arrival with
  | datagram bytes sender => exact Message.receive_datagram l bytes sender
  | failure => rfl

theorem bufferSize_receive (l : Endpoint) (arrival : Arrival) :
    (l.receive arrival).2.bufferSize = l.bufferSize := by
  cases arrival <;> rfl

/-- **Every arrival gives its own message**, whatever was read into the buffer before. -/
theorem receiveAll_eq (l : Endpoint) (arrivals : List Arrival) :
    l.receiveAll arrivals = arrivals.filterMap (Arrival.message? l.bufferSize) := by
  induction arrivals generalizing l with
  | nil => rfl
  | cons arrival arrivals ih =>
    have hmessage := receive_fst l arrival
    have hsize := bufferSize_receive l arrival
    rw [receiveAll, List.filterMap_cons, ← hmessage]
    generalize l.receive arrival = received at hsize
    obtain ⟨_ | m, l'⟩ := received
    · show receiveAll l' arrivals = _
      rw [ih, hsize]
    · show m :: receiveAll l' arrivals = _
      rw [ih, hsize]

end Endpoint

/-! ### The loop -/

inductive ReadLoop.Stage where
  /-- It waits for something to read, or to be told to end. -/
  | waiting
  /-- It rests after a read that failed. -/
  | pausing
  | ended
  deriving DecidableEq

/-- A loop that reads from an endpoint, in a world that messages change. -/
structure ReadLoop (σ : Type) where
  endpoint : Endpoint
  /-- What is still to be read, in order. -/
  script : List Arrival
  world : σ
  stage : ReadLoop.Stage := .waiting
  /-- Whether the loop has been told to end. -/
  told : Bool := false

inductive ReadLoop.Turn where
  /-- Somebody tells the loop to end. -/
  | tell
  /-- The loop goes on. If it can both end and read, it ends or not. -/
  | proceed (ends : Bool)
  deriving DecidableEq

def Arrival.isFailure : Arrival → Bool
  | .failure => true
  | .datagram .. => false

namespace ReadLoop

variable {σ : Type} (process : Message → σ → σ)

/-- Reads an arrival and hands its message over. -/
def take (r : ReadLoop σ) (arrival : Arrival) (rest : List Arrival) : ReadLoop σ :=
  let (message?, endpoint) := r.endpoint.receive arrival
  { r with
    endpoint
    script := rest
    world := message?.elim r.world (process · r.world)
    stage := if arrival.isFailure then .pausing else .waiting }

def proceed (r : ReadLoop σ) (ends : Bool) : ReadLoop σ :=
  match r.stage, r.script with
  | .ended, _ => r
  | .pausing, _ => { r with stage := .waiting }
  | .waiting, [] => if r.told then { r with stage := .ended } else r
  | .waiting, arrival :: rest =>
    if r.told && ends then { r with stage := .ended } else r.take process arrival rest

def turn (r : ReadLoop σ) : Turn → ReadLoop σ
  | .tell => { r with told := true }
  | .proceed ends => r.proceed process ends

def run (r : ReadLoop σ) (turns : List Turn) : ReadLoop σ := turns.foldl (turn process) r

/-! ### What is handed over -/

/-- The messages of arrivals are handed over one after another. -/
def handOver (size : Nat) (arrivals : List Arrival) (world : σ) : σ :=
  (arrivals.filterMap (Arrival.message? size)).foldl (fun world m => process m world) world

/-- What a loop has become of another one: it has read some arrivals and handed over their messages,
and it has not ended by itself. -/
structure HasRead (r : ReadLoop σ) (seen : List Arrival) (r' : ReadLoop σ) : Prop where
  size : r'.endpoint.bufferSize = r.endpoint.bufferSize
  script : r.script = seen ++ r'.script
  world : r'.world = handOver process r.endpoint.bufferSize seen r.world
  ended : r'.stage = .ended → r.stage = .ended ∨ r'.told

variable {process} {r r' r'' : ReadLoop σ} {seen seen' : List Arrival}

theorem HasRead.refl (r : ReadLoop σ) : r.HasRead process [] r := ⟨rfl, rfl, rfl, .inl⟩

/-- A step that reads nothing. -/
theorem hasRead_nil (r : ReadLoop σ) (told : Bool) {stage : Stage}
    (h : stage = .ended → r.stage = .ended ∨ told) :
    r.HasRead process [] { r with stage, told } := ⟨rfl, rfl, rfl, h⟩

theorem hasRead_take {arrival : Arrival} {rest : List Arrival} (h : r.script = arrival :: rest) :
    r.HasRead process [arrival] (r.take process arrival rest) := by
  have hmessage := Endpoint.receive_fst r.endpoint arrival
  refine ⟨Endpoint.bufferSize_receive r.endpoint arrival, h, ?_, fun hended => ?_⟩
  · show (r.endpoint.receive arrival).1.elim r.world (process · r.world) = _
    rw [handOver, List.filterMap_cons, ← hmessage]
    cases (r.endpoint.receive arrival).1 <;> rfl
  · have hstage : (if arrival.isFailure then Stage.pausing else .waiting) = .ended := hended
    split_ifs at hstage

theorem hasRead_turn (process : Message → σ → σ) (r : ReadLoop σ) (turn : Turn) :
    ∃ seen, r.HasRead process seen (r.turn process turn) := by
  cases turn with
  | tell => exact ⟨[], hasRead_nil r true fun h => .inl h⟩
  | proceed ends =>
    unfold ReadLoop.turn proceed
    dsimp only
    split
    · exact ⟨[], .refl r⟩
    · exact ⟨[], hasRead_nil r r.told nofun⟩
    · split_ifs with htold
      · exact ⟨[], hasRead_nil r r.told fun _ => .inr htold⟩
      · exact ⟨[], .refl r⟩
    · next arrival rest _ hscript =>
      split_ifs with htold
      · rw [Bool.and_eq_true] at htold
        exact ⟨[], hasRead_nil r r.told fun _ => .inr htold.1⟩
      · exact ⟨[arrival], hasRead_take hscript⟩

theorem HasRead.trans (h : r.HasRead process seen r') (h' : r'.HasRead process seen' r'')
    (htold : r'.told → r''.told) : r.HasRead process (seen ++ seen') r'' where
  size := h'.size.trans h.size
  script := by rw [h.script, h'.script, List.append_assoc]
  world := by
    rw [h'.world, h.world, h.size, handOver, handOver, handOver, List.filterMap_append,
      List.foldl_append]
  ended hended := by
    rcases h'.ended hended with hended | htold'
    · exact (h.ended hended).imp_right htold
    · exact .inr htold'

theorem told_proceed (r : ReadLoop σ) (ends : Bool) : (r.proceed process ends).told = r.told := by
  unfold proceed
  split
  · rfl
  · rfl
  · split_ifs <;> rfl
  · split_ifs <;> rfl

/-- A loop is told to end by those that tell it to. -/
theorem told_run (r : ReadLoop σ) (turns : List Turn) :
    (r.run process turns).told ↔ r.told ∨ .tell ∈ turns := by
  induction turns generalizing r with
  | nil => simp [run]
  | cons turn turns ih =>
    rw [run, List.foldl_cons, ← run, ih, List.mem_cons]
    cases turn with
    | tell => simp [ReadLoop.turn]
    | proceed ends => simp [ReadLoop.turn, told_proceed]

/-- **Turns hand over the messages of what they read, and nothing else.** -/
theorem hasRead_run (process : Message → σ → σ) (r : ReadLoop σ) (turns : List Turn) :
    ∃ seen, r.HasRead process seen (r.run process turns) := by
  induction turns generalizing r with
  | nil => exact ⟨[], .refl r⟩
  | cons turn turns ih =>
    obtain ⟨seen, hseen⟩ := hasRead_turn process r turn
    obtain ⟨seen', hseen'⟩ := ih (r.turn process turn)
    refine ⟨seen ++ seen', hseen.trans hseen' fun htold => ?_⟩
    exact (told_run _ turns).2 (.inl htold)

/-! ### Reading everything -/

/-- How many turns a loop needs at most to read everything: one for every arrival and one to go on
after it. -/
def rank (r : ReadLoop σ) : Nat := 2 * r.script.length + if r.stage = .pausing then 1 else 0

/-- A loop that nobody tells to end comes closer to having read everything. -/
theorem rank_proceed (process : Message → σ → σ) (htold : ¬r.told) (hstage : r.stage ≠ .ended)
    (ends : Bool) : (r.proceed process ends).rank ≤ r.rank - 1 := by
  unfold proceed
  split
  · next h => exact absurd h hstage
  · next h => simp [rank, h]
  · next h hscript => simp [rank, h, hscript, htold]
  · next arrival rest h hscript =>
    have hnot : ¬(r.told && ends) := by simp [htold]
    have hpause : (if (r.take process arrival rest).stage = .pausing then 1 else 0) ≤ 1 := by
      split_ifs <;> omega
    have hrest : (r.take process arrival rest).script = rest := rfl
    rw [if_neg hnot, rank, hrest, rank, h, hscript, List.length_cons]
    omega

theorem rank_run (process : Message → σ → σ) (htold : ¬r.told) (hstage : r.stage ≠ .ended)
    {turns : List Turn} (hturns : .tell ∉ turns) :
    (r.run process turns).rank ≤ r.rank - turns.length := by
  induction turns generalizing r with
  | nil => exact Nat.le_refl _
  | cons turn turns ih =>
    rw [List.mem_cons, not_or] at hturns
    obtain ⟨hturn, hturns⟩ := hturns
    cases turn with
    | tell => exact absurd rfl hturn
    | proceed ends =>
      have htold' : ¬(r.proceed process ends).told := by rwa [told_proceed]
      have hstage' : (r.proceed process ends).stage ≠ .ended := by
        intro hended
        obtain ⟨seen, hseen⟩ := hasRead_turn process r (.proceed ends)
        rcases hseen.ended hended with h | h
        · exact hstage h
        · exact htold' h
      have hrun := ih htold' hstage' hturns
      have hproceed := rank_proceed process htold hstage ends
      rw [run, List.foldl_cons, ← run, ReadLoop.turn, List.length_cons]
      omega

/-- **A loop reads on whatever arrives, and hands over exactly the messages that can be read.** At
any time a beginning of the script has been read, and the messages of its datagrams, each cut to
what the buffer holds, have been handed over one after another, whatever the buffer held before. The
loop has not ended unless somebody has told it to, and as long as nobody does, two turns for each
arrival are enough to read everything. -/
theorem hands_over (process : Message → σ → σ) (l : Endpoint) (script : List Arrival) (world : σ)
    (turns : List Turn) :
    let r := run process { endpoint := l, script, world } turns
    (∃ seen, script = seen ++ r.script ∧
      r.world = (l.receiveAll seen).foldl (fun world m => process m world) world ∧
      l.receiveAll seen = seen.filterMap (Arrival.message? l.bufferSize)) ∧
    (r.stage = .ended → .tell ∈ turns) ∧
    (.tell ∉ turns → 2 * script.length ≤ turns.length → r.script = []) := by
  intro r
  obtain ⟨seen, hseen⟩ := hasRead_run process { endpoint := l, script, world } turns
  refine ⟨⟨seen, hseen.script, ?_, l.receiveAll_eq seen⟩, fun hended => ?_,
    fun hturns hlength => ?_⟩
  · rw [l.receiveAll_eq]
    exact hseen.world
  · have htold : r.told := (hseen.ended hended).resolve_left nofun
    exact ((told_run _ turns).1 htold).resolve_left Bool.false_ne_true
  · have hrank : r.rank ≤ 2 * script.length + 0 - turns.length :=
      rank_run process (r := { endpoint := l, script, world }) Bool.false_ne_true nofun hturns
    rw [rank] at hrank
    exact List.length_eq_zero_iff.1 (by omega)

/-- An endpoint whose buffer holds what is left of other datagrams. -/
def usedEndpoint : Endpoint where
  position := 0
  interface := ⟨"eth0", 2, .v4 ⟨10, 0, 0, 2⟩⟩
  destination := groupAddress none groupPort
  bufferSize := 100
  buffer := List.replicate 100 0xFF

/-- Reading fails, a header is cut off, reading fails again, a response arrives, then more than the
buffer holds, and the response once more with bytes behind it. -/
def mixedScript : List Arrival :=
  let other : SocketAddress := .v4 ⟨10, 0, 0, 9⟩ 5353
  [.failure, .datagram [0, 0, 0x84, 0, 0] other, .failure,
    .datagram (Discovery.webResponse "Web").wire other,
    .datagram (List.replicate 200 1) other,
    .datagram ((Discovery.webResponse "Web").wire ++ List.replicate 200 0) other]

/-- Of all that arrives, the two responses are handed over, and then the loop ends. -/
theorem hands_over_mixedScript :
    let turns := List.replicate 12 (Turn.proceed false)
    let turns' := turns ++ [.tell, .proceed true]
    let log : Message → List Message → List Message := fun m ms => ms ++ [m]
    let start : ReadLoop (List Message) :=
      { endpoint := usedEndpoint, script := mixedScript, world := [] }
    .tell ∉ turns ∧ 2 * mixedScript.length ≤ turns.length ∧
      (run log start turns).script = [] ∧ (run log start turns).world.length = 2 ∧
      (run log start turns').stage = .ended ∧ .tell ∈ turns' := by
  intro turns turns' log start
  have hturns : .tell ∉ turns := by decide
  have hlength : 2 * mixedScript.length ≤ turns.length := by decide
  have hended : (run log start turns').stage = .ended := by decide +kernel
  obtain ⟨-, -, hall⟩ := hands_over log usedEndpoint mixedScript [] turns
  obtain ⟨-, htold, -⟩ := hands_over log usedEndpoint mixedScript [] turns'
  exact ⟨hturns, hlength, hall hturns hlength, by decide +kernel, hended, htold hended⟩

end ReadLoop

end ServiceDiscovery
