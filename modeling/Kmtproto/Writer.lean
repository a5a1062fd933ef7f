import Kmtproto.Outbound
import Kmtproto.RoundTrip

/-! `SingleWriter` between a queue and a byte sender. Whatever the producers do, the bytes sent
are the encodings of the first frames the queue accepted, in their order, and a peer that
decodes them has those frames. -/
namespace Kmtproto
open Json Interaction

/-- Where `Run` is: at the head of its loop, in `Next`, in `Send`, or back. -/
inductive WriterPoint
  | calling
  | receiving
  | sending (data : Bytes)
  | stopped (error : Err)

structure Writer where
  queue : Outbound := {}
  point : WriterPoint := .calling
  sent : List Bytes := []

/-- Moves of the calls on the queue, of `Next`, and the return of `Send`. -/
inductive WriterMove
  | call (task : OutboundTask)
  | produce (index : Nat)
  | next
  | consume
  | wake
  | cancel
  | send (result : Except Err Unit)

namespace Writer

/-- `Run` after a step of `Next`: a frame returned is encoded, an error ends the loop. -/
def received (codec : JSONCodec) (writer : Writer) (queue : Outbound) : Writer :=
  match queue.consumer,queue.results.getLast? with
  | .away,some (.ok frame) =>
    match codec.encode frame with
    | .ok data => {writer with queue := queue, point := .sending data}
    | .error error => {writer with queue := queue, point := .stopped error}
  | .away,some (.error error) => {writer with queue := queue, point := .stopped error}
  | _,_ => {writer with queue := queue}

/-- A step of `Next`. -/
def receive (codec : JSONCodec) (writer : Writer) (move : OutboundMove) : Option Writer :=
  match writer.point with
  | .receiving => (writer.queue.step move).map (writer.received codec)
  | _ => none

def step (codec : JSONCodec) (writer : Writer) : WriterMove → Option Writer
  | .call task => (writer.queue.step (.call task)).map (fun queue => {writer with queue := queue})
  | .produce index => (writer.queue.step (.produce index)).map (fun queue => {writer with queue := queue})
  | .next =>
    match writer.point with
    | .calling => (writer.queue.step .next).map (fun queue => {writer with queue := queue, point := .receiving})
    | _ => none
  | .consume => writer.receive codec .consume
  | .wake => writer.receive codec .wake
  | .cancel => writer.receive codec .cancel
  | .send result =>
    match writer.point with
    | .sending data =>
      match result with
      | .ok () => some {writer with point := .calling, sent := writer.sent++[data]}
      | .error error => some {writer with point := .stopped error}
    | _ => none

def system (codec : JSONCodec) : System Writer WriterMove := ⟨step codec⟩

/-- The chunks are the encodings of the frames. -/
def Written (codec : JSONCodec) : List Envelope → List Bytes → Prop :=
  List.Forall₂ (fun frame chunk => codec.encode frame = .ok chunk)

/-- `Next` has returned frames only. -/
def Clear (queue : Outbound) : Prop := ∀ result ∈ queue.results, ∃ frame, result = .ok frame

/-- What `Run` has made of the frames returned to it. -/
inductive Follows (codec : JSONCodec) (queue : Outbound) : WriterPoint → List Bytes → Prop
  | calling {sent : List Bytes} (free : queue.consumer = .away) (clear : Clear queue) (written : Written codec queue.taken sent) :
      Follows codec queue .calling sent
  | receiving {sent : List Bytes} (inside : queue.consumer ≠ .away) (clear : Clear queue) (written : Written codec queue.taken sent) :
      Follows codec queue .receiving sent
  | sending {sent : List Bytes} {data : Bytes} (frames : List Envelope) (frame : Envelope) (free : queue.consumer = .away)
      (clear : Clear queue) (taken : queue.taken = frames++[frame]) (encoded : codec.encode frame = .ok data)
      (written : Written codec frames sent) : Follows codec queue (.sending data) sent
  | ended {sent : List Bytes} {error : Err} (written : Written codec queue.taken sent) : Follows codec queue (.stopped error) sent
  | failed {sent : List Bytes} {error : Err} (frames : List Envelope) (frame : Envelope) (clear : Clear queue)
      (taken : queue.taken = frames++[frame]) (written : Written codec frames sent) : Follows codec queue (.stopped error) sent

section Follows
variable {codec : JSONCodec} {queue next : Outbound} {point : WriterPoint} {sent : List Bytes}

private theorem Follows.same (follows : Follows codec queue point sent) (consumer : next.consumer = queue.consumer)
    (results : next.results = queue.results) : Follows codec next point sent := by
  have clear (held : Clear queue) : Clear next := by
    intro result member
    exact held result (results ▸ member)
  have taken : next.taken = queue.taken := by rw [Outbound.taken,Outbound.taken,results]
  cases follows with
  | calling free held written => exact .calling (consumer.trans free) (clear held) (taken ▸ written)
  | receiving inside held written => exact .receiving (consumer ▸ inside) (clear held) (taken ▸ written)
  | sending frames frame free held split encoded written =>
    exact .sending frames frame (consumer.trans free) (clear held) (taken.trans split) encoded written
  | ended written => exact .ended (taken ▸ written)
  | failed frames frame held split written => exact .failed frames frame (clear held) (taken.trans split) written

private theorem produced {index : Nat} (stepped : queue.step (.produce index) = some next) :
    next.consumer = queue.consumer ∧ next.results = queue.results := by
  have steps : Outbound.Steps queue (.produce index) next := Outbound.step_steps stepped
  cases steps <;> exact ⟨rfl,rfl⟩

private theorem Clear.snoc (clear : Clear queue) {frame : Envelope} (results : next.results = queue.results++[.ok frame]) : Clear next := by
  intro result member
  rw [results] at member
  rcases List.mem_append.mp member with before | last
  · exact clear result before
  · exact ⟨frame,List.mem_singleton.mp last⟩

private theorem received_follows {writer : Writer} {move : OutboundMove} (stepped : writer.queue.step move = some next)
    (inside : writer.queue.consumer ≠ .away) (own : ∀ task index, move ≠ .call task ∧ move ≠ .produce index)
    (clear : Clear writer.queue) (written : Written codec writer.queue.taken writer.sent) (receives : writer.point = .receiving) :
    Follows codec (writer.received codec next).queue (writer.received codec next).point (writer.received codec next).sent := by
  have failed {error : Err} (free : next.consumer = .away) (results : next.results = writer.queue.results++[.error error]) :
      Follows codec (writer.received codec next).queue (writer.received codec next).point (writer.received codec next).sent := by
    have taken : next.taken = writer.queue.taken := by simp [Outbound.taken,results,Except.toOption]
    rw [received,free,results,List.getLast?_concat]
    exact .ended (taken ▸ written)
  have goes (busy : next.consumer ≠ .away) (results : next.results = writer.queue.results) :
      Follows codec (writer.received codec next).queue (writer.received codec next).point (writer.received codec next).sent := by
    have stays : writer.received codec next = {writer with queue := next} := by
      unfold received
      cases receives : next.consumer with
      | away => exact absurd receives busy
      | locking | waiting => rfl
    have taken : next.taken = writer.queue.taken := by rw [Outbound.taken,Outbound.taken,results]
    rw [stays]
    simp only [receives]
    exact .receiving busy (fun result member => clear result (results ▸ member)) (taken ▸ written)
  cases Outbound.step_steps stepped with
  | call task => exact absurd rfl (own task 0).1
  | refuses index | accepts index | closes index | signals index => exact absurd rfl (own .close index).2
  | next free => exact absurd free inside
  | takes frame frames locked front =>
    have taken : Outbound.taken {writer.queue with frames := frames, consumer := .away, results := writer.queue.results++[.ok frame]} =
        writer.queue.taken++[frame] := by simp [Outbound.taken,Except.toOption]
    rw [received]
    simp only [List.getLast?_concat]
    cases encoded : codec.encode frame with
    | ok data => exact .sending writer.queue.taken frame rfl (clear.snoc rfl) taken encoded written
    | error error => exact .failed writer.queue.taken frame (clear.snoc rfl) taken written
  | ends locked empty shut => exact failed rfl rfl
  | waits locked empty unshut => exact goes (by simp) rfl
  | wakes waiting token => exact goes (by simp) rfl
  | cancels waiting => exact failed rfl rfl

end Follows

structure Sound (codec : JSONCodec) (writer : Writer) : Prop where
  queue : writer.queue.Sound
  follows : Follows codec writer.queue writer.point writer.sent

section Sound
variable {codec : JSONCodec} {writer next : Writer} {move : WriterMove}

private theorem Sound.receive (sound : Sound codec writer) {inner : OutboundMove} (own : ∀ task index, inner ≠ .call task ∧ inner ≠ .produce index)
    (stepped : writer.receive codec inner = some next) : Sound codec next := by
  unfold Writer.receive at stepped
  split at stepped
  · rename_i point
    obtain ⟨queue,moved,rfl⟩ := Option.map_eq_some_iff.mp stepped
    have follows := sound.follows
    rw [point] at follows
    cases follows with
    | receiving inside clear written =>
      refine ⟨?_,received_follows moved inside own clear written point⟩
      have kept := sound.queue.step (Outbound.step_steps moved)
      unfold received
      split
      · split <;> exact kept
      · exact kept
      · exact kept
  · cases stepped

theorem Sound.step (sound : Sound codec writer) (stepped : (system codec).step writer move = some next) : Sound codec next := by
  change writer.step codec move = some next at stepped
  cases move with
  | call task =>
    simp only [Writer.step,Option.map_eq_some_iff] at stepped
    obtain ⟨queue,moved,rfl⟩ := stepped
    have steps : Outbound.Steps writer.queue (.call task) queue := Outbound.step_steps moved
    refine ⟨sound.queue.step steps,?_⟩
    cases steps
    exact sound.follows.same rfl rfl
  | produce index =>
    simp only [Writer.step,Option.map_eq_some_iff] at stepped
    obtain ⟨queue,moved,rfl⟩ := stepped
    obtain ⟨consumer,results⟩ := produced moved
    have steps : Outbound.Steps writer.queue (.produce index) queue := Outbound.step_steps moved
    exact ⟨sound.queue.step steps,sound.follows.same consumer results⟩
  | next =>
    simp only [Writer.step] at stepped
    split at stepped
    · rename_i point
      obtain ⟨queue,moved,rfl⟩ := Option.map_eq_some_iff.mp stepped
      have steps : Outbound.Steps writer.queue .next queue := Outbound.step_steps moved
      have follows := sound.follows
      rw [point] at follows
      refine ⟨sound.queue.step steps,?_⟩
      cases steps with
      | next _ =>
        cases follows with
        | calling free clear written => exact .receiving (by simp) clear written
    · cases stepped
  | consume => exact sound.receive (by simp) stepped
  | wake => exact sound.receive (by simp) stepped
  | cancel => exact sound.receive (by simp) stepped
  | send result =>
    simp only [Writer.step] at stepped
    split at stepped
    · rename_i data point
      have follows := sound.follows
      rw [point] at follows
      cases follows with
      | sending frames frame free clear taken encoded written =>
        split at stepped
        · cases stepped
          refine ⟨sound.queue,.calling free clear ?_⟩
          rw [taken]
          exact List.rel_append written (.cons encoded .nil)
        · cases stepped
          exact ⟨sound.queue,.failed frames frame clear taken written⟩
    · cases stepped

theorem sound_run {moves : List WriterMove} (ran : (system codec).run {} moves = some writer) : Sound codec writer := by
  have start : Written codec (Outbound.taken {}) [] := .nil
  exact System.run_keeps (fun _ _ _ sound stepped => Sound.step sound stepped)
    ⟨Outbound.sound_empty,.calling rfl (fun _ member => absurd member List.not_mem_nil) start⟩ ran

private theorem Sound.written (sound : Sound codec writer) : ∃ frames rest, writer.queue.taken = frames++rest ∧ rest.length ≤ 1 ∧
    Written codec frames writer.sent ∧ (rest ≠ [] → Clear writer.queue) := by
  have follows := sound.follows
  revert follows
  generalize writer.point = point
  intro follows
  cases follows with
  | calling _ _ written | receiving _ _ written | ended written =>
    exact ⟨_,[],(List.append_nil _).symm,by simp,written,fun wrong => absurd rfl wrong⟩
  | sending frames frame _ clear taken _ written => exact ⟨frames,[frame],taken,by simp,written,fun _ => clear⟩
  | failed frames frame clear taken written => exact ⟨frames,[frame],taken,by simp,written,fun _ => clear⟩

end Sound

private theorem Written.decoded {codec : JSONCodec} {frames : List Envelope} {chunks : List Bytes} (written : Written codec frames chunks)
    (fits : ∀ frame ∈ frames, frame.Shallow ∧ frame.Fits (normalizeLimits codec.limits) codec.strict) :
    chunks.mapM codec.decode = .ok (frames.map Envelope.rewritten) := by
  induction written with
  | nil => rfl
  | cons encoded _ ih =>
    obtain ⟨shallow,within⟩ := fits _ List.mem_cons_self
    rw [List.mapM_cons,(JSONCodec.decode_encoded encoded).mpr ⟨rfl,shallow,within⟩,
      ih (fun frame member => fits frame (by simp [member]))]
    rfl

end Writer

/-- A writer sends the encodings of the frames its queue accepted, in their order and without
a gap; at most one frame was returned to it and not sent. When the queue is closed and the
writer is told, every frame accepted was sent. A peer that decodes what was sent has the
frames, in the form they are written in. -/
theorem writer_sends {codec : JSONCodec} {moves : List WriterMove} {writer : Writer} (ran : (Writer.system codec).run {} moves = some writer) :
    Writer.Written codec (writer.queue.log.take writer.sent.length) writer.sent ∧
    writer.queue.taken.length ≤ writer.sent.length+1 ∧
    (.error (.sentinel .outboundClosed) ∈ writer.queue.results →
      writer.queue.closed = true ∧ writer.sent.length = writer.queue.log.length) ∧
    ((∀ frame ∈ writer.queue.log, frame.Shallow ∧ frame.Fits (normalizeLimits codec.limits) codec.strict) →
      writer.sent.mapM codec.decode = .ok ((writer.queue.log.take writer.sent.length).map Envelope.rewritten)) := by
  have sound := Writer.sound_run ran
  obtain ⟨frames,rest,taken,one,written,clear⟩ := sound.written
  have size : frames.length = writer.sent.length := written.length_eq
  have order := sound.queue.order
  have front : writer.queue.log.take writer.sent.length = frames := by
    rw [← order,taken,List.append_assoc,← size,List.take_left]
  rw [front]
  refine ⟨written,?_,?_,?_⟩
  · rw [taken,List.length_append]
    omega
  · intro reported
    obtain ⟨shut,empty⟩ := sound.queue.drained reported
    refine ⟨shut,?_⟩
    have nothing : rest = [] := by
      by_contra left
      obtain ⟨frame,wrong⟩ := clear left _ reported
      cases wrong
    rw [← order,empty,taken,nothing]
    simp [size]
  · intro fits
    refine written.decoded (fun frame member => fits frame ?_)
    rw [← order,taken]
    simp [member]

/-- A frame that is queued, sent and decoded. -/
theorem writer_sends_spaced : ∃ data writer, ({} : JSONCodec).encode spacedPing = .ok data ∧
    (Writer.system {}).run {} [.call (.enqueue spacedPing),.produce 0,.next,.consume,.send (.ok ())] = some writer ∧
    writer.sent = [data] ∧ writer.sent.mapM ({} : JSONCodec).decode = .ok [spacedPing.rewritten] := by
  obtain ⟨⟨data,encoded⟩,shallow,fits⟩ := spacedPing_fits
  have ran : ∃ writer, (Writer.system {}).run {} [.call (.enqueue spacedPing),.produce 0,.next,.consume,.send (.ok ())] = some writer ∧
      writer.sent = [data] ∧ writer.queue.log = [spacedPing] := by
    simp [System.run,Writer.system,Writer.step,Writer.receive,Writer.received,Outbound.step,Outbound.produce,Outbound.consume,
      OutboundTask.enqueue,Outbound.log,encoded]
  obtain ⟨writer,ran,sent,log⟩ := ran
  refine ⟨data,writer,encoded,ran,sent,?_⟩
  have decoded := (writer_sends ran).2.2.2 (by
    rw [log]
    exact List.forall_mem_singleton.mpr ⟨shallow,fits⟩)
  rw [decoded,log,sent]
  rfl

end Kmtproto
