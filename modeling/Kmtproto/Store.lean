import Kmtproto.Validate

/-! The process-local reference stores and the outbound queue. Each method is a
function of the store it locks; an instant a method samples before it locks is an
argument. -/
namespace Kmtproto
open Json

structure SessionState where
  sessionID : Bytes
  expiresAt : Int
  capabilities : SessionCapabilities
  deriving DecidableEq

abbrev MemorySessionRepository := AList (fun _ : Bytes => SessionState)

def MemorySessionRepository.create (repository : MemorySessionRepository) (state : SessionState) :
    Except Err MemorySessionRepository :=
  if state.sessionID = [] ∨ state.expiresAt = zeroTime then .error (.plain (lit "kmtproto: invalid session state"))
  else if (repository.lookup state.sessionID).isSome then .error (.sentinel .sessionExists)
  else .ok (repository.insert state.sessionID state)

/-- `Lookup`: a session is there until its expiry. -/
def MemorySessionRepository.live (repository : MemorySessionRepository) (sessionID : Bytes) (now : Int) :
    Option SessionState :=
  (repository.lookup sessionID).filter (fun state => now < state.expiresAt)

abbrev SendFingerprint := Bytes

inductive DedupState where
  | processing
  | completed
  deriving DecidableEq, Repr

structure DedupRecord where
  state : DedupState
  fingerprint : SendFingerprint
  ack : Option Envelope := none
  deriving DecidableEq, Repr

structure MemoryDedupEntry where
  record : DedupRecord
  expiresAt : Int
  deriving DecidableEq, Repr

structure MemoryDedupStore where
  ttl : Int
  records : AList (fun _ : Bytes => MemoryDedupEntry) := ∅
  deriving DecidableEq

def dedupKey (sessionID msgID : Bytes) : Bytes := sessionID ++ [0] ++ msgID

theorem dedupKey_inj {session session' message message' : Bytes} (plain : 0 ∉ session) (plain' : 0 ∉ session')
    (same : dedupKey session message = dedupKey session' message') : session = session' ∧ message = message' := by
  induction session generalizing session' with
  | nil =>
    cases session' with
    | nil => simpa [dedupKey] using same
    | cons c rest =>
      simp only [dedupKey,List.nil_append,List.cons_append,List.cons.injEq] at same
      exact absurd (by simp [← same.1]) plain'
  | cons c rest ih =>
    cases session' with
    | nil =>
      simp only [dedupKey,List.nil_append,List.cons_append,List.cons.injEq] at same
      exact absurd (by simp [same.1]) plain
    | cons d rest' =>
      simp only [dedupKey,List.cons_append,List.cons.injEq] at same
      obtain ⟨rfl,same⟩ := same
      obtain ⟨rfl,rfl⟩ := ih (fun member => plain (List.mem_cons_of_mem _ member))
        (fun member => plain' (List.mem_cons_of_mem _ member)) same
      exact ⟨rfl,rfl⟩

/-- A record that still answers a Claim at `now`. -/
def MemoryDedupEntry.holds (entry : MemoryDedupEntry) (now : Int) : Bool :=
  entry.record.state == .processing || now < entry.expiresAt

/-- `Claim`, its clock sample being `now`: the record that refuses the claim, if any. -/
def MemoryDedupStore.claim (store : MemoryDedupStore) (sessionID msgID : Bytes) (fingerprint : SendFingerprint)
    (now : Int) : (Bool × Option DedupRecord) × MemoryDedupStore :=
  let key := dedupKey sessionID msgID
  let claimed : MemoryDedupStore := {store with
    records := store.records.insert key ⟨{state := .processing, fingerprint := fingerprint},now + store.ttl⟩}
  match store.records.lookup key with
  | some entry => if entry.holds now then ((false,some entry.record),store) else ((true,none),claimed)
  | none => ((true,none),claimed)

/-- `Complete`, its clock sample being `now`. -/
def MemoryDedupStore.complete (store : MemoryDedupStore) (sessionID msgID : Bytes) (ack : Envelope) (now : Int) :
    Except Err MemoryDedupStore :=
  let key := dedupKey sessionID msgID
  match store.records.lookup key with
  | some entry =>
    if entry.record.state = .processing then
      let record : DedupRecord := {state := .completed, fingerprint := entry.record.fingerprint, ack := some ack}
      .ok {store with records := store.records.insert key ⟨record,now + store.ttl⟩}
    else .error (.plain (lit "kmtproto: message is not claimed"))
  | none => .error (.plain (lit "kmtproto: message is not claimed"))

/-- `Abort` gives up a claim that was not completed. -/
def MemoryDedupStore.abort (store : MemoryDedupStore) (sessionID msgID : Bytes) : MemoryDedupStore :=
  let key := dedupKey sessionID msgID
  match store.records.lookup key with
  | some entry => if entry.record.state = .processing then {store with records := store.records.erase key} else store
  | none => store

/-- Whether a claim succeeds: there is no record, or a completed one that has expired. -/
theorem MemoryDedupStore.claim_cases (store : MemoryDedupStore) (sessionID msgID : Bytes)
    (fingerprint : SendFingerprint) (now : Int) :
    (store.claim sessionID msgID fingerprint now = ((true,none),{store with
        records := store.records.insert (dedupKey sessionID msgID)
          ⟨{state := .processing, fingerprint := fingerprint},now + store.ttl⟩}) ∧
      ∀ entry ∈ store.records.lookup (dedupKey sessionID msgID),
        entry.record.state = .completed ∧ entry.expiresAt ≤ now) ∨
    ∃ entry, store.records.lookup (dedupKey sessionID msgID) = some entry ∧
      store.claim sessionID msgID fingerprint now = ((false,some entry.record),store) := by
  unfold MemoryDedupStore.claim
  simp only []
  cases found : store.records.lookup (dedupKey sessionID msgID) with
  | none => exact .inl ⟨rfl,by simp⟩
  | some entry =>
    simp only []
    split
    · exact .inr ⟨entry,rfl,rfl⟩
    · rename_i expired
      refine .inl ⟨rfl,?_⟩
      rintro _ ⟨⟩
      simp only [MemoryDedupEntry.holds,Bool.or_eq_true,beq_iff_eq,decide_eq_true_eq,not_or,not_lt] at expired
      refine ⟨?_,expired.2⟩
      cases state : entry.record.state with
      | processing => exact absurd state expired.1
      | completed => rfl

/-- Completing puts the ACK into a record that was being processed. -/
theorem MemoryDedupStore.complete_cases {store next : MemoryDedupStore} {sessionID msgID : Bytes} {ack : Envelope}
    {now : Int} (completed : store.complete sessionID msgID ack now = .ok next) :
    ∃ entry, store.records.lookup (dedupKey sessionID msgID) = some entry ∧ entry.record.state = .processing ∧
      next = {store with
        records := store.records.insert (dedupKey sessionID msgID)
          ⟨{state := .completed, fingerprint := entry.record.fingerprint, ack := some ack},now + store.ttl⟩} := by
  unfold MemoryDedupStore.complete at completed
  simp only [] at completed
  split at completed
  · rename_i entry found
    split at completed
    · rename_i processing
      cases completed
      exact ⟨entry,found,processing,rfl⟩
    · cases completed
  · cases completed

structure ReplayLimits where
  maxEvents : UInt64
  maxBytes : Int
  deriving DecidableEq, Repr

/-- The stream of one session in a `MemoryReplayStore`. -/
structure ReplayStream where
  events : List Envelope := []
  floor : UInt64 := 0
  current : UInt64 := 0
  ids : List Bytes := []
  deriving DecidableEq, Repr

/-- `MemoryReplayStore`, its four maps joined by session. -/
abbrev MemoryReplayStore := AList (fun _ : Bytes => ReplayStream)

def MemoryReplayStore.stream (store : MemoryReplayStore) (sessionID : Bytes) : ReplayStream :=
  (store.lookup sessionID).getD {}

def MemoryReplayStore.currentSeq (store : MemoryReplayStore) (sessionID : Bytes) : UInt64 :=
  (store.stream sessionID).current

/-- The events of a range with the encoded bytes they take, within a budget. -/
def collectReplay (afterSeq throughSeq : UInt64) (budget : Int) : List Envelope → Except Err (List Envelope)
  | [] => .ok []
  | event::events =>
    if event.seq > afterSeq ∧ event.seq ≤ throughSeq then
      match event.marshal with
      | none => .error (.plain (lit "kmtproto: encode replay event"))
      | some encoded =>
        if (encoded.length : Int) > budget then .error (.sentinel .replayLimitExceeded)
        else do
          let others ← collectReplay afterSeq throughSeq (budget - encoded.length) events
          return event::others
    else collectReplay afterSeq throughSeq budget events

def MemoryReplayStore.replay (store : MemoryReplayStore) (sessionID : Bytes) (afterSeq throughSeq : UInt64)
    (limits : ReplayLimits) : Except Err (List Envelope) :=
  let stream := store.stream sessionID
  if limits.maxEvents = 0 ∨ limits.maxBytes ≤ 0 ∨ throughSeq < afterSeq then .error (.sentinel .replayLimitExceeded)
  else if throughSeq - afterSeq > limits.maxEvents then .error (.sentinel .replayLimitExceeded)
  else if stream.floor > 0 ∧ afterSeq < stream.floor - 1 then .error (.sentinel .replayUnavailable)
  else do
    let out ← collectReplay afterSeq throughSeq limits.maxBytes stream.events
    if throughSeq > afterSeq ∧ UInt64.ofNat out.length ≠ throughSeq - afterSeq then
      .error (.sentinel .replayUnavailable)
    else .ok out

def MemoryReplayStore.append (store : MemoryReplayStore) (sessionID eventID eventType content : Bytes)
    (timestamp : Int64) : Except Err Envelope × MemoryReplayStore :=
  let stream := store.stream sessionID
  if sessionID = [] ∨ eventID = [] ∨ !validString sessionID ∨ !validString eventID ∨ !validString eventType ∨
      !valid content then (.error (.plain (lit "kmtproto: invalid event append")),store)
  -- the set of ids made here for a new session is the empty one a stream starts with
  else if eventID ∈ stream.ids then (.error (.plain (lit "kmtproto: duplicate event id")),store)
  else if stream.current = 18446744073709551615 then (.error (.sentinel .sequenceExhausted),store)
  else
    match EventPayload.marshal {eventType := eventType, content := content} with
    | none => (.error (.plain (lit "kmtproto: encode event payload")),store)
    | some payload =>
      let seq := stream.current + 1
      let event : Envelope := {type := .event, id := eventID, sessionID := sessionID, seq := seq,
                               timestamp := timestamp, payload := payload}
      (.ok event,store.insert sessionID {stream with
        events := stream.events++[event], current := seq, ids := stream.ids++[eventID]})

/-- An appended event takes the next sequence number of its session. -/
theorem MemoryReplayStore.append_cases {store next : MemoryReplayStore} {sessionID eventID eventType content : Bytes}
    {timestamp : Int64} {event : Envelope}
    (appended : store.append sessionID eventID eventType content timestamp = (.ok event,next)) :
    (store.stream sessionID).current ≠ 18446744073709551615 ∧ ∃ payload,
      EventPayload.marshal {eventType := eventType, content := content} = some payload ∧
      event = {type := .event, id := eventID, sessionID := sessionID, seq := (store.stream sessionID).current + 1,
               timestamp := timestamp, payload := payload} ∧
      next = store.insert sessionID {store.stream sessionID with
        events := (store.stream sessionID).events++[event]
        current := (store.stream sessionID).current + 1
        ids := (store.stream sessionID).ids++[eventID]} := by
  unfold MemoryReplayStore.append at appended
  simp only [] at appended
  split at appended
  · cases appended
  split at appended
  · cases appended
  split at appended
  · cases appended
  rename_i room
  split at appended
  · cases appended
  rename_i payload encoded
  cases appended
  exact ⟨room,payload,encoded,rfl,rfl⟩

theorem MemoryReplayStore.append_fresh {store : MemoryReplayStore} {sessionID eventID eventType content : Bytes}
    {timestamp : Int64} {event : Envelope}
    (appended : (store.append sessionID eventID eventType content timestamp).1 = .ok event) :
    eventID ∉ (store.stream sessionID).ids := by
  unfold MemoryReplayStore.append at appended
  simp only [] at appended
  split at appended
  · cases appended
  split at appended
  · cases appended
  · assumption

theorem MemoryReplayStore.append_failed {store : MemoryReplayStore} {sessionID eventID eventType content : Bytes}
    {timestamp : Int64} {error : Err} (failed : (store.append sessionID eventID eventType content timestamp).1 = .error error) :
    (store.append sessionID eventID eventType content timestamp).2 = store := by
  unfold MemoryReplayStore.append at failed ⊢
  simp only [] at failed ⊢
  split
  · rfl
  rename_i asked
  rw [if_neg asked] at failed
  split
  · rfl
  rename_i fresh
  rw [if_neg fresh] at failed
  split
  · rfl
  rename_i room
  rw [if_neg room] at failed
  cases encoded : EventPayload.marshal {eventType := eventType, content := content} with
  | none => rfl
  | some payload =>
    rw [encoded] at failed
    cases failed

def MemoryReplayStore.pruneBefore (store : MemoryReplayStore) (sessionID : Bytes) (firstAvailableSeq : UInt64) :
    MemoryReplayStore :=
  let stream := store.stream sessionID
  let first := if stream.current ≠ 18446744073709551615 ∧ firstAvailableSeq > stream.current + 1 then
    stream.current + 1 else firstAvailableSeq
  store.insert sessionID {stream with
    events := stream.events.dropWhile (fun event => event.seq < first)
    floor := if first > stream.floor then first else stream.floor}

@[simp] theorem MemoryReplayStore.stream_insert (store : MemoryReplayStore) (sessionID : Bytes) (stream : ReplayStream) :
    MemoryReplayStore.stream (store.insert sessionID stream) sessionID = stream := by
  simp [MemoryReplayStore.stream]

theorem MemoryReplayStore.stream_insert_ne (store : MemoryReplayStore) {sessionID other : Bytes} (stream : ReplayStream)
    (different : other ≠ sessionID) :
    MemoryReplayStore.stream (store.insert sessionID stream) other = store.stream other := by
  simp [MemoryReplayStore.stream,AList.lookup_insert_ne different]

/-- Pruning forgets events and keeps the numbering. -/
theorem MemoryReplayStore.prune_stream (store : MemoryReplayStore) (sessionID : Bytes) (first : UInt64) (other : Bytes) :
    ((store.pruneBefore sessionID first).stream other).current = (store.stream other).current ∧
    ((store.pruneBefore sessionID first).stream other).events ⊆ (store.stream other).events := by
  unfold MemoryReplayStore.pruneBefore
  simp only []
  by_cases same : other = sessionID
  · subst same
    rw [MemoryReplayStore.stream_insert]
    exact ⟨rfl,(List.dropWhile_sublist _).subset⟩
  · rw [MemoryReplayStore.stream_insert_ne _ _ same]
    exact ⟨rfl,List.Subset.refl _⟩

theorem collectReplay_subset {afterSeq throughSeq : UInt64} {budget : Int} {stored out : List Envelope}
    (collected : collectReplay afterSeq throughSeq budget stored = .ok out) : out ⊆ stored := by
  induction stored generalizing budget out with
  | nil =>
    cases collected
    exact List.Subset.refl _
  | cons event events ih =>
    unfold collectReplay at collected
    split at collected
    · split at collected
      · cases collected
      split at collected
      · cases collected
      obtain ⟨others,rest,same⟩ := bind_ok collected
      cases same
      exact List.cons_subset_cons _ (ih rest)
    · exact List.Subset.trans (ih collected) (List.subset_cons_self _ _)

theorem MemoryReplayStore.replay_collected {store : MemoryReplayStore} {sessionID : Bytes} {afterSeq throughSeq : UInt64}
    {limits : ReplayLimits} {events : List Envelope}
    (replayed : store.replay sessionID afterSeq throughSeq limits = .ok events) :
    collectReplay afterSeq throughSeq limits.maxBytes (store.stream sessionID).events = .ok events := by
  unfold MemoryReplayStore.replay at replayed
  simp only [] at replayed
  split at replayed
  · cases replayed
  split at replayed
  · cases replayed
  split at replayed
  · cases replayed
  obtain ⟨out,collected,rest⟩ := bind_ok replayed
  split at rest
  · cases rest
  · cases rest
    exact collected

/-- `OutboundQueue`: the frames enqueued so far and how many of them were taken. -/
structure OutboundQueue where
  log : List Envelope := []
  taken : Nat := 0
  closed : Bool := false
  deriving DecidableEq, Repr

def OutboundQueue.enqueueBatch (queue : OutboundQueue) (frames : List Envelope) : Except Err OutboundQueue :=
  if queue.closed then .error (.sentinel .outboundClosed) else .ok {queue with log := queue.log++frames}

end Kmtproto
