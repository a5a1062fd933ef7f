import Kmtproto.ServerEffects
import Kmtproto.ServerCompliance

/-! At most one Application call for each SEND. A claim is a token that the call spends
on the Application, and a record in the dedup store keeps a second token from being
issued, as long as no claim comes after the record has expired. -/
namespace Kmtproto
open Json Interaction

def sendCalls (sessionID msgID : Bytes) (trace : List (Nat × Event Op Answer)) : Nat :=
  trace.countP (fun entry => match entry.2 with
    | ⟨.handleSend session message _,_⟩ => session = sessionID ∧ message = msgID
    | _ => false)

/-- A claim of a SEND that samples the clock when the record of its completion has expired. -/
def outlives (ttl : Int) : Event Op Answer → Event Op Answer → Bool
  | ⟨.complete sessionID msgID _ completedAt,.ok ()⟩, ⟨.claim session message _ now,_⟩ =>
    session = sessionID ∧ message = msgID ∧ completedAt + ttl ≤ now
  | _, _ => false

/-- No claim comes after the expiry of the record it would find. -/
def WithinRetention (ttl : Int) (trace : List (Nat × Event Op Answer)) : Prop :=
  trace.Pairwise (fun earlier later => outlives ttl earlier.2 later.2 = false)

instance (ttl : Int) (trace : List (Nat × Event Op Answer)) : Decidable (WithinRetention ttl trace) :=
  inferInstanceAs (Decidable (List.Pairwise _ _))

section Keys

variable (key : Bytes)

def callsKey (entry : Nat × Event Op Answer) : Bool :=
  match entry.2 with
  | ⟨.handleSend sessionID msgID _,_⟩ => dedupKey sessionID msgID = key
  | _ => false

def holdsKey (known : Knowledge) : Bool :=
  match known.phase with
  | .claimed sessionID msgID => dedupKey sessionID msgID = key
  | _ => false

theorem sendCalls_le (sessionID msgID : Bytes) (trace : List (Nat × Event Op Answer)) :
    sendCalls sessionID msgID trace ≤ trace.countP (callsKey (dedupKey sessionID msgID)) := by
  refine List.countP_mono_left (fun entry _ called => ?_)
  obtain ⟨thread,op,answer⟩ := entry
  cases op with
  | handleSend session message content =>
    simp only [decide_eq_true_eq] at called
    simp [callsKey,called]
  | _ => cases called

end Keys

structure ClaimedOnce (ttl : Int) (world : World) (trace : List (Nat × Event Op Answer)) (states : List Knowledge) :
    Prop where
  retention : world.dedup.ttl = ttl
  plain : ∀ thread sessionID msgID ack now, (thread,⟨.complete sessionID msgID ack now,.ok ()⟩) ∈ trace → 0 ∉ sessionID
  records : ∀ key entry, world.dedup.records.lookup key = some entry → entry.record.state = .completed →
    ∃ thread sessionID msgID ack now, (thread,⟨.complete sessionID msgID ack now,.ok ()⟩) ∈ trace ∧
      dedupKey sessionID msgID = key ∧ entry.expiresAt = now + ttl
  once : WithinRetention ttl trace → ∀ key, trace.countP (callsKey key) + states.countP (holdsKey key) ≤
    if (world.dedup.records.lookup key).isSome then 1 else 0

section Steps
variable {config : ServerConfig} {reference : Op → Bool} {ttl : Int} {world next : World}
  {trace : List (Nat × Event Op Answer)} {states : List Knowledge} {index : Nat} {known new : Knowledge}

theorem countP_replace {α : Type} {entries : List α} {index : Nat} {old new : α} (found : entries[index]? = some old)
    (p : α → Bool) : (entries.set index new).countP p + (if p old then 1 else 0) =
      entries.countP p + (if p new then 1 else 0) := by
  induction entries generalizing index with
  | nil => cases found
  | cons head tail ih =>
    cases index with
    | zero =>
      cases found
      simp only [List.set_cons_zero,List.countP_cons]
      omega
    | succ index =>
      have rest := ih found
      simp only [List.set_cons_succ,List.countP_cons]
      omega

/-- Only a claim gives a call the right to call the Application. -/
theorem holdsKey_next {op : Op} {answer : Answer op} (other : op.dedup = false) (key : Bytes)
    (held : holdsKey key (known.next op answer) = true) : holdsKey key known = true := by
  unfold Knowledge.next at held
  split at held <;> first
    | exact held
    | cases held
    | cases other
  rename_i outbound frames
  obtain ⟨welcomed,same⟩ := known.sent_frame frames
  rw [same] at held
  exact held

theorem WithinRetention.init {entry : Nat × Event Op Answer} (retained : WithinRetention ttl (trace++[entry])) : WithinRetention ttl trace :=
  (List.pairwise_append.mp retained).1

theorem ClaimedOnce.quiet (holds : ClaimedOnce ttl world trace states) (found : states[index]? = some known)
    {event : Event Op Answer} (same : next.dedup = world.dedup)
    (other : ∀ sessionID msgID ack now, event ≠ ⟨.complete sessionID msgID ack now,.ok ()⟩)
    (spends : ∀ key, (if callsKey key (index,event) then 1 else 0) + (if holdsKey key new then 1 else 0) ≤
      if holdsKey key known then 1 else 0) :
    ClaimedOnce ttl next (trace++[(index,event)]) (states.set index new) := by
  refine ⟨by rw [same]; exact holds.retention,?_,?_,?_⟩
  · intro thread sessionID msgID ack now member
    rcases List.mem_append.mp member with old | last
    · exact holds.plain thread sessionID msgID ack now old
    · exact absurd (Prod.mk.inj (List.mem_singleton.mp last)).2.symm (other sessionID msgID ack now)
  · intro key entry stored completed
    rw [same] at stored
    obtain ⟨thread,sessionID,msgID,ack,now,member,about⟩ := holds.records key entry stored completed
    exact ⟨thread,sessionID,msgID,ack,now,List.mem_append_left _ member,about⟩
  · intro retained key
    have before := holds.once retained.init key
    have tokens := @countP_replace _ states index known new found (holdsKey key)
    have spent := spends key
    rw [same,List.countP_append,List.countP_singleton]
    omega

/-- A claim that succeeds finds no record, for an expired one is excluded. -/
theorem ClaimedOnce.claim {sessionID msgID : Bytes} {fingerprint : SendFingerprint} {now : Int}
    {answer : Answer (.claim sessionID msgID fingerprint now)} (holds : ClaimedOnce ttl world trace states)
    (found : states[index]? = some known) (idle : known.phase = .idle) (plain : 0 ∉ sessionID)
    (claimed : new.phase = .claimed sessionID msgID)
    (inserted : next.dedup = {world.dedup with
      records := world.dedup.records.insert (dedupKey sessionID msgID)
        ⟨{state := .processing, fingerprint := fingerprint},now + world.dedup.ttl⟩})
    (expired : ∀ entry ∈ world.dedup.records.lookup (dedupKey sessionID msgID),
      entry.record.state = .completed ∧ entry.expiresAt ≤ now) :
    ClaimedOnce ttl next (trace++[(index,⟨.claim sessionID msgID fingerprint now,answer⟩)]) (states.set index new) := by
  refine ⟨by rw [inserted]; exact holds.retention,?_,?_,?_⟩
  · intro thread sessionID msgID ack now member
    rcases List.mem_append.mp member with old | last
    · exact holds.plain thread sessionID msgID ack now old
    · cases List.mem_singleton.mp last
  · intro key entry stored completed
    rw [inserted] at stored
    by_cases same : key = dedupKey sessionID msgID
    · subst same
      rw [AList.lookup_insert] at stored
      cases stored
      cases completed
    · rw [AList.lookup_insert_ne same] at stored
      obtain ⟨thread,sessionID,msgID,ack,now,member,about⟩ := holds.records key entry stored completed
      exact ⟨thread,sessionID,msgID,ack,now,List.mem_append_left _ member,about⟩
  · intro retained key
    have before := holds.once retained.init key
    have tokens := @countP_replace _ states index known new found (holdsKey key)
    have unheld : holdsKey key known = false := by simp [holdsKey,idle]
    rw [List.countP_append,List.countP_singleton,inserted]
    by_cases same : key = dedupKey sessionID msgID
    · subst same
      have absent : world.dedup.records.lookup (dedupKey sessionID msgID) = none := by
        cases stored : world.dedup.records.lookup (dedupKey sessionID msgID) with
        | none => rfl
        | some entry =>
          obtain ⟨completed,past⟩ := expired entry stored
          obtain ⟨thread,session,message,ack,completedAt,member,sameKey,expiry⟩ := holds.records _ entry stored completed
          obtain ⟨rfl,rfl⟩ := dedupKey_inj (holds.plain _ _ _ _ _ member) plain sameKey
          have later := (List.pairwise_append.mp retained).2.2 _ member _ (List.mem_singleton_self _)
          simp only [outlives,true_and,decide_eq_false_iff_not] at later
          omega
      rw [absent] at before
      have held : holdsKey (dedupKey sessionID msgID) new = true := by simp [holdsKey,claimed]
      simp only [unheld,held,Option.isSome_none,Bool.false_eq_true,if_false,if_true] at before tokens
      simp only [AList.lookup_insert,Option.isSome_some,if_true,callsKey,Bool.false_eq_true,if_false]
      omega
    · have unheldNew : holdsKey key new = false := by simpa [holdsKey,claimed] using fun same' => same same'.symm
      simp only [unheld,unheldNew,Bool.false_eq_true,if_false] at tokens
      simp only [AList.lookup_insert_ne same,callsKey,Bool.false_eq_true,if_false]
      omega

theorem ClaimedOnce.complete {sessionID msgID : Bytes} {ack : Envelope} {now : Int}
    (holds : ClaimedOnce ttl world trace states) (found : states[index]? = some known) (plain : 0 ∉ sessionID)
    (idle : new.phase = .idle) (completed : world.dedup.complete sessionID msgID ack now = .ok next.dedup) :
    ClaimedOnce ttl next (trace++[(index,⟨.complete sessionID msgID ack now,.ok ()⟩)]) (states.set index new) := by
  obtain ⟨old,stored,_,inserted⟩ := MemoryDedupStore.complete_cases completed
  refine ⟨by rw [inserted]; exact holds.retention,?_,?_,?_⟩
  · intro thread session message other placed member
    rcases List.mem_append.mp member with old | last
    · exact holds.plain thread session message other placed old
    · cases List.mem_singleton.mp last
      exact plain
  · intro key entry found done
    rw [inserted] at found
    by_cases same : key = dedupKey sessionID msgID
    · subst same
      rw [AList.lookup_insert] at found
      cases found
      exact ⟨index,sessionID,msgID,ack,now,by simp,rfl,by rw [holds.retention]⟩
    · rw [AList.lookup_insert_ne same] at found
      obtain ⟨thread,session,message,other,placed,member,about⟩ := holds.records key entry found done
      exact ⟨thread,session,message,other,placed,List.mem_append_left _ member,about⟩
  · intro retained key
    have before := holds.once retained.init key
    have tokens := @countP_replace _ states index known new found (holdsKey key)
    have unheld : holdsKey key new = false := by simp [holdsKey,idle]
    have kept : (next.dedup.records.lookup key).isSome = (world.dedup.records.lookup key).isSome := by
      rw [inserted]
      by_cases same : key = dedupKey sessionID msgID
      · subst same
        simp [stored]
      · rw [AList.lookup_insert_ne same]
    rw [List.countP_append,List.countP_singleton,kept]
    simp only [unheld,Bool.false_eq_true,if_false] at tokens
    simp only [callsKey,Bool.false_eq_true,if_false]
    omega

theorem spends_other {op : Op} {answer : Answer op} (other : op.dedup = false)
    (uncalled : ∀ key, callsKey key (index,⟨op,answer⟩) = false) (key : Bytes) :
    (if callsKey key (index,⟨op,answer⟩) then 1 else 0) + (if holdsKey key (known.next op answer) then 1 else 0) ≤
      if holdsKey key known then 1 else 0 := by
  rw [uncalled key]
  cases held : holdsKey key (known.next op answer) with
  | false => simp
  | true => simp [holdsKey_next other key held]

end Steps

theorem claimedOnce_keeps (config : ServerConfig) (reference : Op → Bool) (ttl : Int)
    (store : ∀ op, op.dedup = true → reference op = true) :
    Keeps (serverMachine config reference) (callRules config.strictValidation) (fun known _ => known.owes = none)
      ServerCall.start (fun _ => True) (ClaimedOnce ttl) where
  programs call _ := call.complies config
  spawn call world trace states _ holds := by
    refine {holds with once := fun retained key => ?_}
    have unheld : holdsKey key call.start = false := by cases call <;> rfl
    rw [List.countP_append,List.countP_singleton,unheld]
    exact holds.once retained key
  env elapsed world next trace states holds moved := by
    change World.tick elapsed world = some next at moved
    unfold World.tick at moved
    split at moved
    · cases moved
      exact {holds with}
    · cases moved
  request world next trace states index known op offered answer holds found allowed performed := by
    cases op with
    | claim sessionID msgID fingerprint now =>
      obtain ⟨idle,plain,_⟩ := allowed
      have refused (same : next.dedup = world.dedup) (kept : known.next (.claim sessionID msgID fingerprint now) answer =
          {known with acks := (known.next (.claim sessionID msgID fingerprint now) answer).acks}) :
          ClaimedOnce ttl next (trace++[(index,⟨.claim sessionID msgID fingerprint now,answer⟩)])
            (states.set index (known.next (.claim sessionID msgID fingerprint now) answer)) := by
        refine holds.quiet found same (by simp) (fun key => ?_)
        rw [kept]
        simp [callsKey,holdsKey,idle]
      rcases perform_claim performed (store _ rfl) with ⟨error,rfl,same⟩ | ⟨rfl,same⟩
      · exact refused same rfl
      · rcases world.dedup.claim_cases sessionID msgID fingerprint now with ⟨claimed,expired⟩ | ⟨entry,_,busy⟩
        · rw [claimed] at same
          refine holds.claim found idle plain ?_ same expired
          change (known.next (.claim sessionID msgID fingerprint now)
            (.ok (world.dedup.claim sessionID msgID fingerprint now).1)).phase = _
          rw [claimed]
          rfl
        · rw [busy] at same refused ⊢
          exact refused same rfl
    | complete sessionID msgID ack now =>
      obtain ⟨⟨plain,_⟩,⟨content,accepted⟩,_⟩ := allowed
      rcases perform_complete performed (store _ rfl) with ⟨error,rfl,same⟩ | ⟨rfl,completed⟩
      · refine holds.quiet found same (by simp) (fun key => ?_)
        simp [callsKey,holdsKey,Knowledge.next,accepted]
      · exact holds.complete found plain rfl completed
    | handleSend sessionID msgID content =>
      refine holds.quiet found (perform_dedup performed rfl) (by simp) (fun key => ?_)
      simp [callsKey,holdsKey,Knowledge.next,allowed.1]
    | _ =>
      exact holds.quiet found (perform_dedup performed rfl) (by simp) (spends_other rfl (fun _ => rfl))

/-- At most one Application call: in every run in which no claim comes after the expiry of a
completed record, whatever fails and however calls interleave, the Application is called at
most once for each SEND of a session. -/
theorem send_at_most_once (config : ServerConfig) (reference : Op → Bool)
    (store : ∀ op, op.dedup = true → reference op = true) {world : World} (empty : world.dedup.records = ∅)
    {moves : List ServerMove} {pool : ServerPool}
    (ran : (serverMachine config reference).run {world := world} moves = some pool)
    (retained : WithinRetention world.dedup.ttl pool.trace) (sessionID msgID : Bytes) :
    sendCalls sessionID msgID pool.trace ≤ 1 := by
  have start : ClaimedOnce world.dedup.ttl world [] [] := by
    refine ⟨rfl,by simp,?_,?_⟩ <;> simp [empty]
  obtain ⟨states,_,holds⟩ := (claimedOnce_keeps config reference _ store).run_empty start (fun _ _ => trivial) ran
  have bound := holds.once retained (dedupKey sessionID msgID)
  have calls := sendCalls_le sessionID msgID pool.trace
  split at bound <;> omega

section Scenario

def sendFrame : Envelope :=
  {type := .send, id := lit "m", sessionID := lit "s", payload := encodeObject [(lit "content",lit "1")]}

def day : Int := 86400000000000

/-- A SEND is handled to its end; just before its session expires it is sent again, and the
retry is held up for `stall` between the session lookup and the claim. -/
def retryMoves (stall : Int) (rest : Nat) : List ServerMove :=
  connectMoves ++ .spawn (.handle 1 sendFrame)::turns 2 32 (working (lit "s") (lit "f")) ++
  .env (day-1)::.spawn (.handle 1 sendFrame)::turns 3 7 (working (lit "s") (lit "f")) ++
  .env stall::turns 3 rest (working (lit "s") (lit "f"))

/-- A retry held up past the expiry of the record claims the SEND again. -/
theorem send_twice_after_expiry :
    newServerProtocol {} {dedupRetention := some day} = .ok {} ∧ ∃ pool : ServerPool,
    (serverMachine {} (fun _ => true)).run {world := {dedup := {ttl := day}}} (retryMoves 1 25) = some pool ∧
    sendCalls (lit "s") (lit "m") pool.trace = 2 := by
  have facts : ∃ pool ∈ (serverMachine {} (fun _ => true)).run {world := {dedup := {ttl := day}}} (retryMoves 1 25),
      sendCalls (lit "s") (lit "m") pool.trace = 2 := by decide +kernel
  exact ⟨rfl,facts⟩

/-- A retry that is not held up finds the record. -/
theorem send_at_most_once_retry : ∃ pool : ServerPool,
    (serverMachine {} (fun _ => true)).run {world := {dedup := {ttl := day}}} (retryMoves 0 8) = some pool ∧
    WithinRetention day pool.trace ∧ (pool.world.log 0).map (·.type) = [.welcome,.ack,.ack] ∧
    ∀ sessionID msgID, sendCalls sessionID msgID pool.trace ≤ 1 := by
  have facts : ∃ pool ∈ (serverMachine {} (fun _ => true)).run {world := {dedup := {ttl := day}}} (retryMoves 0 8),
      WithinRetention day pool.trace ∧ (pool.world.log 0).map (·.type) = [.welcome,.ack,.ack] := by decide +kernel
  obtain ⟨pool,ran,retained,types⟩ := facts
  exact ⟨pool,ran,retained,types,send_at_most_once {} _ (fun _ _ => rfl) rfl ran retained⟩

end Scenario

end Kmtproto
