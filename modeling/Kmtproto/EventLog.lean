import Kmtproto.ServerCompliance
import Kmtproto.ServerEffects

/-! The events of a session. The store numbers what it appends, and every EVENT that a
call of the server puts on a queue is one the store appended, however calls interleave
and whatever else fails. -/
namespace Kmtproto
open Json Interaction

def appendedTo (sessionID : Bytes) : Event Op Answer → Option Envelope
  | ⟨.append session _ _ _ _,.ok event⟩ => if session = sessionID then some event else none
  | _ => none

def eventLog (sessionID : Bytes) (trace : List (Nat × Event Op Answer)) : List Envelope :=
  trace.filterMap (fun entry => appendedTo sessionID entry.2)

def learnedEvents : (op : Op) → Answer op → List Envelope
  | .append _ _ _ _ _, .ok event => [event]
  | .replay _ _ _ _, .ok events => events
  | _, _ => []

structure Logged (world : World) (trace : List (Nat × Event Op Answer)) (states : List Knowledge) : Prop where
  current : ∀ sessionID, (world.replay.stream sessionID).current.toNat = (eventLog sessionID trace).length
  stored : ∀ sessionID, (world.replay.stream sessionID).events ⊆ eventLog sessionID trace
  numbered : ∀ sessionID i event, (eventLog sessionID trace)[i]? = some event →
    event.sessionID = sessionID ∧ event.seq.toNat = i+1
  known : ∀ known ∈ states, ∀ event ∈ known.events, event ∈ eventLog event.sessionID trace
  queued : ∀ outbound, ∀ frame ∈ world.log outbound, frame.type = .event → frame ∈ eventLog frame.sessionID trace

section Steps
variable {config : ServerConfig} {reference : Op → Bool} {world next : World}
  {trace : List (Nat × Event Op Answer)} {states : List Knowledge} {index : Nat} {known : Knowledge}

theorem eventLog_snoc (sessionID : Bytes) (entry : Nat × Event Op Answer) :
    eventLog sessionID (trace++[entry]) = eventLog sessionID trace ++ (appendedTo sessionID entry.2).toList := by
  simp only [eventLog,List.filterMap_append,List.filterMap_cons,List.filterMap_nil]
  cases appendedTo sessionID entry.2 <;> rfl

theorem eventLog_mono (sessionID : Bytes) (entry : Nat × Event Op Answer) :
    eventLog sessionID trace ⊆ eventLog sessionID (trace++[entry]) := by
  rw [eventLog_snoc]
  exact List.subset_append_left ..

theorem Knowledge.next_events (op : Op) (answer : Answer op) :
    (known.next op answer).events = learnedEvents op answer ++ known.events := by
  unfold Knowledge.next
  split <;> try rfl
  · rename_i outbound frames
    obtain ⟨welcomed,same⟩ := known.sent_frame frames
    rw [same]
    rfl
  · rename_i appends replays _ _ _ _ _
    unfold learnedEvents
    split
    · exact (appends _ _ _ _ _ _ rfl HEq.rfl).elim
    · exact (replays _ _ _ _ _ rfl HEq.rfl).elim
    · rfl

/-- The events of a batch are known to the call that sends it. -/
theorem Knowledge.maySendAll_events {outbound : Nat} {frames : List Envelope} (may : maySendAll outbound known frames)
    {frame : Envelope} (member : frame ∈ frames) (event : frame.type = .event) : frame ∈ known.events := by
  induction frames generalizing known with
  | nil => cases member
  | cons head tail ih =>
    rcases List.mem_cons.mp member with rfl | member
    · have sendable := may.1
      simp only [Knowledge.maySend,event] at sendable
      exact sendable.1
    · have later := ih may.2 member
      unfold Knowledge.sent at later
      split at later <;> exact later

theorem Logged.quiet (holds : Logged world trace states) (found : states[index]? = some known) {op : Op}
    {answer : Answer op} (silent : ∀ sessionID, appendedTo sessionID ⟨op,answer⟩ = none)
    (stream : ∀ sessionID, (next.replay.stream sessionID).current = (world.replay.stream sessionID).current ∧
      (next.replay.stream sessionID).events ⊆ (world.replay.stream sessionID).events)
    (learned : ∀ event ∈ learnedEvents op answer, event ∈ eventLog event.sessionID trace)
    (logged : ∀ outbound, ∀ frame ∈ next.log outbound, frame.type = .event →
      frame ∈ eventLog frame.sessionID trace) :
    Logged next (trace++[(index,⟨op,answer⟩)]) (states.set index (known.next op answer)) := by
  have same (sessionID : Bytes) : eventLog sessionID (trace++[(index,⟨op,answer⟩)]) = eventLog sessionID trace := by
    rw [eventLog_snoc,silent sessionID]
    exact List.append_nil _
  refine ⟨?_,?_,?_,?_,?_⟩
  · intro sessionID
    rw [same,(stream sessionID).1]
    exact holds.current sessionID
  · intro sessionID
    rw [same]
    exact List.Subset.trans (stream sessionID).2 (holds.stored sessionID)
  · intro sessionID i event
    rw [same]
    exact holds.numbered sessionID i event
  · intro other member event inside
    rw [same]
    rcases List.mem_or_eq_of_mem_set member with old | rfl
    · exact holds.known other old event inside
    · rw [Knowledge.next_events] at inside
      rcases List.mem_append.mp inside with fresh | old
      · exact learned event fresh
      · exact holds.known known (List.mem_of_getElem? found) event old
  · intro outbound frame member event
    rw [same]
    exact logged outbound frame member event

/-- An append puts the event with the next number at the end of its session. -/
theorem Logged.append {sessionID eventID eventType content : Bytes} {timestamp : Int64} {event : Envelope}
    (holds : Logged world trace states) (found : states[index]? = some known)
    (appended : world.replay.append sessionID eventID eventType content timestamp = (.ok event,next.replay))
    (logs : ∀ outbound, next.log outbound = world.log outbound) :
    Logged next (trace++[(index,⟨.append sessionID eventID eventType content timestamp,.ok event⟩)])
      (states.set index (known.next (.append sessionID eventID eventType content timestamp) (.ok event))) := by
  obtain ⟨room,payload,_,built,stored⟩ := MemoryReplayStore.append_cases appended
  have session : event.sessionID = sessionID := by rw [built]
  have own : eventLog sessionID (trace++[(index,⟨.append sessionID eventID eventType content timestamp,.ok event⟩)]) =
      eventLog sessionID trace ++ [event] := by
    rw [eventLog_snoc]
    simp [appendedTo]
  have other (different : Bytes) (ne : different ≠ sessionID) :
      eventLog different (trace++[(index,⟨.append sessionID eventID eventType content timestamp,.ok event⟩)]) =
        eventLog different trace := by
    rw [eventLog_snoc]
    simp [appendedTo,Ne.symm ne]
  have next' : ((world.replay.stream sessionID).current + 1).toNat = (world.replay.stream sessionID).current.toNat + 1 := by
    have bound := (world.replay.stream sessionID).current.toNat_lt
    have below : (world.replay.stream sessionID).current.toNat ≠ 18446744073709551615 :=
      fun top => room (UInt64.toNat_inj.mp top)
    rw [UInt64.toNat_add]
    exact Nat.mod_eq_of_lt (by simp; omega)
  refine ⟨?_,?_,?_,?_,?_⟩
  · intro different
    by_cases same : different = sessionID
    · subst same
      rw [own,stored,MemoryReplayStore.stream_insert,List.length_append,← holds.current]
      exact next'
    · rw [other _ same,stored,MemoryReplayStore.stream_insert_ne _ _ same]
      exact holds.current different
  · intro different
    by_cases same : different = sessionID
    · subst same
      rw [own,stored,MemoryReplayStore.stream_insert]
      exact List.append_subset.mpr ⟨List.Subset.trans (holds.stored different) (List.subset_append_left ..),List.subset_append_right ..⟩
    · rw [other _ same,stored,MemoryReplayStore.stream_insert_ne _ _ same]
      exact holds.stored different
  · intro different i event' placed
    by_cases same : different = sessionID
    · subst same
      rw [own] at placed
      rcases lt_or_ge i (eventLog different trace).length with below | above
      · rw [List.getElem?_append_left below] at placed
        exact holds.numbered different i event' placed
      · rw [List.getElem?_append_right above] at placed
        obtain ⟨last,rfl⟩ : i - (eventLog different trace).length = 0 ∧ event = event' := by
          simpa [List.getElem?_singleton] using placed
        refine ⟨session,?_⟩
        have level := holds.current different
        rw [built]
        change ((world.replay.stream different).current + 1).toNat = i + 1
        omega
    · rw [other _ same] at placed
      exact holds.numbered different i event' placed
  · intro state member event' inside
    rcases List.mem_or_eq_of_mem_set member with old | rfl
    · exact eventLog_mono _ _ (holds.known state old event' inside)
    · rw [Knowledge.next_events] at inside
      rcases List.mem_cons.mp inside with rfl | old
      · rw [session,own]
        simp
      · exact eventLog_mono _ _ (holds.known known (List.mem_of_getElem? found) event' old)
  · intro outbound frame member event'
    rw [logs] at member
    exact eventLog_mono _ _ (holds.queued outbound frame member event')

end Steps

theorem logged_keeps (config : ServerConfig) (reference : Op → Bool)
    (store : ∀ op, op.replays = true → reference op = true) :
    Keeps (serverMachine config reference) (callRules config.strictValidation) (fun known _ => known.owes = none)
      ServerCall.start (fun _ => True) Logged where
  programs call _ := call.complies config
  spawn call world trace states _ holds := by
    refine {holds with known := ?_}
    intro known member event inside
    rcases List.mem_append.mp member with old | last
    · exact holds.known known old event inside
    · rw [List.mem_singleton.mp last] at inside
      cases call <;> cases inside
  env elapsed world next trace states holds moved := by
    change World.tick elapsed world = some next at moved
    unfold World.tick at moved
    split at moved
    · cases moved
      exact {holds with}
    · cases moved
  request world next trace states index known op offered answer holds found allowed performed := by
    have logs := perform_log performed
    have unlogged (silent : ∀ outbound, appended outbound op answer = []) (outbound : Nat) :
        next.log outbound = world.log outbound := by
      rw [logs,silent]
      exact List.append_nil _
    have queued (silent : ∀ outbound, appended outbound op answer = []) (outbound : Nat) (frame : Envelope)
        (member : frame ∈ next.log outbound) (event : frame.type = .event) : frame ∈ eventLog frame.sessionID trace := by
      rw [unlogged silent] at member
      exact holds.queued outbound frame member event
    cases op with
    | append sessionID eventID eventType content timestamp =>
      rcases perform_append performed (store _ rfl) with ⟨error,rfl,same⟩ | ⟨event,rfl,appended⟩
      · exact holds.quiet found (fun _ => rfl) (fun _ => by rw [same]; exact ⟨rfl,List.Subset.refl _⟩) (by simp [learnedEvents])
          (queued (fun _ => rfl))
      · exact holds.append found appended (unlogged (fun _ => rfl))
    | pruneBefore sessionID first =>
      refine holds.quiet found (fun _ => rfl) (fun different => ?_) (by simp [learnedEvents]) (queued (fun _ => rfl))
      rw [perform_prune performed (store _ rfl)]
      exact MemoryReplayStore.prune_stream ..
    | replay sessionID afterSeq throughSeq limits =>
      have same := perform_replay performed (by simp) (by simp)
      refine holds.quiet found (fun _ => rfl) (fun _ => by rw [same]; exact ⟨rfl,List.Subset.refl _⟩) ?_ (queued (fun _ => rfl))
      rw [perform_replayed performed (store _ rfl)]
      cases replayed : world.replay.replay sessionID afterSeq throughSeq limits with
      | error error => simp [learnedEvents]
      | ok events =>
        intro event member
        have inside := holds.stored sessionID (collectReplay_subset (MemoryReplayStore.replay_collected replayed) member)
        obtain ⟨i,placed⟩ := List.mem_iff_getElem?.mp inside
        rw [(holds.numbered sessionID i event placed).1]
        exact inside
    | enqueueBatch outbound frames =>
      have same := perform_replay performed (by simp) (by simp)
      refine holds.quiet found (fun _ => rfl) (fun _ => by rw [same]; exact ⟨rfl,List.Subset.refl _⟩) (by simp [learnedEvents]) ?_
      intro target frame member event
      rw [logs] at member
      rcases List.mem_append.mp member with old | fresh
      · exact holds.queued target frame old event
      · exact holds.known known (List.mem_of_getElem? found) frame
          (Knowledge.maySendAll_events allowed (mem_appended fresh) event)
    | _ =>
      have same := perform_replay performed (by simp) (by simp)
      exact holds.quiet found (fun _ => rfl) (fun _ => by rw [same]; exact ⟨rfl,List.Subset.refl _⟩) (by simp [learnedEvents])
        (queued (fun _ => rfl))

end Kmtproto
