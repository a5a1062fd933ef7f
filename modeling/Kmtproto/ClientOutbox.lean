import Kmtproto.ClientRecovery

/-! The outbox over whole runs. A SEND the client accepted stays pending, unaltered,
until its ACK or the abandonment of its session, whatever the connection goes
through in between, and it is acknowledged at most once. -/
namespace Kmtproto
open Json

structure ClientStep where
  before : Client
  now : Int
  call : Call

def ClientStep.after (s : ClientStep) : Client := (s.before.step s.now s.call).1

def ClientStep.result (s : ClientStep) : Except Err (List Action) := (s.before.step s.now s.call).2

def ClientStep.actions (s : ClientStep) : List Action := resultActions s.result

def Client.steps (c : Client) : List (Int × Call) → List ClientStep
  | [] => []
  | (now,call)::calls => ⟨c,now,call⟩::(c.step now call).1.steps calls

def ClientStep.Enqueues (s : ClientStep) (messageID : Bytes) : Prop :=
  (∃ content, s.call = .enqueueSend messageID content) ∧ ∃ actions, s.result = .ok actions

def ClientStep.Acks (s : ClientStep) (messageID : Bytes) : Prop := .acked messageID ∈ s.actions

/-- The step takes an INVALID_SESSION ERROR that abandons the session. -/
def ClientStep.Abandons (s : ClientStep) : Prop := Abandoned s.before s.call s.after

def Unsettled (messageID : Bytes) (steps : List ClientStep) : Prop :=
  ∀ s ∈ steps, ¬ s.Acks messageID ∧ ¬ s.Abandons

inductive OutboxStep (c : Client) (call : Call) (next : Client) (result : Except Err (List Action)) : Prop
  | kept (outbox : next.outbox = c.outbox)
      (refused : ∀ id content, call = .enqueueSend id content → ∃ error, result = .error error)
      (unacked : ∀ id, .acked id ∉ resultActions result)
      (sends : ∀ frame, .sendFrame frame ∈ resultActions result → frame.type = .send →
        ∃ id, c.outbox.lookup id = some frame)
  | enqueued (messageID content : Bytes) (frame : Envelope) (same : call = .enqueueSend messageID content)
      (fresh : c.outbox.lookup messageID = none) (named : frame.id = messageID)
      (outbox : next.outbox = c.outbox.insert messageID frame) (sent : result = .ok [.sendFrame frame])
  | acked (messageID : Bytes) (entry : Envelope) (other : ∀ id content, call ≠ .enqueueSend id content)
      (pending : c.outbox.lookup messageID = some entry) (outbox : next.outbox = c.outbox.erase messageID)
      (reported : result = .ok [.acked messageID])
  | abandoned (abandons : Abandoned c call next) (unacked : ∀ id, .acked id ∉ resultActions result)
      (unsent : ∀ frame, .sendFrame frame ∉ resultActions result)

section Steps
variable {c next : Client} {now : Int} {call : Call} {result : Except Err (List Action)}

private def Aside (actions : List Action) : Prop :=
  ∀ action ∈ actions, (∀ id, action ≠ .acked id) ∧ ∀ frame, action = .sendFrame frame → frame.type ≠ .send

private theorem OutboxStep.aside (other : ∀ id content, call ≠ .enqueueSend id content) (outbox : next.outbox = c.outbox)
    (aside : Aside (resultActions result)) : OutboxStep c call next result :=
  .kept outbox (fun id content same => absurd same (other id content)) (fun id member => (aside _ member).1 id rfl)
    (fun frame member send => absurd send ((aside _ member).2 frame rfl))

private theorem aside_state {actions : List Action}
    (changes : ∀ action ∈ actions, ∃ object result, action = .stateChanged object result) : Aside actions := by
  intro action member
  obtain ⟨object,result,rfl⟩ := changes action member
  exact ⟨fun _ => by simp,by simp⟩

private theorem aside_append {first second : List Action} (left : Aside first) (right : Aside second) :
    Aside (first++second) := fun action member => (List.mem_append.mp member).elim (left action) (right action)

private theorem aside_events (events : List Envelope) : Aside (events.map Action.deliverEvent) := by
  intro action member
  obtain ⟨event,_,rfl⟩ := List.mem_map.mp member
  exact ⟨fun _ => by simp,by simp⟩

private theorem aside_error {payload : ErrorPayload} {tail : List Action} (reported : ErrorTail c payload tail) :
    Aside (.protocolError payload::tail) := by
  cases reported <;> simp [Aside]

private theorem commitReplay_outbox (merged : Client) : merged.completeRecovery.outbox = merged.outbox := by
  obtain ⟨lastSeq,eventIDs,same⟩ := commitEvents_frame merged merged.replayBuffer
  rw [Client.completeRecovery,Client.commitReplay,same]
  rfl

private theorem enqueueSend_outbox (messageID content : Bytes) :
    OutboxStep c (.enqueueSend messageID content) (c.enqueueSend messageID content now).1
      (c.enqueueSend messageID content now).2 := by
  have refused (error : Err) : OutboxStep c (.enqueueSend messageID content) (c.refuse error).1 (c.refuse error).2 :=
    .kept rfl (fun _ _ _ => ⟨error,rfl⟩) (by simp [Client.refuse,resultActions]) (by simp [Client.refuse,resultActions])
  unfold Client.enqueueSend
  split
  · exact refused _
  split
  · exact refused _
  split
  · exact refused _
  split
  · exact refused _
  rename_i fresh
  split
  · exact refused _
  simp only []
  split
  · exact refused _
  · exact .enqueued messageID content _ rfl (by simpa using fresh) rfl rfl rfl

private theorem Transition.outbox (transition : Transition c now call next result)
    (other : ∀ id content, call ≠ .enqueueSend id content) : OutboxStep c call next result := by
  cases transition with
  | enqueued messageID content => exact absurd rfl (other messageID content)
  | retried ready =>
    refine .kept rfl (fun id content same => absurd same (other id content)) (fun id member => ?_)
      (fun frame member _ => ?_)
    · obtain ⟨key,_,found⟩ := List.mem_filterMap.mp member
      cases looked : c.outbox.lookup key <;> simp [looked] at found
    · obtain ⟨key,_,found⟩ := List.mem_filterMap.mp member
      cases looked : c.outbox.lookup key with
      | none => simp [looked] at found
      | some entry =>
        simp only [looked,Option.map_some,Option.some.injEq,Action.sendFrame.injEq] at found
        exact ⟨key,found ▸ looked⟩
  | acked generation frame payload entry accepts ack starts decoded pending =>
    exact .acked payload.refID entry other pending rfl rfl
  | errorAbandoned generation frame payload tail accepts error decoded code reported =>
    refine .abandoned ⟨generation,frame,payload,rfl,error,decoded,code,rfl⟩ ?_ ?_ <;> cases reported <;>
      simp [resultActions]
  | established generation frame payload capabilities accepts welcome starts =>
    exact .aside other rfl (by simp [Aside,resultActions])
  | handshaking clientName frame starts fresh hello => exact .aside other rfl (by simp [Aside,resultActions,hello])
  | queried queryID namespace_ objectIDs payload frame ready session query =>
    exact .aside other rfl (by simp [Aside,resultActions,query])
  | pinged pingID frame ready idle ping => exact .aside other rfl (by simp [Aside,resultActions,ping])
  | resumed | gapped => exact .aside other rfl (by simp [Aside,resultActions,Client.resumeFrame])
  | replayed generation frame accepts continues =>
    exact .aside other (commitReplay_outbox _) (aside_append (aside_events _) (by simp [Aside]))
  | snapshotCompleted generation frame payload merged actions accepts completes applied =>
    have changes := applyStateObjects_actions _ _ _ _ applied
    obtain ⟨objects,size,rfl⟩ := applyStateObjects_frame c _ _ _ applied
    exact .aside other (commitReplay_outbox _)
      (aside_append (aside_append (aside_events _) (aside_state changes)) (by simp [Aside]))
  | snapshotApplied generation frame payload merged actions accepts snapshot ready applied
  | updated generation frame payload merged actions accepts update ready applied =>
    have changes := applyStateObjects_actions _ _ _ _ applied
    obtain ⟨objects,size,rfl⟩ := applyStateObjects_frame c _ _ _ applied
    exact .aside other rfl (aside_state changes)
  | errorKept =>
    unfold Client.forgetQuery
    split <;> exact .aside other rfl (by simp [Aside,resultActions])
  | errorDropped generation frame payload tail accepts error reported =>
    exact .aside other rfl (aside_error reported)
  | _ => exact .aside other rfl (by simp [Aside,resultActions,stopActions])

theorem Client.step_outbox (c : Client) (now : Int) (call : Call) :
    OutboxStep c call (c.step now call).1 (c.step now call).2 := by
  cases call with
  | enqueueSend messageID content => exact enqueueSend_outbox messageID content
  | _ => exact (Client.step_transition c now _).outbox (by simp)

end Steps

section Pending
variable {s : ClientStep} {messageID : Bytes}

theorem ClientStep.outbox (s : ClientStep) : OutboxStep s.before s.call s.after s.result :=
  s.before.step_outbox s.now s.call

private theorem abandoned_empty (abandons : s.Abandons) : s.after.outbox = ∅ := by
  obtain ⟨_,_,_,_,_,_,_,same⟩ := abandons
  rw [same]
  rfl

private theorem abandons_other (abandons : s.Abandons) (id content : Bytes) : s.call ≠ .enqueueSend id content := by
  obtain ⟨_,_,_,incoming,_⟩ := abandons
  simp [incoming]

/-- A message is pending after a step when the step accepted it, or it was pending and the
step neither acknowledged it nor abandoned the session. -/
theorem ClientStep.pending_iff (s : ClientStep) (messageID : Bytes) :
    messageID ∈ s.after.outbox ↔
      s.Enqueues messageID ∨ (messageID ∈ s.before.outbox ∧ ¬ s.Acks messageID ∧ ¬ s.Abandons) := by
  by_cases abandons : s.Abandons
  · have unaccepted : ¬ s.Enqueues messageID := fun accepted =>
      accepted.1.elim (fun content => abandons_other abandons messageID content)
    simp [abandoned_empty abandons,abandons,unaccepted]
  cases s.outbox with
  | kept outbox refused unacked sends =>
    have unaccepted : ¬ s.Enqueues messageID := by
      rintro ⟨⟨content,same⟩,actions,ok⟩
      obtain ⟨error,failed⟩ := refused messageID content same
      rw [ok] at failed
      cases failed
    simp [outbox,abandons,unaccepted,ClientStep.Acks,ClientStep.actions,unacked messageID]
  | enqueued id content frame same fresh named outbox sent =>
    have unacked : ¬ s.Acks messageID := by simp [ClientStep.Acks,ClientStep.actions,sent,resultActions]
    rw [outbox]
    by_cases this' : messageID = id
    · subst this'
      simp [ClientStep.Enqueues,same,sent]
    · have unaccepted : ¬ s.Enqueues messageID := by
        rintro ⟨⟨_,other⟩,_⟩
        rw [same] at other
        cases other
        exact this' rfl
      simp [this',unaccepted,unacked,abandons]
  | acked id entry other pending outbox reported =>
    have unaccepted : ¬ s.Enqueues messageID := fun accepted => accepted.1.elim (fun content => other messageID content)
    have acks : s.Acks messageID ↔ messageID = id := by
      simp [ClientStep.Acks,ClientStep.actions,reported,resultActions]
    rw [outbox,AList.mem_erase]
    simp [unaccepted,acks,abandons,and_comm]
  | abandoned abandoned' => exact absurd abandoned' abandons

theorem ClientStep.entry_kept {entry : Envelope} (pending : s.before.outbox.lookup messageID = some entry)
    (unacked : ¬ s.Acks messageID) (stays : ¬ s.Abandons) : s.after.outbox.lookup messageID = some entry := by
  cases s.outbox with
  | kept outbox =>
    rw [outbox]
    exact pending
  | enqueued id content frame same fresh named outbox sent =>
    have other : messageID ≠ id := by
      rintro rfl
      rw [fresh] at pending
      cases pending
    rw [outbox,AList.lookup_insert_ne other]
    exact pending
  | acked id other' _ _ outbox reported =>
    have other : messageID ≠ id := by
      rintro rfl
      simp [ClientStep.Acks,ClientStep.actions,reported,resultActions] at unacked
    rw [outbox,AList.lookup_erase_ne other]
    exact pending
  | abandoned abandoned' => exact absurd abandoned' stays

/-- The envelope a step sends for a message that is pending before it is the one of the outbox. -/
theorem ClientStep.sends_entry {entry frame : Envelope} (formed : s.before.WellFormed)
    (pending : s.before.outbox.lookup messageID = some entry) (sent : .sendFrame frame ∈ s.actions)
    (send : frame.type = .send) (named : frame.id = messageID) : frame = entry := by
  cases s.outbox with
  | kept _ _ _ sends =>
    obtain ⟨id,found⟩ := sends frame sent send
    rw [(formed.outbox id frame found).1.symm.trans named,pending] at found
    exact (Option.some.inj found).symm
  | enqueued id content accepted same fresh name outbox result =>
    simp only [ClientStep.actions,result,resultActions,List.mem_singleton,Action.sendFrame.injEq] at sent
    subst sent
    rw [← name,named,pending] at fresh
    cases fresh
  | acked _ _ _ _ _ reported => simp [ClientStep.actions,reported,resultActions] at sent
  | abandoned _ _ unsent => exact absurd sent (unsent frame)

theorem ClientStep.accepted_entry (accepted : s.Enqueues messageID) :
    ∃ entry, s.actions = [.sendFrame entry] ∧ s.after.outbox.lookup messageID = some entry := by
  obtain ⟨⟨content,call⟩,actions,ok⟩ := accepted
  cases s.outbox with
  | kept _ refused =>
    obtain ⟨error,failed⟩ := refused messageID content call
    rw [ok] at failed
    cases failed
  | enqueued id _ frame same _ _ outbox sent =>
    rw [call] at same
    cases same
    exact ⟨frame,by rw [ClientStep.actions,sent]; rfl,by rw [outbox,AList.lookup_insert]⟩
  | acked _ _ other => exact absurd call (other messageID content)
  | abandoned abandons => exact absurd call (abandons_other abandons messageID content)

/-- A step acknowledges a message once, and only one that is pending. -/
theorem ClientStep.acks_pending (s : ClientStep) (messageID : Bytes) :
    s.actions.count (.acked messageID) ≤ if messageID ∈ s.before.outbox then 1 else 0 := by
  have unmarked (unacked : .acked messageID ∉ s.actions) :
      s.actions.count (.acked messageID) ≤ if messageID ∈ s.before.outbox then 1 else 0 := by
    rw [List.count_eq_zero_of_not_mem unacked]
    exact Nat.zero_le _
  cases s.outbox with
  | kept _ _ unacked => exact unmarked (unacked messageID)
  | enqueued _ _ _ _ _ _ _ sent => exact unmarked (by simp [ClientStep.actions,sent,resultActions])
  | acked id entry other pending outbox reported =>
    by_cases same : messageID = id
    · subst same
      have member : messageID ∈ s.before.outbox := AList.lookup_isSome.mp (by simp [pending])
      simp [ClientStep.actions,reported,resultActions,member]
    · exact unmarked (by simp [ClientStep.actions,reported,resultActions,same])
  | abandoned _ unacked => exact unmarked (unacked messageID)

end Pending

def Chained : Client → List ClientStep → Prop
  | _, [] => True
  | c, s::rest => s.before = c ∧ Chained s.after rest

section Runs
variable {c : Client} {messageID : Bytes}

theorem Client.steps_chained (c : Client) (calls : List (Int × Call)) : Chained c (c.steps calls) := by
  induction calls generalizing c with
  | nil => trivial
  | cons call calls ih => exact ⟨rfl,ih _⟩

theorem Client.steps_formed (c : Client) (formed : c.WellFormed) (bytes : 0 ≤ c.config.maxReplayBytes)
    (calls : List (Int × Call)) : ∀ s ∈ c.steps calls, s.before.WellFormed := by
  induction calls generalizing c with
  | nil => simp [Client.steps]
  | cons call calls ih =>
    have transition := Client.step_transition c call.1 call.2
    intro s member
    rcases List.mem_cons.mp member with rfl | member
    · exact formed
    · refine ih _ (transition.wellFormed formed bytes) ?_ s member
      rw [transition.config]
      exact bytes

theorem Client.steps_snoc (c : Client) (calls : List (Int × Call)) (call : Int × Call) :
    c.steps (calls++[call]) = c.steps calls ++ [⟨c.run calls,call.1,call.2⟩] := by
  induction calls generalizing c with
  | nil => rfl
  | cons first calls ih => exact congrArg (_::·) (ih _)

theorem Chained.drop {earlier later : List ClientStep} {s : ClientStep} (chained : Chained c (earlier ++ s::later)) :
    Chained s.after later := by
  induction earlier generalizing c with
  | nil => exact chained.2
  | cons first earlier ih => exact ih chained.2

theorem Chained.take {earlier later : List ClientStep} (chained : Chained c (earlier++later)) : Chained c earlier := by
  induction earlier generalizing c with
  | nil => trivial
  | cons s earlier ih => exact ⟨chained.1,ih chained.2⟩

theorem Chained.entry {middle later : List ClientStep} {t : ClientStep} {entry : Envelope}
    (chained : Chained c (middle ++ t::later)) (unsettled : Unsettled messageID middle)
    (pending : c.outbox.lookup messageID = some entry) : t.before.outbox.lookup messageID = some entry := by
  induction middle generalizing c with
  | nil =>
    rw [chained.1]
    exact pending
  | cons s middle ih =>
    obtain ⟨unacked,stays⟩ := unsettled s (List.mem_cons_self ..)
    refine ih chained.2 (fun u member => unsettled u (List.mem_cons_of_mem _ member)) ?_
    exact s.entry_kept (chained.1 ▸ pending) unacked stays

/-- Without a new EnqueueSend a message is acknowledged as often as it is pending. -/
theorem Chained.acks {steps : List ClientStep} (chained : Chained c steps)
    (unaccepted : ∀ s ∈ steps, ¬ s.Enqueues messageID) :
    (steps.flatMap ClientStep.actions).count (.acked messageID) ≤ if messageID ∈ c.outbox then 1 else 0 := by
  induction steps generalizing c with
  | nil => exact Nat.zero_le _
  | cons s steps ih =>
    have here := s.acks_pending messageID
    have later := ih chained.2 (fun t member => unaccepted t (List.mem_cons_of_mem _ member))
    have pending := s.pending_iff messageID
    have fresh := unaccepted s (List.mem_cons_self ..)
    rw [chained.1] at here pending
    rw [List.flatMap_cons,List.count_append]
    by_cases acks : s.Acks messageID
    · have gone : messageID ∉ s.after.outbox := by simp [pending,fresh,acks]
      rw [if_neg gone] at later
      omega
    · have silent : s.actions.count (.acked messageID) = 0 := List.count_eq_zero_of_not_mem acks
      by_cases inside : messageID ∈ s.after.outbox
      · have before : messageID ∈ c.outbox := ((pending.mp inside).resolve_left fresh).1
        rw [if_pos inside] at later
        rw [if_pos before]
        omega
      · rw [if_neg inside] at later
        omega

theorem Client.run_pending (c : Client) (empty : c.outbox = ∅) (calls : List (Int × Call)) (messageID : Bytes) :
    messageID ∈ (c.run calls).outbox ↔ ∃ earlier s later, c.steps calls = earlier ++ s::later ∧
      s.Enqueues messageID ∧ Unsettled messageID later := by
  induction calls using List.reverseRecOn with
  | nil => simp [Client.run,Client.steps,empty]
  | append_singleton calls call ih =>
    have last : c.run (calls++[call]) = (⟨c.run calls,call.1,call.2⟩ : ClientStep).after := by
      simp [Client.run,ClientStep.after]
    rw [last,ClientStep.pending_iff,ih,Client.steps_snoc]
    constructor
    · rintro (accepted | ⟨⟨earlier,s,later,split,accepted,unsettled⟩,stays⟩)
      · exact ⟨_,_,[],rfl,accepted,by simp [Unsettled]⟩
      · refine ⟨earlier,s,later++[⟨c.run calls,call.1,call.2⟩],by simp [split],accepted,fun t member => ?_⟩
        rcases List.mem_append.mp member with old | new
        · exact unsettled t old
        · cases List.mem_singleton.mp new
          exact stays
    · rintro ⟨earlier,s,later,split,accepted,unsettled⟩
      rcases List.eq_nil_or_concat later with rfl | ⟨init,t,rfl⟩
      · obtain ⟨_,one⟩ := List.append_inj' split rfl
        cases one
        exact .inl accepted
      · have moved : c.steps calls ++ [⟨c.run calls,call.1,call.2⟩] = (earlier ++ s::init) ++ [t] := by
          simpa using split
        obtain ⟨before,one⟩ := List.append_inj' moved rfl
        cases one
        exact .inr ⟨⟨earlier,s,init,before,accepted,fun u member => unsettled u (by simp [member])⟩,
          unsettled _ (by simp)⟩

/-- RetryPending sends every pending message once, in the order of the identifiers. -/
theorem Client.retryPending_frames (formed : c.WellFormed) (ready : c.state = .ready) :
    ∃ frames : List Envelope, c.retryPending = (c,.ok (frames.map Action.sendFrame)) ∧
      (frames.map (·.id)).Pairwise (· < ·) ∧ (∀ id, id ∈ frames.map (·.id) ↔ id ∈ c.outbox) ∧
      ∀ frame ∈ frames, c.outbox.lookup frame.id = some frame := by
  have found (id : Bytes) (member : id ∈ sortStrings c.outbox.keys) : ∃ frame, c.outbox.lookup id = some frame := by
    have key : id ∈ c.outbox.keys := (List.mem_insertionSort _).mp member
    exact Option.isSome_iff_exists.mp (AList.lookup_isSome.mpr (AList.mem_keys.mpr key))
  have ids : ((sortStrings c.outbox.keys).filterMap c.outbox.lookup).map (·.id) = sortStrings c.outbox.keys := by
    generalize sortStrings c.outbox.keys = keys at found
    induction keys with
    | nil => rfl
    | cons id keys ih =>
      obtain ⟨frame,looked⟩ := found id (List.mem_cons_self ..)
      have named := (formed.outbox id frame looked).1
      have rest := ih (fun id member => found id (List.mem_cons_of_mem _ member))
      simp only [List.filterMap_cons,looked,List.map_cons,named,rest]
  refine ⟨(sortStrings c.outbox.keys).filterMap c.outbox.lookup,?_,?_,?_,?_⟩
  · simp [Client.retryPending,ready,Client.reply,List.map_filterMap]
  · rw [ids]
    have sorted : (sortStrings c.outbox.keys).Pairwise (· ≤ ·) := List.pairwise_insertionSort _ _
    have distinct : (sortStrings c.outbox.keys).Nodup := (List.perm_insertionSort _ _).nodup_iff.mpr c.outbox.nodupKeys
    exact (sorted.and distinct).imp (fun both => (List.le_iff_lt_or_eq.mp both.1).resolve_right both.2)
  · intro id
    rw [ids,sortStrings,List.mem_insertionSort,AList.mem_keys]
  · intro frame member
    obtain ⟨id,_,looked⟩ := List.mem_filterMap.mp member
    rw [(formed.outbox id frame looked).1]
    exact looked

end Runs

/-- The outbox loses, alters and acknowledges twice nothing: in every run of a client the
pending messages are those EnqueueSend accepted and neither an ACK nor an abandonment has
settled since; what is sent for a pending message is its one envelope; RetryPending sends
each of them once in ascending order; an accepted message is acknowledged at most once;
and a message leaves the outbox by its ACK or with its session. -/
theorem Client.run_outbox (settings : ClientConfig) (initial : Client) (calls : List (Int × Call))
    (created : newClientProtocol settings = .ok initial) :
    (∀ messageID, messageID ∈ (initial.run calls).outbox ↔ ∃ earlier s later,
      initial.steps calls = earlier ++ s::later ∧ s.Enqueues messageID ∧ Unsettled messageID later) ∧
    (∀ earlier s middle t later messageID frame, initial.steps calls = earlier ++ s::(middle ++ t::later) →
      s.Enqueues messageID → Unsettled messageID middle → .sendFrame frame ∈ t.actions → frame.type = .send →
      frame.id = messageID → s.actions = [.sendFrame frame]) ∧
    (∀ s ∈ initial.steps calls, s.call = .retryPending → s.before.state = .ready → ∃ frames : List Envelope,
      s.result = .ok (frames.map Action.sendFrame) ∧ (frames.map (·.id)).Pairwise (· < ·) ∧
      (∀ id, id ∈ frames.map (·.id) ↔ id ∈ s.before.outbox) ∧
      ∀ frame ∈ frames, s.before.outbox.lookup frame.id = some frame) ∧
    (∀ earlier s middle later messageID, initial.steps calls = earlier ++ s::(middle ++ later) →
      s.Enqueues messageID → (∀ t ∈ middle, ¬ t.Enqueues messageID) →
      ((s::middle).flatMap ClientStep.actions).count (.acked messageID) ≤ 1) ∧
    (∀ s ∈ initial.steps calls, ∀ messageID ∈ s.before.outbox, messageID ∉ s.after.outbox →
      s.Acks messageID ∨ s.Abandons) := by
  obtain ⟨same,bytes,_⟩ := newClientProtocol_fresh settings initial created
  have empty : initial.outbox = ∅ := by rw [same]
  have start := newClientProtocol_wellFormed settings initial created
  have chained := initial.steps_chained calls
  refine ⟨initial.run_pending empty calls,?_,?_,?_,?_⟩
  · intro earlier s middle t later messageID frame split accepted unsettled sent send named
    obtain ⟨entry,reported,stored⟩ := s.accepted_entry accepted
    rw [split] at chained
    have pending := chained.drop.entry unsettled stored
    have formed := initial.steps_formed start bytes calls t (by simp [split])
    rw [reported,ClientStep.sends_entry formed pending sent send named]
  · intro s member retry ready
    obtain ⟨frames,result,facts⟩ := Client.retryPending_frames (initial.steps_formed start bytes calls s member) ready
    refine ⟨frames,?_,facts⟩
    rw [ClientStep.result,retry]
    exact congrArg Prod.snd result
  · intro earlier s middle later messageID split accepted fresh
    obtain ⟨entry,reported,stored⟩ := s.accepted_entry accepted
    rw [split] at chained
    have acks := Chained.acks (chained.drop.take) fresh
    rw [List.flatMap_cons,List.count_append,reported]
    split at acks <;> simp <;> omega
  · intro s _ messageID pending gone
    by_contra neither
    rw [not_or] at neither
    exact gone (s.pending_iff messageID |>.mpr (.inr ⟨pending,neither⟩))

def outboxCalls : List (Int × Call) :=
  let welcome (payload : WelcomePayload) : Envelope :=
    {type := .welcome, sessionID := lit "s", payload := WelcomePayload.marshal payload}
  [(0,.beginConnect),(0,.transportConnected 1),(0,.startSession 1 (lit "app")),
   (0,.handleIncoming 1 (welcome {mode := welcomeModeNew})),(0,.enqueueSend (lit "a") (lit "1")),
   (0,.enqueueSend (lit "b") (lit "2")),
   (0,.handleIncoming 1 {type := .ack, sessionID := lit "s", payload := AckPayload.marshal {refID := lit "a"}}),
   (0,.disconnect 1),(0,.beginConnect),(0,.transportConnected 2),(0,.resume 2),
   (0,.handleIncoming 2 (welcome {mode := welcomeModeResumed, resumeFrom := 1})),(0,.retryPending)]

theorem Client.run_outbox_reconnected :
    newClientProtocol {} = .ok {config := {}} ∧
      (Client.run {config := {}} outboxCalls).outbox.keys = [lit "b"] ∧
      ∃ earlier s later, Client.steps {config := {}} outboxCalls = earlier ++ s::later ∧ s.Enqueues (lit "b") ∧
        Unsettled (lit "b") later := by
  have created : newClientProtocol {} = .ok {config := {}} := rfl
  have pending : (Client.run {config := {}} outboxCalls).outbox.keys = [lit "b"] := by decide +kernel
  have member (c : Client) (keys : c.outbox.keys = [lit "b"]) : lit "b" ∈ c.outbox := by
    rw [AList.mem_keys,keys]
    exact List.mem_singleton_self _
  exact ⟨created,pending,((Client.run_outbox {} {config := {}} outboxCalls created).1 (lit "b")).mp
    (member _ pending)⟩

end Kmtproto
