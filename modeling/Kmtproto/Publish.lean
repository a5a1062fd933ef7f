import Kmtproto.ServerEffects
import Kmtproto.Wire

/-! Publishing an EVENT. The sequence number is consumed before the appended EVENT is
compared with what was asked for, so the publication succeeds exactly for content that
is already in the form the encoder gives it. -/
namespace Kmtproto
open Json Interaction

section Renumbering
variable {config : ServerConfig} {frame : Envelope} {seq : UInt64}

private theorem marshal_renumbered {encoded : Bytes} (positive : seq ≠ 0) (order : seq ≤ frame.seq)
    (marshaled : frame.marshal = some encoded) :
    ∃ shorter, ({frame with seq := seq} : Envelope).marshal = some shorter ∧ shorter.length ≤ encoded.length := by
  have bound := UInt64.le_iff_toNat_le.mp order
  have numbered : frame.seq ≠ 0 := by
    rintro zero
    rw [zero] at bound
    exact positive (UInt64.toNat_inj.mp (by simpa using bound))
  rw [Envelope.marshal_eq] at marshaled ⊢
  obtain ⟨payload,encodedPayload,rfl⟩ := Option.map_eq_some_iff.mp marshaled
  refine ⟨_,Option.map_eq_some_iff.mpr ⟨payload,encodedPayload,rfl⟩,?_⟩
  have refl : ∀ members : List (Bytes × Bytes),
      List.Forall₂ (fun a b => a.1.length ≤ b.1.length ∧ a.2.length ≤ b.2.length) members members := fun members =>
    List.forall₂_same.mpr (fun _ _ => ⟨Nat.le_refl _,Nat.le_refl _⟩)
  apply encodeObject_length_mono
  refine List.rel_append (List.rel_append (List.rel_append (refl _) ?_) (refl _)) (refl _)
  simp only [optional,bne_iff_ne,ne_eq,positive,not_false_eq_true,if_true,numbered]
  exact .cons ⟨Nat.le_refl _,decimal_length_mono bound⟩ .nil

private theorem validates_renumbered (valid : config.validates frame = .ok ()) (event : frame.type = .event)
    (positive : seq ≠ 0) (order : seq ≤ frame.seq) : config.validates {frame with seq := seq} = .ok () := by
  rw [ServerConfig.validates,validateOutboundFrame_eq] at valid ⊢
  obtain ⟨envelope,typed⟩ := validateFrame_parts valid
  have envelope' : validateEnvelope {frame with seq := seq} (normalizeLimits config.limits) = .ok () := by
    unfold validateEnvelope at envelope ⊢
    simp only [] at envelope ⊢
    split at envelope
    · cases envelope
    split at envelope
    · cases envelope
    rename_i version
    obtain ⟨named,envelope⟩ := reject_bind_ok envelope
    obtain ⟨id,envelope⟩ := reject_bind_ok envelope
    obtain ⟨session,envelope⟩ := reject_bind_ok envelope
    obtain ⟨size,envelope⟩ := reject_bind_ok envelope
    cases marshaled : frame.marshal with
    | none =>
      rw [marshaled] at envelope
      cases envelope
    | some encoded =>
      rw [marshaled] at envelope
      obtain ⟨shorter,remarshaled,less⟩ := marshal_renumbered positive order marshaled
      have fits := (reject_ok _ _ _ _).mp envelope
      rw [if_neg version,reject,if_neg named,reject,if_neg id,reject,if_neg session,reject,if_neg size,remarshaled]
      exact (reject_ok _ _ _ _).mpr (by omega)
  have typed' : validateTyped {frame with seq := seq} (normalizeLimits config.limits) config.strictValidation = .ok () := by
    obtain ⟨v,type,id,sessionID,number,timestamp,payload⟩ := frame
    simp only at event
    subst event
    simp only [validateTyped,validateEvent] at typed ⊢
    obtain ⟨_,session,typed⟩ := bind_ok typed
    obtain ⟨named,typed⟩ := reject_bind_ok typed
    rw [show requireSession ⟨v,.event,id,sessionID,seq,timestamp,payload⟩ = .ok () from session,reject,
      if_neg (fun bad => named (bad.imp_right (fun zero => absurd zero positive)))]
    exact typed
  unfold validateFrame
  simp only [envelope']
  exact typed'

end Renumbering

section Payload
variable {config : ServerConfig} {eventType content payload : Bytes}

private theorem event_marshal (marshaled : EventPayload.marshal {eventType := eventType, content := content} = some payload)
    (nonempty : content ≠ []) : ∃ text, compact content = some text ∧ text.length ≤ payload.length := by
  unfold EventPayload.marshal at marshaled
  obtain ⟨text,raw,same⟩ := Option.bind_eq_some_iff.mp marshaled
  cases same
  rw [marshalRaw,if_neg (by simpa using nonempty)] at raw
  have inside : ((lit "content",text) : Bytes × Bytes) ∈
      optional (!eventType.isEmpty) (lit "event_type") (quote eventType) ++ [(lit "content",text)] := by simp
  exact ⟨text,raw,encodeObject_length_member inside⟩

private theorem event_decoded {event : Envelope} (marshaled :
      EventPayload.marshal {eventType := eventType, content := content} = some payload)
    (type : validString eventType = true) (nonempty : content ≠ []) (valid : config.validates event = .ok ())
    (kind : event.type = .event) (carried : event.payload = payload) :
    ∃ text, compact content = some text ∧
      decodePayload readEvent {} payload config.strictValidation = .ok {eventType := eventType, content := text} := by
  rw [ServerConfig.validates,validateOutboundFrame_eq] at valid
  have typed := (validateFrame_parts valid).2
  simp only [validateTyped,kind,validateEvent] at typed
  obtain ⟨_,_,typed⟩ := bind_ok typed
  obtain ⟨_,typed⟩ := reject_bind_ok typed
  obtain ⟨read,decoded,_⟩ := bind_ok typed
  rw [carried] at decoded
  obtain ⟨node,reads⟩ := event_reads marshaled
  obtain ⟨text,raw,rfl⟩ := readEvent_written marshaled type (decodePayload_written reads decoded)
  rw [marshalRaw,if_neg (by simpa using nonempty)] at raw
  exact ⟨text,raw,decoded⟩

private theorem matchesAppend_iff {event : Envelope} {sessionID eventID : Bytes}
    (marshaled : EventPayload.marshal {eventType := eventType, content := content} = some payload)
    (type : validString eventType = true) (nonempty : content ≠ []) (valid : config.validates event = .ok ())
    (kind : event.type = .event) (session : event.sessionID = sessionID) (id : event.id = eventID)
    (carried : event.payload = payload) :
    matchesAppend config event sessionID eventID eventType content = .ok () ↔ compact content = some content := by
  obtain ⟨text,compacted,decoded⟩ := event_decoded marshaled type nonempty valid kind carried
  have same : matchesAppend config event sessionID eventID eventType content = .ok () ↔ text = content := by
    unfold matchesAppend
    rw [valid,carried,decoded]
    show refuseUnless _ _ = _ ↔ _
    simp [refuseUnless,kind,session,id]
  rw [same,compacted,Option.some.injEq]

end Payload

/-- What a publication is answered when its lane is idle, its session lives, the reference store appends and the
queue is open. -/
def PublishAnswers (store : MemoryReplayStore) : Event Op Answer → Prop
  | ⟨.joinLane _,answer⟩ => ∃ ticket, answer = some ticket
  | ⟨.beginLaneCallback _,answer⟩ => answer = true
  | ⟨.lookup _ _,answer⟩ => ∃ state, answer = .ok (some state)
  | ⟨.append sessionID eventID eventType content timestamp,answer⟩ =>
    answer = (store.append sessionID eventID eventType content timestamp).1
  | ⟨.enqueueBatch _ _,answer⟩ => answer = .ok ()
  | _ => True

/-- The EVENT a publication validates before it appends: no number is longer than its. -/
def eventProbe (sessionID eventID payload : Bytes) (now : Int) : Envelope :=
  {type := .event, id := eventID, sessionID := sessionID, seq := 18446744073709551615, timestamp := unixMilli now,
   payload := payload}

section Runs
variable {store : MemoryReplayStore} {sessionID : Bytes} {trace : List (Event Op Answer)}

private theorem invokeCallback_runs {α : Type} {callback : Server (Except Err α)} {result : Except Err α}
    (ran : Runs (invokeCallback sessionID callback) trace result) (answers : ∀ event ∈ trace, PublishAnswers store event) :
    ∃ inner, trace = ⟨.beginLaneCallback sessionID,true⟩::(inner++[⟨.endLaneCallback sessionID,()⟩]) ∧
      Runs callback inner result := by
  unfold invokeCallback at ran
  obtain ⟨entered,rest,rfl,entering⟩ := Runs.ask_split ran
  obtain rfl : entered = true := answers _ List.mem_cons_self
  rw [if_pos rfl] at entering
  obtain ⟨value,inner,last,rfl,called,leaving⟩ := Runs.bind_split entering
  obtain ⟨_,tail,rfl,ended⟩ := Runs.ask_split leaving
  obtain ⟨rfl,rfl⟩ := ended.pure_inv
  exact ⟨inner,rfl,called⟩

private theorem ask_runs {op : Op} {answer : Answer op} (ran : Runs (ask op) trace answer) : trace = [⟨op,answer⟩] := by
  cases ran with
  | call _ _ given _ _ ended =>
    cases ended
    rfl

variable {config : ServerConfig} {eventID eventType content : Bytes} {now : Int} {outbound : Nat}

def appendTrace (sessionID eventID eventType content : Bytes) (now : Int) (state : SessionState) (event : Envelope) :
    List (Event Op Answer) :=
  [⟨.beginLaneCallback sessionID,true⟩,⟨.lookup sessionID now,.ok (some state)⟩,⟨.endLaneCallback sessionID,()⟩,
   ⟨.beginLaneCallback sessionID,true⟩,⟨.append sessionID eventID eventType content (unixMilli now),.ok event⟩,
   ⟨.endLaneCallback sessionID,()⟩]

private theorem appendEvent_runs {reply : Reply} {event : Envelope} {next : MemoryReplayStore}
    (ran : Runs (appendEvent config sessionID eventID eventType content now outbound) trace reply)
    (answers : ∀ event ∈ trace, PublishAnswers store event)
    (appended : store.append sessionID eventID eventType content (unixMilli now) = (.ok event,next))
    (valid : config.validates event = .ok ()) :
    ∃ state, (matchesAppend config event sessionID eventID eventType content = .ok () ∧ reply = ({},.ok ()) ∧
        trace = appendTrace sessionID eventID eventType content now state event ++
          [⟨.enqueueBatch outbound [event],.ok ()⟩]) ∨
      ∃ error, matchesAppend config event sessionID eventID eventType content = .error error ∧
        reply = ({},.error error) ∧ trace = appendTrace sessionID eventID eventType content now state event := by
  unfold appendEvent at ran
  obtain ⟨looked,first,rest,rfl,looking,found⟩ := Runs.bind_split ran
  obtain ⟨inner,rfl,lookup⟩ := invokeCallback_runs looking (fun event member => answers event (List.mem_append_left _ member))
  cases ask_runs lookup
  obtain ⟨state,rfl⟩ : ∃ state, looked = .ok (some state) := answers ⟨.lookup sessionID now,looked⟩ (by simp)
  obtain ⟨stored,second,tail,rfl,storing,checked⟩ := Runs.bind_split found
  obtain ⟨inner,rfl,append⟩ := invokeCallback_runs storing
    (fun event member => answers event (List.mem_append_right _ (List.mem_append_left _ member)))
  cases ask_runs append
  have given : stored = .ok event := by
    have answer : stored = _ := answers ⟨.append sessionID eventID eventType content (unixMilli now),stored⟩ (by simp)
    rw [appended] at answer
    exact answer
  subst given
  refine ⟨state,?_⟩
  cases matched : matchesAppend config event sessionID eventID eventType content with
  | error error =>
    simp only [matched] at checked
    obtain ⟨rfl,rfl⟩ := checked.pure_inv
    exact .inr ⟨error,rfl,rfl,rfl⟩
  | ok =>
    simp only [matched] at checked
    obtain ⟨sent,last,ended,rfl,sending,finished⟩ := Runs.bind_split checked
    obtain ⟨rfl,rfl⟩ := finished.pure_inv
    unfold enqueueFrame at sending
    rw [valid] at sending
    cases ask_runs sending
    obtain rfl : sent = .ok () := answers ⟨.enqueueBatch outbound [event],sent⟩ (by simp)
    exact .inl ⟨rfl,rfl,rfl⟩

private theorem publishEvent_runs {payload : Bytes} {result : Except Err Unit} {event : Envelope}
    {next : MemoryReplayStore}
    (ran : Runs (publishEvent config sessionID eventID eventType content outbound) trace result)
    (answers : ∀ event ∈ trace, PublishAnswers store event) (clock : ∀ answer, ⟨.now,answer⟩ ∈ trace → answer = now)
    (asked : ¬ (sessionID = [] ∨ eventID = [] ∨ !Json.valid content ∨ !validString eventID))
    (sized : ¬ ((eventID.length : Int) > config.limits.maxIDLength ∨
      (sessionID.length : Int) > config.limits.maxSessionIDLength ∨
      (content.length : Int) > config.limits.maxPayloadSize))
    (marshaled : EventPayload.marshal {eventType := eventType, content := content} = some payload)
    (probe : config.validates (eventProbe sessionID eventID payload now) = .ok ())
    (appended : store.append sessionID eventID eventType content (unixMilli now) = (.ok event,next))
    (valid : config.validates event = .ok ()) :
    ∃ ticket state sent, trace =
        [⟨.now,now⟩,⟨.joinLane sessionID,some ticket⟩,⟨.awaitLane sessionID ticket,()⟩] ++
          (appendTrace sessionID eventID eventType content now state event ++ sent) ++ [⟨.leaveLane sessionID ticket,()⟩] ∧
      ((matchesAppend config event sessionID eventID eventType content = .ok () ∧ result = .ok () ∧
          sent = [⟨.enqueueBatch outbound [event],.ok ()⟩]) ∨
        ∃ error failure, matchesAppend config event sessionID eventID eventType content = .error error ∧
          result = .error failure ∧ sent = []) := by
  unfold publishEvent at ran
  rw [if_neg asked,if_neg sized] at ran
  obtain ⟨sampled,rest,rfl,started⟩ := Runs.ask_split ran
  obtain rfl : sampled = now := clock sampled List.mem_cons_self
  rw [marshaled] at started
  rw [eventProbe] at probe
  simp only [probe] at started
  obtain ⟨reply,inner,last,rfl,streamed,ended⟩ := Runs.bind_split started
  obtain ⟨rfl,rfl⟩ := ended.pure_inv
  unfold runStream at streamed
  obtain ⟨joined,rest,rfl,waiting⟩ := Runs.ask_split streamed
  obtain ⟨ticket,rfl⟩ : ∃ ticket, joined = some ticket := answers ⟨.joinLane sessionID,joined⟩ (by simp)
  obtain ⟨_,rest,rfl,running⟩ := Runs.ask_split waiting
  obtain ⟨inside,served,rest,rfl,serving,leaving⟩ := Runs.bind_split running
  obtain ⟨_,rest,rfl,finished⟩ := Runs.ask_split leaving
  obtain ⟨state,⟨matched,rfl,rfl⟩ | ⟨error,matched,rfl,rfl⟩⟩ := appendEvent_runs serving
    (fun event member => answers event (by simp [member])) appended valid
  · obtain ⟨rfl,rfl⟩ := finished.pure_inv
    exact ⟨ticket,state,_,by simp,.inl ⟨matched,rfl,rfl⟩⟩
  · cases error <;>
      (obtain ⟨rfl,rfl⟩ := finished.pure_inv
       exact ⟨ticket,state,[],by simp,.inr ⟨_,_,matched,rfl,rfl⟩⟩)

end Runs

section Publication
variable {config : ServerConfig} {store : MemoryReplayStore} {sessionID eventID eventType content payload : Bytes}
  {now : Int}

private theorem probe_facts (probe : config.validates (eventProbe sessionID eventID payload now) = .ok ()) :
    (sessionID ≠ [] ∧ eventID ≠ [] ∧ validString sessionID = true ∧ validString eventID = true) ∧
      (eventID.length : Int) ≤ (normalizeLimits config.limits).maxIDLength ∧
      (sessionID.length : Int) ≤ (normalizeLimits config.limits).maxSessionIDLength ∧
      (payload.length : Int) ≤ (normalizeLimits config.limits).maxPayloadSize := by
  rw [ServerConfig.validates,validateOutboundFrame_eq] at probe
  obtain ⟨id,session,size,_⟩ := validateFrame_bounded probe
  have typed := (validateFrame_parts probe).2
  simp only [validateTyped,validateEvent] at typed
  obtain ⟨_,supplied,typed⟩ := bind_ok typed
  obtain ⟨named,_⟩ := reject_bind_ok typed
  have present := (reject_ok _ _ _ _).mp supplied
  simp only [validBoundedProtocolString] at id session
  simp at id session present named
  exact ⟨⟨present,named.1,session.1.2,id.1.2⟩,id.1.1,session.1.1,size⟩

private theorem append_probe (type : validString eventType = true) (valid : Json.valid content = true)
    (fresh : eventID ∉ (store.stream sessionID).ids) (room : store.currentSeq sessionID ≠ 18446744073709551615)
    (marshaled : EventPayload.marshal {eventType := eventType, content := content} = some payload)
    (probe : config.validates (eventProbe sessionID eventID payload now) = .ok ()) :
    ∃ event next, store.append sessionID eventID eventType content (unixMilli now) = (.ok event,next) ∧
      event = {type := .event, id := eventID, sessionID := sessionID, seq := store.currentSeq sessionID + 1,
               timestamp := unixMilli now, payload := payload} ∧
      (next.stream sessionID).events = (store.stream sessionID).events ++ [event] ∧
      config.validates event = .ok () := by
  obtain ⟨⟨session,id,sessionText,idText⟩,_⟩ := probe_facts probe
  have positive : store.currentSeq sessionID + 1 ≠ 0 := by
    intro wrapped
    apply room
    have before : store.currentSeq sessionID = 0 - 1 := by rw [← wrapped,UInt64.add_sub_cancel]
    exact before
  let event : Envelope := {eventProbe sessionID eventID payload now with seq := store.currentSeq sessionID + 1}
  refine ⟨event,store.insert sessionID {store.stream sessionID with
    events := (store.stream sessionID).events++[event]
    current := (store.stream sessionID).current + 1
    ids := (store.stream sessionID).ids++[eventID]},?_,rfl,?_,validates_renumbered probe rfl positive (UInt64.le_iff_toNat_le.mpr ?_)⟩
  · unfold MemoryReplayStore.append
    simp only []
    rw [if_neg (by simp [session,id,sessionText,idText,type,valid]),if_neg fresh,
      if_neg (show (store.stream sessionID).current ≠ _ from room),marshaled]
    rfl
  · rw [MemoryReplayStore.stream_insert]
  · have bound := UInt64.toNat_lt (store.currentSeq sessionID + 1)
    show _ ≤ (18446744073709551615 : UInt64).toNat
    simp only [UInt64.reduceToNat]
    omega

def Op.appends : Op → Bool
  | .append .. => true
  | _ => false

def Op.enqueues : Op → Bool
  | .enqueueBatch .. => true
  | _ => false

structure PublishSucceeds (store : MemoryReplayStore) (sessionID eventID eventType content : Bytes) (now : Int) (outbound : Nat)
    (trace : List (Event Op Answer)) (result : Except Err Unit) : Prop where
  returned : result = .ok ()
  stored : ∃ event next, store.append sessionID eventID eventType content (unixMilli now) = (.ok event,next) ∧
    event.seq = store.currentSeq sessionID + 1 ∧
    (next.stream sessionID).events = (store.stream sessionID).events ++ [event] ∧
    trace.filter (fun event => event.1.appends) =
      [⟨.append sessionID eventID eventType content (unixMilli now),.ok event⟩] ∧
    trace.filter (fun event => event.1.enqueues) = [⟨.enqueueBatch outbound [event],.ok ()⟩]

/-- A publication whose probe validates succeeds exactly when its content is in the compact, HTML-escaped form. -/
theorem publishEvent_succeeds_iff {settings : ServerConfig} {deps : ServerDependencies}
    (created : newServerProtocol settings deps = .ok config) {outbound : Nat} {trace : List (Event Op Answer)}
    {result : Except Err Unit} (type : validString eventType = true) (valid : Json.valid content = true)
    (fresh : eventID ∉ (store.stream sessionID).ids) (room : store.currentSeq sessionID ≠ 18446744073709551615)
    (marshaled : EventPayload.marshal {eventType := eventType, content := content} = some payload)
    (probe : config.validates (eventProbe sessionID eventID payload now) = .ok ())
    (ran : Runs (publishEvent config sessionID eventID eventType content outbound) trace result)
    (answers : ∀ event ∈ trace, PublishAnswers store event) (clock : ∀ answer, ⟨.now,answer⟩ ∈ trace → answer = now) :
    PublishSucceeds store sessionID eventID eventType content now outbound trace result ↔ compact content = some content := by
  have normal : normalizeLimits config.limits = config.limits := newServerProtocol_normal created
  obtain ⟨⟨session,id,sessionText,idText⟩,idSize,sessionSize,payloadSize⟩ := probe_facts probe
  rw [normal] at idSize sessionSize payloadSize
  have nonempty : content ≠ [] := by
    rintro rfl
    exact absurd valid (by decide)
  have asked : ¬ (sessionID = [] ∨ eventID = [] ∨ !Json.valid content ∨ !validString eventID) := by
    simp [session,id,valid,idText]
  by_cases sized : (content.length : Int) ≤ config.limits.maxPayloadSize
  · obtain ⟨event,next,appended,built,stored,validEvent⟩ := append_probe type valid fresh room marshaled probe
    obtain ⟨ticket,state,sent,rfl,outcome⟩ := publishEvent_runs ran answers clock asked (by omega) marshaled probe
      appended validEvent
    have matched := matchesAppend_iff marshaled type nonempty validEvent (by rw [built])
      (show event.sessionID = sessionID by rw [built]) (show event.id = eventID by rw [built]) (by rw [built])
    rw [← matched]
    rcases outcome with ⟨ok,rfl,rfl⟩ | ⟨error,failure,refused,rfl,rfl⟩
    · refine ⟨fun _ => ok,fun _ => ⟨rfl,event,next,appended,by rw [built],stored,?_,?_⟩⟩ <;>
        simp [appendTrace,Op.appends,Op.enqueues]
    · refine ⟨fun published => ?_,fun ok => ?_⟩
      · cases published.returned
      · rw [refused] at ok
        cases ok
  · refine ⟨fun published => ?_,fun compacted => ?_⟩
    · unfold publishEvent at ran
      rw [if_neg asked,if_pos (by omega)] at ran
      obtain ⟨rfl,rfl⟩ := ran.pure_inv
      cases published.returned
    · obtain ⟨text,same,short⟩ := event_marshal marshaled nonempty
      rw [compacted] at same
      cases same
      omega

def publishing (store : MemoryReplayStore) : (op : Op) → Answer op
  | .joinLane _ => some 0
  | .beginLaneCallback _ => true
  | .lookup sessionID now => .ok (some {sessionID := sessionID, expiresAt := now + 1, capabilities := .empty})
  | .append sessionID eventID eventType content timestamp =>
    (store.append sessionID eventID eventType content timestamp).1
  | .enqueueBatch _ _ => .ok ()
  | op => working (lit "s") (lit "f") op

private theorem publishing_answers (op : Op) : PublishAnswers store ⟨op,publishing store op⟩ := by
  cases op <;> first | exact ⟨_,rfl⟩ | exact rfl | trivial

theorem publishEvent_succeeds_compact :
    let run := (publishEvent {} (lit "s") (lit "e") (lit "t") (lit "[1]") 0).offered (publishing ∅)
    compact (lit "[1]") = some (lit "[1]") ∧
      PublishSucceeds ∅ (lit "s") (lit "e") (lit "t") (lit "[1]") 0 0 run.1 run.2 := by
  have compacted : compact (lit "[1]") = some (lit "[1]") := by decide +kernel
  have created : newServerProtocol {} {} = .ok {} := rfl
  have fresh : lit "e" ∉ (MemoryReplayStore.stream ∅ (lit "s")).ids := List.not_mem_nil
  have room : MemoryReplayStore.currentSeq ∅ (lit "s") ≠ 18446744073709551615 := by decide +kernel
  have probed : ∃ payload ∈ EventPayload.marshal {eventType := lit "t", content := lit "[1]"},
      ({} : ServerConfig).validates (eventProbe (lit "s") (lit "e") payload 0) = .ok () := by decide +kernel
  obtain ⟨payload,marshaled,probe⟩ := probed
  refine ⟨compacted,(publishEvent_succeeds_iff created (by decide +kernel) (by decide +kernel) fresh room marshaled probe
    (Program.runs_offered _ _) (fun event member => ?_) (fun answer member => ?_)).mpr compacted⟩
  · rw [Program.mem_offered member]
    exact publishing_answers event.1
  · exact eq_of_heq (Sigma.mk.inj (Program.mem_offered member)).2

def failed : Server (Except Err Unit) → Bool
  | .done (.error _) => true
  | _ => false

/-- Content with a blank in it is stored and numbered, then refused: the EVENT is never sent. -/
theorem publishEvent_blank_refused :
    newServerProtocol {} {} = .ok {} ∧ valid (lit "[ 1]") = true ∧ ∃ pool : ServerPool,
    (serverMachine {} (fun _ => true)).run {world := {dedup := {ttl := 1}}}
      (connectMoves ++ .spawn (.publishEvent (lit "s") (lit "e") (lit "t") (lit "[ 1]") 0)::
        turns 2 10 (working (lit "s") (lit "f"))) = some pool ∧
    pool.threads[2]?.map failed = some true ∧ pool.world.replay.currentSeq (lit "s") = 1 ∧
    (pool.world.log 0).map (·.type) = [.welcome] := by
  have facts : ∃ pool ∈ (serverMachine {} (fun _ => true)).run {world := {dedup := {ttl := 1}}}
      (connectMoves ++ .spawn (.publishEvent (lit "s") (lit "e") (lit "t") (lit "[ 1]") 0)::
        turns 2 10 (working (lit "s") (lit "f"))),
      pool.threads[2]?.map failed = some true ∧ pool.world.replay.currentSeq (lit "s") = 1 ∧
      (pool.world.log 0).map (·.type) = [.welcome] := by decide +kernel
  exact ⟨rfl,by decide +kernel,facts⟩

end Publication

end Kmtproto
