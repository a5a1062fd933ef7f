import Kmtproto.Store

/-! The contract of the replay store. Over any sequence of appends and prunes a
session's numbering counts its appends, what is retained is the end of what was
appended, and a replay is the range asked for or an error. -/
namespace Kmtproto
open Json

inductive ReplayOp where
  | append (sessionID eventID eventType content : Bytes) (timestamp : Int64)
  | pruneBefore (sessionID : Bytes) (firstAvailableSeq : UInt64)
  deriving DecidableEq, Repr

def MemoryReplayStore.perform (store : MemoryReplayStore) : ReplayOp → MemoryReplayStore × List Envelope
  | .append sessionID eventID eventType content timestamp =>
    let (result,next) := store.append sessionID eventID eventType content timestamp
    (next,result.toOption.toList)
  | .pruneBefore sessionID firstAvailableSeq => (store.pruneBefore sessionID firstAvailableSeq,[])

def MemoryReplayStore.performAll (store : MemoryReplayStore) : List ReplayOp → MemoryReplayStore × List Envelope
  | [] => (store,[])
  | op::ops =>
    let (next,appended) := store.perform op
    let (last,later) := performAll next ops
    (last,appended++later)

def sessionEvents (sessionID : Bytes) (appended : List Envelope) : List Envelope :=
  appended.filter (fun event => event.sessionID = sessionID)

def encodedSize : List Envelope → Option Int
  | [] => some 0
  | event::events => do
    let encoded ← event.marshal
    let others ← encodedSize events
    return encoded.length + others

/-- A list of events numbered on from `base`. -/
def NumberedFrom (base : Nat) (events : List Envelope) : Prop :=
  ∀ i event, events[i]? = some event → event.seq.toNat = base+i+1

structure StreamHolds (history : List Envelope) (stream : ReplayStream) : Prop where
  current : stream.current.toNat = history.length
  ids : stream.ids = history.map (·.id)
  distinct : (history.map (·.id)).Nodup
  numbered : NumberedFrom 0 history
  floor : stream.floor.toNat ≤ history.length+1
  retained : stream.events = history.drop (stream.floor.toNat-1)

section Numbered
variable {base : Nat} {events : List Envelope}

theorem NumberedFrom.head {event : Envelope} (numbered : NumberedFrom base (event::events)) :
    event.seq.toNat = base+1 := numbered 0 event rfl

theorem NumberedFrom.tail {event : Envelope} (numbered : NumberedFrom base (event::events)) :
    NumberedFrom (base+1) events := by
  intro i other placed
  have seq := numbered (i+1) other placed
  omega

theorem NumberedFrom.drop (numbered : NumberedFrom base events) (count : Nat) :
    NumberedFrom (base+count) (events.drop count) := by
  intro i event placed
  rw [List.getElem?_drop] at placed
  have seq := numbered (count+i) event placed
  omega

theorem NumberedFrom.dropWhile (numbered : NumberedFrom base events) (first : UInt64) :
    events.dropWhile (fun event => event.seq < first) = events.drop (first.toNat-1-base) := by
  induction events generalizing base with
  | nil => simp
  | cons event events ih =>
    have seq := numbered.head
    by_cases early : event.seq < first
    · rw [List.dropWhile_cons_of_pos (by simpa using early),ih numbered.tail]
      have bound := UInt64.lt_iff_toNat_lt.mp early
      obtain ⟨count,same⟩ : ∃ count, first.toNat-1-base = count+1 := ⟨first.toNat-1-base-1,by omega⟩
      rw [same,List.drop_succ_cons]
      congr 1
      omega
    · rw [List.dropWhile_cons_of_neg (by simpa using early)]
      have bound := UInt64.le_iff_toNat_le.mp (UInt64.not_lt.mp early)
      rw [show first.toNat-1-base = 0 by omega,List.drop_zero]

private theorem NumberedFrom.upTo (numbered : NumberedFrom base events) {after through : UInt64}
    (start : after.toNat ≤ base) :
    events.filter (fun event => event.seq > after ∧ event.seq ≤ through) = events.take (through.toNat-base) := by
  induction events generalizing base with
  | nil => simp
  | cons event events ih =>
    have seq := numbered.head
    have rest := ih numbered.tail (by omega)
    have later : event.seq > after := UInt64.lt_iff_toNat_lt.mpr (by omega)
    by_cases inside : event.seq ≤ through
    · have bound := UInt64.le_iff_toNat_le.mp inside
      rw [List.filter_cons_of_pos (by simpa using ⟨later,inside⟩),rest,
        show through.toNat-base = through.toNat-(base+1)+1 by omega,List.take_succ_cons]
    · have bound := UInt64.lt_iff_toNat_lt.mp (UInt64.not_le.mp inside)
      rw [List.filter_cons_of_neg (by simpa using fun _ => UInt64.not_le.mp inside),rest,
        show through.toNat-base = 0 by omega,show through.toNat-(base+1) = 0 by omega]
      rfl

/-- The events of a range of a numbered list are a slice of it. -/
theorem NumberedFrom.range (numbered : NumberedFrom base events) {after through : UInt64} (start : base ≤ after.toNat) :
    events.filter (fun event => event.seq > after ∧ event.seq ≤ through) =
      (events.drop (after.toNat-base)).take (through.toNat-after.toNat) := by
  induction events generalizing base with
  | nil => simp
  | cons event events ih =>
    rcases Nat.lt_or_eq_of_le start with early | same
    · have seq := numbered.head
      have before : ¬ event.seq > after := UInt64.not_lt.mpr (UInt64.le_iff_toNat_le.mpr (by omega))
      rw [List.filter_cons_of_neg (by simpa using fun later => absurd later before),ih numbered.tail (by omega),
        show after.toNat-base = after.toNat-(base+1)+1 by omega,List.drop_succ_cons]
    · rw [numbered.upTo (by omega),same,Nat.sub_self,List.drop_zero]

end Numbered

private theorem encodedSize_cons {event : Envelope} {events : List Envelope} {total : Int} :
    encodedSize (event::events) = some total ↔
      ∃ encoded others, event.marshal = some encoded ∧ encodedSize events = some others ∧
        total = encoded.length + others := by
  simp only [encodedSize,bind,Option.bind_eq_some_iff,pure,Option.some.injEq]
  constructor
  · rintro ⟨encoded,marshaled,others,rest,rfl⟩
    exact ⟨encoded,others,marshaled,rest,rfl⟩
  · rintro ⟨encoded,others,marshaled,rest,rfl⟩
    exact ⟨encoded,marshaled,others,rest,rfl⟩

private theorem encodedSize_nonneg {events : List Envelope} {total : Int} (sized : encodedSize events = some total) :
    0 ≤ total := by
  induction events generalizing total with
  | nil =>
    cases sized
    exact Int.le_refl 0
  | cons event events ih =>
    obtain ⟨encoded,others,_,rest,rfl⟩ := encodedSize_cons.mp sized
    have positive := ih rest
    omega

/-- Collecting takes the events of the range and fails when they do not fit the budget. -/
theorem collectReplay_iff {after through : UInt64} {budget : Int} (room : 0 ≤ budget) {stored out : List Envelope} :
    collectReplay after through budget stored = .ok out ↔
      out = stored.filter (fun event => event.seq > after ∧ event.seq ≤ through) ∧
        ∃ total, encodedSize out = some total ∧ total ≤ budget := by
  induction stored generalizing budget out with
  | nil =>
    constructor
    · intro collected
      cases collected
      exact ⟨rfl,0,rfl,room⟩
    · rintro ⟨rfl,_⟩
      rfl
  | cons event events ih =>
    unfold collectReplay
    by_cases inside : event.seq > after ∧ event.seq ≤ through
    · rw [if_pos inside,List.filter_cons_of_pos (by simpa using inside)]
      constructor
      · intro collected
        split at collected
        · cases collected
        rename_i encoded marshaled
        split at collected
        · cases collected
        rename_i fits
        obtain ⟨others,rest,same⟩ := bind_ok collected
        cases same
        obtain ⟨rfl,total,sized,bounded⟩ := (ih (by omega)).mp rest
        exact ⟨rfl,encoded.length+total,encodedSize_cons.mpr ⟨encoded,total,marshaled,sized,rfl⟩,by omega⟩
      · rintro ⟨rfl,total,sized,bounded⟩
        obtain ⟨encoded,others,marshaled,rest,rfl⟩ := encodedSize_cons.mp sized
        have positive := encodedSize_nonneg rest
        have left : 0 ≤ budget-encoded.length := by omega
        have collected := (ih left).mpr ⟨rfl,others,rest,by omega⟩
        simp only [marshaled]
        rw [if_neg (by omega),collected]
        rfl
    · rw [if_neg inside,List.filter_cons_of_neg (by simpa using inside)]
      exact ih room

section Operations
variable {history : List Envelope} {stream : ReplayStream}

private theorem StreamHolds.append (holds : StreamHolds history stream) (event : Envelope)
    (room : stream.current ≠ 18446744073709551615) (seq : event.seq = stream.current+1) (fresh : event.id ∉ stream.ids) :
    StreamHolds (history++[event]) {stream with
      events := stream.events++[event], current := stream.current+1, ids := stream.ids++[event.id]} := by
  have below : stream.current.toNat < 18446744073709551615 := by
    have bound := stream.current.toNat_lt
    have different : stream.current.toNat ≠ 18446744073709551615 := fun same =>
      room (UInt64.toNat_inj.mp same)
    omega
  have next : (stream.current+1).toNat = history.length+1 := by
    rw [UInt64.toNat_add,holds.current]
    have count := holds.current
    simp only [UInt64.reduceToNat]
    omega
  refine ⟨by simpa using next,by simp [holds.ids],?_,fun i other placed => ?_,?_,?_⟩
  · rw [List.map_append,List.nodup_append]
    refine ⟨holds.distinct,by simp,?_⟩
    rintro id known _ same rfl
    rw [List.map_singleton,List.mem_singleton] at same
    rw [holds.ids] at fresh
    exact fresh (same ▸ known)
  · by_cases inside : i < history.length
    · rw [List.getElem?_append_left inside] at placed
      exact holds.numbered i other placed
    · rw [List.getElem?_append_right (by omega)] at placed
      have last : i - history.length = 0 := by
        by_contra more
        rw [List.getElem?_eq_none (by simp; omega)] at placed
        cases placed
      rw [last] at placed
      cases placed
      rw [seq,next]
      omega
  · have bound := holds.floor
    simp only [List.length_append,List.length_singleton]
    omega
  · have bound := holds.floor
    simp only []
    rw [List.drop_append_of_le_length (by omega),holds.retained]

private theorem StreamHolds.prune (holds : StreamHolds history stream) {first : UInt64}
    (bound : first.toNat ≤ history.length+1) :
    StreamHolds history {stream with
      events := stream.events.dropWhile (fun event => event.seq < first)
      floor := if first > stream.floor then first else stream.floor} := by
  have cut : stream.events.dropWhile (fun event => event.seq < first) =
      history.drop (stream.floor.toNat-1 + (first.toNat-1-(0+(stream.floor.toNat-1)))) := by
    rw [holds.retained,(holds.numbered.drop _).dropWhile,List.drop_drop]
  refine ⟨holds.current,holds.ids,holds.distinct,holds.numbered,?_,?_⟩
  · simp only []
    split
    · exact bound
    · exact holds.floor
  · simp only []
    rw [cut]
    congr 1
    split
    · rename_i above
      have order := UInt64.lt_iff_toNat_lt.mp above
      omega
    · rename_i below
      have order := UInt64.le_iff_toNat_le.mp (UInt64.not_lt.mp below)
      omega

end Operations

def StoreHolds (store : MemoryReplayStore) (appended : List Envelope) : Prop :=
  ∀ sessionID, StreamHolds (sessionEvents sessionID appended) (store.stream sessionID)

private theorem StoreHolds.empty : StoreHolds ∅ [] := by
  intro sessionID
  have nothing : NumberedFrom 0 (sessionEvents sessionID []) := by
    intro i event placed
    cases placed
  exact ⟨rfl,rfl,List.nodup_nil,nothing,Nat.zero_le _,rfl⟩

private theorem sessionEvents_append (sessionID : Bytes) (first second : List Envelope) :
    sessionEvents sessionID (first++second) = sessionEvents sessionID first ++ sessionEvents sessionID second :=
  List.filter_append ..

section Runs
variable {store : MemoryReplayStore} {appended : List Envelope}

private theorem prune_bound {current firstAvailableSeq : UInt64} :
    (if current ≠ 18446744073709551615 ∧ firstAvailableSeq > current+1 then current+1 else firstAvailableSeq).toNat ≤
      current.toNat+1 := by
  have bound := firstAvailableSeq.toNat_lt
  split
  · rename_i beyond
    rw [UInt64.toNat_add]
    simp only [UInt64.reduceToNat]
    omega
  · rename_i within
    rw [not_and] at within
    by_cases full : current = 18446744073709551615
    · subst full
      simp only [UInt64.reduceToNat]
      omega
    · have order := UInt64.le_iff_toNat_le.mp (UInt64.not_lt.mp (within full))
      rw [UInt64.toNat_add] at order
      simp only [UInt64.reduceToNat] at order
      omega

private theorem StoreHolds.append (holds : StoreHolds store appended) {sessionID eventID eventType content : Bytes}
    {timestamp : Int64} {event : Envelope} {next : MemoryReplayStore}
    (done : store.append sessionID eventID eventType content timestamp = (.ok event,next)) :
    StoreHolds next (appended++[event]) := by
  have fresh := MemoryReplayStore.append_fresh (congrArg Prod.fst done)
  obtain ⟨room,payload,_,built,rfl⟩ := MemoryReplayStore.append_cases done
  intro other
  rw [sessionEvents_append]
  by_cases same : other = sessionID
  · subst same
    have listed : sessionEvents other [event] = [event] := by simp [sessionEvents,built]
    rw [listed,MemoryReplayStore.stream_insert]
    have joined := (holds other).append event room (by rw [built]) (by rw [built]; exact fresh)
    rw [show event.id = eventID by rw [built]] at joined
    exact joined
  · have unlisted : sessionEvents other [event] = [] := by
      simpa [sessionEvents,built] using fun equal => same equal.symm
    rw [unlisted,List.append_nil,MemoryReplayStore.stream_insert_ne _ _ same]
    exact holds other

private theorem StoreHolds.prune (holds : StoreHolds store appended) (sessionID : Bytes) (firstAvailableSeq : UInt64) :
    StoreHolds (store.pruneBefore sessionID firstAvailableSeq) appended := by
  intro other
  unfold MemoryReplayStore.pruneBefore
  by_cases same : other = sessionID
  · subst same
    simp only [MemoryReplayStore.stream_insert]
    refine (holds other).prune ?_
    rw [← (holds other).current]
    exact prune_bound
  · simp only []
    rw [MemoryReplayStore.stream_insert_ne _ _ same]
    exact holds other

private theorem StoreHolds.perform (holds : StoreHolds store appended) (op : ReplayOp) :
    StoreHolds (store.perform op).1 (appended++(store.perform op).2) := by
  cases op with
  | append sessionID eventID eventType content timestamp =>
    simp only [MemoryReplayStore.perform]
    cases done : (store.append sessionID eventID eventType content timestamp).1 with
    | error error =>
      rw [MemoryReplayStore.append_failed done]
      simpa [Except.toOption] using holds
    | ok event => exact holds.append (Prod.ext done rfl)
  | pruneBefore sessionID firstAvailableSeq =>
    simp only [MemoryReplayStore.perform,List.append_nil]
    exact holds.prune sessionID firstAvailableSeq

private theorem StoreHolds.performAll (holds : StoreHolds store appended) (ops : List ReplayOp) :
    StoreHolds (store.performAll ops).1 (appended++(store.performAll ops).2) := by
  induction ops generalizing store appended with
  | nil => simpa [MemoryReplayStore.performAll] using holds
  | cons op ops ih =>
    have later := ih (holds.perform op)
    rw [List.append_assoc] at later
    exact later

end Runs

structure Available (history : List Envelope) (stream : ReplayStream) (after through : UInt64) (limits : ReplayLimits) :
    Prop where
  floor : stream.floor.toNat-1 ≤ after.toNat
  reached : through ≤ stream.current
  count : through-after ≤ limits.maxEvents
  size : ∃ total, encodedSize ((history.drop after.toNat).take (through.toNat-after.toNat)) = some total ∧
    total ≤ limits.maxBytes

section Replay
variable {store : MemoryReplayStore} {sessionID : Bytes} {history : List Envelope} {after through : UInt64}
  {limits : ReplayLimits}

private theorem below_floor {floor : UInt64} :
    ¬ (floor > 0 ∧ after < floor-1) ↔ floor.toNat-1 ≤ after.toNat := by
  have positive : floor > 0 ↔ 0 < floor.toNat := UInt64.lt_iff_toNat_lt
  have one (zero : 0 < floor.toNat) : 1 ≤ floor := by
    rw [UInt64.le_iff_toNat_le]
    exact zero
  rw [positive,not_and]
  constructor
  · intro kept
    by_cases zero : 0 < floor.toNat
    · have order := UInt64.le_iff_toNat_le.mp (UInt64.not_lt.mp (kept zero))
      rw [UInt64.toNat_sub_of_le _ _ (one zero)] at order
      simpa using order
    · omega
  · intro order zero early
    have less := UInt64.lt_iff_toNat_lt.mp early
    rw [UInt64.toNat_sub_of_le _ _ (one zero)] at less
    simp only [UInt64.reduceToNat] at less
    omega

private theorem slice_length (current : UInt64) (counted : current.toNat = history.length) (order : after ≤ through) :
    ¬ (through > after ∧
        UInt64.ofNat ((history.drop after.toNat).take (through.toNat-after.toNat)).length ≠ through-after) ↔
      (after < through → through ≤ current) := by
  have ordered := UInt64.le_iff_toNat_le.mp order
  have bounded := current.toNat_lt
  have difference : (through-after).toNat = through.toNat-after.toNat := UInt64.toNat_sub_of_le _ _ order
  rw [not_and,not_not]
  refine imp_congr_right (fun early => ?_)
  have less := UInt64.lt_iff_toNat_lt.mp early
  rw [← UInt64.toNat_inj,difference,List.length_take,List.length_drop,UInt64.toNat_ofNat',
    Nat.mod_eq_of_lt (by omega),UInt64.le_iff_toNat_le,counted]
  omega

private theorem StreamHolds.replay_iff (holds : StreamHolds history (store.stream sessionID)) (order : after ≤ through)
    (events : limits.maxEvents ≠ 0) (bytes : 0 < limits.maxBytes) {out : List Envelope} :
    store.replay sessionID after through limits = .ok out ↔
      out = (history.drop after.toNat).take (through.toNat-after.toNat) ∧
        (store.stream sessionID).floor.toNat-1 ≤ after.toNat ∧ through-after ≤ limits.maxEvents ∧
        (∃ total, encodedSize out = some total ∧ total ≤ limits.maxBytes) ∧
        (after < through → through ≤ (store.stream sessionID).current) := by
  have slice (kept : (store.stream sessionID).floor.toNat-1 ≤ after.toNat) :
      (store.stream sessionID).events.filter (fun event => event.seq > after ∧ event.seq ≤ through) =
        (history.drop after.toNat).take (through.toNat-after.toNat) := by
    rw [holds.retained,(holds.numbered.drop _).range (by omega),List.drop_drop]
    congr 2
    omega
  unfold MemoryReplayStore.replay
  simp only []
  rw [if_neg (by rw [not_or,not_or]; exact ⟨events,by omega,UInt64.not_lt.mpr order⟩)]
  by_cases count : through-after ≤ limits.maxEvents
  · rw [if_neg (UInt64.not_lt.mpr count)]
    by_cases kept : (store.stream sessionID).floor.toNat-1 ≤ after.toNat
    · rw [if_neg (below_floor.mpr kept)]
      constructor
      · intro done
        obtain ⟨collected,taken,checked⟩ := bind_ok done
        obtain ⟨rfl,sized⟩ := (collectReplay_iff (by omega)).mp taken
        rw [slice kept] at checked sized
        split at checked
        · cases checked
        · rename_i complete
          cases checked
          exact ⟨rfl,kept,count,sized,(slice_length _ holds.current order).mp complete⟩
      · rintro ⟨rfl,_,_,sized,reached⟩
        rw [(collectReplay_iff (by omega)).mpr ⟨(slice kept).symm,sized⟩]
        show (if _ then _ else _) = _
        rw [if_neg ((slice_length _ holds.current order).mpr reached)]
    · rw [if_pos (by rw [← not_not (a := _ ∧ _),below_floor]; exact kept)]
      refine ⟨fun failed => ?_,fun asked => absurd asked.2.1 kept⟩
      cases failed
  · rw [if_pos (UInt64.not_le.mp count)]
    refine ⟨fun failed => ?_,fun asked => absurd asked.2.2.1 count⟩
    cases failed

end Replay

/-- After any operations: a stream numbers its appends and retains their end, later operations only raise the
numbering, an append takes the next number and an unused id or changes nothing, and a replay is the range asked
for, exactly when it is available. -/
theorem replay_store_contract (ops : List ReplayOp) (store : MemoryReplayStore) (appended : List Envelope)
    (ran : MemoryReplayStore.performAll ∅ ops = (store,appended)) (sessionID : Bytes) (history : List Envelope)
    (recorded : history = sessionEvents sessionID appended) :
    StreamHolds history (store.stream sessionID) ∧
      (∀ later, store.currentSeq sessionID ≤ (store.performAll later).1.currentSeq sessionID) ∧
      (∀ eventID eventType content timestamp event next,
        store.append sessionID eventID eventType content timestamp = (.ok event,next) →
          event.id = eventID ∧ eventID ∉ history.map (·.id) ∧ event.seq.toNat = history.length+1 ∧
            next.currentSeq sessionID = event.seq) ∧
      (∀ eventID eventType content timestamp error,
        (store.append sessionID eventID eventType content timestamp).1 = .error error →
          (store.append sessionID eventID eventType content timestamp).2 = store ∧
            store.perform (.append sessionID eventID eventType content timestamp) = (store,[])) ∧
      ∀ after through limits, after ≤ through → limits.maxEvents ≠ 0 → 0 < limits.maxBytes →
        (∀ out, store.replay sessionID after through limits = .ok out →
          out = (history.drop after.toNat).take (through.toNat-after.toNat) ∧
            out.length = through.toNat-after.toNat) ∧
        (Available history (store.stream sessionID) after through limits →
          store.replay sessionID after through limits =
            .ok ((history.drop after.toNat).take (through.toNat-after.toNat))) ∧
        (after < through → ¬ Available history (store.stream sessionID) after through limits →
          ∃ error, store.replay sessionID after through limits = .error error) := by
  have all : StoreHolds store appended := by
    have held := StoreHolds.empty.performAll ops
    rw [ran] at held
    exact held
  subst recorded
  have holds := all sessionID
  refine ⟨holds,fun later => ?_,fun eventID eventType content timestamp event next done => ?_,
    fun eventID eventType content timestamp error failed => ?_,fun after through limits order events bytes => ⟨?_,?_,?_⟩⟩
  · have more := (all.performAll later sessionID).current
    have counted := holds.current
    rw [sessionEvents_append,List.length_append] at more
    rw [UInt64.le_iff_toNat_le,MemoryReplayStore.currentSeq,MemoryReplayStore.currentSeq]
    omega
  · have fresh := MemoryReplayStore.append_fresh (congrArg Prod.fst done)
    rw [holds.ids] at fresh
    have joined := (all.append done sessionID).current
    obtain ⟨_,payload,_,built,inserted⟩ := MemoryReplayStore.append_cases done
    have listed : sessionEvents sessionID [event] = [event] := by simp [sessionEvents,built]
    have numbered : next.currentSeq sessionID = event.seq := by
      rw [inserted,MemoryReplayStore.currentSeq,MemoryReplayStore.stream_insert,built]
    rw [sessionEvents_append,listed,List.length_append] at joined
    refine ⟨by rw [built],fresh,?_,numbered⟩
    rw [← numbered]
    exact joined
  · have same := MemoryReplayStore.append_failed failed
    refine ⟨same,?_⟩
    simp only [MemoryReplayStore.perform]
    rw [failed,same]
    rfl
  · intro out done
    obtain ⟨rfl,_,_,_,reached⟩ := (holds.replay_iff order events bytes).mp done
    refine ⟨rfl,?_⟩
    have counted := holds.current
    rw [List.length_take,List.length_drop]
    rcases UInt64.lt_or_eq_of_le order with early | rfl
    · have bound := UInt64.le_iff_toNat_le.mp (reached early)
      omega
    · omega
  · intro available
    exact (holds.replay_iff order events bytes).mpr
      ⟨rfl,available.floor,available.count,available.size,fun _ => available.reached⟩
  · intro early unavailable
    cases done : store.replay sessionID after through limits with
    | error error => exact ⟨error,rfl⟩
    | ok out =>
      obtain ⟨rfl,floor,count,size,reached⟩ := (holds.replay_iff order events bytes).mp done
      exact absurd ⟨floor,reached early,count,size⟩ unavailable

def prunedOps : List ReplayOp :=
  [.append (lit "s") (lit "a") [] (lit "1") 0,.append (lit "s") (lit "a") [] (lit "2") 0,
   .append (lit "s") (lit "b") [] (lit "3") 0,.pruneBefore (lit "s") 18446744073709551615]

theorem replay_store_contract_pruned :
    ∃ store appended, MemoryReplayStore.performAll ∅ prunedOps = (store,appended) ∧ appended.length = 2 ∧
      StreamHolds (sessionEvents (lit "s") appended) (store.stream (lit "s")) ∧
      (store.stream (lit "s")).events = [] ∧ store.currentSeq (lit "s") = 2 :=
  ⟨_,_,rfl,by decide +kernel,(replay_store_contract prunedOps _ _ rfl (lit "s") _ rfl).1,by decide +kernel,
    by decide +kernel⟩

end Kmtproto
