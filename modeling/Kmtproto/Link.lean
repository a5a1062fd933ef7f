import Kmtproto.ServerEffects
import Kmtproto.ClientInvariant

/-! One client and one server with a link between them. The link may drop, repeat,
delay and reorder frames, but the client is handed only frames that the server has
enqueued. -/
namespace Kmtproto
open Json Interaction

def deliveries (actions : List Action) : List Envelope :=
  actions.filterMap (fun action => match action with
    | .deliverEvent event => some event
    | _ => none)

structure Link where
  server : ServerPool
  client : Client
  actions : List Action := []
  delivered : List Envelope := []

inductive LinkMove where
  | server (move : ServerMove)
  | client (now : Int) (call : Call)

def World.sent (world : World) (frame : Envelope) : Bool := world.queues.any (fun queue => frame ∈ queue.log)

/-- A client call; the events handed over are counted from the start of its session. -/
def Link.call (link : Link) (now : Int) (call : Call) : Link :=
  let outcome := link.client.step now call
  let actions := resultActions outcome.2
  {link with
    client := outcome.1
    actions := link.actions++actions
    delivered := if outcome.1.sessionID = link.client.sessionID then link.delivered ++ deliveries actions else []}

section Run
variable (config : ServerConfig) (reference : Op → Bool)

def Link.step (link : Link) : LinkMove → Option Link
  | .server move => ((serverMachine config reference).step link.server move).map (fun server => {link with server := server})
  | .client now (.handleIncoming generation frame) =>
    if link.server.world.sent frame then some (link.call now (.handleIncoming generation frame)) else none
  | .client now call => some (link.call now call)

def Link.run (link : Link) (moves : List LinkMove) : Option Link := moves.foldlM (Link.step config reference) link

end Run

section Induction
variable {config : ServerConfig} {reference : Op → Bool}

/-- What a client call needs the link to have delivered. -/
def Link.Supplies (link : Link) (call : Call) : Prop :=
  ∀ generation frame, call = .handleIncoming generation frame → ∃ outbound, frame ∈ link.server.world.log outbound

/-- A move of the link is a move of the server or a call that was supplied. -/
theorem Link.step_cases {link next : Link} {move : LinkMove} (stepped : link.step config reference move = some next) :
    (∃ inner server, move = .server inner ∧ (serverMachine config reference).step link.server inner = some server ∧
      next = {link with server := server}) ∨
    (∃ now call, link.Supplies call ∧ next = link.call now call) := by
  cases move with
  | server inner =>
    simp only [Link.step,Option.map_eq_some_iff] at stepped
    obtain ⟨server,moved,rfl⟩ := stepped
    exact .inl ⟨inner,server,rfl,moved,rfl⟩
  | client now call =>
    refine .inr ⟨now,call,?_⟩
    cases call with
    | handleIncoming generation frame =>
      simp only [Link.step] at stepped
      split at stepped
      · rename_i sent
        cases stepped
        refine ⟨?_,rfl⟩
        rintro _ _ ⟨⟩
        obtain ⟨queue,member,inside⟩ := List.any_eq_true.mp sent
        obtain ⟨outbound,found⟩ := List.mem_iff_getElem?.mp member
        exact ⟨outbound,by simpa [World.log,found] using inside⟩
      · cases stepped
    | _ =>
      cases stepped
      exact ⟨by rintro _ _ ⟨⟩,rfl⟩

private theorem Link.run_induction (Holds : Link → Prop) {link next : Link} {moves : List LinkMove}
    (keeps : ∀ link next move, move ∈ moves → Holds link → link.step config reference move = some next → Holds next)
    (start : Holds link) (ran : link.run config reference moves = some next) : Holds next := by
  induction moves generalizing link with
  | nil =>
    cases ran
    exact start
  | cons move moves ih =>
    simp only [Link.run,List.foldlM_cons,Option.bind_eq_bind,Option.bind_eq_some_iff] at ran
    obtain ⟨middle,stepped,rest⟩ := ran
    exact ih (fun link next move member => keeps link next move (List.mem_cons_of_mem _ member))
      (keeps link middle move (List.mem_cons_self ..) start stepped) rest

variable {State : Type} {monitor : Monitor Op Answer State} {post : State → Except Err Unit → Prop}
  {start : ServerCall → State} {Admissible : ServerCall → Prop}
  {Holds : World → List (Nat × Event Op Answer) → List State → Prop}

/-- An invariant of the server carries over to the link, and with it what is kept by calls of
the client and by a longer trace. -/
theorem Link.run_keeps (keeps : Keeps (serverMachine config reference) monitor post start Admissible Holds)
    {Also : Link → Prop}
    (grow : ∀ (link : Link) (server : ServerPool) entries, Also link → server.trace = link.server.trace ++ entries →
      Also {link with server := server})
    (call : ∀ (link : Link) states now call, Also link → Holds link.server.world link.server.trace states →
      link.Supplies call → Also (link.call now call))
    {world : World} {client : Client} {next : Link} {moves : List LinkMove} (holds : Holds world [] [])
    (also : Also {server := {world := world}, client := client})
    (admissible : ∀ task, .server (.spawn task) ∈ moves → Admissible task)
    (ran : Link.run config reference {server := {world := world}, client := client} moves = some next) :
    Also next ∧ ∃ states, Holds next.server.world next.server.trace states := by
  let Sound (link : Link) : Prop := Also link ∧ ∃ states, Aligned monitor post link.server.threads states ∧
    Holds link.server.world link.server.trace states
  have sound : Sound next := by
    refine Link.run_induction Sound ?_ ⟨also,[],.nil,holds⟩ ran
    rintro link next move member ⟨also,states,aligned,holds⟩ stepped
    rcases Link.step_cases stepped with ⟨inner,server,rfl,moved,rfl⟩ | ⟨now,call',supplied,rfl⟩
    · obtain ⟨entries,grown⟩ := Machine.step_trace moved
      obtain ⟨later,kept,still,_⟩ := keeps.step aligned holds (fun task same => admissible task (same ▸ member)) moved
      exact ⟨grow link server entries also grown,later,kept,still⟩
    · exact ⟨call link states now call' also holds supplied,states,aligned,holds⟩
  obtain ⟨also,states,_,holds⟩ := sound
  exact ⟨also,states,holds⟩

end Induction

end Kmtproto
