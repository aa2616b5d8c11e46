import BeanHarvest.Proofs.Agent.Completing
import BeanHarvest.Proofs.Instance.Repeating

/-! Listing leaves no trace. To list its attributes an instance is started in earnest and then closed;
what is left behind by that is nothing on which a later listing or a later start depends. -/
namespace BeanHarvest

/-- What the targets of the instances answer, by the names of the instances. -/
abbrev Replies := (name : String) → (call : Call) → call.Outcome

namespace Instance

variable {one : Instance} {answer : (call : Call) → call.Outcome}

theorem visitedBy_origin (action : Action) : (one.visitedBy answer action).origin = one.origin := by
  unfold visitedBy initBy startBy
  cases answer .connect with
  | error fault => rfl
  | ok done =>
    dsimp only
    cases (findBeans one.configurations).result answer with
    | error fault => rfl
    | ok beans =>
      dsimp only
      cases (MatchPass.overBeans (one.rules action) {} beans).result answer <;> rfl

/-- An instance without a connection that lists its attributes has to tell what matching them comes to,
and is closed. -/
theorem listWork_comesTo (action : Action) (fresh : one.isConnected = false) (start : Nat) :
    (Agent.listWork action start one).ComesTo answer fun final result =>
      final = one.visitedBy answer action ∧ result = one.toldBy answer action := by
  refine (init_comesTo action false fresh).andThen ?_
  rintro time state result ⟨now, same⟩
  have state_eq : state = (one.initBy answer action now).1 := congrArg Prod.fst same
  have result_eq : result = (one.initBy answer action now).2 := congrArg Prod.snd same
  obtain ⟨_, report, closed, ended⟩ := initBy_undated one answer action now
  refine cleanUp_closes.andThen ?_
  rintro time _ _ rfl
  refine ⟨?_, ?_⟩
  · rw [state_eq]
    exact closed
  · rw [state_eq, result_eq, toldBy, report, ended]

theorem listWork_closes (action : Action) (start : Nat) :
    (Agent.listWork action start one).Meets (fun _ => True) fun final _ => final.Closed := by
  refine Session.meets_andThen fun time state result => Session.meets_of_under ?_
  refine cleanUp_closes.andThen ?_
  rintro time _ _ rfl
  exact closed_isClosed state

theorem cleanUpWork_closes (start : Nat) :
    (Agent.cleanUpWork start one).Meets (fun _ => True) fun final _ => final.Closed := by
  refine Session.meets_of_under (cleanUp_closes.andThen ?_)
  rintro time _ _ rfl
  exact closed_isClosed one

end Instance

namespace Handle

variable {handle : Handle} {replies : Replies} {name : String} {size : Nat}

/-- The handle, told no more of the time at which beans were found than whether they were. -/
def undated (handle : Handle) : Handle := { handle with one := handle.one.undated }

/-- The handle once its instance was started by a crew of so many workers, and what that came to, but
for the time. -/
def startedBy (replies : Replies) (name : String) (size : Nat) (handle : Handle) :
    Handle × Status Unit :=
  let begun := handle.one.initBy (replies handle.name) .collect 0
  if 0 < size then
    ({ handle with one := begun.1.undated, isHeld := false }, begun.2.mapError Failure.ofInstance)
  else (handle.undated, .error (Crew.unstaffed name))

/-- The handle once its instance has listed its attributes, and what it has to list. -/
def listedBy (replies : Replies) (name : String) (size : Nat) (action : Action) (handle : Handle) :
    Handle × Status MatchReport :=
  if 0 < size then
    ({ handle with one := handle.one.visitedBy (replies handle.name) action, isHeld := false },
      (handle.one.toldBy (replies handle.name) action).mapError Failure.ofInstance)
  else (handle, .error (Crew.unstaffed name))

theorem names_of_origins (handles : List Handle) :
    handles.map (·.name) = (handles.map origin).map (·.name) := by
  rw [List.map_map]
  rfl

theorem listedBy_origin (action : Action) :
    (handle.listedBy replies name size action).1.origin = handle.origin := by
  unfold listedBy
  split
  · simp only [Handle.origin, Instance.visitedBy_origin]
  · rfl

/-- What an instance has to list is told by what it is made of. -/
theorem listing_listedBy (action : Action) :
    Agent.listing (handle.origin.listedBy replies name size action) =
      Agent.listing (handle.listedBy replies name size action) := by
  have same : handle.one.origin.origin = handle.one.origin := rfl
  have told : handle.origin.one.toldBy (replies handle.name) action =
      handle.one.toldBy (replies handle.name) action := Instance.toldBy_of_origin same action
  unfold listedBy
  split
  · have named : handle.origin.name = handle.name := rfl
    rw [named, told]
    cases handle.one.toldBy (replies handle.name) action <;> rfl
  · rfl

/-- A closed instance that has listed its attributes starts as it would have done without that. -/
theorem startedBy_listedBy (isClosed : 0 < size → handle.one.Closed) (action : Action) :
    (handle.listedBy replies name size action).1.startedBy replies name size =
      handle.startedBy replies name size := by
  by_cases staffed : 0 < size
  · have same := Instance.initBy_visitedBy (isClosed staffed) (replies handle.name) action 0
    simp only [listedBy, startedBy, staffed, if_true, same]
  · simp only [listedBy, staffed, if_false]

end Handle

namespace Agent

variable {agent between after : Agent} {replies : Replies} {name : String} {size : Nat}
  {action : Action} {listings : List Listing}

/-- How an agent can list at targets that answer alike each time, where every task comes to its end. -/
inductive ListsBy (replies : Replies) (agent : Agent) (action : Action) :
    List Listing → Agent → Prop where
  | mk {statuses : List (Handle × Status MatchReport)} {waited : Agent}
      (deals : agent.beginList.1.Deals (listWork action)
        (fun handle => Turn.CompletesBy (replies handle.name) (listWork action) handle.one)
        agent.beginList.2 statuses waited) :
      ListsBy replies agent action (waited.finishList statuses).2 (waited.finishList statuses).1

/-- How an agent can start its instances at such targets. -/
inductive InitsBy (replies : Replies) (agent : Agent) : Agent → Prop where
  | mk {statuses : List (Handle × Status Unit)} {waited : Agent}
      (deals : agent.beginInit.1.Deals initWork
        (fun handle => Turn.CompletesBy (replies handle.name) initWork handle.one)
        agent.beginInit.2 statuses waited) :
      InitsBy replies agent (waited.finishInit statuses).1

/-- What any number of listings can make of an agent. -/
inductive ListsOften (replies : Replies) (agent : Agent) : Agent → Prop where
  | never : ListsOften replies agent agent
  | again {between after : Agent} {action : Action} {listings : List Listing}
      (before : ListsOften replies agent between)
      (lists : between.ListsBy replies action listings after) : ListsOften replies agent after

/-- An agent whose recovery crew is going, and whose pending instances are closed. -/
structure AtRest (name : String) (size : Nat) (agent : Agent) : Prop where
  serves : agent.recovery.Serves name size
  closed : 0 < size → ∀ handle ∈ agent.pending, handle.one.Closed

theorem listing_exclusive (entry : Handle × Status MatchReport) :
    (listing entry).report.isSome = !(listing entry).error.isSome := by
  obtain ⟨handle, status⟩ := entry
  cases status <;> rfl

theorem listing_name (entry : Handle × Status MatchReport) : (listing entry).name = entry.1.name := by
  obtain ⟨handle, status⟩ := entry
  cases status <;> rfl

/-- Every pending instance has its listing, in the order of the instances, and takes its place again. -/
theorem ListsBy.inv (lists : agent.ListsBy replies action listings after)
    (atRest : agent.AtRest name size) :
    listings = agent.pending.map (fun handle => listing (handle.listedBy replies name size action)) ∧
      ∃ recovery : Crew, recovery.Serves name size ∧ after = { agent with
        pending := agent.pending.map fun handle => (handle.listedBy replies name size action).1
        recovery } := by
  cases lists with
  | @mk statuses waited deals =>
    obtain ⟨recovery, serves, rfl⟩ := deals.serves atRest.serves.ensureHealthy
    have known : statuses.map id = agent.pending.map (Handle.listedBy replies name size action) := by
      refine deals.reads atRest.serves rfl id ?_ ?_
      · intro staffed handle pending turn completes
        have fresh := (atRest.closed staffed handle pending).unconnected
        obtain ⟨_, _, rfl, rfl, rfl⟩ := completes.comesTo (Instance.listWork_comesTo action fresh)
        simp only [Handle.listedBy, staffed, if_true, Status.ofEnding_completed]
        rfl
      · intro bare handle
        simp only [Handle.listedBy, bare, Nat.lt_irrefl, if_false, id]
    rw [List.map_id] at known
    subst known
    refine ⟨List.map_map, recovery, serves, ?_⟩
    simp only [finishList, List.map_map]
    rfl

theorem ListsBy.names (lists : agent.ListsBy replies action listings after)
    (atRest : agent.AtRest name size) : listings.map (·.name) = agent.pending.map (·.name) := by
  rw [(lists.inv atRest).1, List.map_map]
  refine List.map_congr_left fun handle _ => (listing_name _).trans ?_
  exact Handle.name_eq_of_origin (Handle.listedBy_origin action)

theorem ListsBy.exclusive (lists : agent.ListsBy replies action listings after)
    (atRest : agent.AtRest name size) {told : Listing} (member : told ∈ listings) :
    told.report.isSome = !told.error.isSome := by
  rw [(lists.inv atRest).1] at member
  obtain ⟨handle, _, rfl⟩ := List.mem_map.mp member
  exact listing_exclusive _

/-- Where an agent is as another one to all that can be asked of the two next, as far as their pending
instances go. -/
structure Resembles (replies : Replies) (name : String) (size : Nat) (agent other : Agent) : Prop where
  atRest : other.AtRest name size
  active : other.active = agent.active
  broken : other.broken = agent.broken
  origins : other.pending.map Handle.origin = agent.pending.map Handle.origin
  starts : other.pending.map (Handle.startedBy replies name size) =
    agent.pending.map (Handle.startedBy replies name size)

theorem AtRest.resembles (atRest : agent.AtRest name size) :
    agent.Resembles replies name size agent := ⟨atRest, rfl, rfl, rfl, rfl⟩

theorem Resembles.lists (resembles : agent.Resembles replies name size between)
    (lists : between.ListsBy replies action listings after) :
    agent.Resembles replies name size after := by
  obtain ⟨_, recovery, serves, rfl⟩ := lists.inv resembles.atRest
  refine ⟨⟨serves, ?_⟩, resembles.active, resembles.broken, ?_, ?_⟩
  · intro staffed handle pending
    obtain ⟨first, _, rfl⟩ := List.mem_map.mp pending
    rw [Handle.listedBy, if_pos staffed]
    exact Instance.closed_isClosed _
  · rw [← resembles.origins, List.map_map]
    exact List.map_congr_left fun handle _ => Handle.listedBy_origin action
  · rw [← resembles.starts, List.map_map]
    refine List.map_congr_left fun handle pending => Handle.startedBy_listedBy ?_ action
    exact fun staffed => resembles.atRest.closed staffed handle pending

theorem ListsOften.resembles (often : agent.ListsOften replies after)
    (atRest : agent.AtRest name size) : agent.Resembles replies name size after := by
  induction often with
  | never => exact atRest.resembles
  | again _ lists ih => exact ih.lists lists

theorem Resembles.listings_eq {other later : Agent} {others : List Listing}
    (atRest : agent.AtRest name size) (resembles : agent.Resembles replies name size other)
    (lists : agent.ListsBy replies action listings after)
    (again : other.ListsBy replies action others later) : others = listings := by
  have told (agent : Agent) :
      agent.pending.map (fun handle => listing (handle.listedBy replies name size action)) =
        (agent.pending.map Handle.origin).map fun handle =>
          listing (handle.listedBy replies name size action) := by
    rw [List.map_map]
    exact List.map_congr_left fun handle _ => (Handle.listing_listedBy action).symm
  rw [(lists.inv atRest).1, (again.inv resembles.atRest).1, told, told, resembles.origins]

theorem succeeded_map {α : Type} (change : Handle → Handle) (batch : List (Handle × Status α)) :
    (succeeded batch).map change = succeeded (batch.map fun entry => (change entry.1, entry.2)) := by
  simp only [succeeded, List.filter_map, List.map_map]
  rfl

theorem failed_map {α : Type} (change : Handle → Handle) (batch : List (Handle × Status α)) :
    (failed batch).map change = failed (batch.map fun entry => (change entry.1, entry.2)) := by
  simp only [failed, List.filter_map, List.map_map]
  rfl

theorem InitsBy.inv (inits : agent.InitsBy replies after) (atRest : agent.AtRest name size) :
    let started := agent.pending.map (Handle.startedBy replies name size)
    after.active.map Handle.undated = agent.active.map Handle.undated ++ succeeded started ∧
      after.broken.map Handle.undated = agent.broken.map Handle.undated ++ failed started := by
  intro started
  cases inits with
  | @mk statuses waited deals =>
    obtain ⟨recovery, serves, rfl⟩ := deals.serves atRest.serves.ensureHealthy
    have known : statuses.map (fun entry => (entry.1.undated, entry.2)) = started := by
      refine deals.reads atRest.serves rfl _ ?_ ?_
      · intro staffed handle pending turn completes
        have fresh := (atRest.closed staffed handle pending).unconnected
        have comes (start : Nat) : (initWork start handle.one).ComesTo (replies handle.name) _ :=
          Instance.init_comesTo .collect false fresh
        obtain ⟨final, result, rfl, now, same⟩ := completes.comesTo comes
        obtain ⟨undated, _, _, ended⟩ :=
          Instance.initBy_undated handle.one (replies handle.name) .collect now
        rw [← same] at undated ended
        simp only [Handle.startedBy, staffed, if_true, Status.ofEnding_completed, Handle.undated,
          Handle.afterTurn, ← undated, ← ended]
      · intro bare handle
        simp only [Handle.startedBy, bare, Nat.lt_irrefl, if_false]
    simp only [finishInit, refreshHealth, List.map_append, succeeded_map, failed_map, known]
    exact ⟨rfl, rfl⟩

/-- How an agent can answer a call where nobody stops its recovery crew, and whatever lists or closes an
instance comes to its end. -/
inductive Heeds (agent : Agent) : AgentCall → Agent → Prop where
  | init {statuses : List (Handle × Status Unit)} {waited : Agent}
      (deals : agent.beginInit.1.Deals initWork (fun _ _ => True) agent.beginInit.2 statuses waited) :
      Heeds agent .init (waited.finishInit statuses).1
  | iterate {after : Agent} (answered : agent.Answers .iterate after) : Heeds agent .iterate after
  | nothingToRecover (empty : agent.broken = []) : Heeds agent .recover agent
  | recover (shuffle : List Handle → List Handle)
      (shuffled : (shuffle agent.broken).Perm agent.broken)
      {statuses : List (Handle × Status Unit)} {waited : Agent}
      (deals : (agent.beginRecovery shuffle).1.Deals recoveryWork (fun _ _ => True)
        (agent.beginRecovery shuffle).2 statuses waited) :
      Heeds agent .recover (waited.finishRecovery statuses).1
  | cleanUp {statuses : List (Handle × Status Unit)} {waited : Agent}
      (deals : agent.beginCleanUp.1.Deals cleanUpWork (fun _ => Turn.Completes) agent.beginCleanUp.2
        statuses waited) :
      Heeds agent .cleanUp (waited.finishCleanUp statuses)
  | list (action : Action) {statuses : List (Handle × Status MatchReport)} {waited : Agent}
      (deals : agent.beginList.1.Deals (listWork action) (fun _ => Turn.Completes) agent.beginList.2
        statuses waited) :
      Heeds agent (.list action) (waited.finishList statuses).1

/-- Runs in which every call is answered like that. -/
inductive Orderly (engine : Pattern.Engine) (settings : Settings) : List AgentCall → Agent → Prop where
  | start : Orderly engine settings [] (ofSettings engine settings)
  | call {calls : List AgentCall} {agent after : Agent} {call : AgentCall}
      (orderly : Orderly engine settings calls agent) (heeded : agent.Heeds call after) :
      Orderly engine settings (calls ++ [call]) after
  | idle {calls : List AgentCall} {agent after : Agent} (orderly : Orderly engine settings calls agent)
      (idled : agent.Idles after) : Orderly engine settings calls after

theorem Heeds.answers {call : AgentCall} (heeded : agent.Heeds call after) :
    agent.Answers call after := by
  cases heeded with
  | init deals => exact .init deals.recovers
  | iterate answered => exact answered
  | nothingToRecover empty => exact .nothingToRecover empty
  | recover shuffle shuffled deals => exact .recover shuffle shuffled deals.recovers
  | cleanUp deals => exact .cleanUp deals.recovers
  | list action deals => exact .list action deals.recovers

variable {engine : Pattern.Engine} {settings : Settings} {calls : List AgentCall}

theorem Orderly.run (orderly : Orderly engine settings calls agent) :
    Run engine settings calls agent := by
  induction orderly with
  | start => exact .start
  | call _ heeded ih => exact ih.call heeded.answers
  | idle _ idled ih => exact ih.idle idled

/-- Batches that close their instances leave them closed, if there are workers to do it. -/
theorem Deals.closes {α : Type} {work : Operation Instance (Except InstanceFault α)}
    {batch : List Handle} {statuses : List (Handle × Status α)} {crew : Crew}
    (deals : agent.Deals work (fun _ => Turn.Completes) batch statuses after)
    (serves : crew.Serves name size) (begun : agent.recovery = crew.ensureHealthy)
    (closes : ∀ start one, (work start one).Meets (fun _ => True) fun final _ => final.Closed)
    (staffed : 0 < size) : ∀ handle ∈ statuses.map Prod.fst, handle.one.Closed := by
  obtain ⟨turns, _, went, rfl⟩ := deals.of_staffed serves begun staffed
  intro handle member
  simp only [List.mem_map, exists_exists_and_eq_and] at member
  obtain ⟨entry, turned, rfl⟩ := member
  obtain ⟨possible, completes⟩ := went entry turned
  obtain ⟨_, _, isClosed⟩ := completes.meets possible fun start => closes start entry.1.one
  exact isClosed

theorem Heeds.atRest {call : AgentCall} (heeded : agent.Heeds call after)
    (atRest : agent.AtRest name size) : after.AtRest name size := by
  have healthy := atRest.serves.ensureHealthy
  cases heeded with
  | init deals =>
    obtain ⟨recovery, serves, rfl⟩ := deals.serves healthy
    exact ⟨serves, fun _ _ => nofun⟩
  | iterate answered =>
    cases answered with
    | iterate now stampOf performed => exact ⟨atRest.serves, atRest.closed⟩
  | nothingToRecover empty => exact atRest
  | recover shuffle shuffled deals =>
    obtain ⟨recovery, serves, rfl⟩ := deals.serves healthy
    exact ⟨serves, atRest.closed⟩
  | cleanUp deals =>
    have closed := deals.closes atRest.serves rfl fun start _ => Instance.cleanUpWork_closes start
    obtain ⟨recovery, serves, rfl⟩ := deals.serves healthy
    exact ⟨serves, closed⟩
  | list action deals =>
    have closed := deals.closes atRest.serves rfl fun start _ => Instance.listWork_closes action start
    obtain ⟨recovery, serves, rfl⟩ := deals.serves healthy
    exact ⟨serves, closed⟩

theorem Idles.atRest (idled : agent.Idles after) (atRest : agent.AtRest name size) :
    after.AtRest name size := by
  cases idled with
  | gripped isHeld =>
    refine ⟨atRest.serves, fun staffed handle pending => ?_⟩
    obtain ⟨first, present, rfl⟩ := List.mem_map.mp pending
    exact atRest.closed staffed first present
  | drained => exact ⟨atRest.serves.drain, atRest.closed⟩
  | ordered order => exact ⟨atRest.serves, atRest.closed⟩

theorem Orderly.atRest (orderly : Orderly engine settings calls agent) :
    agent.AtRest "recovery" settings.shared.recoveryPoolSize := by
  induction orderly with
  | start =>
    refine ⟨Crew.serves_ofSize .., fun _ handle pending => ?_⟩
    obtain ⟨given, _, rfl⟩ := List.mem_map.mp pending
    exact Instance.ofSettings_closed engine settings given
  | call _ heeded ih => exact heeded.atRest ih
  | idle _ idled ih => exact idled.atRest ih

/-- Whether another agent has all its instances pending, the same in the same order. -/
def PendsLike (agent after : Agent) : Prop :=
  after.active = [] ∧ after.broken = [] ∧
    after.pending.map Handle.origin = agent.pending.map Handle.origin

/-- Instances that are all pending remain so, and in order, until they are started. -/
theorem Answers.pendsLike {call : AgentCall} (answered : agent.Answers call after)
    (inactive : agent.active = []) (unbroken : agent.broken = []) (unstarted : .init ≠ call) :
    agent.PendsLike after := by
  cases answered with
  | init => exact absurd rfl unstarted
  | iterate now stampOf performed =>
    refine ⟨?_, ?_, rfl⟩ <;>
      simp only [iterated, beginIteration, finishIteration, concludeHealth, refreshHealth, inactive,
        unbroken, List.map_nil, merged, List.filter_nil, List.append_nil]
  | nothingToRecover => exact ⟨inactive, unbroken, rfl⟩
  | recover _ shuffled recovers =>
    obtain ⟨back, _, rfl⟩ := recovers.inv fun _ => Instance.init_keeps_origin _ _
    simp only [beginRecovery, unbroken, List.perm_nil] at shuffled back
    rw [shuffled, List.map_nil, List.map_eq_nil_iff] at back
    subst back
    refine ⟨?_, rfl, rfl⟩
    simp only [finishRecovery, finishInit, refreshHealth, beginRecovery, inactive, succeeded,
      List.filter_nil, List.map_nil, List.append_nil]
  | cleanUp recovers =>
    obtain ⟨back, _, rfl⟩ := recovers.inv fun _ => cleanUpWork_keeps_origin
    refine ⟨rfl, rfl, ?_⟩
    simp only [beginCleanUp, inactive, unbroken, List.nil_append] at back
    simp only [finishCleanUp, refreshHealth, beginCleanUp, List.nil_append, List.map_map]
    exact back
  | list action recovers =>
    obtain ⟨back, _, rfl⟩ := recovers.inv fun _ => listWork_keeps_origin action
    refine ⟨inactive, unbroken, ?_⟩
    simp only [finishList, List.map_append, List.map_map]
    exact back

theorem Idles.pendsLike (idled : agent.Idles after) (inactive : agent.active = [])
    (unbroken : agent.broken = []) : agent.PendsLike after := by
  cases idled with
  | gripped isHeld =>
    refine ⟨?_, ?_, ?_⟩
    · simp only [Agent.gripped, inactive, List.map_nil]
    · simp only [Agent.gripped, unbroken, List.map_nil]
    · simp only [Agent.gripped, List.map_map]
      rfl
  | drained => exact ⟨inactive, unbroken, rfl⟩
  | ordered order => exact ⟨inactive, unbroken, rfl⟩

/-- Behind a clean-up the instances are pending in the order in which they were taken, as long as
nothing is asked of the agent. -/
theorem Answers.pending_of_cleanUp {started closed : Agent} (answered : started.Answers .cleanUp closed)
    (idled : Relation.ReflTransGen Idles closed agent) : agent.active = [] ∧ agent.broken = [] ∧
      agent.pending.map Handle.origin = started.beginCleanUp.2.map Handle.origin := by
  induction idled with
  | refl =>
    cases answered with
    | cleanUp recovers =>
      obtain ⟨back, _, rfl⟩ := recovers.inv fun _ => cleanUpWork_keeps_origin
      exact ⟨rfl, rfl, List.map_map.trans back⟩
  | tail _ idled ih =>
    obtain ⟨inactive, unbroken, before⟩ := ih
    obtain ⟨inactive₂, unbroken₂, same⟩ := idled.pendsLike inactive unbroken
    exact ⟨inactive₂, unbroken₂, same.trans before⟩

/-- Until instances are started, all of them are pending, in the configured order. -/
theorem Run.pendsLike (run : Run engine settings calls agent) (unstarted : .init ∉ calls) :
    (ofSettings engine settings).PendsLike agent := by
  induction run with
  | start => exact ⟨rfl, rfl, rfl⟩
  | call run answered ih =>
    simp only [List.mem_append, List.mem_singleton, not_or] at unstarted
    obtain ⟨inactive, unbroken, before⟩ := ih unstarted.1
    obtain ⟨inactive₂, unbroken₂, same⟩ := answered.pendsLike inactive unbroken unstarted.2
    exact ⟨inactive₂, unbroken₂, same.trans before⟩
  | idle run idled ih =>
    obtain ⟨inactive, unbroken, before⟩ := ih unstarted
    obtain ⟨inactive₂, unbroken₂, same⟩ := idled.pendsLike inactive unbroken
    exact ⟨inactive₂, unbroken₂, same.trans before⟩

/-- A crew that has an idle worker, or none at all, gives every listing that is asked for. -/
theorem exists_listsBy (replies : Replies) (atRest : agent.AtRest name size)
    (able : 0 < size → agent.recovery.ensureHealthy.HasIdle) (action : Action) :
    ∃ listings after, agent.ListsBy replies action listings after ∧
      after.recovery = agent.recovery.ensureHealthy := by
  obtain ⟨statuses, deals⟩ := exists_deals atRest.serves (rfl : agent.beginList.1.recovery = _)
    (fun handle => replies handle.name) (listWork action) agent.beginList.2 able
  exact ⟨_, _, .mk deals, rfl⟩

theorem exists_initsBy (replies : Replies) (atRest : agent.AtRest name size)
    (able : 0 < size → agent.recovery.ensureHealthy.HasIdle) :
    ∃ after, agent.InitsBy replies after ∧ after.recovery = agent.recovery.ensureHealthy := by
  obtain ⟨statuses, deals⟩ := exists_deals atRest.serves (rfl : agent.beginInit.1.recovery = _)
    (fun handle => replies handle.name) initWork agent.beginInit.2 able
  exact ⟨_, .mk deals, rfl⟩

/-- Listing leaves no trace. An agent whose instances are all pending lists every configured one, with
either a report or an error, in the order in which they are pending. Until instances are started that is
the configured order, and behind a clean-up that of the active, the broken and the pending ones before
it. It lists the same again, however often it has listed before, and to start its
instances then comes to the same, but for the time. -/
theorem listing_traceless (orderly : Orderly engine settings calls agent) (unstarted : agent.active = [])
    (unbroken : agent.broken = []) (replies : Replies) :
    ((0 < settings.shared.recoveryPoolSize → agent.recovery.ensureHealthy.HasIdle) →
      ∀ action, ∃ listings after, agent.ListsBy replies action listings after) ∧
    (∀ {action listings after}, agent.ListsBy replies action listings after →
      listings.map (·.name) = agent.pending.map (·.name) ∧
      (listings.map (·.name)).Perm (settings.instances.map (·.name)) ∧
      (.init ∉ calls → listings.map (·.name) = settings.instances.map (·.name)) ∧
      (∀ {started closed : Agent}, started.Answers .cleanUp closed →
        Relation.ReflTransGen Idles closed agent → listings.map (·.name) =
          (started.active ++ started.broken ++ started.pending).map (·.name)) ∧
      ∀ listing ∈ listings, listing.report.isSome = !listing.error.isSome) ∧
    ∀ {between}, agent.ListsOften replies between →
      between.pending.map (·.name) = agent.pending.map (·.name) ∧
      (∀ {action first after second later}, agent.ListsBy replies action first after →
        between.ListsBy replies action second later → second = first) ∧
      ∀ {started restarted}, agent.InitsBy replies started → between.InitsBy replies restarted →
        restarted.active.map Handle.undated = started.active.map Handle.undated ∧
        restarted.broken.map Handle.undated = started.broken.map Handle.undated := by
  have atRest := orderly.atRest
  have configured : settings.instances.map (·.name) = (settings.instances.map fun one =>
      Handle.ofInstance (Instance.ofSettings engine settings one)).map (·.name) := by
    rw [List.map_map]
    rfl
  refine ⟨fun able action => ?_, fun lists => ?_, fun often => ?_⟩
  · obtain ⟨listings, after, lists, _⟩ := exists_listsBy replies atRest able action
    exact ⟨listings, after, lists⟩
  · refine ⟨lists.names atRest, ?_, fun uninitialized => ?_, fun answered idled => ?_,
      fun _ => lists.exclusive atRest⟩
    · have whole := orderly.run.origins_perm
      simp only [origins, handles, unstarted, unbroken, List.append_nil] at whole
      rw [lists.names atRest, Handle.names_of_origins, configured]
      exact whole.map _
    · obtain ⟨_, _, inOrder⟩ := orderly.run.pendsLike uninitialized
      rw [lists.names atRest, Handle.names_of_origins, inOrder, configured]
      simp only [ofSettings, List.map_map]
      rfl
    · obtain ⟨_, _, inOrder⟩ := answered.pending_of_cleanUp idled
      rw [lists.names atRest, Handle.names_of_origins, inOrder, ← Handle.names_of_origins]
      rfl
  · have resembles := often.resembles atRest
    refine ⟨?_, resembles.listings_eq atRest, fun inits reinits => ?_⟩
    · rw [Handle.names_of_origins, resembles.origins, ← Handle.names_of_origins]
    · obtain ⟨active, broken⟩ := inits.inv atRest
      obtain ⟨reactive, rebroken⟩ := reinits.inv resembles.atRest
      rw [active, broken, reactive, rebroken, resembles.active, resembles.broken, resembles.starts]
      exact ⟨rfl, rfl⟩

/-- The first of the two targets cannot be reached. -/
def eastDown : Replies := fun name =>
  Rehearsal.answer { down := if name = "east" then some fun _ _ => .io "connection refused" else none }

/-- Of the two targets one has an error to list and the other a report, twice; then they are started as
they would have been at first. -/
theorem listing_traceless_eastDown : ∃ agent between listings after started restarted,
    Orderly Pattern.engine twoTargets [] agent ∧ agent.active = [] ∧ agent.broken = [] ∧
    agent.ListsBy eastDown .listEverything listings between ∧
    listings.map (fun listing => (listing.name, listing.report.isSome)) =
      [("east", false), ("west", true)] ∧
    between.ListsBy eastDown .listEverything listings after ∧
    agent.InitsBy eastDown started ∧ between.InitsBy eastDown restarted ∧
    restarted.active.map Handle.undated = started.active.map Handle.undated ∧
    restarted.broken.map Handle.undated = started.broken.map Handle.undated := by
  have orderly : Orderly Pattern.engine twoTargets [] (ofSettings Pattern.engine twoTargets) := .start
  have atRest := orderly.atRest
  have hasIdle : (Crew.ofSize "recovery" 3).ensureHealthy.HasIdle := ⟨rfl, Nat.zero_lt_succ 2⟩
  obtain ⟨listings, between, lists, recovery⟩ :=
    exists_listsBy eastDown atRest (fun _ => hasIdle) .listEverything
  have often : (ofSettings Pattern.engine twoTargets).ListsOften eastDown between := .again .never lists
  have hasIdle₂ : between.recovery.ensureHealthy.HasIdle := by
    rw [recovery]
    exact hasIdle
  have atRest₂ := (often.resembles atRest).atRest
  obtain ⟨second, after, again, _⟩ :=
    exists_listsBy eastDown atRest₂ (fun _ => hasIdle₂) .listEverything
  obtain ⟨started, inits, _⟩ := exists_initsBy eastDown atRest fun _ => hasIdle
  obtain ⟨restarted, reinits, _⟩ := exists_initsBy eastDown atRest₂ fun _ => hasIdle₂
  obtain ⟨_, _, traceless⟩ := listing_traceless orderly rfl rfl eastDown
  obtain ⟨_, same, alike⟩ := traceless often
  obtain ⟨active, broken⟩ := alike inits reinits
  have told : listings.map (fun listing => (listing.name, listing.report.isSome)) =
      [("east", false), ("west", true)] := by
    rw [(lists.inv atRest).1]
    decide +kernel
  exact ⟨_, between, listings, after, started, restarted, orderly, rfl, rfl, lists, told,
    same lists again ▸ again, inits, reinits, active, broken⟩

theorem eastDown_init : ∃ agent, Orderly Pattern.engine twoTargets [.init] agent ∧
    agent.recovery = Crew.ofSize "recovery" 3 ∧ agent.pending = [] ∧
    agent.active.map (·.name) = ["west"] ∧ agent.broken.map (·.name) = ["east"] := by
  have orderly : Orderly Pattern.engine twoTargets [] (ofSettings Pattern.engine twoTargets) := .start
  have atRest := orderly.atRest
  obtain ⟨statuses, deals⟩ := exists_deals atRest.serves
    (rfl : (ofSettings Pattern.engine twoTargets).beginInit.1.recovery = _)
    (fun handle => eastDown handle.name) initWork (ofSettings Pattern.engine twoTargets).beginInit.2
    fun _ => ⟨rfl, Nat.zero_lt_succ 2⟩
  have inits : (ofSettings Pattern.engine twoTargets).InitsBy eastDown _ := .mk deals
  obtain ⟨active, broken⟩ := inits.inv atRest
  have undated (handles : List Handle) :
      handles.map (·.name) = (handles.map Handle.undated).map (·.name) := by
    rw [List.map_map]
    rfl
  refine ⟨_, .call .start (.init (deals.imp fun _ _ _ => trivial)), rfl, rfl, ?_, ?_⟩
  · rw [undated, active]
    decide +kernel
  · rw [undated, broken]
    decide +kernel

/-- Once some instances were started and others not, they are closed in another order than the
configured one, and listed in that. -/
theorem listing_out_of_order : ∃ agent listings after,
    Orderly Pattern.engine twoTargets [.init, .cleanUp] agent ∧
    agent.active = [] ∧ agent.broken = [] ∧
    agent.ListsBy eastDown .listEverything listings after ∧
    listings.map (·.name) = ["west", "east"] ∧
    twoTargets.instances.map (·.name) = ["east", "west"] := by
  obtain ⟨started, orderly, recovery, pending, active, broken⟩ := eastDown_init
  have hasIdle : started.recovery.ensureHealthy.HasIdle := by
    rw [recovery]
    exact ⟨rfl, Nat.zero_lt_succ 2⟩
  obtain ⟨statuses, deals⟩ := exists_deals orderly.atRest.serves
    (rfl : started.beginCleanUp.1.recovery = _)
    (fun handle => eastDown handle.name) cleanUpWork started.beginCleanUp.2 fun _ => hasIdle
  have closed := deals.imp fun _ _ => Turn.CompletesBy.completes
  let agent := started.beginCleanUp.1.finishCleanUp statuses
  have orderly₂ : Orderly Pattern.engine twoTargets [.init, .cleanUp] agent :=
    orderly.call (.cleanUp closed)
  have names : agent.pending.map (·.name) = ["west", "east"] := by
    have answered : started.Answers .cleanUp agent := .cleanUp closed.recovers
    obtain ⟨_, _, same⟩ := answered.pending_of_cleanUp .refl
    rw [Handle.names_of_origins, same, ← Handle.names_of_origins]
    simp only [beginCleanUp, pending, List.map_append, active, broken]
    rfl
  have hasIdle₂ : agent.recovery.ensureHealthy.HasIdle := by
    have same : agent.recovery = started.recovery.ensureHealthy := rfl
    rw [same, recovery]
    exact ⟨rfl, Nat.zero_lt_succ 2⟩
  obtain ⟨listings, after, lists, _⟩ := exists_listsBy eastDown orderly₂.atRest (fun _ => hasIdle₂)
    .listEverything
  exact ⟨agent, listings, after, orderly₂, rfl, rfl, lists, (lists.names orderly₂.atRest).trans names,
    rfl⟩

end Agent
end BeanHarvest
