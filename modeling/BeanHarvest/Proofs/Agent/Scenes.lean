import BeanHarvest.Proofs.Agent.Histories
import BeanHarvest.Proofs.Crew.Awaiting
import BeanHarvest.Proofs.Keyed

/-! Scenes are runs. Whatever an agent does in time and against targets is one of the ways in which it can
answer, so that what holds of every run holds of the agent in a scene, and what holds of every history of
the collections that are begun there. -/
namespace BeanHarvest

namespace Turn

variable {α : Type} {work : Operation Instance (Except InstanceFault α)} {one : Instance} {begun : Nat}

/-- How a turn in a batch goes that was begun at some time: the task never gets a worker, or it goes on
until it is over or is aborted. -/
inductive Goes (begun : Nat) (work : Operation Instance (Except InstanceFault α)) (one : Instance) :
    Turn α → Prop where
  | cancelled : Goes begun work one ⟨.cancelled, one, false⟩
  | waited : Goes begun work one ⟨.timedOut, one, false⟩
  | aborted {start : Nat} {after : Instance} (later : begun ≤ start)
      (leaves : (work start one).LeavesFrom start after) : Goes begun work one ⟨.timedOut, after, true⟩
  | completed {start last : Nat} {after : Instance} {result : Except InstanceFault α}
      (later : begun ≤ start) (ends : (work start one).EndsFrom start last after result) :
      Goes begun work one ⟨.completed result, after, false⟩

theorem Goes.canBe {turn : Turn α} (goes : turn.Goes begun work one) : turn.CanBe work one := by
  cases goes with
  | cancelled => exact .cancelled false
  | waited => exact .waited false
  | @aborted start _ later leaves =>
    rcases leaves.canStop_or_canEnd with stops | ⟨result, ends⟩
    · exact .cutShort start true stops
    · exact .late start true ends
  | @completed start _ _ _ later ends => exact .completed start ends.canEnd

theorem Goes.panicsWithin {turn : Turn α} (goes : turn.Goes begun work one) :
    turn.PanicsWithin work one := by
  intro message panicked
  cases goes <;> cases panicked

theorem Goes.begins {turn : Turn Collected} (goes : turn.Goes begun Agent.collectWork one) :
    ∃ starts, turn.Begins begun one starts := by
  cases goes with
  | cancelled => exact ⟨[], .cancelled false⟩
  | waited => exact ⟨[], .waited false⟩
  | aborted later leaves => exact begins_of_leaves _ true later leaves
  | completed later ends => exact begins_of_leaves _ false later ends.leaves

end Turn

namespace Surroundings

variable {τ α : Type} {around other : Surroundings τ} {names : List String}
  {work : Operation Instance (Except InstanceFault α)} {handle : Handle} {batch : List Handle}
  {begun : Nat} {crew : Crew} {orders : List (Nat × Order)}

/-- Whether the targets of some instances are the same, and in the same state. -/
structure Alike (names : List String) (around other : Surroundings τ) : Prop where
  target : other.target = around.target
  world : ∀ name ∈ names, other.world name = around.world name

theorem Alike.course_eq {β : Type} {task : Operation Instance β} (alike : Alike names around other)
    (named : handle.name ∈ names) (deadline : Option Nat) (start : Nat) :
    other.course deadline start handle task = around.course deadline start handle task := by
  rw [course, course, alike.target, alike.world _ named]

theorem world_withWorld_of_ne (around : Surroundings τ) {name sought : String} (world : τ)
    (different : name ≠ sought) : (around.withWorld name world).world sought = around.world sought := by
  unfold withWorld
  split
  · simp only [Surroundings.world, Keyed.get?_insert, if_neg different]
  · rfl

theorem Alike.withWorld (alike : Alike names around other) {name : String} (world : τ)
    (absent : name ∉ names) : Alike names around (other.withWorld name world) where
  target := by
    unfold Surroundings.withWorld
    split
    · exact alike.target
    · exact alike.target
  world sought member := by
    rw [world_withWorld_of_ne]
    · exact alike.world sought member
    · rintro rfl
      exact absent member

theorem Alike.tail {name : String} (alike : Alike (name :: names) around other) :
    Alike names around other := ⟨alike.target, fun sought member => alike.world sought (.tail _ member)⟩

/-- A task that does its duty does not panic. -/
theorem ok_of_duty {start time : Nat} {outcome : Except String (Except InstanceFault α)}
    (done : around.duty work handle start = some (time, outcome)) : ∃ result, outcome = .ok result := by
  rw [duty] at done
  split at done
  · cases done
    exact ⟨_, rfl⟩
  · cases done

/-- Whether the note of a task agrees with how the task ended: one that was never started was cancelled or
has timed out, and one that was started after the batch was begun has timed out or done its duty. -/
def Accounts (around : Surroundings τ) (begun : Nat)
    (work : Operation Instance (Except InstanceFault α)) (handle : Handle) (started : Option Nat)
    (ending : Ending (Except InstanceFault α)) : Prop :=
  match started with
  | none => ending = .cancelled ∨ ending = .timedOut
  | some start => begun ≤ start ∧ (ending = .timedOut ∨ ∃ time result,
      ending = .completed result ∧ around.duty work handle start = some (time, .ok result))

theorem turn_goes (deadline : Nat) (alike : Alike names around other) (named : handle.name ∈ names)
    {started : Option Nat} {ending : Ending (Except InstanceFault α)}
    (accounts : around.Accounts begun work handle started ending) :
    (other.turn deadline work handle started ending).1.ending = ending ∧
      (other.turn deadline work handle started ending).1.Goes begun work handle.one := by
  cases started with
  | none =>
    rcases accounts with rfl | rfl
    · exact ⟨rfl, .cancelled⟩
    · exact ⟨rfl, .waited⟩
  | some start =>
    obtain ⟨later, rfl | ⟨time, result, rfl, done⟩⟩ := accounts
    · exact ⟨rfl, .aborted later (Target.leavesFrom_of_run ..)⟩
    · refine ⟨rfl, ?_⟩
      rw [duty, ← alike.course_eq named] at done
      cases ran : other.course none start handle work with
      | cut => simp [ran] at done
      | ended last after world value =>
        simp only [ran, Option.some.injEq, Prod.mk.injEq, Except.ok.injEq] at done
        obtain ⟨_, rfl⟩ := done
        have ends := Target.endsFrom_of_run ran
        simp only [turn, ran, Target.statesAfter]
        exact .completed later ends

/-- Every instance of a batch has a turn that goes with the ending of its task. -/
theorem turns_go (deadline : Nat) (alike : Alike (batch.map (·.name)) around other)
    (nodup : (batch.map (·.name)).Nodup) {started : List (RunningTask (Except InstanceFault α))}
    {place : Nat} {endings : List (Ending (Except InstanceFault α))}
    (enough : endings.length = batch.length)
    (accounts : ∀ offset handle ending, batch[offset]? = some handle →
      endings[offset]? = some ending → around.Accounts begun work handle
        ((started.find? (·.place = place + offset)).map (·.started)) ending) :
    let turns := (other.turns deadline work started place batch endings).1
    turns.map (·.ending) = endings ∧ ∀ entry ∈ batch.zip turns, entry.2.Goes begun work entry.1.one := by
  induction batch generalizing other place endings with
  | nil =>
    rw [List.length_nil, List.length_eq_zero_iff] at enough
    subst enough
    exact ⟨rfl, fun _ => nofun⟩
  | cons handle batch ih =>
    cases endings with
    | nil => cases enough
    | cons ending endings =>
      obtain ⟨absent, nodup⟩ := List.nodup_cons.mp nodup
      have first := accounts 0 handle ending rfl rfl
      obtain ⟨same, goes⟩ := turn_goes deadline alike List.mem_cons_self first
      let start := (started.find? (·.place = place)).map (·.started)
      let world := (other.turn deadline work handle start ending).2
      have later : Alike (batch.map (·.name)) around (other.withWorld handle.name world) :=
        alike.tail.withWorld world absent
      have rest : ∀ offset handle ending, batch[offset]? = some handle → endings[offset]? = some ending →
          around.Accounts begun work handle
            ((started.find? (·.place = place + 1 + offset)).map (·.started)) ending := by
        intro offset handle ending found ended
        rw [Nat.add_assoc, Nat.add_comm 1 offset]
        exact accounts (offset + 1) handle ending found ended
      obtain ⟨others, go⟩ := ih later nodup (Nat.succ.inj enough) rest
      refine ⟨congrArg₂ List.cons same others, ?_⟩
      intro entry member
      rcases List.mem_cons.mp member with rfl | behind
      · exact goes
      · exact go entry behind

theorem accounts_of_noted {reached : Shift (Except InstanceFault α)}
    (noted : reached.Noted around.time) (assigned : reached.duties = batch.map (around.duty work))
    {endings : List (Ending (Except InstanceFault α))}
    (passed : reached.floor.endings? 0 batch.length = some endings) {offset : Nat}
    {ending : Ending (Except InstanceFault α)} (found : batch[offset]? = some handle)
    (there : endings[offset]? = some ending) : around.Accounts around.time work handle
      ((reached.started.find? (·.place = 0 + offset)).map (·.started)) ending := by
  have here : reached.floor.ending? offset = some ending := by
    obtain ⟨_, each⟩ := List.forall₂_iff_get.mp (Floor.ending?_of_endings? passed)
    obtain ⟨bound, rfl⟩ := List.getElem?_eq_some_iff.mp there
    simpa using each offset (by simpa using bound) bound
  rw [Nat.zero_add]
  rcases noted.cases_of_ending? here with ⟨none, idle⟩ | ⟨running, first, later, did⟩
  · rw [none]
    exact idle
  · rw [first]
    refine ⟨later, ?_⟩
    rcases did with rfl | ⟨time, outcome, rfl, done⟩
    · exact .inl rfl
    · rw [assigned, List.getElem?_map, found] at done
      obtain ⟨result, rfl⟩ := ok_of_duty done
      exact .inr ⟨time, result, rfl, done⟩

theorem turns_of_submit {after : Shift (Except InstanceFault α)} {timeout : Nat}
    (nodup : (batch.map (·.name)).Nodup)
    (submitted : (Shift.ofCrew crew around.time orders).submit (batch.map (around.duty work)) timeout =
      .ok after) :
    let reached := after.await 0
    let turns := (around.turns (around.time + timeout) work reached.started 0 batch
      ((reached.endings? 0).getD [])).1
    crew.Performs work batch (.ok turns) reached.floor.crew ∧
      reached.endings? 0 = some (turns.map (·.ending)) ∧
      ∀ entry ∈ batch.zip turns, entry.2.Goes around.time work entry.1.one := by
  intro reached turns
  obtain ⟨accepted, noted, assigned, events, endings, floor, ended, passed, length⟩ :=
    Shift.await_ofCrew submitted
  rw [List.length_map] at floor passed length
  have alike : Alike (batch.map (·.name)) around around := ⟨rfl, fun _ _ => rfl⟩
  obtain ⟨same, goes⟩ := turns_go (around.time + timeout) alike nodup length fun offset handle ending =>
    accounts_of_noted noted assigned passed
  have told : (reached.endings? 0).getD [] = endings := congrArg (·.getD []) ended
  have floor : reached.floor = crew.floorAfter batch.length events := floor
  rw [← told] at same goes
  have all_ended : reached.endings? 0 = some (turns.map (·.ending)) := by
    rw [same, told]
    exact ended
  rw [floor] at passed
  have performed : crew.Performs work batch (.ok turns) (crew.floorAfter batch.length events).crew := by
    refine .performed accepted events ?_ fun entry member => (goes entry member).canBe
    rw [same, told]
    exact passed
  rw [floor]
  exact ⟨performed, all_ended, goes⟩

variable (around : Surroundings τ) (crew : Crew) (orders : List (Nat × Order)) (timeout : Nat)
  (work : Operation Instance (Except InstanceFault α))

theorem perform_of_ok {after : Shift (Except InstanceFault α)}
    (submitted : (Shift.ofCrew crew around.time orders).submit (batch.map (around.duty work)) timeout =
      .ok after) :
    let reached := after.await 0
    let turned := around.turns (around.time + timeout) work reached.started 0 batch
      ((reached.endings? 0).getD [])
    around.perform crew orders timeout work batch = (.ok turned.1, reached.floor.crew, reached.orders,
      { turned.2 with time := reached.time }) := by
  simp only [perform, submitted]

theorem perform_of_error {refusal : Refusal}
    (submitted : (Shift.ofCrew crew around.time orders).submit (batch.map (around.duty work)) timeout =
      .error refusal) :
    around.perform crew orders timeout work batch = (.error refusal, crew, orders, around) := by
  simp only [perform, submitted]

/-- What a crew performs in a scene is what it can perform, and every turn goes as a turn can go. -/
theorem perform_goes (nodup : (batch.map (·.name)).Nodup) :
    let performed := around.perform crew orders timeout work batch
    crew.Performs work batch performed.1 performed.2.1 ∧ ∀ turns, performed.1 = .ok turns →
      ∀ entry ∈ batch.zip turns, entry.2.Goes around.time work entry.1.one := by
  intro performed
  cases submitted : (Shift.ofCrew crew around.time orders).submit (batch.map (around.duty work))
    timeout with
  | error refusal =>
    simp only [performed, perform_of_error around crew orders timeout work submitted]
    exact ⟨.refused (Shift.submit_error_iff.mp submitted), fun _ => nofun⟩
  | ok after =>
    obtain ⟨performs, _, goes⟩ := turns_of_submit nodup submitted
    simp only [performed, perform_of_ok around crew orders timeout work submitted]
    refine ⟨performs, fun turns given => ?_⟩
    cases given
    exact goes

/-- What a crew performs in a scene is a batch that is processed, with what happens on the floor
meanwhile. -/
theorem perform_process (nodup : (batch.map (·.name)).Nodup) :
    let performed := around.perform crew orders timeout work batch
    ∃ meanwhile : Meanwhile (Except InstanceFault α), meanwhile.errands.length = batch.length ∧
      let processed := (⟨crew, []⟩ : Floor _).process (fun _ ending => ending) meanwhile
      processed.1 = performed.1.map (·.map (·.ending)) ∧
        (performed.1.isOk = true → processed.2.crew = performed.2.1) := by
  intro performed
  let shift : Shift (Except InstanceFault α) := Shift.ofCrew crew around.time orders
  obtain ⟨meanwhile, errands, processed⟩ := Shift.await_process (Shift.noted_ofCrew crew around.time orders)
    (Shift.scheduled_ofCrew crew around.time orders) (batch.map (around.duty work)) timeout
    fun _ ending => ending
  refine ⟨meanwhile, errands.trans (List.length_map _), ?_⟩
  cases submitted : shift.submit (batch.map (around.duty work)) timeout with
  | error refusal =>
    rw [submitted] at processed
    simp only [performed, perform_of_error around crew orders timeout work submitted]
    exact ⟨processed, nofun⟩
  | ok after =>
    obtain ⟨_, ended, _⟩ := turns_of_submit nodup submitted
    simp only [performed, perform_of_ok around crew orders timeout work submitted]
    rw [submitted] at processed
    obtain ⟨endings, there, processed⟩ := processed
    have same := Option.some.inj (there.symm.trans ended)
    have came : (⟨crew, []⟩ : Floor _).process (fun _ ending => ending) meanwhile =
      (.ok (endings.mapIdx fun _ ending => ending), (after.await 0).floor) := processed
    rw [came, same]
    refine ⟨?_, fun _ => rfl⟩
    simp [Except.map, List.mapIdx_eq_zipIdx_map]

theorem le_time_perform (batch : List Handle) :
    around.time ≤ (around.perform crew orders timeout work batch).2.2.2.time := by
  unfold perform
  split
  · exact Nat.le_refl _
  · rename_i submitted
    obtain ⟨_, noted, _⟩ := Shift.await_ofCrew submitted
    exact noted.begun

end Surroundings

theorem BatchOutcome.exists_begins {now : Nat} {batch : List Handle} {turns : List (Turn Collected)}
    (enough : turns.length = batch.length)
    (go : ∀ entry ∈ batch.zip turns, entry.2.Goes now Agent.collectWork entry.1.one) :
    ∃ begun, Begins now batch (.ok turns) begun := by
  induction batch generalizing turns with
  | nil =>
    cases List.eq_nil_of_length_eq_zero enough
    exact ⟨[], .empty⟩
  | cons handle batch ih =>
    cases turns with
    | nil => cases enough
    | cons turn turns =>
      obtain ⟨first, others⟩ := List.forall_mem_cons.mp go
      obtain ⟨starts, begins⟩ := first.begins
      obtain ⟨more, rest⟩ := ih (Nat.succ.inj enough) others
      exact ⟨_, .turn begins rest⟩

namespace Agent

variable {agent between later : Agent} {call : AgentCall} {engine : Pattern.Engine} {settings : Settings}
  {calls : List AgentCall} {begun : Begun}

/-- The agent after orders to its collection crew. -/
def ordered (orders : List (Nat × Order)) (agent : Agent) : Agent :=
  { agent with collection := orders.foldl (fun crew order => crew.obey order.2) agent.collection }

theorem idles_ordered (orders : List (Nat × Order)) (agent : Agent) :
    Relation.ReflTransGen Idles agent (agent.ordered orders) := by
  induction orders generalizing agent with
  | nil => exact .refl
  | cons order rest ih => exact .head (.ordered order.2) (ih _)

theorem idles_drained (agent : Agent) : Relation.ReflTransGen Idles agent agent.drained :=
  .head (.gripped fun _ => false) (.single .drained)

theorem Run.idles (run : Run engine settings calls agent)
    (idled : Relation.ReflTransGen Idles agent later) : Run engine settings calls later := by
  induction idled with
  | refl => exact run
  | tail _ idled ih => exact ih.idle idled

theorem History.idles (history : History engine settings begun agent)
    (idled : Relation.ReflTransGen Idles agent later) : History engine settings begun later := by
  induction idled with
  | refl => exact history
  | tail _ idled ih => exact ih.idle idled

/-- Whether a call leads from an agent to another one, by an answer and by what can happen when nothing is
asked; every history of the agent goes on there with the collections that the call begins. -/
structure LeadsTo (agent : Agent) (call : AgentCall) (later : Agent) : Prop where
  answers : ∃ after, agent.Answers call after ∧ Relation.ReflTransGen Idles after later
  history : ∀ {engine settings begun}, History engine settings begun agent →
    ∃ more, History engine settings (begun ++ more) later

theorem Attends.leadsTo (attends : agent.Attends between) (answered : agent.Answers call between)
    (idled : Relation.ReflTransGen Idles between later) : agent.LeadsTo call later where
  answers := ⟨between, answered, idled⟩
  history history := ⟨[], by
    rw [List.append_nil]
    exact (history.attend attends).idles idled⟩

/-- Whether calls have brought an agent where it is from where it was configured, with a history of the
collections that were begun on the way. -/
structure Comes (engine : Pattern.Engine) (settings : Settings) (calls : List AgentCall)
    (agent : Agent) : Prop where
  run : Run engine settings calls agent
  history : ∃ begun, History engine settings begun agent

theorem comes_ofSettings : Comes engine settings [] (ofSettings engine settings) :=
  ⟨.start, [], .start⟩

theorem Comes.idles (comes : Comes engine settings calls agent)
    (idled : Relation.ReflTransGen Idles agent later) : Comes engine settings calls later := by
  obtain ⟨run, begun, history⟩ := comes
  exact ⟨run.idles idled, begun, history.idles idled⟩

theorem Comes.leadsTo (comes : Comes engine settings calls agent) (leads : agent.LeadsTo call later) :
    Comes engine settings (calls ++ [call]) later := by
  obtain ⟨run, begun, history⟩ := comes
  obtain ⟨after, answered, idled⟩ := leads.answers
  obtain ⟨more, history⟩ := leads.history history
  exact ⟨(run.call answered).idles idled, begun ++ more, history⟩

end Agent

namespace Scene

variable {τ α : Type}

theorem idles_settled (scene : Scene τ) :
    Relation.ReflTransGen Agent.Idles scene.agent scene.settled.agent :=
  (Agent.idles_ordered _ scene.agent).trans (Agent.idles_drained _)

/-- While time goes by nothing is asked of the agent. -/
theorem idles_wait (scene : Scene τ) (duration : Nat) :
    Relation.ReflTransGen Agent.Idles scene.agent (scene.wait duration).agent :=
  idles_settled { scene with around := { scene.around with time := scene.around.time + duration } }

/-- The recovery crew tends the instances of a batch, and then orders reach the collection crew. -/
theorem recover_tends (scene : Scene τ) (work : Operation Instance (Except InstanceFault α))
    (batch : List Handle) (nodup : (batch.map (·.name)).Nodup) :
    ∃ waited orders, scene.agent.Tends work batch (scene.recover work batch).2 waited ∧
      (scene.recover work batch).1.agent = waited.ordered orders := by
  obtain ⟨performs, goes⟩ :=
    scene.around.perform_goes scene.agent.recovery [] scene.agent.recoveryTimeout work nodup
  refine ⟨_, _, .mk performs fun turns given entry member => ?_, rfl⟩
  exact (goes turns given entry member).panicsWithin

theorem le_time_recover (scene : Scene τ) (work : Operation Instance (Except InstanceFault α))
    (batch : List Handle) : scene.around.time ≤ (scene.recover work batch).1.around.time :=
  scene.around.le_time_perform ..

theorem init_leadsTo (scene : Scene τ) (nodup : (scene.agent.pending.map (·.name)).Nodup) :
    scene.agent.LeadsTo .init scene.init.1.agent := by
  obtain ⟨waited, orders, tends, same⟩ :=
    recover_tends { scene with agent := scene.agent.beginInit.1 } Agent.initWork
      scene.agent.beginInit.2 nodup
  unfold init
  dsimp only
  rw [same]
  exact (Agent.Attends.init tends).leadsTo (.init tends.recovers) (Agent.idles_ordered orders _)

theorem processRecovery_leadsTo (scene : Scene τ)
    (nodup : (scene.agent.broken.map (·.name)).Nodup) :
    scene.agent.LeadsTo .recover scene.processRecovery.1.agent := by
  unfold processRecovery
  split
  · rename_i empty
    have none_broken := List.isEmpty_iff.mp empty
    exact ⟨⟨_, .nothingToRecover none_broken, .refl⟩, fun history => ⟨[], by rwa [List.append_nil]⟩⟩
  · obtain ⟨waited, orders, tends, same⟩ :=
      recover_tends { scene with agent := (scene.agent.beginRecovery id).1 } Agent.recoveryWork
        (scene.agent.beginRecovery id).2 nodup
    dsimp only
    rw [same]
    exact (Agent.Attends.recover id (.refl _) tends).leadsTo (.recover id (.refl _) tends.recovers)
      (Agent.idles_ordered orders _)

theorem cleanUp_leadsTo (scene : Scene τ)
    (nodup : (scene.agent.beginCleanUp.2.map (·.name)).Nodup) :
    scene.agent.LeadsTo .cleanUp scene.cleanUp.agent := by
  obtain ⟨waited, orders, tends, same⟩ :=
    recover_tends { scene with agent := scene.agent.beginCleanUp.1 } Agent.cleanUpWork
      scene.agent.beginCleanUp.2 nodup
  unfold cleanUp
  dsimp only
  rw [same]
  exact (Agent.Attends.cleanUp tends).leadsTo (.cleanUp tends.recovers) (Agent.idles_ordered orders _)

theorem list_leadsTo (scene : Scene τ) (action : Action)
    (nodup : (scene.agent.pending.map (·.name)).Nodup) :
    scene.agent.LeadsTo (.list action) (scene.list action).1.agent := by
  obtain ⟨waited, orders, tends, same⟩ :=
    recover_tends { scene with agent := scene.agent.beginList.1 } (Agent.listWork action)
      scene.agent.beginList.2 nodup
  unfold list
  dsimp only
  rw [same]
  exact (Agent.Attends.list action tends).leadsTo (.list action tends.recovers)
    (Agent.idles_ordered orders _)

theorem iterate_leadsTo (scene : Scene τ) (stamp : Int)
    (nodup : (scene.agent.active.map (·.name)).Nodup) :
    scene.agent.LeadsTo .iterate (scene.iterate stamp).1.agent := by
  let now := scene.around.time
  have apart : ((scene.agent.dueAt now).map (·.name)).Nodup :=
    nodup.sublist (List.filter_sublist.map _)
  obtain ⟨performs, goes⟩ := scene.around.perform_goes scene.agent.collection.ensureHealthy
    scene.around.orders scene.agent.collectionTimeout Agent.collectWork apart
  let performed := scene.around.perform scene.agent.collection.ensureHealthy scene.around.orders
    scene.agent.collectionTimeout Agent.collectWork (scene.agent.dueAt now)
  have same : (scene.iterate stamp).1.agent =
      (scene.agent.iterated now (fun _ => stamp) performed.1 performed.2.1).1 := by
    simp only [performed, ← Agent.due_plan]
    rfl
  obtain ⟨more, begins⟩ : ∃ more, performed.1.Begins now (scene.agent.dueAt now) more := by
    cases outcome : performed.1 with
    | error refusal => exact ⟨[], .refused _ refusal⟩
    | ok turns =>
      have all : scene.agent.collection.ensureHealthy.Performs Agent.collectWork
        (scene.agent.dueAt now) (.ok turns) performed.2.1 := outcome ▸ performs
      exact BatchOutcome.exists_begins all.length (goes turns outcome)
  rw [same]
  exact ⟨⟨_, .iterate now _ performs, .refl⟩,
    fun history => ⟨more, history.iterate now _ performs begins⟩⟩

variable {engine : Pattern.Engine} {settings : Settings} {calls : List AgentCall} {scene : Scene τ}

section Calls

variable (valid : settings.validate engine = .ok ()) (comes : scene.agent.Comes engine settings calls)

include valid comes

theorem comes_init : scene.init.1.agent.Comes engine settings (calls ++ [.init]) := by
  have nodup := comes.run.names_nodup valid
  exact comes.leadsTo (scene.init_leadsTo (nodup.sublist (scene.agent.pending_sublist.map _)))

theorem comes_iterate (stamp : Int) :
    (scene.iterate stamp).1.agent.Comes engine settings (calls ++ [.iterate]) := by
  have nodup := comes.run.names_nodup valid
  exact comes.leadsTo (scene.iterate_leadsTo stamp (nodup.sublist (scene.agent.active_sublist.map _)))

theorem comes_processRecovery :
    scene.processRecovery.1.agent.Comes engine settings (calls ++ [.recover]) := by
  have nodup := comes.run.names_nodup valid
  exact comes.leadsTo (scene.processRecovery_leadsTo (nodup.sublist (scene.agent.broken_sublist.map _)))

theorem comes_cleanUp : scene.cleanUp.agent.Comes engine settings (calls ++ [.cleanUp]) := by
  have nodup := comes.run.names_nodup valid
  have same : scene.agent.beginCleanUp.2.Perm scene.agent.handles := by
    rw [Agent.handles, List.append_assoc]
    exact List.perm_append_comm
  exact comes.leadsTo (scene.cleanUp_leadsTo ((same.map _).nodup_iff.mpr nodup))

theorem comes_list (action : Action) :
    (scene.list action).1.agent.Comes engine settings (calls ++ [.list action]) := by
  have nodup := comes.run.names_nodup valid
  exact comes.leadsTo (scene.list_leadsTo action (nodup.sublist (scene.agent.pending_sublist.map _)))

/-- At every tick the agent iterates and then restarts what is broken. -/
theorem comes_iterateUntil (stampOf : (iteration : Nat) → Int) (last period fuel tick : Nat)
    (reports : List Report) : ∃ ticks,
      (iterateUntil stampOf last period fuel tick scene reports).1.agent.Comes engine settings
        (calls ++ (List.replicate ticks [.iterate, .recover]).flatten) := by
  induction fuel generalizing scene calls tick reports with
  | zero => exact ⟨0, by simpa [iterateUntil] using comes⟩
  | succ fuel ih =>
    unfold iterateUntil
    dsimp only
    split
    · exact ⟨0, by simpa using comes.idles (scene.idles_wait _)⟩
    · let waited := scene.wait (tick - scene.around.time)
      have here : waited.agent.Comes engine settings calls := comes.idles (scene.idles_wait _)
      have iterated := comes_iterate valid here (stampOf (waited.agent.iteration + 1))
      obtain ⟨ticks, ended⟩ := ih (comes_processRecovery valid iterated) _ _
      refine ⟨ticks + 1, ?_⟩
      rw [List.replicate_succ, List.flatten_cons]
      simpa using ended

end Calls

/-- As every tick is later than the one before, ticks go on until the end. -/
theorem le_time_iterateUntil (stampOf : (iteration : Nat) → Int) {last period fuel tick : Nat}
    (reports : List Report) (apart : 0 < period) (enough : last - tick < fuel) :
    last ≤ (iterateUntil stampOf last period fuel tick scene reports).1.around.time := by
  induction fuel generalizing scene tick reports with
  | zero => exact absurd enough (Nat.not_lt_zero _)
  | succ fuel ih =>
    unfold iterateUntil
    dsimp only
    split
    · change last ≤ scene.around.time + (last - scene.around.time)
      omega
    · apply ih
      unfold tickAfter
      split <;> omega

/-- With valid settings a run for some time is a run of the agent that lasts as long: it is started,
iterates and restarts what is broken at every tick, and is cleaned up. -/
theorem run?_comes (valid : settings.validate engine = .ok ())
    (comes : scene.agent.Comes engine settings calls) (stampOf : (iteration : Nat) → Int)
    (duration : Nat) : ∃ after reports ticks, scene.run? stampOf duration = some (after, reports) ∧
      scene.around.time + duration ≤ after.around.time ∧ after.agent.Comes engine settings
        (calls ++ [.init] ++ (List.replicate ticks [.iterate, .recover]).flatten ++ [.cleanUp]) := by
  have apart : 0 < scene.agent.settings.shared.checkPeriod := by
    rw [comes.run.settings_eq]
    exact Settings.checkPeriod_pos valid
  let last := scene.around.time + duration
  let reached := iterateUntil stampOf last scene.agent.settings.shared.checkPeriod (duration + 1)
    scene.init.1.around.time scene.init.1 []
  obtain ⟨ticks, ended⟩ : ∃ ticks, reached.1.agent.Comes engine settings
      (calls ++ [.init] ++ (List.replicate ticks [.iterate, .recover]).flatten) :=
    comes_iterateUntil valid (comes_init valid comes) ..
  have begins : scene.around.time ≤ scene.init.1.around.time :=
    le_time_recover { scene with agent := scene.agent.beginInit.1 } Agent.initWork _
  have lasts : last ≤ reached.1.around.time := le_time_iterateUntil stampOf _ apart (by omega)
  have closes : reached.1.around.time ≤ reached.1.cleanUp.around.time :=
    le_time_recover { reached.1 with agent := reached.1.agent.beginCleanUp.1 } Agent.cleanUpWork _
  have ran : scene.run? stampOf duration =
      some (reached.1.cleanUp, scene.init.2.2 ++ reached.2) := if_neg apart.ne'
  exact ⟨_, _, ticks, ran, Nat.le_trans lasts closes, comes_cleanUp valid ended⟩

end Scene
end BeanHarvest
