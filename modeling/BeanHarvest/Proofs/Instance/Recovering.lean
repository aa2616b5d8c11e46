import BeanHarvest.Proofs.Instance.Eviction
import BeanHarvest.Proofs.Instance.Origin
import BeanHarvest.Proofs.Instance.Passes
import BeanHarvest.Proofs.Target.Likeness
import BeanHarvest.Target.Rehearsal

/-! Recovering: an instance that is started anew forgets what was done with it. Whatever went well, wrong
or was cut short before, it starts just as an instance of the same settings would that was never used. -/
namespace BeanHarvest

/-- Whether work on an instance can leave it so: at the end of the work, or cut short at a call. -/
def Operation.Leaves {α : Type} (work : Operation Instance α) (one after : Instance) : Prop :=
  ∃ time, (∃ result, (work time one).CanEnd after result) ∨ (work time one).CanStop after

theorem Operation.Leaves.keeps {α : Type} {work : Operation Instance α} {kept : Instance → Prop}
    {one after : Instance} (left : work.Leaves one after) (keeps : work.Keeps kept)
    (holds : kept one) : kept after := by
  obtain ⟨time, ⟨result, ends⟩ | stops⟩ := left
  · exact ends.meets (keeps time one holds)
  · exact stops.meets (keeps time one holds)

namespace Instance

open Session (AlikeEnd)

/-- What an instance can be like after anything was done with it, over and over: each piece of work
either came to its end or was cut short. -/
inductive Lives (first : Instance) : Instance → Prop where
  | unused : Lives first first
  | init {one after : Instance} (action : Action) (anew : Bool) (lives : Lives first one)
      (left : (init action anew).Leaves one after) : Lives first after
  | collect {one after : Instance} (lives : Lives first one) (left : collect.Leaves one after) :
      Lives first after
  | refreshBeans {one after : Instance} (lives : Lives first one)
      (left : refreshBeans.Leaves one after) : Lives first after
  | matchAttributes {one after : Instance} (action : Action) (lives : Lives first one)
      (left : (matchAttributes action).Leaves one after) : Lives first after
  | markBroken {one : Instance} (lives : Lives first one) : Lives first one.markBroken
  | cleanUp {one after : Instance} (lives : Lives first one) (left : cleanUp.Leaves one after) :
      Lives first after

/-- Nothing that is done with an instance changes what it is made of. -/
theorem Lives.origin {first one : Instance} (lives : Lives first one) : one.origin = first.origin := by
  induction lives with
  | unused => rfl
  | init action anew _ left ih => exact left.keeps (init_keeps_origin action anew) ih
  | collect _ left ih => exact left.keeps collect_keeps_origin ih
  | refreshBeans _ left ih => exact left.keeps refreshBeans_keeps_origin ih
  | matchAttributes action _ left ih => exact left.keeps (matchAttributes_keeps_origin action) ih
  | markBroken _ ih => exact ih
  | cleanUp _ left ih => exact left.keeps cleanUp_keeps_origin ih

variable {one other : Instance} {time : Nat}

theorem followed_alike {ε α β : Type} {first second : Operation Instance (Except ε α)}
    {next : α → Operation Instance (Except ε β)} {between : Instance → Instance → α → Prop}
    {after : Instance → Instance → β → Prop}
    (alike : (first time one).Alike (AlikeEnd between) (second time other))
    (rest : ∀ time one other value, between one other value →
      (next value time one).Alike (AlikeEnd after) (next value time other)) :
    (followed first next time one).Alike (AlikeEnd after) (followed second next time other) := by
  refine alike.andThen fun time state result other value ⟨same, related⟩ => ?_
  subst same
  cases result with
  | ok value => exact rest time state other value (related value rfl)
  | error fault => exact .done time .error

/-- A first connection is asked for, and is there if it is granted. -/
theorem connect_asks (anew : Bool) (time : Nat) (fresh : one.isConnected = false) :
    connect anew time one = .ask one .connect fun time outcome =>
      match outcome with
      | .ok () => .done time { one with isConnected := true } (.ok ())
      | .error fault => .done time one (.error (.connection fault)) := by
  obtain ⟨settings, configurations, schedule, engine, isConnected⟩ := one
  cases fresh
  unfold connect
  simp only [Operation.get_bind]
  change Session.ask _ _ _ = _
  congr 1
  funext time outcome
  cases outcome <;> rfl

theorem connect_alike (anew : Bool) (fresh : one.isConnected = false)
    (fresh₂ : other.isConnected = false) :
    (connect anew time one).Alike (AlikeEnd fun state state₂ _ =>
      state = { one with isConnected := true } ∧ state₂ = { other with isConnected := true })
      (connect anew time other) := by
  rw [connect_asks anew time fresh, connect_asks anew time fresh₂]
  refine .ask _ _ _ fun time outcome => ?_
  cases outcome with
  | ok done => exact .done time (.ok ⟨rfl, rfl⟩)
  | error fault => exact .done time .error

theorem refreshBeans_alike (connected : one.isConnected = true)
    (connected₂ : other.isConnected = true) (same : one.configurations = other.configurations) :
    (refreshBeans time one).Alike (AlikeEnd fun state state₂ _ => ∃ now beans,
      state = one.withBeans now beans ∧ state₂ = other.withBeans now beans)
      (refreshBeans time other) := by
  rw [refreshBeans, connectedOr_of_connected connected, connectedOr_of_connected connected₂]
  simp only [Operation.get_bind, same]
  refine (Operation.alike_hold (findBeans_yields other.configurations) time one other).andThen ?_
  rintro time state result state₂ value ⟨rfl, rfl, rfl, _⟩
  cases result with
  | error fault => exact .done time .error
  | ok beans => exact .done time (.ok ⟨time, beans, rfl, rfl⟩)

theorem matchAttributes_alike (action : Action) (connected : one.isConnected = true)
    (connected₂ : other.isConnected = true) (same : one.origin = other.origin)
    (beans : one.beans = other.beans) :
    (matchAttributes action time one).Alike (AlikeEnd fun state state₂ _ => ∃ pass,
      pass.Sound other.schedule.maxMetrics other.beans ∧
        state = one.withPass pass ∧ state₂ = other.withPass pass)
      (matchAttributes action time other) := by
  have rules : one.origin.rules action = other.origin.rules action := by rw [same]
  have rules : one.rules action = other.rules action := rules
  rw [matchAttributes, connectedOr_of_connected connected, connectedOr_of_connected connected₂]
  simp only [Operation.get_bind, rules, beans]
  refine (Operation.alike_hold (rules_yields other action other.beans) time one other).andThen ?_
  rintro time state result state₂ value ⟨rfl, rfl, rfl, sound⟩
  cases result with
  | error fault => exact .done time .error
  | ok pass => exact .done time (.ok ⟨pass, sound, rfl, rfl⟩)

/-- How two instances that are made of the same are related when both were started: the same beans were
found at the same time, and the same was matched. -/
def StartedAlike (one other : Instance) (phase : Phase) (state state₂ : Instance) : Prop :=
  ∃ now beans pass, pass.Sound other.schedule.maxMetrics beans ∧
    state = { one.startedWith now beans pass with phase } ∧
    state₂ = { other.startedWith now beans pass with phase }

theorem start_alike (action : Action) (anew : Bool) (fresh : one.isConnected = false)
    (fresh₂ : other.isConnected = false) (same : one.origin = other.origin) :
    (start action anew time one).Alike
      (AlikeEnd fun state state₂ _ => StartedAlike one other .connected state state₂)
      (start action anew time other) := by
  have configurations : one.configurations = other.configurations := congrArg (·.configurations) same
  refine followed_alike (connect_alike anew fresh fresh₂) ?_
  rintro time _ _ _ ⟨rfl, rfl⟩
  simp only [Operation.modify_bind]
  refine followed_alike (refreshBeans_alike rfl rfl configurations) ?_
  rintro now _ _ _ ⟨found, beans, rfl, rfl⟩
  simp only [Operation.modify_bind]
  refine (matchAttributes_alike action ?_ ?_ ?_ ?_).imp ?_
  · rfl
  · rfl
  · exact same
  · rfl
  rintro _ _ _ _ ⟨result, related⟩
  refine ⟨result, fun well ended => ?_⟩
  obtain ⟨pass, sound, rfl, rfl⟩ := related well ended
  exact ⟨found, beans, pass, sound, rfl, rfl⟩

/-- Unconnected instances that are made of the same start alike. -/
theorem init_alike (action : Action) (anew : Bool) (fresh : one.isConnected = false)
    (fresh₂ : other.isConnected = false) (same : one.origin = other.origin) :
    (init action anew time one).Alike
      (AlikeEnd fun state state₂ _ => StartedAlike one other .ready state state₂)
      (init action anew time other) := by
  obtain ⟨phase, first⟩ := begun_eq one
  obtain ⟨phase₂, second⟩ := begun_eq other
  unfold init
  simp only [Operation.modify_bind, first, second]
  let begun : Instance := { one with phase }
  let begun₂ : Instance := { other with phase := phase₂ }
  have started : (start action anew time begun).Alike
      (AlikeEnd fun state state₂ _ => StartedAlike begun begun₂ .connected state state₂)
      (start action anew time begun₂) := start_alike action anew fresh fresh₂ same
  refine started.andThen ?_
  rintro time state result state₂ value ⟨rfl, related⟩
  cases result with
  | error fault => exact .done time .error
  | ok done =>
    obtain ⟨now, beans, pass, sound, rfl, rfl⟩ := related done rfl
    exact .done time (.ok ⟨now, beans, pass, sound, rfl, rfl⟩)

/-- A connected instance that is started anew, when it closes its connection. -/
def closing (one : Instance) : Instance :=
  { one with
    phase := if one.phase = .broken then .recovering else one.phase
    isConnected := false }

/-- Once its connection is closed, an instance goes on as if it had not had one. -/
theorem init_of_connected (action : Action) (time : Nat) (connected : one.isConnected = true) :
    init action true time one =
      .ask one.closing .close fun time _ => init action true time one.closing := by
  obtain ⟨settings, configurations, schedule, engine, isConnected, phase⟩ := one
  cases connected
  cases phase <;> rfl

/-- What a start leaves is told by what the instance is made of, but for the latest collection. -/
theorem startedWith_of_origin (same : one.origin = other.origin) (now : Nat) (beans : List Bean)
    (pass : MatchPass) : one.startedWith now beans pass =
      { other.startedWith now beans pass with lastCollection := one.lastCollection } := by
  have settings : one.settings = other.settings := congrArg (·.settings) same
  have configurations : one.configurations = other.configurations := congrArg (·.configurations) same
  have schedule : one.schedule = other.schedule := congrArg (·.schedule) same
  have engine : one.engine = other.engine := congrArg (·.engine) same
  simp only [startedWith, withBeans, withPass, settings, configurations, schedule, engine]

/-- Against a target that cannot tell its states apart, unconnected instances that are made of the same
are started in the same time, well or not, and are the same afterwards if they were started well. -/
theorem run_init_alike {τ : Type} {target : Target τ} {alike : τ → τ → Prop}
    (indistinct : target.Indistinct alike) {world world₂ : τ} (worlds : alike world world₂)
    (action : Action) (anew : Bool) (fresh : one.isConnected = false)
    (fresh₂ : other.isConnected = false) (same : one.origin = other.origin) (time : Nat) :
    ∃ ended recovered restarted after after₂ result,
      target.run none world time (init action anew time one) = .ended ended recovered after result ∧
      target.run none world₂ time (init action anew time other) =
        .ended ended restarted after₂ result ∧
      alike after after₂ ∧
      (result = .ok () →
        recovered = { restarted with lastCollection := one.lastCollection } ∧
        restarted.phase = .ready ∧ restarted.failing = [] ∧
        restarted.refreshedSinceStart = false ∧
        ∀ bound ∈ restarted.matched, bound.KeepsNothing) := by
  have sessions : (init action anew time one).Alike
      (AlikeEnd fun state state₂ _ => StartedAlike one other .ready state state₂)
      (init action anew time other) := init_alike action anew fresh fresh₂ same
  obtain ⟨ended, recovered, result, after, restarted, _, after₂, ran, ran₂, ⟨rfl, related⟩, later⟩ :=
    Target.run_alike indistinct sessions worlds time
  refine ⟨ended, recovered, restarted, after, after₂, result, ran, ran₂, later, fun well => ?_⟩
  obtain ⟨now, beans, pass, sound, rfl, rfl⟩ := related () well
  exact ⟨startedWith_of_origin same now beans pass, rfl, rfl, rfl, sound.keepsNothing⟩

/-- An instance that was used in any way is started anew just as one of the same settings that was never
used: it starts well or not alike, in the same time once its old connection is closed, and if well it is
ready, with the same beans, attributes and marks. Only the time of its latest collection stays. -/
theorem recovery_forgets {τ : Type} {target : Target τ} {alike : τ → τ → Prop}
    (ignores : target.IgnoresConnections alike) {engine : Pattern.Engine} {settings : Settings}
    {given : InstanceSettings}
    (lives : Lives (ofSettings engine settings given) one) (world : τ) (time : Nat) :
    let begun := time + if one.isConnected then (target.reply world .close).delay else 0
    ∃ ended recovered restarted after after₂ result,
      target.run none world time (init .collect true time one) =
        .ended ended recovered after result ∧
      target.run none world begun (init .collect true begun (ofSettings engine settings given)) =
        .ended ended restarted after₂ result ∧
      alike after after₂ ∧
      (result = .ok () →
        recovered = { restarted with lastCollection := one.lastCollection } ∧
        restarted.phase = .ready ∧ restarted.failing = [] ∧
        restarted.refreshedSinceStart = false ∧
        ∀ bound ∈ restarted.matched, bound.KeepsNothing) := by
  intro begun
  cases connected : one.isConnected with
  | false =>
    have same : begun = time := by simp [begun, connected]
    rw [same]
    exact run_init_alike ignores.indistinct (ignores.refl world) .collect true connected rfl
      lives.origin time
  | true =>
    have later : begun = time + (target.reply world .close).delay := by simp [begun, connected]
    have arrived : Target.arrives none time (target.reply world .close).delay = true := by
      simp [Target.arrives]
    have closed : one.closing.isConnected = false := rfl
    obtain ⟨ended, recovered, restarted, after, after₂, result, ran, others⟩ :=
      run_init_alike ignores.indistinct (ignores.closes world) .collect true closed rfl lives.origin
        begun
    refine ⟨ended, recovered, restarted, after, after₂, result, ?_, others⟩
    rw [init_of_connected .collect time connected, ← ran, later]
    simp only [Target.run, arrived, if_true]

/-- Settings of just one target, whose instance collects whatever attributes there are. -/
def watchedAlone : Settings where
  shared := {
    collectDefaults := false
    refreshPeriod := none
    maxMetrics := 10
    configurations := [⟨Filter.empty, Filter.empty, none, []⟩] }
  instances := [{ name := "east" }]

theorem rehearsal_ignoresConnections : Rehearsal.asTarget.IgnoresConnections Eq where
  indistinct := by
    rintro world _ rfl call
    exact ⟨rfl, rfl, rfl⟩
  refl _ := rfl
  closes _ := rfl

/-- A broken instance that still has its old connection and an attribute is started anew against a
target that has no beans any more. -/
theorem recovery_forgets_watched : ∃ one,
    Lives (ofSettings Pattern.engine watchedAlone { name := "east" }) one ∧
    one.phase = .broken ∧ one.isConnected = true ∧ one.matched.length = 1 ∧
    Rehearsal.asTarget.IgnoresConnections Eq ∧
    ∃ ended recovered after, Rehearsal.asTarget.run none {} 0 (init .collect true 0 one) =
        .ended ended recovered after (.ok ()) ∧
      recovered.phase = .ready ∧ recovered.matched = [] := by
  obtain ⟨bound, _, passed⟩ := watched_matched rfl
  obtain ⟨now, _, ends⟩ := init_ends rfl rfl (watched_found rfl) passed false 0
  let started := watched.startedWith now [threading] { matched := [bound], metricCount := 1 }
  have left : (init .collect false).Leaves watched started := ⟨0, .inl ⟨_, ends.canEnd⟩⟩
  have lives : Lives (ofSettings Pattern.engine watchedAlone { name := "east" }) started.markBroken :=
    .markBroken (.init .collect false .unused left)
  obtain ⟨ended, recovered, restarted, after, _, result, ran, ran₂, _, well⟩ :=
    recovery_forgets rehearsal_ignoresConnections lives {} 0
  have fresh : Rehearsal.asTarget.run none {} 0 (init .collect true 0 watched) =
      .ended 0 (watched.startedWith 0 [] {}) { counts := ⟨1, 1, 0, 0, 0⟩ } (.ok ()) := by
    with_unfolding_all rfl
  cases fresh.symm.trans ran₂
  obtain ⟨rfl, ready, _⟩ := well rfl
  exact ⟨_, lives, rfl, rfl, rfl, rehearsal_ignoresConnections, _, _, _, ran, ready, rfl⟩

end Instance
end BeanHarvest
