import BeanHarvest.Crew.Floor

namespace BeanHarvest

namespace Crew

variable {crew : Crew}

theorem length_pools : crew.pools.length = crew.poolNumber + 1 := by
  simp [pools, poolNumber]

theorem pool?_isSome_iff {number : Nat} :
    (crew.pool? number).isSome ↔ number ≤ crew.poolNumber := by
  simp only [pool?, isSome_getElem?, length_pools]
  omega

theorem pool?_poolNumber (crew : Crew) : crew.pool? crew.poolNumber = some crew.pool := by
  simp [pool?, pools, poolNumber]

theorem known_of_pool? {number : Nat} {pool : Pool} (found : crew.pool? number = some pool) :
    number ≤ crew.poolNumber := by
  apply pool?_isSome_iff.mp
  rw [found]
  rfl

theorem pools_withPool (number : Nat) (pool : Pool) :
    (crew.withPool number pool).pools = crew.pools.set number pool := by
  by_cases current : number = crew.poolNumber
  · rw [withPool, if_pos current, current]
    simp [pools, poolNumber]
  · rw [withPool, if_neg current, pools, pools, List.set_append]
    split
    · rfl
    · -- A number beyond all pools: neither side puts the pool anywhere.
      rename_i beyond
      rw [List.set_eq_of_length_le (Nat.not_lt.mp beyond), List.set_eq_of_length_le]
      rw [List.length_singleton]
      simp only [poolNumber] at current
      omega

theorem pool?_withPool {number : Nat} (known : number ≤ crew.poolNumber) (pool : Pool)
    (other : Nat) :
    (crew.withPool number pool).pool? other =
      if other = number then some pool else crew.pool? other := by
  have bound : number < crew.pools.length := by
    rw [length_pools]
    omega
  simp only [pool?, pools_withPool, List.getElem?_set, bound, if_true, eq_comm]

theorem poolNumber_withPool (number : Nat) (pool : Pool) :
    (crew.withPool number pool).poolNumber = crew.poolNumber := by
  have same : (crew.withPool number pool).pools.length = crew.pools.length := by
    rw [pools_withPool, List.length_set]
  simp only [length_pools] at same
  omega

theorem size_withPool (number : Nat) (pool : Pool) :
    (crew.withPool number pool).size = crew.size := by
  simp only [withPool]
  split <;> rfl

theorem name_withPool (number : Nat) (pool : Pool) :
    (crew.withPool number pool).name = crew.name := by
  simp only [withPool]
  split <;> rfl

theorem pool?_renew (number : Nat) : crew.renew.pool? number =
    if number = crew.poolNumber + 1 then some (.ofSize crew.size) else crew.pool? number := by
  have longer : crew.renew.pools = crew.pools ++ [Pool.ofSize crew.size] := rfl
  simp only [pool?, longer, ← length_pools]
  rcases Nat.lt_trichotomy number crew.pools.length with old | fresh | beyond
  · rw [List.getElem?_append_left old, if_neg (Nat.ne_of_lt old)]
  · rw [fresh, List.getElem?_concat_length, if_pos rfl]
  · rw [if_neg (Nat.ne_of_gt beyond), List.getElem?_eq_none (Nat.le_of_lt beyond)]
    apply List.getElem?_eq_none
    rw [List.length_append, List.length_singleton]
    exact beyond

theorem poolNumber_renew : crew.renew.poolNumber = crew.poolNumber + 1 := by
  simp [renew, poolNumber]

theorem pool?_drain (number : Nat) :
    crew.drain.pool? number = (crew.pool? number).map Pool.drain := by
  have each : crew.drain.pools = crew.pools.map Pool.drain := by
    simp [pools, drain]
  simp only [pool?, each, List.getElem?_map]

theorem poolNumber_drain : crew.drain.poolNumber = crew.poolNumber := by
  simp [drain, poolNumber]

theorem refusal?_eq_none_iff : crew.refusal? = none ↔
    crew.isStopped = false ∧ crew.pool.active < crew.size := by
  simp only [refusal?, isHealthy, decide_eq_true_eq]
  by_cases isStopped : crew.isStopped
  · simp [isStopped]
  · by_cases isFree : crew.pool.active < crew.size <;> simp [isStopped, isFree]

end Crew

namespace TaskStep

variable {α : Type}

/-- The steps of a task that can be, each with where it leads the task and the pool. -/
inductive Leads (pool : Pool) : TaskStep α → Stage α → Stage α → Pool → Prop where
  | engage (idle : 0 < pool.idle) (isOpen : pool.isClosed = false) :
      Leads pool .engage .waiting .engaged pool.engage
  | count : Leads pool .count .engaged .running pool.count
  | conclude (result : α) :
      Leads pool (.conclude result) .running (.retiring (.completed result)) pool.uncount
  | unwind (message : String) :
      Leads pool (.unwind message) .running (.retiring (.panicked message)) pool.uncount
  | release (ending : Ending α) :
      Leads pool .release (.retiring ending) (.ended ending) pool.release
  | cancel (isClosed : pool.isClosed = true) :
      Leads pool .cancel .waiting (.ended .cancelled) pool
  | abortWaiting :
      Leads pool .abort .waiting (.ended .timedOut) { pool with late := pool.late + 1 }
  | abortEngaged :
      Leads pool .abort .engaged (.ended .timedOut) { pool with entering := pool.entering + 1 }
  | abortRunning :
      Leads pool .abort .running (.ended .timedOut) { pool with leaving := pool.leaving + 1 }
  | abortRetiring (ending : Ending α) :
      Leads pool .abort (.retiring ending) (.ended .timedOut)
        { pool with parting := pool.parting + 1 }

theorem after?_eq_some_iff {pool after : Pool} {step : TaskStep α} {stage next : Stage α} :
    step.after? pool stage = some (next, after) ↔ step.Leads pool stage next after := by
  constructor
  · intro done
    cases step with
    | engage =>
      cases stage <;> simp [TaskStep.after?] at done
      obtain ⟨⟨idle, isOpen⟩, rfl, rfl⟩ := done
      exact .engage idle isOpen
    | count =>
      cases stage <;> simp [TaskStep.after?] at done
      obtain ⟨rfl, rfl⟩ := done
      exact .count
    | conclude result =>
      cases stage <;> simp [TaskStep.after?] at done
      obtain ⟨rfl, rfl⟩ := done
      exact .conclude result
    | unwind message =>
      cases stage <;> simp [TaskStep.after?] at done
      obtain ⟨rfl, rfl⟩ := done
      exact .unwind message
    | release =>
      cases stage <;> simp [TaskStep.after?] at done
      obtain ⟨rfl, rfl⟩ := done
      exact .release _
    | cancel =>
      cases stage <;> simp [TaskStep.after?] at done
      obtain ⟨isClosed, rfl, rfl⟩ := done
      exact .cancel isClosed
    | abort =>
      cases stage <;> simp [TaskStep.after?] at done
      all_goals obtain ⟨rfl, rfl⟩ := done
      · exact .abortWaiting
      · exact .abortEngaged
      · exact .abortRunning
      · exact .abortRetiring _
  · intro leads
    cases leads <;> simp_all [TaskStep.after?]

end TaskStep

namespace Pool

/-- The books of a pool of so many workers: every task that is counted runs or is leaving, and every
worker is idle or with a task that goes on or was aborted. -/
structure Fits (size running holding : Nat) (pool : Pool) : Prop where
  counted : pool.active = running + pool.leaving
  staffed : pool.idle + holding + pool.entering + pool.leaving + pool.parting = size

variable {α : Type} {size running holding : Nat} {pool after : Pool}

theorem fits_ofSize (size : Nat) : (ofSize size).Fits size 0 0 := by
  constructor <;> simp [ofSize]

theorem lowered_of_le {active count : Nat} (enough : count ≤ active) :
    lowered active count = active - count := if_pos enough

theorem Fits.close (fits : pool.Fits size running holding) :
    pool.close.Fits size running holding := ⟨fits.counted, fits.staffed⟩

theorem Fits.drain (fits : pool.Fits size running holding) :
    pool.drain.Fits size running holding := by
  obtain ⟨counted, staffed⟩ := fits
  have enough : pool.leaving ≤ pool.active := by omega
  constructor
  · simp only [Pool.drain, lowered_of_le enough]
    omega
  · simp only [Pool.drain]
    omega

theorem Fits.straggler {step : StragglerStep} (fits : pool.Fits size running holding)
    (done : step.after? pool = some after) : after.Fits size running holding := by
  obtain ⟨counted, staffed⟩ := fits
  cases step with
  | engage =>
    simp only [StragglerStep.after?, Option.ite_none_right_eq_some, Option.some.injEq] at done
    obtain ⟨⟨-, idle, -⟩, rfl⟩ := done
    constructor <;> simp only [Pool.engage] <;> omega
  | count =>
    simp only [StragglerStep.after?, Option.ite_none_right_eq_some, Option.some.injEq] at done
    obtain ⟨entering, rfl⟩ := done
    constructor <;> simp only [Pool.count] <;> omega
  | uncount =>
    simp only [StragglerStep.after?, Option.ite_none_right_eq_some, Option.some.injEq] at done
    obtain ⟨leaving, rfl⟩ := done
    have enough : 1 ≤ pool.active := by omega
    constructor <;> simp only [Pool.uncount, lowered_of_le enough] <;> omega
  | release =>
    simp only [StragglerStep.after?, Option.ite_none_right_eq_some, Option.some.injEq] at done
    obtain ⟨parting, rfl⟩ := done
    constructor <;> simp only [Pool.release] <;> omega
  | quit =>
    simp only [StragglerStep.after?, Option.ite_none_right_eq_some, Option.some.injEq] at done
    obtain ⟨-, rfl⟩ := done
    exact ⟨counted, staffed⟩

/-- The books that are right with a task in its stage are right after a step of the task. -/
theorem Fits.step {step : TaskStep α} {stage next : Stage α}
    (fits : pool.Fits size (running + stage.isRunning.toNat) (holding + stage.hasWorker.toNat))
    (leads : step.Leads pool stage next after) :
    after.Fits size (running + next.isRunning.toNat) (holding + next.hasWorker.toNat) := by
  obtain ⟨counted, staffed⟩ := fits
  cases leads with
  | conclude result | unwind message =>
    simp only [Stage.isRunning, Stage.hasWorker, Bool.toNat_true] at counted staffed
    have enough : 1 ≤ pool.active := by omega
    constructor <;>
      simp only [Stage.isRunning, Stage.hasWorker, Bool.toNat_true, Bool.toNat_false, uncount,
        lowered_of_le enough] <;> omega
  | _ =>
    simp only [Stage.isRunning, Stage.hasWorker, Bool.toNat_true, Bool.toNat_false] at counted staffed
    constructor <;>
      simp only [Stage.isRunning, Stage.hasWorker, Bool.toNat_true, Bool.toNat_false, engage, count,
        release] <;> omega

theorem Fits.steps {steps : List (TaskStep α)} {stage next : Stage α}
    (fits : pool.Fits size (running + stage.isRunning.toNat) (holding + stage.hasWorker.toNat))
    (done : TaskStep.afterAll? pool stage steps = some (next, after)) :
    after.Fits size (running + next.isRunning.toNat) (holding + next.hasWorker.toNat) := by
  induction steps generalizing pool stage with
  | nil =>
    cases done
    exact fits
  | cons step rest ih =>
    obtain ⟨⟨reached, between⟩, first, others⟩ := Option.bind_eq_some_iff.mp done
    exact ih (fits.step (TaskStep.after?_eq_some_iff.mp first)) others

end Pool
end BeanHarvest
