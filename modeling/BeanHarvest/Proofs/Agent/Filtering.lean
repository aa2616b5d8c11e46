import BeanHarvest.Proofs.Agent.Conservation
import BeanHarvest.Proofs.Instance.Appending
import BeanHarvest.Proofs.Instance.Faults
import BeanHarvest.Proofs.Instance.Recovering

/-! Filters hold: the patterns of valid settings can all be prepared, those of the instances, the shared
ones and the built-in ones. So whatever was done with an instance, no filter fails on it afterwards,
whatever beans and classes its target has. -/
namespace BeanHarvest

namespace Configuration

def Prepares (engine : Pattern.Engine) (configuration : Configuration) : Prop :=
  ∃ compiled, configuration.compile engine = .ok compiled

theorem Prepares.withPrefix {engine : Pattern.Engine} {configuration : Configuration}
    (prepares : configuration.Prepares engine) (metricPrefix : Option String) :
    (configuration.withPrefix metricPrefix).Prepares engine := prepares

end Configuration

namespace Settings

variable {engine : Pattern.Engine} {settings : Settings} {given : InstanceSettings}

theorem prepares_of_checkFilters {place : String} {configurations : List Configuration}
    (checked : checkFilters engine place configurations = .ok ()) :
    ∀ configuration ∈ configurations, configuration.Prepares engine := by
  induction configurations with
  | nil => exact fun _ member => nomatch member
  | cons configuration rest ih =>
    unfold checkFilters at checked
    split at checked
    · next compiled prepared => exact List.forall_mem_cons.mpr ⟨⟨compiled, prepared⟩, ih checked⟩
    · cases checked

theorem checkInstance_inv {before : List String} (checked : checkInstance engine before given = .ok ()) :
    checkFilters engine given.name given.configurations = .ok () := by
  unfold checkInstance at checked
  split at checked
  · cases checked
  · split at checked
    · cases checked
    · split at checked
      · cases checked
      · exact checked

theorem checkInstances_inv {before : List String} {instances : List InstanceSettings}
    (checked : checkInstances engine before instances = .ok ()) (member : given ∈ instances) :
    ∃ earlier, checkInstance engine earlier given = .ok () := by
  induction instances generalizing before with
  | nil => cases member
  | cons first rest ih =>
    unfold checkInstances at checked
    split at checked
    · next well =>
      rcases List.mem_cons.mp member with rfl | later
      · exact ⟨before, well⟩
      · exact ih checked later
    · cases checked

/-- All configurations of an instance of valid settings can be prepared, wherever they come from. -/
theorem configurations_prepare (valid : settings.validate engine = .ok ())
    (member : given ∈ settings.instances) :
    ∀ configuration ∈ settings.configurations given, configuration.Prepares engine := by
  obtain ⟨shared, instances⟩ := validate_inv valid
  obtain ⟨_, checked⟩ := checkInstances_inv instances member
  refine List.forall_mem_map.mpr fun configuration present => Configuration.Prepares.withPrefix ?_ _
  rcases List.mem_append.mp present with given | builtIn
  · rcases List.mem_append.mp given with own | common
    · exact prepares_of_checkFilters (checkInstance_inv checked) configuration own
    · exact prepares_of_checkFilters shared configuration common
  · split at builtIn
    · exact Configuration.builtIns_compile engine configuration builtIn
    · cases builtIn

end Settings

/-- Whether a fault is one of anything but a filter. -/
def InstanceFault.IsUnfiltered (fault : InstanceFault) : Prop := ∀ cause, fault ≠ .filter cause

namespace Instance

variable {one : Instance}

def Prepared (one : Instance) : Prop :=
  ∀ configuration ∈ one.configurations, configuration.Prepares one.engine

/-- Where all configurations can be prepared, no pass raises a fault of a filter. -/
theorem Prepared.isUnfiltered (prepared : one.Prepared) {action : Action} {fault : InstanceFault}
    (raises : (one.rules action).Raises fault) : fault.IsUnfiltered := by
  rintro cause rfl
  obtain ⟨bean, className, fails⟩ := raises
  obtain ⟨selecting, selects⟩ := selecting_of_compile prepared bean className
  cases fails.symm.trans selects

theorem confining_prepared : Confining Prepared InstanceFault.IsUnfiltered where
  steady := {
    congr := fun prepared akin configuration member =>
      akin.engine ▸ prepared configuration (akin.configurations ▸ member)
    drops := fun prepared _ => prepared
    passes := fun _ prepared => Dialogue.yieldsUnder_of_forall fun _ _ _ => prepared
    reads := fun prepared _ => Dialogue.yieldsUnder_of_forall fun _ => prepared }
  connection := fun _ => nofun
  notInitialized := fun _ => nofun
  raised := fun _ prepared _ raises => prepared.isUnfiltered raises

/-- What an instance is like on which no filter fails: whatever is answered, matching, starting and
collecting never end with a fault of a filter; and where the target fails at nothing, all attributes
are looked at. -/
structure FiltersHold (one : Instance) : Prop where
  matching : ∀ action start after fault,
    ¬(matchAttributes action start one).CanEnd after (.error (.filter fault))
  starting : ∀ action anew start after fault,
    ¬(init action anew start one).CanEnd after (.error (.filter fault))
  collecting : ∀ start after fault, ¬(collect start one).CanEnd after (.error (.filter fault))
  passing : one.isConnected = true → ∀ (answers : BeanHarvest.Answers) action start, ∃ pass,
    (matchAttributes action start one).finish answers.outcome start = (one.withPass pass, .ok ()) ∧
      pass.Gathers (one.rules action) (one.bindable answers)

theorem Prepared.filtersHold (prepared : one.Prepared) : one.FiltersHold where
  matching action _ _ fault ends :=
    (confining_prepared.matchAttributes action).of_canEnd prepared ends fault rfl
  starting action anew _ _ fault ends :=
    (confining_prepared.init action anew).of_canEnd prepared ends fault rfl
  collecting _ _ fault ends := confining_prepared.collect.of_canEnd prepared ends fault rfl
  passing connected _ action start := matchAttributes_gathers connected
    (fun bean _ => Answers.faultless_of_compile prepared bean) action start

/-- What an instance of valid settings was made of can be prepared, so it can be for good. -/
theorem prepared_of_origin {engine : Pattern.Engine} {settings : Settings}
    {given : InstanceSettings}
    (valid : settings.validate engine = .ok ()) (member : given ∈ settings.instances)
    (same : one.origin = (ofSettings engine settings given).origin) : one.Prepared := by
  have configurations : one.configurations = settings.configurations given :=
    congrArg (·.configurations) same
  have searches : one.engine = engine := congrArg (·.engine) same
  unfold Prepared
  rw [configurations, searches]
  exact Settings.configurations_prepare valid member

end Instance

namespace Agent

variable {engine : Pattern.Engine} {settings : Settings}

/-- On an instance of valid settings no filter fails: neither when it was used by itself, nor in the
hands of an agent, after any calls with any outcomes. -/
theorem filters_hold (valid : settings.validate engine = .ok ()) :
    (∀ given ∈ settings.instances, ∀ one,
      (Instance.ofSettings engine settings given).Lives one → one.FiltersHold) ∧
    ∀ calls agent, Run engine settings calls agent →
      ∀ handle ∈ agent.handles, handle.one.FiltersHold := by
  constructor
  · intro given member one lives
    exact (Instance.prepared_of_origin valid member lives.origin).filtersHold
  · intro calls agent run handle member
    obtain ⟨given, configured, same⟩ := run.configured member
    have made : handle.one.origin = (Instance.ofSettings engine settings given).origin :=
      (congrArg (fun handle : Handle => handle.one.origin) same :)
    exact (Instance.prepared_of_origin valid configured made).filtersHold

/-- A target with patterns on both sides of its configuration. -/
def patternedTarget : InstanceSettings where
  name := "east"
  metricPrefix := some "east"
  configurations := [⟨{ Filter.empty with beanPatterns := ["app:type=([A-Z][a-z]*),?.*"] },
    { Filter.empty with classPattern := some ".*Impl" }, none, []⟩]

/-- The settings of this target, with patterns in what is shared as well. -/
def patterned : Settings where
  shared := { configurations := [⟨{ Filter.empty with classPattern := some "app[.].*(Pool|Gc)" },
    { Filter.empty with domainPattern := some "test" }, none, []⟩] }
  instances := [patternedTarget]

theorem patterned_valid : patterned.validate Pattern.engine = .ok () :=
  Settings.valid_of_toOption (by decide +kernel)

/-- The only target has panicked while it was started, with a bean found. -/
theorem filters_hold_patterned : patterned.validate Pattern.engine = .ok () ∧
    ∃ agent handle, Run Pattern.engine patterned [.init] agent ∧ agent.broken = [handle] ∧
      handle.one.beans = [⟨"app", [("type", "Gc")], "app:type=Gc"⟩] ∧ handle.one.FiltersHold := by
  let gc : Bean := ⟨"app", [("type", "Gc")], "app:type=Gc"⟩
  let begun := (ofSettings Pattern.engine patterned).beginInit
  let found : Instance :=
    { Instance.ofSettings Pattern.engine patterned patternedTarget with
      isConnected := true
      beans := [gc] }
  let turns : List (Turn Unit) := [⟨.panicked "overflow", found, false⟩]
  have possible : ∀ entry ∈ begun.2.zip turns, entry.2.CanBe initWork entry.1.one := by
    intro entry member
    cases List.mem_singleton.mp member
    exact .panicked "overflow" rfl
  obtain ⟨crew, performed⟩ : ∃ crew, begun.1.recovery.Performs initWork begun.2 (.ok turns) crew :=
    ⟨_, .performed rfl [.start 0, .panic 0 "overflow"] rfl possible⟩
  have run : Run Pattern.engine patterned [.init] _ := .call .start (.init (.mk performed))
  refine ⟨patterned_valid, _, _, run, rfl, rfl, ?_⟩
  exact (filters_hold patterned_valid).2 _ _ run _ (List.mem_append_right _ List.mem_cons_self)

end Agent
end BeanHarvest
