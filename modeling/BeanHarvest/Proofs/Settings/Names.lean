import BeanHarvest.Settings.Validation

namespace BeanHarvest.Settings

variable {engine : Pattern.Engine}

private theorem not_repeated {before : List String} {one : InstanceSettings}
    (valid : checkInstance engine before one = .ok ()) : one.name ∉ before := by
  intro repeated
  unfold checkInstance at valid
  split at valid
  · cases valid
  · simp [repeated] at valid

private theorem names_nodup {before : List String} {instances : List InstanceSettings}
    (valid : checkInstances engine before instances = .ok ()) :
    (instances.map (·.name)).Nodup ∧ ∀ one ∈ instances, one.name ∉ before := by
  induction instances generalizing before with
  | nil => simp
  | cons one rest ih =>
    unfold checkInstances at valid
    cases checked : checkInstance engine before one with
    | error fault => simp [checked] at valid
    | ok done =>
      simp only [checked] at valid
      obtain ⟨nodup, fresh⟩ := ih valid
      refine ⟨?_, ?_⟩
      · rw [List.map_cons, List.nodup_cons]
        refine ⟨?_, nodup⟩
        intro member
        obtain ⟨other, present, same⟩ := List.mem_map.mp member
        exact fresh other present (by simp [same])
      · intro other member
        rcases List.mem_cons.mp member with same | later
        · subst other
          exact not_repeated checked
        · intro earlier
          exact fresh other later (List.mem_append_left _ earlier)

/-- In valid settings the filters that are shared were checked, and every instance was. -/
theorem validate_inv {settings : Settings} (valid : settings.validate engine = .ok ()) :
    checkFilters engine "init_config" settings.shared.configurations = .ok () ∧
      checkInstances engine [] settings.instances = .ok () := by
  unfold validate at valid
  split at valid
  · cases valid
  · split at valid
    · cases valid
    · split at valid
      · cases valid
      · split at valid
        · next done checked => exact ⟨checked, valid⟩
        · cases valid

theorem positive_of_valid {settings : Settings} (valid : settings.validate engine = .ok ())
    {field : String} {value : Nat} (member : (field, value) ∈ positiveFields settings.shared) :
    0 < value := by
  unfold validate at valid
  split at valid
  · cases valid
  · next passed =>
    have positive := List.find?_eq_none.mp passed (field, value) member
    exact Nat.pos_of_ne_zero fun zero => positive (decide_eq_true zero)

/-- Valid settings have a worker to collect. -/
theorem collectionPoolSize_pos {settings : Settings} (valid : settings.validate engine = .ok ()) :
    0 < settings.shared.collectionPoolSize := by
  have member : ("collection_pool_size", settings.shared.collectionPoolSize) ∈
    positiveFields settings.shared := List.mem_cons_self
  exact positive_of_valid valid member

/-- Some time goes by between two ticks of valid settings. -/
theorem checkPeriod_pos {settings : Settings} (valid : settings.validate engine = .ok ()) :
    0 < settings.shared.checkPeriod := by
  have member : ("check_period", settings.shared.checkPeriod) ∈ positiveFields settings.shared := by
    simp [positiveFields]
  exact positive_of_valid valid member

/-- Settings are checked by looking whether anything comes of it. -/
theorem valid_of_toOption {settings : Settings}
    (passed : (settings.validate engine).toOption = some ()) :
    settings.validate engine = .ok () := by
  cases checked : settings.validate engine with
  | ok done => rfl
  | error fault =>
    rw [checked] at passed
    cases passed

theorem validate_names_nodup {settings : Settings} (valid : settings.validate engine = .ok ()) :
    (settings.instances.map (·.name)).Nodup :=
  (names_nodup (validate_inv valid).2).1

end BeanHarvest.Settings
