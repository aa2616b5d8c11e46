import BeanHarvest.Proofs.Instance.Passes
import BeanHarvest.Proofs.Instance.Steady

/-! Faults: what work on an instance can go wrong with. Connections and passes raise faults, and an
instance that has no connection is one; nothing else goes wrong. So what a kind of faults has of these
it has of all work on the instance, as long as what the passes go by is not lost on the way. -/
namespace BeanHarvest

variable {α β : Type} {kept : Instance → Prop} {kind : InstanceFault → Prop}

/-- Whether work has gone well, or wrong with a fault of some kind. -/
def FaultsAre (kind : InstanceFault → Prop) (result : Except InstanceFault α) : Prop :=
  ∀ fault, result = .error fault → kind fault

theorem faultsAre_ok (result : α) : FaultsAre kind (.ok result) := nofun

theorem faultsAre_error {fault : InstanceFault} (isKind : kind fault) :
    FaultsAre kind (.error fault : Except InstanceFault α) := by
  rintro _ ⟨⟩
  exact isKind

/-- Whether work that begins with a property of the instance has it throughout, and goes wrong only with
faults of some kind. -/
def Operation.Confines (kept : Instance → Prop) (kind : InstanceFault → Prop)
    (work : Operation Instance (Except InstanceFault α)) : Prop :=
  ∀ time one, kept one →
    (work time one).Meets kept fun after result => kept after ∧ FaultsAre kind result

namespace Operation

variable {work first : Operation Instance (Except InstanceFault α)}
  {next : α → Operation Instance (Except InstanceFault β)}

theorem confines_ok (result : α) : (pure (.ok result) : Operation _ _).Confines kept kind :=
  fun _ _ holds => ⟨holds, faultsAre_ok result⟩

theorem confines_error {fault : InstanceFault} (isKind : kind fault) :
    (pure (.error fault) : Operation _ (Except InstanceFault α)).Confines kept kind :=
  fun _ _ holds => ⟨holds, faultsAre_error isKind⟩

/-- What is kept whatever happens, and what can be the result whatever was before, hold together. -/
theorem Keeps.confines (keeps : work.Keeps kept) (yields : work.Yields (FaultsAre kind)) :
    work.Confines kept kind := fun time one holds =>
  ((keeps time one holds).and (yields time one)).imp fun _ _ both => both

/-- Work without a fault of its own goes in front. -/
theorem Keeps.confines_bind {change : Operation Instance α} {rest : α → Operation Instance _}
    (keeps : change.Keeps kept)
    (confines : ∀ result, (rest result : Operation _ (Except InstanceFault β)).Confines kept kind) :
    (change >>= rest).Confines kept kind := fun time one holds =>
  (keeps time one holds).andThen fun time one result holds => confines result time one holds

/-- The rest of the work sees how the first part has ended. -/
theorem Confines.bind {rest : Except InstanceFault α → Operation Instance (Except InstanceFault β)}
    (confines : first.Confines kept kind)
    (others : ∀ result, FaultsAre kind result → (rest result).Confines kept kind) :
    (first >>= rest).Confines kept kind := fun time one holds =>
  (confines time one holds).andThen fun time one result both => others result both.2 time one both.1

theorem Confines.followed (confines : first.Confines kept kind)
    (rest : ∀ result, (next result).Confines kept kind) :
    (Instance.followed first next).Confines kept kind := by
  refine confines.bind fun result raised => ?_
  cases result with
  | ok result => exact rest result
  | error fault => exact confines_error (raised fault rfl)

theorem Confines.yields (confines : work.Confines (fun _ => True) kind) :
    work.Yields (FaultsAre kind) :=
  fun time one => (confines time one trivial).imp fun _ _ both => both.2

/-- A fault is of the kind however the work ends. -/
theorem Confines.of_canEnd (confines : work.Confines kept kind) {time : Nat} {one after : Instance}
    {fault : InstanceFault} (holds : kept one) (ends : (work time one).CanEnd after (.error fault)) :
    kind fault :=
  (ends.meets (confines time one holds)).2 fault rfl

end Operation

namespace Instance

/-- A kind of faults that has all that can go wrong at a connection, or for want of one, and all that the
passes of an instance raise which has a property; the property is steady. -/
structure Confining (kept : Instance → Prop) (kind : InstanceFault → Prop) : Prop where
  steady : Steady (fun _ _ => True) kept
  connection : ∀ cause, kind (.connection cause)
  notInitialized : ∀ name, kind (.notInitialized name)
  raised : ∀ {one : Instance} (action : Action), kept one →
    ∀ fault, (one.rules action).Raises fault → kind fault

namespace Confining

theorem connectedOr (confining : Confining kept kind)
    {work : Operation Instance (Except InstanceFault α)} (confines : work.Confines kept kind) :
    (connectedOr work).Confines kept kind := by
  refine Operation.keeps_get.confines_bind fun one => ?_
  split
  · exact confines
  · exact Operation.confines_error (confining.notInitialized _)

theorem modify (confining : Confining kept kind) {change : Instance → Instance}
    {rest : Operation Instance (Except InstanceFault β)} (akin : ∀ one, Akin one (change one))
    (confines : rest.Confines kept kind) :
    (Operation.modify change >>= fun _ => rest).Confines kept kind :=
  (Operation.keeps_of_under (confining.steady.modify akin)).confines_bind fun _ => confines

theorem connect (confining : Confining kept kind) (anew : Bool) :
    (connect anew).Confines kept kind := by
  refine (Operation.keeps_of_under (confining.steady.connect anew)).confines ?_
  refine Operation.yields_bind fun one => ?_
  split
  · exact Operation.yields_pure (faultsAre_ok ())
  · refine Operation.yields_bind fun _ => ?_
    split
    case' isTrue => refine Operation.yields_bind fun _ => ?_
    all_goals
      refine Operation.yields_bind fun outcome => ?_
      split
      · exact Operation.yields_bind fun _ => Operation.yields_pure (faultsAre_ok ())
      · exact Operation.yields_pure (faultsAre_error (confining.connection _))

theorem refreshBeans (confining : Confining kept kind) : refreshBeans.Confines kept kind := by
  refine confining.connectedOr (Operation.keeps_get.confines_bind fun one => ?_)
  refine (Operation.keeps_of_under (Operation.keepsUnder_hold _)).confines_bind fun found => ?_
  cases found with
  | error fault => exact Operation.confines_error (confining.connection fault)
  | ok beans =>
    refine (Operation.keeps_of_under Operation.keepsUnder_now).confines_bind fun now => ?_
    exact confining.modify (fun _ => {}) (Operation.confines_ok ())

theorem matchAttributes (confining : Confining kept kind) (action : Action) :
    (matchAttributes action).Confines kept kind := by
  refine confining.connectedOr fun time one holds => ?_
  rw [Operation.get_bind]
  -- The pass goes by what the instance is at its beginning, so its faults are told by that.
  refine Session.meets_of_under (Operation.meetsUnder_hold_bind holds
    ((rules_raise one action one.beans).under.and (confining.steady.passes action holds)) ?_)
  rintro time result ⟨raises, passed⟩
  cases result with
  | error fault => exact ⟨holds, faultsAre_error (confining.raised action holds fault (raises _ rfl))⟩
  | ok pass => exact ⟨passed pass rfl, faultsAre_ok ()⟩

theorem start (confining : Confining kept kind) (action : Action) (anew : Bool) :
    (start action anew).Confines kept kind := by
  refine (confining.connect anew).followed fun _ => confining.modify (fun _ => {}) ?_
  refine confining.refreshBeans.followed fun _ => confining.modify (fun _ => {}) ?_
  exact confining.matchAttributes action

theorem init (confining : Confining kept kind) (action : Action) (anew : Bool) :
    (init action anew).Confines kept kind := by
  refine confining.modify (fun one => ?_) ((confining.start action anew).bind fun result raised => ?_)
  · split <;> exact {}
  · cases result with
    | ok done => exact confining.modify (fun _ => {}) (Operation.confines_ok ())
    | error fault =>
      exact confining.modify (fun _ => {})
        (Operation.confines_error (raised fault rfl))

theorem refreshIfDue (confining : Confining kept kind) : refreshIfDue.Confines kept kind := by
  have refreshed : refresh.Confines kept kind :=
    confining.refreshBeans.followed fun _ =>
      confining.modify (fun _ => {}) (confining.matchAttributes .collect)
  refine Operation.keeps_get.confines_bind fun one => ?_
  refine (Operation.keeps_of_under Operation.keepsUnder_now).confines_bind fun now => ?_
  split
  · refine refreshed.bind fun result raised => ?_
    cases result with
    | ok done => exact Operation.confines_ok ()
    | error fault =>
      exact confining.modify (fun _ => {})
        (Operation.confines_error (raised fault rfl))
  · exact Operation.confines_ok ()

/-- What is not transient is a fault of the connection. -/
theorem faultOf_isKind (confining : Confining kept kind) {fault : ExtractionFault}
    (lasting : ∀ reason, Failure.ofExtraction fault ≠ .transient reason) : kind (faultOf fault) := by
  cases fault with
  | connection fault => exact confining.connection fault
  | _ => exact absurd rfl (lasting _)

theorem collectAll (confining : Confining kept kind) (before list : List MatchedAttribute) :
    (collectAll before list).Yields (FaultsAre kind) := by
  induction list generalizing before with
  | nil => exact Operation.yields_pure (faultsAre_ok [])
  | cons bound rest ih =>
    refine Operation.yields_bind fun read => ?_
    obtain ⟨result, after⟩ := read
    cases result with
    | ok metrics =>
      refine Operation.yields_bind fun _ => (ih _).bind fun others raised => ?_
      cases others with
      | ok others => exact Operation.yields_pure (faultsAre_ok _)
      | error fault => exact Operation.yields_pure (faultsAre_error (raised fault rfl))
    | error fault =>
      dsimp only
      split
      · refine Operation.yields_bind fun one => ?_
        split
        · exact Operation.yields_bind fun _ => ih _
        · exact Operation.yields_bind fun _ => ih _
      · next lasting =>
        refine Operation.yields_bind fun _ => Operation.yields_pure (faultsAre_error ?_)
        exact confining.faultOf_isKind lasting

theorem collectMatched (confining : Confining kept kind) : collectMatched.Confines kept kind := by
  refine (Operation.keeps_of_under confining.steady.collectMatched).confines ?_
  refine Operation.yields_bind fun now => Operation.yields_bind fun _ => ?_
  refine Operation.yields_bind fun one => (confining.collectAll [] _).bind fun result raised => ?_
  cases result with
  | ok metrics => exact Operation.yields_bind fun _ => Operation.yields_pure (faultsAre_ok metrics)
  | error fault => exact Operation.yields_pure (faultsAre_error (raised fault rfl))

theorem collect (confining : Confining kept kind) : collect.Confines kept kind :=
  confining.connectedOr (confining.refreshIfDue.followed fun _ => confining.collectMatched)

end Confining
end Instance
end BeanHarvest
