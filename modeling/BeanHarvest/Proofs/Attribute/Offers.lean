import BeanHarvest.Proofs.Attribute.Binding
import BeanHarvest.Proofs.Attribute.Extracting
import BeanHarvest.Proofs.Target.Promises

/-! Offers: what a candidate comes to, whatever is answered when it is looked at. It comes to an attribute
of its own bean with nothing kept, as some configuration made it. -/
namespace BeanHarvest

/-- Whether an attribute has no metric kept, as one that was just bound. -/
def MatchedAttribute.KeepsNothing (bound : MatchedAttribute) : Prop := bound.withCache [] = bound

variable {promise : Promise}

namespace Candidate

variable {candidate : Candidate} {kind : AttributeKind} {context : InstanceContext}
  {found : BeanMatch} {value : LiveValue} {bound : MatchedAttribute}

/-- Whether a matched attribute is of the candidate's bean and has nothing kept. -/
def Makes (candidate : Candidate) (bound : MatchedAttribute) : Prop :=
  bound.bean = candidate.bean ∧ bound.KeepsNothing

theorem bindSimple_makes (options : Option AttributeOptions) (live : Option String) :
    candidate.Makes (candidate.bindSimple found context options live) := ⟨rfl, rfl⟩

theorem bindNested_makes (isBound : candidate.bindNested kind context found value = some bound) :
    candidate.Makes bound := by
  unfold bindNested at isBound
  dsimp only at isBound
  split at isBound
  · cases isBound
  · cases kind <;> cases isBound <;> exact ⟨rfl, rfl⟩

theorem offer_makes (taken : (candidate.offer kind context found).takenAt value = some bound) :
    candidate.Makes bound := by
  by_cases single : kind = .simple
  · subst single
    simp only [offer, offerSimple] at taken
    split at taken
    · cases taken
    · split at taken
      · cases taken
        exact bindSimple_makes _ _
      · cases taken
        exact bindSimple_makes _ _
  · rw [offer_of_nested candidate context found single, offerNested_takenAt] at taken
    exact bindNested_makes taken

variable {property : MatchedAttribute → Prop} {seen : LiveValue → Prop}

/-- Of offers that all lead to attributes with a property, if the values are such as are promised, an
attribute with the property is taken. -/
theorem settle_yieldsUnder {bean : Bean} {name : String} (possible : ∃ value, seen value)
    (promised : ∀ value, promise (.read bean name) (.ok value) → seen value) {offers : List Offer}
    (leads : ∀ offer ∈ offers, ∀ value, seen value → ∀ bound, offer.takenAt value = some bound →
      property bound) {live : Option LiveValue} (known : ∀ value, live = some value → seen value) :
    (Offer.settle bean name live offers).YieldsUnder promise fun result =>
      ∀ bound, result = .ok (some bound) → property bound := by
  induction offers generalizing live with
  | nil =>
    intro bound same
    cases same
  | cons offer rest ih =>
    have others := fun other member => leads other (List.mem_cons_of_mem _ member)
    have first := leads offer List.mem_cons_self
    cases offer with
    | pass => exact ih others known
    | take matched =>
      intro bound same
      cases same
      obtain ⟨value, holds⟩ := possible
      exact first value holds matched rfl
    | look decide =>
      have gone : ∀ value, seen value →
          (Offer.settle bean name (some value) (.look decide :: rest)).YieldsUnder promise
            fun result => ∀ bound, result = .ok (some bound) → property bound := by
        intro value holds
        unfold Offer.settle
        dsimp only
        cases same : decide value with
        | none =>
          refine ih others fun other same => ?_
          cases same
          exact holds
        | some matched =>
          intro bound taken
          cases taken
          exact first value holds matched same
      cases live with
      | some value => exact gone value (known value rfl)
      | none =>
        intro outcome kept
        cases outcome with
        | ok value => exact gone value (promised value kept)
        | error fault =>
          intro bound same
          cases same

/-- Whether a candidate may be taken to be of some kind. -/
def MayBe (candidate : Candidate) (context : InstanceContext) (kind : AttributeKind) : Prop :=
  candidate.kind? = some kind ∨ context.detectStatistics = true ∧ kind = .statistics

theorem bind_yieldsUnder {selecting : List BeanMatch} (possible : ∃ value, seen value)
    (promised : ∀ value, promise (.read candidate.bean candidate.name) (.ok value) → seen value)
    (leads : ∀ kind, candidate.MayBe context kind → ∀ found value, seen value → ∀ bound,
      (candidate.offer kind context found).takenAt value = some bound → property bound) :
    (candidate.bind context selecting).YieldsUnder promise fun result =>
      ∀ bound, result = .ok (some bound) → property bound := by
  have offered : ∀ kind, candidate.MayBe context kind →
      ∀ offer ∈ selecting.map (candidate.offer kind context), ∀ value, seen value → ∀ bound,
        offer.takenAt value = some bound → property bound := by
    intro kind mayBe offer member value holds bound taken
    obtain ⟨found, _, rfl⟩ := List.mem_map.mp member
    exact leads kind mayBe found value holds bound taken
  have nothing : ∀ bound : MatchedAttribute,
      (.ok none : Except ConnectionFault (Option MatchedAttribute)) = .ok (some bound) →
        property bound := by
    intro bound same
    cases same
  unfold bind
  split
  · exact nothing
  · split
    · next kind known =>
      exact settle_yieldsUnder possible promised (offered kind (.inl known)) nofun
    · split
      · exact nothing
      · next detects =>
        intro outcome kept
        cases outcome with
        | error fault =>
          intro bound same
          cases same
        | ok value =>
          dsimp only
          split
          · refine settle_yieldsUnder possible promised
              (offered .statistics (.inr ⟨by simpa using detects, rfl⟩)) fun other same => ?_
            cases same
            exact promised value kept
          · exact nothing

theorem bind_makes (candidate : Candidate) (context : InstanceContext)
    (selecting : List BeanMatch) : (candidate.bind context selecting).YieldsUnder promise
      fun result => ∀ bound, result = .ok (some bound) → candidate.Makes bound :=
  bind_yieldsUnder ⟨.null, trivial⟩ (fun _ _ => trivial)
    fun _ _ _ _ _ _ taken => offer_makes taken

/-- What a candidate was bound to is what some configuration offered at some value. -/
theorem exists_offer {selecting : List BeanMatch} {answer : (call : Call) → call.Outcome}
    (isBound : (candidate.bind context selecting).result answer = .ok (some bound)) :
    ∃ kind found value, (candidate.offer kind context found).takenAt value = some bound := by
  have yields : (candidate.bind context selecting).YieldsUnder (fun _ _ => True) fun result =>
      ∀ bound, result = .ok (some bound) →
        ∃ kind found value, (candidate.offer kind context found).takenAt value = some bound :=
    bind_yieldsUnder ⟨.null, trivial⟩ (fun _ _ => trivial)
      fun kind _ found value _ _ taken => ⟨kind, found, value, taken⟩
  exact yields.result (fun _ => trivial) bound isBound

end Candidate

end BeanHarvest
