import BeanHarvest.Proofs.Instance.Matching
import BeanHarvest.Proofs.Instance.Repeating

/-! What listings report. A pass that lists everything puts each attribute that the target has listed in
one part of its report. Against a target whose answers do not change, passes for other actions go the
same way, or end before, and report the parts that they are made for. -/
namespace BeanHarvest

inductive ReportPart where
  | matched
  | unmatched
  | beyondLimit
deriving DecidableEq

def MatchReport.part (report : MatchReport) : ReportPart → List AttributeSummary
  | .matched => report.matched
  | .unmatched => report.unmatched
  | .beyondLimit => report.beyondLimit

def Action.lists (action : Action) : ReportPart → Bool
  | .matched => action.listsMatched
  | .unmatched => action.listsUnmatched
  | .beyondLimit => action.listsBeyondLimit

theorem Action.listEverything_lists (part : ReportPart) : listEverything.lists part = true := by
  cases part <;> rfl

/-- The names by which an attribute is told from others. -/
structure AttributeIdentity where
  bean : String
  name : String
  type : String
deriving DecidableEq

def AttributeSummary.identity (summary : AttributeSummary) : AttributeIdentity :=
  ⟨summary.bean, summary.name, summary.type⟩

def Candidate.identity (candidate : Candidate) : AttributeIdentity :=
  ⟨candidate.bean.name, candidate.name, candidate.info.type⟩

/-- Whether what a candidate was bound to, if to anything, is told by the same names. -/
def Candidate.Describes (candidate : Candidate) (found : Option MatchedAttribute) : Prop :=
  ∀ bound, found = some bound → bound.summary.identity = candidate.identity

theorem Candidate.bind_describes (candidate : Candidate) (context : InstanceContext)
    (selecting : List BeanMatch) : (candidate.bind context selecting).Yields fun result =>
      ∀ found, result = .ok found → candidate.Describes found := by
  have anything : ∃ _ : LiveValue, True := ⟨.null, trivial⟩
  have yields : (candidate.bind context selecting).YieldsUnder (fun _ _ => True) fun result =>
      ∀ bound, result = .ok (some bound) → bound.summary.identity = candidate.identity := by
    apply bind_yieldsUnder anything fun _ _ => trivial
    intro kind _ found value _ bound taken
    have boundBy := boundBy_of_taken taken
    simp only [AttributeSummary.identity, MatchedAttribute.summary, identity, boundBy.bean_eq,
      boundBy.name_eq, boundBy.type_eq]
  refine Dialogue.yields_of_under (yields.imp fun result holds found same bound isBound => ?_)
  subst isBound
  exact holds bound same

namespace MatchPass

variable {rules : MatchRules} {pass : MatchPass} {candidate : Candidate}
  {found : Option MatchedAttribute}

/-- The part of a report in which a candidate belongs, and what is reported of it there. -/
def entry (pass : MatchPass) (limit : Nat) (candidate : Candidate) :
    Option MatchedAttribute → ReportPart × AttributeSummary
  | none => (.unmatched, candidate.summary)
  | some bound =>
    (if limit < pass.metricCount + bound.metricCount then .beyondLimit else .matched, bound.summary)

/-- A candidate that is taken in is reported in its part, if that is listed, and in no other. -/
theorem part_add (pass : MatchPass) (rules : MatchRules) (candidate : Candidate)
    (found : Option MatchedAttribute) (part : ReportPart) :
    (pass.add rules candidate found).report.part part = pass.report.part part ++
      if rules.action.lists part ∧ (pass.entry rules.limit candidate found).1 = part then
        [(pass.entry rules.limit candidate found).2] else [] := by
  cases found with
  | none =>
    simp only [add, leave, entry]
    cases part <;> split <;> simp_all [MatchReport.part, Action.lists]
  | some bound =>
    simp only [add, entry]
    split
    · cases part <;> simp [refuse, MatchReport.part, Action.lists]
    · cases part <;> simp [keep, MatchReport.part, Action.lists]

/-- The names of what is reported of a candidate are its own. -/
theorem entry_identity (describes : candidate.Describes found) (pass : MatchPass) (limit : Nat) :
    (pass.entry limit candidate found).2.identity = candidate.identity := by
  cases found with
  | none => rfl
  | some bound => exact describes bound rfl

/-- Whether a report has just these entries, each in its part and all in their order. -/
def Reports (report : MatchReport) (entries : List (ReportPart × AttributeSummary)) : Prop :=
  ∀ part, report.part part = (entries.filter (·.1 = part)).map (·.2)

/-- Whether a later pass reports, behind what an earlier one has reported, just the attributes of some
names, each in its part and in their order. -/
def Lists (pass later : MatchPass) (identities : List AttributeIdentity) : Prop :=
  ∃ new : List (ReportPart × AttributeSummary), new.map (·.2.identity) = identities ∧
    ∀ entries, Reports pass.report entries → Reports later.report (entries ++ new)

theorem Lists.refl (pass : MatchPass) : pass.Lists pass [] :=
  ⟨[], rfl, fun entries reports => by rwa [List.append_nil]⟩

theorem Lists.trans {later last : MatchPass} {first second : List AttributeIdentity}
    (lists : pass.Lists later first) (others : later.Lists last second) :
    pass.Lists last (first ++ second) := by
  obtain ⟨new, same, reports⟩ := lists
  obtain ⟨more, sameToo, reportsToo⟩ := others
  refine ⟨new ++ more, by rw [List.map_append, same, sameToo], fun entries holds => ?_⟩
  rw [← List.append_assoc]
  exact reportsToo _ (reports entries holds)

/-- A candidate that is taken in by a pass that lists everything is reported once. -/
theorem lists_add (everything : rules.action = .listEverything)
    (describes : candidate.Describes found) (pass : MatchPass) :
    pass.Lists (pass.add rules candidate found) [candidate.identity] := by
  refine ⟨[pass.entry rules.limit candidate found], ?_, fun entries reports part => ?_⟩
  · rw [List.map_singleton, entry_identity describes]
  · rw [part_add, reports part, List.filter_append, List.map_append, everything]
    congr 1
    by_cases belongs : (pass.entry rules.limit candidate found).1 = part
    · simp [belongs, Action.listEverything_lists]
    · simp [belongs]

theorem goesOn_of_listEverything (everything : rules.action = .listEverything) (pass : MatchPass) :
    ¬ pass.isOver rules.action = true := by
  apply goesOn_of_ne
  rw [everything]
  exact nofun

theorem overAttributes_lists (everything : rules.action = .listEverything) (bean : Bean)
    (selecting : List BeanMatch) (pass : MatchPass) (infos : List AttributeInfo) :
    (overAttributes rules bean selecting pass infos).Yields fun result =>
      ∀ later, result = .ok later →
        pass.Lists later (infos.map fun info => Candidate.identity ⟨bean, info⟩) := by
  induction infos generalizing pass with
  | nil =>
    rintro _ ⟨⟩
    exact .refl pass
  | cons info rest ih =>
    have taken : ∀ found, Candidate.Describes ⟨bean, info⟩ found →
        Dialogue.Yields (fun result => ∀ later, result = .ok later →
          pass.Lists later ((info :: rest).map fun info => Candidate.identity ⟨bean, info⟩))
          (if (pass.add rules ⟨bean, info⟩ found).isOver rules.action then
            .done (.ok (pass.add rules ⟨bean, info⟩ found))
          else overAttributes rules bean selecting (pass.add rules ⟨bean, info⟩ found) rest) := by
      intro found describes
      have own := lists_add everything describes pass
      rw [if_neg (goesOn_of_listEverything everything _)]
      refine Dialogue.yields_of_under ((ih _).under.imp fun result others later same => ?_)
      exact own.trans (others later same)
    rw [overAttributes]
    refine (Candidate.bind_describes ⟨bean, info⟩ rules.context selecting).andThen ?_
    intro result describes
    cases result with
    | ok found => exact taken found (describes found rfl)
    | error fault =>
      dsimp only
      split
      · rintro _ ⟨⟩
      · refine taken none ?_
        rintro _ ⟨⟩

end MatchPass

def Call.listing? : Call → Option Bean
  | .attributes bean => some bean
  | _ => none

def Answer.listed : Answer → List AttributeIdentity
  | ⟨.attributes bean, .ok infos⟩ => infos.map fun info => Candidate.identity ⟨bean, info⟩
  | _ => []

theorem Answer.listed_of_listing_none {answer : Answer} (other : answer.call.listing? = none) :
    answer.listed = [] := by
  obtain ⟨call, outcome⟩ := answer
  cases call with
  | attributes bean => cases other
  | _ => rfl

def askedBeans (answers : List Answer) : List Bean := answers.filterMap (·.call.listing?)

def listedAttributes (answers : List Answer) : List AttributeIdentity := answers.flatMap (·.listed)

theorem askedBeans_append (before after : List Answer) :
    askedBeans (before ++ after) = askedBeans before ++ askedBeans after :=
  List.filterMap_append

theorem listedAttributes_append (before after : List Answer) :
    listedAttributes (before ++ after) = listedAttributes before ++ listedAttributes after :=
  List.flatMap_append

theorem nothing_listed {answers : List Answer}
    (others : ∀ answer ∈ answers, answer.call.listing? = none) :
    askedBeans answers = [] ∧ listedAttributes answers = [] := by
  constructor
  · exact List.filterMap_eq_nil_iff.mpr others
  · exact List.flatMap_eq_nil_iff.mpr fun answer member =>
      Answer.listed_of_listing_none (others answer member)

theorem listed_alone {front behind : List Answer} (answer : Answer)
    (before : ∀ other ∈ front, other.call.listing? = none)
    (after : ∀ other ∈ behind, other.call.listing? = none) :
    askedBeans (front ++ answer :: behind) = answer.call.listing?.toList ∧
      listedAttributes (front ++ answer :: behind) = answer.listed := by
  obtain ⟨noneAsked, noneListed⟩ := nothing_listed before
  obtain ⟨noneAskedToo, noneListedToo⟩ := nothing_listed after
  rw [← List.singleton_append, askedBeans_append, askedBeans_append, listedAttributes_append,
    listedAttributes_append, noneAsked, noneListed, noneAskedToo, noneListedToo]
  simp only [List.nil_append, List.append_nil, listedAttributes, List.flatMap_singleton, and_true]
  rw [askedBeans, List.filterMap_cons]
  cases answer.call.listing? <;> rfl

theorem Offer.settle_asks (bean : Bean) (name : String) (live : Option LiveValue)
    (offers : List Offer) :
    (settle bean name live offers).AsksOnly fun call => call.listing? = none := by
  induction offers generalizing live with
  | nil => exact trivial
  | cons offer rest ih =>
    cases offer with
    | pass => exact ih live
    | take matched => exact trivial
    | look decide =>
      have gone : ∀ value, (settle bean name (some value) (look decide :: rest)).AsksOnly
          fun call => call.listing? = none := by
        intro value
        rw [settle]
        dsimp only
        split
        · exact trivial
        · exact ih _
      cases live with
      | some value => exact gone value
      | none =>
        refine ⟨rfl, fun outcome => ?_⟩
        cases outcome with
        | ok value => exact gone value
        | error fault => exact trivial

theorem Candidate.bind_asks (candidate : Candidate) (context : InstanceContext)
    (selecting : List BeanMatch) :
    (candidate.bind context selecting).AsksOnly fun call => call.listing? = none := by
  unfold Candidate.bind
  split
  · exact trivial
  · split
    · exact Offer.settle_asks ..
    · split
      · exact trivial
      · refine ⟨rfl, fun outcome => ?_⟩
        cases outcome with
        | error fault => exact trivial
        | ok value =>
          dsimp only
          split
          · exact Offer.settle_asks ..
          · exact trivial

theorem Instance.classOf_asks (isNeeded : Bool) (bean : Bean) :
    (classOf isNeeded bean).AsksOnly fun call => call.listing? = none := by
  unfold classOf
  split
  · refine ⟨rfl, fun outcome => ?_⟩
    cases outcome <;> exact trivial
  · exact trivial

namespace MatchPass

variable {rules : MatchRules} {pass later : MatchPass} {answers : List Answer}

theorem overAttributes_asks (bean : Bean) (selecting : List BeanMatch) (pass : MatchPass)
    (infos : List AttributeInfo) : (overAttributes rules bean selecting pass infos).AsksOnly
      fun call => call.listing? = none := by
  induction infos generalizing pass with
  | nil => exact trivial
  | cons info rest ih =>
    rw [overAttributes]
    refine (Candidate.bind_asks ..).andThen fun result => ?_
    cases result with
    | ok found =>
      dsimp only
      split
      · exact trivial
      · exact ih _
    | error fault =>
      dsimp only
      split
      · exact trivial
      · split
        · exact trivial
        · exact ih _

/-- A pass that lists everything asks for the attributes of a bean, reports those that are listed, and
goes on with the other beans. -/
theorem overBeans_cons_lists (everything : rules.action = .listEverything) {bean : Bean}
    {rest : List Bean} (ends : (overBeans rules pass (bean :: rest)).Ends answers (.ok later)) :
    ∃ own others between, answers = own ++ others ∧ askedBeans own = [bean] ∧
      pass.Lists between (listedAttributes own) ∧
      (overBeans rules between rest).Ends others (.ok later) := by
  rw [overBeans] at ends
  obtain ⟨front, _, className, rfl, ofClass, following⟩ := ends.andThen_inv
  have before := ofClass.asked (Instance.classOf_asks ..)
  cases className with
  | error fault => cases following.done_inv.2
  | ok className =>
    dsimp only at following
    split at following
    · cases following.done_inv.2
    · next selecting _ =>
      have isListed : rules.action.listsUnmatched = true := by rw [everything]; rfl
      rw [isListed, Bool.not_true, Bool.and_false, if_neg Bool.false_ne_true] at following
      obtain ⟨outcome, others, rfl, answered⟩ := following.ask_inv
      cases outcome with
      | error fault =>
        dsimp only at answered
        split at answered
        · cases answered.done_inv.2
        · obtain ⟨asked, listed⟩ :=
            listed_alone ⟨.attributes bean, .error fault⟩ before (List.forall_mem_nil _)
          refine ⟨front ++ [⟨.attributes bean, .error fault⟩], others, pass, ?_, asked, ?_, answered⟩
          · rw [List.append_assoc, List.singleton_append]
          · rw [listed]
            exact .refl pass
      | ok infos =>
        obtain ⟨own, others, result, rfl, ofBean, goesOn⟩ := answered.andThen_inv
        cases result with
        | error fault => cases goesOn.done_inv.2
        | ok between =>
          dsimp only at goesOn
          rw [if_neg (goesOn_of_listEverything everything _)] at goesOn
          obtain ⟨asked, listed⟩ := listed_alone ⟨.attributes bean, .ok infos⟩ before
            (ofBean.asked (overAttributes_asks ..))
          refine ⟨front ++ ⟨.attributes bean, .ok infos⟩ :: own, others, between, ?_, asked, ?_, goesOn⟩
          · rw [List.append_assoc, List.cons_append]
          · rw [listed]
            exact ofBean.of_yields (overAttributes_lists everything ..) between rfl

/-- A pass that lists everything asks for the attributes of each bean in turn, and reports those that
are listed. -/
theorem overBeans_lists (everything : rules.action = .listEverything) {beans : List Bean}
    (ends : (overBeans rules pass beans).Ends answers (.ok later)) :
    askedBeans answers = beans ∧ pass.Lists later (listedAttributes answers) := by
  induction beans generalizing pass answers with
  | nil =>
    obtain ⟨rfl, same⟩ := ends.done_inv
    cases same
    exact ⟨rfl, .refl _⟩
  | cons bean rest ih =>
    obtain ⟨own, others, between, rfl, askedOwn, listsOwn, following⟩ :=
      overBeans_cons_lists everything ends
    obtain ⟨asked, lists⟩ := ih following
    rw [askedBeans_append, listedAttributes_append, askedOwn, asked]
    exact ⟨rfl, listsOwn.trans lists⟩

theorem add_beyond (rules : MatchRules) {bound : MatchedAttribute}
    (beyond : rules.limit < pass.metricCount + bound.metricCount) (candidate : Candidate) :
    pass.add rules candidate (some bound) = pass.refuse rules.action bound := if_pos beyond

theorem add_within (rules : MatchRules) {bound : MatchedAttribute}
    (within : ¬ rules.limit < pass.metricCount + bound.metricCount) (candidate : Candidate) :
    pass.add rules candidate (some bound) = pass.keep rules.action bound := if_neg within

/-- What a pass for an action has in common with one that lists everything: it matches the same, and
reports the same in the parts that it lists. -/
structure Echoes (action : Action) (first second : MatchPass) : Prop where
  matched : second.matched = first.matched
  metricCount : second.metricCount = first.metricCount
  limitReached : second.report.limitReached = first.report.limitReached
  parts : ∀ part, second.report.part part = if action.lists part then first.report.part part else []

theorem Echoes.add {action : Action} {first second : MatchPass} (echoes : Echoes action first second)
    (rules : MatchRules) (candidate : Candidate) (found : Option MatchedAttribute) :
    Echoes action (first.add (rules.forAction .listEverything) candidate found)
      (second.add (rules.forAction action) candidate found) := by
  obtain ⟨matched, metricCount, limitReached, parts⟩ := echoes
  have sameEntry : second.entry rules.limit candidate found = first.entry rules.limit candidate found := by
    unfold entry
    rw [metricCount]
  have alike : (second.add (rules.forAction action) candidate found).matched =
        (first.add (rules.forAction .listEverything) candidate found).matched ∧
      (second.add (rules.forAction action) candidate found).metricCount =
        (first.add (rules.forAction .listEverything) candidate found).metricCount ∧
      (second.add (rules.forAction action) candidate found).report.limitReached =
        (first.add (rules.forAction .listEverything) candidate found).report.limitReached := by
    cases found with
    | none =>
      simp only [MatchPass.add, leave]
      refine ⟨?_, ?_, ?_⟩ <;> split <;> split <;> assumption
    | some bound =>
      by_cases beyond : rules.limit < first.metricCount + bound.metricCount
      · rw [add_beyond (rules.forAction .listEverything) beyond,
          add_beyond (rules.forAction action) (metricCount ▸ beyond)]
        exact ⟨matched, metricCount, rfl⟩
      · rw [add_within (rules.forAction .listEverything) beyond,
          add_within (rules.forAction action) (metricCount ▸ beyond)]
        exact ⟨congrArg (· ++ [bound]) matched, congrArg (· + bound.metricCount) metricCount,
          limitReached⟩
  obtain ⟨sameMatched, sameCount, sameReached⟩ := alike
  refine ⟨sameMatched, sameCount, sameReached, fun part => ?_⟩
  simp only [part_add, MatchRules.forAction_action, MatchRules.forAction_limit, parts, sameEntry,
    Action.listEverything_lists, true_and]
  cases action.lists part <;> simp

theorem Echoes.follows (action : Action) (rules : MatchRules) :
    Follows rules .listEverything action (Echoes action) where
  lists := by decide
  covers := fun _ => rfl
  add := fun echoes candidate found => echoes.add rules candidate found
  skip := by
    intro idle first second ⟨matched, metricCount, limitReached, parts⟩ candidate
    refine ⟨matched, metricCount, limitReached, fun part => ?_⟩
    rw [parts part, part_add]
    cases part with
    | unmatched =>
      have others : action.lists .unmatched = false := idle
      rw [others]
      rfl
    | _ => simp [entry]

end MatchPass

namespace Instance

/-- Against a target whose answers do not change, every listing of an instance echoes that of
everything. -/
theorem overBeans_echoes {one : Instance} {answer : (call : Call) → call.Outcome} {first : MatchPass}
    (well : (MatchPass.overBeans (one.rules .listEverything) {} one.beans).result answer = .ok first)
    {action : Action} (isListing : action ∈ Action.listings) :
    ∃ second, (MatchPass.overBeans (one.rules action) {} one.beans).result answer = .ok second ∧
      MatchPass.Echoes action first second := by
  have lists : action ≠ .collect := by
    rintro rfl
    exact absurd isListing (by decide)
  have begins : MatchPass.Echoes action {} {} :=
    ⟨rfl, rfl, rfl, fun part => by cases part <;> exact (ite_self []).symm⟩
  obtain ⟨second, passed, others⟩ := (MatchPass.Echoes.follows action (one.rules action)).overBeans
    begins (MatchPass.goesOn_of_ne lists {}) well
  exact ⟨second, passed, others.resolve_left (MatchPass.goesOn_of_ne lists second)⟩

/-- When everything is listed, each bean was asked for its attributes once, and every attribute that was
listed is reported once, in just one part and there in the order of listing. Against a target whose
answers do not change, every other listing goes well then, and reports the same in the parts that it is
made for, and nothing else. -/
theorem listing_partitions {τ : Type} (target : Target τ) (world : τ) (one : Instance) (start : Nat)
    {last : Nat} {final : Instance} {after : τ}
    (ran : target.run none world start (matchAttributes .listEverything start one) =
      .ended last final after (.ok ())) :
    let answers := target.transcript world start (matchAttributes .listEverything start one)
    askedBeans answers = one.beans ∧
    (∃ entries : List (ReportPart × AttributeSummary),
      entries.map (·.2.identity) = listedAttributes answers ∧
      ∀ part, final.report.part part = (entries.filter (·.1 = part)).map (·.2)) ∧
    ∀ answer, target.Honours (.always answer) world → ∀ other : τ,
      target.Honours (.always answer) other → ∀ action ∈ Action.listings, ∀ time,
      ∃ ended listed left,
        target.run none other time (matchAttributes action time one) =
          .ended ended listed left (.ok ()) ∧
        listed.report.limitReached = final.report.limitReached ∧
        ∀ part, listed.report.part part =
          if action.lists part then final.report.part part else [] := by
  intro answers
  have ends := Target.transcript_ends ran
  obtain ⟨connected, pass, passed, rfl⟩ := matchAttributes_inv ends
  obtain ⟨asked, entries, same, reports⟩ := MatchPass.overBeans_lists rfl passed
  refine ⟨asked, ⟨entries, same, reports [] fun part => by cases part <;> rfl⟩, ?_⟩
  intro answer honours other honoursToo action isListing time
  obtain ⟨_, given, ends, allowed⟩ := target.ends_of_run honours ran
  have whole := ends.meetsUnder allowed (matchAttributes_comesTo .listEverything connected)
  obtain ⟨ended, listed, left, result, _, ranToo, _, endsToo, allowedToo⟩ :=
    Target.run_ends_allowed honoursToo time (matchAttributes action time one)
  have own := endsToo.meetsUnder allowedToo (matchAttributes_comesTo action connected)
  cases everything : (MatchPass.overBeans (one.rules .listEverything) {} one.beans).result answer with
  | error fault =>
    rw [everything] at whole
    cases congrArg Prod.snd whole
  | ok first =>
    rw [everything] at whole
    have sameReport : pass.report = first.report := congrArg (·.1.report) whole
    obtain ⟨second, settled, echoes⟩ := overBeans_echoes everything isListing
    rw [settled] at own
    cases own
    refine ⟨ended, _, left, ranToo, ?_, fun part => ?_⟩
    · exact echoes.limitReached.trans (congrArg (·.limitReached) sameReport).symm
    · change second.report.part part = if action.lists part then pass.report.part part else []
      rw [sameReport]
      exact echoes.parts part

/-- A target with two attributes of one bean, and one of another. -/
def machineTarget : Rehearsal where
  beans := [
    (collections.name, ⟨"test.Fake", [(⟨"Count", "long"⟩, .integer 1), (⟨"Time", "long"⟩, .integer 1)]⟩),
    (disk.name, ⟨"test.Fake", [(⟨"Size", "long"⟩, .integer 1)]⟩)]

/-- With room for one metric, of two attributes that match the second one is beyond the limit. -/
theorem listing_partitions_machine : ∃ ended final after, ∃ endedToo listed left,
    let one := machine 1 [including "app" [] none]
    Rehearsal.asTarget.run none machineTarget 0 (matchAttributes .listEverything 0 one) =
      .ended ended final after (.ok ()) ∧
    Rehearsal.asTarget.run none machineTarget 5 (matchAttributes .listLimited 5 one) =
      .ended endedToo listed left (.ok ()) ∧
    (∃ entries : List (ReportPart × AttributeSummary), entries.length = 3 ∧
      ∀ part, final.report.part part = (entries.filter (·.1 = part)).map (·.2)) ∧
    listed.report.beyondLimit.map (·.name) = ["Time"] ∧ listed.report.matched = [] := by
  let one := machine 1 [including "app" [] none]
  obtain ⟨last, final, after, ran, beyond, three⟩ : ∃ last final after,
      Rehearsal.asTarget.run none machineTarget 0 (matchAttributes .listEverything 0 one) =
        .ended last final after (.ok ()) ∧
      final.report.beyondLimit.map (·.name) = ["Time"] ∧
      (listedAttributes (Rehearsal.asTarget.transcript machineTarget 0
        (matchAttributes .listEverything 0 one))).length = 3 :=
    ⟨_, _, _, rfl, rfl, rfl⟩
  obtain ⟨_, ⟨entries, same, reports⟩, others⟩ :=
    listing_partitions Rehearsal.asTarget machineTarget one 0 ran
  obtain ⟨ended, listed, left, ranToo, _, parts⟩ := others machineTarget.answer
    machineTarget.honours_always machineTarget machineTarget.honours_always .listLimited (by decide) 5
  have length : entries.length = 3 := by rw [← three, ← same, List.length_map]
  have limited : listed.report.beyondLimit = final.report.beyondLimit := parts .beyondLimit
  exact ⟨last, final, after, ended, listed, left, ran, ranToo, ⟨entries, length, reports⟩,
    limited ▸ beyond, parts .matched⟩

end Instance
end BeanHarvest
