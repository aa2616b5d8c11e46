import BeanHarvest.Tags
import Mathlib.Data.List.Basic
import Mathlib.Data.List.TakeWhile

/-! Tags that are left out. What a bean and its instance have to offer is passed through one list of keys,
except that the tags of the instance's name and of the domain stay whatever the list says. What the include
filter adds comes behind that. -/
namespace BeanHarvest.Tags

/-- A tag that a bean and its instance have to offer: the key that it has there, the key under which it is
reported, the whole tag, and whether it stays in any case. -/
structure OfferedTag where
  original : String
  key : String
  text : String
  fixed : Bool

/-- Whether neither of the keys of a tag is listed. -/
def OfferedTag.Spared (excluded : List String) (offer : OfferedTag) : Prop :=
  offer.original ∉ excluded ∧ offer.key ∉ excluded

instance (excluded : List String) (offer : OfferedTag) : Decidable (offer.Spared excluded) :=
  inferInstanceAs (Decidable (_ ∧ _))

def offeredParameter (renamings : Bindings) (parameter : String × String) : OfferedTag :=
  let other := renamed renamings parameter.1
  ⟨parameter.1, other, tag other parameter.2, false⟩

def offeredOwn (text : String) : OfferedTag := ⟨key text, key text, text, false⟩

/-- The tags on offer: those of the bean's parameters, of the instance's name and of the domain, and the
instance's own. -/
def offered (bean : Bean) (configuration : Configuration) (instanceName : String)
    (instanceTags : List String) : List OfferedTag :=
  bean.parameters.map (offeredParameter configuration.renamedTags)
    ++ [⟨"instance", "instance", tag "instance" instanceName, true⟩,
      ⟨"jmx_domain", "jmx_domain", tag "jmx_domain" bean.domain, true⟩]
    ++ instanceTags.map offeredOwn

/-- What is left of the tags on offer: those that stay in any case, and those of which no key is
listed. -/
def kept (excluded : List String) (offers : List OfferedTag) : List String :=
  (offers.filter fun offer => offer.fixed || decide (offer.Spared excluded)).map (·.text)

variable {bean : Bean} {configuration : Configuration} {instanceName text : String}
  {instanceTags excluded : List String} {offers : List OfferedTag} {offer : OfferedTag}

/-- The key of a tag begins as the name in it, and goes on to the first colon. -/
theorem key_tag (name value : String) : key (tag name value) = key name := by
  have split : (tag name value).toList = name.toList ++ ':' :: value.toList := by simp [tag]
  have front : (name.toList ++ ':' :: value.toList).takeWhile (· ≠ ':') =
      name.toList.takeWhile (· ≠ ':') := by
    induction name.toList with
    | nil => rfl
    | cons c rest ih =>
      rw [List.cons_append, List.takeWhile_cons, List.takeWhile_cons, ih]
  rw [key, split, front, key]

theorem key_of_plain {name : String} (plain : ':' ∉ name.toList) : key name = name := by
  have whole : name.toList.takeWhile (· ≠ ':') = name.toList := by
    rw [List.takeWhile_eq_self_iff]
    intro c member
    exact decide_eq_true fun colon => plain (colon ▸ member)
  rw [key, whole, String.ofList_toList]

theorem kept_append (excluded : List String) (first second : List OfferedTag) :
    kept excluded (first ++ second) = kept excluded first ++ kept excluded second := by
  rw [kept, List.filter_append, List.map_append, kept, kept]

theorem ofParameters_eq_kept (configuration : Configuration) (bean : Bean) :
    ofParameters configuration bean = kept configuration.included.excludedTags
      (bean.parameters.map (offeredParameter configuration.renamedTags)) := by
  unfold ofParameters kept
  induction bean.parameters with
  | nil => rfl
  | cons parameter rest ih =>
    obtain ⟨name, value⟩ := parameter
    rw [List.filterMap_cons, List.map_cons, List.filter_cons, ih]
    by_cases spared : name ∉ configuration.included.excludedTags ∧
      renamed configuration.renamedTags name ∉ configuration.included.excludedTags
    · simp [offeredParameter, OfferedTag.Spared, spared]
    · have listed : name ∈ configuration.included.excludedTags ∨
          renamed configuration.renamedTags name ∈ configuration.included.excludedTags := by
        simpa [or_iff_not_imp_left] using spared
      simp [offeredParameter, OfferedTag.Spared, spared, listed]

theorem filter_own_eq_kept (excluded instanceTags : List String) :
    instanceTags.filter (fun tag => !excluded.contains (key tag)) =
      kept excluded (instanceTags.map offeredOwn) := by
  rw [kept, List.filter_map, List.map_map]
  have same : (·.text) ∘ offeredOwn = id := rfl
  rw [same, List.map_id]
  apply List.filter_congr
  intro text _
  simp [offeredOwn, OfferedTag.Spared]

/-- The shared tags are what is left of those on offer, in their order, and what the include filter
adds. -/
theorem base_eq_kept (bean : Bean) (params : Bindings) (configuration : Configuration)
    (instanceName : String) (instanceTags : List String) :
    base bean params configuration instanceName instanceTags =
      kept configuration.included.excludedTags
          (offered bean configuration instanceName instanceTags) ++
        render configuration.included.tags params [] := by
  rw [base, offered, kept_append, kept_append, ← ofParameters_eq_kept, ← filter_own_eq_kept]
  rfl

theorem mem_kept : text ∈ kept excluded offers ↔
    ∃ offer ∈ offers, (offer.fixed = true ∨ offer.Spared excluded) ∧ offer.text = text := by
  simp [kept, and_assoc]

theorem mem_offered : offer ∈ offered bean configuration instanceName instanceTags ↔
    (∃ parameter ∈ bean.parameters,
      offer = offeredParameter configuration.renamedTags parameter) ∨
    offer = ⟨"instance", "instance", tag "instance" instanceName, true⟩ ∨
    offer = ⟨"jmx_domain", "jmx_domain", tag "jmx_domain" bean.domain, true⟩ ∨
    ∃ text ∈ instanceTags, offer = offeredOwn text := by
  simp [offered, eq_comm]

/-- A tag on offer has the key under which it is reported, if no colon stands in those of parameters. -/
theorem key_of_offered
    (plain : ∀ parameter ∈ bean.parameters,
      ':' ∉ (renamed configuration.renamedTags parameter.1).toList)
    (among : offer ∈ offered bean configuration instanceName instanceTags) :
    key offer.text = offer.key := by
  rcases mem_offered.mp among with ⟨parameter, member, rfl⟩ | rfl | rfl | ⟨text, _, rfl⟩
  · exact (key_tag _ _).trans (key_of_plain (plain parameter member))
  · exact (key_tag _ _).trans (key_of_plain (by decide))
  · exact (key_tag _ _).trans (key_of_plain (by decide))
  · rfl

/-- The keys of the tags that stay in any case. -/
theorem key_of_fixed (among : offer ∈ offered bean configuration instanceName instanceTags)
    (fixed : offer.fixed = true) : offer.key = "instance" ∨ offer.key = "jmx_domain" := by
  rcases mem_offered.mp among with ⟨parameter, _, rfl⟩ | rfl | rfl | ⟨text, _, rfl⟩
  · cases fixed
  · exact .inl rfl
  · exact .inr rfl
  · cases fixed

/-- The shared tags are those on offer of which no key is listed, and the two that stay in any case, in
their order, with what the include filter adds behind them. As long as the list names neither of those two,
and no colon stands in the key under which a parameter is reported, no tag that is left has a key that is
listed; and no tag is left out of which no key is. -/
theorem base_leaves_out (bean : Bean) (params : Bindings) (configuration : Configuration)
    (instanceName : String) (instanceTags : List String) :
    let excluded := configuration.included.excludedTags
    let offers := offered bean configuration instanceName instanceTags
    ∃ own, base bean params configuration instanceName instanceTags =
        own ++ render configuration.included.tags params [] ∧
      own = kept excluded offers ∧
      (∀ offer ∈ offers, offer.original ∉ excluded → offer.key ∉ excluded → offer.text ∈ own) ∧
      ("instance" ∉ excluded → "jmx_domain" ∉ excluded →
        (∀ parameter ∈ bean.parameters,
          ':' ∉ (renamed configuration.renamedTags parameter.1).toList) →
        ∀ text ∈ own, key text ∉ excluded) := by
  intro excluded offers
  refine ⟨kept excluded offers, base_eq_kept .., rfl, ?_, ?_⟩
  · intro offer among original reported
    exact mem_kept.mpr ⟨offer, among, .inr ⟨original, reported⟩, rfl⟩
  · intro noInstance noDomain plain text member
    obtain ⟨offer, among, stays, rfl⟩ := mem_kept.mp member
    rw [key_of_offered plain among]
    rcases stays with fixed | ⟨_, reported⟩
    · rcases key_of_fixed among fixed with isInstance | isDomain
      · exact isInstance ▸ noInstance
      · exact isDomain ▸ noDomain
    · exact reported

/-- A bean with two parameters, of which one is reported under another key. -/
def broker : Bean :=
  ⟨"kafka.server", [("type", "Broker"), ("host", "h1")], "kafka.server:type=Broker,host=h1"⟩

def leavingOut (excluded : List String) : Configuration where
  included := { Filter.empty with excludedTags := excluded }
  excluded := Filter.empty
  metricPrefix := none
  renamedTags := [("type", "kind")]

theorem base_leaves_out_broker :
    base broker [] (leavingOut ["kind", "team"]) "east" ["team:core", "zone:1"] =
        ["bean_host:h1", "instance:east", "jmx_domain:kafka.server", "zone:1"] ∧
      ∀ text ∈ ["bean_host:h1", "instance:east", "jmx_domain:kafka.server", "zone:1"],
        key text ∉ ["kind", "team"] := by
  obtain ⟨own, whole, isKept, -, apart⟩ :=
    base_leaves_out broker [] (leavingOut ["kind", "team"]) "east" ["team:core", "zone:1"]
  have four : kept ["kind", "team"] (offered broker (leavingOut ["kind", "team"]) "east"
      ["team:core", "zone:1"]) =
        ["bean_host:h1", "instance:east", "jmx_domain:kafka.server", "zone:1"] := by decide
  have isFour := isKept.trans four
  constructor
  · rw [whole, isFour]
    rfl
  · rw [← isFour]
    exact apart (by decide) (by decide) (by decide)

/-- The tags of the instance's name and of the domain stay although their keys are listed, and so does a
parameter that is reported under a key with a colon. -/
theorem base_keeps_listed :
    let bean : Bean := ⟨"d", [("type", "T"), ("a:b", "c")], "d:type=T,a:b=c"⟩
    let configuration := leavingOut ["instance", "jmx_domain", "a"]
    ∀ text ∈ ["instance:east", "jmx_domain:d", "a:b:c"],
      text ∈ base bean [] configuration "east" [] ∧
        key text ∈ configuration.included.excludedTags ∧ configuration.included.tags = [] := by
  decide

end BeanHarvest.Tags
