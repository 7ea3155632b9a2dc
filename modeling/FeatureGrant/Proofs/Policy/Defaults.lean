import FeatureGrant.Proofs.Default
import FeatureGrant.Proofs.Policy.Inheritance
import FeatureGrant.Proofs.Schema.Fields
import FeatureGrant.Scenario.Load

/-!
# Defaults in scenarios and in policies

The defaults of a scenario are checked along with its other fields, those of a
policy while the policy is built.  Both ways accept the same maps of values and
read them as the same defaults.  So the defaults of a scenario never keep it
from making a policy.
-/

namespace FeatureGrant

/-- A map of values as a value. -/
def OrderedMap.value (values : OrderedMap Value) : Value :=
  .map (values.entries.map fun entry => (.text entry.1, entry.2))

/-- Whether values are read as defaults: those of the same features in the same
order, each written like its default. -/
def AreReadAs (values : OrderedMap Value) (defaults : OrderedMap Default) : Prop :=
  List.Forall₂
    (fun w entry => w.1 = entry.1 ∧ ∃ s, w.2 = .text s ∧ entry.2.IsWritten s)
    values.entries defaults.entries

/-- Whether a feature is the first with a value that is not written like a
default. -/
def IsFirstUnread (values : OrderedMap Value) (feature : String)
    (value : Value) : Prop :=
  ∃ before after, values.entries = before ++ (feature, value) :: after ∧
    (∀ entry ∈ before, entry.2.IsDefault) ∧ ¬value.IsDefault

/-! ## Building a policy -/

namespace Policy

section

variable {values : OrderedMap Value} {defaults : OrderedMap Default}

/-- The default of a feature. -/
def readDefault (feature : String) (value : Value) : Except BuildFault Default :=
  match Default.ofValue? value with
  | some d => .ok d
  | none => .error (.default { feature, value })

theorem readDefaults_eq_traverse (values : OrderedMap Value) :
    readDefaults values = values.traverse readDefault := rfl

theorem readDefault_eq_ok_iff {feature : String} {value : Value} {d : Default} :
    readDefault feature value = .ok d ↔ ∃ s, value = .text s ∧ d.IsWritten s := by
  rw [← Default.ofValue?_eq_some_iff, readDefault]
  cases Default.ofValue? value with
  | none => simp
  | some d' => simp

theorem exists_readDefault_iff {feature : String} {value : Value} :
    (∃ d, readDefault feature value = .ok d) ↔ value.IsDefault := by
  simp only [readDefault_eq_ok_iff]
  exact exists_comm

theorem readDefault_eq_error_iff {feature : String} {value : Value}
    {fault : BuildFault} :
    readDefault feature value = .error fault ↔
      ¬value.IsDefault ∧ fault = .default { feature, value } := by
  rw [← Default.ofValue?_ne_none_iff, readDefault]
  cases Default.ofValue? value with
  | none => simp [eq_comm]
  | some d => simp

theorem readDefaults_eq_ok_iff :
    readDefaults values = .ok defaults ↔ AreReadAs values defaults := by
  rw [readDefaults_eq_traverse, OrderedMap.traverse_eq_ok_iff]
  simp only [readDefault_eq_ok_iff]
  rfl

/-- Defaults cannot be read because of the first value that is not written like
one. -/
theorem readDefaults_eq_error_iff {fault : BuildFault} :
    readDefaults values = .error fault ↔
      ∃ feature value, IsFirstUnread values feature value ∧
        fault = .default { feature, value } := by
  rw [readDefaults_eq_traverse, OrderedMap.traverse_eq_error_iff]
  simp only [OrderedMap.FailsFirst, exists_readDefault_iff,
    readDefault_eq_error_iff, IsFirstUnread]
  constructor
  · rintro ⟨⟨feature, value⟩, before, after, hentries, hbefore, hvalue, hfault⟩
    exact ⟨feature, value, ⟨before, after, hentries, hbefore, hvalue⟩, hfault⟩
  · rintro ⟨feature, value, ⟨before, after, hentries, hbefore, hvalue⟩, hfault⟩
    exact ⟨(feature, value), before, after, hentries, hbefore, hvalue, hfault⟩

theorem exists_areReadAs_iff :
    (∃ d, AreReadAs values d) ↔ ∀ entry ∈ values.entries, entry.2.IsDefault := by
  constructor
  · rintro ⟨d, hd⟩ entry hentry
    exact exists_readDefault_iff.mp
      (OrderedMap.exists_of_mem_of_traverse (readDefaults_eq_ok_iff.mpr hd) hentry)
  · intro hall
    cases hread : readDefaults values with
    | ok d => exact ⟨d, readDefaults_eq_ok_iff.mp hread⟩
    | error fault =>
        obtain ⟨feature, value, ⟨before, after, hentries, -, hvalue⟩, -⟩ :=
          readDefaults_eq_error_iff.mp hread
        have hmem : (feature, value) ∈ values.entries := by
          rw [hentries]
          exact List.mem_append_right before List.mem_cons_self
        exact absurd (hall _ hmem) hvalue

end

/-- A policy that was built with some defaults is built with others exactly if
these can be read, and differs in nothing else. -/
theorem build_of_defaults {page : Value} {header : Source PolicyMap}
    {values₀ : OrderedMap Value} {info? : Option (FrameInfo PolicyMap)}
    {p₀ : Policy} (hok : build page header values₀ info? = .ok p₀)
    (values : OrderedMap Value) :
    build page header values info? =
      (readDefaults values).map fun d => { p₀ with defaults := d } := by
  obtain ⟨hpage, hheader, -, -⟩ := ofPage_eq_ok_iff.mp (ofPage_of_build hok)
  cases hread : readDefaults values with
  | error fault =>
      have hofPage : ofPage page header values = .error fault := by
        simp only [ofPage, bind_eq_error_iff, mapError_eq_ok_iff]
        exact Or.inr ⟨p₀.page, hpage, Or.inr ⟨p₀.header, hheader, Or.inl hread⟩⟩
      exact bind_eq_error_iff.mpr (Or.inl hofPage)
  | ok d =>
      have hofPage : ofPage page header values =
          .ok { p₀ with defaults := d, frame := none } :=
        ofPage_eq_ok_iff.mpr ⟨hpage, hheader, hread, rfl⟩
      refine bind_eq_ok_iff.mpr ⟨_, hofPage, ?_⟩
      cases info? with
      | none =>
          obtain ⟨p, hp, hsame⟩ := bind_eq_ok_iff.mp hok
          have hframe := (ofPage_eq_ok_iff.mp hp).2.2.2
          rw [Except.ok.inj hsame] at hframe
          rw [← hframe]
      | some info =>
          obtain ⟨-, -, -, frame, hinfo, hframe⟩ := build_some_eq_ok hok
          rw [hframe]
          exact withFrame_eq_ok_iff.mpr ⟨frame, hinfo, rfl⟩

end Policy

/-- The same for values of any shape. -/
theorem Arguments.policy_of_defaults {known : Registry}
    {page header frame : Value} {p₀ : Policy}
    (hok : policy known page header .null frame = .ok p₀)
    (values : OrderedMap Value) :
    policy known page header values.value frame =
      ((Policy.readDefaults values).mapError BuildFault.failure).map
        fun d => { p₀ with defaults := d } := by
  obtain ⟨source, values₀, info?, hsource, -, hframe, hbuild⟩ :=
    exists_build_of_policy hok
  have hvalues : defaults known values.value = .ok values := defaults_map values
  rw [policy_eq_build hsource hvalues hframe,
    Policy.build_of_defaults hbuild values]
  cases Policy.readDefaults values with
  | error fault => rfl
  | ok d => rfl

/-! ## Checking a scenario -/

namespace Schema

variable {known : Registry} {values : OrderedMap Value}

/-- A value that is not bytes is checked like the defaults of a policy. -/
theorem default_eq_ok_iff {v : Value} (hv : ∀ bytes, v ≠ .bytes bytes)
    {d : Default} :
    default v = .ok d ↔ ∃ s, v = .text s ∧ d.IsWritten s := by
  have hsame : default v = .ok d ↔ Default.ofValue? v = some d := by
    unfold default
    split
    next bytes => exact absurd rfl (hv bytes)
    next =>
      cases Default.ofValue? v with
      | none => simp [flawed]
      | some d' => simp
  rw [hsame, Default.ofValue?_eq_some_iff]

theorem mapField_default_eq_ok_iff
    (hvalues : ∀ entry ∈ values.entries, ∀ bytes, entry.2 ≠ .bytes bytes)
    {defaults : OrderedMap Default} :
    mapField known default values.value = .ok defaults ↔
      AreReadAs values defaults := by
  have hmap : mapField known default values.value =
      mapOf default (values.entries.map fun entry => (.text entry.1, entry.2)) :=
    rfl
  rw [hmap, mapOf_eq_ok_iff, AreReadAs, List.forall₂_iff_get,
    List.forall₂_iff_get]
  apply and_congr_right
  intro hlength
  apply forall_congr'
  intro i
  apply forall_congr'
  intro hi
  apply forall_congr'
  intro hi'
  apply and_congr_right
  intro hname
  exact default_eq_ok_iff (hvalues _ (List.get_mem _ _))

/-- A scenario without defaults is one with defaults exactly if these can be
read, and differs in nothing else. -/
theorem scenario_eq_ok_iff_of_without
    (hvalues : ∀ entry ∈ values.entries, ∀ bytes, entry.2 ≠ .bytes bytes)
    {fields : List (Value × Value)} {s₀ : Scenario Held}
    (hfield : field? "default_allowlist" fields = some values.value)
    (hrest : scenario known (.map (without "default_allowlist" fields)) = .ok s₀)
    {s : Scenario Held} :
    scenario known (.map fields) = .ok s ↔
      ∃ defaults, AreReadAs values defaults ∧ s = { s₀ with defaults } := by
  have hother {name : String} (hne : name ≠ "default_allowlist") :
      field? name (without "default_allowlist" fields) = field? name fields :=
    field?_without_of_ne hne fields
  obtain ⟨horigin₀, hheader₀, -, hframe₀, hextras₀⟩ :=
    scenario_map_eq_ok_iff.mp hrest
  rw [required_congr (hother (by decide))] at horigin₀
  rw [optional_congr (hother (by decide))] at hheader₀
  rw [optional_congr (hother (by decide))] at hframe₀
  rw [extras_without (by decide)] at hextras₀
  have hoptional (defaults : OrderedMap Default) :
      optional "default_allowlist" ∅ (mapField known default) fields =
        .ok defaults ↔ AreReadAs values defaults := by
    have hmap : mapField known default values.value = .ok defaults ↔
        AreReadAs values defaults := mapField_default_eq_ok_iff hvalues
    rw [← hmap, optional, hfield]
    exact under_eq_ok_iff
  rw [scenario_map_eq_ok_iff, hoptional]
  constructor
  · rintro ⟨horigin, hheader, hdefaults, hframe, -⟩
    refine ⟨s.defaults, hdefaults, ?_⟩
    rw [← Except.ok.inj (horigin.symm.trans horigin₀),
      ← Except.ok.inj (hheader.symm.trans hheader₀),
      ← Except.ok.inj (hframe.symm.trans hframe₀)]
  · rintro ⟨defaults, hdefaults, rfl⟩
    exact ⟨horigin₀, hheader₀, hdefaults, hframe₀, hextras₀⟩

end Schema

/-! ## Building from a scenario -/

namespace Policy

theorem ne_default_of_readHeader {page : String} {header : Source PolicyMap}
    {e : InvalidDefault} : readHeader page header ≠ .error (.default e) := by
  intro herror
  cases header with
  | text value =>
      simp only [readHeader, bind_eq_error_iff, mapError_eq_error_iff] at herror
      rcases herror with ⟨_, -, hfault⟩ | ⟨m, -, ⟨_, -, hfault⟩ | ⟨_, -, hok⟩⟩
      · cases hfault
      · cases hfault
      · cases hok
  | map m =>
      simp only [readHeader, bind_eq_error_iff, mapError_eq_error_iff] at herror
      rcases herror with hfault | ⟨m, -, ⟨_, -, hfault⟩ | ⟨_, -, hok⟩⟩
      · cases hfault
      · cases hfault
      · cases hok

theorem ne_default_of_withFrame {p : Policy} {info : FrameInfo PolicyMap}
    {e : InvalidDefault} : p.withFrame info ≠ .error (.default e) := by
  intro herror
  simp only [withFrame, readFrame, bind_eq_error_iff, mapError_eq_error_iff]
    at herror
  rcases herror with
    (⟨fault, -, hfault⟩ | ⟨_, -, ⟨fault, -, hfault⟩ |
      ⟨_, -, ⟨fault, -, hfault⟩ | ⟨_, -, hok⟩⟩⟩) | ⟨_, -, hok⟩
  · cases hfault
  · cases hfault
  · cases hfault
  · cases hok
  · cases hok

/-- A policy is not built because of a default only if the defaults cannot be
read. -/
theorem readDefaults_of_build {page : Value} {header : Source PolicyMap}
    {values : OrderedMap Value} {info? : Option (FrameInfo PolicyMap)}
    {e : InvalidDefault}
    (herror : build page header values info? = .error (.default e)) :
    readDefaults values = .error (.default e) := by
  simp only [build, ofPage, bind_eq_error_iff, mapError_eq_error_iff] at herror
  rcases herror with
    (⟨fault, -, hfault⟩ | ⟨_, -, hheader | ⟨_, -, hread | ⟨_, -, hok⟩⟩⟩) |
      ⟨p, -, hframe⟩
  · cases hfault
  · exact absurd hheader ne_default_of_readHeader
  · exact hread
  · cases hok
  · cases info? with
    | none => cases hframe
    | some info => exact absurd hframe ne_default_of_withFrame

end Policy

theorem BuildFault.eq_default_of_failure {fault : BuildFault}
    {source feature value : String} {cause : Option String}
    (hfailure : fault.failure =
      .fault (.invalidDefault source feature value) cause) :
    ∃ e, fault = .default e := by
  cases fault with
  | default e => exact ⟨e, rfl⟩
  | header text headerFault => cases headerFault <;> cases hfailure
  | _ => cases hfailure

/-- Whatever keeps a scenario from making a policy, it is not a default. -/
theorem Scenario.failure_ne_invalidDefault {s : Scenario Held}
    {fault : BuildFault} (herror : s.policy = .error fault)
    (source feature value : String) (cause : Option String) :
    fault.failure ≠ .fault (.invalidDefault source feature value) cause := by
  intro hfailure
  obtain ⟨e, rfl⟩ := BuildFault.eq_default_of_failure hfailure
  have hread := Policy.readDefaults_of_build herror
  rw [Policy.readDefaults_texts] at hread
  cases hread

/-! ## Both ways -/

/-- The defaults of a scenario and those of a policy are accepted alike,
whatever the other fields and the other arguments are: exactly if every value is
written like a default, and then both have the same defaults of the same
features in the same order.  If some value is not, the scenario is rejected, and
the first such value is why there is no policy.  So a scenario that was checked
may fail to make a policy, but not because of its defaults.  Bytes, which a
document does not hold, are left out: they count as text in a scenario only. -/
theorem defaults_accepted_alike {known : Registry} {values : OrderedMap Value}
    (hvalues : ∀ entry ∈ values.entries, ∀ bytes, entry.2 ≠ .bytes bytes)
    {fields : List (Value × Value)} {s₀ : Scenario Held}
    (hfield : Schema.field? "default_allowlist" fields = some values.value)
    (hrest : Schema.scenario known
      (.map (Schema.without "default_allowlist" fields)) = .ok s₀)
    {page header frame : Value} {p₀ : Policy}
    (hpolicy : Arguments.policy known page header .null frame = .ok p₀) :
    ((∀ entry ∈ values.entries, entry.2.IsDefault) →
      ∃ defaults, AreReadAs values defaults ∧
        Schema.scenario known (.map fields) = .ok { s₀ with defaults } ∧
        Arguments.policy known page header values.value frame =
          .ok { p₀ with defaults }) ∧
    ((∃ entry ∈ values.entries, ¬entry.2.IsDefault) →
      (∃ violations, Schema.scenario known (.map fields) = .error violations) ∧
        ∃ feature value, IsFirstUnread values feature value ∧
          Arguments.policy known page header values.value frame =
            .error (.fault (.invalidDefault "" feature value.plain)
              (some "ValueError"))) ∧
    ∀ (s : Scenario Held) (fault : BuildFault), s.policy = .error fault →
      ∀ source feature value cause,
        fault.failure ≠ .fault (.invalidDefault source feature value) cause := by
  have hscenario {s : Scenario Held} :
      Schema.scenario known (.map fields) = .ok s ↔
        ∃ defaults, AreReadAs values defaults ∧ s = { s₀ with defaults } :=
    Schema.scenario_eq_ok_iff_of_without hvalues hfield hrest
  refine ⟨?_, ?_, ?_⟩
  · intro hall
    obtain ⟨defaults, hdefaults⟩ := Policy.exists_areReadAs_iff.mpr hall
    refine ⟨defaults, hdefaults, hscenario.mpr ⟨defaults, hdefaults, rfl⟩, ?_⟩
    rw [Arguments.policy_of_defaults hpolicy,
      Policy.readDefaults_eq_ok_iff.mpr hdefaults]
    rfl
  · rintro ⟨entry, hentry, hnot⟩
    have hnone : ¬∃ defaults, AreReadAs values defaults := by
      rw [Policy.exists_areReadAs_iff]
      intro hall
      exact hnot (hall entry hentry)
    constructor
    · cases hload : Schema.scenario known (.map fields) with
      | error violations => exact ⟨violations, rfl⟩
      | ok s =>
          obtain ⟨defaults, hdefaults, -⟩ := hscenario.mp hload
          exact absurd ⟨defaults, hdefaults⟩ hnone
    · cases hread : Policy.readDefaults values with
      | ok defaults =>
          exact absurd ⟨defaults, Policy.readDefaults_eq_ok_iff.mp hread⟩ hnone
      | error fault =>
          obtain ⟨feature, value, hfirst, rfl⟩ :=
            Policy.readDefaults_eq_error_iff.mp hread
          refine ⟨feature, value, hfirst, ?_⟩
          rw [Arguments.policy_of_defaults hpolicy, hread]
          rfl
  · intro s fault herror
    exact Scenario.failure_ne_invalidDefault herror

/-- Defaults as they may be written, the first one in capitals and between
spaces. -/
def spelledDefaults : OrderedMap Value :=
  .ofList [("camera", .text " SELF "), ("fullscreen", .text "*")]

/-- A scenario and a policy that are written with the same spellings have the
same defaults. -/
theorem spelledDefaults_accepted :
    ∃ defaults : OrderedMap Default,
      defaults = .ofList [("camera", .self), ("fullscreen", .wildcard)] ∧
      Schema.scenario .none (.map [(.text "origin", .text "https://a.example"),
        (.text "default_allowlist", spelledDefaults.value)]) =
          .ok { origin := "https://a.example", header := "", defaults, frame := none } ∧
      Arguments.policy .none (.text "https://a.example") (.text "")
          spelledDefaults.value .null =
        .ok { page := "https://a.example", header := ∅, defaults, frame := none } := by
  have hall : ∀ entry ∈ spelledDefaults.entries, entry.2.IsDefault := by
    intro entry hentry
    rw [← Default.ofValue?_ne_none_iff]
    rcases List.mem_cons.mp hentry with rfl | hentry
    · decide
    · obtain rfl := List.mem_singleton.mp hentry
      decide
  have hbytes : ∀ entry ∈ spelledDefaults.entries, ∀ bytes,
      entry.2 ≠ .bytes bytes := by
    intro entry hentry bytes heq
    obtain ⟨s, d, htext, -⟩ := hall entry hentry
    cases htext.symm.trans heq
  have hpolicy : Arguments.policy .none (.text "https://a.example") (.text "")
      .null .null = .ok
        { page := "https://a.example", header := ∅, defaults := ∅, frame := none } :=
    toOption_eq_some_iff.mp (by decide)
  let fields : List (Value × Value) :=
    [(.text "origin", .text "https://a.example"),
      (.text "default_allowlist", spelledDefaults.value)]
  have hrest : Schema.scenario .none
      (.map (Schema.without "default_allowlist" fields)) = .ok
        { origin := "https://a.example", header := "", defaults := ∅, frame := none } :=
    rfl
  have hfield : Schema.field? "default_allowlist" fields =
      some spelledDefaults.value := rfl
  obtain ⟨defaults, hdefaults, hscenario, hbuilt⟩ :=
    (defaults_accepted_alike hbytes hfield hrest hpolicy).1 hall
  have hread : (Policy.readDefaults spelledDefaults).toOption =
      some (.ofList [("camera", .self), ("fullscreen", .wildcard)]) := by
    decide
  rw [Policy.readDefaults_eq_ok_iff.mpr hdefaults] at hread
  exact ⟨defaults, Option.some.inj hread, hscenario, hbuilt⟩

end FeatureGrant
