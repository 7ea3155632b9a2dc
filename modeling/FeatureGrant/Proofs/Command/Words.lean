import Mathlib.Data.List.TakeWhile
import FeatureGrant.Command.Invocation
import FeatureGrant.Proofs.Result

/-!
# Words that spell a request

An option by its long name, with its value in the next word, is read back
whatever the value looks like, and so are operands behind two dashes.  So there
are words for every request.
-/

namespace FeatureGrant.Command

/-- An option that is given by its long name. -/
structure IsLong (specs : List OptionSpec) (spec : OptionSpec) : Prop where
  listed : specs.find? (·.long == spec.long) = some spec
  dashes : ∃ c rest, spec.long.toList = '-' :: '-' :: c :: rest
  plain : '=' ∉ spec.long.toList

variable {specs : List OptionSpec} {mixed : Bool} {spec : OptionSpec}

theorem IsLong.readOption (hlong : IsLong specs spec) :
    readOption specs spec.long.toList =
      .ok (if spec.takesValue then ([], some spec)
        else ([⟨spec.long, ""⟩], none)) := by
  have hname (c : Char) (hc : c ∈ spec.long.toList) : (c != '=') = true := by
    rw [bne_iff_ne]
    rintro rfl
    exact hlong.plain hc
  have htake : spec.long.toList.takeWhile (· != '=') = spec.long.toList :=
    List.takeWhile_eq_self_iff.mpr hname
  have hdrop : spec.long.toList.dropWhile (· != '=') = [] :=
    List.dropWhile_eq_nil_iff.mpr hname
  simp only [Command.readOption, htake, hdrop, String.ofList_toList,
    hlong.listed]
  split
  next => rfl
  next => rfl

/-- The word behind the name of an option is its value. -/
theorem readArguments_value (hlong : IsLong specs spec)
    (hvalued : spec.takesValue = true) (value : String) (rest : List String) :
    readArguments specs mixed none (spec.long :: value :: rest) =
      (readArguments specs mixed none rest).map
        (·.withOptions [⟨spec.long, value⟩]) := by
  obtain ⟨c, chars, hword⟩ := hlong.dashes
  have hread := hlong.readOption
  rw [hword, if_pos hvalued] at hread
  simp only [readArguments, hword, hread]
  cases readArguments specs mixed none rest with
  | error fault => rfl
  | ok behind => rfl

theorem readArguments_flag (hlong : IsLong specs spec)
    (hflag : spec.takesValue = false) (rest : List String) :
    readArguments specs mixed none (spec.long :: rest) =
      (readArguments specs mixed none rest).map
        (·.withOptions [⟨spec.long, ""⟩]) := by
  obtain ⟨c, chars, hword⟩ := hlong.dashes
  have hread := hlong.readOption
  rw [hword, if_neg (Bool.eq_false_iff.mp hflag)] at hread
  rw [readArguments]
  simp only [hword, hread]
  change (readArguments specs mixed none rest >>= fun behind =>
    .ok (behind.withOptions [⟨spec.long, ""⟩])) = _
  cases readArguments specs mixed none rest with
  | error fault => rfl
  | ok behind => rfl

/-- An option that is given once for each of some values. -/
def each (name : String) (values : List String) : List GivenOption :=
  values.map (⟨name, ·⟩)

theorem values_each_append (name other : String) (values : List String)
    (rest : List GivenOption) (operands : List String) :
    Arguments.values { options := each name values ++ rest, operands } other =
      (if name = other then values else [])
        ++ Arguments.values { options := rest, operands } other := by
  induction values with
  | nil => simp [each]
  | cons value others ih =>
      by_cases hname : name = other
      · simp_all [Arguments.values, each]
      · simp_all [Arguments.values, each]

/-- The words that give some options by their long names. -/
def optionWords (given : List GivenOption) : List String :=
  given.flatMap fun g => [g.name, g.value]

/-- An option has a value if some option by its name is listed with one. -/
def TakesValue (specs : List OptionSpec) (name : String) : Prop :=
  ∃ spec ∈ specs, spec.takesValue = true ∧ spec.long = name

instance (specs : List OptionSpec) (name : String) :
    Decidable (TakesValue specs name) :=
  inferInstanceAs (Decidable (∃ spec ∈ specs, _ ∧ _))

theorem takesValue_each_append {name : String} (hname : TakesValue specs name)
    {rest : List GivenOption} (hrest : ∀ g ∈ rest, TakesValue specs g.name)
    (values : List String) :
    ∀ g ∈ each name values ++ rest, TakesValue specs g.name := by
  intro g hg
  rcases List.mem_append.mp hg with hg | hg
  · obtain ⟨value, -, rfl⟩ := List.mem_map.mp hg
    exact hname
  · exact hrest g hg

/-- Options that are given by their long names stand before those that are read
behind them. -/
theorem readArguments_optionWords (hspecs : ∀ spec ∈ specs, IsLong specs spec)
    {given : List GivenOption} (hgiven : ∀ g ∈ given, TakesValue specs g.name)
    {rest : List String} {behind : Arguments}
    (hrest : readArguments specs mixed none rest = .ok behind) :
    readArguments specs mixed none (optionWords given ++ rest) =
      .ok (behind.withOptions given) := by
  induction given with
  | nil => exact hrest
  | cons g others ih =>
      obtain ⟨⟨spec, hspec, hvalued, hname⟩, hothers⟩ :=
        List.forall_mem_cons.mp hgiven
      have hwords : optionWords (g :: others) ++ rest =
          spec.long :: g.value :: (optionWords others ++ rest) := by
        rw [hname]
        rfl
      rw [hwords, readArguments_value (hspecs spec hspec) hvalued, ih hothers,
        hname]
      rfl

/-! ## Words of a check -/

theorem isLong_checkOptions : ∀ spec ∈ checkOptions, IsLong checkOptions spec := by
  intro spec hspec
  simp only [checkOptions, commonOptions, List.cons_append, List.nil_append,
    List.mem_cons, List.not_mem_nil, or_false] at hspec
  rcases hspec with rfl | rfl | rfl | rfl | rfl | rfl | rfl | rfl | rfl | rfl
  all_goals exact ⟨rfl, ⟨_, _, rfl⟩, by decide⟩

/-- The words that ask for a check with some options, whose results are written
as a document. -/
def checkWords (given : List GivenOption) (features : List String) :
    List String :=
  "check" :: "--json" :: (optionWords given ++ "--" :: features)

/-- Results as a document, without traces. -/
def asDocument : Format where
  json := true
  debug := false

theorem ofCheckArguments_eq {a : Arguments} (hoperands : a.operands ≠ [])
    (hpolicy : a.value? "--config" ≠ none ∨ a.value? "--origin" ≠ none) :
    Invocation.ofCheckArguments a = .ok (.check a.checkRequest a.format) := by
  have hfeatures : ¬a.operands.isEmpty = true := by
    rwa [List.isEmpty_iff]
  have hpresent :
      ¬((a.value? "--config").isNone && (a.value? "--origin").isNone) = true := by
    rw [Bool.and_eq_true, Option.isNone_iff_eq_none, Option.isNone_iff_eq_none]
    exact not_and_or.mpr hpolicy
  rw [Invocation.ofCheckArguments, if_neg hfeatures, if_neg hpresent]

/-- A check is asked for with the options and the features that are spelled. -/
theorem read_checkWords {given : List GivenOption}
    (hgiven : ∀ g ∈ given, TakesValue checkOptions g.name)
    {features : List String} (hfeatures : features ≠ [])
    {request : CheckRequest}
    (hrequest : Arguments.checkRequest
      { options := given, operands := features } = request)
    (hpolicy : request.config ≠ none ∨ request.origin ≠ none) :
    Invocation.read (checkWords given features) =
      .ok (.check request asDocument) := by
  let a : Arguments := { options := given, operands := features }
  let b : Arguments :=
    { options := ⟨"--json", ""⟩ :: given, operands := features }
  have hbehind : readArguments checkOptions true none ("--" :: features) =
      .ok { options := [], operands := features } := rfl
  have hjson : IsLong checkOptions (flag "--json" none) :=
    isLong_checkOptions _ (by decide)
  have hread : readArguments checkOptions true none
      ("--json" :: (optionWords given ++ "--" :: features)) = .ok b := by
    refine (readArguments_flag hjson rfl _).trans ?_
    rw [readArguments_optionWords isLong_checkOptions hgiven hbehind,
      Arguments.withOptions, List.append_nil]
    rfl
  have hhas {name : String} (hname : ¬TakesValue checkOptions name) :
      a.has name = false := by
    rw [Arguments.has, List.any_eq_false]
    intro g hg heq
    exact hname (beq_iff_eq.mp heq ▸ hgiven g hg)
  have hhelp : b.has "--help" = false := hhas (by decide)
  have hformat : b.format = asDocument := by
    rw [Arguments.format, show b.has "--debug" = false from hhas (by decide)]
    rfl
  have hsame : b.checkRequest = request := hrequest
  have hmade := ofCheckArguments_eq (a := b) hfeatures (by
    rw [← hsame] at hpolicy
    exact hpolicy)
  rw [hsame, hformat] at hmade
  have hcommand : Invocation.read (checkWords given features) =
      Invocation.readCommand checkOptions Invocation.ofCheckArguments
        ("--json" :: (optionWords given ++ "--" :: features)) := rfl
  rw [hcommand, Invocation.readCommand, hread]
  change (if b.has "--help" then _ else Invocation.ofCheckArguments b) = _
  rw [hhelp, hmade]
  rfl

end FeatureGrant.Command
