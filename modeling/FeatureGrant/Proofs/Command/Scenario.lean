import Mathlib.Data.List.Forall2
import FeatureGrant.Command.Run
import FeatureGrant.Proofs.Command.Display
import FeatureGrant.Proofs.Command.Words
import FeatureGrant.Proofs.Default
import FeatureGrant.Proofs.OrderedMap.Traverse
import FeatureGrant.Proofs.Policy.Inheritance
import FeatureGrant.Proofs.Scenario
import FeatureGrant.Proofs.Url.Head

/-!
# A scenario in a file and on the command line

A scenario may be written in a file, or its parts may be given as options: the
page and its header as they are, each default as an assignment, and the frame by
its URL and its allow attribute.  Both ways make the same check.  From a file
the frame is built along with its page; from options the page is built first and
the frame then inherits from it, which changes nothing if the origin of the page
is canonical.
-/

namespace FeatureGrant.Command

open FeatureGrant.Text FeatureGrant.Url

/-! ## Assignments -/

/-- A name to which a default can be assigned. -/
structure IsAssignable (feature : String) : Prop where
  nonempty : feature ≠ ""
  trimmed : trim feature.toList = feature.toList
  plain : '=' ∉ feature.toList

/-- The word that assigns a default to a feature. -/
def assignment (feature spelled : String) : String := feature ++ "=" ++ spelled

theorem readAssignment_assignment {feature : String}
    (hfeature : IsAssignable feature) (spelled : String) :
    readAssignment (assignment feature spelled) =
      .ok (feature, .text (String.ofList (trim spelled.toList))) := by
  have hname (c : Char) (hc : c ∈ feature.toList) : (c != '=') = true := by
    rw [bne_iff_ne]
    rintro rfl
    exact hfeature.plain hc
  have hword : (assignment feature spelled).toList =
      feature.toList ++ '=' :: spelled.toList := by
    simp [assignment]
  have htake : (assignment feature spelled).toList.takeWhile (· != '=') =
      feature.toList := by
    rw [hword, List.takeWhile_append_of_pos hname, List.takeWhile_cons_of_neg
      (by decide), List.append_nil]
  have hdrop : (assignment feature spelled).toList.dropWhile (· != '=') =
      '=' :: spelled.toList := by
    rw [hword, List.dropWhile_append_of_pos hname, List.dropWhile_cons_of_neg
      (by decide)]
  obtain ⟨c, rest, hcons⟩ : ∃ c rest, feature.toList = c :: rest :=
    List.exists_cons_of_ne_nil (by simpa using hfeature.nonempty)
  unfold readAssignment
  rw [htake, hdrop, hfeature.trimmed]
  simp only [hcons]
  rw [← hcons, String.ofList_toList]

/-- A default is read with or without white space around it. -/
theorem ofText?_trim {spelled : String} {d : Default}
    (hd : Default.ofText? spelled = some d) :
    Default.ofText? (String.ofList (trim spelled.toList)) = some d := by
  rw [Default.ofText?_eq_some_iff] at hd ⊢
  cases hd with
  | own =>
      have htrim : String.ofList (trim d.text.toList) = d.text := by
        cases d with
        | wildcard => rfl
        | self => rfl
        | src => rfl
        | none => rfl
      rw [htrim]
      exact .own d
  | bare hword =>
      apply Default.IsWritten.bare
      rw [String.toList_ofList, trim_trim]
      exact hword

/-! ## Both ways to give a scenario -/

/-- What the options of a check say about a policy: the origin of a page, its
header, defaults as they are spelled, and a frame by its URL and its allow
attribute. -/
structure Outline where
  origin : String
  header : String
  defaults : List (String × String)
  frame : Option (String × String)
  deriving DecidableEq, Repr

/-- An outline says what a scenario says. -/
structure Outline.Describes (o : Outline) (s : Scenario Held) : Prop where
  origin : s.origin = o.origin
  header : s.header = o.header
  defaults : List.Forall₂
    (fun w entry => w.1 = entry.1 ∧ Default.ofText? w.2 = some entry.2)
    o.defaults s.defaults.entries
  frame : s.frame = o.frame.map fun f => { origin := f.1, allow := .text f.2 }

/-- The words that assign the defaults of an outline. -/
def Outline.assignments (o : Outline) : List String :=
  o.defaults.map fun w => assignment w.1 w.2

/-- The request to check features by an outline. -/
def Outline.request (o : Outline) (features : List String)
    (checkOrigin : Option String) : CheckRequest where
  features
  config := none
  origin := some o.origin
  header := o.header
  defaults := o.assignments
  frameOrigin := o.frame.map Prod.fst
  allow := (o.frame.map Prod.snd).getD ""
  checkOrigin

/-- The request to check features by the scenario in a file. -/
def fileRequest (name : String) (features : List String)
    (checkOrigin : Option String) : CheckRequest where
  features
  config := some name
  origin := none
  header := ""
  defaults := []
  frameOrigin := none
  allow := ""
  checkOrigin

/-- The options that give an outline and the origin to check. -/
def Outline.options (o : Outline) (checkOrigin : Option String) :
    List GivenOption :=
  each "--origin" [o.origin] ++ (each "--header" [o.header]
    ++ (each "--default" o.assignments
    ++ (each "--frame-origin" (o.frame.map Prod.fst).toList
    ++ (each "--allow" (o.frame.map Prod.snd).toList
    ++ (each "--check-origin" checkOrigin.toList ++ [])))))

/-- The options that name the file of a scenario and the origin to check. -/
def fileOptions (name : String) (checkOrigin : Option String) :
    List GivenOption :=
  each "--config" [name] ++ (each "--check-origin" checkOrigin.toList ++ [])

theorem getLast?_toList {α : Type} (x : Option α) : x.toList.getLast? = x := by
  cases x with
  | none => rfl
  | some a => rfl

theorem read_fileOptions (name : String) {features : List String}
    (hfeatures : features ≠ []) (checkOrigin : Option String) :
    Invocation.read (checkWords (fileOptions name checkOrigin) features) =
      .ok (.check (fileRequest name features checkOrigin) asDocument) := by
  apply read_checkWords
  · exact takesValue_each_append (by decide)
      (takesValue_each_append (by decide) (List.forall_mem_nil _) _) _
  · exact hfeatures
  · simp only [Arguments.checkRequest, Arguments.value?, fileOptions,
      values_each_append]
    simp [fileRequest, Arguments.values, getLast?_toList]
  · exact Or.inl (Option.some_ne_none name)

theorem Outline.read_options (o : Outline) {features : List String}
    (hfeatures : features ≠ []) (checkOrigin : Option String) :
    Invocation.read (checkWords (o.options checkOrigin) features) =
      .ok (.check (o.request features checkOrigin) asDocument) := by
  apply read_checkWords
  · exact takesValue_each_append (by decide)
      (takesValue_each_append (by decide)
        (takesValue_each_append (by decide)
          (takesValue_each_append (by decide)
            (takesValue_each_append (by decide)
              (takesValue_each_append (by decide) (List.forall_mem_nil _) _) _) _) _) _) _
  · exact hfeatures
  · simp only [Arguments.checkRequest, Arguments.value?, Outline.options,
      values_each_append]
    simp [Outline.request, Arguments.values, getLast?_toList]
  · exact Or.inr (Option.some_ne_none o.origin)

/-! ## The same policy -/

theorem readAssignments_assignments {defaults : List (String × String)}
    (hnames : ∀ w ∈ defaults, IsAssignable w.1) :
    readAssignments (defaults.map fun w => assignment w.1 w.2) =
      .ok (defaults.map fun w =>
        (w.1, .text (String.ofList (trim w.2.toList)))) := by
  induction defaults with
  | nil => rfl
  | cons w rest ih =>
      obtain ⟨hw, hrest⟩ := List.forall_mem_cons.mp hnames
      rw [List.map_cons, readAssignments, readAssignment_assignment hw, ih hrest]
      rfl

/-- The assignments of an outline are read as the defaults of the scenario. -/
theorem Outline.Describes.exists_readDefaults {o : Outline} {s : Scenario Held}
    (hdescribes : o.Describes s) (hnames : ∀ w ∈ o.defaults, IsAssignable w.1) :
    ∃ values, readDefaults o.assignments = .ok values ∧
      Policy.readDefaults values = .ok s.defaults := by
  let entries := o.defaults.map fun w =>
    (w.1, Value.text (String.ofList (trim w.2.toList)))
  have hnodup : (entries.map Prod.fst).Nodup := by
    have hkeys : o.defaults.map Prod.fst = s.defaults.keys := by
      rw [OrderedMap.keys, ← List.forall₂_eq_eq_eq, List.forall₂_map_left_iff,
        List.forall₂_map_right_iff]
      exact hdescribes.defaults.imp fun _ _ h => h.1
    rw [List.map_map]
    exact hkeys ▸ s.defaults.nodup_keys
  let values : OrderedMap Value := { entries, nodup_keys := hnodup }
  refine ⟨values, ?_, ?_⟩
  · rw [readDefaults, assignments, readAssignments_assignments hnames]
    exact congrArg Except.ok (OrderedMap.ofList_entries values)
  · apply OrderedMap.traverse_eq_ok_iff.mpr
    rw [List.forall₂_map_left_iff]
    apply hdescribes.defaults.imp
    rintro w entry ⟨hname, hd⟩
    refine ⟨hname, ?_⟩
    rw [Default.ofValue?, ofText?_trim hd]

/-- The options of an outline make the policy of the scenario. -/
theorem bind_enterFrame_of_describes {o : Outline} {s : Scenario Held}
    (hdescribes : o.Describes s)
    (hpage : ∀ page, canonical? s.origin = some page →
      canonical? page = some page)
    (hurl : ∀ info ∈ s.frame, info.origin ≠ "") {values : OrderedMap Value}
    (hvalues : Policy.readDefaults values = .ok s.defaults)
    (features : List String) (checkOrigin : Option String) :
    ((Policy.ofPage (.text o.origin) (.text o.header) values).mapError
        (·.failure)).bind (enterFrame (o.request features checkOrigin)) =
      s.policy.mapError (·.failure) := by
  have hsame : Policy.ofPage (.text s.origin) (.text s.header) values =
      Policy.ofPage (.text s.origin) (.text s.header)
        (s.defaults.map fun d => .text d.text) := by
    rw [Policy.ofPage, Policy.ofPage, hvalues, Policy.readDefaults_texts]
  rw [← hdescribes.origin, ← hdescribes.header, hsame, Scenario.policy,
    Policy.build]
  cases hbuilt : Policy.ofPage (.text s.origin) (.text s.header)
      (s.defaults.map fun d => .text d.text) with
  | error fault => rfl
  | ok p =>
      have hcanonical : canonical? p.page = some p.page :=
        hpage p.page (originOf_text_eq_ok_iff.mp
          (Policy.ofPage_eq_ok_iff.mp hbuilt).1)
      have hsframe := hdescribes.frame
      cases hframe : o.frame with
      | none =>
          rw [hframe] at hsframe
          rw [hsframe]
          simp only [Outline.request, hframe]
          rfl
      | some f =>
          rw [hframe] at hsframe
          have hf : f.1 ≠ "" := hurl _ hsframe
          have henter : enterFrame (o.request features checkOrigin) p =
              (p.inherit { origin := f.1, allow := .text f.2 }).mapError
                (·.failure) := by
            unfold enterFrame
            simp only [Outline.request, hframe, Option.map_some,
              Option.getD_some]
          rw [Policy.inherit_eq_withFrame hcanonical] at henter
          rw [hsframe]
          exact henter

/-! ## The same check -/

theorem describe_fileRequest {folder : Folder} {name path : String}
    {content : List UInt8} {s : Scenario Held}
    (hfile : folder.find? name = some (path, .file content))
    (hload : Scenario.ofBytes content = .ok s) (wording : Wording)
    (features : List String) (checkOrigin : Option String) :
    describe wording folder (fileRequest name features checkOrigin) =
      .ok (s.policy.mapError (·.failure)) := by
  have hok (x : Except Failure Policy) : x.bind .ok = x := by
    cases x with
    | error failure => rfl
    | ok p => rfl
  simp only [describe, fileRequest, hfile, policyOfFile, hload]
  exact congrArg Except.ok (hok _)

theorem Outline.Describes.describe_request {o : Outline} {s : Scenario Held}
    (hdescribes : o.Describes s)
    (hpage : ∀ page, canonical? s.origin = some page →
      canonical? page = some page)
    (hurl : ∀ info ∈ s.frame, info.origin ≠ "")
    (hnames : ∀ w ∈ o.defaults, IsAssignable w.1) (wording : Wording)
    (folder : Folder) (features : List String) (checkOrigin : Option String) :
    describe wording folder (o.request features checkOrigin) =
      .ok (s.policy.mapError (·.failure)) := by
  obtain ⟨values, hvalues, hdefaults⟩ := hdescribes.exists_readDefaults hnames
  have hbind := bind_enterFrame_of_describes hdescribes hpage hurl hdefaults
    features checkOrigin
  simp only [describe, Outline.request, hvalues]
  exact congrArg Except.ok hbind

/-- A scenario that is loaded from a file and an outline of it make the same
check, whatever the words are that ask for it: the outcomes are equal.  If the
scenario makes a policy, the document has one decision for every feature, in
order, and the exit code is zero if and only if the policy allows all of them;
otherwise the fault of the library is reported. -/
theorem run_of_describes {resources : Resources} {name path : String}
    {content : List UInt8} {s : Scenario Held} {o : Outline}
    {features : List String}
    (hfile : resources.folder.find? name = some (path, .file content))
    (hload : Scenario.ofBytes content = .ok s)
    (hpage : ∀ page, canonical? s.origin = some page →
      canonical? page = some page)
    (hdescribes : o.Describes s)
    (hnames : ∀ w ∈ o.defaults, IsAssignable w.1)
    (hfeatures : features ≠ []) (checkOrigin : Option String) :
    Invocation.read (checkWords (fileOptions name checkOrigin) features) =
        .ok (.check (fileRequest name features checkOrigin) asDocument) ∧
      Invocation.read (checkWords (o.options checkOrigin) features) =
        .ok (.check (o.request features checkOrigin) asDocument) ∧
      ∀ fileWords words,
        Invocation.read fileWords =
          .ok (.check (fileRequest name features checkOrigin) asDocument) →
        Invocation.read words =
          .ok (.check (o.request features checkOrigin) asDocument) →
        run resources fileWords = run resources words ∧
        (∀ fault, s.policy = .error fault → ∃ report cause,
          fault.failure = .fault report cause ∧
          run resources words = .failed (.of report)
            (.document (.record
              (("error", .boolean true) :: (Report.of report).record)))) ∧
        ∀ p, s.policy = .ok p →
          let made := features.map fun feature =>
            (p.evaluate feature (Fault.textOrNull checkOrigin)).decision
          run resources words =
              .done (if made.all (·.allowed) then 0 else 1)
                (.document (decisionsDocument p made [])) ∧
            made.map (·.feature) = features ∧
            ((run resources words).code = 0 ↔ ∀ feature ∈ features,
              p.allows feature (Fault.textOrNull checkOrigin) = true) := by
  refine ⟨read_fileOptions name hfeatures checkOrigin,
    o.read_options hfeatures checkOrigin, ?_⟩
  intro fileWords words hfileWords hwords
  have hurl : ∀ info ∈ s.frame, info.origin ≠ "" := fun info hinfo =>
    (Scenario.isChecked_of_ofBytes hload info hinfo).origin
  let outcome := conclude resources.wording asDocument
    (fun p => showDecisions asDocument p (decisions p features checkOrigin) [] [])
    (s.policy.mapError (·.failure))
  have hrunFile : run resources fileWords = outcome := by
    rw [run, hfileWords]
    simp only [Invocation.run, check, describe_fileRequest hfile hload]
    rfl
  have hrun : run resources words = outcome := by
    rw [run, hwords]
    simp only [Invocation.run, check,
      hdescribes.describe_request hpage hurl hnames]
    rfl
  refine ⟨hrunFile.trans hrun.symm, ?_, ?_⟩
  · intro fault hfault
    obtain ⟨report, cause, hreport⟩ :=
      Scenario.isReported_of_policy hload hfault
    refine ⟨report, cause, hreport, ?_⟩
    rw [hrun]
    simp only [outcome, hfault, Except.mapError, conclude, hreport]
    rfl
  · intro p hp made
    have hdone : run resources words =
        .done (if made.all (·.allowed) then 0 else 1)
          (.document (decisionsDocument p made [])) := by
      rw [hrun]
      simp only [outcome, hp, Except.mapError, conclude]
      rfl
    refine ⟨hdone, ?_, ?_⟩
    · rw [List.map_map]
      exact (List.map_congr_left fun feature _ => p.evaluate_feature _ _).trans
        (List.map_id features)
    · have hall : made.all (·.allowed) = true ↔ _ :=
        all_allowed_iff p features checkOrigin
      rw [hdone, ← hall, Outcome.code]
      cases made.all (·.allowed) with
      | false => exact ⟨nofun, nofun⟩
      | true => exact ⟨fun _ => rfl, fun _ => rfl⟩

/-- The only entry of a folder is found by its name. -/
theorem Folder.find?_singleton {path place : List String} {name : String}
    (hplace : ({ path, entries := [] } : Folder).resolve name = place)
    (entry : Entry) :
    ({ path, entries := [(name, entry)] } : Folder).find? name =
      some (placeText place, entry) := by
  have hresolve : ({ path, entries := [(name, entry)] } : Folder).resolve name =
      place := hplace
  simp [Folder.find?, Folder.entryAt, hresolve]

/-- A scenario of a frame in a page, as text. -/
def framedText : String :=
  "\n".intercalate
    ["origin: https://a.example",
     "header: fullscreen=(self \"https://b.example\")",
     "default_allowlist:", "  camera: Self",
     "frame:", "  origin: https://b.example", "  allow: fullscreen"]

/-- The scenario itself. -/
def framedScenario : Scenario Held where
  origin := "https://a.example"
  header := "fullscreen=(self \"https://b.example\")"
  defaults := .ofList [("camera", .self)]
  frame := some { origin := "https://b.example", allow := .text "fullscreen" }

/-- The scenario as options give it. -/
def framedOutline : Outline where
  origin := "https://a.example"
  header := "fullscreen=(self \"https://b.example\")"
  defaults := [("camera", " SELF")]
  frame := some ("https://b.example", "fullscreen")

/-- A folder with the scenario in a file. -/
def framedResources : Resources where
  folder :=
    { path := ["work"]
      entries := [("frame.yaml", .file framedText.toUTF8.toList)] }
  replies := []

/-- The policy of the scenario. -/
def framedPolicy : Policy where
  page := "https://a.example"
  header := .ofList
    [("fullscreen", .origins (.ofList ["https://a.example", "https://b.example"]))]
  defaults := .ofList [("camera", .self)]
  frame := some
    { origin := "https://b.example"
      allow := .ofList [("fullscreen", .origins (.ofList ["https://b.example"]))] }

/-- Both ways to give the scenario allow the frame to go full screen, which is
asked twice. -/
theorem framedScenario_checked :
    let words := checkWords (fileOptions "frame.yaml" none)
      ["fullscreen", "fullscreen"]
    let optionWords := checkWords (framedOutline.options none)
      ["fullscreen", "fullscreen"]
    run framedResources words = run framedResources optionWords ∧
      (run framedResources optionWords).code = 0 := by
  have hplace : ({ path := ["work"], entries := [] } : Folder).resolve "frame.yaml" =
      ["work", "frame.yaml"] := by
    decide +kernel
  have hfile : framedResources.folder.find? "frame.yaml" =
      some ("/work/frame.yaml", .file framedText.toUTF8.toList) :=
    Folder.find?_singleton hplace (.file framedText.toUTF8.toList)
  have hload : Scenario.ofBytes framedText.toUTF8.toList = .ok framedScenario :=
    toOption_eq_some_iff.mp (by decide +kernel)
  have hcanonical : canonical? framedScenario.origin =
      some "https://a.example" := by decide
  have hpage : ∀ page, canonical? framedScenario.origin = some page →
      canonical? page = some page := by
    intro page hpage
    obtain rfl := Option.some.inj (hcanonical.symm.trans hpage)
    exact hcanonical
  have hdescribes : framedOutline.Describes framedScenario :=
    { origin := rfl
      header := rfl
      defaults := .cons ⟨rfl, by decide⟩ .nil
      frame := rfl }
  have hnames : ∀ w ∈ framedOutline.defaults, IsAssignable w.1 := by
    intro w hw
    obtain rfl := List.mem_singleton.mp hw
    exact ⟨by decide, by decide, by decide⟩
  have hpolicy : framedScenario.policy = .ok framedPolicy :=
    toOption_eq_some_iff.mp (by decide +kernel)
  have hfeatures : ["fullscreen", "fullscreen"] ≠ [] := nofun
  have hsame :=
    run_of_describes hfile hload hpage hdescribes hnames hfeatures none
  obtain ⟨heq, -, hok⟩ := hsame.2.2 _ _
    (read_fileOptions "frame.yaml" hfeatures none)
    (framedOutline.read_options hfeatures none)
  obtain ⟨-, -, hcode⟩ := hok framedPolicy hpolicy
  exact ⟨heq, hcode.mpr (by decide)⟩

end FeatureGrant.Command
