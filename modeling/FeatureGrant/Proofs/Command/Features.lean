import FeatureGrant.Proofs.Command.Fetch
import FeatureGrant.Proofs.Command.Outcome
import FeatureGrant.Proofs.OrderedMap.Merge

/-!
# The features of a fetched page

A page that is fetched without a selection of features is asked about all that its
policy knows.  Those are the features of its header, and besides them the features
to which the command line assigns a default, whether the header names them or not.
Each of them is listed once, in ascending order, and the exit code is zero if the
policy allows all of them.
-/

namespace FeatureGrant

open FeatureGrant.Console FeatureGrant.Text FeatureGrant.Url

namespace Policy

/-! ## The features that a policy knows -/

theorem mem_features_iff {p : Policy} {feature : String} :
    feature ∈ p.features ↔ feature ∈ p.defaults.keys ∨ feature ∈ p.header.keys ∨
      ∃ frame ∈ p.frame, feature ∈ frame.allow.keys := by
  rw [features, ← SortedSet.mem_iff, SortedSet.mem_ofList, List.mem_append,
    List.mem_append, or_assoc]
  cases p.frame with
  | none => simp
  | some frame => simp

theorem features_pairwise_lt (p : Policy) : p.features.Pairwise (· < ·) :=
  (SortedSet.ofList _).ascending

/-- The policy of a page knows the features of its header and those that have
defaults. -/
theorem exists_mem_features_iff {page : Value} {header : String}
    {values : OrderedMap Value} {p : Policy}
    (hp : ofPage page (.text header) values = .ok p) :
    ∃ grants, Header.read header = .ok grants ∧
      ∀ feature, feature ∈ p.features ↔
        feature ∈ grants.keys ∨ feature ∈ values.keys := by
  obtain ⟨-, hheader, hvalues, hframe⟩ := ofPage_eq_ok_iff.mp hp
  obtain ⟨grants, hgrants, hresolved⟩ := readHeader_text_eq_ok hheader
  refine ⟨grants, hgrants, fun feature => ?_⟩
  have hnoFrame : ¬∃ frame ∈ p.frame, feature ∈ frame.allow.keys := by
    rw [hframe]
    rintro ⟨_, hnone, -⟩
    exact nomatch hnone
  rw [mem_features_iff, or_iff_left hnoFrame, hresolved, Grants.resolve,
    OrderedMap.keys_map, OrderedMap.keys_of_traverse hvalues, or_comm]

end Policy

namespace Command

/-! ## Features with an assigned default -/

/-- Whether a word assigns a default to a feature. -/
def Assigns (word feature : String) : Prop :=
  ∃ value, readAssignment word = .ok (feature, value)

theorem assigns_iff {word name feature : String} {value : Value}
    (hread : readAssignment word = .ok (name, value)) :
    Assigns word feature ↔ feature = name := by
  constructor
  · rintro ⟨_, hfeature⟩
    exact congrArg Prod.fst (Except.ok.inj (hfeature.symm.trans hread))
  · rintro rfl
    exact ⟨value, hread⟩

theorem readDefaults_singleton {word name : String} {value : Value}
    (hread : readAssignment word = .ok (name, value)) :
    readDefaults [word] = .ok (.ofList [(name, value)]) := by
  rw [readDefaults, readAssignments, hread]
  rfl

/-- The assignments in some words are what is read of the words. -/
theorem mem_readAssignments_iff {words : List String} {entries : List (String × Value)}
    (hentries : readAssignments words = .ok entries) {entry : String × Value} :
    entry ∈ entries ↔ ∃ word ∈ words, readAssignment word = .ok entry := by
  induction words generalizing entries with
  | nil =>
      obtain rfl := Except.ok.inj hentries
      simp
  | cons word rest ih =>
      obtain ⟨first, hfirst, hrest⟩ := bind_eq_ok_iff.mp hentries
      obtain ⟨more, hmore, hok⟩ := bind_eq_ok_iff.mp hrest
      obtain rfl := Except.ok.inj hok
      rw [List.mem_cons, ih hmore, List.exists_mem_cons_iff, hfirst,
        Except.ok.injEq, eq_comm]

theorem mem_keys_readDefaults_iff {words : List String} {values : OrderedMap Value}
    (hvalues : readDefaults words = .ok values) {feature : String} :
    feature ∈ values.keys ↔ ∃ word ∈ words, Assigns word feature := by
  obtain ⟨entries, hentries, rfl⟩ := map_eq_ok_iff.mp hvalues
  rw [OrderedMap.mem_keys_ofList]
  simp only [mem_readAssignments_iff hentries, Assigns]
  constructor
  · rintro ⟨value, word, hword, hread⟩
    exact ⟨word, hword, value, hread⟩
  · rintro ⟨word, hword, value, hread⟩
    exact ⟨value, word, hword, hread⟩

/-! ## The lines above the decisions -/

/-- A number is written without brackets and backslashes. -/
theorem isInsideTag_of_mem_repr {n : Nat} {c : Char} (hc : c ∈ n.repr.toList) :
    isInsideTag c = true ∧ c ≠ '\\' := by
  rw [Nat.repr, String.toList_ofList] at hc
  have hdigit := isDigit_of_mem_toDigits hc
  rw [isInsideTag, Bool.and_eq_true, bne_iff_ne, bne_iff_ne]
  refine ⟨⟨?_, ?_⟩, ?_⟩
  · rintro rfl
    exact absurd hdigit (by decide)
  · rintro rfl
    exact absurd hdigit (by decide)
  · rintro rfl
    exact absurd hdigit (by decide)

theorem isInsideTag_of_mem_toString {n : Int} {c : Char}
    (hc : c ∈ (toString n).toList) : isInsideTag c = true ∧ c ≠ '\\' := by
  cases n with
  | ofNat m => exact isInsideTag_of_mem_repr hc
  | negSucc m =>
      have hsign : (toString (Int.negSucc m)).toList = '-' :: (m + 1).repr.toList := by
        change ("-" ++ (m + 1).repr).toList = _
        rw [String.toList_append]
        rfl
      rw [hsign] at hc
      rcases List.mem_cons.mp hc with rfl | hdigit
      · decide
      · exact isInsideTag_of_mem_repr hdigit

/-- What is said about a page can be shown, wherever it was found and whatever its
header is. -/
theorem isShowable_of_mem_pageLines {page : Fetch.Page} {text : String}
    (htext : text ∈ pageLines page) : isShowable text = true := by
  rcases List.mem_pair.mp htext with rfl | rfl
  · apply isShowable_styled 'd' ['i', 'm'] [] page.url
      (" (".toList ++ ((toString page.status).toList ++ [')']))
    · decide
    · decide
    · simp [isInsideTag]
    · decide
    · exact List.forall_mem_nil _
    · intro d hd
      rw [List.mem_append, List.mem_append, List.mem_singleton] at hd
      rcases hd with hd | hd | rfl
      · rcases List.mem_pair.mp hd with rfl | rfl
        · decide
        · decide
      · exact isInsideTag_of_mem_toString hd
      · decide
    · rintro d ⟨⟩
      decide
    · simp [bracketTag]
  · apply isShowable_styled 'd' ['i', 'm'] "Permissions-Policy: ".toList
      (if page.header.isEmpty then "(none)" else page.header) []
    · decide
    · decide
    · simp [isInsideTag]
    · decide
    · simp
    · exact List.forall_mem_nil _
    · rintro _ ⟨⟩
    · simp [bracketTag]

/-! ## Fetching without a selection -/

/-- A page that is fetched without a selection of features is asked about all those
that its header names or that have an assigned default.  The decisions on them are
listed in ascending order, one for each, and the exit code is zero if the policy
allows every one of them. -/
theorem fetch_lists_features {resources : Resources} {words : List String}
    {request : FetchRequest} {format : Format} {page : Fetch.Page}
    {values : OrderedMap Value} {p : Policy}
    (hread : Invocation.read words = .ok (.fetch request format))
    (hselection : request.features = [])
    (hpage : (Fetch.fetch resources.replies request.url).result = .ok page)
    (hvalues : readDefaults request.defaults = .ok values)
    (hbuilt : Policy.ofPage (.text page.url) (.text page.header) values = .ok p) :
    ∃ grants features code output,
      Header.read page.header = .ok grants ∧
      run resources words = .done code output ∧
      output.isDocument = format.json ∧
      output.ShowsDecisions p (decisions p features request.checkOrigin) ∧
      (decisions p features request.checkOrigin).map (·.feature) = features ∧
      features.Pairwise (· < ·) ∧
      (∀ feature, feature ∈ features ↔
        feature ∈ grants.keys ∨ ∃ word ∈ request.defaults, Assigns word feature) ∧
      (code = 0 ↔ ∀ feature ∈ features,
        p.allows feature (Fault.textOrNull request.checkOrigin) = true) := by
  obtain ⟨grants, hgrants, hfeatures⟩ := Policy.exists_mem_features_iff hbuilt
  have hplain : HasPlainOrigins p :=
    hasPlainOrigins_of_build ((build_none _ _ _).trans hbuilt)
  have hlines : ∀ text ∈ pageLines page, isShowable text = true :=
    fun _ => isShowable_of_mem_pageLines
  obtain ⟨output, hdone, hdocument, hshows⟩ := exists_showDecisions_eq hplain hlines
    format (decisions p p.features request.checkOrigin) (pageFields page)
  have hasked : request.featuresFor p = p.features := by
    rw [FetchRequest.featuresFor, hselection]
    rfl
  have hrun : run resources words = showDecisions format p
      (decisions p p.features request.checkOrigin) (pageLines page)
      (pageFields page) := by
    rw [run, hread]
    change fetch resources.wording resources.replies request format = _
    rw [fetch_eq_of_page hpage hvalues, hbuilt, ← hasked]
    rfl
  refine ⟨grants, p.features, _, output, hgrants, hrun.trans hdone, hdocument,
    hshows, map_feature_decisions p p.features request.checkOrigin,
    p.features_pairwise_lt, fun feature => ?_, ?_⟩
  · rw [hfeatures, mem_keys_readDefaults_iff hvalues]
  · rw [← all_allowed_iff]
    cases (decisions p p.features request.checkOrigin).all (·.allowed) with
    | false => decide
    | true => decide

/-- The visit to a page that keeps one feature to itself. -/
def fullscreenVisit : Fetch.Visit Reference where
  place :=
    { scheme := "https".toList, user := [], host := "a.example".toList
      port := none, path := [], query := none, fragment := none }
  response :=
    { status := 200, headers := [⟨"Permissions-Policy", "fullscreen=(self)"⟩] }

/-- What there is to fetch the page. -/
def fullscreenResources : Resources where
  folder := { path := [], entries := [] }
  replies := [.response fullscreenVisit.response]

/-- The request to ask the page about all features. -/
def fullscreenRequest (defaults : List String) : FetchRequest where
  url := "https://a.example"
  features := []
  defaults
  checkOrigin := none

/-- The policy of the page, with one default. -/
def fullscreenPolicy (feature : String) : Policy where
  page := "https://a.example"
  header := .ofList [("fullscreen", .origins (.ofList ["https://a.example"]))]
  defaults := .ofList [(feature, .none)]
  frame := none

theorem fetch_fullscreenVisit (defaults : List String) :
    (Fetch.fetch fullscreenResources.replies (fullscreenRequest defaults).url).result =
      .ok (fullscreenVisit.page .web) := by
  have hfirst : Fetch.Client.web.first "https://a.example" =
      .ok fullscreenVisit.place :=
    toOption_eq_some_iff.mp (by decide)
  have hlast : fullscreenVisit.IsLast .web :=
    Fetch.isLast_web_iff.mpr ⟨List.cons_ne_nil _ _, by decide⟩
  have hjourney : Fetch.IsJourney .web fullscreenResources.replies
      fullscreenVisit.place [] fullscreenVisit :=
    Fetch.isJourney_nil.mpr ⟨rfl, ⟨rfl, by decide⟩, hlast⟩
  change (Fetch.fetch fullscreenResources.replies "https://a.example").result = _
  rw [Fetch.fetch, Fetch.Client.fetch, hfirst]
  exact congrArg Fetch.Exchange.result (Fetch.follow_of_isJourney hjourney (by decide))

/-- The feature of the header is the only one that is listed, if no other has a
default. -/
theorem fetch_lists_fullscreen :
    ∃ features output,
      run fullscreenResources
          ["fetch", "https://a.example", "-d", "fullscreen=none", "--json"] =
        .done 0 output ∧
      output.ShowsDecisions (fullscreenPolicy "fullscreen")
        (decisions (fullscreenPolicy "fullscreen") features none) ∧
      features.Pairwise (· < ·) ∧
      ∀ feature, feature ∈ features ↔ feature = "fullscreen" := by
  have hread : Invocation.read
      ["fetch", "https://a.example", "-d", "fullscreen=none", "--json"] =
        .ok (.fetch (fullscreenRequest ["fullscreen=none"])
          { json := true, debug := false }) :=
    toOption_eq_some_iff.mp (by decide)
  have hassignment : readAssignment "fullscreen=none" =
      .ok ("fullscreen", .text "none") :=
    rfl
  have hbuilt : Policy.ofPage (.text (fullscreenVisit.page .web).url)
      (.text (fullscreenVisit.page .web).header) (.ofList [("fullscreen", .text "none")]) =
        .ok (fullscreenPolicy "fullscreen") :=
    toOption_eq_some_iff.mp (by decide +kernel)
  have hheader : Header.read (fullscreenVisit.page .web).header =
      .ok (.ofList [("fullscreen", .origins (.ofList [Keyword.self.text]))]) :=
    toOption_eq_some_iff.mp (by decide +kernel)
  obtain ⟨grants, features, code, output, hgrants, hdone, -, hshows, -, hascending,
    hmem, hcode⟩ := fetch_lists_features hread rfl
      (fetch_fullscreenVisit ["fullscreen=none"]) (readDefaults_singleton hassignment)
      hbuilt
  obtain rfl := Except.ok.inj (hheader.symm.trans hgrants)
  have honly (feature : String) : feature ∈ features ↔ feature = "fullscreen" := by
    rw [hmem]
    constructor
    · rintro (hkey | ⟨word, hword, hassigns⟩)
      · exact List.mem_singleton.mp hkey
      · obtain rfl := List.mem_singleton.mp hword
        exact (assigns_iff hassignment).mp hassigns
    · rintro rfl
      exact Or.inl List.mem_cons_self
  have hzero : code = 0 := by
    refine hcode.mpr fun feature hfeature => ?_
    obtain rfl := (honly feature).mp hfeature
    decide
  exact ⟨features, output, hzero ▸ hdone, hshows, hascending, honly⟩

/-- A feature that the header does not name is listed as well if it has a default,
and the exit code depends on it. -/
theorem fetch_lists_assigned_camera :
    Invocation.read ["fetch", "https://a.example", "-d", "camera=none", "--json"] =
        .ok (.fetch (fullscreenRequest ["camera=none"])
          { json := true, debug := false }) ∧
      Policy.ofPage (.text (fullscreenVisit.page .web).url) (.text "fullscreen=(self)")
          (.ofList [("camera", .text "none")]) = .ok (fullscreenPolicy "camera") ∧
      (Header.read "fullscreen=(self)").toOption.map OrderedMap.keys =
        some ["fullscreen"] ∧
      (fullscreenPolicy "camera").allows "fullscreen" .null = true ∧
      run fullscreenResources
          ["fetch", "https://a.example", "-d", "camera=none", "--json"] =
        .done 1 (.document (decisionsDocument (fullscreenPolicy "camera")
          (decisions (fullscreenPolicy "camera") ["camera", "fullscreen"] none)
          [("url", .text "https://a.example"),
            ("header", .text "fullscreen=(self)")])) := by
  have hread : Invocation.read
      ["fetch", "https://a.example", "-d", "camera=none", "--json"] =
        .ok (.fetch (fullscreenRequest ["camera=none"])
          { json := true, debug := false }) :=
    toOption_eq_some_iff.mp (by decide)
  have hassignment : readAssignment "camera=none" = .ok ("camera", .text "none") :=
    rfl
  have hurl : (fullscreenVisit.page .web).url = "https://a.example" := by decide
  have hheader : (fullscreenVisit.page .web).header = "fullscreen=(self)" := by
    decide +kernel
  have hbuilt : Policy.ofPage (.text (fullscreenVisit.page .web).url)
      (.text "fullscreen=(self)") (.ofList [("camera", .text "none")]) =
        .ok (fullscreenPolicy "camera") :=
    toOption_eq_some_iff.mp (by decide +kernel)
  have hfeatures : (fullscreenRequest ["camera=none"]).featuresFor
      (fullscreenPolicy "camera") = ["camera", "fullscreen"] := by
    decide
  have hcode : (decisions (fullscreenPolicy "camera") ["camera", "fullscreen"]
      none).all (·.allowed) = false := by
    decide
  refine ⟨hread, hbuilt, by decide +kernel, by decide +kernel, ?_⟩
  rw [run, hread]
  change fetch .plain fullscreenResources.replies (fullscreenRequest ["camera=none"])
    { json := true, debug := false } = _
  rw [fetch_eq_of_page (fetch_fullscreenVisit _) (readDefaults_singleton hassignment),
    hheader, hbuilt]
  change showDecisions { json := true, debug := false } (fullscreenPolicy "camera")
    (decisions (fullscreenPolicy "camera")
      ((fullscreenRequest ["camera=none"]).featuresFor (fullscreenPolicy "camera")) none)
    (pageLines (fullscreenVisit.page .web)) (pageFields (fullscreenVisit.page .web)) = _
  rw [hfeatures, showDecisions, hcode, pageFields, hurl, hheader]
  rfl

end Command

end FeatureGrant
