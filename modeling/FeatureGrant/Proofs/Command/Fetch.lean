import FeatureGrant.Command.Check
import FeatureGrant.Proofs.Fetch.Redirects
import FeatureGrant.Proofs.Policy.Construction

/-!
# Checking a fetched page

The header that a fetched page is checked by and the origin that it is checked
for come from one response, the last one.  A redirect on the way there has no
part in the policy, whatever header it carries.
-/

namespace FeatureGrant.Command

open FeatureGrant.Fetch FeatureGrant.Url

/-- A page is checked by the policy that its own header makes for the origin of
its own URL. -/
theorem fetch_eq_of_page {script : List Reply} {request : FetchRequest}
    {page : Page} (hpage : (Fetch.fetch script request.url).result = .ok page)
    {defaults : OrderedMap Value}
    (hdefaults : readDefaults request.defaults = .ok defaults)
    (wording : Wording) (format : Format) :
    fetch wording script request format =
      conclude wording format (fun p =>
        showDecisions format p
          (decisions p (request.featuresFor p) request.checkOrigin)
          (pageLines page) (pageFields page))
        ((Policy.ofPage (.text page.url) (.text page.header) defaults).mapError
          (·.failure)) := by
  rw [fetch, hpage]
  simp only [Except.mapError, conclude, hdefaults]

/-- A page that is fetched is the last one of a journey along redirects: its
URL, its status and its header are those of the last response.  Of the responses
before it only the places matter to which they send the reader.  The command
evaluates features by the policy that the header of the page makes for the
origin of the URL of the page. -/
theorem fetch_of_last_visit {script : List Reply} {request : FetchRequest}
    {page : Page}
    (hpage : (Fetch.fetch script request.url).result = .ok page) :
    ∃ first visits last, Client.web.first request.url = .ok first ∧
      IsJourney .web script first visits last ∧
      (Fetch.fetch script request.url).requests =
        (visits ++ [last]).map (Visit.text .web) ∧
      (visits ++ [last]).length ≤ 21 ∧
      page.url = last.text .web ∧ page.status = last.response.status ∧
      page.header = ", ".intercalate
        ((last.response.headers.filter fun line =>
          line.name.map Char.toLower == "permissions-policy").map (·.value)) ∧
      (∀ v ∈ visits, v.response.status ∈ [301, 302, 303, 307, 308] ∧
        v.response.values "location" ≠ []) ∧
      last.response.location? = none ∧
      (∀ script',
        (∀ i (hi : i < visits.length), ∃ response,
          replyTo script' i = some (.response response) ∧
            response.foreignRun? = none ∧
            response.location? = visits[i].response.location?) →
        replyTo script' visits.length = some (.response last.response) →
        Fetch.fetch script' request.url = Fetch.fetch script request.url) ∧
      ∀ wording format defaults, readDefaults request.defaults = .ok defaults →
        (∃ fault, Policy.ofPage (.text page.url) (.text page.header) defaults =
            .error fault ∧
          fetch wording script request format = fail wording format fault.failure) ∨
        ∃ p, canonical? page.url = some p.page ∧ p.frame = none ∧
          (∃ grants, Header.read page.header = .ok grants ∧
            p.header = grants.resolve p.page none) ∧
          Policy.readDefaults defaults = .ok p.defaults ∧
          fetch wording script request format =
            showDecisions format p
              (decisions p (request.featuresFor p) request.checkOrigin)
              (pageLines page) (pageFields page) := by
  obtain ⟨first, hfirst⟩ : ∃ first, Client.web.first request.url = .ok first := by
    unfold Fetch.fetch Client.fetch at hpage
    split at hpage
    next => exact nomatch hpage
    next first hfirst => exact ⟨first, hfirst⟩
  have hfetch (s : List Reply) :
      Fetch.fetch s request.url = Client.web.follow (redirectLimit + 1) s first := by
    rw [Fetch.fetch, Client.fetch, hfirst]
  rw [hfetch] at hpage
  obtain ⟨visits, last, hjourney, hlength, rfl⟩ := follow_eq_ok_iff.mp hpage
  have hfollow := follow_of_isJourney hjourney hlength
  rw [← hfetch] at hpage
  refine ⟨first, visits, last, hfirst, hjourney, ?_, ?_, rfl, rfl, rfl, ?_,
    (isLast_web_iff.mp hjourney.arrived).2, ?_, ?_⟩
  · rw [hfetch, hfollow]
  · rw [List.length_append]
    exact hlength
  · intro v hv
    obtain ⟨next, hleads⟩ := hjourney.exists_leadsTo hv
    exact hleads.redirects
  · intro script' hredirects hlast
    obtain ⟨visits', hjourney', hplaces⟩ :=
      hjourney.of_same_locations hredirects hlast
    have hlength' : visits'.length = visits.length := by
      simpa using congrArg List.length hplaces
    have htexts : (visits' ++ [last]).map (Visit.text .web) =
        (visits ++ [last]).map (Visit.text .web) := by
      have h := congrArg (List.map Client.web.url) hplaces
      rw [List.map_map, List.map_map] at h
      rw [List.map_append, List.map_append]
      exact congrArg (· ++ [last.text .web]) h
    rw [hfetch, hfetch, hfollow,
      follow_of_isJourney hjourney' (hlength' ▸ hlength), htexts]
  · intro wording format defaults hdefaults
    rw [fetch_eq_of_page hpage hdefaults]
    cases hbuilt : Policy.ofPage (.text (last.page .web).url)
        (.text (last.page .web).header) defaults with
    | error fault => exact Or.inl ⟨fault, rfl, rfl⟩
    | ok p =>
        obtain ⟨horigin, hheader, hvalues, hframe⟩ :=
          Policy.ofPage_eq_ok_iff.mp hbuilt
        exact Or.inr ⟨p, originOf_text_eq_ok_iff.mp horigin, hframe,
          Policy.readHeader_text_eq_ok hheader, hvalues, rfl⟩

/-- The first visit to a page that moved. The redirect has a header of its
own. -/
def startVisit : Visit Reference where
  place :=
    { scheme := "http".toList, user := [], host := "a.example".toList
      port := none, path := "/start".toList, query := none, fragment := none }
  response :=
    { status := 302
      headers := [⟨"Location", "/home"⟩, ⟨"Permissions-Policy", "camera=*"⟩] }

/-- The visit to the page where it is now. Its header has two lines. -/
def homeVisit : Visit Reference where
  place :=
    { scheme := "http".toList, user := [], host := "a.example".toList
      port := none, path := "/home".toList, query := none, fragment := none }
  response :=
    { status := 200
      headers := [⟨"PERMISSIONS-POLICY", "camera=()"⟩,
        ⟨"permissions-policy", "fullscreen=(self)"⟩] }

/-- The responses of both visits. -/
def movedScript : List Reply :=
  [.response startVisit.response, .response homeVisit.response]

/-- The request to ask the page about the camera. -/
def movedRequest : FetchRequest where
  url := "http://a.example/start"
  features := ["camera"]
  defaults := ["camera=*"]
  checkOrigin := none

theorem movedScript_isJourney :
    IsJourney .web movedScript startVisit.place [startVisit] homeVisit := by
  have hredirected : redirected startVisit.place "/home" = .ok homeVisit.place :=
    toOption_eq_some_iff.mp (by decide)
  have hleads : startVisit.LeadsTo .web homeVisit.place :=
    leadsTo_web_iff.mpr ⟨List.cons_ne_nil _ _, "/home", by decide +kernel, hredirected⟩
  refine (isJourney_cons rfl).mpr ⟨rfl, ⟨rfl, by decide⟩, homeVisit.place, hleads, ?_⟩
  exact isJourney_nil.mpr ⟨rfl, ⟨rfl, by decide⟩,
    isLast_web_iff.mpr ⟨List.cons_ne_nil _ _, by decide⟩⟩

/-- The header of the redirect does not give the camera to the page. -/
theorem homeVisit_of_last_visit :
    (Fetch.fetch movedScript movedRequest.url).result = .ok (homeVisit.page .web) ∧
      ∃ visits last, (visits ++ [last]).length ≤ 21 ∧
        (Fetch.fetch movedScript movedRequest.url).requests =
          (visits ++ [last]).map (Visit.text .web) ∧
        last.text .web = "http://a.example/home" ∧
        last.response.policyHeader = "camera=(), fullscreen=(self)" := by
  have hfirst : Client.web.first movedRequest.url = .ok startVisit.place :=
    toOption_eq_some_iff.mp (by decide)
  have hpage : (Fetch.fetch movedScript movedRequest.url).result =
      .ok (homeVisit.page .web) := by
    rw [Fetch.fetch, Client.fetch, hfirst]
    exact congrArg Exchange.result
      (follow_of_isJourney movedScript_isJourney (by decide))
  have hhome : homeVisit.text .web = "http://a.example/home" := by decide
  have hheader : homeVisit.response.policyHeader =
      "camera=(), fullscreen=(self)" := by decide +kernel
  obtain ⟨first, visits, last, -, -, hrequests, hlength, hurl, -, hpolicy, -⟩ :=
    fetch_of_last_visit hpage
  exact ⟨hpage, visits, last, hlength, hrequests, hurl.symm.trans hhome,
    hpolicy.symm.trans hheader⟩

end FeatureGrant.Command
