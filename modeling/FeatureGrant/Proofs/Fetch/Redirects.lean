import FeatureGrant.Fetch.Exchange
import FeatureGrant.Proofs.Result
import Mathlib.Data.List.Chain

/-!
# Following redirects

A fetch that finds a page is a journey, whatever client makes it: it visits one URL
after the other, each with the response that the script has for it, and every
response but the last sends the client to the URL that is visited next.  The page is
that of the last visit.  Conversely such a journey, if it is not too long, finds its
last page.  For a client of the web, of the responses before the last nothing matters
but where they lead.
-/

namespace FeatureGrant.Fetch

open FeatureGrant.Text FeatureGrant.Url

/-! ## Scripts -/

/-- The reply to the request with an index. Of the script the last reply is
repeated. -/
def replyTo (script : List Reply) (i : ℕ) : Option Reply :=
  script[min i (script.length - 1)]?

theorem nextReply_eq_some_iff {script : List Reply} {reply : Reply} :
    replyTo script 0 = some reply ↔
      ∃ rest, nextReply script = some (reply, rest) := by
  cases script with
  | nil => simp [replyTo, nextReply]
  | cons first rest =>
      cases rest with
      | nil => simp [replyTo, nextReply]
      | cons second others => simp [replyTo, nextReply]

/-- The script that is left answers the later requests. -/
theorem replyTo_rest {script rest : List Reply} {reply : Reply}
    (hnext : nextReply script = some (reply, rest)) (i : ℕ) :
    replyTo rest i = replyTo script (i + 1) := by
  cases script with
  | nil => exact nomatch hnext
  | cons first tail =>
      cases tail with
      | nil =>
          obtain ⟨rfl, rfl⟩ := Prod.mk.inj (Option.some.inj hnext)
          simp [replyTo]
      | cons second others =>
          obtain ⟨rfl, rfl⟩ := Prod.mk.inj (Option.some.inj hnext)
          have hindex : min (i + 1) (others.length + 1) =
              min i others.length + 1 := by omega
          simp [replyTo, hindex]

theorem received_eq_ok_iff {reply : Reply} {response : Response} :
    received reply = .ok response ↔
      reply = .response response ∧ response.foreignRun? = none := by
  cases reply with
  | failure kind message => simp [received]
  | response found =>
      simp only [received, Reply.response.injEq]
      split
      next run hforeign =>
        constructor
        · intro h
          cases h
        · rintro ⟨rfl, hnone⟩
          cases hforeign.symm.trans hnone
      next hforeign =>
        rw [Except.ok.injEq]
        constructor
        · rintro rfl
          exact ⟨rfl, hforeign⟩
        · rintro ⟨rfl, -⟩
          rfl

/-! ## Journeys -/

/-- What a client had at hand when it sent a request, and the response to it. -/
structure Visit (σ : Type) where
  place : σ
  response : Response

variable {σ : Type} {client : Client σ}

namespace Visit

/-- The URL of a visit. -/
def text (client : Client σ) (v : Visit σ) : String := client.url v.place

/-- What is kept of a visit. -/
def page (client : Client σ) (v : Visit σ) : Page where
  url := v.text client
  status := v.response.status
  header := v.response.policyHeader

/-- Whether the response of a visit is one that the script has for it. -/
def IsReplied (script : List Reply) (i : ℕ) (v : Visit σ) : Prop :=
  replyTo script i = some (.response v.response) ∧ v.response.foreignRun? = none

/-- Whether the response of a visit sends the client to another place. -/
def LeadsTo (client : Client σ) (v : Visit σ) (next : σ) : Prop :=
  client.receive v.place v.response = .ok (some next)

/-- Whether the response of a visit sends the client nowhere. -/
def IsLast (client : Client σ) (v : Visit σ) : Prop :=
  client.receive v.place v.response = .ok none

end Visit

theorem Visit.isReplied_rest_iff {script rest : List Reply} {reply : Reply}
    (hnext : nextReply script = some (reply, rest)) {v : Visit σ} {i : ℕ} :
    v.IsReplied rest i ↔ v.IsReplied script (i + 1) := by
  rw [IsReplied, IsReplied, replyTo_rest hnext]

/-- The visits of a fetch that starts at a place and ends with the visit
`last`. -/
structure IsJourney (client : Client σ) (script : List Reply) (first : σ)
    (visits : List (Visit σ)) (last : Visit σ) : Prop where
  starts : ((visits ++ [last]).head (by simp)).place = first
  replied : ∀ i (hi : i < (visits ++ [last]).length),
    (visits ++ [last])[i].IsReplied script i
  redirected : (visits ++ [last]).IsChain fun v w => v.LeadsTo client w.place
  arrived : last.IsLast client

variable {script rest : List Reply} {first : σ} {page : Page}

theorem isJourney_nil {last : Visit σ} :
    IsJourney client script first [] last ↔
      last.place = first ∧ last.IsReplied script 0 ∧ last.IsLast client := by
  constructor
  · intro h
    exact ⟨h.starts, h.replied 0 (by simp), h.arrived⟩
  · rintro ⟨hfirst, hreplied, harrived⟩
    refine ⟨hfirst, ?_, .singleton last, harrived⟩
    intro i hi
    obtain rfl : i = 0 := by
      rw [List.nil_append, List.length_singleton] at hi
      omega
    exact hreplied

/-- A journey goes on where the response of its first visit leads. -/
theorem isJourney_cons {reply : Reply} {v last : Visit σ}
    {visits : List (Visit σ)}
    (hnext : nextReply script = some (reply, rest)) :
    IsJourney client script first (v :: visits) last ↔
      v.place = first ∧ v.IsReplied script 0 ∧
        ∃ next, v.LeadsTo client next ∧
          IsJourney client rest next visits last := by
  constructor
  · intro h
    have hchain := h.redirected
    rw [List.cons_append, List.isChain_cons] at hchain
    refine ⟨h.starts, h.replied 0 (by simp), _,
      hchain.1 _ (List.head_mem_head? (by simp)), rfl, ?_, hchain.2, h.arrived⟩
    intro i hi
    rw [Visit.isReplied_rest_iff hnext]
    exact h.replied (i + 1) (by simpa using hi)
  · rintro ⟨hfirst, hzero, next, hleads, h⟩
    refine ⟨hfirst, ?_, ?_, h.arrived⟩
    · intro i hi
      cases i with
      | zero => exact hzero
      | succ i =>
          have hlater := h.replied i (by simpa using hi)
          rw [Visit.isReplied_rest_iff hnext] at hlater
          exact hlater
    · rw [List.cons_append, List.isChain_cons]
      refine ⟨?_, h.redirected⟩
      intro w hw
      have hhead := h.starts
      rw [List.head_of_mem_head? hw] at hhead
      rw [hhead]
      exact hleads

/-! ## Fetches -/

/-- A request ends the fetch if its response leads nowhere. -/
theorem follow_of_isLast {limit : ℕ} {v : Visit σ}
    (hreplied : v.IsReplied script 0) (hlast : v.IsLast client) :
    client.follow (limit + 1) script v.place =
      { requests := [v.text client], result := .ok (v.page client) } := by
  obtain ⟨hreply, hforeign⟩ := hreplied
  obtain ⟨rest, hnext⟩ := nextReply_eq_some_iff.mp hreply
  have hresponse := received_eq_ok_iff.mpr ⟨rfl, hforeign⟩
  rw [Visit.IsLast] at hlast
  simp only [Client.follow, hnext, hresponse, hlast]
  rfl

/-- A request is followed by the next one if its response leads there. -/
theorem follow_of_leadsTo {limit : ℕ} {v : Visit σ} {reply : Reply} {next : σ}
    (hnext : nextReply script = some (reply, rest)) (hreplied : v.IsReplied script 0)
    (hleads : v.LeadsTo client next) :
    client.follow (limit + 1) script v.place =
      (client.follow limit rest next).after (v.text client) := by
  obtain ⟨hreply, hforeign⟩ := hreplied
  obtain rfl : Reply.response v.response = reply :=
    Option.some.inj (hreply.symm.trans
      (nextReply_eq_some_iff.mpr ⟨rest, hnext⟩))
  have hresponse := received_eq_ok_iff.mpr ⟨rfl, hforeign⟩
  rw [Visit.LeadsTo] at hleads
  simp only [Client.follow, hnext, hresponse, hleads]
  rfl

/-- A fetch that finds a page received a response to its first request, which
led nowhere or to where the rest of the fetch finds the page. -/
theorem exists_visit_of_follow {limit : ℕ}
    (hfollow : (client.follow (limit + 1) script first).result = .ok page) :
    ∃ v : Visit σ, v.place = first ∧ v.IsReplied script 0 ∧
      ((v.IsLast client ∧ v.page client = page) ∨
        ∃ reply rest next, nextReply script = some (reply, rest) ∧
          v.LeadsTo client next ∧
            (client.follow limit rest next).result = .ok page) := by
  rw [Client.follow] at hfollow
  split at hfollow
  next => exact nomatch hfollow
  next reply rest hnext =>
    have hreply := nextReply_eq_some_iff.mpr ⟨rest, hnext⟩
    split at hfollow
    next => exact nomatch hfollow
    next response hresponse =>
      obtain ⟨rfl, hforeign⟩ := received_eq_ok_iff.mp hresponse
      refine ⟨⟨first, response⟩, rfl, ⟨hreply, hforeign⟩, ?_⟩
      split at hfollow
      next => exact nomatch hfollow
      next hnone => exact Or.inl ⟨hnone, Except.ok.inj hfollow⟩
      next next hsome => exact Or.inr ⟨_, rest, next, hnext, hsome, hfollow⟩

/-- A journey that is not too long is followed to its end. -/
theorem follow_of_isJourney {limit : ℕ} {visits : List (Visit σ)} {last : Visit σ}
    (hjourney : IsJourney client script first visits last)
    (hlength : visits.length < limit) :
    client.follow limit script first =
      { requests := (visits ++ [last]).map (Visit.text client)
        result := .ok (last.page client) } := by
  induction visits generalizing limit script first with
  | nil =>
      obtain ⟨rfl, hreplied, harrived⟩ := isJourney_nil.mp hjourney
      obtain ⟨limit, rfl⟩ := Nat.exists_eq_add_of_lt hlength
      exact follow_of_isLast hreplied harrived
  | cons v others ih =>
      obtain ⟨rest, hnext⟩ :=
        nextReply_eq_some_iff.mp (hjourney.replied 0 (by simp)).1
      obtain ⟨rfl, hreplied, next, hleads, hrest⟩ :=
        (isJourney_cons hnext).mp hjourney
      obtain ⟨limit, rfl⟩ : ∃ n, limit = n + 1 :=
        Nat.exists_eq_succ_of_ne_zero (Nat.ne_zero_of_lt hlength)
      rw [follow_of_leadsTo hnext hreplied hleads,
        ih hrest (Nat.lt_of_succ_lt_succ hlength)]
      rfl

/-- A fetch finds a page at the end of a journey, and only there. -/
theorem follow_eq_ok_iff {limit : ℕ} :
    (client.follow limit script first).result = .ok page ↔
      ∃ visits last, IsJourney client script first visits last ∧
        visits.length < limit ∧ last.page client = page := by
  induction limit generalizing script first with
  | zero =>
      constructor
      · intro h
        exact nomatch h
      · rintro ⟨visits, last, -, hlength, -⟩
        exact absurd hlength (Nat.not_lt_zero _)
  | succ limit ih =>
      constructor
      · intro hfollow
        obtain ⟨v, hfirst, hreplied, ⟨harrived, hpage⟩ |
          ⟨reply, rest, next, hnext, hleads, hrest⟩⟩ :=
            exists_visit_of_follow hfollow
        · exact ⟨[], v, isJourney_nil.mpr ⟨hfirst, hreplied, harrived⟩,
            Nat.zero_lt_succ limit, hpage⟩
        · obtain ⟨visits, last, hjourney, hlength, hpage⟩ := ih.mp hrest
          exact ⟨v :: visits, last,
            (isJourney_cons hnext).mpr ⟨hfirst, hreplied, next, hleads, hjourney⟩,
            Nat.succ_lt_succ hlength, hpage⟩
      · rintro ⟨visits, last, hjourney, hlength, rfl⟩
        exact congrArg Exchange.result (follow_of_isJourney hjourney hlength)

/-- Every response before the last leads to another URL. -/
theorem IsJourney.exists_leadsTo {visits : List (Visit σ)} {last : Visit σ}
    (hjourney : IsJourney client script first visits last) {v : Visit σ}
    (hv : v ∈ visits) : ∃ next, v.LeadsTo client next := by
  induction visits generalizing script first with
  | nil => exact nomatch hv
  | cons w others ih =>
      obtain ⟨rest, hnext⟩ :=
        nextReply_eq_some_iff.mp (hjourney.replied 0 (by simp)).1
      obtain ⟨-, -, next, hleads, hrest⟩ := (isJourney_cons hnext).mp hjourney
      rcases List.mem_cons.mp hv with rfl | hv
      · exact ⟨next, hleads⟩
      · exact ih hrest hv

/-! ## The client of the web -/

/-- A client of the web receives a response if its request named a scheme: it is done
if the response names no place, and else goes where the place is resolved. -/
theorem receive_web_eq_ok_iff {url : Reference} {r : Response}
    {next? : Option Reference} :
    Client.web.receive url r = .ok next? ↔ url.scheme ≠ [] ∧
      ((r.location? = none ∧ next? = none) ∨
        ∃ location next, r.location? = some location ∧
          redirected url location = .ok next ∧ next? = some next) := by
  simp only [Client.web, mapError_eq_ok_iff, nextUrl, List.isEmpty_iff]
  by_cases hscheme : url.scheme = []
  · simp [hscheme]
  · cases hlocation : r.location? with
    | none => simp [hscheme, eq_comm]
    | some location =>
        cases hnext : redirected url location with
        | error e => simp [hscheme, hnext, Except.map]
        | ok next => simp [hscheme, hnext, Except.map, eq_comm]

theorem leadsTo_web_iff {v : Visit Reference} {next : Reference} :
    v.LeadsTo .web next ↔ v.place.scheme ≠ [] ∧ ∃ location,
      v.response.location? = some location ∧
        redirected v.place location = .ok next := by
  rw [Visit.LeadsTo, receive_web_eq_ok_iff]
  simp

theorem isLast_web_iff {v : Visit Reference} :
    v.IsLast .web ↔ v.place.scheme ≠ [] ∧ v.response.location? = none := by
  rw [Visit.IsLast, receive_web_eq_ok_iff]
  simp

theorem receive_web_congr {url : Reference} {r r' : Response}
    (hlocation : r.location? = r'.location?) :
    Client.web.receive url r = Client.web.receive url r' := by
  simp only [Client.web, nextUrl, hlocation]

/-- Of the responses before the last only their places matter: a script that
answers the same requests with redirects to the same places, and the last one
with the same response, makes the same journey. -/
theorem IsJourney.of_same_locations {script script' : List Reply} {first : Reference}
    {visits : List (Visit Reference)} {last : Visit Reference}
    (hjourney : IsJourney .web script first visits last)
    (hredirects : ∀ i (hi : i < visits.length), ∃ response,
      replyTo script' i = some (.response response) ∧
        response.foreignRun? = none ∧
        response.location? = visits[i].response.location?)
    (hlast : replyTo script' visits.length = some (.response last.response)) :
    ∃ visits', IsJourney .web script' first visits' last ∧
      visits'.map Visit.place = visits.map Visit.place := by
  induction visits generalizing script script' first with
  | nil =>
      obtain ⟨hfirst, ⟨-, hforeign⟩, harrived⟩ := isJourney_nil.mp hjourney
      exact ⟨[], isJourney_nil.mpr ⟨hfirst, ⟨hlast, hforeign⟩, harrived⟩, rfl⟩
  | cons v others ih =>
      obtain ⟨rest, hnext⟩ :=
        nextReply_eq_some_iff.mp (hjourney.replied 0 (by simp)).1
      obtain ⟨rfl, -, next, hleads, hrest⟩ := (isJourney_cons hnext).mp hjourney
      obtain ⟨response, hreply, hforeign, hlocation⟩ :=
        hredirects 0 (Nat.zero_lt_succ _)
      obtain ⟨rest', hnext'⟩ := nextReply_eq_some_iff.mp hreply
      obtain ⟨visits', hjourney', hurls⟩ := ih hrest
        (by
          intro i hi
          obtain ⟨later, hlater⟩ := hredirects (i + 1) (Nat.succ_lt_succ hi)
          rw [← replyTo_rest hnext'] at hlater
          exact ⟨later, hlater⟩)
        (by rw [replyTo_rest hnext']; exact hlast)
      have hleads' : (Visit.mk v.place response).LeadsTo .web next :=
        (receive_web_congr hlocation).trans hleads
      refine ⟨⟨v.place, response⟩ :: visits', (isJourney_cons hnext').mpr
        ⟨rfl, ⟨hreply, hforeign⟩, next, hleads', hjourney'⟩, ?_⟩
      rw [List.map_cons, List.map_cons, hurls]

/-- A response that leads elsewhere has a status of that kind and names a
place. -/
theorem Visit.LeadsTo.redirects {v : Visit Reference} {next : Reference}
    (hleads : v.LeadsTo .web next) :
    v.response.status ∈ Response.redirectStatuses ∧
      v.response.values "location" ≠ [] := by
  obtain ⟨-, location, hlocation, -⟩ := leadsTo_web_iff.mp hleads
  unfold Response.location? at hlocation
  split at hlocation
  next hstatus =>
    refine ⟨List.contains_iff_mem.mp hstatus, ?_⟩
    intro hnil
    rw [hnil] at hlocation
    exact nomatch hlocation
  next => exact nomatch hlocation

end FeatureGrant.Fetch
