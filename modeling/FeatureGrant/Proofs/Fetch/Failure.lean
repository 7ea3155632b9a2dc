import FeatureGrant.Proofs.Fetch.Redirects

/-!
# How fetching a page fails

A fetch fails at the first place that its client comes to where it has no way on.
What goes wrong in the exchange is reported as a failure to fetch the URL that was
asked for.  Whatever the client is, three things are not: a URL whose head cannot be
read, and an error of another kind with which the client refuses to make the first
request or to take a response.  The client of the web has such errors wherever a URL,
a host or a port cannot be read, except that a redirect to a reference that it cannot
read is an error of the exchange.
-/

namespace FeatureGrant.Fetch

open FeatureGrant.Host FeatureGrant.Text FeatureGrant.Url

variable {σ : Type} {client : Client σ} {script rest : List Reply} {first here : σ}
  {fault : FetchFault}

/-! ## Coming to a place -/

/-- Whether a fetch that starts at a place comes to another one after so many
redirects. -/
inductive Reaches (client : Client σ) (script : List Reply) (first : σ) :
    ℕ → σ → Prop
  | start : Reaches client script first 0 first
  | redirect {n : ℕ} {v : Visit σ} {next : σ}
      (hreach : Reaches client script first n v.place)
      (hreplied : v.IsReplied script n) (hleads : v.LeadsTo client next) :
      Reaches client script first (n + 1) next

/-- Whether the first request of a script is answered by a redirect to a place
from which the rest of the script is played. -/
def SendsTo (client : Client σ) (script : List Reply) (first : σ)
    (rest : List Reply) (next : σ) : Prop :=
  ∃ (v : Visit σ) (reply : Reply), v.place = first ∧ v.IsReplied script 0 ∧
    nextReply script = some (reply, rest) ∧ v.LeadsTo client next

theorem SendsTo.replyTo_succ {next : σ}
    (hsends : SendsTo client script first rest next) (i : ℕ) :
    replyTo script (i + 1) = replyTo rest i := by
  obtain ⟨v, reply, -, -, hnext, -⟩ := hsends
  exact (replyTo_rest hnext i).symm

theorem SendsTo.isReplied_iff {next : σ}
    (hsends : SendsTo client script first rest next) {v : Visit σ} {i : ℕ} :
    v.IsReplied script (i + 1) ↔ v.IsReplied rest i := by
  obtain ⟨w, reply, -, -, hnext, -⟩ := hsends
  exact (Visit.isReplied_rest_iff hnext).symm

/-- The first redirect leads to where the rest of the script is played. -/
theorem reaches_succ_iff {n : ℕ} :
    Reaches client script first (n + 1) here ↔
      ∃ rest next, SendsTo client script first rest next ∧
        Reaches client rest next n here := by
  constructor
  · intro hreach
    induction n generalizing here with
    | zero =>
        cases hreach with
        | redirect hstart hreplied hleads =>
            obtain ⟨rest, hnext⟩ := nextReply_eq_some_iff.mp hreplied.1
            cases hstart
            exact ⟨rest, here, ⟨_, _, rfl, hreplied, hnext, hleads⟩, .start⟩
    | succ n ih =>
        cases hreach with
        | redirect hbefore hreplied hleads =>
            obtain ⟨rest, next, hsends, hrest⟩ := ih hbefore
            exact ⟨rest, next, hsends,
              .redirect hrest (hsends.isReplied_iff.mp hreplied) hleads⟩
  · rintro ⟨rest, next, hsends, hreach⟩
    induction hreach with
    | start =>
        obtain ⟨v, reply, rfl, hzero, -, hleads⟩ := hsends
        exact .redirect .start hzero hleads
    | redirect _ hreplied hthere ih =>
        exact .redirect ih (hsends.isReplied_iff.mpr hreplied) hthere

/-! ## Failing there -/

/-- Whether the request that a client sends at a place, which has an index, ends the
fetch with a fault. -/
inductive FailsAt (client : Client σ) (script : List Reply) (i : ℕ) :
    σ → FetchFault → Prop
  | noReply {here : σ} (hnone : replyTo script i = none) :
      FailsAt client script i here .noReply
  | reply {here : σ} {reply : Reply} {fault : FetchFault}
      (hreply : replyTo script i = some reply)
      (hfault : received reply = .error fault) : FailsAt client script i here fault
  | client {v : Visit σ} {mishap : Mishap} (hreplied : v.IsReplied script i)
      (hmishap : client.receive v.place v.response = .error mishap) :
      FailsAt client script i v.place (.failed mishap)

theorem nextReply_eq_none_iff : nextReply script = none ↔ replyTo script 0 = none := by
  cases script with
  | nil => simp [replyTo, nextReply]
  | cons first rest =>
      cases rest with
      | nil => simp [replyTo, nextReply]
      | cons second others => simp [replyTo, nextReply]

theorem FailsAt.of_replyTo {script' : List Reply} {i j : ℕ}
    (hfails : FailsAt client script i here fault)
    (hsame : replyTo script' j = replyTo script i) :
    FailsAt client script' j here fault := by
  cases hfails with
  | noReply hnone => exact .noReply (hsame.trans hnone)
  | reply hreply hfault => exact .reply (hsame.trans hreply) hfault
  | client hreplied hmishap =>
      exact .client ⟨hsame.trans hreplied.1, hreplied.2⟩ hmishap

theorem SendsTo.failsAt_iff {next : σ}
    (hsends : SendsTo client script first rest next) {i : ℕ} :
    FailsAt client script (i + 1) here fault ↔ FailsAt client rest i here fault := by
  have hsame := hsends.replyTo_succ i
  constructor
  · intro hfails
    exact hfails.of_replyTo hsame.symm
  · intro hfails
    exact hfails.of_replyTo hsame

theorem follow_of_failsAt {limit : ℕ} (hfails : FailsAt client script 0 first fault) :
    (client.follow (limit + 1) script first).result = .error fault := by
  cases hfails with
  | noReply hnone =>
      simp only [Client.follow, nextReply_eq_none_iff.mpr hnone]
  | reply hreply hfault =>
      obtain ⟨rest, hnext⟩ := nextReply_eq_some_iff.mp hreply
      simp only [Client.follow, hnext, hfault]
  | client hreplied hmishap =>
      obtain ⟨rest, hnext⟩ := nextReply_eq_some_iff.mp hreplied.1
      have hresponse := received_eq_ok_iff.mpr ⟨rfl, hreplied.2⟩
      simp only [Client.follow, hnext, hresponse, hmishap]

/-- A fetch fails at its first place, or where the rest of it fails. -/
theorem follow_succ_eq_error_iff {limit : ℕ} :
    (client.follow (limit + 1) script first).result = .error fault ↔
      FailsAt client script 0 first fault ∨
        ∃ rest next, SendsTo client script first rest next ∧
          (client.follow limit rest next).result = .error fault := by
  constructor
  · intro herror
    rw [Client.follow] at herror
    split at herror
    next hnone =>
      obtain rfl := Except.error.inj herror
      exact Or.inl (.noReply (nextReply_eq_none_iff.mp hnone))
    next reply rest hnext =>
      have hreply := nextReply_eq_some_iff.mpr ⟨rest, hnext⟩
      split at herror
      next e hfault =>
        obtain rfl := Except.error.inj herror
        exact Or.inl (.reply hreply hfault)
      next response hresponse =>
        obtain ⟨rfl, hforeign⟩ := received_eq_ok_iff.mp hresponse
        let v : Visit σ := ⟨first, response⟩
        have hreplied : v.IsReplied script 0 := ⟨hreply, hforeign⟩
        split at herror
        next e hmishap =>
          obtain rfl := Except.error.inj herror
          have hfails : FailsAt client script 0 v.place _ := .client hreplied hmishap
          exact Or.inl hfails
        next => cases herror
        next next hsome =>
          have hleads : v.LeadsTo client next := hsome
          exact Or.inr
            ⟨rest, next, ⟨v, _, rfl, hreplied, hnext, hleads⟩, herror⟩
  · rintro (hfails | ⟨rest, next, ⟨v, reply, rfl, hreplied, hnext, hleads⟩, herror⟩)
    · exact follow_of_failsAt hfails
    · rw [follow_of_leadsTo hnext hreplied hleads]
      exact herror

/-- A fetch fails at a place that it comes to, or it is sent elsewhere too often.
Every request that is answered by a redirect takes one from the limit, and leaves the
rest of the script to the place that it leads to. -/
theorem follow_eq_error_iff {limit : ℕ} :
    (client.follow limit script first).result = .error fault ↔
      (∃ n here, n < limit ∧ Reaches client script first n here ∧
        FailsAt client script n here fault) ∨
      (fault = .tooManyRedirects ∧ ∃ here, Reaches client script first limit here) := by
  induction limit generalizing script first with
  | zero =>
      constructor
      · intro herror
        obtain rfl := Except.error.inj herror
        exact Or.inr ⟨rfl, first, .start⟩
      · rintro (⟨n, here, hn, -⟩ | ⟨rfl, -⟩)
        · exact absurd hn (Nat.not_lt_zero n)
        · rfl
  | succ limit ih =>
      rw [follow_succ_eq_error_iff]
      constructor
      · rintro (hfails | ⟨rest, next, hsends, herror⟩)
        · exact Or.inl ⟨0, first, Nat.zero_lt_succ limit, .start, hfails⟩
        · rcases ih.mp herror with ⟨n, here, hn, hreach, hfails⟩ | ⟨rfl, here, hreach⟩
          · exact Or.inl ⟨n + 1, here, Nat.succ_lt_succ hn,
              reaches_succ_iff.mpr ⟨rest, next, hsends, hreach⟩,
              hsends.failsAt_iff.mpr hfails⟩
          · exact Or.inr ⟨rfl, here,
              reaches_succ_iff.mpr ⟨rest, next, hsends, hreach⟩⟩
      · rintro (⟨n, here, hn, hreach, hfails⟩ | ⟨rfl, here, hreach⟩)
        · cases n with
          | zero =>
              cases hreach
              exact Or.inl hfails
          | succ n =>
              obtain ⟨rest, next, hsends, hreach⟩ := reaches_succ_iff.mp hreach
              have hfails' := hsends.failsAt_iff.mp hfails
              exact Or.inr ⟨rest, next, hsends, ih.mpr
                (Or.inl ⟨n, here, Nat.lt_of_succ_lt_succ hn, hreach, hfails'⟩)⟩
        · obtain ⟨rest, next, hsends, hreach⟩ := reaches_succ_iff.mp hreach
          exact Or.inr ⟨rest, next, hsends, ih.mpr (Or.inr ⟨rfl, here, hreach⟩)⟩

/-! ## The first request -/

/-- Whether the head of a URL is that of a page on the web. -/
def IsWeb (head : Head) : Prop :=
  (head.scheme = ['h', 't', 't', 'p'] ∨
    head.scheme = ['h', 't', 't', 'p', 's']) ∧ head.host ≠ []

theorem first_of_error {url : String} {e : HeadFault}
    (hhead : Head.read url.toList = .error e) :
    client.first url = .error (.unreadable e) := by
  rw [Client.first, hhead]
  rfl

theorem first_of_head {url : String} {head : Head}
    (hhead : Head.read url.toList = .ok head) :
    client.first url =
      if head.scheme ≠ ['h', 't', 't', 'p'] ∧
          head.scheme ≠ ['h', 't', 't', 'p', 's'] then .error .scheme
      else if head.host = [] then .error .noHost
      else (client.start url).mapError .failed := by
  rw [Client.first, hhead]
  by_cases hscheme : head.scheme ≠ ['h', 't', 't', 'p'] ∧
      head.scheme ≠ ['h', 't', 't', 'p', 's']
  · rw [if_pos hscheme]
    simp [Except.mapError, bind, Except.bind, hscheme]
  · have hweb : (head.scheme != ['h', 't', 't', 'p'] &&
        head.scheme != ['h', 't', 't', 'p', 's']) = false := by simpa using hscheme
    rw [if_neg hscheme]
    by_cases hhost : head.host = []
    · rw [if_pos hhost]
      simp [Except.mapError, bind, Except.bind, hweb, hhost]
    · rw [if_neg hhost]
      simp [Except.mapError, bind, Except.bind, hweb, hhost]

/-- A URL on the web is requested as the client makes a request for it. -/
theorem first_of_isWeb {url : String} {head : Head}
    (hhead : Head.read url.toList = .ok head) (hweb : IsWeb head) :
    client.first url = (client.start url).mapError .failed := by
  obtain ⟨hscheme, hhost⟩ := hweb
  rw [first_of_head hhead, if_neg (by tauto), if_neg hhost]

/-- Any other URL is refused. -/
theorem first_of_not_isWeb (client : Client σ) {url : String} {head : Head}
    (hhead : Head.read url.toList = .ok head) (hweb : ¬IsWeb head) :
    client.first url = .error .scheme ∨ client.first url = .error .noHost := by
  rw [first_of_head hhead]
  by_cases hscheme : head.scheme ≠ ['h', 't', 't', 'p'] ∧
      head.scheme ≠ ['h', 't', 't', 'p', 's']
  · exact Or.inl (if_pos hscheme)
  · have hhost : head.host = [] := by
      by_contra hne
      apply hweb
      exact ⟨by tauto, hne⟩
    rw [if_neg hscheme, if_pos hhost]
    exact Or.inr rfl

/-! ## Playing a script -/

/-- Whether a reply is a response that can be sent, or a failure of the
exchange. -/
inductive Reply.IsPlayable : Reply → Prop
  | response {r : Response} (hascii : r.foreignRun? = none) :
      IsPlayable (.response r)
  | failure {kind : String} (message : String) (hkind : kind ∈ exchangeKinds) :
      IsPlayable (.failure kind message)

/-- Whether a script has a reply to every request. -/
structure IsPlayable (script : List Reply) : Prop where
  nonempty : script ≠ []
  replies : ∀ reply ∈ script, reply.IsPlayable

theorem IsPlayable.exists_replyTo (hscript : IsPlayable script) (i : ℕ) :
    ∃ reply, replyTo script i = some reply ∧ reply.IsPlayable := by
  have hlength := List.length_pos_iff.mpr hscript.nonempty
  have hindex : min i (script.length - 1) < script.length := by omega
  refine ⟨script[min i (script.length - 1)], ?_, ?_⟩
  · exact List.getElem?_eq_getElem hindex
  · exact hscript.replies _ (List.getElem_mem hindex)

/-- A script without foreign header lines answers with responses that are
received. -/
theorem IsPlayable.isReplied (hscript : IsPlayable script) {v : Visit σ} {i : ℕ}
    (hreply : replyTo script i = some (.response v.response)) :
    v.IsReplied script i := by
  obtain ⟨played, hplayed, hplayable⟩ := hscript.exists_replyTo i
  obtain rfl := Option.some.inj (hreply.symm.trans hplayed)
  cases hplayable with
  | response hascii => exact ⟨hreply, hascii⟩

/-! ## Reported failures and others -/

/-- Whether a failure is that of fetching a URL. -/
def IsFetchFailure (url : String) (failure : Failure) : Prop :=
  ∃ underlying cause, failure = .fault (.fetch url underlying) cause

/-- The ways in which a fetch fails that are not reported as failures to fetch
its URL: the URL cannot be taken apart, or an error that does not concern the
exchange stops the client, either before its first request or when it takes the
response to one. -/
inductive Escapes (client : Client σ) (script : List Reply) (url : String) :
    Failure → Prop
  | head {e : HeadFault} (hhead : Head.read url.toList = .error e) :
      Escapes client script url (.system "ValueError" e.message)
  | start {head : Head} {mishap : Mishap} (hhead : Head.read url.toList = .ok head)
      (hweb : IsWeb head) (hstart : client.start url = .error mishap)
      (hkind : mishap.kind ∉ exchangeKinds) :
      Escapes client script url (.system mishap.kind mishap.message)
  | receive {head : Head} {first here : σ} {n : ℕ} {r : Response} {mishap : Mishap}
      (hhead : Head.read url.toList = .ok head) (hweb : IsWeb head)
      (hstart : client.start url = .ok first)
      (hreach : Reaches client script first n here) (hlimit : n ≤ redirectLimit)
      (hreply : replyTo script n = some (.response r))
      (hreceive : client.receive here r = .error mishap)
      (hkind : mishap.kind ∉ exchangeKinds) :
      Escapes client script url (.system mishap.kind mishap.message)

theorem failure_failed_of_mem {mishap : Mishap} (hkind : mishap.kind ∈ exchangeKinds)
    (url : String) : IsFetchFailure url ((FetchFault.failed mishap).failure url) := by
  rw [FetchFault.failure, if_pos (List.contains_iff_mem.mpr hkind)]
  exact ⟨_, _, rfl⟩

theorem failure_failed_of_not_mem {mishap : Mishap}
    (hkind : mishap.kind ∉ exchangeKinds) (url : String) :
    (FetchFault.failed mishap).failure url =
      .system mishap.kind mishap.message := by
  rw [FetchFault.failure, if_neg (by rwa [List.contains_iff_mem])]

theorem fetch_of_first_eq_error {url : String}
    (hfirst : client.first url = .error fault) :
    (client.fetch script url).result = .error fault := by
  rw [Client.fetch, hfirst]
  rfl

theorem fetch_of_start_eq_ok {url : String} {head : Head}
    (hhead : Head.read url.toList = .ok head) (hweb : IsWeb head)
    (hstart : client.start url = .ok first) :
    client.fetch script url = client.follow (redirectLimit + 1) script first := by
  rw [Client.fetch, first_of_isWeb hhead hweb, hstart]
  rfl

theorem fetch_of_start_eq_error {url : String} {head : Head} {mishap : Mishap}
    (hhead : Head.read url.toList = .ok head) (hweb : IsWeb head)
    (hstart : client.start url = .error mishap) :
    (client.fetch script url).result = .error (.failed mishap) := by
  apply fetch_of_first_eq_error
  rw [first_of_isWeb hhead hweb, hstart]
  rfl

/-- A fetch that fails is a failure to fetch its URL, or it escapes. -/
theorem isFetchFailure_or_escapes {url : String} (hscript : IsPlayable script)
    (herror : (client.fetch script url).result = .error fault) :
    IsFetchFailure url (fault.failure url) ∨
      Escapes client script url (fault.failure url) := by
  cases hhead : Head.read url.toList with
  | error e =>
      rw [fetch_of_first_eq_error (first_of_error hhead)] at herror
      obtain rfl := Except.error.inj herror
      exact Or.inr (.head hhead)
  | ok head =>
      by_cases hweb : IsWeb head
      · cases hstart : client.start url with
        | error mishap =>
            rw [fetch_of_start_eq_error hhead hweb hstart] at herror
            obtain rfl := Except.error.inj herror
            by_cases hkind : mishap.kind ∈ exchangeKinds
            · exact Or.inl (failure_failed_of_mem hkind url)
            · rw [failure_failed_of_not_mem hkind]
              exact Or.inr (.start hhead hweb hstart hkind)
        | ok first =>
            rw [fetch_of_start_eq_ok hhead hweb hstart, follow_eq_error_iff] at herror
            rcases herror with ⟨n, here, hn, hreach, hfails⟩ | ⟨rfl, -⟩
            · obtain ⟨played, hplayed, hplayable⟩ := hscript.exists_replyTo n
              cases hfails with
              | noReply hnone => cases hnone.symm.trans hplayed
              | reply hreply hfault =>
                  obtain rfl := Option.some.inj (hreply.symm.trans hplayed)
                  cases hplayable with
                  | failure message hkind =>
                      obtain rfl := Except.error.inj hfault
                      exact Or.inl (failure_failed_of_mem hkind url)
                  | response hascii =>
                      cases (received_eq_ok_iff.mpr ⟨rfl, hascii⟩).symm.trans hfault
              | @client v mishap hreplied hmishap =>
                  by_cases hkind : mishap.kind ∈ exchangeKinds
                  · exact Or.inl (failure_failed_of_mem hkind url)
                  · rw [failure_failed_of_not_mem hkind]
                    exact Or.inr (.receive hhead hweb hstart hreach
                      (Nat.le_of_lt_succ hn) hreplied.1 hmishap hkind)
            · exact Or.inl ⟨_, _, rfl⟩
      · rcases first_of_not_isWeb client hhead hweb with hfirst | hfirst
        · rw [fetch_of_first_eq_error hfirst] at herror
          obtain rfl := Except.error.inj herror
          exact Or.inl ⟨_, _, rfl⟩
        · rw [fetch_of_first_eq_error hfirst] at herror
          obtain rfl := Except.error.inj herror
          exact Or.inl ⟨_, _, rfl⟩

/-- What escapes is how the fetch fails. -/
theorem Escapes.exists_fault {url : String} {failure : Failure}
    (hscript : IsPlayable script) (hescapes : Escapes client script url failure) :
    ∃ fault, (client.fetch script url).result = .error fault ∧
      fault.failure url = failure := by
  cases hescapes with
  | head hhead => exact ⟨_, fetch_of_first_eq_error (first_of_error hhead), rfl⟩
  | start hhead hweb hstart hkind =>
      exact ⟨_, fetch_of_start_eq_error hhead hweb hstart,
        failure_failed_of_not_mem hkind url⟩
  | @receive head first here n r mishap hhead hweb hstart hreach hlimit hreply
      hreceive hkind =>
      let v : Visit σ := ⟨here, r⟩
      have hfails : FailsAt client script n v.place _ :=
        .client (hscript.isReplied hreply) hreceive
      refine ⟨.failed mishap, ?_, failure_failed_of_not_mem hkind url⟩
      rw [fetch_of_start_eq_ok hhead hweb hstart]
      exact follow_eq_error_iff.mpr
        (Or.inl ⟨n, here, Nat.lt_succ_of_le hlimit, hreach, hfails⟩)

theorem Escapes.not_isFetchFailure {url : String} {failure : Failure}
    (hescapes : Escapes client script url failure) : ¬IsFetchFailure url failure := by
  rintro ⟨underlying, cause, rfl⟩
  generalize hfailure : Failure.fault (.fetch url underlying) cause = failure
    at hescapes
  cases hescapes with
  | head => cases hfailure
  | start => cases hfailure
  | receive => cases hfailure

/-! ## The client of the web -/

/-- Of what goes wrong with URLs only a place that cannot be read concerns the
exchange. -/
theorem WebFault.kind_mem_exchangeKinds_iff {e : WebFault} :
    e.mishap.kind ∈ exchangeKinds ↔ ∃ fault, e = .location fault := by
  cases e with
  | location fault =>
      have hkind : "RemoteProtocolError" ∈ exchangeKinds := by decide
      exact ⟨fun _ => ⟨fault, rfl⟩, fun _ => hkind⟩
  | name refusal =>
      cases refusal <;> simp [WebFault.mishap, NameRefusal.kind, exchangeKinds]
  | reference => simp [WebFault.mishap, exchangeKinds]
  | join => simp [WebFault.mishap, exchangeKinds]
  | foreignHost => simp [WebFault.mishap, exchangeKinds]
  | unknownType => simp [WebFault.mishap, exchangeKinds]

/-- No place is read before the first request. -/
theorem requested_ne_location {url : String} {e : WebFault}
    (herror : requested url = .error e) (fault : ReferenceFault) :
    e ≠ .location fault := by
  rintro rfl
  rcases bind_eq_error_iff.mp herror with hread | ⟨r, -, herror⟩
  · obtain ⟨_, -, h⟩ := mapError_eq_error_iff.mp hread
    cases h
  rcases bind_eq_error_iff.mp herror with hshown | ⟨_, -, herror⟩
  · rw [shownHost] at hshown
    split at hshown
    · obtain ⟨_, -, h⟩ := mapError_eq_error_iff.mp hshown
      cases h
    · cases hshown
  · split at herror
    · cases herror
    · cases herror

/-- Whatever keeps the client of the web from its first request escapes. -/
theorem escapes_of_requested {url : String} {head : Head} {e : WebFault}
    (hhead : Head.read url.toList = .ok head) (hweb : IsWeb head)
    (herror : requested url = .error e) :
    Escapes .web script url (.system e.mishap.kind e.mishap.message) := by
  refine .start hhead hweb (mapError_eq_error_iff.mpr ⟨e, herror, rfl⟩) ?_
  rw [WebFault.kind_mem_exchangeKinds_iff]
  rintro ⟨fault, hfault⟩
  exact requested_ne_location herror fault hfault

example : requested "https://xn--" = .error (.name .missingCode) := by
  decide

/-- So does all that keeps it from taking a response, but for a place that cannot be
read. -/
theorem escapes_of_nextUrl {url : String} {head : Head} {first here : Reference}
    {n : ℕ} {r : Response} {e : WebFault}
    (hhead : Head.read url.toList = .ok head) (hweb : IsWeb head)
    (hfirst : requested url = .ok first) (hreach : Reaches .web script first n here)
    (hlimit : n ≤ redirectLimit) (hreply : replyTo script n = some (.response r))
    (herror : nextUrl here r = .error e) (hreadable : ∀ fault, e ≠ .location fault) :
    Escapes .web script url (.system e.mishap.kind e.mishap.message) := by
  refine .receive hhead hweb (mapError_eq_ok_iff.mpr hfirst) hreach hlimit hreply
    (mapError_eq_error_iff.mpr ⟨e, herror, rfl⟩) ?_
  rw [WebFault.kind_mem_exchangeKinds_iff]
  rintro ⟨fault, hfault⟩
  exact hreadable fault hfault

/-! ## How a fetch ends -/

/-- Whatever the client, the URL and the script are, a fetch finds a page, or it is
reported as a failure to fetch the URL, or it fails in one of the ways that escape;
and in these it does fail. -/
theorem fetch_ends (client : Client σ) (hscript : IsPlayable script) (url : String) :
    ((∃ page, (client.fetch script url).result = .ok page) ∨
      ∃ fault, (client.fetch script url).result = .error fault ∧
        (IsFetchFailure url (fault.failure url) ∨
          Escapes client script url (fault.failure url))) ∧
    ∀ failure, Escapes client script url failure →
      ¬IsFetchFailure url failure ∧
        ∃ fault, (client.fetch script url).result = .error fault ∧
          fault.failure url = failure := by
  constructor
  · cases hresult : (client.fetch script url).result with
    | ok page => exact Or.inl ⟨page, rfl⟩
    | error fault =>
        exact Or.inr ⟨fault, rfl, isFetchFailure_or_escapes hscript hresult⟩
  · intro failure hescapes
    exact ⟨hescapes.not_isFetchFailure, hescapes.exists_fault hscript⟩

/-- A page that sends its readers to a path without a slash. -/
def strayVisit : Visit Reference where
  place :=
    { scheme := "https".toList, user := [], host := "a.example".toList
      port := none, path := [], query := none, fragment := none }
  response :=
    { status := 302, headers := [{ name := "location", value := "https:b" }] }

/-- A redirect to a place that cannot be resolved is no failure to fetch the
page. -/
theorem strayVisit_escapes :
    ∃ fault,
      (fetch [.response strayVisit.response] "https://a.example").result =
          .error fault ∧
        fault.failure "https://a.example" = .system "InvalidURL"
          "For absolute URLs, path must be empty or begin with '/'" := by
  let head : Head :=
    { scheme := "https".toList, host := "a.example".toList, port := [] }
  have hplayable : IsPlayable [.response strayVisit.response] := by
    refine ⟨List.cons_ne_nil _ _, ?_⟩
    intro reply hreply
    obtain rfl := List.mem_singleton.mp hreply
    exact .response rfl
  have hhead : Head.read "https://a.example".toList = .ok head :=
    toOption_eq_some_iff.mp (by decide)
  have hweb : IsWeb head := ⟨Or.inr rfl, List.cons_ne_nil _ _⟩
  have hfirst : requested "https://a.example" = .ok strayVisit.place :=
    toOption_eq_some_iff.mp (by decide)
  have hnext : nextUrl strayVisit.place strayVisit.response =
      .error (.reference .unrootedPath) := by decide +kernel
  have hescapes : Escapes .web [.response strayVisit.response] "https://a.example"
      (.system "InvalidURL" ReferenceFault.unrootedPath.message) :=
    escapes_of_nextUrl hhead hweb hfirst .start (Nat.zero_le redirectLimit) rfl hnext
      (fun _ h => by cases h)
  exact ((fetch_ends .web hplayable "https://a.example").2 _ hescapes).2

/-- A URL with a bracket that is not closed is no failure to fetch it. -/
theorem fetch_openBracket :
    ∃ fault,
      (fetch [.response { status := 200, headers := [] }] "https://[::1").result =
          .error fault ∧
        fault.failure "https://[::1" =
          .system "ValueError" "Invalid IPv6 URL" :=
  ⟨.unreadable .brackets, by decide, rfl⟩

end FeatureGrant.Fetch
