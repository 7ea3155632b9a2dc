import FeatureGrant.Proofs.Origin.Reading

/-!
# The same origin

Two URLs have the same origin if their schemes, their hosts and the ports in
use are the same.  Their canonical forms are equal in just this case, as long as
every host in brackets has a colon: one without, which only an address of a
future version can be, loses its brackets and is then taken for a name.
-/

namespace FeatureGrant

open FeatureGrant.Host FeatureGrant.Text FeatureGrant.Url

/-! ## What a URL says of its origin -/

namespace Url

/-- The scheme of a URL in lower case. -/
def schemeOf (url : List Char) : List Char := (splitScheme (clean (trim url))).1

/-- The host of a URL as it is written. -/
def hostOf (url : List Char) : WrittenHost := writtenHost (authorityOf (trim url))

/-- The port of a URL: the written one, else the scheme's own. -/
def effectivePortOf (url : List Char) : Option Nat :=
  portOf (hostAndPort (authorityOf (trim url))).2 <|> defaultPort (schemeOf url)

/-- The ASCII form of a name in lower case. -/
def asciiForm (name : List Char) : Except NameFault (List Char) :=
  if isAscii (lower name) then .ok (lower name) else asciiName (lower name)

/-- Hosts are the same if they are literals that differ only in the case of what
stands before the zone, or names of the same ASCII form. -/
inductive WrittenHost.Same : WrittenHost → WrittenHost → Prop
  | literal {a b : List Char} (lowerHost_eq : lowerHost a = lowerHost b) :
      Same (.literal a) (.literal b)
  | name {a b : List Char} (asciiForm_eq : asciiForm a = asciiForm b) :
      Same (.name a) (.name b)

/-- Whether two URLs have the same origin. -/
structure SameOrigin (u v : List Char) : Prop where
  scheme : schemeOf u = schemeOf v
  port : effectivePortOf u = effectivePortOf v
  host : (hostOf u).Same (hostOf v)

/-- A host holds a colon if it is a literal. -/
inductive WrittenHost.HasColon : WrittenHost → Prop
  | literal {text : List Char} (colon : ':' ∈ text) : HasColon (.literal text)
  | name {text : List Char} : HasColon (.name text)

end Url

/-! ## What is read of it -/

theorem HostText.read_literal {text : List Char} {host : HostText}
    (hcolon : ':' ∈ text) (h : HostText.read (lowerHost text) = .ok host) :
    host = .literal (lowerHost text) := by
  have hmem : ':' ∈ lowerHost text := mem_lowerHost_of_mem (by decide) hcolon
  rw [HostText.read, if_pos (List.contains_iff_mem.mpr hmem)] at h
  exact (Except.ok.inj h).symm

theorem HostText.read_name {text : List Char} {host : HostText} (hcolon : ':' ∉ text)
    (h : HostText.read (lowerHost text) = .ok host) :
    ∃ ascii, asciiForm text = .ok ascii ∧ host = .name ascii := by
  rw [HostText.read, if_neg fun hmem => not_mem_lowerHost (by decide) rfl hcolon
    (List.contains_iff_mem.mp hmem)] at h
  split at h
  next => cases h
  next hclear =>
    have hpercent : '%' ∉ text := fun hmem => hclear (List.any_eq_true.mpr
      ⟨'%', mem_lowerHost_of_mem (by decide) hmem, by decide⟩)
    rw [lowerHost_of_not_mem hpercent] at h
    rw [asciiForm]
    split at h
    next hascii =>
      rw [if_pos hascii]
      exact ⟨_, rfl, (Except.ok.inj h).symm⟩
    next hascii =>
      rw [if_neg hascii]
      split at h
      next ascii hok => exact ⟨ascii, hok, (Except.ok.inj h).symm⟩
      next => cases h

/-- What a URL says of its origin is what is read. -/
structure ReadsAs (url : List Char) (o : Origin) : Prop where
  valid : (hostOf url).IsValid
  scheme : o.scheme = schemeOf url
  port : o.effectivePort = effectivePortOf url
  host : HostText.read (lowerHost (hostOf url).text) = .ok o.host

theorem readsAs_of_read {url : List Char} {o : Origin}
    (h : Origin.read url = .ok o) : ReadsAs url o := by
  obtain ⟨-, head, port, hhead, hfrom⟩ := Origin.read_eq_ok_iff.mp h
  obtain ⟨hbrackets, -, rfl⟩ := Head.read_eq_ok_iff.mp hhead
  refine ⟨isValid_writtenHost hbrackets, hfrom.scheme_eq, ?_, ?_⟩
  · have hport := (portNumber_eq_ok hfrom.portNumber).1
    rw [Origin.effectivePort, hfrom.scheme_eq, hfrom.port_eq, effectivePortOf, ← hport]
    split
    next hdefault =>
      rw [hdefault]
      change (none <|> defaultPort (schemeOf url)) =
        (defaultPort (schemeOf url) <|> defaultPort (schemeOf url))
      cases defaultPort (schemeOf url) <;> rfl
    next => rfl
  · rw [hostOf, ← hostAndPort_fst]
    exact hfrom.host

/-! ## Comparing -/

theorem WrittenHost.same_iff {a b : WrittenHost} {h k : HostText} (ha : a.IsValid)
    (hb : b.IsValid) (hca : a.HasColon) (hcb : b.HasColon)
    (hh : HostText.read (lowerHost a.text) = .ok h)
    (hk : HostText.read (lowerHost b.text) = .ok k) : a.Same b ↔ h = k := by
  cases hca with
  | literal hcolon =>
      obtain rfl := HostText.read_literal hcolon hh
      cases hcb with
      | literal hcolon' =>
          obtain rfl := HostText.read_literal hcolon' hk
          rw [HostText.literal.injEq]
          exact ⟨fun | .literal heq => heq, .literal⟩
      | name =>
          obtain ⟨ascii, -, rfl⟩ := HostText.read_name hb hk
          exact iff_of_false nofun nofun
  | name =>
      obtain ⟨ascii, hs, rfl⟩ := HostText.read_name ha hh
      cases hcb with
      | literal hcolon' =>
          obtain rfl := HostText.read_literal hcolon' hk
          exact iff_of_false nofun nofun
      | name =>
          obtain ⟨ascii', ht, rfl⟩ := HostText.read_name hb hk
          rw [HostText.name.injEq, ← Except.ok.injEq, ← hs, ← ht]
          exact ⟨fun | .name heq => heq, .name⟩

theorem Origin.WellFormed.port_eq_iff {o o' : Origin} (ho : o.WellFormed)
    (ho' : o'.WellFormed) (hscheme : o.scheme = o'.scheme) :
    o.port = o'.port ↔ o.effectivePort = o'.effectivePort := by
  rw [Origin.effectivePort, Origin.effectivePort, ← hscheme]
  constructor
  · intro hport
    rw [hport]
  · intro heffective
    cases hport : o.port with
    | none =>
        cases hport' : o'.port with
        | none => rfl
        | some n =>
            rw [hport, hport'] at heffective
            have hother := (ho'.port n hport').2
            rw [← hscheme] at hother
            exact absurd heffective.symm hother
    | some m =>
        cases hport' : o'.port with
        | none =>
            rw [hport, hport'] at heffective
            exact absurd heffective (ho.port m hport).2
        | some n =>
            rw [hport, hport'] at heffective
            exact heffective

theorem Origin.eq_iff_sameOrigin {u v : List Char} {o o' : Origin}
    (hread : Origin.read u = .ok o) (hread' : Origin.read v = .ok o')
    (hcu : (hostOf u).HasColon) (hcv : (hostOf v).HasColon) :
    o = o' ↔ SameOrigin u v := by
  have hreads := readsAs_of_read hread
  have hreads' := readsAs_of_read hread'
  have hhost := WrittenHost.same_iff hreads.valid hreads'.valid hcu hcv hreads.host
    hreads'.host
  constructor
  · rintro rfl
    exact { scheme := hreads.scheme.symm.trans hreads'.scheme
            port := hreads.port.symm.trans hreads'.port
            host := hhost.mpr rfl }
  · rintro ⟨hscheme, hport, hsame⟩
    have ho := Origin.wellFormed_of_read hread
    have ho' := Origin.wellFormed_of_read hread'
    rw [← hreads.scheme, ← hreads'.scheme] at hscheme
    rw [← hreads.port, ← hreads'.port, ← ho.port_eq_iff ho' hscheme] at hport
    have heq := hhost.mp hsame
    obtain ⟨scheme, host, port⟩ := o
    obtain ⟨scheme', host', port'⟩ := o'
    dsimp only at hscheme hport heq
    rw [hscheme, hport, heq]

/-- Canonical forms are equal exactly if the origins are the same. -/
theorem canonicalize_eq_iff_sameOrigin {u v r s : String}
    (hu : canonicalize u = .ok r) (hv : canonicalize v = .ok s)
    (hcu : (hostOf u.toList).HasColon) (hcv : (hostOf v.toList).HasColon) :
    r = s ↔ SameOrigin u.toList v.toList := by
  obtain ⟨o, hread, rfl⟩ := map_eq_ok_iff.mp hu
  obtain ⟨o', hread', rfl⟩ := map_eq_ok_iff.mp hv
  rw [← Origin.eq_iff_sameOrigin hread hread' hcu hcv]
  constructor
  · intro htext
    exact (Origin.wellFormed_of_read hread).chars_injective
      (Origin.wellFormed_of_read hread') (String.ofList_injective htext)
  · rintro rfl
    rfl

/-- A user name, capitals before the zone, the port that the scheme implies, and
what stands behind the authority do not matter. -/
theorem sameOrigin_linkLocal :
    SameOrigin "HTTPS://user@[FE80::1%Eth0]:443/a".toList
      "https://[fe80::1%Eth0]?q".toList := by
  have hu : canonicalize "HTTPS://user@[FE80::1%Eth0]:443/a" =
      .ok "https://[fe80::1%Eth0]" := by decide
  have hv : canonicalize "https://[fe80::1%Eth0]?q" =
      .ok "https://[fe80::1%Eth0]" := by decide
  have hhost : hostOf "HTTPS://user@[FE80::1%Eth0]:443/a".toList =
      .literal "FE80::1%Eth0".toList := by decide
  have hhost' : hostOf "https://[fe80::1%Eth0]?q".toList =
      .literal "fe80::1%Eth0".toList := by decide
  exact (canonicalize_eq_iff_sameOrigin hu hv
    (hhost ▸ .literal (by decide))
    (hhost' ▸ .literal (by decide))).mp rfl

/-- An address of a future version without a colon is taken for a name. -/
theorem canonicalize_futureAddress :
    canonicalize "https://[v1.abc]" = .ok "https://v1.abc" ∧
      canonicalize "https://v1.abc" = .ok "https://v1.abc" ∧
      ¬SameOrigin "https://[v1.abc]".toList "https://v1.abc".toList := by
  refine ⟨by decide, by decide, fun hsame => ?_⟩
  have hliteral : hostOf "https://[v1.abc]".toList = .literal "v1.abc".toList := by
    decide
  have hname : hostOf "https://v1.abc".toList = .name "v1.abc".toList := by
    decide
  have hhost := hsame.host
  rw [hliteral, hname] at hhost
  exact nomatch hhost

end FeatureGrant
