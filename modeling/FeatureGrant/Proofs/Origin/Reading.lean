import FeatureGrant.Origin
import FeatureGrant.Proofs.Host.Name
import FeatureGrant.Proofs.Url.Head

/-!
# Reading origins

Every origin that is read is well formed: its scheme is in lower case, its host
an address with a colon or a name in ASCII form, and its port a number other
than the one that the scheme implies.  Well-formed origins that are written in
the same way are equal.
-/

namespace FeatureGrant

open FeatureGrant.Host FeatureGrant.Text FeatureGrant.Url

/-! ## Well-formed origins -/

/-- A host as it stands in an origin. -/
inductive HostText.WellFormed : HostText → Prop
  | literal {text : List Char} (colon : ':' ∈ text) (closing : ']' ∉ text)
      (address : checkAddress text = .ok ()) (lower : lowerHost text = text)
      (stands : ∀ c ∈ text, mayStand c = true) : WellFormed (.literal text)
  | name {text : List Char} (nonempty : text ≠ []) (ascii : IsSettledAscii text) :
      WellFormed (.name text)

/-- An origin as it is read from a URL. -/
structure Origin.WellFormed (o : Origin) : Prop where
  scheme : IsScheme o.scheme
  host : o.host.WellFormed
  port : ∀ n ∈ o.port, n ≤ 65535 ∧ some n ≠ defaultPort o.scheme

theorem Origin.read_eq (url : List Char) :
    Origin.read url =
      if (trim url).isEmpty then .error .empty
      else (Head.read (trim url)).mapError .unreadable >>= fun head =>
        head.portNumber.mapError .unreadable >>= fun port =>
          if head.scheme.isEmpty then .error .noScheme
          else if head.host.isEmpty then .error .noHost
          else HostText.read head.host >>= fun host =>
            .ok { scheme := head.scheme
                  host
                  port := if port = defaultPort head.scheme then none else port } :=
  rfl

/-- A URL that has an origin has a head with a scheme and a host. -/
structure Origin.ReadFrom (o : Origin) (head : Head) (port : Option Nat) : Prop where
  portNumber : head.portNumber = .ok port
  scheme_ne_nil : head.scheme ≠ []
  host_ne_nil : head.host ≠ []
  host : HostText.read head.host = .ok o.host
  scheme_eq : o.scheme = head.scheme
  port_eq : o.port = if port = defaultPort head.scheme then none else port

theorem Origin.read_eq_ok_iff {url : List Char} {o : Origin} :
    Origin.read url = .ok o ↔
      trim url ≠ [] ∧ ∃ head port,
        Head.read (trim url) = .ok head ∧ o.ReadFrom head port := by
  rw [Origin.read_eq]
  constructor
  · intro h
    split at h
    next => exact nomatch h
    next hempty =>
      obtain ⟨head, hhead, h⟩ := bind_eq_ok_iff.mp h
      obtain ⟨port, hport, h⟩ := bind_eq_ok_iff.mp h
      split at h
      next => exact nomatch h
      next hscheme =>
        split at h
        next => exact nomatch h
        next hhost =>
          obtain ⟨host, hread, h⟩ := bind_eq_ok_iff.mp h
          obtain rfl := Except.ok.inj h
          exact ⟨fun hnil => hempty (List.isEmpty_iff.mpr hnil), head, port,
            mapError_eq_ok_iff.mp hhead,
            { portNumber := mapError_eq_ok_iff.mp hport
              scheme_ne_nil := fun hnil => hscheme (List.isEmpty_iff.mpr hnil)
              host_ne_nil := fun hnil => hhost (List.isEmpty_iff.mpr hnil)
              host := hread
              scheme_eq := rfl
              port_eq := rfl }⟩
  · rintro ⟨hempty, head, port, hhead, hfrom⟩
    rw [if_neg fun hnil => hempty (List.isEmpty_iff.mp hnil)]
    refine bind_eq_ok_iff.mpr ⟨head, mapError_eq_ok_iff.mpr hhead, ?_⟩
    refine bind_eq_ok_iff.mpr ⟨port, mapError_eq_ok_iff.mpr hfrom.portNumber, ?_⟩
    rw [if_neg fun hnil => hfrom.scheme_ne_nil (List.isEmpty_iff.mp hnil),
      if_neg fun hnil => hfrom.host_ne_nil (List.isEmpty_iff.mp hnil)]
    refine bind_eq_ok_iff.mpr ⟨o.host, hfrom.host, ?_⟩
    rw [← hfrom.port_eq, ← hfrom.scheme_eq]

/-! ## What is read is well formed -/

/-- A host without colons and percent signs is brought into lower case as a
whole. -/
theorem isPlain_of_mem_lowerHost {host : List Char}
    (hstands : ∀ c ∈ host, mayStand c = true) (hcolon : ':' ∉ lowerHost host)
    (hpercent : '%' ∉ lowerHost host) : ∀ c ∈ lowerHost host, IsPlain c := by
  intro c hc
  have hlower : IsLower c := by
    have hclear : '%' ∉ host := fun h =>
      hpercent (mem_lowerHost_of_mem (by decide) h)
    rw [lowerHost_of_not_mem hclear] at hc
    exact isLower_of_mem_lower hc
  have hstand := mayStand_of_mem_lowerHost hstands hc
  have hslash : c ≠ '/' := by
    rintro rfl
    exact absurd hstand (by decide)
  exact ⟨⟨hlower.isUpper_eq_false, fun heq => hcolon (heq ▸ hc), hslash⟩,
    (mayStand_iff.mp hstand).2.2.2⟩

/-- The host that is read from a written one. -/
theorem HostText.wellFormed_of_read {written : WrittenHost} {host : HostText}
    (hvalid : written.IsValid) (hstands : ∀ c ∈ written.text, mayStand c = true)
    (hne : lowerHost written.text ≠ [])
    (h : HostText.read (lowerHost written.text) = .ok host) : host.WellFormed := by
  rw [HostText.read] at h
  split at h
  next hcolon =>
    rw [List.contains_iff_mem] at hcolon
    obtain rfl := Except.ok.inj h
    cases written with
    | name text =>
        exact absurd hcolon (not_mem_lowerHost (by decide) rfl hvalid)
    | literal text =>
        exact .literal hcolon (not_mem_lowerHost (by decide) rfl hvalid.2)
          (checkAddress_lowerHost hvalid.1) (lowerHost_lowerHost text)
          fun c => mayStand_of_mem_lowerHost hstands
  next hcolon =>
    rw [List.contains_iff_mem] at hcolon
    split at h
    next => exact nomatch h
    next hclear =>
      have hpercent : '%' ∉ lowerHost written.text := fun hmem =>
        hclear (List.any_eq_true.mpr ⟨'%', hmem, by decide⟩)
      have hplain := isPlain_of_mem_lowerHost hstands hcolon hpercent
      split at h
      next hascii =>
        obtain rfl := Except.ok.inj h
        exact .name hne
          (isSettledAscii_of_isAscii hascii fun c hc => (hplain c hc).settled)
      next =>
        split at h
        next ascii hok =>
          obtain rfl := Except.ok.inj h
          obtain ⟨hascii, hne⟩ := asciiName_eq_ok hplain hok
          exact .name hne hascii
        next => exact nomatch h

theorem Origin.wellFormed_of_read {url : List Char} {o : Origin}
    (h : Origin.read url = .ok o) : o.WellFormed := by
  obtain ⟨-, head, port, hhead, hfrom⟩ := Origin.read_eq_ok_iff.mp h
  obtain ⟨hbrackets, -, hfields⟩ := Head.read_eq_ok_iff.mp hhead
  have hscheme : IsScheme head.scheme := by
    rw [hfields]
    rcases splitScheme_cases (clean (trim url)) with ⟨hscheme, -⟩ | heq
    · exact hscheme
    · have hnil := hfrom.scheme_ne_nil
      rw [hfields, heq] at hnil
      exact absurd rfl hnil
  have hhost : head.host = lowerHost (writtenHost (authorityOf (trim url))).text := by
    rw [hfields, hostAndPort_fst]
  refine ⟨hfrom.scheme_eq ▸ hscheme, ?_, ?_⟩
  · have hne := hfrom.host_ne_nil
    have hread := hfrom.host
    rw [hhost] at hne hread
    exact HostText.wellFormed_of_read (isValid_writtenHost hbrackets)
      (fun c hc => mayStand_of_mem_behindLast hhead (mem_of_mem_writtenHost hc))
      hne hread
  · intro n hn
    have hrange := (portNumber_eq_ok hfrom.portNumber).2
    rw [hfrom.port_eq] at hn
    split at hn
    next => exact nomatch hn
    next hother =>
      refine ⟨hrange n hn, ?_⟩
      rw [hfrom.scheme_eq, ← Option.mem_def.mp hn]
      exact hother

/-! ## How an origin is written -/

/-- The characters of a host. -/
def HostText.chars : HostText → List Char
  | literal text => '[' :: text ++ [']']
  | name text => text

/-- The characters of a port. -/
def portChars : Option Nat → List Char
  | none => []
  | some n => ':' :: Nat.toDigits 10 n

theorem Origin.chars_eq (o : Origin) :
    o.chars = o.scheme ++ ':' :: '/' :: '/' :: (o.host.chars ++ portChars o.port) := by
  rw [Origin.chars, List.append_assoc, List.append_assoc]
  rfl

theorem HostText.chars_literal_append (text rest : List Char) :
    (literal text).chars ++ rest = '[' :: (text ++ ']' :: rest) := by
  rw [chars, List.cons_append, List.cons_append, List.append_assoc]
  rfl

theorem cut_append_portChars {text : List Char} (h : ':' ∉ text)
    (port : Option Nat) :
    cut ':' (text ++ portChars port) = (text, port.map (Nat.toDigits 10)) := by
  cases port with
  | none =>
      rw [portChars, List.append_nil, cut_of_not_mem h]
      rfl
  | some n => exact cut_append_cons h _

theorem toDigits_injective {m n : Nat} (h : Nat.toDigits 10 m = Nat.toDigits 10 n) :
    m = n := by
  rw [← Nat.ofDigitChars_ten_toDigits (n := m), h, Nat.ofDigitChars_ten_toDigits]

theorem colon_not_mem_of_isSettledAscii {text : List Char}
    (h : IsSettledAscii text) : ':' ∉ text := fun hmem =>
  (h ':' hmem).2.2.1 rfl

/-- A literal is not written like a name, whatever port follows: its first colon
stands before its closing bracket. -/
theorem HostText.chars_literal_ne_name {text name : List Char} {p q : Option Nat}
    (hcolon : ':' ∈ text) (hname : ':' ∉ name) :
    (literal text).chars ++ portChars p ≠ name ++ portChars q := by
  intro heq
  obtain ⟨front, back, rfl, hfront⟩ := List.eq_append_cons_of_mem hcolon
  have hopen : ':' ∉ '[' :: front := by
    rw [List.mem_cons, not_or]
    exact ⟨by decide, hfront⟩
  have hcut : cut ':' ((literal (front ++ ':' :: back)).chars ++ portChars p) =
      ('[' :: front, some (back ++ ']' :: portChars p)) := by
    rw [chars_literal_append, List.append_assoc, ← cut_append_cons hopen]
    rfl
  rw [heq, cut_append_portChars hname] at hcut
  obtain ⟨n, -, hdigits⟩ := Option.map_eq_some_iff.mp (Prod.mk.inj hcut).2
  have hclosing : ']' ∈ Nat.toDigits 10 n := by
    rw [hdigits]
    exact List.mem_append_right back List.mem_cons_self
  exact nomatch isDigit_of_mem_toDigits hclosing

theorem portChars_injective {p q : Option Nat} (h : portChars p = portChars q) :
    p = q := by
  cases p with
  | none =>
      cases q with
      | none => rfl
      | some n => exact nomatch h
  | some m =>
      cases q with
      | none => exact nomatch h
      | some n => exact congrArg some (toDigits_injective (List.cons.inj h).2)

/-- A host and a port are told apart in what is written of them. -/
theorem HostText.WellFormed.chars_injective {h k : HostText} {p q : Option Nat}
    (hh : h.WellFormed) (hk : k.WellFormed)
    (heq : h.chars ++ portChars p = k.chars ++ portChars q) : h = k ∧ p = q := by
  cases hh with
  | literal colon closing =>
      cases hk with
      | literal colon' closing' =>
          rw [chars_literal_append, chars_literal_append] at heq
          have hcut := congrArg (cut ']') (List.cons.inj heq).2
          rw [cut_append_cons closing, cut_append_cons closing'] at hcut
          obtain ⟨htext, hport⟩ := Prod.mk.inj hcut
          exact ⟨congrArg HostText.literal htext,
            portChars_injective (Option.some.inj hport)⟩
      | name _ ascii =>
          exact absurd heq
            (chars_literal_ne_name colon (colon_not_mem_of_isSettledAscii ascii))
  | name _ ascii =>
      cases hk with
      | literal colon _ =>
          exact absurd heq.symm
            (chars_literal_ne_name colon (colon_not_mem_of_isSettledAscii ascii))
      | name _ ascii' =>
          have hcut := congrArg (cut ':') heq
          rw [chars, chars,
            cut_append_portChars (colon_not_mem_of_isSettledAscii ascii),
            cut_append_portChars (colon_not_mem_of_isSettledAscii ascii')] at hcut
          obtain rfl := (Prod.mk.inj hcut).1
          exact ⟨rfl, portChars_injective (List.append_cancel_left heq)⟩

/-- Origins that are written in the same way are the same. -/
theorem Origin.WellFormed.chars_injective {o o' : Origin} (ho : o.WellFormed)
    (ho' : o'.WellFormed) (heq : o.chars = o'.chars) : o = o' := by
  rw [Origin.chars_eq, Origin.chars_eq] at heq
  have hcut := congrArg (cut ':') heq
  rw [cut_append_cons ho.scheme.colon_not_mem,
    cut_append_cons ho'.scheme.colon_not_mem] at hcut
  obtain ⟨hscheme, hbehind⟩ := Prod.mk.inj hcut
  have hplace := (List.cons.inj (List.cons.inj (Option.some.inj hbehind)).2).2
  obtain ⟨hhost, hport⟩ := ho.host.chars_injective ho'.host hplace
  obtain ⟨scheme, host, port⟩ := o
  obtain ⟨scheme', host', port'⟩ := o'
  dsimp only at hscheme hhost hport
  rw [hscheme, hhost, hport]

end FeatureGrant
