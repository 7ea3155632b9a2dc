import FeatureGrant.Proofs.Origin.Reading
import FeatureGrant.Proofs.Origin.Text

/-!
# Canonical origins

The text of an origin is canonical: it is read as that origin again, unless the
host is a name with forbidden characters.  A name is checked for these before it
is brought into ASCII form, so a name that is not ASCII may still get some, and
then its text is not read as the same origin.
-/

namespace FeatureGrant

open FeatureGrant.Host FeatureGrant.Text FeatureGrant.Url

/-- Whether a host holds no forbidden characters, unless it is a literal. -/
def HostText.IsClean : HostText → Prop
  | literal _ => True
  | name text => text.any isForbiddenInHost = false

/-! ## The place of the host -/

theorem mayStand_of_not_forbidden {c : Char} (hascii : isAsciiChar c = true)
    (hclear : isForbiddenInHost c = false) : mayStand c = true := by
  have hcode : c.toNat < 0x80 := of_decide_eq_true hascii
  have hlike := Intervals.has_eq_false_of_lt delimiterLike_avoidsForms
    (show c.toNat < 0x400 by omega)
  refine mayStand_of_not_mem_stops (fun hc => ?_) hlike
  have hstops : stops.all isForbiddenInHost = true := by decide
  rw [List.all_eq_true.mp hstops c hc] at hclear
  exact nomatch hclear

theorem isAsciiChar_of_mem_portChars {port : Option Nat} {c : Char}
    (hc : c ∈ portChars port) : isAsciiChar c = true := by
  cases port with
  | none => exact nomatch hc
  | some n =>
      rcases List.mem_cons.mp hc with rfl | hdigit
      · rfl
      · exact isAsciiChar_of_isHexDigit
          (isHexDigit_of_isDigit (isDigit_of_mem_toDigits hdigit))

theorem mayStand_of_isDigit {c : Char} (hc : c.isDigit = true) :
    mayStand c = true := by
  obtain ⟨hfirst, hlast⟩ := isDigit_iff_code.mp hc
  have hall : ∀ k < 10, isForbiddenInHost (Char.ofNat (0x30 + k)) = false := by
    decide
  have hclear := hall (c.toNat - 0x30) (by omega)
  rw [Nat.add_sub_cancel' hfirst, Char.ofNat_toNat] at hclear
  exact mayStand_of_not_forbidden (decide_eq_true (by omega)) hclear

theorem mayStand_of_mem_portChars {port : Option Nat} {c : Char}
    (hc : c ∈ portChars port) : mayStand c = true := by
  cases port with
  | none => exact nomatch hc
  | some n =>
      rcases List.mem_cons.mp hc with rfl | hdigit
      · decide
      · exact mayStand_of_isDigit (isDigit_of_mem_toDigits hdigit)

theorem HostText.WellFormed.mayStand_of_mem_chars {host : HostText}
    (h : host.WellFormed) (hclean : host.IsClean) {c : Char} (hc : c ∈ host.chars) :
    mayStand c = true := by
  cases h with
  | @literal text _ _ _ _ stands =>
      rw [HostText.chars, List.mem_append, List.mem_cons, List.mem_singleton] at hc
      rcases hc with (rfl | hc) | rfl
      · decide
      · exact stands c hc
      · decide
  | name _ ascii =>
      exact mayStand_of_not_forbidden (ascii c hc).1
        (Bool.eq_false_iff.mpr (List.any_eq_false.mp hclean c hc))

/-- What is written of a host and a port. -/
def place (o : Origin) : List Char := o.host.chars ++ portChars o.port

theorem mayStand_of_mem_place {o : Origin} (ho : o.WellFormed)
    (hclean : o.host.IsClean) {c : Char} (hc : c ∈ place o) : mayStand c = true := by
  rcases List.mem_append.mp hc with hhost | hport
  · exact ho.host.mayStand_of_mem_chars hclean hhost
  · exact mayStand_of_mem_portChars hport

theorem not_mem_place {o : Origin} (ho : o.WellFormed) (hclean : o.host.IsClean)
    {c : Char} (hc : mayStand c = false) : c ∉ place o := fun hmem => by
  rw [mayStand_of_mem_place ho hclean hmem] at hc
  exact nomatch hc

theorem behindLast_place {o : Origin} (ho : o.WellFormed)
    (hclean : o.host.IsClean) : behindLast '@' (place o) = place o :=
  behindLast_of_not_mem (not_mem_place ho hclean (by decide))

/-! ## Reading the place of the host -/

/-- What stands between the brackets of a host or without them. -/
def HostText.text : HostText → List Char
  | literal text | name text => text

theorem not_mem_name_append {text : List Char} (hclean : (HostText.name text).IsClean)
    (port : Option Nat) {c : Char} (hc : isForbiddenInHost c = true)
    (hcolon : c ≠ ':') (hdigit : c.isDigit = false) : c ∉ text ++ portChars port := by
  rw [List.mem_append, not_or]
  constructor
  · exact fun hmem => List.any_eq_false.mp hclean c hmem hc
  · intro hmem
    cases port with
    | none => exact nomatch hmem
    | some n =>
        rcases List.mem_cons.mp hmem with heq | hmem
        · exact hcolon heq
        · rw [isDigit_of_mem_toDigits hmem] at hdigit
          exact nomatch hdigit

theorem cut_place_literal (scheme text : List Char) (port : Option Nat) :
    cut '[' (place ⟨scheme, .literal text, port⟩) =
      ([], some (text ++ ']' :: portChars port)) := by
  rw [place, HostText.chars_literal_append]
  exact cut_append_cons (a := []) List.not_mem_nil _

theorem checkBrackets_place {o : Origin} (ho : o.WellFormed)
    (hclean : o.host.IsClean) : checkBrackets (place o) = .ok () := by
  have hbehind := behindLast_place ho hclean
  obtain ⟨scheme, host, port⟩ := o
  cases ho.host with
  | @literal text _ closing address _ _ =>
      have hplace : place ⟨scheme, .literal text, port⟩ =
          '[' :: (text ++ ']' :: portChars port) :=
        HostText.chars_literal_append text _
      have hopen : (place ⟨scheme, .literal text, port⟩).contains '[' = true := by
        rw [hplace, List.contains_iff_mem]
        exact List.mem_cons_self
      have hclose : (place ⟨scheme, .literal text, port⟩).contains ']' = true := by
        rw [hplace, List.contains_iff_mem]
        exact List.mem_cons_of_mem _ (List.mem_append_right text List.mem_cons_self)
      rw [checkBrackets, hopen, hclose]
      dsimp only
      rw [hbehind, cut_place_literal]
      dsimp only
      rw [cut_append_cons closing]
      cases port with
      | none => exact address
      | some n => exact address
  | @name text _ _ =>
      have hclear {c : Char} (hc : isForbiddenInHost c = true) (hcolon : c ≠ ':')
          (hdigit : c.isDigit = false) :
          (place ⟨scheme, .name text, port⟩).contains c = false :=
        Bool.eq_false_iff.mpr fun hmem =>
          not_mem_name_append hclean port hc hcolon hdigit (List.contains_iff_mem.mp hmem)
      rw [checkBrackets, hclear (c := '[') (by decide) (by decide) rfl,
        hclear (c := ']') (by decide) (by decide) rfl]

theorem hostAndPort_place {o : Origin} (ho : o.WellFormed)
    (hclean : o.host.IsClean) :
    hostAndPort (place o) =
      (o.host.text, (o.port.map (Nat.toDigits 10)).getD []) := by
  have hbehind := behindLast_place ho hclean
  obtain ⟨scheme, host, port⟩ := o
  rw [hostAndPort]
  dsimp only
  rw [hbehind]
  cases ho.host with
  | @literal text _ closing _ _ _ =>
      have hport : cut ':' (portChars port) = ([], port.map (Nat.toDigits 10)) :=
        cut_append_portChars List.not_mem_nil port
      rw [cut_place_literal]
      dsimp only
      rw [cut_append_cons closing, Option.getD_some, hport]
      rfl
  | @name text _ ascii =>
      have hopen : '[' ∉ text ++ portChars port :=
        not_mem_name_append hclean port (by decide) (by decide) (by decide)
      rw [place, HostText.chars, cut_of_not_mem hopen]
      dsimp only
      rw [cut_append_portChars (colon_not_mem_of_isSettledAscii ascii)]
      rfl

theorem lowerHost_text {host : HostText} (h : host.WellFormed)
    (hclean : host.IsClean) : lowerHost host.text = host.text := by
  cases h with
  | literal _ _ _ lower _ => exact lower
  | @name text _ ascii =>
      have hpercent : '%' ∉ text := fun hmem =>
        List.any_eq_false.mp hclean '%' hmem (by decide)
      rw [HostText.text, lowerHost_of_not_mem hpercent]
      refine lower_eq_self fun c hc => ?_
      obtain ⟨hascii, hsettled⟩ := ascii c hc
      exact isLower_of_not_isUpper (of_decide_eq_true hascii) hsettled.1

theorem read_text {host : HostText} (h : host.WellFormed) (hclean : host.IsClean) :
    HostText.read host.text = .ok host := by
  cases h with
  | @literal text colon _ _ _ _ =>
      rw [HostText.text, HostText.read, if_pos (List.contains_iff_mem.mpr colon)]
  | @name text _ ascii =>
      have hcolon : ¬text.contains ':' = true := fun hmem =>
        colon_not_mem_of_isSettledAscii ascii (List.contains_iff_mem.mp hmem)
      have hclear : ¬text.any isForbiddenInHost = true := Bool.eq_false_iff.mp hclean
      have hascii : isAscii text = true :=
        List.all_eq_true.mpr fun c hc => (ascii c hc).1
      rw [HostText.text, HostText.read, if_neg hcolon, if_neg hclear, if_pos hascii]

theorem text_ne_nil {host : HostText} (h : host.WellFormed) : host.text ≠ [] := by
  cases h with
  | literal colon => exact List.ne_nil_of_mem colon
  | name nonempty => exact nonempty

theorem HostText.WellFormed.chars_ne_nil {host : HostText} (h : host.WellFormed) :
    host.chars ≠ [] := by
  cases h with
  | literal => exact List.cons_ne_nil _ _
  | name nonempty => exact nonempty

/-! ## Reading an origin -/

theorem isBlank_eq_false {c : Char} (hascii : isAsciiChar c = true)
    (hc : 0x20 < c.toNat) : isBlank c = false := by
  have hcode : c.toNat < 0x80 := of_decide_eq_true hascii
  simp only [isBlank, Bool.or_eq_false_iff, Bool.and_eq_false_iff,
    decide_eq_false_iff_not, beq_eq_false_iff_ne]
  omega

theorem code_of_not_forbidden {c : Char} (hc : isForbiddenInHost c = false) :
    0x20 < c.toNat := by
  rw [isForbiddenInHost, Bool.or_eq_false_iff, decide_eq_false_iff_not] at hc
  omega

theorem isBlank_getLast?_place {o : Origin} (ho : o.WellFormed)
    (hclean : o.host.IsClean) : ∀ c ∈ (place o).getLast?, isBlank c = false := by
  intro c hc
  cases hport : o.port with
  | some n =>
      have hdigits : Nat.toDigits 10 n ≠ [] := Nat.toDigits_ne_nil
      have hplace : place o = (o.host.chars ++ [':']) ++ Nat.toDigits 10 n := by
        rw [place, hport, List.append_assoc]
        rfl
      rw [hplace, List.getLast?_append_of_ne_nil _ hdigits] at hc
      have hcode := isDigit_iff_code.mp
        (isDigit_of_mem_toDigits (List.mem_of_getLast? hc))
      exact isBlank_eq_false (decide_eq_true (by omega)) (by omega)
  | none =>
      rw [place, hport, portChars, List.append_nil] at hc
      cases hhost : o.host with
      | literal text =>
          rw [hhost, HostText.chars, List.getLast?_concat] at hc
          obtain rfl := Option.some.inj hc
          decide
      | name text =>
          have hformed := ho.host
          rw [hhost] at hc hformed hclean
          have hmem : c ∈ text := List.mem_of_getLast? hc
          have hclear := Bool.eq_false_iff.mpr (List.any_eq_false.mp hclean c hmem)
          cases hformed with
          | name _ ascii =>
              exact isBlank_eq_false (ascii c hmem).1 (code_of_not_forbidden hclear)

/-- The text of an origin is read as the origin. -/
theorem Origin.read_chars {o : Origin} (ho : o.WellFormed) (hclean : o.host.IsClean) :
    Origin.read o.chars = .ok o := by
  have hchars : o.chars = o.scheme ++ ':' :: '/' :: '/' :: place o := o.chars_eq
  have hletter : ∀ c ∈ o.chars.head?, isAsciiChar c = true ∧ 0x20 < c.toNat := by
    intro c hc
    rw [hchars, List.head?_append_of_ne_nil _ ho.scheme.ne_nil] at hc
    have hletter := ho.scheme.letter
    rw [Option.mem_def.mp hc] at hletter
    exact code_of_isAlpha hletter
  have hplace : place o ≠ [] :=
    List.append_ne_nil_of_left_ne_nil ho.host.chars_ne_nil _
  have htrim : trim o.chars = o.chars := by
    refine trim_eq_self (fun c hc => ?_) (fun c hc => ?_)
    · exact isBlank_eq_false (hletter c hc).1 (hletter c hc).2
    · have hsplit : o.chars = (o.scheme ++ [':', '/', '/']) ++ place o := by
        rw [hchars, List.append_assoc]
        rfl
      rw [hsplit, List.getLast?_append_of_ne_nil _ hplace] at hc
      exact isBlank_getLast?_place ho hclean c hc
  have hkept : clean o.chars = o.chars := by
    refine clean_eq_self (fun c hc => (hletter c hc).2) fun c hc => ?_
    rw [hchars, List.mem_append, List.mem_cons, List.mem_cons, List.mem_cons] at hc
    rcases hc with hscheme | rfl | rfl | rfl | hplace
    · exact ho.scheme.isIgnored_eq_false hscheme
    · rfl
    · rfl
    · rfl
    · exact (mayStand_iff.mp (mayStand_of_mem_place ho hclean hplace)).1
  have hsplit : splitScheme (clean o.chars) = (o.scheme, '/' :: '/' :: place o) := by
    rw [hkept, hchars, splitScheme_append ho.scheme]
  have hauth : authorityOf o.chars = place o := by
    rw [authorityOf, hsplit]
    exact authority_slashes fun c hc =>
      (mayStand_iff.mp (mayStand_of_mem_place ho hclean hc)).2.1
  have hhead : Head.read o.chars = .ok
      { scheme := o.scheme
        host := o.host.text
        port := (o.port.map (Nat.toDigits 10)).getD [] } := by
    rw [Head.read_eq_ok_iff, hauth, hsplit, hostAndPort_place ho hclean]
    refine ⟨checkBrackets_place ho hclean, ?_, ?_⟩
    · refine List.any_eq_false.mpr fun c hc => Bool.eq_false_iff.mp ?_
      exact (mayStand_iff.mp (mayStand_of_mem_place ho hclean hc)).2.2.2
    · dsimp only
      rw [lowerHost_text ho.host hclean]
  have hscheme : o.scheme ≠ [] := ho.scheme.ne_nil
  refine Origin.read_eq_ok_iff.mpr ⟨?_, _, o.port, htrim.symm ▸ hhead, ?_⟩
  · rw [htrim, hchars]
    exact List.append_ne_nil_of_left_ne_nil hscheme _
  · refine ⟨?_, hscheme, text_ne_nil ho.host, read_text ho.host hclean, rfl, ?_⟩
    · cases hport : o.port with
      | none => rfl
      | some n => exact portNumber_toDigits (ho.port n hport).1 rfl
    · cases hport : o.port with
      | none => exact (ite_self none).symm
      | some n => rw [if_neg (ho.port n hport).2]

/-! ## Canonical forms -/

theorem isAscii_lowerHost {host : List Char} (h : isAscii host = true) :
    isAscii (lowerHost host) = true := by
  have hlower (c : Char) : isAsciiChar c = true → isAsciiChar c.toLower = true :=
    forall_toLower (P := fun c d => isAsciiChar c = true → isAsciiChar d = true)
      (fun _ => id) (by decide) c
  have hmap {s : List Char} (hs : isAscii s = true) : isAscii (lower s) = true := by
    rw [lower_eq_map hs, isAscii, List.all_map]
    exact List.all_eq_true.mpr fun c hc => hlower c (List.all_eq_true.mp hs c hc)
  rcases cut_cases '%' host with ⟨hclear, -⟩ | ⟨name, zone, hname, rfl, -⟩
  · rw [lowerHost_of_not_mem hclear]
    exact hmap h
  · rw [isAscii, List.all_append, Bool.and_eq_true] at h
    rw [lowerHost_append_cons hname, isAscii, List.all_append, Bool.and_eq_true]
    exact ⟨hmap h.1, h.2⟩

/-- A host that is ASCII is checked in the form that it has in the end. -/
theorem isClean_of_isAscii {text : List Char} {host : HostText}
    (hascii : isAscii text = true) (h : HostText.read text = .ok host) :
    host.IsClean := by
  rw [HostText.read] at h
  split at h
  next =>
    obtain rfl := Except.ok.inj h
    exact trivial
  next =>
    split at h
    next => cases h
    next hclear =>
      obtain rfl := Except.ok.inj h
      exact Bool.eq_false_iff.mpr hclear

theorem isClean_of_read {url : List Char} {o : Origin} (hascii : isAscii url = true)
    (h : Origin.read url = .ok o) : o.host.IsClean := by
  obtain ⟨-, head, port, hhead, hfrom⟩ := Origin.read_eq_ok_iff.mp h
  obtain ⟨-, -, hfields⟩ := Head.read_eq_ok_iff.mp hhead
  refine isClean_of_isAscii ?_ hfrom.host
  rw [hfields, hostAndPort_fst]
  refine isAscii_lowerHost (List.all_eq_true.mpr fun c hc => ?_)
  have hauth := mem_of_mem_behindLast (mem_of_mem_writtenHost hc)
  exact List.all_eq_true.mp hascii c (mem_of_mem_trim (mem_of_mem_authorityOf hauth))

theorem isAscii_chars {o : Origin} (ho : o.WellFormed) {name : List Char}
    (hname : o.host = .name name) : isAscii o.chars = true := by
  have hhost := ho.host
  rw [hname] at hhost
  cases hhost with
  | name _ ascii =>
      rw [o.chars_eq, hname, isAscii, List.all_eq_true]
      intro c hc
      rw [List.mem_append, List.mem_cons, List.mem_cons, List.mem_cons,
        List.mem_append] at hc
      rcases hc with hscheme | rfl | rfl | rfl | hhost | hport
      · exact isAsciiChar_of_isSchemeChar
          (List.all_eq_true.mp ho.scheme.chars c hscheme)
      · rfl
      · rfl
      · rfl
      · exact (ascii c hhost).1
      · exact isAsciiChar_of_mem_portChars hport

/-- A canonical form is canonical again exactly if the host holds no forbidden
characters, or is a literal.  That of an ASCII text always is. -/
theorem canonicalize_eq_self_iff {url text : String}
    (h : canonicalize url = .ok text) :
    ∃ o : Origin, Origin.read url.toList = .ok o ∧ o.text = text ∧
      (canonicalize text = .ok text ↔ o.host.IsClean) ∧
      (isAscii url.toList = true → o.host.IsClean) := by
  obtain ⟨o, hread, rfl⟩ := map_eq_ok_iff.mp h
  have ho : o.WellFormed := Origin.wellFormed_of_read hread
  refine ⟨o, hread, rfl, ?_, fun hascii => isClean_of_read hascii hread⟩
  rw [canonicalize, Origin.text, String.toList_ofList, map_eq_ok_iff]
  constructor
  · rintro ⟨o', hread', hsame⟩
    have ho' : o'.WellFormed := Origin.wellFormed_of_read hread'
    obtain rfl := ho'.chars_injective ho (String.ofList_injective hsame)
    cases hhost : o'.host with
    | literal => exact trivial
    | name text =>
        rw [← hhost]
        exact isClean_of_read (isAscii_chars ho hhost) hread'
  · intro hclean
    exact ⟨o, Origin.read_chars ho hclean, rfl⟩

/-- A host name that is not ASCII, behind a user name and before the port that
the scheme implies. -/
def museumUrl : String := "HTTPS://user@Mus\u00e9e.example:0443/map"

def museumOrigin : Origin where
  scheme := "https".toList
  host := .name "xn--muse-dpa.example".toList
  port := none

/-- The canonical form of the URL is canonical again. -/
theorem canonicalize_museumUrl :
    canonicalize museumUrl = .ok "https://xn--muse-dpa.example" ∧
      canonicalize "https://xn--muse-dpa.example" =
        .ok "https://xn--muse-dpa.example" := by
  have hmuseum : canonicalize museumUrl = .ok "https://xn--muse-dpa.example" := by
    decide +kernel
  have hread : Origin.read museumUrl.toList = .ok museumOrigin := by
    decide +kernel
  obtain ⟨o, ho, -, hself, -⟩ := canonicalize_eq_self_iff hmuseum
  obtain rfl := Except.ok.inj (hread.symm.trans ho)
  have hclean : museumOrigin.host.IsClean := by
    rw [museumOrigin, HostText.IsClean]
    decide
  exact ⟨hmuseum, hself.mpr hclean⟩

/-- A wide angle bracket becomes an ordinary one, which no name may hold. -/
theorem canonicalize_wideBracket :
    canonicalize "https://\uff1c" = .ok "https://<" ∧
      canonicalize "https://<" = .error .forbiddenCharacter := by
  decide

end FeatureGrant
