import FeatureGrant.Proofs.Host.Address
import FeatureGrant.Proofs.Text.LowerCase
import FeatureGrant.Url.Head
import Mathlib.Data.List.TakeWhile

/-!
# Hosts as they are written

The host of a URL stands behind the last `@` of the authority, in brackets or
not.  Lower-casing it does not touch the zone of an address, keeps an address
an address, and brings nothing into it but letters.
-/

namespace FeatureGrant.Url

open FeatureGrant.Host FeatureGrant.Text

/-! ## Separators -/

theorem cut_of_not_mem {c : Char} {s : List Char} (h : c ∉ s) :
    cut c s = (s, none) := by
  have hall : ∀ d ∈ s, (d != c) = true := fun d hd =>
    bne_iff_ne.mpr fun heq => h (heq ▸ hd)
  rw [cut, List.dropWhile_eq_nil_iff.mpr hall]

theorem cut_append_cons {c : Char} {a : List Char} (h : c ∉ a) (b : List Char) :
    cut c (a ++ c :: b) = (a, some b) := by
  have hall : ∀ d ∈ a, (d != c) = true := fun d hd =>
    bne_iff_ne.mpr fun heq => h (heq ▸ hd)
  have hstop : ¬(c != c) = true := Bool.eq_false_iff.mp (bne_self_eq_false c)
  rw [cut, List.dropWhile_append_of_pos hall, List.takeWhile_append_of_pos hall,
    List.dropWhile_cons_of_neg (p := (· != c)) hstop,
    List.takeWhile_cons_of_neg (p := (· != c)) hstop, List.append_nil]

/-- A text is cut at the first separator, if it has one. -/
theorem cut_cases (c : Char) (s : List Char) :
    c ∉ s ∧ cut c s = (s, none) ∨
      ∃ a b, c ∉ a ∧ s = a ++ c :: b ∧ cut c s = (a, some b) := by
  by_cases hc : c ∈ s
  · obtain ⟨a, b, rfl, ha⟩ := List.eq_append_cons_of_mem hc
    exact Or.inr ⟨a, b, ha, rfl, cut_append_cons ha b⟩
  · exact Or.inl ⟨hc, cut_of_not_mem hc⟩

theorem not_mem_cut_fst (c : Char) (s : List Char) : c ∉ (cut c s).1 := by
  rcases cut_cases c s with ⟨h, heq⟩ | ⟨a, b, h, -, heq⟩
  · rw [heq]
    exact h
  · rw [heq]
    exact h

theorem mem_of_mem_cut_fst {c d : Char} {s : List Char} (hd : d ∈ (cut c s).1) :
    d ∈ s := by
  rcases cut_cases c s with ⟨-, heq⟩ | ⟨a, b, -, rfl, heq⟩
  · rw [heq] at hd
    exact hd
  · rw [heq] at hd
    exact List.mem_append_left _ hd

theorem not_mem_behindLast (c : Char) (s : List Char) : c ∉ behindLast c s := by
  intro hc
  have hne := List.mem_takeWhile_imp (List.mem_reverse.mp hc)
  exact bne_iff_ne.mp hne rfl

theorem mem_of_mem_behindLast {c d : Char} {s : List Char}
    (hd : d ∈ behindLast c s) : d ∈ s :=
  List.mem_reverse.mp
    ((List.takeWhile_sublist _).subset (List.mem_reverse.mp hd))

theorem behindLast_of_not_mem {c : Char} {s : List Char} (h : c ∉ s) :
    behindLast c s = s := by
  have hall : ∀ d ∈ s.reverse, (d != c) = true := fun d hd =>
    bne_iff_ne.mpr fun heq => h (heq ▸ List.mem_reverse.mp hd)
  rw [behindLast, List.takeWhile_eq_self_iff.mpr hall, List.reverse_reverse]

/-! ## Hosts in lower case -/

theorem lowerHost_of_not_mem {host : List Char} (h : '%' ∉ host) :
    lowerHost host = lower host := by
  rw [lowerHost, cut_of_not_mem h]
  exact List.append_nil _

theorem lowerHost_append_cons {name : List Char} (h : '%' ∉ name)
    (zone : List Char) : lowerHost (name ++ '%' :: zone) = lower name ++ '%' :: zone := by
  rw [lowerHost, cut_append_cons h]

theorem percent_not_mem_lower {s : List Char} (h : '%' ∉ s) : '%' ∉ lower s := by
  intro hmem
  rcases mem_or_isForm_of_mem_lower hmem with hs | hform
  · exact h hs
  · exact nomatch hform.isLower_of_lt (by decide)

theorem mem_or_isForm_of_mem_lowerHost {c : Char} {host : List Char}
    (hc : c ∈ lowerHost host) : c ∈ host ∨ IsForm c := by
  rcases cut_cases '%' host with ⟨h, -⟩ | ⟨name, zone, h, rfl, -⟩
  · rw [lowerHost_of_not_mem h] at hc
    exact mem_or_isForm_of_mem_lower hc
  · rw [lowerHost_append_cons h, List.mem_append] at hc
    rcases hc with hname | hzone
    · exact (mem_or_isForm_of_mem_lower hname).imp_left (List.mem_append_left _)
    · exact Or.inl (List.mem_append_right name hzone)

/-- Lower-casing a host twice is lower-casing it once. -/
theorem lowerHost_lowerHost (host : List Char) :
    lowerHost (lowerHost host) = lowerHost host := by
  rcases cut_cases '%' host with ⟨h, -⟩ | ⟨name, zone, h, rfl, -⟩
  · rw [lowerHost_of_not_mem h, lowerHost_of_not_mem (percent_not_mem_lower h),
      lower_lower]
  · rw [lowerHost_append_cons h, lowerHost_append_cons (percent_not_mem_lower h),
      lower_lower]

theorem not_mem_lowerHost {c : Char} (hc : c.toNat < 0x80)
    (hletter : c.isLower = false) {host : List Char} (h : c ∉ host) :
    c ∉ lowerHost host := by
  intro hmem
  rcases mem_or_isForm_of_mem_lowerHost hmem with hhost | hform
  · exact h hhost
  · rw [hform.isLower_of_lt hc] at hletter
    exact nomatch hletter

theorem mem_lowerHost_of_mem {c : Char} (hlower : IsLower c) {host : List Char}
    (hc : c ∈ host) : c ∈ lowerHost host := by
  rcases cut_cases '%' host with ⟨h, -⟩ | ⟨name, zone, h, rfl, -⟩
  · rw [lowerHost_of_not_mem h]
    exact mem_lower_of_mem hc hlower
  · rw [lowerHost_append_cons h, List.mem_append]
    exact (List.mem_append.mp hc).imp_left fun hname =>
      mem_lower_of_mem hname hlower

/-! ## Addresses in lower case -/

/-- An ASCII text at the start of a host is lower-cased letter by letter. -/
theorem exists_lowerHost_append {front rest : List Char}
    (hascii : isAscii front = true) (hpercent : '%' ∉ front) (hrest : rest ≠ []) :
    ∃ tail, tail ≠ [] ∧
      lowerHost (front ++ rest) = front.map Char.toLower ++ tail := by
  have hclear {s : List Char} (hs : '%' ∉ s) : '%' ∉ front ++ s := fun hmem =>
    (List.mem_append.mp hmem).elim hpercent hs
  rcases cut_cases '%' rest with ⟨hs, -⟩ | ⟨name, zone, hname, rfl, -⟩
  · refine ⟨lowerAfter front.reverse rest, ?_, ?_⟩
    · exact fun hnil => hrest (lowerAfter_eq_nil_iff.mp hnil)
    · rw [lowerHost_of_not_mem (hclear hs), lower_append hascii]
  · refine ⟨lowerAfter front.reverse name ++ '%' :: zone, ?_, ?_⟩
    · exact List.append_ne_nil_of_right_ne_nil _ (List.cons_ne_nil _ _)
    · rw [← List.append_assoc, lowerHost_append_cons (hclear hname),
        lower_append hascii, List.append_assoc]

theorem isFutureAddress_lowerHost {host : List Char}
    (h : isFutureAddress host = true) : isFutureAddress (lowerHost host) = true := by
  obtain ⟨version, more, rfl, hversion, hdigits, hmore⟩ := isFutureAddress_iff.mp h
  have hmark : ∀ c ∈ 'v' :: (version ++ ['.']),
      isAsciiChar c = true ∧ c ≠ '%' := by
    intro c hc
    rw [List.mem_cons, List.mem_append, List.mem_singleton] at hc
    rcases hc with rfl | hc | rfl
    · decide
    · have hdigit := List.all_eq_true.mp hdigits c hc
      refine ⟨isAsciiChar_of_isHexDigit hdigit, ?_⟩
      rintro rfl
      exact nomatch hdigit
    · decide
  obtain ⟨tail, htail, hlower⟩ := exists_lowerHost_append
    (List.all_eq_true.mpr fun c hc => (hmark c hc).1)
    (fun hmem => (hmark '%' hmem).2 rfl) hmore
  have hsame : 'v' :: (version ++ ['.']) ++ more =
      'v' :: (version ++ '.' :: more) := by
    rw [List.cons_append, List.append_assoc]
    rfl
  have hfront : ('v' :: (version ++ ['.'])).map Char.toLower ++ tail =
      'v' :: (version.map Char.toLower ++ '.' :: tail) := by
    rw [List.map_cons, List.map_append, List.cons_append, List.append_assoc]
    rfl
  rw [hsame, hfront] at hlower
  rw [hlower]
  refine isFutureAddress_iff.mpr ⟨version.map Char.toLower, tail, rfl, ?_, ?_, htail⟩
  · rwa [Ne, List.map_eq_nil_iff]
  · have hdigit : isHexDigit ∘ Char.toLower = isHexDigit := funext isHexDigit_toLower
    rwa [List.all_map, hdigit]

theorem isIp6Groups_lower {s : List Char} (h : isIp6Groups s = true) :
    isIp6Groups (lower s) = true := by
  have hascii : isAscii s = true := by
    rw [isAscii, List.all_eq_true]
    exact fun c hc => isAsciiChar_of_isAddressChar
      (List.all_eq_true.mp (all_isAddressChar_of_isIp6Groups h) c hc)
  rw [lower_eq_map hascii, isIp6Groups_toLower]
  exact h

/-- The lower-case form of an eight-part address is one, and neither a
four-part address nor marked as an address of a future version. -/
theorem isIp6_lowerHost {host : List Char} (h : isIp6 host = true) :
    (lowerHost host).head? ≠ some 'v' ∧ isIp4 (lowerHost host) = false ∧
      isIp6 (lowerHost host) = true := by
  have hgroups {s : List Char} (hs : isIp6Groups s = true) (t : List Char) :
      (s ++ t).head? ≠ some 'v' ∧ isIp4 (s ++ t) = false := by
    have hcolon := colon_mem_of_isIp6Groups hs
    refine ⟨?_, isIp4_eq_false_of_colon_mem (List.mem_append_left t hcolon)⟩
    cases s with
    | nil => exact nomatch hcolon
    | cons c rest =>
        rintro hv
        obtain rfl := Option.some.inj hv
        exact nomatch List.all_eq_true.mp (all_isAddressChar_of_isIp6Groups hs) 'v'
          List.mem_cons_self
  rcases isIp6_iff.mp h with ⟨hhost, h6⟩ | ⟨address, zone, rfl, hclear, hzone, h6, hne⟩
  · have h6 := isIp6Groups_lower h6
    rw [lowerHost_of_not_mem hhost, isIp6_iff]
    have hstart := hgroups h6 []
    rw [List.append_nil] at hstart
    exact ⟨hstart.1, hstart.2, Or.inl ⟨percent_not_mem_lower hhost, h6⟩⟩
  · have h6 := isIp6Groups_lower h6
    rw [lowerHost_append_cons hclear, isIp6_iff]
    have hstart := hgroups h6 ('%' :: zone)
    exact ⟨hstart.1, hstart.2, Or.inr ⟨lower address, zone, rfl,
      percent_not_mem_lower hclear, hzone, h6, hne⟩⟩

theorem checkAddress_eq_ok_iff {host : List Char} :
    checkAddress host = .ok () ↔
      isFutureAddress host = true ∨
        host.head? ≠ some 'v' ∧ isIp4 host = false ∧ isIp6 host = true := by
  have hmark (h : host.head? ≠ some 'v') : isFutureAddress host = false := by
    rw [isFutureAddress]
    rintro rest rfl
    exact h rfl
  rw [checkAddress]
  split
  next hv =>
    rw [beq_iff_eq] at hv
    cases hfuture : isFutureAddress host with
    | true => exact ⟨fun _ => Or.inl rfl, fun _ => rfl⟩
    | false =>
        refine iff_of_false (by rintro ⟨⟩) ?_
        rintro (⟨⟨⟩⟩ | ⟨hne, -⟩)
        exact hne hv
  next hv =>
    have hv : host.head? ≠ some 'v' := fun h => hv (beq_iff_eq.mpr h)
    rw [hmark hv]
    cases isIp4 host with
    | true =>
        refine iff_of_false (by rintro ⟨⟩) ?_
        rintro (⟨⟨⟩⟩ | ⟨-, ⟨⟩, -⟩)
    | false =>
        cases isIp6 host with
        | true => exact ⟨fun _ => Or.inr ⟨hv, rfl, rfl⟩, fun _ => rfl⟩
        | false =>
            refine iff_of_false (by rintro ⟨⟩) ?_
            rintro (⟨⟨⟩⟩ | ⟨-, -, ⟨⟩⟩)

/-- The lower-case form of an address is an address. -/
theorem checkAddress_lowerHost {host : List Char} (h : checkAddress host = .ok ()) :
    checkAddress (lowerHost host) = .ok () := by
  rw [checkAddress_eq_ok_iff] at h ⊢
  rcases h with hfuture | ⟨-, -, hip6⟩
  · exact Or.inl (isFutureAddress_lowerHost hfuture)
  · exact Or.inr (isIp6_lowerHost hip6)

/-! ## The written host -/

/-- A host as it is written: a literal in brackets, or a name. -/
inductive WrittenHost
  | literal (text : List Char)
  | name (text : List Char)
  deriving DecidableEq, Repr

/-- What is written between the brackets or without them. -/
def WrittenHost.text : WrittenHost → List Char
  | literal text | name text => text

/-- The host in an authority, behind any user name. -/
def writtenHost (auth : List Char) : WrittenHost :=
  match cut '[' (behindLast '@' auth) with
  | (_, some inner) => .literal (cut ']' inner).1
  | (_, none) => .name (cut ':' (behindLast '@' auth)).1

theorem hostAndPort_fst (auth : List Char) :
    (hostAndPort auth).1 = (writtenHost auth).text := by
  rw [hostAndPort, writtenHost]
  rcases cut '[' (behindLast '@' auth) with ⟨front, _ | inner⟩ <;> rfl

theorem mem_of_mem_writtenHost {auth : List Char} {c : Char}
    (hc : c ∈ (writtenHost auth).text) : c ∈ behindLast '@' auth := by
  rw [writtenHost] at hc
  rcases cut_cases '[' (behindLast '@' auth) with ⟨-, heq⟩ | ⟨front, inner, -, hplace, heq⟩
  · rw [heq] at hc
    exact mem_of_mem_cut_fst hc
  · rw [heq] at hc
    rw [hplace]
    exact List.mem_append_right front (List.mem_cons_of_mem _ (mem_of_mem_cut_fst hc))

/-- A literal is an address and ends at the first closing bracket, and a name
ends at the first colon. -/
def WrittenHost.IsValid : WrittenHost → Prop
  | literal text => checkAddress text = .ok () ∧ ']' ∉ text
  | name text => ':' ∉ text

theorem isValid_writtenHost {auth : List Char} (h : checkBrackets auth = .ok ()) :
    (writtenHost auth).IsValid := by
  rw [writtenHost]
  rcases cut_cases '[' (behindLast '@' auth) with
    ⟨-, heq⟩ | ⟨front, inner, -, hplace, heq⟩
  · rw [heq]
    exact not_mem_cut_fst ':' _
  · rw [heq]
    refine ⟨?_, not_mem_cut_fst ']' inner⟩
    have hopen : auth.contains '[' = true := by
      rw [List.contains_iff_mem]
      refine mem_of_mem_behindLast (c := '@') ?_
      rw [hplace]
      exact List.mem_append_right front List.mem_cons_self
    rw [checkBrackets, hopen] at h
    cases hclose : auth.contains ']' with
    | false =>
        rw [hclose] at h
        exact nomatch h
    | true =>
        rw [hclose] at h
        dsimp only at h
        rw [heq] at h
        cases front with
        | cons c more => exact nomatch h
        | nil =>
            dsimp only at h
            rcases hinner : cut ']' inner with ⟨host, _ | tail⟩
            · rw [hinner] at h
              exact h
            · rw [hinner] at h
              cases tail with
              | nil => exact h
              | cons c more =>
                  dsimp only at h
                  split at h
                  next => exact h
                  next => exact nomatch h

end FeatureGrant.Url
