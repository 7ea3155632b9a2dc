import FeatureGrant.Proofs.Resolution
import FeatureGrant.Proofs.Result
import FeatureGrant.Schema.Models

/-!
# What checked data came from

A record, once checked, was either held already or has the fields of a map.
What is found in its fields tells which objects a checked record refers to.
-/

namespace FeatureGrant.Schema

variable {α β : Type}

/-! ## Parts -/

theorem both_eq_ok_iff {first : Checked α} {second : Checked β} {a : α} {b : β} :
    both first second = .ok (a, b) ↔ first = .ok a ∧ second = .ok b := by
  cases first with
  | error v =>
      cases second with
      | error w => exact ⟨nofun, fun h => nomatch h.1⟩
      | ok b' => exact ⟨nofun, fun h => nomatch h.1⟩
  | ok a' =>
      cases second with
      | error w => exact ⟨nofun, fun h => nomatch h.2⟩
      | ok b' => simp [both]

theorem under_eq_ok_iff {name : String} {part : Checked α} {a : α} :
    under name part = .ok a ↔ part = .ok a :=
  mapError_eq_ok_iff

theorem mem_of_field?_eq_some {name : String}
    {entries : List (Value × Value)} {v : Value}
    (hfield : field? name entries = some v) : ∃ key, (key, v) ∈ entries := by
  obtain ⟨entry, hentry, rfl⟩ := Option.map_eq_some_iff.mp hfield
  exact ⟨entry.1, List.mem_of_find?_eq_some hentry⟩

theorem required_eq_ok {name : String} {check : Value → Checked α}
    {entries : List (Value × Value)} {a : α}
    (hok : required name check entries = .ok a) :
    ∃ v, field? name entries = some v ∧ check v = .ok a := by
  rw [required, under_eq_ok_iff] at hok
  cases hfield : field? name entries with
  | none =>
      rw [hfield] at hok
      exact nomatch hok
  | some v =>
      rw [hfield] at hok
      exact ⟨v, rfl, hok⟩

theorem optional_eq_ok {name : String} {absent : α} {check : Value → Checked α}
    {entries : List (Value × Value)} {a : α}
    (hok : optional name absent check entries = .ok a) :
    (field? name entries = none ∧ a = absent) ∨
      ∃ v, field? name entries = some v ∧ check v = .ok a := by
  unfold optional at hok
  cases hfield : field? name entries with
  | none =>
      rw [hfield] at hok
      exact Or.inl ⟨rfl, (Except.ok.inj hok).symm⟩
  | some v =>
      rw [hfield] at hok
      exact Or.inr ⟨v, rfl, under_eq_ok_iff.mp hok⟩

theorem eq_of_nonemptyText_text {s t : String}
    (hok : nonemptyText (.text s) = .ok t) : t = s := by
  unfold nonemptyText at hok
  split at hok
  next => exact nomatch hok
  next => exact (Except.ok.inj hok).symm

theorem nonemptyText_text {s : String} (hs : s ≠ "") :
    nonemptyText (.text s) = .ok s := by
  unfold nonemptyText
  split
  next heq => exact absurd (Except.ok.inj heq) hs
  next => rfl

/-! ## Records -/

variable {known : Registry}

theorem entriesOf_eq_ok_iff {model : String} {v : Value}
    {entries : List (Value × Value)} :
    entriesOf known model v = .ok entries ↔ known.entries? v = some entries := by
  unfold entriesOf
  cases known.entries? v with
  | none => exact ⟨nofun, nofun⟩
  | some found => simp

/-- A described frame is one that is held, or it is read from a map. -/
theorem frameInfo_eq_ok {v : Value} {info : FrameInfo Held}
    (hok : frameInfo known v = .ok info) :
    known.instance? v = .frameInfo info ∨
      ∃ entries, known.entries? v = some entries ∧
        required "origin" nonemptyText entries = .ok info.origin ∧
        optional "allow" (.text "") (allowSource known) entries =
          .ok info.allow := by
  unfold frameInfo at hok
  split at hok
  next value hvalue =>
    obtain rfl := Except.ok.inj hok
    exact Or.inl hvalue
  next =>
    simp only [bind_eq_ok_iff, entriesOf_eq_ok_iff] at hok
    obtain ⟨entries, hentries, ⟨⟨origin, allow⟩, ⟨⟩⟩, hfields, hinfo⟩ := hok
    obtain rfl := Except.ok.inj hinfo
    obtain ⟨hrecord, -⟩ := both_eq_ok_iff.mp hfields
    exact Or.inr ⟨entries, hentries, both_eq_ok_iff.mp hrecord⟩

theorem heldMap_eq_ok {form : Form} {v : Value} {held : Held}
    (hok : heldMap known form v = .ok held) :
    (∃ m, known.instance? v = .policyMap m ∧ held = .shared (numberOf v) m) ∨
      ∃ m, held = .fresh m := by
  unfold heldMap at hok
  split at hok
  next m hm =>
    split at hok
    · exact Or.inl ⟨m, hm, (Except.ok.inj hok).symm⟩
    · exact nomatch hok
  next =>
    obtain ⟨grants, -, rfl⟩ := map_eq_ok_iff.mp hok
    exact Or.inr ⟨_, rfl⟩

/-- A policy map is one that is held, or it is new. -/
theorem policyMap_eq_ok {form : Form} {v : Value} {held : Held}
    (hok : policyMap known form v = .ok held) :
    (∃ m, known.instance? v = .policyMap m ∧ held = .shared (numberOf v) m) ∨
      ∃ m, held = .fresh m := by
  rw [policyMap, bind_eq_ok_iff] at hok
  obtain ⟨found, hfound, hok⟩ := hok
  have hsame : found = held := by
    cases form with
    | parsed => exact Except.ok.inj hok
    | normalized =>
        obtain ⟨-, -, hok⟩ := bind_eq_ok_iff.mp hok
        exact Except.ok.inj hok
  exact hsame ▸ heldMap_eq_ok hfound

theorem allowSource_eq_ok {v : Value} {held : Held}
    (hok : allowSource known v = .ok (.map held)) :
    ∃ form, policyMap known form v = .ok held := by
  unfold allowSource at hok
  split at hok
  next => exact nomatch hok
  next =>
    split at hok
    next m hm =>
      obtain rfl := Source.map.inj (Except.ok.inj hok)
      exact ⟨.parsed, hm⟩
    next =>
      split at hok
      next m hm =>
        obtain rfl := Source.map.inj (Except.ok.inj hok)
        exact ⟨.normalized, hm⟩
      next => exact nomatch hok

theorem policyMap_object {n : Nat} {m : PolicyMap}
    (hm : known n = .policyMap m) (hvalid : m.IsValid) (label : String) :
    policyMap known m.form (.object n label) = .ok (.shared n m) := by
  have hheld : heldMap known m.form (.object n label) = .ok (.shared n m) := by
    simp only [heldMap, Registry.instance?, hm, if_true, numberOf]
  rw [policyMap, bind_eq_ok_iff]
  refine ⟨.shared n m, hheld, ?_⟩
  obtain ⟨form, grants⟩ := m
  cases form with
  | parsed => rfl
  | normalized =>
      have hresolved : resolved grants = .ok () := by
        rw [resolved, hvalid rfl]
      exact bind_eq_ok_iff.mpr ⟨(), hresolved, rfl⟩

/-- A map that is held is taken as it is if it may be used. -/
theorem allowSource_object {n : Nat} {m : PolicyMap}
    (hm : known n = .policyMap m) (hvalid : m.IsValid) (label : String) :
    allowSource known (.object n label) = .ok (.map (.shared n m)) := by
  have hmap := policyMap_object hm hvalid label
  obtain ⟨form, grants⟩ := m
  unfold allowSource
  cases form with
  | parsed => simp only [text, flawed, hmap]
  | normalized =>
      have hother : heldMap known .parsed (.object n label) =
          flawed (.notRecord Form.parsed.name) := by
        simp [heldMap, Registry.instance?, hm]
      have hparsed : policyMap known .parsed (.object n label) =
          flawed (.notRecord Form.parsed.name) := by
        rw [policyMap, hother]
        rfl
      simp only [text, hparsed, flawed, hmap]

/-- A frame that is described by a URL and a usable attribute is read. -/
theorem frameInfo_map {url : String} {allow : Value} {source : Source Held}
    (hurl : url ≠ "") (hallow : allowSource known allow = .ok source) :
    frameInfo known
        (.map [(.text "origin", .text url), (.text "allow", allow)]) =
      .ok { origin := url, allow := source } := by
  let entries : List (Value × Value) :=
    [(.text "origin", .text url), (.text "allow", allow)]
  have horigin : required "origin" nonemptyText entries = .ok url :=
    under_eq_ok_iff.mpr (nonemptyText_text hurl)
  have hsource :
      optional "allow" (.text "") (allowSource known) entries = .ok source :=
    under_eq_ok_iff.mpr hallow
  have hfields := both_eq_ok_iff.mpr
    ⟨both_eq_ok_iff.mpr ⟨horigin, hsource⟩,
      show extras ["origin", "allow"] entries = .ok () from rfl⟩
  exact bind_eq_ok_iff.mpr
    ⟨entries, rfl, bind_eq_ok_iff.mpr ⟨_, hfields, rfl⟩⟩

/-- A resolved frame is one that is held, or it is read from a map. -/
theorem frameContext_eq_ok {v : Value} {origin : String} {allow : Held}
    (hok : frameContext known v = .ok (origin, allow)) :
    known.instance? v = .frameContext origin allow ∨
      ∃ entries, known.entries? v = some entries ∧
        optional "allow" (.fresh { form := .normalized, grants := ∅ })
          (policyMap known .normalized) entries = .ok allow := by
  unfold frameContext at hok
  split at hok
  next origin' allow' hvalue =>
    obtain ⟨rfl, rfl⟩ := Prod.mk.inj (Except.ok.inj hok)
    exact Or.inl hvalue
  next =>
    simp only [bind_eq_ok_iff, entriesOf_eq_ok_iff] at hok
    obtain ⟨entries, hentries, ⟨context, ⟨⟩⟩, hfields, hcontext⟩ := hok
    obtain rfl := Except.ok.inj hcontext
    obtain ⟨hrecord, -⟩ := both_eq_ok_iff.mp hfields
    exact Or.inr ⟨entries, hentries, (both_eq_ok_iff.mp hrecord).2⟩

/-- A scenario is one that is held, or it is read from a map. -/
theorem scenario_eq_ok {v : Value} {c : Scenario Held}
    (hok : scenario known v = .ok c) :
    known.instance? v = .scenario c ∨
      ∃ entries, known.entries? v = some entries ∧
        optional "frame" none (nullable (frameInfo known)) entries =
          .ok c.frame := by
  unfold scenario at hok
  split at hok
  next value hvalue =>
    obtain rfl := Except.ok.inj hok
    exact Or.inl hvalue
  next =>
    simp only [bind_eq_ok_iff, entriesOf_eq_ok_iff] at hok
    obtain ⟨entries, hentries, ⟨⟨⟨⟨origin, header⟩, defaults⟩, frame⟩, ⟨⟩⟩,
      hfields, hscenario⟩ := hok
    obtain rfl := Except.ok.inj hscenario
    obtain ⟨hrecord, -⟩ := both_eq_ok_iff.mp hfields
    exact Or.inr ⟨entries, hentries, (both_eq_ok_iff.mp hrecord).2⟩

end FeatureGrant.Schema
