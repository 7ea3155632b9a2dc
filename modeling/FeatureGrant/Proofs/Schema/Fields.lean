import FeatureGrant.Proofs.OrderedMap.Traverse
import FeatureGrant.Proofs.Schema

/-!
# Records field by field

A map is a record of some model exactly if each of its fields is.  So the other
fields of a record are what is left without one, and they decide nothing about
it.
-/

namespace FeatureGrant.Schema

variable {α : Type} {known : Registry} {entries : List (Value × Value)}

/-! ## Leaving out a field -/

/-- The entries of a record without those of a field. -/
def without (name : String) (entries : List (Value × Value)) :
    List (Value × Value) :=
  entries.filter fun entry => match entry.1 with
    | .text key => key != name
    | _ => true

theorem field?_without_self (name : String) (entries : List (Value × Value)) :
    field? name (without name entries) = none := by
  rw [field?, Option.map_eq_none_iff, List.find?_eq_none]
  rintro ⟨key, v⟩ hentry
  have hkept := (List.mem_filter.mp hentry).2
  cases key with
  | text key => simpa using hkept
  | _ => simp

theorem field?_without_of_ne {name other : String} (hne : other ≠ name)
    (entries : List (Value × Value)) :
    field? other (without name entries) = field? other entries := by
  rw [field?, field?, without, List.find?_filter]
  congr 2
  funext ⟨key, v⟩
  cases key with
  | text key =>
      by_cases hkey : key = other
      · simp [hkey, hne]
      · simp [hkey]
  | _ => simp

theorem extras_without {names : List String} {name : String}
    (hname : name ∈ names) (entries : List (Value × Value)) :
    extras names (without name entries) = extras names entries := by
  unfold extras
  rw [without, List.filterMap_filter]
  congr 2
  funext ⟨key, v⟩
  cases key with
  | text key =>
      by_cases hkey : key = name
      · simp [hkey, hname]
      · simp [hkey]
  | _ => simp

theorem required_congr {name : String} {check : Value → Checked α}
    {entries entries' : List (Value × Value)}
    (hfield : field? name entries' = field? name entries) :
    required name check entries' = required name check entries := by
  rw [required, required, hfield]

theorem optional_congr {name : String} {absent : α} {check : Value → Checked α}
    {entries entries' : List (Value × Value)}
    (hfield : field? name entries' = field? name entries) :
    optional name absent check entries' = optional name absent check entries := by
  rw [optional, optional, hfield]

/-! ## Maps -/

theorem sequence_eq_ok_iff {parts : List (Checked α)} {as : List α} :
    sequence parts = .ok as ↔
      List.Forall₂ (fun part a => part = .ok a) parts as := by
  induction parts generalizing as with
  | nil => simp [sequence, eq_comm]
  | cons part rest ih =>
      rw [sequence, map_eq_ok_iff]
      constructor
      · rintro ⟨⟨a, as⟩, hboth, rfl⟩
        obtain ⟨hpart, hrest⟩ := both_eq_ok_iff.mp hboth
        exact .cons hpart (ih.mp hrest)
      · intro hparts
        cases hparts with
        | cons hpart hrest =>
            exact ⟨_, both_eq_ok_iff.mpr ⟨hpart, ih.mpr hrest⟩, rfl⟩

/-- The entries of a map from texts are checked one by one. -/
theorem mapOf_eq_ok_iff {check : Value → Checked α} {values : OrderedMap Value}
    {m : OrderedMap α} :
    mapOf check (values.entries.map fun entry => (.text entry.1, entry.2)) =
        .ok m ↔
      List.Forall₂ (fun entry c => entry.1 = c.1 ∧ check entry.2 = .ok c.2)
        values.entries m.entries := by
  let part (entry : String × Value) : Checked (String × α) :=
    both (atStep (.name entry.1) (under "[key]" (text (.text entry.1))))
      (atStep (.name entry.1) (check entry.2))
  have hpart (entry : String × Value) (c : String × α) :
      part entry = .ok c ↔ entry.1 = c.1 ∧ check entry.2 = .ok c.2 := by
    obtain ⟨name, a⟩ := c
    simp only [part, both_eq_ok_iff, atStep, under, mapError_eq_ok_iff, text,
      Except.ok.injEq]
  have hparts (checked : List (String × α)) :
      sequence (values.entries.map part) = .ok checked ↔
        List.Forall₂ (fun entry c => entry.1 = c.1 ∧ check entry.2 = .ok c.2)
          values.entries checked := by
    rw [sequence_eq_ok_iff, List.forall₂_map_left_iff]
    simp only [hpart]
  have hmap : mapOf check
      (values.entries.map fun entry => (.text entry.1, entry.2)) =
        (sequence (values.entries.map part)).map OrderedMap.ofList := by
    rw [mapOf, List.map_map]
    rfl
  rw [hmap, map_eq_ok_iff]
  constructor
  · rintro ⟨checked, hchecked, rfl⟩
    have hentries := (hparts checked).mp hchecked
    have hkeys : checked.map Prod.fst = values.keys := by
      rw [OrderedMap.keys, ← List.forall₂_eq_eq_eq, List.forall₂_map_left_iff,
        List.forall₂_map_right_iff]
      exact hentries.flip.imp fun _ _ h => h.1.symm
    have hsame := OrderedMap.ofList_entries
      { entries := checked, nodup_keys := hkeys ▸ values.nodup_keys }
    rw [hsame]
    exact hentries
  · intro hentries
    exact ⟨m.entries, (hparts m.entries).mpr hentries, m.ofList_entries⟩

/-! ## Records -/

/-- A scenario has each of its fields, and no other. -/
theorem scenario_map_eq_ok_iff {s : Scenario Held} :
    scenario known (.map entries) = .ok s ↔
      required "origin" nonemptyText entries = .ok s.origin ∧
        optional "header" "" text entries = .ok s.header ∧
        optional "default_allowlist" ∅ (mapField known default) entries =
          .ok s.defaults ∧
        optional "frame" none (nullable (frameInfo known)) entries =
          .ok s.frame ∧
        extras ["origin", "header", "default_allowlist", "frame"] entries =
          .ok () := by
  have hentries : entriesOf known "PolicyConfig" (.map entries) = .ok entries :=
    rfl
  simp only [scenario, Registry.instance?, bind_eq_ok_iff, hentries,
    Except.ok.injEq, exists_eq_left']
  constructor
  · rintro ⟨⟨⟨⟨⟨origin, header⟩, defaults⟩, frame⟩, ⟨⟩⟩, hfields, rfl⟩
    simp only [both_eq_ok_iff] at hfields
    obtain ⟨⟨⟨⟨horigin, hheader⟩, hdefaults⟩, hframe⟩, hextras⟩ := hfields
    exact ⟨horigin, hheader, hdefaults, hframe, hextras⟩
  · rintro ⟨horigin, hheader, hdefaults, hframe, hextras⟩
    refine ⟨((((s.origin, s.header), s.defaults), s.frame), ()), ?_, rfl⟩
    simp only [both_eq_ok_iff]
    exact ⟨⟨⟨⟨horigin, hheader⟩, hdefaults⟩, hframe⟩, hextras⟩

/-- A frame with a usable allow attribute has a URL and no other field. -/
theorem frameInfo_map_eq {source : Source Held}
    (hallow : optional "allow" (.text "") (allowSource known) entries =
      .ok source) :
    frameInfo known (.map entries) =
      (both (required "origin" nonemptyText entries)
        (extras ["origin", "allow"] entries)).map fun fields =>
          { origin := fields.1, allow := source } := by
  have hfields : frameInfo known (.map entries) =
      both
        (both (required "origin" nonemptyText entries)
          (optional "allow" (.text "") (allowSource known) entries))
        (extras ["origin", "allow"] entries) >>= fun fields =>
          .ok { origin := fields.1.1, allow := fields.1.2 } := rfl
  rw [hfields, hallow]
  cases required "origin" nonemptyText entries with
  | error violations =>
      cases extras ["origin", "allow"] entries with
      | error more => rfl
      | ok => rfl
  | ok url =>
      cases extras ["origin", "allow"] entries with
      | error more => rfl
      | ok => rfl

end FeatureGrant.Schema
