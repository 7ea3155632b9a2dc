import FeatureGrant.Proofs.Result
import FeatureGrant.Session.State

/-!
# Objects in values

A value may refer to objects by their numbers.  A literal value refers to none,
as all data that is written down: it can only name objects, so once its
references are replaced it refers to nothing but what has a name.
-/

namespace FeatureGrant

namespace Value

mutual

/-- The numbers of the objects in a value. -/
def objects : Value → List Nat
  | .list items | .set items => objectsOfAll items
  | .pair first second => first.objects ++ second.objects
  | .map entries => objectsOfEntries entries
  | .object number _ => [number]
  | _ => []

/-- The numbers of the objects in the items of a list. -/
def objectsOfAll : List Value → List Nat
  | [] => []
  | v :: rest => v.objects ++ objectsOfAll rest

/-- The numbers of the objects in the entries of a map. -/
def objectsOfEntries : List (Value × Value) → List Nat
  | [] => []
  | (key, v) :: rest => key.objects ++ v.objects ++ objectsOfEntries rest

end

/-- A value without objects. -/
def Literal (v : Value) : Prop := v.objects = []

instance (v : Value) : Decidable v.Literal :=
  inferInstanceAs (Decidable (v.objects = []))

theorem mem_objectsOfEntries_iff {entries : List (Value × Value)} {n : Nat} :
    n ∈ objectsOfEntries entries ↔
      ∃ entry ∈ entries, n ∈ entry.1.objects ∨ n ∈ entry.2.objects := by
  induction entries with
  | nil => simp [objectsOfEntries]
  | cons entry rest ih =>
      simp [objectsOfEntries, ih, or_assoc]

theorem objects_mapping_text (entries : List (String × String)) :
    objects (.map (entries.map fun entry => (.text entry.1, .text entry.2))) =
      [] := by
  induction entries with
  | nil => rfl
  | cons entry rest ih => exact ih

end Value

namespace Session.State

/-- Whether a number has a name. -/
def Names (s : State) (n : Nat) : Prop :=
  ∃ name, s.names.get? name = some (.object n)

theorem lookup_eq_ok_iff {s : State} {name : String} {ref : Ref} :
    s.lookup name = .ok ref ↔ s.names.get? name = some ref := by
  unfold lookup
  cases s.names.get? name with
  | none => exact ⟨nofun, nofun⟩
  | some found => simp

theorem eq_object_of_mem_objects_valueOf {s : State} {ref : Ref} {n : Nat}
    (hn : n ∈ (s.valueOf ref).objects) : ref = .object n := by
  cases ref with
  | object number => rw [List.mem_singleton.mp hn]
  | originOf number => exact nomatch hn
  | defaultsOf number =>
      have hempty := Value.objects_mapping_text
        ((s.defaultsAt number).entries.map fun entry => (entry.1, entry.2.text))
      rw [List.map_map] at hempty
      rw [valueOf] at hn
      exact absurd (hempty ▸ hn) List.not_mem_nil
  | flag b => exact nomatch hn
  | nothing => exact nomatch hn

/-- A literal value refers to named objects only, once it is resolved. -/
theorem names_of_mem_objects_resolve {s : State} {v w : Value}
    (hv : v.Literal) (hok : s.resolve v = .ok w) {n : Nat}
    (hn : n ∈ w.objects) : s.Names n := by
  induction v using fun claim => State.resolve.induct claim
    (fun items => ∀ items', Value.objectsOfAll items = [] →
      s.resolveAll items = .ok items' →
        n ∈ Value.objectsOfAll items' → s.Names n)
    (fun entries => ∀ entries', Value.objectsOfEntries entries = [] →
      s.resolveEntries entries = .ok entries' →
        n ∈ Value.objectsOfEntries entries' → s.Names n) generalizing w with
  | case1 name =>
      obtain ⟨ref, hlookup, rfl⟩ := map_eq_ok_iff.mp hok
      obtain rfl := eq_object_of_mem_objects_valueOf hn
      exact ⟨name, lookup_eq_ok_iff.mp hlookup⟩
  | case2 entries hmap ih =>
      rw [resolve] at hok
      · obtain ⟨entries', hentries, rfl⟩ := map_eq_ok_iff.mp hok
        exact ih entries' hv hentries hn
      · exact hmap
  | case3 items ih =>
      obtain ⟨items', hitems, rfl⟩ := map_eq_ok_iff.mp hok
      exact ih items' hv hitems hn
  | case4 v href hmap hlist =>
      rw [resolve] at hok
      · obtain rfl := Except.ok.inj hok
        exact absurd (hv ▸ hn) List.not_mem_nil
      · exact href
      · exact hmap
      · exact hlist
  | case5 items' hempty hresolve hmem =>
      obtain rfl := Except.ok.inj hresolve
      exact nomatch hmem
  | case6 v rest ihv ihrest items' hempty hresolve hmem =>
      simp only [resolveAll, bind_eq_ok_iff] at hresolve
      obtain ⟨v', hv', rest', hrest', heq⟩ := hresolve
      obtain rfl := Except.ok.inj heq
      obtain ⟨hvalue, hothers⟩ := List.append_eq_nil_iff.mp hempty
      rcases List.mem_append.mp hmem with hmem | hmem
      · exact ihv hvalue hv' hmem
      · exact ihrest rest' hothers hrest' hmem
  | case7 entries' hempty hresolve hmem =>
      obtain rfl := Except.ok.inj hresolve
      exact nomatch hmem
  | case8 key v rest ihv ihrest entries' hempty hresolve hmem =>
      simp only [resolveEntries, bind_eq_ok_iff] at hresolve
      obtain ⟨v', hv', rest', hrest', heq⟩ := hresolve
      obtain rfl := Except.ok.inj heq
      rw [Value.objectsOfEntries, List.append_eq_nil_iff,
        List.append_eq_nil_iff] at hempty
      obtain ⟨⟨hkey, hvalue⟩, hothers⟩ := hempty
      rw [Value.objectsOfEntries, hkey, List.nil_append] at hmem
      rcases List.mem_append.mp hmem with hmem | hmem
      · exact ihv hvalue hv' hmem
      · exact ihrest rest' hothers hrest' hmem

end Session.State

end FeatureGrant
