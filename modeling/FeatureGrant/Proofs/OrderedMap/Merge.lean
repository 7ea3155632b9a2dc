import FeatureGrant.Proofs.OrderedMap
import Mathlib.Data.List.Induction

/-!
# Merging ordered maps

A merge keeps the names in the order of their first appearance and takes the
last value of each.  A map is known by its names in order and its look-ups; so
the map of two lists of entries is the merge of their maps, and a change that
may fail can be made before or after a merge.
-/

namespace FeatureGrant.OrderedMap

universe u v

variable {α : Type u} {β : Type u} {ε : Type v}

/-! ## Names in order -/

theorem eraseDups_of_nodup {names : List String} (hnodup : names.Nodup) :
    names.eraseDups = names := by
  induction names with
  | nil => rfl
  | cons name rest ih =>
      obtain ⟨hname, hrest⟩ := List.nodup_cons.mp hnodup
      have hfilter : rest.filter (fun other => !other == name) = rest := by
        rw [List.filter_eq_self]
        intro other hother
        simp [ne_of_mem_of_not_mem hother hname]
      rw [List.eraseDups_cons, hfilter, ih hrest]

theorem eraseDups_append_singleton (names : List String) (name : String) :
    (names ++ [name]).eraseDups =
      if name ∈ names then names.eraseDups else names.eraseDups ++ [name] := by
  rw [List.eraseDups_append]
  by_cases hname : name ∈ names
  · simp [List.removeAll, hname]
  · simp [List.removeAll, hname, List.eraseDups_cons]

theorem eraseDups_append_congr {a b : List String}
    (hmem : ∀ name, name ∈ a ↔ name ∈ b) (hdups : a.eraseDups = b.eraseDups)
    (c : List String) : (a ++ c).eraseDups = (b ++ c).eraseDups := by
  have hremove : c.removeAll a = c.removeAll b := by
    apply List.filter_congr
    intro name _
    simp [hmem name]
  rw [List.eraseDups_append, List.eraseDups_append, hdups, hremove]

theorem eraseDups_keys (m : OrderedMap α) : m.keys.eraseDups = m.keys :=
  eraseDups_of_nodup m.nodup_keys

theorem keys_insert_eq_eraseDups (m : OrderedMap α) (key : String) (value : α) :
    (m.insert key value).keys = (m.keys ++ [key]).eraseDups := by
  rw [keys_insert, eraseDups_append_singleton, eraseDups_keys]

/-- Insertions add the names that are new, in the order of their first
appearance. -/
theorem keys_foldl_insert (entries : List (String × α)) (m : OrderedMap α) :
    (entries.foldl (fun acc entry => acc.insert entry.1 entry.2) m).keys =
      (m.keys ++ entries.map Prod.fst).eraseDups := by
  induction entries generalizing m with
  | nil =>
      rw [List.map_nil, List.append_nil, eraseDups_keys]
      rfl
  | cons entry rest ih =>
      obtain ⟨key, value⟩ := entry
      have hdups : (m.insert key value).keys.eraseDups =
          (m.keys ++ [key]).eraseDups := by
        rw [eraseDups_keys, keys_insert_eq_eraseDups]
      have hmem (name : String) :
          name ∈ (m.insert key value).keys ↔ name ∈ m.keys ++ [key] := by
        rw [keys_insert_eq_eraseDups, List.mem_eraseDups]
      rw [List.foldl_cons, ih, eraseDups_append_congr hmem hdups,
        List.append_assoc]
      rfl

theorem mem_keys_ofList {entries : List (String × α)} {key : String} :
    key ∈ (ofList entries).keys ↔ ∃ value, (key, value) ∈ entries := by
  have hkeys : (ofList entries).keys = (entries.map Prod.fst).eraseDups :=
    keys_foldl_insert entries ∅
  rw [hkeys, List.mem_eraseDups, List.mem_map]
  constructor
  · rintro ⟨⟨_, value⟩, hmem, rfl⟩
    exact ⟨value, hmem⟩
  · rintro ⟨value, hmem⟩
    exact ⟨_, hmem, rfl⟩

/-! ## Names and look-ups determine a map -/

theorem lookup_eq_none_of_not_mem {entries : List (String × α)} {key : String}
    (hkey : key ∉ entries.map Prod.fst) : entries.lookup key = none := by
  rw [List.lookup_eq_none_iff]
  intro entry hentry
  have hne : key ≠ entry.1 := by
    rintro rfl
    exact hkey (List.mem_map_of_mem hentry)
  exact bne_iff_ne.mpr hne

/-- A change that may fail gives the entries with the same names whose values
it gives one by one. -/
theorem traverseEntries_eq_ok {f : String → α → Except ε β}
    {entries : List (String × α)} {changed : List (String × β)}
    (hnodup : (entries.map Prod.fst).Nodup)
    (hkeys : changed.map Prod.fst = entries.map Prod.fst)
    (hlookup : ∀ key,
      (entries.lookup key).map (f key) = (changed.lookup key).map .ok) :
    traverseEntries f entries = .ok changed := by
  induction entries generalizing changed with
  | nil =>
      rw [List.map_eq_nil_iff.mp hkeys]
      rfl
  | cons entry rest ih =>
      obtain ⟨name, value⟩ := entry
      rw [List.map_cons] at hkeys hnodup
      obtain ⟨⟨name', value'⟩, rest', rfl, rfl, hrest⟩ := List.map_eq_cons_iff.mp hkeys
      obtain ⟨hname, hnodup⟩ := List.nodup_cons.mp hnodup
      have hvalue : f name' value = .ok value' := by
        have h := hlookup name'
        rw [List.lookup_cons_self, List.lookup_cons_self] at h
        exact Option.some.inj h
      have hvalues : traverseEntries f rest = .ok rest' := by
        apply ih hnodup hrest
        intro key
        by_cases hkey : key = name'
        · subst hkey
          have hname' := hname
          rw [← hrest] at hname'
          rw [lookup_eq_none_of_not_mem hname, lookup_eq_none_of_not_mem hname']
          rfl
        · have hne : (key == name') = false := beq_eq_false_iff_ne.mpr hkey
          simpa only [List.lookup_cons, hne] using hlookup key
      rw [traverseEntries, hvalue, hvalues]

theorem traverse_eq_ok_of_get? {f : String → α → Except ε β}
    {m : OrderedMap α} {n : OrderedMap β} (hkeys : n.keys = m.keys)
    (hget : ∀ key, (m.get? key).map (f key) = (n.get? key).map .ok) :
    m.traverse f = .ok n :=
  traverse_eq_ok (traverseEntries_eq_ok m.nodup_keys hkeys hget)

/-- Maps with the same names in the same order and the same values are
equal. -/
theorem ext_get? {m n : OrderedMap α} (hkeys : m.keys = n.keys)
    (hget : ∀ key, m.get? key = n.get? key) : m = n := by
  have hkeep (k : OrderedMap α) (hk : k.keys = m.keys)
      (hlook : ∀ key, m.get? key = k.get? key) :
      m.traverse (fun _ value => (.ok value : Except Unit α)) = .ok k := by
    apply traverse_eq_ok_of_get? hk
    intro key
    rw [hlook key]
  have hm := hkeep m rfl fun _ => rfl
  have hn := hkeep n hkeys.symm hget
  exact Except.ok.inj (hm.symm.trans hn)

theorem keys_of_traverse {f : String → α → Except ε β} {m : OrderedMap α}
    {n : OrderedMap β} (hok : m.traverse f = .ok n) : n.keys = m.keys :=
  map_fst_of_traverseEntries (entries_of_traverse hok)

theorem map_get?_of_traverse {f : String → α → Except ε β} {m : OrderedMap α}
    {n : OrderedMap β} (hok : m.traverse f = .ok n) (key : String) :
    (m.get? key).map (f key) = (n.get? key).map .ok :=
  lookup_of_traverseEntries (entries_of_traverse hok) key

/-! ## Merges -/

theorem keys_merge (m n : OrderedMap α) :
    (m.merge n).keys = (m.keys ++ n.keys).eraseDups :=
  keys_foldl_insert n.entries m

theorem get?_merge (m n : OrderedMap α) (key : String) :
    (m.merge n).get? key = (n.get? key).or (m.get? key) := by
  rw [merge, get?_foldl_insert, ← get?_ofList, ofList_entries]

theorem merge_insert (m n : OrderedMap α) (key : String) (value : α) :
    m.merge (n.insert key value) = (m.merge n).insert key value := by
  apply ext_get?
  · -- A name that `n` has already is in the merge already.
    rw [keys_merge, keys_insert, keys_insert, keys_merge]
    by_cases hkey : key ∈ n.keys
    · simp [hkey]
    · rw [if_neg hkey, ← List.append_assoc, eraseDups_append_singleton]
      simp only [List.mem_eraseDups]
  · intro other
    rw [get?_merge, get?_insert, get?_insert, get?_merge]
    by_cases hother : other = key
    · rw [if_pos hother, if_pos hother, Option.some_or]
    · rw [if_neg hother, if_neg hother]

/-- The map of two lists of entries is the merge of the maps of each. -/
theorem ofList_append (a b : List (String × α)) :
    ofList (a ++ b) = (ofList a).merge (ofList b) := by
  induction b using List.reverseRecOn with
  | nil =>
      rw [List.append_nil]
      rfl
  | append_singleton rest entry ih =>
      have hlast (entries : List (String × α)) :
          ofList (entries ++ [entry]) =
            (ofList entries).insert entry.1 entry.2 := by
        rw [ofList, List.foldl_append]
        rfl
      rw [← List.append_assoc, hlast, ih, hlast, merge_insert]

/-- A change that may fail can be made before a merge. -/
theorem traverse_merge {f : String → α → Except ε β} {m n : OrderedMap α}
    {m' n' : OrderedMap β} (hm : m.traverse f = .ok m')
    (hn : n.traverse f = .ok n') :
    (m.merge n).traverse f = .ok (m'.merge n') := by
  apply traverse_eq_ok_of_get?
  · rw [keys_merge, keys_merge, keys_of_traverse hm, keys_of_traverse hn]
  · intro key
    have hm := map_get?_of_traverse hm key
    have hn := map_get?_of_traverse hn key
    rw [get?_merge, get?_merge, Option.map_or, Option.map_or, hm, hn]

theorem merge_assoc (m n k : OrderedMap α) :
    (m.merge n).merge k = m.merge (n.merge k) := by
  rw [← ofList_entries m, ← ofList_entries n, ← ofList_entries k,
    ← ofList_append, ← ofList_append, ← ofList_append, ← ofList_append,
    List.append_assoc]

/-- The maps of a list merged from left to right. -/
def mergeAll (maps : List (OrderedMap α)) : OrderedMap α :=
  maps.foldl merge ∅

theorem foldl_merge (maps : List (OrderedMap α)) (m : OrderedMap α) :
    maps.foldl merge m = m.merge (mergeAll maps) := by
  induction maps generalizing m with
  | nil => rfl
  | cons n rest ih =>
      have hfirst : (∅ : OrderedMap α).merge n = n := ofList_entries n
      rw [mergeAll, List.foldl_cons, List.foldl_cons, hfirst, ih, ih n,
        merge_assoc]

theorem mergeAll_cons (m : OrderedMap α) (maps : List (OrderedMap α)) :
    mergeAll (m :: maps) = m.merge (mergeAll maps) := by
  have hfirst : (∅ : OrderedMap α).merge m = m := ofList_entries m
  rw [mergeAll, List.foldl_cons, hfirst, foldl_merge]

/-- Entries make the map that is merged from one map for each of them. -/
theorem mergeAll_singletons (entries : List (String × α)) :
    mergeAll (entries.map fun entry => ofList [entry]) = ofList entries := by
  induction entries with
  | nil => rfl
  | cons entry rest ih =>
      rw [List.map_cons, mergeAll_cons, ih, ← ofList_append,
        List.singleton_append]

theorem keys_foldl_merge (maps : List (OrderedMap α)) (m : OrderedMap α) :
    (maps.foldl merge m).keys = (m.keys ++ maps.flatMap keys).eraseDups := by
  induction maps generalizing m with
  | nil =>
      rw [List.flatMap_nil, List.append_nil, eraseDups_keys]
      rfl
  | cons n rest ih =>
      have hdups : (m.merge n).keys.eraseDups = (m.keys ++ n.keys).eraseDups := by
        rw [eraseDups_keys, keys_merge]
      have hmem (name : String) :
          name ∈ (m.merge n).keys ↔ name ∈ m.keys ++ n.keys := by
        rw [keys_merge, List.mem_eraseDups]
      rw [List.foldl_cons, ih, eraseDups_append_congr hmem hdups,
        List.append_assoc, List.flatMap_cons]

/-- The names of merged maps, each where it appears first. -/
theorem keys_mergeAll (maps : List (OrderedMap α)) :
    (mergeAll maps).keys = (maps.flatMap keys).eraseDups :=
  keys_foldl_merge maps ∅

/-- The value of a name in merged maps is the one that it has in the last of
them. -/
theorem get?_mergeAll (maps : List (OrderedMap α)) (key : String) :
    (mergeAll maps).get? key = maps.reverse.findSome? (·.get? key) := by
  induction maps with
  | nil => rfl
  | cons m rest ih =>
      rw [mergeAll_cons, get?_merge, ih, List.reverse_cons,
        List.findSome?_append, List.findSome?_singleton]

end FeatureGrant.OrderedMap
