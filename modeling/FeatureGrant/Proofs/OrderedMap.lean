import FeatureGrant.OrderedMap

/-!
# Look-ups in ordered maps

What a look-up finds in a map that was made from a list of entries, by changing
every value, or by changing every value with a function that may fail.  A list
of entries stands for its last value of each name.
-/

namespace FeatureGrant.OrderedMap

universe u v

variable {α : Type u} {β : Type u} {ε : Type v}

@[simp] theorem get?_empty (key : String) :
    (∅ : OrderedMap α).get? key = none := rfl

/-- Insertions put the last value of a name in front of the value before
them. -/
theorem get?_foldl_insert
    (entries : List (String × α)) (m : OrderedMap α) (key : String) :
    (entries.foldl (fun acc entry => acc.insert entry.1 entry.2) m).get? key =
      (entries.reverse.lookup key).or (m.get? key) := by
  induction entries generalizing m with
  | nil => simp
  | cons entry rest ih =>
      obtain ⟨name, value⟩ := entry
      rw [List.foldl_cons, ih, get?_insert, List.reverse_cons,
        List.lookup_append, List.lookup_cons, List.lookup_nil, Option.or_assoc]
      by_cases hkey : key = name
      · simp [hkey]
      · have hne : (key == name) = false := beq_eq_false_iff_ne.mpr hkey
        simp [hkey, hne]

theorem get?_ofList (entries : List (String × α)) (key : String) :
    (ofList entries).get? key = entries.reverse.lookup key := by
  rw [ofList, get?_foldl_insert, get?_empty, Option.or_none]

theorem lookup_map (f : α → β) (entries : List (String × α)) (key : String) :
    (entries.map fun entry => (entry.1, f entry.2)).lookup key =
      (entries.lookup key).map f := by
  induction entries with
  | nil => rfl
  | cons entry rest ih =>
      rw [List.map_cons, List.lookup_cons, List.lookup_cons, ih]
      cases key == entry.1
      · rfl
      · rfl

@[simp] theorem get?_map (f : α → β) (m : OrderedMap α) (key : String) :
    (m.map f).get? key = (m.get? key).map f :=
  lookup_map f m.entries key

/-! ## Changes that may fail -/

theorem lookup_of_traverseEntries {f : String → α → Except ε β}
    {entries : List (String × α)} {changed : List (String × β)}
    (hok : traverseEntries f entries = .ok changed) (key : String) :
    (entries.lookup key).map (f key) = (changed.lookup key).map .ok := by
  fun_induction traverseEntries f entries generalizing changed with
  | case1 =>
      obtain rfl := Except.ok.inj hok
      rfl
  | case2 => cases hok
  | case3 => cases hok
  | case4 entry rest value hvalue values hvalues ih =>
      obtain rfl := Except.ok.inj hok
      obtain ⟨name, old⟩ := entry
      by_cases hkey : key = name
      · subst hkey
        rw [List.lookup_cons_self, List.lookup_cons_self]
        exact congrArg some hvalue
      · have hne : (key == name) = false := beq_eq_false_iff_ne.mpr hkey
        simpa only [List.lookup_cons, hne] using ih hvalues

theorem entries_of_traverse {f : String → α → Except ε β}
    {m : OrderedMap α} {n : OrderedMap β} (hok : m.traverse f = .ok n) :
    traverseEntries f m.entries = .ok n.entries := by
  unfold traverse at hok
  split at hok
  next => exact nomatch hok
  next changed hchanged =>
    obtain rfl := Except.ok.inj hok
    exact hchanged

/-- A name without a value has none afterwards. -/
theorem get?_traverse_of_eq_none {f : String → α → Except ε β}
    {m : OrderedMap α} {n : OrderedMap β} (hok : m.traverse f = .ok n)
    {key : String} (hkey : m.get? key = none) : n.get? key = none := by
  have hlookup := lookup_of_traverseEntries (entries_of_traverse hok) key
  rw [get?] at hkey
  rw [hkey] at hlookup
  exact Option.map_eq_none_iff.mp hlookup.symm

/-- A value is changed by the function, which does not fail on it. -/
theorem get?_traverse_of_eq_some {f : String → α → Except ε β}
    {m : OrderedMap α} {n : OrderedMap β} (hok : m.traverse f = .ok n)
    {key : String} {value : α} (hkey : m.get? key = some value) :
    ∃ value', f key value = .ok value' ∧ n.get? key = some value' := by
  have hlookup := lookup_of_traverseEntries (entries_of_traverse hok) key
  rw [get?] at hkey
  rw [hkey] at hlookup
  obtain ⟨value', hget, hvalue⟩ := Option.map_eq_some_iff.mp hlookup.symm
  exact ⟨value', hvalue.symm, hget⟩

theorem traverse_eq_ok {f : String → α → Except ε β} {m : OrderedMap α}
    {n : OrderedMap β} (hok : traverseEntries f m.entries = .ok n.entries) :
    m.traverse f = .ok n := by
  unfold traverse
  split
  next fault hfault => exact nomatch hfault.symm.trans hok
  next changed hchanged =>
    have heq := Except.ok.inj (hchanged.symm.trans hok)
    exact congrArg Except.ok (ext heq)

theorem exists_of_mem_of_traverseEntries {f : String → α → Except ε β}
    {entries : List (String × α)} {changed : List (String × β)}
    (hok : traverseEntries f entries = .ok changed) {entry : String × α}
    (hentry : entry ∈ entries) : ∃ value, f entry.1 entry.2 = .ok value := by
  fun_induction traverseEntries f entries generalizing changed with
  | case1 => cases hentry
  | case2 => cases hok
  | case3 => cases hok
  | case4 first rest value hvalue values hvalues ih =>
      rcases List.mem_cons.mp hentry with rfl | hrest
      · exact ⟨value, hvalue⟩
      · exact ih hvalues hrest

/-- The function does not fail on any entry. -/
theorem exists_of_mem_of_traverse {f : String → α → Except ε β}
    {m : OrderedMap α} {n : OrderedMap β} (hok : m.traverse f = .ok n)
    {entry : String × α} (hentry : entry ∈ m.entries) :
    ∃ value, f entry.1 entry.2 = .ok value :=
  exists_of_mem_of_traverseEntries (entries_of_traverse hok) hentry

theorem traverseEntries_map {f : String → β → Except ε α} {g : α → β}
    (hinverse : ∀ key value, f key (g value) = .ok value)
    (entries : List (String × α)) :
    traverseEntries f (entries.map fun entry => (entry.1, g entry.2)) =
      .ok entries := by
  induction entries with
  | nil => rfl
  | cons entry rest ih =>
      rw [List.map_cons, traverseEntries, hinverse, ih]

/-- A change that undoes another one gives the map back. -/
theorem traverse_map {f : String → β → Except ε α} {g : α → β}
    (hinverse : ∀ key value, f key (g value) = .ok value)
    (m : OrderedMap α) : (m.map g).traverse f = .ok m :=
  traverse_eq_ok (traverseEntries_map hinverse m.entries)

/-! ## Entries -/

theorem mem_insertEntry {key : String} {value : α}
    {entries : List (String × α)} {entry : String × α}
    (hentry : entry ∈ insertEntry key value entries) :
    entry = (key, value) ∨ entry ∈ entries := by
  induction entries with
  | nil => simpa [insertEntry] using hentry
  | cons first rest ih => grind [insertEntry]

theorem mem_entries_insert {m : OrderedMap α} {key : String} {value : α}
    {entry : String × α} (hentry : entry ∈ (m.insert key value).entries) :
    entry = (key, value) ∨ entry ∈ m.entries :=
  mem_insertEntry hentry

theorem mem_entries_foldl_insert {entries : List (String × α)}
    {m : OrderedMap α} {entry : String × α}
    (hentry : entry ∈
      (entries.foldl (fun acc e => acc.insert e.1 e.2) m).entries) :
    entry ∈ entries ∨ entry ∈ m.entries := by
  induction entries generalizing m with
  | nil => exact Or.inr hentry
  | cons first rest ih =>
      rcases ih hentry with hrest | hinsert
      · exact Or.inl (List.mem_cons_of_mem first hrest)
      · rcases mem_entries_insert hinsert with rfl | hm
        · exact Or.inl List.mem_cons_self
        · exact Or.inr hm

theorem mem_of_mem_entries_ofList {entries : List (String × α)}
    {entry : String × α} (hentry : entry ∈ (ofList entries).entries) :
    entry ∈ entries := by
  rcases mem_entries_foldl_insert hentry with h | h
  · exact h
  · exact nomatch h

theorem insertEntry_of_not_mem {key : String} {value : α}
    {entries : List (String × α)} (hkey : key ∉ entries.map Prod.fst) :
    insertEntry key value entries = entries ++ [(key, value)] := by
  induction entries with
  | nil => rfl
  | cons first rest ih =>
      rw [List.map_cons, List.mem_cons, not_or] at hkey
      rw [insertEntry, if_neg (Ne.symm hkey.1), ih hkey.2, List.cons_append]

/-- Entries with different names are inserted as they are. -/
theorem entries_foldl_insert {entries : List (String × α)} {m : OrderedMap α}
    (hnodup : ((m.entries ++ entries).map Prod.fst).Nodup) :
    (entries.foldl (fun acc e => acc.insert e.1 e.2) m).entries =
      m.entries ++ entries := by
  induction entries generalizing m with
  | nil => simp
  | cons first rest ih =>
      have hkey : first.1 ∉ m.entries.map Prod.fst := by
        intro hmem
        rw [List.map_append, List.nodup_append] at hnodup
        exact hnodup.2.2 first.1 hmem first.1 List.mem_cons_self rfl
      have hinsert : (m.insert first.1 first.2).entries = m.entries ++ [first] :=
        insertEntry_of_not_mem hkey
      rw [List.foldl_cons, ih, hinsert, List.append_assoc, List.singleton_append]
      rw [hinsert, List.append_assoc]
      exact hnodup

theorem ofList_entries (m : OrderedMap α) : ofList m.entries = m := by
  apply ext
  exact entries_foldl_insert (m := ∅) m.nodup_keys

end FeatureGrant.OrderedMap
