/-!
# Ordered maps

Maps from names to values that remember the order of insertion: a name keeps
the place of its first insertion and takes the value of its last.  Main
statements: what an insertion does to the keys and to every look-up.
-/

namespace FeatureGrant

universe u v

variable {α : Type u} {β : Type v}

/-- Sets one entry: in place if the key is there, else at the end. -/
def insertEntry (key : String) (value : α) :
    List (String × α) → List (String × α)
  | [] => [(key, value)]
  | entry :: rest =>
    if entry.1 = key then (key, value) :: rest
    else entry :: insertEntry key value rest

/-- Inserting keeps the keys if the key is there, else it adds one. -/
theorem map_fst_insertEntry (key : String) (value : α)
    (entries : List (String × α)) :
    (insertEntry key value entries).map Prod.fst =
      if key ∈ entries.map Prod.fst then entries.map Prod.fst
      else entries.map Prod.fst ++ [key] := by
  induction entries with
  | nil => simp [insertEntry]
  | cons entry rest ih => grind [insertEntry]

/-- A map from names to values that remembers the order of insertion. -/
structure OrderedMap (α : Type u) where
  entries : List (String × α)
  nodup_keys : (entries.map Prod.fst).Nodup

namespace OrderedMap

/-- The map without entries. -/
def empty : OrderedMap α := ⟨[], by simp⟩

instance : EmptyCollection (OrderedMap α) := ⟨empty⟩
instance : Inhabited (OrderedMap α) := ⟨empty⟩

/-- Two maps with the same entries in the same order are equal. -/
theorem ext {m n : OrderedMap α} (hentries : m.entries = n.entries) : m = n := by
  cases m; cases n; simpa using hentries

instance [DecidableEq α] : DecidableEq (OrderedMap α) := fun m n =>
  decidable_of_iff (m.entries = n.entries) ⟨ext, fun h => h ▸ rfl⟩

/-- The names in order. -/
def keys (m : OrderedMap α) : List String := m.entries.map Prod.fst

/-- The value of a name. -/
def get? (m : OrderedMap α) (key : String) : Option α := m.entries.lookup key

/-- Whether a name has a value. -/
def contains (m : OrderedMap α) (key : String) : Bool := (m.get? key).isSome

/-- Sets the value of a name, which keeps its place. -/
def insert (m : OrderedMap α) (key : String) (value : α) : OrderedMap α where
  entries := insertEntry key value m.entries
  nodup_keys := by
    rw [map_fst_insertEntry]
    have hnodup := m.nodup_keys
    grind

/-- Inserts the entries of `n` one by one into `m`. -/
def merge (m n : OrderedMap α) : OrderedMap α :=
  n.entries.foldl (fun acc entry => acc.insert entry.1 entry.2) m

/-- The map of entries inserted one by one. -/
def ofList (entries : List (String × α)) : OrderedMap α :=
  entries.foldl (fun acc entry => acc.insert entry.1 entry.2) ∅

/-- Changes every value. -/
def map (f : α → β) (m : OrderedMap α) : OrderedMap β where
  entries := m.entries.map fun entry => (entry.1, f entry.2)
  nodup_keys := by simpa [Function.comp_def] using m.nodup_keys

/-- Changes every value of a list of entries, or fails with the first fault. -/
def traverseEntries {ε : Type v} {β : Type u} (f : String → α → Except ε β) :
    List (String × α) → Except ε (List (String × β))
  | [] => .ok []
  | entry :: rest =>
    match f entry.1 entry.2 with
    | .error fault => .error fault
    | .ok value =>
      match traverseEntries f rest with
      | .error fault => .error fault
      | .ok values => .ok ((entry.1, value) :: values)

theorem map_fst_of_traverseEntries {ε : Type v} {β : Type u}
    {f : String → α → Except ε β} {entries : List (String × α)}
    {changed : List (String × β)} (hok : traverseEntries f entries = .ok changed) :
    changed.map Prod.fst = entries.map Prod.fst := by
  fun_induction traverseEntries f entries generalizing changed with
  | case1 => grind
  | case2 => simp at hok
  | case3 => simp at hok
  | case4 entry rest value hvalue values hvalues ih => grind

/-- Changes every value, or fails with the first fault. -/
def traverse {ε : Type v} {β : Type u} (f : String → α → Except ε β)
    (m : OrderedMap α) : Except ε (OrderedMap β) :=
  match h : traverseEntries f m.entries with
  | .error fault => .error fault
  | .ok changed =>
    .ok ⟨changed, by rw [map_fst_of_traverseEntries h]; exact m.nodup_keys⟩

/-- The same entries in any order. -/
def sameEntries [BEq α] (m n : OrderedMap α) : Bool :=
  m.entries.length == n.entries.length
    && m.entries.all fun entry => n.get? entry.1 == some entry.2

/-- Inserting keeps the keys if the key is there, else it adds one. -/
theorem keys_insert (m : OrderedMap α) (key : String) (value : α) :
    (m.insert key value).keys =
      if key ∈ m.keys then m.keys else m.keys ++ [key] :=
  map_fst_insertEntry key value m.entries

/-- An insertion changes the value of its own key only. -/
theorem get?_insert (m : OrderedMap α) (key other : String) (value : α) :
    (m.insert key value).get? other =
      if other = key then some value else m.get? other := by
  simp only [get?, insert]
  induction m.entries with
  | nil => simp [insertEntry, List.lookup_cons]; grind
  | cons entry rest ih => grind [insertEntry]

@[simp] theorem keys_map (f : α → β) (m : OrderedMap α) :
    (m.map f).keys = m.keys := by
  simp [keys, map, Function.comp_def]

end OrderedMap

end FeatureGrant
