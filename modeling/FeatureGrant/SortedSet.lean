/-!
# Sorted sets

Finite sets of texts in ascending order, so that equal sets are equal values
and have one way of being written.  Main statements: membership after an
insertion and in the set of a list.
-/

namespace FeatureGrant

/-- Inserts a text into ascending texts. -/
def insertAscending (s : String) : List String → List String
  | [] => [s]
  | t :: rest =>
    if s < t then s :: t :: rest
    else if s = t then t :: rest
    else t :: insertAscending s rest

/-- Inserting adds one member. -/
theorem mem_insertAscending {s x : String} {members : List String} :
    x ∈ insertAscending s members ↔ x = s ∨ x ∈ members := by
  induction members with
  | nil => simp [insertAscending]
  | cons t rest ih => grind [insertAscending]

/-- Inserting keeps the order. -/
theorem pairwise_insertAscending (s : String) {members : List String}
    (hmembers : members.Pairwise (· < ·)) :
    (insertAscending s members).Pairwise (· < ·) := by
  induction members with
  | nil => simp [insertAscending]
  | cons t rest ih =>
    obtain ⟨hfirst, hrest⟩ := List.pairwise_cons.1 hmembers
    rw [insertAscending]
    split
    next hlt =>
      refine List.pairwise_cons.2 ⟨fun x hx => ?_, hmembers⟩
      rcases List.mem_cons.1 hx with rfl | hx
      · exact hlt
      · exact String.lt_trans hlt (hfirst x hx)
    next hlt =>
      split
      next => exact hmembers
      next hne =>
        refine List.pairwise_cons.2 ⟨fun x hx => ?_, ih hrest⟩
        rcases mem_insertAscending.1 hx with rfl | hx
        · refine Decidable.byContradiction fun hle => hne ?_
          exact String.le_antisymm (String.not_lt.1 hle) (String.not_lt.1 hlt)
        · exact hfirst x hx

/-- A finite set of texts, in ascending order. -/
structure SortedSet where
  toList : List String
  ascending : toList.Pairwise (· < ·)

namespace SortedSet

/-- The set without members. -/
def empty : SortedSet := ⟨[], .nil⟩

instance : EmptyCollection SortedSet := ⟨empty⟩

/-- Two sets listed alike are equal. -/
theorem ext {a b : SortedSet} (hlist : a.toList = b.toList) : a = b := by
  cases a; cases b; simpa using hlist

instance : DecidableEq SortedSet := fun a b =>
  decidable_of_iff (a.toList = b.toList) ⟨ext, fun h => h ▸ rfl⟩

instance : Membership String SortedSet := ⟨fun s x => x ∈ s.toList⟩

instance (x : String) (s : SortedSet) : Decidable (x ∈ s) :=
  inferInstanceAs (Decidable (x ∈ s.toList))

/-- Adds a member. -/
def insert (s : SortedSet) (x : String) : SortedSet :=
  ⟨insertAscending x s.toList, pairwise_insertAscending x s.ascending⟩

/-- Takes a member away. -/
def erase (s : SortedSet) (x : String) : SortedSet :=
  ⟨s.toList.filter (· != x), s.ascending.filter _⟩

/-- The set of the members of a list. -/
def ofList (members : List String) : SortedSet :=
  members.foldr (fun x s => s.insert x) ∅

/-- Whether the set has no members. -/
def isEmpty (s : SortedSet) : Bool := s.toList.isEmpty

/-- The members are those of the list. -/
theorem mem_iff {x : String} {s : SortedSet} : x ∈ s ↔ x ∈ s.toList := Iff.rfl

@[simp] theorem not_mem_empty (x : String) : ¬ x ∈ (∅ : SortedSet) :=
  List.not_mem_nil

@[simp] theorem mem_insert {x y : String} {s : SortedSet} :
    y ∈ s.insert x ↔ y = x ∨ y ∈ s :=
  mem_insertAscending

@[simp] theorem mem_erase {x y : String} {s : SortedSet} :
    y ∈ s.erase x ↔ y ∈ s ∧ y ≠ x :=
  List.mem_filter.trans (by simp [mem_iff])

@[simp] theorem mem_ofList {x : String} {members : List String} :
    x ∈ ofList members ↔ x ∈ members := by
  induction members with
  | nil => simp [ofList]
  | cons y rest ih => simpa [ofList] using or_congr_right ih

end SortedSet

end FeatureGrant
