import FeatureGrant.Proofs.OrderedMap
import Mathlib.Data.List.Forall2

/-!
# Changes that may fail, entry by entry

A change that may fail goes through the entries in order.  It gives a map if it
gives a value for every entry, and it fails with the fault of the first entry
that it has no value for.
-/

namespace FeatureGrant.OrderedMap

universe u v

variable {α : Type u} {β : Type u} {ε : Type v} {f : String → α → Except ε β}

theorem traverseEntries_eq_ok_iff {entries : List (String × α)}
    {changed : List (String × β)} :
    traverseEntries f entries = .ok changed ↔
      List.Forall₂ (fun entry c => entry.1 = c.1 ∧ f entry.1 entry.2 = .ok c.2)
        entries changed := by
  constructor
  · intro hok
    fun_induction traverseEntries f entries generalizing changed with
    | case1 =>
        obtain rfl := Except.ok.inj hok
        exact .nil
    | case2 => cases hok
    | case3 => cases hok
    | case4 entry rest value hvalue values hvalues ih =>
        obtain rfl := Except.ok.inj hok
        exact .cons ⟨rfl, hvalue⟩ (ih hvalues)
  · intro hentries
    induction hentries with
    | nil => rfl
    | cons hentry hrest ih =>
        obtain ⟨hname, hvalue⟩ := hentry
        simp only [traverseEntries, hvalue, ih]
        rw [hname]

/-- A change gives a map with the same names in the same order, and each value
is the one that the change gives for it. -/
theorem traverse_eq_ok_iff {m : OrderedMap α} {n : OrderedMap β} :
    m.traverse f = .ok n ↔
      List.Forall₂ (fun entry c => entry.1 = c.1 ∧ f entry.1 entry.2 = .ok c.2)
        m.entries n.entries := by
  rw [← traverseEntries_eq_ok_iff]
  exact ⟨entries_of_traverse, traverse_eq_ok⟩

/-- Whether an entry is the first in a list for which a change fails, and with
what fault. -/
def FailsFirst (f : String → α → Except ε β) (entries : List (String × α))
    (entry : String × α) (fault : ε) : Prop :=
  ∃ before after, entries = before ++ entry :: after ∧
    (∀ e ∈ before, ∃ value, f e.1 e.2 = .ok value) ∧
      f entry.1 entry.2 = .error fault

theorem traverseEntries_eq_error_iff {entries : List (String × α)} {fault : ε} :
    traverseEntries f entries = .error fault ↔
      ∃ entry, FailsFirst f entries entry fault := by
  constructor
  · intro herror
    fun_induction traverseEntries f entries with
    | case1 => cases herror
    | case2 entry rest e hfault =>
        obtain rfl := Except.error.inj herror
        exact ⟨entry, [], rest, rfl, List.forall_mem_nil _, hfault⟩
    | case3 first rest value hvalue e hrest ih =>
        obtain ⟨entry, before, after, hsplit, hbefore, hfault⟩ :=
          ih (hrest.trans herror)
        refine ⟨entry, first :: before, after, ?_, ?_, hfault⟩
        · rw [hsplit, List.cons_append]
        · exact List.forall_mem_cons.mpr ⟨⟨value, hvalue⟩, hbefore⟩
    | case4 => cases herror
  · rintro ⟨entry, before, after, rfl, hbefore, hfault⟩
    induction before with
    | nil => rw [List.nil_append, traverseEntries, hfault]
    | cons first others ih =>
        obtain ⟨⟨value, hvalue⟩, hothers⟩ := List.forall_mem_cons.mp hbefore
        rw [List.cons_append, traverseEntries, hvalue, ih hothers]

/-- A change fails with the fault of the first entry that it fails for. -/
theorem traverse_eq_error_iff {m : OrderedMap α} {fault : ε} :
    m.traverse f = .error fault ↔ ∃ entry, FailsFirst f m.entries entry fault := by
  rw [← traverseEntries_eq_error_iff]
  unfold traverse
  split
  next e he => rw [he, Except.error.injEq, Except.error.injEq]
  next changed hchanged =>
    constructor
    · intro hok
      cases hok
    · intro herror
      cases hchanged.symm.trans herror

end FeatureGrant.OrderedMap
