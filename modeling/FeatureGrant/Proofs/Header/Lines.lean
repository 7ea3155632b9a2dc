import FeatureGrant.Header
import FeatureGrant.Proofs.Field.Length
import FeatureGrant.Proofs.OrderedMap.Merge
import FeatureGrant.Proofs.Result
import Mathlib.Data.List.TakeWhile

/-!
# Headers of several lines

A header may be sent in several lines, which are joined by commas.  What the
joined header says is what its lines say, merged from the first to the last: a
feature keeps the place of its first appearance and has the allowlist of its
last.

A structured field has no number of more than fifteen digits.  The reader takes
a sixteenth digit at the end of a text; such a line alone cannot be continued.
-/

namespace FeatureGrant.Header

open FeatureGrant.Field FeatureGrant.Text

/-! ## A header of one line -/

theorem foreignRun?_eq_none_iff {s : List Char} :
    foreignRun? s = none ↔ isAscii s = true := by
  rw [isAscii, List.all_eq_true, ← List.dropWhile_eq_nil_iff, foreignRun?]
  cases s.dropWhile isAsciiChar with
  | nil => exact ⟨fun _ => rfl, fun _ => rfl⟩
  | cons c rest => exact ⟨nofun, nofun⟩

/-- What the text of a header says that is not blank. -/
structure Says (s : List Char) (grants : Grants) : Prop where
  notBlank : s.all isBlank = false
  ascii : isAscii s = true
  members : ∃ members, readDictionary s = some members ∧
    (OrderedMap.ofList members).traverse allowlist = .ok grants

theorem parse_eq_ok_iff {value : String} {m : PolicyMap}
    (hblank : value.toList.all isBlank = false) :
    parse value = .ok m ↔ m.form = .parsed ∧ Says value.toList m.grants := by
  have hread (grants : Grants) :
      read value = .ok grants ↔ Says value.toList grants := by
    unfold read
    dsimp only
    rw [if_neg (by rw [hblank]; exact Bool.false_ne_true)]
    constructor
    · intro hok
      split at hok
      next => exact nomatch hok
      next hforeign =>
        split at hok
        next => exact nomatch hok
        next members hmembers =>
          exact ⟨hblank, foreignRun?_eq_none_iff.mp hforeign, members, hmembers, hok⟩
    · rintro ⟨-, hascii, members, hmembers, hok⟩
      rw [foreignRun?_eq_none_iff.mpr hascii, hmembers]
      exact hok
  obtain ⟨form, grants⟩ := m
  rw [parse, map_eq_ok_iff]
  constructor
  · rintro ⟨grants', hok, heq⟩
    obtain ⟨rfl, rfl⟩ := PolicyMap.mk.inj heq
    exact ⟨rfl, (hread _).mp hok⟩
  · rintro ⟨rfl, hsays⟩
    exact ⟨grants, (hread grants).mpr hsays, rfl⟩

/-! ## Two lines -/

/-- Two lines with a comma and a blank between them say what the one and then
the other says. -/
theorem Says.append {s t : List Char} {m n : Grants} (hs : Says s m)
    (ht : Says t n) (hlong : endsOverlong s = false) :
    Says (s ++ [',', ' '] ++ t) (m.merge n) := by
  obtain ⟨first, hfirst, hm⟩ := hs.members
  obtain ⟨second, hsecond, hn⟩ := ht.members
  refine ⟨?_, ?_, first ++ second, ?_, ?_⟩
  · rw [List.all_append, List.all_append, hs.notBlank]
    rfl
  · have hcomma : isAscii [',', ' '] = true := by decide
    have hs := hs.ascii
    have ht := ht.ascii
    unfold isAscii at hs ht hcomma ⊢
    rw [List.all_append, List.all_append, hs, ht, hcomma]
    rfl
  · rw [List.append_assoc]
    exact readDictionary_append hfirst hlong hsecond
  · rw [OrderedMap.ofList_append]
    exact OrderedMap.traverse_merge hm hn

/-! ## Any number of lines -/

/-- Joined lines say what the lines say from the first to the last. -/
theorem says_intercalate {lines : List String} {maps : List PolicyMap}
    (hne : lines ≠ [])
    (hblank : ∀ line ∈ lines, line.toList.all isBlank = false)
    (hlong : ∀ line ∈ lines.dropLast, endsOverlong line.toList = false)
    (hparse : lines.map parse = maps.map .ok) :
    Says ([',', ' '].intercalate (lines.map String.toList))
      (OrderedMap.mergeAll (maps.map (·.grants))) := by
  induction lines generalizing maps with
  | nil => exact absurd rfl hne
  | cons line rest ih =>
      obtain ⟨m, ms, rfl, hm, hms⟩ := List.map_eq_cons_iff.mp hparse.symm
      have hfirst : Says line.toList m.grants :=
        ((parse_eq_ok_iff (hblank line List.mem_cons_self)).mp hm.symm).2
      rw [List.map_cons, List.map_cons, OrderedMap.mergeAll_cons]
      cases rest with
      | nil =>
          obtain rfl := List.map_eq_nil_iff.mp hms
          have hempty : m.grants.merge (OrderedMap.mergeAll []) = m.grants := rfl
          rw [List.map_nil, List.map_nil, List.intercalate_singleton, hempty]
          exact hfirst
      | cons second others =>
          rw [List.dropLast_cons_cons, List.forall_mem_cons] at hlong
          have hrest := ih (List.cons_ne_nil _ _)
            (fun l hl => hblank l (List.mem_cons_of_mem line hl)) hlong.2 hms.symm
          rw [List.map_cons] at hrest ⊢
          rw [List.intercalate_cons_cons]
          exact hfirst.append hrest hlong.1

/-- No dictionary of the standard ends in a number that is too long to be
continued. -/
theorem says_intercalate_of_isDictionary {lines : List String} {maps : List PolicyMap}
    (hne : lines ≠ [])
    (hblank : ∀ line ∈ lines, line.toList.all isBlank = false)
    (hstandard : ∀ line ∈ lines, ∃ members, IsDictionary .standard line.toList members)
    (hparse : lines.map parse = maps.map .ok) :
    Says ([',', ' '].intercalate (lines.map String.toList))
      (OrderedMap.mergeAll (maps.map (·.grants))) := by
  refine says_intercalate hne hblank (fun line hline => ?_) hparse
  obtain ⟨members, hmembers⟩ := hstandard line (List.dropLast_subset lines hline)
  exact hmembers.endsOverlong_eq_false (by decide)

/-- A header of several lines is read as its lines are, one after the other: a
feature keeps the place where it appears first and takes the allowlist of the
last line that mentions it.  The lines are structured fields, so no line that
is continued ends in a number of sixteen digits. -/
theorem parse_intercalate {lines : List String} {maps : List PolicyMap}
    (hblank : ∀ line ∈ lines, line.toList.all isBlank = false)
    (hlong : ∀ line ∈ lines.dropLast, endsOverlong line.toList = false)
    (hparse : lines.map parse = maps.map .ok) :
    ∃ merged : Grants, parse (", ".intercalate lines) =
        .ok { form := .parsed, grants := merged } ∧
      merged = OrderedMap.mergeAll (maps.map (·.grants)) ∧
      merged.keys = (maps.flatMap (·.grants.keys)).eraseDups ∧
      ∀ feature, merged.get? feature =
        maps.reverse.findSome? (·.grants.get? feature) := by
  refine ⟨_, ?_, rfl, ?_, ?_⟩
  · by_cases hne : lines = []
    · subst hne
      obtain rfl := List.map_eq_nil_iff.mp hparse.symm
      rfl
    · have hsays := says_intercalate hne hblank hlong hparse
      have htext : (", ".intercalate lines).toList =
          [',', ' '].intercalate (lines.map String.toList) :=
        String.toList_intercalate
      rw [← htext] at hsays
      exact (parse_eq_ok_iff hsays.notBlank).mpr ⟨rfl, hsays⟩
  · rw [OrderedMap.keys_mergeAll, List.flatMap_map]
  · intro feature
    rw [OrderedMap.get?_mergeAll, ← List.map_reverse, List.findSome?_map]
    rfl

/-- Two lines that both mention the camera. -/
def cameraLines : List String :=
  ["camera=(self \"https://b.example\");x=12, fullscreen=*",
    "geolocation=(), camera=*"]

/-- What the two lines say. -/
def cameraMaps : List PolicyMap :=
  [{ form := .parsed
     grants := .ofList
       [("camera", .origins (.ofList [Keyword.self.text, "https://b.example"])),
         ("fullscreen", .wildcard)] },
    { form := .parsed
      grants := .ofList [("geolocation", .deny), ("camera", .wildcard)] }]

/-- The camera keeps its place in the first line and has the allowlist of the
second. -/
theorem cameraLines_parse :
    ∃ merged : Grants, parse (", ".intercalate cameraLines) =
        .ok { form := .parsed, grants := merged } ∧
      merged.entries = [("camera", .wildcard), ("fullscreen", .wildcard),
        ("geolocation", .deny)] := by
  obtain ⟨merged, hparsed, rfl, -, -⟩ :=
    @parse_intercalate cameraLines cameraMaps
      (by decide +kernel) (by decide +kernel) (by decide +kernel)
  exact ⟨_, hparsed, by decide⟩

/-- A line that ends in a number of sixteen digits is read, but not with
another line behind it. -/
example :
    (parse "camera=*;x=0000000000000001").toOption.isSome = true ∧
      (parse "camera=*;x=0000000000000001, fullscreen=*").toOption = none := by
  decide +kernel

end FeatureGrant.Header
