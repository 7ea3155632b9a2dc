import FeatureGrant.Proofs.AllowAttribute.Written
import FeatureGrant.Proofs.OrderedMap.Merge
import FeatureGrant.Proofs.Resolution
import Mathlib.Logic.Relation
import Mathlib.Tactic.Tauto

/-!
# Spellings of an allow attribute

An attribute says what its directives say one after the other, so joining two
attributes with a semicolon merges what they say.  How a directive is spelled
does not matter: its targets may be listed in any order and more than once, a
run of blanks is as good as any other, and blanks may stand around semicolons.

Each of these changes is one step between two spellings.  A step keeps the list
of what the directives say; hence so does any number of them.
-/

namespace FeatureGrant.AllowAttribute

open FeatureGrant.Text

/-! ## Changes of spelling -/

/-- Nothing but blanks. -/
def AreBlank (s : List Char) : Prop := ∀ c ∈ s, isBlank c = true

/-- Whether a directive may stand between two texts: a semicolon separates it
from what is there. -/
structure Surrounds (front back : List Char) : Prop where
  front : front = [] ∨ ∃ s, front = s ++ [';']
  back : back = [] ∨ ∃ s, back = ';' :: s

/-- One change in the spelling of an attribute. -/
inductive Respells : List Char → List Char → Prop
  | targets {front back s t feature : List Char} {old new : List (List Char)}
      (haround : Surrounds front back) (hs : ';' ∉ s) (ht : ';' ∉ t)
      (hold : words s = feature :: old) (hnew : words t = feature :: new)
      (hsame : ∀ target, target ∈ old ↔ target ∈ new) :
      Respells (front ++ s ++ back) (front ++ t ++ back)
  | blanks {front back run run' : List Char} (hrun : AreBlank run)
      (hne : run ≠ []) (hrun' : AreBlank run') (hne' : run' ≠ []) :
      Respells (front ++ run ++ back) (front ++ run' ++ back)
  | semicolon {front back run run' : List Char} (hrun : AreBlank run)
      (hrun' : AreBlank run') :
      Respells (front ++ ';' :: back) (front ++ run ++ ';' :: (run' ++ back))

/-! ## Words and blanks -/

theorem words_of_areBlank {s : List Char} (hs : AreBlank s) : words s = [] := by
  induction s with
  | nil => rfl
  | cons c rest ih =>
      obtain ⟨hc, hrest⟩ := List.forall_mem_cons.mp hs
      rw [words_cons_blank hc, ih hrest]

theorem words_append_of_areBlank {run : List Char} (hrun : AreBlank run)
    (s : List Char) : words (run ++ s) = words s := by
  induction run with
  | nil => rfl
  | cons c rest ih =>
      obtain ⟨hc, hrest⟩ := List.forall_mem_cons.mp hrun
      rw [List.cons_append, words_cons_blank hc, ih hrest]

/-- A run of blanks separates the words before it from those behind it. -/
theorem words_append_run {run : List Char} (hrun : AreBlank run)
    (hne : run ≠ []) (s t : List Char) :
    words (s ++ run ++ t) = words s ++ words t := by
  obtain ⟨c, rest, rfl⟩ := List.exists_cons_of_ne_nil hne
  obtain ⟨hc, hrest⟩ := List.forall_mem_cons.mp hrun
  rw [List.append_assoc, List.cons_append, words_append_cons hc,
    words_append_of_areBlank hrest]

theorem semicolon_not_mem_of_areBlank {run : List Char} (hrun : AreBlank run) :
    ';' ∉ run := by
  intro hmem
  exact absurd (hrun ';' hmem) (by decide)

/-! ## Directives one by one -/

theorem directives_cons_semicolon (s : List Char) :
    directives (';' :: s) = directives s :=
  directives_append [] s

theorem directives_append_back {back : List Char}
    (hback : back = [] ∨ ∃ t, back = ';' :: t) (s : List Char) :
    directives (s ++ back) = directives s ++ directives back := by
  rcases hback with rfl | ⟨t, rfl⟩
  · rw [List.append_nil]
    exact (List.append_nil _).symm
  · rw [directives_append, directives_cons_semicolon]

theorem directives_front_append {front : List Char}
    (hfront : front = [] ∨ ∃ t, front = t ++ [';']) (s : List Char) :
    directives (front ++ s) = directives front ++ directives s := by
  rcases hfront with rfl | ⟨t, rfl⟩
  · rfl
  · have hend : directives (t ++ [';']) = directives t :=
      (directives_append t []).trans (List.append_nil _)
    rw [hend, List.append_assoc, List.singleton_append, directives_append]

/-- The directives around a directive are read on their own. -/
theorem directives_between {front back : List Char}
    (haround : Surrounds front back) (s : List Char) :
    directives (front ++ s ++ back) =
      directives front ++ directives s ++ directives back := by
  rw [directives_append_back haround.back, directives_front_append haround.front]

theorem exists_last_directive (s : List Char) :
    ∃ front last, s = front ++ last ∧ ';' ∉ last ∧
      (front = [] ∨ ∃ t, front = t ++ [';']) := by
  by_cases hmem : ';' ∈ s.reverse
  · obtain ⟨last, front, hs, hlast⟩ := List.eq_append_cons_of_mem hmem
    refine ⟨front.reverse ++ [';'], last.reverse, ?_, ?_, Or.inr ⟨_, rfl⟩⟩
    · rw [← List.reverse_reverse s, hs]
      simp
    · rwa [List.mem_reverse]
  · rw [List.mem_reverse] at hmem
    exact ⟨[], s, rfl, hmem, Or.inl rfl⟩

theorem exists_first_directive (s : List Char) :
    ∃ first back, s = first ++ back ∧ ';' ∉ first ∧
      (back = [] ∨ ∃ t, back = ';' :: t) := by
  by_cases hmem : ';' ∈ s
  · obtain ⟨first, back, rfl, hfirst⟩ := List.eq_append_cons_of_mem hmem
    exact ⟨first, ';' :: back, rfl, hfirst, Or.inr ⟨_, rfl⟩⟩
  · exact ⟨s, [], (List.append_nil s).symm, hmem, Or.inl rfl⟩

/-- Two ends that leave the same words to a directive say the same. -/
theorem directives_append_congr {s t : List Char} (hs : ';' ∉ s) (ht : ';' ∉ t)
    (hwords : ∀ last, words (last ++ s) = words (last ++ t))
    (front : List Char) : directives (front ++ s) = directives (front ++ t) := by
  obtain ⟨front, last, rfl, hlast, hfront⟩ := exists_last_directive front
  have hread (u : List Char) (hu : ';' ∉ u) :
      directives (front ++ last ++ u) =
        directives front ++ (directive? (last ++ u)).toList := by
    have hnot : ';' ∉ last ++ u := by
      rw [List.mem_append, not_or]
      exact ⟨hlast, hu⟩
    rw [List.append_assoc, directives_front_append hfront,
      directives_of_not_mem hnot]
  have hsame : directive? (last ++ s) = directive? (last ++ t) := by
    rw [directive?, directive?, hwords]
  rw [hread s hs, hread t ht, hsame]

/-- A run of blanks may stand for another one wherever it stands. -/
theorem directives_replace_run {run run' : List Char} (hrun : AreBlank run)
    (hne : run ≠ []) (hrun' : AreBlank run') (hne' : run' ≠ [])
    (front back : List Char) :
    directives (front ++ run ++ back) = directives (front ++ run' ++ back) := by
  obtain ⟨first, back, rfl, hfirst, hback⟩ := exists_first_directive back
  have hnot {u : List Char} (hu : AreBlank u) : ';' ∉ u ++ first := by
    rw [List.mem_append, not_or]
    exact ⟨semicolon_not_mem_of_areBlank hu, hfirst⟩
  have hwords (last : List Char) :
      words (last ++ (run ++ first)) = words (last ++ (run' ++ first)) := by
    rw [← List.append_assoc, ← List.append_assoc, words_append_run hrun hne,
      words_append_run hrun' hne']
  rw [← List.append_assoc, ← List.append_assoc, directives_append_back hback,
    directives_append_back hback, List.append_assoc, List.append_assoc,
    directives_append_congr (hnot hrun) (hnot hrun') hwords]

/-- Blanks behind a directive do not matter. -/
theorem directives_append_of_areBlank {run : List Char} (hrun : AreBlank run)
    (s : List Char) : directives (s ++ run) = directives s := by
  have hwords (last : List Char) : words (last ++ run) = words (last ++ []) := by
    rw [List.append_nil]
    by_cases hne : run = []
    · rw [hne, List.append_nil]
    · have h := words_append_run hrun hne last []
      rwa [List.append_nil, words_of_areBlank (List.forall_mem_nil _),
        List.append_nil] at h
  rw [directives_append_congr (semicolon_not_mem_of_areBlank hrun)
    List.not_mem_nil hwords s, List.append_nil]

/-- Nor do blanks before one. -/
theorem directives_areBlank_append {run : List Char} (hrun : AreBlank run)
    (s : List Char) : directives (run ++ s) = directives s := by
  induction run with
  | nil => rfl
  | cons c rest ih =>
      obtain ⟨hc, hrest⟩ := List.forall_mem_cons.mp hrun
      rw [List.cons_append, directives_cons_blank hc, ih hrest]

/-! ## The allowlist of a directive -/

/-- Whether a text is in the set that targets list: it is a keyword among them,
or the origin of one of them. -/
def IsListed (targets : List String) (x : String) : Prop :=
  (x ∈ targets ∧ (x = Keyword.self.text ∨ x = Keyword.src.text)) ∨
    ∃ target ∈ targets, canonical? target = some x

/-- Whether an allowlist is that of a list of targets. -/
def IsGranted (targets : List String) : Allowlist → Prop
  | .wildcard => "*" ∈ targets
  | .deny => "*" ∉ targets ∧ Keyword.none.text ∈ targets
  | .origins set => "*" ∉ targets ∧ Keyword.none.text ∉ targets ∧
      ∀ x, x ∈ set ↔ IsListed targets x

theorem canonical?_keyword (k : Keyword) : canonical? k.text = none := by
  cases k with
  | self => decide
  | src => decide
  | none => decide

theorem mem_filterMap_target?_iff {targets : List String} {x : String} :
    x ∈ targets.filterMap target? ↔ IsListed targets x := by
  rw [List.mem_filterMap]
  constructor
  · rintro ⟨target, htarget, hx⟩
    unfold target? at hx
    split at hx
    next hkeyword =>
      obtain rfl := Option.some.inj hx
      exact Or.inl ⟨htarget, hkeyword⟩
    next => exact Or.inr ⟨target, htarget, hx⟩
  · rintro (⟨hx, hkeyword⟩ | ⟨target, htarget, hx⟩)
    · exact ⟨x, hx, if_pos hkeyword⟩
    · refine ⟨target, htarget, ?_⟩
      rw [target?, if_neg, hx]
      rintro (rfl | rfl)
      · rw [canonical?_keyword] at hx
        exact nomatch hx
      · rw [canonical?_keyword] at hx
        exact nomatch hx

theorem isGranted_allowlist (targets : List String) :
    IsGranted targets (allowlist targets) := by
  unfold allowlist
  by_cases hstar : "*" ∈ targets
  · rw [if_pos hstar]
    exact hstar
  · rw [if_neg hstar]
    by_cases hnone : Keyword.none.text ∈ targets
    · rw [if_pos hnone]
      exact ⟨hstar, hnone⟩
    · rw [if_neg hnone]
      refine ⟨hstar, hnone, fun x => ?_⟩
      rw [SortedSet.mem_ofList]
      exact mem_filterMap_target?_iff

/-- The order and the number of the targets do not matter. -/
theorem allowlist_congr {old new : List String}
    (hsame : ∀ target, target ∈ old ↔ target ∈ new) :
    allowlist old = allowlist new := by
  have hset : SortedSet.ofList (old.filterMap target?) =
      SortedSet.ofList (new.filterMap target?) := by
    apply SortedSet.ext_mem
    intro x
    simp only [SortedSet.mem_ofList, List.mem_filterMap, hsame]
  simp only [allowlist, Allowlist.ofList, hsame, hset]

theorem directive?_of_words {s feature : List Char} {targets : List (List Char)}
    (hs : words s = feature :: targets) :
    directive? s =
      some (String.ofList feature, allowlist (targets.map String.ofList)) := by
  rw [directive?, hs]
  rfl

/-! ## Spellings -/

/-- One change of spelling keeps what the directives say. -/
theorem Respells.directives_eq {s t : List Char} (h : Respells s t) :
    directives s = directives t := by
  cases h with
  | @targets front back s t feature old new haround hs ht hold hnew hsame =>
      have htargets : allowlist (old.map String.ofList) =
          allowlist (new.map String.ofList) := by
        apply allowlist_congr
        intro target
        simp only [List.mem_map, hsame]
      rw [directives_between haround, directives_between haround,
        directives_of_not_mem hs, directives_of_not_mem ht,
        directive?_of_words hold, directive?_of_words hnew, htargets]
  | blanks hrun hne hrun' hne' =>
      exact directives_replace_run hrun hne hrun' hne' _ _
  | semicolon hrun hrun' =>
      rw [directives_append, directives_append, directives_append_of_areBlank hrun,
        directives_areBlank_append hrun']

/-- Any number of changes of spelling keeps what the directives say. -/
theorem directives_eq_of_eqvGen {s t : List Char}
    (h : Relation.EqvGen Respells s t) : directives s = directives t := by
  induction h with
  | rel s t hst => exact hst.directives_eq
  | refl s => rfl
  | symm s t _ ih => exact ih.symm
  | trans s t u _ _ ih ih' => exact ih.trans ih'

/-! ## Attributes -/

theorem read_join (a b : String) :
    read (a ++ ";" ++ b) = (read a).merge (read b) := by
  have htext : (a ++ ";" ++ b).toList = a.toList ++ ';' :: b.toList := by
    simp
  rw [read, htext, directives_append, OrderedMap.ofList_append]
  rfl

/-- Two attributes that are joined by a semicolon say what the first and then
what the second says: a feature keeps the place of its first appearance and has
the allowlist of its last.  An attribute of blanks says nothing, every other
spelling of an attribute says the same, and a single directive gives to its
feature what its targets list. -/
theorem parse_join_and_respell :
    (∀ a b : String, ∃ merged : Grants,
      parse (a ++ ";" ++ b) = { form := .parsed, grants := merged } ∧
        merged = (parse a).grants.merge (parse b).grants ∧
        merged.keys = ((parse a).grants.keys ++ (parse b).grants.keys).eraseDups ∧
        ∀ feature, merged.get? feature =
          ((parse b).grants.get? feature).or ((parse a).grants.get? feature)) ∧
    (∀ a : String, AreBlank a.toList →
      parse a = { form := .parsed, grants := ∅ }) ∧
    (∀ a b : String, Relation.EqvGen Respells a.toList b.toList →
      parse a = parse b) ∧
    ∀ (a feature : String) (targets : List String), ';' ∉ a.toList →
      (words a.toList).map String.ofList = feature :: targets →
        ∃ allowlist, IsGranted targets allowlist ∧
          parse a =
            { form := .parsed, grants := .ofList [(feature, allowlist)] } := by
  refine ⟨?_, ?_, ?_, ?_⟩
  · intro a b
    refine ⟨read (a ++ ";" ++ b), rfl, read_join a b, ?_, ?_⟩
    · rw [read_join, OrderedMap.keys_merge]
      rfl
    · intro feature
      rw [read_join, OrderedMap.get?_merge]
      rfl
  · intro a ha
    have hempty : directives a.toList = [] := directives_append_of_areBlank ha []
    rw [parse, read, hempty]
    rfl
  · intro a b hab
    rw [parse, parse, read, read, directives_eq_of_eqvGen hab]
  · intro a feature targets ha hwords
    refine ⟨allowlist targets, isGranted_allowlist targets, ?_⟩
    have hdirective : directive? a.toList = some (feature, allowlist targets) := by
      rw [directive?, hwords]
    rw [parse, read, directives_of_not_mem ha, hdirective]
    rfl

/-- An attribute in few words. -/
def shortAllow : String := "camera 'self' https://b.example;usb *"

/-- The same attribute, with a target that is repeated and blanks of several
kinds. -/
def longAllow : String :=
  "camera\thttps://b.example  'self' https://b.example\n; usb *"

/-- The two spellings are read as the same map. -/
theorem longAllow_parse :
    parse longAllow = parse shortAllow ∧
      (parse shortAllow).grants.entries =
        [("camera", .origins (.ofList ["'self'", "https://b.example"])),
          ("usb", .wildcard)] := by
  have hsame (target : List Char) :
      target ∈ ["https://b.example".toList, "'self'".toList,
          "https://b.example".toList] ↔
        target ∈ ["'self'".toList, "https://b.example".toList] := by
    simp only [List.mem_cons, List.not_mem_nil, or_false]
    tauto
  have htargets := @Respells.targets [] ";usb *".toList
    "camera\thttps://b.example  'self' https://b.example".toList
    "camera 'self' https://b.example".toList "camera".toList _ _
    ⟨Or.inl rfl, Or.inr ⟨_, rfl⟩⟩ (by decide) (by decide) (by decide)
    (by decide) hsame
  have hblanks := @Respells.semicolon
    "camera\thttps://b.example  'self' https://b.example".toList "usb *".toList
    ['\n'] [' '] (List.forall_mem_singleton.mpr rfl)
    (List.forall_mem_singleton.mpr rfl)
  have hsteps : Relation.EqvGen Respells longAllow.toList shortAllow.toList :=
    .trans _ _ _ (.symm _ _ (.rel _ _ hblanks)) (.rel _ _ htargets)
  exact ⟨parse_join_and_respell.2.2.1 longAllow shortAllow hsteps,
    by decide⟩

end FeatureGrant.AllowAttribute
