import FeatureGrant.Failure
import FeatureGrant.Proofs.Field.Reading
import FeatureGrant.Proofs.Header
import FeatureGrant.Proofs.Header.Lines
import FeatureGrant.Proofs.OrderedMap.Merge

/-!
# The verdict on a header

Which headers are rejected, for what reason, and what the others say.  A header
has to be ASCII and a dictionary.  Then the members are looked at that are the
last ones of their keys, in the order in which the keys appear first, and the
first of them that is bad decides.
-/

namespace FeatureGrant

open FeatureGrant.Field FeatureGrant.Text

namespace OrderedMap

theorem entries_eq_filterMap {α : Type} (m : OrderedMap α) :
    m.entries = m.keys.filterMap fun key => (m.get? key).map (key, ·) := by
  have hlist {entries : List (String × α)}
      (hnodup : (entries.map Prod.fst).Nodup) :
      entries = (entries.map Prod.fst).filterMap fun key =>
        (entries.lookup key).map (key, ·) := by
    induction entries with
    | nil => rfl
    | cons entry rest ih =>
        obtain ⟨hkey, hrest⟩ := List.nodup_cons.mp hnodup
        have hsame : (rest.map Prod.fst).filterMap (fun key =>
              ((entry :: rest).lookup key).map (key, ·)) =
            (rest.map Prod.fst).filterMap fun key =>
              (rest.lookup key).map (key, ·) := by
          apply List.filterMap_congr
          intro key hmem
          have hne : key ≠ entry.1 := by
            rintro rfl
            exact hkey hmem
          rw [List.lookup_cons, beq_false_of_ne hne]
        rw [List.map_cons, List.filterMap_cons, List.lookup_cons,
          beq_self_eq_true, hsame, ← ih hrest]
        rfl
  exact hlist m.nodup_keys

theorem map_entries_traverse {α β ε : Type} (f : String → α → Except ε β)
    (m : OrderedMap α) :
    (m.traverse f).map entries = traverseEntries f m.entries := by
  unfold traverse
  split
  next h => exact h.symm
  next h => exact h.symm

end OrderedMap

namespace Header

/-- The last member of every key, in the order in which the keys appear
first. -/
def lastMembers (members : List (String × Member)) : List (String × Member) :=
  (members.map Prod.fst).eraseDups.filterMap fun key =>
    (members.reverse.lookup key).map (key, ·)

/-- What is wrong with a member: it is the truth value true, or an item that is
no text comes before all that would settle the member. -/
def flaw? (feature : String) (member : Member) : Option HeaderFault :=
  if member = .item (.boolean true) then some (.missingAllowlist feature)
  else
    ((member.items.takeWhile fun item => !Request.isFinal item).find?
      (·.text?.isNone)).map (.unknownValue feature)

/-- The code under which a fault of a header is reported. -/
def code? (header : String) (fault : HeaderFault) : Option Int :=
  match fault.failure header with
  | .fault f _ => some (Report.of f).code
  | _ => none

theorem entries_ofList (members : List (String × Member)) :
    (OrderedMap.ofList members).entries = lastMembers members := by
  have hkeys : (OrderedMap.ofList members).keys =
      (members.map Prod.fst).eraseDups := OrderedMap.keys_foldl_insert members ∅
  rw [OrderedMap.entries_eq_filterMap, hkeys, lastMembers]
  simp only [OrderedMap.get?_ofList]

/-- Items give the allowlist that they settle, unless one that is no text comes
before. -/
theorem allowlistOf_eq_match (feature : String) (found : List String)
    (items : List BareItem) :
    allowlistOf feature found items =
      match (items.takeWhile fun item => !Request.isFinal item).find?
        (·.text?.isNone) with
      | some item => .error (.unknownValue feature item)
      | none => .ok (settled found items) := by
  induction items generalizing found with
  | nil => rfl
  | cons item rest ih =>
      rw [allowlistOf]
      cases htext : item.text? with
      | none =>
          have hfinal : Request.isFinal item = false := by
            simp [Request.isFinal, htext]
          rw [List.takeWhile_cons_of_pos (by rw [hfinal]; rfl),
            List.find?_cons_of_pos (by rw [htext]; rfl)]
      | some text =>
          cases hfinal : Request.isFinal item with
          | true =>
              rw [List.takeWhile_cons_of_neg (by simp [hfinal]), List.find?_nil,
                settled_cons_of_isFinal hfinal, htext]
              rw [isFinal_eq htext, Bool.or_eq_true, beq_iff_eq,
                beq_iff_eq] at hfinal
              rcases hfinal with rfl | rfl
              · rfl
              · rfl
          | false =>
              rw [List.takeWhile_cons_of_pos (by rw [hfinal]; rfl),
                List.find?_cons_of_neg (by rw [htext]; exact Bool.false_ne_true),
                settled_cons hfinal, ← ih]
              rw [isFinal_eq htext, Bool.or_eq_false_iff, beq_eq_false_iff_ne,
                beq_eq_false_iff_ne] at hfinal
              dsimp only
              rw [if_neg hfinal.1, if_neg hfinal.2, listed?, htext,
                Option.bind_some]
              by_cases hself : text = "self"
              · rw [if_pos hself, if_pos hself]
                rfl
              · rw [if_neg hself, if_neg hself]
                cases canonical? text with
                | none => rfl
                | some origin => rfl

theorem allowlist_eq_match (feature : String) (member : Member) :
    allowlist feature member =
      match flaw? feature member with
      | some fault => .error fault
      | none => .ok (settled [] member.items) := by
  unfold allowlist flaw?
  by_cases htrue : member = .item (.boolean true)
  · rw [if_pos htrue, if_pos htrue]
  · rw [if_neg htrue, if_neg htrue, allowlistOf_eq_match]
    cases (member.items.takeWhile fun item => !Request.isFinal item).find?
        (·.text?.isNone) with
    | none => rfl
    | some item => rfl

theorem traverseEntries_eq_match (entries : List (String × Member)) :
    OrderedMap.traverseEntries allowlist entries =
      match entries.findSome? fun e => flaw? e.1 e.2 with
      | some fault => .error fault
      | none => .ok (entries.map fun e => (e.1, settled [] e.2.items)) := by
  induction entries with
  | nil => rfl
  | cons entry rest ih =>
      rw [OrderedMap.traverseEntries, allowlist_eq_match, List.findSome?_cons]
      cases flaw? entry.1 entry.2 with
      | some fault => rfl
      | none =>
          dsimp only
          rw [ih]
          cases rest.findSome? fun e => flaw? e.1 e.2 with
          | some fault => rfl
          | none => rfl

/-! ## Verdicts -/

theorem code?_of_flaw {feature : String} {member : Member}
    {fault : HeaderFault} (hflaw : flaw? feature member = some fault)
    (header : String) :
    code? header fault =
      some (if member = .item (.boolean true) then 2002 else 2003) := by
  unfold flaw? at hflaw
  by_cases htrue : member = .item (.boolean true)
  · rw [if_pos htrue] at hflaw ⊢
    obtain rfl := Option.some.inj hflaw
    rfl
  · rw [if_neg htrue] at hflaw ⊢
    obtain ⟨item, -, rfl⟩ := Option.map_eq_some_iff.mp hflaw
    rfl

theorem findSome?_eq_bind_find? {α β : Type} (f : α → Option β) (xs : List α) :
    xs.findSome? f = (xs.find? fun x => (f x).isSome).bind f := by
  induction xs with
  | nil => rfl
  | cons x rest ih =>
      rw [List.findSome?_cons]
      cases hx : f x with
      | none => rw [List.find?_cons_of_neg (by simp [hx]), ih]
      | some y => rw [List.find?_cons_of_pos (by simp [hx]), Option.bind_some, hx]

/-- The verdict on a header by the members of its dictionary: the first bad one
among the last members of the keys is reported, and without a bad one the keys
are mapped to what the items of their last members settle. -/
def IsVerdict (header : String) (members : List (String × Member)) : Prop :=
  match (lastMembers members).find? fun e => (flaw? e.1 e.2).isSome with
  | some (feature, member) =>
    members.reverse.lookup feature = some member ∧
      ∃ fault, flaw? feature member = some fault ∧
        parse header = .error fault ∧
        code? header fault =
          some (if member = .item (.boolean true) then 2002 else 2003)
  | none => ∃ m, parse header = .ok m ∧ m.form = .parsed ∧
      m.grants.entries =
        (lastMembers members).map fun e => (e.1, settled [] e.2.items)

/-- What reading a header comes to, from its dictionary on. -/
theorem traverseEntries_of_isDictionary {header : String}
    (hblank : ¬header.toList.all isBlank = true)
    (hascii : isAscii header.toList = true)
    {members : List (String × Member)}
    (hmembers : IsDictionary .lax header.toList members) :
    (parse header).map (·.grants.entries) =
      OrderedMap.traverseEntries allowlist (lastMembers members) := by
  have hread : read header = (OrderedMap.ofList members).traverse allowlist := by
    unfold read
    dsimp only
    rw [if_neg hblank, foreignRun?_eq_none_iff.mpr hascii,
      readDictionary_eq_some_iff.mpr hmembers]
  rw [← entries_ofList, ← OrderedMap.map_entries_traverse, ← hread, parse]
  cases read header with
  | error fault => rfl
  | ok grants => rfl

theorem form_of_parse {header : String} {m : PolicyMap}
    (hok : parse header = .ok m) : m.form = .parsed := by
  obtain ⟨grants, -, rfl⟩ := map_eq_ok_iff.mp hok
  rfl

theorem isVerdict_of_isDictionary {header : String}
    (hblank : ¬header.toList.all isBlank = true)
    (hascii : isAscii header.toList = true)
    {members : List (String × Member)}
    (hmembers : IsDictionary .lax header.toList members) :
    IsVerdict header members := by
  have hparse := traverseEntries_of_isDictionary hblank hascii hmembers
  rw [traverseEntries_eq_match, findSome?_eq_bind_find?] at hparse
  unfold IsVerdict
  cases hfind : (lastMembers members).find?
      fun e => (flaw? e.1 e.2).isSome with
  | none =>
      rw [hfind] at hparse
      obtain ⟨m, hm, hentries⟩ := map_eq_ok_iff.mp hparse
      exact ⟨m, hm, form_of_parse hm, hentries⟩
  | some entry =>
      obtain ⟨feature, member⟩ := entry
      have hbad := List.find?_some hfind
      obtain ⟨fault, hflaw⟩ : ∃ fault, flaw? feature member = some fault :=
        Option.isSome_iff_exists.mp hbad
      have hlast : members.reverse.lookup feature = some member := by
        obtain ⟨key, -, hkey⟩ :=
          List.mem_filterMap.mp (List.mem_of_find?_eq_some hfind)
        obtain ⟨member', hmember', heq⟩ := Option.map_eq_some_iff.mp hkey
        obtain ⟨rfl, rfl⟩ := Prod.mk.inj heq
        exact hmember'
      rw [hfind, Option.bind_some, hflaw] at hparse
      refine ⟨hlast, fault, hflaw, ?_, code?_of_flaw hflaw header⟩
      cases hresult : parse header with
      | ok m =>
          rw [hresult] at hparse
          exact nomatch hparse
      | error e =>
          rw [hresult] at hparse
          exact congrArg Except.error (Except.error.inj hparse)

/-- A header that is not ASCII or no dictionary is rejected for that alone. -/
theorem exists_fault_of_not_isDictionary {header : String}
    (hblank : ¬header.toList.all isBlank = true)
    (hbad : isAscii header.toList = false ∨
      ∀ members, ¬IsDictionary .lax header.toList members) :
    ∃ fault, parse header = .error fault ∧ code? header fault = some 2001 := by
  have hread : ∃ fault, read header = .error fault ∧
      code? header fault = some 2001 := by
    unfold read
    dsimp only
    rw [if_neg hblank]
    cases hforeign : foreignRun? header.toList with
    | some run => exact ⟨.notAscii run, rfl, rfl⟩
    | none =>
        have hascii := foreignRun?_eq_none_iff.mp hforeign
        have hnone := hbad.resolve_left (by rw [hascii]; exact nofun)
        cases hmembers : readDictionary header.toList with
        | none => exact ⟨.notDictionary, rfl, rfl⟩
        | some members =>
            exact absurd (readDictionary_eq_some_iff.mp hmembers) (hnone members)
  obtain ⟨fault, hfault, hcode⟩ := hread
  exact ⟨fault, by rw [parse, hfault]; rfl, hcode⟩

/-- A header that is more than white space is rejected under the code 2001 if
and only if it has a character that is not ASCII or is not a dictionary by the
rules that readers follow.  Otherwise its dictionary decides. -/
theorem parse_verdict {header : String}
    (hblank : ¬header.toList.all isBlank = true) :
    ((∃ fault, parse header = .error fault ∧ code? header fault = some 2001) ↔
      isAscii header.toList = false ∨
        ∀ members, ¬IsDictionary .lax header.toList members) ∧
    ∀ members, isAscii header.toList = true →
      IsDictionary .lax header.toList members → IsVerdict header members := by
  refine ⟨⟨?_, exists_fault_of_not_isDictionary hblank⟩,
    fun _ hascii hmembers => isVerdict_of_isDictionary hblank hascii hmembers⟩
  rintro ⟨fault, hparse, hcode⟩
  by_contra hnot
  rw [not_or, Bool.not_eq_false, not_forall_not] at hnot
  obtain ⟨hascii, members, hmembers⟩ := hnot
  have hverdict := isVerdict_of_isDictionary hblank hascii hmembers
  unfold IsVerdict at hverdict
  split at hverdict
  next feature member _ =>
    obtain ⟨-, fault', -, hparse', hcode'⟩ := hverdict
    obtain rfl := Except.error.inj (hparse.symm.trans hparse')
    rw [hcode'] at hcode
    split at hcode
    next => exact absurd hcode (by decide)
    next => exact absurd hcode (by decide)
  next =>
    obtain ⟨m, hok, -⟩ := hverdict
    exact nomatch hok.symm.trans hparse

/-- The one member of a header that is read by lax rules only. -/
def pointedMember : Member := .item (.decimal ⟨false, 1, []⟩)

/-- By the rules of the standard alone a header would be no dictionary that
readers take for one: the number in it ends in its point. -/
theorem pointed_not_standard :
    ¬((∃ fault, parse "a=1." = .error fault ∧ code? "a=1." fault = some 2001) ↔
      isAscii "a=1.".toList = false ∨
        ∀ members, ¬IsDictionary .standard "a=1.".toList members) := by
  have hread : readDictionary "a=1.".toList = some [("a", pointedMember)] := by
    decide +kernel
  have hnone : ∀ members, ¬IsDictionary .standard "a=1.".toList members := by
    intro members hmembers
    have hsame := readDictionary_of_isDictionary hmembers
    obtain rfl := Option.some.inj (hread.symm.trans hsame)
    exact not_isPointed_of_isDictionary hmembers ("a", pointedMember)
      List.mem_cons_self _ List.mem_cons_self rfl
  have hverdict : IsVerdict "a=1." [("a", pointedMember)] :=
    isVerdict_of_isDictionary (by decide) (by decide)
      (readDictionary_eq_some_iff.mp hread)
  have hfind : (lastMembers [("a", pointedMember)]).find?
      (fun e => (flaw? e.1 e.2).isSome) = some ("a", pointedMember) := by
    decide
  rw [IsVerdict, hfind] at hverdict
  obtain ⟨-, fault, -, hparse, hcode⟩ := hverdict
  intro hclaim
  obtain ⟨fault', hparse', hcode'⟩ := hclaim.mpr (Or.inr hnone)
  obtain rfl := Except.error.inj (hparse.symm.trans hparse')
  exact absurd (hcode.symm.trans hcode') (by decide)

/-- A header with three bad members: one that is repeated, one that is
reported, and one behind it. -/
def repeatedHeader : String :=
  "camera=3, fullscreen, usb=(1.5 *), camera=(self)"

/-- The members of the header. -/
def repeatedMembers : List (String × Member) :=
  [("camera", .item (.integer 3)), ("fullscreen", .item (.boolean true)),
   ("usb", .innerList [.decimal ⟨false, 1, ['5']⟩, .token "*"]),
   ("camera", .innerList [.token "self"])]

theorem repeatedHeader_verdict :
    ¬repeatedHeader.toList.all isBlank = true ∧
      IsDictionary .lax repeatedHeader.toList repeatedMembers ∧
      IsVerdict repeatedHeader repeatedMembers ∧
      ∃ fault, flaw? "fullscreen" (.item (.boolean true)) = some fault ∧
        parse repeatedHeader = .error fault := by
  have hblank : ¬repeatedHeader.toList.all isBlank = true := by decide
  have hread : readDictionary repeatedHeader.toList = some repeatedMembers := by
    decide +kernel
  have hdictionary := readDictionary_eq_some_iff.mp hread
  have hverdict :=
    (parse_verdict hblank).2 repeatedMembers (by decide) hdictionary
  refine ⟨hblank, hdictionary, hverdict, ?_⟩
  have hfind : (lastMembers repeatedMembers).find?
      (fun e => (flaw? e.1 e.2).isSome) =
        some ("fullscreen", .item (.boolean true)) := by decide
  rw [IsVerdict, hfind] at hverdict
  obtain ⟨-, fault, hflaw, hparse, -⟩ := hverdict
  exact ⟨fault, hflaw, hparse⟩

end Header

end FeatureGrant
