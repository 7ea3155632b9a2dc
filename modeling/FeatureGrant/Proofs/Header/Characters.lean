import FeatureGrant.Proofs.Field.Characters
import FeatureGrant.Proofs.Field.Reading
import FeatureGrant.Proofs.Header.Lines

/-!
# The characters of a header

A header that mentions a feature was read to its end, so nothing foreign is in
it: it holds tabs and printable ASCII, and its features are keys.  The exception
are line breaks in the escapes of a display text, which readers pass over; RFC 8941
has no such texts.
-/

namespace FeatureGrant.Header

open FeatureGrant.Field FeatureGrant.Text

/-- A header that mentions a feature is more than white space. -/
theorem not_blank_of_keys_ne_nil {header : String} {m : PolicyMap}
    (hparse : parse header = .ok m) (hkeys : m.grants.keys ≠ []) :
    header.toList.all isBlank = false := by
  by_contra hblank
  rw [Bool.not_eq_false] at hblank
  obtain ⟨grants, hread, rfl⟩ := map_eq_ok_iff.mp hparse
  unfold read at hread
  dsimp only at hread
  rw [if_pos hblank] at hread
  obtain rfl := Except.ok.inj hread
  exact hkeys rfl

/-- The features that members give allowlists to are the names of members. -/
theorem exists_mem_of_mem_keys {members : List (String × Member)}
    {grants : Grants} {feature : String}
    (hgrants : (OrderedMap.ofList members).traverse allowlist = .ok grants)
    (hfeature : feature ∈ grants.keys) :
    ∃ entry ∈ members, entry.1 = feature := by
  rw [OrderedMap.keys_of_traverse hgrants, OrderedMap.ofList,
    OrderedMap.keys_foldl_insert, List.mem_eraseDups] at hfeature
  exact List.mem_map.mp hfeature

/-- The features of a header are keys, and its characters are tabs and printable
ASCII, wherever they stand, but for line breaks in the escapes of display texts.
If the reader of dictionaries takes the header for what it is by the rules without
display texts, there is no exception. -/
theorem isKey_and_isSound_of_parse {header : String} {m : PolicyMap}
    (hparse : parse header = .ok m) (hkeys : m.grants.keys ≠ []) :
    (∀ feature ∈ m.grants.keys, isKey feature.toList = true) ∧
      (∀ before c after, header.toList = before ++ c :: after →
        isFieldChar c = true ∨ isBreak c = true ∧ InEscape before after) ∧
      ((∀ members, readDictionary header.toList = some members →
          IsDictionary .plain header.toList members) →
        ∀ c ∈ header.toList, isFieldChar c = true) := by
  have hblank := not_blank_of_keys_ne_nil hparse hkeys
  obtain ⟨-, hsays⟩ := (parse_eq_ok_iff hblank).mp hparse
  obtain ⟨members, hmembers, hgrants⟩ := hsays.members
  obtain ⟨hsound, hnames⟩ := (readDictionary_eq_some_iff.mp hmembers).areSound
  refine ⟨?_, ?_, ?_⟩
  · intro feature hfeature
    obtain ⟨entry, hentry, rfl⟩ := exists_mem_of_mem_keys hgrants hfeature
    exact hnames entry hentry
  · intro before c after hplace
    exact (hsound before c after hplace).imp_right fun h => h.2
  · intro hplain
    exact (hplain members hmembers).forall_isFieldChar

/-- A header with a tab, an escaped text, a parameter and a member that is written
over. -/
def plainHeader : String := "usb=(\"a\\\"b\");x,\t*.gyro-1=*, usb=none"

/-- The members of the header. -/
def plainMembers : List (String × Member) :=
  [("usb", .innerList [.text "a\"b"]), ("*.gyro-1", .item (.token "*")),
   ("usb", .item (.token "none"))]

/-- There is no display text in the header. -/
theorem plainHeader_isDictionary :
    IsDictionary .plain plainHeader.toList plainMembers := by
  have hkey (c : Char) (cs rest : List Char) (hc : isKeyStart c = true)
      (hcs : cs.all isKeyChar = true) :
      IsKeyed (c :: (cs ++ rest)) (String.ofList (c :: cs)) rest :=
    .key hc (List.all_eq_true.mp hcs)
  have htoken (c : Char) (cs rest : List Char) (hc : isTokenStart c = true)
      (hcs : cs.all isTokenChar = true) :
      IsMember .plain ('=' :: (c :: (cs ++ rest)))
        (.item (.token (String.ofList (c :: cs)))) rest :=
    .item ⟨rest, .token hc (List.all_eq_true.mp hcs), .none⟩
  have htext (rest : List Char) : IsItem .plain ("\"a\\\"b\"".toList ++ rest)
      (.text "a\"b") rest :=
    ⟨rest, .text (List.all_eq_true.mp (by decide : ['a', '"', 'b'].all isVisible = true)),
      .none⟩
  have hlist (rest : List Char) : IsMember .plain
      ("=(\"a\\\"b\");x".toList ++ rest) (.innerList [.text "a\"b"]) rest :=
    .innerList
      (@AreItems.item _ [] _ _ _ _ _ (List.forall_mem_nil _) (htext _) (Or.inr rfl)
        (@AreItems.close _ [] _ (List.forall_mem_nil _)))
      (@AreParameters.flag _ [] _ _ _ _ (List.forall_mem_nil _)
        (hkey 'x' [] rest (by decide) (by decide)) .none)
  have hlast : AreMembers .plain "usb=none".toList [("usb", .item (.token "none"))] :=
    .last (hkey 'u' ['s', 'b'] "=none".toList (by decide) (by decide))
      (htoken 'n' ['o', 'n', 'e'] [] (by decide) (by decide)) (List.forall_mem_nil _)
  have hsecond : AreMembers .plain "*.gyro-1=*, usb=none".toList
      [("*.gyro-1", .item (.token "*")), ("usb", .item (.token "none"))] :=
    @AreMembers.comma _ _ _ _ [] [' '] _ _ _
      (hkey '*' ".gyro-1".toList "=*, usb=none".toList (by decide) (by decide))
      (htoken '*' [] ", usb=none".toList (by decide) (by decide))
      (List.forall_mem_nil _) (List.forall_mem_singleton.mpr (Or.inl rfl)) hlast
  exact ⟨[], _, rfl, List.forall_mem_nil _,
    @AreMembers.comma _ _ _ _ [] ['\t'] _ _ _
      (hkey 'u' ['s', 'b'] "=(\"a\\\"b\");x,\t*.gyro-1=*, usb=none".toList
        (by decide) (by decide))
      (hlist ",\t*.gyro-1=*, usb=none".toList)
      (List.forall_mem_nil _) (List.forall_mem_singleton.mpr (Or.inr rfl)) hsecond⟩

/-- The features of the header are keys, and all of its characters may stand in
a structured field. -/
theorem plainHeader_isSound :
    ∃ m, parse plainHeader = .ok m ∧ m.grants.keys = ["usb", "*.gyro-1"] ∧
      (∀ feature ∈ m.grants.keys, isKey feature.toList = true) ∧
      ∀ c ∈ plainHeader.toList, isFieldChar c = true := by
  have hread : ∃ m, parse plainHeader = .ok m ∧
      m.grants.keys = ["usb", "*.gyro-1"] :=
    ⟨{ form := .parsed
       grants := .ofList [("usb", .deny), ("*.gyro-1", .wildcard)] },
      by decide +kernel, by decide +kernel⟩
  obtain ⟨m, hparse, hkeys⟩ := hread
  obtain ⟨hfeatures, -, hsound⟩ :=
    isKey_and_isSound_of_parse hparse (by rw [hkeys]; exact List.cons_ne_nil _ _)
  refine ⟨m, hparse, hkeys, hfeatures, hsound fun members hmembers => ?_⟩
  obtain rfl := Option.some.inj
    ((readDictionary_of_isDictionary plainHeader_isDictionary).symm.trans hmembers)
  exact plainHeader_isDictionary

/-- A line feed in the place of a digit, in a display text. -/
example : parse "camera=*;x=%\"%\n1\"" =
    .ok { form := .parsed, grants := .ofList [("camera", .wildcard)] } := by
  decide +kernel

end FeatureGrant.Header
