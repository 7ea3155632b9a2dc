import FeatureGrant.Proofs.Field.Reading
import FeatureGrant.Proofs.Header
import FeatureGrant.Proofs.Header.Lines
import FeatureGrant.Proofs.Listing
import FeatureGrant.Proofs.Text.LowerCase
import FeatureGrant.Proofs.Text.Pieces

/-!
# Headers that are written

A map that can be written as a header is read back from it as it was.  Every
member is a header of its own that mentions one feature, so the members are read
like the lines of a header.
-/

namespace FeatureGrant.Header

open FeatureGrant.Field FeatureGrant.Text

/-! ## Keys -/

theorem readKey_append {key : String} (hkey : isKey key.toList = true)
    (rest : List Char) :
    readKey (key.toList ++ '=' :: rest) = some (key, '=' :: rest) := by
  have hstop : isKeyChar '=' = false := by decide
  unfold isKey at hkey
  split at hkey
  next => exact nomatch hkey
  next c tail hchars =>
    rw [Bool.and_eq_true] at hkey
    have htake : tail.takeWhile isKeyChar = tail := by
      rw [List.takeWhile_eq_self_iff]
      exact List.all_eq_true.mp hkey.2
    have hdrop : tail.dropWhile isKeyChar = [] := by
      rw [List.dropWhile_eq_nil_iff]
      exact List.all_eq_true.mp hkey.2
    rw [hchars, List.cons_append, readKey, if_pos hkey.1,
      takeWhile_append_stop hstop, dropWhile_append_stop hstop, htake, hdrop,
      ← hchars, String.ofList_toList, List.nil_append]

theorem isKeyStart_ne_space {c : Char} (hc : isKeyStart c = true) : c ≠ ' ' := by
  rintro rfl
  exact absurd hc (by decide)

/-! ## Single values -/

theorem readQuoted_escape {text : List Char} (htext : text.all isVisible = true)
    (rest : List Char) :
    readQuoted (text.flatMap escape ++ '"' :: rest) = some (text, rest) :=
  readQuoted_quotedChars (List.all_eq_true.mp htext) rest

theorem toList_quoted (text : String) :
    (quoted text).toList = '"' :: (text.toList.flatMap escape ++ ['"']) := by
  simp [quoted]

/-- What an item of an inner list stands for that is written for a member of a
set. -/
def itemValue (text : String) : BareItem :=
  if text = Keyword.self.text then .token "self" else .text text

/-- An item is read off the front of a text if a character follows that cannot
stand in it. -/
theorem readItem_item {text : String} (htext : CanList text) {c : Char}
    (hc : c = ' ' ∨ c = ')') (rest : List Char) :
    readItem ((item text).toList ++ c :: rest) =
      some (itemValue text, c :: rest) := by
  have hparameters : skipParameters (c :: rest) = some (c :: rest) := by
    apply skipParameters_of_ne
    intro behind heq
    obtain ⟨rfl, -⟩ := List.cons.inj heq
    revert hc
    decide
  have hvalue : readBareItem ((item text).toList ++ c :: rest) =
      some (itemValue text, c :: rest) := by
    unfold item itemValue
    by_cases hself : text = Keyword.self.text
    · have hstop : isTokenChar c = false := by
        rcases hc with rfl | rfl
        · decide
        · decide
      rw [if_pos hself, if_pos hself]
      have hread : readToken ("self".toList ++ c :: rest) =
          some (.token "self", c :: rest) := by
        have htake := takeWhile_append_stop hstop "elf".toList rest
        have hdrop := dropWhile_append_stop hstop "elf".toList rest
        change some (BareItem.token (String.ofList ('s' ::
          ("elf".toList ++ c :: rest).takeWhile isTokenChar)),
            ("elf".toList ++ c :: rest).dropWhile isTokenChar) = _
        rw [htake, hdrop]
        rfl
      exact hread
    · have hvisible : text.toList.all isVisible = true := by
        rcases htext with h | h
        · exact absurd h hself
        · exact h.2
      rw [if_neg hself, if_neg hself, toList_quoted, List.cons_append,
        List.append_assoc, List.singleton_append]
      change (readQuoted _).map _ = _
      rw [readQuoted_escape hvisible]
      simp
  rw [readItem, hvalue]
  dsimp only
  rw [hparameters]
  rfl

theorem exists_item_eq_cons (text : String) :
    ∃ c rest, (item text).toList = c :: rest ∧ c ≠ ' ' ∧ c ≠ ')' := by
  unfold item
  by_cases hself : text = Keyword.self.text
  · rw [if_pos hself]
    exact ⟨'s', "elf".toList, rfl, by decide, by decide⟩
  · rw [if_neg hself, toList_quoted]
    exact ⟨'"', _, rfl, by decide, by decide⟩

/-! ## Inner lists -/

/-- The items of an inner list with a space between them, as characters. -/
def itemsChars (texts : List String) : List Char :=
  [' '].intercalate (texts.map fun text => (item text).toList)

theorem skipSpaces_itemsChars (text : String) (texts : List String)
    (rest : List Char) :
    skipSpaces (itemsChars (text :: texts) ++ rest) =
      itemsChars (text :: texts) ++ rest := by
  obtain ⟨c, tail, htext, hspace, -⟩ := exists_item_eq_cons text
  have hstay (more : List Char) :
      skipSpaces ((item text).toList ++ more) = (item text).toList ++ more := by
    rw [htext, List.cons_append, skipSpaces,
      List.dropWhile_cons_of_neg (by simpa using hspace)]
  unfold itemsChars
  cases texts with
  | nil =>
      rw [List.map_singleton, List.intercalate_singleton]
      exact hstay rest
  | cons next others =>
      rw [List.map_cons, List.map_cons, List.intercalate_cons_cons,
        List.append_assoc, List.append_assoc]
      exact hstay _

/-- Written items are read back, whatever spaces stand before them. -/
theorem readItems_written {texts : List String}
    (htexts : ∀ text ∈ texts, CanList text) {s rest : List Char}
    (hs : skipSpaces s = itemsChars texts ++ ')' :: rest) :
    readItems s = some (texts.map itemValue, rest) := by
  induction texts generalizing s with
  | nil => exact readItems_close hs
  | cons text others ih =>
      rw [List.forall_mem_cons] at htexts
      obtain ⟨c, tail, htext, -, hclose⟩ := exists_item_eq_cons text
      have hclose' : ¬ (c == ')') = true := by simpa using hclose
      obtain ⟨d, behind, hd, hfirst, hbehind⟩ : ∃ d behind,
          (d = ' ' ∨ d = ')') ∧
            skipSpaces s = (item text).toList ++ d :: behind ∧
            skipSpaces (d :: behind) = itemsChars others ++ ')' :: rest := by
        cases others with
        | nil =>
            refine ⟨')', rest, Or.inr rfl, ?_, rfl⟩
            rw [hs, itemsChars, List.map_singleton, List.intercalate_singleton]
        | cons next more =>
            refine ⟨' ', itemsChars (next :: more) ++ ')' :: rest, Or.inl rfl,
              ?_, ?_⟩
            · rw [hs, itemsChars, itemsChars, List.map_cons, List.map_cons,
                List.intercalate_cons_cons, List.append_assoc, List.append_assoc]
              rfl
            · exact skipSpaces_itemsChars next more _
      have hitem := readItem_item htexts.1 hd behind
      rw [htext, List.cons_append] at hfirst hitem
      have hend : ((d :: behind).head? == some ' ' ||
          (d :: behind).head? == some ')') = true := by
        rcases hd with rfl | rfl
        · rfl
        · rfl
      rw [readItems_cons hfirst hclose' hitem hend, ih htexts.2 hbehind]
      rfl

/-! ## Members -/

/-- What a written listing stands for in a dictionary. -/
def memberValue : Listing → Member
  | .wildcard => .item (.token "*")
  | .deny => .innerList []
  | .members texts => .innerList (texts.map itemValue)

/-- The characters behind the key of a member. -/
def valueChars : Listing → List Char
  | .wildcard => ['*']
  | .deny => ['(', ')']
  | .members texts => '(' :: (itemsChars texts ++ [')'])

theorem toList_member (feature : String) (listing : Listing) :
    (member feature listing).toList =
      feature.toList ++ '=' :: valueChars listing := by
  cases listing with
  | wildcard => simp [member, valueChars]
  | deny => simp [member, valueChars]
  | members texts =>
      have hmap : (texts.map item).map String.toList =
          texts.map fun text => (item text).toList := List.map_map
      simp [member, valueChars, itemsChars, hmap]

theorem readMember_value {listing : Listing} (hlisting : CanWrite listing) :
    readMember ('=' :: valueChars listing) =
      some (memberValue listing, []) := by
  have hnil : skipParameters [] = some [] :=
    skipParameters_of_ne fun behind h => List.cons_ne_nil _ behind h.symm
  have hlist {items : List Char} {values : List BareItem}
      (hread : readItems items = some (values, [])) :
      readMember ('=' :: '(' :: items) = some (.innerList values, []) := by
    rw [readMember, hread]
    dsimp only
    rw [hnil]
    rfl
  cases listing with
  | wildcard =>
      have hitem : readItem ['*'] = some (.token "*", []) := by
        have hvalue : readBareItem ['*'] = some (.token "*", []) := by decide
        rw [readItem, hvalue]
        dsimp only
        rw [hnil]
        rfl
      change (readItem ['*']).map _ = _
      rw [hitem]
      rfl
  | deny => exact hlist (readItems_close rfl)
  | members texts =>
      obtain ⟨hne, hitems⟩ := hlisting
      obtain ⟨text, others, rfl⟩ := List.exists_cons_of_ne_nil hne
      exact hlist
        (readItems_written hitems (skipSpaces_itemsChars text others [')']))

/-- A written member is a dictionary with that member alone. -/
theorem readDictionary_member {feature : String} {listing : Listing}
    (hfeature : isKey feature.toList = true) (hlisting : CanWrite listing) :
    readDictionary (member feature listing).toList =
      some [(feature, memberValue listing)] := by
  have hkey := readKey_append hfeature (valueChars listing)
  have hstay : skipSpaces (feature.toList ++ '=' :: valueChars listing) =
      feature.toList ++ '=' :: valueChars listing := by
    unfold isKey at hfeature
    split at hfeature
    next => exact nomatch hfeature
    next c tail hchars =>
      rw [Bool.and_eq_true] at hfeature
      have hspace := isKeyStart_ne_space hfeature.1
      rw [hchars, List.cons_append, skipSpaces,
        List.dropWhile_cons_of_neg (by simpa using hspace)]
  rw [readDictionary, toList_member, hstay]
  exact readMembers_last hkey (readMember_value hlisting) rfl

/-! ## Allowlists -/

theorem ne_of_colon_mem {s t : String} (hs : ':' ∈ s.toList)
    (ht : ':' ∉ t.toList) : s ≠ t := by
  rintro rfl
  exact ht hs

/-- The items that are written for members of a set name these members, the
last of them first. -/
theorem allowlistOf_itemValue {feature : String} {texts : List String}
    (htexts : ∀ text ∈ texts, CanList text) (found : List String) :
    allowlistOf feature found (texts.map itemValue) =
      .ok (listing (texts.reverse ++ found)) := by
  induction texts generalizing found with
  | nil => rfl
  | cons text rest ih =>
      rw [List.forall_mem_cons] at htexts
      rw [List.map_cons, List.reverse_cons, List.append_assoc,
        List.singleton_append, ← ih htexts.2, allowlistOf, itemValue]
      by_cases hself : text = Keyword.self.text
      · rw [if_pos hself, hself]
        rfl
      · obtain ⟨horigin, -⟩ := htexts.1.resolve_left hself
        have hcolon := colon_mem_of_canonical? horigin
        have hstar : text ≠ "*" := ne_of_colon_mem hcolon (by decide)
        have hnone : text ≠ "none" := ne_of_colon_mem hcolon (by decide)
        have hbare : text ≠ "self" := ne_of_colon_mem hcolon (by decide)
        simp only [hself, if_false, BareItem.text?, hstar, hnone, hbare, horigin]

theorem allowlist_memberValue {feature : String} {listing : Listing}
    (hlisting : CanWrite listing) :
    allowlist feature (memberValue listing) = .ok listing.allowlist := by
  cases listing with
  | wildcard => rfl
  | deny => rfl
  | members texts =>
      obtain ⟨hne, hitems⟩ := hlisting
      have hlist : Header.listing (texts.reverse ++ []) = .ofList texts := by
        have hset : SortedSet.ofList texts.reverse = SortedSet.ofList texts :=
          SortedSet.ext_mem fun x => by
            rw [SortedSet.mem_ofList, SortedSet.mem_ofList, List.mem_reverse]
        have hempty : texts.reverse.isEmpty = false := by
          rw [List.isEmpty_eq_false_iff]
          exact fun h => hne (List.reverse_eq_nil_iff.mp h)
        rw [List.append_nil, Header.listing, hempty, Allowlist.ofList, hset]
        rfl
      have hmember : memberValue (.members texts) ≠ .item (.boolean true) := by
        intro h
        cases h
      rw [allowlist, if_neg hmember, memberValue, Member.items,
        allowlistOf_itemValue hitems, hlist]
      rfl

/-! ## Headers -/

theorem isOverlong_concat {s : List Char} {c : Char} (hc : c.isDigit = false) :
    isOverlong (s ++ [c]) = false := by
  have hmem : c ∈ (takeSign (s ++ [c])).2 ∨ (takeSign (s ++ [c])).2 = [] := by
    cases s with
    | nil =>
        by_cases hsign : c = '-'
        · subst hsign
          exact Or.inr rfl
        · refine Or.inl ?_
          rw [List.nil_append, takeSign]
          · exact List.mem_singleton_self c
          · exact fun _ h => hsign (List.cons.inj h).1
    | cons d rest =>
        have hlast : c ∈ rest ++ [c] := List.mem_append_right rest List.mem_cons_self
        refine Or.inl ?_
        by_cases hsign : d = '-'
        · subst hsign
          exact hlast
        · rw [List.cons_append, takeSign]
          · exact List.mem_cons_of_mem d hlast
          · exact fun _ h => hsign (List.cons.inj h).1
  rw [isOverlong, Bool.and_eq_false_iff]
  rcases hmem with hmem | hnil
  · right
    rw [List.all_eq_false]
    exact ⟨c, hmem, by rw [hc]; exact Bool.false_ne_true⟩
  · left
    rw [hnil]
    rfl

/-- A text ends in no number if its last character is no digit. -/
theorem endsOverlong_concat {s : List Char} {c : Char} (hc : c.isDigit = false) :
    endsOverlong (s ++ [c]) = false := by
  have hnil : isOverlong [] = false := rfl
  induction s with
  | nil => simp [endsOverlong, hnil]
  | cons d rest ih =>
      have htail : isOverlong (rest ++ [c]).tail = false := by
        cases rest with
        | nil => exact hnil
        | cons e others => exact isOverlong_concat hc
      rw [List.cons_append, endsOverlong, isOverlong_concat hc, htail, ih]
      simp

theorem exists_valueChars_eq_concat (listing : Listing) :
    ∃ front c, valueChars listing = front ++ [c] ∧ c.isDigit = false := by
  cases listing with
  | wildcard => exact ⟨[], '*', rfl, by decide⟩
  | deny => exact ⟨['('], ')', rfl, by decide⟩
  | members texts => exact ⟨'(' :: itemsChars texts, ')', rfl, by decide⟩

theorem endsOverlong_member (feature : String) (listing : Listing) :
    endsOverlong (member feature listing).toList = false := by
  obtain ⟨front, c, hvalue, hc⟩ := exists_valueChars_eq_concat listing
  rw [toList_member, hvalue, ← List.cons_append, ← List.append_assoc]
  exact endsOverlong_concat hc

theorem isAsciiChar_of_isVisible {c : Char} (hc : isVisible c = true) :
    isAsciiChar c = true := by
  rw [isVisible, Bool.and_eq_true, decide_eq_true_iff, decide_eq_true_iff] at hc
  rw [isAsciiChar, decide_eq_true_iff]
  omega

theorem isAsciiChar_of_isKeyChar {c : Char} (hc : isKeyChar c = true) :
    isAsciiChar c = true := by
  simp only [isKeyChar, Bool.or_eq_true, beq_iff_eq] at hc
  rcases hc with ((((h | h) | rfl) | rfl) | rfl) | rfl
  · have hcode := isLower_iff_code.mp h
    exact decide_eq_true (by omega)
  · have hcode := isDigit_iff_code.mp h
    exact decide_eq_true (by omega)
  · rfl
  · rfl
  · rfl
  · rfl

theorem isAscii_item {text : String} (htext : CanList text) :
    isAscii (item text).toList = true := by
  unfold item
  by_cases hself : text = Keyword.self.text
  · rw [if_pos hself]
    decide
  · obtain ⟨-, hvisible⟩ := htext.resolve_left hself
    have hescape (c : Char) (hc : isVisible c = true) :
        ∀ d ∈ escape c, isAsciiChar d = true := by
      have hascii := isAsciiChar_of_isVisible hc
      intro d hd
      unfold escape at hd
      split at hd
      next =>
        rcases List.mem_pair.mp hd with rfl | rfl
        · rfl
        · exact hascii
      next =>
        rw [List.mem_singleton] at hd
        rw [hd]
        exact hascii
    rw [if_neg hself, toList_quoted, isAscii, List.all_eq_true]
    intro c hc
    rw [List.mem_cons, List.mem_append, List.mem_flatMap, List.mem_singleton]
      at hc
    rcases hc with rfl | ⟨d, hd, hc⟩ | rfl
    · rfl
    · exact hescape d (List.all_eq_true.mp hvisible d hd) c hc
    · rfl

theorem isAscii_valueChars {listing : Listing} (hlisting : CanWrite listing) :
    isAscii (valueChars listing) = true := by
  cases listing with
  | wildcard => decide
  | deny => decide
  | members texts =>
      have hitems : ∀ c ∈ itemsChars texts, isAsciiChar c = true := by
        intro c hc
        rcases mem_intercalate hc with rfl | ⟨chars, hchars, hc⟩
        · rfl
        · obtain ⟨text, htext, rfl⟩ := List.mem_map.mp hchars
          exact List.all_eq_true.mp (isAscii_item (hlisting.2 text htext)) c hc
      rw [valueChars, isAscii, List.all_cons, List.all_append,
        List.all_eq_true.mpr hitems]
      rfl

theorem isAscii_of_isKey {key : List Char} (hkey : isKey key = true) :
    isAscii key = true := by
  unfold isKey at hkey
  split at hkey
  next => exact nomatch hkey
  next c rest =>
    rw [Bool.and_eq_true] at hkey
    have hstart : isKeyChar c = true := by
      have h := hkey.1
      rw [isKeyStart, Bool.or_eq_true] at h
      rcases h with h | h
      · simp [isKeyChar, h]
      · simp [isKeyChar, beq_iff_eq.mp h]
    have hrest : ∀ d ∈ rest, isAsciiChar d = true := fun d hd =>
      isAsciiChar_of_isKeyChar (List.all_eq_true.mp hkey.2 d hd)
    rw [isAscii, List.all_cons, isAsciiChar_of_isKeyChar hstart,
      List.all_eq_true.mpr hrest]
    rfl

/-- A written member is a header that says its allowlist of its feature. -/
theorem says_member {feature : String} {listing : Listing}
    (hfeature : isKey feature.toList = true) (hlisting : CanWrite listing) :
    Says (member feature listing).toList
      (OrderedMap.ofList [(feature, listing.allowlist)]) := by
  refine ⟨?_, ?_, [(feature, memberValue listing)],
    readDictionary_member hfeature hlisting, ?_⟩
  · rw [toList_member, List.all_append, List.all_cons]
    simp [show isBlank '=' = false by decide]
  · have hascii := isAscii_of_isKey hfeature
    have hvalue := isAscii_valueChars hlisting
    rw [isAscii] at hascii hvalue ⊢
    rw [toList_member, List.all_append, List.all_cons, hascii, hvalue]
    rfl
  · apply OrderedMap.traverse_eq_ok
    change OrderedMap.traverseEntries allowlist
      [(feature, memberValue listing)] = .ok [(feature, listing.allowlist)]
    rw [OrderedMap.traverseEntries, allowlist_memberValue hlisting]
    rfl

/-- A header that is written for a map of allowlists is read as that map. -/
theorem parse_written {listings : OrderedMap Listing}
    (hkeys : ∀ feature ∈ listings.keys, isKey feature.toList = true)
    (hlistings : ∀ entry ∈ listings.entries, CanWrite entry.2) :
    parse (write listings) =
      .ok { form := .parsed, grants := listings.map Listing.allowlist } := by
  have hmembers (entry : String × Listing) (hentry : entry ∈ listings.entries) :
      Says (member entry.1 entry.2).toList
        (OrderedMap.ofList [(entry.1, entry.2.allowlist)]) :=
    says_member (hkeys entry.1 (List.mem_map_of_mem hentry))
      (hlistings entry hentry)
  by_cases hempty : listings.entries = []
  · have hnone : listings = ∅ := OrderedMap.ext hempty
    rw [hnone]
    rfl
  · let lines := listings.entries.map fun entry => member entry.1 entry.2
    let maps : List PolicyMap := listings.entries.map fun entry =>
      { form := .parsed
        grants := .ofList [(entry.1, entry.2.allowlist)] }
    have hblank : ∀ line ∈ lines, line.toList.all isBlank = false := by
      intro line hline
      obtain ⟨entry, hentry, rfl⟩ := List.mem_map.mp hline
      exact (hmembers entry hentry).notBlank
    have hlong : ∀ line ∈ lines.dropLast, endsOverlong line.toList = false := by
      intro line hline
      obtain ⟨entry, -, rfl⟩ := List.mem_map.mp (List.dropLast_subset _ hline)
      exact endsOverlong_member entry.1 entry.2
    have hparse : lines.map parse = maps.map .ok := by
      rw [List.map_map, List.map_map]
      apply List.map_congr_left
      intro entry hentry
      have h := hmembers entry hentry
      exact (parse_eq_ok_iff h.notBlank).mpr ⟨rfl, h⟩
    have hwritten : Says (write listings).toList
        (OrderedMap.mergeAll (maps.map (·.grants))) := by
      have hne : lines ≠ [] := fun h => hempty (List.map_eq_nil_iff.mp h)
      have hjoined := says_intercalate hne hblank hlong hparse
      rw [write, String.toList_intercalate]
      exact hjoined
    have hmerged : OrderedMap.mergeAll (maps.map (·.grants)) =
        listings.map Listing.allowlist := by
      rw [← OrderedMap.ofList_entries (listings.map Listing.allowlist),
        ← OrderedMap.mergeAll_singletons, OrderedMap.map, List.map_map,
        List.map_map]
      rfl
    rw [hmerged] at hwritten
    exact (parse_eq_ok_iff hwritten.notBlank).mpr ⟨rfl, hwritten⟩

end FeatureGrant.Header
