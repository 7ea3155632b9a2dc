import FeatureGrant.Command.Display
import FeatureGrant.Proofs.Console.Markup
import FeatureGrant.Proofs.Origin.Reading
import FeatureGrant.Proofs.Origin.Text
import FeatureGrant.Proofs.Policy.Ruling

/-!
# Displays that do not fail

Maps and decisions can be displayed whatever texts are in them, since those are
escaped.  The origins in the title of a table are escaped one by one, and no
closing tag starts in an origin.  A report can be displayed as well, unless its
trace, which is not escaped, is one that the console does not show.
-/

namespace FeatureGrant

open FeatureGrant.Console FeatureGrant.Text FeatureGrant.Url

/-! ## Origins in titles -/

theorem HostText.WellFormed.slash_not_mem_chars {host : HostText}
    (h : host.WellFormed) : '/' ∉ host.chars := by
  cases h with
  | @literal text _ _ _ _ stands =>
      intro hmem
      rw [HostText.chars, List.mem_append, List.mem_cons, List.mem_singleton] at hmem
      rcases hmem with (heq | hmem) | heq
      · exact absurd heq (by decide)
      · exact absurd (stands '/' hmem) (by decide)
      · exact absurd heq (by decide)
  | name _ ascii => exact fun hmem => (ascii '/' hmem).2.2.2 rfl

theorem slash_not_mem_portChars (port : Option Nat) : '/' ∉ portChars port := by
  cases port with
  | none => exact List.not_mem_nil
  | some n =>
      intro hmem
      rcases List.mem_cons.mp hmem with heq | hdigit
      · exact absurd heq (by decide)
      · exact nomatch isDigit_of_mem_toDigits hdigit

theorem IsScheme.bracket_not_mem {scheme : List Char} (h : IsScheme scheme) :
    '[' ∉ scheme := fun hmem =>
  nomatch List.all_eq_true.mp h.chars '[' hmem

theorem IsScheme.slash_not_mem {scheme : List Char} (h : IsScheme scheme) :
    '/' ∉ scheme := fun hmem =>
  nomatch List.all_eq_true.mp h.chars '/' hmem

/-- No closing tag starts in an origin: its only slashes stand behind the colon
of its scheme. -/
theorem opensOnly_of_canonical? {url text : String}
    (htext : canonical? url = some text) : OpensOnly text.toList := by
  obtain ⟨o, hread, rfl⟩ := exists_origin_of_canonical? htext
  have ho := Origin.wellFormed_of_read hread
  have hplace : '/' ∉ o.host.chars ++ portChars o.port := by
    rw [List.mem_append, not_or]
    exact ⟨ho.host.slash_not_mem_chars, slash_not_mem_portChars o.port⟩
  rw [Origin.text, String.toList_ofList, Origin.chars_eq]
  refine (opensOnly_of_not_mem (IsScheme.slash_not_mem ho.scheme)).append ?_ ?_
  · refine List.isChain_cons.mpr ⟨fun _ _ h => absurd h (by decide), ?_⟩
    refine List.isChain_cons.mpr ⟨fun _ _ h => absurd h (by decide), ?_⟩
    exact List.isChain_cons.mpr
      ⟨fun _ _ h => absurd h (by decide), opensOnly_of_not_mem hplace⟩
  · intro c hc d _ hbracket
    exact absurd (hbracket ▸ List.mem_of_getLast? hc)
      (IsScheme.bracket_not_mem ho.scheme)

namespace Command

/-! ## Texts that can be shown -/

theorem isShowable_iff {marked : String} :
    isShowable marked = true ↔ CanShow [] marked.toList := by
  rw [isShowable, shown?, Option.isSome_map, CanShow]

theorem isShowable_escape (text : String) : isShowable (escape text) = true :=
  isShowable_iff.mpr (canShow_escape text)

/-- A line in one style can be shown, with an escaped text between characters
that belong to no tag. -/
theorem isShowable_styled (c : Char) (cs front : List Char) (text : String)
    (back : List Char) {marked : String}
    (hstart : startsTag c = true) (hopens : c ≠ '/')
    (hinside : ∀ d ∈ cs, isInsideTag d = true)
    (hne : (styleOf (c :: cs)).isEmpty = false)
    (hfront : ∀ d ∈ front, d ≠ '[' ∧ d ≠ '\\')
    (hback : ∀ d ∈ back, isInsideTag d = true ∧ d ≠ '\\')
    (hhead : ∀ d ∈ back.head?, startsTag d = false)
    (hmarked : marked.toList = bracketTag (c :: cs)
      ++ (front ++ ((escape text).toList ++ (back ++ bracketTag ('/' :: c :: cs))))) :
    isShowable marked = true := by
  have hall : ∀ d ∈ c :: cs, isInsideTag d = true :=
    List.forall_mem_cons.mpr ⟨isInsideTag_of_startsTag hstart, hinside⟩
  have hclose : tag? (bracketTag ('/' :: c :: cs)) = some ('/' :: c :: cs, []) := by
    rw [← List.append_nil (bracketTag _)]
    exact tag?_bracketTag_append (by decide) hall []
  have hopened : [styleOf (c :: cs)].contains (styleOf (c :: cs)) = true := by
    rw [List.contains_iff_mem]
    exact List.mem_singleton_self _
  have hshow := canShow_escape_close hclose hne hopened text hback hhead
  rw [← canShow_append_iff hfront] at hshow
  have hpieces := pieces_of_tag? (tag?_bracketTag_append hstart hinside (front
    ++ ((escape text).toList ++ (back ++ bracketTag ('/' :: c :: cs))))) 0
  rw [slashes, List.replicate_zero, List.nil_append, if_pos (by decide)] at hpieces
  rw [isShowable_iff, hmarked, CanShow, hpieces, isSome_shownPieces?_text,
    shownPieces?_open hopens]
  exact hshow

theorem print_of_isShowable {s : Sheet}
    (hall : ∀ text ∈ s.texts, isShowable text = true)
    (outcome : Screen → Outcome) : s.print outcome = outcome s.screen := by
  rw [Sheet.print, if_pos (List.all_eq_true.mpr hall)]

/-- On a screen stand the lines of the table, if there is one. -/
theorem rows_screen_of_isShowable {s : Sheet}
    (hall : ∀ text ∈ s.texts, isShowable text = true) :
    s.screen.rows = (s.table.map Table.lines).getD [] := by
  rw [Sheet.screen]
  split
  next hnone =>
    rw [hnone]
    rfl
  next table htable =>
    rw [if_pos (List.all_eq_true.mpr hall), htable]
    rfl

/-! ## Maps -/

/-- Whether something is written as a document. -/
def Output.isDocument : Output → Bool
  | screen _ => false
  | document _ => true

theorem isShowable_allowlistCell (a : Allowlist) :
    isShowable (allowlistCell a) = true := by
  cases a with
  | wildcard => decide +kernel
  | deny => decide +kernel
  | origins members =>
      rw [allowlistCell]
      split
      next => decide +kernel
      next => exact isShowable_escape _

/-- The lines of a table in which a feature stands beside its allowlist. -/
def grantLines (entry : String × Allowlist) : List (List String) :=
  rowLines [escape entry.1, allowlistCell entry.2]

/-- What is written of a map: a table of its features on a screen, unless there
are none, or a document with all of it. -/
def Output.ShowsMap (m : PolicyMap) : Output → Prop
  | screen s => s.rows =
      if m.grants.entries.isEmpty then []
      else ["Feature", "Allowlist"] :: m.grants.entries.flatMap grantLines
  | document v => v = mapDocument m

theorem lines_mapTable (title : String) (m : PolicyMap) :
    (mapTable title m).lines =
      ["Feature", "Allowlist"] :: m.grants.entries.flatMap grantLines := by
  have hheadings : rowLines ["Feature", "Allowlist"] = [["Feature", "Allowlist"]] := by
    decide +kernel
  rw [Table.lines, List.flatMap_cons, mapTable, hheadings, List.flatMap_map]
  rfl

/-- A map is displayed, as a document or as a table as it is asked for. -/
theorem exists_showMap_eq {title : String}
    (htitle : title = "Permissions-Policy" ∨ title = "allow") (format : Format)
    (m : PolicyMap) :
    ∃ output, showMap title format m = .done 0 output ∧
      output.isDocument = format.json ∧ output.ShowsMap m := by
  have hall : ∀ text ∈ (mapSheet title m).texts, isShowable text = true := by
    intro text htext
    unfold mapSheet at htext
    split at htext
    next =>
      obtain rfl := List.mem_singleton.mp htext
      rcases htitle with rfl | rfl
      · decide +kernel
      · decide +kernel
    next =>
      simp only [Sheet.texts, Option.map_some, Option.getD_some, List.nil_append,
        Table.texts, mapTable, List.mem_cons, List.flatten_cons, List.cons_append,
        List.mem_flatten, List.mem_map, List.nil_append] at htext
      rcases htext with rfl | rfl | rfl | ⟨row, ⟨entry, -, rfl⟩, hcell⟩
      · rcases htitle with rfl | rfl
        · cases m.form with
          | parsed => decide +kernel
          | normalized => decide +kernel
        · cases m.form with
          | parsed => decide +kernel
          | normalized => decide +kernel
      · decide +kernel
      · decide +kernel
      · rcases List.mem_pair.mp hcell with rfl | rfl
        · exact isShowable_escape _
        · exact isShowable_allowlistCell _
  rw [showMap]
  cases format.json with
  | true => exact ⟨_, rfl, rfl, rfl⟩
  | false =>
      rw [if_neg Bool.false_ne_true, print_of_isShowable hall]
      refine ⟨_, rfl, rfl, ?_⟩
      rw [Output.ShowsMap, rows_screen_of_isShowable hall, mapSheet]
      split
      next => rfl
      next =>
        rw [Option.map_some, lines_mapTable]
        rfl

theorem map_feature_decisions (p : Policy) (features : List String)
    (checkOrigin : Option String) :
    (decisions p features checkOrigin).map (·.feature) = features := by
  rw [decisions, List.map_map]
  exact (List.map_congr_left fun feature _ => p.evaluate_feature feature _).trans
    (List.map_id features)

theorem all_allowed_iff (p : Policy) (features : List String)
    (checkOrigin : Option String) :
    (decisions p features checkOrigin).all (·.allowed) = true ↔
      ∀ feature ∈ features,
        p.allows feature (Fault.textOrNull checkOrigin) = true := by
  rw [List.all_eq_true]
  exact List.forall_mem_map

theorem isShowable_of_mem_decisionRow {d : Decision} {text : String}
    (htext : text ∈ decisionRow d) : isShowable text = true := by
  rw [decisionRow, List.mem_cons] at htext
  rcases htext with rfl | htext
  · cases d.allowed with
    | true => decide +kernel
    | false => decide +kernel
  · simp only [List.mem_cons, List.not_mem_nil, or_false] at htext
    rcases htext with rfl | rfl | rfl | rfl
    · exact isShowable_escape _
    · exact isShowable_escape _
    · exact isShowable_escape _
    · exact isShowable_escape _

/-- The texts of origins in a policy, in which no closing tag starts. -/
structure HasPlainOrigins (p : Policy) : Prop where
  page : OpensOnly p.page.toList
  frame : ∀ frame ∈ p.frame, OpensOnly frame.origin.toList

theorem isShowable_title {p : Policy} (hp : HasPlainOrigins p) (ds : List Decision) :
    isShowable (decisionsTable p ds).title = true := by
  rw [isShowable_iff]
  apply OpensOnly.canShow
  have hpage : OpensOnly ("Policy for ".toList ++ (escape p.page).toList) :=
    (opensOnly_of_not_mem (by decide)).append hp.page.escape
      fun c hc _ _ hbracket => by
        obtain rfl : ' ' = c := Option.some.inj hc
        exact absurd hbracket (by decide)
  rw [decisionsTable]
  cases hframe : p.frame with
  | none =>
      simp only [String.toList_append, String.toList_empty, List.append_nil]
      exact hpage
  | some frame =>
      have hbehind : OpensOnly
          (" in iframe ".toList ++ (escape frame.origin).toList) :=
        (opensOnly_of_not_mem (by decide)).append (hp.frame frame hframe).escape
          fun c hc _ _ hbracket => by
            obtain rfl : ' ' = c := Option.some.inj hc
            exact absurd hbracket (by decide)
      simp only [String.toList_append]
      refine hpage.append hbehind fun _ _ d hd _ => ?_
      obtain rfl : ' ' = d := Option.some.inj hd
      decide

/-- What is written of decisions: a table of them on a screen, or a document in
which they are listed. -/
def Output.ShowsDecisions (p : Policy) (ds : List Decision) : Output → Prop
  | screen s => s.rows =
      ["", "Feature", "Origin", "Rule", "Reason"] ::
        ds.flatMap fun d => rowLines (decisionRow d)
  | document v => ∃ more, v = decisionsDocument p ds more

theorem lines_decisionsTable (p : Policy) (ds : List Decision) :
    (decisionsTable p ds).lines =
      ["", "Feature", "Origin", "Rule", "Reason"] ::
        ds.flatMap fun d => rowLines (decisionRow d) := by
  have hheadings : rowLines ["", "Feature", "Origin", "Rule", "Reason"] =
      [["", "Feature", "Origin", "Rule", "Reason"]] := by
    decide +kernel
  rw [Table.lines, List.flatMap_cons, decisionsTable, hheadings, List.flatMap_map]
  rfl

/-- Decisions are displayed, as a document or as a table as it is asked for, and
the exit code is zero or one. -/
theorem exists_showDecisions_eq {p : Policy} (hp : HasPlainOrigins p)
    {lines : List String} (hlines : ∀ line ∈ lines, isShowable line = true)
    (format : Format) (ds : List Decision) (more : List (String × Value)) :
    ∃ output, showDecisions format p ds lines more =
        .done (if ds.all (·.allowed) then 0 else 1) output ∧
      output.isDocument = format.json ∧ output.ShowsDecisions p ds := by
  have hall : ∀ text ∈ (Sheet.mk lines (some (decisionsTable p ds))).texts,
      isShowable text = true := by
    intro text htext
    rcases List.mem_append.mp htext with hline | htable
    · exact hlines text hline
    · rcases List.mem_cons.mp htable with rfl | hcell
      · exact isShowable_title hp ds
      · rw [List.flatten_cons, List.mem_append] at hcell
        rcases hcell with hheading | hcell
        · have hheadings : ∀ heading ∈ ["", "Feature", "Origin", "Rule", "Reason"],
              isShowable heading = true := by
            decide +kernel
          exact hheadings text hheading
        · obtain ⟨row, hrow, hcell⟩ := List.mem_flatten.mp hcell
          obtain ⟨d, -, rfl⟩ := List.mem_map.mp hrow
          exact isShowable_of_mem_decisionRow hcell
  rw [showDecisions]
  cases format.json with
  | true => exact ⟨_, rfl, rfl, more, rfl⟩
  | false =>
      rw [if_neg Bool.false_ne_true, print_of_isShowable hall]
      refine ⟨_, rfl, rfl, ?_⟩
      rw [Output.ShowsDecisions, rows_screen_of_isShowable hall]
      exact lines_decisionsTable p ds

end Command

end FeatureGrant
