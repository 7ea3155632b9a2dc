import FeatureGrant.Default
import Mathlib.Data.Option.Basic

/-!
# How defaults are written

A default has a text of its own, and each but the wildcard has a bare word as
well, which may be written in any case and with white space around it.  Nothing
else is read as a default.
-/

namespace FeatureGrant

open FeatureGrant.Text

namespace Default

/-- The bare word of a default. The wildcard has none. -/
def word? : Default → Option String
  | wildcard => Option.none
  | self => some "self"
  | src => some "src"
  | none => some "none"

/-- The ways to write a default: its own text, and whatever becomes its bare
word without the white space around it and in lower case. -/
inductive IsWritten : Default → String → Prop
  | own (d : Default) : IsWritten d d.text
  | bare {d : Default} {s : String}
      (hword : d.word? = some (String.ofList (lower (trim s.toList)))) :
      IsWritten d s

theorem mem_all (d : Default) : d ∈ all := by
  cases d with
  | wildcard => decide
  | self => decide
  | src => decide
  | none => decide

/-- The default with a text is found by the text. -/
theorem find?_text_eq_some_iff {d : Default} {s : String} :
    all.find? (fun d => d.text = s) = some d ↔ d.text = s := by
  constructor
  · intro hfind
    have htext := List.find?_some hfind
    exact of_decide_eq_true htext
  · rintro rfl
    cases d with
    | wildcard => rfl
    | self => rfl
    | src => rfl
    | none => rfl

theorem find?_text_eq_none_iff {s : String} :
    all.find? (fun d => d.text = s) = Option.none ↔ ∀ d : Default, d.text ≠ s := by
  rw [List.find?_eq_none]
  constructor
  · intro h d htext
    exact h d d.mem_all (decide_eq_true htext)
  · intro h d _ htext
    exact h d (of_decide_eq_true htext)

/-- Between quotation marks, a bare word is the text of its default. -/
theorem text_eq_quoted_iff {d : Default} {s : String} :
    d.text = "'" ++ s ++ "'" ↔ d.word? = some s := by
  have hquoted (word : String) :
      "'" ++ word ++ "'" = "'" ++ s ++ "'" ↔ some word = some s := by
    rw [String.append_left_inj, String.append_right_inj, Option.some.injEq]
  cases d with
  | wildcard =>
      apply iff_of_false
      · intro htext
        have hhead := congrArg (fun text => text.toList.head?) htext
        simp [text] at hhead
      · exact nofun
  | self => exact hquoted "self"
  | src => exact hquoted "src"
  | none => exact hquoted "none"

/-- The text of a default is not the bare word of one. -/
theorem word?_ne (d d' : Default) :
    d.word? ≠ some (String.ofList (lower (trim d'.text.toList))) := by
  cases d' with
  | wildcard => cases d <;> decide
  | self => cases d <;> decide
  | src => cases d <;> decide
  | none => cases d <;> decide

/-- A default is read from what it may be written as, and from nothing else. -/
theorem ofText?_eq_some_iff {d : Default} {s : String} :
    ofText? s = some d ↔ d.IsWritten s := by
  have hbare : all.find? (fun d => d.text =
      "'" ++ String.ofList (lower (trim s.toList)) ++ "'") = some d ↔
        d.word? = some (String.ofList (lower (trim s.toList))) := by
    rw [find?_text_eq_some_iff, text_eq_quoted_iff]
  have hread : ofText? s = some d ↔ d.text = s ∨
      (∀ d' : Default, d'.text ≠ s) ∧
        d.word? = some (String.ofList (lower (trim s.toList))) := by
    rw [← hbare, ← find?_text_eq_some_iff, ← find?_text_eq_none_iff]
    exact Option.orElse_eq_some _ _ d
  rw [hread]
  constructor
  · rintro (rfl | ⟨-, hword⟩)
    · exact .own d
    · exact .bare hword
  · intro hwritten
    cases hwritten with
    | own => exact Or.inl rfl
    | bare hword =>
        right
        refine ⟨?_, hword⟩
        rintro d' rfl
        exact d.word?_ne d' hword

end Default

/-- Whether a value is written like a default: a text that is one of the ways to
write it. -/
def Value.IsDefault (v : Value) : Prop :=
  ∃ s d, v = .text s ∧ Default.IsWritten d s

namespace Default

theorem ofValue?_eq_some_iff {v : Value} {d : Default} :
    ofValue? v = some d ↔ ∃ s, v = .text s ∧ d.IsWritten s := by
  cases v with
  | text s =>
      rw [ofValue?, ofText?_eq_some_iff]
      simp only [Value.text.injEq, exists_eq_left']
  | _ => exact ⟨nofun, fun ⟨s, h, _⟩ => nomatch h⟩

theorem ofValue?_ne_none_iff {v : Value} :
    ofValue? v ≠ Option.none ↔ v.IsDefault := by
  simp only [Option.ne_none_iff_exists', ofValue?_eq_some_iff]
  exact exists_comm

end Default

end FeatureGrant
