import FeatureGrant.Command.Check
import FeatureGrant.Proofs.Command.Display
import FeatureGrant.Proofs.Policy.Refusal

/-!
# Drafts of checks

What a file or the options of a check describe is a draft: a page with its header
and its defaults, and perhaps a frame.  A draft makes a policy exactly if all its
parts can be used.  Otherwise a fault is reported, except that a few things break
a check without a report: a folder in place of a file, a file that cannot be
decoded or holds a value that cannot be represented, and an empty text as the
URL of a frame.
-/

namespace FeatureGrant.Command

open FeatureGrant.Text

/-- What a check is about. -/
structure Draft where
  origin : String
  header : String
  defaults : OrderedMap Value
  frame : Option (FrameInfo PolicyMap)

namespace Draft

/-- Whether all parts of a draft can be used. -/
structure IsUsable (d : Draft) : Prop where
  origin : canonical? d.origin ≠ none
  header : ∃ m, Header.parse d.header = .ok m
  defaults : ∀ entry ∈ d.defaults.entries, Default.ofValue? entry.2 ≠ none
  frame : ∀ info ∈ d.frame, info.IsUsable

/-- The policy of a draft. -/
def policy (d : Draft) : Except BuildFault Policy :=
  Policy.build (.text d.origin) (.text d.header) d.defaults d.frame

end Draft

/-! ## What a check is about -/

/-- A draft that a file or the options of a request describe. -/
inductive IsDrafted (folder : Folder) (request : CheckRequest) : Draft → Prop
  | file {name path : String} {content : List UInt8} {s : Scenario Held}
      (hconfig : request.config = some name)
      (hfile : folder.find? name = some (path, .file content))
      (hload : Scenario.ofBytes content = .ok s) :
      IsDrafted folder request
        { origin := s.origin
          header := s.header
          defaults := s.defaults.map fun d => .text d.text
          frame := s.frame.map (·.mapAllow Held.content) }
  | options {origin : String} {defaults : OrderedMap Value}
      (hconfig : request.config = none) (horigin : request.origin = some origin)
      (hdefaults : readDefaults request.defaults = .ok defaults) :
      IsDrafted folder request
        { origin, header := request.header, defaults, frame := none }

variable {wording : Wording} {folder : Folder} {request : CheckRequest}

theorem build_none (page : Value) (header : Source PolicyMap)
    (defaults : OrderedMap Value) :
    Policy.build page header defaults none = Policy.ofPage page header defaults := by
  rw [Policy.build]
  cases Policy.ofPage page header defaults with
  | error fault => rfl
  | ok p => rfl

theorem IsDrafted.isReported {d : Draft} (hd : IsDrafted folder request d)
    {fault : BuildFault} (hfault : d.policy = .error fault) :
    fault.failure.IsReported := by
  cases hd with
  | file _ _ hload => exact Scenario.isReported_of_policy hload hfault
  | options =>
      have hnone : ∀ info ∈ (none : Option (FrameInfo PolicyMap)),
          info.attribute.IsValid := nofun
      exact Policy.isReported_of_build hnone hfault

/-! ## Failing to describe a policy -/

/-- The origins of a policy that is described are canonical, so no closing tag
starts in them. -/
theorem hasPlainOrigins_of_build {page : Value} {header : Source PolicyMap}
    {defaults : OrderedMap Value} {info? : Option (FrameInfo PolicyMap)}
    {p : Policy} (hp : Policy.build page header defaults info? = .ok p) :
    HasPlainOrigins p := by
  constructor
  · obtain ⟨url, hurl⟩ := exists_canonical?_of_originOf
      (Policy.ofPage_eq_ok_iff.mp (Policy.ofPage_of_build hp)).1
    exact opensOnly_of_canonical? hurl
  · intro frame hframe
    obtain ⟨info, -, hread⟩ := Policy.exists_readFrame_of_build hp hframe
    exact opensOnly_of_canonical? (Policy.readFrame_eq_ok hread).1

end FeatureGrant.Command
