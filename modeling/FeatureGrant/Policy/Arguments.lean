import FeatureGrant.Failure

/-!
# Arguments of any shape

Builds a policy from values of any shape.  They are looked at in order: the
page, its header, the defaults and the frame; the first that cannot be used is
the failure.
-/

namespace FeatureGrant

/-- The name of the type of an object. -/
def Instance.typeName : Instance → String
  | allowlist _ => "AllowList"
  | policyMap m => m.form.name
  | frameInfo _ => "FrameInfo"
  | frameContext .. => "FrameContext"
  | decision _ => "PolicyDecision"
  | scenario _ => "PolicyConfig"
  | page _ => "FetchedPolicy"
  | mapping typeName _ | other typeName => typeName

/-- A map that stands in a record as a value. -/
def Held.value : Held → Value
  | fresh _ => .null
  | shared number _ => .object number ""

/-- The fields of a record. -/
def Instance.fields? : Instance → Option (List (Value × Value))
  | allowlist _ => some [(.text "kind", .null), (.text "origins", .null)]
  | policyMap _ => some [(.text "features", .null)]
  | frameInfo info =>
    some [(.text "origin", .text info.origin),
      (.text "allow", match info.allow with
        | .text s => .text s
        | .map held => held.value)]
  | frameContext origin allow =>
    some [(.text "origin", .text origin), (.text "allow", allow.value)]
  | decision d =>
    some [(.text "allowed", .boolean d.allowed), (.text "reason", .text d.reason),
      (.text "rule_matched", .null), (.text "feature", .text d.feature),
      (.text "origin", match d.origin with
        | some origin => .text origin
        | none => .null)]
  | scenario s =>
    some [(.text "origin", .text s.origin), (.text "header", .text s.header),
      (.text "default_allowlist", .null), (.text "frame", .null)]
  | page p =>
    some [(.text "url", .text p.url), (.text "status_code", .integer p.status),
      (.text "header", .text p.header)]
  | mapping _ entries => some entries
  | other _ => none

namespace Arguments

variable (known : Registry)

/-- The name of the type of a value. -/
def typeName : Value → String
  | .null => "NoneType"
  | .boolean _ => "bool"
  | .integer _ => "int"
  | .real _ => "float"
  | .text _ => "str"
  | .bytes _ => "bytes"
  | .date _ => "datetime.date"
  | .time .. => "datetime.datetime"
  | .list _ => "list"
  | .pair .. => "tuple"
  | .set _ => "set"
  | .map _ => "dict"
  | .object number _ => (known number).typeName

/-- A value without an attribute that is needed. -/
def lacks (v : Value) (name : String) : Failure :=
  .system "AttributeError" ("'" ++ typeName known v ++ "' object has no attribute '"
    ++ name ++ "'")

/-- A header: a text or a map. -/
def header (v : Value) : Except Failure (Source PolicyMap) :=
  match v, known.instance? v with
  | .text s, _ => .ok (.text s)
  | _, .policyMap m => .ok (.map m)
  | v, _ => .error (lacks known v "features")

/-- The defaults: a map from features. A value that counts as false stands for
none. -/
def defaults (v : Value) : Except Failure (OrderedMap Value) :=
  if v.isFalsy then .ok ∅
  else
    match known.entries? v with
    | some entries =>
      .ok (.ofList (entries.map fun (key, value) => (key.plain, value)))
    | none => .error (lacks known v "items")

/-- The parts of a value that is taken apart into a key and a value. -/
def parts? : Value → Option (List Value)
  | .text s => some (s.toList.map fun c => .text (String.ofList [c]))
  | .list items | .set items => some items
  | .pair first second => some [first, second]
  | .map entries => some (entries.map Prod.fst)
  | _ => none

/-- The entry that the item with an index in a list of entries stands for. -/
def entry (index : Nat) (v : Value) : Except Failure (Value × Value) :=
  let place := "dictionary update sequence element #" ++ toString index
  match parts? v with
  | none => .error (.system "TypeError" ("cannot convert " ++ place ++ " to a sequence"))
  | some [key, value] =>
    match key with
    | .list _ | .map _ | .set _ =>
      .error (.system "TypeError" ("unhashable type: '" ++ typeName known key ++ "'"))
    | key => .ok (key, value)
  | some parts =>
    .error (.system "ValueError" (place ++ " has length " ++ toString parts.length
      ++ "; 2 is required"))

/-- The entries of a value that is turned into a map. -/
def entries (v : Value) : Except Failure (List (Value × Value)) :=
  match v with
  | .map entries => .ok entries
  | .object number _ =>
    match (known number).fields? with
    | some entries => .ok entries
    | none =>
      .error (.system "TypeError" ("'" ++ typeName known v ++ "' object is not iterable"))
  | v =>
    match parts? v with
    | some parts => (Schema.indexed parts).mapM fun (i, part) => entry known i part
    | none =>
      .error (.system "TypeError" ("'" ++ typeName known v ++ "' object is not iterable"))

/-- A frame, if there is one. -/
def frame (v : Value) : Except Failure (Option (FrameInfo Held)) :=
  match v, known.instance? v with
  | .null, _ => .ok none
  | _, .frameInfo info => .ok (some info)
  | v, _ => do
    let entries ← entries known v
    let info ← (Schema.frameInfo known (.map entries)).mapError (.shape "FrameInfo")
    .ok (some info)

/-- Builds a policy. -/
def policy (page header' defaults' frame' : Value) : Except Failure Policy := do
  let page ← (originOf page).mapError InvalidUrl.failure
  let source ← header known header'
  let header ← (Policy.readHeader page source).mapError BuildFault.failure
  let values ← defaults known defaults'
  let defaults ← (Policy.readDefaults values).mapError BuildFault.failure
  let p : Policy := { page, header, defaults, frame := none }
  match ← frame known frame' with
  | none => .ok p
  | some info => (p.withFrame (info.mapAllow Held.content)).mapError BuildFault.failure

end Arguments

end FeatureGrant
