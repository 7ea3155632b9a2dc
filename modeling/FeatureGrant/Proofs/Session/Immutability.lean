import FeatureGrant.Proofs.Session.Steps

/-!
# Policies do not change

Whatever is done in a session to the objects that a policy was built from, or
to those that its properties gave out, the policy answers every question as
before.
-/

namespace FeatureGrant.Session

/-- A question to a policy. -/
inductive Question
  | evaluate (feature : String) (origin : Value)
  | allows (feature : String) (origin : Value)
  | features
  | allowedFeatures (origin : Value)
  | get (name : Option String) (property : Property)
  | look

namespace Question

/-- The step that asks the policy of a name. -/
def step (of : String) : Question → Step
  | evaluate feature origin => .evaluate of feature origin
  | allows feature origin => .allows of feature origin
  | features => .features of
  | allowedFeatures origin => .allowedFeatures of origin
  | get name property => .get name of property
  | look => .look of

/-- The origin that a question is about. -/
def origin : Question → Value
  | evaluate _ origin | allows _ origin | allowedFeatures origin => origin
  | features | get .. | look => .null

end Question

namespace State

variable {s t : State}

/-- A state that literal steps lead to. -/
def Reachable (s : State) : Prop :=
  ∃ steps : List Step, (∀ step ∈ steps, step.Literal) ∧ empty.after steps = s

theorem Reachable.separate (hs : s.Reachable) : s.Separate := by
  obtain ⟨steps, hsteps, rfl⟩ := hs
  exact (evolves_after separate_empty hsteps).separate

/-! ## Answers -/

theorem step_snd (s : State) (step : Step) :
    (s.step step).2 = (s.perform step).map Prod.snd := by
  unfold State.step
  cases s.perform step with
  | error failure => rfl
  | ok r => rfl

theorem map_snd_bind {α : Type} (x : Except Failure α) (f : α → Shown) :
    (x >>= fun a => .ok (s, f a)).map Prod.snd = x.map f := by
  cases x with
  | error failure => rfl
  | ok a => rfl

theorem showRef_bind (name : Option String) (ref shown : Ref) :
    (s.bind name ref).showRef shown = s.showRef shown := by
  cases name with
  | none => rfl
  | some name => rfl

theorem showRef_add (s : State) (c : Content) :
    (s.add c).1.showRef (.object (s.add c).2) = (s.add c).1.showContent c := by
  rw [showRef, getElem?_add]

theorem mapAt_add (s : State) (m : PolicyMap) :
    (s.add (.policyMap m)).1.mapAt (s.add (.policyMap m)).2 = m := by
  rw [State.mapAt, getElem?_add]

theorem present_add_snd (s : State) (name : Option String) (c : Content) :
    ((s.add c).1.present name (s.add c).2).2 = (s.add c).1.showContent c :=
  (showRef_bind name _ _).trans (s.showRef_add c)

theorem property_header_snd (s : State) (name : Option String) (number : Nat)
    (p : LivePolicy) :
    (s.property name number p .header).2 = .policyMap (s.mapAt p.header) :=
  s.present_add_snd name (.policyMap (s.mapAt p.header))

theorem property_frame_snd (s : State) (name : Option String) (number : Nat)
    (p : LivePolicy) :
    (s.property name number p .frame).2 =
      match p.frame with
      | none => .nothing
      | some (origin, allow) => .frameContext origin (s.mapAt allow) := by
  obtain ⟨page, header, defaults, frame⟩ := p
  cases frame with
  | none => rfl
  | some frame =>
      obtain ⟨origin, allow⟩ := frame
      let copied := s.add (.policyMap (s.mapAt allow))
      let content := Content.frameContext origin copied.2
      have hcopy : (copied.1.add content).1.mapAt copied.2 = s.mapAt allow := by
        have hmap := mapAt_append (s.isMap_add (s.mapAt allow)) [content]
        exact hmap.trans (s.mapAt_add (s.mapAt allow))
      have hshown := copied.1.present_add_snd name content
      rw [showContent, hcopy] at hshown
      exact hshown

/-- What a policy and its number answer to a question. -/
def answer (s : State) (number : Nat) (p : LivePolicy) :
    Question → Except Failure Shown
  | .evaluate feature origin =>
    (s.resolve origin).map fun origin =>
      .decision ((s.snapshot p).evaluate feature origin).decision
  | .allows feature origin =>
    (s.resolve origin).map fun origin =>
      .allowed ((s.snapshot p).allows feature origin)
  | .features => .ok (.features (s.snapshot p).features)
  | .allowedFeatures origin =>
    (s.resolve origin).map fun origin =>
      .features ((s.snapshot p).allowedFeatures origin)
  | .get name wanted => .ok (s.property name number p wanted).2
  | .look => .ok (.policy (s.snapshot p))

theorem step_question_snd {name : String} {n : Nat} {p : LivePolicy}
    (hname : s.names.get? name = some (.object n))
    (hp : s.policyAt? n = some p) (q : Question) :
    (s.step (q.step name)).2 = s.answer n p q := by
  have hnamed (wanted : String) : s.namedPolicy name wanted = .ok (n, p) :=
    namedPolicy_eq_ok_iff.mpr ⟨hname, hp⟩
  rw [step_snd]
  cases q with
  | evaluate feature origin =>
      simp only [Question.step, perform, hnamed, answer]
      exact map_snd_bind (s.resolve origin) _
  | allows feature origin =>
      simp only [Question.step, perform, hnamed, answer]
      exact map_snd_bind (s.resolve origin) _
  | features =>
      simp only [Question.step, perform, hnamed, answer]
      rfl
  | allowedFeatures origin =>
      simp only [Question.step, perform, hnamed, answer]
      exact map_snd_bind (s.resolve origin) _
  | get name wanted =>
      simp only [Question.step, perform, hnamed, answer]
      rfl
  | look =>
      have hshown : s.showRef (.object n) = .policy (s.snapshot p) := by
        simp only [showRef, policyAt?_eq_some_iff.mp hp, showContent]
      simp only [Question.step, perform, lookup_eq_ok_iff.mpr hname, answer,
        ← hshown]
      rfl

theorem property_snd_eq (he : Evolves s t) {n : Nat} {p : LivePolicy}
    (hp : s.policyAt? n = some p) (name : Option String) (wanted : Property) :
    (t.property name n p wanted).2 = (s.property name n p wanted).2 := by
  have howned (k : Nat) (hk : k ∈ p.owned) : t.mapAt k = s.mapAt k :=
    he.mapAt k ⟨n, p, hp, hk⟩
  cases wanted with
  | header =>
      rw [property_header_snd, property_header_snd,
        howned p.header List.mem_cons_self]
  | frame =>
      rw [property_frame_snd, property_frame_snd]
      cases hframe : p.frame with
      | none => rfl
      | some frame =>
          have hallow : t.mapAt frame.2 = s.mapAt frame.2 :=
            howned frame.2 (LivePolicy.mem_owned_of_frame hframe)
          exact congrArg (Shown.frameContext frame.1) hallow
  | defaults =>
      have hdefaults : t.defaultsAt n = s.defaultsAt n := by
        rw [defaultsAt, defaultsAt, hp, he.policyAt? n p hp]
      rw [property, property, showRef, showRef, hdefaults]
  | origin => rfl
  | isFrame => rfl

theorem answer_eq (he : Evolves s t) {n : Nat} {p : LivePolicy}
    (hp : s.policyAt? n = some p) {q : Question}
    (horigin : t.resolve q.origin = s.resolve q.origin) :
    t.answer n p q = s.answer n p q := by
  have hsnapshot := he.snapshot_eq hp
  cases q with
  | evaluate feature origin =>
      rw [Question.origin] at horigin
      rw [answer, answer, hsnapshot, horigin]
  | allows feature origin =>
      rw [Question.origin] at horigin
      rw [answer, answer, hsnapshot, horigin]
  | features => rw [answer, answer, hsnapshot]
  | allowedFeatures origin =>
      rw [Question.origin] at horigin
      rw [answer, answer, hsnapshot, horigin]
  | get name wanted => rw [answer, answer, property_snd_eq he hp]
  | look => rw [answer, answer, hsnapshot]

/-- A policy is the same, and answers every question about the same origin as
before, whatever steps are taken after it was built. -/
theorem policy_unchanged (hs : s.Reachable) {more : List Step}
    (hmore : ∀ step ∈ more, step.Literal) {n : Nat} {p : LivePolicy}
    (hp : s.policyAt? n = some p) :
    (s.after more).policyAt? n = some p ∧
      (s.after more).snapshot p = s.snapshot p ∧
      ∀ x y, s.names.get? x = some (.object n) →
        (s.after more).names.get? y = some (.object n) →
        ∀ q : Question, (s.after more).resolve q.origin = s.resolve q.origin →
          ((s.after more).step (q.step y)).2 = (s.step (q.step x)).2 := by
  have he := evolves_after hs.separate hmore
  have hp' := he.policyAt? n p hp
  refine ⟨hp', he.snapshot_eq hp, ?_⟩
  intro x y hx hy q horigin
  rw [step_question_snd hx hp, step_question_snd hy hp', answer_eq he hp horigin]

/-- A policy is built from a frame that shares the map of its attribute. -/
def opening : List Step :=
  [.parseAllow (some "attribute") (.text "camera *"),
    .make (some "frame") .frameInfo (.map
      [(.text "origin", .text "https://b.example"),
        (.text "allow", .map [(.text "ref", .text "attribute")])]),
    .policy (some "policy") (.text "https://a.example") (.text "") .null
      (.map [(.text "ref", .text "frame")])]

/-- The camera is taken away in the map that was shared, and in the one that
the policy gives out. -/
def changes : List Step :=
  [.set "attribute" "camera" (.map [(.text "kind", .text "none")]),
    .get (some "context") "policy" .frame,
    .set "context" "camera" (.map [(.text "kind", .text "none")])]

/-- The policy answers as before. -/
theorem allows_camera_after_changes :
    (((empty.after opening).after changes).step
        (.allows "policy" "camera" (.text ""))).2 =
      ((empty.after opening).step (.allows "policy" "camera" (.text ""))).2 := by
  have hbuilt : ((empty.after opening).policyAt? 4).isSome = true := by
    decide
  obtain ⟨p, hp⟩ := Option.isSome_iff_exists.mp hbuilt
  have hs : (empty.after opening).Reachable := ⟨opening, by decide, rfl⟩
  obtain ⟨-, -, hanswers⟩ := policy_unchanged hs
    (show ∀ step ∈ changes, step.Literal by decide) hp
  exact hanswers "policy" "policy" (by decide) (by decide)
    (.allows "camera" (.text "")) rfl

end State

end FeatureGrant.Session
