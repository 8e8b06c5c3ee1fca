/-
Bounded paths, component by component. What is accepted is appended whole, with a slash before it only where one is
wanted; what is refused leaves the path as it was; and the path stays shorter than its capacity, which never changes.
A component is refused for want of room exactly if the path with it would not be shorter than the capacity, and by the
length of that path, except on the empty path: there a slash is counted that is not written.
-/
import UsbInventory.Proofs.Path.Joining

namespace UsbInventory

namespace BoundedPath

/-! ## Steps -/

/-- A step with a component: it is appended in place, or to a copy, or to a copy that takes the place of the path. -/
inductive Step where
  | push (component : RawPath)
  | join (component : RawPath)
  | enter (component : RawPath)
  deriving DecidableEq

def Step.component : Step → RawPath
  | push component | join component | enter component => component

/-- Whether the extended path takes the place of the path. -/
def Step.replaces : Step → Bool
  | push _ | enter _ => true
  | join _ => false

/-- What a step answers, and the path after it. -/
def take (p : BoundedPath) : Step → Except PathError BoundedPath × BoundedPath
  | .push component =>
    match p.push component with
    | (q, none) => (.ok q, q)
    | (q, some e) => (.error e, q)
  | .join component => (p.join component, p)
  | .enter component =>
    match p.join component with
    | .ok q => (.ok q, q)
    | .error e => (.error e, p)

/-- The path after some steps. -/
def afterAll (p : BoundedPath) (steps : List Step) : BoundedPath := steps.foldl (fun q step => (q.take step).2) p

variable {p q : BoundedPath} {name : RawPath}

theorem of_ofPath_ok {base : RawPath} {capacity : Nat} (h : ofPath base capacity = .ok p) :
    p.path = base ∧ p.capacity = capacity := by
  unfold ofPath at h
  split at h
  · cases h
    exact ⟨rfl, rfl⟩
  · cases h

/-- Steps that are accepted differ only in which path goes on. -/
theorem take_of_join_ok {step : Step} (h : p.join step.component = .ok q) :
    p.take step = (.ok q, if step.replaces then q else p) := by
  cases step with
  | push component => simp only [take, push, show p.join component = .ok q from h, Step.replaces, if_true]
  | join component => exact congrArg (·, p) h
  | enter component => simp only [take, show p.join component = .ok q from h, Step.replaces, if_true]

theorem take_of_join_error {step : Step} {e : PathError} (h : p.join step.component = .error e) :
    p.take step = (.error e, p) := by
  cases step with
  | push component => simp only [take, push, show p.join component = .error e from h]
  | join component => exact congrArg (·, p) h
  | enter component => simp only [take, show p.join component = .error e from h]

/-! ## The law of a step -/

/-- What a step does: a component is accepted and appended whole, or it is refused for want of room or for its bytes,
and then nothing changes. The length that is told may count one byte too many, the separator. -/
inductive StepLaw (p : BoundedPath) (step : Step) : Except PathError BoundedPath → BoundedPath → Prop where
  | accepted {q : BoundedPath} (component : step.component ≠ [] ∧ RawPath.slash ∉ step.component)
      (whole : q.path = p.path ++
        (if p.path ≠ [] ∧ p.path.getLast? ≠ some RawPath.slash then [RawPath.slash] else []) ++ step.component)
      (capacity : q.capacity = p.capacity) : StepLaw p step (.ok q) (if step.replaces then q else p)
  | tooLong {length : Nat} (component : step.component ≠ [] ∧ RawPath.slash ∉ step.component)
      (unfit : p.capacity ≤ length) (near : length ≤ p.path.length + 1 + step.component.length) :
      StepLaw p step (.error (.tooLong length p.capacity)) p
  | invalid (bytes : step.component = [] ∨ RawPath.slash ∈ step.component) :
      StepLaw p step (.error (.invalidComponent step.component.display)) p

theorem child_eq (path name : RawPath) : path.child name =
    path ++ (if path ≠ [] ∧ path.getLast? ≠ some RawPath.slash then [RawPath.slash] else []) ++ name := by
  unfold RawPath.child RawPath.endsWithSlash
  by_cases hempty : path = []
  · simp [hempty]
  · by_cases hends : path.getLast? = some RawPath.slash <;> simp [hempty, hends]

theorem extendedLength_le (p : BoundedPath) (name : RawPath) :
    p.extendedLength name ≤ p.path.length + 1 + name.length := by
  unfold extendedLength
  split <;> omega

theorem stepLaw_take (p : BoundedPath) (step : Step) : StepLaw p step (p.take step).1 (p.take step).2 := by
  have hjoined := joined p step.component
  cases hj : p.join step.component with
  | ok q =>
    rw [hj] at hjoined
    rw [take_of_join_ok hj]
    cases hjoined with
    | extended component room path capacity =>
      exact .accepted (isComponent_iff.1 component) (path.trans (child_eq _ _)) capacity
  | error e =>
    rw [hj] at hjoined
    rw [take_of_join_error hj]
    cases hjoined with
    | tooLong component full => exact .tooLong (isComponent_iff.1 component) full (p.extendedLength_le _)
    | invalid bytes => exact .invalid (isComponent_eq_false_iff.1 bytes)

/-! ## Runs -/

theorem StepLaw.capacity_eq {step : Step} {answer : Except PathError BoundedPath} (h : StepLaw p step answer q) :
    q.capacity = p.capacity := by
  cases h with
  | accepted component whole capacity =>
    split
    · exact capacity
    · rfl
  | tooLong => rfl
  | invalid => rfl

/-- A step leaves the path as it is, or appends its component. -/
theorem StepLaw.path_eq {step : Step} {answer : Except PathError BoundedPath} (h : StepLaw p step answer q) :
    q.path = p.path ∨ q.path = p.path.child step.component := by
  cases h with
  | accepted component whole capacity =>
    split
    · exact .inr (whole.trans (child_eq _ _).symm)
    · exact .inl rfl
  | tooLong => exact .inl rfl
  | invalid => exact .inl rfl

theorem afterAll_cons (p : BoundedPath) (step : Step) (steps : List Step) :
    p.afterAll (step :: steps) = (p.take step).2.afterAll steps := rfl

theorem capacity_afterAll : ∀ (steps : List Step) (p : BoundedPath), (p.afterAll steps).capacity = p.capacity
  | [], _ => rfl
  | step :: steps, p => by
    rw [afterAll_cons, capacity_afterAll steps, (p.stepLaw_take step).capacity_eq]

/-- After some steps the path is the one at the start with some of the components appended, in order. -/
theorem path_afterAll : ∀ (steps : List Step) (p : BoundedPath), ∃ names : List RawPath,
    names.Sublist (steps.map Step.component) ∧ (p.afterAll steps).path = names.foldl RawPath.child p.path
  | [], _ => ⟨[], .slnil, rfl⟩
  | step :: steps, p => by
    obtain ⟨names, hsub, hpath⟩ := path_afterAll steps (p.take step).2
    rcases (p.stepLaw_take step).path_eq with hkept | hgrown
    · exact ⟨names, hsub.cons _, by rw [afterAll_cons, hpath, hkept]⟩
    · exact ⟨step.component :: names, hsub.cons_cons _, by rw [afterAll_cons, hpath, hgrown, List.foldl_cons]⟩

/-- From a base that fits, after any steps: the path is shorter than the unchanged capacity, it is the base with some of
the components, and whatever step comes next keeps its law. -/
theorem steps_keep_capacity {base : RawPath} {capacity : Nat} {p : BoundedPath} (h : ofPath base capacity = .ok p)
    (done : List Step) :
    (p.afterAll done).capacity = capacity ∧ (p.afterAll done).path.length < capacity ∧
    (∃ names : List RawPath, names.Sublist (done.map Step.component) ∧
      (p.afterAll done).path = names.foldl RawPath.child base) ∧
    ∀ step, StepLaw (p.afterAll done) step ((p.afterAll done).take step).1 ((p.afterAll done).take step).2 := by
  obtain ⟨rfl, rfl⟩ := of_ofPath_ok h
  have hcapacity := capacity_afterAll done p
  have hfits := (p.afterAll done).fits
  rw [hcapacity] at hfits
  exact ⟨hcapacity, hfits, path_afterAll done p, stepLaw_take _⟩

/-- Steps below `/dev` with room for eight bytes: one too long, one to a copy, one that is no component, and one that
fills the path, after which nothing more fits. -/
theorem dev_steps_keep_capacity : ∃ p, ofPath (RawPath.ofString "/dev") 9 = .ok p ∧
    let q := p.afterAll [.push (RawPath.ofString "usbxyz"), .join (RawPath.ofString "usb"),
      .enter (RawPath.ofString "a/b"), .push (RawPath.ofString "usb")]
    q.path = RawPath.ofString "/dev/usb" ∧ q.capacity = 9 ∧ q.path.length < 9 ∧
      StepLaw q (.enter (RawPath.ofString "x")) (.error (.tooLong 10 9)) q := by
  have hbase : ofPath (RawPath.ofString "/dev") 9 = .ok ⟨RawPath.ofString "/dev", 9, by decide +kernel⟩ := rfl
  refine ⟨_, hbase, ?_⟩
  intro q
  obtain ⟨hcapacity, hfits, -, hlaw⟩ := steps_keep_capacity hbase [.push (RawPath.ofString "usbxyz"),
    .join (RawPath.ofString "usb"), .enter (RawPath.ofString "a/b"), .push (RawPath.ofString "usb")]
  refine ⟨by decide +kernel, hcapacity, hfits, ?_⟩
  exact hlaw (.enter (RawPath.ofString "x"))

/-! ## Refusals -/

/-- What it is for a path to refuse exactly what does not fit: a component is too long exactly if the path with it is
not shorter than the capacity, and then that length and that capacity are told. -/
structure RefusesExactly (p : BoundedPath) (name : RawPath) : Prop where
  refused : (∃ length capacity, (p.push name).2 = some (.tooLong length capacity)) ↔
    p.capacity ≤ (p.path.join name).length
  told : ∀ length capacity, (p.push name).2 = some (.tooLong length capacity) →
    length = (p.path.join name).length ∧ capacity = p.capacity

theorem push_of_full (hc : isComponent name = true) (h : p.capacity ≤ p.extendedLength name) :
    p.push name = (p, some (.tooLong (p.extendedLength name) p.capacity)) := by
  have hjoin : p.join name = .error (.tooLong (p.extendedLength name) p.capacity) := by
    unfold join
    rw [dif_pos hc, dif_neg (Nat.not_lt.2 h)]
  unfold push
  rw [hjoin]

/-- A component is pushed unless the length that is checked reaches the capacity, which is then told. -/
theorem push_eq_tooLong_iff (hc : isComponent name = true) {length capacity : Nat} :
    (p.push name).2 = some (.tooLong length capacity) ↔
      p.capacity ≤ p.extendedLength name ∧ length = p.extendedLength name ∧ capacity = p.capacity := by
  have hjoined := joined p name
  unfold push
  generalize p.join name = answer at hjoined ⊢
  cases hjoined with
  | extended component room => simp; omega
  | tooLong component full => simp [full, eq_comm]
  | invalid bytes =>
    rw [hc] at bytes
    cases bytes

theorem refusesExactly_iff_length (hc : isComponent name = true) : p.RefusesExactly name ↔
    p.extendedLength name < p.capacity ∨ p.extendedLength name = (p.path.join name).length := by
  have hle := p.length_join_le hc
  constructor
  · intro h
    by_cases hfull : p.capacity ≤ p.extendedLength name
    · exact .inr (h.told _ _ ((push_eq_tooLong_iff hc).2 ⟨hfull, rfl, rfl⟩)).1
    · exact .inl (Nat.lt_of_not_le hfull)
  · intro h
    refine ⟨?_, fun length capacity he => ?_⟩
    · simp only [push_eq_tooLong_iff hc]
      constructor
      · rintro ⟨length, capacity, hfull, -⟩
        omega
      · exact fun hfull => ⟨_, _, by omega, rfl, rfl⟩
    · obtain ⟨hfull, rfl, rfl⟩ := (push_eq_tooLong_iff hc).1 he
      exact ⟨by omega, rfl⟩

/-- The empty path with a name is the name, but a separator is counted before it. -/
theorem length_join_empty (hp : p.path = []) (hc : isComponent name = true) :
    (p.path.join name).length = name.length ∧ p.extendedLength name = name.length + 1 := by
  refine ⟨?_, ?_⟩
  · rw [RawPath.join_of_relative (isAbsolute_of_isComponent hc), hp]
    rfl
  · unfold extendedLength
    rw [hp]
    simp [RawPath.endsWithSlash, Nat.add_comm]

/-- A path refuses exactly what does not fit unless it is empty and the component with a separator reaches the capacity;
the empty path then tells a length that is one byte too great, and refuses the component also if only that byte is too
many. -/
theorem refuses_exactly_iff (p : BoundedPath) {name : RawPath} (some_ : name ≠ []) (whole : RawPath.slash ∉ name) :
    (p.RefusesExactly name ↔ p.path ≠ [] ∨ name.length + 1 < p.capacity) ∧
    (p.path = [] → p.capacity ≤ name.length + 1 →
      p.push name = (p, some (.tooLong (name.length + 1) p.capacity))) := by
  have hc : isComponent name = true := isComponent_iff.2 ⟨some_, whole⟩
  refine ⟨?_, fun hp hfull => ?_⟩
  · rw [refusesExactly_iff_length hc]
    by_cases hp : p.path = []
    · obtain ⟨hjoin, hextended⟩ := length_join_empty hp hc
      rw [hjoin, hextended]
      simp [hp]
    · exact iff_of_true (.inr (extendedLength_eq hp hc)) (.inl hp)
  · obtain ⟨-, hextended⟩ := length_join_empty hp hc
    rw [push_of_full hc (hextended ▸ hfull), hextended]

/-- The empty path with room for one byte. -/
def emptyPath : BoundedPath := ⟨[], 2, by decide⟩

theorem empty_path_refuses_one_byte : RawPath.ofString "a" ≠ [] ∧ RawPath.slash ∉ RawPath.ofString "a" ∧
    (emptyPath.path.join (RawPath.ofString "a")).length < emptyPath.capacity ∧
    emptyPath.push (RawPath.ofString "a") = (emptyPath, some (.tooLong 2 2)) ∧
    ¬ emptyPath.RefusesExactly (RawPath.ofString "a") := by
  have some_ : RawPath.ofString "a" ≠ [] := by decide +kernel
  have whole : RawPath.slash ∉ RawPath.ofString "a" := by decide +kernel
  obtain ⟨hlaw, hrefused⟩ := refuses_exactly_iff emptyPath some_ whole
  refine ⟨some_, whole, by decide +kernel, hrefused rfl (by decide +kernel), ?_⟩
  rw [hlaw]
  decide +kernel

/-- Not every path refuses exactly what does not fit: the empty one refuses a byte that it has room for. -/
theorem not_every_path_refuses_exactly :
    ¬ ∀ (p : BoundedPath) (name : RawPath), name ≠ [] → RawPath.slash ∉ name → p.RefusesExactly name := by
  intro h
  have hfull : ∃ length capacity, (emptyPath.push (RawPath.ofString "a")).2 = some (.tooLong length capacity) :=
    ⟨2, 2, by decide +kernel⟩
  have hroom := (h emptyPath (RawPath.ofString "a") (by decide +kernel) (by decide +kernel)).refused.1 hfull
  exact absurd hroom (by decide +kernel)

end BoundedPath

end UsbInventory
