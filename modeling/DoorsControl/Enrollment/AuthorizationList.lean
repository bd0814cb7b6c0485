import DoorsControl.Enrollment.Binding

/-!
# Authorization lists

What `_scan_authorization_list` makes of a list. `elements` is what the list contains, whether a
scan gets through it or not.

* `seen_of_scanned` — what one element does to the result;
* `scanAuthorizationList_reads` — **what a scan returns**, in terms of the elements: the tag for
  keys without authentication counts anywhere, and of the roots of trust the last one;
* `passes_iff_favourable` — the lists that say what is asked for.
-/

namespace DoorsControl.Enrollment

/-! ## The elements of a list -/

/-- Tag numbers and bodies, as `_scan_authorization_list` walks them. -/
def elements (content : Bytes) : List (Nat × Bytes) :=
  match _found : scanElement content with
  | none => []
  | some (tagNumber, body, rest) => (tagNumber, body) :: elements rest
termination_by content.length
decreasing_by exact scanElement_shorter _found

structure RootOfTrust where
  deviceLocked : Bool
  bootState : BootState
  deriving DecidableEq

/-- What a body says under the tag of a root of trust, if it has three fields. -/
def readRootOfTrust (body : Bytes) : Except DerError (Option RootOfTrust) := do
  let (inner, _) ← readTlv body
  let fields ← readSequence inner.content
  match fields with
  | _ :: locked :: state :: _ =>
      return some ⟨locked.content = [0xFF], bootState (asInt state)⟩
  | _ => return none

/-- The root of trust that an element states. -/
def statedRoot (element : Nat × Bytes) : Option RootOfTrust :=
  if element.1 = tagRootOfTrust then (readRootOfTrust element.2).toOption.join else none

/-- The body can be read, if the scan reads it. -/
def ReadableElement (element : Nat × Bytes) : Prop :=
  (element.1 = tagRootOfTrust → ∃ root, readRootOfTrust element.2 = .ok root) ∧
    (element.1 = tagUserAuthType → ∃ read, readTlv element.2 = .ok read)

/-- The roots of trust in a list, in its order. -/
def rootsOf (content : Bytes) : List RootOfTrust := (elements content).filterMap statedRoot

/-- The list contains `noAuthRequired`. -/
def listsNoAuth (content : Bytes) : Bool :=
  (elements content).any fun element => element.1 = tagNoAuthRequired

def Readable (content : Bytes) : Prop := ∀ element ∈ elements content, ReadableElement element

theorem elements_nil {content : Bytes} (ended : scanElement content = none) :
    elements content = [] := by
  rw [elements]
  split
  · rfl
  · rename_i found
    rw [ended] at found
    cases found

theorem elements_cons {content body rest : Bytes} {tagNumber : Nat}
    (found : scanElement content = some (tagNumber, body, rest)) :
    elements content = (tagNumber, body) :: elements rest := by
  rw [elements]
  split
  · rename_i ended
    rw [found] at ended
    cases ended
  · rename_i found'
    rw [found] at found'
    cases found'
    rfl

theorem scanLoop_nil (out : Scanned) {content : Bytes} (ended : scanElement content = none) :
    scanLoop out content = .ok out := by
  rw [scanLoop]
  split
  · rfl
  · rename_i found
    rw [ended] at found
    cases found

theorem scanLoop_cons (out : Scanned) {content body rest : Bytes} {tagNumber : Nat}
    (found : scanElement content = some (tagNumber, body, rest)) :
    scanLoop out content = scanned out tagNumber body >>= fun out => scanLoop out rest := by
  rw [scanLoop]
  split
  · rename_i ended
    rw [found] at ended
    cases ended
  · rename_i found'
    rw [found] at found'
    cases found'
    rfl

/-! ## One element -/

/-- The result holds what a root of trust says. -/
def Scanned.Tells (out : Scanned) (root : Option RootOfTrust) : Prop :=
  out.bootState = root.map RootOfTrust.bootState ∧
    out.deviceLocked = root.map RootOfTrust.deviceLocked

/-- The result with the fields of a root of trust. -/
def Scanned.withRoot (out : Scanned) : Option RootOfTrust → Scanned
  | some root =>
      { out with deviceLocked := some root.deviceLocked, bootState := some root.bootState }
  | none => out

theorem scanned_root (out : Scanned) (body : Bytes) :
    scanned out tagRootOfTrust body = (readRootOfTrust body).map out.withRoot := by
  unfold scanned readRootOfTrust
  rw [if_pos rfl]
  cases readTlv body with
  | error error => rfl
  | ok read =>
      cases fields : readSequence read.1.content with
      | error error => simp [bind, Except.bind, fields, Except.map]
      | ok items =>
          simp only [bind, Except.bind, fields]
          rcases items with _ | ⟨first, _ | ⟨locked, _ | ⟨state, more⟩⟩⟩
          · rfl
          · rfl
          · rfl
          · rfl

theorem tags_differ : tagRootOfTrust ≠ tagNoAuthRequired ∧ tagRootOfTrust ≠ tagUserAuthType ∧
    tagNoAuthRequired ≠ tagUserAuthType := by
  decide

theorem scanned_noAuth (out : Scanned) (body : Bytes) :
    scanned out tagNoAuthRequired body = .ok { out with noAuthRequired := true } := by
  unfold scanned
  rw [if_neg tags_differ.1.symm, if_pos rfl]
  rfl

theorem scanned_userAuth (out : Scanned) (body : Bytes) :
    scanned out tagUserAuthType body =
      (readTlv body).map fun read => { out with userAuthType := some (asInt read.1) } := by
  unfold scanned
  rw [if_neg tags_differ.2.1.symm, if_neg tags_differ.2.2.symm, if_pos rfl]
  cases readTlv body with
  | error error => rfl
  | ok read => rfl

theorem scanned_other (out : Scanned) {tagNumber : Nat} (body : Bytes)
    (noRoot : tagNumber ≠ tagRootOfTrust) (noAuth : tagNumber ≠ tagNoAuthRequired)
    (noType : tagNumber ≠ tagUserAuthType) : scanned out tagNumber body = .ok out := by
  unfold scanned
  rw [if_neg noRoot, if_neg noAuth, if_neg noType]
  rfl

theorem statedRoot_other {element : Nat × Bytes} (noRoot : element.1 ≠ tagRootOfTrust) :
    statedRoot element = none := by
  unfold statedRoot
  rw [if_neg noRoot]

/-- One element is read, and is seen in the result. -/
structure Seen (element : Nat × Bytes) (out out' : Scanned) : Prop where
  readable : ReadableElement element
  noAuth : out'.noAuthRequired = (out.noAuthRequired || element.1 = tagNoAuthRequired)
  root : ∀ root, out.Tells root → out'.Tells ((statedRoot element).or root)

theorem seen_root {out out' : Scanned} {body : Bytes}
    (read : scanned out tagRootOfTrust body = .ok out') : Seen (tagRootOfTrust, body) out out' := by
  rw [scanned_root] at read
  cases isRoot : readRootOfTrust body with
  | error error =>
      rw [isRoot] at read
      cases read
  | ok root =>
      rw [isRoot] at read
      obtain rfl := Except.ok.inj read
      have stated : statedRoot (tagRootOfTrust, body) = root := by
        unfold statedRoot
        rw [if_pos rfl, isRoot]
        rfl
      refine ⟨⟨fun _ => ⟨root, isRoot⟩, fun same => absurd same tags_differ.2.1⟩, ?_, ?_⟩
      · rw [decide_eq_false tags_differ.1, Bool.or_false]
        cases root <;> rfl
      · intro before tells
        rw [stated]
        cases root with
        | none => exact tells
        | some root => exact ⟨rfl, rfl⟩

theorem seen_of_scanned {element : Nat × Bytes} {out out' : Scanned}
    (read : scanned out element.1 element.2 = .ok out') : Seen element out out' := by
  obtain ⟨tagNumber, body⟩ := element
  by_cases isRoot : tagNumber = tagRootOfTrust
  · subst isRoot
    exact seen_root read
  · -- no other element changes what is known of the root of trust
    have told : ∀ {mid : Scanned}, (∀ root, out.Tells root → mid.Tells root) →
        ∀ root, out.Tells root → mid.Tells ((statedRoot (tagNumber, body)).or root) := by
      rw [statedRoot_other isRoot]
      exact fun same => same
    by_cases isNoAuth : tagNumber = tagNoAuthRequired
    · subst isNoAuth
      rw [scanned_noAuth] at read
      obtain rfl := Except.ok.inj read
      refine ⟨⟨fun same => absurd same isRoot, fun same => absurd same tags_differ.2.2⟩, ?_,
        told fun _ tells => tells⟩
      rw [decide_eq_true rfl, Bool.or_true]
    · have noAuth : ∀ now : Bool, now = (now || decide (tagNumber = tagNoAuthRequired)) := by
        intro now
        rw [decide_eq_false isNoAuth, Bool.or_false]
      by_cases isType : tagNumber = tagUserAuthType
      · subst isType
        rw [scanned_userAuth] at read
        cases tlv : readTlv body with
        | error error =>
            rw [tlv] at read
            cases read
        | ok value =>
            rw [tlv] at read
            obtain rfl := Except.ok.inj read
            exact ⟨⟨fun same => absurd same isRoot, fun _ => ⟨value, tlv⟩⟩, noAuth _,
              told fun _ tells => tells⟩
      · rw [scanned_other out body isRoot isNoAuth isType] at read
        obtain rfl := Except.ok.inj read
        exact ⟨⟨fun same => absurd same isRoot, fun same => absurd same isType⟩, noAuth _,
          told fun _ tells => tells⟩

/-- A readable element is read. -/
theorem scanned_of_readable {element : Nat × Bytes} (readable : ReadableElement element)
    (out : Scanned) : ∃ out', scanned out element.1 element.2 = .ok out' := by
  obtain ⟨tagNumber, body⟩ := element
  by_cases isRoot : tagNumber = tagRootOfTrust
  · obtain ⟨root, read⟩ := readable.1 isRoot
    subst isRoot
    replace read : readRootOfTrust body = .ok root := read
    exact ⟨_, by rw [scanned_root, read]; rfl⟩
  · by_cases isNoAuth : tagNumber = tagNoAuthRequired
    · subst isNoAuth
      exact ⟨_, scanned_noAuth out body⟩
    · by_cases isType : tagNumber = tagUserAuthType
      · obtain ⟨value, read⟩ := readable.2 isType
        subst isType
        replace read : readTlv body = .ok value := read
        exact ⟨_, by rw [scanned_userAuth, read]; rfl⟩
      · exact ⟨out, scanned_other out body isRoot isNoAuth isType⟩

/-! ## A whole list -/

/-- What a scan returns. -/
structure Reads (content : Bytes) (out out' : Scanned) : Prop where
  readable : Readable content
  noAuth : out'.noAuthRequired = (out.noAuthRequired || listsNoAuth content)
  root : ∀ root, out.Tells root → out'.Tells ((rootsOf content).getLast?.or root)

theorem scanLoop_reads {content : Bytes} {out out' : Scanned}
    (read : scanLoop out content = .ok out') : Reads content out out' := by
  cases found : scanElement content with
  | none =>
      rw [scanLoop_nil out found] at read
      obtain rfl := Except.ok.inj read
      have empty := elements_nil found
      refine ⟨?_, ?_, ?_⟩
      · intro element mem
        rw [empty] at mem
        cases mem
      · rw [listsNoAuth, empty, List.any_nil, Bool.or_false]
      · intro root tells
        rw [rootsOf, empty]
        exact tells
  | some element =>
      obtain ⟨tagNumber, body, rest⟩ := element
      rw [scanLoop_cons out found] at read
      obtain ⟨mid, first, more⟩ := exceptBind_ok read
      have seen : Seen (tagNumber, body) out mid := seen_of_scanned first
      have later := scanLoop_reads more
      have split := elements_cons found
      refine ⟨?_, ?_, ?_⟩
      · intro element mem
        rw [split] at mem
        rcases List.mem_cons.mp mem with rfl | mem
        · exact seen.readable
        · exact later.readable element mem
      · rw [later.noAuth, seen.noAuth, Bool.or_assoc, listsNoAuth, listsNoAuth, split,
          List.any_cons]
      · intro root tells
        have told := later.root _ (seen.root root tells)
        rw [rootsOf, split, List.filterMap_cons]
        cases stated : statedRoot (tagNumber, body) with
        | none =>
            rw [stated] at told
            exact told
        | some this =>
            -- the last root of trust wins
            rw [stated] at told
            rw [List.getLast?_cons]
            show out'.Tells (some _)
            cases last : (rootsOf rest).getLast? with
            | none =>
                rw [last] at told
                rw [rootsOf] at last
                rw [last]
                exact told
            | some final =>
                rw [last] at told
                rw [rootsOf] at last
                rw [last]
                exact told
termination_by content.length
decreasing_by exact scanElement_shorter found

/-- A list whose elements can be read is read. -/
theorem scanLoop_of_readable {content : Bytes} (readable : Readable content) (out : Scanned) :
    ∃ out', scanLoop out content = .ok out' := by
  cases found : scanElement content with
  | none => exact ⟨out, scanLoop_nil out found⟩
  | some element =>
      obtain ⟨tagNumber, body, rest⟩ := element
      have split := elements_cons found
      have first : ReadableElement (tagNumber, body) :=
        readable _ (by rw [split]; exact List.mem_cons_self)
      obtain ⟨mid, read⟩ := scanned_of_readable first out
      have later : Readable rest := fun element mem =>
        readable element (by rw [split]; exact List.mem_cons_of_mem _ mem)
      obtain ⟨out', more⟩ := scanLoop_of_readable later mid
      refine ⟨out', ?_⟩
      rw [scanLoop_cons out found]
      replace read : scanned out tagNumber body = .ok mid := read
      rw [read]
      exact more
termination_by content.length
decreasing_by exact scanElement_shorter found

/-- **What a scan returns**, in terms of the elements. -/
theorem scanAuthorizationList_reads {content : Bytes} {out : Scanned}
    (read : scanAuthorizationList content = .ok out) :
    Readable content ∧ out.noAuthRequired = listsNoAuth content ∧
      out.Tells (rootsOf content).getLast? := by
  have reads := scanLoop_reads read
  have told := reads.root none ⟨rfl, rfl⟩
  rw [Option.or_none] at told
  exact ⟨reads.readable, by rw [reads.noAuth, Bool.false_or], told⟩

/-- A list that says what is asked for: it can be read, its last root of trust is of a locked
device in verified boot, and it does not contain `noAuthRequired`. -/
structure Favourable (content : Bytes) : Prop where
  readable : Readable content
  root : (rootsOf content).getLast? = some ⟨true, .verified⟩
  auth : listsNoAuth content = false

/-- What the checks ask of a scan. -/
def Scanned.Passes (out : Scanned) : Prop :=
  out.bootState = some .verified ∧ out.deviceLocked = some true ∧ out.noAuthRequired = false

theorem Scanned.Tells.passes_iff {out : Scanned} {root : Option RootOfTrust}
    (tells : out.Tells root) :
    out.Passes ↔ root = some ⟨true, .verified⟩ ∧ out.noAuthRequired = false := by
  obtain ⟨boot, locked⟩ := tells
  unfold Scanned.Passes
  rw [boot, locked]
  constructor
  · rintro ⟨isVerified, isLocked, auth⟩
    cases root with
    | none => cases isVerified
    | some root =>
        obtain ⟨deviceLocked, bootState⟩ := root
        obtain rfl : bootState = .verified := Option.some.inj isVerified
        obtain rfl : deviceLocked = true := Option.some.inj isLocked
        exact ⟨rfl, auth⟩
  · rintro ⟨rfl, auth⟩
    exact ⟨rfl, rfl, auth⟩

/-- A list passes exactly if it is favourable. -/
theorem passes_iff_favourable (content : Bytes) :
    (∃ out, scanAuthorizationList content = .ok out ∧ out.Passes) ↔ Favourable content := by
  constructor
  · rintro ⟨out, read, passes⟩
    obtain ⟨readable, noAuth, tells⟩ := scanAuthorizationList_reads read
    obtain ⟨root, auth⟩ := tells.passes_iff.mp passes
    exact ⟨readable, root, by rw [← noAuth]; exact auth⟩
  · rintro ⟨readable, root, auth⟩
    obtain ⟨out, read⟩ := scanLoop_of_readable readable {}
    obtain ⟨-, noAuth, tells⟩ := scanAuthorizationList_reads read
    exact ⟨out, read, tells.passes_iff.mpr ⟨root, by rw [noAuth]; exact auth⟩⟩

end DoorsControl.Enrollment
