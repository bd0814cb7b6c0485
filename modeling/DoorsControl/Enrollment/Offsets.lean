import DoorsControl.Enrollment.AuthorizationList
import DoorsControl.Enrollment.Grammar
import DoorsControl.Kit.While

/-!
# Hostile bytes

The readers of `attestation.py` as they are, with offsets into the buffer, an `IndexError` where
an index is beyond it, and loops that need not end.

* `readTlvAt_eq` — one value of the strict reader;
* `readSequenceAt_eq`, `tagAt_eq`, `scanAt_eq` — the three loops;
* `parse_total` — **the parser returns or raises `DerError`**, whatever it is given.
-/

namespace DoorsControl.Enrollment

open Kit (Advances Loops Turn whileLoop ended)

inductive ReadError where
  | derError (error : DerError)
  | indexError
  deriving DecidableEq

/-- `data[index]` -/
def byteAt (data : Bytes) (index : Nat) : Loops ReadError UInt8 :=
  match data[index]? with
  | some byte => return byte
  | none => throw .indexError

/-- `data[start:stop]` -/
def slice (data : Bytes) (start stop : Nat) : Bytes := (data.take stop).drop start

/-- `items[index]` -/
def itemAt (items : List DerValue) (index : Nat) : Loops ReadError DerValue :=
  match items[index]? with
  | some item => return item
  | none => throw .indexError

/-! ## The readers -/

/-- The end of `_read_tlv`. -/
def readContentAt (data : Bytes) (tag : UInt8) (length offset : Nat) :
    Loops ReadError (DerValue × Nat) :=
  let stop := offset + length
  if stop > data.length then throw (.derError .beyondBuffer)
  else return (⟨tag, slice data offset stop⟩, stop)

/-- `_read_tlv` -/
def readTlvAt (data : Bytes) (offset : Nat) : Loops ReadError (DerValue × Nat) :=
  if offset ≥ data.length then throw (.derError .truncated)
  else do
    let tag ← byteAt data offset
    let offset := offset + 1
    if tag &&& 0x1F = 0x1F then throw (.derError .highTagNumber)
    else if offset ≥ data.length then throw (.derError .truncatedLength)
    else
      let length ← byteAt data offset
      let offset := offset + 1
      if length &&& 0x80 ≠ 0 then
        let count := (length &&& 0x7F).toNat
        if count = 0 ∨ count > 4 ∨ offset + count > data.length then
          throw (.derError .badLength)
        else
          readContentAt data tag (fromBytesBig (slice data offset (offset + count)))
            (offset + count)
      else readContentAt data tag length.toNat offset

/-- One turn of the loop of `_read_sequence`. -/
def sequenceTurn (content : Bytes) :
    List DerValue × Nat → Loops ReadError (Turn (List DerValue × Nat) (List DerValue))
  | (items, offset) =>
      if offset < content.length then do
        let (value, offset) ← readTlvAt content offset
        return .again (items ++ [value], offset)
      else return .leave items

/-- `_read_sequence` -/
def readSequenceAt (turns : Nat) (content : Bytes) : Loops ReadError (List DerValue) :=
  whileLoop (sequenceTurn content) turns ([], 0)

/-- One turn of the loop over the octets of a tag. -/
def tagTurn (content : Bytes) : Nat × Nat → Loops ReadError (Turn (Nat × Nat) (Nat × Nat))
  | (tagNumber, cursor) =>
      if cursor < content.length then do
        let byte ← byteAt content cursor
        let cursor := cursor + 1
        let tagNumber := (tagNumber <<< 7) ||| (byte &&& 0x7F).toNat
        if byte &&& 0x80 = 0 then return .leave (tagNumber, cursor)
        else return .again (tagNumber, cursor)
      else return .leave (tagNumber, cursor)

/-- The tag at the head of an element, and where it ends. -/
def tagAt (turns : Nat) (content : Bytes) (first : UInt8) (cursor : Nat) :
    Loops ReadError (Nat × Nat) :=
  if first &&& 0x1F = 0x1F then whileLoop (tagTurn content) turns (0, cursor)
  else return ((first &&& 0x1F).toNat, cursor)

/-- The length after it, and where that ends. -/
def lengthAt (content : Bytes) (length : UInt8) (cursor : Nat) : Nat × Nat :=
  if length &&& 0x80 ≠ 0 then
    let count := (length &&& 0x7F).toNat
    (fromBytesBig (slice content cursor (cursor + count)), cursor + count)
  else (length.toNat, cursor)

/-- What one element does to the result. -/
def scannedAt (turns : Nat) (out : Scanned) (tagNumber : Nat) (body : Bytes) :
    Loops ReadError Scanned :=
  if tagNumber = tagRootOfTrust then do
    let (inner, _) ← readTlvAt body 0
    let fields ← readSequenceAt turns inner.content
    if fields.length ≥ 3 then
      let locked ← itemAt fields 1
      let state ← itemAt fields 2
      return { out with
        deviceLocked := some (locked.content = [0xFF])
        bootState := some (bootState (asInt state)) }
    else return out
  else if tagNumber = tagNoAuthRequired then return { out with noAuthRequired := true }
  else if tagNumber = tagUserAuthType then do
    let (inner, _) ← readTlvAt body 0
    return { out with userAuthType := some (asInt inner) }
  else return out

/-- One turn of the loop of `_scan_authorization_list`. -/
def scanTurn (turns : Nat) (content : Bytes) :
    Scanned × Nat → Loops ReadError (Turn (Scanned × Nat) Scanned)
  | (out, offset) =>
      if offset < content.length then
        if offset ≥ content.length then return .leave out
        else do
          let first ← byteAt content offset
          let (tagNumber, cursor) ← tagAt turns content first (offset + 1)
          if cursor ≥ content.length then return .leave out
          else
            let length ← byteAt content cursor
            let (length, cursor) := lengthAt content length (cursor + 1)
            let body := slice content cursor (cursor + length)
            let out ← scannedAt turns out tagNumber body
            return .again (out, cursor + length)
      else return .leave out

/-- `_scan_authorization_list` -/
def scanAt (turns : Nat) (content : Bytes) : Loops ReadError Scanned :=
  whileLoop (scanTurn turns content) turns ({}, 0)

/-- `_parse_key_description`, each of whose loops has so many turns at most. -/
def parseKeyDescriptionAt (turns : Nat) (extension : Bytes) : Loops ReadError KeyDescription := do
  let (root, _) ← readTlvAt extension 0
  let items ← readSequenceAt turns root.content
  if items.length < 8 then throw (.derError .tooFewFields)
  else
    let version ← itemAt items 0
    let level ← itemAt items 1
    let keymaster ← itemAt items 2
    let keymasterLevel ← itemAt items 3
    let challenge ← itemAt items 4
    let uniqueId ← itemAt items 5
    let tee ← itemAt items 7
    let authorization ← scanAt turns tee.content
    let authorization ←
      if authorization.bootState = none then do
        let software ← itemAt items 6
        scanAt turns software.content
      else pure authorization
    return {
      attestationVersion := asInt version
      attestationSecurityLevel := securityLevel (asInt level)
      keymasterVersion := asInt keymaster
      keymasterSecurityLevel := securityLevel (asInt keymasterLevel)
      attestationChallenge := challenge.content
      uniqueId := uniqueId.content
      authorization }

/-! ## What is left of a buffer -/

/-- A result of the readers that do without offsets. -/
def lifted {α : Type} (result : Except DerError α) : Loops ReadError α :=
  ended (result.mapError .derError)

theorem lifted_bind {α β : Type} {result : Except DerError α} {f : α → Loops ReadError β}
    {g : α → Except DerError β} (same : ∀ a, result = .ok a → f a = lifted (g a)) :
    (lifted result >>= f) = lifted (result >>= g) := by
  cases result with
  | error error => rfl
  | ok a => exact same a rfl

theorem byteAt_drop {data rest : Bytes} {index : Nat} {byte : UInt8}
    (left : data.drop index = byte :: rest) :
    byteAt data index = ended (.ok byte) ∧ data.drop (index + 1) = rest ∧ index < data.length := by
  have found : data[index]? = some byte := by
    have head : (data.drop index)[0]? = some byte := by
      rw [left]
      rfl
    rwa [List.getElem?_drop, Nat.add_zero] at head
  refine ⟨?_, ?_, (List.getElem?_eq_some_iff.mp found).1⟩
  · unfold byteAt
    rw [found]
    rfl
  · rw [← List.drop_drop, left]
    rfl

theorem slice_eq (data : Bytes) (offset n : Nat) :
    slice data offset (offset + n) = (data.drop offset).take n := by
  unfold slice
  rw [List.drop_take, Nat.add_sub_cancel_left]

/-- Where a rest starts. -/
theorem drop_of_suffix {data rest : Bytes} (suffix : rest <:+ data) :
    data.drop (data.length - rest.length) = rest :=
  (List.suffix_iff_eq_drop.mp suffix).symm

theorem readContentAt_eq {data : Bytes} {offset : Nat} (inside : offset ≤ data.length)
    (tag : UInt8) (length : Nat) :
    readContentAt data tag length offset =
      lifted ((readContent tag length (data.drop offset)).map fun read =>
        (read.1, data.length - read.2.length)) := by
  unfold readContentAt readContent
  by_cases beyond : offset + length > data.length
  · have short : (data.drop offset).length < length := by
      rw [List.length_drop]
      exact Nat.sub_lt_left_of_lt_add inside beyond
    rw [if_pos beyond, if_pos short]
    rfl
  · have stop : data.length - ((data.drop offset).drop length).length = offset + length := by
      rw [List.drop_drop, List.length_drop]
      omega
    rw [if_neg beyond, if_neg (by rw [List.length_drop]; omega), slice_eq]
    show _ = ended (.ok (_, data.length - ((data.drop offset).drop length).length))
    rw [stop]
    rfl

/-- One value, at an offset. -/
theorem readTlvAt_eq (data : Bytes) (offset : Nat) :
    readTlvAt data offset = lifted ((readTlv (data.drop offset)).map fun read =>
      (read.1, data.length - read.2.length)) := by
  unfold readTlvAt
  cases left : data.drop offset with
  | nil =>
      rw [if_pos (List.drop_eq_nil_iff.mp left)]
      rfl
  | cons tag rest =>
      -- each check of the offset says whether anything is left, so that the next index is there
      obtain ⟨isTag, left, before⟩ := byteAt_drop left
      rw [if_neg (by omega), isTag, Kit.ended_ok_bind]
      unfold readTlv
      dsimp only
      by_cases high : tag &&& 0x1F = 0x1F
      · rw [if_pos high, if_pos high]
        rfl
      rw [if_neg high, if_neg high]
      cases rest with
      | nil =>
          rw [if_pos (List.drop_eq_nil_iff.mp left)]
          rfl
      | cons length rest =>
          obtain ⟨isLength, left, before⟩ := byteAt_drop left
          rw [if_neg (by omega), isLength, Kit.ended_ok_bind]
          dsimp only
          have size : rest.length = data.length - (offset + 1 + 1) := by
            rw [← left, List.length_drop]
          by_cases more : length &&& 0x80 ≠ 0
          · rw [if_pos more, if_pos more]
            by_cases bad : (length &&& 0x7F).toNat = 0 ∨ (length &&& 0x7F).toNat > 4 ∨
                rest.length < (length &&& 0x7F).toNat
            · rw [if_pos bad, if_pos (by omega)]
              rfl
            · have later : data.drop (offset + 1 + 1 + (length &&& 0x7F).toNat) =
                  rest.drop (length &&& 0x7F).toNat := by
                rw [← left, List.drop_drop]
              rw [if_neg bad, if_neg (by omega), readContentAt_eq (by omega), slice_eq, left, later]
          · rw [if_neg more, if_neg more, readContentAt_eq (by omega), left]

theorem readTlv_suffix {data rest : Bytes} {value : DerValue}
    (read : readTlv data = .ok (value, rest)) : rest <:+ data := by
  obtain ⟨encoded, -, rfl⟩ := isTlv_of_read read
  exact List.suffix_append _ _

theorem readTlv_content_le {data rest : Bytes} {value : DerValue}
    (read : readTlv data = .ok (value, rest)) : value.content.length ≤ data.length := by
  obtain ⟨encoded, ⟨-, length, -, -, -, rfl⟩, rfl⟩ := isTlv_of_read read
  simp only [List.length_append, List.length_cons]
  omega

theorem IsTlvs.content_le {content : Bytes} {values : List DerValue}
    (isTlvs : IsTlvs content values) :
    ∀ value ∈ values, value.content.length ≤ content.length := by
  induction isTlvs with
  | nil => exact fun _ mem => absurd mem List.not_mem_nil
  | @cons value encoded rest values head tail ih =>
      have first := readTlv_content_le (readTlv_tlv head rest)
      refine List.forall_mem_cons.mpr ⟨first, fun other mem => ?_⟩
      have later := ih other mem
      rw [List.length_append]
      omega

/-! ## The loop of the strict reader -/

theorem sequenceTurn_advances (content : Bytes) (state : List DerValue × Nat)
    (inside : state.2 ≤ content.length) :
    Advances (sequenceTurn content)
      (fun state => ((readSequence (content.drop state.2)).map (state.1 ++ ·)).mapError .derError)
      (fun state => state.2 ≤ content.length) (fun state => content.length - state.2) state := by
  obtain ⟨items, offset⟩ := state
  dsimp only at inside
  by_cases before : offset < content.length
  · have nonempty : content.drop offset ≠ [] := by
      rw [Ne, List.drop_eq_nil_iff]
      omega
    have turn : sequenceTurn content (items, offset) =
        readTlvAt content offset >>= fun read => pure (.again (items ++ [read.1], read.2)) :=
      if_pos before
    rw [readTlvAt_eq] at turn
    cases read : readTlv (content.drop offset) with
    | error error =>
        rw [read] at turn
        refine .raises turn ?_
        dsimp only
        rw [readSequence_error nonempty read]
        rfl
    | ok found =>
        obtain ⟨value, rest⟩ := found
        rw [read] at turn
        have shorter := readTlv_shorter read
        -- the next offset is where the rest starts, and the rest is shorter
        have starts := drop_of_suffix ((readTlv_suffix read).trans (List.drop_suffix _ _))
        rw [List.length_drop] at shorter
        refine .goesOn turn (Nat.sub_le _ _) (by dsimp only; omega) ?_
        dsimp only
        rw [starts, readSequence_cons read]
        cases readSequence rest with
        | error error => rfl
        | ok values => exact congrArg Except.ok (List.append_assoc items [value] values).symm
  · have ends : content.drop offset = [] := List.drop_eq_nil_iff.mpr (by omega)
    refine .leaves (if_neg before) ?_
    dsimp only
    rw [ends, readSequence_nil]
    exact congrArg Except.ok (List.append_nil items)

theorem readSequenceAt_eq {turns : Nat} {content : Bytes} (enough : content.length < turns) :
    readSequenceAt turns content = lifted (readSequence content) := by
  unfold readSequenceAt
  rw [Kit.whileLoop_eq (sequenceTurn_advances content) (Nat.zero_le _) (by exact enough)]
  dsimp only
  rw [List.drop_zero]
  cases readSequence content <;> rfl

/-! ## The loop over a tag -/

theorem tagTurn_advances (content : Bytes) (state : Nat × Nat) (inside : state.2 ≤ content.length) :
    Advances (tagTurn content)
      (fun state => .ok ((readTagNumber state.1 (content.drop state.2)).1,
        content.length - (readTagNumber state.1 (content.drop state.2)).2.length))
      (fun state => state.2 ≤ content.length) (fun state => content.length - state.2) state := by
  obtain ⟨number, cursor⟩ := state
  dsimp only at inside
  cases left : content.drop cursor with
  | nil =>
      have ends : ¬ cursor < content.length := by
        rw [List.drop_eq_nil_iff] at left
        omega
      refine .leaves (if_neg ends) ?_
      dsimp only
      rw [left]
      show Except.ok (number, content.length - 0) = _
      rw [show content.length - 0 = cursor by omega]
  | cons byte rest =>
      obtain ⟨isByte, later, before⟩ := byteAt_drop left
      have size : rest.length = content.length - (cursor + 1) := by
        rw [← later, List.length_drop]
      have turn : tagTurn content (number, cursor) =
          if byte &&& 0x80 = 0 then
            pure (.leave ((number <<< 7) ||| (byte &&& 0x7F).toNat, cursor + 1))
          else pure (.again ((number <<< 7) ||| (byte &&& 0x7F).toNat, cursor + 1)) := by
        unfold tagTurn
        dsimp only
        rw [if_pos before, isByte]
        rfl
      by_cases ends : byte &&& 0x80 = 0
      · rw [if_pos ends] at turn
        refine .leaves turn ?_
        dsimp only
        rw [left]
        unfold readTagNumber
        dsimp only
        rw [if_pos ends]
        dsimp only
        rw [size, show content.length - (content.length - (cursor + 1)) = cursor + 1 by omega]
      · rw [if_neg ends] at turn
        refine .goesOn turn before (by dsimp only; omega) ?_
        dsimp only
        rw [left, later]
        conv_lhs => unfold readTagNumber
        dsimp only
        rw [if_neg ends]

/-- A tag, and where it ends. -/
theorem tagAt_eq {turns : Nat} {content : Bytes} (enough : content.length < turns) {cursor : Nat}
    (inside : cursor ≤ content.length) (first : UInt8) :
    tagAt turns content first cursor =
      ended (.ok ((readTag first (content.drop cursor)).1,
        content.length - (readTag first (content.drop cursor)).2.length)) := by
  unfold tagAt readTag
  by_cases high : first &&& 0x1F = 0x1F
  · rw [if_pos high, if_pos high]
    exact Kit.whileLoop_eq (tagTurn_advances content) inside (by dsimp only; omega)
  · rw [if_neg high, if_neg high]
    dsimp only
    rw [List.length_drop, show content.length - (content.length - cursor) = cursor by omega]
    rfl

/-! ## The loop of the scanner -/

theorem lengthAt_eq (content : Bytes) (length : UInt8) (cursor : Nat) :
    (lengthAt content length cursor).1 = (readLength length (content.drop cursor)).1 ∧
      content.drop (lengthAt content length cursor).2 =
          (readLength length (content.drop cursor)).2 ∧
        cursor ≤ (lengthAt content length cursor).2 := by
  unfold lengthAt readLength
  split_ifs
  · dsimp only
    rw [slice_eq, List.drop_drop]
    exact ⟨rfl, rfl, Nat.le_add_right _ _⟩
  · exact ⟨rfl, rfl, le_refl _⟩

theorem readTlvAt_zero (data : Bytes) :
    readTlvAt data 0 = lifted ((readTlv data).map fun read =>
      (read.1, data.length - read.2.length)) := by
  rw [readTlvAt_eq, List.drop_zero]

theorem scannedAt_eq {turns : Nat} {body : Bytes} (enough : body.length < turns) (out : Scanned)
    (tagNumber : Nat) :
    scannedAt turns out tagNumber body = lifted (scanned out tagNumber body) := by
  unfold scannedAt scanned
  by_cases isRoot : tagNumber = tagRootOfTrust
  · rw [if_pos isRoot, if_pos isRoot, readTlvAt_zero]
    cases read : readTlv body with
    | error error => rfl
    | ok found =>
        obtain ⟨inner, rest⟩ := found
        have smaller := readTlv_content_le read
        show (readSequenceAt turns inner.content >>= _) = lifted (readSequence inner.content >>= _)
        rw [readSequenceAt_eq (by omega)]
        refine lifted_bind fun fields _ => ?_
        rcases fields with _ | ⟨first, _ | ⟨locked, _ | ⟨state, more⟩⟩⟩
        · rfl
        · rfl
        · rfl
        · rw [if_pos (by simp only [List.length_cons]; omega)]
          rfl
  rw [if_neg isRoot, if_neg isRoot]
  by_cases isNoAuth : tagNumber = tagNoAuthRequired
  · rw [if_pos isNoAuth, if_pos isNoAuth]
    rfl
  rw [if_neg isNoAuth, if_neg isNoAuth]
  by_cases isType : tagNumber = tagUserAuthType
  · rw [if_pos isType, if_pos isType, readTlvAt_zero]
    cases readTlv body with
    | error error => rfl
    | ok found => rfl
  · rw [if_neg isType, if_neg isType]
    rfl

/-- One turn, from the end of the tag on. -/
theorem scanTurn_tagged {turns : Nat} {content : Bytes} (enough : content.length < turns)
    (out : Scanned) {offset tagNumber : Nat} {first : UInt8} {data rest : Bytes}
    (left : content.drop offset = first :: data) (tagged : readTag first data = (tagNumber, rest)) :
    scanTurn turns content (out, offset) =
      if content.length - rest.length ≥ content.length then pure (.leave out)
      else do
        let length ← byteAt content (content.length - rest.length)
        let (length, cursor) := lengthAt content length (content.length - rest.length + 1)
        let out ← scannedAt turns out tagNumber (slice content cursor (cursor + length))
        return .again (out, cursor + length) := by
  obtain ⟨isFirst, later, before⟩ := byteAt_drop left
  unfold scanTurn
  dsimp only
  rw [if_pos before, if_neg (by omega), isFirst, Kit.ended_ok_bind, tagAt_eq enough before,
    Kit.ended_ok_bind, later, tagged]

/-- One turn, in terms of what is left of the buffer. -/
theorem scanTurn_eq {turns : Nat} {content : Bytes} (enough : content.length < turns)
    (out : Scanned) {offset : Nat} (before : offset < content.length) :
    (scanElement (content.drop offset) = none ∧
        scanTurn turns content (out, offset) = ended (.ok (.leave out))) ∨
      ∃ tagNumber body stop, offset < stop ∧
        scanElement (content.drop offset) = some (tagNumber, body, content.drop stop) ∧
          scanTurn turns content (out, offset) =
            lifted (scanned out tagNumber body) >>= fun out => pure (.again (out, stop)) := by
  obtain ⟨first, data, left⟩ : ∃ first data, content.drop offset = first :: data :=
    List.exists_cons_of_ne_nil (by rw [Ne, List.drop_eq_nil_iff]; omega)
  obtain ⟨-, later, -⟩ := byteAt_drop left
  rcases tagged : readTag first data with ⟨tagNumber, rest⟩
  have turn := scanTurn_tagged enough out left tagged
  have suffix : rest <:+ data := by
    have suffix := readTag_suffix first data
    rwa [tagged] at suffix
  -- behind the tag, the cursor is where the rest starts
  have starts := drop_of_suffix (suffix.trans (later ▸ List.drop_suffix _ _))
  have size := suffix.length_le
  have size' : data.length = content.length - (offset + 1) := by
    rw [← later, List.length_drop]
  rw [left]
  unfold scanElement
  simp only [tagged]
  cases rest with
  | nil =>
      have ends : content.length - ([] : Bytes).length ≥ content.length := Nat.le_refl _
      rw [if_pos ends] at turn
      exact .inl ⟨rfl, turn⟩
  | cons length rest =>
      obtain ⟨isLength, after, inside⟩ := byteAt_drop starts
      obtain ⟨isNumber, isRest, moved⟩ :=
        lengthAt_eq content length (content.length - (length :: rest).length + 1)
      rcases measured : lengthAt content length (content.length - (length :: rest).length + 1) with
        ⟨n, cursor⟩
      rw [measured] at isNumber isRest moved
      rw [after] at isNumber isRest
      dsimp only at isNumber isRest moved
      -- `cursor` may be beyond the buffer, since a length is not checked; then both are empty
      have bodyIs : slice content cursor (cursor + n) =
          (readLength length rest).2.take (readLength length rest).1 := by
        rw [slice_eq, isRest, isNumber]
      have small : ((readLength length rest).2.take (readLength length rest).1).length < turns := by
        have shorter := readLength_shorter length rest
        rw [List.length_take]
        rw [List.length_cons] at size
        omega
      rw [if_neg (by omega), isLength, Kit.ended_ok_bind, measured] at turn
      dsimp only at turn
      rw [bodyIs, scannedAt_eq small] at turn
      refine .inr ⟨_, _, cursor + n, ?_, ?_, turn⟩
      · omega
      · rw [← List.drop_drop, isRest, isNumber]

theorem scanTurn_advances {turns : Nat} {content : Bytes} (enough : content.length < turns)
    (state : Scanned × Nat) :
    Advances (scanTurn turns content)
      (fun state => (scanLoop state.1 (content.drop state.2)).mapError .derError)
      (fun _ => True) (fun state => content.length - state.2) state := by
  obtain ⟨out, offset⟩ := state
  by_cases before : offset < content.length
  · rcases scanTurn_eq enough out before with
      ⟨none, turn⟩ | ⟨tagNumber, body, stop, moved, found, turn⟩
    · refine .leaves turn ?_
      dsimp only
      rw [scanLoop_nil out none]
      rfl
    · have loop := scanLoop_cons out found
      cases read : scanned out tagNumber body with
      | error error =>
          rw [read] at turn loop
          refine .raises turn ?_
          dsimp only
          rw [loop]
          rfl
      | ok out' =>
          rw [read] at turn loop
          -- `offset` is within the buffer: the measure gets less, however far `stop` is
          refine .goesOn turn trivial (by dsimp only; omega) ?_
          dsimp only
          rw [loop]
          rfl
  · have ends : content.drop offset = [] := List.drop_eq_nil_iff.mpr (by omega)
    refine .leaves (if_neg before) ?_
    dsimp only
    rw [ends, scanLoop_nil out rfl]
    rfl

theorem scanAt_eq {turns : Nat} {content : Bytes} (enough : content.length < turns) :
    scanAt turns content = lifted (scanAuthorizationList content) := by
  unfold scanAt
  rw [Kit.whileLoop_eq (fun state _ => scanTurn_advances enough state) trivial (by exact enough)]
  rfl

/-! ## The parser -/

theorem parseKeyDescriptionAt_eq {turns : Nat} {extension : Bytes}
    (enough : extension.length < turns) :
    parseKeyDescriptionAt turns extension = lifted (parseKeyDescription extension) := by
  unfold parseKeyDescriptionAt parseKeyDescription
  rw [readTlvAt_zero]
  cases read : readTlv extension with
  | error error => rfl
  | ok found =>
      obtain ⟨root, rest⟩ := found
      have smaller := readTlv_content_le read
      show (readSequenceAt turns root.content >>= _) = lifted (readSequence root.content >>= _)
      rw [readSequenceAt_eq (by omega)]
      refine lifted_bind fun items isItems => ?_
      have small := (isTlvs_of_read isItems).content_le
      rcases items with _ | ⟨version, _ | ⟨level, _ | ⟨keymaster, _ | ⟨keymasterLevel, _ |
        ⟨challenge, _ | ⟨uniqueId, _ | ⟨software, _ | ⟨tee, more⟩⟩⟩⟩⟩⟩⟩⟩
      -- too few fields
      iterate 8
        · rfl
      have teeSmall := small tee (by simp)
      have softwareSmall := small software (by simp)
      rw [if_neg (by simp only [List.length_cons]; omega)]
      show (scanAt turns tee.content >>= _) = lifted (scanAuthorizationList tee.content >>= _)
      rw [scanAt_eq (by omega)]
      refine lifted_bind fun authorization _ => ?_
      by_cases unknown : authorization.bootState = none
      · rw [if_pos unknown, if_pos unknown]
        show (scanAt turns software.content >>= _) =
          lifted (scanAuthorizationList software.content >>= _)
        rw [scanAt_eq (by omega)]
        exact lifted_bind fun _ _ => rfl
      · rw [if_neg unknown, if_neg unknown]
        rfl

/-- **The parser returns or raises `DerError`**, whatever it is given, and no loop has more turns
than there are octets, and one. -/
theorem parse_total (extension : Bytes) (turns : Nat) (enough : extension.length < turns) :
    parseKeyDescriptionAt turns extension =
        ended ((parseKeyDescription extension).mapError .derError) ∧
      ((∃ parsed, parseKeyDescriptionAt turns extension = ended (.ok parsed)) ∨
        ∃ error, parseKeyDescriptionAt turns extension = ended (.error (.derError error))) := by
  have same := parseKeyDescriptionAt_eq enough
  refine ⟨same, ?_⟩
  rw [same]
  cases parseKeyDescription extension with
  | error error => exact .inr ⟨error, rfl⟩
  | ok parsed => exact .inl ⟨parsed, rfl⟩

/-- A length of 127 octets, and a tag without an end. -/
def hostile : Bytes :=
  [0x30, 0x15, 0x04, 0x00, 0x04, 0x00, 0x04, 0x00, 0x04, 0x00, 0x04, 0x00, 0x04, 0x00,
    0x30, 0x03, 0x01, 0xFF, 0x00, 0x30, 0x02, 0x1F, 0x80]

/-- A length of the indefinite form raises; `hostile` does not. -/
theorem parse_total_sample :
    parseKeyDescriptionAt 3 [0x30, 0x80] = ended (.error (.derError .badLength)) ∧
      ∃ parsed, parseKeyDescriptionAt 24 hostile = ended (.ok parsed) := by
  refine ⟨(parse_total [0x30, 0x80] 3 (by decide)).1, ?_⟩
  obtain ⟨same, -⟩ := parse_total hostile 24 (by decide)
  rw [same]
  have returns : (parseKeyDescription hostile).toOption.isSome = true := by
    decide +kernel
  cases parsing : parseKeyDescription hostile with
  | error error =>
      rw [parsing] at returns
      cases returns
  | ok parsed => exact ⟨parsed, rfl⟩

end DoorsControl.Enrollment
