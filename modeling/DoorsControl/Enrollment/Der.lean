import DoorsControl.Data.Text

/-!
# The attestation extension

The DER readers of `app/core/attestation.py` and `_parse_key_description`. An offset
into a buffer stands here as what is left of the buffer from there on: every check of
the source compares an offset with the length of the buffer, and slices stop at its
end. `Offsets` has the readers with the offsets, and shows that they come to the same.

There are two readers. `readTlv` and `readSequence` are strict; `scanElement`, the one
turn of `_scan_authorization_list`, knows multi-byte tags and takes what it gets.
-/

namespace DoorsControl.Enrollment

/-- `int.from_bytes(data, "big")` -/
def fromBytesBig (data : Bytes) : Nat := data.foldl (fun n byte => n * 256 + byte.toNat) 0

inductive DerError where
  | truncated
  | highTagNumber
  | truncatedLength
  | badLength
  | beyondBuffer
  | tooFewFields
  deriving DecidableEq, Repr

/-- `str(exc)` -/
def DerError.message : DerError → Text
  | .truncated => text "truncated"
  | .highTagNumber => text "high tag numbers are not supported"
  | .truncatedLength => text "truncated length"
  | .badLength => text "bad length encoding"
  | .beyondBuffer => text "length beyond buffer"
  | .tooFewFields => text "KeyDescription has too few fields"

structure DerValue where
  tag : UInt8
  content : Bytes
  deriving DecidableEq

/-- The end of `_read_tlv`: the content, once its length is known. -/
def readContent (tag : UInt8) (length : Nat) (data : Bytes) : Except DerError (DerValue × Bytes) :=
  if data.length < length then .error .beyondBuffer
  else .ok (⟨tag, data.take length⟩, data.drop length)

/-- `_read_tlv` -/
def readTlv : Bytes → Except DerError (DerValue × Bytes)
  | [] => .error .truncated
  | tag :: data =>
      if tag &&& 0x1F = 0x1F then .error .highTagNumber
      else
        match data with
        | [] => .error .truncatedLength
        | length :: data =>
            if length &&& 0x80 ≠ 0 then
              let count := (length &&& 0x7F).toNat
              if count = 0 ∨ count > 4 ∨ data.length < count then .error .badLength
              else readContent tag (fromBytesBig (data.take count)) (data.drop count)
            else readContent tag length.toNat data

theorem readContent_shorter {tag : UInt8} {length : Nat} {data rest : Bytes} {value : DerValue}
    (read : readContent tag length data = .ok (value, rest)) : rest.length ≤ data.length := by
  unfold readContent at read
  split_ifs at read
  obtain ⟨-, rfl⟩ := Prod.mk.inj (Except.ok.inj read)
  rw [List.length_drop]
  omega

/-- The strict reader always moves on. -/
theorem readTlv_shorter {data rest : Bytes} {value : DerValue}
    (read : readTlv data = .ok (value, rest)) : rest.length < data.length := by
  unfold readTlv at read
  split at read
  · cases read
  · split_ifs at read
    split at read
    · cases read
    · simp only at read
      split_ifs at read
      · have shorter := readContent_shorter read
        rw [List.length_drop] at shorter
        simp only [List.length_cons]
        omega
      · have shorter := readContent_shorter read
        simp only [List.length_cons]
        omega

/-- `_read_sequence` -/
def readSequence (content : Bytes) : Except DerError (List DerValue) :=
  if content = [] then .ok []
  else
    match _read : readTlv content with
    | .error error => .error error
    | .ok (value, rest) => do
        let items ← readSequence rest
        return value :: items
termination_by content.length
decreasing_by exact readTlv_shorter _read

theorem readSequence_nil : readSequence [] = .ok [] := by
  rw [readSequence]
  exact if_pos rfl

theorem readSequence_cons {content rest : Bytes} {value : DerValue}
    (read : readTlv content = .ok (value, rest)) :
    readSequence content = (readSequence rest).map (value :: ·) := by
  have nonempty : content ≠ [] := by
    rintro rfl
    cases read
  rw [readSequence, if_neg nonempty]
  split
  · rename_i failed
    rw [read] at failed
    cases failed
  · rename_i again
    rw [read] at again
    cases again
    cases readSequence rest <;> rfl

theorem readSequence_error {content : Bytes} {error : DerError} (nonempty : content ≠ [])
    (failed : readTlv content = .error error) : readSequence content = .error error := by
  rw [readSequence, if_neg nonempty]
  split
  · rename_i again
    rw [failed] at again
    cases again
    rfl
  · rename_i read
    rw [failed] at read
    cases read

/-- `_as_int` -/
def asInt (value : DerValue) : Nat := if value.content ≠ [] then fromBytesBig value.content else 0

/-! ## The key description -/

/-- `SECURITY_LEVELS`, with `"unknown"`. -/
inductive SecurityLevel where
  | software
  | trustedEnvironment
  | strongbox
  | unknown
  deriving DecidableEq, Repr

def SecurityLevel.label : SecurityLevel → Text
  | .software => text "software"
  | .trustedEnvironment => text "trusted_environment"
  | .strongbox => text "strongbox"
  | .unknown => text "unknown"

/-- `SECURITY_LEVELS.get(level, "unknown")` -/
def securityLevel : Nat → SecurityLevel
  | 0 => .software
  | 1 => .trustedEnvironment
  | 2 => .strongbox
  | _ => .unknown

/-- `BOOT_STATES`, with `"unknown"`. -/
inductive BootState where
  | verified
  | selfSigned
  | unverified
  | failed
  | unknown
  deriving DecidableEq, Repr

def BootState.label : BootState → Text
  | .verified => text "verified"
  | .selfSigned => text "self_signed"
  | .unverified => text "unverified"
  | .failed => text "failed"
  | .unknown => text "unknown"

/-- `BOOT_STATES.get(state, "unknown")` -/
def bootState : Nat → BootState
  | 0 => .verified
  | 1 => .selfSigned
  | 2 => .unverified
  | 3 => .failed
  | _ => .unknown

def tagRootOfTrust : Nat := 704
def tagNoAuthRequired : Nat := 503
def tagUserAuthType : Nat := 504

/-- What `_scan_authorization_list` returns. -/
structure Scanned where
  bootState : Option BootState := none
  deviceLocked : Option Bool := none
  noAuthRequired : Bool := false
  userAuthType : Option Nat := none
  deriving DecidableEq

/-- The inner loop: base-128 digits up to one without the high bit, or to the end. -/
def readTagNumber : Nat → Bytes → Nat × Bytes
  | number, [] => (number, [])
  | number, byte :: data =>
      let number := (number <<< 7) ||| (byte &&& 0x7F).toNat
      if byte &&& 0x80 = 0 then (number, data) else readTagNumber number data

/-- The tag at the head of an element. -/
def readTag (first : UInt8) (data : Bytes) : Nat × Bytes :=
  if first &&& 0x1F = 0x1F then readTagNumber 0 data else ((first &&& 0x1F).toNat, data)

/-- The length after it. There is no check here: the slice may be short. -/
def readLength (length : UInt8) (data : Bytes) : Nat × Bytes :=
  if length &&& 0x80 ≠ 0 then
    let count := (length &&& 0x7F).toNat
    (fromBytesBig (data.take count), data.drop count)
  else (length.toNat, data)

/-- One turn of the outer loop: tag number, body, and what is left. `none` is its
`break`. -/
def scanElement : Bytes → Option (Nat × Bytes × Bytes)
  | [] => none
  | first :: data =>
      match readTag first data with
      | (_, []) => none
      | (tagNumber, length :: data) =>
          let (length, data) := readLength length data
          some (tagNumber, data.take length, data.drop length)

/-- What one element does to the result. -/
def scanned (out : Scanned) (tagNumber : Nat) (body : Bytes) : Except DerError Scanned := do
  if tagNumber = tagRootOfTrust then
    let (inner, _) ← readTlv body
    let fields ← readSequence inner.content
    match fields with
    | _ :: locked :: state :: _ =>
        return { out with
          deviceLocked := some (locked.content = [0xFF])
          bootState := some (bootState (asInt state)) }
    | _ => return out
  else if tagNumber = tagNoAuthRequired then return { out with noAuthRequired := true }
  else if tagNumber = tagUserAuthType then
    let (inner, _) ← readTlv body
    return { out with userAuthType := some (asInt inner) }
  else return out

theorem readTagNumber_suffix (number : Nat) (data : Bytes) :
    (readTagNumber number data).2 <:+ data := by
  induction data generalizing number with
  | nil => exact List.suffix_refl _
  | cons byte data ih =>
      unfold readTagNumber
      dsimp only
      split_ifs
      · exact List.suffix_cons byte data
      · exact (ih _).trans (List.suffix_cons byte data)

theorem readTag_suffix (first : UInt8) (data : Bytes) : (readTag first data).2 <:+ data := by
  unfold readTag
  split_ifs
  · exact readTagNumber_suffix 0 data
  · exact List.suffix_refl data

theorem readLength_shorter (length : UInt8) (data : Bytes) :
    (readLength length data).2.length ≤ data.length := by
  unfold readLength
  split_ifs
  · simp
  · exact le_refl _

/-- The lenient reader moves on as well. -/
theorem scanElement_shorter {content body rest : Bytes} {tagNumber : Nat}
    (found : scanElement content = some (tagNumber, body, rest)) :
    rest.length < content.length := by
  unfold scanElement at found
  split at found
  · cases found
  · rename_i first data
    have tagged := (readTag_suffix first data).length_le
    split at found
    · cases found
    · rename_i number length data' isTag
      rw [isTag] at tagged
      have measured := readLength_shorter length data'
      simp only [Option.some.injEq, Prod.mk.injEq] at found
      obtain ⟨-, -, rfl⟩ := found
      simp only [List.length_cons, List.length_drop] at tagged ⊢
      omega

/-- The loop of `_scan_authorization_list`. -/
def scanLoop (out : Scanned) (content : Bytes) : Except DerError Scanned :=
  match _found : scanElement content with
  | none => .ok out
  | some (tagNumber, body, rest) => do
      let out ← scanned out tagNumber body
      scanLoop out rest
termination_by content.length
decreasing_by exact scanElement_shorter _found

/-- `_scan_authorization_list` -/
def scanAuthorizationList (content : Bytes) : Except DerError Scanned := scanLoop {} content

/-- What `_parse_key_description` returns. -/
structure KeyDescription where
  attestationVersion : Nat
  attestationSecurityLevel : SecurityLevel
  keymasterVersion : Nat
  keymasterSecurityLevel : SecurityLevel
  attestationChallenge : Bytes
  uniqueId : Bytes
  authorization : Scanned

/-- `_parse_key_description`. The second `update` replaces all that the first one
gave. -/
def parseKeyDescription (extension : Bytes) : Except DerError KeyDescription := do
  let (root, _) ← readTlv extension
  let items ← readSequence root.content
  match items with
  | version :: level :: keymaster :: keymasterLevel :: challenge :: uniqueId :: software :: tee :: _ =>
      let authorization ← scanAuthorizationList tee.content
      let authorization ←
        if authorization.bootState = none then scanAuthorizationList software.content
        else pure authorization
      return {
        attestationVersion := asInt version
        attestationSecurityLevel := securityLevel (asInt level)
        keymasterVersion := asInt keymaster
        keymasterSecurityLevel := securityLevel (asInt keymasterLevel)
        attestationChallenge := challenge.content
        uniqueId := uniqueId.content
        authorization }
  | _ => throw .tooFewFields

example : readSequence [0x02, 0x01, 0x05, 0x04, 0x00] = .ok [⟨2, [5]⟩, ⟨4, []⟩] := by
  decide +kernel

end DoorsControl.Enrollment
