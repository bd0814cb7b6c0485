import DoorsControl.Audit.Chain
import DoorsControl.Data.Utf8
import DoorsControl.Kit.Join

/-!
# What `audit_payload` says is said in one way

Eleven columns, joined by U+001F. `event_type` is text that controllers send, and may have the
separator in it; a column that is null is an empty field.

* `clean_front`, `clean_back` — the fields around `event_type` have no separator in them;
* `audit_payload_unambiguous` — **the bytes determine the columns**, and the hash behind them.
-/

namespace DoorsControl.Audit

attribute [ext] AuditContent

abbrev separator : CodePoint := codePoint '\x1f'

/-- From 0001-01-01 UTC to the end of `timestamptz`. -/
def AdEra (t : Timestamp) : Prop := -62135596800000000 ≤ t ∧ t < 9224318016000000000

/-- The address of a host, IPv4 or IPv6. -/
def Inet.IsHost (ip : Inet) : Prop :=
  (ip.address.length = 4 ∨ ip.address.length = 16) ∧ ip.masklen = 8 * ip.address.length

/-- What the output functions of the server do on instants, hosts and the values `stored` that a
`jsonb` column holds. -/
structure Postgres.Unambiguous (pg : Postgres) (stored : Set (Json Text)) : Prop where
  toChar_inj : Set.InjOn pg.toChar {t | AdEra t}
  toChar_clean : ∀ t, AdEra t → separator ∉ pg.toChar t
  host_inj : Set.InjOn pg.host {ip | ip.IsHost}
  host_clean : ∀ ip, ip.IsHost → separator ∉ pg.host ip
  host_ne_nil : ∀ ip, ip.IsHost → pg.host ip ≠ []
  jsonbOut_inj : Set.InjOn pg.jsonbOut stored
  jsonbOut_clean : ∀ detail ∈ stored, separator ∉ pg.jsonbOut detail

/-- A row of the AD era, with the address of a host if it has one. -/
structure AuditContent.Ordinary (stored : Set (Json Text)) (row : AuditContent) : Prop where
  era : AdEra row.occurredAt
  host : ∀ ip, row.clientIp = some ip → ip.IsHost
  detail : row.detail ∈ stored

/-! ## The fields -/

theorem separator_notMem_chars {cs : List Char} (clean : '\x1f' ∉ cs) : separator ∉ chars cs := by
  intro mem
  obtain ⟨d, inside, same⟩ := List.mem_map.mp mem
  exact clean (codePoint_inj same ▸ inside)

theorem decimal_clean (i : Int) : separator ∉ chars (decimal i) := by
  refine separator_notMem_chars fun mem => ?_
  have digit := decimal_chars i _ mem
  revert digit
  decide

theorem hexDigits_clean (width n : Nat) : '\x1f' ∉ hexDigits width n := by
  have digit : ∀ m : Fin 16, hexDigit m ≠ '\x1f' := by decide +kernel
  induction width generalizing n with
  | zero => exact List.not_mem_nil
  | succ width ih =>
      intro mem
      rcases List.mem_append.mp mem with front | last
      · exact ih _ front
      · have same : hexDigit (n % 16) = '\x1f' := by
          simpa [hexDigit] using (List.mem_singleton.mp last).symm
        exact digit ⟨n % 16, Nat.mod_lt _ (by decide)⟩ same

theorem uuidText_clean (u : Uuid) : separator ∉ uuidText u := by
  refine separator_notMem_chars ?_
  simp only [uuidChars, List.mem_append, List.mem_cons, not_or]
  simp [hexDigits_clean]

theorem uuidText_ne_nil (u : Uuid) : uuidText u ≠ [] := by
  intro empty
  have length := congrArg List.length empty
  simp [uuidText, uuidChars, chars, length_hexDigits] at length

theorem outcome_label_inj {a b : AuditOutcome} (same : a.label = b.label) : a = b := by
  cases a <;> cases b <;> first | rfl | exact absurd same (by decide)

theorem outcome_label_clean (a : AuditOutcome) : separator ∉ a.label := by
  cases a <;> decide

theorem actorType_label_inj {a b : ActorType} (same : a.label = b.label) : a = b := by
  cases a <;> cases b <;> first | rfl | exact absurd same (by decide)

theorem actorType_label_clean (a : ActorType) : separator ∉ a.label := by
  cases a <;> decide

section Coalesced

variable {α : Type} {out : α → Text} (good : α → Prop)

/-- Nothing that is printed is empty, so that an empty field is a null. -/
theorem coalesceText_inj (inj : Set.InjOn out {a | good a}) (nonempty : ∀ a, good a → out a ≠ [])
    {x y : Option α} (goodX : ∀ a, x = some a → good a) (goodY : ∀ a, y = some a → good a)
    (same : coalesceText out x = coalesceText out y) : x = y := by
  cases x with
  | none =>
      cases y with
      | none => rfl
      | some b => exact absurd same.symm (nonempty b (goodY b rfl))
  | some a =>
      cases y with
      | none => exact absurd same (nonempty a (goodX a rfl))
      | some b => exact congrArg some (inj (goodX a rfl) (goodY b rfl) same)

theorem coalesceText_clean (clean : ∀ a, good a → separator ∉ out a) {x : Option α}
    (goodX : ∀ a, x = some a → good a) : separator ∉ coalesceText out x := by
  cases x with
  | none => exact List.not_mem_nil
  | some a => exact clean a (goodX a rfl)

end Coalesced

theorem coalesced_uuid_inj {x y : Option Uuid}
    (same : coalesceText uuidText x = coalesceText uuidText y) : x = y :=
  coalesceText_inj (fun _ => True) (fun _ _ _ _ => uuidText_inj)
    (fun u _ => uuidText_ne_nil u) (fun _ _ => trivial) (fun _ _ => trivial) same

theorem coalesced_uuid_clean (x : Option Uuid) : separator ∉ coalesceText uuidText x :=
  coalesceText_clean (fun _ => True) (fun u _ => uuidText_clean u) fun _ _ => trivial

/-! ## The payload -/

/-- The fields before `event_type`. -/
def frontFields (pg : Postgres) (row : AuditContent) : List Text :=
  [chars (decimal row.seq), pg.toChar row.occurredAt]

/-- The fields behind it. -/
def backFields (pg : Postgres) (row : AuditContent) : List Text :=
  [row.outcome.label, row.actorType.label, coalesceText uuidText row.actorId,
   coalesceText uuidText row.deviceId, coalesceText uuidText row.doorId,
   coalesceText uuidText row.controllerId, coalesceText pg.host row.clientIp,
   pg.jsonbOut row.detail]

theorem auditPayload_eq (pg : Postgres) (row : AuditContent) :
    auditPayload pg row = utf8 (List.intercalate [separator]
      (frontFields pg row ++ row.eventType :: backFields pg row)) := rfl

section Payload

variable {pg : Postgres} {stored : Set (Json Text)} (known : pg.Unambiguous stored)
  {row a b : AuditContent}

include known in
theorem clean_front (ordinary : row.Ordinary stored) :
    ∀ field ∈ frontFields pg row, separator ∉ field := by
  unfold frontFields
  simp only [List.forall_mem_cons]
  exact ⟨decimal_clean _, known.toChar_clean _ ordinary.era, nofun⟩

include known in
theorem clean_back (ordinary : row.Ordinary stored) :
    ∀ field ∈ backFields pg row, separator ∉ field := by
  unfold backFields
  simp only [List.forall_mem_cons]
  exact ⟨outcome_label_clean _, actorType_label_clean _, coalesced_uuid_clean _,
    coalesced_uuid_clean _, coalesced_uuid_clean _, coalesced_uuid_clean _,
    coalesceText_clean _ known.host_clean ordinary.host,
    known.jsonbOut_clean _ ordinary.detail, nofun⟩

include known in
theorem auditPayload_inj (ordinary : a.Ordinary stored) (ordinary' : b.Ordinary stored)
    (same : auditPayload pg a = auditPayload pg b) : a = b := by
  rw [auditPayload_eq, auditPayload_eq] at same
  have clean : ∀ {row : AuditContent}, row.Ordinary stored →
      ∀ field ∈ frontFields pg row ++ backFields pg row, separator ∉ field :=
    fun ordinary => List.forall_mem_append.mpr
      ⟨clean_front known ordinary, clean_back known ordinary⟩
  have before : (frontFields pg a).length = (frontFields pg b).length := rfl
  have after : (backFields pg a).length = (backFields pg b).length := rfl
  obtain ⟨front, eventType, back⟩ := Kit.intercalate_around_inj before after (clean ordinary)
    (clean ordinary') (utf8_inj same)
  simp only [frontFields, List.cons.injEq, and_true] at front
  simp only [backFields, List.cons.injEq, and_true] at back
  obtain ⟨seq, instant⟩ := front
  obtain ⟨outcome, actorType, actorId, deviceId, doorId, controllerId, clientIp, detail⟩ := back
  have seq := decimal_inj (chars_inj seq)
  have instant := known.toChar_inj ordinary.era ordinary'.era instant
  have clientIp := coalesceText_inj _ known.host_inj known.host_ne_nil ordinary.host ordinary'.host
    clientIp
  have detail := known.jsonbOut_inj ordinary.detail ordinary'.detail detail
  exact AuditContent.ext eventType (outcome_label_inj outcome) (actorType_label_inj actorType)
    (coalesced_uuid_inj actorId) (coalesced_uuid_inj deviceId) (coalesced_uuid_inj doorId)
    (coalesced_uuid_inj controllerId) clientIp detail seq instant

end Payload

/-- **The bytes determine the columns**, whatever text an event type is, and they can be told from
the hash behind them. -/
theorem audit_payload_unambiguous (pg : Postgres) (stored : Set (Json Text))
    (known : pg.Unambiguous stored) :
    (∀ a b : AuditContent, a.Ordinary stored → b.Ordinary stored →
      auditPayload pg a = auditPayload pg b → a = b) ∧
    ∀ (a b : AuditContent) (prev prev' : Bytes), prev.length = 32 → prev'.length = 32 →
      auditPayload pg a ++ prev = auditPayload pg b ++ prev' →
        auditPayload pg a = auditPayload pg b ∧ prev = prev' := by
  constructor
  · exact fun a b ordinary ordinary' same => auditPayload_inj known ordinary ordinary' same
  · intro a b prev prev' length length' same
    exact List.append_inj' same (length.trans length'.symm)

section Events

/-- Beyond the characters of an address. -/
def wideByte (b : UInt8) : CodePoint := Fin.ofNat 0x110000 (b.toNat + 256)

theorem wideByte_val (b : UInt8) : (wideByte b).val = b.toNat + 256 := by
  have bound := b.toNat_lt
  show (b.toNat + 256) % 0x110000 = b.toNat + 256
  omega

theorem notMem_wideBytes {c : CodePoint} (low : c.val < 256) (address : Bytes) :
    c ∉ address.map wideByte := by
  intro mem
  obtain ⟨b, -, rfl⟩ := List.mem_map.mp mem
  rw [wideByte_val] at low
  omega

/-- The instant 0 as the server prints it, and the address 10.0.0.7. -/
def eventPostgres : Postgres where
  sha256 := Kit.Sha256.sha256
  toChar := fun t =>
    if t = 0 then text "1970-01-01T00:00:00.000000Z" else chars (decimal t)
  host := fun ip =>
    if ip.address = [10, 0, 0, 7] then text "10.0.0.7"
    else ip.address.map wideByte
  jsonbOut := fun _ => text "\x7b\x7d"

theorem eventPostgres_unambiguous : eventPostgres.Unambiguous {.obj []} where
  toChar_inj := by
    have other : ∀ t, text "1970-01-01T00:00:00.000000Z" ≠ chars (decimal t) := by
      intro t same
      have digit := decimal_chars t 'T' (chars_inj same ▸ by decide)
      revert digit
      decide
    intro t _ t' _ same
    simp only [eventPostgres] at same
    split_ifs at same with epoch epoch'
    · exact epoch.trans epoch'.symm
    · exact absurd same (other t')
    · exact absurd same.symm (other t)
    · exact decimal_inj (chars_inj same)
  toChar_clean := by
    intro t _
    simp only [eventPostgres]
    split_ifs
    · decide
    · exact decimal_clean t
  host_inj := by
    have other : ∀ address : Bytes, text "10.0.0.7" ≠ address.map wideByte := by
      intro address same
      exact notMem_wideBytes (c := codePoint '1') (by decide) address (same ▸ by decide)
    have wide : Function.Injective wideByte := by
      intro b b' same
      have value := congrArg Fin.val same
      rw [wideByte_val, wideByte_val] at value
      exact UInt8.toNat_inj.mp (by omega)
    intro ip host ip' host' same
    have address : ip.address = ip'.address := by
      simp only [eventPostgres] at same
      split_ifs at same with known known'
      · exact known.trans known'.symm
      · exact absurd same (other _)
      · exact absurd same.symm (other _)
      · exact List.map_injective_iff.mpr wide same
    have masklen : ip.masklen = ip'.masklen := by
      rw [host.2, host'.2, address]
    cases ip
    cases ip'
    rw [Inet.mk.injEq]
    exact ⟨address, masklen⟩
  host_clean := by
    intro ip _
    simp only [eventPostgres]
    split_ifs
    · decide
    · exact notMem_wideBytes (by decide) _
  host_ne_nil := by
    intro ip host empty
    simp only [eventPostgres] at empty
    split_ifs at empty
    · exact absurd empty (by decide)
    · have nothing := List.map_eq_nil_iff.mp empty
      rcases host.1 with length | length <;> rw [nothing] at length <;> cases length
  jsonbOut_inj := Set.injOn_singleton _ _
  jsonbOut_clean := by
    intro _ _
    show separator ∉ text "\x7b\x7d"
    decide

/-- An event of a controller. -/
def controllerEvent (eventType : String) (outcome : AuditOutcome) : AuditContent where
  seq := 7
  occurredAt := 0
  eventType := text eventType
  outcome := outcome
  actorType := .controller
  actorId := none
  deviceId := none
  doorId := none
  controllerId := some 5
  clientIp := some ⟨[10, 0, 0, 7], 32⟩
  detail := .obj []

theorem controllerEvent_ordinary (eventType : String) (outcome : AuditOutcome) :
    (controllerEvent eventType outcome).Ordinary {.obj []} where
  era := by
    have epoch : (-62135596800000000 : Int) ≤ 0 ∧ (0 : Int) < 9224318016000000000 := by decide
    exact epoch
  host := by
    rintro ip ⟨⟩
    exact ⟨.inl rfl, rfl⟩
  detail := rfl

end Events

/-- An event type that goes on like the row does. -/
theorem audit_payload_unambiguous_sample :
    auditPayload eventPostgres (controllerEvent "door.forced\x1fdenied" .success) ≠
      auditPayload eventPostgres (controllerEvent "door.forced" .denied) := by
  intro same
  have rows := (audit_payload_unambiguous eventPostgres _ eventPostgres_unambiguous).1 _ _
    (controllerEvent_ordinary _ _) (controllerEvent_ordinary _ _) same
  have outcome : AuditOutcome.success = .denied :=
    congrArg (fun row : AuditContent => row.outcome) rows
  cases outcome

end DoorsControl.Audit
