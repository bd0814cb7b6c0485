import DoorsControl.Backend.Proximity
import DoorsControl.Data.IpAddress
import Mathlib.Data.List.TakeWhile

/-!
# The address behind a proxy

`client_ip` of `app/api/deps.py`, and the header that `nginx.example.conf` sends. The docstring on
the header: "a value the client chose, and trusting it would let anyone reset their own rate limit
by changing one string". The proxy appends; the part before the first comma is read.

* `clientIp_forwarded` — what is read behind a trusted proxy;
* `clientIp_iff` — **when it is the address that the proxy appended**;
* `clientIp_chosen` — a request that names another address.
-/

namespace DoorsControl.Api

open Backend (isSpace strip strip_eq_self)

/-- `trusted_proxy_list` -/
def trustedProxyList (trustedProxies : Text) : List Text :=
  ((splitChar ',' trustedProxies).map strip).filter fun entry => entry ≠ []

/-- `any(peer_addr in ip_network(net, strict=False) for net in trusted)`; `none` is a
`ValueError`. -/
def anyContains (peerAddr : IpAddress) : List Text → Option Bool
  | [] => some false
  | net :: rest =>
      match ipNetwork net with
      | none => none
      | some network => if network.contains peerAddr then some true else anyContains peerAddr rest

/-- `client_ip`, with the peer of the connection and its header; `none` is a `ValueError`. -/
def clientIp (trustedProxies : Text) (peer forwarded : Option Text) : Option (Option Text) :=
  match peer, forwarded with
  | some peer, some forwarded =>
      if forwarded = [] ∨ peer = [] then some (some peer)
      else
        match ipAddress peer with
        | none => some (some peer)
        | some peerAddr =>
            match anyContains peerAddr (trustedProxyList trustedProxies) with
            | none => none
            | some false => some (some peer)
            | some true =>
                let candidate := strip ((splitChar ',' forwarded).headD [])
                match ipAddress candidate with
                | none => some (some peer)
                | some _ => some (some candidate)
  | peer, _ => some peer

/-- `$proxy_add_x_forwarded_for`: the header of the client, and the address it has. -/
def proxyAddXForwardedFor (client : Option Text) (remoteAddr : Text) : Text :=
  match client with
  | none => remoteAddr
  | some value => value ++ text ", " ++ remoteAddr

/-- The peer is a trusted proxy. -/
def IsTrusted (trustedProxies peer : Text) : Prop :=
  ∃ peerAddr, ipAddress peer = some peerAddr ∧
    anyContains peerAddr (trustedProxyList trustedProxies) = some true

/-- What nginx writes for `$remote_addr`. -/
structure IsRemoteAddr (remoteAddr : Text) : Prop where
  valid : (ipAddress remoteAddr).isSome = true
  plain : remoteAddr.all (text "0123456789abcdef.:").contains = true

/-- The part of the header that is read. -/
def candidateOf (value : Text) : Text := strip (value.takeWhile fun c => c != codePoint ',')

/-- The client gave no header, or one that begins with its own address; or it has the address of
the proxy, and its header begins with none. -/
def NamesRemote (peer remoteAddr : Text) : Option Text → Prop
  | none => True
  | some value => candidateOf value = remoteAddr ∨
      ipAddress (candidateOf value) = none ∧ peer = remoteAddr

section Forwarded

variable {trustedProxies peer remoteAddr : Text}

/-- No blank and no comma is part of an address. -/
theorem plain_char {c : CodePoint} (plain : (text "0123456789abcdef.:").contains c = true) :
    isSpace c = false ∧ (c != codePoint ',') = true := by
  have all : (text "0123456789abcdef.:").all (fun c => !isSpace c && c != codePoint ',') = true := by
    decide +kernel
  have both := List.all_eq_true.mp all c (List.contains_iff_mem.mp plain)
  simpa using both

theorem IsRemoteAddr.ne_none (remote : IsRemoteAddr remoteAddr) : ipAddress remoteAddr ≠ none :=
  Option.isSome_iff_ne_none.mp remote.valid

theorem candidateOf_remoteAddr (remote : IsRemoteAddr remoteAddr) :
    candidateOf remoteAddr = remoteAddr := by
  have plain := fun c mem => plain_char (List.all_eq_true.mp remote.plain c mem)
  unfold candidateOf
  rw [List.takeWhile_eq_self_iff.mpr fun c mem => (plain c mem).2]
  exact strip_eq_self fun c mem => (plain c mem).1

theorem takeWhile_append_stop {α : Type} {p : α → Bool} {x : α} (stop : p x = false)
    (xs ys : List α) : (xs ++ x :: ys).takeWhile p = xs.takeWhile p := by
  induction xs with
  | nil => exact List.takeWhile_cons_of_neg (by simp [stop])
  | cons y rest ih => rw [List.cons_append, List.takeWhile_cons, List.takeWhile_cons, ih]

/-- What the client gave ends before the comma of the proxy. -/
theorem candidateOf_append (value remoteAddr : Text) :
    candidateOf (value ++ text ", " ++ remoteAddr) = candidateOf value := by
  unfold candidateOf
  rw [List.append_assoc]
  exact congrArg strip (takeWhile_append_stop (by decide) value (codePoint ' ' :: remoteAddr))

/-- What is read behind a trusted proxy. -/
theorem clientIp_forwarded (trusted : IsTrusted trustedProxies peer) {forwarded : Text}
    (given : forwarded ≠ []) :
    clientIp trustedProxies (some peer) (some forwarded) =
      some (some (if ipAddress (candidateOf forwarded) = none then peer
        else candidateOf forwarded)) := by
  obtain ⟨peerAddr, isAddress, inside⟩ := trusted
  have named : peer ≠ [] := by
    rintro rfl
    cases isAddress
  have read : strip ((splitChar ',' forwarded).headD []) = candidateOf forwarded := by
    rw [headD_splitChar]
    rfl
  unfold clientIp
  simp only [given, named, or_self, if_false, isAddress, inside, read]
  cases ipAddress (candidateOf forwarded) with
  | none => rfl
  | some address => rfl

/-- One request. -/
theorem clientIp_eq_iff (trusted : IsTrusted trustedProxies peer) (remote : IsRemoteAddr remoteAddr)
    (client : Option Text) :
    clientIp trustedProxies (some peer) (some (proxyAddXForwardedFor client remoteAddr)) =
      some (some remoteAddr) ↔ NamesRemote peer remoteAddr client := by
  cases client with
  | none =>
      have given : remoteAddr ≠ [] := by
        rintro rfl
        cases remote.valid
      unfold proxyAddXForwardedFor NamesRemote
      rw [clientIp_forwarded trusted given, candidateOf_remoteAddr remote, if_neg remote.ne_none]
      exact iff_of_true rfl trivial
  | some value =>
      have given : value ++ text ", " ++ remoteAddr ≠ [] := by
        intro empty
        cases (List.append_eq_nil_iff.mp (List.append_eq_nil_iff.mp empty).1).2
      unfold proxyAddXForwardedFor NamesRemote
      dsimp only
      rw [clientIp_forwarded trusted given, candidateOf_append, Option.some_inj, Option.some_inj]
      split_ifs with noAddress
      · constructor
        · exact fun same => .inr ⟨noAddress, same⟩
        · rintro (same | ⟨-, same⟩)
          · exact absurd noAddress (same ▸ remote.ne_none)
          · exact same
      · constructor
        · exact .inl
        · rintro (same | ⟨none, -⟩)
          · exact same
          · exact absurd none noAddress

end Forwarded

/-- **Two requests behind a trusted proxy** have the address that the proxy appended exactly if
either names it, or names none and comes from the proxy itself. -/
theorem clientIp_iff (trustedProxies peer remoteAddr : Text)
    (trusted : IsTrusted trustedProxies peer) (remote : IsRemoteAddr remoteAddr)
    (first second : Option Text) :
    (clientIp trustedProxies (some peer) (some (proxyAddXForwardedFor first remoteAddr)) =
          clientIp trustedProxies (some peer) (some (proxyAddXForwardedFor second remoteAddr)) ∧
        clientIp trustedProxies (some peer) (some (proxyAddXForwardedFor first remoteAddr)) =
          some (some remoteAddr)) ↔
      NamesRemote peer remoteAddr first ∧ NamesRemote peer remoteAddr second := by
  rw [← clientIp_eq_iff trusted remote, ← clientIp_eq_iff trusted remote]
  constructor
  · rintro ⟨same, isRemote⟩
    exact ⟨isRemote, same ▸ isRemote⟩
  · rintro ⟨isRemote, isRemote'⟩
    exact ⟨isRemote.trans isRemote'.symm, isRemote⟩

/-! ## One network of proxies -/

theorem trusted_sample : IsTrusted (text "10.88.0.0/16") (text "10.88.0.1") :=
  ⟨.v4 173539329, by decide +kernel, by decide +kernel⟩

theorem remote_sample : IsRemoteAddr (text "203.0.113.7") where
  valid := by decide +kernel
  plain := by decide +kernel

/-- No header, and a header that is no address list. -/
theorem clientIp_iff_sample :
    clientIp (text "10.88.0.0/16") (some (text "10.88.0.1"))
        (some (proxyAddXForwardedFor none (text "203.0.113.7"))) =
      some (some (text "203.0.113.7")) := by
  have both := (clientIp_iff (text "10.88.0.0/16") (text "10.88.0.1") (text "203.0.113.7")
    trusted_sample remote_sample none (some (text " 203.0.113.7"))).mpr
      ⟨trivial, .inl (by decide +kernel)⟩
  exact both.2

/-- A client that sends an address of its choice has it. -/
theorem clientIp_chosen :
    ¬∀ trustedProxies peer remoteAddr, IsTrusted trustedProxies peer → IsRemoteAddr remoteAddr →
      ∀ first second,
        clientIp trustedProxies (some peer) (some (proxyAddXForwardedFor first remoteAddr)) =
            clientIp trustedProxies (some peer) (some (proxyAddXForwardedFor second remoteAddr)) ∧
          clientIp trustedProxies (some peer) (some (proxyAddXForwardedFor first remoteAddr)) =
            some (some remoteAddr) := by
  intro fixed
  have same := (fixed _ _ _ trusted_sample remote_sample none (some (text "198.51.100.9"))).1
  exact absurd same (by decide +kernel)

end DoorsControl.Api
