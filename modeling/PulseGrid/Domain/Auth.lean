/-
  PulseGrid.Domain.Auth

  WebSocket tickets and device tokens (crates/domain/src/auth.rs).
-/

import Mathlib

namespace PulseGrid

-- ============================================================================
-- Tickets
-- ============================================================================

/-- `Uuid::simple`: 32 lowercase hexadecimal digits. -/
def uuidSimple (id : BitVec 128) : String :=
  String.ofList ((List.range 32).map fun i => Nat.digitChar (id.toNat / 16 ^ (31 - i) % 16))

/-- `new_ws_ticket`, for the two random UUIDs it draws. -/
def newWsTicket (first second : BitVec 128) : String :=
  uuidSimple first ++ uuidSimple second

theorem toList_uuidSimple (id : BitVec 128) :
    (uuidSimple id).toList =
      (List.range 32).map fun i => Nat.digitChar (id.toNat / 16 ^ (31 - i) % 16) := by
  rw [uuidSimple, String.toList_ofList]

/-- A ticket is 64 characters long. -/
theorem length_toList_newWsTicket (first second : BitVec 128) :
    (newWsTicket first second).toList.length = 64 := by
  rw [newWsTicket, String.toList_append, List.length_append, toList_uuidSimple,
    toList_uuidSimple, List.length_map, List.length_map, List.length_range]

/-- Every character of a ticket is a hexadecimal digit. -/
theorem exists_digitChar_of_mem_newWsTicket {first second : BitVec 128} {c : Char}
    (h : c ∈ (newWsTicket first second).toList) : ∃ n < 16, c = Nat.digitChar n := by
  have hhalf : ∀ id : BitVec 128, c ∈ (uuidSimple id).toList → ∃ n < 16, c = Nat.digitChar n := by
    intro id hc
    rw [toList_uuidSimple] at hc
    obtain ⟨i, -, rfl⟩ := List.mem_map.mp hc
    exact ⟨_, Nat.mod_lt _ (by omega), rfl⟩
  rw [newWsTicket, String.toList_append] at h
  rcases List.mem_append.mp h with h | h
  · exact hhalf first h
  · exact hhalf second h

theorem utf8Len_eq_length {cs : List Char} (h : ∀ c ∈ cs, c.utf8Size = 1) :
    String.utf8Len cs = cs.length := by
  induction cs with
  | nil => rfl
  | cons c cs ih =>
      rw [String.utf8Len_cons, ih fun x hx => h x (List.mem_cons_of_mem _ hx),
        h c List.mem_cons_self, List.length_cons]

/-- A ticket is 64 bytes long. -/
theorem utf8ByteSize_newWsTicket (first second : BitVec 128) :
    (newWsTicket first second).utf8ByteSize = 64 := by
  have hsize : ∀ n < 16, (Nat.digitChar n).utf8Size = 1 := by decide
  have hone : ∀ c ∈ (newWsTicket first second).toList, c.utf8Size = 1 := by
    intro c hc
    obtain ⟨n, hn, rfl⟩ := exists_digitChar_of_mem_newWsTicket hc
    exact hsize n hn
  have hchars : String.ofList (newWsTicket first second).toList = newWsTicket first second :=
    String.ofList_toList
  rw [← hchars, String.utf8ByteSize_ofList, utf8Len_eq_length hone, length_toList_newWsTicket]

-- ============================================================================
-- Tokens
-- ============================================================================

/-- The claims of a device token.  Times are in seconds. -/
structure Claims (D : Type) where
  sub : D
  exp : Nat
  iat : Nat
deriving DecidableEq, Repr

structure TokenSigner where
  ttlHours : Nat
deriving DecidableEq, Repr

/-- `TokenSigner::issue` at `now`, in milliseconds.  `none` when the expiry lies beyond the
    last millisecond that chrono can represent, where the addition panics. -/
def TokenSigner.issue {D : Type} (signer : TokenSigner) (lastMillis now : Nat) (deviceId : D) :
    Option (Claims D) :=
  let expiry := now + signer.ttlHours * 3_600_000
  if lastMillis < expiry then none
  else some { sub := deviceId, exp := expiry / 1_000, iat := now / 1_000 }

/-- The default leeway of the `jsonwebtoken` crate, in seconds. -/
def leewaySecs : Nat := 60

/-- The last millisecond at which a signed token verifies. -/
def Claims.verifiesUntil {D : Type} (claims : Claims D) : Nat :=
  (claims.exp + leewaySecs) * 1_000

end PulseGrid
