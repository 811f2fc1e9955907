import AxumConf.Auth.TokenCoherence

/-!
# When the access token ends

The callback and the refresh add the lifetime that the provider names to the clock, as 64-bit
numbers.  A sum that does not fit wraps, so that a token that was just brought has ended long ago.
-/

namespace AxumConf.Auth

/-- `OidcClient::refresh_tokens`, where `request` is the answer of the token endpoint. -/
def refreshTokens (request : String → Option TokenResponse) (now : ℕ) (refreshToken : String) :
    Option RefreshedTokens :=
  (request refreshToken).map fun response => response.tokens now

/-- The seconds that an access token lives. -/
def lifetime (expiresIn : Option UInt64) : ℕ :=
  (expiresIn.map UInt64.toNat).getD defaultTokenLifetimeSecs

/-- The session holds the sum of the clock and the lifetime as its expiry, and by it the token ends
30 seconds early. -/
def KeepsLifetime (now : UInt64) (expiresIn : Option UInt64) (session : Session) : Prop :=
  ∃ expiry, session.getU64 sessionTokenExpiry = some expiry ∧
    expiry = now.toNat + lifetime expiresIn ∧ now.toNat ≤ expiry ∧
    ∀ external, isExpired external session = true ↔ expiry - 30 ≤ external.nowEpochSecs

/-- Both ways to store a token's lifetime keep it. -/
structure RecordsLifetime (now : UInt64) (expiresIn : Option UInt64) : Prop where
  callback : ∀ client params session response idToken,
    response.expiresIn = expiresIn.map UInt64.toNat →
    callbackTokens client params session = .ok (response, idToken) →
    KeepsLifetime now expiresIn (callbackHandler client now.toNat params session).2
  refresh : ∀ request refreshToken session response refreshed,
    response.expiresIn = expiresIn.map UInt64.toNat → request refreshToken = some response →
    refreshTokens request now.toNat refreshToken = some refreshed →
    session.record.isSome = true → KeepsLifetime now expiresIn (storeRefreshed session refreshed)

section Lifetimes

variable {now : UInt64} {expiresIn : Option UInt64} {response : TokenResponse}
  {session after : Session}

theorem isExpired_of_getU64 {expiry : ℕ} (external : External)
    (stored : session.getU64 sessionTokenExpiry = some expiry) :
    isExpired external session = true ↔ expiry - 30 ≤ external.nowEpochSecs := by
  simp [isExpired, stored]

theorem expiry_tokens (named : response.expiresIn = expiresIn.map UInt64.toNat) :
    (response.tokens now.toNat).expiry = (now.toNat + lifetime expiresIn) % 2 ^ 64 := by
  rw [TokenResponse.tokens, tokenExpiry, named, lifetime]

/-- What a session that stores the response's tokens says of their lifetime. -/
theorem keepsLifetime_iff (named : response.expiresIn = expiresIn.map UInt64.toNat)
    (stores : Stores session (response.tokens now.toNat) after) :
    KeepsLifetime now expiresIn after ↔ now.toNat + lifetime expiresIn < 2 ^ 64 := by
  have stored := stores.expiry
  rw [expiry_tokens named] at stored
  constructor
  · rintro ⟨expiry, held, sum, -, -⟩
    rw [stored, Option.some.injEq] at held
    rw [← sum, ← held]
    exact Nat.mod_lt _ (by decide)
  · intro fits
    rw [Nat.mod_eq_of_lt fits] at stored
    exact ⟨_, stored, rfl, Nat.le_add_right _ _,
      fun external => isExpired_of_getU64 external stored⟩

end Lifetimes

/-- A response with every token and the given lifetime. -/
def lifetimeResponse (expiresIn : Option UInt64) : TokenResponse where
  access := "access"
  refresh := some "refresh"
  idToken := some "id"
  expiresIn := expiresIn.map UInt64.toNat

/-- The stored expiry is the sum exactly where the sum fits into 64 bits. -/
theorem recordsLifetime_iff (now : UInt64) (expiresIn : Option UInt64) :
    RecordsLifetime now expiresIn ↔ now.toNat + lifetime expiresIn < 2 ^ 64 := by
  constructor
  · intro records
    have kept := records.refresh (fun _ => some (lifetimeResponse expiresIn)) "refresh"
      FlowState.new.session _ _ rfl rfl rfl rfl
    exact (keepsLifetime_iff rfl (stores_storeRefreshed rfl)).mp kept
  · intro fits
    constructor
    · intro client params session response idToken named succeeds
      exact (keepsLifetime_iff named (callbackHandler_stores now.toNat succeeds)).mpr fits
    · intro request refreshToken session response refreshed named answers brought readable
      simp only [refreshTokens, answers, Option.map_some, Option.some.injEq] at brought
      rw [← brought]
      exact (keepsLifetime_iff named (stores_storeRefreshed readable)).mpr fits

/-- The longest lifetime ends a second before it begins. -/
theorem longestLifetime_wraps :
    ¬RecordsLifetime 1750000000 (some 18446744073709551615) ∧
      (storeRefreshed FlowState.new.session
        ((lifetimeResponse (some 18446744073709551615)).tokens 1750000000)).getU64
          sessionTokenExpiry = some 1749999999 := by
  constructor
  · intro records
    have fits := (keepsLifetime_iff rfl (stores_storeRefreshed rfl)).mp
      (records.refresh (fun _ => some (lifetimeResponse (some 18446744073709551615))) "refresh"
        FlowState.new.session _ _ rfl rfl rfl rfl)
    revert fits
    decide
  · decide +kernel

end AxumConf.Auth
