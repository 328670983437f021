import ChatBackend.Uuid
import ChatBackend.Websocket.Dispatcher

/-!
# AccessTokenService

`src/Auth/AccessTokenService.cpp`: the access tokens of the server, which are JSON Web Tokens that it
signs with a secret, and their verification. What the library `jwt-cpp` does is a parameter.

## Main definitions

* `Jwt` — what the service uses of the library
* `AccessTokenService.generateAccessToken`, `AccessTokenService.verify`

## Main results

* `AccessTokenService.verify_of_claims` — a token of the service stands for its user, and only for a
  quarter of an hour
-/

namespace ChatBackend

/-- The claims of a token that the service sets or reads. The times are in seconds. -/
structure TokenClaims where
  type : Option String
  issuer : Option String
  audience : Option String
  subject : Option String
  issuedAt : Option ℤ
  expiresAt : Option ℤ
  deriving DecidableEq

/-- What the service uses of `jwt-cpp`. -/
structure Jwt where
  /-- `create()…sign(hs256{secret})`. -/
  create : TokenClaims → String → String
  /-- `decode`, which throws if there is `none`. -/
  decode : Bytes → Option TokenClaims
  /-- `verifier.verify(decoded, error)` without an error, by a verifier with the secret and the
  service's issuer, audience and type, at this time. -/
  verify : String → Time → Bytes → Bool

namespace AccessTokenService

/-- How long an access token is good for. -/
def accessTokenLife : Time := 15 * 60 * 1000000

/-- The claims of a token for this user. -/
def claims (now : Time) (userId : String) : TokenClaims where
  type := some "JWT"
  issuer := some "cpp_backend_server"
  audience := some "cpp_backend_api"
  subject := some userId
  issuedAt := some (now / 1000000)
  expiresAt := some ((now + accessTokenLife) / 1000000)

/-- `generateAccessToken`. -/
def generateAccessToken (jwt : Jwt) (secret : String) (now : Time) (userId : String) : String :=
  jwt.create (claims now userId) secret

/-- `verify`. The verifier reads the clock, and the service reads it again after that. -/
def verify (jwt : Jwt) (secret : String) (verified now : Time) (accessToken : Bytes) :
    Except AccessTokenError Uuid :=
  match jwt.decode accessToken with
  | none => .error .invalid
  | some decoded =>
    match decoded.expiresAt, decoded.subject with
    | some expiresAt, some subject =>
      if jwt.verify secret verified accessToken = false then .error .invalid
      else if expiresAt * 1000000 ≤ now then .error .expired
      else match Uuid.ofString subject with
        | none => .error .invalid
        | some userId => .ok userId
    | _, _ => .error .invalid

variable {jwt : Jwt} {secret : String} {verified now issued : Time}

/-- **What is accepted** has been verified and has not expired, and its subject is a user. -/
theorem verify_eq_ok {accessToken : Bytes} {userId : Uuid}
    (h : verify jwt secret verified now accessToken = .ok userId) :
    jwt.verify secret verified accessToken = true ∧
      ∃ decoded expiresAt subject, jwt.decode accessToken = some decoded ∧
        decoded.expiresAt = some expiresAt ∧ decoded.subject = some subject ∧
        now < expiresAt * 1000000 ∧ Uuid.ofString subject = some userId := by
  rw [verify] at h
  split at h
  · cases h
  next decoded hdecoded =>
    split at h
    · next expiresAt subject hexpires hsubject =>
      split at h
      · cases h
      next hverified =>
        split at h
        · cases h
        next hfresh =>
          split at h
          · cases h
          next found hfound =>
            obtain rfl := Except.ok.inj h
            exact ⟨Bool.of_not_eq_false hverified, decoded, expiresAt, subject, hdecoded, hexpires,
              hsubject, not_le.mp hfresh, hfound⟩
    · cases h

/-- **A token with the claims of the service** stands for its user, and for fifteen minutes at most. -/
theorem verify_of_claims {text : String} {userId : Uuid} {accessToken : Bytes}
    (hclaims : jwt.decode accessToken = some (claims issued text))
    (h : verify jwt secret verified now accessToken = .ok userId) :
    Uuid.ofString text = some userId ∧ now < issued + accessTokenLife := by
  obtain ⟨-, decoded, expiresAt, subject, hdecoded, hexpires, hsubject, hfresh, huser⟩ :=
    verify_eq_ok h
  rw [hclaims, Option.some.injEq] at hdecoded
  subst hdecoded
  obtain rfl := Option.some.inj hexpires
  obtain rfl := Option.some.inj hsubject
  exact ⟨huser, hfresh.trans_le (Int.ediv_mul_le _ (by decide))⟩

end AccessTokenService

end ChatBackend
