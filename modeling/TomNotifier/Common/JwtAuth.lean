import TomNotifier.Common.Basic

/-!
This module contains the authorization the endpoints of both servers share.
-/

namespace TomNotifier

structure User where
  id : Uuid
  roles : List String

structure MissingRoleError where
  missingRole : String

def requireAllRoles (user : User) : List String → Except MissingRoleError Unit
  | [] => .ok ()
  | role :: roles =>
    if user.roles.any (· == role) then
      requireAllRoles user roles
    else
      .error { missingRole := role }

/-- The code reads the value of the header as a string, of one byte characters only. -/
abbrev HeaderValue := Bytes

def HeaderValue.toStr (value : HeaderValue) : Option HeaderValue :=
  if value.all (fun b => (32 ≤ b && b < 127) || b == 9) then some value else none

structure JwtClaimsRealmAccess where
  roles : List String

structure Claims where
  sub : Uuid
  realmAccess : JwtClaimsRealmAccess

structure JwtAuthLayer where
  -- `jsonwebtoken::decode` with the key and the validation of the layer, at a reading of the clock
  decode : OffsetDateTime → Bytes → Option Claims

namespace JwtAuthLayer

def bearer : Bytes := [66, 101, 97, 114, 101, 114]

def parseAuthorizationHeader (auth : JwtAuthLayer) (now : OffsetDateTime)
    (authorizationHeader : Option HeaderValue) : Except String User :=
  match authorizationHeader with
  | none => .error "missing Authorization header"
  | some authorizationHeader =>
    match authorizationHeader.toStr with
    | none => .error "illegal character in Authorization header"
    | some authorizationValue =>
      if bearer.isPrefixOf authorizationValue then
        -- `get` of a range that starts behind the end.
        if authorizationValue.length < bearer.length + 1 then
          .error "invalid jwt"
        else
          match auth.decode now (authorizationValue.drop (bearer.length + 1)) with
          | none => .error "invalid jwt"
          | some claims => .ok { id := claims.sub, roles := claims.realmAccess.roles }
      else
        .error "unsupported autorization type"

variable {auth : JwtAuthLayer} {now : OffsetDateTime} {authorization : Option HeaderValue} {user : User}

/-- The character behind `Bearer` is not looked at. -/
theorem parseAuthorizationHeader_eq_ok_iff
    : auth.parseAuthorizationHeader now authorization = .ok user
        ↔
      ∃ separator token claims,
        authorization = some (bearer ++ separator :: token)
          ∧ HeaderValue.toStr (bearer ++ separator :: token) = some (bearer ++ separator :: token)
          ∧ auth.decode now token = some claims
          ∧ user = { id := claims.sub, roles := claims.realmAccess.roles } := by
  constructor
  . intro h
    unfold parseAuthorizationHeader at h
    split at h
    . contradiction
    . next value =>
      split at h
      . contradiction
      . next value' hvalue =>
        have hsame : value' = value := by
          unfold HeaderValue.toStr at hvalue
          rw [Option.ite_none_right_eq_some, Option.some.injEq] at hvalue
          exact hvalue.2.symm
        subst hsame
        split at h
        . next hbearer =>
          split at h
          . contradiction
          . next hlength =>
            split at h
            . contradiction
            . next claims hclaims =>
              rw [Except.ok.injEq] at h
              rcases List.isPrefixOf_iff_prefix.mp hbearer with ⟨rest, rfl⟩
              cases rest with
              | nil => simp at hlength
              | cons separator token =>
                rw [List.drop_length_add_append] at hclaims
                exact ⟨separator, token, claims, rfl, hvalue, hclaims, h.symm⟩
        . contradiction
  . rintro ⟨separator, token, claims, rfl, hvalue, hclaims, rfl⟩
    unfold parseAuthorizationHeader
    dsimp only
    rw [hvalue]
    dsimp only
    rw [if_pos (List.isPrefixOf_iff_prefix.mpr (List.prefix_append _ _)), if_neg (by simp),
      List.drop_length_add_append, List.drop_one, List.tail_cons, hclaims]

end JwtAuthLayer

theorem requireAllRoles_eq_ok_iff {user : User} {roles : List String}
    : requireAllRoles user roles = .ok () ↔ ∀ role ∈ roles, role ∈ user.roles := by
  induction roles with
  | nil => simp [requireAllRoles]
  | cons role roles ih =>
    rw [requireAllRoles]
    split
    . next h =>
      rw [ih, List.forall_mem_cons]
      simp only [List.any_beq', List.contains_eq_mem, decide_eq_true_eq] at h
      simp [h]
    . next h =>
      simp only [List.any_beq', List.contains_eq_mem, decide_eq_true_eq] at h
      simp [h]

end TomNotifier
