import LatencyDesk.Lib.FnvCollisions
import LatencyDesk.Session.Unattended.Step

/-!
# Which secrets open a token

The stored hash of a secret is a function of the 64-bit FNV-1a state of the
secret and the token id, and every secret shares that state with another one.
An id that can still be opened at all is therefore open to a secret that was
not issued (`only_issued_secret_opens_iff`).  The lookup takes the first record
of an id, so a token is of use only when no earlier record of its id is in the way
(`issued_token_is_usable_iff`).
-/

namespace LatencyDesk.Session.Unattended

open Lib Session.Authorization UnattendedTokenManager List Fnv

variable {tokenId : Bytes 16} {secret : Bytes 32}

/-- Every secret has another secret with the same hash. -/
theorem exists_computeSecretHash_eq :
    ∃ secret', secret' ≠ secret ∧
      computeSecretHash secret' tokenId = computeSecretHash secret tokenId := by
  obtain ⟨msg, hlen, hne, hhash⟩ :=
    exists_second_preimage offsetBasis secret.toList_length
  refine ⟨⟨msg, hlen⟩, fun h => hne (congrArg List.Vector.toList h), ?_⟩
  apply Subtype.ext
  show expand 4 (absorbAll offsetBasis (msg ++ tokenId.toList)) =
    expand 4 (absorbAll offsetBasis (secret.toList ++ tokenId.toList))
  rw [absorbAll_append, absorbAll_append, hhash]

/-! ## Tokens that can be opened -/

/-- The record can answer one more validation. -/
structure Alive (record : UnattendedTokenRecord) : Prop where
  live : record.isRevoked = false
  unused : ∀ maxSessions, record.maxSessions = some maxSessions → record.sessionsUsed < maxSessions

/-- The token that a lookup of the id finds can answer one more validation. -/
def Openable (m : UnattendedTokenManager) (tokenId : Bytes 16) : Prop :=
  ∃ index record, findToken m.tokens tokenId = some index ∧ m.tokens[index]? = some record ∧
    Alive record

/-- A record that is still alive was alive before. -/
theorem Keeps.alive {record record' : UnattendedTokenRecord} (h : Keeps record record')
    (halive : Alive record') : Alive record := by
  refine ⟨?_, ?_⟩
  · rw [← Bool.not_eq_true]
    intro hrev
    have := h.revoked hrev
    rw [halive.live] at this
    cases this
  · intro maxSessions hmax
    have hmax' : record'.maxSessions = some maxSessions :=
      (congrArg TokenTerms.maxSessions h.terms).trans hmax
    exact UInt32.lt_of_le_of_lt h.used (halive.unused maxSessions hmax')

/-- A record as `issue_token` makes it: it expires at some later time and its
hash is the hash of a secret. -/
structure Sealed (record : UnattendedTokenRecord) : Prop where
  expires : 0 < record.expiresAtNs
  secret : ∃ secret, computeSecretHash secret record.tokenId = record.secretHash

variable {ttlNs : UInt64} {maxSessions : Option UInt32} {allowed : CapabilitySet}

theorem sealed_makeRecord {device : DeviceFingerprint} (httl : ttlNs ≠ 0) {nowNs : UInt64} :
    Sealed (makeRecord tokenId device allowed ttlNs maxSessions secret nowNs) := by
  refine ⟨?_, secret, rfl⟩
  have hpos : ttlNs.toNat ≠ 0 := fun h => httl (UInt64.toNat_inj.1 h)
  rw [UInt64.lt_iff_toNat_lt, makeRecord, toNat_saturatingAdd, UInt64.toNat_zero]
  omega

variable {m : UnattendedTokenManager}

theorem Effect.forall_sealed {event : UnattendedEvent} {tokens' : List UnattendedTokenRecord}
    (h : Effect m event tokens') (hm : ∀ record ∈ m.tokens, Sealed record) :
    ∀ record ∈ tokens', Sealed record := by
  have hmodify : ∀ change idx,
      (∀ record, Sealed record → Sealed (change record)) →
        ∀ record ∈ m.tokens.modify idx change, Sealed record := by
    intro change idx hchange record hmem
    obtain ⟨j, hget⟩ := mem_iff_getElem?.1 hmem
    rw [getElem?_modify] at hget
    obtain ⟨old, hold, rfl⟩ := Option.map_eq_some_iff.1 hget
    have hsealed := hm old (mem_of_getElem? hold)
    split
    · exact hchange old hsealed
    · exact hsealed
  cases h with
  | idle => exact hm
  | issue wire httl =>
    rw [forall_mem_append, forall_mem_singleton]
    exact ⟨hm, sealed_makeRecord httl⟩
  | validate => exact hmodify .use _ fun _ h => ⟨h.expires, h.secret⟩
  | revoke => exact hmodify .revoke _ fun _ h => ⟨h.expires, h.secret⟩
  | revokeAll device =>
    rw [forall_mem_map]
    intro record hmem
    split
    · exact ⟨(hm record hmem).expires, (hm record hmem).secret⟩
    · exact hm record hmem

theorem forall_sealed_run (maxTokenTtlNs : UInt64) (calls : List UnattendedCall) :
    ∀ record ∈ (unattendedMachine.run (new maxTokenTtlNs) calls).tokens, Sealed record := by
  refine unattendedMachine.run_induction (P := fun m => ∀ record ∈ m.tokens, Sealed record)
    ?_ ?_ calls
  · simp [new]
  · intro m call hm
    exact (step_effect m call).forall_sealed hm

theorem isSubsetOf_self {set : CapabilitySet} : set.isSubsetOf set = true := by
  unfold CapabilitySet.isSubsetOf
  rw [UInt8.and_not_self]
  rfl

/-! ## Opening an id -/

variable {tokenId : Bytes 16} {secret : Bytes 32} {device : DeviceFingerprint}
  {requested granted : CapabilitySet} {nowNs : UInt64}

/-- A validation succeeds exactly when the switch is on and the first record
with the id passes the checks. -/
theorem validateToken_eq_ok :
    (m.validateToken tokenId secret device requested nowNs).1 = .ok granted ↔
      granted = requested ∧ m.unattendedEnabled = true ∧
        ∃ idx record, findToken m.tokens tokenId = some idx ∧
          m.tokens[idx]? = some record ∧ Passes record tokenId secret device requested nowNs := by
  unfold validateToken
  by_cases hdisabled : m.unattendedEnabled = false
  · rw [hdisabled]
    simp
  rw [Bool.eq_true_of_not_eq_false hdisabled]
  cases hfind : findToken m.tokens tokenId with
  | none => simp
  | some idx =>
    obtain ⟨record, hget, _⟩ := getElem?_of_findToken hfind
    simp only [← check_eq_ok]
    cases hcheck : record.check tokenId secret device requested nowNs with
    | error e => simp [hget, hcheck]
    | ok => simp [hget, hcheck, eq_comm]

/-- An id that can be opened is opened by a secret other than the given one. -/
theorem exists_other_secret (hsealed : ∀ record ∈ m.tokens, Sealed record)
    (hopenable : Openable m tokenId) :
    ∃ secret' device requested granted, secret' ≠ secret ∧
      ((m.setUnattendedEnabled true).validateToken tokenId secret' device requested 0).1 =
        .ok granted := by
  obtain ⟨idx, record, hfind, hget, halive⟩ := hopenable
  obtain ⟨_, hget', hid⟩ := getElem?_of_findToken hfind
  rw [hget, Option.some.injEq] at hget'
  subst hget'
  obtain ⟨hexp, secret₁, hsecret₁⟩ := hsealed record (mem_of_getElem? hget)
  rw [hid] at hsecret₁
  obtain ⟨secret', hne, hhash⟩ : ∃ secret', secret' ≠ secret ∧
      computeSecretHash secret' tokenId = record.secretHash := by
    by_cases hsame : secret₁ = secret
    · obtain ⟨secret', hne, heq⟩ := exists_computeSecretHash_eq
      rw [hsame] at hsecret₁
      exact ⟨secret', hne, heq.trans hsecret₁⟩
    · exact ⟨secret₁, hsame, hsecret₁⟩
  refine ⟨secret', record.device, record.allowedCapabilities, record.allowedCapabilities, hne, ?_⟩
  refine validateToken_eq_ok.2 ⟨rfl, rfl, idx, record, hfind, hget, ?_⟩
  exact ⟨halive.live, hexp, rfl, hhash, isSubsetOf_self, halive.unused⟩

/-- A successful validation shows that the id could be opened all along. -/
theorem openable_of_validateToken {later : List UnattendedCall} {idx : Nat}
    (hfind : findToken m.tokens tokenId = some idx)
    (hok : ((unattendedMachine.run m later).validateToken tokenId secret device requested
      nowNs).1 = .ok granted) : Openable m tokenId := by
  obtain ⟨_, _, idx', _, hfind', hget', hpasses⟩ := validateToken_eq_ok.1 hok
  have hgrows := grows_run m later
  have hidx : idx' = idx := Option.some.inj (hfind'.symm.trans (hgrows.findToken hfind))
  obtain ⟨record, hget, _⟩ := getElem?_of_findToken hfind
  obtain ⟨_, hget'', hkeeps⟩ := hgrows idx record hget
  rw [hidx, hget'', Option.some.injEq] at hget'
  subst hget'
  exact ⟨idx, record, hfind, hget, hkeeps.alive ⟨hpasses.live, hpasses.unused⟩⟩

/-- A token that was issued can be looked up. -/
theorem findToken_of_issueToken {wire : UnattendedTokenWire}
    (hissue : (m.issueToken tokenId device allowed ttlNs maxSessions secret nowNs).1 = .ok wire) :
    ∃ idx, findToken (m.issueToken tokenId device allowed ttlNs maxSessions secret nowNs).2.tokens
      tokenId = some idx := by
  unfold issueToken at hissue ⊢
  split_ifs at hissue ⊢
  simp [findToken, makeRecord]

/-- After a token has been issued, no secret but the issued one ever opens its
id exactly when the record that the id stands for is revoked or has used up its
sessions, so that no secret opens it at all. -/
theorem only_issued_secret_opens_iff (maxTokenTtlNs : UInt64) (before : List UnattendedCall)
    (tokenId : Bytes 16) (device : DeviceFingerprint) (allowed : CapabilitySet) (ttlNs : UInt64)
    (maxSessions : Option UInt32) (secret : Bytes 32) (nowNs : UInt64) (wire : UnattendedTokenWire)
    (hissue : ((unattendedMachine.run (new maxTokenTtlNs) before).issueToken tokenId device allowed
      ttlNs maxSessions secret nowNs).1 = .ok wire) :
    let m := ((unattendedMachine.run (new maxTokenTtlNs) before).issueToken tokenId device allowed
      ttlNs maxSessions secret nowNs).2
    (∀ later secret' device' requested nowNs' granted, secret' ≠ secret →
      ((unattendedMachine.run m later).validateToken tokenId secret' device' requested nowNs').1 ≠
        .ok granted) ↔ ¬ Openable m tokenId := by
  intro m
  have hsealed : ∀ record ∈ m.tokens, Sealed record := by
    have hrun := forall_sealed_run maxTokenTtlNs
      (before ++ [.issueToken tokenId device allowed ttlNs maxSessions secret nowNs])
    rw [Machine.run_snoc] at hrun
    exact hrun
  constructor
  · intro honly hopenable
    obtain ⟨secret', device', requested, granted, hne, hok⟩ :=
      exists_other_secret hsealed hopenable
    exact honly [.setUnattendedEnabled true] secret' device' requested 0 granted hne hok
  · intro hclosed later secret' device' requested nowNs' granted _ hok
    obtain ⟨_, hfind⟩ := findToken_of_issueToken hissue
    exact hclosed (openable_of_validateToken hfind hok)

/-! ## A sample -/

def sampleDevice : DeviceFingerprint := ⟨List.Vector.replicate 32 0x33, by decide⟩

def sampleTokenId : Bytes 16 := List.Vector.replicate 16 0x11

def sampleSecret : Bytes 32 := List.Vector.replicate 32 0x5a

/-- A secret with the hash of `sampleSecret`, found by steering the upper bits. -/
def otherSecret : Bytes 32 :=
  ⟨[91, 115, 2, 22, 224, 244, 10, 250, 10, 62, 6, 236, 24, 224, 58, 194, 32, 224, 226, 22, 238, 12,
    22, 224, 254, 230, 22, 20, 20, 248, 248, 166], rfl⟩

/-- A manager with one token for one session. -/
def sampleIssue : Except UnattendedError UnattendedTokenWire × UnattendedTokenManager :=
  (new maxUnattendedTokenTtlNs).issueToken sampleTokenId sampleDevice .viewOnly 1000 (some 1)
    sampleSecret 5

/-- A secret that was never issued opens the token. -/
theorem other_secret_opens :
    otherSecret ≠ sampleSecret ∧ sampleIssue.1.toOption.isSome = true ∧
      (sampleIssue.2.validateToken sampleTokenId otherSecret sampleDevice .viewOnly 6).1 =
        .ok .viewOnly := by
  decide +kernel

/-- A token without any session is one that only the issued secret could open. -/
theorem only_issued_secret_opens_no_session :
    let m := ((unattendedMachine.run (new maxUnattendedTokenTtlNs) []).issueToken sampleTokenId
      sampleDevice .viewOnly 1000 (some 0) sampleSecret 5).2
    ¬ Openable m sampleTokenId ∧
      ∀ later secret' device' requested nowNs' granted, secret' ≠ sampleSecret →
        ((unattendedMachine.run m later).validateToken sampleTokenId secret' device' requested
          nowNs').1 ≠ .ok granted := by
  intro m
  have hclosed : ¬ Openable m sampleTokenId := by
    intro ⟨idx, record, hfind, hget, halive⟩
    have hidx : findToken m.tokens sampleTokenId = some 0 := by decide +kernel
    rw [hidx, Option.some.injEq] at hfind
    subst hfind
    have hmax : record.maxSessions = some 0 := by
      have hrec : m.tokens[0]?.bind (·.maxSessions) = some 0 := rfl
      rw [hget] at hrec
      exact hrec
    exact UInt32.not_lt_zero (halive.unused 0 hmax)
  exact ⟨hclosed, (only_issued_secret_opens_iff maxUnattendedTokenTtlNs [] sampleTokenId
    sampleDevice .viewOnly 1000 (some 0) sampleSecret 5 _ rfl).2 hclosed⟩

/-! ## Using a token -/

theorem not_validates_of_revokeToken :
    ((m.revokeToken tokenId).2.validateToken tokenId secret device requested nowNs).1 ≠
      .ok granted := by
  intro hok
  obtain ⟨_, _, _, _, hfind, hget, hpasses⟩ := validateToken_eq_ok.1 hok
  unfold revokeToken at hfind hget
  cases hbef : findToken m.tokens tokenId with
  | none => simp [hbef] at hfind
  | some first =>
    simp only [hbef] at hfind hget
    have hfirst := (grows_modify keeps_revoke first).findToken hbef
    obtain rfl := Option.some.inj (hfind.symm.trans hfirst)
    rw [getElem?_modify_eq] at hget
    obtain ⟨_, _, rfl⟩ := Option.map_eq_some_iff.1 hget
    exact Bool.noConfusion hpasses.live

/-- The id is new and the expiry of a token is ahead, or the first record with the id already
passes the checks that the new one is meant to pass. -/
def Usable (m : UnattendedTokenManager) (tokenId : Bytes 16) (secret : Bytes 32)
    (device : DeviceFingerprint) (allowed : CapabilitySet) (nowNs : UInt64) : Prop :=
  findToken m.tokens tokenId = none ∧ nowNs.toNat < 2 ^ 64 - 1 ∨
    ∃ idx record, findToken m.tokens tokenId = some idx ∧ m.tokens[idx]? = some record ∧
      Passes record tokenId secret device allowed nowNs

/-- The record that is pushed passes the checks unless its expiry saturates. -/
theorem passes_makeRecord_iff (httl : ttlNs ≠ 0) (hmax : maxSessions ≠ some 0) :
    Passes (makeRecord tokenId device allowed ttlNs maxSessions secret nowNs) tokenId secret device
      allowed nowNs ↔ nowNs.toNat < 2 ^ 64 - 1 := by
  have hpos : ttlNs.toNat ≠ 0 := fun h => httl (UInt64.toNat_inj.1 h)
  have hexpiry : nowNs < saturatingAdd nowNs ttlNs ↔ nowNs.toNat < 2 ^ 64 - 1 := by
    have hnow := nowNs.toNat_lt
    rw [UInt64.lt_iff_toNat_lt, toNat_saturatingAdd]
    omega
  refine ⟨fun h => hexpiry.1 h.inTime, fun hnow => ?_⟩
  refine ⟨rfl, hexpiry.2 hnow, rfl, rfl, isSubsetOf_self, ?_⟩
  rintro limit rfl
  exact UInt32.pos_iff_ne_zero.2 fun hzero => hmax (by rw [hzero])

/-- A token that is returned can be used at once, until it is revoked, if and only if no earlier
record of its id is in the way and its expiry is ahead. -/
theorem issued_token_is_usable_iff {wire : UnattendedTokenWire} (hmax : maxSessions ≠ some 0)
    (hissue : (m.issueToken tokenId device allowed ttlNs maxSessions secret nowNs).1 = .ok wire) :
    let issued := (m.issueToken tokenId device allowed ttlNs maxSessions secret nowNs).2
    let used := issued.validateToken tokenId secret device allowed nowNs
    (used.1 = .ok allowed ∧ ∀ granted,
      ((used.2.revokeToken tokenId).2.validateToken tokenId secret device allowed nowNs).1 ≠
        .ok granted) ↔ Usable m tokenId secret device allowed nowNs := by
  intro issued used
  rw [and_iff_left fun granted => not_validates_of_revokeToken, validateToken_eq_ok,
    and_iff_right rfl]
  subst issued
  revert hissue
  unfold issueToken Usable
  split_ifs with henabled httl hlimit
  iterate 3 exact nofun
  intro _
  have hfind : findToken (m.tokens ++ [makeRecord tokenId device allowed ttlNs maxSessions secret
      nowNs]) tokenId = (findToken m.tokens tokenId).or (some m.tokens.length) := by
    simp [findToken, findIdx?_append, makeRecord]
  rw [and_iff_right (by simpa using henabled)]
  dsimp only
  rw [hfind]
  cases hfirst : findToken m.tokens tokenId with
  | none =>
    simp [passes_makeRecord_iff (not_or.1 httl).1 hmax]
  | some idx =>
    -- The lookup finds the earlier record.
    obtain ⟨record, hget, -⟩ := getElem?_of_findToken hfirst
    have hlt := (List.getElem?_eq_some_iff.1 hget).1
    simp [hget, getElem?_append_left hlt]

/-- The id of a revoked token is issued again, and the token that was returned is of no use. -/
theorem reissued_id_is_unusable :
    let m := (sampleIssue.2.revokeToken sampleTokenId).2
    let issued := m.issueToken sampleTokenId sampleDevice .viewOnly 1000 (some 1) sampleSecret 7
    issued.1.toOption.isSome = true ∧
      (issued.2.validateToken sampleTokenId sampleSecret sampleDevice .viewOnly 7).1 =
        .error .tokenRevoked := by
  decide +kernel

theorem sample_token_is_usable :
    (sampleIssue.2.validateToken sampleTokenId sampleSecret sampleDevice .viewOnly 5).1 =
      .ok .viewOnly :=
  ((@issued_token_is_usable_iff 1000 (some 1) .viewOnly (new maxUnattendedTokenTtlNs) sampleTokenId
    sampleSecret sampleDevice 5 _ (by decide) rfl).2 (.inl ⟨rfl, by decide⟩)).1

end LatencyDesk.Session.Unattended
