import LatencyDesk.Session.Unattended.Model

/-!
# What one call does to the tokens

`Effect` lists what a call can do to the token table.  Every invariant of the
manager is derived from it.  `Grows` is what all effects share: records stay at
their index with the terms they were issued under, a revoked record stays
revoked and no session is given back.
-/

namespace LatencyDesk.Session.Unattended

open Lib Session.Authorization UnattendedTokenManager UnattendedTokenRecord List

/-- What a token was issued for.  No call changes it. -/
structure TokenTerms where
  tokenId : Bytes 16
  device : DeviceFingerprint
  allowedCapabilities : CapabilitySet
  expiresAtNs : UInt64
  maxSessions : Option UInt32
  secretHash : Bytes 32

def UnattendedTokenRecord.terms (record : UnattendedTokenRecord) : TokenTerms :=
  { tokenId := record.tokenId
    device := record.device
    allowedCapabilities := record.allowedCapabilities
    expiresAtNs := record.expiresAtNs
    maxSessions := record.maxSessions
    secretHash := record.secretHash }

/-- The checks that a successful validation has passed. -/
structure Passes (record : UnattendedTokenRecord) (tokenId : Bytes 16) (secret : Bytes 32)
    (device : DeviceFingerprint) (requested : CapabilitySet) (nowNs : UInt64) : Prop where
  live : record.isRevoked = false
  inTime : nowNs < record.expiresAtNs
  bound : record.device = device
  secret : computeSecretHash secret tokenId = record.secretHash
  within : requested.isSubsetOf record.allowedCapabilities = true
  unused : ∀ maxSessions, record.maxSessions = some maxSessions → record.sessionsUsed < maxSessions

variable {tokenId : Bytes 16}

theorem check_eq_ok {record : UnattendedTokenRecord} {secret : Bytes 32}
    {dev : DeviceFingerprint} {requested : CapabilitySet} {nowNs : UInt64} :
    record.check tokenId secret dev requested nowNs = .ok () ↔
      Passes record tokenId secret dev requested nowNs := by
  have hunused : (¬ (record.maxSessions.any fun n => decide (n ≤ record.sessionsUsed)) = true) ↔
      ∀ n, record.maxSessions = some n → record.sessionsUsed < n := by
    cases record.maxSessions <;> simp
  unfold check
  split_ifs with hrev hexp hdev hsecret hsubset hmax
  · exact iff_of_false (by simp) fun h => by rw [h.live] at hrev; cases hrev
  · exact iff_of_false (by simp) fun h => (UInt64.not_le.2 h.inTime) hexp
  · exact iff_of_false (by simp) fun h => hdev h.bound
  · exact iff_of_false (by simp) fun h => hsecret h.secret
  · exact iff_of_false (by simp) fun h => by rw [h.within] at hsubset; cases hsubset
  · exact iff_of_false (by simp) fun h => (hunused.2 h.unused) hmax
  · refine iff_of_true rfl ⟨?_, ?_, ?_, ?_, ?_, hunused.1 hmax⟩
    · exact Bool.eq_false_iff.2 hrev
    · exact UInt64.not_le.1 hexp
    · exact Decidable.not_not.1 hdev
    · exact Decidable.not_not.1 hsecret
    · exact Bool.eq_true_of_not_eq_false hsubset

variable {tokens : List UnattendedTokenRecord} {idx : Nat}

/-- The token that the lookup finds is in the table and has the id. -/
theorem getElem?_of_findToken (h : findToken tokens tokenId = some idx) :
    ∃ record, tokens[idx]? = some record ∧ record.tokenId = tokenId := by
  obtain ⟨hlt, hid, _⟩ := findIdx?_eq_some_iff_getElem.1 h
  exact ⟨tokens[idx], getElem?_eq_getElem hlt, of_decide_eq_true hid⟩

/-- The events that leave the tokens alone. -/
def leavesTokens : UnattendedEvent → Bool
  | .issueToken _ _ _ _ _ _ _ (.ok _) => false
  | .validateToken _ _ _ _ _ (.ok _) => false
  | .revokeToken _ (.ok _) => false
  | .revokeAllForDevice _ _ => false
  | _ => true

/-- What a call does to the tokens. -/
inductive Effect (m : UnattendedTokenManager) :
    UnattendedEvent → List UnattendedTokenRecord → Prop
  | idle {event} (hidle : leavesTokens event = true) : Effect m event m.tokens
  | issue {tokenId device allowed ttlNs maxSessions secret nowNs} (wire : UnattendedTokenWire)
      (httl : ttlNs ≠ 0) :
      Effect m (.issueToken tokenId device allowed ttlNs maxSessions secret nowNs (.ok wire))
        (m.tokens ++ [makeRecord tokenId device allowed ttlNs maxSessions secret nowNs])
  | validate {tokenId secret device requested nowNs index record}
      (henabled : m.unattendedEnabled = true) (hfind : findToken m.tokens tokenId = some index)
      (hget : m.tokens[index]? = some record)
      (hpasses : Passes record tokenId secret device requested nowNs) :
      Effect m (.validateToken tokenId secret device requested nowNs (.ok requested))
        (m.tokens.modify index .use)
  | revoke {tokenId index} (hfind : findToken m.tokens tokenId = some index) :
      Effect m (.revokeToken tokenId (.ok ())) (m.tokens.modify index .revoke)
  | revokeAll (device : DeviceFingerprint) (count : Nat) :
      Effect m (.revokeAllForDevice device count)
        (m.tokens.map fun record => if revocable device record then record.revoke else record)

variable (m : UnattendedTokenManager)

theorem step_effect (call : UnattendedCall) :
    Effect m (unattendedMachine.step m call).1 (unattendedMachine.step m call).2.tokens := by
  cases call with
  | issueToken tokenId dev allowed ttlNs maxSessions secret nowNs =>
    simp only [unattendedMachine, issueToken]
    split_ifs with hdisabled httl hlimit
    iterate 3 exact .idle rfl
    · exact .issue _ fun hzero => httl (.inl hzero)
  | validateToken tokenId secret dev requested nowNs =>
    simp only [unattendedMachine, validateToken]
    split_ifs with hdisabled
    · exact .idle rfl
    split
    · exact .idle rfl
    next idx hfind =>
    obtain ⟨record, hget, _⟩ := getElem?_of_findToken hfind
    simp only [hget]
    split
    · exact .idle rfl
    next hcheck =>
    exact .validate (Bool.eq_true_of_not_eq_false hdisabled) hfind hget (check_eq_ok.1 hcheck)
  | revokeToken tokenId =>
    simp only [unattendedMachine, revokeToken]
    split
    · exact .idle rfl
    · next idx hfind => exact .revoke hfind
  | revokeAllForDevice dev => exact .revokeAll dev _
  | setUnattendedEnabled enabled => exact .idle rfl

/-! ## What every effect keeps -/

/-- The record after a call against the record before it. -/
structure Keeps (record record' : UnattendedTokenRecord) : Prop where
  terms : record'.terms = record.terms
  revoked : record.isRevoked = true → record'.isRevoked = true
  used : record.sessionsUsed ≤ record'.sessionsUsed

variable (record : UnattendedTokenRecord)

theorem Keeps.refl : Keeps record record :=
  ⟨rfl, id, UInt32.le_refl _⟩

theorem Keeps.trans {first second third : UnattendedTokenRecord} (h : Keeps first second)
    (h' : Keeps second third) : Keeps first third :=
  ⟨h'.terms.trans h.terms, fun hrev => h'.revoked (h.revoked hrev), UInt32.le_trans h.used h'.used⟩

theorem keeps_use : Keeps record record.use := by
  refine ⟨rfl, id, ?_⟩
  have hlt : record.sessionsUsed.toNat < 2 ^ 32 := UInt32.toNat_lt _
  rw [UInt32.le_iff_toNat_le, use, toNat_saturatingAdd32]
  omega

theorem keeps_revoke : Keeps record record.revoke :=
  ⟨rfl, fun _ => rfl, UInt32.le_refl _⟩

/-- Every record stays at its index. -/
def Grows (tokens tokens' : List UnattendedTokenRecord) : Prop :=
  ∀ (index : Nat) (record : UnattendedTokenRecord), tokens[index]? = some record →
    ∃ record', tokens'[index]? = some record' ∧ Keeps record record'

theorem Grows.refl (tokens : List UnattendedTokenRecord) : Grows tokens tokens :=
  fun _ record hget => ⟨record, hget, Keeps.refl record⟩

theorem Grows.trans {first second third : List UnattendedTokenRecord} (h : Grows first second)
    (h' : Grows second third) : Grows first third := by
  intro idx record hget
  obtain ⟨record', hget', hkeeps⟩ := h idx record hget
  obtain ⟨record'', hget'', hkeeps'⟩ := h' idx record' hget'
  exact ⟨record'', hget'', hkeeps.trans hkeeps'⟩

theorem grows_modify {change : UnattendedTokenRecord → UnattendedTokenRecord}
    (hchange : ∀ record, Keeps record (change record))
    (idx : Nat) : Grows tokens (tokens.modify idx change) := by
  intro j record hget
  refine ⟨if idx = j then change record else record, ?_, ?_⟩
  · rw [getElem?_modify, hget]
    rfl
  · split
    · exact hchange record
    · exact Keeps.refl record

variable {tokens' : List UnattendedTokenRecord}

theorem Effect.grows {m : UnattendedTokenManager} {event : UnattendedEvent}
    (h : Effect m event tokens') :
    Grows m.tokens tokens' := by
  cases h with
  | idle => exact Grows.refl _
  | issue =>
    intro idx record hget
    have hlt : idx < m.tokens.length := (List.getElem?_eq_some_iff.1 hget).1
    exact ⟨record, by rw [getElem?_append_left hlt, hget], Keeps.refl record⟩
  | validate => exact grows_modify keeps_use _
  | revoke => exact grows_modify keeps_revoke _
  | revokeAll dev =>
    intro idx record hget
    refine ⟨if revocable dev record then record.revoke else record, ?_, ?_⟩
    · rw [getElem?_map, hget]
      rfl
    · split
      · exact keeps_revoke record
      · exact Keeps.refl record

/-- Tokens only grow along a run. -/
theorem grows_run (calls : List UnattendedCall) :
    Grows m.tokens (unattendedMachine.run m calls).tokens := by
  refine unattendedMachine.run_induction (P := fun m' => Grows m.tokens m'.tokens)
    (Grows.refl _) ?_ calls
  intro m' call h
  exact h.trans (step_effect m' call).grows

/-- The first token with an id stays the first. -/
theorem Grows.findToken (h : Grows tokens tokens') (hfind : findToken tokens tokenId = some idx) :
    findToken tokens' tokenId = some idx := by
  have hid : ∀ (j : Nat) (record : UnattendedTokenRecord), tokens[j]? = some record →
      ∃ record', tokens'[j]? = some record' ∧ record'.tokenId = record.tokenId := by
    intro j record hget
    obtain ⟨record', hget', hkeeps⟩ := h j record hget
    exact ⟨record', hget', congrArg TokenTerms.tokenId hkeeps.terms⟩
  obtain ⟨hlt, hmatch, hfirst⟩ := List.findIdx?_eq_some_iff_getElem.1 hfind
  obtain ⟨_, hget', hid'⟩ := hid idx _ (List.getElem?_eq_getElem hlt)
  obtain ⟨hlt', heq'⟩ := List.getElem?_eq_some_iff.1 hget'
  refine List.findIdx?_eq_some_iff_getElem.2 ⟨hlt', ?_, ?_⟩
  · rw [heq', hid']
    exact hmatch
  · intro j hj
    obtain ⟨_, hget'', hid''⟩ := hid j _ (List.getElem?_eq_getElem (hj.trans hlt))
    obtain ⟨_, heq''⟩ := List.getElem?_eq_some_iff.1 hget''
    rw [heq'', hid'']
    exact hfirst j hj

end LatencyDesk.Session.Unattended
