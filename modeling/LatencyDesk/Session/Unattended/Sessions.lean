import LatencyDesk.Session.Unattended.Step

/-!
# Every session stays within the terms of its token

The `index`-th successful `issue_token` of a run makes the record at `index`.
`issued` reads the terms of these tokens from the trace, and `admits index`
marks the successful validations that the record answered.  `Accounted` links
them to the table: the records carry the issued terms, and the session counter
of a limited record is the number of validations that it answered.
-/

namespace LatencyDesk.Session.Unattended

open Lib Session.Authorization UnattendedTokenManager List UInt32 UnattendedTokenRecord

/-- A step of the manager. -/
abbrev TokenStep := Step UnattendedTokenManager UnattendedEvent

/-- The terms of the token that the step issued. -/
def issuedTerms (st : TokenStep) : Option TokenTerms :=
  match st.event with
  | .issueToken tokenId device allowed ttlNs maxSessions secret nowNs (.ok _) =>
    some
      { tokenId := tokenId
        device := device
        allowedCapabilities := allowed
        expiresAtNs := saturatingAdd nowNs ttlNs
        maxSessions := maxSessions
        secretHash := computeSecretHash secret tokenId }
  | _ => none

/-- The terms of the tokens that the steps issued, oldest first. -/
def issued (steps : List TokenStep) : List TokenTerms := steps.filterMap issuedTerms

/-- The step is a successful validation that the record at the index answered. -/
def admits (index : Nat) (st : TokenStep) : Bool :=
  match st.event with
  | .validateToken tokenId _ _ _ _ (.ok _) => decide (findToken st.pre.tokens tokenId = some index)
  | _ => false

/-- The table agrees with the trace. -/
structure Accounted (steps : List TokenStep) (m : UnattendedTokenManager) : Prop where
  terms : m.tokens.map UnattendedTokenRecord.terms = issued steps
  fresh : ∀ index, m.tokens.length ≤ index → steps.countP (admits index) = 0
  used : ∀ (index : Nat) (record : UnattendedTokenRecord) (maxSessions : UInt32),
    m.tokens[index]? = some record → record.maxSessions = some maxSessions →
      steps.countP (admits index) = record.sessionsUsed.toNat ∧ record.sessionsUsed ≤ maxSessions

/-- How the record at an index came about in one step: it was issued, or it
was there before and was used exactly when it answered a validation. -/
inductive Came (m : UnattendedTokenManager) (admitted : Bool) (index : Nat)
    (record' : UnattendedTokenRecord) : Prop
  | issued (hnew : m.tokens.length ≤ index) (hzero : record'.sessionsUsed = 0)
  | kept (record : UnattendedTokenRecord) (hget : m.tokens[index]? = some record)
      (hterms : record'.terms = record.terms) (hadmitted : admitted = false)
      (hused : record'.sessionsUsed = record.sessionsUsed)
  | used (record : UnattendedTokenRecord) (hget : m.tokens[index]? = some record)
      (hrecord : record' = record.use)
      (hunused : ∀ maxSessions, record.maxSessions = some maxSessions →
        record.sessionsUsed < maxSessions) (hadmitted : admitted = true)

variable {index : Nat} {m : UnattendedTokenManager} {record' : UnattendedTokenRecord}

/-- The change of one record by a call that admits nobody. -/
theorem came_of_change {change : UnattendedTokenRecord → UnattendedTokenRecord}
    (hterms : ∀ record, (change record).terms = record.terms)
    (hused : ∀ record, (change record).sessionsUsed = record.sessionsUsed)
    (hget' : m.tokens[index]?.map change = some record') : Came m false index record' := by
  obtain ⟨record, hget, rfl⟩ := Option.map_eq_some_iff.1 hget'
  exact .kept record hget (hterms record) rfl (hused record)

variable {event : UnattendedEvent} {tokens' : List UnattendedTokenRecord}
  {m' : UnattendedTokenManager}

theorem Effect.came (h : Effect m event tokens') (hget' : tokens'[index]? = some record') :
    Came m (admits index ⟨m, event, m'⟩) index record' := by
  cases h with
  | idle hidle =>
    have hout : admits index ⟨m, event, m'⟩ = false := by
      unfold admits
      split
      · next heq =>
        dsimp only at heq
        rw [heq] at hidle
        cases hidle
      · rfl
    exact .kept record' hget' rfl hout rfl
  | issue wire =>
    rw [getElem?_append] at hget'
    split at hget'
    · exact .kept record' hget' rfl rfl rfl
    next hlast =>
    have hmem := mem_singleton.1 (mem_of_getElem? hget')
    exact .issued (Nat.le_of_not_lt hlast) (by rw [hmem]; rfl)
  | @validate tokenId secret dev requested nowNs target record henabled hfind hget hpasses =>
    have hadm : decide (findToken m.tokens tokenId = some index) =
        decide (target = index) := by
      rw [hfind]
      simp only [Option.some.injEq]
    show Came m (decide (findToken m.tokens tokenId = some index)) index record'
    rw [hadm]
    rw [getElem?_modify] at hget'
    by_cases htgt : target = index
    · subst htgt
      rw [hget] at hget'
      simp only [Option.map_eq_map, Option.map_some, Option.some.injEq] at hget'
      exact .used record hget hget'.symm hpasses.unused (decide_eq_true rfl)
    · simp only [if_neg htgt, Option.map_eq_map, Option.map_id'] at hget'
      exact .kept record' hget' rfl (decide_eq_false htgt) rfl
  | @revoke _ target =>
    rw [getElem?_modify] at hget'
    refine came_of_change ?_ ?_ hget' <;> intro record <;> split <;> rfl
  | revokeAll dev =>
    rw [getElem?_map] at hget'
    refine came_of_change ?_ ?_ hget' <;> intro record <;> split <;> rfl

/-- A call adds the terms of the token that it issues. -/
theorem Effect.terms (h : Effect m event tokens') (m' : UnattendedTokenManager) :
    tokens'.map terms =
      m.tokens.map terms ++ (issuedTerms ⟨m, event, m'⟩).toList := by
  have hmodify : ∀ change index,
      (∀ record, (change record).terms = record.terms) →
        (m.tokens.modify index change).map UnattendedTokenRecord.terms =
          m.tokens.map UnattendedTokenRecord.terms := by
    intro change index hterms
    apply ext_getElem?
    intro j
    rw [getElem?_map, getElem?_map, getElem?_modify]
    cases m.tokens[j]? with
    | none => rfl
    | some record =>
      show some (if index = j then change record else record).terms = some record.terms
      split
      · rw [hterms]
      · rfl
  cases h with
  | idle hidle =>
    have hnone : issuedTerms ⟨m, event, m'⟩ = none := by
      unfold issuedTerms
      split
      · next heq =>
        dsimp only at heq
        rw [heq] at hidle
        cases hidle
      · rfl
    rw [hnone, Option.toList_none, append_nil]
  | issue wire => rw [map_append]; rfl
  | validate => exact (hmodify .use _ fun _ => rfl).trans (append_nil _).symm
  | revoke => exact (hmodify .revoke _ fun _ => rfl).trans (append_nil _).symm
  | revokeAll dev =>
    rw [map_map]
    refine Eq.trans ?_ (append_nil _).symm
    refine map_congr_left ?_
    intro record _
    show (if revocable dev record then record.revoke else record).terms = record.terms
    split <;> rfl

variable {st : TokenStep} {steps : List TokenStep}

/-- Only a record of the table answers a validation. -/
theorem lt_of_admits (h : admits index st = true) :
    index < st.pre.tokens.length := by
  unfold admits at h
  split at h
  · obtain ⟨_, hget, _⟩ := getElem?_of_findToken (of_decide_eq_true h)
    exact (List.getElem?_eq_some_iff.1 hget).1
  · cases h

theorem countP_snoc :
    (steps ++ [st]).countP (admits index) =
      steps.countP (admits index) + (admits index st).toNat := by
  rw [countP_append, countP_singleton]
  cases admits index st <;> rfl

/-- One step keeps the accounts. -/
theorem Accounted.snoc (h : Accounted steps m) (call : UnattendedCall) :
    Accounted (steps ++ [unattendedMachine.stepAt m call]) (unattendedMachine.step m call).2 := by
  have heff := step_effect m call
  generalize htokens : (unattendedMachine.step m call).2.tokens = tokens' at heff
  have hterms := heff.terms (unattendedMachine.step m call).2
  have hgrow : m.tokens.length ≤ tokens'.length := by
    have hlen := congrArg length hterms
    rw [length_append, length_map, length_map] at hlen
    omega
  refine ⟨?_, ?_, ?_⟩
  · rw [htokens, hterms, h.terms]
    exact (filterMap_snoc ..).symm
  · intro index hidx
    rw [htokens] at hidx
    have hout : admits index (unattendedMachine.stepAt m call) = false := by
      rw [← Bool.not_eq_true]
      intro hadm
      have hlt : index < m.tokens.length := lt_of_admits hadm
      omega
    rw [countP_snoc, hout, h.fresh index (by omega)]
    rfl
  · intro index record' maxSessions hget' hmax
    rw [htokens] at hget'
    rw [countP_snoc]
    cases heff.came hget' with
    | issued hnew hzero =>
      have hout : admits index (unattendedMachine.stepAt m call) = false := by
        rw [← Bool.not_eq_true]
        intro hadm
        have hlt : index < m.tokens.length := lt_of_admits hadm
        omega
      rw [hout, h.fresh index hnew, hzero]
      exact ⟨rfl, le_iff_toNat_le.2 (Nat.zero_le _)⟩
    | kept record hget hsame hout hused =>
      have hmax' : record.maxSessions = some maxSessions :=
        (congrArg TokenTerms.maxSessions hsame).symm.trans hmax
      rw [hused]
      show _ + (admits index ⟨m, _, _⟩).toNat = _ ∧ _
      rw [hout]
      exact h.used index record maxSessions hget hmax'
    | used record hget hrec hunused hin =>
      subst hrec
      -- The limit leaves room, so the counter does not saturate.
      obtain ⟨hold, _⟩ := h.used index record maxSessions hget hmax
      have hroom := lt_iff_toNat_lt.1 (hunused maxSessions hmax)
      have hword : maxSessions.toNat < 2 ^ 32 := toNat_lt _
      have hnew : record.use.sessionsUsed.toNat = record.sessionsUsed.toNat + 1 := by
        rw [use, toNat_saturatingAdd32, toNat_one]
        omega
      show _ + (admits index ⟨m, _, _⟩).toNat = _ ∧ _
      rw [hin, le_iff_toNat_le, hnew, hold]
      exact ⟨rfl, hroom⟩

/-! ## Runs -/

theorem accounted_trace (maxTokenTtlNs : UInt64) (calls : List UnattendedCall) :
    Accounted (unattendedMachine.trace (new maxTokenTtlNs) calls)
      (unattendedMachine.run (new maxTokenTtlNs) calls) := by
  refine unattendedMachine.trace_induction ?_ ?_ calls
  · refine ⟨rfl, fun _ _ => rfl, ?_⟩
    intro index record maxSessions hget
    simp [new] at hget
  · intro steps m call h
    exact h.snoc call

/-- The token at the index has been revoked. -/
def IsRevoked (index : Nat) (m : UnattendedTokenManager) : Prop :=
  ∃ record, m.tokens[index]? = some record ∧ record.isRevoked = true

theorem IsRevoked.step (h : IsRevoked index m) (call : UnattendedCall) :
    IsRevoked index (unattendedMachine.step m call).2 := by
  obtain ⟨record, hget, hrev⟩ := h
  obtain ⟨record', hget', hkeeps⟩ := (step_effect m call).grows index record hget
  exact ⟨record', hget', hkeeps.revoked hrev⟩

variable {call : UnattendedCall}

/-- What the manager has checked when a validation succeeds. -/
theorem validate_ok {tokenId : Bytes 16} {secret : Bytes 32} {dev : DeviceFingerprint}
    {requested granted : CapabilitySet} {nowNs : UInt64}
    (h : (unattendedMachine.stepAt m call).event =
      .validateToken tokenId secret dev requested nowNs (.ok granted)) :
    granted = requested ∧ m.unattendedEnabled = true ∧
      ∃ index record, findToken m.tokens tokenId = some index ∧ m.tokens[index]? = some record ∧
        Passes record tokenId secret dev requested nowNs := by
  have heff := step_effect m call
  rw [← Machine.stepAt_event, h] at heff
  generalize (unattendedMachine.step m call).2.tokens = tokens' at heff
  cases heff with
  | idle hidle => cases hidle
  | validate henabled hfind hget hpasses =>
    exact ⟨rfl, henabled, _, _, hfind, hget, hpasses⟩

theorem admits_eq_true (h : admits index st = true) :
    ∃ tokenId secret dev requested nowNs granted,
      st.event = .validateToken tokenId secret dev requested nowNs (.ok granted) ∧
        findToken st.pre.tokens tokenId = some index := by
  unfold admits at h
  split at h
  · next heq => exact ⟨_, _, _, _, _, _, heq, of_decide_eq_true h⟩
  · cases h

/-- A revoked record answers no validation. -/
theorem IsRevoked.not_admits (h : IsRevoked index m) :
    admits index (unattendedMachine.stepAt m call) = false := by
  rw [← Bool.not_eq_true]
  intro hadm
  obtain ⟨_, _, _, _, _, _, hev, hfind⟩ :=
    admits_eq_true hadm
  obtain ⟨_, _, idx', _, hfind', hget', hpasses⟩ := validate_ok hev
  obtain ⟨_, hget, hrev⟩ := h
  have hidx : idx' = index := Option.some.inj (hfind'.symm.trans hfind)
  rw [hidx, hget, Option.some.injEq] at hget'
  rw [hget', hpasses.live] at hrev
  cases hrev

/-- A successful validation as the terms of its token allow it. -/
structure WithinTerms (terms : TokenTerms) (st : TokenStep) : Prop where
  enabled : st.pre.unattendedEnabled = true
  event : ∃ secret requested nowNs,
    st.event = .validateToken terms.tokenId secret terms.device requested nowNs (.ok requested) ∧
      nowNs < terms.expiresAtNs ∧ requested.isSubsetOf terms.allowedCapabilities = true

/-- The step revokes the record at the index, which was issued under the terms. -/
def Revokes (index : Nat) (terms : TokenTerms) (st : TokenStep) : Prop :=
  (∃ tokenId, st.event = .revokeToken tokenId (.ok ()) ∧
    findToken st.pre.tokens tokenId = some index) ∨
  ∃ count, st.event = .revokeAllForDevice terms.device count

/-- A revocation reaches the record. -/
theorem isRevoked_of_revokes {terms : TokenTerms}
    (hterms : (m.tokens.map UnattendedTokenRecord.terms)[index]? = some terms)
    (h : Revokes index terms (unattendedMachine.stepAt m call)) :
    IsRevoked index (unattendedMachine.step m call).2 := by
  rw [getElem?_map, Option.map_eq_some_iff] at hterms
  obtain ⟨record, hget, rfl⟩ := hterms
  have heff := step_effect m call
  rw [← Machine.stepAt_event] at heff
  unfold IsRevoked
  generalize (unattendedMachine.step m call).2.tokens = tokens' at heff
  rcases h with ⟨_, hev, hfind⟩ | ⟨_, hev⟩
  · rw [hev] at heff
    cases heff with
    | idle hidle => cases hidle
    | revoke hfind' =>
      have hidx := Option.some.inj (hfind'.symm.trans hfind)
      refine ⟨record.revoke, ?_, rfl⟩
      rw [hidx, getElem?_modify, hget]
      simp
  · rw [hev] at heff
    cases heff with
    | idle hidle => cases hidle
    | revokeAll =>
      refine ⟨if revocable record.terms.device record then record.revoke else record, ?_, ?_⟩
      · rw [getElem?_map, hget]
        rfl
      · split
        · rfl
        next hnot =>
        -- A record of the device that is not revocable is revoked already.
        unfold revocable at hnot
        simpa [terms] using hnot

/-- In every run from a new manager, each issued token answers at most
`max_sessions` successful validations, every successful validation is within
the terms of the token that answered it, and a token that has been revoked, by
its id or with its device, answers none afterwards. -/
theorem sessions_within_terms (maxTokenTtlNs : UInt64) (calls : List UnattendedCall) :
    let steps := unattendedMachine.trace (new maxTokenTtlNs) calls
    (∀ index terms maxSessions, (issued steps)[index]? = some terms →
      terms.maxSessions = some maxSessions → steps.countP (admits index) ≤ maxSessions.toNat) ∧
    (∀ earlier st later, steps = earlier ++ st :: later →
      ∀ tokenId secret device requested nowNs granted,
        st.event = .validateToken tokenId secret device requested nowNs (.ok granted) →
          ∃ index terms, admits index st = true ∧ (issued earlier)[index]? = some terms ∧
            WithinTerms terms st) ∧
    (∀ earlier st later, steps = earlier ++ st :: later →
      ∀ index terms, (issued earlier)[index]? = some terms → Revokes index terms st →
        ∀ st' ∈ later, admits index st' = false) := by
  refine ⟨?_, ?_, ?_⟩
  · intro index terms maxSessions hterms hmax
    have haccounted := accounted_trace maxTokenTtlNs calls
    rw [← haccounted.terms, List.getElem?_map, Option.map_eq_some_iff] at hterms
    obtain ⟨record, hget, rfl⟩ := hterms
    obtain ⟨hcount, hle⟩ := haccounted.used index record maxSessions hget hmax
    rw [hcount]
    exact le_iff_toNat_le.1 hle
  · intro earlier st later heq tokenId secret device requested nowNs granted hev
    obtain ⟨before, call, after, _, rfl, rfl, _⟩ := unattendedMachine.trace_eq_append_cons heq
    obtain ⟨rfl, henabled, index, record, hfind, hget, hpasses⟩ := validate_ok hev
    obtain ⟨_, hget', hid⟩ := getElem?_of_findToken hfind
    rw [hget, Option.some.injEq] at hget'
    subst hget'
    refine ⟨index, record.terms, ?_, ?_, henabled, secret, granted, nowNs, ?_, hpasses.inTime,
      hpasses.within⟩
    · unfold admits
      rw [hev]
      exact decide_eq_true hfind
    · rw [← (accounted_trace maxTokenTtlNs before).terms, List.getElem?_map, hget]
      rfl
    · rw [hev]
      show _ = UnattendedEvent.validateToken record.tokenId secret record.device granted nowNs _
      rw [hid, hpasses.bound]
  · intro earlier st later heq index terms hterms hrevs
    obtain ⟨before, call, after, _, rfl, rfl, rfl⟩ := unattendedMachine.trace_eq_append_cons heq
    rw [← (accounted_trace maxTokenTtlNs before).terms] at hterms
    exact unattendedMachine.forall_trace_of_invariant
      (fun _ call h => h.step call)
      (fun _ call h => h.not_admits) (isRevoked_of_revokes hterms hrevs) after

end LatencyDesk.Session.Unattended
