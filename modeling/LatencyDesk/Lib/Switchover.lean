import Mathlib.Data.List.Basic
import Mathlib.Data.Fin.Basic

/-!
# A switch-over between two lines

Two parties share two lines.  Each of them treats one line as active, and they
move to the other line together.  One party offers the switch (`prepare`), the
other answers (`prepared`), the first commits (`commit`), the second moves and
says so on the new line (`activated`), and the first moves and confirms
(`confirmed`).  Every commit counts the sequence number and the epoch up.

Letters may be lost and may overtake each other.  A party takes any letter that
is under way, so the letters of a party are a list of which a step of the other
one keeps some.

`Joint` is the invariant of two parties and their letters, and `Joint.act` says
that every step of a party keeps it.  When neither party waits for `activated`,
both have counted the same switches (`Joint.sequence_eq`), and who has counted
the same switches has the same active line (`Joint.active_eq`).
-/

namespace LatencyDesk.Lib.Switchover

open List Nat

/-- What the letters of one switch agree on. -/
structure Terms (D : Type) where
  sequence : Nat
  base : Nat
  target : D

inductive Stage where
  | prepare
  | prepared
  | commit
  | activated
  | confirmed
deriving DecidableEq

/-- For the numerals of the two lines. -/
instance neZeroLines : @NeZero Nat Zero.ofOfNat0 2 := ⟨succ_ne_zero 1⟩

structure Letter (D : Type) where
  line : Fin 2
  stage : Stage
  terms : Terms D

/-- How far a switch has come that is not committed yet. -/
inductive Handshake (D : Type) where
  | offered (terms : Terms D)
  | asked (terms : Terms D)
  | answered (terms : Terms D)
  | agreed (terms : Terms D)

def Handshake.terms {D : Type} : Handshake D → Terms D
  | .offered terms | .asked terms | .answered terms | .agreed terms => terms

/-- What a party waits for after a commit. -/
inductive Promotion (D : Type) where
  | idle
  | awaitingActivated (terms : Terms D)
  | awaitingConfirmed (terms : Terms D)

structure Party (D : Type) where
  sequence : Nat
  epoch : Nat
  active : Fin 2
  /-- What a switch to a line has to name. -/
  targets : Fin 2 → D
  handshake : Option (Fin 2 × Handshake D)
  promotion : Promotion D

variable {D : Type} {start : Nat}

/-- The party has committed and has not moved yet. -/
def Party.Awaits (p : Party D) : Prop := ∃ terms, p.promotion = .awaitingActivated terms

/-- A step of a party: the letter it takes, the letter it sends, the party after. -/
inductive Act (p : Party D) : Option (Letter D) → Option (Letter D) → Party D → Prop
  | stay : Act p none none p
  | offer (line : Fin 2) (terms : Terms D) (hfree : p.handshake = none)
      (hbase : terms.base = p.epoch) (hsequence : terms.sequence = p.sequence + 1)
      (htarget : terms.target = p.targets (1 - p.active)) :
      Act p none (some ⟨line, .prepare, terms⟩) { p with handshake := some (line, .offered terms) }
  | hear (line : Fin 2) (terms : Terms D) (hfree : p.handshake = none)
      (hbase : terms.base = p.epoch) (hsequence : terms.sequence = p.sequence + 1)
      (htarget : terms.target = p.targets (1 - p.active)) :
      Act p (some ⟨line, .prepare, terms⟩) none { p with handshake := some (line, .asked terms) }
  | answer (line : Fin 2) (terms : Terms D) (hasked : p.handshake = some (line, .asked terms)) :
      Act p none (some ⟨line, .prepared, terms⟩)
        { p with handshake := some (line, .answered terms) }
  | agree (line : Fin 2) (terms : Terms D) (hoffered : p.handshake = some (line, .offered terms)) :
      Act p (some ⟨line, .prepared, terms⟩) none { p with handshake := some (line, .agreed terms) }
  | commit (line : Fin 2) (terms : Terms D) (hagreed : p.handshake = some (line, .agreed terms))
      (htarget : terms.target = p.targets (1 - p.active)) :
      Act p none (some ⟨line, .commit, terms⟩)
        { p with
          sequence := terms.sequence
          epoch := p.epoch + 1
          handshake := none
          promotion := .awaitingActivated terms }
  | follow (line : Fin 2) (terms : Terms D)
      (hanswered : p.handshake = some (line, .answered terms)) :
      Act p (some ⟨line, .commit, terms⟩) (some ⟨1 - p.active, .activated, terms⟩)
        { p with
          sequence := terms.sequence
          epoch := p.epoch + 1
          active := 1 - p.active
          handshake := none
          promotion := .awaitingConfirmed terms }
  | move (terms : Terms D) (hawaiting : p.promotion = .awaitingActivated terms) :
      Act p (some ⟨1 - p.active, .activated, terms⟩) (some ⟨1 - p.active, .confirmed, terms⟩)
        { p with active := 1 - p.active, promotion := .idle }
  | finish (terms : Terms D) (hawaiting : p.promotion = .awaitingConfirmed terms) :
      Act p (some ⟨p.active, .confirmed, terms⟩) none { p with promotion := .idle }

/-! ## The invariant -/

/-- What holds of one party.  `start` is the epoch before any switch. -/
structure Party.Sound (start : Nat) (p : Party D) : Prop where
  distinct : p.targets 0 ≠ p.targets 1
  counted : p.epoch = start + p.sequence
  pending : ∀ line handshake, p.handshake = some (line, handshake) →
    handshake.terms.base = p.epoch ∧ handshake.terms.sequence = p.sequence + 1
  awaiting : ∀ terms, p.promotion = .awaitingActivated terms →
    terms.base + 1 = p.epoch ∧ terms.sequence = p.sequence ∧ terms.target = p.targets (1 - p.active)
  /-- Every switch that is complete has changed the active line. -/
  settled : ¬ p.Awaits → p.active.val = p.sequence % 2
  unsettled : p.Awaits → p.active.val = (p.sequence + 1) % 2

/-- What holds of a party's letters. -/
structure Party.Posted (p : Party D) (letters : List (Letter D)) : Prop where
  below : ∀ letter ∈ letters, letter.terms.base ≤ p.epoch
  past : ∀ letter ∈ letters, letter.stage ≠ .prepare → letter.stage ≠ .prepared →
    letter.terms.base < p.epoch
  prepare : ∀ letter ∈ letters, letter.stage = .prepare → letter.terms.base = p.epoch →
    p.handshake = some (letter.line, .offered letter.terms) ∨
      p.handshake = some (letter.line, .agreed letter.terms)
  prepared : ∀ letter ∈ letters, letter.stage = .prepared → letter.terms.base = p.epoch →
    p.handshake = some (letter.line, .answered letter.terms)

/-- What the state of one party says about the other one. -/
structure Matched (p q : Party D) : Prop where
  /-- Who was asked has been asked by the other one. -/
  asked : ∀ line terms, p.handshake = some (line, .asked terms) →
    terms.target = p.targets (1 - p.active) ∧ ¬ p.Awaits ∧ ¬ q.Awaits ∧
      q.sequence = p.sequence ∧ q.handshake = some (line, .offered terms)
  /-- Who has answered finds the other one on the way to its commit or behind it. -/
  answered : ∀ line terms, p.handshake = some (line, .answered terms) →
    terms.target = p.targets (1 - p.active) ∧ ¬ p.Awaits ∧
      (¬ q.Awaits ∧ q.sequence = p.sequence ∧
          (q.handshake = some (line, .offered terms) ∨ q.handshake = some (line, .agreed terms)) ∨
        q.promotion = .awaitingActivated terms ∧ q.sequence = p.sequence + 1)
  agreed : ∀ line terms, p.handshake = some (line, .agreed terms) →
    ¬ p.Awaits ∧ q.sequence = p.sequence ∧ q.handshake = some (line, .answered terms)
  /-- Who is ahead has committed, and the other one still expects the commit. -/
  ahead : q.sequence < p.sequence →
    p.sequence = q.sequence + 1 ∧
      ∃ line terms, p.promotion = .awaitingActivated terms ∧
        q.handshake = some (line, .answered terms)
  /-- When the commit has arrived, the other one has moved. -/
  moved : ∀ terms, p.promotion = .awaitingActivated terms → q.sequence = p.sequence →
    q.active = 1 - p.active ∧ ¬ q.Awaits ∧ terms.target = q.targets q.active
  /-- An offer that crosses a switch names the line of that switch. -/
  crossed : ∀ line terms, p.handshake = some (line, .offered terms) →
    p.Awaits ∨ q.Awaits ∧ q.sequence = p.sequence → terms.target = p.targets (1 - p.active)

/-- The invariant of two parties and the letters of each. -/
structure Joint (start : Nat) (p q : Party D) (sent received : List (Letter D)) : Prop where
  left : p.Sound start
  right : q.Sound start
  posted : p.Posted sent
  arriving : q.Posted received
  matched : Matched p q
  matching : Matched q p

theorem Joint.symm {p q : Party D} {sent received : List (Letter D)}
    (h : Joint start p q sent received) : Joint start q p received sent :=
  ⟨h.right, h.left, h.arriving, h.posted, h.matching, h.matched⟩

/-! ## One party -/

theorem Party.Sound.targets_ne {p : Party D} (h : p.Sound start) (line : Fin 2) :
    p.targets line ≠ p.targets (1 - line) := by
  match line with
  | 0 => exact h.distinct
  | 1 => exact h.distinct.symm

section

variable {start : Nat} {p q : Party D} {sent received : List (Letter D)}

/-- The letters of a party that has no handshake, or was only asked, are old. -/
theorem Party.Posted.lt_epoch (h : p.Posted sent)
    (hquiet : p.handshake = none ∨ ∃ line terms, p.handshake = some (line, .asked terms)) :
    ∀ letter ∈ sent, letter.terms.base < p.epoch := by
  intro letter hlet
  have hle := h.below letter hlet
  by_contra hlt
  have hbase : letter.terms.base = p.epoch := by omega
  by_cases hprepare : letter.stage = .prepare
  · rcases hquiet with hnone | ⟨line, terms, hasked⟩
    · simpa [hnone] using h.prepare letter hlet hprepare hbase
    · simpa [hasked] using h.prepare letter hlet hprepare hbase
  · by_cases hprep : letter.stage = .prepared
    · rcases hquiet with hnone | ⟨_, _, hasked⟩
      · simpa [hnone] using h.prepared letter hlet hprep hbase
      · simpa [hasked] using h.prepared letter hlet hprep hbase
    · exact hlt (h.past letter hlet hprepare hprep)

theorem Party.Posted.of_lt_epoch (h : ∀ letter ∈ sent, letter.terms.base < p.epoch) :
    p.Posted sent where
  below letter hlet := le_of_lt (h letter hlet)
  past letter hlet _ _ := h letter hlet
  prepare letter hlet _ hbase := absurd hbase (Nat.ne_of_lt (h letter hlet))
  prepared letter hlet _ hbase := absurd hbase (Nat.ne_of_lt (h letter hlet))

theorem Party.Posted.subset (h : q.Posted received) {kept : List (Letter D)}
    (hkept : kept ⊆ received) : q.Posted kept where
  below letter hlet := h.below letter (hkept hlet)
  past letter hlet := h.past letter (hkept hlet)
  prepare letter hlet := h.prepare letter (hkept hlet)
  prepared letter hlet := h.prepared letter (hkept hlet)

/-- One more letter: it concerns a past epoch, or it is the offer or the answer
that the party stands by. -/
theorem Party.Posted.snoc (h : p.Posted sent) {letter : Letter D}
    (hlet : letter.terms.base < p.epoch ∨
      letter.terms.base = p.epoch ∧
        (letter.stage = .prepare ∧ p.handshake = some (letter.line, .offered letter.terms) ∨
          letter.stage = .prepared ∧ p.handshake = some (letter.line, .answered letter.terms))) :
    p.Posted (sent ++ [letter]) := by
  -- the old letters are as before, so each field is about the new one alone
  refine ⟨forall_mem_append.2 ⟨h.below, forall_mem_singleton.2 ?_⟩,
    forall_mem_append.2 ⟨h.past, forall_mem_singleton.2 ?_⟩,
    forall_mem_append.2 ⟨h.prepare, forall_mem_singleton.2 ?_⟩,
    forall_mem_append.2 ⟨h.prepared, forall_mem_singleton.2 ?_⟩⟩
  all_goals
    rcases hlet with hlt | ⟨heq, ⟨hstage, hopen⟩ | ⟨hstage, hopen⟩⟩
    · simp [Nat.ne_of_lt hlt, Nat.le_of_lt hlt, hlt]
    all_goals simp [heq, hstage, hopen]

/-! ## What a letter says -/

/-- The other party has counted as many switches as this one, unless it is the
one that waits for a commit, or the one that has sent it. -/
theorem Joint.sequence_eq_of (h : Joint start p q sent received)
    (hle : p.epoch ≤ q.epoch)
    (hansd : ∀ line terms, p.handshake ≠ some (line, .answered terms)) :
    q.sequence = p.sequence := by
  have hp := h.left.counted
  have hq := h.right.counted
  by_contra hne
  have hlt : p.sequence < q.sequence := by omega
  obtain ⟨_, line, terms, _, hexpects⟩ := h.matching.ahead hlt
  exact hansd line terms hexpects

variable {line : Fin 2} {terms : Terms D} (hlet : ⟨line, .activated, terms⟩ ∈ received)
  (hawaiting : p.promotion = .awaitingActivated terms)

section

variable (h : Joint start p q sent received)

include h

/-- Who takes a prepare letter finds the other party behind that very offer, and
neither of them is in the middle of a switch. -/
theorem Joint.offered_of_prepare (hlet : ⟨line, .prepare, terms⟩ ∈ received)
    (hfree : p.handshake = none) (hbase : terms.base = p.epoch)
    (htgt : terms.target = p.targets (1 - p.active)) :
    q.sequence = p.sequence ∧ q.handshake = some (line, .offered terms) ∧
      ¬ p.Awaits ∧ ¬ q.Awaits := by
  have hbelow : terms.base ≤ q.epoch := h.arriving.below _ hlet
  have hseq : q.sequence = p.sequence :=
    h.sequence_eq_of (by omega) fun _ _ hansd => by simp [hfree] at hansd
  have hep : terms.base = q.epoch := by
    rw [hbase, h.left.counted, h.right.counted, hseq]
  have hoffd : q.handshake = some (line, .offered terms) := by
    rcases h.arriving.prepare _ hlet rfl hep with hoffd | hagreed
    · exact hoffd
    · obtain ⟨_, _, hansd⟩ := h.matching.agreed line terms hagreed
      simp [hfree] at hansd
  refine ⟨hseq, hoffd, ?_, ?_⟩
  · rintro ⟨other, hawaiting⟩
    -- the other party has moved and offers the line it has left
    obtain ⟨_, _, hmoved⟩ := h.matched.moved other hawaiting hseq
    have hcrossed := h.matching.crossed line terms hoffd (.inr ⟨⟨other, hawaiting⟩, hseq.symm⟩)
    have hoth := (h.left.awaiting other hawaiting).2.2
    exact h.right.targets_ne q.active (by rw [← hmoved, hoth, ← htgt, hcrossed])
  · rintro ⟨other, hawaiting⟩
    -- this party has moved, and the offer names the line that it moved to
    obtain ⟨_, _, hmoved⟩ := h.matching.moved other hawaiting hseq.symm
    have hcrossed := h.matching.crossed line terms hoffd (.inl ⟨other, hawaiting⟩)
    have hoth := (h.right.awaiting other hawaiting).2.2
    exact h.left.targets_ne p.active (by rw [← hmoved, hoth, ← hcrossed, htgt])

/-- Who takes the answer to its offer finds the other party behind that answer. -/
theorem Joint.answered_of_prepared (hlet : ⟨line, .prepared, terms⟩ ∈ received)
    (hoffd : p.handshake = some (line, .offered terms)) :
    q.sequence = p.sequence ∧ q.handshake = some (line, .answered terms) ∧ ¬ p.Awaits := by
  have hbase : terms.base = p.epoch := (h.left.pending _ _ hoffd).1
  have hbelow : terms.base ≤ q.epoch := h.arriving.below _ hlet
  have hseq : q.sequence = p.sequence :=
    h.sequence_eq_of (by omega) fun _ _ hansd => by simp [hoffd] at hansd
  have hep : terms.base = q.epoch := by
    rw [hbase, h.left.counted, h.right.counted, hseq]
  have hansd := h.arriving.prepared _ hlet rfl hep
  refine ⟨hseq, hansd, ?_⟩
  rcases (h.matching.answered line terms hansd).2.2 with ⟨hwait, _⟩ | ⟨_, hahead⟩
  · exact hwait
  · omega

/-- Who takes the commit that it expects finds the other party waiting for it on
the same line. -/
theorem Joint.awaiting_of_commit (hlet : ⟨line, .commit, terms⟩ ∈ received)
    (hansd : p.handshake = some (line, .answered terms)) :
    q.promotion = .awaitingActivated terms ∧ q.sequence = p.sequence + 1 ∧ q.active = p.active := by
  have hbase : terms.base = p.epoch := (h.left.pending _ _ hansd).1
  have hpast : terms.base < q.epoch :=
    h.arriving.past _ hlet (nofun) nofun
  have hp := h.left.counted
  have hq := h.right.counted
  obtain ⟨_, hwait, ⟨_, hsame, _⟩ | ⟨hawaiting, hahead⟩⟩ := h.matched.answered line terms hansd
  · omega
  · refine ⟨hawaiting, hahead, Fin.ext ?_⟩
    rw [h.left.settled hwait, h.right.unsettled ⟨terms, hawaiting⟩]
    omega

include hawaiting hlet in
/-- Who takes the activation that it waits for finds that the other party has
moved. -/
theorem Joint.moved_of_activated :
    q.sequence = p.sequence ∧ ¬ q.Awaits := by
  have hbase := (h.left.awaiting terms hawaiting).1
  have hpast : terms.base < q.epoch :=
    h.arriving.past _ hlet (nofun) nofun
  have hseq : q.sequence = p.sequence := by
    refine h.sequence_eq_of (by omega) fun line terms' hansd => ?_
    exact (h.matched.answered line terms' hansd).2.1 ⟨terms, hawaiting⟩
  exact ⟨hseq, (h.matched.moved terms hawaiting hseq).2.1⟩

end

/-! ## The steps keep the invariant -/

/-- A party that opens a handshake or takes it further stays sound. -/
theorem Party.Sound.withHandshake (h : p.Sound start) (handshake : Handshake D)
    (hpend : handshake.terms.base = p.epoch ∧ handshake.terms.sequence = p.sequence + 1) :
    { p with handshake := some (line, handshake) }.Sound start := by
  refine { h with pending := ?_ }
  intro line' handshake' heq
  cases heq
  exact hpend

/-- What is left to show of a party without a handshake. -/
theorem Matched.of_free (hfree : p.handshake = none)
    (hahead : q.sequence < p.sequence →
      p.sequence = q.sequence + 1 ∧
        ∃ line terms, p.promotion = .awaitingActivated terms ∧
          q.handshake = some (line, .answered terms))
    (hmoved : ∀ terms, p.promotion = .awaitingActivated terms → q.sequence = p.sequence →
      q.active = 1 - p.active ∧ ¬ q.Awaits ∧ terms.target = q.targets q.active) : Matched p q :=
  ⟨by simp [hfree], by simp [hfree], by simp [hfree], hahead, hmoved, by simp [hfree]⟩

theorem Joint.offer (h : Joint start p q sent received) (hfree : p.handshake = none)
    (hbase : terms.base = p.epoch) (hseq : terms.sequence = p.sequence + 1)
    (htgt : terms.target = p.targets (1 - p.active)) :
    Joint start { p with handshake := some (line, .offered terms) } q
      (sent ++ [⟨line, .prepare, terms⟩]) received := by
  refine ⟨h.left.withHandshake _ ⟨hbase, hseq⟩, h.right, ?_, h.arriving, ?_, ?_⟩
  · have hold : { p with handshake := some (line, .offered terms) }.Posted sent :=
      .of_lt_epoch (h.posted.lt_epoch (.inl hfree))
    exact hold.snoc (.inr ⟨hbase, .inl ⟨rfl, rfl⟩⟩)
  · refine ⟨nofun, nofun, nofun, h.matched.ahead, h.matched.moved, ?_⟩
    rintro _ _ ⟨⟩ _
    exact htgt
  · -- the other party was neither asked nor has it agreed, since there was no handshake here
    refine ⟨?_, ?_, ?_, ?_, h.matching.moved, h.matching.crossed⟩
    · intro line' terms' hasked
      simpa [hfree] using (h.matching.asked line' terms' hasked).2.2.2.2
    · intro line' terms' hansd
      obtain ⟨hsame, hwait, ⟨_, _, hopen⟩ | hbehind⟩ := h.matching.answered line' terms' hansd
      · simp [hfree] at hopen
      · exact ⟨hsame, hwait, .inr hbehind⟩
    · intro line' terms' hagreed
      simpa [hfree] using (h.matching.agreed line' terms' hagreed).2.2
    · intro hlt
      obtain ⟨_, _, _, _, hansd⟩ := h.matching.ahead hlt
      simp [hfree] at hansd

/-- While a party's own offer is open, the handshake of the other one is free. -/
theorem Matched.of_offered (h : Matched q p) (hoffd : q.handshake = some (line, .offered terms))
    (hsame : q.sequence = p.sequence) (handshake : Option (Fin 2 × Handshake D)) :
    Matched q { p with handshake := handshake } :=
  ⟨by simp [hoffd], by simp [hoffd], by simp [hoffd],
    fun hlt => absurd hsame (ne_of_gt hlt), h.moved, h.crossed⟩

section

variable (h : Joint start p q sent received)

include h

theorem Joint.hear (hlet : ⟨line, .prepare, terms⟩ ∈ received) (hfree : p.handshake = none)
    (hbase : terms.base = p.epoch) (hseq : terms.sequence = p.sequence + 1)
    (htgt : terms.target = p.targets (1 - p.active)) :
    Joint start { p with handshake := some (line, .asked terms) } q sent received := by
  obtain ⟨hsame, hoffd, hp, hq⟩ := h.offered_of_prepare hlet hfree hbase htgt
  refine ⟨h.left.withHandshake _ ⟨hbase, hseq⟩, h.right,
    .of_lt_epoch (h.posted.lt_epoch (.inl hfree)), h.arriving, ?_,
    h.matching.of_offered hoffd hsame _⟩
  refine ⟨?_, nofun, nofun, h.matched.ahead, h.matched.moved, nofun⟩
  rintro _ _ ⟨⟩
  exact ⟨htgt, hp, hq, hsame, hoffd⟩

theorem Joint.answer (hasked : p.handshake = some (line, .asked terms)) :
    Joint start { p with handshake := some (line, .answered terms) } q
      (sent ++ [⟨line, .prepared, terms⟩]) received := by
  obtain ⟨htgt, hp, hq, hsame, hoffd⟩ := h.matched.asked line terms hasked
  have hpend := h.left.pending line _ hasked
  refine ⟨h.left.withHandshake _ hpend, h.right, ?_, h.arriving, ?_,
    h.matching.of_offered hoffd hsame _⟩
  · have hold : { p with handshake := some (line, .answered terms) }.Posted sent :=
      .of_lt_epoch (h.posted.lt_epoch (.inr ⟨line, terms, hasked⟩))
    exact hold.snoc (.inr ⟨hpend.1, .inr ⟨rfl, rfl⟩⟩)
  · refine ⟨nofun, ?_, nofun, h.matched.ahead, h.matched.moved, nofun⟩
    rintro _ _ ⟨⟩
    exact ⟨htgt, hp, .inl ⟨hq, hsame, .inl hoffd⟩⟩

theorem Joint.agree (hlet : ⟨line, .prepared, terms⟩ ∈ received)
    (hoffd : p.handshake = some (line, .offered terms)) :
    Joint start { p with handshake := some (line, .agreed terms) } q sent received := by
  obtain ⟨hsame, hansd, hp⟩ := h.answered_of_prepared hlet hoffd
  obtain ⟨htgt, hq, _⟩ := h.matching.answered line terms hansd
  have hpend := h.left.pending line _ hoffd
  refine ⟨h.left.withHandshake _ hpend, h.right, ?_, h.arriving, ?_, ?_⟩
  · refine ⟨h.posted.below, h.posted.past, ?_, ?_⟩
    · intro letter hmem hstage hbase
      have hopen := h.posted.prepare letter hmem hstage hbase
      simp only [hoffd, Option.some.injEq, Prod.mk.injEq, Handshake.offered.injEq,
        reduceCtorEq, and_false, or_false] at hopen
      exact .inr (by rw [hopen.1, hopen.2])
    · intro letter hmem hstage hbase
      exact absurd (h.posted.prepared letter hmem hstage hbase) (by simp [hoffd])
  · refine ⟨nofun, nofun, ?_, h.matched.ahead, h.matched.moved, nofun⟩
    rintro _ _ ⟨⟩
    exact ⟨hp, hsame, hansd⟩
  · refine ⟨by simp [hansd], ?_, by simp [hansd], fun hlt => ?_, h.matching.moved,
      by simp [hansd]⟩
    · rw [hansd]
      rintro _ _ ⟨⟩
      exact ⟨htgt, hq, .inl ⟨hp, hsame.symm, .inr rfl⟩⟩
    · exact absurd hsame (ne_of_gt hlt)

theorem Joint.commit (hagreed : p.handshake = some (line, .agreed terms))
    (htgt : terms.target = p.targets (1 - p.active)) :
    Joint start
      { p with
        sequence := p.sequence + 1
        epoch := p.epoch + 1
        handshake := none
        promotion := .awaitingActivated terms } q
      (sent ++ [⟨line, .commit, terms⟩]) received := by
  obtain ⟨hp, hsame, hansd⟩ := h.matched.agreed line terms hagreed
  obtain ⟨hbase, hseq⟩ := h.left.pending line _ hagreed
  obtain ⟨hoth, hq, _⟩ := h.matching.answered line terms hansd
  have hcnt := h.left.counted
  have hsett := h.left.settled hp
  refine ⟨⟨h.left.distinct, ?_, nofun, ?_, fun hwait => absurd ⟨terms, rfl⟩ hwait, ?_⟩,
    h.right, ?_, h.arriving, .of_free rfl ?_ ?_, ?_⟩
  · show p.epoch + 1 = start + (p.sequence + 1)
    omega
  · rintro _ ⟨⟩
    exact ⟨congrArg (· + 1) hbase, hseq, htgt⟩
  · intro _
    show p.active.val = (p.sequence + 1 + 1) % 2
    omega
  · refine Party.Posted.snoc (.of_lt_epoch fun letter hmem => ?_) (.inl ?_)
    · exact lt_succ_of_le (h.posted.below letter hmem)
    · exact lt_succ_of_le (le_of_eq hbase)
  · intro _
    exact ⟨congrArg (· + 1) hsame.symm, line, terms, rfl, hansd⟩
  · intro terms' _ heq
    exact absurd (hsame.symm.trans heq) (Nat.ne_of_lt (Nat.lt_succ_self _))
  · refine ⟨by simp [hansd], ?_, by simp [hansd], fun hlt => ?_, ?_,
      by simp [hansd]⟩
    · rw [hansd]
      rintro _ _ ⟨⟩
      exact ⟨hoth, hq, .inr ⟨rfl, congrArg (· + 1) hsame.symm⟩⟩
    · have hlt' : p.sequence + 1 < q.sequence := hlt
      omega
    · intro terms' hawaiting
      exact absurd ⟨terms', hawaiting⟩ hq

theorem Joint.follow (hlet : ⟨line, .commit, terms⟩ ∈ received)
    (hansd : p.handshake = some (line, .answered terms)) :
    Joint start
      { p with
        sequence := p.sequence + 1
        epoch := p.epoch + 1
        active := 1 - p.active
        handshake := none
        promotion := .awaitingConfirmed terms } q
      (sent ++ [⟨1 - p.active, .activated, terms⟩]) received := by
  obtain ⟨hawaiting, hahead, hact⟩ := h.awaiting_of_commit hlet hansd
  obtain ⟨htgt, hp, _⟩ := h.matched.answered line terms hansd
  obtain ⟨hbase, _⟩ := h.left.pending line _ hansd
  have hq : q.Awaits := ⟨terms, hawaiting⟩
  have hcnt := h.left.counted
  have hsett := h.left.settled hp
  refine ⟨⟨h.left.distinct, ?_, nofun, nofun, ?_, nofun⟩, h.right, ?_, h.arriving,
    .of_free rfl ?_ nofun, ?_⟩
  · show p.epoch + 1 = start + (p.sequence + 1)
    omega
  · intro _
    show (1 - p.active).val = (p.sequence + 1) % 2
    omega
  · refine Party.Posted.snoc (.of_lt_epoch fun letter hmem => ?_) (.inl ?_)
    · exact lt_succ_of_le (h.posted.below letter hmem)
    · exact lt_succ_of_le (le_of_eq hbase)
  · intro hlt
    have hlt' : q.sequence < p.sequence + 1 := hlt
    omega
  · -- the other party waits, so its only handshake can be an offer of its own
    refine ⟨?_, ?_, ?_, ?_, ?_, ?_⟩
    · intro line' terms' heq
      exact absurd hq (h.matching.asked line' terms' heq).2.1
    · intro line' terms' heq
      exact absurd hq (h.matching.answered line' terms' heq).2.1
    · intro line' terms' heq
      exact absurd hq (h.matching.agreed line' terms' heq).1
    · intro hlt
      have hlt' : p.sequence + 1 < q.sequence := hlt
      omega
    · rw [hawaiting]
      rintro _ ⟨⟩ _
      exact ⟨by rw [hact], nofun, htgt⟩
    · intro line' terms' heq _
      exact h.matching.crossed line' terms' heq (.inl hq)

include hawaiting hlet in
theorem Joint.move (line' : Fin 2) :
    Joint start { p with active := 1 - p.active, promotion := .idle } q
      (sent ++ [⟨line', .confirmed, terms⟩]) received := by
  obtain ⟨hsame, hq⟩ := h.moved_of_activated hlet hawaiting
  have hp : p.Awaits := ⟨terms, hawaiting⟩
  obtain ⟨hbase, _⟩ := h.left.awaiting terms hawaiting
  have hunsettled := h.left.unsettled hp
  refine ⟨{ h.left with awaiting := nofun, settled := ?_, unsettled := nofun }, h.right, ?_,
    h.arriving, ?_, ?_⟩
  · intro _
    show (1 - p.active).val = p.sequence % 2
    omega
  · have hold : { p with active := 1 - p.active, promotion := .idle }.Posted sent :=
      { h.posted with }
    refine hold.snoc (.inl ?_)
    show terms.base < p.epoch
    omega
  · refine ⟨?_, ?_, ?_, fun hlt => absurd hsame (Nat.ne_of_lt hlt), nofun, ?_⟩
    · intro line' terms' heq
      exact absurd hp (h.matched.asked line' terms' heq).2.1
    · intro line' terms' heq
      exact absurd hp (h.matched.answered line' terms' heq).2.1
    · intro line' terms' heq
      exact absurd hp (h.matched.agreed line' terms' heq).1
    · rintro line' terms' _ (⟨_, ⟨⟩⟩ | ⟨hwait, _⟩)
      exact absurd hwait hq
  · refine ⟨?_, ?_, ?_, fun hlt => absurd hsame (ne_of_gt hlt), ?_, ?_⟩
    · intro line' terms' heq
      exact absurd hp (h.matching.asked line' terms' heq).2.2.1
    · intro line' terms' heq
      obtain ⟨_, _, ⟨hwait, _⟩ | ⟨_, hahead⟩⟩ := h.matching.answered line' terms' heq
      · exact absurd hp hwait
      · omega
    · intro line' terms' heq
      have hansd := (h.matching.agreed line' terms' heq).2.2
      exact absurd hp (h.matched.answered line' terms' hansd).2.1
    · intro terms' heq
      exact absurd ⟨terms', heq⟩ hq
    · rintro line' terms' _ (hwait | ⟨⟨_, ⟨⟩⟩, _⟩)
      exact absurd hwait hq

theorem Joint.finish (hawaiting : p.promotion = .awaitingConfirmed terms) :
    Joint start { p with promotion := .idle } q sent received := by
  have hp : ¬ p.Awaits := by simp [Party.Awaits, hawaiting]
  have hidle : ¬ { p with promotion := .idle }.Awaits := nofun
  refine ⟨
    { h.left with awaiting := nofun, settled := fun _ => h.left.settled hp, unsettled := nofun },
    h.right, { h.posted with }, h.arriving, ?_, ?_⟩
  · refine ⟨?_, ?_, ?_, ?_, nofun, ?_⟩
    · intro line terms' heq
      obtain ⟨htgt, _, hrest⟩ := h.matched.asked line terms' heq
      exact ⟨htgt, hidle, hrest⟩
    · intro line terms' heq
      obtain ⟨htgt, _, hrest⟩ := h.matched.answered line terms' heq
      exact ⟨htgt, hidle, hrest⟩
    · intro line terms' heq
      exact ⟨hidle, (h.matched.agreed line terms' heq).2⟩
    · intro hlt
      obtain ⟨_, _, terms', heq, _⟩ := h.matched.ahead hlt
      exact absurd ⟨terms', heq⟩ hp
    · rintro line terms' heq (⟨_, ⟨⟩⟩ | hwait)
      exact h.matched.crossed line terms' heq (.inr hwait)
  · refine ⟨?_, ?_, h.matching.agreed, h.matching.ahead, ?_, ?_⟩
    · intro line terms' heq
      obtain ⟨htgt, hq, _, hrest⟩ := h.matching.asked line terms' heq
      exact ⟨htgt, hq, hidle, hrest⟩
    · intro line terms' heq
      obtain ⟨htgt, hq, ⟨_, hrest⟩ | ⟨heq', _⟩⟩ := h.matching.answered line terms' heq
      · exact ⟨htgt, hq, .inl ⟨hidle, hrest⟩⟩
      · exact absurd ⟨terms', heq'⟩ hp
    · intro terms' heq hsame
      obtain ⟨hact, _, htgt⟩ := h.matching.moved terms' heq hsame
      exact ⟨hact, hidle, htgt⟩
    · rintro line terms' heq (hwait | ⟨⟨_, ⟨⟩⟩, _⟩)
      exact h.matching.crossed line terms' heq (.inl hwait)

/-- A step of a party keeps the invariant, whichever letter of the other party it
takes. -/
theorem Joint.act {p' : Party D} {took gave : Option (Letter D)} (hact : Act p took gave p')
    (htook : ∀ letter, took = some letter → letter ∈ received) :
    Joint start p' q (sent ++ gave.toList) received := by
  cases hact with
  | stay => simpa using h
  | offer line terms hfree hbase hseq htgt => exact h.offer hfree hbase hseq htgt
  | hear line terms hfree hbase hseq htgt =>
    simpa using h.hear (htook _ rfl) hfree hbase hseq htgt
  | answer line terms hasked => exact h.answer hasked
  | agree line terms hoffd => simpa using h.agree (htook _ rfl) hoffd
  | commit line terms hagreed htgt =>
    have hseq : terms.sequence = p.sequence + 1 := (h.left.pending line _ hagreed).2
    rw [hseq]
    exact h.commit hagreed htgt
  | follow line terms hansd =>
    have hseq : terms.sequence = p.sequence + 1 := (h.left.pending line _ hansd).2
    rw [hseq]
    exact h.follow (htook _ rfl) hansd
  | move terms hawaiting => exact h.move (htook _ rfl) hawaiting _
  | finish terms hawaiting => simpa using h.finish hawaiting

/-- Letters can be lost. -/
theorem Joint.mono {sent' received' : List (Letter D)} (hsent : sent' ⊆ sent)
    (hrecv : received' ⊆ received) :
    Joint start p q sent' received' :=
  { h with posted := h.posted.subset hsent, arriving := h.arriving.subset hrecv }

/-! ## Agreement -/

variable (hp : ¬ p.Awaits)

include hp

variable (hq : ¬ q.Awaits)

include hq

theorem Joint.sequence_eq : p.sequence = q.sequence := by
  rcases lt_trichotomy p.sequence q.sequence with hlt | heq | hgt
  · obtain ⟨_, _, terms, hawaiting, _⟩ := h.matching.ahead hlt
    exact absurd ⟨terms, hawaiting⟩ hq
  · exact heq
  · obtain ⟨_, _, terms, hawaiting, _⟩ := h.matched.ahead hgt
    exact absurd ⟨terms, hawaiting⟩ hp

theorem Joint.active_eq : p.active = q.active := by
  apply Fin.ext
  rw [h.left.settled hp, h.right.settled hq, h.sequence_eq hp hq]

theorem Joint.epoch_eq : p.epoch = q.epoch := by
  rw [h.left.counted, h.right.counted, h.sequence_eq hp hq]

end

end

/-! ## The start -/

/-- A party that has not switched yet. -/
def Party.fresh (start : Nat) (targets : Fin 2 → D) : Party D :=
  { sequence := 0
    epoch := start
    active := 0
    targets := targets
    handshake := none
    promotion := .idle }

variable (start : Nat)

theorem sound_fresh {targets : Fin 2 → D} (h : targets 0 ≠ targets 1) :
    (Party.fresh start targets).Sound start :=
  ⟨h, rfl, nofun, nofun, fun _ => rfl, nofun⟩

theorem matched_fresh (targets others : Fin 2 → D) :
    Matched (Party.fresh start targets) (Party.fresh start others) :=
  .of_free rfl (fun hlt => absurd hlt (lt_irrefl _)) nofun

theorem joint_fresh {targets others : Fin 2 → D} (h : targets 0 ≠ targets 1)
    (hothers : others 0 ≠ others 1) :
    Joint start (Party.fresh start targets) (Party.fresh start others) [] [] where
  left := sound_fresh start h
  right := sound_fresh start hothers
  posted := .of_lt_epoch nofun
  arriving := .of_lt_epoch nofun
  matched := matched_fresh start targets others
  matching := matched_fresh start others targets

end LatencyDesk.Lib.Switchover
