import Mathlib.Data.List.Induction
import Mathlib.Order.Basic

/-!
# Deterministic machines and the traces they leave

A `Machine` answers one call at a time.  A call moves the state and leaves one
event, which records the arguments of the call and what it returned.  `run` is
the state after a list of calls, and `trace` is the list of steps of that run,
oldest first.  A step keeps the state before the call and the state after it,
so a statement about a trace can speak about any state on the way.

There are four groups.

* The algebra of `run` and `trace` over appended call lists.
* The induction rules.  `run_induction` is for a property of the state,
  `trace_induction` for a property that links the state to the whole trace
  (`trace_induction_of` when only some calls are made, and `along_induction`
  when it depends on the state which ones), and `run_mono` for a quantity that
  never decreases.
* A rule for labels that increase along a trace, such as epochs and sequence
  numbers: `pairwise_filterMap_trace`.  `filterMap_snoc` adds the label of one step.
* Rules for a step that happens at most once.  `countP_trace_le_one` asks for
  a property of the state that the step establishes, that every call keeps,
  and that rules the step out.
-/

namespace LatencyDesk.Lib

open List

/-- A deterministic machine with states `σ`, calls `ι` and events `ε`. -/
structure Machine (σ ι ε : Type) where
  step : σ → ι → ε × σ

/-- One step of a run: the state before, the event it left, the state after. -/
structure Step (σ ε : Type) where
  pre : σ
  event : ε
  post : σ

/-- Turn the result of a method into the event that records it. -/
def record {α σ ε : Type} (event : α → ε) (answer : α × σ) : ε × σ :=
  (event answer.1, answer.2)

variable {α : Type}

@[simp] theorem record_mk {σ ε : Type} (event : α → ε) (res : α) (after : σ) :
    record event (res, after) = (event res, after) := rfl

theorem filterMap_snoc {β : Type} (f : α → Option β) (l : List α) (a : α) :
    (l ++ [a]).filterMap f = l.filterMap f ++ (f a).toList := by
  cases ha : f a <;> simp [ha]

namespace Machine

variable {σ ι ε : Type} (m : Machine σ ι ε)

/-- The step that the call `c` takes from the state `s`. -/
def stepAt (s : σ) (c : ι) : Step σ ε := ⟨s, (m.step s c).1, (m.step s c).2⟩

variable (s : σ) (c : ι)

@[simp] theorem stepAt_pre : (m.stepAt s c).pre = s := rfl

@[simp] theorem stepAt_event : (m.stepAt s c).event = (m.step s c).1 := rfl

@[simp] theorem stepAt_post : (m.stepAt s c).post = (m.step s c).2 := rfl

/-- The state after the calls. -/
def run (s : σ) : List ι → σ
  | [] => s
  | c :: calls => run (m.step s c).2 calls

/-- The steps of the calls, oldest first. -/
def trace (s : σ) : List ι → List (Step σ ε)
  | [] => []
  | c :: calls => m.stepAt s c :: trace (m.step s c).2 calls

@[simp] theorem run_nil : m.run s [] = s := rfl

variable (calls : List ι)

@[simp] theorem run_cons :
    m.run s (c :: calls) = m.run (m.step s c).2 calls := rfl

@[simp] theorem trace_nil : m.trace s [] = [] := rfl

@[simp] theorem trace_cons :
    m.trace s (c :: calls) = m.stepAt s c :: m.trace (m.step s c).2 calls := rfl

variable (xs ys : List ι)

/-- A run over two call lists is the second run from where the first ended. -/
theorem run_append :
    m.run s (xs ++ ys) = m.run (m.run s xs) ys := by
  induction xs generalizing s with
  | nil => rfl
  | cons c xs ih => exact ih (m.step s c).2

theorem trace_append :
    m.trace s (xs ++ ys) = m.trace s xs ++ m.trace (m.run s xs) ys := by
  induction xs generalizing s with
  | nil => rfl
  | cons c xs ih =>
    rw [cons_append, trace_cons, trace_cons, run_cons, ih, cons_append]

variable (xs : List ι)

theorem run_snoc (c : ι) :
    m.run s (xs ++ [c]) = (m.step (m.run s xs) c).2 := by
  rw [run_append, run_cons, run_nil]

theorem trace_snoc (c : ι) :
    m.trace s (xs ++ [c]) = m.trace s xs ++ [m.stepAt (m.run s xs) c] := by
  rw [trace_append, trace_cons, trace_nil]

variable {calls : List ι} {s : σ} {st : Step σ ε}

/-- A place in a trace is a place in the call list.  What stands before it is
the trace of the calls before it, and likewise after it. -/
theorem trace_eq_append_cons {earlier later : List (Step σ ε)}
    (h : m.trace s calls = earlier ++ st :: later) :
    ∃ before c after, calls = before ++ c :: after ∧ earlier = m.trace s before ∧
      st = m.stepAt (m.run s before) c ∧ later = m.trace st.post after := by
  induction calls generalizing s earlier with
  | nil => simp at h
  | cons c calls ih =>
    rw [trace_cons] at h
    cases earlier with
    | nil =>
      obtain ⟨rfl, rfl⟩ := h
      exact ⟨[], c, calls, rfl, rfl, rfl, rfl⟩
    | cons st' earlier =>
      rw [cons_append, List.cons.injEq] at h
      obtain ⟨before, d, after, rfl, rfl, rfl, rfl⟩ := ih h.2
      exact ⟨c :: before, d, after, rfl, by rw [trace_cons, h.1], rfl, rfl⟩

/-- Every step of a trace is the step of some call, taken from the state that
the calls before it reached. -/
theorem mem_trace (h : st ∈ m.trace s calls) :
    ∃ before c after, calls = before ++ c :: after ∧ st = m.stepAt (m.run s before) c := by
  obtain ⟨_, _, heq⟩ := append_of_mem h
  obtain ⟨before, c, after, hcalls, _, hst, _⟩ := m.trace_eq_append_cons heq
  exact ⟨before, c, after, hcalls, hst⟩

/-! ## Induction rules -/

/-- A property of the state that holds at the start and that every call keeps
holds after every run. -/
theorem run_induction {P : σ → Prop} (hinit : P s) (hstep : ∀ s c, P s → P (m.step s c).2)
    (calls : List ι) :
    P (m.run s calls) := by
  induction calls generalizing s with
  | nil => exact hinit
  | cons c calls ih => exact ih (hstep s c hinit)

variable {P : List (Step σ ε) → σ → Prop}

/-- A property that links the trace to the state, for runs whose calls are all
of one kind.  The step case sees the trace so far and appends one step to it. -/
theorem trace_induction_of {C : ι → Prop} (hinit : P [] s)
    (hstep : ∀ h s c, C c → P h s → P (h ++ [m.stepAt s c]) (m.step s c).2)
    (hcalls : ∀ c ∈ calls, C c) :
    P (m.trace s calls) (m.run s calls) := by
  induction calls using reverseRecOn with
  | nil => exact hinit
  | append_singleton calls c ih =>
    rw [forall_mem_append, forall_mem_singleton] at hcalls
    rw [trace_snoc, run_snoc]
    exact hstep _ _ c hcalls.2 (ih hcalls.1)

/-- A property that links the trace to the state, for every run. -/
theorem trace_induction (hinit : P [] s)
    (hstep : ∀ h s c, P h s → P (h ++ [m.stepAt s c]) (m.step s c).2) (calls : List ι) :
    P (m.trace s calls) (m.run s calls) :=
  m.trace_induction_of (C := fun _ => True) hinit (fun h s c _ => hstep h s c) fun _ _ => trivial

/-- Every call meets the condition in the state in which it is made. -/
def Along (C : σ → ι → Prop) : σ → List ι → Prop
  | _, [] => True
  | s, c :: calls => C s c ∧ Along C (m.step s c).2 calls

instance Along.decidable {C : σ → ι → Prop} [∀ s c, Decidable (C s c)] (s : σ) :
    (calls : List ι) → Decidable (m.Along C s calls)
  | [] => .isTrue trivial
  | c :: calls =>
    @instDecidableAnd _ _ _ (Along.decidable (m.step s c).2 calls)

variable {C : σ → ι → Prop}

/-- A property of the state that the calls keep which meet a condition, with what those calls
leave behind. -/
theorem along_induction {P : σ → Prop} {Q : ε → Prop}
    (hstep : ∀ s c, C s c → P s → P (m.step s c).2 ∧ Q (m.step s c).1) (hs : P s)
    (hcalls : m.Along C s calls) :
    P (m.run s calls) ∧ ∀ st ∈ m.trace s calls, Q st.event := by
  induction calls generalizing s with
  | nil => exact ⟨hs, nofun⟩
  | cons c calls ih =>
    obtain ⟨hkept, hev⟩ := hstep s c hcalls.1 hs
    obtain ⟨hrun, htrace⟩ := ih hkept hcalls.2
    refine ⟨hrun, fun st hst => ?_⟩
    rcases mem_cons.1 hst with rfl | hlater
    · exact hev
    · exact htrace st hlater

/-- What every step of a run is like whose calls meet a condition. -/
theorem forall_trace_of_along {P : σ → Prop} {R : Step σ ε → Prop}
    (hkeep : ∀ s c, C s c → P s → P (m.step s c).2) (hout : ∀ s c, C s c → P s → R (m.stepAt s c))
    (hs : P s) (hcalls : m.Along C s calls) : ∀ st ∈ m.trace s calls, R st := by
  induction calls generalizing s with
  | nil => exact nofun
  | cons c calls ih =>
    rw [trace_cons, forall_mem_cons]
    exact ⟨hout s c hcalls.1 hs, ih (hkeep s c hcalls.1 hs) hcalls.2⟩

/-- A quantity that no call decreases is monotone along every run. -/
theorem run_mono [Preorder α] {f : σ → α} (hstep : ∀ s c, f s ≤ f (m.step s c).2) (s : σ)
    (calls : List ι) :
    f s ≤ f (m.run s calls) := by
  induction calls generalizing s with
  | nil => exact le_refl _
  | cons c calls ih => exact le_trans (hstep s c) (ih _)

variable {Q : σ → Prop}

/-- A property of the state that rules a step out, and that every call keeps,
rules the step out of every later trace. -/
theorem forall_trace_of_invariant {P : Step σ ε → Prop} (hkeep : ∀ s c, Q s → Q (m.step s c).2)
    (hout : ∀ s c, Q s → P (m.stepAt s c)) (hs : Q s) (calls : List ι) :
    ∀ st ∈ m.trace s calls, P st := by
  intro st hst
  obtain ⟨before, c, _, _, rfl⟩ := m.mem_trace hst
  exact hout _ c (m.run_induction hs hkeep before)

/-! ## Labels that come in order -/

/-- The labels of a trace come in order when each of them is left behind.  Every
call keeps a label behind, and a labelled step comes after every label behind
its state. -/
theorem pairwise_filterMap_trace {R : α → α → Prop} {Q : α → σ → Prop} {f : Step σ ε → Option α}
    (hkeep : ∀ a s c, Q a s → Q a (m.step s c).2)
    (hset : ∀ a s c, f (m.stepAt s c) = some a → Q a (m.step s c).2)
    (hafter : ∀ a b s c, Q a s → f (m.stepAt s c) = some b → R a b) (s : σ) (calls : List ι) :
    ((m.trace s calls).filterMap f).Pairwise R := by
  have hboth : ((m.trace s calls).filterMap f).Pairwise R ∧
      ∀ a ∈ (m.trace s calls).filterMap f, Q a (m.run s calls) := by
    refine m.trace_induction
      (P := fun h s => (h.filterMap f).Pairwise R ∧ ∀ a ∈ h.filterMap f, Q a s) ?_ ?_ calls
    · exact ⟨List.Pairwise.nil, by simp⟩
    intro h s c ⟨hpairwise, hbehind⟩
    rw [filterMap_snoc]
    cases hlabel : f (m.stepAt s c) with
    | none =>
      rw [Option.toList_none, append_nil]
      exact ⟨hpairwise, fun a ha => hkeep a s c (hbehind a ha)⟩
    | some b =>
      rw [Option.toList_some, pairwise_append]
      refine ⟨⟨hpairwise, pairwise_singleton R b, ?_⟩, ?_⟩
      · intro a ha b' hb'
        rw [mem_singleton] at hb'
        subst hb'
        exact hafter a b' s c (hbehind a ha) hlabel
      · intro a ha
        rw [mem_append, mem_singleton] at ha
        rcases ha with ha | ha
        · exact hkeep a s c (hbehind a ha)
        · subst ha
          exact hset a s c hlabel
  exact hboth.1

/-! ## A step that happens at most once -/

/-- A step that establishes `Q` happens at most once when `Q` is kept by every
call and rules the step out.  The step may use an invariant `I` of the run. -/
theorem countP_trace_le_one {I : σ → Prop} {p : Step σ ε → Bool}
    (hinv : ∀ s c, I s → I (m.step s c).2)
    (hset : ∀ s c, I s → p (m.stepAt s c) = true → Q (m.step s c).2)
    (hkeep : ∀ s c, Q s → Q (m.step s c).2) (hout : ∀ s c, Q s → p (m.stepAt s c) = false)
    (hs : I s) (calls : List ι) : (m.trace s calls).countP p ≤ 1 := by
  induction calls generalizing s with
  | nil => simp
  | cons c calls ih =>
    rw [trace_cons, countP_cons]
    split
    · next hp =>
      have hzero : (m.trace (m.step s c).2 calls).countP p = 0 := by
        rw [countP_eq_zero]
        intro st hst
        have := m.forall_trace_of_invariant (P := fun st => p st = false) hkeep hout
          (hset s c hs hp) calls st hst
        simp [this]
      simp [hzero]
    · next hp => simpa [hp] using ih (hinv s c hs)

end Machine

end LatencyDesk.Lib
