import Mathlib.Data.List.Induction

/-!
# Past-time operators over a history

A history is a list with its oldest entry first.  `Since keep mark h` says
that some entry of `h` is marked and that every entry after it is kept.  The
mark also sees the entries before the marked one, so marks nest: a
confirmation that has itself a begin before it is
`Since keep (fun earlier x => confirms x ∧ Since keep' begins earlier)`.

A history grows at its end, so the rule that the proofs use is `since_snoc`:
one more entry is either the mark itself, or it is kept and the mark is in
the history before it.

`Throughout link h` says that every entry of `h` stands in `link` to the
entries before it.  `throughout_snoc` is its rule for one more entry, and
`since_of_throughout` reads a mark off the links.
-/

namespace LatencyDesk.Lib

open List

variable {α : Type} {keep : α → Prop} {mark : List α → α → Prop}

/-- Some entry of the history is marked, and every entry after it is kept. -/
def Since (keep : α → Prop) (mark : List α → α → Prop) (h : List α) : Prop :=
  ∃ earlier x later, h = earlier ++ x :: later ∧ mark earlier x ∧ ∀ y ∈ later, keep y

theorem not_since_nil : ¬ Since keep mark [] := by
  rintro ⟨_, _, _, h, _⟩
  simp at h

variable {h : List α} {x : α}

/-- The entry that was just appended is the mark. -/
theorem Since.of_mark (hx : mark h x) :
    Since keep mark (h ++ [x]) :=
  ⟨h, x, [], rfl, hx, by simp⟩

/-- The entry that was just appended is kept. -/
theorem Since.snoc (hs : Since keep mark h) (hx : keep x) :
    Since keep mark (h ++ [x]) := by
  obtain ⟨earlier, y, later, rfl, hy, hlater⟩ := hs
  refine ⟨earlier, y, later ++ [x], by simp, hy, ?_⟩
  intro z hz
  rw [mem_append, mem_singleton] at hz
  rcases hz with hz | rfl
  · exact hlater z hz
  · exact hx

/-- A weaker mark is there since the same entry. -/
theorem Since.imp {mark' : List α → α → Prop} (hs : Since keep mark h)
    (hmark : ∀ earlier x, mark earlier x → mark' earlier x) : Since keep mark' h := by
  obtain ⟨earlier, x, later, heq, hx, hlater⟩ := hs
  exact ⟨earlier, x, later, heq, hmark earlier x hx, hlater⟩

/-- One more entry is the mark, or it is kept and the mark is older. -/
theorem since_snoc :
    Since keep mark (h ++ [x]) ↔ mark h x ∨ (keep x ∧ Since keep mark h) := by
  constructor
  · rintro ⟨earlier, y, later, heq, hy, hlater⟩
    rcases eq_nil_or_concat later with rfl | ⟨init, z, rfl⟩
    · obtain ⟨rfl, hxy⟩ := append_inj' heq rfl
      rw [cons.injEq] at hxy
      exact .inl (hxy.1 ▸ hy)
    · have heq' : h ++ [x] = (earlier ++ y :: init) ++ [z] := by simpa using heq
      obtain ⟨rfl, hxz⟩ := append_inj' heq' rfl
      rw [cons.injEq] at hxz
      refine .inr ⟨hxz.1 ▸ hlater z (by simp), earlier, y, init, rfl, hy, ?_⟩
      intro w hw
      exact hlater w (by simp [hw])
  · rintro (hx | ⟨hx, hs⟩)
    · exact Since.of_mark hx
    · exact hs.snoc hx

/-- Every entry of the history stands in the relation to what is before it. -/
def Throughout (link : List α → α → Prop) (h : List α) : Prop :=
  ∀ earlier x later, h = earlier ++ x :: later → link earlier x

section Throughout

variable {link : List α → α → Prop}

theorem throughout_nil : Throughout link [] := by
  intro earlier x later h
  simp at h

/-- The entries of a beginning of the history have the same entries before them. -/
theorem Throughout.of_append {rest : List α} (ht : Throughout link (h ++ rest)) :
    Throughout link h := by
  intro earlier x later heq
  exact ht earlier x (later ++ rest) (by rw [heq, append_assoc, cons_append])

theorem throughout_snoc :
    Throughout link (h ++ [x]) ↔ Throughout link h ∧ link h x := by
  constructor
  · intro ht
    exact ⟨ht.of_append, ht h x [] rfl⟩
  rintro ⟨ht, hx⟩ earlier y later heq
  rcases eq_nil_or_concat later with rfl | ⟨init, z, rfl⟩
  · obtain ⟨rfl, hxy⟩ := append_inj' heq rfl
    rw [cons.injEq] at hxy
    exact hxy.1 ▸ hx
  · have heq' : h ++ [x] = (earlier ++ y :: init) ++ [z] := by simpa using heq
    obtain ⟨rfl, _⟩ := append_inj' heq' rfl
    exact ht earlier y init rfl

/-- When every entry is the mark or is kept and has an entry before it, the
history has a mark. -/
theorem since_of_throughout {mark : α → Prop} (ht : Throughout link h)
    (hlink : ∀ earlier x, link earlier x → mark x ∨ keep x ∧ earlier ≠ []) (hne : h ≠ []) :
    Since keep (fun _ => mark) h := by
  induction h using reverseRecOn with
  | nil => exact absurd rfl hne
  | append_singleton h x ih =>
    obtain ⟨hthru, hx⟩ := throughout_snoc.1 ht
    rcases hlink h x hx with hmark | ⟨hkeep, hbef⟩
    · exact Since.of_mark hmark
    · exact (ih hthru hbef).snoc hkeep

end Throughout

end LatencyDesk.Lib
