import Mathlib.Algebra.Order.BigOperators.Group.List
import Mathlib.Algebra.Order.Ring.Nat
import Mathlib.Data.List.Pairwise

/-!
# Ordered maps

A map as the list of its entries in increasing key order, as a `BTreeMap`
iterates them.  The order is a field, so a key has one value at most.

`get?` is read through membership: `get?_eq_some` says that a lookup finds
exactly the entries, and `mem_insert`, `mem_erase` and `mem_retain` say what the
entries of a changed map are.  `total f` adds `f` up over the entries.  Its
lemmas say how a change of the map changes the sum, which is what the counters
of a bounded store are compared with.
-/

namespace LatencyDesk.Lib

open List

/-- A map with its entries in increasing key order. -/
@[ext] structure OrderedMap (κ ν : Type) [LinearOrder κ] where
  entries : List (κ × ν)
  sorted : entries.Pairwise fun a b => a.1 < b.1

namespace OrderedMap

variable {κ ν : Type} [LinearOrder κ]

instance [DecidableEq ν] : DecidableEq (OrderedMap κ ν) := fun x y =>
  decidable_of_iff (x.entries = y.entries) OrderedMap.ext_iff.symm

def empty : OrderedMap κ ν := ⟨[], List.Pairwise.nil⟩

def get? (m : OrderedMap κ ν) (key : κ) : Option ν :=
  (m.entries.find? fun entry => decide (entry.1 = key)).map Prod.snd

def length (m : OrderedMap κ ν) : Nat := m.entries.length

/-- Keep the entries that satisfy the predicate. -/
def retain (m : OrderedMap κ ν) (keep : κ → ν → Bool) : OrderedMap κ ν :=
  ⟨m.entries.filter fun entry => keep entry.1 entry.2, m.sorted.filter _⟩

def erase (m : OrderedMap κ ν) (key : κ) : OrderedMap κ ν :=
  m.retain fun other _ => decide (other ≠ key)

/-- The entries below a key. -/
def below (m : OrderedMap κ ν) (key : κ) : List (κ × ν) :=
  m.entries.filter fun entry => decide (entry.1 < key)

/-- The entries above a key. -/
def above (m : OrderedMap κ ν) (key : κ) : List (κ × ν) :=
  m.entries.filter fun entry => decide (key < entry.1)

/-- The entries from a key on. -/
def atLeast (m : OrderedMap κ ν) (key : κ) : List (κ × ν) :=
  m.entries.filter fun entry => decide (key ≤ entry.1)

/-- Insert an entry in place of the one with its key. -/
def insert (m : OrderedMap κ ν) (key : κ) (value : ν) : OrderedMap κ ν where
  entries := m.below key ++ (key, value) :: m.above key
  sorted := by
    have hbelow : ∀ entry ∈ m.below key, entry.1 < key := fun entry hentry =>
      of_decide_eq_true (mem_filter.1 hentry).2
    have habove : ∀ entry ∈ m.above key, key < entry.1 := fun entry hentry =>
      of_decide_eq_true (mem_filter.1 hentry).2
    refine pairwise_append.2 ⟨m.sorted.filter _, ?_, ?_⟩
    · exact pairwise_cons.2 ⟨habove, m.sorted.filter _⟩
    · intro a ha b hb
      rcases mem_cons.1 hb with rfl | hb
      · exact hbelow a ha
      · exact lt_trans (hbelow a ha) (habove b hb)

/-! ## Entries -/

section

variable {m : OrderedMap κ ν} {key key' : κ} {value value' : ν}

/-- Lists in key order with the same entries are equal. -/
theorem eq_of_mem_iff {l l' : List (κ × ν)} (hl : l.Pairwise fun a b => a.1 < b.1)
    (hl' : l'.Pairwise fun a b => a.1 < b.1) (h : ∀ entry, entry ∈ l ↔ entry ∈ l') : l = l' := by
  have hnodup {l : List (κ × ν)} (hl : l.Pairwise fun a b => a.1 < b.1) : l.Nodup :=
    hl.imp fun hlt heq => ne_of_lt hlt (congrArg Prod.fst heq)
  refine List.Perm.eq_of_pairwise ?_ hl hl' ?_
  · intro a b _ _ hab hba
    exact absurd hab (not_lt.2 (le_of_lt hba))
  · exact (perm_ext_iff_of_nodup (hnodup hl) (hnodup hl')).2 h

/-- A key has one value. -/
theorem value_unique (h : (key, value) ∈ m.entries) (h' : (key, value') ∈ m.entries) :
    value = value' := by
  have hne : m.entries.Pairwise fun a b => a.1 ≠ b.1 := m.sorted.imp fun hlt => ne_of_lt hlt
  have : Std.Symm fun a b : κ × ν => a.1 ≠ b.1 := ⟨fun _ _ h => h.symm⟩
  by_contra hvalue
  have hpair : (key, value) ≠ (key, value') := fun heq => hvalue (Prod.mk.inj heq).2
  exact hne.forall h h' hpair rfl

theorem get?_eq_some : m.get? key = some value ↔ (key, value) ∈ m.entries := by
  unfold get?
  rw [Option.map_eq_some_iff]
  constructor
  · intro ⟨entry, hfind, hvalue⟩
    have hkey : entry.1 = key := by simpa using find?_some hfind
    have hmem := mem_of_find?_eq_some hfind
    rwa [show entry = (key, value) from Prod.ext hkey hvalue] at hmem
  · intro hmem
    cases hfind : m.entries.find? fun entry => decide (entry.1 = key) with
    | none =>
      have := find?_eq_none.1 hfind _ hmem
      simp at this
    | some entry =>
      have hkey : entry.1 = key := by simpa using find?_some hfind
      have hent := mem_of_find?_eq_some hfind
      refine ⟨entry, rfl, value_unique ?_ hmem⟩
      rwa [← hkey]

theorem get?_eq_none : m.get? key = none ↔ ∀ value, (key, value) ∉ m.entries := by
  rw [Option.eq_none_iff_forall_ne_some]
  exact forall_congr' fun value => not_congr get?_eq_some

variable {entry : κ × ν}

@[simp] theorem mem_retain {keep : κ → ν → Bool} :
    entry ∈ (m.retain keep).entries ↔ entry ∈ m.entries ∧ keep entry.1 entry.2 = true :=
  mem_filter

@[simp] theorem mem_erase :
    entry ∈ (m.erase key).entries ↔ entry ∈ m.entries ∧ entry.1 ≠ key := by
  rw [erase, mem_retain, decide_eq_true_iff]

theorem mem_below : entry ∈ m.below key ↔ entry ∈ m.entries ∧ entry.1 < key := by
  rw [below, mem_filter, decide_eq_true_iff]

theorem mem_above : entry ∈ m.above key ↔ entry ∈ m.entries ∧ key < entry.1 := by
  rw [above, mem_filter, decide_eq_true_iff]

@[simp] theorem mem_insert :
    entry ∈ (m.insert key value).entries ↔
      entry = (key, value) ∨ entry ∈ m.entries ∧ entry.1 ≠ key := by
  show entry ∈ m.below key ++ (key, value) :: m.above key ↔ _
  rw [mem_append, mem_cons, mem_below, mem_above]
  constructor
  · rintro (⟨hmem, hlt⟩ | heq | ⟨hmem, hlt⟩)
    · exact .inr ⟨hmem, ne_of_lt hlt⟩
    · exact .inl heq
    · exact .inr ⟨hmem, ne_of_gt hlt⟩
  · rintro (heq | ⟨hmem, hne⟩)
    · exact .inr (.inl heq)
    · rcases lt_or_gt_of_ne hne with hlt | hgt
      · exact .inl ⟨hmem, hlt⟩
      · exact .inr (.inr ⟨hmem, hgt⟩)

theorem forall_mem_insert {P : κ × ν → Prop} (hnew : P (key, value))
    (hold : ∀ entry ∈ m.entries, P entry) : ∀ entry ∈ (m.insert key value).entries, P entry := by
  intro entry hent
  rcases mem_insert.1 hent with rfl | ⟨hent, _⟩
  · exact hnew
  · exact hold entry hent

@[simp] theorem get?_insert_self : (m.insert key value).get? key = some value :=
  get?_eq_some.2 (mem_insert.2 (.inl rfl))

theorem get?_insert_of_ne (hne : key' ≠ key) : (m.insert key value).get? key' = m.get? key' := by
  apply Option.ext
  intro other
  rw [get?_eq_some, get?_eq_some, mem_insert]
  constructor
  · rintro (heq | ⟨hmem, _⟩)
    · exact absurd (Prod.mk.inj heq).1 hne
    · exact hmem
  · intro hmem
    exact .inr ⟨hmem, hne⟩

theorem erase_of_get?_eq_none (h : m.get? key = none) : m.erase key = m := by
  refine OrderedMap.ext (filter_eq_self.2 ?_)
  intro entry hent
  refine decide_eq_true ?_
  rintro rfl
  exact get?_eq_none.1 h entry.2 hent

end

/-! ## Sums -/

/-- The sum of `f` over the entries. -/
def total (m : OrderedMap κ ν) (f : κ → ν → Nat) : Nat :=
  (m.entries.map fun entry => f entry.1 entry.2).sum

section

variable (m : OrderedMap κ ν) (f : κ → ν → Nat)

theorem length_eq_total : m.length = m.total fun _ _ => 1 := by
  unfold length total
  induction m.entries with
  | nil => rfl
  | cons entry rest ih =>
    rw [length_cons, ih]
    exact Nat.add_comm _ 1

variable {α : Type}

/-- A list splits into the entries that satisfy a predicate and the others. -/
theorem sum_filter_add_sum_filter_not (p : α → Bool) (g : α → Nat) (l : List α) :
    ((l.filter p).map g).sum + ((l.filter fun a => !p a).map g).sum = (l.map g).sum := by
  induction l with
  | nil => rfl
  | cons a l ih =>
    cases hp : p a <;> simp [hp] <;> omega

variable (keep : κ → ν → Bool) {value : ν} {key : κ}

/-- What is kept and what is removed add up to the whole. -/
theorem total_retain_add :
    (m.retain keep).total f + (m.retain fun key value => !keep key value).total f = m.total f :=
  sum_filter_add_sum_filter_not _ _ _

theorem total_retain_le : (m.retain keep).total f ≤ m.total f := by
  have := m.total_retain_add f keep
  omega

theorem total_le_total {g : κ → ν → Nat}
    (h : ∀ entry ∈ m.entries, f entry.1 entry.2 ≤ g entry.1 entry.2) : m.total f ≤ m.total g :=
  sum_le_sum h

theorem total_insert (key : κ) (value : ν) :
    (m.insert key value).total f = (m.erase key).total f + f key value := by
  -- The entries other than `key` are those below it and those above it.
  have hsplit := sum_filter_add_sum_filter_not (fun entry => decide (entry.1 < key))
    (fun entry : κ × ν => f entry.1 entry.2) (m.erase key).entries
  have hbelow : (m.erase key).entries.filter (fun entry => decide (entry.1 < key)) =
      m.below key := by
    rw [erase, retain, filter_filter]
    refine filter_congr fun entry _ => ?_
    by_cases hlt : entry.1 < key
    · simp [ne_of_lt hlt]
    · simp [hlt]
  have habove : (m.erase key).entries.filter (fun entry => !decide (entry.1 < key)) =
      m.above key := by
    rw [erase, retain, filter_filter]
    refine filter_congr fun entry _ => ?_
    by_cases hgt : key < entry.1
    · simp [hgt, ne_of_gt hgt, le_of_lt hgt]
    by_cases heq : entry.1 = key
    · simp [heq]
    · have hlt : entry.1 < key := lt_of_le_of_ne (not_lt.1 hgt) heq
      simp [hgt, hlt]
  rw [hbelow, habove] at hsplit
  show ((m.below key ++ (key, value) :: m.above key).map _).sum = _
  rw [map_append, sum_append]
  show ((m.below key).map _).sum + (f key value + ((m.above key).map _).sum) =
    ((m.erase key).entries.map _).sum + f key value
  omega

/-- Inserting the value that is there changes nothing. -/
theorem insert_of_get?_eq_some (h : m.get? key = some value) :
    m.insert key value = m := by
  refine OrderedMap.ext (eq_of_mem_iff (m.insert key value).sorted m.sorted ?_)
  intro entry
  rw [mem_insert]
  constructor
  · rintro (rfl | ⟨hmem, _⟩)
    · exact get?_eq_some.1 h
    · exact hmem
  · intro hmem
    by_cases hkey : entry.1 = key
    · left
      have hent : (key, entry.2) ∈ m.entries := hkey ▸ hmem
      exact Prod.ext hkey (value_unique hent (get?_eq_some.1 h))
    · exact .inr ⟨hmem, hkey⟩

/-- An erased entry leaves the sum. -/
theorem total_erase_add (h : m.get? key = some value) :
    (m.erase key).total f + f key value = m.total f := by
  rw [← total_insert, insert_of_get?_eq_some m h]

/-- A sum over the entries is at most the sum over elements that stand for their
keys. -/
theorem total_le_sum (keyOf : α → κ) (g : α → Nat) {xs : List α}
    (h : ∀ entry ∈ m.entries, ∃ x ∈ xs, keyOf x = entry.1 ∧ f entry.1 entry.2 ≤ g x) :
    m.total f ≤ (xs.map g).sum := by
  have hsorted := m.sorted
  unfold total
  generalize m.entries = entries at h hsorted
  induction entries generalizing xs with
  | nil => exact Nat.zero_le _
  | cons entry rest ih =>
    rw [forall_mem_cons] at h
    rw [pairwise_cons] at hsorted
    obtain ⟨⟨x, hx, hkey, hle⟩, hrest⟩ := h
    obtain ⟨before, after, rfl⟩ := append_of_mem hx
    -- The other entries have other keys, so other elements stand for them.
    have hstand : ∀ other ∈ rest, ∃ y ∈ before ++ after,
        keyOf y = other.1 ∧ f other.1 other.2 ≤ g y := by
      intro other hoth
      obtain ⟨y, hy, hkey', hle'⟩ := hrest other hoth
      refine ⟨y, ?_, hkey', hle'⟩
      have hne : y ≠ x := by
        rintro rfl
        exact ne_of_lt (hsorted.1 other hoth) (hkey.symm.trans hkey')
      rw [mem_append, mem_cons] at hy
      rw [mem_append]
      exact hy.imp_right fun hy => hy.resolve_left hne
    have hothers := ih hstand hsorted.2
    rw [map_cons, sum_cons, map_append, sum_append, map_cons, sum_cons]
    rw [map_append, sum_append] at hothers
    omega

end

end OrderedMap

end LatencyDesk.Lib
