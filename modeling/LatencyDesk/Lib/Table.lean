import Mathlib.Data.List.AList

/-!
# Tables

A `HashMap` as Mathlib's association list: one entry for each key, in no order
that a lookup can see.  Lookups, insertions and removals are Mathlib's.  This
module adds what a bounded store needs beside them:

* `retain`, and one equation for a lookup in each changed table (`lookup_retain`,
  `lookup_insert_eq`, `lookup_erase_eq`, and `lookup_replace_eq` for a write
  through `get_mut`);
* `keysWhere p`, and the loops that remove or set a list of keys (`eraseAll`,
  `insertAll`), as a sweep of expired entries does;
* `count p`, the number of entries that satisfy `p`, and how each change of the
  table changes it.
-/

namespace LatencyDesk.Lib

/-- A finite map from `κ` to `ν`. -/
abbrev Table (κ ν : Type) := AList fun _ : κ => ν

end LatencyDesk.Lib

namespace AList

open LatencyDesk.Lib List Option

variable {κ ν : Type} [DecidableEq κ] {t : Table κ ν} {key other : κ} {value : ν}
  {keep : κ → ν → Bool}

/-- Keep the entries that satisfy the predicate. -/
def retain (t : Table κ ν) (keep : κ → ν → Bool) : Table κ ν where
  entries := t.entries.filter fun entry => keep entry.1 entry.2
  nodupKeys := t.nodupKeys.sublist List.filter_sublist

/-- The number of entries that satisfy the predicate. -/
def count (t : Table κ ν) (p : κ → ν → Bool) : Nat :=
  t.entries.countP fun entry => p entry.1 entry.2

def length (t : Table κ ν) : Nat := t.entries.length

/-- The keys of the entries that satisfy the predicate. -/
def keysWhere (t : Table κ ν) (p : κ → ν → Bool) : List κ :=
  t.entries.filterMap fun entry => if p entry.1 entry.2 then some entry.1 else none

/-- Remove the keys, one after the other. -/
def eraseAll (t : Table κ ν) (keys : List κ) : Table κ ν := keys.foldl (fun t key => t.erase key) t

/-- Set the keys to one value, one after the other. -/
def insertAll (t : Table κ ν) (keys : List κ) (value : ν) : Table κ ν :=
  keys.foldl (fun t key => t.insert key value) t

/-! ## Lookups -/

theorem mem_entries : ⟨key, value⟩ ∈ t.entries ↔ t.lookup key = some value :=
  mem_lookup_iff.symm

theorem lookup_retain :
    (t.retain keep).lookup key = (t.lookup key).filter (keep key) := by
  refine Option.ext fun value => ?_
  rw [← mem_entries, retain, mem_filter, mem_entries, Option.filter_eq_some_iff]

theorem lookup_insert_eq :
    (t.insert key value).lookup other = if other = key then some value else t.lookup other := by
  split
  · next h => rw [h, lookup_insert]
  · next h => exact lookup_insert_ne h

/-- A new entry with a value of its own leaves the values apart. -/
theorem lookup_insert_injective {β : Type} {f : ν → β}
    (h : ∀ key other value value', t.lookup key = some value → t.lookup other = some value' →
      f value = f value' → key = other)
    (hnew : ∀ other value', t.lookup other = some value' → f value' = f value → other = key)
    (first second : κ) (value₁ value₂ : ν)
    (hfirst : (t.insert key value).lookup first = some value₁)
    (hsnd : (t.insert key value).lookup second = some value₂) (hsame : f value₁ = f value₂) :
    first = second := by
  rw [lookup_insert_eq] at hfirst hsnd
  split_ifs at hfirst hsnd with hkey₁ hkey₂ hkey₂
  · rw [hkey₁, hkey₂]
  · cases hfirst
    rw [hkey₁, hnew second value₂ hsnd hsame.symm]
  · cases hsnd
    rw [hkey₂, hnew first value₁ hfirst hsame]
  · exact h first second value₁ value₂ hfirst hsnd hsame

theorem lookup_erase_eq (key other : κ) :
    (t.erase key).lookup other = if other = key then none else t.lookup other := by
  split
  · next h => rw [h, lookup_erase]
  · next h => exact lookup_erase_ne h

theorem entries_replace_cons (entry : Sigma fun _ : κ => ν) (rest : List (Sigma fun _ : κ => ν)) :
    kreplace key value (entry :: rest) =
      if key = entry.1 then ⟨key, value⟩ :: rest else entry :: kreplace key value rest := by
  rw [kreplace]
  by_cases h : key = entry.1 <;> simp [h]

variable (h : t.lookup key = some value) (value' : ν) {keys : List κ} {p : κ → ν → Bool}

include h in
theorem lookup_replace_eq (other : κ) :
    (t.replace key value').lookup other = if other = key then some value' else t.lookup other := by
  have hlist : ∀ entries : List (Sigma fun _ : κ => ν), key ∈ entries.keys →
      (kreplace key value' entries).dlookup other =
        if other = key then some value' else entries.dlookup other := by
    intro entries hkey
    induction entries with
    | nil => simp at hkey
    | cons entry rest ih =>
      obtain ⟨first, _⟩ := entry
      rw [entries_replace_cons]
      by_cases hfirst : key = first
      · subst hfirst
        rw [if_pos rfl]
        by_cases hoth : other = key
        · subst hoth
          rw [if_pos rfl, dlookup_cons_eq]
        · rw [if_neg hoth, dlookup_cons_ne _ _ (by exact hoth),
            dlookup_cons_ne _ _ (by exact hoth)]
      · rw [if_neg hfirst]
        by_cases hoth : other = first
        · subst hoth
          rw [dlookup_cons_eq, dlookup_cons_eq, if_neg (Ne.symm hfirst)]
        have hkey' : key ∈ rest.keys := by simpa [hfirst] using hkey
        rw [dlookup_cons_ne _ _ (by exact hoth),
          dlookup_cons_ne _ _ (by exact hoth), ih hkey']
  refine hlist t.entries (mem_keys.1 (lookup_isSome.1 ?_))
  rw [h, isSome_some]

theorem replace_replace (value value' : ν) :
    (t.replace key value).replace key value' = t.replace key value' := by
  refine AList.ext ?_
  show kreplace key value' (kreplace key value t.entries) = _
  rw [show (t.replace key value').entries = kreplace key value' t.entries by rfl]
  induction t.entries with
  | nil => rfl
  | cons entry rest ih =>
    rw [entries_replace_cons, entries_replace_cons]
    by_cases h : key = entry.1
    · rw [if_pos h, if_pos h, entries_replace_cons, if_pos rfl]
    · rw [if_neg h, if_neg h, entries_replace_cons, if_neg h, ih]

theorem mem_keysWhere :
    key ∈ t.keysWhere p ↔ ∃ value, t.lookup key = some value ∧ p key value := by
  rw [keysWhere, mem_filterMap]
  constructor
  · rintro ⟨entry, hent, hkey⟩
    split_ifs at hkey with hp
    cases hkey
    exact ⟨entry.2, mem_entries.1 hent, hp⟩
  · rintro ⟨value, hlook, hp⟩
    exact ⟨⟨key, value⟩, mem_entries.2 hlook, if_pos hp⟩

theorem lookup_eraseAll :
    (t.eraseAll keys).lookup key = if key ∈ keys then none else t.lookup key := by
  induction keys generalizing t with
  | nil => simp [eraseAll]
  | cons first keys ih =>
    have hstep : t.eraseAll (first :: keys) = (t.erase first).eraseAll keys := rfl
    rw [hstep, ih, lookup_erase_eq]
    by_cases hfirst : key = first <;> simp [hfirst]

theorem lookup_insertAll :
    (t.insertAll keys value).lookup key = if key ∈ keys then some value else t.lookup key := by
  induction keys generalizing t with
  | nil => simp [insertAll]
  | cons first keys ih =>
    have hstep : t.insertAll (first :: keys) value = (t.insert first value).insertAll keys value :=
      rfl
    rw [hstep, ih, lookup_insert_eq]
    by_cases hfirst : key = first <;> simp [hfirst]

/-- A sweep leaves what does not satisfy the predicate. -/
theorem lookup_eraseAll_keysWhere :
    (t.eraseAll (t.keysWhere p)).lookup key = (t.lookup key).filter fun value => !p key value := by
  rw [lookup_eraseAll]
  cases hlook : t.lookup key with
  | none => simp
  | some value => by_cases hp : p key value <;> simp [mem_keysWhere, hlook, hp, Option.filter]

/-- Tables with the same lookups have the same entries. -/
theorem perm_of_lookup_eq {t u : Table κ ν} (h : ∀ key, t.lookup key = u.lookup key) :
    t.entries.Perm u.entries :=
  lookup_ext t.nodupKeys u.nodupKeys fun key value => by
    show value ∈ t.lookup key ↔ value ∈ u.lookup key
    rw [h]

/-! ## Counts -/

variable {p q : κ → ν → Bool}

theorem count_eq_of_lookup_eq {t u : Table κ ν} (h : ∀ key, t.lookup key = u.lookup key) :
    t.count p = u.count p :=
  (perm_of_lookup_eq h).countP_eq _

omit [DecidableEq κ] in
theorem length_eq_count (t : Table κ ν) : t.length = t.count fun _ _ => true := by
  rw [length, count, countP_true]

theorem count_insert (h : t.lookup key = none) :
    (t.insert key value).count p = t.count p + if p key value then 1 else 0 := by
  rw [count, entries_insert_of_notMem (lookup_eq_none.1 h), countP_cons, count]

theorem count_insert_eq (t : Table κ ν) (key : κ) (value : ν) :
    (t.insert key value).count p = (t.erase key).count p + if p key value then 1 else 0 := by
  rw [count, entries_insert, countP_cons]
  rfl

include h in
theorem count_erase :
    (t.erase key).count p + (if p key value then 1 else 0) = t.count p := by
  rw [← count_insert (lookup_erase key t)]
  refine count_eq_of_lookup_eq fun other => ?_
  rw [lookup_insert_eq, lookup_erase_eq]
  split
  · next hkey => rw [hkey, h]
  · rfl

include h in
theorem count_replace :
    (t.replace key value').count p + (if p key value then 1 else 0) =
      t.count p + if p key value' then 1 else 0 := by
  have hinsert : (t.replace key value').count p = ((t.erase key).insert key value').count p := by
    refine count_eq_of_lookup_eq fun other => ?_
    rw [lookup_replace_eq h, lookup_insert_eq, lookup_erase_eq]
    split
    · rfl
    · rfl
  have herase : (t.erase key).count p + (if p key value then 1 else 0) = t.count p := count_erase h
  rw [hinsert, count_insert (lookup_erase key t)]
  omega

theorem length_insert (h : t.lookup key = none) :
    (t.insert key value).length = t.length + 1 := by
  rw [length_eq_count, count_insert h, if_pos rfl, ← length_eq_count]

include h in
theorem length_erase :
    (t.erase key).length + 1 = t.length := by
  rw [length_eq_count t, ← count_erase h, if_pos rfl, ← length_eq_count]

include h in
theorem length_replace :
    (t.replace key value').length = t.length := by
  have hcount := count_replace (p := fun _ _ => true) h value'
  rw [← length_eq_count, ← length_eq_count] at hcount
  omega

theorem count_erase_le (t : Table κ ν) (key : κ) : (t.erase key).count p ≤ t.count p :=
  (kerase_sublist key t.entries).countP_le

theorem length_insert_le (t : Table κ ν) (key : κ) (value : ν) :
    (t.insert key value).length ≤ t.length + if t.lookup key = none then 1 else 0 := by
  cases h : t.lookup key with
  | none => rw [length_insert h, if_pos rfl]
  | some old =>
    have hcount := count_insert_eq (p := fun _ _ => true) t key value
    rw [if_pos rfl, ← length_eq_count, ← length_eq_count, length_erase h] at hcount
    rw [hcount]
    exact Nat.le_refl _

/-- The loop adds an entry for each key that was missing. -/
theorem length_insertAll_le (t : Table κ ν) :
    (t.insertAll keys value).length ≤ t.length + keys.countP fun key => (t.lookup key).isNone := by
  induction keys generalizing t with
  | nil => exact Nat.le_refl _
  | cons first keys ih =>
    have hstep : t.insertAll (first :: keys) value = (t.insert first value).insertAll keys value :=
      rfl
    have hrest := ih (t.insert first value)
    have hfirst := length_insert_le t first value
    have hmono : (keys.countP fun key => ((t.insert first value).lookup key).isNone) ≤
        keys.countP fun key => (t.lookup key).isNone := by
      refine countP_mono_left fun key _ hnone => ?_
      rw [lookup_insert_eq] at hnone
      split_ifs at hnone
      · cases hnone
      · exact hnone
    rw [hstep, countP_cons]
    cases hlook : t.lookup first with
    | none =>
      rw [hlook, if_pos rfl] at hfirst
      rw [isNone_none, if_pos rfl]
      omega
    | some old =>
      rw [hlook, if_neg (some_ne_none old)] at hfirst
      omega

omit [DecidableEq κ] in
theorem count_retain :
    (t.retain keep).count p = t.count fun key value => p key value && keep key value := by
  rw [count, retain, countP_filter]
  rfl

omit [DecidableEq κ] in
theorem count_le_count (h : ∀ key value, p key value → q key value) :
    t.count p ≤ t.count q :=
  countP_mono_left fun entry _ => h entry.1 entry.2

/-- What a sweep leaves, and what it takes. -/
theorem count_eraseAll_keysWhere :
    (t.eraseAll (t.keysWhere q)).count p =
      t.count fun key value => p key value && !q key value := by
  rw [← count_retain]
  refine count_eq_of_lookup_eq fun key => ?_
  rw [lookup_eraseAll_keysWhere, lookup_retain]

theorem length_eraseAll_keysWhere (t : Table κ ν) (q : κ → ν → Bool) :
    (t.eraseAll (t.keysWhere q)).length + (t.keysWhere q).length = t.length := by
  rw [length_eq_count, count_eraseAll_keysWhere]
  unfold count keysWhere length
  induction t.entries with
  | nil => rfl
  | cons entry rest ih =>
    simp only [countP_cons, filterMap_cons, Bool.true_and] at ih ⊢
    cases hq : q entry.1 entry.2 <;> simp <;> omega

end AList
