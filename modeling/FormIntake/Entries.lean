namespace FormIntake

abbrev Entries (α : Type) := List (String × α)

namespace Entries

variable {α β : Type}

def Ordered (entries : Entries α) : Prop := entries.Pairwise fun a b => a.1 < b.1

instance (entries : Entries α) : Decidable entries.Ordered :=
  inferInstanceAs (Decidable (entries.Pairwise _))

def get? : Entries α → String → Option α
  | [], _ => none
  | (k, v) :: rest, key => if k = key then some v else get? rest key

def insert (key : String) (value : α) : Entries α → Entries α
  | [] => [(key, value)]
  | (k, v) :: rest =>
    if key < k then (key, value) :: (k, v) :: rest
    else if k = key then (key, value) :: rest
    else (k, v) :: insert key value rest

def keys (entries : Entries α) : List String := entries.map Prod.fst

def contains (entries : Entries α) (key : String) : Bool := (entries.get? key).isSome

/-- The entries of a list of pairs, where a later pair replaces an earlier one of the same key. -/
def ofList (pairs : List (String × α)) : Entries α :=
  pairs.foldl (fun entries (key, value) => entries.insert key value) []

def mapValues (f : α → β) (entries : Entries α) : Entries β := entries.map fun (k, v) => (k, f v)

theorem get?_insert (entries : Entries α) (key other : String) (value : α) :
    (entries.insert key value).get? other =
      if key = other then some value else entries.get? other := by
  induction entries with
  | nil => simp [insert, get?]
  | cons head rest ih =>
    obtain ⟨k, v⟩ := head
    simp only [insert]
    split
    · simp [get?]
    · split
      · next same => subst same; simp only [get?]; split <;> simp_all
      · next differs =>
        simp only [get?, ih]
        split
        · next found => subst found; simp [Ne.symm differs]
        · rfl

theorem fst_mem_insert {entries : Entries α} {key : String} {value : α} {entry : String × α}
    (member : entry ∈ entries.insert key value) : entry = (key, value) ∨ entry ∈ entries := by
  induction entries with
  | nil => simpa [insert] using member
  | cons head rest ih =>
    obtain ⟨k, v⟩ := head
    simp only [insert] at member
    split at member
    · simpa using member
    · split at member
      · rcases List.mem_cons.1 member with here | there
        · exact .inl here
        · exact .inr (List.mem_cons_of_mem _ there)
      · rcases List.mem_cons.1 member with here | there
        · exact .inr (here ▸ List.mem_cons_self)
        · exact (ih there).imp_right (List.mem_cons_of_mem _)

theorem ordered_insert {entries : Entries α} (ordered : entries.Ordered) (key : String)
    (value : α) : (entries.insert key value).Ordered := by
  induction entries with
  | nil => simp [insert, Ordered]
  | cons head rest ih =>
    obtain ⟨k, v⟩ := head
    have tail : Ordered rest := (List.pairwise_cons.1 ordered).2
    have above := (List.pairwise_cons.1 ordered).1
    simp only [insert]
    split
    · next below =>
      refine List.pairwise_cons.2 ⟨fun entry member => ?_, ordered⟩
      rcases List.mem_cons.1 member with here | there
      · subst here; exact below
      · exact String.lt_trans below (above entry there)
    · split
      · next same =>
        subst same
        exact List.pairwise_cons.2 ⟨above, tail⟩
      · next notBelow differs =>
        refine List.pairwise_cons.2 ⟨fun entry member => ?_, ih tail⟩
        rcases fst_mem_insert member with here | there
        · subst here
          rcases Std.lt_trichotomy k key with less | same | more
          · exact less
          · exact absurd same differs
          · exact absurd more notBelow
        · exact above entry there

theorem get?_eq_none_of_below {entries : Entries α} {key : String}
    (above : ∀ entry ∈ entries, key < entry.1) : entries.get? key = none := by
  induction entries with
  | nil => rfl
  | cons head rest ih =>
    obtain ⟨k, v⟩ := head
    have less : key < k := above _ List.mem_cons_self
    have differs : k ≠ key := fun same => String.lt_irrefl k (same ▸ less)
    simp only [get?, differs, if_false]
    exact ih fun entry member => above entry (List.mem_cons_of_mem _ member)

theorem ext_get? {a b : Entries α} (orderedA : a.Ordered) (orderedB : b.Ordered)
    (same : ∀ key, a.get? key = b.get? key) : a = b := by
  induction a generalizing b with
  | nil =>
    cases b with
    | nil => rfl
    | cons head rest => simpa [get?] using same head.1
  | cons head rest ih =>
    obtain ⟨k, v⟩ := head
    have aboveA := (List.pairwise_cons.1 orderedA).1
    cases b with
    | nil => simpa [get?] using same k
    | cons head' rest' =>
      obtain ⟨k', v'⟩ := head'
      have aboveB := (List.pairwise_cons.1 orderedB).1
      have firstKey : k = k' := by
        rcases Std.lt_trichotomy k k' with less | equal | more
        · have missing : get? ((k', v') :: rest') k = none := by
            refine get?_eq_none_of_below fun entry member => ?_
            rcases List.mem_cons.1 member with here | there
            · subst here; exact less
            · exact String.lt_trans less (aboveB entry there)
          have found := same k
          rw [missing] at found
          simp [get?] at found
        · exact equal
        · have missing : get? ((k, v) :: rest) k' = none := by
            refine get?_eq_none_of_below fun entry member => ?_
            rcases List.mem_cons.1 member with here | there
            · subst here; exact more
            · exact String.lt_trans more (aboveA entry there)
          have found := same k'
          rw [missing] at found
          simp [get?] at found
      subst firstKey
      have firstValue : v = v' := by simpa [get?] using same k
      subst firstValue
      congr 1
      refine ih (List.pairwise_cons.1 orderedA).2 (List.pairwise_cons.1 orderedB).2 fun key => ?_
      by_cases here : k = key
      · subst here
        rw [get?_eq_none_of_below aboveA, get?_eq_none_of_below aboveB]
      · simpa [get?, here] using same key

theorem get?_eq_none_iff {entries : Entries α} {key : String} :
    entries.get? key = none ↔ key ∉ entries.keys := by
  induction entries with
  | nil => simp [get?, keys]
  | cons head rest ih =>
    obtain ⟨k, v⟩ := head
    simp only [get?, keys, List.map_cons, List.mem_cons, not_or] at ih ⊢
    split
    · next here => simp [here]
    · next differs => simp [ih, Ne.symm differs]

theorem exists_get?_of_mem_keys {entries : Entries α} {key : String} (member : key ∈ entries.keys) :
    ∃ value, entries.get? key = some value :=
  Option.ne_none_iff_exists'.1 fun missing => get?_eq_none_iff.1 missing member

theorem mem_keys_of_get? {entries : Entries α} {key : String} {value : α}
    (found : entries.get? key = some value) : key ∈ entries.keys := by
  apply Classical.byContradiction
  intro absent
  rw [get?_eq_none_iff.2 absent] at found
  cases found

theorem contains_iff {entries : Entries α} {key : String} :
    entries.contains key = true ↔ key ∈ entries.keys := by
  rw [contains, Option.isSome_iff_ne_none, ne_eq, get?_eq_none_iff, Classical.not_not]

theorem mem_of_get? {entries : Entries α} {key : String} {value : α}
    (found : entries.get? key = some value) : (key, value) ∈ entries := by
  induction entries with
  | nil => cases found
  | cons head rest ih =>
    obtain ⟨k, v⟩ := head
    simp only [get?] at found
    split at found
    · next here => cases found; exact here ▸ List.mem_cons_self
    · exact List.mem_cons_of_mem _ (ih found)

theorem ordered_iff_keys {entries : Entries α} :
    entries.Ordered ↔ entries.keys.Pairwise (· < ·) :=
  List.pairwise_map.symm

theorem get?_of_split {before after : Entries α} {key : String} {value : α}
    (ordered : Ordered (before ++ (key, value) :: after)) :
    get? (before ++ (key, value) :: after) key = some value := by
  induction before with
  | nil => simp [get?]
  | cons head rest ih =>
    obtain ⟨k, v⟩ := head
    have above := (List.pairwise_cons.1 ordered).1 (key, value) (by simp)
    have differs : k ≠ key := fun same => String.lt_irrefl k (same ▸ above)
    simp only [List.cons_append, get?, differs, if_false]
    exact ih (List.pairwise_cons.1 ordered).2

theorem get?_of_mem {entries : Entries α} (ordered : entries.Ordered) {key : String} {value : α}
    (member : (key, value) ∈ entries) : entries.get? key = some value := by
  obtain ⟨before, after, rfl⟩ := List.append_of_mem member
  exact get?_of_split ordered

theorem keys_insert_of_mem {entries : Entries α} (ordered : entries.Ordered) {key : String}
    (member : key ∈ entries.keys) (value : α) : (entries.insert key value).keys = entries.keys := by
  induction entries with
  | nil => cases member
  | cons head rest ih =>
    obtain ⟨k, v⟩ := head
    have above := (List.pairwise_cons.1 (ordered_iff_keys.1 ordered)).1
    simp only [insert]
    split
    · next below =>
      rcases List.mem_cons.1 member with here | there
      · exact absurd below (here ▸ String.lt_irrefl key)
      · exact absurd (String.lt_trans below (above key there)) (String.lt_irrefl key)
    · split
      · next same => subst same; rfl
      · next differs =>
        have inRest : key ∈ keys rest :=
          (List.mem_cons.1 member).resolve_left fun here => differs here.symm
        exact congrArg (k :: ·) (ih (List.pairwise_cons.1 ordered).2 inRest)

theorem mem_keys_insert {entries : Entries α} {key other : String} {value : α} :
    other ∈ (entries.insert key value).keys ↔ key = other ∨ other ∈ entries.keys := by
  have same := get?_insert entries key other value
  by_cases here : key = other
  · rw [if_pos here] at same
    exact ⟨fun _ => .inl here, fun _ => mem_keys_of_get? same⟩
  · rw [if_neg here] at same
    simp only [here, false_or]
    rw [← Classical.not_not (a := other ∈ (entries.insert key value).keys),
      ← Classical.not_not (a := other ∈ entries.keys), ← get?_eq_none_iff, ← get?_eq_none_iff, same]

theorem ordered_foldl_insert {γ : Type} (f : γ → α) (writes : List (String × γ))
    {entries : Entries α} (ordered : entries.Ordered) :
    Ordered (writes.foldl (fun entries (key, value) => entries.insert key (f value)) entries) := by
  induction writes generalizing entries with
  | nil => exact ordered
  | cons write rest ih => exact ih (ordered_insert ordered _ _)

theorem ordered_ofList (pairs : List (String × α)) : (ofList pairs).Ordered :=
  ordered_foldl_insert id pairs List.Pairwise.nil

theorem mem_keys_ofList {pairs : List (String × α)} {key : String} :
    key ∈ (ofList pairs).keys ↔ key ∈ pairs.map Prod.fst := by
  have start (entries : Entries α) :
      key ∈ keys (pairs.foldl (fun entries (key, value) => entries.insert key value) entries) ↔
        key ∈ pairs.map Prod.fst ∨ key ∈ entries.keys := by
    induction pairs generalizing entries with
    | nil => simp
    | cons pair rest ih =>
      rw [List.foldl_cons, ih, mem_keys_insert, List.map_cons, List.mem_cons, or_left_comm,
        or_assoc, eq_comm]
  rw [ofList, start]
  exact or_iff_left (List.not_mem_nil)

theorem get?_foldl_insert_of_absent {γ : Type} (f : γ → α) {writes : List (String × γ)}
    {key : String} (absent : key ∉ writes.map Prod.fst) (entries : Entries α) :
    get? (writes.foldl (fun entries (key, value) => entries.insert key (f value)) entries) key =
      entries.get? key := by
  induction writes generalizing entries with
  | nil => rfl
  | cons write rest ih =>
    obtain ⟨other, value⟩ := write
    simp only [List.map_cons, List.mem_cons, not_or] at absent
    simp only [List.foldl_cons]
    rw [ih absent.2, get?_insert, if_neg (Ne.symm absent.1)]

theorem get?_foldl_insert_of_last {γ : Type} (f : γ → α) (before : List (String × γ))
    {after : List (String × γ)} {key : String} (value : γ) (absent : key ∉ after.map Prod.fst)
    (entries : Entries α) :
    get? ((before ++ (key, value) :: after).foldl
      (fun entries (key, value) => entries.insert key (f value)) entries) key = some (f value) := by
  rw [List.foldl_append, List.foldl_cons, get?_foldl_insert_of_absent f absent, get?_insert,
    if_pos rfl]

theorem keys_foldl_insert_of_subset {γ : Type} (f : γ → α) {writes : List (String × γ)}
    {entries : Entries α} (ordered : entries.Ordered)
    (subset : ∀ key ∈ writes.map Prod.fst, key ∈ entries.keys) :
    keys (writes.foldl (fun entries (key, value) => entries.insert key (f value)) entries) =
      entries.keys := by
  induction writes generalizing entries with
  | nil => rfl
  | cons write rest ih =>
    obtain ⟨key, value⟩ := write
    simp only [List.map_cons, List.forall_mem_cons] at subset
    have kept := keys_insert_of_mem ordered subset.1 (f value)
    simp only [List.foldl_cons]
    rw [ih (ordered_insert ordered _ _) (by rw [kept]; exact subset.2), kept]

theorem get?_mapValues (f : α → β) (entries : Entries α) (key : String) :
    (entries.mapValues f).get? key = (entries.get? key).map f := by
  induction entries with
  | nil => rfl
  | cons head rest ih =>
    obtain ⟨k, v⟩ := head
    simp only [mapValues, List.map_cons, get?] at ih ⊢
    split
    · rfl
    · exact ih

theorem keys_mapValues (f : α → β) (entries : Entries α) :
    (entries.mapValues f).keys = entries.keys := by
  simp [mapValues, keys]

theorem ordered_mapValues (f : α → β) {entries : Entries α} (ordered : entries.Ordered) :
    (entries.mapValues f).Ordered := by
  rw [ordered_iff_keys, keys_mapValues]
  exact ordered_iff_keys.1 ordered

end Entries

end FormIntake
