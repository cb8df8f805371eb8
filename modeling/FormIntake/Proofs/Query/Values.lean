import FormIntake.Query
import Mathlib.Data.List.Basic

namespace FormIntake.Query

/-- The values for `key`; none at all where none came. -/
def values (q : Query) (key : String) : List String := (q.getList? key).getD []

def valuesOf (pairs : List (String × String)) (key : String) : List String :=
  (pairs.filter fun pair => pair.1 = key).map Prod.snd

section

variable {q other : Query} {key : String}

theorem toList_ne_nil (s : Submitted) : s.toList ≠ [] := List.cons_ne_nil _ _

theorem getList?_eq_values (q : Query) (key : String) :
    q.getList? key = if q.values key = [] then none else some (q.values key) := by
  unfold values getList?
  cases q.entries.get? key with
  | none => rfl
  | some s => exact (if_neg (toList_ne_nil s)).symm

theorem get?_eq_head? (q : Query) (key : String) : q.get? key = (q.values key).head? := by
  unfold values getList? get?
  cases q.entries.get? key <;> rfl

theorem values_ne_nil_iff : q.values key ≠ [] ↔ q.contains key = true := by
  unfold values getList? contains Entries.contains
  cases q.entries.get? key with
  | none => simp
  | some s => simp [toList_ne_nil]

theorem values_empty (key : String) : empty.values key = [] := rfl

theorem values_append (q : Query) (key value other : String) :
    (q.append key value).values other =
      q.values other ++ if key = other then [value] else [] := by
  unfold values getList? append
  dsimp only
  rw [Entries.get?_insert]
  by_cases here : key = other
  · subst here
    rw [if_pos rfl, if_pos rfl]
    cases q.entries.get? key <;> rfl
  · rw [if_neg here, if_neg here, List.append_nil]

theorem values_set (q : Query) (key value other : String) :
    (q.set key value).values other = if key = other then [value] else q.values other := by
  unfold values getList? set
  rw [Entries.get?_insert]
  by_cases here : key = other
  · rw [if_pos here, if_pos here]
    rfl
  · rw [if_neg here, if_neg here]

theorem valuesOf_cons (pair : String × String) (pairs : List (String × String)) (key : String) :
    valuesOf (pair :: pairs) key =
      (if pair.1 = key then [pair.2] else []) ++ valuesOf pairs key := by
  unfold valuesOf
  by_cases here : pair.1 = key <;> simp [here]

theorem values_foldl_append (pairs : List (String × String)) (q : Query) (key : String) :
    (pairs.foldl (fun q (key, value) => q.append key value) q).values key =
      q.values key ++ valuesOf pairs key := by
  induction pairs generalizing q with
  | nil => simp [valuesOf]
  | cons pair pairs ih =>
    rw [List.foldl_cons, ih, values_append, valuesOf_cons, List.append_assoc]

theorem values_ofList (pairs : List (String × String)) (key : String) :
    (ofList pairs).values key = valuesOf pairs key := by
  rw [ofList, values_foldl_append, values_empty, List.nil_append]

theorem head?_valuesOf (pairs : List (String × String)) (key : String) :
    (valuesOf pairs key).head? = pairs.lookup key := by
  induction pairs with
  | nil => rfl
  | cons pair pairs ih =>
    rw [valuesOf_cons, List.lookup_cons]
    by_cases here : pair.1 = key
    · simp [here]
    · have differs : (key == pair.1) = false := beq_false_of_ne (Ne.symm here)
      simp [here, differs, ih]

end

theorem values_foldl_appendAll (values : List String) (q : Query) (key other : String) :
    (values.foldl (fun q value => q.append key value) q).values other =
      q.values other ++ if key = other then values else [] := by
  induction values generalizing q with
  | nil => simp
  | cons value values ih =>
    rw [List.foldl_cons, ih, values_append]
    split <;> simp

theorem values_foldl_lists {entries : Entries Submitted} (ordered : entries.Ordered) (q : Query)
    (key : String) :
    ((entries.mapValues (·.toList)).foldl
      (fun q (key, values) => values.foldl (fun q value => q.append key value) q) q).values key =
      q.values key ++ ((entries.get? key).map (·.toList)).getD [] := by
  induction entries generalizing q with
  | nil => simp [Entries.mapValues, Entries.get?]
  | cons head rest ih =>
    obtain ⟨k, s⟩ := head
    have above := (List.pairwise_cons.1 ordered).1
    have later := ih (List.pairwise_cons.1 ordered).2
    simp only [Entries.mapValues, List.map_cons, List.foldl_cons] at later ⊢
    rw [later, values_foldl_appendAll]
    by_cases here : k = key
    · subst here
      simp [Entries.get?, Entries.get?_eq_none_of_below above]
    · simp [Entries.get?, here]

theorem values_merge (q other : Query) (key : String) :
    (q.merge other).values key = q.values key ++ other.values key :=
  values_foldl_lists other.ordered q key

end FormIntake.Query
