import FormIntake.Demo
import FormIntake.Proofs.Query.Values
import FormIntake.Proofs.Text.Pieces

namespace FormIntake

namespace Urlencoded

def unmarked : List Char → List Char
  | '?' :: rest => rest
  | cs => cs

theorem unmarked_of_ne {cs : List Char} (plain : ∀ rest, cs ≠ '?' :: rest) : unmarked cs = cs := by
  unfold unmarked
  split
  · exact absurd rfl (plain _)
  · rfl

theorem pairs_eq (cs : List Char) :
    pairs cs = ((Text.pieces '&' (unmarked cs)).filter (!·.isEmpty)).map decodePair := by
  unfold pairs
  split
  · rfl
  · next plain => rw [unmarked_of_ne plain]

theorem unmarked_append (front rest : List Char) :
    unmarked (front ++ '&' :: rest) = unmarked front ++ '&' :: rest := by
  cases front with
  | nil => rfl
  | cons c front =>
    by_cases mark : c = '?'
    · subst mark
      rfl
    · have plain (cs : List Char) : unmarked (c :: cs) = c :: cs :=
        unmarked_of_ne fun _ same => mark (List.cons.inj same).1
      rw [List.cons_append, plain, plain, List.cons_append]

theorem pairs_append (front rest : List Char) :
    pairs (front ++ '&' :: unmarked rest) = pairs front ++ pairs rest := by
  rw [pairs_eq, pairs_eq, pairs_eq, unmarked_append, Text.pieces_append, List.filter_append,
    List.map_append]

end Urlencoded

namespace Query

variable {q other : Query} {keys : List String}

/-- Adds the values of `other`, key by key in the order of `keys`. -/
def gather (q other : Query) (keys : List String) : Query :=
  keys.foldl (fun q key => (other.values key).foldl (fun q value => q.append key value) q) q

theorem toList_injective : Function.Injective Submitted.toList := by
  rintro ⟨first, more⟩ ⟨first', more'⟩ same
  obtain ⟨rfl, rfl⟩ := List.cons.inj same
  rfl

theorem eq_of_values (same : ∀ key, q.values key = other.values key) : q = other := by
  have entries : q.entries = other.entries := by
    refine Entries.ext_get? q.ordered other.ordered fun key => ?_
    have lists : q.getList? key = other.getList? key := by
      rw [getList?_eq_values, getList?_eq_values, same key]
    exact Option.map_injective toList_injective lists
  cases q
  cases other
  cases entries
  rfl

theorem nodup_keys (q : Query) : q.keys.Nodup := by
  refine (Entries.ordered_iff_keys.1 q.ordered).imp fun less same => ?_
  rw [same] at less
  exact String.lt_irrefl _ less

theorem mem_keys_iff {key : String} : key ∈ q.keys ↔ q.values key ≠ [] := by
  rw [values_ne_nil_iff]
  exact Entries.contains_iff.symm

theorem values_gather (q other : Query) (nodup : keys.Nodup) (key : String) :
    (q.gather other keys).values key =
      q.values key ++ if key ∈ keys then other.values key else [] := by
  induction keys generalizing q with
  | nil => simp [gather]
  | cons head rest ih =>
    obtain ⟨fresh, later⟩ := List.nodup_cons.1 nodup
    -- the head is not among the later keys, so what it adds here is added once
    have step : (q.gather other (head :: rest)).values key =
        q.values key ++ (if head = key then other.values head else []) ++
          if key ∈ rest then other.values key else [] := by
      rw [← values_foldl_appendAll]
      exact ih _ later
    rw [step]
    by_cases here : head = key
    · subst here
      simp [fresh]
    · simp [here, Ne.symm here]

theorem gather_of_perm (q : Query) (visited : keys.Perm other.keys) :
    q.gather other keys = q.merge other := by
  refine eq_of_values fun key => ?_
  rw [values_gather q other (visited.nodup_iff.2 other.nodup_keys), values_merge]
  by_cases present : key ∈ keys
  · rw [if_pos present]
  · have absent : other.values key = [] :=
      not_not.1 (mem_keys_iff.not.1 (visited.mem_iff.not.1 present))
    rw [if_neg present, absent]

theorem valuesOf_append (front rest : List (String × String)) (key : String) :
    valuesOf (front ++ rest) key = valuesOf front key ++ valuesOf rest key := by
  simp [valuesOf]

theorem parse_joined (front rest : String) :
    parse (front ++ "&" ++ String.ofList (Urlencoded.unmarked rest.toList)) =
      (parse front).merge (parse rest) := by
  have text : (front ++ "&" ++ String.ofList (Urlencoded.unmarked rest.toList)).toList =
      front.toList ++ '&' :: Urlencoded.unmarked rest.toList := by
    have mark : "&".toList = ['&'] := rfl
    rw [String.toList_append, String.toList_append, mark, String.toList_ofList, List.append_assoc]
    rfl
  refine eq_of_values fun key => ?_
  rw [values_merge, parse, parse, parse, text, Urlencoded.pairs_append, values_ofList,
    values_ofList, values_ofList, valuesOf_append]

theorem get?_merge (q other : Query) (key : String) :
    (q.merge other).get? key = if q.contains key then q.get? key else other.get? key := by
  rw [get?_eq_head?, get?_eq_head?, get?_eq_head?, values_merge]
  by_cases present : q.contains key = true
  · rw [if_pos present]
    exact List.head?_append_of_ne_nil _ (values_ne_nil_iff.2 present)
  · rw [if_neg present, not_not.1 (values_ne_nil_iff.not.2 present), List.nil_append]

end Query

namespace Demo

/-- The values of a request are those of its body and then those of its query, in whatever order
the keys of the query are visited, and they are those of both texts joined into one. A key that the
body has is answered from the body, and any other key from the query. -/
theorem formValues_joined (body query : String) :
    (∀ key, (formValues body (some query)).values key =
      (Query.parse body).values key ++ (Query.parse query).values key) ∧
    (∀ order, order.Perm (Query.parse query).keys →
      (Query.parse body).gather (Query.parse query) order = formValues body (some query)) ∧
    formValues body (some query) =
      Query.parse (body ++ "&" ++ String.ofList (Urlencoded.unmarked query.toList)) ∧
    ∀ key, (formValues body (some query)).get? key =
      if (Query.parse body).contains key then (Query.parse body).get? key
      else (Query.parse query).get? key := by
  have merged : formValues body (some query) = (Query.parse body).merge (Query.parse query) := rfl
  rw [merged]
  refine ⟨fun key => Query.values_merge _ _ key, fun order visited => ?_, ?_, fun key => ?_⟩
  · exact Query.gather_of_perm _ visited
  · exact (Query.parse_joined body query).symm
  · exact Query.get?_merge _ _ key

theorem formValues_joined_reversed :
    ["b", "a"].Perm (Query.parse "?a=1&b=2&a=3").keys ∧
      (Query.parse "b=0").gather (Query.parse "?a=1&b=2&a=3") ["b", "a"] =
        Query.parse "b=0&a=1&b=2&a=3" := by
  have keys : (Query.parse "?a=1&b=2&a=3").keys = ["a", "b"] := by decide +kernel
  have visited : ["b", "a"].Perm (Query.parse "?a=1&b=2&a=3").keys := by
    rw [keys]
    exact List.Perm.swap "a" "b" []
  obtain ⟨_, gathered, joined, _⟩ := formValues_joined "b=0" "?a=1&b=2&a=3"
  exact ⟨visited, (gathered _ visited).trans joined⟩

end Demo

end FormIntake
