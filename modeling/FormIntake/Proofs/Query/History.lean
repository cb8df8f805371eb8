import FormIntake.Proofs.Query.Joining
import Mathlib.Data.Finset.Card

namespace FormIntake.Query

inductive Write
  | set (key value : String)
  | append (key value : String)
  deriving DecidableEq

def Write.key : Write → String
  | .set key _ | .append key _ => key

def Write.value : Write → String
  | .set _ value | .append _ value => value

def write (q : Query) : Write → Query
  | .set key value => q.set key value
  | .append key value => q.append key value

def writeAll (q : Query) (writes : List Write) : Query := writes.foldl write q

inductive Origin
  | nothing
  | text (s : String)
  | collected (pairs : List (String × String))

def Origin.query : Origin → Query
  | .nothing => empty
  | .text s => parse s
  | .collected pairs => ofList pairs

/-- The writes that a query begins with. -/
def Origin.writes : Origin → List Write
  | .nothing => []
  | .text s => (Urlencoded.pairs s.toList).map fun (key, value) => .append key value
  | .collected pairs => pairs.map fun (key, value) => .append key value

def written (key : String) (writes : List Write) : List String :=
  (writes.filter fun write => write.key = key).map Write.value

/-- The values that writes give for `key` from the last time on that it is set. -/
inductive Given (key : String) : List Write → List String → Prop
  | neverSet {writes : List Write} (unset : ∀ value, Write.set key value ∉ writes) :
      Given key writes (written key writes)
  | lastSet (before : List Write) (value : String) {after : List Write}
      (unset : ∀ other, Write.set key other ∉ after) :
      Given key (before ++ .set key value :: after) (written key (.set key value :: after))

/-- What callers can rely on in a query that writes have made. -/
structure Reflects (q : Query) (writes : List Write) : Prop where
  present : ∀ key values, q.getList? key = some values ↔ Given key writes values ∧ values ≠ []
  absent : ∀ key, q.getList? key = none ↔ Given key writes []
  first : ∀ key, q.get? key = (q.getList? key).bind List.head?
  contains : ∀ key, q.contains key = (q.get? key).isSome
  size : ∃ keys : Finset String, (∀ key, key ∈ keys ↔ ¬ Given key writes []) ∧ q.size = keys.card
  isEmpty : q.isEmpty = true ↔ q.size = 0

section

variable {q other : Query} {key : String} {values : List String} {writes : List Write}

theorem values_write_of_ne {w : Write} (differs : w.key ≠ key) (q : Query) :
    (q.write w).values key = q.values key := by
  cases w with
  | set other value => exact (values_set q other value key).trans (if_neg differs)
  | append other value =>
    have added := values_append q other value key
    rwa [if_neg (show other ≠ key from differs), List.append_nil] at added

theorem written_cons (key : String) (w : Write) (writes : List Write) :
    written key (w :: writes) = (if w.key = key then [w.value] else []) ++ written key writes := by
  unfold written
  by_cases here : w.key = key <;> simp [here]

theorem values_writeAll_of_unset (unset : ∀ value, Write.set key value ∉ writes) (q : Query) :
    (q.writeAll writes).values key = q.values key ++ written key writes := by
  induction writes generalizing q with
  | nil => exact (List.append_nil _).symm
  | cons w writes ih =>
    have later := ih (fun value member => unset value (List.mem_cons_of_mem _ member)) (q.write w)
    have first : (q.write w).values key =
        q.values key ++ if w.key = key then [w.value] else [] := by
      cases w with
      | set other value =>
        have differs : other ≠ key := by
          rintro rfl
          exact unset value List.mem_cons_self
        simp [write, values_set, Write.key, differs]
      | append other value => exact values_append q other value key
    rw [written_cons, ← List.append_assoc, ← first]
    exact later

/-- The values for a key depend only on the writes under it. -/
theorem values_writeAll_filter (same : q.values key = other.values key) (writes : List Write) :
    (q.writeAll writes).values key =
      (other.writeAll (writes.filter fun w => w.key = key)).values key := by
  induction writes generalizing q other with
  | nil => exact same
  | cons w writes ih =>
    by_cases here : w.key = key
    · have next : (q.write w).values key = (other.write w).values key := by
        cases w with
        | set target value => rw [write, write, values_set, values_set, same]
        | append target value => rw [write, write, values_append, values_append, same]
      have kept : (w :: writes).filter (fun w => w.key = key) =
          w :: writes.filter fun w => w.key = key := by simp [here]
      rw [kept]
      exact ih next
    · have dropped : (w :: writes).filter (fun w => w.key = key) =
          writes.filter fun w => w.key = key := by simp [here]
      rw [dropped]
      exact ih ((values_write_of_ne here q).trans same)

theorem values_writeAll_of_ne (apart : ∀ w ∈ writes, w.key ≠ key) (q : Query) :
    (q.writeAll writes).values key = q.values key := by
  have apart : (writes.filter fun w => w.key = key) = [] :=
    List.filter_eq_nil_iff.2 fun w member => by simpa using apart w member
  rw [values_writeAll_filter rfl writes, apart]
  rfl

theorem Given.values_eq (given : Given key writes values) :
    (empty.writeAll writes).values key = values := by
  cases given with
  | neverSet unset => rw [values_writeAll_of_unset unset, values_empty, List.nil_append]
  | @lastSet before value after unset =>
    have split : empty.writeAll (before ++ .set key value :: after) =
        ((empty.writeAll before).set key value).writeAll after := List.foldl_append
    have fresh : ((empty.writeAll before).set key value).values key = [value] := by
      rw [values_set, if_pos rfl]
    rw [split, values_writeAll_of_unset unset, fresh, written_cons]
    simp [Write.key, Write.value]

theorem exists_given (key : String) (writes : List Write) : ∃ values, Given key writes values := by
  induction writes with
  | nil => exact ⟨_, .neverSet fun _ => List.not_mem_nil⟩
  | cons w writes ih =>
    obtain ⟨_, given⟩ := ih
    cases given with
    | lastSet before value unset => exact ⟨_, .lastSet (w :: before) value unset⟩
    | neverSet unset =>
      by_cases sets : ∃ value, w = .set key value
      · obtain ⟨value, rfl⟩ := sets
        exact ⟨_, .lastSet [] value unset⟩
      · refine ⟨_, .neverSet fun value member => ?_⟩
        rcases List.mem_cons.1 member with here | there
        · exact sets ⟨value, here.symm⟩
        · exact unset value there

theorem given_iff : Given key writes values ↔ (empty.writeAll writes).values key = values := by
  constructor
  · exact Given.values_eq
  · rintro rfl
    obtain ⟨values, given⟩ := exists_given key writes
    rw [given.values_eq]
    exact given

theorem eq_iff_getList? : q = other ↔ ∀ key, q.getList? key = other.getList? key := by
  constructor
  · rintro rfl key
    rfl
  · intro same
    refine eq_of_values fun key => ?_
    rw [values, values, same key]

theorem contains_eq_isSome_get? (q : Query) (key : String) :
    q.contains key = (q.get? key).isSome := by
  unfold contains get? Entries.contains
  rw [Option.isSome_map]

theorem size_eq_card (q : Query) : q.size = q.keys.toFinset.card := by
  rw [List.toFinset_card_of_nodup q.nodup_keys, keys, Entries.keys, List.length_map, size]

theorem reflects_writeAll (writes : List Write) : (empty.writeAll writes).Reflects writes where
  present key values := by
    rw [getList?_eq_values, given_iff]
    by_cases gone : (empty.writeAll writes).values key = []
    · rw [if_pos gone, gone]
      simp [eq_comm]
    · rw [if_neg gone]
      constructor
      · intro found
        have same := Option.some.inj found
        exact ⟨same, same ▸ gone⟩
      · rintro ⟨same, _⟩
        rw [same]
  absent key := by
    rw [getList?_eq_values, given_iff]
    simp
  first key := by
    rw [get?_eq_head?, getList?_eq_values]
    by_cases gone : (empty.writeAll writes).values key = []
    · rw [if_pos gone, gone]
      rfl
    · rw [if_neg gone]
      rfl
  contains key := contains_eq_isSome_get? _ key
  size := by
    refine ⟨_, fun key => ?_, size_eq_card _⟩
    rw [List.mem_toFinset, mem_keys_iff, given_iff]
  isEmpty := by
    rw [isEmpty, size, List.isEmpty_iff_length_eq_zero]

theorem Origin.query_eq (origin : Origin) : origin.query = empty.writeAll origin.writes := by
  have appended (pairs : List (String × String)) : ofList pairs =
      empty.writeAll (pairs.map fun (key, value) => .append key value) := by
    rw [ofList, writeAll, List.foldl_map]
    rfl
  cases origin with
  | nothing => rfl
  | text s => exact appended _
  | collected pairs => exact appended pairs

theorem Origin.writeAll_query (origin : Origin) (writes : List Write) :
    origin.query.writeAll writes = empty.writeAll (origin.writes ++ writes) := by
  rw [origin.query_eq]
  exact List.foldl_append.symm

theorem writeAll_eq_of_filter {writes' : List Write}
    (same : ∀ key, (writes.filter fun w => w.key = key) = writes'.filter fun w => w.key = key) :
    empty.writeAll writes = empty.writeAll writes' := by
  refine eq_of_values fun key => ?_
  rw [values_writeAll_filter rfl writes, values_writeAll_filter rfl writes', same key]

theorem getList?_writeAll_of_ne (apart : ∀ w ∈ writes, w.key ≠ key) (q : Query) :
    (q.writeAll writes).getList? key = q.getList? key := by
  rw [getList?_eq_values, getList?_eq_values, values_writeAll_of_ne apart]

end

/-- Wherever a query comes from and whatever is written, it has for each key the values given from
the last time on that the key was set. Writes under other keys leave these, and two queries are the
same if they have the same values for every key, as they do if the writes under each key are the
same, whatever comes between them. -/
theorem reflects_history (origin : Origin) (writes : List Write) :
    (origin.query.writeAll writes).Reflects (origin.writes ++ writes) ∧
    (∀ key later, (∀ w ∈ later, w.key ≠ key) →
      ((origin.query.writeAll writes).writeAll later).getList? key =
        (origin.query.writeAll writes).getList? key) ∧
    ∀ origin' : Origin, ∀ writes' : List Write,
      (origin.query.writeAll writes = origin'.query.writeAll writes' ↔
        ∀ key, (origin.query.writeAll writes).getList? key =
          (origin'.query.writeAll writes').getList? key) ∧
      ((∀ key, ((origin.writes ++ writes).filter fun w => w.key = key) =
          (origin'.writes ++ writes').filter fun w => w.key = key) →
        origin.query.writeAll writes = origin'.query.writeAll writes') := by
  refine ⟨?_, fun key later apart => ?_, fun origin' writes' => ⟨?_, fun same => ?_⟩⟩
  · rw [origin.writeAll_query]
    exact reflects_writeAll _
  · exact getList?_writeAll_of_ne apart _
  · exact eq_iff_getList?
  · rw [origin.writeAll_query, origin'.writeAll_query]
    exact writeAll_eq_of_filter same

theorem reflects_history_set_again :
    ((Origin.text "a=1&b=2").query.writeAll
      [.append "b" "3", .set "a" "4", .append "b" "5", .append "a" "6"]).getList? "a" =
        some ["4", "6"] ∧
    (Origin.text "a=1&b=2").query.writeAll
        [.append "b" "3", .set "a" "4", .append "b" "5", .append "a" "6"] =
      (Origin.collected [("b", "2"), ("b", "3"), ("a", "1")]).query.writeAll
        [.append "b" "5", .set "a" "4", .append "a" "6"] := by
  have begins : (Origin.text "a=1&b=2").writes = [.append "a" "1", .append "b" "2"] := by
    decide +kernel
  obtain ⟨reflects, _, equal⟩ := reflects_history (.text "a=1&b=2")
    [.append "b" "3", .set "a" "4", .append "b" "5", .append "a" "6"]
  constructor
  · refine (reflects.present "a" ["4", "6"]).2 ⟨?_, by decide⟩
    rw [begins]
    exact .lastSet [.append "a" "1", .append "b" "2", .append "b" "3"] "4" (by simp)
  · refine (equal (.collected [("b", "2"), ("b", "3"), ("a", "1")])
      [.append "b" "5", .set "a" "4", .append "a" "6"]).2 fun key => ?_
    rw [begins]
    by_cases a : "a" = key
    · subst a
      decide
    · by_cases b : "b" = key
      · subst b
        decide
      · simp [Origin.writes, Write.key, a, b]

end FormIntake.Query
