import FormIntake.Record.Transfer

namespace FormIntake

/-- `key` is no name, and `name` is the first one that it has in another letter case. -/
def FoldsTo (names : List String) (key name : String) : Prop :=
  key ∉ names ∧ name ∈ names ∧ Text.lowerCase key = Text.lowerCase name ∧
    ∀ other ∈ names, Text.lowerCase key = Text.lowerCase other → name ≤ other

instance (names : List String) (key name : String) : Decidable (FoldsTo names key name) :=
  inferInstanceAs (Decidable (_ ∧ _ ∧ _ ∧ _))

def Resolves (names : List String) (key name : String) : Prop :=
  (key ∈ names ∧ key = name) ∨ FoldsTo names key name

/-- The value that the member `name` gets: the one of its own name, or else the one of the greatest
key that goes to it. -/
inductive Wins (names : List String) (values : Cleaned) (name : String) : FormValue → Prop
  | exact {value : FormValue} (member : name ∈ names) (given : values.get? name = some value) :
      Wins names values name value
  | folded {key : String} {value : FormValue} (absent : name ∉ values.keys)
      (folds : FoldsTo names key name)
      (greatest : ∀ other ∈ values.keys, FoldsTo names other name → other ≤ key)
      (given : values.get? key = some value) : Wins names values name value

namespace FoldsTo

variable {names : List String} {key name : String}

theorem not_mem (folds : FoldsTo names key name) : key ∉ names := folds.1

theorem member (folds : FoldsTo names key name) : name ∈ names := folds.2.1

end FoldsTo

theorem Resolves.member {names : List String} {key name : String}
    (resolves : Resolves names key name) : name ∈ names := by
  rcases resolves with ⟨member, rfl⟩ | folds
  · exact member
  · exact folds.member

theorem exists_greatest {p : String → Prop} {keys : List String} {key : String}
    (member : key ∈ keys) (holds : p key) :
    ∃ greatest ∈ keys, p greatest ∧ ∀ other ∈ keys, p other → other ≤ greatest := by
  induction keys generalizing key with
  | nil => cases member
  | cons head rest ih =>
    by_cases later : ∃ other ∈ rest, p other
    · obtain ⟨other, inRest, otherHolds⟩ := later
      obtain ⟨greatest, greatestIn, greatestHolds, above⟩ := ih inRest otherHolds
      by_cases headWins : p head ∧ greatest ≤ head
      · refine ⟨head, List.mem_cons_self, headWins.1, fun candidate inAll candidateHolds => ?_⟩
        rcases List.mem_cons.1 inAll with rfl | inRest
        · exact String.le_refl _
        · exact String.le_trans (above candidate inRest candidateHolds) headWins.2
      · refine ⟨greatest, List.mem_cons_of_mem _ greatestIn, greatestHolds, ?_⟩
        intro candidate inAll candidateHolds
        rcases List.mem_cons.1 inAll with rfl | inRest
        · exact (String.le_total candidate greatest).resolve_right fun le =>
            headWins ⟨candidateHolds, le⟩
        · exact above candidate inRest candidateHolds
    · have only : key = head := by
        rcases List.mem_cons.1 member with here | inRest
        · exact here
        · exact absurd ⟨key, inRest, holds⟩ later
      subst only
      refine ⟨key, List.mem_cons_self, holds, fun candidate inAll candidateHolds => ?_⟩
      rcases List.mem_cons.1 inAll with rfl | inRest
      · exact String.le_refl _
      · exact absurd ⟨candidate, inRest, candidateHolds⟩ later

namespace Wins

variable {names : List String} {values : Cleaned} {name : String} {value : FormValue}

theorem exists_key (wins : Wins names values name value) :
    ∃ key, Resolves names key name ∧ values.get? key = some value := by
  cases wins with
  | exact member given => exact ⟨name, .inl ⟨member, rfl⟩, given⟩
  | folded absent folds greatest given => exact ⟨_, .inr folds, given⟩

end Wins

theorem exists_wins_iff {names : List String} {values : Cleaned} {name : String} :
    (∃ value, Wins names values name value) ↔ ∃ key ∈ values.keys, Resolves names key name := by
  constructor
  · rintro ⟨value, wins⟩
    obtain ⟨key, resolves, given⟩ := wins.exists_key
    exact ⟨key, Entries.mem_keys_of_get? given, resolves⟩
  · rintro ⟨key, inKeys, resolves⟩
    by_cases own : name ∈ values.keys
    · obtain ⟨value, given⟩ := Entries.exists_get?_of_mem_keys own
      exact ⟨value, .exact resolves.member given⟩
    · rcases resolves with ⟨_, rfl⟩ | folds
      · exact absurd inKeys own
      · obtain ⟨greatest, greatestIn, greatestFolds, above⟩ :=
          exists_greatest (p := fun key => FoldsTo names key name) inKeys folds
        obtain ⟨value, given⟩ := Entries.exists_get?_of_mem_keys greatestIn
        exact ⟨value, .folded own greatestFolds above given⟩

theorem wins_iff_get? {names : List String} {values : Cleaned} {name : String} {value : FormValue}
    (inside : ∀ key ∈ values.keys, key ∈ names) :
    Wins names values name value ↔ values.get? name = some value := by
  constructor
  · intro wins
    cases wins with
    | exact member given => exact given
    | folded absent folds greatest given =>
      exact absurd (inside _ (Entries.mem_keys_of_get? given)) folds.not_mem
  · intro given
    exact .exact (inside name (Entries.mem_keys_of_get? given)) given

/-- `key` goes to the member `name`, and another key goes before it. -/
def Loses (names : List String) (values : Cleaned) (key name : String) : Prop :=
  FoldsTo names key name ∧
    (name ∈ values.keys ∨ ∃ other ∈ values.keys, FoldsTo names other name ∧ key < other)

theorem Loses.not_greatest {names : List String} {values : Cleaned} {key name : String}
    (loses : Loses names values key name) (absent : name ∉ values.keys) :
    ∃ other ∈ values.keys, FoldsTo names other name ∧ key < other :=
  loses.2.resolve_left absent

/-- A value that does not go to a member, or loses to another one, makes no difference to it. -/
theorem wins_insert_iff {names : List String} {values : Cleaned} {key name : String}
    (idle : ¬ Resolves names key name ∨ Loses names values key name) (value other : FormValue) :
    Wins names (values.insert key value) name other ↔ Wins names values name other := by
  have notOwn : name ∈ names → key ≠ name := by
    rintro member rfl
    rcases idle with unresolved | loses
    · exact unresolved (.inl ⟨member, rfl⟩)
    · exact loses.1.not_mem member
  constructor
  · intro wins
    cases wins with
    | exact member given =>
      rw [Entries.get?_insert, if_neg (notOwn member)] at given
      exact .exact member given
    | @folded winner _ absent folds greatest given =>
      have absentBefore : name ∉ values.keys := fun own =>
        absent (Entries.mem_keys_insert.2 (.inr own))
      have differs : key ≠ winner := by
        rintro rfl
        obtain ⟨above, inKeys, aboveFolds, less⟩ :=
          (idle.resolve_left (fun unresolved => unresolved (.inr folds))).not_greatest absentBefore
        exact greatest above (Entries.mem_keys_insert.2 (.inr inKeys)) aboveFolds less
      rw [Entries.get?_insert, if_neg differs] at given
      exact .folded absentBefore folds
        (fun candidate inKeys => greatest candidate (Entries.mem_keys_insert.2 (.inr inKeys))) given
  · intro wins
    cases wins with
    | exact member given =>
      exact .exact member (by rw [Entries.get?_insert, if_neg (notOwn member)]; exact given)
    | @folded winner _ absent folds greatest given =>
      have beaten : FoldsTo names key name → key < winner := by
        intro keyFolds
        obtain ⟨above, inKeys, aboveFolds, less⟩ := (idle.resolve_left
          (fun unresolved => unresolved (.inr keyFolds))).not_greatest absent
        exact Std.lt_of_lt_of_le less (greatest above inKeys aboveFolds)
      have differs : key ≠ winner := fun same =>
        String.lt_irrefl winner (same ▸ beaten (same ▸ folds))
      refine .folded (fun own => ?_) folds (fun candidate inKeys candidateFolds => ?_) (by
        rw [Entries.get?_insert, if_neg differs]; exact given)
      · exact (Entries.mem_keys_insert.1 own).elim (notOwn folds.member) absent
      · rcases Entries.mem_keys_insert.1 inKeys with rfl | before
        · exact Std.le_of_lt (beaten candidateFolds)
        · exact greatest candidate before candidateFolds

end FormIntake
