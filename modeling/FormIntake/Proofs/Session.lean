import FormIntake.Proofs.Decoder.Verdict
import FormIntake.Proofs.Record.Filling
import FormIntake.Session

namespace FormIntake.Call

/-- The keys of the specs of a call, or of the values that are there already. -/
def keys : Call → List String
  | decode _ _ specs => specs.map (·.key)
  | transfer values _ => values.keys

theorem ordered_of_values? {call : Call} {values : Cleaned} (found : call.values? = .ok values) :
    values.Ordered := by
  cases call with
  | decode d source specs => exact Decoder.ordered_of_cleanFields found
  | transfer given ordered => cases found; exact ordered

theorem mem_keys_of_values? {call : Call} {values : Cleaned} (found : call.values? = .ok values)
    {key : String} : key ∈ values.keys ↔ key ∈ call.keys := by
  cases call with
  | decode d source specs => exact Decoder.mem_keys_of_cleanFields found
  | transfer given ordered => cases found; exact Iff.rfl

section

variable {τ : Type} [Fillable τ] {call : Call} {target : τ}

theorem on_perform_of_ok {values : Cleaned} (found : call.values? = .ok values) :
    call.perform.on target = (FormIntake.transfer values).on target := by
  cases call with
  | transfer given ordered => cases found; rfl
  | decode d source specs =>
    have cleaned : d.cleanFields source specs = .ok values := found
    rw [perform, Decoder.on_decode, cleaned]

theorem on_perform_of_error {errors : ValidationErrors} (found : call.values? = .error errors) :
    call.perform.on target = (.error (.validation errors), target) := by
  cases call with
  | transfer given ordered => cases found
  | decode d source specs =>
    have refused : d.cleanFields source specs = .error errors := found
    rw [perform, Decoder.on_decode, refused]

theorem after_of_error {fault : FormError} (failed : (call.perform.on target).1 = .error fault) :
    ((∃ errors, fault = .validation errors) ∨ ∃ found, fault = .transfer found) ∧
      call.after target = target := by
  unfold after
  cases found : call.values? with
  | error errors =>
    rw [on_perform_of_error found] at failed ⊢
    cases failed
    exact ⟨.inl ⟨errors, rfl⟩, rfl⟩
  | ok values =>
    rw [on_perform_of_ok found] at failed ⊢
    obtain ⟨inTransfer, same⟩ := on_transfer_of_error failed
    exact ⟨.inr inTransfer, same⟩

end

/-- The call succeeds, and some key of it goes to the member `name`. -/
def Touches (call : Call) (target : Target) (names : List String) (name : String) : Prop :=
  (call.perform.on target).1 = .ok () ∧ ∃ key ∈ call.keys, Resolves names key name

/-- The call touches the member `name`, and of its values, one for each of its keys, the winning one
reads as `m`. -/
def Writes (call : Call) (target : Target) (names : List String) (name : String) (m : Member) :
    Prop :=
  call.Touches target names name ∧ ∃ values, call.values? = .ok values ∧
    ∃ value, Wins names values name value ∧ m.type.read value.toJson = .ok m.value

def Untouched (calls : List Call) (target : Target) (names : List String) (name : String) : Prop :=
  ∀ before call after, calls = before ++ call :: after →
    ¬ call.Touches (afterAll before target) names name

/-- The member `name` held `m` before the calls and holds `n` after them: nothing has touched it,
or `n` is what the last call wrote that did. -/
def Leaves (calls : List Call) (target : Target) (names : List String) (name : String)
    (m n : Member) : Prop :=
  n.type = m.type ∧ ((Untouched calls target names name ∧ n = m) ∨
    ∃ before call after, calls = before ++ call :: after ∧
      call.Writes (afterAll before target) names name n ∧
      Untouched after (call.after (afterAll before target)) names name)

section

variable {call : Call} {rest : List Call} {target : Target} {names : List String} {name : String}
  {m between n : Member}

theorem untouched_nil : Untouched [] target names name := by
  intro before call after split
  simp at split

theorem untouched_cons (first : ¬ call.Touches target names name)
    (later : Untouched rest (call.after target) names name) :
    Untouched (call :: rest) target names name := by
  intro before other after split
  cases before with
  | nil => cases split; exact first
  | cons head before => cases split; exact later before other after rfl

theorem Leaves.cons (sameType : between.type = m.type)
    (first : (¬ call.Touches target names name ∧ between = m) ∨
      call.Writes target names name between)
    (later : Leaves rest (call.after target) names name between n) :
    Leaves (call :: rest) target names name m n := by
  refine ⟨later.1.trans sameType, ?_⟩
  rcases later.2 with ⟨untouched, rfl⟩ | ⟨before, other, after, rfl, writes, untouched⟩
  · rcases first with ⟨idle, rfl⟩ | writes
    · exact .inl ⟨untouched_cons idle untouched, rfl⟩
    · exact .inr ⟨[], call, rest, rfl, writes, untouched⟩
  · exact .inr ⟨call :: before, other, after, rfl, writes, untouched⟩

end

section

variable {call : Call} {r : Record}

theorem filledBy_of_done (ordered : r.Ordered) (lasts : r.Lasts)
    (done : (call.perform.on (Target.record r)).1 = .ok ()) :
    ∃ values filled, call.values? = .ok values ∧ call.after (Target.record r) = .record filled ∧
      r.FilledBy values filled := by
  cases found : call.values? with
  | error errors => rw [on_perform_of_error found] at done; cases done
  | ok values =>
    have performed : call.perform.on (Target.record r) =
        (FormIntake.transfer values).on (.record r) := on_perform_of_ok found
    rw [performed] at done
    obtain ⟨filled, after, filledBy⟩ := Record.filledBy_of_on_transfer ordered
      (ordered_of_values? found) (lasts.keptLast values) done
    refine ⟨values, filled, rfl, ?_, filledBy⟩
    rw [Call.after, performed, after]

theorem touches_iff {target : Target} {names : List String} {values : Cleaned} {name : String}
    (done : (call.perform.on target).1 = .ok ()) (found : call.values? = .ok values) :
    call.Touches target names name ↔ ∃ value, Wins names values name value := by
  rw [exists_wins_iff]
  simp only [mem_keys_of_values? found]
  exact and_iff_right done

end

theorem step_record (call : Call) {r : Record} (ordered : r.Ordered) (lasts : r.Lasts) :
    ∃ next : Record, call.after (Target.record r) = .record next ∧ next.shape = r.shape ∧
      next.Lasts ∧ ∀ name m, r.get? name = some m → ∃ n, next.get? name = some n ∧
        n.type = m.type ∧ ((¬ call.Touches (.record r) r.keys name ∧ n = m) ∨
          call.Writes (.record r) r.keys name n) := by
  cases done : (call.perform.on (Target.record r)).1 with
  | error fault =>
    refine ⟨r, (after_of_error done).2, rfl, lasts, fun name m member => ?_⟩
    refine ⟨m, member, rfl, .inl ⟨?_, rfl⟩⟩
    rintro ⟨succeeds, _⟩
    rw [done] at succeeds
    cases succeeds
  | ok =>
    obtain ⟨values, next, found, after, filledBy⟩ := filledBy_of_done ordered lasts done
    refine ⟨next, after, filledBy.sameShape, filledBy.lasts, fun name m member => ?_⟩
    have touches : call.Touches (.record r) r.keys name ↔ ∃ value, Wins r.keys values name value :=
      touches_iff done found
    by_cases won : ∃ value, Wins r.keys values name value
    · obtain ⟨value, wins⟩ := won
      obtain ⟨n, here, sameType, reads⟩ := filledBy.written name m member value wins
      refine ⟨n, here, sameType, .inr ⟨touches.2 ⟨value, wins⟩, values, found, ?_⟩⟩
      exact ⟨value, wins, reads⟩
    · have idle : ∀ value, ¬ Wins r.keys values name value := not_exists.1 won
      refine ⟨m, filledBy.kept name m member idle, rfl, .inl ⟨?_, rfl⟩⟩
      rwa [touches]

theorem run_record (calls : List Call) {r : Record} (ordered : r.Ordered) (lasts : r.Lasts) :
    ∃ final : Record, afterAll calls (Target.record r) = .record final ∧ final.shape = r.shape ∧
      ∀ name m, r.get? name = some m → ∃ n, final.get? name = some n ∧
        Leaves calls (.record r) r.keys name m n := by
  induction calls generalizing r with
  | nil =>
    refine ⟨r, rfl, rfl, fun name m member => ?_⟩
    exact ⟨m, member, rfl, .inl ⟨untouched_nil, rfl⟩⟩
  | cons call rest ih =>
    obtain ⟨next, after, nextShape, nextLasts, step⟩ := step_record call ordered lasts
    have nextOrdered := Record.ordered_of_shape nextShape ordered
    obtain ⟨final, run, finalShape, later⟩ := ih nextOrdered nextLasts
    refine ⟨final, ?_, finalShape.trans nextShape, fun name m member => ?_⟩
    · rw [afterAll, List.foldl_cons, after]
      exact run
    · obtain ⟨between, here, sameType, first⟩ := step name m member
      obtain ⟨n, there, leaves⟩ := later name between here
      rw [Record.keys_of_shape nextShape, ← after] at leaves
      exact ⟨n, there, leaves.cons sameType first⟩

/-- In a session that starts with defaults or with members read from JSON, calls that fail do
nothing, and the others leave in each member what was last written to it. -/
theorem session_last_written (r : Record) (ordered : r.Ordered)
    (initial : ∀ entry ∈ r, entry.2.Initial) (calls : List Call) :
    (∀ before call after, calls = before ++ call :: after → ∀ fault,
      (call.perform.on (afterAll before (Target.record r))).1 = .error fault →
        ((∃ errors, fault = .validation errors) ∨ ∃ found, fault = .transfer found) ∧
        call.after (afterAll before (Target.record r)) = afterAll before (.record r)) ∧
    ∃ final : Record, afterAll calls (Target.record r) = .record final ∧ final.shape = r.shape ∧
      ∀ name m, r.get? name = some m → ∃ n, final.get? name = some n ∧
        Leaves calls (.record r) r.keys name m n := by
  constructor
  · intro before call after split fault failed
    exact after_of_error failed
  · exact run_record calls ordered fun entry member => (initial entry member).lasts

def blankPerson : Record :=
  [("age", .default (.plain (.int .u8))), ("name", .default (.plain .text))]

/-- The second call fails, since it has a text for the age. -/
def threeCalls : List Call :=
  [.decode .standard ([("age", " 7 "), ("name", "Kim")] : Entries String)
      [Decoder.plainSpec "age" .int, Decoder.plainSpec "name" .string],
    .transfer [("age", .text "eight"), ("name", .text "Eve")] (by decide),
    .transfer [("NAME", .text "Lea")] (by decide)]

theorem session_keeps_number :
    afterAll threeCalls (Target.record blankPerson) =
        .record [("age", ⟨.plain (.int .u8), ⟨7, by decide⟩⟩), ("name", ⟨.plain .text, "Lea"⟩)] ∧
      afterAll (threeCalls.take 2) (Target.record blankPerson) =
        afterAll (threeCalls.take 1) (.record blankPerson) ∧
      Leaves threeCalls (.record blankPerson) blankPerson.keys "age"
        (.default (.plain (.int .u8))) ⟨.plain (.int .u8), ⟨7, by decide⟩⟩ ∧
      Leaves threeCalls (.record blankPerson) blankPerson.keys "name"
        (.default (.plain .text)) ⟨.plain .text, "Lea"⟩ := by
  have initial : ∀ entry ∈ blankPerson, entry.2.Initial := by
    intro entry member
    simp only [blankPerson, List.mem_cons, List.not_mem_nil, or_false] at member
    rcases member with rfl | rfl <;> exact .inl rfl
  obtain ⟨fails, final, after, _, leaves⟩ :=
    session_last_written blankPerson (by decide) initial threeCalls
  have computed : afterAll threeCalls (Target.record blankPerson) = .record
      [("age", ⟨.plain (.int .u8), ⟨7, by decide⟩⟩), ("name", ⟨.plain .text, "Lea"⟩)] := rfl
  cases computed.symm.trans after
  have kept := (fails [_] _ [_] rfl _ rfl).2
  obtain ⟨age, here, lastAge⟩ := leaves "age" _ rfl
  obtain ⟨name, there, lastName⟩ := leaves "name" _ rfl
  cases here
  cases there
  exact ⟨computed, kept, lastAge, lastName⟩

end FormIntake.Call
