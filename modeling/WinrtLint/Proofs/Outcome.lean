import Mathlib.Algebra.Order.Ring.Nat
import Mathlib.Data.List.Forall2

/-!
# Steps that may fail

Reading is a chain of steps each of which gives a value or a fault.  A chain
succeeds exactly when each of its steps does, and a step taken over consecutive
numbers gives, in order, what it gives for each of them.
-/

namespace WinrtLint.Outcome

variable {Fault Value Other View : Type}

/-- A chain of two steps gives a value where both do. -/
theorem bind_eq_ok
    {first : Except Fault Value}
    {second : Value → Except Fault Other}
    {result : Other} :
    (first >>= second) = .ok result ↔
      ∃ value, first = .ok value ∧ second value = .ok result := by
  cases first with
  | error fault => simp [bind, Except.bind]
  | ok value => simp [bind, Except.bind]

@[simp]
theorem ok_bind (value : Value) (second : Value → Except Fault Other) :
    (Except.ok value >>= second) = second value :=
  rfl

@[simp]
theorem error_bind (fault : Fault) (second : Value → Except Fault Other) :
    (Except.error fault >>= second) = .error fault :=
  rfl

theorem pure_eq_ok {value result : Value} :
    (pure value : Except Fault Value) = .ok result ↔ value = result :=
  Except.ok.injEq value result ▸ Iff.rfl

@[simp]
theorem throw_ne_ok {fault : Fault} {result : Value} :
    (throw fault : Except Fault Value) ≠ .ok result := by
  simp [throw, throwThe, MonadExceptOf.throw]

/-- What stands behind a check is reached where the check does not fail. -/
theorem check_eq_ok
    {failed : Prop}
    [Decidable failed]
    {fault : Fault}
    {after : Other → Except Fault Value}
    {rest : Except Fault Value}
    {result : Value} :
    (if failed then throw fault >>= after else rest) = .ok result ↔
      ¬ failed ∧ rest = .ok result := by
  by_cases outcome : failed
  · simp [outcome, throw, throwThe, MonadExceptOf.throw]
  · simp [outcome]

/-- Looking at the results of a step one by one is looking at all of them afterwards. -/
theorem mapM_map
    (step : Value → Except Fault Other)
    (view : Other → View)
    (values : List Value) :
    values.mapM (fun value => (step value).map view) =
      (values.mapM step).map (List.map view) := by
  induction values with
  | nil => rfl
  | cons value rest induction =>
      rw [List.mapM_cons, List.mapM_cons, induction]
      cases step value with
      | error fault => rfl
      | ok head => cases rest.mapM step <;> rfl

/-- Steps that agree on the values of a list do the same over it. -/
theorem mapM_congr
    {step other : Value → Except Fault Other}
    {values : List Value}
    (same : ∀ value ∈ values, step value = other value) :
    values.mapM step = values.mapM other := by
  induction values with
  | nil => rfl
  | cons value rest induction =>
      rw [List.forall_mem_cons] at same
      rw [List.mapM_cons, List.mapM_cons, same.1, induction same.2]

/-- Steps over a list give, in order, the result of each of them. -/
theorem mapM_eq_ok_iff
    {step : Value → Except Fault Other}
    {values : List Value}
    {results : List Other} :
    values.mapM step = .ok results ↔
      List.Forall₂ (fun value result => step value = .ok result) values results := by
  induction values generalizing results with
  | nil =>
      rw [List.mapM_nil, pure_eq_ok, List.forall₂_nil_left_iff]
      exact eq_comm
  | cons value rest induction =>
      simp only [List.mapM_cons, bind_eq_ok, pure_eq_ok, induction]
      constructor
      · rintro ⟨first, done, others, paired, rfl⟩
        exact .cons done paired
      · rintro (_ | ⟨done, paired⟩)
        exact ⟨_, done, _, paired, rfl⟩

/-- Steps none of which fails have a list of results. -/
theorem exists_mapM
    {step : Value → Except Fault Other}
    {values : List Value}
    (each : ∀ value ∈ values, ∃ result, step value = .ok result) :
    ∃ results, values.mapM step = .ok results := by
  induction values with
  | nil => exact ⟨[], rfl⟩
  | cons value rest induction =>
      rw [List.forall_mem_cons] at each
      rcases each with ⟨⟨first, done⟩, others⟩
      rcases induction others with ⟨results, all⟩
      exact ⟨first :: results, mapM_eq_ok_iff.2 (.cons done (mapM_eq_ok_iff.1 all))⟩

/-- A step over a list gives a result for each of its values. -/
theorem exists_mem_of_mapM
    {step : Value → Except Fault Other}
    {values : List Value}
    {results : List Other}
    (done : values.mapM step = .ok results)
    {value : Value}
    (member : value ∈ values) :
    ∃ result ∈ results, step value = .ok result := by
  have paired := mapM_eq_ok_iff.1 done
  clear done
  induction paired with
  | nil => cases member
  | cons pair _ induction =>
      rcases List.mem_cons.1 member with rfl | later
      · exact ⟨_, List.mem_cons_self, pair⟩
      · rcases induction later with ⟨result, listed, given⟩
        exact ⟨result, List.mem_cons_of_mem _ listed, given⟩

/-- A step over a list fails for the first value for which it fails. -/
theorem mapM_eq_error_iff
    {step : Value → Except Fault Other}
    {values : List Value}
    {fault : Fault} :
    values.mapM step = .error fault ↔ ∃ before value after,
      values = before ++ value :: after ∧
      (∀ earlier ∈ before, ∃ result, step earlier = .ok result) ∧
      step value = .error fault := by
  induction values with
  | nil => simp [pure, Except.pure]
  | cons first rest induction =>
      rw [List.mapM_cons]
      constructor
      · intro failed
        cases outcome : step first with
        | error other =>
            rw [outcome] at failed
            cases failed
            exact ⟨[], first, rest, rfl, by simp, outcome⟩
        | ok result =>
            cases others : rest.mapM step with
            | error other =>
                rw [outcome, others] at failed
                cases failed
                rcases induction.1 others with ⟨before, value, after, rfl, done, refused⟩
                exact ⟨first :: before, value, after, rfl,
                  List.forall_mem_cons.2 ⟨⟨result, outcome⟩, done⟩, refused⟩
            | ok results =>
                rw [outcome, others] at failed
                cases failed
      · rintro ⟨before, value, after, split, done, refused⟩
        cases before with
        | nil =>
            cases split
            rw [refused]
            rfl
        | cons earlier before =>
            cases split
            rcases List.forall_mem_cons.1 done with ⟨⟨result, given⟩, done⟩
            rw [given, induction.2 ⟨before, value, after, rfl, done, refused⟩]
            rfl

/-- Where a step over a list fails, it fails so for one of its values. -/
theorem exists_mem_of_mapM_error
    {step : Value → Except Fault Other}
    {values : List Value}
    {fault : Fault}
    (failed : values.mapM step = .error fault) :
    ∃ value ∈ values, step value = .error fault := by
  rcases mapM_eq_error_iff.1 failed with ⟨before, value, after, rfl, -, refused⟩
  exact ⟨value, by simp, refused⟩

/-- The results of a step over a list are those that it gives for one of its values. -/
theorem mem_results_iff
    {step : Value → Except Fault Other}
    {values : List Value}
    {results : List Other}
    (done : values.mapM step = .ok results)
    {result : Other} :
    result ∈ results ↔ ∃ value ∈ values, step value = .ok result := by
  have paired := mapM_eq_ok_iff.1 done
  clear done
  induction paired with
  | nil => simp
  | cons pair _ induction =>
      rw [List.mem_cons, List.exists_mem_cons_iff, pair, Except.ok.injEq]
      exact or_congr eq_comm induction

/-- A step over consecutive numbers gives what belongs to the items of these numbers. -/
theorem mapM_range'
    {Item : Type}
    {belongs : Item → Other → Prop}
    {step : Nat → Except Fault Other}
    {items : List Item}
    {start : Nat}
    (each : ∀ {index : Nat} {item : Item}, items[index]? = some item →
      ∃ result, step (start + index) = .ok result ∧ belongs item result) :
    ∃ results, (List.range' start items.length).mapM step = .ok results ∧
      List.Forall₂ belongs items results := by
  induction items generalizing start with
  | nil => exact ⟨[], rfl, .nil⟩
  | cons item rest induction =>
      rcases each (List.getElem?_cons_zero ..) with ⟨first, firstStep, firstBelongs⟩
      have others : ∀ {index : Nat} {other : Item}, rest[index]? = some other →
          ∃ result, step (start + 1 + index) = .ok result ∧ belongs other result := by
        intro index other found
        rw [Nat.add_assoc, Nat.add_comm 1 index]
        exact each (List.getElem?_cons_succ.trans found)
      rcases induction others with ⟨results, steps, belong⟩
      refine ⟨first :: results, ?_, .cons firstBelongs belong⟩
      rw [List.length_cons, List.range'_succ, List.mapM_cons, steps]
      rw [Nat.add_zero] at firstStep
      rw [firstStep]
      rfl

end WinrtLint.Outcome
