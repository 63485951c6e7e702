import HouseStyle.Fault

/-!
Contract: answers that may be faults.

Owns: taking apart an answer that is made of several, one after the other.
Does not own: which operation fails, and why.
-/

namespace HouseStyle.Answer

variable {α β : Type}

/-- An answer in two steps is given when both steps give theirs. -/
theorem bind_eq_ok {ε : Type} {first : Except ε α} {second : α → Except ε β} {answer : β} :
    (first >>= second) = .ok answer ↔ ∃ between, first = .ok between ∧ second between = .ok answer := by
  cases first with
  | error fault => exact ⟨nofun, nofun⟩
  | ok between =>
    constructor
    · intro given
      exact ⟨between, rfl, given⟩
    · rintro ⟨_, same, given⟩
      cases same
      exact given

@[simp] theorem ok_bind (value : α) (second : α → Except Fault β) :
    ((Except.ok value : Except Fault α) >>= second) = second value :=
  rfl

@[simp] theorem error_bind (fault : Fault) (second : α → Except Fault β) :
    ((Except.error fault : Except Fault α) >>= second) = .error fault :=
  rfl

@[simp] theorem pure_eq_ok (value : α) : (pure value : Except Fault α) = .ok value :=
  rfl

@[simp] theorem map_ok (convert : α → β) (value : α) :
    (Except.ok value : Except Fault α).map convert = .ok (convert value) :=
  rfl

theorem map_bind {γ : Type} (convert : β → γ) (first : Except Fault α)
    (second : α → Except Fault β) :
    (first >>= second).map convert = first >>= fun between => (second between).map convert := by
  cases first <;> rfl

theorem bind_map {γ : Type} (convert : α → β) (first : Except Fault α)
    (second : β → Except Fault γ) :
    (first.map convert >>= second) = first >>= fun between => second (convert between) := by
  cases first <;> rfl

/-- Two answers in two steps are converted to the same if the first steps are, and the second steps
for what is converted to the same. -/
theorem map_bind_congr {γ δ : Type} {convert : α → γ} {convertAfter : β → δ}
    {first other : Except Fault α} {second otherSecond : α → Except Fault β}
    (same : first.map convert = other.map convert)
    (sameLater : ∀ value otherValue, first = .ok value → other = .ok otherValue →
      convert value = convert otherValue →
        (second value).map convertAfter = (otherSecond otherValue).map convertAfter) :
    (first >>= second).map convertAfter = (other >>= otherSecond).map convertAfter := by
  cases first with
  | error fault =>
    cases other with
    | error otherFault =>
      cases same
      rfl
    | ok => cases same
  | ok value =>
    cases other with
    | error => cases same
    | ok otherValue => exact sameLater value otherValue rfl rfl (Except.ok.inj same)

/-- Converting every answer of a list is converting the list of answers. -/
theorem mapM_map {γ : Type} (convert : β → γ) (answer : α → Except Fault β) (questions : List α) :
    (questions.mapM fun question => (answer question).map convert) =
      (questions.mapM answer).map (List.map convert) := by
  induction questions with
  | nil => rfl
  | cons question questions inductionHypothesis =>
    simp only [List.mapM_cons, inductionHypothesis, bind_map, map_bind]
    rfl

/-- Answers to all questions, each of them with what is known about it. -/
theorem mapM_answers {Fits : α → β → Prop} {answer : α → Except Fault β} {questions : List α}
    (answers : ∀ question ∈ questions, ∃ value, answer question = .ok value ∧ Fits question value) :
    ∃ values, questions.mapM answer = .ok values ∧
      ∀ value ∈ values, ∃ question ∈ questions, Fits question value := by
  induction questions with
  | nil => exact ⟨[], rfl, by simp⟩
  | cons question questions inductionHypothesis =>
    obtain ⟨⟨value, given, fits⟩, others⟩ := List.forall_mem_cons.mp answers
    obtain ⟨values, rest, fit⟩ := inductionHypothesis others
    refine ⟨value :: values, by rw [List.mapM_cons, given, rest]; rfl, ?_⟩
    intro other member
    rcases List.mem_cons.mp member with rfl | later
    · exact ⟨question, List.mem_cons_self, fits⟩
    · obtain ⟨asked, among, fits⟩ := fit other later
      exact ⟨asked, List.mem_cons_of_mem _ among, fits⟩

/-- Every value of a list of answers answers one of the questions. -/
theorem exists_of_mem_mapM {answer : α → Except Fault β} {questions : List α} {values : List β}
    (given : questions.mapM answer = .ok values) :
    ∀ value ∈ values, ∃ question ∈ questions, answer question = .ok value := by
  induction questions generalizing values with
  | nil =>
    cases given
    exact fun value member => absurd member List.not_mem_nil
  | cons question questions inductionHypothesis =>
    rw [List.mapM_cons] at given
    obtain ⟨first, answered, given⟩ := bind_eq_ok.mp given
    obtain ⟨others, rest, given⟩ := bind_eq_ok.mp given
    cases given
    intro value member
    rcases List.mem_cons.mp member with rfl | later
    · exact ⟨question, List.mem_cons_self, answered⟩
    · obtain ⟨asked, among, same⟩ := inductionHypothesis rest value later
      exact ⟨asked, List.mem_cons_of_mem _ among, same⟩

/-- Every question of a list is answered by one of the values. -/
theorem exists_mem_of_mapM {answer : α → Except Fault β} {questions : List α} {values : List β}
    (given : questions.mapM answer = .ok values) :
    ∀ question ∈ questions, ∃ value ∈ values, answer question = .ok value := by
  induction questions generalizing values with
  | nil => exact fun question member => absurd member List.not_mem_nil
  | cons question questions inductionHypothesis =>
    rw [List.mapM_cons] at given
    obtain ⟨first, answered, given⟩ := bind_eq_ok.mp given
    obtain ⟨others, rest, given⟩ := bind_eq_ok.mp given
    cases given
    intro other member
    rcases List.mem_cons.mp member with rfl | later
    · exact ⟨first, List.mem_cons_self, answered⟩
    · obtain ⟨value, among, same⟩ := inductionHypothesis rest other later
      exact ⟨value, List.mem_cons_of_mem _ among, same⟩

/-- The first fault is the answer. -/
theorem mapM_eq_error {answer : α → Except Fault β} {before after : List α} {question : α}
    {fault : Fault} (passed : ∀ other ∈ before, ∃ value, answer other = .ok value)
    (fails : answer question = .error fault) :
    (before ++ question :: after).mapM answer = .error fault := by
  induction before with
  | nil =>
    rw [List.nil_append, List.mapM_cons, fails]
    rfl
  | cons other before inductionHypothesis =>
    obtain ⟨⟨value, given⟩, others⟩ := List.forall_mem_cons.mp passed
    rw [List.cons_append, List.mapM_cons, given, inductionHypothesis others]
    rfl

theorem mapM_congr {answer other : α → Except Fault β} {questions : List α}
    (same : ∀ question ∈ questions, answer question = other question) :
    questions.mapM answer = questions.mapM other := by
  induction questions with
  | nil => rfl
  | cons question questions inductionHypothesis =>
    obtain ⟨first, others⟩ := List.forall_mem_cons.mp same
    simp only [List.mapM_cons, first, inductionHypothesis others]

end HouseStyle.Answer
