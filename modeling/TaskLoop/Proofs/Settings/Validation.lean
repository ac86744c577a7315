import TaskLoop.Settings.Basic

/-!
What settings keep that are accepted. Every check of theirs has passed, so the bounds between which
a budget of attempts is put do not cross: every budget lies between them, and under a cap that is
admitted it leaves at least one attempt and no more than the cap.
-/

set_option autoImplicit false

namespace TaskLoop

/-! ### Bounds on attempts -/

namespace RetryPolicy

variable {policy : RetryPolicy} {category : Category} {cap : Nat}

/-- Bounds that leave room for a budget. -/
structure Sound (policy : RetryPolicy) : Prop where
  least : 1 ≤ policy.minRetries
  ordered : policy.minRetries ≤ policy.maxRetries
  most : policy.maxRetries ≤ policy.ceiling
  ceiling : policy.ceiling ≤ attemptCeiling

/-- That the ceiling is not nought, which is checked too, follows from the others. -/
theorem isValid_eq_true : policy.isValid = true ↔ policy.Sound := by
  simp only [isValid, Bool.and_eq_true, bne_iff_ne, ne_eq, decide_eq_true_eq]
  constructor
  · rintro ⟨⟨⟨⟨least, ordered⟩, most⟩, -⟩, ceiling⟩
    exact ⟨Nat.one_le_iff_ne_zero.mpr least, ordered, most, ceiling⟩
  · rintro ⟨least, ordered, most, ceiling⟩
    have positive : 1 ≤ policy.ceiling := Nat.le_trans (Nat.le_trans least ordered) most
    exact ⟨⟨⟨⟨Nat.one_le_iff_ne_zero.mp least, ordered⟩, most⟩, positive⟩, ceiling⟩

theorem validate_eq_ok : policy.validate = .ok () ↔ policy.Sound := by
  rw [← isValid_eq_true, validate]
  split
  · next valid => exact iff_of_true rfl valid
  · next refused => exact iff_of_false nofun refused

theorem checkCap_eq_ok : policy.checkCap cap = .ok () ↔ 1 ≤ cap ∧ cap ≤ policy.limit := by
  simp only [checkCap, Bool.or_eq_true, beq_iff_eq, decide_eq_true_eq]
  split
  · next refused => exact iff_of_false nofun (by omega)
  · next admitted => exact iff_of_true rfl (by omega)

/-- A cap that is admitted admits an attempt. -/
theorem pos_of_checkCap (checked : policy.checkCap cap = .ok ()) : 1 ≤ cap :=
  (checkCap_eq_ok.mp checked).1

theorem budgetCapped_le (policy : RetryPolicy) (category : Category) (cap : Nat) :
    policy.budgetCapped category cap ≤ max cap 1 := Nat.min_le_right _ _

theorem budgetCapped_le_cap (checked : policy.checkCap cap = .ok ()) :
    policy.budgetCapped category cap ≤ cap := by
  have bounded := policy.budgetCapped_le category cap
  rwa [Nat.max_eq_left (pos_of_checkCap checked)] at bounded

namespace Sound

variable (sound : policy.Sound)

include sound

theorem limit_eq : policy.limit = policy.maxRetries := Nat.min_eq_left sound.most

/-- The bounds between which a budget is put do not cross. -/
theorem minRetries_le_limit : policy.minRetries ≤ policy.limit := by
  rw [sound.limit_eq]
  exact sound.ordered

theorem checkCap_eq_ok : policy.checkCap cap = .ok () ↔ 1 ≤ cap ∧ cap ≤ policy.maxRetries := by
  rw [RetryPolicy.checkCap_eq_ok, sound.limit_eq]

theorem checkCap_maxRetries : policy.checkCap policy.maxRetries = .ok () :=
  sound.checkCap_eq_ok.mpr ⟨Nat.le_trans sound.least sound.ordered, Nat.le_refl _⟩

/-- Unless the kind of failure counts every budget is the most the bounds allow. -/
theorem budgetFor_of_not_adaptive (steady : policy.adaptive = false) :
    policy.budgetFor category = policy.maxRetries := by
  rw [budgetFor, steady, if_neg Bool.false_ne_true, sound.limit_eq]

theorem minRetries_le_budgetFor : policy.minRetries ≤ policy.budgetFor category := by
  rw [budgetFor]
  split
  · exact Nat.le_max_left _ _
  · exact sound.minRetries_le_limit

theorem budgetFor_le_maxRetries : policy.budgetFor category ≤ policy.maxRetries := by
  rw [budgetFor, ← sound.limit_eq]
  split
  · exact Nat.max_le.mpr ⟨sound.minRetries_le_limit, Nat.min_le_right _ _⟩
  · exact Nat.le_refl _

/-- A budget under a cap leaves an attempt. -/
theorem one_le_budgetCapped : 1 ≤ policy.budgetCapped category cap :=
  Nat.le_min.mpr ⟨Nat.le_trans sound.least sound.minRetries_le_budgetFor, Nat.le_max_right _ _⟩

end Sound

/-- Under bounds that were validated every cap up to the most retries is admitted. -/
theorem checkCap_of_le (valid : policy.isValid = true) (least : 1 ≤ cap)
    (most : cap ≤ policy.maxRetries) : policy.checkCap cap = .ok () :=
  (isValid_eq_true.mp valid).checkCap_eq_ok.mpr ⟨least, most⟩

end RetryPolicy

/-! ### Settings -/

namespace Settings

variable {settings : Settings} {warnings : List SettingsWarning}

/-- What a run needs to start: iterations to make, bounds that leave room for attempts, a threshold
that is a share, and nothing of nought that must not be. -/
structure Accepted (settings : Settings) : Prop where
  iterations : settings.engine.maxIterations ≠ 0
  policy : settings.retryPolicy.Sound
  threshold : ErrorIndex.thresholdIsValid settings.similarity.threshold = true
  positive : ∀ entry ∈ settings.positiveKeys, entry.2 ≠ 0

/-- Settings are accepted just when they keep all of this, and then their warnings are told. -/
theorem validate_eq_ok : settings.validate = .ok warnings ↔
    settings.Accepted ∧ warnings = settings.warnings := by
  simp only [validate, bind, Except.bind]
  by_cases iterations : settings.engine.maxIterations = 0
  case pos =>
    rw [if_pos (beq_iff_eq.mpr iterations)]
    exact iff_of_false nofun fun accepted => accepted.1.iterations iterations
  rw [if_neg (mt beq_iff_eq.mp iterations)]
  cases policy : settings.retryPolicy.validate with
  | error e =>
    refine iff_of_false nofun fun accepted => ?_
    exact nomatch policy.symm.trans (RetryPolicy.validate_eq_ok.mpr accepted.1.policy)
  | ok _ =>
  by_cases threshold : ErrorIndex.thresholdIsValid settings.similarity.threshold = true
  case neg =>
    rw [Bool.not_eq_true] at threshold
    simp only [threshold]
    exact iff_of_false nofun fun accepted =>
      Bool.false_ne_true (threshold.symm.trans accepted.1.threshold)
  simp only [threshold]
  cases found : settings.positiveKeys.find? fun entry => entry.2 == 0 with
  | some entry =>
    have nought : (entry.2 == 0) = true := by simpa using List.find?_some found
    exact iff_of_false nofun fun accepted =>
      accepted.1.positive entry (List.mem_of_find?_eq_some found) (beq_iff_eq.mp nought)
  | none =>
    have positive : ∀ entry ∈ settings.positiveKeys, entry.2 ≠ 0 := by
      intro entry member
      exact ne_of_beq_false (Bool.eq_false_iff.mpr (List.find?_eq_none.mp found entry member))
    constructor
    · rintro ⟨⟩
      exact ⟨⟨iterations, RetryPolicy.validate_eq_ok.mp policy, threshold, positive⟩, rfl⟩
    · rintro ⟨-, rfl⟩
      rfl

/-- Settings that are accepted have valid bounds on attempts. -/
theorem retryPolicy_isValid (validated : settings.validate = .ok warnings) :
    settings.retryPolicy.isValid = true :=
  RetryPolicy.isValid_eq_true.mpr (validate_eq_ok.mp validated).1.policy

end Settings

end TaskLoop
